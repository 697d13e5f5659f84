import Ephemwork.Laptop.Bridge

/-!
# What a bridge carries

The traffic of both endpoints of a bridge, as their records have it: before each
iteration each side has accepted what came from the other, and nothing else.
-/

namespace Ephemwork

open Foundation

namespace Laptop

abbrev Recorded (state : Type) : Type :=
  state × Record

/-!
# One direction
-/

section

variable {source destination : Type}

theorem writeAllNonblocking_record {state : Type} (peer : Peer state)
    (spins : Nat) (s : Recorded state) (bytes : Bytes) :
    exists part rest, bytes = part ++ rest ∧
      (writeAllNonblocking peer.recorded.write spins s bytes).2.2 =
        { s.2 with accepted := s.2.accepted ++ part } ∧
      ((writeAllNonblocking peer.recorded.write spins s bytes).1 = .ok () ->
        rest = []) := by
  have hrecord : forall (s : Recorded state) bytes,
      (peer.recorded.write s bytes).2.2 =
        s.2.afterWrite (peer.recorded.write s bytes).1 := fun _ _ => rfl
  induction spins, s, bytes using
    writeAllNonblocking.induct peer.recorded.write with
  | case1 spins s =>
      refine ⟨[], [], rfl, ?_, fun _ => rfl⟩
      simp [writeAllNonblocking]
  | case2 spins s bytes hne next le hwrite =>
      have hnext := hrecord s bytes
      rw [hwrite] at hnext
      rw [writeAllNonblocking, if_neg hne, hwrite]
      refine ⟨[], bytes, rfl, ?_, ?_⟩
      · simpa [Record.afterWrite] using hnext
      · intro h
        cases h
  | case3 spins s bytes hne count le next hwrite hcount ih =>
      have hnext := hrecord s bytes
      rw [hwrite] at hnext
      rcases ih with ⟨part, rest, hrest, hrecorded, hend⟩
      rw [writeAllNonblocking, if_neg hne, hwrite]
      simp only [if_neg hcount]
      refine ⟨bytes.take count ++ part, rest, ?_, ?_, hend⟩
      · rw [List.append_assoc, ← hrest, List.take_append_drop]
      · rw [hrecorded, hnext]
        simp [Record.afterWrite]
  | case4 spins s bytes hne e next hwrite hkind hspins =>
      have hnext := hrecord s bytes
      rw [hwrite] at hnext
      rw [writeAllNonblocking, if_neg hne, hwrite]
      simp only [if_pos hkind, if_pos hspins]
      refine ⟨[], bytes, rfl, ?_, ?_⟩
      · simpa [Record.afterWrite] using hnext
      · intro h
        cases h
  | case5 spins s bytes hne e next hwrite hkind hspins ih =>
      have hnext := hrecord s bytes
      rw [hwrite] at hnext
      rw [writeAllNonblocking, if_neg hne, hwrite]
      simp only [if_pos hkind, if_neg hspins]
      rw [hnext] at ih
      exact ih
  | case6 spins s bytes hne e next hwrite hkind =>
      have hnext := hrecord s bytes
      rw [hwrite] at hnext
      rw [writeAllNonblocking, if_neg hne, hwrite]
      simp only [if_neg hkind]
      refine ⟨[], bytes, rfl, ?_, ?_⟩
      · simpa [Record.afterWrite] using hnext
      · intro h
        cases h

/-- The destination has accepted what the source has sent, the flag and the
counter say what the record says, and the source was left alone at its end. -/
structure Direction.Settled (d : Direction (Recorded source)
    (Recorded destination)) : Prop where
  accepted : d.destination.2.accepted = d.source.2.received
  done : d.done = d.source.2.ended
  moved : d.moved = UInt64.ofNat d.source.2.received.length
  endRespected : d.source.2.readPastEnd = false

/-- The destination has accepted no more than the source has sent. -/
structure Direction.Behind (d : Direction (Recorded source)
    (Recorded destination)) : Prop where
  accepted : d.destination.2.accepted <+: d.source.2.received
  endRespected : d.source.2.readPastEnd = false

structure Direction.Untouched (d d' : Direction (Recorded source)
    (Recorded destination)) : Prop where
  accepted : d'.source.2.accepted = d.source.2.accepted
  received : d'.destination.2.received = d.destination.2.received
  ended : d'.destination.2.ended = d.destination.2.ended
  readPastEnd : d'.destination.2.readPastEnd = d.destination.2.readPastEnd

theorem Direction.Settled.behind {d : Direction (Recorded source)
    (Recorded destination)} (h : d.Settled) : d.Behind where
  accepted := ⟨[], by rw [List.append_nil, h.accepted]⟩
  endRespected := h.endRespected

/-- A step of a direction, as the records have it: the source has sent some bytes,
and a beginning of them was passed on. -/
structure Direction.Passes (d d' : Direction (Recorded source) (Recorded destination))
    (bytes part rest : Bytes) : Prop where
  bytes_eq : bytes = part ++ rest
  source_eq : d'.source.2 = { d.source.2 with
    received := d.source.2.received ++ bytes
    ended := d'.source.2.ended }
  destination_eq : d'.destination.2 = { d.destination.2 with
    accepted := d.destination.2.accepted ++ part }

/-- A step that succeeds has passed on all the bytes and counted them. -/
structure Direction.PassesAll (d d' : Direction (Recorded source)
    (Recorded destination)) (bytes rest : Bytes) : Prop where
  rest_eq : rest = []
  done_eq : d'.done = d'.source.2.ended
  moved_eq : d'.moved = d.moved + UInt64.ofNat bytes.length

theorem relay_passes (reader : Peer source) (writer : Peer destination)
    {d : Direction (Recorded source) (Recorded destination)}
    (h : d.done = d.source.2.ended) :
    exists bytes part rest,
      d.Passes (relay reader.recorded writer.recorded d).2 bytes part rest ∧
      ((relay reader.recorded writer.recorded d).1 = .ok () ->
        d.PassesAll (relay reader.recorded writer.recorded d).2 bytes rest) := by
  have hnothing : forall record : Record, record.received ++ [] = record.received :=
    fun record => List.append_nil record.received
  have huncounted := (UInt64.add_zero d.moved).symm
  unfold relay
  by_cases hdone : d.done = true
  · rw [if_pos hdone]
    refine ⟨[], [], [], ⟨rfl, ?_, ?_⟩, fun _ => ⟨rfl, h, huncounted⟩⟩
    · rw [hnothing]
    · rw [List.append_nil]
  · have hopen : d.source.2.ended = false := by
      rw [← h]
      exact Bool.eq_false_iff.mpr hdone
    have hrecord : (reader.recorded.read d.source).2.2 =
        d.source.2.afterRead (reader.recorded.read d.source).1 := rfl
    rw [if_neg hdone]
    cases hresult : reader.recorded.read d.source with
    | mk result next =>
        rw [hresult] at hrecord
        cases result with
        | failed e =>
            have hnext : next.2 = d.source.2 :=
              hrecord.trans (Record.afterRead_failed hopen e)
            have hpasses : d.Passes { d with source := next } [] [] [] := by
              refine ⟨rfl, ?_, ?_⟩
              · simp only [hnext, List.append_nil]
              · simp only [List.append_nil]
            by_cases hkind : e.kind = .wouldBlock
            · simp only [if_pos hkind]
              refine ⟨[], [], [], hpasses, fun _ => ⟨rfl, ?_, huncounted⟩⟩
              simp only [hnext, h]
            · simp only [if_neg hkind]
              refine ⟨[], [], [], hpasses, ?_⟩
              intro hok
              cases hok
        | data bytes fits =>
            have hnext : next.2 = { d.source.2 with
                received := d.source.2.received ++ bytes
                ended := bytes.isEmpty } :=
              hrecord.trans (Record.afterRead_data hopen fits)
            by_cases hne : bytes = []
            · -- The end of the stream: nothing was received.
              subst hne
              simp only [if_true]
              refine ⟨[], [], [], ⟨rfl, ?_, ?_⟩, fun _ => ⟨rfl, ?_, huncounted⟩⟩
              · simp only [hnext]
              · simp only [List.append_nil]
              · simp only [hnext, List.isEmpty_nil]
            · simp only [if_neg hne, take_fill]
              rcases writeAllNonblocking_record writer 0 d.destination bytes with
                ⟨part, rest, hbytes, hwritten, hend⟩
              cases hout : writeAllNonblocking writer.recorded.write 0
                  d.destination bytes with
              | mk outcome after =>
                  rw [hout] at hwritten hend
                  have hsource : next.2 = { d.source.2 with
                      received := d.source.2.received ++ bytes
                      ended := next.2.ended } := by rw [hnext]
                  cases outcome with
                  | error e =>
                      refine ⟨bytes, part, rest, ⟨hbytes, hsource, hwritten⟩, ?_⟩
                      intro hok
                      cases hok
                  | ok _ =>
                      refine ⟨bytes, part, rest, ⟨hbytes, hsource, hwritten⟩, ?_⟩
                      intro _
                      refine ⟨hend rfl, ?_, rfl⟩
                      simp only [hnext, Bool.eq_false_iff.mpr hdone]
                      cases bytes with
                      | nil => exact absurd rfl hne
                      | cons b more => rfl

theorem Direction.Passes.untouched
    {d d' : Direction (Recorded source) (Recorded destination)}
    {bytes part rest : Bytes} (h : d.Passes d' bytes part rest) : d.Untouched d' where
  accepted := by rw [h.source_eq]
  received := by rw [h.destination_eq]
  ended := by rw [h.destination_eq]
  readPastEnd := by rw [h.destination_eq]

theorem relay_settled (reader : Peer source) (writer : Peer destination)
    {d : Direction (Recorded source) (Recorded destination)} (h : d.Settled) :
    d.Untouched (relay reader.recorded writer.recorded d).2 ∧
      (relay reader.recorded writer.recorded d).2.Behind ∧
      ((relay reader.recorded writer.recorded d).1 = .ok () ->
        (relay reader.recorded writer.recorded d).2.Settled) := by
  rcases relay_passes reader writer h.done with ⟨bytes, part, rest, hpasses, hall⟩
  refine ⟨hpasses.untouched, ⟨?_, ?_⟩, ?_⟩
  · rw [hpasses.source_eq, hpasses.destination_eq, hpasses.bytes_eq, h.accepted]
    exact ⟨rest, List.append_assoc _ part rest⟩
  · rw [hpasses.source_eq, h.endRespected]
  · intro hok
    have hpassed := hall hok
    have hpart : part = bytes := by
      rw [hpasses.bytes_eq, hpassed.rest_eq, List.append_nil]
    constructor
    · rw [hpasses.source_eq, hpasses.destination_eq, h.accepted, hpart]
    · exact hpassed.done_eq
    · rw [hpassed.moved_eq, hpasses.source_eq, List.length_append, UInt64.ofNat_add,
        h.moved]
    · rw [hpasses.source_eq, h.endRespected]

theorem Direction.Settled.of_untouched
    {d : Direction (Recorded source) (Recorded destination)} (h : d.Settled)
    {other other' : Direction (Recorded destination) (Recorded source)}
    (hsource : other.destination = d.source)
    (hdestination : other.source = d.destination)
    (huntouched : other.Untouched other')
    {d' : Direction (Recorded source) (Recorded destination)}
    (hsource' : d'.source = other'.destination)
    (hdestination' : d'.destination = other'.source)
    (hdone : d'.done = d.done) (hmoved : d'.moved = d.moved) : d'.Settled := by
  constructor
  · rw [hsource', hdestination', huntouched.accepted, huntouched.received,
      hsource, hdestination, h.accepted]
  · rw [hdone, hsource', huntouched.ended, hsource, h.done]
  · rw [hmoved, hsource', huntouched.received, hsource, h.moved]
  · rw [hsource', huntouched.readPastEnd, hsource, h.endRespected]

end

/-!
# Both directions
-/

section

variable {left right : Type}

abbrev RecordedBridge (left right : Type) : Type :=
  BridgeState (Recorded left) (Recorded right)

structure BridgeState.Settled (s : RecordedBridge left right) : Prop where
  forth : s.forth.Settled
  back : s.back.Settled

/-- Each side has accepted exactly what the other has sent. -/
structure BridgeState.Exact (s : RecordedBridge left right) : Prop where
  toB : s.b.2.accepted = s.a.2.received
  toA : s.a.2.accepted = s.b.2.received

/-- What each side has accepted is a beginning of what the other has sent. -/
structure BridgeState.Partial (s : RecordedBridge left right) : Prop where
  toB : s.b.2.accepted <+: s.a.2.received
  toA : s.a.2.accepted <+: s.b.2.received

/-- Neither side was read after it had reported the end of its stream. -/
structure BridgeState.EndsRespected (s : RecordedBridge left right) :
    Prop where
  a : s.a.2.readPastEnd = false
  b : s.b.2.readPastEnd = false

theorem BridgeState.Settled.exact {s : RecordedBridge left right}
    (h : s.Settled) : s.Exact ∧ s.EndsRespected :=
  ⟨⟨h.forth.accepted, h.back.accepted⟩,
    ⟨h.forth.endRespected, h.back.endRespected⟩⟩

theorem BridgeState.partial_of_behind {s : RecordedBridge left right}
    (hforth : s.forth.Behind) (hback : s.back.Behind) :
    s.Partial ∧ s.EndsRespected :=
  ⟨⟨hforth.accepted, hback.accepted⟩,
    ⟨hforth.endRespected, hback.endRespected⟩⟩

theorem BridgeState.settled_initial (a : left) (b : right) :
    BridgeState.Settled (.initial (a, Record.empty) (b, Record.empty)) where
  forth := ⟨rfl, rfl, rfl, rfl⟩
  back := ⟨rfl, rfl, rfl, rfl⟩

theorem bridgeBody_settled (peerA : Peer left) (peerB : Peer right)
    {s : RecordedBridge left right} (h : s.Settled) :
    ((bridgeBody peerA.recorded peerB.recorded s).2.Partial ∧
        (bridgeBody peerA.recorded peerB.recorded s).2.EndsRespected) ∧
      ((bridgeBody peerA.recorded peerB.recorded s).1 = .ok () ->
        (bridgeBody peerA.recorded peerB.recorded s).2.Settled) := by
  unfold bridgeBody
  have hforth := relay_settled peerA peerB h.forth
  cases hrelay : relay peerA.recorded peerB.recorded s.forth with
  | mk result d =>
      rw [hrelay] at hforth
      rcases hforth with ⟨huntouched, hbehind, hsettled⟩
      have hback : (s.withForth d).back.Settled :=
        h.back.of_untouched rfl rfl huntouched rfl rfl rfl rfl
      cases result with
      | error e =>
          have hpart : (s.withForth d).forth.Behind := hbehind
          refine ⟨BridgeState.partial_of_behind hpart hback.behind, ?_⟩
          intro hok
          cases hok
      | ok _ =>
          have hsettled' : (s.withForth d).forth.Settled := hsettled rfl
          have hboth := relay_settled peerB peerA hback
          cases hrelay' : relay peerB.recorded peerA.recorded
              (s.withForth d).back with
          | mk result' d' =>
              rw [hrelay'] at hboth
              rcases hboth with ⟨huntouched', hbehind', hsettledBack⟩
              have hkept : ((s.withForth d).withBack d').forth.Settled :=
                hsettled'.of_untouched rfl rfl huntouched' rfl rfl rfl rfl
              have hpart : ((s.withForth d).withBack d').back.Behind := hbehind'
              simp only [hrelay']
              cases result' with
              | error e =>
                  refine ⟨BridgeState.partial_of_behind hkept.behind hpart, ?_⟩
                  intro hok
                  cases hok
              | ok _ =>
                  exact ⟨BridgeState.partial_of_behind hkept.behind hpart,
                    fun _ => ⟨hkept, hsettledBack rfl⟩⟩

/-- The traffic is exact before every iteration and on success, where the
counters give its lengths, and partial on failure. -/
def Bridging.Faithful : Bridging (Recorded left) (Recorded right) -> Prop
  | .looping s => s.Exact ∧ s.EndsRespected
  | .returned (.ok (aToB, bToA)) s =>
      s.Exact ∧ s.EndsRespected ∧
        aToB = UInt64.ofNat s.a.2.received.length ∧
        bToA = UInt64.ofNat s.b.2.received.length
  | .returned (.error _) s => s.Partial ∧ s.EndsRespected

def Bridging.Settled : Bridging (Recorded left) (Recorded right) -> Prop
  | .looping s => s.Settled
  | .returned _ _ => True

theorem bridgeStep_faithful (peerA : Peer left) (peerB : Peer right)
    (stop : Bool) {phase : Bridging (Recorded left) (Recorded right)}
    (hsettled : phase.Settled) (h : phase.Faithful) :
    (bridgeStep peerA.recorded peerB.recorded stop phase).Settled ∧
      (bridgeStep peerA.recorded peerB.recorded stop phase).Faithful := by
  cases phase with
  | returned result s => exact ⟨hsettled, h⟩
  | looping s =>
      have hs : s.Settled := hsettled
      rw [bridgeStep]
      by_cases hend : stop = true ∨ (s.aDone = true ∧ s.bDone = true)
      · rw [if_pos hend]
        exact ⟨trivial, hs.exact.left, hs.exact.right, hs.forth.moved,
          hs.back.moved⟩
      · rw [if_neg hend]
        have hbody := bridgeBody_settled peerA peerB hs
        cases hresult : bridgeBody peerA.recorded peerB.recorded s with
        | mk result next =>
            rw [hresult] at hbody
            rcases hbody with ⟨hpart, hnext⟩
            cases result with
            | ok _ => exact ⟨hnext rfl, (hnext rfl).exact⟩
            | error e => exact ⟨trivial, hpart⟩

theorem bridgeBidirectional_faithful (peerA : Peer left) (peerB : Peer right)
    (stop : Nat -> Bool) (a : left) (b : right) (n : Nat) :
    (bridgeBidirectional peerA.recorded peerB.recorded stop (a, Record.empty)
        (b, Record.empty) n).Settled ∧
      (bridgeBidirectional peerA.recorded peerB.recorded stop (a, Record.empty)
        (b, Record.empty) n).Faithful := by
  induction n with
  | zero =>
      have hinitial := BridgeState.settled_initial a b
      exact ⟨hinitial, hinitial.exact⟩
  | succ n ih => exact bridgeStep_faithful peerA peerB (stop n) ih.left ih.right

/-- A bridge between any two endpoints loses, repeats and reorders nothing,
wherever it is and whenever the flag is set.  It is the same bridge without the
records. -/
theorem bridge_is_faithful (peerA : Peer left) (peerB : Peer right)
    (stop : Nat -> Bool) (a : left) (b : right) (n : Nat) :
    (bridgeBidirectional peerA.recorded peerB.recorded stop (a, Record.empty)
        (b, Record.empty) n).Faithful ∧
      bridgeBidirectional peerA peerB stop a b n =
        (bridgeBidirectional peerA.recorded peerB.recorded stop
          (a, Record.empty) (b, Record.empty) n).view Prod.fst Prod.fst :=
  ⟨(bridgeBidirectional_faithful peerA peerB stop a b n).right,
    bridgeBidirectional_view peerA.recorded_simulates peerB.recorded_simulates
      stop (a, Record.empty) (b, Record.empty) n⟩

end

end Laptop

end Ephemwork
