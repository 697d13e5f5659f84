import Ephemwork.Laptop.Bridge

/-!
# When a bridge ends

A bridge whose endpoints follow scripts of outcomes returns exactly if the flag
is set, both sides report the end of their streams, or one direction fails.  One
side's end alone is not enough.
-/

namespace Ephemwork

open Foundation

namespace Laptop

/-- What the successive reads and writes of an endpoint return. -/
structure Script where
  reads : Nat -> ReadResult IoError bridgeBuffer
  writes : Nat -> (bytes : Bytes) -> WriteResult IoError bytes

namespace Script

def writer (script : Script) : Writer Nat :=
  fun index bytes => (script.writes index bytes, index + 1)

/-- The endpoint that follows a script, with the numbers of its reads and
writes. -/
def peer (script : Script) : Peer (Nat × Nat) where
  read s := (script.reads s.1, s.1 + 1, s.2)
  write s bytes := (script.writes s.2 bytes, s.1, s.2 + 1)

def ReportsEnd (script : Script) : Prop :=
  exists index fits, script.reads index = .data [] fits

/-- The first reads of the source do not end its stream, and what they bring is
written with so many writes of the destination. -/
inductive Relays (source destination : Script) : Nat -> Nat -> Prop where
  | start : Relays source destination 0 0
  | blocked {reads writes : Nat} {e : IoError}
      (h : Relays source destination reads writes)
      (hread : source.reads reads = .failed e)
      (hkind : e.kind = .wouldBlock) :
      Relays source destination (reads + 1) writes
  | data {reads writes after : Nat} {bytes : Bytes}
      {fits : bytes.length ≤ bridgeBuffer}
      (h : Relays source destination reads writes)
      (hread : source.reads reads = .data bytes fits) (hne : bytes ≠ [])
      (hwrite : writeAllNonblocking destination.writer 0 writes bytes =
        (.ok (), after)) :
      Relays source destination (reads + 1) after

/-- A read of the source fails before the end of its stream, or what a read
brings cannot be written. -/
inductive Fails (source destination : Script) : Prop where
  | read {reads writes : Nat} {e : IoError}
      (h : Relays source destination reads writes)
      (hread : source.reads reads = .failed e)
      (hkind : e.kind ≠ .wouldBlock) : Fails source destination
  | write {reads writes after : Nat} {bytes : Bytes}
      {fits : bytes.length ≤ bridgeBuffer} {e : IoError}
      (h : Relays source destination reads writes)
      (hread : source.reads reads = .data bytes fits) (hne : bytes ≠ [])
      (hwrite : writeAllNonblocking destination.writer 0 writes bytes =
        (.error e, after)) : Fails source destination

variable {source destination : Script} {reads writes writes' : Nat}

theorem Relays.unique (h : Relays source destination reads writes)
    (h' : Relays source destination reads writes') : writes' = writes := by
  induction h generalizing writes' with
  | start =>
      cases h'
      rfl
  | blocked h hread hkind ih =>
      cases h' with
      | blocked h' hread' hkind' => exact ih h'
      | data h' hread' hne' hwrite' =>
          rw [hread] at hread'
          cases hread'
  | data h hread hne hwrite ih =>
      cases h' with
      | blocked h' hread' hkind' =>
          rw [hread] at hread'
          cases hread'
      | data h' hread' hne' hwrite' =>
          rw [ih h'] at hwrite'
          rw [hread] at hread'
          cases hread'
          rw [hwrite] at hwrite'
          cases hwrite'
          rfl

theorem Relays.ne_end (h : Relays source destination reads writes) {index : Nat}
    (hindex : index < reads) (fits : [].length ≤ bridgeBuffer) :
    source.reads index ≠ .data [] fits := by
  induction h with
  | start => exact absurd hindex (Nat.not_lt_zero _)
  | blocked h hread hkind ih =>
      rcases Nat.lt_succ_iff_lt_or_eq.mp hindex with hlt | rfl
      · exact ih hlt
      · intro hend
        rw [hread] at hend
        cases hend
  | data h hread hne hwrite ih =>
      rcases Nat.lt_succ_iff_lt_or_eq.mp hindex with hlt | rfl
      · exact ih hlt
      · intro hend
        rw [hread] at hend
        cases hend
        exact hne rfl

theorem writeAllNonblocking_peer (script : Script) (spins : Nat)
    (s : Nat × Nat) (bytes : Bytes) :
    writeAllNonblocking script.peer.write spins s bytes =
      ((writeAllNonblocking script.writer spins s.2 bytes).1,
        (s.1, (writeAllNonblocking script.writer spins s.2 bytes).2)) :=
  writeAllNonblocking_view (fun index => (s.1, index)) (fun _ _ => rfl) spins
    s.2 bytes

/-- Where a direction is before an iteration: it has relayed one read for every
iteration before, or its source has ended. -/
inductive At (source destination : Script) (n : Nat)
    (d : Direction (Nat × Nat) (Nat × Nat)) : Prop where
  | going (hdone : d.done = false) (hindex : d.source.1 = n)
      (h : Relays source destination n d.destination.2) :
      At source destination n d
  | ended (hdone : d.done = true) {index : Nat} (hlt : index < n)
      (fits : [].length ≤ bridgeBuffer)
      (hread : source.reads index = .data [] fits) : At source destination n d

theorem relay_at {n : Nat} {d : Direction (Nat × Nat) (Nat × Nat)}
    (h : At source destination n d) :
    (exists d', relay source.peer destination.peer d = (.ok (), d') ∧
        At source destination (n + 1) d' ∧ d'.source.2 = d.source.2 ∧
        d'.destination.1 = d.destination.1) ∨
      (Fails source destination ∧ exists e d',
        relay source.peer destination.peer d = (.error e, d')) := by
  cases h with
  | ended hdone hlt fits hread =>
      refine Or.inl ⟨d, ?_, ?_, rfl, rfl⟩
      · rw [relay, if_pos hdone]
      · exact .ended hdone (Nat.lt_succ_of_lt hlt) fits hread
  | going hdone hindex h =>
      have hopen : ¬ d.done = true := by
        rw [hdone]
        exact Bool.false_ne_true
      have hpeer : source.peer.read d.source =
          (source.reads n, n + 1, d.source.2) := by
        rw [← hindex]
        rfl
      rw [relay, if_neg hopen, hpeer]
      cases hread : source.reads n with
      | failed e =>
          by_cases hkind : e.kind = .wouldBlock
          · simp only [if_pos hkind]
            exact Or.inl ⟨_, rfl, .going hdone rfl (h.blocked hread hkind), rfl,
              rfl⟩
          · simp only [if_neg hkind]
            exact Or.inr ⟨.read h hread hkind, _, _, rfl⟩
      | data bytes fits =>
          by_cases hne : bytes = []
          · subst hne
            simp only [if_true]
            exact Or.inl ⟨_, rfl, .ended rfl (Nat.lt_succ_self n) fits hread,
              rfl, rfl⟩
          · simp only [if_neg hne, take_fill, writeAllNonblocking_peer]
            cases hwrite : writeAllNonblocking destination.writer 0
                d.destination.2 bytes with
            | mk result after =>
                cases result with
                | ok _ =>
                    exact Or.inl ⟨_, rfl,
                      .going hdone rfl (h.data hread hne hwrite), rfl, rfl⟩
                | error e =>
                    exact Or.inr ⟨.write h hread hne hwrite, e, _, rfl⟩

theorem At.reportsEnd {n : Nat} {d : Direction (Nat × Nat) (Nat × Nat)}
    (h : At source destination n d) (hdone : d.done = true) :
    source.ReportsEnd := by
  cases h with
  | going hopen hindex h =>
      rw [hopen] at hdone
      cases hdone
  | ended hended hlt fits hread => exact ⟨_, fits, hread⟩

theorem At.done_of_end {n index : Nat}
    {d : Direction (Nat × Nat) (Nat × Nat)} (h : At source destination n d)
    (hlt : index < n) {fits : [].length ≤ bridgeBuffer}
    (hread : source.reads index = .data [] fits) : d.done = true := by
  cases h with
  | going hopen hindex h => exact absurd hread (h.ne_end hlt fits)
  | ended hended hlt' fits' hread' => exact hended

theorem At.of_relays {n : Nat} {d : Direction (Nat × Nat) (Nat × Nat)}
    (hat : At source destination n d) (h : Relays source destination n writes) :
    ¬ d.done = true ∧ d.destination.2 = writes ∧
      source.peer.read d.source = (source.reads n, n + 1, d.source.2) := by
  cases hat with
  | going hopen hindex hrelays =>
      refine ⟨?_, h.unique hrelays, ?_⟩
      · rw [hopen]
        exact Bool.false_ne_true
      · rw [← hindex]
        rfl
  | ended hended hlt fits hread => exact absurd hread (h.ne_end hlt fits)

theorem Fails.exists_relay (h : Fails source destination) :
    exists n, forall d, At source destination n d ->
      exists e d', relay source.peer destination.peer d = (.error e, d') := by
  cases h with
  | @read reads writes e h hread hkind =>
      refine ⟨reads, ?_⟩
      intro d hat
      rcases hat.of_relays h with ⟨hopen, _, hpeer⟩
      rw [relay, if_neg hopen, hpeer, hread]
      simp only [if_neg hkind]
      exact ⟨e, _, rfl⟩
  | @write reads writes after bytes fits e h hread hne hwrite =>
      refine ⟨reads, ?_⟩
      intro d hat
      rcases hat.of_relays h with ⟨hopen, hwrites, hpeer⟩
      rw [relay, if_neg hopen, hpeer, hread]
      simp only [if_neg hne, take_fill, writeAllNonblocking_peer, hwrites,
        hwrite]
      exact ⟨e, _, rfl⟩

theorem At.congr {n : Nat} {d d' : Direction (Nat × Nat) (Nat × Nat)}
    (h : At source destination n d) (hdone : d'.done = d.done)
    (hsource : d'.source.1 = d.source.1)
    (hdestination : d'.destination.2 = d.destination.2) :
    At source destination n d' := by
  cases h with
  | going hopen hindex h =>
      rw [← hdestination] at h
      exact .going (hdone.trans hopen) (hsource.trans hindex) h
  | ended hended hlt fits hread =>
      exact .ended (hdone.trans hended) hlt fits hread

end Script

/-!
# Both directions
-/

section

open Script

variable {a b : Script} {n : Nat}
  {s : BridgeState (Nat × Nat) (Nat × Nat)}

structure BridgeState.At (a b : Script) (n : Nat)
    (s : BridgeState (Nat × Nat) (Nat × Nat)) : Prop where
  forth : Script.At a b n s.forth
  back : Script.At b a n s.back

theorem bridgeBody_at (h : s.At a b n) :
    (exists next, bridgeBody a.peer b.peer s = (.ok (), next) ∧
        next.At a b (n + 1)) ∨
      ((Fails a b ∨ Fails b a) ∧ exists e next,
        bridgeBody a.peer b.peer s = (.error e, next)) := by
  unfold bridgeBody
  rcases relay_at h.forth with
    ⟨d, hrelay, hforth, hwrites, hreads⟩ | ⟨hfails, e, d, hrelay⟩
  · have hback : Script.At b a n (s.withForth d).back :=
      h.back.congr rfl hreads hwrites
    rw [hrelay]
    rcases relay_at hback with
      ⟨d', hrelay', hback', hwrites', hreads'⟩ | ⟨hfails, e, d', hrelay'⟩
    · simp only [hrelay']
      exact Or.inl ⟨_, rfl, hforth.congr rfl hreads' hwrites', hback'⟩
    · simp only [hrelay']
      exact Or.inr ⟨Or.inr hfails, e, _, rfl⟩
  · rw [hrelay]
    exact Or.inr ⟨Or.inl hfails, e, _, rfl⟩

def scriptedBridge (a b : Script) (stop : Nat -> Bool) :
    Nat -> Bridging (Nat × Nat) (Nat × Nat) :=
  bridgeBidirectional a.peer b.peer stop (0, 0) (0, 0)

def Returns (a b : Script) (stop : Nat -> Bool) : Prop :=
  exists n result s, scriptedBridge a b stop n = .returned result s

/-- The flag is set at some iteration, both sides report the end of their
streams, or one direction fails. -/
def Closes (a b : Script) (stop : Nat -> Bool) : Prop :=
  (exists n, stop n = true) ∨ (a.ReportsEnd ∧ b.ReportsEnd) ∨
    Fails a b ∨ Fails b a

variable {stop : Nat -> Bool}

theorem scriptedBridge_at
    (h : scriptedBridge a b stop n = .looping s) : s.At a b n := by
  induction n generalizing s with
  | zero =>
      cases h
      exact ⟨.going rfl rfl .start, .going rfl rfl .start⟩
  | succ n ih =>
      rw [scriptedBridge, bridgeBidirectional, ← scriptedBridge] at h
      cases hphase : scriptedBridge a b stop n with
      | returned result t =>
          rw [hphase] at h
          cases h
      | looping t =>
          rw [hphase, bridgeStep] at h
          by_cases hend : stop n = true ∨ (t.aDone = true ∧ t.bDone = true)
          · rw [if_pos hend] at h
            cases h
          · rw [if_neg hend] at h
            rcases bridgeBody_at (ih hphase) with
              ⟨next, hbody, hnext⟩ | ⟨_, e, next, hbody⟩
            · rw [hbody] at h
              cases h
              exact hnext
            · rw [hbody] at h
              cases h

theorem closes_of_bridgeStep (hat : s.At a b n)
    {result : Except IoError (UInt64 × UInt64)}
    {t : BridgeState (Nat × Nat) (Nat × Nat)}
    (h : bridgeStep a.peer b.peer (stop n) (.looping s) = .returned result t) :
    Closes a b stop := by
  rw [bridgeStep] at h
  by_cases hend : stop n = true ∨ (s.aDone = true ∧ s.bDone = true)
  · rcases hend with hstop | ⟨haDone, hbDone⟩
    · exact Or.inl ⟨n, hstop⟩
    · exact Or.inr (Or.inl ⟨hat.forth.reportsEnd haDone,
        hat.back.reportsEnd hbDone⟩)
  · rw [if_neg hend] at h
    rcases bridgeBody_at hat with ⟨next, hbody, _⟩ | ⟨hfails, _⟩
    · rw [hbody] at h
      cases h
    · exact Or.inr (Or.inr hfails)

theorem Returns.closes (h : Returns a b stop) : Closes a b stop := by
  rcases h with ⟨n, result, t, h⟩
  induction n with
  | zero => cases h
  | succ n ih =>
      rw [scriptedBridge, bridgeBidirectional, ← scriptedBridge] at h
      cases hphase : scriptedBridge a b stop n with
      | returned result' t' =>
          rw [hphase] at h
          cases h
          exact ih hphase
      | looping s =>
          rw [hphase] at h
          exact closes_of_bridgeStep (scriptedBridge_at hphase) h

theorem exists_looping (h : ¬ Returns a b stop) (n : Nat) :
    exists s next, scriptedBridge a b stop n = .looping s ∧ s.At a b n ∧
      ¬ (stop n = true ∨ (s.aDone = true ∧ s.bDone = true)) ∧
      bridgeBody a.peer b.peer s = (.ok (), next) := by
  cases hphase : scriptedBridge a b stop n with
  | returned result s => exact absurd ⟨n, result, s, hphase⟩ h
  | looping s =>
      have hat := scriptedBridge_at hphase
      have hnext : scriptedBridge a b stop (n + 1) =
          bridgeStep a.peer b.peer (stop n) (.looping s) := by
        rw [scriptedBridge, bridgeBidirectional, ← scriptedBridge, hphase]
      rw [bridgeStep] at hnext
      by_cases hend : stop n = true ∨ (s.aDone = true ∧ s.bDone = true)
      · rw [if_pos hend] at hnext
        exact absurd ⟨n + 1, _, _, hnext⟩ h
      · rw [if_neg hend] at hnext
        rcases bridgeBody_at hat with ⟨next, hbody, _⟩ | ⟨_, e, next, hbody⟩
        · exact ⟨s, next, rfl, hat, hend, hbody⟩
        · rw [hbody] at hnext
          exact absurd ⟨n + 1, _, _, hnext⟩ h

theorem Closes.returns (h : Closes a b stop) : Returns a b stop := by
  by_contra hnever
  rcases h with ⟨n, hstop⟩ | ⟨⟨i, fits, hi⟩, ⟨j, fits', hj⟩⟩ | hfails | hfails
  · rcases exists_looping hnever n with ⟨s, next, _, _, hend, _⟩
    exact hend (Or.inl hstop)
  · rcases exists_looping hnever (i + j + 1) with ⟨s, next, _, hat, hend, _⟩
    exact hend (Or.inr ⟨hat.forth.done_of_end (by omega) hi,
      hat.back.done_of_end (by omega) hj⟩)
  · rcases hfails.exists_relay with ⟨n, hrelay⟩
    rcases exists_looping hnever n with ⟨s, next, _, hat, _, hbody⟩
    rcases hrelay s.forth hat.forth with ⟨e, d, hd⟩
    rw [bridgeBody, hd] at hbody
    cases hbody
  · rcases hfails.exists_relay with ⟨n, hrelay⟩
    rcases exists_looping hnever n with ⟨s, next, _, hat, _, hbody⟩
    rw [bridgeBody] at hbody
    rcases relay_at hat.forth with
      ⟨d, hd, hforth, hwrites, hreads⟩ | ⟨_, e, d, hd⟩
    · have hback : Script.At b a n (s.withForth d).back :=
        hat.back.congr rfl hreads hwrites
      rcases hrelay _ hback with ⟨e, d', hd'⟩
      rw [hd] at hbody
      simp only [hd'] at hbody
      cases hbody
    · rw [hd] at hbody
      cases hbody

end

/-- A bridge returns exactly if the flag is set at some iteration, both sides
report the end of their streams, or one direction fails. -/
theorem bridge_returns_iff (a b : Script) (stop : Nat -> Bool) :
    Returns a b stop <-> Closes a b stop :=
  ⟨Returns.closes, Closes.returns⟩

def closing : Script where
  reads _ := .data [] (Nat.zero_le _)
  writes _ bytes := .accepted bytes.length (Nat.le_refl _)

def silent : Script where
  reads _ := .failed { kind := .wouldBlock, message := "would block" }
  writes _ bytes := .accepted bytes.length (Nat.le_refl _)

theorem not_closes_silent : ¬ Closes closing silent (fun _ => false) := by
  intro h
  rcases h with ⟨n, hstop⟩ | ⟨_, ⟨i, fits, hi⟩⟩ | hfails | hfails
  · cases hstop
  · cases hi
  · cases hfails with
    | read h hread hkind => cases hread
    | write h hread hne hwrite =>
        cases hread
        exact hne rfl
  · cases hfails with
    | read h hread hkind =>
        cases hread
        exact hkind rfl
    | write h hread hne hwrite => cases hread

/-- One side closes, the other stays silent, and the bridge never returns. -/
theorem silent_bridge_never_returns :
    closing.ReportsEnd ∧ ¬ Returns closing silent (fun _ => false) :=
  ⟨⟨0, Nat.zero_le _, rfl⟩, fun h => not_closes_silent h.closes⟩

end Laptop

end Ephemwork
