import Ephemwork.Bastion.Handlers

/-!
# A connection to the control plane

`handle_connection` of `bastion-server/src/main.rs`, and what the network makes
of the bytes a client writes: some reads that bring them in order.
-/

namespace Ephemwork

open Foundation

namespace Bastion

/-- Reads one request and answers it.  A connection whose request cannot be read
is closed without an answer. -/
def handleConnection {world : Type} (serde : SerdeJson)
    (listener : MutationListener world) (overflowChecks : Bool)
    (reads : Stream) (registry : Registry) (state : world) :
    Bytes × Registry × world :=
  match readRequest overflowChecks reads with
  | .error _ => ([], registry, state)
  | .ok request =>
      let (response, changed, after) :=
        route serde listener request registry state
      (response.toWire, changed, after)

/-- The bytes of one read: some, and no more than its buffer holds. -/
structure Chunk where
  bytes : Bytes
  ne_nil : bytes ≠ []
  fits : bytes.length ≤ readSize

/-- How bytes arrive: the reads that bring them, and whether a read after the
last of them sees the end of the stream or fails. -/
structure Arrival (wire : Bytes) where
  chunks : List Chunk
  flatten : (chunks.map Chunk.bytes).flatten = wire
  closed : Bool

namespace Arrival

variable {wire : Bytes} (arrival : Arrival wire)

def stream : Stream :=
  fun index =>
    match arrival.chunks[index]? with
    | some chunk => .data chunk.bytes chunk.fits
    | none => if arrival.closed then .data [] (Nat.zero_le _) else .failed

theorem delivered_stream (index count : Nat) :
    delivered arrival.stream index count =
      (((arrival.chunks.drop index).take count).map Chunk.bytes).flatten := by
  induction count generalizing index with
  | zero => simp [delivered]
  | succ count ih =>
      rw [delivered, ih]
      cases hchunk : arrival.chunks[index]? with
      | none =>
          have hend : arrival.chunks.length ≤ index :=
            List.getElem?_eq_none_iff.mp hchunk
          have hnil : arrival.chunks.drop index = [] :=
            List.drop_eq_nil_of_le hend
          have hnil' : arrival.chunks.drop (index + 1) = [] :=
            List.drop_eq_nil_of_le (Nat.le_succ_of_le hend)
          simp only [stream, hchunk, hnil, hnil', List.take_nil]
          cases arrival.closed with
          | true => rfl
          | false => rfl
      | some chunk =>
          rcases List.getElem?_eq_some_iff.mp hchunk with ⟨hlt, hget⟩
          rw [List.drop_eq_getElem_cons hlt, hget]
          simp [stream, hchunk]

theorem delivered_prefix (count : Nat) :
    delivered arrival.stream 0 count <+: wire := by
  have hwire := arrival.flatten
  rw [← List.take_append_drop count arrival.chunks, List.map_append,
    List.flatten_append] at hwire
  rw [delivered_stream, List.drop_zero]
  exact ⟨_, hwire⟩

theorem delivered_of_end {count : Nat} {fits : [].length ≤ readSize}
    (h : arrival.stream count = .data [] fits) :
    delivered arrival.stream 0 count = wire := by
  have hend : arrival.chunks.length ≤ count := by
    cases hchunk : arrival.chunks[count]? with
    | none => exact List.getElem?_eq_none_iff.mp hchunk
    | some chunk =>
        simp only [stream, hchunk, ReadOutcome.data.injEq] at h
        exact absurd h chunk.ne_nil
  rw [delivered_stream, List.drop_zero, List.take_of_length_le hend,
    arrival.flatten]

theorem readLoop_cases {overflowChecks : Bool} {buffer : Bytes}
    (h : readLoop overflowChecks arrival.stream 0 [] = .ok buffer) :
    buffer <+: wire ∧
      (buffer = wire ∨ isComplete overflowChecks buffer = .ok true) := by
  rcases readLoop_eq_ok h with ⟨count, hbuffer, hstop⟩
  rw [List.nil_append] at hbuffer
  rw [Nat.zero_add] at hstop
  constructor
  · rw [hbuffer]
    exact arrival.delivered_prefix count
  · rcases hstop with ⟨fits, hended⟩ | hcomplete
    · rw [hbuffer]
      exact Or.inl (arrival.delivered_of_end hended)
    · exact Or.inr hcomplete

theorem delivered_succ {index : Nat} (h : index < arrival.chunks.length) :
    delivered arrival.stream 0 (index + 1) =
      delivered arrival.stream 0 index ++ arrival.chunks[index].bytes := by
  rw [delivered_stream, delivered_stream, List.drop_zero,
    List.take_succ_eq_append_getElem h, List.map_append, List.flatten_append]
  simp only [List.map_cons, List.map_nil, List.flatten_cons, List.flatten_nil,
    List.append_nil]

theorem stream_of_lt {index : Nat} (h : index < arrival.chunks.length) :
    arrival.stream index =
      .data arrival.chunks[index].bytes arrival.chunks[index].fits := by
  simp [stream, h]

theorem delivered_all :
    delivered arrival.stream 0 arrival.chunks.length = wire := by
  rw [delivered_stream, List.drop_zero, List.take_length, arrival.flatten]

theorem length_delivered_lt {index : Nat}
    (h : index < arrival.chunks.length) :
    (delivered arrival.stream 0 index).length < wire.length := by
  have hle := (arrival.delivered_prefix (index + 1)).length_le
  have hchunk := List.length_pos_iff.mpr arrival.chunks[index].ne_nil
  rw [arrival.delivered_succ h, List.length_append] at hle
  omega

end Arrival

def Arrival.bytewise (wire : Bytes) : Arrival wire where
  chunks := wire.map fun b => ⟨[b], List.cons_ne_nil b [], by simp [readSize]⟩
  flatten := by
    rw [List.map_map]
    induction wire with
    | nil => rfl
    | cons b rest ih => simp [ih]
  closed := true

end Bastion

end Ephemwork
