import Ephemwork.Foundation.Bytes

/-!
# Endpoints

Something that is read from and written to, as a machine of its own: each call
returns an outcome and moves the state.  A recorded endpoint is the same machine
with a record of its traffic, which nothing it does depends on.
-/

namespace Foundation

/-- What a read into a buffer returns: bytes that fit it, none of them at the end
of the stream, or an error. -/
inductive ReadResult (error : Type) (capacity : Nat) where
  | data (bytes : Bytes) (fits : bytes.length ≤ capacity)
  | failed (e : error)

inductive WriteResult (error : Type) (offered : Bytes) where
  | accepted (count : Nat) (le : count ≤ offered.length)
  | failed (e : error)

structure Endpoint (error : Type) (capacity : Nat) (state : Type) where
  read : state -> ReadResult error capacity × state
  write : state -> (bytes : Bytes) -> WriteResult error bytes × state

structure Record where
  received : Bytes
  accepted : Bytes
  ended : Bool
  readPastEnd : Bool
deriving DecidableEq, Repr

namespace Record

def empty : Record where
  received := []
  accepted := []
  ended := false
  readPastEnd := false

def afterRead {error : Type} {capacity : Nat} (record : Record) :
    ReadResult error capacity -> Record
  | .data bytes _ =>
      { record with
        received := record.received ++ bytes
        ended := record.ended || bytes.isEmpty
        readPastEnd := record.readPastEnd || record.ended }
  | .failed _ =>
      { record with readPastEnd := record.readPastEnd || record.ended }

theorem afterRead_failed {error : Type} {capacity : Nat} {record : Record}
    (h : record.ended = false) (e : error) :
    record.afterRead (.failed e : ReadResult error capacity) = record := by
  cases record with
  | mk received accepted ended readPastEnd =>
      simp only at h
      rw [afterRead, h, Bool.or_false]

theorem afterRead_data {error : Type} {capacity : Nat} {record : Record}
    (h : record.ended = false) {bytes : Bytes} (fits : bytes.length ≤ capacity) :
    record.afterRead (.data bytes fits : ReadResult error capacity) =
      { record with received := record.received ++ bytes, ended := bytes.isEmpty } := by
  cases record with
  | mk received accepted ended readPastEnd =>
      simp only at h
      simp only [afterRead, h, Bool.or_false, Bool.false_or]

def afterWrite {error : Type} {offered : Bytes} (record : Record) :
    WriteResult error offered -> Record
  | .accepted count _ =>
      { record with accepted := record.accepted ++ offered.take count }
  | .failed _ => record

end Record

namespace Endpoint

variable {error : Type} {capacity : Nat} {state simpler : Type}

def recorded (endpoint : Endpoint error capacity state) :
    Endpoint error capacity (state × Record) where
  read s :=
    let (result, next) := endpoint.read s.1
    (result, next, s.2.afterRead result)
  write s bytes :=
    let (result, next) := endpoint.write s.1 bytes
    (result, next, s.2.afterWrite result)

/-- Seen through `view`, an endpoint behaves as another. -/
structure Simulates (view : state -> simpler)
    (endpoint : Endpoint error capacity state)
    (abstract : Endpoint error capacity simpler) : Prop where
  read : forall s, abstract.read (view s) =
    ((endpoint.read s).1, view (endpoint.read s).2)
  write : forall s bytes, abstract.write (view s) bytes =
    ((endpoint.write s bytes).1, view (endpoint.write s bytes).2)

theorem recorded_simulates (endpoint : Endpoint error capacity state) :
    Simulates Prod.fst endpoint.recorded endpoint where
  read _ := rfl
  write _ _ := rfl

end Endpoint

end Foundation
