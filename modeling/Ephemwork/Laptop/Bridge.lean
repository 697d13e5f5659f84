import Ephemwork.Foundation.Endpoint

/-!
# Bridging two endpoints

`bridge_bidirectional` and `write_all_nonblocking` of `tunnel.rs`.  The pauses of
both loops are left out: nothing the loops compute depends on them.  Counters are
64-bit integers that wrap around, as in a release build.
-/

namespace Ephemwork

open Foundation

namespace Laptop

/-!
# The loops
-/

inductive IoErrorKind where
  | wouldBlock
  | writeZero
  | timedOut
  | other
deriving DecidableEq, Repr

structure IoError where
  kind : IoErrorKind
  message : String
deriving DecidableEq, Repr

def bridgeBuffer : Nat := 8192

def spinLimit : Nat := 1000

abbrev Peer (state : Type) : Type :=
  Endpoint IoError bridgeBuffer state

abbrev Writer (state : Type) : Type :=
  state -> (bytes : Bytes) -> WriteResult IoError bytes × state

def writeAllNonblocking {state : Type} (write : Writer state) (spins : Nat)
    (s : state) (bytes : Bytes) : Except IoError Unit × state :=
  if bytes = [] then
    (.ok (), s)
  else
    match write s bytes with
    | (.accepted count _, next) =>
        if count = 0 then
          (.error { kind := .writeZero, message := "write returned 0" }, next)
        else
          writeAllNonblocking write 0 next (bytes.drop count)
    | (.failed e, next) =>
        if e.kind = .wouldBlock then
          if spinLimit < spins + 1 then
            (.error
              { kind := .timedOut, message := "write blocked for too long" },
              next)
          else
            writeAllNonblocking write (spins + 1) next bytes
        else
          (.error e, next)
termination_by (bytes.length, spinLimit - spins)
decreasing_by
  · apply Prod.Lex.left
    rw [List.length_drop]
    omega
  · apply Prod.Lex.right
    omega

def fill (buffer bytes : Bytes) : Bytes :=
  bytes ++ buffer.drop bytes.length

theorem take_fill (buffer bytes : Bytes) :
    (fill buffer bytes).take bytes.length = bytes := by
  rw [fill, List.take_left]

structure Direction (source destination : Type) where
  source : source
  destination : destination
  buffer : Bytes
  moved : UInt64
  done : Bool

/-- One direction in one iteration: a read, unless the source is done, and a
write of what it brought. -/
def relay {source destination : Type} (reader : Peer source)
    (writer : Peer destination) (d : Direction source destination) :
    Except IoError Unit × Direction source destination :=
  if d.done then
    (.ok (), d)
  else
    match reader.read d.source with
    | (.data bytes _, next) =>
        if bytes = [] then
          (.ok (), { d with source := next, done := true })
        else
          let buffer := fill d.buffer bytes
          match writeAllNonblocking writer.write 0 d.destination
              (buffer.take bytes.length) with
          | (.ok (), after) =>
              (.ok (),
                { d with
                  source := next
                  destination := after
                  buffer := buffer
                  moved := d.moved + UInt64.ofNat bytes.length })
          | (.error e, after) =>
              (.error e,
                { d with
                  source := next
                  destination := after
                  buffer := buffer })
    | (.failed e, next) =>
        if e.kind = .wouldBlock then
          (.ok (), { d with source := next })
        else
          (.error e, { d with source := next })

structure BridgeState (left right : Type) where
  a : left
  b : right
  buffer : Bytes
  aToB : UInt64
  bToA : UInt64
  aDone : Bool
  bDone : Bool

namespace BridgeState

variable {left right : Type} (s : BridgeState left right)

def forth : Direction left right where
  source := s.a
  destination := s.b
  buffer := s.buffer
  moved := s.aToB
  done := s.aDone

def back : Direction right left where
  source := s.b
  destination := s.a
  buffer := s.buffer
  moved := s.bToA
  done := s.bDone

def withForth (d : Direction left right) : BridgeState left right :=
  { s with
    a := d.source
    b := d.destination
    buffer := d.buffer
    aToB := d.moved
    aDone := d.done }

def withBack (d : Direction right left) : BridgeState left right :=
  { s with
    a := d.destination
    b := d.source
    buffer := d.buffer
    bToA := d.moved
    bDone := d.done }

def initial (a : left) (b : right) : BridgeState left right where
  a := a
  b := b
  buffer := List.replicate bridgeBuffer 0
  aToB := 0
  bToA := 0
  aDone := false
  bDone := false

end BridgeState

def bridgeBody {left right : Type} (peerA : Peer left) (peerB : Peer right)
    (s : BridgeState left right) :
    Except IoError Unit × BridgeState left right :=
  match relay peerA peerB s.forth with
  | (.error e, d) => (.error e, s.withForth d)
  | (.ok (), d) =>
      match relay peerB peerA (s.withForth d).back with
      | (.error e, d') => (.error e, (s.withForth d).withBack d')
      | (.ok (), d') => (.ok (), (s.withForth d).withBack d')

/-- The loop is before an evaluation of its condition, or the function has
returned. -/
inductive Bridging (left right : Type) where
  | looping (s : BridgeState left right)
  | returned (result : Except IoError (UInt64 × UInt64))
      (s : BridgeState left right)

/-- One iteration, for which the flag was loaded as `stop`. -/
def bridgeStep {left right : Type} (peerA : Peer left) (peerB : Peer right)
    (stop : Bool) : Bridging left right -> Bridging left right
  | .looping s =>
      if stop = true ∨ (s.aDone = true ∧ s.bDone = true) then
        .returned (.ok (s.aToB, s.bToA)) s
      else
        match bridgeBody peerA peerB s with
        | (.ok (), next) => .looping next
        | (.error e, next) => .returned (.error e) next
  | .returned result s => .returned result s

/-- Where `bridge_bidirectional` is after some iterations.  `stop` gives what
each load of the flag returns. -/
def bridgeBidirectional {left right : Type} (peerA : Peer left)
    (peerB : Peer right) (stop : Nat -> Bool) (a : left) (b : right) :
    Nat -> Bridging left right
  | 0 => .looping (.initial a b)
  | n + 1 =>
      bridgeStep peerA peerB (stop n)
        (bridgeBidirectional peerA peerB stop a b n)

/-!
# Endpoints seen from further away
-/

section

variable {state simpler : Type}

theorem writeAllNonblocking_view (view : state -> simpler) {write : Writer state}
    {abstract : Writer simpler}
    (h : forall s bytes, abstract (view s) bytes =
      ((write s bytes).1, view (write s bytes).2))
    (spins : Nat) (s : state) (bytes : Bytes) :
    writeAllNonblocking abstract spins (view s) bytes =
      ((writeAllNonblocking write spins s bytes).1,
        view (writeAllNonblocking write spins s bytes).2) := by
  induction spins, s, bytes using writeAllNonblocking.induct write with
  | case1 spins s => simp [writeAllNonblocking]
  | case2 spins s bytes hne next le hwrite =>
      rw [writeAllNonblocking, writeAllNonblocking, if_neg hne, if_neg hne, h,
        hwrite]
      rfl
  | case3 spins s bytes hne count le next hwrite hcount ih =>
      rw [writeAllNonblocking, writeAllNonblocking, if_neg hne, if_neg hne, h,
        hwrite]
      simp only [if_neg hcount]
      exact ih
  | case4 spins s bytes hne e next hwrite hkind hspins =>
      rw [writeAllNonblocking, writeAllNonblocking, if_neg hne, if_neg hne, h,
        hwrite]
      simp only [if_pos hkind, if_pos hspins]
  | case5 spins s bytes hne e next hwrite hkind hspins ih =>
      rw [writeAllNonblocking, writeAllNonblocking, if_neg hne, if_neg hne, h,
        hwrite]
      simp only [if_pos hkind, if_neg hspins]
      exact ih
  | case6 spins s bytes hne e next hwrite hkind =>
      rw [writeAllNonblocking, writeAllNonblocking, if_neg hne, if_neg hne, h,
        hwrite]
      simp only [if_neg hkind]

end

section

variable {left right left' right' : Type}

def Direction.view (f : left -> left') (g : right -> right')
    (d : Direction left right) : Direction left' right' where
  source := f d.source
  destination := g d.destination
  buffer := d.buffer
  moved := d.moved
  done := d.done

def BridgeState.view (f : left -> left') (g : right -> right')
    (s : BridgeState left right) : BridgeState left' right' where
  a := f s.a
  b := g s.b
  buffer := s.buffer
  aToB := s.aToB
  bToA := s.bToA
  aDone := s.aDone
  bDone := s.bDone

def Bridging.view (f : left -> left') (g : right -> right') :
    Bridging left right -> Bridging left' right'
  | .looping s => .looping (s.view f g)
  | .returned result s => .returned result (s.view f g)

variable {f : left -> left'} {g : right -> right'} {peerA : Peer left}
  {peerB : Peer right} {peerA' : Peer left'} {peerB' : Peer right'}

theorem relay_view (hA : Endpoint.Simulates f peerA peerA')
    (hB : Endpoint.Simulates g peerB peerB') (d : Direction left right) :
    relay peerA' peerB' (d.view f g) =
      ((relay peerA peerB d).1, (relay peerA peerB d).2.view f g) := by
  unfold relay
  by_cases hdone : d.done = true
  · have hview : (d.view f g).done = true := hdone
    rw [if_pos hdone, if_pos hview]
  · have hview : ¬ (d.view f g).done = true := hdone
    have hread : peerA'.read (d.view f g).source = _ := hA.read d.source
    rw [if_neg hdone, if_neg hview, hread]
    cases hresult : peerA.read d.source with
    | mk result next =>
        simp only [Direction.view]
        cases result with
        | failed e =>
            by_cases hkind : e.kind = .wouldBlock
            · simp only [if_pos hkind]
            · simp only [if_neg hkind]
        | data bytes fits =>
            by_cases hne : bytes = []
            · simp only [if_pos hne]
            · simp only [if_neg hne, writeAllNonblocking_view g hB.write]
              cases hwritten : writeAllNonblocking peerB.write 0 d.destination
                  ((fill d.buffer bytes).take bytes.length) with
              | mk written after =>
                  cases written with
                  | ok _ => rfl
                  | error e => rfl

theorem bridgeBody_view (hA : Endpoint.Simulates f peerA peerA')
    (hB : Endpoint.Simulates g peerB peerB') (s : BridgeState left right) :
    bridgeBody peerA' peerB' (s.view f g) =
      ((bridgeBody peerA peerB s).1, (bridgeBody peerA peerB s).2.view f g) := by
  unfold bridgeBody
  have hforth := relay_view hA hB s.forth
  have hshape : (s.view f g).forth = s.forth.view f g := rfl
  rw [hshape, hforth]
  cases hrelay : relay peerA peerB s.forth with
  | mk result d =>
      cases result with
      | error e => rfl
      | ok _ =>
          have hback := relay_view hB hA (s.withForth d).back
          have hshape' : ((s.view f g).withForth (d.view f g)).back =
              (s.withForth d).back.view g f := rfl
          simp only [hshape', hback]
          cases hrelay' : relay peerB peerA (s.withForth d).back with
          | mk result' d' =>
              cases result' with
              | error e => rfl
              | ok _ => rfl

/-- Seen through views under which the endpoints are simpler ones, a run is the
run on these. -/
theorem bridgeBidirectional_view (hA : Endpoint.Simulates f peerA peerA')
    (hB : Endpoint.Simulates g peerB peerB') (stop : Nat -> Bool) (a : left)
    (b : right) (n : Nat) :
    bridgeBidirectional peerA' peerB' stop (f a) (g b) n =
      (bridgeBidirectional peerA peerB stop a b n).view f g := by
  induction n with
  | zero => rfl
  | succ n ih =>
      rw [bridgeBidirectional, bridgeBidirectional, ih]
      cases hphase : bridgeBidirectional peerA peerB stop a b n with
      | returned result s => rfl
      | looping s =>
          have hbody := bridgeBody_view hA hB s
          simp only [Bridging.view, bridgeStep, hbody]
          show (if stop n = true ∨ (s.aDone = true ∧ s.bDone = true) then _
            else _) = _
          by_cases hend : stop n = true ∨ (s.aDone = true ∧ s.bDone = true)
          · rw [if_pos hend, if_pos hend]
            rfl
          · rw [if_neg hend, if_neg hend]
            cases hresult : bridgeBody peerA peerB s with
            | mk result next =>
                cases result with
                | ok _ => rfl
                | error e => rfl

end

end Laptop

end Ephemwork
