import Ephemwork.Foundation.Text

/-!
# The laptop's session state

The sessions of `src/state.rs` and the operations on the list of them.
-/

namespace Ephemwork

namespace Laptop

structure Session where
  user : String
  service : String
  /-- Seconds since the epoch. -/
  startedAt : Int
  localPort : UInt16
  remotePort : UInt16
  pid : Option UInt32
  /-- The forwards this session opened, as opposed to those it borrows. -/
  forwardLocalPorts : List UInt16
deriving DecidableEq, Repr

structure State where
  sessions : List Session
deriving DecidableEq, Repr

namespace State

def default : State where
  sessions := []

variable (state : State)

/-- Add a session in the place of any other of its user and service. -/
def upsert (session : Session) : State where
  sessions :=
    (state.sessions.filter fun other =>
      !(other.user == session.user && other.service == session.service)) ++
        [session]

def removeWhere (pred : Session -> Bool) : List Session × State :=
  (state.sessions.filter pred,
    { sessions := state.sessions.filter fun session => !pred session })

def forUser (user : String) : List Session :=
  state.sessions.filter fun session => session.user == user

def forwardOwner (user : String) (localPort : UInt16) : Option Session :=
  state.sessions.find? fun session =>
    session.user == user && session.forwardLocalPorts.contains localPort

/-!
# What the operations keep
-/

variable {state}

theorem mem_upsert_iff {session other : Session} :
    other ∈ (state.upsert session).sessions <->
      (other ∈ state.sessions ∧
        ¬ (other.user = session.user ∧ other.service = session.service)) ∨
      other = session := by
  simp [upsert, ← not_and_or]

theorem mem_removeWhere_iff {pred : Session -> Bool} {other : Session} :
    other ∈ (state.removeWhere pred).2.sessions <->
      other ∈ state.sessions ∧ pred other = false := by
  simp [removeWhere]

theorem mem_of_forwardOwner {user : String} {localPort : UInt16}
    {owner : Session} (h : state.forwardOwner user localPort = some owner) :
    owner ∈ state.sessions :=
  List.mem_of_find?_eq_some h

end State

end Laptop

end Ephemwork
