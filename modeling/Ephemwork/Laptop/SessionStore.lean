import Ephemwork.Foundation.KeyedList
import Ephemwork.Foundation.TransitionSystem
import Ephemwork.Laptop.State

/-!
# The session store as an ordered map

The operations of `src/state.rs` over whole runs, with removals whose predicate
may change with every question.  A store whose sessions have distinct users and
services is a list with distinct keys.
-/

namespace Ephemwork

open Foundation

namespace Laptop

def Session.pair (session : Session) : String × String :=
  (session.user, session.service)

namespace State

/-- `remove_where` with a predicate that may keep a memory. -/
def removeWhereMut (state : State) (pred : Predicate Session) : List Session × State :=
  let parts := Predicate.drain pred.ask pred.start state.sessions
  (parts.1, { sessions := parts.2 })

theorem removeWhereMut_ofFun (state : State) (pred : Session -> Bool) :
    state.removeWhereMut (Predicate.ofFun pred) = state.removeWhere pred := by
  have hdrain := Predicate.drain_ofFun pred state.sessions
  simp only [removeWhereMut, removeWhere]
  rw [show (Predicate.ofFun pred).start = () from rfl, hdrain]

def Distinct (state : State) : Prop :=
  (state.sessions.map Session.pair).Nodup

def holder (state : State) (pair : String × String) : Option Session :=
  state.sessions.find? fun session => decide (session.pair = pair)

/-!
# The operations on a list with distinct keys
-/

def keyed (state : State) (h : state.Distinct) : KeyedList Session.pair where
  items := state.sessions
  distinct := h

variable {state : State}

theorem upsert_eq_put (h : state.Distinct) (session : Session) :
    (state.upsert session).sessions = ((state.keyed h).put session).items := by
  have htest : forall other : Session,
      (!(other.user == session.user && other.service == session.service)) =
        decide (other.pair ≠ session.pair) := by
    intro other
    rw [Bool.eq_iff_iff]
    simp [Session.pair]
  simp only [upsert, htest]
  rfl

theorem distinct_upsert (h : state.Distinct) (session : Session) :
    (state.upsert session).Distinct := by
  rw [Distinct, upsert_eq_put h]
  exact ((state.keyed h).put session).distinct

theorem distinct_removeWhereMut (h : state.Distinct) (pred : Predicate Session) :
    (state.removeWhereMut pred).2.Distinct :=
  ((state.keyed h).remove pred).2.distinct

theorem holder_upsert (h : state.Distinct) (session : Session) (pair : String × String) :
    (state.upsert session).holder pair =
      if session.pair = pair then some session else state.holder pair := by
  rw [holder, upsert_eq_put h]
  exact KeyedList.find_put (state.keyed h) session pair

theorem holder_removeWhereMut (h : state.Distinct) (pred : Predicate Session)
    (pair : String × String) :
    (state.removeWhereMut pred).2.holder pair =
      (state.holder pair).filter fun session =>
        decide (session ∉ (state.removeWhereMut pred).1) :=
  KeyedList.find_remove (state.keyed h) pred pair

theorem forwardOwner_isSome_iff (user : String) (localPort : UInt16) :
    (state.forwardOwner user localPort).isSome = true <->
      exists session, session ∈ state.sessions ∧ session.user = user ∧
        localPort ∈ session.forwardLocalPorts := by
  rw [forwardOwner, List.find?_isSome]
  simp

end State

/-!
# Runs
-/

inductive StoreAction where
  | upsert (session : Session)
  | removeWhere (pred : Predicate Session)

def StoreAction.change : StoreAction -> List Session -> KeyedList.Change Session
  | .upsert session, _ => .put session
  | .removeWhere _, removed => .removed removed

def sessionStore : TransitionSystem State StoreAction (List Session) where
  step := fun state action =>
    match action with
    | .upsert session => some ([], state.upsert session)
    | .removeWhere pred => some (state.removeWhereMut pred)

/-- An operation keeps the sessions it does not replace or remove, in their
order, and what a removal returns is what its predicate accepted. -/
def KeepsSessions (before : State) (action : StoreAction) (removed : List Session)
    (after : State) : Prop :=
  match action with
  | .upsert session =>
      exists kept, after.sessions = kept ++ [session] ∧
        kept.Sublist before.sessions ∧
        forall other, other ∈ before.sessions ->
          (other ∈ kept <-> other.pair ≠ session.pair)
  | .removeWhere pred =>
      after.sessions.Sublist before.sessions ∧
        removed = ((before.sessions.zip
          (Predicate.answers pred.ask pred.start before.sessions)).filter
            fun asked => asked.2).map Prod.fst ∧
        (removed ++ after.sessions).Perm before.sessions

theorem keepsSessions_step {before after : State} {action : StoreAction}
    {removed : List Session} (h : before.Distinct)
    (hstep : sessionStore.step before action = some (removed, after)) :
    KeepsSessions before action removed after := by
  cases action with
  | upsert session =>
      cases hstep
      refine ⟨_, State.upsert_eq_put h session, List.filter_sublist, ?_⟩
      intro other hother
      rw [List.mem_filter, decide_eq_true_iff]
      exact and_iff_right hother
  | removeWhere pred =>
      cases hstep
      exact ⟨(Predicate.drain_sublist pred.start before.sessions).2,
        Predicate.drain_accepted pred.start before.sessions,
        Predicate.drain_perm pred.start before.sessions⟩

theorem distinct_step {before after : State} {action : StoreAction}
    {removed : List Session} (h : before.Distinct)
    (hstep : sessionStore.step before action = some (removed, after)) :
    after.Distinct := by
  cases action with
  | upsert session =>
      cases hstep
      exact State.distinct_upsert h session
  | removeWhere pred =>
      cases hstep
      exact State.distinct_removeWhereMut h pred

theorem holder_step {before after : State} {action : StoreAction}
    {removed : List Session} (h : before.Distinct)
    (hstep : sessionStore.step before action = some (removed, after))
    (pair : String × String) (rest : List (KeyedList.Change Session)) :
    KeyedList.held Session.pair pair (before.holder pair)
        (action.change removed :: rest) =
      KeyedList.held Session.pair pair (after.holder pair) rest := by
  cases action with
  | upsert session =>
      cases hstep
      rw [State.holder_upsert h]
      rfl
  | removeWhere pred =>
      cases hstep
      show _ = KeyedList.held Session.pair pair
        ((before.removeWhereMut pred).2.holder pair) rest
      rw [State.holder_removeWhereMut h]
      rfl

theorem exists_run (start : State) (actions : List StoreAction) :
    exists outputs final, sessionStore.run start actions = some (outputs, final) := by
  induction actions generalizing start with
  | nil => exact ⟨[], start, rfl⟩
  | cons action rest ih =>
      have hstep : exists removed after,
          sessionStore.step start action = some (removed, after) := by
        cases action with
        | upsert session => exact ⟨_, _, rfl⟩
        | removeWhere pred => exact ⟨_, _, rfl⟩
      rcases hstep with ⟨removed, after, hstep⟩
      rcases ih after with ⟨outputs, final, hrest⟩
      refine ⟨removed :: outputs, final, ?_⟩
      rw [sessionStore.run_cons_of_step hstep, hrest]
      rfl

theorem holder_run {start final : State} {actions : List StoreAction}
    {outputs : List (List Session)} (h : start.Distinct)
    (hrun : sessionStore.run start actions = some (outputs, final))
    (pair : String × String) :
    final.holder pair =
      KeyedList.held Session.pair pair (start.holder pair)
        (List.zipWith StoreAction.change actions outputs) := by
  induction actions generalizing start outputs with
  | nil =>
      cases hrun
      rfl
  | cons action rest ih =>
      rcases sessionStore.run_cons_some hrun with ⟨removed, mid, tail, hstep, hrest, rfl⟩
      rw [List.zipWith_cons_cons, holder_step h hstep, ih (distinct_step h hstep) hrest]

/-- The store is an ordered map, whatever is put in and taken out. -/
theorem sessionStore_orderedMap {start : State} (h : start.Distinct)
    (actions : List StoreAction) :
    exists outputs final, sessionStore.run start actions = some (outputs, final) ∧
      final.Distinct ∧
      (forall pair, final.holder pair =
        KeyedList.held Session.pair pair (start.holder pair)
          (List.zipWith StoreAction.change actions outputs)) ∧
      sessionStore.Along KeepsSessions start actions ∧
      (forall user localPort, (final.forwardOwner user localPort).isSome = true <->
        exists session, session ∈ final.sessions ∧ session.user = user ∧
          localPort ∈ session.forwardLocalPorts) := by
  rcases exists_run start actions with ⟨outputs, final, hrun⟩
  have hstep : forall before action removed after, State.Distinct before ->
      sessionStore.step before action = some (removed, after) ->
        KeepsSessions before action removed after ∧ after.Distinct :=
    fun before action removed after hbefore hafter =>
      ⟨keepsSessions_step hbefore hafter, distinct_step hbefore hafter⟩
  have hkeep : forall before action removed after, State.Distinct before -> True ->
      sessionStore.step before action = some (removed, after) -> after.Distinct :=
    fun before action removed after hbefore _ hafter => distinct_step hbefore hafter
  have hdistinct : final.Distinct :=
    sessionStore.invariant_run hkeep hrun (fun _ _ => trivial) h
  refine ⟨outputs, final, hrun, hdistinct, holder_run h hrun, ?_, ?_⟩
  · exact sessionStore.along_of_invariant State.Distinct hstep h actions
  · exact State.forwardOwner_isSome_iff

def storedSession (user service : String) (localPort : UInt16) : Session where
  user := user
  service := service
  startedAt := 0
  localPort := localPort
  remotePort := 30001
  pid := none
  forwardLocalPorts := [5432]

/-- Two users' sessions, one replaced, and a removal that accepts only the
first session it is asked about. -/
theorem sessionStore_orderedMap_two_users :
    exists outputs final,
      sessionStore.run
        { sessions := [storedSession "alice" "api" 3000, storedSession "bob" "api" 3000] }
        [.upsert (storedSession "alice" "api" 4000),
         .removeWhere
          { memory := Bool
            start := true
            ask := fun first _ => (first, false) }] = some (outputs, final) ∧
        final.Distinct ∧
        final.holder ("alice", "api") = some (storedSession "alice" "api" 4000) := by
  have hdistinct : State.Distinct
      { sessions :=
        [storedSession "alice" "api" 3000, storedSession "bob" "api" 3000] } := by
    rw [State.Distinct]
    decide
  rcases sessionStore_orderedMap hdistinct
    [.upsert (storedSession "alice" "api" 4000),
     .removeWhere
      { memory := Bool
        start := true
        ask := fun first _ => (first, false) }]
    with ⟨outputs, final, hrun, hfinal, hholder, _⟩
  refine ⟨outputs, final, hrun, hfinal, ?_⟩
  rw [hholder]
  cases hrun
  decide

end Laptop

end Ephemwork
