import Ephemwork.Foundation.Calls

/-!
# Calls with a log

A call that is entered in a log as it is made.  Under the log it is the call that it
was, and the log tells which calls were made and in which order, however they ended.
-/

namespace Foundation

variable {state error value value' : Type} {entry : Type}

namespace Call

def trace (made : entry) (call : Call state error value) :
    Call (state × List entry) error value :=
  ofFn fun s => ((call.exec s.1).1, ((call.exec s.1).2, s.2 ++ [made]))

theorem exec_trace (made : entry) (call : Call state error value)
    (s : state × List entry) :
    (call.trace made).exec s =
      ((call.exec s.1).1, ((call.exec s.1).2, s.2 ++ [made])) := rfl

end Call

/-!
# What the log holds
-/

theorem Triple.trace (made : entry) (call : Call state error value) (done : List entry) :
    Triple (fun s => s.2 = done) (call.trace made) (fun _ s => s.2 = done ++ [made])
      (fun _ s => s.2 = done ++ [made]) := by
  have hlog : forall s : state × List entry, s.2 = done ->
      ((call.trace made).exec s).2.2 = done ++ [made] := by
    intro s hs
    rw [← hs]
    rfl
  refine Triple.intro ?_ ?_
  · intro s a t hs hexec
    have hafter := hlog s hs
    rw [hexec] at hafter
    exact hafter
  · intro s e t hs hexec
    have hafter := hlog s hs
    rw [hexec] at hafter
    exact hafter

/-!
# Calls that are the same under a view
-/

section

variable {wide : Type} (view : wide -> state)

/-- Seen through the view, the one call ends as the other and leaves what it leaves. -/
def Projects (call' : Call wide error value) (call : Call state error value) : Prop :=
  forall s, (call'.exec s).1 = (call.exec (view s)).1 ∧
    view (call'.exec s).2 = (call.exec (view s)).2

theorem Projects.pure (a : value) :
    Projects view (Pure.pure a : Call wide error value) (Pure.pure a) :=
  fun _ => ⟨rfl, rfl⟩

theorem Projects.throw (e : error) :
    Projects view (MonadExcept.throw e : Call wide error value) (MonadExcept.throw e) :=
  fun _ => ⟨rfl, rfl⟩

variable {view}

theorem Projects.bind {call' : Call wide error value} {call : Call state error value}
    {next' : value -> Call wide error value'} {next : value -> Call state error value'}
    (hcall : Projects view call' call)
    (hnext : forall a, Projects view (next' a) (next a)) :
    Projects view (call' >>= next') (call >>= next) := by
  intro s
  rw [Call.exec_bind, Call.exec_bind]
  rcases hcall s with ⟨hresult, hstate⟩
  cases hexec' : call'.exec s with
  | mk result' t' =>
      cases hexec : call.exec (view s) with
      | mk result t =>
          rw [hexec', hexec] at hresult hstate
          dsimp only at hresult hstate
          rw [hresult, ← hstate]
          cases result with
          | ok a => exact hnext a t'
          | error e => exact ⟨rfl, rfl⟩

end

theorem Projects.trace (made : entry) (call : Call state error value) :
    Projects Prod.fst (call.trace made) call :=
  fun _ => ⟨rfl, rfl⟩

end Foundation
