import Mathlib.Logic.Basic

/-!
# Results that may be errors

How a sequence of steps that stop at the first error ends.
-/

namespace Foundation

section

variable {error first second : Type}

theorem bind_eq_ok_iff (step : Except error first)
    (next : first -> Except error second) (value : second) :
    (step >>= next) = .ok value <->
      exists mid, step = .ok mid ∧ next mid = .ok value := by
  cases step with
  | error e => simp [bind, Except.bind]
  | ok mid => simp [bind, Except.bind]

theorem bind_eq_error_iff (step : Except error first)
    (next : first -> Except error second) (e : error) :
    (step >>= next) = .error e <->
      step = .error e ∨ exists mid, step = .ok mid ∧ next mid = .error e := by
  cases step with
  | error e' => simp [bind, Except.bind]
  | ok mid => simp [bind, Except.bind]

theorem toOption_eq_of_ok_iff {value : Type} {left right : Except error value}
    (h : forall a, left = .ok a <-> right = .ok a) :
    left.toOption = right.toOption := by
  cases left with
  | ok a => rw [(h a).mp rfl]
  | error e =>
      cases right with
      | ok a => cases (h a).mpr rfl
      | error e' => rfl

/-!
# Errors that do not occur
-/

def Avoids (bad : error -> Prop) (result : Except error first) : Prop :=
  forall e, result = .error e -> ¬ bad e

variable {bad : error -> Prop}

theorem Avoids.of_ok (value : first) :
    Avoids bad (Except.ok value : Except error first) := by
  intro e h
  cases h

theorem Avoids.of_error {e : error} (h : ¬ bad e) :
    Avoids bad (Except.error e : Except error first) := by
  intro e' heq
  cases heq
  exact h

theorem Avoids.bind {step : Except error first}
    {next : first -> Except error second} (hstep : Avoids bad step)
    (hnext : forall mid, step = .ok mid -> Avoids bad (next mid)) :
    Avoids bad (step >>= next) := by
  intro e h
  rcases (bind_eq_error_iff step next e).mp h with hfirst | ⟨mid, hmid, hsecond⟩
  · exact hstep e hfirst
  · exact hnext mid hmid e hsecond

end

end Foundation
