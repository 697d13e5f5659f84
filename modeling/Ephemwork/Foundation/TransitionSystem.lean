import Mathlib.Logic.Basic

/-!
# Transition systems

A transition system here is a partial step function: an action carries every
choice of its environment (which request arrives, which write fails, where the
process dies), so one action leads from one state to at most one successor and
a run can be evaluated.  Properties of whole runs are stated with
`Along`, which asks something of every step of a run, and are proved with
the rules at the end of the module.
-/

namespace Foundation

universe u v w

/-- A system whose steps consume an action and emit an output. -/
structure TransitionSystem (state : Type u) (action : Type v) (output : Type w) where
  step : state -> action -> Option (output × state)

namespace TransitionSystem

variable {state : Type u} {action : Type v} {output : Type w}
variable (S : TransitionSystem state action output)

def run : state -> List action -> Option (List output × state)
  | s, [] => some ([], s)
  | s, a :: rest =>
      match S.step s a with
      | none => none
      | some (o, t) => (run t rest).map fun result => (o :: result.1, result.2)

@[simp] theorem run_nil (s : state) : S.run s [] = some ([], s) := rfl

theorem run_cons_of_step {s t : state} {a : action} {o : output}
    (hstep : S.step s a = some (o, t)) (rest : List action) :
    S.run s (a :: rest) =
      (S.run t rest).map fun result => (o :: result.1, result.2) := by
  simp [run, hstep]

theorem run_cons_some {s u : state} {a : action} {rest : List action}
    {outputs : List output} (h : S.run s (a :: rest) = some (outputs, u)) :
    exists o t tail, S.step s a = some (o, t) ∧
      S.run t rest = some (tail, u) ∧ outputs = o :: tail := by
  cases hstep : S.step s a with
  | none => simp [run, hstep] at h
  | some result =>
      rcases result with ⟨o, t⟩
      rw [S.run_cons_of_step hstep] at h
      cases hrest : S.run t rest with
      | none => simp [hrest] at h
      | some result =>
          rcases result with ⟨tail, last⟩
          simp only [hrest, Option.map_some, Option.some.injEq,
            Prod.mk.injEq] at h
          rcases h with ⟨rfl, rfl⟩
          exact ⟨o, t, tail, rfl, hrest, rfl⟩

theorem run_append {s t u : state} {first rest : List action}
    {outputs outputs' : List output} (hfirst : S.run s first = some (outputs, t))
    (hrest : S.run t rest = some (outputs', u)) :
    S.run s (first ++ rest) = some (outputs ++ outputs', u) := by
  induction first generalizing s outputs with
  | nil =>
      cases hfirst
      exact hrest
  | cons a first ih =>
      rcases S.run_cons_some hfirst with ⟨o, mid, tail, hstep, htail, rfl⟩
      rw [List.cons_append, S.run_cons_of_step hstep, ih htail]
      rfl

theorem run_append_some {s u : state} {first rest : List action}
    {outputs : List output} (h : S.run s (first ++ rest) = some (outputs, u)) :
    exists begun t ended, S.run s first = some (begun, t) ∧
      S.run t rest = some (ended, u) ∧ outputs = begun ++ ended := by
  induction first generalizing s outputs with
  | nil => exact ⟨[], s, outputs, rfl, h, rfl⟩
  | cons a first ih =>
      rw [List.cons_append] at h
      rcases S.run_cons_some h with ⟨o, mid, tail, hstep, hrest, rfl⟩
      rcases ih hrest with ⟨begun, t, ended, hbegun, hended, rfl⟩
      refine ⟨o :: begun, t, ended, ?_, hended, rfl⟩
      rw [S.run_cons_of_step hstep, hbegun]
      rfl

/-!
# Properties of every step of a run

`Along P s actions` says that every step performed while running
`actions` from `s` satisfies `P`, which sees the state before
the step, the action, the output and the state after it.
-/

def Along (P : state -> action -> output -> state -> Prop) :
    state -> List action -> Prop
  | _, [] => True
  | s, a :: rest =>
      forall o t, S.step s a = some (o, t) -> P s a o t ∧ Along P t rest

@[simp] theorem along_nil (P : state -> action -> output -> state -> Prop)
    (s : state) : S.Along P s [] := trivial

theorem along_cons_of_step {P : state -> action -> output -> state -> Prop}
    {s t : state} {a : action} {o : output}
    (hstep : S.step s a = some (o, t)) (rest : List action) :
    S.Along P s (a :: rest) <-> P s a o t ∧ S.Along P t rest := by
  constructor
  · intro h
    exact h o t hstep
  · intro h o' t' hstep'
    rw [hstep] at hstep'
    cases hstep'
    exact h

/-!
# The invariant rules

The rules speak of runs whose actions are all `Allowed`, which restricts the
environment.
-/

/-- A state predicate kept by every allowed step holds at the end of every run
of allowed steps. -/
theorem invariant_run {Inv : state -> Prop} {Allowed : action -> Prop}
    (hstep : forall s a o t, Inv s -> Allowed a -> S.step s a = some (o, t) ->
      Inv t)
    {s t : state} {actions : List action} {outputs : List output}
    (hrun : S.run s actions = some (outputs, t))
    (hallowed : forall a, a ∈ actions -> Allowed a) (hinv : Inv s) : Inv t := by
  induction actions generalizing s outputs with
  | nil =>
      cases hrun
      exact hinv
  | cons a rest ih =>
      rcases S.run_cons_some hrun with ⟨o, mid, tail, ha, hrest, _⟩
      have hmid := hstep s a o mid hinv (hallowed a (by simp)) ha
      exact ih hrest (fun b hb => hallowed b (by simp [hb])) hmid

/-- What no step brings about but one with the cause was there before the run, or one of
the actions is the cause. -/
theorem exists_cause {Inv P : state -> Prop} {Cause : action -> Prop}
    (hinv : forall s a o t, Inv s -> S.step s a = some (o, t) -> Inv t)
    (hstep : forall s a o t, Inv s -> S.step s a = some (o, t) -> P t -> P s ∨ Cause a)
    {s t : state} {actions : List action} {outputs : List output}
    (hrun : S.run s actions = some (outputs, t)) (hs : Inv s) (ht : P t) :
    P s ∨ exists a, a ∈ actions ∧ Cause a := by
  induction actions generalizing s outputs with
  | nil =>
      cases hrun
      exact Or.inl ht
  | cons a rest ih =>
      rcases S.run_cons_some hrun with ⟨o, mid, tail, ha, hrest, _⟩
      rcases ih hrest (hinv s a o mid hs ha) with hmid | ⟨b, hb, hcause⟩
      · rcases hstep s a o mid hs ha hmid with hs | hcause
        · exact Or.inl hs
        · exact Or.inr ⟨a, List.mem_cons_self, hcause⟩
      · exact Or.inr ⟨b, List.mem_cons_of_mem a hb, hcause⟩

/-- What the cause brings about and every step keeps holds at the end of a run in which
the cause was among the actions. -/
theorem of_cause {Inv P : state -> Prop} {Cause : action -> Prop}
    (hinv : forall s a o t, Inv s -> S.step s a = some (o, t) -> Inv t)
    (hcause : forall s a o t, Inv s -> Cause a -> S.step s a = some (o, t) -> P t)
    (hkeep : forall s a o t, Inv s -> P s -> S.step s a = some (o, t) -> P t)
    {s t : state} {actions : List action} {outputs : List output}
    (hrun : S.run s actions = some (outputs, t)) (hs : Inv s) {a : action}
    (ha : a ∈ actions) (hcaused : Cause a) : P t := by
  rcases List.append_of_mem ha with ⟨first, rest, rfl⟩
  rcases S.run_append_some hrun with ⟨_, mid, _, hfirst, hrest, _⟩
  rcases S.run_cons_some hrest with ⟨o, after, _, hstep, htail, _⟩
  have hmid : Inv mid := S.invariant_run (fun s a o t hs _ => hinv s a o t hs) hfirst
    (fun _ _ => trivial) hs
  have hafter : Inv after ∧ P after := ⟨hinv mid a o after hmid hstep,
    hcause mid a o after hmid hcaused hstep⟩
  have hboth : forall s a o t, Inv s ∧ P s -> True -> S.step s a = some (o, t) ->
      Inv t ∧ P t :=
    fun s a o t hs _ hst => ⟨hinv s a o t hs.left hst, hkeep s a o t hs.left hs.right hst⟩
  have hend : Inv t ∧ P t := S.invariant_run hboth htail (fun _ _ => trivial) hafter
  exact hend.right

/-- Where every counted step uses up some of what is left and no step adds to it, what
is left bounds the counted steps of a run. -/
theorem countP_le_of_budget {Inv : state -> Prop} {counted : action -> Bool}
    {left : state -> Nat}
    (hstep : forall s a o t, Inv s -> S.step s a = some (o, t) ->
      Inv t ∧ left t + (counted a).toNat ≤ left s)
    {s t : state} {actions : List action} {outputs : List output}
    (hrun : S.run s actions = some (outputs, t)) (hinv : Inv s) :
    actions.countP counted + left t ≤ left s := by
  induction actions generalizing s outputs with
  | nil =>
      cases hrun
      simp
  | cons a rest ih =>
      rcases S.run_cons_some hrun with ⟨o, mid, tail, ha, hrest, _⟩
      rcases hstep s a o mid hinv ha with ⟨hmid, hleft⟩
      have hcount := ih hrest hmid
      rw [List.countP_cons]
      cases hcounted : counted a with
      | true =>
          simp only [hcounted, Bool.toNat_true, if_true] at hleft ⊢
          omega
      | false =>
          simp only [hcounted, Bool.toNat_false, Bool.false_eq_true, if_false] at hleft ⊢
          omega

/-- Where every step from an invariant state satisfies `P` and keeps the
invariant, so does every step of a run. -/
theorem along_of_invariant (Inv : state -> Prop)
    {P : state -> action -> output -> state -> Prop}
    (hstep : forall s a o t, Inv s -> S.step s a = some (o, t) -> P s a o t ∧ Inv t)
    {s : state} (hinv : Inv s) (actions : List action) : S.Along P s actions := by
  induction actions generalizing s with
  | nil => exact S.along_nil P s
  | cons a rest ih =>
      intro o t ha
      rcases hstep s a o t hinv ha with ⟨hp, ht⟩
      exact ⟨hp, ih ht⟩

/-- Where a step from an invariant state that meets `Q` satisfies `P` and keeps the
invariant, a run that meets `Q` throughout satisfies `P` throughout. -/
theorem along_of_along (Inv : state -> Prop)
    {P Q : state -> action -> output -> state -> Prop}
    (hstep : forall s a o t, Inv s -> S.step s a = some (o, t) -> Q s a o t ->
      P s a o t ∧ Inv t)
    {s : state} (hinv : Inv s) {actions : List action} (hmeets : S.Along Q s actions) :
    S.Along P s actions := by
  induction actions generalizing s with
  | nil => exact S.along_nil P s
  | cons a rest ih =>
      intro o t ha
      rcases hmeets o t ha with ⟨hq, hmeets⟩
      rcases hstep s a o t hinv ha hq with ⟨hp, ht⟩
      exact ⟨hp, ih ht hmeets⟩

theorem along_imp {Allowed : action -> Prop}
    {P Q : state -> action -> output -> state -> Prop}
    (himp : forall s a o t, Allowed a -> S.step s a = some (o, t) ->
      Q s a o t -> P s a o t)
    {s : state} {actions : List action} (hallowed : forall a, a ∈ actions -> Allowed a)
    (hmeets : S.Along Q s actions) : S.Along P s actions := by
  induction actions generalizing s with
  | nil => exact S.along_nil P s
  | cons a rest ih =>
      have hrest : forall b, b ∈ rest -> Allowed b :=
        fun b hb => hallowed b (List.mem_cons_of_mem a hb)
      intro o t hstep
      rcases hmeets o t hstep with ⟨hq, hmeets⟩
      exact ⟨himp s a o t (hallowed a List.mem_cons_self) hstep hq, ih hrest hmeets⟩

/-- A state predicate kept by every step that meets `Q` holds at the end
of every run that meets `Q` throughout. -/
theorem invariant_along {Inv : state -> Prop}
    {Q : state -> action -> output -> state -> Prop}
    (hstep : forall s a o t, Inv s -> S.step s a = some (o, t) ->
      Q s a o t -> Inv t)
    {s t : state} {actions : List action} {outputs : List output}
    (hrun : S.run s actions = some (outputs, t)) (hmeets : S.Along Q s actions)
    (hinv : Inv s) : Inv t := by
  induction actions generalizing s outputs with
  | nil =>
      cases hrun
      exact hinv
  | cons a rest ih =>
      rcases S.run_cons_some hrun with ⟨o, mid, tail, ha, hrest, _⟩
      rcases hmeets o mid ha with ⟨hq, hmeets⟩
      exact ih hrest hmeets (hstep s a o mid hinv ha hq)

/-- Where the steps that meet `Q` keep the invariant, and from an
invariant state a step satisfies `P` exactly if it meets `Q`, the
runs satisfying `P` throughout are the runs meeting `Q` throughout. -/
theorem along_iff {Inv : state -> Prop} {Allowed : action -> Prop}
    {P Q : state -> action -> output -> state -> Prop}
    (hkeep : forall s a o t, Inv s -> Allowed a -> S.step s a = some (o, t) ->
      Q s a o t -> Inv t)
    (hiff : forall s a o t, Inv s -> Allowed a -> S.step s a = some (o, t) ->
      (P s a o t <-> Q s a o t))
    {s : state} (hinv : Inv s) {actions : List action}
    (hallowed : forall a, a ∈ actions -> Allowed a) :
    S.Along P s actions <-> S.Along Q s actions := by
  induction actions generalizing s with
  | nil => simp
  | cons a rest ih =>
      have ha := hallowed a (by simp)
      have hrestAllowed : forall b, b ∈ rest -> Allowed b :=
        fun b hb => hallowed b (by simp [hb])
      constructor
      · intro h o t hstep
        rcases h o t hstep with ⟨hp, hrest⟩
        have hq := (hiff s a o t hinv ha hstep).mp hp
        have ht := hkeep s a o t hinv ha hstep hq
        exact ⟨hq, (ih ht hrestAllowed).mp hrest⟩
      · intro h o t hstep
        rcases h o t hstep with ⟨hq, hrest⟩
        have ht := hkeep s a o t hinv ha hstep hq
        exact ⟨(hiff s a o t hinv ha hstep).mpr hq,
          (ih ht hrestAllowed).mpr hrest⟩

/-!
# Running two systems side by side

The product performs each action in both systems.  A refinement is an
`Along` property of the product of a system with its specification.
-/

section Product

universe u' w'

variable {state' : Type u'} {output' : Type w'}

def product (T : TransitionSystem state' action output') :
    TransitionSystem (state × state') action (output × output') where
  step := fun s a =>
    match S.step s.1 a, T.step s.2 a with
    | some (o, t), some (o', t') => some ((o, o'), (t, t'))
    | _, _ => none

end Product

end TransitionSystem

end Foundation
