import Mathlib.Logic.Basic

/-!
# Calls into an environment

A program that acts on an environment which may refuse: every call ends in a
value or in an error, and either way leaves the environment in some state.  A
triple says what holds before a call, what holds if it returns a value and what
holds if it fails.
-/

namespace Foundation

abbrev Call (state error value : Type) : Type :=
  ExceptT error (StateM state) value

namespace Call

variable {state error error' value value' : Type}

def exec (call : Call state error value) (s : state) : Except error value × state :=
  call.run s

def ofFn (f : state -> Except error value × state) : Call state error value :=
  ExceptT.mk f

def onError (f : error -> error') (call : Call state error value) :
    Call state error' value :=
  ofFn fun s => ((call.exec s).1.mapError f, (call.exec s).2)

def attempt (call : Call state error value) :
    Call state error' (Except error value) :=
  ofFn fun s => (.ok (call.exec s).1, (call.exec s).2)

def skipIf (test : Bool) (call : Call state error Unit) : Call state error Unit :=
  if test then pure () else call

def record (call : Call state error value) :
    Call (state × List state) error value :=
  ofFn fun s => ((call.exec s.1).1, ((call.exec s.1).2, (call.exec s.1).2 :: s.2))

@[simp] theorem exec_ofFn (f : state -> Except error value × state) (s : state) :
    (ofFn f).exec s = f s := rfl

@[simp] theorem exec_pure (a : value) (s : state) :
    (pure a : Call state error value).exec s = (.ok a, s) := rfl

@[simp] theorem exec_throw (e : error) (s : state) :
    (throw e : Call state error value).exec s = (.error e, s) := rfl

theorem exec_bind (call : Call state error value)
    (next : value -> Call state error value') (s : state) :
    (call >>= next).exec s =
      match call.exec s with
      | (.ok a, t) => (next a).exec t
      | (.error e, t) => (.error e, t) := by
  unfold exec ExceptT.run
  simp only [bind, ExceptT.bind, ExceptT.mk, StateT.bind, ExceptT.bindCont]
  cases call s with
  | mk result t =>
      cases result with
      | ok a => rfl
      | error e => rfl

theorem bind_eq_ok_iff (call : Call state error value)
    (next : value -> Call state error value') (s : state) (b : value') :
    ((call >>= next).exec s).1 = .ok b <->
      exists a t, call.exec s = (.ok a, t) ∧ ((next a).exec t).1 = .ok b := by
  rw [exec_bind]
  cases hexec : call.exec s with
  | mk result t =>
      cases result with
      | ok a =>
          constructor
          · intro h
            exact ⟨a, t, rfl, h⟩
          · intro h
            rcases h with ⟨a', t', heq, h⟩
            cases heq
            exact h
      | error e =>
          constructor
          · intro h
            cases h
          · intro h
            rcases h with ⟨_, _, heq, _⟩
            cases heq

end Call

/-!
# Triples
-/

section Triples

variable {state error error' value value' : Type}

/-- From a state in `pre` the call ends in a value with `post` or in an error
with `fail`. -/
def Triple (pre : state -> Prop) (call : Call state error value)
    (post : value -> state -> Prop) (fail : error -> state -> Prop) : Prop :=
  forall s, pre s ->
    match call.exec s with
    | (.ok a, t) => post a t
    | (.error e, t) => fail e t

variable {pre pre' : state -> Prop} {post : value -> state -> Prop}
variable {fail : error -> state -> Prop} {call : Call state error value}

theorem Triple.of_ok (h : Triple pre call post fail) {s t : state} (hs : pre s)
    {a : value} (hexec : call.exec s = (.ok a, t)) : post a t := by
  have hspec := h s hs
  rw [hexec] at hspec
  exact hspec

theorem Triple.of_error (h : Triple pre call post fail) {s t : state} (hs : pre s)
    {e : error} (hexec : call.exec s = (.error e, t)) : fail e t := by
  have hspec := h s hs
  rw [hexec] at hspec
  exact hspec

theorem Triple.intro
    (hok : forall s a t, pre s -> call.exec s = (.ok a, t) -> post a t)
    (herror : forall s e t, pre s -> call.exec s = (.error e, t) -> fail e t) :
    Triple pre call post fail := by
  intro s hs
  split
  · next a t hexec => exact hok s a t hs hexec
  · next e t hexec => exact herror s e t hs hexec

theorem Triple.pure {a : value} (h : forall s, pre s -> post a s) :
    Triple pre (Pure.pure a : Call state error value) post fail := h

theorem Triple.throw {e : error} (h : forall s, pre s -> fail e s) :
    Triple pre (MonadExcept.throw e : Call state error value) post fail := h

theorem Triple.bind {M : value -> state -> Prop} {post' : value' -> state -> Prop}
    {next : value -> Call state error value'} (hcall : Triple pre call M fail)
    (hnext : forall a, Triple (M a) (next a) post' fail) :
    Triple pre (call >>= next) post' fail := by
  intro s hs
  rw [Call.exec_bind]
  cases hexec : call.exec s with
  | mk result t =>
      cases result with
      | ok a => exact hnext a t (hcall.of_ok hs hexec)
      | error e => exact hcall.of_error hs hexec

theorem Triple.conseq {post' : value -> state -> Prop}
    {fail' : error -> state -> Prop} (h : Triple pre' call post' fail')
    (hpre : forall s, pre s -> pre' s)
    (hpost : forall a s, post' a s -> post a s)
    (hfail : forall e s, fail' e s -> fail e s) :
    Triple pre call post fail := by
  refine Triple.intro ?_ ?_
  · intro s a t hs hexec
    exact hpost a t (h.of_ok (hpre s hs) hexec)
  · intro s e t hs hexec
    exact hfail e t (h.of_error (hpre s hs) hexec)

theorem Triple.weaken (h : Triple pre' call post fail)
    (hpre : forall s, pre s -> pre' s) : Triple pre call post fail :=
  h.conseq hpre (fun _ _ hpost => hpost) fun _ _ hfail => hfail

theorem Triple.of_fact {fact : Prop} (h : fact -> Triple pre call post fail) :
    Triple (fun s => fact ∧ pre s) call post fail :=
  fun s hs => h hs.left s hs.right

theorem Triple.of_exists {choice : Type} {chosen : choice -> state -> Prop}
    (h : forall x, Triple (chosen x) call post fail) :
    Triple (fun s => exists x, chosen x s) call post fail := by
  intro s hs
  rcases hs with ⟨x, hx⟩
  exact h x s hx

theorem Triple.of_view {account : Type} (view : state -> account)
    (before : account -> Prop)
    (h : forall A, before A -> Triple (fun s => view s = A) call post fail) :
    Triple (fun s => before (view s)) call post fail := by
  intro s hs
  exact h (view s) hs s rfl

theorem Triple.onError {f : error -> error'} {fail' : error' -> state -> Prop}
    (h : Triple pre call post fun e s => fail' (f e) s) :
    Triple pre (call.onError f) post fail' := by
  intro s hs
  cases hexec : call.exec s with
  | mk result t =>
      cases result with
      | ok a =>
          simp only [Call.onError, Call.exec_ofFn, hexec]
          exact h.of_ok hs hexec
      | error e =>
          simp only [Call.onError, Call.exec_ofFn, hexec]
          exact h.of_error hs hexec

theorem Triple.attempt {post' : Except error value -> state -> Prop}
    {fail' : error' -> state -> Prop}
    (h : Triple pre call (fun a s => post' (.ok a) s) fun e s => post' (.error e) s) :
    Triple pre call.attempt post' fail' := by
  intro s hs
  cases hexec : call.exec s with
  | mk result t =>
      cases result with
      | ok a => simpa [Call.attempt, hexec] using h.of_ok hs hexec
      | error e => simpa [Call.attempt, hexec] using h.of_error hs hexec

theorem Triple.skipIf {test : Bool} {call : Call state error Unit}
    {post : Unit -> state -> Prop} (hskip : test = true -> forall s, pre s -> post () s)
    (hcall : test = false -> Triple pre call post fail) :
    Triple pre (Call.skipIf test call) post fail := by
  cases test with
  | true => exact Triple.pure (hskip rfl)
  | false => exact hcall rfl

theorem Triple.forM {item : Type} {inv : state -> Prop} {items : List item}
    {body : item -> Call state error Unit}
    (hbody : forall x, x ∈ items -> Triple inv (body x) (fun _ => inv) fail) :
    Triple inv (items.forM body) (fun _ => inv) fail := by
  induction items with
  | nil => exact Triple.pure fun _ hs => hs
  | cons x rest ih =>
      have hrest : forall y, y ∈ rest -> Triple inv (body y) (fun _ => inv) fail :=
        fun y hy => hbody y (List.mem_cons_of_mem x hy)
      exact Triple.bind (hbody x List.mem_cons_self) fun _ => ih hrest

theorem Triple.forM_done {item : Type} (inv : List item -> state -> Prop)
    {body : item -> Call state error Unit}
    (hbody : forall done x,
      Triple (inv done) (body x) (fun _ => inv (done ++ [x])) fail)
    (done items : List item) :
    Triple (inv done) (items.forM body) (fun _ => inv (done ++ items)) fail := by
  induction items generalizing done with
  | nil =>
      apply Triple.pure
      intro s hs
      rw [List.append_nil]
      exact hs
  | cons x rest ih =>
      have hrest := ih (done ++ [x])
      rw [List.append_assoc, List.singleton_append] at hrest
      exact Triple.bind (hbody done x) fun _ => hrest

theorem Triple.record {seen : state -> Prop} (h : Triple pre call post fail)
    (hpost : forall a s, post a s -> seen s) (hfail : forall e s, fail e s -> seen s) :
    Triple (fun s => pre s.1 ∧ forall t, t ∈ s.2 -> seen t) call.record
      (fun a s => post a s.1 ∧ forall t, t ∈ s.2 -> seen t)
      (fun e s => fail e s.1 ∧ forall t, t ∈ s.2 -> seen t) := by
  intro s hs
  cases hexec : call.exec s.1 with
  | mk result t =>
      cases result with
      | ok a =>
          have ht := h.of_ok hs.left hexec
          simpa [Call.record, hexec] using ⟨ht, hpost a t ht, hs.right⟩
      | error e =>
          have ht := h.of_error hs.left hexec
          simpa [Call.record, hexec] using ⟨ht, hfail e t ht, hs.right⟩

end Triples

/-!
# Recorded calls
-/

section Recorded

variable {state error value value' : Type}

/-- The call does, on states that keep a record, what the other does. -/
def Mirrors (recorded : Call (state × List state) error value)
    (call : Call state error value) : Prop :=
  forall s, (recorded.exec s).1 = (call.exec s.1).1 ∧
    (recorded.exec s).2.1 = (call.exec s.1).2

theorem Mirrors.record (call : Call state error value) : Mirrors call.record call :=
  fun _ => ⟨rfl, rfl⟩

theorem Mirrors.pure (a : value) :
    Mirrors (Pure.pure a : Call (state × List state) error value) (Pure.pure a) :=
  fun _ => ⟨rfl, rfl⟩

theorem Mirrors.throw (e : error) :
    Mirrors (MonadExcept.throw e : Call (state × List state) error value)
      (MonadExcept.throw e) :=
  fun _ => ⟨rfl, rfl⟩

theorem Mirrors.bind {recorded : Call (state × List state) error value}
    {call : Call state error value}
    {next' : value -> Call (state × List state) error value'}
    {next : value -> Call state error value'} (hcall : Mirrors recorded call)
    (hnext : forall a, Mirrors (next' a) (next a)) :
    Mirrors (recorded >>= next') (call >>= next) := by
  intro s
  rcases hcall s with ⟨hresult, hstate⟩
  rw [Call.exec_bind, Call.exec_bind]
  cases hexec : call.exec s.1 with
  | mk result t =>
      cases hexec' : recorded.exec s with
      | mk result' t' =>
          rw [hexec, hexec'] at hresult hstate
          cases hresult
          cases hstate
          cases result with
          | ok a => exact hnext a t'
          | error e => exact ⟨rfl, rfl⟩

end Recorded

/-!
# Calls as seen through a view

What a call does is known of a part of the state only, the view.  A call that
fails may have had its effect all the same.
-/

section Views

variable {state error value account : Type}

/-- The call leaves the view as it is and answers about it. -/
def Reads (view : state -> account) (call : Call state error value)
    (answer : account -> Except error value -> Prop) : Prop :=
  forall s, view (call.exec s).2 = view s ∧ answer (view s) (call.exec s).1

/-- The call has its effect on the view, or fails with or without it. -/
def Performs (view : state -> account) (call : Call state error value)
    (effect : account -> value -> account -> Prop) : Prop :=
  forall s,
    match call.exec s with
    | (.ok a, t) => effect (view s) a (view t)
    | (.error _, t) => view t = view s ∨ exists a, effect (view s) a (view t)

variable {view : state -> account} {call : Call state error value}

theorem Reads.imp {answer answer' : account -> Except error value -> Prop}
    (h : Reads view call answer) (himp : forall A result, answer A result ->
      answer' A result) : Reads view call answer' :=
  fun s => ⟨(h s).left, himp (view s) _ (h s).right⟩

theorem Reads.triple {answer : account -> Except error value -> Prop}
    (h : Reads view call answer) (inv : account -> Prop) :
    Triple (fun s => inv (view s)) call
      (fun a s => inv (view s) ∧ answer (view s) (.ok a))
      (fun e s => inv (view s) ∧ answer (view s) (.error e)) := by
  refine Triple.intro ?_ ?_
  · intro s a t hs hexec
    have hread := h s
    rw [hexec] at hread
    rw [hread.left]
    exact ⟨hs, hread.right⟩
  · intro s e t hs hexec
    have hread := h s
    rw [hexec] at hread
    rw [hread.left]
    exact ⟨hs, hread.right⟩

theorem Performs.triple {effect : account -> value -> account -> Prop}
    (h : Performs view call effect) (before : account -> Prop)
    (post : value -> account -> Prop) (fail : account -> Prop)
    (heffect : forall A a A', before A -> effect A a A' -> post a A')
    (hfail : forall A, before A -> fail A)
    (hdone : forall A a A', before A -> effect A a A' -> fail A') :
    Triple (fun s => before (view s)) call (fun a s => post a (view s))
      (fun _ s => fail (view s)) := by
  intro s hs
  have hcall := h s
  split at hcall
  · next a t _ => exact heffect (view s) a (view t) hs hcall
  · next e t _ =>
      rcases hcall with hsame | ⟨a, ha⟩
      · show fail (view t)
        rw [hsame]
        exact hfail (view s) hs
      · exact hdone (view s) a (view t) hs ha

theorem Performs.keeps {effect : account -> value -> account -> Prop}
    (h : Performs view call effect) {inv : account -> Prop}
    (heffect : forall A a A', inv A -> effect A a A' -> inv A') :
    Triple (fun s => inv (view s)) call (fun _ s => inv (view s))
      (fun _ s => inv (view s)) :=
  h.triple inv (fun _ A => inv A) inv heffect (fun _ hA => hA) heffect

theorem Performs.establishes {effect : account -> value -> account -> Prop}
    (h : Performs view call effect) (before : account -> Prop)
    (post : value -> account -> Prop)
    (heffect : forall A a A', before A -> effect A a A' -> post a A') :
    Triple (fun s => before (view s)) call (fun a s => post a (view s))
      (fun _ _ => True) :=
  h.triple before post (fun _ => True) heffect (fun _ _ => trivial)
    (fun _ _ _ _ _ => trivial)

theorem Performs.becomes {f : account -> account}
    (h : Performs view call fun A _ A' => A' = f A) (A : account) :
    Triple (fun s => view s = A) call (fun _ s => view s = f A)
      (fun _ s => view s = A ∨ view s = f A) := by
  refine h.triple (fun B => B = A) (fun _ B => B = f A) (fun B => B = A ∨ B = f A)
    ?_ (fun _ hB => Or.inl hB) ?_
  · intro B _ B' hB hB'
    rw [hB', hB]
  · intro B _ B' hB hB'
    exact Or.inr (by rw [hB', hB])

end Views

end Foundation
