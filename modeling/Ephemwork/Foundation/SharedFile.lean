import Mathlib.Data.List.Nodup
import Ephemwork.Foundation.AtomicFile
import Ephemwork.Foundation.TransitionSystem

/-!
# Updating a shared file

Any number of processes that each read a file, change what they read in memory,
write the result to a temporary file and rename that over the target.  All use
the same temporary file, and their steps interleave.  A process publishes its
own update of the current contents only if nobody else published since it read
or wrote since it wrote; where every rename does, the processes have run one
after the other.
-/

namespace Foundation

/-!
# The steps of an update
-/

inductive UpdatePhase (value result error : Type) where
  | idle
  | loaded (read : value)
  | modified (answer : result) (changed : value)
  | written (answer : result) (changed : value)
  | done (answer : result)
  | failed (e : error)

def UpdatePhase.isPending {value result error : Type} :
    UpdatePhase value result error -> Bool
  | .loaded _ => true
  | .modified _ _ => true
  | .written _ _ => true
  | _ => false

/-- What the processes share, and what each of them changes. -/
structure FileUpdates (path process value result error : Type) where
  target : path
  temporary : path
  load : Option Bytes -> Except error value
  encode : value -> Bytes
  update : process -> value -> result × value
  /-- The error of a rename that finds no file. -/
  notFound : error

structure UpdateState (path process value result error : Type) where
  files : FileSystem path
  phase : process -> UpdatePhase value result error

namespace UpdateState

variable {path process value result error : Type} [DecidableEq process]

def enter (s : UpdateState path process value result error) (p : process)
    (phase : UpdatePhase value result error) :
    UpdateState path process value result error where
  files := s.files
  phase := Function.update s.phase p phase

def exec [DecidableEq path]
    (s : UpdateState path process value result error) (op : FileOp path) :
    UpdateState path process value result error where
  files := op.exec s.files
  phase := s.phase

variable (s : UpdateState path process value result error) (p : process)
  (phase : UpdatePhase value result error)

@[simp] theorem enter_files : (s.enter p phase).files = s.files := rfl

@[simp] theorem enter_phase_self : (s.enter p phase).phase p = phase :=
  Function.update_self _ _ _

@[simp] theorem enter_phase_of_ne {q : process} (h : q ≠ p) :
    (s.enter p phase).phase q = s.phase q :=
  Function.update_of_ne h _ _

end UpdateState

namespace FileUpdates

variable {path process value result error : Type}
  (U : FileUpdates path process value result error)

/-!
# Updates one after the other
-/

def Faithful : Prop :=
  forall v, U.load (some (U.encode v)) = .ok v

def after (contents : Option Bytes) (p : process) : Option Bytes :=
  match U.load contents with
  | .ok read => some (U.encode (U.update p read).2)
  | .error _ => contents

variable {U}

theorem after_of_ok {contents : Option Bytes} {read : value}
    (h : U.load contents = .ok read) (p : process) :
    U.after contents p = some (U.encode (U.update p read).2) := by
  simp only [after, h]

theorem foldl_after_of_error {contents : Option Bytes} {e : error}
    (h : U.load contents = .error e) (order : List process) :
    order.foldl U.after contents = contents := by
  induction order with
  | nil => rfl
  | cons p rest ih =>
      have hp : U.after contents p = contents := by simp only [after, h]
      rw [List.foldl_cons, hp, ih]

theorem load_foldl_after (hfaithful : U.Faithful) {contents : Option Bytes}
    {read : value} (h : U.load contents = .ok read) (order : List process) :
    exists current, U.load (order.foldl U.after contents) = .ok current := by
  induction order generalizing contents read with
  | nil => exact ⟨read, h⟩
  | cons p rest ih =>
      rw [List.foldl_cons, after_of_ok h]
      exact ih (hfaithful _)

/-!
# Steps
-/

section

variable [DecidableEq path] [DecidableEq process] (U)

def advance (s : UpdateState path process value result error) (p : process) :
    Option (UpdateState path process value result error) :=
  match s.phase p with
  | .idle =>
      match U.load (s.files U.target) with
      | .ok read => some (s.enter p (.loaded read))
      | .error e => some (s.enter p (.failed e))
  | .loaded read =>
      some (s.enter p (.modified (U.update p read).1 (U.update p read).2))
  | .modified answer changed =>
      some ((s.exec (.write U.temporary (U.encode changed))).enter p
        (.written answer changed))
  | .written answer _ =>
      match s.files U.temporary with
      | some _ =>
          some ((s.exec (.rename U.temporary U.target)).enter p (.done answer))
      | none => some (s.enter p (.failed U.notFound))
  | .done _ => none
  | .failed _ => none

/-- A run is given by the order in which the processes take their steps. -/
def system :
    TransitionSystem (UpdateState path process value result error) process
      Unit where
  step := fun s p => (U.advance s p).map fun t => ((), t)

/-- A rename finds in the temporary file what its process wrote, and this is the
process's update of the current contents. -/
def PublishesOwn (s : UpdateState path process value result error)
    (p : process) (_ : Unit)
    (_ : UpdateState path process value result error) : Prop :=
  forall answer changed, s.phase p = .written answer changed ->
    s.files U.temporary = some (U.encode changed) ∧
    forall current, U.load (s.files U.target) = .ok current ->
      (U.update p current).2 = changed

/-- Nobody renames while another process is between its load and its rename, or
writes while another is between its write and its rename. -/
structure Undisturbed (s : UpdateState path process value result error)
    (p : process) (_ : Unit)
    (_ : UpdateState path process value result error) : Prop where
  renames : forall answer changed, s.phase p = .written answer changed ->
    forall q, q ≠ p -> (s.phase q).isPending = false
  writes : forall answer changed, s.phase p = .modified answer changed ->
    forall q, q ≠ p -> forall answer changed, s.phase q ≠ .written answer changed

end

/-!
# Serialization
-/

def start (files : FileSystem path) :
    UpdateState path process value result error where
  files := files
  phase := fun _ => .idle

/-- The processes that are done have run one after the other from the given
contents, in the order in which they published. -/
structure Serialized (U : FileUpdates path process value result error)
    (contents : Option Bytes) (order : List process)
    (s : UpdateState path process value result error) : Prop where
  nodup : order.Nodup
  mem_iff : forall p, p ∈ order <-> exists answer, s.phase p = .done answer
  target : s.files U.target = order.foldl U.after contents
  failed : forall p e, s.phase p = .failed e -> U.load contents = .error e
  begun : forall p, s.phase p ≠ .idle -> (forall e, s.phase p ≠ .failed e) ->
    exists read, U.load contents = .ok read

theorem serialized_start (U : FileUpdates path process value result error)
    (files : FileSystem path) :
    Serialized U (files U.target) [] (start files) where
  nodup := List.nodup_nil
  mem_iff := by
    intro p
    constructor
    · intro h
      cases h
    · intro h
      rcases h with ⟨answer, h⟩
      cases h
  target := rfl
  failed := by
    intro p e h
    cases h
  begun := by
    intro p h
    exact absurd rfl h

namespace Serialized

variable {contents : Option Bytes} {order : List process}
  {s : UpdateState path process value result error}
  (h : Serialized U contents order s) {p : process}

include h

theorem keep {t : UpdateState path process value result error}
    (htarget : t.files U.target = s.files U.target)
    (hothers : forall q, q ≠ p -> t.phase q = s.phase q)
    (hbefore : forall answer, s.phase p ≠ .done answer)
    (hafter : forall answer, t.phase p ≠ .done answer)
    (hfailed : forall e, t.phase p = .failed e -> U.load contents = .error e)
    (hbegun : (forall e, t.phase p ≠ .failed e) ->
      exists read, U.load contents = .ok read) :
    Serialized U contents order t where
  nodup := h.nodup
  mem_iff := by
    intro q
    rw [h.mem_iff]
    by_cases hq : q = p
    · rw [hq]
      constructor
      · intro hdone
        rcases hdone with ⟨answer, hdone⟩
        exact absurd hdone (hbefore answer)
      · intro hdone
        rcases hdone with ⟨answer, hdone⟩
        exact absurd hdone (hafter answer)
    · rw [hothers q hq]
  target := htarget.trans h.target
  failed := by
    intro q e hq
    by_cases heq : q = p
    · rw [heq] at hq
      exact hfailed e hq
    · rw [hothers q heq] at hq
      exact h.failed q e hq
  begun := by
    intro q hidle hnot
    by_cases heq : q = p
    · rw [heq] at hnot
      exact hbegun hnot
    · rw [hothers q heq] at hidle hnot
      exact h.begun q hidle hnot

theorem publish {t : UpdateState path process value result error}
    {answer : result} (htarget : t.files U.target =
      U.after (s.files U.target) p)
    (hothers : forall q, q ≠ p -> t.phase q = s.phase q)
    (hnew : forall answer, s.phase p ≠ .done answer)
    (hdone : t.phase p = .done answer)
    (hread : exists read, U.load contents = .ok read) :
    Serialized U contents (order ++ [p]) t where
  nodup := by
    rw [← List.concat_eq_append]
    refine List.Nodup.concat ?_ h.nodup
    intro hmem
    rcases (h.mem_iff p).mp hmem with ⟨answer', hbefore⟩
    exact hnew answer' hbefore
  mem_iff := by
    intro q
    by_cases hq : q = p
    · rw [hq]
      exact iff_of_true (by simp) ⟨answer, hdone⟩
    · rw [hothers q hq, ← h.mem_iff]
      simp [hq]
  target := by
    rw [List.foldl_append, List.foldl_cons, List.foldl_nil, ← h.target]
    exact htarget
  failed := by
    intro q e hq
    by_cases heq : q = p
    · rw [heq, hdone] at hq
      cases hq
    · rw [hothers q heq] at hq
      exact h.failed q e hq
  begun := fun _ _ _ => hread

end Serialized

/-!
# What a process relies on
-/

/-- What the process has read is still there, and so is what it wrote. -/
def Fresh (U : FileUpdates path process value result error)
    (s : UpdateState path process value result error) (p : process) : Prop :=
  match s.phase p with
  | .loaded read => U.load (s.files U.target) = .ok read
  | .modified _ changed =>
      exists read, U.load (s.files U.target) = .ok read ∧ (U.update p read).2 = changed
  | .written _ changed =>
      (exists read, U.load (s.files U.target) = .ok read ∧
        (U.update p read).2 = changed) ∧
      s.files U.temporary = some (U.encode changed)
  | _ => True

theorem Fresh.publishesOwn {s t : UpdateState path process value result error}
    {p : process} (h : Fresh U s p) : U.PublishesOwn s p () t := by
  intro answer changed hphase
  simp only [Fresh, hphase] at h
  rcases h with ⟨⟨read, hload, hupdate⟩, htemporary⟩
  refine ⟨htemporary, fun current hcurrent => ?_⟩
  rw [hload] at hcurrent
  rw [← Except.ok.inj hcurrent, hupdate]

theorem Fresh.of_files {s t : UpdateState path process value result error}
    {p : process} (h : Fresh U s p) (hphase : t.phase p = s.phase p)
    (htarget : t.files U.target = s.files U.target)
    (htemporary : forall answer changed, s.phase p = .written answer changed ->
      t.files U.temporary = s.files U.temporary) : Fresh U t p := by
  unfold Fresh at h ⊢
  rw [hphase, htarget]
  split
  · next read heq => simpa only [heq] using h
  · next answer changed heq => simpa only [heq] using h
  · next answer changed heq =>
      rw [htemporary answer changed heq]
      simpa only [heq] using h
  · trivial

section

variable [DecidableEq path] [DecidableEq process]

theorem Serialized.advance (hfaithful : U.Faithful)
    (hpath : U.temporary ≠ U.target) {contents : Option Bytes}
    {order : List process} {s t : UpdateState path process value result error}
    (h : Serialized U contents order s) {p : process}
    (hstep : U.advance s p = some t) (hown : U.PublishesOwn s p () t) :
    Serialized U contents order t ∨ Serialized U contents (order ++ [p]) t := by
  unfold FileUpdates.advance at hstep
  cases hphase : s.phase p with
  | idle =>
      left
      simp only [hphase] at hstep
      cases hload : U.load (s.files U.target) with
      | ok read =>
          simp only [hload] at hstep
          cases hstep
          refine h.keep rfl (fun q hq => s.enter_phase_of_ne p _ hq)
            (by simp [hphase]) (by simp) (by simp) ?_
          intro _
          cases hfirst : U.load contents with
          | ok first => exact ⟨first, rfl⟩
          | error e =>
              rw [h.target, foldl_after_of_error hfirst, hfirst] at hload
              cases hload
      | error e =>
          simp only [hload] at hstep
          cases hstep
          -- Every update leaves contents that load, so nobody has published.
          have hfirst : U.load contents = .error e := by
            cases hfirst : U.load contents with
            | ok first =>
                rcases load_foldl_after hfaithful hfirst order with
                  ⟨current, hcurrent⟩
                rw [h.target, hcurrent] at hload
                cases hload
            | error e' =>
                rw [h.target, foldl_after_of_error hfirst, hfirst] at hload
                exact hload
          refine h.keep rfl (fun q hq => s.enter_phase_of_ne p _ hq)
            (by simp [hphase]) (by simp) ?_ ?_
          · intro e' heq
            rw [UpdateState.enter_phase_self] at heq
            cases heq
            exact hfirst
          · intro hnot
            exact absurd (UpdateState.enter_phase_self _ _ _) (hnot e)
  | loaded read =>
      left
      simp only [hphase] at hstep
      cases hstep
      refine h.keep rfl (fun q hq => s.enter_phase_of_ne p _ hq)
        (by simp [hphase]) (by simp) (by simp) ?_
      intro _
      exact h.begun p (by simp [hphase]) (by simp [hphase])
  | modified answer changed =>
      left
      simp only [hphase] at hstep
      cases hstep
      refine h.keep (Function.update_of_ne hpath.symm _ _)
        (fun q hq => UpdateState.enter_phase_of_ne _ p _ hq)
        (by simp [hphase]) (by simp) (by simp) ?_
      intro _
      exact h.begun p (by simp [hphase]) (by simp [hphase])
  | written answer changed =>
      right
      rcases hown answer changed hphase with ⟨htemporary, hcurrent⟩
      simp only [hphase, htemporary] at hstep
      cases hstep
      have hread := h.begun p (by simp [hphase]) (by simp [hphase])
      refine h.publish ?_ (fun q hq => UpdateState.enter_phase_of_ne _ p _ hq)
        (by simp [hphase]) (UpdateState.enter_phase_self _ p _) hread
      rcases hread with ⟨first, hfirst⟩
      rcases load_foldl_after hfaithful hfirst order with ⟨current, hload⟩
      rw [← h.target] at hload
      rw [after_of_ok hload, hcurrent current hload, ← htemporary]
      simp [UpdateState.exec, FileOp.exec, hpath.symm]
  | done answer =>
      simp only [hphase] at hstep
      cases hstep
  | failed e =>
      simp only [hphase] at hstep
      cases hstep

/-- In a run in which every rename publishes its process's own update of the
current contents, the processes have run one after the other. -/
theorem exists_serialized (hfaithful : U.Faithful)
    (hpath : U.temporary ≠ U.target) {files : FileSystem path}
    {schedule : List process} {outputs : List Unit}
    {t : UpdateState path process value result error}
    (hrun : U.system.run (start files) schedule = some (outputs, t))
    (hown : U.system.Along U.PublishesOwn (start files) schedule) :
    exists order, Serialized U (files U.target) order t := by
  have hkeep : forall s p o t,
      (exists order, Serialized U (files U.target) order s) ->
      U.system.step s p = some (o, t) -> U.PublishesOwn s p o t ->
      exists order, Serialized U (files U.target) order t := by
    intro s p o t hinv hstep hmeets
    rcases hinv with ⟨order, h⟩
    simp only [system, Option.map_eq_some_iff] at hstep
    rcases hstep with ⟨t', hadvance, heq⟩
    cases heq
    rcases h.advance hfaithful hpath hadvance hmeets with hkept | hpublished
    · exact ⟨order, hkept⟩
    · exact ⟨order ++ [p], hpublished⟩
  exact U.system.invariant_along hkeep hrun hown
    ⟨[], serialized_start U files⟩

/-!
# Runs that do not get in each other's way
-/

theorem Fresh.advance (hpath : U.temporary ≠ U.target)
    {s t : UpdateState path process value result error} {p : process}
    (h : forall q, Fresh U s q) (hstep : U.advance s p = some t)
    (hclear : Undisturbed s p () t) (q : process) : Fresh U t q := by
  unfold FileUpdates.advance at hstep
  by_cases hq : q = p
  · subst hq
    have hfresh := h q
    unfold Fresh at hfresh
    cases hphase : s.phase q with
    | idle =>
        simp only [hphase] at hstep
        cases hload : U.load (s.files U.target) with
        | ok read =>
            simp only [hload] at hstep
            cases hstep
            simp [Fresh, hload]
        | error e =>
            simp only [hload] at hstep
            cases hstep
            simp [Fresh]
    | loaded read =>
        simp only [hphase] at hstep hfresh
        cases hstep
        simp [Fresh, hfresh]
    | modified answer changed =>
        simp only [hphase] at hstep hfresh
        cases hstep
        rcases hfresh with ⟨read, hload, hupdate⟩
        simp [Fresh, UpdateState.exec, FileOp.exec, hpath.symm, hload, hupdate]
    | written answer changed =>
        simp only [hphase] at hstep hfresh
        simp only [hfresh.right] at hstep
        cases hstep
        simp [Fresh]
    | done answer =>
        simp only [hphase] at hstep
        cases hstep
    | failed e =>
        simp only [hphase] at hstep
        cases hstep
  · cases hphase : s.phase p with
    | idle =>
        simp only [hphase] at hstep
        cases hload : U.load (s.files U.target) with
        | ok read =>
            simp only [hload] at hstep
            cases hstep
            exact (h q).of_files (s.enter_phase_of_ne p _ hq) rfl fun _ _ _ => rfl
        | error e =>
            simp only [hload] at hstep
            cases hstep
            exact (h q).of_files (s.enter_phase_of_ne p _ hq) rfl fun _ _ _ => rfl
    | loaded read =>
        simp only [hphase] at hstep
        cases hstep
        exact (h q).of_files (s.enter_phase_of_ne p _ hq) rfl fun _ _ _ => rfl
    | modified answer changed =>
        simp only [hphase] at hstep
        cases hstep
        refine (h q).of_files (UpdateState.enter_phase_of_ne _ p _ hq)
          (Function.update_of_ne hpath.symm _ _) ?_
        intro answer' changed' hwritten
        exact absurd hwritten (hclear.writes answer changed hphase q hq answer' changed')
    | written answer changed =>
        have hidle := hclear.renames answer changed hphase q hq
        have hkept : t.phase q = s.phase q := by
          simp only [hphase] at hstep
          split at hstep
          · cases hstep
            exact UpdateState.enter_phase_of_ne _ p _ hq
          · cases hstep
            exact UpdateState.enter_phase_of_ne _ p _ hq
        unfold Fresh
        rw [hkept]
        split
        · next heq => simp [heq, UpdatePhase.isPending] at hidle
        · next heq => simp [heq, UpdatePhase.isPending] at hidle
        · next heq => simp [heq, UpdatePhase.isPending] at hidle
        · trivial
    | done answer =>
        simp only [hphase] at hstep
        cases hstep
    | failed e =>
        simp only [hphase] at hstep
        cases hstep

/-- Where nobody renames or writes in the middle of another update, every rename
publishes its process's own update of the current contents. -/
theorem publishesOwn_of_undisturbed (hpath : U.temporary ≠ U.target)
    {files : FileSystem path} {schedule : List process}
    (h : U.system.Along Undisturbed (start files) schedule) :
    U.system.Along U.PublishesOwn (start files) schedule := by
  have hstart : forall q, Fresh U (start files) q := fun _ => by simp [Fresh, start]
  refine U.system.along_of_along (fun s => forall q, Fresh U s q) ?_ hstart h
  intro s p o t hfresh hstep hclear
  simp only [system, Option.map_eq_some_iff] at hstep
  rcases hstep with ⟨t', hadvance, heq⟩
  cases heq
  exact ⟨(hfresh p).publishesOwn, Fresh.advance hpath hfresh hadvance hclear⟩

/-!
# Runs without interleaving
-/

def alone (p : process) : List process :=
  [p, p, p, p]

theorem step_of_advance {s t : UpdateState path process value result error}
    {p : process} (h : U.advance s p = some t) :
    U.system.step s p = some ((), t) := by
  simp [system, h]

theorem run_loaded (hpath : U.temporary ≠ U.target)
    {s : UpdateState path process value result error} {p : process} {read : value}
    (hloaded : s.phase p = .loaded read)
    (hcurrent : forall current, U.load (s.files U.target) = .ok current ->
      (U.update p current).2 = (U.update p read).2) :
    exists outputs t, U.system.run s [p, p, p] = some (outputs, t) ∧
      t.files U.target = some (U.encode (U.update p read).2) ∧
      (exists answer, t.phase p = .done answer) ∧
      (forall q, q ≠ p -> t.phase q = s.phase q) ∧
      forall rest, U.system.Along U.PublishesOwn t rest ->
        U.system.Along U.PublishesOwn s ([p, p, p] ++ rest) := by
  let modified := s.enter p (.modified (U.update p read).1 (U.update p read).2)
  let written := (modified.exec
      (.write U.temporary (U.encode (U.update p read).2))).enter p
    (.written (U.update p read).1 (U.update p read).2)
  let done := (written.exec (.rename U.temporary U.target)).enter p
    (.done (U.update p read).1)
  have hmodify : U.advance s p = some modified := by
    simp only [advance, hloaded, modified]
  have hwrite : U.advance modified p = some written := by
    simp [advance, modified, written]
  have htemporary : written.files U.temporary =
      some (U.encode (U.update p read).2) := Function.update_self _ _ _
  have htarget : written.files U.target = s.files U.target :=
    Function.update_of_ne hpath.symm _ _
  have hrename : U.advance written p = some done := by
    simp only [advance, htemporary, done]
    simp [written]
  refine ⟨[(), (), ()], done, ?_, ?_, ⟨_, UpdateState.enter_phase_self _ _ _⟩, ?_, ?_⟩
  · rw [U.system.run_cons_of_step (step_of_advance hmodify),
      U.system.run_cons_of_step (step_of_advance hwrite),
      U.system.run_cons_of_step (step_of_advance hrename)]
    rfl
  · rw [← htemporary]
    simp [done, UpdateState.exec, FileOp.exec, hpath.symm]
  · intro q hq
    simp [done, written, modified, UpdateState.exec, hq]
  · intro rest hrest
    show U.system.Along U.PublishesOwn s (p :: p :: p :: rest)
    rw [TransitionSystem.along_cons_of_step _ (step_of_advance hmodify),
      TransitionSystem.along_cons_of_step _ (step_of_advance hwrite),
      TransitionSystem.along_cons_of_step _ (step_of_advance hrename)]
    refine ⟨?_, ?_, ?_, hrest⟩
    · intro answer changed hphase
      rw [hloaded] at hphase
      cases hphase
    · intro answer changed hphase
      simp [modified] at hphase
    · intro answer changed hphase
      have hcases : (U.update p read).1 = answer ∧
          (U.update p read).2 = changed := by
        simpa [written] using hphase
      rcases hcases with ⟨_, rfl⟩
      refine ⟨htemporary, ?_⟩
      rw [htarget]
      exact hcurrent

theorem run_alone (hpath : U.temporary ≠ U.target)
    {s : UpdateState path process value result error} {p : process}
    (hidle : s.phase p = .idle) {read : value}
    (hload : U.load (s.files U.target) = .ok read) :
    exists outputs t, U.system.run s (alone p) = some (outputs, t) ∧
      t.files U.target = U.after (s.files U.target) p ∧
      (exists answer, t.phase p = .done answer) ∧
      (forall q, q ≠ p -> t.phase q = s.phase q) ∧
      forall rest, U.system.Along U.PublishesOwn t rest ->
        U.system.Along U.PublishesOwn s (alone p ++ rest) := by
  have hread : U.advance s p = some (s.enter p (.loaded read)) := by
    simp only [advance, hidle, hload]
  have hcurrent : forall current, U.load (s.files U.target) = .ok current ->
      (U.update p current).2 = (U.update p read).2 := by
    intro current hcurrent
    rw [hload] at hcurrent
    rw [Except.ok.inj hcurrent]
  rcases run_loaded hpath (s.enter_phase_self p (.loaded read)) hcurrent with
    ⟨outputs, t, hrun, htarget, hdone, hothers, hown⟩
  refine ⟨() :: outputs, t, ?_, ?_, hdone, ?_, ?_⟩
  · rw [alone, U.system.run_cons_of_step (step_of_advance hread), hrun]
    rfl
  · rw [after_of_ok hload, htarget]
  · intro q hq
    rw [hothers q hq, s.enter_phase_of_ne p _ hq]
  · intro rest hrest
    show U.system.Along U.PublishesOwn s (p :: ([p, p, p] ++ rest))
    rw [TransitionSystem.along_cons_of_step _ (step_of_advance hread)]
    refine ⟨?_, hown rest hrest⟩
    intro answer changed hphase
    rw [hidle] at hphase
    cases hphase

theorem run_overlapping (hfaithful : U.Faithful) (hpath : U.temporary ≠ U.target)
    {s : UpdateState path process value result error} {p q : process} (hne : q ≠ p)
    (hidle : s.phase p = .idle) (hidle' : s.phase q = .idle) {read : value}
    (hload : U.load (s.files U.target) = .ok read)
    (hsame : (U.update q (U.update p read).2).2 = (U.update q read).2) :
    exists outputs t, U.system.run s (q :: alone p ++ [q, q, q]) = some (outputs, t) ∧
      (exists answer, t.phase p = .done answer) ∧
      (exists answer, t.phase q = .done answer) ∧
      U.system.Along U.PublishesOwn s (q :: alone p ++ [q, q, q]) := by
  have hread : U.advance s q = some (s.enter q (.loaded read)) := by
    simp only [advance, hidle', hload]
  have hidleThen : (s.enter q (.loaded read)).phase p = .idle := by
    rw [s.enter_phase_of_ne q _ hne.symm, hidle]
  rcases run_alone hpath hidleThen hload with
    ⟨first, mid, hfirst, htarget, ⟨answer, hdone⟩, hothers, hown⟩
  rw [UpdateState.enter_files, after_of_ok hload] at htarget
  have hloaded : mid.phase q = .loaded read := by
    rw [hothers q hne, UpdateState.enter_phase_self]
  have hcurrent : forall current, U.load (mid.files U.target) = .ok current ->
      (U.update q current).2 = (U.update q read).2 := by
    intro current hcurrent
    rw [htarget, hfaithful] at hcurrent
    rw [← Except.ok.inj hcurrent, hsame]
  rcases run_loaded hpath hloaded hcurrent with
    ⟨second, t, hsecond, _, hdone', hothers', hown'⟩
  refine ⟨() :: (first ++ second), t, ?_, ⟨answer, ?_⟩, hdone', ?_⟩
  · rw [List.cons_append, U.system.run_cons_of_step (step_of_advance hread),
      U.system.run_append hfirst hsecond]
    rfl
  · rw [hothers' p hne.symm, hdone]
  · rw [List.cons_append, TransitionSystem.along_cons_of_step _ (step_of_advance hread)]
    refine ⟨?_, hown _ ?_⟩
    · intro answer changed hphase
      rw [hidle'] at hphase
      cases hphase
    · have hrest := hown' [] (TransitionSystem.along_nil _ _ _)
      rwa [List.append_nil] at hrest

theorem run_flatMap_alone (hfaithful : U.Faithful)
    (hpath : U.temporary ≠ U.target) {order : List process}
    (hnodup : order.Nodup) {s : UpdateState path process value result error}
    (hidle : forall p, p ∈ order -> s.phase p = .idle) {read : value}
    (hload : U.load (s.files U.target) = .ok read) :
    exists outputs t, U.system.run s (order.flatMap alone) = some (outputs, t) ∧
      t.files U.target = order.foldl U.after (s.files U.target) ∧
      (forall p, p ∈ order -> exists answer, t.phase p = .done answer) ∧
      (forall q, q ∉ order -> t.phase q = s.phase q) ∧
      U.system.Along U.PublishesOwn s (order.flatMap alone) := by
  induction order generalizing s read with
  | nil =>
      refine ⟨[], s, rfl, rfl, ?_, fun _ _ => rfl, trivial⟩
      intro p hp
      cases hp
  | cons p rest ih =>
      rcases List.nodup_cons.mp hnodup with ⟨hp, hrest⟩
      rcases run_alone hpath (hidle p (by simp)) hload with
        ⟨first, mid, hfirst, htarget, hdone, hothers, hown⟩
      have hne : forall q, q ∈ rest -> q ≠ p := by
        intro q hq heq
        rw [heq] at hq
        exact hp hq
      have hmidle : forall q, q ∈ rest -> mid.phase q = .idle := by
        intro q hq
        rw [hothers q (hne q hq)]
        exact hidle q (by simp [hq])
      have hmid : U.load (mid.files U.target) = .ok (U.update p read).2 := by
        rw [htarget, after_of_ok hload]
        exact hfaithful _
      rcases ih hrest hmidle hmid with
        ⟨second, t, hsecond, hfinal, hall, hkept, hownRest⟩
      refine ⟨first ++ second, t, ?_, ?_, ?_, ?_, hown _ hownRest⟩
      · rw [List.flatMap_cons]
        exact U.system.run_append hfirst hsecond
      · rw [hfinal, htarget, List.foldl_cons]
      · intro q hq
        rcases List.mem_cons.mp hq with rfl | hq
        · rw [hkept q hp]
          exact hdone
        · exact hall q hq
      · intro q hq
        rw [List.mem_cons, not_or] at hq
        rw [hkept q hq.right, hothers q hq.left]

/-- No process failed that does not fail alone, and when all are done the target
is as after running them one after the other in some order. -/
def Serializable (U : FileUpdates path process value result error)
    (files : FileSystem path)
    (t : UpdateState path process value result error) : Prop :=
  (forall p e, t.phase p = .failed e ->
    exists outputs u, U.system.run (start files) [p] = some (outputs, u) ∧
      u.phase p = .failed e) ∧
  ((forall p, exists answer, t.phase p = .done answer) ->
    exists (order : List process) (outputs : List Unit) (u : _),
      order.Nodup ∧ (forall p, p ∈ order) ∧
      U.system.run (start files) (order.flatMap alone) = some (outputs, u) ∧
      u.files U.target = t.files U.target)

/-- Where every rename publishes its process's own update of the current
contents, the outcome is that of a run without interleaving. -/
theorem serializable_of_publishesOwn (hfaithful : U.Faithful)
    (hpath : U.temporary ≠ U.target) {files : FileSystem path}
    {schedule : List process} {outputs : List Unit}
    {t : UpdateState path process value result error}
    (hrun : U.system.run (start files) schedule = some (outputs, t))
    (hown : U.system.Along U.PublishesOwn (start files) schedule) :
    U.Serializable files t := by
  rcases exists_serialized hfaithful hpath hrun hown with ⟨order, h⟩
  constructor
  · intro p e hfailed
    have hload := h.failed p e hfailed
    have hadvance : U.advance (start files) p =
        some ((start files).enter p (.failed e)) := by
      simp only [advance, start, hload]
    refine ⟨[()], (start files).enter p (.failed e), ?_,
      UpdateState.enter_phase_self _ _ _⟩
    rw [U.system.run_cons_of_step (step_of_advance hadvance)]
    rfl
  · intro hdone
    have hall : forall p, p ∈ order := fun p => (h.mem_iff p).mpr (hdone p)
    cases horder : order with
    | nil =>
        rw [horder] at hall
        refine ⟨[], [], start files, List.nodup_nil, hall, rfl, ?_⟩
        rw [h.target, horder]
        rfl
    | cons p rest =>
        rcases hdone p with ⟨answer, hp⟩
        rcases h.begun p (by simp [hp]) (by simp [hp]) with ⟨read, hread⟩
        have hidle : forall p, p ∈ order ->
            (start files : UpdateState path process value result error).phase p
              = .idle := fun _ _ => rfl
        rcases run_flatMap_alone hfaithful hpath h.nodup hidle hread with
          ⟨outputs', u, hserial, htarget, _⟩
        exact ⟨order, outputs', u, h.nodup, hall, hserial,
          htarget.trans h.target.symm⟩

theorem Serializable.exists_foldl (hfaithful : U.Faithful)
    (hpath : U.temporary ≠ U.target) {files : FileSystem path}
    {t : UpdateState path process value result error}
    (h : U.Serializable files t)
    (hdone : forall p, exists answer, t.phase p = .done answer) {read : value}
    (hload : U.load (files U.target) = .ok read) :
    exists order : List process, order.Nodup ∧ (forall p, p ∈ order) ∧
      t.files U.target = order.foldl U.after (files U.target) := by
  rcases h.right hdone with ⟨order, outputs, u, hnodup, hall, hrun, htarget⟩
  have hidle : forall p, p ∈ order ->
      (start files : UpdateState path process value result error).phase p
        = .idle := fun _ _ => rfl
  rcases run_flatMap_alone hfaithful hpath hnodup hidle hload with
    ⟨outputs', u', hserial, hcontents, _⟩
  rw [hrun] at hserial
  cases hserial
  exact ⟨order, hnodup, hall, htarget.symm.trans hcontents⟩

end

end FileUpdates

end Foundation
