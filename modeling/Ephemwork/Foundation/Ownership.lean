import Mathlib.Data.List.Perm.Basic
import Ephemwork.Foundation.Calls

/-!
# Ownership

A program acquires resources, and each of them is owned by one of its variables.  A
variable drops what it owns when the program leaves its scope, the last declared
first; a call that fails leaves its scope at once.  The ledger of a run says who owns
what, and what has happened to each resource so far.
-/

namespace Foundation

/-!
# Ledgers
-/

inductive Event (resource : Type) where
  | acquired (r : resource)
  | released (r : resource)
deriving DecidableEq, Repr

section

variable {resource : Type}

def Event.acquired? : Event resource -> Option resource
  | .acquired r => some r
  | .released _ => none

def Event.released? : Event resource -> Option resource
  | .acquired _ => none
  | .released r => some r

end

/-- The variables in scope, the last declared first, each with what it owns in the
order in which it drops it, and the events, the first one first. -/
structure Ledger (resource : Type) where
  scope : List (List resource)
  events : List (Event resource)
deriving DecidableEq, Repr

namespace Ledger

variable {resource : Type} (ledger : Ledger resource)

def empty : Ledger resource where
  scope := []
  events := []

def held : List resource :=
  ledger.scope.flatten

def acquisitions : List resource :=
  ledger.events.filterMap Event.acquired?

def releases : List resource :=
  ledger.events.filterMap Event.released?

def acquire (r : resource) : Ledger resource where
  scope := [r] :: ledger.scope
  events := ledger.events ++ [.acquired r]

def declare : Ledger resource :=
  { ledger with scope := [] :: ledger.scope }

/-- What the last variable owns is moved to the end of the one before. -/
def deposit : Ledger resource :=
  match ledger.scope with
  | mine :: owner :: rest => { ledger with scope := (owner ++ mine) :: rest }
  | _ => ledger

def next : List (List resource) -> Option (resource × List (List resource))
  | [] => none
  | [] :: rest => next rest
  | (r :: more) :: rest => some (r, more :: rest)

theorem flatten_of_next {scope rest : List (List resource)} {r : resource}
    (h : next scope = some (r, rest)) : scope.flatten = r :: rest.flatten := by
  induction scope with
  | nil => cases h
  | cons owner others ih =>
      cases owner with
      | nil => exact ih h
      | cons first more =>
          cases h
          rfl

theorem flatten_of_next_none {scope : List (List resource)} (h : next scope = none) :
    scope.flatten = [] := by
  induction scope with
  | nil => rfl
  | cons owner others ih =>
      cases owner with
      | nil => exact ih h
      | cons first more => cases h

def release (r : resource) (scope : List (List resource)) : Ledger resource where
  scope := scope
  events := ledger.events ++ [.released r]

def unwind : Ledger resource where
  scope := []
  events := ledger.events ++ ledger.held.map Event.released

@[simp] theorem held_empty : (empty : Ledger resource).held = [] := rfl

@[simp] theorem acquisitions_empty : (empty : Ledger resource).acquisitions = [] := rfl

@[simp] theorem releases_empty : (empty : Ledger resource).releases = [] := rfl

@[simp] theorem held_acquire (r : resource) : (ledger.acquire r).held = r :: ledger.held :=
  rfl

@[simp] theorem acquisitions_acquire (r : resource) :
    (ledger.acquire r).acquisitions = ledger.acquisitions ++ [r] := by
  simp [acquire, acquisitions, Event.acquired?]

@[simp] theorem releases_acquire (r : resource) :
    (ledger.acquire r).releases = ledger.releases := by
  simp [acquire, releases, Event.released?]

@[simp] theorem held_declare : ledger.declare.held = ledger.held := rfl

@[simp] theorem acquisitions_declare :
    ledger.declare.acquisitions = ledger.acquisitions := rfl

@[simp] theorem releases_declare : ledger.declare.releases = ledger.releases := rfl

@[simp] theorem acquisitions_deposit :
    ledger.deposit.acquisitions = ledger.acquisitions := by
  unfold deposit
  split
  · rfl
  · rfl

@[simp] theorem releases_deposit : ledger.deposit.releases = ledger.releases := by
  unfold deposit
  split
  · rfl
  · rfl

@[simp] theorem acquisitions_release (r : resource) (scope : List (List resource)) :
    (ledger.release r scope).acquisitions = ledger.acquisitions := by
  simp [release, acquisitions, Event.acquired?]

@[simp] theorem releases_release (r : resource) (scope : List (List resource)) :
    (ledger.release r scope).releases = ledger.releases ++ [r] := by
  simp [release, releases, Event.released?]

@[simp] theorem held_unwind : ledger.unwind.held = [] := rfl

@[simp] theorem acquisitions_unwind :
    ledger.unwind.acquisitions = ledger.acquisitions := by
  simp [unwind, acquisitions, List.filterMap_map, Function.comp_def, Event.acquired?]

@[simp] theorem releases_unwind :
    ledger.unwind.releases = ledger.releases ++ ledger.held := by
  simp [unwind, releases, List.filterMap_map, Function.comp_def, Event.released?]

/-!
# Sound ledgers
-/

/-- What is acquired is released once or still held, and nothing is released before
what needs it, nor would be if everything held were dropped. -/
structure Sound (needs : resource -> resource -> Prop) : Prop where
  balanced : ledger.acquisitions.Perm (ledger.releases ++ ledger.held)
  ordered : (ledger.releases ++ ledger.held).Pairwise fun first later =>
    ¬ needs later first

variable {ledger} {needs : resource -> resource -> Prop}

theorem sound_empty : (empty : Ledger resource).Sound needs :=
  ⟨List.Perm.refl [], List.Pairwise.nil⟩

theorem Sound.acquire (h : ledger.Sound needs) (hreleases : ledger.releases = [])
    {r : resource} (hneeds : forall other, other ∈ ledger.held -> ¬ needs other r) :
    (ledger.acquire r).Sound needs := by
  rcases h with ⟨hbalanced, hordered⟩
  rw [hreleases, List.nil_append] at hbalanced hordered
  constructor
  · rw [acquisitions_acquire, releases_acquire, hreleases, held_acquire, List.nil_append]
    exact (List.perm_append_singleton r _).trans (hbalanced.cons r)
  · rw [releases_acquire, hreleases, held_acquire, List.nil_append]
    exact List.pairwise_cons.mpr ⟨hneeds, hordered⟩

theorem Sound.declare (h : ledger.Sound needs) : ledger.declare.Sound needs :=
  ⟨h.balanced, h.ordered⟩

theorem Sound.owners (h : ledger.Sound needs) (hreleases : ledger.releases = [])
    {scope : List (List resource)} (hperm : ledger.held.Perm scope.flatten)
    (hordered : scope.flatten.Pairwise fun first later => ¬ needs later first) :
    ({ ledger with scope := scope } : Ledger resource).Sound needs := by
  have hbalanced := h.balanced
  rw [hreleases, List.nil_append] at hbalanced
  refine ⟨?_, ?_⟩
  · show ledger.acquisitions.Perm (ledger.releases ++ scope.flatten)
    rw [hreleases, List.nil_append]
    exact hbalanced.trans hperm
  · show (ledger.releases ++ scope.flatten).Pairwise _
    rw [hreleases, List.nil_append]
    exact hordered

theorem Sound.deposit (h : ledger.Sound needs) (hreleases : ledger.releases = [])
    {r : resource} {owner : List resource} {rest : List (List resource)}
    (hscope : ledger.scope = [r] :: owner :: rest)
    (hneeds : forall other, other ∈ owner -> ¬ needs r other) :
    ledger.deposit.Sound needs := by
  have hordered := h.ordered
  have hmoved : ledger.deposit = { ledger with scope := (owner ++ [r]) :: rest } := by
    simp only [Ledger.deposit, hscope]
  rw [hreleases, List.nil_append, held, hscope] at hordered
  simp only [List.flatten_cons, List.singleton_append, List.pairwise_cons,
    List.pairwise_append, List.mem_append] at hordered
  rcases hordered with ⟨hfirst, howner, hrest, hacross⟩
  rw [hmoved]
  refine h.owners hreleases ?_ ?_
  · rw [held, hscope]
    simp only [List.flatten_cons, List.singleton_append, List.append_assoc]
    exact List.perm_middle.symm
  · simp only [List.flatten_cons, List.append_assoc, List.singleton_append,
      List.pairwise_append, List.pairwise_cons, List.mem_cons]
    refine ⟨howner, ⟨fun other hother => hfirst other (Or.inr hother), hrest⟩, ?_⟩
    intro mine hmine other hother
    rcases hother with rfl | hother
    · exact hneeds mine hmine
    · exact hacross mine hmine other hother

theorem Sound.release (h : ledger.Sound needs) {r : resource}
    {scope : List (List resource)} (hheld : ledger.held = r :: scope.flatten) :
    (ledger.release r scope).Sound needs := by
  have hplan : (ledger.release r scope).releases ++ (ledger.release r scope).held =
      ledger.releases ++ ledger.held := by
    rw [releases_release, hheld, List.append_assoc]
    rfl
  constructor
  · rw [hplan, acquisitions_release]
    exact h.balanced
  · rw [hplan]
    exact h.ordered

theorem Sound.unwind (h : ledger.Sound needs) : ledger.unwind.Sound needs := by
  have hplan : ledger.unwind.releases ++ ledger.unwind.held =
      ledger.releases ++ ledger.held := by
    rw [releases_unwind, held_unwind, List.append_nil]
  constructor
  · rw [hplan, acquisitions_unwind]
    exact h.balanced
  · rw [hplan]
    exact h.ordered

end Ledger

/-!
# Programs that own
-/

abbrev Owning (resource error value : Type) : Type :=
  Call (Ledger resource) error value

namespace Owning

variable {resource error value value' : Type}

def outcome (result : Except error value) : Owning resource error value :=
  Call.ofFn fun ledger => (result, ledger)

def acquire (r : resource) : Owning resource error Unit :=
  Call.ofFn fun ledger => (.ok (), ledger.acquire r)

def declare : Owning resource error Unit :=
  Call.ofFn fun ledger => (.ok (), ledger.declare)

def deposit : Owning resource error Unit :=
  Call.ofFn fun ledger => (.ok (), ledger.deposit)

/-- What is owned goes to a value that the program returns, which will drop it owner
by owner. -/
def handOver (owners : List (List resource) -> List (List resource)) :
    Owning resource error Unit :=
  Call.ofFn fun ledger => (.ok (), { ledger with scope := owners ledger.scope })

def function (body : Owning resource error value) : Owning resource error value :=
  Call.ofFn fun ledger =>
    match body.exec ledger with
    | (.ok a, after) => (.ok a, after)
    | (.error e, after) => (.error e, after.unwind)

/-- The call ends as the other computation does, on whatever ledger it starts. -/
def Returns (call : Owning resource error value) (view : value -> value')
    (result : Except error value') : Prop :=
  forall ledger, (call.exec ledger).1.map view = result

section Returns

variable {value'' value''' : Type} {view : value -> value'}

theorem Returns.pure (a : value) :
    Returns (Pure.pure a : Owning resource error value) view (.ok (view a)) :=
  fun _ => rfl

theorem Returns.throw (e : error) :
    Returns (MonadExcept.throw e : Owning resource error value) view (.error e) :=
  fun _ => rfl

theorem Returns.outcome (result : Except error value) :
    Returns (Owning.outcome result : Owning resource error value) id result := by
  intro ledger
  cases result with
  | ok a => rfl
  | error e => rfl

theorem Returns.bind {call : Owning resource error value} {result : Except error value'}
    {next : value -> Owning resource error value''} {view' : value'' -> value'''}
    {next' : value' -> Except error value'''} (hcall : Returns call view result)
    (hnext : forall a, Returns (next a) view' (next' (view a))) :
    Returns (call >>= next) view' (result >>= next') := by
  intro ledger
  have hresult := hcall ledger
  rw [Call.exec_bind]
  cases hexec : call.exec ledger with
  | mk outcome after =>
      rw [hexec] at hresult
      cases outcome with
      | error e =>
          cases hresult
          rfl
      | ok a =>
          cases hresult
          exact hnext a after

theorem Returns.acquire (r : resource) :
    Returns (Owning.acquire r : Owning resource error Unit) id (.ok ()) :=
  fun _ => rfl

theorem Returns.declare :
    Returns (Owning.declare : Owning resource error Unit) id (.ok ()) :=
  fun _ => rfl

theorem Returns.deposit :
    Returns (Owning.deposit : Owning resource error Unit) id (.ok ()) :=
  fun _ => rfl

theorem Returns.handOver (owners : List (List resource) -> List (List resource)) :
    Returns (Owning.handOver owners : Owning resource error Unit) id (.ok ()) :=
  fun _ => rfl

theorem Returns.after {call : Owning resource error Unit} {next : Owning resource error value}
    {result : Except error value'} (hcall : Returns call id (.ok ()))
    (hnext : Returns next view result) : Returns (call >>= fun _ => next) view result := by
  have h : Returns (call >>= fun _ => next) view
      ((Except.ok () : Except error Unit) >>= fun _ => result) :=
    hcall.bind fun _ => hnext
  exact h

theorem Returns.function {body : Owning resource error value}
    {result : Except error value'} (h : Returns body view result) :
    Returns (Owning.function body) view result := by
  intro ledger
  have hresult := h ledger
  simp only [Owning.function, Call.exec_ofFn]
  cases hexec : body.exec ledger with
  | mk outcome after =>
      rw [hexec] at hresult
      cases outcome with
      | ok a => exact hresult
      | error e => exact hresult

end Returns

section Triples

variable {pre : Ledger resource -> Prop} {fail : error -> Ledger resource -> Prop}

theorem triple_outcome (result : Except error value) :
    Triple pre (Owning.outcome result : Owning resource error value)
      (fun a ledger => result = .ok a ∧ pre ledger) fun _ ledger => pre ledger := by
  intro ledger h
  cases result with
  | ok a => exact ⟨rfl, h⟩
  | error e => exact h

theorem triple_acquire {r : resource} {post : Ledger resource -> Prop}
    (h : forall ledger, pre ledger -> post (ledger.acquire r)) :
    Triple pre (Owning.acquire r : Owning resource error Unit) (fun _ => post) fail :=
  fun ledger hpre => h ledger hpre

theorem triple_declare {post : Ledger resource -> Prop}
    (h : forall ledger, pre ledger -> post ledger.declare) :
    Triple pre (Owning.declare : Owning resource error Unit) (fun _ => post) fail :=
  fun ledger hpre => h ledger hpre

theorem triple_deposit {post : Ledger resource -> Prop}
    (h : forall ledger, pre ledger -> post ledger.deposit) :
    Triple pre (Owning.deposit : Owning resource error Unit) (fun _ => post) fail :=
  fun ledger hpre => h ledger hpre

theorem triple_handOver {owners : List (List resource) -> List (List resource)}
    {post : Ledger resource -> Prop}
    (h : forall ledger, pre ledger -> post { ledger with scope := owners ledger.scope }) :
    Triple pre (Owning.handOver owners : Owning resource error Unit) (fun _ => post) fail :=
  fun ledger hpre => h ledger hpre

theorem triple_function {body : Owning resource error value}
    {post : value -> Ledger resource -> Prop}
    {unwound : error -> Ledger resource -> Prop} (h : Triple pre body post fail)
    (hunwind : forall e ledger, fail e ledger -> unwound e ledger.unwind) :
    Triple pre (Owning.function body) post unwound := by
  intro ledger hpre
  simp only [Owning.function, Call.exec_ofFn]
  cases hexec : body.exec ledger with
  | mk outcome after =>
      cases outcome with
      | ok a => exact h.of_ok hpre hexec
      | error e => exact hunwind e after (h.of_error hpre hexec)

end Triples

end Owning

end Foundation
