import Mathlib.Data.List.Nodup

/-!
# Lists with distinct keys

A list of items no two of which have one key is a map that remembers the order
of insertion.  The operations are those of a store that lives in a list: put an
item in the place of the one with its key, at the end, and take out the items a
predicate accepts.
-/

namespace Foundation

universe u v

/-!
# Predicates with a memory
-/

/-- A predicate that may change with every question it is asked. -/
structure Predicate (item : Type u) where
  memory : Type
  start : memory
  ask : memory -> item -> Bool × memory

namespace Predicate

variable {item : Type u}

/-- The items accepted and the items refused, asked for in order. -/
def drain {memory : Type} (ask : memory -> item -> Bool × memory) :
    memory -> List item -> List item × List item
  | _, [] => ([], [])
  | m, x :: rest =>
      let answer := ask m x
      let parts := drain ask answer.2 rest
      if answer.1 then (x :: parts.1, parts.2) else (parts.1, x :: parts.2)

def answers {memory : Type} (ask : memory -> item -> Bool × memory) :
    memory -> List item -> List Bool
  | _, [] => []
  | m, x :: rest => (ask m x).1 :: answers ask (ask m x).2 rest

def ofFun (test : item -> Bool) : Predicate item where
  memory := Unit
  start := ()
  ask := fun _ x => (test x, ())

section

variable {memory : Type} {ask : memory -> item -> Bool × memory}

theorem drain_cons_of_true {m : memory} {x : item} (h : (ask m x).1 = true)
    (rest : List item) :
    drain ask m (x :: rest) =
      (x :: (drain ask (ask m x).2 rest).1, (drain ask (ask m x).2 rest).2) := by
  rw [drain]
  exact if_pos h

theorem drain_cons_of_false {m : memory} {x : item} (h : (ask m x).1 = false)
    (rest : List item) :
    drain ask m (x :: rest) =
      ((drain ask (ask m x).2 rest).1, x :: (drain ask (ask m x).2 rest).2) := by
  rw [drain]
  exact if_neg (by rw [h]; exact Bool.false_ne_true)

theorem drain_accepted (m : memory) (items : List item) :
    (drain ask m items).1 =
      ((items.zip (answers ask m items)).filter fun asked => asked.2).map Prod.fst := by
  induction items generalizing m with
  | nil => rfl
  | cons x rest ih =>
      cases hx : (ask m x).1 with
      | true =>
          rw [drain_cons_of_true hx, answers, hx, List.zip_cons_cons,
            List.filter_cons_of_pos rfl, List.map_cons, ih]
      | false =>
          rw [drain_cons_of_false hx, answers, hx, List.zip_cons_cons,
            List.filter_cons_of_neg Bool.false_ne_true, ih]

theorem drain_perm (m : memory) (items : List item) :
    ((drain ask m items).1 ++ (drain ask m items).2).Perm items := by
  induction items generalizing m with
  | nil => exact List.Perm.refl []
  | cons x rest ih =>
      have hrest := ih (ask m x).2
      cases hx : (ask m x).1 with
      | true =>
          rw [drain_cons_of_true hx]
          exact hrest.cons x
      | false =>
          rw [drain_cons_of_false hx]
          exact List.perm_middle.trans (hrest.cons x)

theorem drain_sublist (m : memory) (items : List item) :
    (drain ask m items).1.Sublist items ∧ (drain ask m items).2.Sublist items := by
  induction items generalizing m with
  | nil => exact ⟨List.Sublist.refl [], List.Sublist.refl []⟩
  | cons x rest ih =>
      have hrest := ih (ask m x).2
      cases hx : (ask m x).1 with
      | true =>
          rw [drain_cons_of_true hx]
          exact ⟨hrest.1.cons_cons x, hrest.2.cons x⟩
      | false =>
          rw [drain_cons_of_false hx]
          exact ⟨hrest.1.cons x, hrest.2.cons_cons x⟩

end

theorem drain_ofFun (test : item -> Bool) (items : List item) :
    drain (ofFun test).ask () items =
      (items.filter test, items.filter fun x => !test x) := by
  induction items with
  | nil => rfl
  | cons x rest ih =>
      cases hx : test x with
      | true =>
          have hask : ((ofFun test).ask () x).1 = true := hx
          rw [drain_cons_of_true hask, List.filter_cons_of_pos hx,
            List.filter_cons_of_neg (by simp [hx])]
          exact congrArg (fun parts => (x :: parts.1, parts.2)) ih
      | false =>
          have hask : ((ofFun test).ask () x).1 = false := hx
          rw [drain_cons_of_false hask, List.filter_cons_of_neg (by simp [hx]),
            List.filter_cons_of_pos (by simp [hx])]
          exact congrArg (fun parts => (parts.1, x :: parts.2)) ih

end Predicate

/-!
# The list and its operations
-/

structure KeyedList {item : Type u} {label : Type v} (key : item -> label) where
  items : List item
  distinct : (items.map key).Nodup

namespace KeyedList

variable {item : Type u} {label : Type v} {key : item -> label}

def remove (list : KeyedList key) (pred : Predicate item) :
    List item × KeyedList key :=
  ((Predicate.drain pred.ask pred.start list.items).1,
    { items := (Predicate.drain pred.ask pred.start list.items).2
      distinct := list.distinct.sublist
        ((Predicate.drain_sublist pred.start list.items).2.map key) })

theorem mem_remove_iff {list : KeyedList key} {pred : Predicate item} {x : item} :
    x ∈ (list.remove pred).2.items <->
      x ∈ list.items ∧ x ∉ (list.remove pred).1 := by
  have hperm : ((list.remove pred).1 ++ (list.remove pred).2.items).Perm list.items :=
    Predicate.drain_perm pred.start list.items
  have hnodup := hperm.nodup_iff.mpr (List.Nodup.of_map key list.distinct)
  have hmem : x ∈ (list.remove pred).1 ++ (list.remove pred).2.items <->
      x ∈ list.items := hperm.mem_iff
  rw [← hmem, List.mem_append]
  constructor
  · intro hx
    exact ⟨Or.inr hx, fun hremoved => List.disjoint_of_nodup_append hnodup hremoved hx⟩
  · intro hx
    rcases hx with ⟨hremoved | hkept, hnot⟩
    · exact absurd hremoved hnot
    · exact hkept

variable [DecidableEq label]

def find (list : KeyedList key) (k : label) : Option item :=
  list.items.find? fun x => decide (key x = k)

def put (list : KeyedList key) (x : item) : KeyedList key where
  items := (list.items.filter fun y => decide (key y ≠ key x)) ++ [x]
  distinct := by
    have hkept := list.distinct.sublist ((List.filter_sublist (p := fun y =>
      decide (key y ≠ key x)) (l := list.items)).map key)
    rw [List.map_append, List.map_singleton, List.nodup_append]
    refine ⟨hkept, List.nodup_singleton _, ?_⟩
    intro k hk k' hk' heq
    rcases List.mem_map.mp hk with ⟨y, hy, rfl⟩
    rw [List.mem_singleton.mp hk'] at heq
    exact of_decide_eq_true (List.mem_filter.mp hy).2 heq

/-!
# Looking up
-/

theorem find_eq_some_iff {list : KeyedList key} {k : label} {x : item} :
    list.find k = some x <-> x ∈ list.items ∧ key x = k := by
  have hfound : forall {k : label} {y : item}, list.find k = some y ->
      y ∈ list.items ∧ key y = k := by
    intro k y h
    rw [find] at h
    have hkey := List.find?_some h
    exact ⟨List.mem_of_find?_eq_some h, of_decide_eq_true hkey⟩
  constructor
  · exact hfound
  · intro h
    rcases h with ⟨hx, rfl⟩
    cases hfind : list.find (key x) with
    | none =>
        have hnone := List.find?_eq_none.mp hfind x hx
        exact absurd (decide_eq_true rfl) hnone
    | some y =>
        rcases hfound hfind with ⟨hy, hkey⟩
        rw [List.inj_on_of_nodup_map list.distinct hy hx hkey]

theorem mem_put_iff {list : KeyedList key} {x y : item} :
    y ∈ (list.put x).items <-> (y ∈ list.items ∧ key y ≠ key x) ∨ y = x := by
  simp [put]

theorem find_put (list : KeyedList key) (x : item) (k : label) :
    (list.put x).find k = if key x = k then some x else list.find k := by
  apply Option.ext
  intro y
  rw [find_eq_some_iff, mem_put_iff]
  by_cases hk : key x = k
  · rw [if_pos hk, Option.some.injEq]
    constructor
    · intro h
      rcases h with ⟨⟨_, hne⟩ | heq, hy⟩
      · exact absurd (hy.trans hk.symm) hne
      · exact heq.symm
    · intro h
      rw [← h]
      exact ⟨Or.inr rfl, hk⟩
  · rw [if_neg hk, find_eq_some_iff]
    constructor
    · intro h
      rcases h with ⟨⟨hmem, _⟩ | heq, hy⟩
      · exact ⟨hmem, hy⟩
      · rw [heq] at hy
        exact absurd hy hk
    · intro h
      exact ⟨Or.inl ⟨h.1, fun heq => hk (heq.symm.trans h.2)⟩, h.2⟩

variable [DecidableEq item]

theorem find_remove (list : KeyedList key) (pred : Predicate item) (k : label) :
    (list.remove pred).2.find k =
      (list.find k).filter fun x => decide (x ∉ (list.remove pred).1) := by
  apply Option.ext
  intro y
  rw [find_eq_some_iff, mem_remove_iff, Option.filter_eq_some_iff, find_eq_some_iff,
    decide_eq_true_iff]
  exact and_right_comm

/-!
# Histories
-/

inductive Change (item : Type u) where
  | put (x : item)
  | removed (items : List item)

/-- What a key holds after some changes: the item last put there, unless a
later removal took it out. -/
def held (key : item -> label) (k : label) :
    Option item -> List (Change item) -> Option item
  | now, [] => now
  | now, .put x :: rest => held key k (if key x = k then some x else now) rest
  | now, .removed items :: rest =>
      held key k (now.filter fun x => decide (x ∉ items)) rest

end KeyedList

end Foundation
