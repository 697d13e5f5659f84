import Mathlib.Data.Finset.Max
import Mathlib.Data.Set.Card

/-!
# Allocating distinct items to keys

An allocation gives some of its keys an item of a finite pool, no item to two
keys.  A key that asks for an item keeps the one it has, or else receives the
least free item of the pool, and gives it back on release.  Keys and items are
arbitrary; the two invariants are fields, so an allocation that hands an item
out twice cannot be built.
-/

namespace Foundation

universe u v

structure Allocation (key : Type u) {item : Type v} (pool : Finset item) where
  held : key -> Option item
  held_mem : forall {k p}, held k = some p -> p ∈ pool
  held_inj : forall {k l p}, held k = some p -> held l = some p -> k = l

namespace Allocation

variable {key : Type u} {item : Type v} {pool : Finset item}

@[ext] theorem ext {A B : Allocation key pool}
    (h : forall k, A.held k = B.held k) : A = B := by
  cases A with
  | mk heldA _ _ =>
      cases B with
      | mk heldB _ _ =>
          have hheld : heldA = heldB := funext h
          subst hheld
          rfl

def empty : Allocation key pool where
  held := fun _ => none
  held_mem := by intro k p h; cases h
  held_inj := by intro k l p h; cases h

@[simp] theorem empty_held (k : key) :
    (empty : Allocation key pool).held k = none := rfl

def Free (A : Allocation key pool) : Set item :=
  { p | p ∈ pool ∧ forall k, A.held k ≠ some p }

def Holders (A : Allocation key pool) : Set key :=
  { k | A.held k ≠ none }

section Operations

variable [DecidableEq key]

def assign (A : Allocation key pool) (k : key) (p : item)
    (hp : p ∈ A.Free) : Allocation key pool where
  held := Function.update A.held k (some p)
  held_mem := by
    intro l q h
    by_cases hl : l = k
    · subst hl
      rw [Function.update_self] at h
      cases h
      exact hp.left
    · rw [Function.update_of_ne hl] at h
      exact A.held_mem h
  held_inj := by
    intro l m q hlq hmq
    by_cases hl : l = k <;> by_cases hm : m = k
    · rw [hl, hm]
    · subst hl
      rw [Function.update_self] at hlq
      rw [Function.update_of_ne hm] at hmq
      cases hlq
      exact absurd hmq (hp.right m)
    · subst hm
      rw [Function.update_self] at hmq
      rw [Function.update_of_ne hl] at hlq
      cases hmq
      exact absurd hlq (hp.right l)
    · rw [Function.update_of_ne hl] at hlq
      rw [Function.update_of_ne hm] at hmq
      exact A.held_inj hlq hmq

def release (A : Allocation key pool) (k : key) : Allocation key pool where
  held := Function.update A.held k none
  held_mem := by
    intro l p h
    by_cases hl : l = k
    · subst hl
      rw [Function.update_self] at h
      cases h
    · rw [Function.update_of_ne hl] at h
      exact A.held_mem h
  held_inj := by
    intro l m p hl hm
    have hl' : A.held l = some p := by
      by_cases h : l = k
      · rw [h, Function.update_self] at hl
        cases hl
      · rwa [Function.update_of_ne h] at hl
    have hm' : A.held m = some p := by
      by_cases h : m = k
      · rw [h, Function.update_self] at hm
        cases hm
      · rwa [Function.update_of_ne h] at hm
    exact A.held_inj hl' hm'

open Classical in
/-- A key asks for an item.  The answer is `none` when the pool is used up. -/
noncomputable def acquire [LinearOrder item] (A : Allocation key pool)
    (k : key) : Option item × Allocation key pool :=
  match A.held k with
  | some p => (some p, A)
  | none =>
      if h : exists p, IsLeast A.Free p then
        (some h.choose, A.assign k h.choose h.choose_spec.left)
      else
        (none, A)

@[simp] theorem assign_held_self (A : Allocation key pool) (k : key)
    (p : item) (hp : p ∈ A.Free) : (A.assign k p hp).held k = some p :=
  Function.update_self ..

theorem assign_held_of_ne (A : Allocation key pool) {k l : key}
    (p : item) (hp : p ∈ A.Free) (h : l ≠ k) :
    (A.assign k p hp).held l = A.held l :=
  Function.update_of_ne h ..

@[simp] theorem release_held_self (A : Allocation key pool) (k : key) :
    (A.release k).held k = none :=
  Function.update_self ..

theorem release_held_of_ne (A : Allocation key pool) {k l : key}
    (h : l ≠ k) : (A.release k).held l = A.held l :=
  Function.update_of_ne h ..

theorem release_of_none {A : Allocation key pool} {k : key}
    (h : A.held k = none) : A.release k = A := by
  ext1 l
  by_cases hl : l = k
  · rw [hl, release_held_self, h]
  · exact A.release_held_of_ne hl

variable [LinearOrder item]

/-!
# What a request for an item can do
-/

theorem acquire_of_held {A : Allocation key pool} {k : key} {p : item}
    (h : A.held k = some p) : A.acquire k = (some p, A) := by
  simp [acquire, h]

theorem acquire_of_isLeast {A : Allocation key pool} {k : key} {p : item}
    (hnew : A.held k = none) (hp : IsLeast A.Free p) :
    A.acquire k = (some p, A.assign k p hp.left) := by
  have hex : exists p, IsLeast A.Free p := ⟨p, hp⟩
  have hchoose : hex.choose = p := hex.choose_spec.unique hp
  simp only [acquire, hnew, dif_pos hex]
  congr 1
  · rw [hchoose]
  · simp only [hchoose]

theorem acquire_of_free_empty {A : Allocation key pool} {k : key}
    (hnew : A.held k = none) (hfree : A.Free = ∅) :
    A.acquire k = (none, A) := by
  have hex : ¬ exists p, IsLeast A.Free p := by
    intro h
    rcases h with ⟨p, hp⟩
    rw [hfree] at hp
    exact hp.left
  simp only [acquire, hnew, dif_neg hex]

theorem isLeast_of_acquire {A : Allocation key pool} {k : key} {p : item}
    (hnew : A.held k = none) (h : (A.acquire k).1 = some p) :
    IsLeast A.Free p := by
  by_cases hex : exists p, IsLeast A.Free p
  · rcases hex with ⟨q, hq⟩
    rw [acquire_of_isLeast hnew hq] at h
    cases h
    exact hq
  · simp only [acquire, hnew, dif_neg hex] at h
    cases h

end Operations

/-!
# Counting

The holders are in bijection with the items in use, so a pool is used up
exactly when as many keys hold an item as the pool has items.
-/

def Used (A : Allocation key pool) : Set item :=
  { p | exists k, A.held k = some p }

theorem used_subset_pool (A : Allocation key pool) :
    A.Used ⊆ (pool : Set item) := by
  intro p h
  rcases h with ⟨k, hk⟩
  exact A.held_mem hk

theorem ncard_used_eq_ncard_holders (A : Allocation key pool) :
    A.Used.ncard = A.Holders.ncard := by
  symm
  apply Set.ncard_congr fun k hk => (A.held k).get (Option.isSome_iff_ne_none.mpr hk)
  · intro k hk
    exact ⟨k, by simp⟩
  · intro k l hk hl h
    apply A.held_inj (p := (A.held k).get (Option.isSome_iff_ne_none.mpr hk))
    · simp
    · rw [h]
      simp
  · intro p h
    rcases h with ⟨k, hk⟩
    have hholds : A.held k ≠ none := by simp [hk]
    exact ⟨k, hholds, by simp [hk]⟩

theorem free_eq_empty_iff (A : Allocation key pool) :
    A.Free = ∅ <-> A.Holders.ncard = pool.card := by
  have hfree : A.Free = (pool : Set item) \ A.Used := by
    ext p
    simp [Free, Used]
  rw [hfree, Set.sdiff_eq_empty, ← ncard_used_eq_ncard_holders,
    ← Set.ncard_coe_finset pool]
  constructor
  · intro h
    rw [Set.Subset.antisymm A.used_subset_pool h]
  · intro h
    rw [Set.eq_of_subset_of_ncard_le A.used_subset_pool (le_of_eq h.symm)
      pool.finite_toSet]

end Allocation

/-!
# First fit

A scan of a sorted list stops at the least element that passes the test.
-/

theorem find?_eq_some_iff_isLeast {item : Type u} [LinearOrder item]
    {items : List item} (hsorted : items.Pairwise (· < ·))
    (test : item -> Bool) (p : item) :
    items.find? test = some p <->
      IsLeast { q | q ∈ items ∧ test q = true } p := by
  induction items with
  | nil =>
      constructor
      · intro h
        cases h
      · intro h
        cases h.left.left
  | cons q rest ih =>
      rcases List.pairwise_cons.mp hsorted with ⟨hlt, hrest⟩
      cases hq : test q with
      | true =>
          rw [List.find?_cons_of_pos hq]
          have hleast : IsLeast { r | r ∈ q :: rest ∧ test r = true } q := by
            refine ⟨⟨by simp, hq⟩, ?_⟩
            intro r h
            rcases h with ⟨hr, _⟩
            rcases List.mem_cons.mp hr with rfl | hr
            · exact le_refl _
            · exact le_of_lt (hlt r hr)
          constructor
          · intro h
            cases h
            exact hleast
          · intro h
            rw [hleast.unique h]
      | false =>
          have hset : { r | r ∈ q :: rest ∧ test r = true } =
              { r | r ∈ rest ∧ test r = true } := by
            ext r
            constructor
            · intro h
              rcases h with ⟨hr, htest⟩
              rcases List.mem_cons.mp hr with rfl | hr
              · rw [hq] at htest
                cases htest
              · exact ⟨hr, htest⟩
            · intro h
              rcases h with ⟨hr, htest⟩
              exact ⟨by simp [hr], htest⟩
          rw [List.find?_cons_of_neg (by simp [hq]), hset]
          exact ih hrest

end Foundation
