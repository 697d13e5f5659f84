import Mathlib.Tactic.ByContra

/-!
# Polling

A loop that polls until a round settles it, and the clock of a loop that sleeps between
two rounds.  From some round on every round settles the loop, the way the rounds after a
deadline do, so that it always returns.
-/

namespace Foundation

variable {state result : Type}

/-- The rounds of a loop: each settles it, or goes on to the next one with a state. -/
structure Poller (state result : Type) where
  round : Nat -> state -> result ⊕ state
  /-- A round that settles the loop, as do all after it. -/
  last : Nat
  settles : forall n s, last ≤ n -> exists r, round n s = .inl r

namespace Poller

variable (poller : Poller state result)

theorem lt_last {n : Nat} {s s' : state} (h : poller.round n s = .inr s') :
    n < poller.last := by
  by_contra hge
  rcases poller.settles n s (Nat.le_of_not_lt hge) with ⟨r, hr⟩
  rw [h] at hr
  cases hr

def runFrom (n : Nat) (s : state) : result :=
  match h : poller.round n s with
  | .inl r => r
  | .inr s' => runFrom (n + 1) s'
termination_by poller.last - n
decreasing_by
  have hlt := poller.lt_last h
  omega

def run (s : state) : result :=
  poller.runFrom 0 s

theorem runFrom_of_inl {n : Nat} {s : state} {r : result}
    (h : poller.round n s = .inl r) : poller.runFrom n s = r := by
  rw [runFrom]
  split
  · next r' hround =>
      rw [h] at hround
      cases hround
      rfl
  · next s' hround =>
      rw [h] at hround
      cases hround

theorem runFrom_of_inr {n : Nat} {s s' : state} (h : poller.round n s = .inr s') :
    poller.runFrom n s = poller.runFrom (n + 1) s' := by
  rw [runFrom]
  split
  · next r hround =>
      rw [h] at hround
      cases hround
  · next s'' hround =>
      rw [h] at hround
      cases hround
      rfl

inductive Reaches (s : state) : Nat -> state -> Prop where
  | start : Reaches s 0 s
  | next {n : Nat} {s' s'' : state} (before : Reaches s n s')
      (goesOn : poller.round n s' = .inr s'') : Reaches s (n + 1) s''

variable {poller}

theorem Reaches.run_eq {s s' : state} {n : Nat} (h : poller.Reaches s n s') :
    poller.run s = poller.runFrom n s' := by
  induction h with
  | start => rfl
  | next before goesOn ih => rw [ih, poller.runFrom_of_inr goesOn]

theorem Reaches.exists_settled {s s' : state} {n : Nat} (h : poller.Reaches s n s') :
    exists k t, poller.Reaches s k t ∧ poller.round k t = .inl (poller.run s) := by
  induction n, s' using Poller.runFrom.induct poller with
  | case1 n s' r hround =>
      refine ⟨n, s', h, ?_⟩
      rw [h.run_eq, poller.runFrom_of_inl hround]
      exact hround
  | case2 n s' s'' hround ih =>
      exact ih (.next h hround)

theorem run_eq_iff {s : state} {r : result} :
    poller.run s = r <->
      exists n s', poller.Reaches s n s' ∧ poller.round n s' = .inl r := by
  constructor
  · intro h
    rcases Reaches.exists_settled (.start : poller.Reaches s 0 s) with
      ⟨n, s', hreaches, hround⟩
    rw [h] at hround
    exact ⟨n, s', hreaches, hround⟩
  · rintro ⟨n, s', hreaches, hround⟩
    rw [hreaches.run_eq, poller.runFrom_of_inl hround]

theorem reaches_unit_iff {poller : Poller Unit result} {n : Nat} {u : Unit} :
    poller.Reaches () n u <-> forall m, m < n -> poller.round m () = .inr () := by
  constructor
  · intro h
    induction h with
    | start => exact fun m hm => absurd hm (Nat.not_lt_zero m)
    | next before goesOn ih =>
        intro m hm
        rcases Nat.lt_succ_iff_lt_or_eq.mp hm with hlt | rfl
        · exact ih m hlt
        · exact goesOn
  · intro hbefore
    induction n with
    | zero => exact .start
    | succ n ih =>
        have hreaches := ih fun m hm => hbefore m (Nat.lt_succ_of_lt hm)
        exact .next hreaches (hbefore n (Nat.lt_succ_self n))

theorem run_unit_eq_iff {poller : Poller Unit result} {r : result} :
    poller.run () = r <->
      exists n, poller.round n () = .inl r ∧
        forall m, m < n -> poller.round m () = .inr () := by
  rw [run_eq_iff]
  constructor
  · rintro ⟨n, s', hreaches, hround⟩
    exact ⟨n, hround, reaches_unit_iff.mp hreaches⟩
  · rintro ⟨n, hround, hbefore⟩
    exact ⟨n, _, reaches_unit_iff.mpr hbefore, hround⟩

end Poller

/-!
# Clocks
-/

/-- When the loop was started and when its rounds look at the clock, if it sleeps for
at least the interval between two looks. -/
structure Clock (interval : Nat) where
  start : Nat
  now : Nat -> Nat
  start_le : start ≤ now 0
  sleeps : forall n, now n + interval ≤ now (n + 1)
  interval_pos : 0 < interval

namespace Clock

variable {interval : Nat} (clock : Clock interval)

theorem le_now (n : Nat) : clock.start + n * interval ≤ clock.now n := by
  induction n with
  | zero =>
      have hstart := clock.start_le
      omega
  | succ n ih =>
      have hsleeps := clock.sleeps n
      rw [Nat.succ_mul]
      omega

theorem now_mono {m n : Nat} (h : m ≤ n) : clock.now m ≤ clock.now n := by
  induction h with
  | refl => exact Nat.le_refl _
  | step h ih =>
      exact Nat.le_trans ih (Nat.le_trans (Nat.le_add_right _ _) (clock.sleeps _))

theorem mul_lt_of_now_lt {n time : Nat} (h : clock.now n < clock.start + time) :
    n * interval < time := by
  have hle := clock.le_now n
  omega

def lastWithin (_ : Clock interval) (time : Nat) : Nat :=
  time / interval + 1

theorem deadline_le_now {n time : Nat} (h : clock.lastWithin time ≤ n) :
    clock.start + time ≤ clock.now n := by
  by_contra hlt
  have hmul := clock.mul_lt_of_now_lt (Nat.lt_of_not_le hlt)
  have hdiv : n ≤ time / interval :=
    (Nat.le_div_iff_mul_le clock.interval_pos).mpr (Nat.le_of_lt hmul)
  rw [lastWithin] at h
  omega

end Clock

end Foundation
