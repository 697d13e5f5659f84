import Mathlib.Logic.Basic

/-!
# Loops behind a stop flag

A thread goes round a loop until a flag that it shares with others is set, until a
condition of its own holds, or until its body leaves the loop.  Between two loads of
the flag it does one round at most, so once the flag is set it is soon out of the loop,
whatever its rounds do.
-/

namespace Foundation

inductive Round where
  | again
  | pause
  | leave
deriving DecidableEq, Repr

inductive LoopPhase where
  /-- Before a load of the flag. -/
  | checking
  | working
  | pausing
  | leaving
  | finished
deriving DecidableEq, Repr

def Round.phase : Round -> LoopPhase
  | .again => .checking
  | .pause => .pausing
  | .leave => .leaving

/-- What a loop does, on what is given to a round from outside. -/
structure PolledLoop (input memory : Type) where
  isOver : memory -> Bool
  body : input -> memory -> Round × memory

structure LoopState (memory : Type) where
  phase : LoopPhase
  memory : memory
deriving DecidableEq, Repr

def LoopState.start {memory : Type} (begin : memory) : LoopState memory where
  phase := .checking
  memory := begin

inductive LoopMove (input : Type) where
  | check
  | work (given : input)
  | resume
  | leave
deriving DecidableEq, Repr

def LoopMove.isWork {input : Type} : LoopMove input -> Bool
  | .work _ => true
  | _ => false

namespace LoopPhase

def left : LoopPhase -> Nat
  | .finished => 0
  | .leaving => 1
  | .checking => 2
  | .pausing => 3
  | .working => 4

def rounds : LoopPhase -> Nat
  | .working => 1
  | _ => 0

theorem left_le (phase : LoopPhase) : phase.left ≤ 4 := by
  cases phase <;> simp [left]

theorem rounds_le (phase : LoopPhase) : phase.rounds ≤ 1 := by
  cases phase <;> simp [rounds]

end LoopPhase

namespace PolledLoop

variable {input memory : Type} (L : PolledLoop input memory)

def step (stop : Bool) (s : LoopState memory) : LoopMove input -> Option (LoopState memory)
  | .check =>
      if s.phase = .checking then
        some { s with phase := if stop || L.isOver s.memory then .leaving else .working }
      else
        none
  | .work given =>
      if s.phase = .working then
        let (round, memory) := L.body given s.memory
        some { phase := round.phase, memory := memory }
      else
        none
  | .resume =>
      if s.phase = .pausing then some { s with phase := .checking } else none
  | .leave =>
      if s.phase = .leaving then some { s with phase := .finished } else none

variable {L} {s t : LoopState memory} {stop : Bool}

inductive Stepped (L : PolledLoop input memory) (stop : Bool) (s : LoopState memory) :
    LoopMove input -> LoopState memory -> Prop where
  | check (phase_eq : s.phase = .checking) :
      Stepped L stop s .check
        { s with phase := if stop || L.isOver s.memory then .leaving else .working }
  | work (given : input) (phase_eq : s.phase = .working) :
      Stepped L stop s (.work given)
        { phase := (L.body given s.memory).1.phase, memory := (L.body given s.memory).2 }
  | resume (phase_eq : s.phase = .pausing) :
      Stepped L stop s .resume { s with phase := .checking }
  | leave (phase_eq : s.phase = .leaving) :
      Stepped L stop s .leave { s with phase := .finished }

theorem step_cases {move : LoopMove input} (h : L.step stop s move = some t) :
    Stepped L stop s move t := by
  cases move with
  | check =>
      simp only [step, Option.ite_none_right_eq_some, Option.some.injEq] at h
      rcases h with ⟨hphase, rfl⟩
      exact .check hphase
  | work given =>
      simp only [step, Option.ite_none_right_eq_some, Option.some.injEq] at h
      rcases h with ⟨hphase, rfl⟩
      exact .work given hphase
  | resume =>
      simp only [step, Option.ite_none_right_eq_some, Option.some.injEq] at h
      rcases h with ⟨hphase, rfl⟩
      exact .resume hphase
  | leave =>
      simp only [step, Option.ite_none_right_eq_some, Option.some.injEq] at h
      rcases h with ⟨hphase, rfl⟩
      exact .leave hphase

theorem left_step {move : LoopMove input} (h : L.step true s move = some t) :
    t.phase.left + 1 ≤ s.phase.left := by
  cases step_cases h with
  | check hphase => simp [hphase, LoopPhase.left]
  | work given hphase =>
      simp only [hphase]
      cases (L.body given s.memory).1 <;> simp [Round.phase, LoopPhase.left]
  | resume hphase => simp [hphase, LoopPhase.left]
  | leave hphase => simp [hphase, LoopPhase.left]

theorem rounds_step {move : LoopMove input} (h : L.step true s move = some t) :
    t.phase.rounds + move.isWork.toNat ≤ s.phase.rounds := by
  cases step_cases h with
  | check hphase => simp [hphase, LoopPhase.rounds, LoopMove.isWork]
  | work given hphase =>
      simp only [hphase]
      cases (L.body given s.memory).1 <;>
        simp [Round.phase, LoopPhase.rounds, LoopMove.isWork]
  | resume hphase => simp [hphase, LoopPhase.rounds, LoopMove.isWork]
  | leave hphase => simp [hphase, LoopPhase.rounds, LoopMove.isWork]

theorem exists_step (L : PolledLoop input memory) (stop : Bool) (h : s.phase ≠ .finished)
    (given : input) : exists move t, L.step stop s move = some t := by
  cases hphase : s.phase with
  | checking => exact ⟨.check, _, by simp [step, hphase]; rfl⟩
  | working => exact ⟨.work given, _, by simp [step, hphase]; rfl⟩
  | pausing => exact ⟨.resume, _, by simp [step, hphase]; rfl⟩
  | leaving => exact ⟨.leave, _, by simp [step, hphase]; rfl⟩
  | finished => exact absurd hphase h

end PolledLoop

end Foundation
