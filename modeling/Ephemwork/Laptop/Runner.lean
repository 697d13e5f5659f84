import Mathlib.Logic.Basic

/-!
# Dropping a service

`RunningService::drop` of `src/runner.rs`: SIGTERM for the process group of the
service, a grace period that ends when its leader has exited, and SIGKILL for the
group if it does not.
-/

namespace Ephemwork

namespace Laptop

/-!
# Process groups

Times are nanoseconds since the group was sent SIGTERM.
-/

structure ProcessGroup where
  leader : UInt32
  others : List UInt32
  /-- When a process exits after SIGTERM; `none` is never. -/
  exit : UInt32 -> Option Nat

namespace ProcessGroup

variable (group : ProcessGroup)

def members : List UInt32 :=
  group.leader :: group.others

def exited (pid : UInt32) (now : Nat) : Bool :=
  match group.exit pid with
  | none => false
  | some time => decide (time ≤ now)

def alive (now : Nat) : List UInt32 :=
  group.members.filter fun pid => !group.exited pid now

theorem alive_eq_nil_iff (now : Nat) :
    group.alive now = [] <->
      forall pid, pid ∈ group.members -> group.exited pid now = true := by
  simp [alive, List.filter_eq_nil_iff]

end ProcessGroup

/-!
# The grace period
-/

def millisecond : Nat := 1000000

def gracePeriod : Nat := 2000 * millisecond

def pollInterval : Nat := 50 * millisecond

/-- What the machine adds: the time between two steps, and which polls of the leader
end in an error. -/
structure Scheduling where
  /-- From SIGTERM to the start of the grace period. -/
  start : Nat
  /-- From there, or from the end of a sleep, to the poll. -/
  beforePoll : Nat -> Nat
  /-- From the poll to the look at the clock. -/
  afterPoll : Nat -> Nat
  pollFails : Nat -> Bool

namespace Scheduling

variable (scheduling : Scheduling)

def deadline : Nat :=
  scheduling.start + gracePeriod

/-- When the leader is polled, where `graceLoop` gets that far. -/
def pollTime : Nat -> Nat
  | 0 => scheduling.start + scheduling.beforePoll 0
  | n + 1 => pollTime n + scheduling.afterPoll n + pollInterval +
      scheduling.beforePoll (n + 1)

theorem le_pollTime (n : Nat) :
    scheduling.start + n * pollInterval ≤ scheduling.pollTime n := by
  induction n with
  | zero =>
      simp only [pollTime]
      omega
  | succ n ih =>
      simp only [pollTime, Nat.succ_mul]
      omega

end Scheduling

/-- How the drop of a service ends. -/
inductive DropEnd where
  /-- The leader was found to have exited. -/
  | leaderExited (time : Nat)
  /-- The group was sent SIGKILL and the leader waited for. -/
  | killed
deriving DecidableEq, Repr

section Drop

variable (group : ProcessGroup) (scheduling : Scheduling)

def graceLoop (n now : Nat) : DropEnd :=
  if scheduling.pollFails n then
    .killed
  else if group.exited group.leader now then
    .leaderExited now
  else if scheduling.deadline ≤ now + scheduling.afterPoll n then
    .killed
  else
    graceLoop (n + 1)
      (now + scheduling.afterPoll n + pollInterval + scheduling.beforePoll (n + 1))
termination_by scheduling.deadline - now
decreasing_by
  simp only [pollInterval, millisecond]
  omega

def RunningService.drop : DropEnd :=
  graceLoop group scheduling 0 (scheduling.start + scheduling.beforePoll 0)

/-- The processes of the group that are alive when the drop returns; none survives
SIGKILL. -/
def DropEnd.survivors : DropEnd -> List UInt32
  | .leaderExited time => group.alive time
  | .killed => []

def PollsOn (n : Nat) : Prop :=
  scheduling.pollFails n = false ∧
    group.exited group.leader (scheduling.pollTime n) = false ∧
    scheduling.pollTime n + scheduling.afterPoll n < scheduling.deadline

/-- Poll `n` is the one that finds that the leader has exited. -/
structure SeesExit (n : Nat) : Prop where
  before : forall m, m < n -> PollsOn group scheduling m
  polls : scheduling.pollFails n = false
  exited : group.exited group.leader (scheduling.pollTime n) = true

variable {group scheduling}

theorem pollsOn_of_go_on {n : Nat} (hpoll : ¬ scheduling.pollFails n = true)
    (hleader : ¬ group.exited group.leader (scheduling.pollTime n) = true)
    (hclock : ¬ scheduling.deadline ≤ scheduling.pollTime n + scheduling.afterPoll n) :
    PollsOn group scheduling n :=
  ⟨Bool.eq_false_iff.mpr hpoll, Bool.eq_false_iff.mpr hleader, Nat.lt_of_not_le hclock⟩

theorem graceLoop_eq_leaderExited {n now time : Nat} (hnow : now = scheduling.pollTime n)
    (hbefore : forall m, m < n -> PollsOn group scheduling m)
    (h : graceLoop group scheduling n now = .leaderExited time) :
    exists k, time = scheduling.pollTime k ∧ SeesExit group scheduling k := by
  induction n, now using graceLoop.induct group scheduling with
  | case1 n now hfails =>
      rw [graceLoop, if_pos hfails] at h
      cases h
  | case2 n now hpoll hleader =>
      rw [graceLoop, if_neg hpoll, if_pos hleader] at h
      cases h
      subst hnow
      exact ⟨n, rfl, hbefore, Bool.eq_false_iff.mpr hpoll, hleader⟩
  | case3 n now hpoll hleader hclock =>
      rw [graceLoop, if_neg hpoll, if_neg hleader, if_pos hclock] at h
      cases h
  | case4 n now hpoll hleader hclock ih =>
      rw [graceLoop, if_neg hpoll, if_neg hleader, if_neg hclock] at h
      subst hnow
      refine ih rfl ?_ h
      intro m hm
      rcases Nat.lt_succ_iff_lt_or_eq.mp hm with hlt | rfl
      · exact hbefore m hlt
      · exact pollsOn_of_go_on hpoll hleader hclock

theorem graceLoop_of_pollsOn {n : Nat} (h : PollsOn group scheduling n) :
    graceLoop group scheduling n (scheduling.pollTime n) =
      graceLoop group scheduling (n + 1) (scheduling.pollTime (n + 1)) := by
  rcases h with ⟨hpoll, hleader, hclock⟩
  rw [graceLoop, if_neg (by simp [hpoll]), if_neg (by simp [hleader]),
    if_neg (Nat.not_le_of_lt hclock)]
  rfl

theorem drop_eq_loop {n : Nat} (h : forall m, m < n -> PollsOn group scheduling m) :
    RunningService.drop group scheduling =
      graceLoop group scheduling n (scheduling.pollTime n) := by
  induction n with
  | zero => rfl
  | succ n ih =>
      have hprevious := ih fun m hm => h m (Nat.lt_succ_of_lt hm)
      rw [hprevious]
      exact graceLoop_of_pollsOn (h n (Nat.lt_succ_self n))

theorem drop_of_seesExit {n : Nat} (h : SeesExit group scheduling n) :
    RunningService.drop group scheduling = .leaderExited (scheduling.pollTime n) := by
  rw [drop_eq_loop h.before, graceLoop, if_neg (by simp [h.polls]), if_pos h.exited]

theorem seesExit_of_drop {time : Nat}
    (h : RunningService.drop group scheduling = .leaderExited time) :
    exists n, time = scheduling.pollTime n ∧ SeesExit group scheduling n :=
  graceLoop_eq_leaderExited rfl (fun _ hm => absurd hm (Nat.not_lt_zero _)) h

theorem leader_notMem_survivors :
    group.leader ∉ (RunningService.drop group scheduling).survivors group := by
  cases hdrop : RunningService.drop group scheduling with
  | killed => exact List.not_mem_nil
  | leaderExited time =>
      rcases seesExit_of_drop hdrop with ⟨n, rfl, hsees⟩
      simp [DropEnd.survivors, ProcessGroup.alive, hsees.exited]

end Drop

/-- A drop leaves no process of the group exactly if the poll that sees the leader's
exit, if there is one, comes after the exits of all the others. -/
theorem drop_leaves_none_iff (group : ProcessGroup) (scheduling : Scheduling) :
    (RunningService.drop group scheduling).survivors group = [] <->
      forall n, SeesExit group scheduling n ->
        forall pid, pid ∈ group.others ->
          group.exited pid (scheduling.pollTime n) = true := by
  constructor
  · intro h n hsees pid hpid
    rw [drop_of_seesExit hsees, DropEnd.survivors, ProcessGroup.alive_eq_nil_iff] at h
    exact h pid (List.mem_cons_of_mem group.leader hpid)
  · intro h
    cases hdrop : RunningService.drop group scheduling with
    | killed => rfl
    | leaderExited time =>
        rcases seesExit_of_drop hdrop with ⟨n, rfl, hsees⟩
        rw [DropEnd.survivors, ProcessGroup.alive_eq_nil_iff]
        intro pid hpid
        rcases List.mem_cons.mp hpid with rfl | hother
        · exact hsees.exited
        · exact h n hsees pid hother

def stubbornChild : ProcessGroup where
  leader := 100
  others := [101]
  exit := fun pid => if pid = 100 then some 0 else none

def idealScheduling : Scheduling where
  start := 0
  beforePoll := fun _ => 0
  afterPoll := fun _ => 0
  pollFails := fun _ => false

/-- The first poll sees that the leader has exited, and the drop returns. -/
theorem stubborn_child_survives :
    RunningService.drop stubbornChild idealScheduling = .leaderExited 0 ∧
    (RunningService.drop stubbornChild idealScheduling).survivors stubbornChild =
      [101] := by
  have hsees : SeesExit stubbornChild idealScheduling 0 :=
    ⟨fun _ hm => absurd hm (Nat.not_lt_zero _), rfl, rfl⟩
  rw [drop_of_seesExit hsees]
  exact ⟨rfl, rfl⟩

end Laptop

end Ephemwork
