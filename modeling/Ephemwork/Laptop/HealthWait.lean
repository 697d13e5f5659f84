import Ephemwork.Foundation.Polling
import Ephemwork.Laptop.HealthStatus
import Ephemwork.Laptop.Runner

/-!
# Waiting for the health check

`wait_for_health` of `src/runner.rs`: the service is probed until a probe brings a 2xx
status or the time is up.
-/

namespace Ephemwork

open Foundation

namespace Laptop

/-- Times are nanoseconds. -/
structure HealthCheck where
  host : String
  port : UInt16
  path : String
  overallTimeout : Nat
  pollInterval : Nat
deriving DecidableEq, Repr

def HealthCheck.attemptTimeout (check : HealthCheck) : Nat :=
  max (min check.overallTimeout (2000 * millisecond)) (100 * millisecond)

inductive HealthError where
  /-- `health check returned status {code}` -/
  | status (code : UInt16)
  /-- What the probe failed with. -/
  | probe (error : StatusError)
  /-- `health check timed out` -/
  | timedOut
deriving DecidableEq, Repr

def isSuccess (code : UInt16) : Bool :=
  200 ≤ code && code < 300

/-- What the service and the machine bring to a wait. -/
structure HealthSurroundings (check : HealthCheck) where
  clock : Clock check.pollInterval
  /-- What the exchange of a round brings: host, port, path and timeout. -/
  exchange : Nat -> String -> UInt16 -> String -> Nat -> Except String Bytes

section

variable {check : HealthCheck} (around : HealthSurroundings check)

namespace HealthSurroundings

def deadline : Nat :=
  around.clock.start + check.overallTimeout

def answer (n : Nat) : Except StatusError UInt16 :=
  httpGetStatus
    (around.exchange n check.host check.port check.path check.attemptTimeout)

end HealthSurroundings

def healthRound (n : Nat) (lastErr : Option HealthError) :
    Except HealthError UInt16 ⊕ Option HealthError :=
  if around.clock.now n < around.deadline then
    match around.answer n with
    | .ok code =>
        if isSuccess code then .inl (.ok code) else .inr (some (.status code))
    | .error e => .inr (some (.probe e))
  else
    .inl (.error (lastErr.getD .timedOut))

/-- No round goes on after the deadline. -/
def healthPoller :
    Poller (Option HealthError) (Except HealthError UInt16) where
  round := healthRound around
  last := around.clock.lastWithin check.overallTimeout
  settles n lastErr h := by
    have hlate := around.clock.deadline_le_now h
    exact ⟨.error (lastErr.getD .timedOut), if_neg (Nat.not_lt_of_le hlate)⟩

def waitForHealth : Except HealthError UInt16 :=
  (healthPoller around).run none

/-!
# How the wait ends
-/

def Healthy2xx (n : Nat) (code : UInt16) : Prop :=
  around.clock.now n < around.deadline ∧ around.answer n = .ok code ∧
    isSuccess code = true

def probeError (answer : Except StatusError UInt16) : HealthError :=
  match answer with
  | .ok code => .status code
  | .error e => .probe e

def lastError : Nat -> Option HealthError
  | 0 => none
  | n + 1 => some (probeError (around.answer n))

variable {around}

theorem healthRound_eq_ok_iff {n : Nat} {lastErr : Option HealthError} {code : UInt16} :
    healthRound around n lastErr = .inl (.ok code) <-> Healthy2xx around n code := by
  simp only [healthRound, Healthy2xx]
  by_cases hclock : around.clock.now n < around.deadline
  · rw [if_pos hclock]
    cases hanswer : around.answer n with
    | error e => simp
    | ok found =>
        dsimp only
        cases hsuccess : isSuccess found with
        | false =>
            simp only [Bool.false_eq_true, if_false, reduceCtorEq, false_iff,
              Except.ok.injEq]
            rintro ⟨_, rfl, hcode⟩
            rw [hsuccess] at hcode
            cases hcode
        | true =>
            simp only [if_true, Sum.inl.injEq, Except.ok.injEq, hclock, true_and]
            constructor
            · rintro rfl
              exact ⟨rfl, hsuccess⟩
            · exact fun h => h.left
  · simp [hclock]

theorem healthRound_eq_error_iff {n : Nat} {lastErr : Option HealthError}
    {e : HealthError} :
    healthRound around n lastErr = .inl (.error e) <->
      around.deadline ≤ around.clock.now n ∧ lastErr.getD .timedOut = e := by
  simp only [healthRound]
  by_cases hclock : around.clock.now n < around.deadline
  · have hnot : ¬ around.deadline ≤ around.clock.now n := Nat.not_le_of_lt hclock
    rw [if_pos hclock]
    cases hanswer : around.answer n with
    | error e' => simp [hnot]
    | ok found =>
        dsimp only
        split <;> simp [hnot]
  · simp [hclock, Nat.le_of_not_lt hclock]

theorem healthRound_eq_inr_iff {n : Nat} {lastErr next : Option HealthError} :
    healthRound around n lastErr = .inr next <->
      around.clock.now n < around.deadline ∧
        (forall code, ¬ Healthy2xx around n code) ∧
        next = lastError around (n + 1) := by
  simp only [healthRound, Healthy2xx, lastError, probeError]
  by_cases hclock : around.clock.now n < around.deadline
  · rw [if_pos hclock]
    cases hanswer : around.answer n with
    | error e =>
        simp only [Sum.inr.injEq, hclock, true_and, reduceCtorEq, false_and,
          not_false_eq_true, implies_true]
        exact eq_comm
    | ok found =>
        dsimp only
        cases hsuccess : isSuccess found with
        | false =>
            simp only [Bool.false_eq_true, if_false, Sum.inr.injEq, hclock, true_and,
              Except.ok.injEq]
            constructor
            · rintro rfl
              refine ⟨?_, rfl⟩
              rintro code ⟨rfl, hcode⟩
              rw [hsuccess] at hcode
              cases hcode
            · exact fun h => h.right.symm
        | true =>
            simp only [if_true, reduceCtorEq, false_iff, hclock, true_and,
              Except.ok.injEq]
            exact fun h => h.left found ⟨rfl, hsuccess⟩
  · simp [hclock]

theorem reaches_healthPoller_iff {n : Nat} {lastErr : Option HealthError} :
    (healthPoller around).Reaches none n lastErr <->
      lastErr = lastError around n ∧
        forall m, m < n -> around.clock.now m < around.deadline ∧
          forall code, ¬ Healthy2xx around m code := by
  constructor
  · intro h
    induction h with
    | start => exact ⟨rfl, fun m hm => absurd hm (Nat.not_lt_zero m)⟩
    | next before goesOn ih =>
        rcases healthRound_eq_inr_iff.mp goesOn with ⟨htime, hnone, hnext⟩
        refine ⟨hnext, fun m hm => ?_⟩
        rcases Nat.lt_succ_iff_lt_or_eq.mp hm with hlt | rfl
        · exact ih.right m hlt
        · exact ⟨htime, hnone⟩
  · rintro ⟨rfl, hbefore⟩
    induction n with
    | zero => exact .start
    | succ n ih =>
        have hreaches := ih fun m hm => hbefore m (Nat.lt_succ_of_lt hm)
        rcases hbefore n (Nat.lt_succ_self n) with ⟨htime, hnone⟩
        exact .next hreaches (healthRound_eq_inr_iff.mpr ⟨htime, hnone, rfl⟩)

variable (around)

/-- The wait returns the first 2xx status that a probe brings in time.  It fails if and
only if every probe that starts in time brings another status or fails, then with what
the last of them brought, and that it timed out only if there was none.  No more probes
start in time than the interval leaves room for. -/
theorem wait_for_health_settles :
    (forall code, waitForHealth around = .ok code <->
      exists n, Healthy2xx around n code ∧
        forall m, m < n -> forall other, ¬ Healthy2xx around m other) ∧
    ((exists e, waitForHealth around = .error e) <->
      forall n code, ¬ Healthy2xx around n code) ∧
    (forall e, waitForHealth around = .error e ->
      exists n, around.deadline ≤ around.clock.now n ∧
        (forall m, m < n -> around.clock.now m < around.deadline) ∧
        e = (lastError around n).getD .timedOut) ∧
    (forall n, around.clock.now n < around.deadline ->
      n * check.pollInterval < check.overallTimeout) := by
  have hok : forall code, waitForHealth around = .ok code <->
      exists n, Healthy2xx around n code ∧
        forall m, m < n -> forall other, ¬ Healthy2xx around m other := by
    intro code
    rw [waitForHealth, Poller.run_eq_iff]
    constructor
    · rintro ⟨n, lastErr, hreaches, hround⟩
      have hbefore := (reaches_healthPoller_iff.mp hreaches).right
      exact ⟨n, healthRound_eq_ok_iff.mp hround, fun m hm => (hbefore m hm).right⟩
    · rintro ⟨n, hfound, hbefore⟩
      refine ⟨n, lastError around n, reaches_healthPoller_iff.mpr ⟨rfl, ?_⟩,
        healthRound_eq_ok_iff.mpr hfound⟩
      intro m hm
      have hmono := around.clock.now_mono (Nat.le_of_lt hm)
      exact ⟨Nat.lt_of_le_of_lt hmono hfound.left, hbefore m hm⟩
  have herror : forall e, waitForHealth around = .error e ->
      exists n, around.deadline ≤ around.clock.now n ∧
        (forall m, m < n -> around.clock.now m < around.deadline ∧
          forall code, ¬ Healthy2xx around m code) ∧
        e = (lastError around n).getD .timedOut := by
    intro e h
    rcases Poller.run_eq_iff.mp h with ⟨n, lastErr, hreaches, hround⟩
    rcases reaches_healthPoller_iff.mp hreaches with ⟨rfl, hbefore⟩
    rcases healthRound_eq_error_iff.mp hround with ⟨hlate, he⟩
    exact ⟨n, hlate, hbefore, he.symm⟩
  refine ⟨hok, ⟨?_, ?_⟩, ?_, ?_⟩
  · rintro ⟨e, he⟩ n code hfound
    rcases herror e he with ⟨k, hlate, hbefore, _⟩
    -- A probe in time comes before the round that found the time to be up.
    have hlt : n < k := by
      by_contra hge
      have hmono := around.clock.now_mono (Nat.le_of_not_lt hge)
      have htime := hfound.left
      omega
    exact (hbefore n hlt).right code hfound
  · intro hnone
    cases hresult : waitForHealth around with
    | error e => exact ⟨e, rfl⟩
    | ok code =>
        rcases (hok code).mp hresult with ⟨n, hfound, _⟩
        exact absurd hfound (hnone n code)
  · intro e he
    rcases herror e he with ⟨n, hlate, hbefore, heq⟩
    exact ⟨n, hlate, fun m hm => (hbefore m hm).left, heq⟩
  · intro n htime
    exact around.clock.mul_lt_of_now_lt htime

end

def slowStart : HealthSurroundings
    { host := "127.0.0.1", port := 8000, path := "/healthz",
      overallTimeout := 1000 * millisecond, pollInterval := 250 * millisecond } where
  clock :=
    { start := 0
      now := fun n => n * (250 * millisecond)
      start_le := Nat.zero_le _
      sleeps := fun n => Nat.le_of_eq (Nat.succ_mul n _).symm
      interval_pos := by decide }
  exchange n _ _ _ _ := .ok (Bytes.ofText
    (if n = 0 then "HTTP/1.0 503 Down\r\n\r\n" else "HTTP/1.0 204 Up\r\n\r\n").toList)

example : waitForHealth slowStart = .ok 204 := by
  have hfirst : (healthPoller slowStart).round 0 none = .inr (some (.status 503)) := by
    decide +kernel
  have hsecond : (healthPoller slowStart).round 1 (some (.status 503)) =
      .inl (.ok 204) := by
    decide +kernel
  have hgoesOn := (healthPoller slowStart).runFrom_of_inr hfirst
  have hsettles := (healthPoller slowStart).runFrom_of_inl hsecond
  rw [waitForHealth, Poller.run, hgoesOn, hsettles]

end Laptop

end Ephemwork
