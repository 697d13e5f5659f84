import Ephemwork.Bastion.PortInvariant
import Ephemwork.Laptop.Commands
import Mathlib.Logic.Function.Basic

/-!
# The deployment

One bastion and any number of laptops as one transition system.  The bastion has
its registry and the ports on which sshd listens for a laptop, at most one
listener a port; each laptop has its state file.  The steps of `up`, `shutdown`
and `down` of all laptops interleave freely.
-/

namespace Ephemwork

open Foundation
open Bastion

namespace Laptop

/-!
# States
-/

/-- A live reverse forward, for the `up` that opened it. -/
structure Listener where
  up : Nat
  key : Key
deriving DecidableEq, Repr

inductive UpPhase where
  /-- It was given a port. -/
  | registered
  /-- Its reverse forward is open. -/
  | listening
  /-- Its session is in the state file. -/
  | active
  /-- Its shutdown has deregistered and not yet dropped the reverse forward. -/
  | closing
deriving DecidableEq, Repr

structure Up where
  laptop : Nat
  key : Key
  port : UInt16
  phase : UpPhase
deriving DecidableEq, Repr

structure Down where
  laptop : Nat
  user : String
  service : Option String
  /-- The sessions it has yet to deregister. -/
  remaining : List Session
deriving DecidableEq, Repr

structure Deployment where
  registry : Registry
  listeners : UInt16 -> Option Listener
  ups : Nat -> Option Up
  downs : Nat -> Option Down
  files : Nat -> State

/-!
# Steps
-/

def grant (registry : Registry) (key : Key) : Option UInt16 × Registry :=
  if Text.isBlank key.user.toList || Text.isBlank key.service.toList then
    (none, registry)
  else
    match registry.register key with
    | (.ok port, changed) => (some port, changed)
    | (.error _, changed) => (none, changed)

/-- A `/deregister` request, of which the caller does not learn whether it
reached the bastion. -/
def retract (registry : Registry) (key : Key) (reached : Bool) : Registry :=
  if reached then (registry.deregister key).2 else registry

namespace Deployment

def start (range : PortRange) : Deployment where
  registry := Registry.withRange range
  listeners := fun _ => none
  ups := fun _ => none
  downs := fun _ => none
  files := fun _ => State.default

variable (s : Deployment)

def upIn (up : Nat) (phase : UpPhase) : Option Up :=
  (s.ups up).filter fun run => decide (run.phase = phase)

/-- An `up` registers.  It fails where it is given no port, or where the answer
does not arrive. -/
def register (up laptop : Nat) (key : Key) (answered : Bool) :
    Option Deployment :=
  match s.ups up, grant s.registry key with
  | none, (some port, changed) =>
      if answered then
        some { s with
          registry := changed
          ups := Function.update s.ups up (some
            { laptop := laptop, key := key, port := port,
              phase := .registered }) }
      else
        some { s with registry := changed }
  | none, (none, changed) => some { s with registry := changed }
  | some _, _ => none

/-- sshd refuses a port it listens on already; then the `up` fails. -/
def openReverse (up : Nat) : Option Deployment := do
  let run <- s.upIn up .registered
  match s.listeners run.port with
  | some _ => return { s with ups := Function.update s.ups up none }
  | none =>
      return { s with
        listeners := Function.update s.listeners run.port
          (some { up := up, key := run.key })
        ups := Function.update s.ups up (some { run with phase := .listening }) }

def record (up : Nat) (now : Int) (localPort : UInt16) (pid : UInt32)
    (owned : List UInt16) : Option Deployment := do
  let run <- s.upIn up .listening
  let session := sessionFor now run.key.user run.key.service localPort run.port
    (some pid) owned
  return { s with
    files := Function.update s.files run.laptop
      ((s.files run.laptop).upsert session)
    ups := Function.update s.ups up (some { run with phase := .active }) }

def recordWorker (laptop : Nat) (now : Int) (key : Key) (pid : UInt32)
    (owned : List UInt16) : Option Deployment :=
  some { s with
    files := Function.update s.files laptop
      ((s.files laptop).upsert
        (sessionFor now key.user key.service 0 0 (some pid) owned)) }

def abandon (up : Nat) : Option Deployment := do
  let _ <- s.ups up
  return { s with ups := Function.update s.ups up none }

/-- sshd notices the end of the connection behind a listener. -/
def hangUp (port : UInt16) : Option Deployment := do
  let _ <- s.listeners port
  return { s with listeners := Function.update s.listeners port none }

def shutdown (up : Nat) (reached : Bool) : Option Deployment := do
  let run <- s.upIn up .active
  return { s with
    registry := retract s.registry run.key reached
    ups := Function.update s.ups up (some { run with phase := .closing }) }

def dropReverse (up : Nat) : Option Deployment := do
  let run <- s.upIn up .closing
  return { s with
    listeners := Function.update s.listeners run.port
      ((s.listeners run.port).filter fun listener => listener.up != up)
    ups := Function.update s.ups up none }

def list (down laptop : Nat) (user : String) (service : Option String) :
    Option Deployment :=
  match s.downs down, downCandidates (s.files laptop) user service with
  | none, [] => some s
  | none, candidates =>
      some { s with
        downs := Function.update s.downs down (some
          { laptop := laptop, user := user, service := service,
            remaining := candidates }) }
  | some _, _ => none

def deregister (down : Nat) (reached : Bool) : Option Deployment := do
  let run <- s.downs down
  match run.remaining with
  | [] => none
  | session :: rest =>
      return { s with
        registry := retract s.registry ⟨run.user, session.service⟩ reached
        downs := Function.update s.downs down
          (some { run with remaining := rest }) }

def forget (down : Nat) : Option Deployment := do
  let run <- s.downs down
  match run.remaining with
  | _ :: _ => none
  | [] =>
      return { s with
        files := Function.update s.files run.laptop
          ((s.files run.laptop).removeWhere
            (downForgets run.user run.service)).2
        downs := Function.update s.downs down none }

def abandonDown (down : Nat) : Option Deployment := do
  let _ <- s.downs down
  return { s with downs := Function.update s.downs down none }

end Deployment

inductive Action where
  | register (up laptop : Nat) (key : Key) (answered : Bool)
  | openReverse (up : Nat)
  | record (up : Nat) (now : Int) (localPort : UInt16) (pid : UInt32)
      (owned : List UInt16)
  | recordWorker (laptop : Nat) (now : Int) (key : Key) (pid : UInt32)
      (owned : List UInt16)
  | abandon (up : Nat)
  | hangUp (port : UInt16)
  | shutdown (up : Nat) (reached : Bool)
  | dropReverse (up : Nat)
  | list (down laptop : Nat) (user : String) (service : Option String)
  | deregister (down : Nat) (reached : Bool)
  | forget (down : Nat)
  | abandonDown (down : Nat)
deriving DecidableEq, Repr

def Deployment.step (s : Deployment) : Action -> Option Deployment
  | .register up laptop key answered => s.register up laptop key answered
  | .openReverse up => s.openReverse up
  | .record up now localPort pid owned => s.record up now localPort pid owned
  | .recordWorker laptop now key pid owned =>
      s.recordWorker laptop now key pid owned
  | .abandon up => s.abandon up
  | .hangUp port => s.hangUp port
  | .shutdown up reached => s.shutdown up reached
  | .dropReverse up => s.dropReverse up
  | .list down laptop user service => s.list down laptop user service
  | .deregister down reached => s.deregister down reached
  | .forget down => s.forget down
  | .abandonDown down => s.abandonDown down

def deploymentSystem : TransitionSystem Deployment Action Unit where
  step := fun s action => (s.step action).map fun t => ((), t)

theorem deploymentSystem_step {s t : Deployment} {action : Action} {o : Unit}
    (h : deploymentSystem.step s action = some (o, t)) :
    s.step action = some t := by
  rcases Option.map_eq_some_iff.mp h with ⟨t', hstep, heq⟩
  cases heq
  exact hstep

theorem deployment_run_cons {s t u : Deployment} {action : Action}
    {rest : List Action} {outputs : List Unit} (hstep : s.step action = some t)
    (hrest : deploymentSystem.run t rest = some (outputs, u)) :
    deploymentSystem.run s (action :: rest) = some (() :: outputs, u) := by
  have hfirst : deploymentSystem.step s action = some ((), t) := by
    simp [deploymentSystem, hstep]
  rw [deploymentSystem.run_cons_of_step hfirst, hrest]
  rfl

/-!
# What a step can do
-/

theorem grant_cases (registry : Registry) (key : Key) :
    (exists port, (grant registry key).1 = some port ∧
      registry.register key = (.ok port, (grant registry key).2)) ∨
    grant registry key = (none, registry) := by
  unfold grant
  split
  · exact Or.inr rfl
  · rcases registry.register_cases key with
      ⟨port, _, hreg⟩ | ⟨port, _, _, hreg⟩ | ⟨message, _, _, hreg⟩
    · exact Or.inl ⟨port, by rw [hreg], by rw [hreg]⟩
    · exact Or.inl ⟨port, by rw [hreg], by rw [hreg]⟩
    · exact Or.inr (by rw [hreg])

section

variable {registry : Registry} {key : Key} {port : UInt16}

theorem grant_eq_register (h : (grant registry key).1 = some port) :
    registry.register key = (.ok port, (grant registry key).2) := by
  rcases grant_cases registry key with ⟨port', hport, hreg⟩ | hrefused
  · rw [hport] at h
    cases h
    exact hreg
  · rw [hrefused] at h
    cases h

theorem grant_eq_of_none (h : (grant registry key).1 = none) :
    (grant registry key).2 = registry := by
  rcases grant_cases registry key with ⟨port, hport, _⟩ | hrefused
  · rw [hport] at h
    cases h
  · rw [hrefused]

theorem grant_lookup_self (h : (grant registry key).1 = some port) :
    (grant registry key).2.lookup key = some port := by
  have hreg := grant_eq_register h
  have hstored : (registry.register key).2.lookup key = some port :=
    Registry.register_getElem?_self (by rw [hreg])
  rw [hreg] at hstored
  exact hstored

theorem grant_lookup_of_ne {other : Key}
    (hne : composeKey other ≠ composeKey key) :
    (grant registry key).2.lookup other = registry.lookup other := by
  cases hport : (grant registry key).1 with
  | none => rw [grant_eq_of_none hport]
  | some port =>
      have hkept := registry.register_getElem?_of_ne hne
      rw [grant_eq_register hport] at hkept
      exact hkept

theorem grant_of_lookup {old : UInt16} (hold : registry.lookup key = some old)
    (h : (grant registry key).1 = some port) : port = old := by
  have hkept := Registry.register_of_stored hold
  have hports : Except.ok port = (Except.ok old : Except String UInt16) :=
    congrArg Prod.fst ((grant_eq_register h).symm.trans hkept)
  cases hports
  rfl

end

/-- A step that gives out no port and opens no listener. -/
structure Retracts (s t : Deployment) : Prop where
  registry : t.registry = s.registry ∨
    exists removed, t.registry = (s.registry.deregister removed).2
  listeners : forall port listener, t.listeners port = some listener ->
    s.listeners port = some listener

theorem retract_cases (registry : Registry) (key : Key) (reached : Bool) :
    retract registry key reached = registry ∨
      exists removed, retract registry key reached =
        (registry.deregister removed).2 := by
  cases reached with
  | true => exact Or.inr ⟨key, rfl⟩
  | false => exact Or.inl rfl

namespace Deployment

variable {s t : Deployment} {up down laptop : Nat} {reached : Bool}

theorem upIn_eq_some_iff {phase : UpPhase} {run : Up} :
    s.upIn up phase = some run <-> s.ups up = some run ∧ run.phase = phase := by
  simp [upIn]

theorem register_spec {key : Key} {answered : Bool}
    (h : s.register up laptop key answered = some t) :
    t.registry = (grant s.registry key).2 ∧ t.listeners = s.listeners := by
  unfold register at h
  split at h
  · next port changed hups hgrant =>
      rw [hgrant]
      split at h <;> cases h <;> exact ⟨rfl, rfl⟩
  · next changed hups hgrant =>
      rw [hgrant]
      cases h
      exact ⟨rfl, rfl⟩
  · cases h

theorem openReverse_spec (h : s.openReverse up = some t) :
    exists run, s.upIn up .registered = some run ∧ t.registry = s.registry ∧
      ((exists listener, s.listeners run.port = some listener ∧
          t.listeners = s.listeners) ∨
        (s.listeners run.port = none ∧
          t.listeners = Function.update s.listeners run.port
            (some { up := up, key := run.key }))) := by
  rcases Option.bind_eq_some_iff.mp h with ⟨run, hrun, hnext⟩
  refine ⟨run, hrun, ?_⟩
  cases hlistener : s.listeners run.port with
  | some listener =>
      rw [hlistener] at hnext
      cases hnext
      exact ⟨rfl, Or.inl ⟨listener, rfl, rfl⟩⟩
  | none =>
      rw [hlistener] at hnext
      cases hnext
      exact ⟨rfl, Or.inr ⟨rfl, rfl⟩⟩

theorem record_retracts {now : Int} {localPort : UInt16} {pid : UInt32}
    {owned : List UInt16} (h : s.record up now localPort pid owned = some t) :
    Retracts s t := by
  rcases Option.bind_eq_some_iff.mp h with ⟨run, _, hnext⟩
  cases hnext
  exact ⟨Or.inl rfl, fun _ _ hlistener => hlistener⟩

theorem recordWorker_retracts {now : Int} {key : Key} {pid : UInt32}
    {owned : List UInt16} (h : s.recordWorker laptop now key pid owned = some t) :
    Retracts s t := by
  cases h
  exact ⟨Or.inl rfl, fun _ _ hlistener => hlistener⟩

theorem abandon_retracts (h : s.abandon up = some t) : Retracts s t := by
  rcases Option.bind_eq_some_iff.mp h with ⟨run, _, hnext⟩
  cases hnext
  exact ⟨Or.inl rfl, fun _ _ hlistener => hlistener⟩

theorem hangUp_retracts {port : UInt16} (h : s.hangUp port = some t) :
    Retracts s t := by
  rcases Option.bind_eq_some_iff.mp h with ⟨gone, _, hnext⟩
  cases hnext
  refine ⟨Or.inl rfl, ?_⟩
  intro port' listener hlistener
  by_cases hport : port' = port
  · subst hport
    simp at hlistener
  · simpa [hport] using hlistener

theorem shutdown_retracts (h : s.shutdown up reached = some t) :
    Retracts s t := by
  rcases Option.bind_eq_some_iff.mp h with ⟨run, _, hnext⟩
  cases hnext
  exact ⟨retract_cases s.registry run.key reached,
    fun _ _ hlistener => hlistener⟩

theorem dropReverse_retracts (h : s.dropReverse up = some t) :
    Retracts s t := by
  rcases Option.bind_eq_some_iff.mp h with ⟨run, _, hnext⟩
  cases hnext
  refine ⟨Or.inl rfl, ?_⟩
  intro port listener hlistener
  by_cases hport : port = run.port
  · subst hport
    simp only [Function.update_self, Option.filter_eq_some_iff] at hlistener
    exact hlistener.left
  · simpa [hport] using hlistener

theorem list_retracts {user : String} {service : Option String}
    (h : s.list down laptop user service = some t) : Retracts s t := by
  unfold list at h
  split at h
  · cases h
    exact ⟨Or.inl rfl, fun _ _ hlistener => hlistener⟩
  · cases h
    exact ⟨Or.inl rfl, fun _ _ hlistener => hlistener⟩
  · cases h

theorem deregister_retracts (h : s.deregister down reached = some t) :
    Retracts s t := by
  rcases Option.bind_eq_some_iff.mp h with ⟨run, _, hnext⟩
  cases hremaining : run.remaining with
  | nil =>
      rw [hremaining] at hnext
      cases hnext
  | cons session rest =>
      rw [hremaining] at hnext
      cases hnext
      exact ⟨retract_cases s.registry _ reached,
        fun _ _ hlistener => hlistener⟩

theorem forget_retracts (h : s.forget down = some t) : Retracts s t := by
  rcases Option.bind_eq_some_iff.mp h with ⟨run, _, hnext⟩
  cases hremaining : run.remaining with
  | nil =>
      rw [hremaining] at hnext
      cases hnext
      exact ⟨Or.inl rfl, fun _ _ hlistener => hlistener⟩
  | cons session rest =>
      rw [hremaining] at hnext
      cases hnext

theorem abandonDown_retracts (h : s.abandonDown down = some t) :
    Retracts s t := by
  rcases Option.bind_eq_some_iff.mp h with ⟨run, _, hnext⟩
  cases hnext
  exact ⟨Or.inl rfl, fun _ _ hlistener => hlistener⟩

end Deployment

def Action.Quiet : Action -> Prop
  | .register _ _ _ _ => False
  | .openReverse _ => False
  | _ => True

inductive StepKind (s t : Deployment) : Action -> Prop where
  | register {up laptop : Nat} {key : Key} {answered : Bool}
      (h : s.register up laptop key answered = some t) :
      StepKind s t (.register up laptop key answered)
  | openReverse {up : Nat} (h : s.openReverse up = some t) :
      StepKind s t (.openReverse up)
  | quiet {action : Action} (hquiet : action.Quiet) (h : Retracts s t) :
      StepKind s t action

theorem step_kind {s t : Deployment} {action : Action}
    (h : s.step action = some t) : StepKind s t action := by
  cases action with
  | register up laptop key answered => exact .register h
  | openReverse up => exact .openReverse h
  | record up now localPort pid owned =>
      exact .quiet trivial (Deployment.record_retracts h)
  | recordWorker laptop now key pid owned =>
      exact .quiet trivial (Deployment.recordWorker_retracts h)
  | abandon up => exact .quiet trivial (Deployment.abandon_retracts h)
  | hangUp port => exact .quiet trivial (Deployment.hangUp_retracts h)
  | shutdown up reached =>
      exact .quiet trivial (Deployment.shutdown_retracts h)
  | dropReverse up => exact .quiet trivial (Deployment.dropReverse_retracts h)
  | list down laptop user service =>
      exact .quiet trivial (Deployment.list_retracts h)
  | deregister down reached =>
      exact .quiet trivial (Deployment.deregister_retracts h)
  | forget down => exact .quiet trivial (Deployment.forget_retracts h)
  | abandonDown down => exact .quiet trivial (Deployment.abandonDown_retracts h)

end Laptop

end Ephemwork
