import Ephemwork.Laptop.Deployment

/-!
# Isolation of sessions

nginx sends the requests of a pair to the port the registry has for it.  They
reach the laptop whose listener is on that port, which must be one of the same
pair.  The registry gives a port away as soon as its pair is deregistered, and
`shutdown` drops the reverse forward only after that, `down` not at all.
-/

namespace Ephemwork

open Foundation
open Bastion

namespace Laptop

/-- A listener on the port that the registry has for a pair was opened by an
`up` of that pair. -/
def Isolated (s : Deployment) : Prop :=
  forall key port listener, s.registry.lookup key = some port ->
    s.listeners port = some listener -> listener.key = key

def StaysIsolated (_ : Deployment) (_ : Action) (_ : Unit) (t : Deployment) :
    Prop :=
  Isolated t

/-- If a registration of the pair gets a new port then the listener on that
port, if there is one, is of the same pair. -/
def Deployment.GivesFreed (s : Deployment) (key : Key) : Prop :=
  s.registry.lookup key = none -> forall port listener,
    (grant s.registry key).1 = some port ->
    s.listeners port = some listener -> listener.key = key ∧ key.Plain

/-- If the `up` can open its listener then its port is registered to no pair, or
still to its own. -/
def Deployment.OpensOwn (s : Deployment) (up : Nat) : Prop :=
  forall run, s.upIn up .registered = some run ->
    s.listeners run.port = none -> run.port ∈ s.registry.usedPorts ->
    s.registry.lookup run.key = some run.port ∧ run.key.Plain

def Undisturbed (s : Deployment) (action : Action) (_ : Unit)
    (_ : Deployment) : Prop :=
  match action with
  | .register _ _ key _ => s.GivesFreed key
  | .openReverse up => s.OpensOwn up
  | _ => True

theorem undisturbed_of_quiet {s t : Deployment} {action : Action}
    (h : action.Quiet) : Undisturbed s action () t := by
  cases action with
  | register up laptop key answered => cases h
  | openReverse up => cases h
  | _ => trivial

/-!
# The invariant
-/

def StoresPairs (registry : Registry) : Prop :=
  forall (s : String) port, registry.entries[s]? = some port ->
    exists key, composeKey key = s

theorem storesPairs_withRange (range : PortRange) :
    StoresPairs (Registry.withRange range) := by
  simp [StoresPairs]

theorem StoresPairs.register {registry : Registry} (h : StoresPairs registry)
    (key : Key) : StoresPairs (registry.register key).2 := by
  intro s port hs
  by_cases hkey : s = composeKey key
  · exact ⟨key, hkey.symm⟩
  · rw [registry.register_getElem?_of_ne hkey] at hs
    exact h s port hs

theorem StoresPairs.deregister {registry : Registry} (h : StoresPairs registry)
    (key : Key) : StoresPairs (registry.deregister key).2 :=
  fun s port hs => h s port (Registry.stored_of_deregister hs)

structure Consistent (s : Deployment) : Prop where
  sound : s.registry.Sound
  storesPairs : StoresPairs s.registry
  isolated : Isolated s

theorem consistent_start (range : PortRange) :
    Consistent (Deployment.start range) where
  sound := Registry.sound_withRange range
  storesPairs := storesPairs_withRange range
  isolated := by
    intro key port listener _ hlistener
    cases hlistener

section

variable {s t : Deployment}

theorem Retracts.isolated (h : Retracts s t) (hs : Isolated s) :
    Isolated t := by
  intro key port listener hlookup hlistener
  refine hs key port listener ?_ (h.listeners port listener hlistener)
  rcases h.registry with hsame | ⟨removed, hremoved⟩
  · rw [← hsame]
    exact hlookup
  · rw [hremoved] at hlookup
    exact Registry.stored_of_deregister hlookup

theorem Retracts.consistent (h : Retracts s t) (hs : Consistent s) :
    Consistent t := by
  rcases h.registry with hsame | ⟨removed, hremoved⟩
  · exact ⟨hsame ▸ hs.sound, hsame ▸ hs.storesPairs, h.isolated hs.isolated⟩
  · exact ⟨hremoved ▸ hs.sound.deregister removed,
      hremoved ▸ hs.storesPairs.deregister removed, h.isolated hs.isolated⟩

/-!
# The two steps that can break it
-/

theorem isolated_of_unchanged (hs : Isolated s)
    (hregistry : t.registry = s.registry)
    (hlisteners : t.listeners = s.listeners) : Isolated t := by
  intro key port listener hlookup hlistener
  rw [hregistry] at hlookup
  rw [hlisteners] at hlistener
  exact hs key port listener hlookup hlistener

theorem register_isolated_iff {up laptop : Nat} {key : Key} {answered : Bool}
    (hs : Consistent s) (h : s.register up laptop key answered = some t) :
    Isolated t <-> s.GivesFreed key := by
  rcases Deployment.register_spec h with ⟨hregistry, hlisteners⟩
  cases hport : (grant s.registry key).1 with
  | none =>
      rw [grant_eq_of_none hport] at hregistry
      refine iff_of_true
        (isolated_of_unchanged hs.isolated hregistry hlisteners) ?_
      intro _ port listener hgiven
      rw [hport] at hgiven
      cases hgiven
  | some port =>
      have hafter : t.registry.lookup key = some port := by
        rw [hregistry]
        exact grant_lookup_self hport
      constructor
      · intro ht hnew port' listener hport' hlistener
        rw [hport] at hport'
        cases hport'
        have hshared (other : Key)
            (hother : composeKey other = composeKey key) :
            listener.key = other := by
          refine ht other port listener ?_ (hlisteners ▸ hlistener)
          rw [Registry.lookup, hother]
          exact hafter
        refine ⟨hshared key rfl, (plain_iff key).mpr ?_⟩
        intro other hother
        rw [← hshared other hother, hshared key rfl]
      · intro hgives other port' listener hlookup hlistener
        rw [hlisteners] at hlistener
        by_cases hother : composeKey other = composeKey key
        · rw [Registry.lookup, hother] at hlookup
          have hsame : port' = port :=
            Option.some.inj (hlookup.symm.trans hafter)
          rw [hsame] at hlistener
          cases hold : s.registry.lookup key with
          | none =>
              rcases hgives hold port listener hport hlistener with
                ⟨hkey, hplain⟩
              rw [(plain_iff key).mp hplain other hother, hkey]
          | some old =>
              refine hs.isolated other port listener ?_ hlistener
              rw [Registry.lookup, hother, grant_of_lookup hold hport]
              exact hold
        · rw [hregistry, grant_lookup_of_ne hother] at hlookup
          exact hs.isolated other port' listener hlookup hlistener

theorem openReverse_isolated_iff {up : Nat} (hs : Consistent s)
    (h : s.openReverse up = some t) : Isolated t <-> s.OpensOwn up := by
  rcases Deployment.openReverse_spec h with
    ⟨run, hrun, hregistry, ⟨held, hheld, hlisteners⟩ | ⟨hfree, hlisteners⟩⟩
  · refine iff_of_true
      (isolated_of_unchanged hs.isolated hregistry hlisteners) ?_
    intro run' hrun' hfree
    rw [hrun] at hrun'
    cases hrun'
    rw [hheld] at hfree
    cases hfree
  · constructor
    · intro ht run' hrun' _ hused
      rw [hrun] at hrun'
      cases hrun'
      have hshared (other : Key)
          (hother : s.registry.lookup other = some run.port) :
          run.key = other := by
        refine ht other run.port { up := up, key := run.key } ?_ ?_
        · rw [hregistry]
          exact hother
        · rw [hlisteners, Function.update_self]
      rcases (Registry.mem_usedPorts_iff _ _).mp hused with ⟨stored, hstored⟩
      rcases hs.storesPairs stored run.port hstored with ⟨holder, rfl⟩
      have hholder := hshared holder hstored
      refine ⟨hholder ▸ hstored, (plain_iff run.key).mpr ?_⟩
      intro other hother
      refine (hshared other ?_).symm
      rw [Registry.lookup, hother, hholder]
      exact hstored
    · intro hopens other port listener hlookup hlistener
      rw [hregistry] at hlookup
      by_cases hport : port = run.port
      · rw [hport] at hlookup hlistener
        rw [hlisteners, Function.update_self] at hlistener
        cases hlistener
        have hused : run.port ∈ s.registry.usedPorts :=
          (Registry.mem_usedPorts_iff _ _).mpr ⟨_, hlookup⟩
        rcases hopens run hrun hfree hused with ⟨hown, hplain⟩
        exact ((plain_iff run.key).mp hplain other
          (hs.sound.distinct hlookup hown)).symm
      · rw [hlisteners, Function.update_of_ne hport] at hlistener
        exact hs.isolated other port listener hlookup hlistener

/-!
# Whole runs
-/

theorem isolated_iff_undisturbed {action : Action} (hs : Consistent s)
    (h : s.step action = some t) :
    Isolated t <-> Undisturbed s action () t := by
  cases step_kind h with
  | register hstep => exact register_isolated_iff hs hstep
  | openReverse hstep => exact openReverse_isolated_iff hs hstep
  | quiet hquiet hretracts =>
      exact iff_of_true (hretracts.isolated hs.isolated)
        (undisturbed_of_quiet hquiet)

theorem consistent_step {action : Action} (hs : Consistent s)
    (h : s.step action = some t) (hisolated : Isolated t) : Consistent t := by
  cases step_kind h with
  | register hstep =>
      rename_i up laptop key answered
      have hregistry := (Deployment.register_spec hstep).left
      cases hport : (grant s.registry key).1 with
      | none =>
          rw [grant_eq_of_none hport] at hregistry
          exact ⟨hregistry ▸ hs.sound, hregistry ▸ hs.storesPairs, hisolated⟩
      | some port =>
          have hchanged : t.registry = (s.registry.register key).2 := by
            rw [hregistry, grant_eq_register hport]
          exact ⟨hchanged ▸ hs.sound.register key,
            hchanged ▸ hs.storesPairs.register key, hisolated⟩
  | openReverse hstep =>
      rcases Deployment.openReverse_spec hstep with ⟨_, _, hregistry, _⟩
      exact ⟨hregistry ▸ hs.sound, hregistry ▸ hs.storesPairs, hisolated⟩
  | quiet _ hretracts => exact hretracts.consistent hs

end

/-- A run of the deployment stays isolated if and only if no pair is given a
port on which another pair is still listening, and no `up` starts to listen on
a port that by then is another pair's. -/
theorem stays_isolated_iff (range : PortRange) (actions : List Action) :
    deploymentSystem.Along StaysIsolated (Deployment.start range) actions <->
      deploymentSystem.Along Undisturbed (Deployment.start range) actions := by
  have hallowed : forall action, action ∈ actions -> (fun _ => True) action :=
    fun _ _ => trivial
  refine deploymentSystem.along_iff ?_ ?_ (consistent_start range) hallowed
  · intro s action o t hs _ hstep hundisturbed
    have hnext := deploymentSystem_step hstep
    exact consistent_step hs hnext
      ((isolated_iff_undisturbed hs hnext).mpr hundisturbed)
  · intro s action o t hs _ hstep
    exact isolated_iff_undisturbed hs (deploymentSystem_step hstep)

/-- Alice starts her service and then takes it down; her reverse forward stays
open.  Bob starts his. -/
def handedOver : List Action :=
  [.register 0 0 ⟨"alice", "api"⟩ true, .openReverse 0,
    .record 0 0 8000 4242 [], .list 0 0 "alice" none, .deregister 0 true,
    .forget 0, .register 1 1 ⟨"bob", "api"⟩ true]

/-- Bob's requests are sent to Alice's laptop. -/
theorem handedOver_not_isolated :
    ¬ forall range actions outputs t,
      deploymentSystem.run (Deployment.start range) actions =
        some (outputs, t) ->
      Isolated t := by
  intro h
  have hrun : exists outputs t,
      deploymentSystem.run (Deployment.start PortRange.default) handedOver =
        some (outputs, t) ∧
      t.registry.lookup ⟨"bob", "api"⟩ = some 10000 ∧
      t.listeners 10000 = some ⟨0, ⟨"alice", "api"⟩⟩ :=
    ⟨_, _, rfl, rfl, rfl⟩
  rcases hrun with ⟨outputs, t, hrun, hlookup, hlistener⟩
  have hkey := h _ _ outputs t hrun _ _ _ hlookup hlistener
  revert hkey
  decide

end Laptop

end Ephemwork
