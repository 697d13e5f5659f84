import Ephemwork.Bastion.RegistryRuns

/-!
# The port allocation invariant

In every registry reached from an empty one the stored ports lie in the range
and are pairwise distinct.  Together with a count of the entries this says when
a registration can fail, and the run lemma says how long an entry keeps its
port.
-/

namespace Ephemwork

open Foundation

namespace Bastion

/-- The stored ports lie in the range, and no two entries share one. -/
structure Registry.Sound (registry : Registry) : Prop where
  in_range : forall {s : String} {port}, registry.entries[s]? = some port ->
    port ∈ registry.range.ports
  distinct : forall {s t : String} {port}, registry.entries[s]? = some port ->
    registry.entries[t]? = some port -> s = t

namespace Registry

/-- The allocation of ports to stored keys that a sound registry stands for. -/
def Sound.allocation {registry : Registry} (h : registry.Sound) :
    Allocation String registry.range.pool where
  held := fun s => registry.entries[s]?
  held_mem := by
    intro s port hs
    exact (PortRange.mem_pool_iff _ _).mpr (h.in_range hs)
  held_inj := h.distinct

theorem Sound.represents {registry : Registry} (h : registry.Sound) :
    Represents registry.range id (fun _ => True) registry h.allocation where
  range_eq := rfl
  held_eq := by
    intro s _
    rfl
  held_none := by
    intro s hs
    exact absurd trivial hs
  stored := by
    intro s _ _
    exact ⟨s, trivial, rfl⟩

theorem sound_of_represents {range : PortRange} {registry : Registry}
    {allocation : Allocation String range.pool}
    (h : Represents range id (fun _ => True) registry allocation) :
    registry.Sound where
  in_range := by
    intro s port hs
    rw [h.range_eq, ← PortRange.mem_pool_iff]
    apply allocation.held_mem (k := s)
    rw [h.held_eq s trivial]
    exact hs
  distinct := by
    intro s t port hs ht
    apply allocation.held_inj (p := port)
    · rw [h.held_eq s trivial]
      exact hs
    · rw [h.held_eq t trivial]
      exact ht

theorem sound_withRange (range : PortRange) : (withRange range).Sound :=
  sound_of_represents (Represents.withRange range id fun _ => True)

theorem Sound.register {registry : Registry} (h : registry.Sound) (key : Key) :
    (registry.register key).2.Sound :=
  sound_of_represents
    (h.represents.register (k := composeKey key) (by simp) trivial rfl).right

theorem Sound.deregister {registry : Registry} (h : registry.Sound)
    (key : Key) : (registry.deregister key).2.Sound :=
  sound_of_represents
    (h.represents.deregister (k := composeKey key) (by simp) trivial rfl).right

theorem Sound.apply {registry : Registry} (h : registry.Sound)
    (op : RegistryOp) : (registry.apply op).2.Sound := by
  cases op with
  | register key => exact h.register key
  | deregister key => exact h.deregister key
  | lookup key => exact h
  | snapshot => exact h

/-!
# Counting entries
-/

theorem ncard_holders {registry : Registry} (h : registry.Sound) :
    h.allocation.Holders.ncard = registry.entries.size := by
  have hholders : h.allocation.Holders =
      (registry.entries.keys.toFinset : Set String) := by
    ext s
    simp [Allocation.Holders, Sound.allocation, Std.ExtTreeMap.mem_keys]
  rw [hholders, Set.ncard_coe_finset,
    List.toFinset_card_of_nodup Std.ExtTreeMap.nodup_keys,
    Std.ExtTreeMap.length_keys]

theorem Sound.register_fails_iff {registry : Registry} (h : registry.Sound)
    {key : Key} (hnew : registry.entries[composeKey key]? = none) :
    (exists message, (registry.register key).1 = .error message) <->
      registry.entries.size = registry.range.ports.length := by
  have hfree := h.allocation.free_eq_empty_iff
  rw [ncard_holders h, PortRange.card_pool, h.represents.free_eq_unused] at hfree
  rw [← hfree]
  constructor
  · intro h
    rcases h with ⟨message, hfails⟩
    rcases registry.register_cases key with
      ⟨port, hstored, hreg⟩ | ⟨port, _, _, hreg⟩ | ⟨_, _, hempty, _⟩
    · rw [hreg] at hfails
      cases hfails
    · rw [hreg] at hfails
      cases hfails
    · exact hempty
  · intro hempty
    rcases registry.register_cases key with
      ⟨port, hstored, _⟩ | ⟨port, _, hleast, _⟩ | ⟨message, _, _, hreg⟩
    · rw [hnew] at hstored
      cases hstored
    · rw [hempty] at hleast
      exact absurd hleast.left (Set.notMem_empty port)
    · exact ⟨message, by rw [hreg]⟩

end Registry

/-!
# Whole runs
-/

theorem registry_run_sound {registry registry' : Registry}
    {ops : List RegistryOp} {results : List RegistryResult}
    (hrun : registrySystem.run registry ops = some (results, registry'))
    (hsound : registry.Sound) : registry'.Sound := by
  have hallowed : forall op, op ∈ ops -> (fun _ => True) op :=
    fun _ _ => trivial
  refine registrySystem.invariant_run ?_ hrun hallowed hsound
  intro registry op result next hkept _ hstep
  rw [(registrySystem_step hstep).right]
  exact hkept.apply op

theorem registry_run_range {registry registry' : Registry}
    {ops : List RegistryOp} {results : List RegistryResult}
    (hrun : registrySystem.run registry ops = some (results, registry')) :
    registry'.range = registry.range := by
  have hallowed : forall op, op ∈ ops -> (fun _ => True) op :=
    fun _ _ => trivial
  have hkeep : forall reached op result next,
      reached.range = registry.range -> (fun _ => True) op ->
      registrySystem.step reached op = some (result, next) ->
      next.range = registry.range := by
    intro reached op result next hkept _ hstep
    rw [(registrySystem_step hstep).right, Registry.apply_range]
    exact hkept
  exact registrySystem.invariant_run hkeep hrun hallowed rfl

/-- The ports of a reached registry lie in the range and are distinct; a stored
key is answered with its port; a new key gets the least unused port and is
refused exactly when every port is taken; an entry keeps its port until its own
stored key is deregistered. -/
theorem port_allocation_invariant {range : PortRange} {ops : List RegistryOp}
    {results : List RegistryResult} {registry : Registry}
    (hrun : registrySystem.run (Registry.withRange range) ops =
      some (results, registry)) :
    (forall (s : String) port, registry.entries[s]? = some port ->
      range.start ≤ port ∧ port ≤ range.stop) ∧
    (forall (s t : String) port, registry.entries[s]? = some port ->
      registry.entries[t]? = some port -> s = t) ∧
    (forall key port, registry.entries[composeKey key]? = some port ->
      registry.register key = (.ok port, registry)) ∧
    (forall key, registry.entries[composeKey key]? = none ->
      (forall port, (registry.register key).1 = .ok port ->
        IsLeast { q | (range.start ≤ q ∧ q ≤ range.stop) ∧
          forall s : String, registry.entries[s]? ≠ some q } port) ∧
      ((exists message, (registry.register key).1 = .error message) <->
        registry.entries.size = range.stop.toNat + 1 - range.start.toNat) ∧
      (forall message, (registry.register key).1 = .error message ->
        (registry.register key).2 = registry)) ∧
    (forall key port, (registry.register key).1 = .ok port ->
      (registry.register key).2.entries[composeKey key]? = some port) ∧
    (forall (s : String) port, registry.entries[s]? = some port ->
      forall ops' results' registry',
        registrySystem.run registry ops' = some (results', registry') ->
        (forall key, .deregister key ∈ ops' -> composeKey key ≠ s) ->
        registry'.entries[s]? = some port) := by
  have hsound : registry.Sound :=
    registry_run_sound hrun (Registry.sound_withRange range)
  have hrange : registry.range = range := registry_run_range hrun
  refine ⟨?_, ?_, ?_, ?_, ?_, ?_⟩
  · intro s port hs
    rw [← PortRange.mem_ports_iff, ← hrange]
    exact hsound.in_range hs
  · intro s t port hs ht
    exact hsound.distinct hs ht
  · intro key port hstored
    exact Registry.register_of_stored hstored
  · intro key hnew
    refine ⟨?_, ?_, ?_⟩
    · intro port hok
      rcases registry.register_cases key with
        ⟨_, hstored, _⟩ | ⟨_, _, hleast, hreg⟩ | ⟨_, _, _, hreg⟩
      · rw [hnew] at hstored
        cases hstored
      · rw [hreg] at hok
        cases hok
        simpa [Registry.Unused, PortRange.mem_ports_iff, hrange] using hleast
      · rw [hreg] at hok
        cases hok
    · rw [← hrange, ← PortRange.length_ports]
      exact hsound.register_fails_iff hnew
    · intro message herror
      exact Registry.register_eq_of_error herror
  · intro key port hok
    exact Registry.register_getElem?_self hok
  · intro s port hs ops' results' registry' hrun' hops
    exact registry_run_getElem?_of_stored hrun' hs hops

def refillRun : List RegistryOp :=
  [.register ⟨"alice", "api"⟩, .register ⟨"bob", "api"⟩,
    .deregister ⟨"alice", "api"⟩, .register ⟨"carol", "api"⟩]

theorem port_allocation_invariant_refill :
    exists results registry,
      registrySystem.run (Registry.withRange ⟨65533, 65535⟩) refillRun =
        some (results, registry) ∧
      forall (s t : String) port, registry.entries[s]? = some port ->
        registry.entries[t]? = some port -> s = t := by
  have hrun : exists results registry,
      registrySystem.run (Registry.withRange ⟨65533, 65535⟩) refillRun =
        some (results, registry) := ⟨_, _, rfl⟩
  rcases hrun with ⟨results, registry, hrun⟩
  exact ⟨results, registry, hrun,
    (port_allocation_invariant hrun).right.left⟩

end Bastion

end Ephemwork
