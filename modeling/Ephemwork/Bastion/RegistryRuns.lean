import Ephemwork.Bastion.Registry
import Ephemwork.Foundation.TransitionSystem

/-!
# Runs of the registry

The registry as a transition system, and the allocation it stands for: its
entries are the items of the port pool handed to the stored keys.
-/

namespace Ephemwork

open Foundation

namespace Bastion

inductive RegistryOp where
  | register (key : Key)
  | deregister (key : Key)
  | lookup (key : Key)
  | snapshot
deriving DecidableEq, Repr

inductive RegistryResult where
  | registered (port : Except String UInt16)
  | deregistered (port : Option UInt16)
  | found (port : Option UInt16)
  | listed (entries : List (Key × UInt16))

def Registry.apply (registry : Registry) :
    RegistryOp -> RegistryResult × Registry
  | .register key =>
      (.registered (registry.register key).1, (registry.register key).2)
  | .deregister key =>
      (.deregistered (registry.deregister key).1, (registry.deregister key).2)
  | .lookup key => (.found (registry.lookup key), registry)
  | .snapshot => (.listed registry.snapshot, registry)

def registrySystem :
    TransitionSystem Registry RegistryOp RegistryResult where
  step := fun registry op => some (registry.apply op)

theorem registrySystem_step {registry registry' : Registry} {op : RegistryOp}
    {result : RegistryResult}
    (h : registrySystem.step registry op = some (result, registry')) :
    result = (registry.apply op).1 ∧ registry' = (registry.apply op).2 := by
  have happly : registry.apply op = (result, registry') :=
    Option.some.inj h
  rw [happly]
  exact ⟨rfl, rfl⟩

@[simp] theorem Registry.apply_range (registry : Registry) (op : RegistryOp) :
    (registry.apply op).2.range = registry.range := by
  cases op <;> simp [Registry.apply]

/-- An operation other than the deregistration of a stored key keeps the port
of that key. -/
theorem Registry.apply_getElem?_of_stored {registry : Registry}
    {op : RegistryOp} {s : String} {port : UInt16}
    (hstored : registry.entries[s]? = some port)
    (hop : forall key, op = .deregister key -> composeKey key ≠ s) :
    (registry.apply op).2.entries[s]? = some port := by
  cases op with
  | register key =>
      by_cases hs : s = composeKey key
      · subst hs
        simpa [Registry.apply, Registry.register_of_stored hstored] using hstored
      · rw [← hstored]
        exact registry.register_getElem?_of_ne hs
  | deregister key =>
      have hs : s ≠ composeKey key := fun heq => hop key rfl heq.symm
      rw [← hstored]
      exact registry.deregister_getElem?_of_ne hs
  | lookup key => exact hstored
  | snapshot => exact hstored

theorem registry_run_getElem?_of_stored {registry registry' : Registry}
    {ops : List RegistryOp} {results : List RegistryResult} {s : String}
    {port : UInt16}
    (hrun : registrySystem.run registry ops = some (results, registry'))
    (hstored : registry.entries[s]? = some port)
    (hops : forall key, .deregister key ∈ ops -> composeKey key ≠ s) :
    registry'.entries[s]? = some port := by
  have hallowed : forall op, op ∈ ops ->
      forall key, op = .deregister key -> composeKey key ≠ s := by
    intro op hmem key hop
    rw [hop] at hmem
    exact hops key hmem
  have hkeep : forall (reached : Registry) op result next,
      reached.entries[s]? = some port ->
      (forall key, op = .deregister key -> composeKey key ≠ s) ->
      registrySystem.step reached op = some (result, next) ->
      next.entries[s]? = some port := by
    intro reached op result next hkept hop hstep
    rw [(registrySystem_step hstep).right]
    exact Registry.apply_getElem?_of_stored hkept hop
  exact registrySystem.invariant_run hkeep hrun hallowed hstored

/-!
# The allocation behind a registry

`Represents range encode domain registry allocation` reads the entries as the
ports held by abstract keys: the keys of the domain hold what is stored under
their encoding, all others hold nothing, and nothing else is stored.
-/

def PortRange.pool (range : PortRange) : Finset UInt16 :=
  range.ports.toFinset

@[simp] theorem PortRange.mem_pool_iff (range : PortRange) (port : UInt16) :
    port ∈ range.pool <-> port ∈ range.ports := by
  simp [PortRange.pool]

theorem PortRange.card_pool (range : PortRange) :
    range.pool.card = range.ports.length :=
  List.toFinset_card_of_nodup range.nodup_ports

structure Represents {key : Type} (range : PortRange) (encode : key -> String)
    (domain : key -> Prop) (registry : Registry)
    (allocation : Allocation key range.pool) : Prop where
  range_eq : registry.range = range
  held_eq : forall k, domain k ->
    allocation.held k = registry.entries[encode k]?
  held_none : forall k, ¬ domain k -> allocation.held k = none
  stored : forall (s : String) port, registry.entries[s]? = some port ->
    exists k, domain k ∧ encode k = s

namespace Represents

section

variable {key : Type} {range : PortRange} {encode : key -> String}
  {domain : key -> Prop}

theorem withRange (range : PortRange) (encode : key -> String)
    (domain : key -> Prop) :
    Represents range encode domain (Registry.withRange range)
      Allocation.empty where
  range_eq := rfl
  held_eq := by simp
  held_none := by simp
  stored := by simp

variable {registry : Registry} {allocation : Allocation key range.pool}

theorem holds_iff (h : Represents range encode domain registry allocation)
    (port : UInt16) :
    (exists k, allocation.held k = some port) <->
      exists s : String, registry.entries[s]? = some port := by
  constructor
  · intro h
    rcases h with ⟨k, hk⟩
    by_cases hdomain : domain k
    · exact ⟨encode k, by rw [← h.held_eq k hdomain, hk]⟩
    · rw [h.held_none k hdomain] at hk
      cases hk
  · intro h
    rcases h with ⟨s, hs⟩
    rcases h.stored s port hs with ⟨k, hdomain, rfl⟩
    exact ⟨k, by rw [h.held_eq k hdomain, hs]⟩

theorem free_eq_unused
    (h : Represents range encode domain registry allocation) :
    allocation.Free = registry.Unused := by
  ext port
  have hiff := h.holds_iff port
  have hnot : (forall k, allocation.held k ≠ some port) <->
      forall s : String, registry.entries[s]? ≠ some port := by
    simpa using not_congr hiff
  simp only [Allocation.Free, Registry.Unused, PortRange.mem_pool_iff,
    Set.mem_ofPred_eq, h.range_eq, hnot]

variable [DecidableEq key]

theorem register (h : Represents range encode domain registry allocation)
    (hinj : forall k l, domain k -> domain l -> encode k = encode l -> k = l)
    {k : key} (hk : domain k) {pair : Key} (hpair : composeKey pair = encode k) :
    (registry.register pair).1.toOption = (allocation.acquire k).1 ∧
      Represents range encode domain (registry.register pair).2
        (allocation.acquire k).2 := by
  rcases registry.register_cases pair with
    ⟨port, hstored, hreg⟩ | ⟨port, hnew, hleast, hreg⟩ |
      ⟨message, hnew, hempty, hreg⟩
  · rw [hpair, ← h.held_eq k hk] at hstored
    rw [hreg, Allocation.acquire_of_held hstored]
    exact ⟨rfl, h⟩
  · rw [hpair, ← h.held_eq k hk] at hnew
    rw [← h.free_eq_unused] at hleast
    rw [hreg, Allocation.acquire_of_isLeast hnew hleast]
    refine ⟨rfl, h.range_eq, ?_, ?_, ?_⟩
    · intro l hl
      by_cases hlk : l = k
      · subst hlk
        simp [hpair]
      · have hne : ¬ encode k = encode l := fun heq =>
          hlk (hinj l k hl hk heq.symm)
        rw [Allocation.assign_held_of_ne _ _ _ hlk, h.held_eq l hl]
        simp [hpair, Std.ExtTreeMap.getElem?_insert, hne]
    · intro l hl
      have hlk : l ≠ k := fun heq => hl (heq ▸ hk)
      rw [Allocation.assign_held_of_ne _ _ _ hlk, h.held_none l hl]
    · intro s port' hs
      by_cases hsk : encode k = s
      · exact ⟨k, hk, hsk⟩
      · have hs' : registry.entries[s]? = some port' := by
          simpa [hpair, Std.ExtTreeMap.getElem?_insert, hsk] using hs
        exact h.stored s port' hs'
  · rw [hpair, ← h.held_eq k hk] at hnew
    rw [← h.free_eq_unused] at hempty
    rw [hreg, Allocation.acquire_of_free_empty hnew hempty]
    exact ⟨rfl, h⟩

theorem deregister (h : Represents range encode domain registry allocation)
    (hinj : forall k l, domain k -> domain l -> encode k = encode l -> k = l)
    {k : key} (hk : domain k) {pair : Key} (hpair : composeKey pair = encode k) :
    (registry.deregister pair).1 = allocation.held k ∧
      Represents range encode domain (registry.deregister pair).2
        (allocation.release k) := by
  constructor
  · rw [h.held_eq k hk, ← hpair]
    rfl
  · refine ⟨h.range_eq, ?_, ?_, ?_⟩
    · intro l hl
      by_cases hlk : l = k
      · subst hlk
        rw [Allocation.release_held_self, ← hpair,
          Registry.deregister_getElem?_self]
      · have hne : encode l ≠ composeKey pair := fun heq =>
          hlk (hinj l k hl hk (heq.trans hpair))
        rw [Allocation.release_held_of_ne _ hlk, h.held_eq l hl,
          Registry.deregister_getElem?_of_ne _ hne]
    · intro l hl
      have hlk : l ≠ k := fun heq => hl (heq ▸ hk)
      rw [Allocation.release_held_of_ne _ hlk, h.held_none l hl]
    · intro s port hs
      by_cases hsk : s = composeKey pair
      · rw [hsk, Registry.deregister_getElem?_self] at hs
        cases hs
      · rw [Registry.deregister_getElem?_of_ne _ hsk] at hs
        exact h.stored s port hs

end

end Represents

end Bastion

end Ephemwork
