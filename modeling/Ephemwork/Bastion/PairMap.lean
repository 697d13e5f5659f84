import Ephemwork.Bastion.RegistryRuns

/-!
# The registry as a map keyed by pairs

What the registry is for: a finite map from pairs of a user and a service to
ports, a new pair receiving the least free port.  The flat keys of the source
implement this map as long as the user of a pair has no `/`.
-/

namespace Ephemwork

open Foundation

namespace Bastion

/-!
# The abstract map
-/

abbrev PairMap (range : PortRange) : Type :=
  Allocation Key range.pool

inductive PairMapResult where
  | registered (port : Option UInt16)
  | deregistered (port : Option UInt16)
  | found (port : Option UInt16)
  | listed (held : Key -> Option UInt16)

noncomputable def pairMapSystem (range : PortRange) :
    TransitionSystem (PairMap range) RegistryOp PairMapResult where
  step := fun pairs op =>
    match op with
    | .register key =>
        some (.registered (pairs.acquire key).1, (pairs.acquire key).2)
    | .deregister key =>
        some (.deregistered (pairs.held key), pairs.release key)
    | .lookup key => some (.found (pairs.held key), pairs)
    | .snapshot => some (.listed pairs.held, pairs)

/-- A listing names each pair once, and exactly the pairs that hold a port,
with that port. -/
def Lists (entries : List (Key × UInt16)) (held : Key -> Option UInt16) :
    Prop :=
  (entries.map Prod.fst).Nodup ∧
    forall key port, (key, port) ∈ entries <-> held key = some port

def Answers : RegistryResult -> PairMapResult -> Prop
  | .registered port, .registered port' => port.toOption = port'
  | .deregistered port, .deregistered port' => port = port'
  | .found port, .found port' => port = port'
  | .listed entries, .listed held => Lists entries held
  | _, _ => False

/-- A step refines the map: the answers agree, and the registry it leaves lists
exactly the pairs of the map it leaves. -/
def RefinesPairMap {range : PortRange} (_ : Registry × PairMap range)
    (_ : RegistryOp) (answers : RegistryResult × PairMapResult)
    (after : Registry × PairMap range) : Prop :=
  Answers answers.1 answers.2 ∧ Lists after.1.snapshot after.2.held

/-- A call names a user without `/`, or it finds nothing: a lookup or
deregistration while nothing is stored under the joined string, a registration
that is refused because moreover every port is taken. -/
def NoSlashOrNoEntry {range : PortRange} (before : Registry × PairMap range)
    (op : RegistryOp) (_ : RegistryResult × PairMapResult)
    (_ : Registry × PairMap range) : Prop :=
  match op with
  | .register key => '/' ∈ key.user.toList ->
      before.1.entries[composeKey key]? = none ∧ before.1.Unused = ∅
  | .deregister key => '/' ∈ key.user.toList ->
      before.1.entries[composeKey key]? = none
  | .lookup key => '/' ∈ key.user.toList ->
      before.1.entries[composeKey key]? = none
  | .snapshot => True

/-!
# The refinement
-/

def SlashFree (key : Key) : Prop :=
  '/' ∉ key.user.toList

def RepresentsPairs {range : PortRange}
    (s : Registry × PairMap range) : Prop :=
  Represents range composeKey SlashFree s.1 s.2

theorem representsPairs_withRange (range : PortRange) :
    RepresentsPairs (Registry.withRange range,
      (Allocation.empty : PairMap range)) :=
  Represents.withRange range composeKey SlashFree

theorem composeKey_injOn_slashFree :
    forall k l : Key, SlashFree k -> SlashFree l ->
      composeKey k = composeKey l -> k = l :=
  fun _ _ hk hl h => composeKey_inj hk hl h

theorem nodup_snapshot_keys (registry : Registry) :
    (registry.snapshot.map Prod.fst).Nodup := by
  have hkeys : registry.snapshot.map Prod.fst =
      registry.entries.keys.filterMap splitKey := by
    rw [← Std.ExtTreeMap.map_fst_toList_eq_keys, Registry.snapshot,
      List.map_filterMap, List.filterMap_map]
    congr 1
    funext entry
    cases hread : splitKey entry.1 <;> simp [hread]
  rw [hkeys]
  apply Std.ExtTreeMap.nodup_keys.filterMap
  intro s t key hs ht
  rw [← composeKey_of_splitKey hs, ← composeKey_of_splitKey ht]

theorem lists_snapshot {range : PortRange} {registry : Registry}
    {pairs : PairMap range} (h : RepresentsPairs (registry, pairs)) :
    Lists registry.snapshot pairs.held := by
  refine ⟨nodup_snapshot_keys registry, ?_⟩
  intro key port
  rw [Registry.mem_snapshot_iff]
  by_cases hkey : SlashFree key
  · rw [h.held_eq key hkey]
    exact ⟨fun hmem => hmem.right, fun hmem => ⟨hkey, hmem⟩⟩
  · rw [h.held_none key hkey]
    constructor
    · intro hmem
      exact absurd hmem.left hkey
    · intro hmem
      cases hmem

/-!
A call on a pair whose user has a `/` is answered as the map answers it only if
it finds nothing: the map holds no port for such a pair.
-/

theorem register_slash_iff {range : PortRange} {registry : Registry}
    {pairs : PairMap range} (h : RepresentsPairs (registry, pairs)) {key : Key}
    (hkey : ¬ SlashFree key) :
    ((registry.register key).1.toOption = (pairs.acquire key).1 ∧
      Lists (registry.register key).2.snapshot (pairs.acquire key).2.held) <->
      registry.entries[composeKey key]? = none ∧ registry.Unused = ∅ := by
  have hheld : pairs.held key = none := h.held_none key hkey
  have hfree : pairs.Free = registry.Unused := h.free_eq_unused
  rcases registry.register_cases key with
    ⟨port, hstored, hreg⟩ | ⟨port, hnew, hleast, hreg⟩ |
      ⟨message, hnew, hempty, hreg⟩
  · -- The string is stored for another pair, whose port nobody else can get.
    rw [hreg, hstored]
    constructor
    · intro h
      rcases h with ⟨hanswer, _⟩
      have hleast := Allocation.isLeast_of_acquire hheld hanswer.symm
      rw [hfree] at hleast
      exact absurd hstored (hleast.left.right (composeKey key))
    · intro h
      rcases h with ⟨hcontra, _⟩
      cases hcontra
  · -- Both hand out the same port, but the listing shows another pair.
    rw [← hfree] at hleast
    rw [hreg, Allocation.acquire_of_isLeast hheld hleast]
    constructor
    · intro h
      rcases h with ⟨_, hlists⟩
      have hmem := (hlists.right key port).mpr
        (Allocation.assign_held_self pairs key port hleast.left)
      exact absurd ((Registry.mem_snapshot_iff _ _ _).mp hmem).left hkey
    · intro h
      rcases h with ⟨_, hempty⟩
      rw [← hfree] at hempty
      rw [hempty] at hleast
      exact absurd hleast.left (Set.notMem_empty port)
  · have hempty' : pairs.Free = ∅ := hfree.trans hempty
    rw [hreg, Allocation.acquire_of_free_empty hheld hempty']
    constructor
    · intro _
      exact ⟨hnew, hempty⟩
    · intro _
      exact ⟨rfl, lists_snapshot h⟩

theorem refinesPairMap_register {range : PortRange} {registry : Registry}
    {pairs : PairMap range} (h : RepresentsPairs (registry, pairs)) (key : Key) :
    (((registry.register key).1.toOption = (pairs.acquire key).1 ∧
      Lists (registry.register key).2.snapshot (pairs.acquire key).2.held) <->
      ('/' ∈ key.user.toList ->
        registry.entries[composeKey key]? = none ∧ registry.Unused = ∅)) ∧
    (('/' ∈ key.user.toList ->
        registry.entries[composeKey key]? = none ∧ registry.Unused = ∅) ->
      RepresentsPairs ((registry.register key).2, (pairs.acquire key).2)) := by
  by_cases hkey : SlashFree key
  · rcases h.register composeKey_injOn_slashFree hkey rfl with ⟨hanswer, hnext⟩
    exact ⟨⟨fun _ hslash => absurd hslash hkey,
      fun _ => ⟨hanswer, lists_snapshot hnext⟩⟩, fun _ => hnext⟩
  · have hslash : '/' ∈ key.user.toList := not_not.mp hkey
    constructor
    · rw [register_slash_iff h hkey]
      exact ⟨fun hnone _ => hnone, fun hnone => hnone hslash⟩
    · intro hnone
      rcases hnone hslash with ⟨hnew, hempty⟩
      rcases registry.register_cases key with
        ⟨_, hstored, _⟩ | ⟨port, _, hleast, _⟩ | ⟨_, _, _, hreg⟩
      · rw [hnew] at hstored
        cases hstored
      · rw [hempty] at hleast
        exact absurd hleast.left (Set.notMem_empty port)
      · have hfree : pairs.Free = ∅ := h.free_eq_unused.trans hempty
        rw [hreg, Allocation.acquire_of_free_empty (h.held_none key hkey) hfree]
        exact h

theorem refinesPairMap_deregister {range : PortRange} {registry : Registry}
    {pairs : PairMap range} (h : RepresentsPairs (registry, pairs)) (key : Key) :
    (((registry.deregister key).1 = pairs.held key ∧
      Lists (registry.deregister key).2.snapshot (pairs.release key).held) <->
      ('/' ∈ key.user.toList -> registry.entries[composeKey key]? = none)) ∧
    (('/' ∈ key.user.toList -> registry.entries[composeKey key]? = none) ->
      RepresentsPairs ((registry.deregister key).2, pairs.release key)) := by
  by_cases hkey : SlashFree key
  · rcases h.deregister composeKey_injOn_slashFree hkey rfl with
      ⟨hanswer, hnext⟩
    exact ⟨⟨fun _ hslash => absurd hslash hkey,
      fun _ => ⟨hanswer, lists_snapshot hnext⟩⟩, fun _ => hnext⟩
  · have hslash : '/' ∈ key.user.toList := not_not.mp hkey
    have hheld : pairs.held key = none := h.held_none key hkey
    have hunchanged : registry.entries[composeKey key]? = none ->
        RepresentsPairs ((registry.deregister key).2, pairs.release key) := by
      intro hnone
      rw [Registry.deregister_of_absent hnone,
        Allocation.release_of_none hheld]
      exact h
    refine ⟨⟨?_, ?_⟩, fun hnone => hunchanged (hnone hslash)⟩
    · intro h _
      rcases h with ⟨hanswer, _⟩
      exact hanswer.trans hheld
    · intro hnone
      exact ⟨(hnone hslash).trans hheld.symm,
        lists_snapshot (hunchanged (hnone hslash))⟩

theorem lookup_answers_iff {range : PortRange} {registry : Registry}
    {pairs : PairMap range} (h : RepresentsPairs (registry, pairs)) (key : Key) :
    registry.lookup key = pairs.held key <->
      ('/' ∈ key.user.toList -> registry.entries[composeKey key]? = none) := by
  by_cases hkey : SlashFree key
  · have hheld := h.held_eq key hkey
    exact ⟨fun _ hslash => absurd hslash hkey, fun _ => hheld.symm⟩
  · have hslash : '/' ∈ key.user.toList := not_not.mp hkey
    have hheld : pairs.held key = none := h.held_none key hkey
    rw [hheld]
    exact ⟨fun hnone _ => hnone, fun hnone => hnone hslash⟩

/-- One step refines the map exactly if it meets the condition, and then the
registry goes on representing the map. -/
theorem refinesPairMap_step {range : PortRange}
    {s t : Registry × PairMap range} {op : RegistryOp}
    {answers : RegistryResult × PairMapResult} (h : RepresentsPairs s)
    (hstep : (registrySystem.product (pairMapSystem range)).step s op =
      some (answers, t)) :
    (RefinesPairMap s op answers t <-> NoSlashOrNoEntry s op answers t) ∧
      (NoSlashOrNoEntry s op answers t -> RepresentsPairs t) := by
  rcases s with ⟨registry, pairs⟩
  rcases t with ⟨registry', pairs'⟩
  rcases answers with ⟨result, result'⟩
  cases op <;> cases hstep
  case register key => exact refinesPairMap_register h key
  case deregister key => exact refinesPairMap_deregister h key
  case lookup key =>
    refine ⟨?_, fun _ => h⟩
    have hlists := lists_snapshot h
    have hiff := lookup_answers_iff h key
    exact ⟨fun hrefines => hiff.mp hrefines.left,
      fun hnone => ⟨hiff.mpr hnone, hlists⟩⟩
  case snapshot =>
    have hlists := lists_snapshot h
    exact ⟨⟨fun _ => trivial, fun _ => ⟨hlists, hlists⟩⟩, fun _ => h⟩

/-- A sequence of calls is answered as by the map keyed by pairs, with a
listing of exactly the registered pairs after every call, if and only if its
calls name users without `/` or find nothing. -/
theorem registry_refines_pairMap_iff (range : PortRange)
    (ops : List RegistryOp) :
    (registrySystem.product (pairMapSystem range)).Along RefinesPairMap
        (Registry.withRange range, Allocation.empty) ops <->
      (registrySystem.product (pairMapSystem range)).Along NoSlashOrNoEntry
        (Registry.withRange range, Allocation.empty) ops := by
  have hallowed : forall op, op ∈ ops -> True := fun _ _ => trivial
  exact TransitionSystem.along_iff _
    (fun _ _ _ _ h _ hstep => (refinesPairMap_step h hstep).right)
    (fun _ _ _ _ h _ hstep => (refinesPairMap_step h hstep).left)
    (representsPairs_withRange range) hallowed

/-!
# Two pairs that share an entry
-/

def Key.NonBlank (key : Key) : Prop :=
  Text.isBlank key.user.toList = false ∧
    Text.isBlank key.service.toList = false

def RegistryOp.NonBlank : RegistryOp -> Prop
  | .register key => key.NonBlank
  | .deregister key => key.NonBlank
  | .lookup key => key.NonBlank
  | .snapshot => True

def clashingOps : List RegistryOp :=
  [.register ⟨"a", "b/c"⟩, .register ⟨"a/b", "c"⟩]

theorem registry_not_pairMap :
    ¬ forall (range : PortRange) (ops : List RegistryOp),
      (forall op, op ∈ ops -> op.NonBlank) ->
      (registrySystem.product (pairMapSystem range)).Along RefinesPairMap
        (Registry.withRange range, Allocation.empty) ops := by
  intro h
  have hblank : forall op, op ∈ clashingOps -> op.NonBlank := by
    intro op hop
    rcases List.mem_cons.mp hop with rfl | hop
    · exact ⟨by decide, by decide⟩
    · rw [List.mem_singleton.mp hop]
      exact ⟨by decide, by decide⟩
  have hinit := representsPairs_withRange PortRange.default
  rcases h PortRange.default clashingOps hblank _ _ rfl with
    ⟨hfirst, hrest⟩
  have hmeets := (refinesPairMap_step hinit rfl).left.mp hfirst
  have hnext := (refinesPairMap_step hinit rfl).right hmeets
  have hsecond := (hrest _ _ rfl).left
  have hclash := (refinesPairMap_step hnext rfl).left.mp hsecond
  have hstored := (hclash (by decide)).left
  revert hstored
  decide

end Bastion

end Ephemwork
