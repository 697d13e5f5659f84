import Mathlib.Data.List.Range
import Std.Data.ExtTreeMap
import Ephemwork.Foundation.Allocation
import Ephemwork.Foundation.Text

/-!
# The port registry

The in-memory registry of developer tunnels (`bastion-server/src/registry.rs`).
It maps flat keys `user/service` to ports of a fixed range.  The `BTreeMap` of
the source is an ordered map whose values are compared by their entries.
-/

namespace Ephemwork

open Foundation

instance portOrder : LinearOrder UInt16 where
  le_refl := UInt16.le_refl
  le_trans := fun _ _ _ => UInt16.le_trans
  le_antisymm := fun _ _ => UInt16.le_antisymm
  le_total := UInt16.le_total
  lt_iff_le_not_ge := by
    intro p q
    rw [UInt16.lt_iff_toNat_lt, UInt16.le_iff_toNat_le, UInt16.le_iff_toNat_le]
    omega
  toDecidableLE := inferInstance

namespace Bastion

structure PortRange where
  start : UInt16
  stop : UInt16
deriving DecidableEq, Repr

namespace PortRange

def default : PortRange where
  start := 10000
  stop := 19999

def contains (range : PortRange) (port : UInt16) : Bool :=
  decide (range.start ≤ port) && decide (port ≤ range.stop)

/-- The ports visited by `for port in start..=end`, in order.  The inclusive
range is empty when `start > end` and ends with 65535 without overflowing. -/
def ports (range : PortRange) : List UInt16 :=
  (List.range' range.start.toNat
    (range.stop.toNat + 1 - range.start.toNat)).map UInt16.ofNat

theorem mem_ports_iff (range : PortRange) (port : UInt16) :
    port ∈ range.ports <-> range.start ≤ port ∧ port ≤ range.stop := by
  have hstop : range.stop.toNat < 65536 := range.stop.toNat_lt
  simp only [ports, List.mem_map, List.mem_range'_1, UInt16.le_iff_toNat_le]
  constructor
  · intro h
    rcases h with ⟨n, ⟨hlow, hhigh⟩, rfl⟩
    rw [UInt16.toNat_ofNat', Nat.mod_eq_of_lt (by omega)]
    omega
  · intro h
    rcases h with ⟨hlow, hhigh⟩
    exact ⟨port.toNat, by omega, by simp⟩

@[simp] theorem length_ports (range : PortRange) :
    range.ports.length = range.stop.toNat + 1 - range.start.toNat := by
  simp [ports]

theorem sorted_ports (range : PortRange) :
    range.ports.Pairwise (· < ·) := by
  have hstop : range.stop.toNat < 65536 := range.stop.toNat_lt
  unfold ports
  rw [List.pairwise_map]
  refine List.Pairwise.imp_of_mem ?_ List.pairwise_lt_range'
  intro m n hm hn hlt
  rw [List.mem_range'_1] at hm hn
  rw [UInt16.lt_iff_toNat_lt, UInt16.toNat_ofNat', UInt16.toNat_ofNat',
    Nat.mod_eq_of_lt (by omega), Nat.mod_eq_of_lt (by omega)]
  exact hlt

theorem nodup_ports (range : PortRange) : range.ports.Nodup :=
  range.sorted_ports.imp fun h => UInt16.ne_of_lt h

end PortRange

structure Key where
  user : String
  service : String
deriving DecidableEq, Repr

structure Registry where
  range : PortRange
  /-- Map `user/service` to the remote port. -/
  entries : Std.ExtTreeMap String UInt16

/-!
# Keys

A pair is stored as one string joined by `/` and read back at the first `/`.
-/

def composeKey (key : Key) : String :=
  key.user ++ "/" ++ key.service

def splitKey (composite : String) : Option Key :=
  (Text.splitOnce '/' composite.toList).map fun parts =>
    { user := String.ofList parts.1, service := String.ofList parts.2 }

theorem toList_composeKey (key : Key) :
    (composeKey key).toList = key.user.toList ++ '/' :: key.service.toList := by
  simp [composeKey]

theorem splitKey_composeKey {key : Key} (h : '/' ∉ key.user.toList) :
    splitKey (composeKey key) = some key := by
  simp [splitKey, toList_composeKey, Text.splitOnce_append h]

theorem splitKey_user {composite : String} {key : Key}
    (h : splitKey composite = some key) : '/' ∉ key.user.toList := by
  by_cases hmem : '/' ∈ composite.toList
  · rcases Text.exists_eq_append_of_mem hmem with ⟨left, right, hleft, hs⟩
    rw [splitKey, hs, Text.splitOnce_append hleft] at h
    cases h
    simpa using hleft
  · rw [splitKey, (Text.splitOnce_eq_none_iff _ _).mpr hmem] at h
    cases h

theorem composeKey_of_splitKey {composite : String} {key : Key}
    (h : splitKey composite = some key) : composeKey key = composite := by
  by_cases hmem : '/' ∈ composite.toList
  · rcases Text.exists_eq_append_of_mem hmem with ⟨left, right, hleft, hs⟩
    rw [splitKey, hs, Text.splitOnce_append hleft] at h
    cases h
    apply String.toList_inj.mp
    rw [toList_composeKey, hs]
    simp
  · rw [splitKey, (Text.splitOnce_eq_none_iff _ _).mpr hmem] at h
    cases h

theorem splitKey_composeKey_isSome (key : Key) :
    exists read, splitKey (composeKey key) = some read := by
  have hmem : '/' ∈ (composeKey key).toList := by simp [toList_composeKey]
  rcases Text.exists_eq_append_of_mem hmem with ⟨left, right, hleft, hs⟩
  exact ⟨_, by rw [splitKey, hs, Text.splitOnce_append hleft]; rfl⟩

theorem composeKey_inj {key key' : Key} (h : '/' ∉ key.user.toList)
    (h' : '/' ∉ key'.user.toList) (heq : composeKey key = composeKey key') :
    key = key' := by
  have hread := splitKey_composeKey h
  rw [heq, splitKey_composeKey h'] at hread
  cases hread
  rfl

def Key.Plain (key : Key) : Prop :=
  '/' ∉ key.user.toList ∧ '/' ∉ key.service.toList

theorem plain_iff (key : Key) :
    key.Plain <-> forall other, composeKey other = composeKey key ->
      other = key := by
  constructor
  · intro hplain other heq
    refine composeKey_inj ?_ hplain.left heq
    intro hmem
    rcases Text.exists_eq_append_of_mem hmem with ⟨left, right, hleft, huser⟩
    have hread := splitKey_composeKey hplain.left
    have hchars : (composeKey key).toList =
        left ++ '/' :: (right ++ '/' :: other.service.toList) := by
      rw [← heq, toList_composeKey, huser]
      simp
    rw [splitKey, hchars, Text.splitOnce_append hleft] at hread
    cases hread
    exact hplain.right (by simp)
  · intro hunique
    constructor
    · intro hmem
      rcases Text.exists_eq_append_of_mem hmem with ⟨left, right, _, huser⟩
      have hother := hunique
        ⟨String.ofList left,
          String.ofList (right ++ '/' :: key.service.toList)⟩
        (String.toList_inj.mp (by simp [toList_composeKey, huser]))
      have hlength := congrArg (fun other => other.user.toList.length) hother
      simp [huser] at hlength
    · intro hmem
      rcases Text.exists_eq_append_of_mem hmem with ⟨left, right, _, hservice⟩
      have hother := hunique
        ⟨String.ofList (key.user.toList ++ '/' :: left), String.ofList right⟩
        (String.toList_inj.mp (by simp [toList_composeKey, hservice]))
      have hlength := congrArg (fun other => other.user.toList.length) hother
      simp at hlength

/-!
# Operations
-/

namespace Registry

def withRange (range : PortRange) : Registry where
  range := range
  entries := ∅

def default : Registry :=
  withRange PortRange.default

def usedPorts (registry : Registry) : List UInt16 :=
  registry.entries.toList.map Prod.snd

def allocatePort (registry : Registry) : Except String UInt16 :=
  match registry.range.ports.find? fun port =>
      decide (port ∉ registry.usedPorts) with
  | some port => .ok port
  | none =>
      let start := registry.range.start.toNat
      let stop := registry.range.stop.toNat
      let active := registry.entries.size
      .error s!"port range {start}..={stop} exhausted ({active} active sessions)"

def register (registry : Registry) (key : Key) :
    Except String UInt16 × Registry :=
  let composite := composeKey key
  match registry.entries[composite]? with
  | some existing => (.ok existing, registry)
  | none =>
      match registry.allocatePort with
      | .error message => (.error message, registry)
      | .ok port =>
          (.ok port,
            { registry with entries := registry.entries.insert composite port })

def deregister (registry : Registry) (key : Key) :
    Option UInt16 × Registry :=
  let composite := composeKey key
  (registry.entries[composite]?,
    { registry with entries := registry.entries.erase composite })

def lookup (registry : Registry) (key : Key) : Option UInt16 :=
  registry.entries[composeKey key]?

def len (registry : Registry) : Nat :=
  registry.entries.size

def isEmpty (registry : Registry) : Bool :=
  registry.entries.isEmpty

def snapshot (registry : Registry) : List (Key × UInt16) :=
  registry.entries.toList.filterMap fun entry =>
    (splitKey entry.1).map fun key => (key, entry.2)

@[ext] theorem ext {registry registry' : Registry}
    (hrange : registry.range = registry'.range)
    (hentries : forall s : String,
      registry.entries[s]? = registry'.entries[s]?) :
    registry = registry' := by
  cases registry
  cases registry'
  cases hrange
  have := Std.ExtTreeMap.ext_getElem? hentries
  simp_all

@[simp] theorem withRange_range (range : PortRange) :
    (withRange range).range = range := rfl

@[simp] theorem withRange_getElem? (range : PortRange) (s : String) :
    (withRange range).entries[s]? = none := by
  simp [withRange]

theorem isEmpty_iff (registry : Registry) :
    registry.isEmpty = true <-> forall s : String,
      registry.entries[s]? = none := by
  rw [isEmpty, Std.ExtTreeMap.isEmpty_iff,
    Std.ExtTreeMap.eq_empty_iff_forall_not_mem]
  constructor
  · intro h s
    exact Std.ExtTreeMap.getElem?_eq_none (h s)
  · intro h s hmem
    rw [Std.ExtTreeMap.mem_iff_isSome_getElem?, h s] at hmem
    cases hmem

theorem mem_usedPorts_iff (registry : Registry) (port : UInt16) :
    port ∈ registry.usedPorts <->
      exists s : String, registry.entries[s]? = some port := by
  simp [usedPorts, Std.ExtTreeMap.mem_toList_iff_getElem?_eq_some]

theorem mem_snapshot_iff (registry : Registry) (key : Key) (port : UInt16) :
    (key, port) ∈ registry.snapshot <->
      '/' ∉ key.user.toList ∧ registry.lookup key = some port := by
  simp only [snapshot, List.mem_filterMap, Prod.exists,
    Std.ExtTreeMap.mem_toList_iff_getElem?_eq_some, Option.map_eq_some_iff,
    Prod.mk.injEq]
  constructor
  · intro h
    rcases h with ⟨composite, port', hstored, read, hread, rfl, rfl⟩
    refine ⟨splitKey_user hread, ?_⟩
    rw [lookup, composeKey_of_splitKey hread]
    exact hstored
  · intro h
    rcases h with ⟨huser, hstored⟩
    exact ⟨composeKey key, port, hstored, key, splitKey_composeKey huser,
      rfl, rfl⟩

/-!
# What each operation can do
-/

def Unused (registry : Registry) : Set UInt16 :=
  { port | port ∈ registry.range.ports ∧ forall s : String,
      registry.entries[s]? ≠ some port }

theorem unused_eq (registry : Registry) :
    registry.Unused = { port | port ∈ registry.range.ports ∧
      decide (port ∉ registry.usedPorts) = true } := by
  ext port
  simp [Unused, mem_usedPorts_iff]

theorem allocatePort_eq_ok_iff (registry : Registry) (port : UInt16) :
    registry.allocatePort = .ok port <-> IsLeast registry.Unused port := by
  have hscan : registry.allocatePort = .ok port <->
      (registry.range.ports.find? fun port =>
        decide (port ∉ registry.usedPorts)) = some port := by
    unfold allocatePort
    cases registry.range.ports.find? fun port =>
      decide (port ∉ registry.usedPorts) <;> simp
  rw [hscan, unused_eq, find?_eq_some_iff_isLeast registry.range.sorted_ports]

theorem unused_eq_empty_of_exhausted {registry : Registry} {message : String}
    (h : registry.allocatePort = .error message) :
    registry.Unused = ∅ := by
  rw [unused_eq, Set.eq_empty_iff_forall_notMem]
  intro port h
  rcases h with ⟨hport, htest⟩
  unfold allocatePort at h
  cases hscan : registry.range.ports.find? fun port =>
      decide (port ∉ registry.usedPorts) with
  | none => exact List.find?_eq_none.mp hscan port hport htest
  | some found =>
      rw [hscan] at h
      cases h

theorem register_of_stored {registry : Registry} {key : Key} {port : UInt16}
    (h : registry.entries[composeKey key]? = some port) :
    registry.register key = (.ok port, registry) := by
  simp [register, h]

theorem register_of_allocated {registry : Registry} {key : Key}
    {port : UInt16} (hnew : registry.entries[composeKey key]? = none)
    (halloc : registry.allocatePort = .ok port) :
    registry.register key =
      (.ok port, { registry with
        entries := registry.entries.insert (composeKey key) port }) := by
  simp [register, hnew, halloc]

theorem register_of_exhausted {registry : Registry} {key : Key}
    {message : String} (hnew : registry.entries[composeKey key]? = none)
    (halloc : registry.allocatePort = .error message) :
    registry.register key = (.error message, registry) := by
  simp [register, hnew, halloc]

theorem register_cases (registry : Registry) (key : Key) :
    (exists port, registry.entries[composeKey key]? = some port ∧
      registry.register key = (.ok port, registry)) ∨
    (exists port, registry.entries[composeKey key]? = none ∧
      IsLeast registry.Unused port ∧
      registry.register key =
        (.ok port, { registry with
          entries := registry.entries.insert (composeKey key) port })) ∨
    (exists message, registry.entries[composeKey key]? = none ∧
      registry.Unused = ∅ ∧
      registry.register key = (.error message, registry)) := by
  cases hstored : registry.entries[composeKey key]? with
  | some port =>
      exact Or.inl ⟨port, rfl, register_of_stored hstored⟩
  | none =>
      cases halloc : registry.allocatePort with
      | ok port =>
          exact Or.inr (Or.inl ⟨port, rfl,
            (registry.allocatePort_eq_ok_iff port).mp halloc,
            register_of_allocated hstored halloc⟩)
      | error message =>
          exact Or.inr (Or.inr ⟨message, rfl,
            unused_eq_empty_of_exhausted halloc,
            register_of_exhausted hstored halloc⟩)

@[simp] theorem register_range (registry : Registry) (key : Key) :
    (registry.register key).2.range = registry.range := by
  rcases registry.register_cases key with
    ⟨_, _, h⟩ | ⟨_, _, _, h⟩ | ⟨_, _, _, h⟩ <;> rw [h]

@[simp] theorem deregister_range (registry : Registry) (key : Key) :
    (registry.deregister key).2.range = registry.range := rfl

theorem deregister_getElem?_self (registry : Registry) (key : Key) :
    (registry.deregister key).2.entries[composeKey key]? = none := by
  simp [deregister]

theorem deregister_getElem?_of_ne (registry : Registry) {key : Key}
    {s : String} (h : s ≠ composeKey key) :
    (registry.deregister key).2.entries[s]? = registry.entries[s]? := by
  have hne : ¬ composeKey key = s := fun heq => h heq.symm
  simp [deregister, Std.ExtTreeMap.getElem?_erase, hne]

theorem stored_of_deregister {registry : Registry} {key : Key} {s : String}
    {port : UInt16}
    (h : (registry.deregister key).2.entries[s]? = some port) :
    registry.entries[s]? = some port := by
  by_cases hs : s = composeKey key
  · rw [hs, deregister_getElem?_self] at h
    cases h
  · rw [deregister_getElem?_of_ne _ hs] at h
    exact h

theorem deregister_of_absent {registry : Registry} {key : Key}
    (h : registry.entries[composeKey key]? = none) :
    registry.deregister key = (none, registry) := by
  refine Prod.ext h (ext rfl ?_)
  intro s
  by_cases hs : s = composeKey key
  · rw [hs, deregister_getElem?_self, h]
  · exact registry.deregister_getElem?_of_ne hs

theorem register_getElem?_of_ne (registry : Registry) {key : Key}
    {s : String} (h : s ≠ composeKey key) :
    (registry.register key).2.entries[s]? = registry.entries[s]? := by
  have hne : ¬ composeKey key = s := fun heq => h heq.symm
  rcases registry.register_cases key with
    ⟨_, _, hreg⟩ | ⟨_, _, _, hreg⟩ | ⟨_, _, _, hreg⟩ <;> rw [hreg]
  simp [Std.ExtTreeMap.getElem?_insert, hne]

theorem register_getElem?_self {registry : Registry} {key : Key}
    {port : UInt16} (h : (registry.register key).1 = .ok port) :
    (registry.register key).2.entries[composeKey key]? = some port := by
  rcases registry.register_cases key with
    ⟨_, hstored, hreg⟩ | ⟨_, _, _, hreg⟩ | ⟨_, _, _, hreg⟩ <;>
    rw [hreg] at h ⊢ <;> cases h
  · exact hstored
  · simp

theorem register_eq_of_error {registry : Registry} {key : Key}
    {message : String} (h : (registry.register key).1 = .error message) :
    (registry.register key).2 = registry := by
  rcases registry.register_cases key with
    ⟨_, _, hreg⟩ | ⟨_, _, _, hreg⟩ | ⟨_, _, _, hreg⟩ <;>
    rw [hreg] at h ⊢
  cases h

theorem unused_eq_empty_of_error {registry : Registry} {key : Key}
    {message : String} (h : (registry.register key).1 = .error message) :
    registry.Unused = ∅ := by
  rcases registry.register_cases key with
    ⟨_, _, hreg⟩ | ⟨_, _, _, hreg⟩ | ⟨_, _, hempty, _⟩
  · rw [hreg] at h
    cases h
  · rw [hreg] at h
    cases h
  · exact hempty

theorem default_unused : (10000 : UInt16) ∈ default.Unused := by
  refine ⟨(PortRange.mem_ports_iff _ _).mpr (by decide), ?_⟩
  simp [default]

theorem exists_register_default (key : Key) :
    exists port, (default.register key).1 = .ok port := by
  cases hresult : (default.register key).1 with
  | ok port => exact ⟨port, rfl⟩
  | error message =>
      have hempty := unused_eq_empty_of_error hresult
      exact absurd default_unused (hempty ▸ Set.notMem_empty _)

@[simp] theorem snapshot_withRange (range : PortRange) :
    (withRange range).snapshot = [] := by
  simp [snapshot, withRange]

end Registry

end Bastion

end Ephemwork
