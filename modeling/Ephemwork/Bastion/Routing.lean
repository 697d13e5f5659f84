import Ephemwork.Bastion.ControlPlane

/-!
# What nginx routes

The lines nginx reads from the configuration file on disk, what it means that
they are exactly the sessions of a registry, and the registries whose snapshot
can be rendered: those whose stored strings come from safe pairs.
-/

namespace Ephemwork

open Foundation

namespace Bastion

def readNginx (contents : Option Bytes) : List (String × String) :=
  match contents with
  | none => []
  | some bytes =>
      match Bytes.toText? bytes with
      | none => []
      | some text => readMap text

/-- The file has a line for every pair of the snapshot, to its port, and no
other line. -/
def RoutesExactly (contents : Option Bytes) (registry : Registry) : Prop :=
  forall line, line ∈ readNginx contents <->
    exists key port, (key, port) ∈ registry.snapshot ∧
      line = mapEntry (key, port)

def HasRoute (contents : Option Bytes) (key : Key) (port : UInt16) : Prop :=
  mapEntry (key, port) ∈ readNginx contents

def Request.Safe (serde : SerdeJson) (request : Request) : Prop :=
  forall key, request.registers serde = some key ∨
    request.deregisters serde = some key -> key.Safe

def Request.RegistersSafe (serde : SerdeJson) (request : Request) : Prop :=
  forall key, request.registers serde = some key -> key.Safe

theorem Request.Safe.registersSafe {serde : SerdeJson} {request : Request}
    (h : request.Safe serde) : request.RegistersSafe serde :=
  fun key hkey => h key (Or.inl hkey)

def ControlPlaneAction.Safe (serde : SerdeJson)
    (action : ControlPlaneAction) : Prop :=
  forall request, action.request = some request -> request.Safe serde

/-!
# Registries of safe pairs
-/

def Registry.AllSafe (registry : Registry) : Prop :=
  forall (s : String) port, registry.entries[s]? = some port ->
    exists key : Key, key.Safe ∧ composeKey key = s

namespace Registry.AllSafe

variable {registry : Registry}

theorem withRange (range : PortRange) : (Registry.withRange range).AllSafe := by
  intro s port hs
  simp at hs

theorem safe_of_stored (h : registry.AllSafe) {key : Key} {port : UInt16}
    (hstored : registry.lookup key = some port) : key.Safe := by
  rcases h _ port hstored with ⟨safe, hsafe, hcompose⟩
  rw [hsafe.of_composeKey_eq hcompose.symm]
  exact hsafe

theorem safe_of_mem_snapshot (h : registry.AllSafe) {entry : Key × UInt16}
    (hmem : entry ∈ registry.snapshot) : entry.1.Safe :=
  h.safe_of_stored ((Registry.mem_snapshot_iff _ _ _).mp hmem).right

theorem register (h : registry.AllSafe) {key : Key} (hkey : key.Safe) :
    (registry.register key).2.AllSafe := by
  intro s port hs
  by_cases hcompose : s = composeKey key
  · exact ⟨key, hkey, hcompose.symm⟩
  · rw [registry.register_getElem?_of_ne hcompose] at hs
    exact h s port hs

theorem deregister (h : registry.AllSafe) (key : Key) :
    (registry.deregister key).2.AllSafe := by
  intro s port hs
  by_cases hcompose : s = composeKey key
  · rw [hcompose, Registry.deregister_getElem?_self] at hs
    cases hs
  · rw [registry.deregister_getElem?_of_ne hcompose] at hs
    exact h s port hs

theorem handled {serde : SerdeJson} (h : registry.AllSafe) {request : Request}
    (hrequest : request.RegistersSafe serde) :
    (registry.handled serde request).AllSafe := by
  cases hregisters : request.registers serde with
  | some key =>
      rw [handled_of_registers hregisters]
      exact h.register (hrequest key hregisters)
  | none =>
      cases hderegisters : request.deregisters serde with
      | some key =>
          rw [handled_of_deregisters hderegisters]
          exact h.deregister key
      | none =>
          rw [handled_of_neither hregisters hderegisters]
          exact h

end Registry.AllSafe

theorem mem_snapshot_of_safe {registry : Registry} {key : Key} (hkey : key.Safe)
    (port : UInt16) :
    (key, port) ∈ registry.snapshot <-> registry.lookup key = some port := by
  rw [Registry.mem_snapshot_iff]
  exact ⟨fun h => h.right, fun h => ⟨hkey.slash_notMem, h⟩⟩

/-!
# Rendered registries
-/

def Registry.nginxContents (registry : Registry) : Bytes :=
  Bytes.ofText (configText registry.snapshot)

theorem readNginx_nginxContents {registry : Registry} (h : registry.AllSafe) :
    readNginx (some registry.nginxContents) =
      registry.snapshot.map mapEntry := by
  have hsafe : forall entry, entry ∈ registry.snapshot -> entry.1.Safe :=
    fun entry hmem => h.safe_of_mem_snapshot hmem
  rw [readNginx, Registry.nginxContents, Bytes.toText?_ofText]
  exact readMap_configText hsafe

theorem routesExactly_nginxContents {registry : Registry}
    (h : registry.AllSafe) :
    RoutesExactly (some registry.nginxContents) registry := by
  intro line
  rw [readNginx_nginxContents h, List.mem_map]
  constructor
  · intro hline
    rcases hline with ⟨entry, hmem, hentry⟩
    exact ⟨entry.1, entry.2, hmem, hentry.symm⟩
  · intro hline
    rcases hline with ⟨key, port, hmem, hentry⟩
    exact ⟨(key, port), hmem, hentry.symm⟩

theorem RoutesExactly.hasRoute_iff {contents : Option Bytes}
    {registry : Registry} (h : RoutesExactly contents registry) {key : Key}
    (hkey : key.Safe) (port : UInt16) :
    HasRoute contents key port <-> registry.lookup key = some port := by
  rw [HasRoute, h, ← mem_snapshot_of_safe hkey]
  constructor
  · intro hline
    rcases hline with ⟨key', port', hmem, heq⟩
    have hheader := congrArg Prod.fst heq
    have htarget := congrArg Prod.snd heq
    have hport : port = port' := mapTarget_inj htarget
    have hkeys : key' = key := hkey.of_mapHeader_eq hheader.symm
    rw [← hkeys, hport]
    exact hmem
  · intro hmem
    exact ⟨key, port, hmem, rfl⟩

theorem compositeListener_nginxConfig_of_allSafe (serde : SerdeJson)
    (config : ServerConfig) (faults : Faults) {registry : Registry}
    (h : registry.AllSafe) (files : FileSystem Path) :
    compositeListener serde config faults registry files config.nginxConfig =
      if FileOp.replaced faults.writeConfig then
        some registry.nginxContents
      else
        files config.nginxConfig := by
  have hentries : forall entry, entry ∈ registry.snapshot -> entry.1.Safe :=
    fun _ hmem => h.safe_of_mem_snapshot hmem
  have hrender := renderConfig_of_safe hentries
  rw [compositeListener_nginxConfig, hrender]
  simp [Registry.nginxContents]

theorem routesExactly_of_change (serde : SerdeJson) (config : ServerConfig)
    {registry : Registry} (h : registry.AllSafe) (files : FileSystem Path) :
    RoutesExactly
      (compositeListener serde config Faults.none registry files
        config.nginxConfig) registry := by
  rw [compositeListener_nginxConfig_of_allSafe serde config Faults.none h]
  exact routesExactly_nginxContents h

theorem exists_unsafe_of_stored {registry : Registry} {key : Key}
    {port : UInt16} (hrejected : ¬ key.Safe)
    (hstored : registry.lookup key = some port) :
    exists read : Key, ¬ read.Safe ∧ composeKey read = composeKey key ∧
      (read, port) ∈ registry.snapshot := by
  rcases splitKey_composeKey_isSome key with ⟨read, hread⟩
  have hcompose : composeKey read = composeKey key :=
    composeKey_of_splitKey hread
  refine ⟨read, ?_, hcompose, ?_⟩
  · intro hsafe
    rw [← hsafe.of_composeKey_eq hcompose.symm] at hsafe
    exact hrejected hsafe
  · rw [Registry.mem_snapshot_iff, Registry.lookup, hcompose]
    exact ⟨splitKey_user hread, hstored⟩

theorem compositeListener_nginxConfig_of_rejected (serde : SerdeJson)
    (config : ServerConfig) (faults : Faults) {registry : Registry} {key : Key}
    {port : UInt16} (hrejected : ¬ key.Safe)
    (hmem : (key, port) ∈ registry.snapshot) (files : FileSystem Path) :
    compositeListener serde config faults registry files config.nginxConfig =
      files config.nginxConfig := by
  rw [compositeListener_nginxConfig]
  cases hrender : renderConfig registry.snapshot with
  | error e => rfl
  | ok rendered =>
      have hsafe := ((renderConfig_eq_ok_iff _ _).mp hrender).left
      exact absurd (hsafe (key, port) hmem) hrejected

theorem RoutesExactly.not_of_rejected {contents : Option Bytes}
    {registry changed : Registry} (h : RoutesExactly contents registry)
    (hsafe : registry.AllSafe) {key : Key} {port : UInt16}
    (hrejected : ¬ key.Safe) (hmem : (key, port) ∈ changed.snapshot) :
    ¬ RoutesExactly contents changed := by
  intro hchanged
  have hline := (hchanged (mapEntry (key, port))).mpr ⟨key, port, hmem, rfl⟩
  rcases (h _).mp hline with ⟨key', port', hmem', heq⟩
  have hkey' : key'.Safe := hsafe.safe_of_mem_snapshot hmem'
  have hkeys : key = key' := hkey'.of_mapHeader_eq (congrArg Prod.fst heq)
  rw [hkeys] at hrejected
  exact hrejected hkey'

/-!
# The pair of the examples
-/

def aliceKey : Key where
  user := "alice"
  service := "api"

def bobKey : Key where
  user := "bob"
  service := "api"

def registerFor (key : Key) : Request :=
  Request.post "/register"
    (serdeJson.registerRequest.encode ⟨key.user, key.service⟩)

def aliceRegister : Request :=
  registerFor aliceKey

def bobRegister : Request :=
  registerFor bobKey

def aliceDeregister : Request :=
  Request.post "/deregister"
    (serdeJson.deregisterRequest.encode ⟨"alice", "api"⟩)

theorem registers_registerFor {key : Key}
    (h : (Text.isBlank key.user.toList || Text.isBlank key.service.toList) = false) :
    (registerFor key).registers serdeJson = some key := by
  rw [registerFor, Request.registers_post serdeJson_registerRequest_faithful]
  simp only [h, Bool.false_eq_true, if_false]
  rfl

theorem aliceRegister_registers :
    aliceRegister.registers serdeJson = some aliceKey :=
  registers_registerFor (by decide)

theorem bobRegister_registers :
    bobRegister.registers serdeJson = some bobKey :=
  registers_registerFor (by decide)

theorem aliceDeregister_deregisters :
    aliceDeregister.deregisters serdeJson = some aliceKey :=
  Request.deregisters_post serdeJson_deregisterRequest_faithful _

theorem Request.safe_of_registers {serde : SerdeJson} {request : Request} {key : Key}
    (hregisters : request.registers serde = some key) (hkey : key.Safe) :
    request.Safe serde := by
  intro key' h
  rcases h with h | h
  · rw [hregisters] at h
    cases h
    exact hkey
  · rw [Request.registers_eq_none_of_deregisters h] at hregisters
    cases hregisters

theorem Request.safe_of_deregisters {serde : SerdeJson} {request : Request} {key : Key}
    (hderegisters : request.deregisters serde = some key) (hkey : key.Safe) :
    request.Safe serde := by
  intro key' h
  rcases h with h | h
  · rw [Request.registers_eq_none_of_deregisters hderegisters] at h
    cases h
  · rw [hderegisters] at h
    cases h
    exact hkey

theorem aliceRegister_safe : aliceRegister.Safe serdeJson :=
  Request.safe_of_registers aliceRegister_registers (by decide)

theorem bobRegister_safe : bobRegister.Safe serdeJson :=
  Request.safe_of_registers bobRegister_registers (by decide)

theorem aliceDeregister_safe : aliceDeregister.Safe serdeJson :=
  Request.safe_of_deregisters aliceDeregister_deregisters (by decide)

end Bastion

end Ephemwork
