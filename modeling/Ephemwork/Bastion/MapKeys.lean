import Ephemwork.Bastion.Routing
import Ephemwork.Bastion.PairMap

/-!
# Map keys that differ in case only

nginx compares the keys of a map without regard to ASCII case and rejects a
configuration in which one occurs twice.  The registry and the renderer compare
them character by character, so what nginx accepts depends on which pairs are
registered side by side.
-/

namespace Ephemwork

open Foundation

namespace Bastion

/-- A map key as nginx compares it. -/
def foldCase (s : String) : List Char :=
  s.toList.map Char.toLower

def HasDistinctKeys (text : List Char) : Prop :=
  ((readMap text).map fun line => foldCase line.1).Nodup

/-- The requests reach the registry through the handlers; what the listener
does with a change is left out. -/
def routeSystem (serde : SerdeJson) :
    TransitionSystem Registry Request Response where
  step := fun registry request =>
    let answer := route serde noopListener request registry ()
    some (answer.1, answer.2.1)

/-- The registry is rendered, with a map that nginx accepts. -/
def RendersAccepted (_ : Registry) (_ : Request) (_ : Response)
    (after : Registry) : Prop :=
  exists text, renderConfig after.snapshot = .ok text ∧
    HasDistinctKeys text.toList

/-- The request gives no port to a new pair whose header is that of a stored
pair up to case. -/
def AdmitsDistinct (serde : SerdeJson) (before : Registry) (request : Request)
    (_ : Response) (_ : Registry) : Prop :=
  forall key, request.registers serde = some key ->
    before.lookup key = none -> before.Unused ≠ ∅ ->
    forall other port, before.lookup other = some port ->
      foldCase (mapHeader other) ≠ foldCase (mapHeader key)

/-!
# Registries with distinct keys
-/

/-- Stored pairs whose headers agree up to case are the same. -/
def Registry.CaseDistinct (registry : Registry) : Prop :=
  forall key other port port', registry.lookup key = some port ->
    registry.lookup other = some port' ->
    foldCase (mapHeader key) = foldCase (mapHeader other) -> key = other

theorem nodup_snapshot (registry : Registry) : registry.snapshot.Nodup :=
  List.Nodup.of_map Prod.fst (nodup_snapshot_keys registry)

theorem hasDistinctKeys_iff {registry : Registry} (hsafe : registry.AllSafe) :
    HasDistinctKeys (configText registry.snapshot) <->
      registry.CaseDistinct := by
  have hentries : forall entry, entry ∈ registry.snapshot -> entry.1.Safe :=
    fun entry hmem => hsafe.safe_of_mem_snapshot hmem
  have hmem : forall {key port}, registry.lookup key = some port ->
      (key, port) ∈ registry.snapshot := by
    intro key port hstored
    exact (mem_snapshot_of_safe (hsafe.safe_of_stored hstored) port).mpr hstored
  rw [HasDistinctKeys, readMap_configText hentries, List.map_map,
    List.nodup_map_iff_inj_on (nodup_snapshot registry)]
  constructor
  · intro h key other port port' hkey hother heq
    have hpair := h (key, port) (hmem hkey) (other, port') (hmem hother) heq
    exact congrArg Prod.fst hpair
  · intro h entry hentry entry' hentry' heq
    rcases entry with ⟨key, port⟩
    rcases entry' with ⟨other, port'⟩
    have hkey := ((Registry.mem_snapshot_iff _ _ _).mp hentry).right
    have hother := ((Registry.mem_snapshot_iff _ _ _).mp hentry').right
    have hsame : key = other := h key other port port' hkey hother heq
    rw [← hsame, hkey] at hother
    rw [hsame, Option.some.inj hother]

theorem rendersAccepted_iff {before after : Registry} (hsafe : after.AllSafe)
    (request : Request) (response : Response) :
    RendersAccepted before request response after <-> after.CaseDistinct := by
  have hentries : forall entry, entry ∈ after.snapshot -> entry.1.Safe :=
    fun entry hmem => hsafe.safe_of_mem_snapshot hmem
  have hrender := renderConfig_of_safe hentries
  rw [← hasDistinctKeys_iff hsafe]
  constructor
  · intro h
    rcases h with ⟨text, htext, haccepted⟩
    rw [hrender] at htext
    rw [← Except.ok.inj htext, String.toList_ofList] at haccepted
    exact haccepted
  · intro h
    exact ⟨_, hrender, by rwa [String.toList_ofList]⟩

namespace Registry.CaseDistinct

variable {registry : Registry}

theorem withRange (range : PortRange) :
    (Registry.withRange range).CaseDistinct := by
  intro key other port port' hkey
  simp [Registry.lookup] at hkey

theorem deregister (h : registry.CaseDistinct) (key : Key) :
    (registry.deregister key).2.CaseDistinct := by
  intro key' other port port' hkey' hother heq
  exact h key' other port port' (Registry.stored_of_deregister hkey')
    (Registry.stored_of_deregister hother) heq

theorem lookup_insert_cases {key other : Key} {port port' : UInt16}
    (hkey : key.Safe)
    (h : Registry.lookup { registry with
      entries := registry.entries.insert (composeKey key) port } other =
        some port') :
    other = key ∨ registry.lookup other = some port' := by
  by_cases hcompose : composeKey other = composeKey key
  · exact Or.inl (hkey.of_composeKey_eq hcompose)
  · have hne : ¬ composeKey key = composeKey other :=
      fun heq => hcompose heq.symm
    right
    simpa [Registry.lookup, Std.ExtTreeMap.getElem?_insert, hne] using h

theorem insert_iff (h : registry.CaseDistinct) {key : Key} {port : UInt16}
    (hkey : key.Safe) (hnew : registry.lookup key = none) :
    Registry.CaseDistinct { registry with
        entries := registry.entries.insert (composeKey key) port } <->
      forall other port, registry.lookup other = some port ->
        foldCase (mapHeader other) ≠ foldCase (mapHeader key) := by
  have hself : Registry.lookup { registry with
      entries := registry.entries.insert (composeKey key) port } key =
        some port := by simp [Registry.lookup]
  constructor
  · intro hdistinct other port' hother heq
    have hne : other ≠ key := by
      intro hsame
      rw [hsame, hnew] at hother
      cases hother
    have hne' : ¬ composeKey key = composeKey other :=
      fun hcompose => hne (hkey.of_composeKey_eq hcompose.symm)
    have hkept : Registry.lookup { registry with
        entries := registry.entries.insert (composeKey key) port } other =
          some port' := by
      simpa [Registry.lookup, Std.ExtTreeMap.getElem?_insert, hne'] using hother
    exact hne (hdistinct other key port' port hkept hself heq)
  · intro hclear left right leftPort rightPort hleft hright heq
    rcases lookup_insert_cases hkey hleft with hself | hkept
    · rcases lookup_insert_cases hkey hright with hself' | hkept
      · rw [hself, hself']
      · rw [hself] at heq
        exact absurd heq.symm (hclear right rightPort hkept)
    · rcases lookup_insert_cases hkey hright with hself' | hkept'
      · rw [hself'] at heq
        exact absurd heq (hclear left leftPort hkept)
      · exact h left right leftPort rightPort hkept hkept' heq

theorem register_iff (h : registry.CaseDistinct) {key : Key}
    (hkey : key.Safe) :
    (registry.register key).2.CaseDistinct <->
      (registry.lookup key = none -> registry.Unused ≠ ∅ ->
        forall other port, registry.lookup other = some port ->
          foldCase (mapHeader other) ≠ foldCase (mapHeader key)) := by
  rcases registry.register_cases key with
    ⟨port, hstored, hregister⟩ | ⟨port, hnew, hleast, hregister⟩ |
      ⟨message, hnew, hempty, hregister⟩
  · rw [hregister]
    apply iff_of_true h
    intro hnone
    rw [Registry.lookup, hstored] at hnone
    cases hnone
  · rw [hregister, insert_iff h hkey hnew]
    have hunused : registry.Unused ≠ ∅ := by
      intro hempty
      rw [hempty] at hleast
      exact Set.notMem_empty port hleast.left
    exact ⟨fun hclear _ _ => hclear, fun hclear => hclear hnew hunused⟩
  · rw [hregister]
    exact iff_of_true h fun _ hunused => absurd hempty hunused

end Registry.CaseDistinct

/-!
# Sequences of requests
-/

/-- Only safe pairs are stored, and their headers differ by more than case. -/
structure Registry.Accepted (registry : Registry) : Prop where
  allSafe : registry.AllSafe
  caseDistinct : registry.CaseDistinct

/-- One request: nginx accepts the map exactly if no clashing pair is admitted,
and then the invariant is kept. -/
theorem rendersAccepted_step {serde : SerdeJson} {before after : Registry}
    {request : Request} {response : Response} (hinv : before.Accepted)
    (hrequest : request.RegistersSafe serde)
    (hstep : (routeSystem serde).step before request =
      some (response, after)) :
    (RendersAccepted before request response after <->
      AdmitsDistinct serde before request response after) ∧
    (AdmitsDistinct serde before request response after ->
      after.Accepted) := by
  have hafter : after = before.handled serde request := by
    cases hstep
    rfl
  have hallSafe : after.AllSafe := by
    rw [hafter]
    exact hinv.allSafe.handled hrequest
  rw [rendersAccepted_iff hallSafe]
  have hiff : after.CaseDistinct <->
      AdmitsDistinct serde before request response after := by
    cases hregisters : request.registers serde with
    | some key =>
        rw [hafter, handled_of_registers hregisters,
          hinv.caseDistinct.register_iff (hrequest key hregisters)]
        constructor
        · intro h key' hkey'
          rw [hregisters] at hkey'
          cases hkey'
          exact h
        · intro h
          exact h key hregisters
    | none =>
        have hadmits : AdmitsDistinct serde before request response after := by
          intro key hkey
          rw [hregisters] at hkey
          cases hkey
        refine iff_of_true ?_ hadmits
        cases hderegisters : request.deregisters serde with
        | some key =>
            rw [hafter, handled_of_deregisters hderegisters]
            exact hinv.caseDistinct.deregister key
        | none =>
            rw [hafter, handled_of_neither hregisters hderegisters]
            exact hinv.caseDistinct
  exact ⟨hiff, fun hadmits => ⟨hallSafe, hiff.mpr hadmits⟩⟩

/-- From an empty registry, every rendering of a sequence of requests for safe
pairs is one nginx accepts if and only if none of them gives a port to a new
pair while one whose header differs in case only is stored. -/
theorem rendered_map_accepted_iff (serde : SerdeJson) (range : PortRange)
    {requests : List Request}
    (hsafe : forall request, request ∈ requests ->
      request.RegistersSafe serde) :
    (routeSystem serde).Along RendersAccepted (Registry.withRange range)
        requests <->
      (routeSystem serde).Along (AdmitsDistinct serde)
        (Registry.withRange range) requests := by
  have hinit : (Registry.withRange range).Accepted :=
    ⟨Registry.AllSafe.withRange range, Registry.CaseDistinct.withRange range⟩
  exact TransitionSystem.along_iff _
    (fun _ _ _ _ h hrequest hstep => (rendersAccepted_step h hrequest hstep).right)
    (fun _ _ _ _ h hrequest hstep => (rendersAccepted_step h hrequest hstep).left)
    hinit hsafe

/-- Two users register a service of the same name. -/
theorem rendered_map_accepted_iff_alice_bob :
    (forall request, request ∈ [aliceRegister, bobRegister] ->
      request.RegistersSafe serdeJson) ∧
    ((routeSystem serdeJson).Along RendersAccepted Registry.default
        [aliceRegister, bobRegister] <->
      (routeSystem serdeJson).Along (AdmitsDistinct serdeJson)
        Registry.default [aliceRegister, bobRegister]) := by
  have hsafe : forall request, request ∈ [aliceRegister, bobRegister] ->
      request.RegistersSafe serdeJson := by
    intro request hmem
    simp only [List.mem_cons, List.not_mem_nil, or_false] at hmem
    rcases hmem with rfl | rfl
    · exact aliceRegister_safe.registersSafe
    · exact bobRegister_safe.registersSafe
  exact ⟨hsafe, rendered_map_accepted_iff serdeJson PortRange.default hsafe⟩

/-!
# Two users who differ in case
-/

def capitalRegister : Request :=
  registerFor ⟨"Alice", "api"⟩

theorem capitalRegister_registers :
    capitalRegister.registers serdeJson = some ⟨"Alice", "api"⟩ :=
  registers_registerFor (by decide)

/-- `Alice` and `alice` register the same service on a fresh bastion. -/
theorem capital_key_not_accepted :
    ¬ forall requests : List Request,
      (forall request, request ∈ requests ->
        request.RegistersSafe serdeJson) ->
      (routeSystem serdeJson).Along RendersAccepted Registry.default
        requests := by
  intro h
  have hsafe : forall request,
      request ∈ [capitalRegister, aliceRegister] ->
      request.RegistersSafe serdeJson := by
    intro request hmem key hkey
    rcases List.mem_cons.mp hmem with rfl | hmem
    · rw [capitalRegister_registers] at hkey
      rw [← Option.some.inj hkey]
      decide
    · rw [List.mem_singleton.mp hmem] at hkey
      exact aliceRegister_safe.registersSafe key hkey
  have hinit : Registry.default.Accepted :=
    ⟨Registry.AllSafe.withRange _, Registry.CaseDistinct.withRange _⟩
  have hfirst := hsafe capitalRegister (by simp)
  have hsecond := hsafe aliceRegister (by simp)
  rcases h [capitalRegister, aliceRegister] hsafe _ _ rfl with
    ⟨haccepted, hrest⟩
  have hadmits := (rendersAccepted_step hinit hfirst rfl).left.mp haccepted
  have hinv := (rendersAccepted_step hinit hfirst rfl).right hadmits
  have hclear := (rendersAccepted_step hinv hsecond rfl).left.mp
    (hrest _ _ rfl).left
  have hafter : Registry.default.handled serdeJson capitalRegister =
      (Registry.default.register ⟨"Alice", "api"⟩).2 :=
    handled_of_registers capitalRegister_registers _
  have hstored : (Registry.default.register ⟨"Alice", "api"⟩).2.lookup
      ⟨"Alice", "api"⟩ = some 10000 := by decide
  have hnew : (Registry.default.register ⟨"Alice", "api"⟩).2.lookup
      aliceKey = none := by decide
  have hport : (10001 : UInt16) ∈
      (Registry.default.register ⟨"Alice", "api"⟩).2.Unused := by
    rw [Registry.unused_eq]
    exact ⟨(PortRange.mem_ports_iff _ _).mpr (by decide), by decide⟩
  rw [← hafter] at hstored hnew hport
  have hunused : (Registry.default.handled serdeJson capitalRegister).Unused ≠
      ∅ := by
    intro hempty
    rw [hempty] at hport
    exact Set.notMem_empty _ hport
  exact hclear aliceKey aliceRegister_registers hnew hunused _ 10000 hstored
    (by decide)

end Bastion

end Ephemwork
