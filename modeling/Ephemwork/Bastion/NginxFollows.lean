import Ephemwork.Bastion.Routing

/-!
# nginx follows the registry

When nothing fails, the nginx file routes the current registry after every
request that is answered 200 on `/register` or `/deregister`, as long as the
handler admits safe pairs only.  It tests that the names are not blank; the
renderer wants safe identifiers and its refusal is only logged.
-/

namespace Ephemwork

open Foundation

namespace Bastion

/-- After an answer 200 on the two paths the file routes exactly the current
registry; any other answer leaves registry and file unchanged. -/
def NginxFollows (config : ServerConfig) (s : ControlPlane)
    (action : ControlPlaneAction) (answer : Option Response)
    (t : ControlPlane) : Prop :=
  match action, answer, t.memory with
  | .handle request _, some response, some registry =>
      (response.status = 200 ->
        request.path = "/register" ∨ request.path = "/deregister" ->
        RoutesExactly (t.files config.nginxConfig) registry) ∧
      (response.status ≠ 200 ->
        s.memory = some registry ∧
          t.files config.nginxConfig = s.files config.nginxConfig)
  | _, _, _ => False

/-- A request that registers a pair with a name that is no safe identifier
finds every port taken. -/
def AdmitsOnlySafe (serde : SerdeJson) (s : ControlPlane)
    (action : ControlPlaneAction) (_ : Option Response) (_ : ControlPlane) :
    Prop :=
  forall request faults registry key, action = .handle request faults ->
    s.memory = some registry -> request.registers serde = some key ->
    ¬ key.Safe -> registry.Unused = ∅

/-- The file routes the registry in memory, and only safe pairs are stored. -/
structure Follows (config : ServerConfig) (s : ControlPlane) : Prop where
  running : exists registry, s.memory = some registry ∧ registry.AllSafe ∧
    RoutesExactly (s.files config.nginxConfig) registry

def IsFaultless (action : ControlPlaneAction) : Prop :=
  exists request, action = .handle request Faults.none

theorem unused_ne_empty_of_register {registry : Registry}
    (hsafe : registry.AllSafe) {key : Key} (hrejected : ¬ key.Safe)
    {port : UInt16} (hok : (registry.register key).1 = .ok port) :
    registry.Unused ≠ ∅ := by
  intro hempty
  rcases registry.register_cases key with
    ⟨port, hstored, _⟩ | ⟨port, _, hleast, _⟩ | ⟨_, _, _, hregister⟩
  · exact hrejected (hsafe.safe_of_stored hstored)
  · rw [hempty] at hleast
    exact absurd hleast.left (Set.notMem_empty port)
  · rw [hregister] at hok
    cases hok

theorem not_routesExactly_of_register (serde : SerdeJson)
    {config : ServerConfig} {registry : Registry} {files : FileSystem Path}
    (hsafe : registry.AllSafe)
    (hroutes : RoutesExactly (files config.nginxConfig) registry) {key : Key}
    (hrejected : ¬ key.Safe) {port : UInt16}
    (hok : (registry.register key).1 = .ok port) :
    ¬ RoutesExactly
      (compositeListener serde config Faults.none (registry.register key).2
        files config.nginxConfig) (registry.register key).2 := by
  rcases exists_unsafe_of_stored hrejected
    (Registry.register_getElem?_self hok) with ⟨read, hread, _, hmem⟩
  rw [compositeListener_nginxConfig_of_rejected serde config Faults.none hread
    hmem]
  exact hroutes.not_of_rejected hsafe hread hmem

theorem admitsOnlySafe_handle_iff {serde : SerdeJson} {s t : ControlPlane}
    {request : Request} {faults : Faults} {answer : Option Response}
    {registry : Registry} (hmemory : s.memory = some registry) :
    AdmitsOnlySafe serde s (.handle request faults) answer t <->
      forall key, request.registers serde = some key -> ¬ key.Safe ->
        registry.Unused = ∅ := by
  constructor
  · intro h key hkey hrejected
    exact h request faults registry key rfl hmemory hkey hrejected
  · intro h request' faults' registry' key haction hmemory' hkey hrejected
    cases haction
    rw [hmemory] at hmemory'
    cases hmemory'
    exact h key hkey hrejected

/-- One request: nginx follows exactly if only safe pairs are admitted, and then
the invariant is kept. -/
theorem nginxFollows_step {serde : SerdeJson} {config : ServerConfig}
    {s t : ControlPlane} {action : ControlPlaneAction}
    {answer : Option Response} (hinv : Follows config s)
    (hfaultless : IsFaultless action)
    (hstep : (controlPlane serde config).step s action = some (answer, t)) :
    (NginxFollows config s action answer t <->
      AdmitsOnlySafe serde s action answer t) ∧
    (AdmitsOnlySafe serde s action answer t -> Follows config t) := by
  rcases hinv.running with ⟨registry, hmemory, hsafe, hroutes⟩
  rcases hfaultless with ⟨request, rfl⟩
  rcases handle_step hstep with
    ⟨_, response, changed, files, hmemory', rfl, rfl, hrouted⟩
  rw [hmemory] at hmemory'
  cases hmemory'
  rw [admitsOnlySafe_handle_iff hmemory]
  have hnone : request.registers serde = none ->
      forall key, request.registers serde = some key -> ¬ key.Safe ->
        registry.Unused = ∅ := by
    intro hnone key hkey
    rw [hnone] at hkey
    cases hkey
  cases hrouted with
  | registered key port hkey hok =>
      have hpath := (Request.registers_eq_some hkey).right.left
      by_cases hkeySafe : key.Safe
      · have hafter := routesExactly_of_change serde config
          (hsafe.register hkeySafe) s.files
        refine ⟨iff_of_true ⟨fun _ _ => hafter, fun h => absurd rfl h⟩ ?_, ?_⟩
        · intro key' hkey' hrejected
          rw [hkey] at hkey'
          cases hkey'
          exact absurd hkeySafe hrejected
        · intro _
          exact ⟨_, rfl, hsafe.register hkeySafe, hafter⟩
      · have hused := unused_ne_empty_of_register hsafe hkeySafe hok
        have hnot := not_routesExactly_of_register serde hsafe hroutes hkeySafe
          hok
        refine ⟨iff_of_false ?_ ?_, ?_⟩
        · intro hfollows
          exact hnot (hfollows.left rfl (Or.inl hpath))
        · intro hempty
          exact hused (hempty key hkey hkeySafe)
        · intro hempty
          exact absurd (hempty key hkey hkeySafe) hused
  | refused key message hkey herror =>
      refine ⟨iff_of_true ⟨?_, fun _ => ⟨hmemory, rfl⟩⟩ ?_, ?_⟩
      · intro hstatus
        revert hstatus
        simp [jsonError, Response.json]
      · intro _ _ _
        exact Registry.unused_eq_empty_of_error herror
      · intro _
        exact ⟨registry, rfl, hsafe, hroutes⟩
  | deregistered key port hkey hstored =>
      have hafter := routesExactly_of_change serde config
        (hsafe.deregister key) s.files
      refine ⟨iff_of_true ⟨fun _ _ => hafter, fun h => absurd rfl h⟩ ?_, ?_⟩
      · exact hnone (Request.registers_eq_none_of_deregisters hkey)
      · intro _
        exact ⟨_, rfl, hsafe.deregister key, hafter⟩
  | absent key hkey _ =>
      refine ⟨iff_of_true ⟨fun _ _ => hroutes, fun h => absurd rfl h⟩ ?_, ?_⟩
      · exact hnone (Request.registers_eq_none_of_deregisters hkey)
      · intro _
        exact ⟨registry, rfl, hsafe, hroutes⟩
  | other response hregisters _ hstatus =>
      refine ⟨iff_of_true ⟨?_, fun _ => ⟨hmemory, rfl⟩⟩ (hnone hregisters), ?_⟩
      · intro hok hpath
        rcases hpath with hpath | hpath
        · exact absurd hpath (hstatus hok).left
        · exact absurd hpath (hstatus hok).right
      · intro _
        exact ⟨registry, rfl, hsafe, hroutes⟩

/-- From an empty registry and a configuration that routes nothing, nginx
follows the registry throughout a sequence of requests if and only if none of
them registers an unsafe pair while a port is unused. -/
theorem nginx_follows_iff_admits_only_safe (serde : SerdeJson)
    (config : ServerConfig) (range : PortRange) {files : FileSystem Path}
    (hstub : readNginx (files config.nginxConfig) = [])
    (requests : List Request) :
    (controlPlane serde config).Along (NginxFollows config)
        { memory := some (Registry.withRange range), files := files }
        (requests.map fun request => .handle request Faults.none) <->
      (controlPlane serde config).Along (AdmitsOnlySafe serde)
        { memory := some (Registry.withRange range), files := files }
        (requests.map fun request => .handle request Faults.none) := by
  have hinit : Follows config
      { memory := some (Registry.withRange range), files := files } := by
    refine ⟨_, rfl, Registry.AllSafe.withRange range, ?_⟩
    intro line
    rw [hstub, Registry.snapshot_withRange]
    simp
  have hfaultless : forall action,
      action ∈ (requests.map fun request =>
        ControlPlaneAction.handle request Faults.none) ->
      IsFaultless action := by
    intro action haction
    rcases List.mem_map.mp haction with ⟨request, _, rfl⟩
    exact ⟨request, rfl⟩
  exact TransitionSystem.along_iff _
    (fun _ _ _ _ h hf hstep => (nginxFollows_step h hf hstep).right)
    (fun _ _ _ _ h hf hstep => (nginxFollows_step h hf hstep).left)
    hinit hfaultless

theorem nginx_follows_iff_admits_only_safe_alice :
    readNginx none = [] ∧
      ((controlPlane serdeJson ServerConfig.default).Along
          (NginxFollows ServerConfig.default)
          { memory := some Registry.default, files := fun _ => none }
          ([aliceRegister].map fun request => .handle request Faults.none) <->
        (controlPlane serdeJson ServerConfig.default).Along
          (AdmitsOnlySafe serdeJson)
          { memory := some Registry.default, files := fun _ => none }
          ([aliceRegister].map fun request => .handle request Faults.none)) :=
  ⟨rfl, nginx_follows_iff_admits_only_safe serdeJson ServerConfig.default
    PortRange.default rfl [aliceRegister]⟩

/-!
# A pair that is admitted and not routed
-/

def spaceRequest : Request :=
  Request.post "/register" (serdeJson.registerRequest.encode ⟨"al ice", "api"⟩)

theorem spaceRequest_registers :
    spaceRequest.registers serdeJson = some ⟨"al ice", "api"⟩ := by
  have hblank : (Text.isBlank "al ice".toList ||
      Text.isBlank "api".toList) = false := by decide
  rw [spaceRequest, Request.registers_post serdeJson_registerRequest_faithful]
  simp only [hblank, Bool.false_eq_true, if_false]
  rfl

/-- On a fresh bastion without files, one request with a space in the user is
enough. -/
theorem nginx_does_not_follow :
    ¬ forall requests : List Request,
      (controlPlane serdeJson ServerConfig.default).Along
        (NginxFollows ServerConfig.default)
        { memory := some Registry.default, files := fun _ => none }
        (requests.map fun request => .handle request Faults.none) := by
  intro h
  have hinit : Follows ServerConfig.default
      { memory := some Registry.default, files := fun _ => none } := by
    refine ⟨_, rfl, Registry.AllSafe.withRange PortRange.default, ?_⟩
    intro line
    simp [readNginx, Registry.default]
  rcases exists_handle_step serdeJson ServerConfig.default Registry.default
    (fun _ => none) spaceRequest Faults.none with ⟨answer, t, hstep⟩
  have hrun := h [spaceRequest]
  rw [List.map_cons, List.map_nil,
    TransitionSystem.along_cons_of_step _ hstep] at hrun
  have hfirst := hrun.left
  have hadmits :=
    (nginxFollows_step hinit ⟨spaceRequest, rfl⟩ hstep).left.mp hfirst
  have hempty := hadmits spaceRequest Faults.none Registry.default _ rfl rfl
    spaceRequest_registers (by decide)
  have hport := Registry.default_unused
  rw [hempty] at hport
  exact Set.notMem_empty _ hport

end Bastion

end Ephemwork
