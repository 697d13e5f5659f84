import Ephemwork.Bastion.Routing

/-!
# nginx after a restart

A starting process writes both files anew unless the registry it loads is
empty: then the nginx file stays what it is.  A restart therefore makes nginx
agree with the registry exactly if an empty registry file never stands beside an
nginx file with routes.  The two files are written one after the other, so a
crash or a failure between the two writes can leave them so.
-/

namespace Ephemwork

open Foundation

namespace Bastion

/-- From these files a restart whose writes succeed loads the registry and
leaves nginx with exactly its sessions. -/
def RestartAgrees (serde : SerdeJson) (config : ServerConfig)
    (files : FileSystem Path) : Prop :=
  forall answer t,
    (controlPlane serde config).step { memory := none, files := files }
      (.start Faults.none) = some (answer, t) ->
    exists registry,
      Registry.load serde (files config.persistPath) = .ok registry ∧
      t.memory = some registry ∧
      RoutesExactly (t.files config.nginxConfig) registry

/-- The request changes the registry and, of the two files, the registry's is
left without sessions and nginx's with routes: a file that is written gets those
of the changed registry, the other one keeps its own. -/
def Strands (serde : SerdeJson) (config : ServerConfig)
    (files : FileSystem Path) (registry : Registry) (request : Request)
    (faults : Faults) : Prop :=
  request.CallsListener serde registry ∧
  (if FileOp.replaced faults.save then
    (registry.handled serde request).isEmpty = true
  else
    exists saved,
      Registry.load serde (files config.persistPath) = .ok saved ∧
      saved.isEmpty = true) ∧
  (if FileOp.replaced faults.writeConfig then
    (registry.handled serde request).isEmpty = false
  else
    readNginx (files config.nginxConfig) ≠ [])

/-- No request is handled, or dies half-way, so that it strands routes. -/
def StrandsNothing (serde : SerdeJson) (config : ServerConfig)
    (s : ControlPlane) (action : ControlPlaneAction) (_ : Option Response)
    (_ : ControlPlane) : Prop :=
  forall registry request faults, s.memory = some registry ->
    action.handling = some (request, faults) ->
    ¬ Strands serde config s.files registry request faults

/-- The registry file can be loaded, and if it is empty nginx routes nothing. -/
structure Recoverable (serde : SerdeJson) (config : ServerConfig)
    (files : FileSystem Path) (saved : Registry) : Prop where
  load : Registry.load serde (files config.persistPath) = .ok saved
  safe : saved.AllSafe
  routes : saved.isEmpty = true -> readNginx (files config.nginxConfig) = []

/-!
# Empty registries
-/

theorem Registry.AllSafe.snapshot_eq_nil_iff {registry : Registry}
    (h : registry.AllSafe) :
    registry.snapshot = [] <-> registry.isEmpty = true := by
  rw [Registry.isEmpty_iff]
  constructor
  · intro hnil s
    cases hstored : registry.entries[s]? with
    | none => rfl
    | some port =>
        rcases h s port hstored with ⟨key, hkey, hcompose⟩
        rw [← hcompose] at hstored
        have hentry := (mem_snapshot_of_safe hkey port).mpr hstored
        rw [hnil] at hentry
        cases hentry
  · intro hempty
    apply List.eq_nil_iff_forall_not_mem.mpr
    intro entry hentry
    have hstored := ((Registry.mem_snapshot_iff _ _ _).mp hentry).right
    rw [Registry.lookup, hempty] at hstored
    cases hstored

theorem readNginx_nginxContents_eq_nil_iff {registry : Registry}
    (h : registry.AllSafe) :
    readNginx (some registry.nginxContents) = [] <->
      registry.isEmpty = true := by
  rw [readNginx_nginxContents h, List.map_eq_nil_iff, h.snapshot_eq_nil_iff]

theorem routesExactly_iff_of_isEmpty {contents : Option Bytes}
    {registry : Registry} (h : registry.AllSafe)
    (hempty : registry.isEmpty = true) :
    RoutesExactly contents registry <-> readNginx contents = [] := by
  have hnil := h.snapshot_eq_nil_iff.mpr hempty
  simp [RoutesExactly, hnil, List.eq_nil_iff_forall_not_mem]

section

variable {serde : SerdeJson} {config : ServerConfig}

/-!
# A restart
-/

theorem restartAgrees_iff {files : FileSystem Path} {saved : Registry}
    (hload : Registry.load serde (files config.persistPath) = .ok saved)
    (hsafe : saved.AllSafe) :
    RestartAgrees serde config files <->
      (saved.isEmpty = true -> readNginx (files config.nginxConfig) = []) := by
  have hstart := step_start Faults.none hload
  constructor
  · intro h hempty
    rcases h _ _ hstart with ⟨registry, hload', _, hroutes⟩
    rw [hload] at hload'
    cases hload'
    rw [renderAtStartup, if_pos hempty] at hroutes
    exact (routesExactly_iff_of_isEmpty hsafe hempty).mp hroutes
  · intro h answer t hstep
    rw [hstart] at hstep
    cases hstep
    refine ⟨saved, hload, rfl, ?_⟩
    unfold renderAtStartup
    cases hempty : saved.isEmpty with
    | true =>
        rw [if_pos rfl]
        exact (routesExactly_iff_of_isEmpty hsafe hempty).mpr (h hempty)
    | false => exact routesExactly_of_change serde config hsafe files

theorem recoverable_of_change (hround : serde.RegistryRoundTrip)
    (config : ServerConfig) {registry : Registry} (hsafe : registry.AllSafe)
    (files : FileSystem Path) :
    Recoverable serde config
      (compositeListener serde config Faults.none registry files)
      registry where
  load := load_after_change hround config Faults.none registry files
  safe := hsafe
  routes := fun hempty =>
    (routesExactly_iff_of_isEmpty hsafe hempty).mp
      (routesExactly_of_change serde config hsafe files)

theorem recoverable_renderAtStartup (hround : serde.RegistryRoundTrip)
    {files : FileSystem Path} {saved : Registry} (faults : Faults)
    (h : Recoverable serde config files saved) :
    Recoverable serde config
      (renderAtStartup (compositeListener serde config faults) saved files)
      saved := by
  unfold renderAtStartup
  cases hempty : saved.isEmpty with
  | true => exact h
  | false =>
      refine ⟨?_, h.safe, ?_⟩
      · show Registry.load serde (compositeListener serde config faults saved
          files config.persistPath) = .ok saved
        rw [load_after_change hround, h.load]
        split <;> rfl
      · intro hempty'
        rw [hempty] at hempty'
        cases hempty'

/-!
# Requests
-/

theorem Routed.restartAgrees_iff (hround : serde.RegistryRoundTrip)
    {faults : Faults} {request : Request} {registry changed saved : Registry}
    {files after : FileSystem Path} {response : Response}
    (hsafe : changed.AllSafe) (hfiles : Recoverable serde config files saved)
    (h : Routed serde (compositeListener serde config faults) request registry
      files (response, changed, after)) :
    exists saved',
      Registry.load serde (after config.persistPath) = .ok saved' ∧
      saved'.AllSafe ∧
      ((saved'.isEmpty = true -> readNginx (after config.nginxConfig) = []) <->
        ¬ Strands serde config files registry request faults) := by
  rcases h.after_cases with ⟨hcalls, rfl⟩ | ⟨hcalls, _, rfl⟩
  · have hload := load_after_change hround config faults changed files
    have hnginx := compositeListener_nginxConfig_of_allSafe serde config faults
      hsafe files
    have hroutes : readNginx (if FileOp.replaced faults.writeConfig then
          some changed.nginxContents
        else
          files config.nginxConfig) = [] <->
        ¬ (if FileOp.replaced faults.writeConfig then
          changed.isEmpty = false
        else
          readNginx (files config.nginxConfig) ≠ []) := by
      cases FileOp.replaced faults.writeConfig with
      | true => simp [readNginx_nginxContents_eq_nil_iff hsafe]
      | false => simp
    rw [hnginx, hroutes, Strands, ← h.changed_eq]
    cases hsave : FileOp.replaced faults.save with
    | true =>
        rw [hsave] at hload
        refine ⟨changed, hload, hsafe, ?_⟩
        simp [hcalls]
    | false =>
        rw [hsave] at hload
        refine ⟨saved, hload.trans hfiles.load, hfiles.safe, ?_⟩
        simp [hcalls, hfiles.load]
  · refine ⟨saved, hfiles.load, hfiles.safe, iff_of_true hfiles.routes ?_⟩
    intro hstrands
    exact hcalls hstrands.left

/-- The registry in memory has safe pairs only, and the files can be restarted
from. -/
structure Restartable (serde : SerdeJson) (config : ServerConfig)
    (s : ControlPlane) : Prop where
  memory : forall registry, s.memory = some registry -> registry.AllSafe
  files : exists saved, Recoverable serde config s.files saved

/-- One step: a restart after it agrees exactly if it strands nothing, and then
the invariant is kept. -/
theorem restartAgrees_step (hround : serde.RegistryRoundTrip)
    {s t : ControlPlane} {action : ControlPlaneAction}
    {answer : Option Response} (hinv : Restartable serde config s)
    (hsafe : action.Safe serde)
    (hstep : (controlPlane serde config).step s action = some (answer, t)) :
    (RestartAgrees serde config t.files <->
      StrandsNothing serde config s action answer t) ∧
    (StrandsNothing serde config s action answer t ->
      Restartable serde config t) := by
  rcases hinv.files with ⟨saved, hfiles⟩
  have hmemory_of : forall {registry : Registry}, registry.AllSafe ->
      t.memory = some registry ∨ t.memory = none ->
      forall registry', t.memory = some registry' -> registry'.AllSafe := by
    intro registry hregistry hmemory registry' hmemory'
    rcases hmemory with hmemory | hmemory
    · rw [hmemory] at hmemory'
      cases hmemory'
      exact hregistry
    · rw [hmemory] at hmemory'
      cases hmemory'
  cases hhandling : action.handling with
  | none =>
      have hnothing : StrandsNothing serde config s action answer t := by
        intro registry request faults _ haction
        rw [hhandling] at haction
        cases haction
      rcases starting_step hhandling hfiles.load hstep with
        ⟨faults, hafter, hmemory⟩
      have hrec := recoverable_renderAtStartup hround faults hfiles
      rw [← hafter] at hrec
      have hagrees := (restartAgrees_iff hrec.load hrec.safe).mpr hrec.routes
      refine ⟨iff_of_true hagrees hnothing, ?_⟩
      intro _
      exact ⟨hmemory_of hfiles.safe hmemory, saved, hrec⟩
  | some handled =>
      rcases handled with ⟨request, faults⟩
      rcases handling_step hhandling hstep with
        ⟨registry, response, changed, files, hbefore, rfl, hmemory, hrouted⟩
      have hrequest : request.Safe serde :=
        hsafe request (ControlPlaneAction.request_of_handling hhandling)
      have hchanged : changed.AllSafe := by
        rw [hrouted.changed_eq]
        exact (hinv.memory registry hbefore).handled hrequest.registersSafe
      rcases hrouted.restartAgrees_iff hround hchanged hfiles with
        ⟨saved', hload, hsaved, hiff⟩
      have hstrands : StrandsNothing serde config s action answer t <->
          ¬ Strands serde config s.files registry request faults := by
        constructor
        · intro h
          exact h registry request faults hbefore hhandling
        · intro h registry' request' faults' hbefore' haction
          rw [hbefore] at hbefore'
          rw [hhandling] at haction
          cases hbefore'
          cases haction
          exact h
      rw [hstrands, restartAgrees_iff hload hsaved]
      refine ⟨hiff, ?_⟩
      intro h
      exact ⟨hmemory_of hchanged hmemory, saved', hload, hsaved, hiff.mpr h⟩

/-- From any files to restart from, every restart along a run makes nginx agree
with the loaded registry if and only if no request of the run strands routes. -/
theorem nginx_agrees_after_restart_iff (hround : serde.RegistryRoundTrip)
    {files : FileSystem Path} {saved : Registry}
    (hfiles : Recoverable serde config files saved)
    {actions : List ControlPlaneAction}
    (hsafe : forall action, action ∈ actions -> action.Safe serde) :
    (controlPlane serde config).Along
        (fun _ _ _ t => RestartAgrees serde config t.files)
        { memory := none, files := files } actions <->
      (controlPlane serde config).Along (StrandsNothing serde config)
        { memory := none, files := files } actions := by
  have hinit : Restartable serde config { memory := none, files := files } := by
    refine ⟨?_, saved, hfiles⟩
    intro registry hmemory
    cases hmemory
  exact TransitionSystem.along_iff _
    (fun _ _ _ _ h ha hstep => (restartAgrees_step hround h ha hstep).right)
    (fun _ _ _ _ h ha hstep => (restartAgrees_step hround h ha hstep).left)
    hinit hsafe

/-- A crash strands routes, when the files were those of the registry, exactly if
it falls between the two renames of a request that removes the last pair. -/
theorem strands_crash_iff {files : FileSystem Path} {registry : Registry}
    (hfiles : Recoverable serde config files registry)
    (hroutes : RoutesExactly (files config.nginxConfig) registry)
    (request : Request) (cut : Cut) :
    Strands serde config files registry request (cutFaults cut) <->
      (exists key port, request.deregisters serde = some key ∧
        registry.lookup key = some port ∧
        (registry.deregister key).2.isEmpty = true) ∧
      2 ≤ cut.completed ∧ cut.completed < 4 := by
  rw [Strands, cutFaults_saved, cutFaults_written]
  constructor
  · intro h
    rcases h with ⟨hcalls, hsaved, hwritten⟩
    by_cases hsave : 2 ≤ cut.completed
    · simp only [hsave, decide_true, if_true] at hsaved
      have hlate : ¬ 4 ≤ cut.completed := by
        intro hlate
        simp only [hlate, decide_true, if_true, hsaved] at hwritten
        cases hwritten
      refine ⟨?_, hsave, Nat.not_le.mp hlate⟩
      rcases hcalls with ⟨key, port, hkey, hok⟩ | ⟨key, port, hkey, hstored⟩
      · have hport := Registry.register_getElem?_self hok
        rw [handled_of_registers hkey, Registry.isEmpty_iff] at hsaved
        rw [hsaved] at hport
        cases hport
      · rw [handled_of_deregisters hkey] at hsaved
        exact ⟨key, port, hkey, hstored, hsaved⟩
    · have hlate : ¬ 4 ≤ cut.completed := by omega
      simp only [hsave, hlate, decide_false, Bool.false_eq_true, if_false]
        at hsaved hwritten
      rcases hsaved with ⟨saved, hload, hempty⟩
      rw [hfiles.load] at hload
      cases hload
      exact absurd (hfiles.routes hempty) hwritten
  · intro h
    rcases h with ⟨⟨key, port, hkey, hstored, hempty⟩, hsave, hlate⟩
    refine ⟨Or.inr ⟨key, port, hkey, hstored⟩, ?_, ?_⟩
    · simp only [hsave, decide_true, if_true]
      rw [handled_of_deregisters hkey]
      exact hempty
    · simp only [Nat.not_le.mpr hlate, decide_false, Bool.false_eq_true,
        if_false]
      intro hnil
      have hkeySafe := hfiles.safe.safe_of_stored hstored
      have hline := (hroutes.hasRoute_iff hkeySafe port).mpr hstored
      rw [HasRoute, hnil] at hline
      cases hline

end

/-!
# A restart that leaves a route behind
-/

theorem nginx_agrees_after_restart_iff_alice :
    Recoverable serdeJson ServerConfig.default (fun _ => none)
        Registry.default ∧
      ((controlPlane serdeJson ServerConfig.default).Along
          (fun _ _ _ t => RestartAgrees serdeJson ServerConfig.default t.files)
          { memory := none, files := fun _ => none }
          [.start Faults.none, .handle aliceRegister Faults.none] <->
        (controlPlane serdeJson ServerConfig.default).Along
          (StrandsNothing serdeJson ServerConfig.default)
          { memory := none, files := fun _ => none }
          [.start Faults.none, .handle aliceRegister Faults.none]) := by
  have hfiles : Recoverable serdeJson ServerConfig.default (fun _ => none)
      Registry.default :=
    ⟨rfl, Registry.AllSafe.withRange PortRange.default, fun _ => rfl⟩
  refine ⟨hfiles, nginx_agrees_after_restart_iff serdeJson_registryRoundTrip
    hfiles ?_⟩
  intro action haction request hrequest
  simp only [List.mem_cons, List.not_mem_nil, or_false] at haction
  rcases haction with rfl | rfl
  · cases hrequest
  · cases hrequest
    exact aliceRegister_safe

/-- Alice's registration is followed by a crash between the two renames of its
deregistration. -/
theorem restart_keeps_stale_route :
    ¬ forall actions : List ControlPlaneAction,
      (forall action, action ∈ actions -> action.Safe serdeJson) ->
      (controlPlane serdeJson ServerConfig.default).Along
        (fun _ _ _ t => RestartAgrees serdeJson ServerConfig.default t.files)
        { memory := none, files := fun _ => none } actions := by
  intro h
  have hcut : ControlPlaneAction.Safe serdeJson
      (.crash aliceDeregister ⟨2, none⟩) := by
    intro request hrequest
    cases hrequest
    exact aliceDeregister_safe
  have hok : (Registry.default.register aliceKey).1 = .ok 10000 := rfl
  have hchanged : (Registry.default.register aliceKey).2.AllSafe :=
    (Registry.AllSafe.withRange PortRange.default).register (by decide)
  have hrun := h [.start Faults.none, .handle aliceRegister Faults.none,
    .crash aliceDeregister ⟨2, none⟩] (by
      intro action haction request hrequest
      simp only [List.mem_cons, List.not_mem_nil, or_false] at haction
      rcases haction with rfl | rfl | rfl
      · cases hrequest
      · cases hrequest
        exact aliceRegister_safe
      · exact hcut request hrequest)
  have hstart : (controlPlane serdeJson ServerConfig.default).step
      { memory := none, files := fun _ => none } (.start Faults.none) =
      some (none,
        { memory := some Registry.default, files := fun _ => none }) := rfl
  rw [TransitionSystem.along_cons_of_step _ hstart] at hrun
  have hregistered := hrun.right
  rw [TransitionSystem.along_cons_of_step _
    (step_handle_register _ Faults.none aliceRegister_registers hok)]
    at hregistered
  rcases exists_crash_step serdeJson ServerConfig.default
    (Registry.default.register aliceKey).2
    (compositeListener serdeJson ServerConfig.default Faults.none
      (Registry.default.register aliceKey).2 fun _ => none)
    aliceDeregister ⟨2, none⟩ with ⟨answer, t, hstep⟩
  have hcrashed := hregistered.right
  rw [TransitionSystem.along_cons_of_step _ hstep] at hcrashed
  have hfiles := recoverable_of_change serdeJson_registryRoundTrip
    ServerConfig.default hchanged fun _ => none
  have hinv : Restartable serdeJson ServerConfig.default
      { memory := some (Registry.default.register aliceKey).2
        files := compositeListener serdeJson ServerConfig.default Faults.none
          (Registry.default.register aliceKey).2 fun _ => none } := by
    refine ⟨?_, _, hfiles⟩
    intro registry hmemory
    cases hmemory
    exact hchanged
  have hnothing := (restartAgrees_step serdeJson_registryRoundTrip hinv hcut
    hstep).left.mp hcrashed.left
  apply hnothing _ aliceDeregister _ rfl rfl
  refine (strands_crash_iff hfiles (routesExactly_of_change _ _ hchanged _) _
    _).mpr ⟨?_, by decide, by decide⟩
  exact ⟨aliceKey, 10000, aliceDeregister_deregisters,
    Registry.register_getElem?_self hok, rfl⟩

end Bastion

end Ephemwork
