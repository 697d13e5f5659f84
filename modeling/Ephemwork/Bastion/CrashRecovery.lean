import Ephemwork.Bastion.Routing

/-!
# Acknowledged registrations survive crashes

As long as no I/O error is reported, the registry file holds the registry in
memory, and a crash leaves there the registry before or the one after the
request it interrupts.  What holds of the registry and is kept by every request
therefore holds after any run with crashes and restarts.
-/

namespace Ephemwork

open Foundation

namespace Bastion

/-- The registry in memory, or else the one a restart would load. -/
def ControlPlane.current (serde : SerdeJson) (config : ServerConfig)
    (s : ControlPlane) : Except String Registry :=
  match s.memory with
  | some registry => .ok registry
  | none => Registry.load serde (s.files config.persistPath)

/-- The registry file holds the current registry, and that one is `good`. -/
def Holds (serde : SerdeJson) (config : ServerConfig)
    (good : Registry -> Prop) (s : ControlPlane) : Prop :=
  exists registry,
    Registry.load serde (s.files config.persistPath) = .ok registry ∧
    s.current serde config = .ok registry ∧ good registry

section

variable {serde : SerdeJson} {config : ServerConfig}

/-- Where the file holds the registry, a request leaves there the registry or
the one after the request. -/
theorem Routed.load_cases (hround : serde.RegistryRoundTrip) {faults : Faults}
    {request : Request} {registry changed : Registry}
    {files after : FileSystem Path} {response : Response}
    (hload : Registry.load serde (files config.persistPath) = .ok registry)
    (h : Routed serde (compositeListener serde config faults) request registry
      files (response, changed, after)) :
    (FileOp.replaced faults.save = true ∧
      Registry.load serde (after config.persistPath) = .ok changed) ∨
    (FileOp.replaced faults.save = false ∧
      Registry.load serde (after config.persistPath) = .ok registry) := by
  rcases h.after_cases with ⟨_, hafter⟩ | ⟨_, hchanged, hafter⟩
  · rw [hafter, load_after_change hround]
    cases FileOp.replaced faults.save with
    | true => exact Or.inl ⟨rfl, rfl⟩
    | false => exact Or.inr ⟨rfl, hload⟩
  · rw [hchanged, hafter]
    cases FileOp.replaced faults.save with
    | true => exact Or.inl ⟨rfl, hload⟩
    | false => exact Or.inr ⟨rfl, hload⟩

theorem load_renderAtStartup (hround : serde.RegistryRoundTrip)
    (faults : Faults) {registry : Registry} {files : FileSystem Path}
    (hload : Registry.load serde (files config.persistPath) = .ok registry) :
    Registry.load serde
        (renderAtStartup (compositeListener serde config faults) registry files
          config.persistPath) = .ok registry := by
  unfold renderAtStartup
  split
  · exact hload
  · rw [load_after_change hround, hload]
    split <;> rfl

theorem crash_keeps_or_completes (hround : serde.RegistryRoundTrip)
    {s t : ControlPlane} {registry : Registry} {request : Request} {cut : Cut}
    {answer : Option Response} (hmemory : s.memory = some registry)
    (hload : Registry.load serde (s.files config.persistPath) = .ok registry)
    (hstep : (controlPlane serde config).step s (.crash request cut) =
      some (answer, t)) :
    Registry.load serde (t.files config.persistPath) = .ok registry ∨
      Registry.load serde (t.files config.persistPath) =
        .ok (registry.handled serde request) := by
  rcases crash_step hstep with
    ⟨_, response, changed, files, hmemory', _, rfl, hrouted⟩
  rw [hmemory] at hmemory'
  cases hmemory'
  rw [← hrouted.changed_eq]
  rcases hrouted.load_cases hround hload with ⟨_, hafter⟩ | ⟨_, hafter⟩
  · exact Or.inr hafter
  · exact Or.inl hafter

theorem Routed.holds (hround : serde.RegistryRoundTrip)
    {good : Registry -> Prop} {request : Request}
    {registry changed : Registry} {files after : FileSystem Path}
    {response : Response}
    (hload : Registry.load serde (files config.persistPath) = .ok registry)
    (h : Routed serde (compositeListener serde config Faults.none) request
      registry files (response, changed, after)) (hgood : good changed) :
    Holds serde config good { memory := some changed, files := after } := by
  rcases h.load_cases hround hload with ⟨_, hafter⟩ | ⟨hsaved, _⟩
  · exact ⟨changed, hafter, rfl, hgood⟩
  · cases hsaved

theorem holds_step (hround : serde.RegistryRoundTrip)
    {good : Registry -> Prop} {s t : ControlPlane}
    {action : ControlPlaneAction} {answer : Option Response}
    (h : Holds serde config good s) (hfault : action.NoFault)
    (hkeep : forall request, action.request = some request ->
      forall registry, good registry -> good (registry.handled serde request))
    (hstep : (controlPlane serde config).step s action = some (answer, t)) :
    Holds serde config good t := by
  rcases h with ⟨registry, hload, hcurrent, hgood⟩
  cases action with
  | handle request faults =>
      rcases handle_step hstep with
        ⟨_, response, changed, files, hmemory, _, rfl, hrouted⟩
      rw [ControlPlane.current, hmemory] at hcurrent
      cases hcurrent
      have hchanged : good changed := by
        rw [hrouted.changed_eq]
        exact hkeep request rfl registry hgood
      rw [show faults = Faults.none from hfault] at hrouted
      exact hrouted.holds hround hload hchanged
  | crash request cut =>
      have hcrash := crash_step hstep
      rcases hcrash with ⟨_, _, _, files, hmemory, _, rfl, _⟩
      rw [ControlPlane.current, hmemory] at hcurrent
      cases hcurrent
      rcases crash_keeps_or_completes hround hmemory hload hstep with
        hafter | hafter
      · exact ⟨registry, hafter, hafter, hgood⟩
      · exact ⟨_, hafter, hafter, hkeep request rfl registry hgood⟩
  | start faults =>
      rcases start_step hstep with ⟨_, _, hload' | hload'⟩
      · rcases hload' with ⟨message, hload', _⟩
        rw [hload] at hload'
        cases hload'
      · rcases hload' with ⟨_, hload', rfl⟩
        rw [hload] at hload'
        cases hload'
        exact ⟨registry, load_renderAtStartup hround faults hload, rfl, hgood⟩
  | crashStarting cut =>
      rcases crashStarting_step hstep with ⟨_, _, hload' | hload'⟩
      · rcases hload' with ⟨message, hload', _⟩
        rw [hload] at hload'
        cases hload'
      · rcases hload' with ⟨_, hload', rfl⟩
        rw [hload] at hload'
        cases hload'
        have hafter := load_renderAtStartup hround (cutFaults cut) hload
        exact ⟨registry, hafter, hafter, hgood⟩

theorem holds_run (hround : serde.RegistryRoundTrip) {good : Registry -> Prop}
    {s t : ControlPlane} {actions : List ControlPlaneAction}
    {answers : List (Option Response)}
    (hrun : (controlPlane serde config).run s actions = some (answers, t))
    (hfault : forall action, action ∈ actions -> action.NoFault)
    (hkeep : forall action, action ∈ actions ->
      forall request, action.request = some request ->
      forall registry, good registry -> good (registry.handled serde request))
    (h : Holds serde config good s) : Holds serde config good t := by
  refine TransitionSystem.invariant_run _ ?_ hrun
    (fun action haction => And.intro (hfault action haction)
      (hkeep action haction)) h
  intro s action answer t hs hallowed hstep
  exact holds_step hround hs hallowed.left hallowed.right hstep

/-!
# What requests keep
-/

theorem Registry.Sound.handled {registry : Registry} (h : registry.Sound)
    (request : Request) : (registry.handled serde request).Sound := by
  cases hregisters : request.registers serde with
  | some key =>
      rw [handled_of_registers hregisters]
      exact h.register key
  | none =>
      cases hderegisters : request.deregisters serde with
      | some key =>
          rw [handled_of_deregisters hderegisters]
          exact h.deregister key
      | none =>
          rw [handled_of_neither hregisters hderegisters]
          exact h

theorem lookup_handled_of_some {request : Request}
    (hrequest : request.Safe serde) {key : Key}
    (hnot : request.deregisters serde ≠ some key) {registry : Registry}
    {port : UInt16} (h : registry.lookup key = some port) :
    (registry.handled serde request).lookup key = some port := by
  cases hregisters : request.registers serde with
  | some other =>
      rw [handled_of_registers hregisters]
      by_cases hcompose : composeKey key = composeKey other
      · have hstored : registry.entries[composeKey other]? = some port := by
          rw [← hcompose]
          exact h
        rw [Registry.register_of_stored hstored]
        exact h
      · rw [Registry.lookup, Registry.register_getElem?_of_ne _ hcompose]
        exact h
  | none =>
      cases hderegisters : request.deregisters serde with
      | some other =>
          have hother := hrequest other (Or.inr hderegisters)
          have hcompose : composeKey key ≠ composeKey other := by
            intro heq
            rw [hother.of_composeKey_eq heq] at hnot
            exact hnot hderegisters
          rw [handled_of_deregisters hderegisters, Registry.lookup,
            Registry.deregister_getElem?_of_ne _ hcompose]
          exact h
      | none =>
          rw [handled_of_neither hregisters hderegisters]
          exact h

theorem lookup_handled_of_none {request : Request}
    (hrequest : request.Safe serde) {key : Key}
    (hnot : request.registers serde ≠ some key) {registry : Registry}
    (h : registry.lookup key = none) :
    (registry.handled serde request).lookup key = none := by
  cases hregisters : request.registers serde with
  | some other =>
      have hother := hrequest other (Or.inl hregisters)
      have hcompose : composeKey key ≠ composeKey other := by
        intro heq
        rw [hother.of_composeKey_eq heq] at hnot
        exact hnot hregisters
      rw [handled_of_registers hregisters, Registry.lookup,
        Registry.register_getElem?_of_ne _ hcompose]
      exact h
  | none =>
      cases hderegisters : request.deregisters serde with
      | some other =>
          rw [handled_of_deregisters hderegisters]
          by_cases hcompose : composeKey key = composeKey other
          · rw [Registry.lookup, hcompose, Registry.deregister_getElem?_self]
          · rw [Registry.lookup, Registry.deregister_getElem?_of_ne _ hcompose]
            exact h
      | none =>
          rw [handled_of_neither hregisters hderegisters]
          exact h

theorem lookup_of_registered {listener : MutationListener (FileSystem Path)}
    (hresponse : serde.registerResponse.Faithful) {request : Request}
    {key : Key} (hkey : request.registers serde = some key)
    {registry changed : Registry} {files after : FileSystem Path}
    {response : Response} {port : UInt16} (hstatus : response.status = 200)
    (hbody : serde.registerResponse.decode response.body = .ok ⟨port⟩)
    (h : Routed serde listener request registry files
      (response, changed, after)) :
    changed.lookup key = some port := by
  cases h with
  | registered other port' hother hok =>
      rw [hkey] at hother
      cases hother
      have hport := hresponse { remotePort := port' }
      rw [show serde.registerResponse.decode
        (serde.registerResponse.encode { remotePort := port' }) = _
        from hbody] at hport
      cases hport
      exact Registry.register_getElem?_self hok
  | refused other message hother herror =>
      revert hstatus
      simp [jsonError, Response.json]
  | deregistered other port' hother hstored =>
      rw [Request.registers_eq_none_of_deregisters hother] at hkey
      cases hkey
  | absent other hother hnone =>
      rw [Request.registers_eq_none_of_deregisters hother] at hkey
      cases hkey
  | other _ hregisters _ _ =>
      rw [hregisters] at hkey
      cases hkey

theorem lookup_of_deregistered {request : Request} {key : Key}
    (hkey : request.deregisters serde = some key) (registry : Registry) :
    (registry.handled serde request).lookup key = none := by
  rw [handled_of_deregisters hkey]
  exact registry.deregister_getElem?_self key

theorem lasts_after_handle (hround : serde.RegistryRoundTrip)
    (good : Registry -> Prop) {base : Registry -> Prop} {s t u : ControlPlane}
    {request : Request} {response : Response} (hholds : Holds serde config base s)
    (hstep : (controlPlane serde config).step s (.handle request Faults.none) =
      some (some response, t))
    (hgood : forall registry changed files after,
      Routed serde (compositeListener serde config Faults.none) request registry files
        (response, changed, after) -> good changed)
    {later : List ControlPlaneAction} {answers : List (Option Response)}
    (hlater : (controlPlane serde config).run t later = some (answers, u))
    (hfault : forall action, action ∈ later -> action.NoFault)
    (hkeep : forall action, action ∈ later ->
      forall request', action.request = some request' ->
      forall registry, good registry -> good (registry.handled serde request')) :
    exists registry, u.current serde config = .ok registry ∧ good registry := by
  rcases hholds with ⟨current, hfile, hcurrent, _⟩
  rcases handle_step hstep with
    ⟨_, _, changed, files, hmemory, hanswer, rfl, hrouted⟩
  cases hanswer
  rw [ControlPlane.current, hmemory] at hcurrent
  cases hcurrent
  have hafter : Holds serde config good { memory := some changed, files := files } :=
    hrouted.holds hround hfile (hgood current changed _ files hrouted)
  rcases holds_run hround hlater hfault hkeep hafter with ⟨registry, _, hend, hlast⟩
  exact ⟨registry, hend, hlast⟩

/-!
# The guarantee
-/

/-- After any run without I/O errors from a stopped process: the current
registry is the one on disk and its ports are distinct; a crash leaves the
registry before or after the request it interrupts; a pair whose register was
answered 200 has the answered port until a request deregisters it; a pair whose
deregister was answered 200 is absent until a request registers it. -/
theorem acknowledged_registrations_survive
    (hround : serde.RegistryRoundTrip)
    (hresponse : serde.registerResponse.Faithful) {s t : ControlPlane}
    {initial : Registry} (hstopped : s.memory = none)
    (hload : Registry.load serde (s.files config.persistPath) = .ok initial)
    (hsound : initial.Sound) {actions : List ControlPlaneAction}
    (hfault : forall action, action ∈ actions -> action.NoFault)
    {answers : List (Option Response)}
    (hrun : (controlPlane serde config).run s actions = some (answers, t)) :
    (exists registry,
      Registry.load serde (t.files config.persistPath) = .ok registry ∧
      t.current serde config = .ok registry ∧ registry.Sound) ∧
    (forall registry request cut answer u, t.memory = some registry ->
      (controlPlane serde config).step t (.crash request cut) =
        some (answer, u) ->
      Registry.load serde (u.files config.persistPath) = .ok registry ∨
        Registry.load serde (u.files config.persistPath) =
          .ok (registry.handled serde request)) ∧
    (forall request key response port u later answers' v,
      request.registers serde = some key ->
      (controlPlane serde config).step t (.handle request Faults.none) =
        some (some response, u) ->
      response.status = 200 ->
      serde.registerResponse.decode response.body = .ok ⟨port⟩ ->
      (controlPlane serde config).run u later = some (answers', v) ->
      (forall action, action ∈ later -> action.NoFault ∧ action.Safe serde ∧
        forall request', action.request = some request' ->
          request'.deregisters serde ≠ some key) ->
      exists registry, v.current serde config = .ok registry ∧
        registry.lookup key = some port) ∧
    (forall request key response u later answers' v,
      request.deregisters serde = some key ->
      (controlPlane serde config).step t (.handle request Faults.none) =
        some (some response, u) ->
      response.status = 200 ->
      (controlPlane serde config).run u later = some (answers', v) ->
      (forall action, action ∈ later -> action.NoFault ∧ action.Safe serde ∧
        forall request', action.request = some request' ->
          request'.registers serde ≠ some key) ->
      exists registry, v.current serde config = .ok registry ∧
        registry.lookup key = none) := by
  have hinit : Holds serde config Registry.Sound s :=
    ⟨initial, hload, by rw [ControlPlane.current, hstopped, hload], hsound⟩
  have hholds := holds_run hround hrun hfault
    (fun _ _ request _ registry hregistry => hregistry.handled request) hinit
  refine ⟨hholds, ?_, ?_, ?_⟩
  · intro registry request cut answer u hmemory hstep
    rcases hholds with ⟨current, hfile, hcurrent, _⟩
    rw [ControlPlane.current, hmemory] at hcurrent
    cases hcurrent
    exact crash_keeps_or_completes hround hmemory hfile hstep
  · intro request key response port u later answers' v hkey hstep hstatus hbody
      hlater hallowed
    refine lasts_after_handle hround (fun registry => registry.lookup key = some port)
      hholds hstep ?_ hlater
      (fun action haction => (hallowed action haction).left) ?_
    · intro _ _ _ _ hrouted
      exact lookup_of_registered hresponse hkey hstatus hbody hrouted
    · intro action haction request' hrequest' _ hregistry
      have hsafe := (hallowed action haction).right.left request' hrequest'
      have hnot := (hallowed action haction).right.right request' hrequest'
      exact lookup_handled_of_some hsafe hnot hregistry
  · intro request key response u later answers' v hkey hstep _ hlater hallowed
    refine lasts_after_handle hround (fun registry => registry.lookup key = none)
      hholds hstep ?_ hlater
      (fun action haction => (hallowed action haction).left) ?_
    · intro registry _ _ _ hrouted
      rw [hrouted.changed_eq]
      exact lookup_of_deregistered hkey registry
    · intro action haction request' hrequest' _ hregistry
      have hsafe := (hallowed action haction).right.left request' hrequest'
      have hnot := (hallowed action haction).right.right request' hrequest'
      exact lookup_handled_of_none hsafe hnot hregistry

end

theorem crash_in_save {serde : SerdeJson} {config : ServerConfig}
    (hround : serde.RegistryRoundTrip) {registry : Registry} {files : FileSystem Path}
    (hload : Registry.load serde (files config.persistPath) = .ok registry)
    (request : Request) {cut : Cut} (hcut : cut.completed < 2) :
    exists after, (controlPlane serde config).step
        { memory := some registry, files := files } (.crash request cut) =
          some (none, { memory := none, files := after }) ∧
      Registry.load serde (after config.persistPath) = .ok registry := by
  refine ⟨_, rfl, ?_⟩
  have hrouted := route_routed serde (interruptedListener serde config cut) request
    registry files
  rw [interruptedListener_eq] at hrouted ⊢
  rcases hrouted.load_cases hround hload with ⟨hsaved, _⟩ | ⟨_, hafter⟩
  · rw [cutFaults_saved] at hsaved
    have hle := of_decide_eq_true hsaved
    omega
  · exact hafter

/-- Alice registers on a fresh bastion; the process dies three bytes into the
temporary file of Bob's register, and is restarted. -/
theorem acknowledged_registrations_survive_torn_save :
    exists answers t response u answers' v,
      (controlPlane serdeJson ServerConfig.default).run
          { memory := none, files := fun _ => none } [.start Faults.none] =
        some (answers, t) ∧
      (controlPlane serdeJson ServerConfig.default).step t
          (.handle aliceRegister Faults.none) = some (some response, u) ∧
      response.status = 200 ∧
      (controlPlane serdeJson ServerConfig.default).run u
          [.crash bobRegister ⟨0, some 3⟩, .start Faults.none] = some (answers', v) ∧
      exists registry, v.current serdeJson ServerConfig.default = .ok registry ∧
        registry.lookup aliceKey = some 10000 := by
  have hround := serdeJson_registryRoundTrip
  have hok : (Registry.default.register aliceKey).1 = .ok 10000 := rfl
  have hregister : (controlPlane serdeJson ServerConfig.default).step
      _ (.handle aliceRegister Faults.none) = some (some _, _) :=
    step_handle_register (fun _ => none) Faults.none aliceRegister_registers hok
  have hfile := load_after_change hround ServerConfig.default Faults.none
    (Registry.default.register aliceKey).2 fun _ => none
  have hcrash := crash_in_save hround hfile bobRegister
    (show Cut.completed ⟨0, some 3⟩ < 2 by decide)
  rcases hcrash with ⟨after, hcrash, hafter⟩
  have hrestart : (controlPlane serdeJson ServerConfig.default).step
      { memory := none, files := after } (.start Faults.none) = some (none,
        { memory := some (Registry.default.register aliceKey).2
          files := renderAtStartup
            (compositeListener serdeJson ServerConfig.default Faults.none)
            (Registry.default.register aliceKey).2 after }) := by
    simp only [controlPlane, hafter]
  have hlater := TransitionSystem.run_cons_of_step _ hcrash [.start Faults.none]
  rw [TransitionSystem.run_cons_of_step _ hrestart] at hlater
  have hfault : forall action, action ∈ [ControlPlaneAction.start Faults.none] ->
      action.NoFault := by
    simp [ControlPlaneAction.NoFault]
  have hstart : (controlPlane serdeJson ServerConfig.default).run
      { memory := none, files := fun _ => none } [.start Faults.none] =
        some ([none], { memory := some Registry.default, files := fun _ => none }) := rfl
  have hsurvives := (acknowledged_registrations_survive (s := ⟨none, fun _ => none⟩)
    hround serdeJson_registerResponse_faithful rfl rfl
    (Registry.sound_withRange PortRange.default) hfault hstart).right.right.left
  refine ⟨_, _, _, _, _, _, hstart, hregister, rfl, hlater, ?_⟩
  refine hsurvives _ _ _ _ _ _ _ _ aliceRegister_registers hregister rfl
    (serdeJson_registerResponse_faithful _) hlater ?_
  intro action haction
  simp only [List.mem_cons, List.not_mem_nil, or_false] at haction
  rcases haction with rfl | rfl
  · refine ⟨trivial, ?_, ?_⟩
    · intro request hrequest
      cases hrequest
      exact bobRegister_safe
    · intro request hrequest hderegisters
      cases hrequest
      have hnone := Request.registers_eq_none_of_deregisters hderegisters
      rw [bobRegister_registers] at hnone
      cases hnone
  · refine ⟨rfl, ?_, ?_⟩
    · intro request hrequest
      cases hrequest
    · intro request hrequest
      cases hrequest

end Bastion

end Ephemwork
