import Ephemwork.Bastion.Routing

/-!
# Retrying after a failed write

Writes that fail while a request is handled are only logged, so memory, the
registry file and the nginx file can come apart.  A later request about a pair
that is handled without a failure writes both files anew, except for a
deregister that finds nothing to remove: it is answered 200 and leaves the files
as they are.
-/

namespace Ephemwork

open Foundation

namespace Bastion

/-- The registry file and the nginx file agree with the registry about the
pair. -/
def FilesAgree (serde : SerdeJson) (config : ServerConfig)
    (files : FileSystem Path) (registry : Registry) (key : Key) : Prop :=
  (exists stored,
    Registry.load serde (files config.persistPath) = .ok stored ∧
    stored.lookup key = registry.lookup key) ∧
  forall port, HasRoute (files config.nginxConfig) key port <->
    registry.lookup key = some port

/-- After a request about a pair that is answered 200 and during which nothing
failed the files agree with memory about the pair. -/
def Repairs (serde : SerdeJson) (config : ServerConfig) (_ : ControlPlane)
    (action : ControlPlaneAction) (answer : Option Response)
    (t : ControlPlane) : Prop :=
  forall request key response registry,
    action = .handle request Faults.none ->
    request.names serde = some key -> answer = some response ->
    response.status = 200 -> t.memory = some registry ->
    FilesAgree serde config t.files registry key

/-- Neither file lists the pair. -/
def Forgotten (serde : SerdeJson) (config : ServerConfig)
    (files : FileSystem Path) (key : Key) : Prop :=
  (exists stored,
    Registry.load serde (files config.persistPath) = .ok stored ∧
    stored.lookup key = none) ∧
  forall port, ¬ HasRoute (files config.nginxConfig) key port

/-- A deregister during which nothing fails and that finds nothing to remove in
memory is about a pair that neither file lists. -/
def FindsForgotten (serde : SerdeJson) (config : ServerConfig)
    (s : ControlPlane) (action : ControlPlaneAction) (_ : Option Response)
    (_ : ControlPlane) : Prop :=
  forall request key registry, action = .handle request Faults.none ->
    request.deregisters serde = some key -> s.memory = some registry ->
    registry.lookup key = none -> Forgotten serde config s.files key

/-- The process runs and has safe pairs only; the files are what they are. -/
def RunsSafely (s : ControlPlane) : Prop :=
  exists registry, s.memory = some registry ∧ registry.AllSafe

def IsSafeRequest (serde : SerdeJson) (action : ControlPlaneAction) : Prop :=
  exists request faults, action = .handle request faults ∧ request.Safe serde

section

variable {serde : SerdeJson} {config : ServerConfig}

theorem filesAgree_of_change (hround : serde.RegistryRoundTrip)
    (config : ServerConfig) {registry : Registry} (h : registry.AllSafe)
    (files : FileSystem Path) {key : Key} (hkey : key.Safe) :
    FilesAgree serde config
      (compositeListener serde config Faults.none registry files) registry
      key := by
  have hroutes := routesExactly_of_change serde config h files
  refine ⟨⟨registry, ?_, rfl⟩, hroutes.hasRoute_iff hkey⟩
  exact load_after_change hround config Faults.none registry files

theorem filesAgree_iff_forgotten {files : FileSystem Path}
    {registry : Registry} {key : Key} (h : registry.lookup key = none) :
    FilesAgree serde config files registry key <->
      Forgotten serde config files key := by
  simp [FilesAgree, Forgotten, h]

theorem repairs_handle_iff {s : ControlPlane} {request : Request} {faults : Faults}
    {response : Response} {registry : Registry} {files : FileSystem Path} :
    Repairs serde config s (.handle request faults) (some response)
        { memory := some registry, files := files } <->
      (faults = Faults.none -> forall key, request.names serde = some key ->
        response.status = 200 -> FilesAgree serde config files registry key) := by
  constructor
  · intro h hfaults key hnames hstatus
    rw [hfaults] at h
    exact h request key response registry rfl hnames rfl hstatus rfl
  · intro h request' key response' registry' hhandle hnames hanswer hstatus hafter
    cases hhandle
    cases hanswer
    cases hafter
    exact h rfl key hnames hstatus

theorem findsForgotten_handle_iff {s t : ControlPlane} {request : Request}
    {faults : Faults} {answer : Option Response} {registry : Registry}
    (hmemory : s.memory = some registry) :
    FindsForgotten serde config s (.handle request faults) answer t <->
      (faults = Faults.none -> forall key, request.deregisters serde = some key ->
        registry.lookup key = none -> Forgotten serde config s.files key) := by
  constructor
  · intro h hfaults key hkey hnone
    exact h request key registry (by rw [hfaults]) hkey hmemory hnone
  · intro h request' key registry' hhandle hkey hmemory' hnone
    cases hhandle
    rw [hmemory] at hmemory'
    cases hmemory'
    exact h rfl key hkey hnone

/-- One request repairs what it is about exactly if it finds forgotten what it
does not find. -/
theorem repairs_step (hround : serde.RegistryRoundTrip) {s t : ControlPlane}
    {action : ControlPlaneAction} {answer : Option Response}
    (hinv : RunsSafely s) (haction : IsSafeRequest serde action)
    (hstep : (controlPlane serde config).step s action = some (answer, t)) :
    (Repairs serde config s action answer t <->
      FindsForgotten serde config s action answer t) ∧ RunsSafely t := by
  rcases hinv with ⟨registry, hmemory, hsafe⟩
  rcases haction with ⟨request, faults, rfl, hrequest⟩
  rcases handle_step hstep with
    ⟨_, response, changed, files, hmemory', rfl, rfl, hrouted⟩
  rw [hmemory] at hmemory'
  cases hmemory'
  have hchanged : changed.AllSafe := by
    rw [hrouted.changed_eq]
    exact hsafe.handled hrequest.registersSafe
  refine ⟨?_, changed, rfl, hchanged⟩
  rw [repairs_handle_iff, findsForgotten_handle_iff hmemory]
  have hnames : forall {key}, request.names serde = some key -> key.Safe := by
    intro key hkey
    exact hrequest key (Request.registers_or_deregisters_of_names hkey)
  cases hrouted with
  | registered key port hkey hok =>
      apply iff_of_true
      · intro hfaults key' hnames' _
        rw [hfaults]
        exact filesAgree_of_change hround config hchanged s.files (hnames hnames')
      · intro _ key' hderegisters
        rw [Request.registers_eq_none_of_deregisters hderegisters] at hkey
        cases hkey
  | refused key message hkey herror =>
      apply iff_of_true
      · intro _ key' _ hstatus
        revert hstatus
        simp [jsonError, Response.json]
      · intro _ key' hderegisters
        rw [Request.registers_eq_none_of_deregisters hderegisters] at hkey
        cases hkey
  | deregistered key port hkey hstored =>
      apply iff_of_true
      · intro hfaults key' hnames' _
        rw [hfaults]
        exact filesAgree_of_change hround config hchanged s.files (hnames hnames')
      · intro _ key' hderegisters hnone
        rw [hkey] at hderegisters
        cases hderegisters
        rw [hstored] at hnone
        cases hnone
  | absent key hkey hnone =>
      -- Nothing is written, so the files agree after if they agreed before.
      constructor
      · intro h hfaults key' hderegisters hnone'
        have hnamed := Request.names_of_deregisters hderegisters
        exact (filesAgree_iff_forgotten hnone').mp (h hfaults key' hnamed rfl)
      · intro h hfaults key' hnames' _
        rw [Request.names_of_deregisters hkey] at hnames'
        cases hnames'
        exact (filesAgree_iff_forgotten hnone).mpr (h hfaults key hkey hnone)
  | other response hregisters hderegisters _ =>
      apply iff_of_true
      · intro _ key' hnames' _
        rcases Request.registers_or_deregisters_of_names hnames' with
          hkey | hkey
        · rw [hregisters] at hkey
          cases hkey
        · rw [hderegisters] at hkey
          cases hkey
      · intro _ key' hderegisters'
        rw [hderegisters] at hderegisters'
        cases hderegisters'

/-- Whatever failed before, along a sequence of requests every request handled
without a failure repairs what it is about if and only if none is a deregister
of a pair that memory has forgotten and a file has not. -/
theorem retry_repairs_iff_finds_forgotten (hround : serde.RegistryRoundTrip)
    {registry : Registry} (hsafe : registry.AllSafe) (files : FileSystem Path)
    {requests : List (Request × Faults)}
    (hrequests : forall entry, entry ∈ requests -> entry.1.Safe serde) :
    (controlPlane serde config).Along (Repairs serde config)
        { memory := some registry, files := files }
        (requests.map fun entry => .handle entry.1 entry.2) <->
      (controlPlane serde config).Along (FindsForgotten serde config)
        { memory := some registry, files := files }
        (requests.map fun entry => .handle entry.1 entry.2) := by
  have hactions : forall action,
      action ∈ (requests.map fun entry =>
        ControlPlaneAction.handle entry.1 entry.2) ->
      IsSafeRequest serde action := by
    intro action haction
    rcases List.mem_map.mp haction with ⟨entry, hmem, rfl⟩
    exact ⟨entry.1, entry.2, rfl, hrequests entry hmem⟩
  exact TransitionSystem.along_iff _
    (fun _ _ _ _ h ha hstep _ => (repairs_step hround h ha hstep).right)
    (fun _ _ _ _ h ha hstep => (repairs_step hround h ha hstep).left)
    ⟨registry, rfl, hsafe⟩ hactions

end

/-!
# A retry that repairs
-/

def Faults.nothingWritten : Faults where
  save := some FileOp.untouched
  writeConfig := some FileOp.untouched
  reloadFails := true

theorem compositeListener_nothingWritten (serde : SerdeJson)
    (config : ServerConfig) (registry : Registry) (files : FileSystem Path) :
    compositeListener serde config Faults.nothingWritten registry files =
      files := by
  simp only [compositeListener, nginxReloader, persistOnChange,
    Faults.nothingWritten, FileOp.perform, FileOp.execCut_untouched]
  cases renderConfig registry.snapshot with
  | error e => rfl
  | ok rendered => rfl

/-- Alice registers while the files cannot be written and retries when they can. -/
theorem retry_repairs_iff_finds_forgotten_registered :
    (controlPlane serdeJson ServerConfig.default).Along
      (Repairs serdeJson ServerConfig.default)
      { memory := some Registry.default, files := fun _ => none }
      ([(aliceRegister, Faults.nothingWritten), (aliceRegister, Faults.none)].map
        fun entry => .handle entry.1 entry.2) := by
  have hsafe := Registry.AllSafe.withRange PortRange.default
  have hrequests : forall entry : Request × Faults,
      entry ∈ [(aliceRegister, Faults.nothingWritten), (aliceRegister, Faults.none)] ->
      entry.1.Safe serdeJson := by
    intro entry hentry
    simp only [List.mem_cons, List.not_mem_nil, or_false] at hentry
    rcases hentry with rfl | rfl
    · exact aliceRegister_safe
    · exact aliceRegister_safe
  refine (retry_repairs_iff_finds_forgotten serdeJson_registryRoundTrip hsafe _
    hrequests).mpr ?_
  -- Neither request deregisters, so neither has anything to find forgotten.
  have hregisters : forall (s t : ControlPlane) (faults : Faults)
      (answer : Option Response), FindsForgotten serdeJson ServerConfig.default s
        (.handle aliceRegister faults) answer t := by
    intro s t faults answer request key registry hhandle hderegisters
    cases hhandle
    have hnone := Request.registers_eq_none_of_deregisters hderegisters
    rw [aliceRegister_registers] at hnone
    cases hnone
  intro answer t _
  refine ⟨hregisters _ t _ answer, ?_⟩
  intro answer' t' _
  exact ⟨hregisters _ t' _ answer', trivial⟩

/-!
# A retry that repairs nothing
-/

/-- Alice deregisters while the files cannot be written and retries when they
can: both files keep her tunnel. -/
theorem retried_deregister_repairs_nothing :
    ¬ forall requests : List (Request × Faults),
      (forall entry, entry ∈ requests -> entry.1.Safe serdeJson) ->
      (controlPlane serdeJson ServerConfig.default).Along
        (Repairs serdeJson ServerConfig.default)
        { memory := some Registry.default, files := fun _ => none }
        (requests.map fun entry => .handle entry.1 entry.2) := by
  intro h
  have hrun := h [(aliceRegister, Faults.none),
    (aliceDeregister, Faults.nothingWritten), (aliceDeregister, Faults.none)]
    (by
      intro entry hentry
      simp only [List.mem_cons, List.not_mem_nil, or_false] at hentry
      rcases hentry with rfl | rfl | rfl
      · exact aliceRegister_safe
      · exact aliceDeregister_safe
      · exact aliceDeregister_safe)
  have hok : (Registry.default.register aliceKey).1 = .ok 10000 := rfl
  have hchanged : (Registry.default.register aliceKey).2.AllSafe :=
    (Registry.AllSafe.withRange PortRange.default).register (by decide)
  have hlisted := filesAgree_of_change serdeJson_registryRoundTrip
    ServerConfig.default hchanged (fun _ => none)
    (show aliceKey.Safe by decide)
  rw [List.map_cons, List.map_cons, List.map_cons, List.map_nil,
    TransitionSystem.along_cons_of_step _
      (step_handle_register _ Faults.none aliceRegister_registers hok)] at hrun
  have hfailed := hrun.right
  rw [TransitionSystem.along_cons_of_step _
    (step_handle_deregister Faults.nothingWritten
      aliceDeregister_deregisters),
    compositeListener_nothingWritten, ite_self] at hfailed
  have hretried := hfailed.right
  rw [TransitionSystem.along_cons_of_step _
    (step_handle_deregister Faults.none aliceDeregister_deregisters)]
    at hretried
  have hrepaired := hretried.left aliceDeregister aliceKey _ _ rfl
    (Request.names_of_deregisters aliceDeregister_deregisters) rfl rfl rfl
  have hroute := (hrepaired.right 10000).mp
    ((hlisted.right 10000).mpr (Registry.register_getElem?_self hok))
  cases hroute

end Bastion

end Ephemwork
