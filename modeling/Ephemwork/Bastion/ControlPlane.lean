import Ephemwork.Bastion.Handlers
import Ephemwork.Bastion.Nginx
import Ephemwork.Bastion.PortInvariant
import Ephemwork.Foundation.AtomicFile

/-!
# The control plane

The server process of `bastion-server/src/main.rs`: the registry in memory, the
registry file and the nginx configuration it keeps on disk, and its life over
requests, failing writes, crashes and restarts.  Requests are handled one at a
time, since the registry is locked while `route` and its listener run.
-/

namespace Ephemwork

open Foundation

namespace Bastion

inductive ReloadCommand where
  | nginxBinary
  | none
  | custom (command : String)
deriving DecidableEq, Repr

structure ServerConfig where
  persistPath : Path
  nginxConfig : Path
  nginxReload : ReloadCommand
  /-- The two files and their temporary files are four files. -/
  distinct : [persistPath, persistPath.withExtension "json.tmp", nginxConfig,
    nginxConfig.withExtension "conf.tmp"].Nodup

namespace ServerConfig

def default : ServerConfig where
  persistPath := ⟨["var", "lib", "ephemwork"], "registry.json"⟩
  nginxConfig := ⟨["etc", "nginx", "conf.d"], "ephemwork.conf"⟩
  nginxReload := .none
  distinct := by decide

variable (config : ServerConfig)

def persistTmp : Path :=
  config.persistPath.withExtension "json.tmp"

def nginxTmp : Path :=
  config.nginxConfig.withExtension "conf.tmp"

theorem persistTmp_ne : config.persistTmp ≠ config.persistPath :=
  Path.withExtension_ne (by decide)

theorem nginxTmp_ne : config.nginxTmp ≠ config.nginxConfig :=
  Path.withExtension_ne (by decide)

theorem nginxConfig_ne :
    config.nginxConfig ≠ config.persistTmp ∧
      config.nginxConfig ≠ config.persistPath := by
  have h := config.distinct
  simp only [List.nodup_cons, List.mem_cons, not_or] at h
  exact ⟨fun heq => h.right.left.left heq.symm,
    fun heq => h.left.right.left heq.symm⟩

theorem persistPath_ne :
    config.persistPath ≠ config.nginxTmp ∧
      config.persistPath ≠ config.nginxConfig := by
  have h := config.distinct
  simp only [List.nodup_cons, List.mem_cons, not_or] at h
  exact ⟨h.left.right.right.left, h.left.right.left⟩

end ServerConfig

/-!
# The registry file
-/

def Registry.fileContents (serde : SerdeJson) (registry : Registry) : Bytes :=
  Bytes.ofText (serde.registry.encode registry).toList

def Registry.saveOps (serde : SerdeJson) (config : ServerConfig)
    (registry : Registry) : List (FileOp Path) :=
  FileOp.replace config.persistTmp config.persistPath
    (registry.fileContents serde)

/-- What `Registry::load` makes of the contents of the file; a missing or blank
file is the empty default registry. -/
def Registry.load (serde : SerdeJson) (contents : Option Bytes) :
    Except String Registry :=
  match contents with
  | none => .ok Registry.default
  | some bytes =>
      match Bytes.toText? bytes with
      | none => .error "stream did not contain valid UTF-8"
      | some text =>
          if Text.isBlank text then
            .ok Registry.default
          else
            serde.registry.decode (String.ofList text)

/-- A written registry is read back, and blank text is not JSON. -/
structure SerdeJson.RegistryRoundTrip (serde : SerdeJson) : Prop where
  faithful : serde.registry.Faithful
  rejects_blank : forall s registry, Text.isBlank s = true ->
    serde.registry.decode (String.ofList s) ≠ .ok registry

theorem Registry.load_fileContents {serde : SerdeJson}
    (h : serde.RegistryRoundTrip) (registry : Registry) :
    Registry.load serde (some (registry.fileContents serde)) =
      .ok registry := by
  have hdecode := h.faithful registry
  have hblank : Text.isBlank (serde.registry.encode registry).toList =
      false := by
    cases hblank : Text.isBlank (serde.registry.encode registry).toList with
    | false => rfl
    | true =>
        rw [← String.ofList_toList (s := serde.registry.encode registry)]
          at hdecode
        exact absurd hdecode (h.rejects_blank _ _ hblank)
  simp [Registry.load, Registry.fileContents, hblank, hdecode]

theorem serdeJson_registryRoundTrip : serdeJson.RegistryRoundTrip where
  faithful := serdeJson_registry_faithful
  rejects_blank := fun _ registry hblank =>
    JsonCodec.registryCodec_rejects_blank hblank registry

/-!
# Listeners

Each listener performs its operations up to a failure, which is only logged.
-/

/-- What goes wrong while a change is written out.  A failed reload touches no
file. -/
structure Faults where
  save : Option Cut
  writeConfig : Option Cut
  reloadFails : Bool
deriving DecidableEq, Repr

def Faults.none : Faults where
  save := Option.none
  writeConfig := Option.none
  reloadFails := false

section

variable (serde : SerdeJson) (config : ServerConfig)

def persistOnChange (failure : Option Cut) :
    MutationListener (FileSystem Path) :=
  fun registry files =>
    FileOp.perform (registry.saveOps serde config) failure files

def writeConfigOps (contents : String) : List (FileOp Path) :=
  FileOp.replace config.nginxTmp config.nginxConfig
    (Bytes.ofText contents.toList)

/-- A configuration that cannot be rendered is not written. -/
def nginxReloader (failure : Option Cut) :
    MutationListener (FileSystem Path) :=
  fun registry files =>
    match renderConfig registry.snapshot with
    | .error _ => files
    | .ok rendered => FileOp.perform (writeConfigOps config rendered) failure files

def compositeListener (faults : Faults) :
    MutationListener (FileSystem Path) :=
  fun registry files =>
    nginxReloader config faults.writeConfig registry
      (persistOnChange serde config faults.save registry files)

def onChangeOps (registry : Registry) : List (FileOp Path) :=
  registry.saveOps serde config ++
    match renderConfig registry.snapshot with
    | .error _ => []
    | .ok rendered => writeConfigOps config rendered

def interruptedListener (cut : Cut) : MutationListener (FileSystem Path) :=
  fun registry files => FileOp.execCut (onChangeOps serde config registry) cut files

def cutFaults (cut : Cut) : Faults where
  save := if cut.completed < 2 then some cut else Option.none
  writeConfig :=
    if cut.completed < 2 then
      some FileOp.untouched
    else
      some ⟨cut.completed - 2, cut.torn⟩
  reloadFails := true

theorem interruptedListener_eq (cut : Cut) :
    interruptedListener serde config cut =
      compositeListener serde config (cutFaults cut) := by
  funext registry files
  have hlength : (registry.saveOps serde config).length = 2 := rfl
  simp only [interruptedListener, onChangeOps, FileOp.execCut_append, hlength,
    compositeListener, nginxReloader, persistOnChange, cutFaults]
  by_cases hcut : cut.completed < 2
  · simp only [if_pos hcut]
    cases renderConfig registry.snapshot with
    | error e => rfl
    | ok rendered => simp [FileOp.perform]
  · simp only [if_neg hcut]
    cases renderConfig registry.snapshot with
    | error e => rfl
    | ok rendered => rfl

@[simp] theorem cutFaults_saved (cut : Cut) :
    FileOp.replaced (cutFaults cut).save = decide (2 ≤ cut.completed) := by
  by_cases hcut : cut.completed < 2
  · simp [cutFaults, hcut, FileOp.replaced]
  · simp [cutFaults, hcut, FileOp.replaced, Nat.not_lt.mp hcut]

@[simp] theorem cutFaults_written (cut : Cut) :
    FileOp.replaced (cutFaults cut).writeConfig =
      decide (4 ≤ cut.completed) := by
  by_cases hcut : cut.completed < 2
  · have hlate : ¬ 4 ≤ cut.completed := by omega
    simp [cutFaults, hcut, FileOp.replaced, FileOp.untouched, hlate]
  · have hiff : 2 ≤ cut.completed - 2 <-> 4 ≤ cut.completed := by omega
    simp [cutFaults, hcut, FileOp.replaced, hiff]

theorem compositeListener_persistPath (faults : Faults) (registry : Registry)
    (files : FileSystem Path) :
    compositeListener serde config faults registry files config.persistPath =
      if FileOp.replaced faults.save then
        some (registry.fileContents serde)
      else
        files config.persistPath := by
  have hsave := FileOp.perform_replace_target config.persistTmp_ne
    (registry.fileContents serde) faults.save files
  have hnginx : forall after : FileSystem Path,
      nginxReloader config faults.writeConfig registry after
        config.persistPath = after config.persistPath := by
    intro after
    unfold nginxReloader
    cases renderConfig registry.snapshot with
    | error e => rfl
    | ok rendered =>
        exact FileOp.perform_replace_of_ne config.persistPath_ne.left
          config.persistPath_ne.right _ _ _
  rw [compositeListener, hnginx]
  exact hsave

theorem compositeListener_nginxConfig (faults : Faults) (registry : Registry)
    (files : FileSystem Path) :
    compositeListener serde config faults registry files config.nginxConfig =
      match renderConfig registry.snapshot with
      | .error _ => files config.nginxConfig
      | .ok rendered =>
          if FileOp.replaced faults.writeConfig then
            some (Bytes.ofText rendered.toList)
          else
            files config.nginxConfig := by
  have hsave : persistOnChange serde config faults.save registry files
      config.nginxConfig = files config.nginxConfig :=
    FileOp.perform_replace_of_ne config.nginxConfig_ne.left
      config.nginxConfig_ne.right _ _ _
  rw [compositeListener, nginxReloader]
  cases renderConfig registry.snapshot with
  | error e => exact hsave
  | ok rendered =>
      rw [← hsave]
      exact FileOp.perform_replace_target config.nginxTmp_ne _ _ _

end

theorem load_after_change {serde : SerdeJson}
    (hround : serde.RegistryRoundTrip) (config : ServerConfig)
    (faults : Faults) (registry : Registry) (files : FileSystem Path) :
    Registry.load serde
        (compositeListener serde config faults registry files
          config.persistPath) =
      if FileOp.replaced faults.save then
        .ok registry
      else
        Registry.load serde (files config.persistPath) := by
  rw [compositeListener_persistPath]
  cases FileOp.replaced faults.save with
  | true => exact Registry.load_fileContents hround registry
  | false => rfl

/-!
# The life of the server
-/

/-- The registry in memory while the process runs, and the files. -/
structure ControlPlane where
  memory : Option Registry
  files : FileSystem Path

/-- A request is handled, with some writes failing, or the process dies while
handling it; a stopped process starts, or dies while starting.  A process that
dies idle dies handling a request that changes nothing. -/
inductive ControlPlaneAction where
  | handle (request : Request) (faults : Faults)
  | crash (request : Request) (cut : Cut)
  | start (faults : Faults)
  | crashStarting (cut : Cut)
deriving DecidableEq, Repr

namespace ControlPlaneAction

def request : ControlPlaneAction -> Option Request
  | handle request _ => some request
  | crash request _ => some request
  | start _ => none
  | crashStarting _ => none

/-- The request that is handled, to its end or until the process dies, and what
goes wrong with the writes. -/
def handling : ControlPlaneAction -> Option (Request × Faults)
  | handle request faults => some (request, faults)
  | crash request cut => some (request, cutFaults cut)
  | start _ => none
  | crashStarting _ => none

theorem request_of_handling {action : ControlPlaneAction} {request : Request}
    {faults : Faults} (h : action.handling = some (request, faults)) :
    action.request = some request := by
  cases action <;> cases h <;> rfl

def NoFault : ControlPlaneAction -> Prop
  | handle _ faults => faults = Faults.none
  | crash _ _ => True
  | start faults => faults = Faults.none
  | crashStarting _ => True

end ControlPlaneAction

section

variable (serde : SerdeJson) (config : ServerConfig)

/-- `on_change` at startup, skipped for an empty registry. -/
def renderAtStartup (listener : MutationListener (FileSystem Path))
    (registry : Registry) (files : FileSystem Path) : FileSystem Path :=
  if registry.isEmpty then files else listener registry files

def controlPlane :
    TransitionSystem ControlPlane ControlPlaneAction (Option Response) where
  step := fun s action =>
    match s.memory, action with
    | some registry, .handle request faults =>
        let (response, changed, files) :=
          route serde (compositeListener serde config faults) request registry
            s.files
        some (some response, { memory := some changed, files := files })
    | some registry, .crash request cut =>
        let (_, _, files) :=
          route serde (interruptedListener serde config cut) request registry
            s.files
        some (none, { memory := none, files := files })
    | none, .start faults =>
        match Registry.load serde (s.files config.persistPath) with
        | .error _ => some (none, s)
        | .ok registry =>
            some (none,
              { memory := some registry
                files := renderAtStartup (compositeListener serde config faults)
                  registry s.files })
    | none, .crashStarting cut =>
        match Registry.load serde (s.files config.persistPath) with
        | .error _ => some (none, s)
        | .ok registry =>
            some (none,
              { memory := none
                files := renderAtStartup (interruptedListener serde config cut)
                  registry s.files })
    | _, _ => none

/-!
# What each step does
-/

variable {serde config} {s t : ControlPlane} {answer : Option Response}

theorem exists_handle_step (serde : SerdeJson) (config : ServerConfig)
    (registry : Registry) (files : FileSystem Path) (request : Request)
    (faults : Faults) :
    exists answer t,
      (controlPlane serde config).step
        { memory := some registry, files := files } (.handle request faults) =
        some (answer, t) :=
  ⟨_, _, rfl⟩

theorem step_handle_register {registry : Registry} (files : FileSystem Path)
    {request : Request} {key : Key} {port : UInt16} (faults : Faults)
    (hkey : request.registers serde = some key)
    (hok : (registry.register key).1 = .ok port) :
    (controlPlane serde config).step
        { memory := some registry, files := files } (.handle request faults) =
      some (some (Response.json 200 "OK"
          (serde.registerResponse.encode { remotePort := port })),
        { memory := some (registry.register key).2
          files := compositeListener serde config faults
            (registry.register key).2 files }) := by
  have hpair : registry.register key = (.ok port, (registry.register key).2) :=
    Prod.ext hok rfl
  simp only [controlPlane, route_of_registers _ registry files hkey]
  rw [hpair]

theorem step_handle_deregister {registry : Registry} {files : FileSystem Path}
    {request : Request} {key : Key} (faults : Faults)
    (hkey : request.deregisters serde = some key) :
    (controlPlane serde config).step
        { memory := some registry, files := files } (.handle request faults) =
      some (some (Response.json 200 "OK" (Bytes.ofText "\x7b\x7d".toList)),
        { memory := some (registry.deregister key).2
          files := if (registry.deregister key).1.isSome then
              compositeListener serde config faults (registry.deregister key).2
                files
            else
              files }) := by
  simp only [controlPlane, route_of_deregisters _ registry files hkey]

theorem step_start {files : FileSystem Path} {saved : Registry}
    (faults : Faults)
    (hload : Registry.load serde (files config.persistPath) = .ok saved) :
    (controlPlane serde config).step { memory := none, files := files }
        (.start faults) =
      some (none,
        { memory := some saved
          files := renderAtStartup (compositeListener serde config faults)
            saved files }) := by
  simp only [controlPlane, hload]

theorem exists_crash_step (serde : SerdeJson) (config : ServerConfig)
    (registry : Registry) (files : FileSystem Path) (request : Request)
    (cut : Cut) :
    exists answer t,
      (controlPlane serde config).step
        { memory := some registry, files := files } (.crash request cut) =
        some (answer, t) :=
  ⟨_, _, rfl⟩

theorem handle_step {request : Request} {faults : Faults}
    (h : (controlPlane serde config).step s (.handle request faults) =
      some (answer, t)) :
    exists registry response changed files, s.memory = some registry ∧
      answer = some response ∧ t = { memory := some changed, files := files } ∧
      Routed serde (compositeListener serde config faults) request registry
        s.files (response, changed, files) := by
  rcases s with ⟨memory, before⟩
  cases memory with
  | none => cases h
  | some registry =>
      have hrouted := route_routed serde
        (compositeListener serde config faults) request registry before
      cases h
      exact ⟨registry, _, _, _, rfl, rfl, rfl, hrouted⟩

theorem crash_step {request : Request} {cut : Cut}
    (h : (controlPlane serde config).step s (.crash request cut) =
      some (answer, t)) :
    exists registry response changed files, s.memory = some registry ∧
      answer = none ∧ t = { memory := none, files := files } ∧
      Routed serde (compositeListener serde config (cutFaults cut)) request
        registry s.files (response, changed, files) := by
  rcases s with ⟨memory, before⟩
  cases memory with
  | none => cases h
  | some registry =>
      have hrouted := route_routed serde
        (interruptedListener serde config cut) request registry before
      cases h
      rw [← interruptedListener_eq]
      exact ⟨registry, _, _, _, rfl, rfl, rfl, hrouted⟩

theorem start_step {faults : Faults}
    (h : (controlPlane serde config).step s (.start faults) =
      some (answer, t)) :
    s.memory = none ∧ answer = none ∧
      ((exists message,
        Registry.load serde (s.files config.persistPath) = .error message ∧
        t = s) ∨
      (exists registry,
        Registry.load serde (s.files config.persistPath) = .ok registry ∧
        t = { memory := some registry
              files := renderAtStartup (compositeListener serde config faults)
                registry s.files })) := by
  rcases s with ⟨memory, files⟩
  cases memory with
  | some registry => cases h
  | none =>
      cases hload : Registry.load serde (files config.persistPath) with
      | error message =>
          simp only [controlPlane, hload] at h
          cases h
          exact ⟨rfl, rfl, Or.inl ⟨message, rfl, rfl⟩⟩
      | ok registry =>
          simp only [controlPlane, hload] at h
          cases h
          exact ⟨rfl, rfl, Or.inr ⟨registry, rfl, rfl⟩⟩

theorem crashStarting_step {cut : Cut}
    (h : (controlPlane serde config).step s (.crashStarting cut) =
      some (answer, t)) :
    s.memory = none ∧ answer = none ∧
      ((exists message,
        Registry.load serde (s.files config.persistPath) = .error message ∧
        t = s) ∨
      (exists registry,
        Registry.load serde (s.files config.persistPath) = .ok registry ∧
        t = { memory := none
              files := renderAtStartup
                (compositeListener serde config (cutFaults cut)) registry
                s.files })) := by
  rcases s with ⟨memory, files⟩
  cases memory with
  | some registry => cases h
  | none =>
      cases hload : Registry.load serde (files config.persistPath) with
      | error message =>
          simp only [controlPlane, hload] at h
          cases h
          exact ⟨rfl, rfl, Or.inl ⟨message, rfl, rfl⟩⟩
      | ok registry =>
          simp only [controlPlane, hload] at h
          cases h
          refine ⟨rfl, rfl, Or.inr ⟨registry, rfl, ?_⟩⟩
          rw [← interruptedListener_eq]

theorem handling_step {action : ControlPlaneAction} {request : Request}
    {faults : Faults} (haction : action.handling = some (request, faults))
    (h : (controlPlane serde config).step s action = some (answer, t)) :
    exists registry response changed files, s.memory = some registry ∧
      t.files = files ∧ (t.memory = some changed ∨ t.memory = none) ∧
      Routed serde (compositeListener serde config faults) request registry
        s.files (response, changed, files) := by
  cases action with
  | handle request' faults' =>
      cases haction
      rcases handle_step h with
        ⟨registry, response, changed, files, hmemory, _, rfl, hrouted⟩
      exact ⟨registry, response, changed, files, hmemory, rfl, Or.inl rfl,
        hrouted⟩
  | crash request' cut =>
      cases haction
      rcases crash_step h with
        ⟨registry, response, changed, files, hmemory, _, rfl, hrouted⟩
      exact ⟨registry, response, changed, files, hmemory, rfl, Or.inr rfl,
        hrouted⟩
  | start faults' => cases haction
  | crashStarting cut => cases haction

theorem starting_step {action : ControlPlaneAction}
    (haction : action.handling = none) {saved : Registry}
    (hload : Registry.load serde (s.files config.persistPath) = .ok saved)
    (h : (controlPlane serde config).step s action = some (answer, t)) :
    exists faults,
      t.files = renderAtStartup (compositeListener serde config faults) saved
        s.files ∧ (t.memory = some saved ∨ t.memory = none) := by
  cases action with
  | handle request faults => cases haction
  | crash request cut => cases haction
  | start faults =>
      rcases start_step h with ⟨_, _, hcases | hcases⟩
      · rcases hcases with ⟨message, herror, _⟩
        rw [hload] at herror
        cases herror
      · rcases hcases with ⟨registry, hok, rfl⟩
        rw [hload] at hok
        cases hok
        exact ⟨faults, rfl, Or.inl rfl⟩
  | crashStarting cut =>
      rcases crashStarting_step h with ⟨_, _, hcases | hcases⟩
      · rcases hcases with ⟨message, herror, _⟩
        rw [hload] at herror
        cases herror
      · rcases hcases with ⟨registry, hok, rfl⟩
        rw [hload] at hok
        cases hok
        exact ⟨cutFaults cut, rfl, Or.inr rfl⟩

end

end Bastion

end Ephemwork
