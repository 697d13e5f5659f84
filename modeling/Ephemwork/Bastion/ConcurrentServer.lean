import Ephemwork.Bastion.Connection
import Ephemwork.Bastion.Routing
import Ephemwork.Foundation.LockedObject

/-!
# Connections side by side

The accept loop of `bastion-server/src/main.rs` gives every connection a thread of
its own.  A thread reads its request, locks the registry, routes the request and
lets the listeners write the files, unlocks it and answers.  The model of the
control plane handles requests one at a time; here the threads take their steps in
any order.
-/

namespace Ephemwork

open Foundation

namespace Bastion

/-!
# What a thread does to the files
-/

/-- One operation of a listener, or what is left of the one that fails. -/
inductive FileStep where
  | whole (op : FileOp Path)
  | torn (op : FileOp Path) (bytes : Option Nat)
deriving DecidableEq, Repr

def FileStep.perform : FileStep -> FileSystem Path -> FileSystem Path
  | whole op, files => op.exec files
  | torn op bytes, files => op.tear bytes files

def fileSteps : List (FileOp Path) -> Option Cut -> List FileStep
  | ops, none => ops.map .whole
  | [], some _ => []
  | op :: _, some ⟨0, bytes⟩ => [.torn op bytes]
  | op :: rest, some ⟨n + 1, bytes⟩ => .whole op :: fileSteps rest (some ⟨n, bytes⟩)

def performSteps (steps : List FileStep) (files : FileSystem Path) : FileSystem Path :=
  steps.foldl (fun files step => step.perform files) files

theorem performSteps_whole (ops : List (FileOp Path)) (files : FileSystem Path) :
    performSteps (ops.map .whole) files = FileOp.execAll ops files := by
  induction ops generalizing files with
  | nil => rfl
  | cons op rest ih => exact ih (op.exec files)

theorem performSteps_fileSteps (ops : List (FileOp Path)) (failure : Option Cut)
    (files : FileSystem Path) :
    performSteps (fileSteps ops failure) files = FileOp.perform ops failure files := by
  cases failure with
  | none => rw [fileSteps, performSteps_whole, FileOp.perform]
  | some cut =>
      rcases cut with ⟨n, bytes⟩
      induction ops generalizing n files with
      | nil => rfl
      | cons op rest ih =>
          cases n with
          | zero => rfl
          | succ n => exact ih (op.exec files) n

section

variable (serde : SerdeJson) (config : ServerConfig)

def listedSteps (faults : Faults) : MutationListener (List FileStep) :=
  fun registry steps =>
    steps ++
      (fileSteps (registry.saveOps serde config) faults.save ++
        match renderConfig registry.snapshot with
        | .error _ => []
        | .ok rendered => fileSteps (writeConfigOps config rendered) faults.writeConfig)

theorem performSteps_listedSteps (faults : Faults) (registry : Registry)
    (steps : List FileStep) (files : FileSystem Path) :
    performSteps (listedSteps serde config faults registry steps) files =
      compositeListener serde config faults registry (performSteps steps files) := by
  rw [listedSteps, performSteps, List.foldl_append, List.foldl_append]
  show performSteps _ (performSteps (fileSteps _ _) (performSteps steps files)) = _
  rw [performSteps_fileSteps, compositeListener, nginxReloader, persistOnChange]
  cases renderConfig registry.snapshot with
  | error e => rfl
  | ok rendered => exact performSteps_fileSteps _ _ _

/-- The registry behind its lock: under it a request is routed and the files are
written. -/
def lockedRegistry :
    LockedObject Registry (Request × Faults) Response FileStep (FileSystem Path) where
  serve := fun wanted registry =>
    route serde (listedSteps serde config wanted.2) wanted.1 registry []
  perform := FileStep.perform

end

theorem route_map {world world' : Type} (serde : SerdeJson)
    {listener : MutationListener world} {listener' : MutationListener world'}
    {image : world -> world'}
    (h : forall registry state, image (listener registry state) =
      listener' registry (image state))
    (request : Request) (registry : Registry) (state : world) :
    route serde listener' request registry (image state) =
      ((route serde listener request registry state).1,
        (route serde listener request registry state).2.1,
        image (route serde listener request registry state).2.2) := by
  have hregister : handleRegister serde listener' request registry (image state) =
      ((handleRegister serde listener request registry state).1,
        (handleRegister serde listener request registry state).2.1,
        image (handleRegister serde listener request registry state).2.2) := by
    unfold handleRegister
    cases serde.registerRequest.decode request.body with
    | error message => rfl
    | ok parsed =>
        cases hblank : Text.isBlank parsed.user.toList ||
            Text.isBlank parsed.service.toList with
        | true => simp only [hblank, if_true]
        | false =>
            simp only [hblank, Bool.false_eq_true, if_false]
            rcases registry.register parsed.key with ⟨result, changed⟩
            cases result with
            | ok port => simp only [h]
            | error message => rfl
  have hderegister : handleDeregister serde listener' request registry (image state) =
      ((handleDeregister serde listener request registry state).1,
        (handleDeregister serde listener request registry state).2.1,
        image (handleDeregister serde listener request registry state).2.2) := by
    unfold handleDeregister
    cases serde.deregisterRequest.decode request.body with
    | error message => rfl
    | ok parsed =>
        rcases hremoved : registry.deregister parsed.key with ⟨removed, changed⟩
        cases removed with
        | none => simp only [hremoved]
        | some port => simp only [hremoved, h]
  unfold route
  split
  · rfl
  · exact hregister
  · exact hderegister
  · rfl
  · rfl

theorem route_listedSteps (serde : SerdeJson) (config : ServerConfig) (request : Request)
    (faults : Faults) (registry : Registry) (files : FileSystem Path) :
    route serde (compositeListener serde config faults) request registry files =
      ((route serde (listedSteps serde config faults) request registry []).1,
        (route serde (listedSteps serde config faults) request registry []).2.1,
        performSteps
          (route serde (listedSteps serde config faults) request registry []).2.2
          files) :=
  route_map serde
    (fun changed steps => performSteps_listedSteps serde config faults changed steps files)
    request registry []

theorem sequential_run (serde : SerdeJson) (config : ServerConfig)
    {registry registry' : Registry} {files files' : FileSystem Path}
    {asked : List (Request × Faults)} {answers : List Response}
    (h : (lockedRegistry serde config).sequential.run (registry, files) asked =
      some (answers, (registry', files'))) :
    (controlPlane serde config).run { memory := some registry, files := files }
        (asked.map fun wanted => .handle wanted.1 wanted.2) =
      some (answers.map some, { memory := some registry', files := files' }) := by
  induction asked generalizing registry files answers with
  | nil =>
      cases h
      rfl
  | cons wanted rest ih =>
      rcases LockedObject.sequential_run_cons _ h with ⟨tail, hrest, rfl⟩
      have hroute := route_listedSteps serde config wanted.1 wanted.2 registry files
      have hhandle : (controlPlane serde config).step
          { memory := some registry, files := files } (.handle wanted.1 wanted.2) =
          some (some ((lockedRegistry serde config).serve wanted registry).1,
            { memory := some ((lockedRegistry serde config).serve wanted registry).2.1
              files := performSteps
                ((lockedRegistry serde config).serve wanted registry).2.2 files }) := by
        simp only [controlPlane, hroute]
        rfl
      have hhandled : (controlPlane serde config).run
          { memory := some ((lockedRegistry serde config).serve wanted registry).2.1
            files := performSteps
              ((lockedRegistry serde config).serve wanted registry).2.2 files }
          (rest.map fun wanted => .handle wanted.1 wanted.2) =
          some (tail.map some, { memory := some registry', files := files' }) := ih hrest
      rw [List.map_cons, TransitionSystem.run_cons_of_step _ hhandle, hhandled]
      rfl

/-!
# Threads
-/

/-- A thread takes its next step; the first one is to read its request. -/
inductive ThreadMove (thread : Type) where
  | read (who : thread) (reads : Stream) (faults : Faults)
  | lock (who : thread)
  | write (who : thread)
  | unlock (who : thread)
  | respond (who : thread)

/-- A connection whose request cannot be read is closed, and its thread does not
come to the lock. -/
def ThreadMove.move? {thread : Type} (overflowChecks : Bool) :
    ThreadMove thread -> Option (Move thread (Request × Faults))
  | read who reads faults =>
      match readRequest overflowChecks reads with
      | .error _ => none
      | .ok request => some (.arrive who (request, faults))
  | lock who => some (.take who)
  | write who => some (.work who)
  | unlock who => some (.release who)
  | respond who => some (.answer who)

theorem exists_read_of_arrive {thread : Type} {overflowChecks : Bool}
    {moves : List (ThreadMove thread)} {who : thread} {wanted : Request × Faults}
    (h : .arrive who wanted ∈ moves.filterMap (ThreadMove.move? overflowChecks)) :
    exists reads, .read who reads wanted.2 ∈ moves ∧
      readRequest overflowChecks reads = .ok wanted.1 := by
  rcases List.mem_filterMap.mp h with ⟨move, hmove, hread⟩
  cases move with
  | read other reads faults =>
      rw [ThreadMove.move?] at hread
      cases hrequest : readRequest overflowChecks reads with
      | error e =>
          rw [hrequest] at hread
          cases hread
      | ok request =>
          rw [hrequest] at hread
          cases hread
          exact ⟨reads, hmove, hrequest⟩
  | lock other => cases hread
  | write other => cases hread
  | unlock other => cases hread
  | respond other => cases hread

section

variable {thread : Type} [DecidableEq thread] (serde : SerdeJson) (config : ServerConfig)
  (overflowChecks : Bool)

abbrev ServerState (thread : Type) : Type :=
  LockState thread Registry (Request × Faults) Response FileStep (FileSystem Path)

def runThreads (s : ServerState thread) (moves : List (ThreadMove thread)) :
    Option (List (Option (thread × Response)) × ServerState thread) :=
  (lockedRegistry serde config).shared.run s
    (moves.filterMap (ThreadMove.move? overflowChecks))

/-- The threads did what the control plane does that handles their requests one
after the other. -/
structure OneByOne (registry : Registry) (files : FileSystem Path)
    (moves : List (ThreadMove thread)) (outputs : List (Option (thread × Response)))
    (s : ServerState thread) : Prop where
  /-- Every thread took the lock once at most, with the request it had read. -/
  once : (s.served.map Served.who).Nodup
  asked : forall one, one ∈ s.served -> exists reads,
    .read one.who reads one.wanted.2 ∈ moves ∧
      readRequest overflowChecks reads = .ok one.wanted.1
  /-- In the order of the lock they got these answers and left this registry; the
  files are as they will be when the one at work has written the rest. -/
  handled : (controlPlane serde config).run { memory := some registry, files := files }
      (s.served.map fun one => .handle one.wanted.1 one.wanted.2) =
    some (s.served.map fun one => some one.answer,
      { memory := some s.object
        files := performSteps (LockedObject.unfinished s) s.world })
  /-- The answers the clients received are these. -/
  answered : forall who answer, some (who, answer) ∈ outputs ->
    exists one, one ∈ s.served ∧ one.who = who ∧ one.answer = answer
  /-- A thread that answered before another one read its request comes first. -/
  realTime : forall front late reads faults back middle outputs' early answer request,
    moves = front ++ .read late reads faults :: back ->
    runThreads serde config overflowChecks (LockedObject.start registry files) front =
      some (outputs', middle) ->
    readRequest overflowChecks reads = .ok request ->
    some (early, answer) ∈ outputs' -> LockedObject.ServedBefore s early late

end

/-!
# A crash at any moment
-/

/-- Some bytes of the next operation are written. -/
def tearNext : List FileStep -> Option Nat -> FileSystem Path -> FileSystem Path
  | .whole op :: _, bytes, files => op.tear bytes files
  | _, _, files => files

/-- What is on disk if the process dies now, in the middle of an operation or
not. -/
def filesAtCrash {thread : Type} (s : ServerState thread) (bytes : Option Nat) :
    FileSystem Path :=
  tearNext (LockedObject.unfinished s) bytes s.world

theorem fileSteps_none (ops : List (FileOp Path)) :
    fileSteps ops none = ops.map .whole := by
  cases ops <;> rfl

theorem listedSteps_none (serde : SerdeJson) (config : ServerConfig)
    (registry : Registry) :
    listedSteps serde config Faults.none registry [] =
      (onChangeOps serde config registry).map .whole := by
  rw [listedSteps, onChangeOps, List.nil_append, List.map_append, Faults.none,
    fileSteps_none]
  cases renderConfig registry.snapshot with
  | error e => rfl
  | ok rendered => exact congrArg _ (fileSteps_none _)

def registerWire (length : String) (request : Request) : Bytes :=
  Bytes.ofText ("POST /register HTTP/1.0\r\nContent-Length: ".toList ++ length.toList ++
    "\r\n\r\n".toList) ++ request.body

theorem readRequest_of_oneRead {wire : Bytes} {fits : wire.length ≤ readSize}
    {request : Request} (hcomplete : isComplete true wire = .ok true)
    (hfound : findHeaderTerminator wire ≠ none)
    (hparse : parseRequest true wire = .ok request) :
    readRequest true (fun _ => .data wire fits) = .ok request := by
  have hne : wire ≠ [] := by
    intro hnil
    rw [hnil] at hfound
    exact hfound rfl
  have hloop : readLoop true (fun _ => .data wire fits) 0 [] = .ok wire := by
    rw [readLoop_of_data (by decide) rfl hne, List.nil_append, hcomplete]
  rw [readRequest, hloop]
  simp only [bind, Except.bind, if_neg hne, if_neg hfound, hparse]

def aliceReads : Stream :=
  fun _ => .data (registerWire "32" aliceRegister) (by decide +kernel)

def bobReads : Stream :=
  fun _ => .data (registerWire "30" bobRegister) (by decide +kernel)

theorem readRequest_alice : readRequest true aliceReads = .ok aliceRegister :=
  readRequest_of_oneRead (by decide +kernel) (by decide +kernel) (by decide +kernel)

theorem readRequest_bob : readRequest true bobReads = .ok bobRegister :=
  readRequest_of_oneRead (by decide +kernel) (by decide +kernel) (by decide +kernel)

def overtaking : List (ThreadMove Bool) :=
  [.read false aliceReads Faults.none, .read true bobReads Faults.none, .lock true]

def overtaken : List (ThreadMove Bool) :=
  overtaking ++ [.write true, .write true, .write true, .write true, .unlock true,
    .respond true, .lock false]

theorem move?_overtaking :
    overtaking.filterMap (ThreadMove.move? true) =
      [.arrive false (aliceRegister, Faults.none),
        .arrive true (bobRegister, Faults.none), .take true] := by
  simp only [overtaking, List.filterMap_cons, ThreadMove.move?, readRequest_alice,
    readRequest_bob, List.filterMap_nil]

theorem move?_overtaken :
    overtaken.filterMap (ThreadMove.move? true) =
      [.arrive false (aliceRegister, Faults.none),
        .arrive true (bobRegister, Faults.none), .take true, .work true, .work true,
        .work true, .work true, .release true, .answer true, .take false] := by
  rw [overtaken, List.filterMap_append, move?_overtaking]
  rfl

section

variable {object request response effect world : Type}
  {L : LockedObject object request response effect world} {wanted wanted' : request}
  {before middle after : object} {answer answer' : response} {left : List effect}

theorem run_overtaken {first second third fourth : effect}
    (hsecond : L.serve wanted' before =
      (answer', middle, [first, second, third, fourth]))
    (hfirst : L.serve wanted middle = (answer, after, left)) (state : world) :
    exists outputs s, L.shared.run (LockedObject.start before state)
        [.arrive false wanted, .arrive true wanted', .take true, .work true, .work true,
          .work true, .work true, .release true, .answer true, .take false] =
      some (outputs, s) ∧ some (true, answer') ∈ outputs ∧
      LockedObject.unfinished s = left := by
  have hrun : (L.shared.run (LockedObject.start before state)
      [.arrive false wanted, .arrive true wanted', .take true, .work true, .work true,
        .work true, .work true, .release true, .answer true, .take false]).map
          (fun s => (s.1, LockedObject.unfinished s.2)) =
      some ([none, none, none, none, none, none, none, none, some (true, answer'), none],
        left) := by
    simp [TransitionSystem.run, LockedObject.shared, LockedObject.start, hfirst, hsecond,
      LockedObject.unfinished, Stage.left]
  rcases Option.map_eq_some_iff.mp hrun with ⟨⟨outputs, s⟩, hsome, hpair⟩
  cases hpair
  exact ⟨_, s, hsome, by simp, rfl⟩

end

theorem serve_of_registers {serde : SerdeJson} (config : ServerConfig)
    {registry : Registry} {request : Request} {key : Key} {port : UInt16}
    (hregisters : request.registers serde = some key) (hkey : key.Safe)
    (hsafe : registry.AllSafe) (hok : (registry.register key).1 = .ok port) :
    exists rendered,
      (lockedRegistry serde config).serve (request, Faults.none) registry =
        (Response.json 200 "OK" (serde.registerResponse.encode ⟨port⟩),
          (registry.register key).2,
          [.whole (.write config.persistTmp ((registry.register key).2.fileContents serde)),
            .whole (.rename config.persistTmp config.persistPath),
            .whole (.write config.nginxTmp (Bytes.ofText rendered)),
            .whole (.rename config.nginxTmp config.nginxConfig)]) := by
  have hpair : registry.register key = (.ok port, (registry.register key).2) :=
    Prod.ext hok rfl
  have hrender := renderConfig_of_safe fun entry hentry =>
    (hsafe.register hkey).safe_of_mem_snapshot hentry
  have hroute := route_of_registers (listedSteps serde config Faults.none) registry []
    hregisters
  refine ⟨configText (registry.register key).2.snapshot, ?_⟩
  rw [hpair] at hroute
  refine hroute.trans ?_
  simp only [listedSteps_none, onChangeOps, hrender, writeConfigOps, String.toList_ofList]
  rfl

theorem allSafe_default : Registry.default.AllSafe :=
  Registry.AllSafe.withRange PortRange.default

/-- The second client has its answer, and the first bytes of the first one's registry
are in the temporary file. -/
def TornBehindAnswer (outputs : List (Option (Bool × Response))) (s : ServerState Bool) :
    Prop :=
  (exists answer, some (true, answer) ∈ outputs ∧ answer.status = 200) ∧
    exists contents : Bytes, filesAtCrash s (some 3) ServerConfig.default.persistTmp =
      some (contents.take 3)

theorem exists_run_overtaken :
    exists outputs s, runThreads serdeJson ServerConfig.default true
        (LockedObject.start Registry.default fun _ => none) overtaken =
      some (outputs, s) ∧ TornBehindAnswer outputs s := by
  have hport : ((Registry.default.register bobKey).2.register aliceKey).1 =
      .ok 10001 := by decide
  rcases serve_of_registers ServerConfig.default bobRegister_registers
    (by decide) allSafe_default (show _ = Except.ok (10000 : UInt16) from rfl) with ⟨rendered, hbob⟩
  rcases serve_of_registers ServerConfig.default aliceRegister_registers
    (by decide) (allSafe_default.register (show bobKey.Safe by decide)) hport with
    ⟨rendered', halice⟩
  rcases run_overtaken hbob halice fun _ => none with
    ⟨outputs, s, hrun, hanswer, hleft⟩
  refine ⟨outputs, s, ?_, ⟨_, hanswer, rfl⟩, ?_⟩
  · rw [runThreads, move?_overtaken]
    exact hrun
  · refine ⟨((Registry.default.register bobKey).2.register aliceKey).2.fileContents
      serdeJson, ?_⟩
    rw [filesAtCrash, hleft, tearNext, FileOp.tear, Function.update_self]

/-!
# One after the other
-/

section

variable {thread : Type} [DecidableEq thread] (serde : SerdeJson) (config : ServerConfig)
  (overflowChecks : Bool)

/-- Whatever the order of the threads' steps, and wherever it ends. -/
theorem one_by_one (registry : Registry) (files : FileSystem Path) {moves : List (ThreadMove thread)}
    {outputs : List (Option (thread × Response))} {s : ServerState thread}
    (hrun : runThreads serde config overflowChecks (LockedObject.start registry files)
      moves = some (outputs, s)) :
    OneByOne serde config overflowChecks registry files moves outputs s := by
  have hreached := LockedObject.linearized_run hrun
  refine ⟨hreached.once, ?_, ?_, ?_, ?_⟩
  · intro one hone
    exact exists_read_of_arrive (LockedObject.arrived_of_served hrun hone)
  · have hhandled := sequential_run serde config hreached.runs
    rw [List.map_map, List.map_map] at hhandled
    exact hhandled
  · intro who answer houtput
    exact LockedObject.exists_served_of_output hreached hrun houtput
  · intro front late reads faults back middle outputs' early answer request hmoves hfront
      hread houtput
    have harrive : ThreadMove.move? overflowChecks (.read late reads faults) =
        some (.arrive late (request, faults)) := by
      rw [ThreadMove.move?, hread]
    have hwhole := hrun
    rw [runThreads, hmoves, List.filterMap_append,
      List.filterMap_cons_some harrive] at hwhole
    rcases TransitionSystem.run_append_some _ hwhole with
      ⟨begun, middle', ended, hbegun, hended, _⟩
    have hsame := hbegun.symm.trans hfront
    cases hsame
    exact LockedObject.servedBefore_of_run (LockedObject.linearized_run hbegun) hbegun
      hended houtput

end

theorem one_by_one_overtaken :
    exists outputs s, runThreads serdeJson ServerConfig.default true
        (LockedObject.start Registry.default fun _ => none) overtaken =
      some (outputs, s) ∧ TornBehindAnswer outputs s ∧
      OneByOne serdeJson ServerConfig.default true Registry.default (fun _ => none)
        overtaken outputs s := by
  rcases exists_run_overtaken with ⟨outputs, s, hrun, htorn⟩
  exact ⟨outputs, s, hrun, htorn, one_by_one serdeJson ServerConfig.default true
    Registry.default (fun _ => none) hrun⟩

/-!
# Files at a crash
-/

section

variable {thread : Type} [DecidableEq thread] (serde : SerdeJson) (config : ServerConfig)
  (overflowChecks : Bool)

end

section

variable {thread : Type} [DecidableEq thread] (serde : SerdeJson) (config : ServerConfig)
  (overflowChecks : Bool)

end

end Bastion

end Ephemwork
