import Ephemwork.Foundation.TransitionSystem
import Ephemwork.Laptop.CommandResults

/-!
# The state file and the running sessions

One laptop, on which `up`, Ctrl-C and `down` follow each other.  `up` records
its session in the state file; Ctrl-C ends the session and leaves its record,
`down` removes the record and leaves the session.
-/

namespace Ephemwork

open Foundation
open Bastion (SerdeJson serdeJson)

namespace Laptop

/-!
# States
-/

/-- An `up` that returned its session and waits for Ctrl-C. -/
structure RunningUp where
  active : ActiveSession
  startedAt : Int
  /-- A later `up` of its user and service returned a session. -/
  superseded : Bool
deriving DecidableEq, Repr

def RunningUp.session (up : RunningUp) : Session :=
  up.active.record up.startedAt

def RunningUp.supersededBy (active : ActiveSession) (up : RunningUp) :
    RunningUp where
  active := up.active
  startedAt := up.startedAt
  superseded := up.superseded ||
    (up.active.user == active.user && up.active.service == active.service)

structure LaptopState (world : Type) where
  file : State
  running : List RunningUp
  bastion : world

def LaptopState.fresh {world : Type} (bastion : world) : LaptopState world where
  file := State.default
  running := []
  bastion := bastion

/-!
# Commands
-/

inductive LaptopAction where
  | up (request : UpRequest) (context : BastionContext) (env : UpEnvironment)
  /-- Ctrl-C of the `up` whose service has the process id. -/
  | shutdown (pid : UInt32)
  | down (service : Option String) (env : DownEnvironment)

inductive LaptopOutput where
  | up (result : Except UpError ActiveSession)
  | shutdown
  | down (result : Except DownError (List Session))

section

variable {world : Type}

/-- The command reads the laptop's state file.  The new service is given the id
of no running process, and the services of the running sessions are alive. -/
def UpEnvironment.Sees (env : UpEnvironment) (s : LaptopState world) : Prop :=
  env.state = s.file ∧ env.stateAtRecord = s.file ∧ env.pid ≠ 0 ∧
    forall up, up ∈ s.running ->
      up.active.pid ≠ env.pid ∧ env.alive up.active.pid = true

instance (env : UpEnvironment) (s : LaptopState world) :
    Decidable (env.Sees s) :=
  inferInstanceAs (Decidable (_ ∧ _ ∧ _ ∧ _))

def DownEnvironment.Sees (env : DownEnvironment) (s : LaptopState world) :
    Prop :=
  env.state = s.file ∧ env.stateAtForget = s.file

instance (env : DownEnvironment) (s : LaptopState world) :
    Decidable (env.Sees s) :=
  inferInstanceAs (Decidable (_ ∧ _))

variable (serde : SerdeJson)
  (exchange : world -> BastionEndpoint -> Bytes -> Except String Bytes × world)

def LaptopState.up (s : LaptopState world) (request : UpRequest)
    (context : BastionContext) (env : UpEnvironment) :
    LaptopOutput × LaptopState world :=
  match upService env serde exchange request context s.bastion with
  | (.error e, after) => (.up (.error e), { s with bastion := after })
  | (.ok (active, file), after) =>
      (.up (.ok active),
        { file := file
          running := s.running.map (RunningUp.supersededBy active) ++
            [{ active := active, startedAt := env.now, superseded := false }]
          bastion := after })

/-- The record is not touched. -/
def LaptopState.shutdown (s : LaptopState world) (up : RunningUp) :
    LaptopState world :=
  { s with
    running := s.running.filter fun other => other.active.pid != up.active.pid
    bastion := up.active.shutdown serde exchange s.bastion }

/-- The running sessions are not touched. -/
def LaptopState.down (s : LaptopState world) (service : Option String)
    (env : DownEnvironment) : LaptopOutput × LaptopState world :=
  match downService env serde exchange service s.bastion with
  | (.error e, after) => (.down (.error e), { s with bastion := after })
  | (.ok (removed, file), after) =>
      (.down (.ok removed), { s with file := file, bastion := after })

def laptopSystem :
    TransitionSystem (LaptopState world) LaptopAction LaptopOutput where
  step := fun s action =>
    match action with
    | .up request context env =>
        if env.Sees s then
          some (s.up serde exchange request context env)
        else
          none
    | .shutdown pid =>
        (s.running.find? fun up => up.active.pid == pid).map fun up =>
          (.shutdown, s.shutdown serde exchange up)
    | .down service env =>
        if env.Sees s then
          some (s.down serde exchange service env)
        else
          none

/-!
# The file after each command
-/

/-- Every listed session belongs to a running `up`, every running `up` that was
not superseded is listed, and no `up` is refused because of an owner whose
process is gone. -/
def FileIsExact (_ : LaptopState world) (_ : LaptopAction)
    (output : LaptopOutput) (after : LaptopState world) : Prop :=
  (forall session, session ∈ after.file.sessions ->
    exists up, up ∈ after.running ∧ up.session = session) ∧
  (forall up, up ∈ after.running -> up.superseded = false ->
    up.session ∈ after.file.sessions) ∧
  forall localPort owner pid,
    output ≠ .up (.error (.staleForward localPort owner pid))

/-- Ctrl-C ends superseded sessions only, and no `down` that completes finds a
session to remove. -/
def KeepsRecords (before : LaptopState world) (action : LaptopAction)
    (_ : LaptopOutput) (_ : LaptopState world) : Prop :=
  match action with
  | .up _ _ _ => True
  | .shutdown pid => forall up, up ∈ before.running ->
      up.active.pid = pid -> up.superseded = true
  | .down service env =>
      downCandidates before.file env.user service = [] ∨ ¬ env.Completes

end

/-!
# What each command keeps
-/

section

variable {world : Type}

/-- The file lists the running sessions that were not superseded and no
others. -/
structure LaptopState.Exact (s : LaptopState world) : Prop where
  owned : forall session, session ∈ s.file.sessions ->
    exists up, up ∈ s.running ∧ up.superseded = false ∧ up.session = session
  listed : forall up, up ∈ s.running -> up.superseded = false ->
    up.session ∈ s.file.sessions
  distinct : (s.running.map fun up => up.active.pid).Nodup
  pid_ne_zero : forall up, up ∈ s.running -> up.active.pid ≠ 0

theorem LaptopState.exact_fresh (bastion : world) :
    (LaptopState.fresh bastion).Exact where
  owned := by
    intro session hmem
    cases hmem
  listed := by
    intro up hmem
    cases hmem
  distinct := List.nodup_nil
  pid_ne_zero := by
    intro up hmem
    cases hmem

theorem RunningUp.supersededBy_eq_false {active : ActiveSession}
    {up : RunningUp} (h : (up.supersededBy active).superseded = false) :
    up.superseded = false ∧
      ¬ (up.active.user = active.user ∧ up.active.service = active.service) := by
  simpa [RunningUp.supersededBy] using h

theorem RunningUp.supersededBy_of_ne {active : ActiveSession} {up : RunningUp}
    (hfirst : up.superseded = false)
    (hne : ¬ (up.active.user = active.user ∧
      up.active.service = active.service)) :
    (up.supersededBy active).superseded = false := by
  simpa [RunningUp.supersededBy] using And.intro hfirst hne

namespace LaptopState.Exact

variable {s : LaptopState world} (h : s.Exact)

include h

theorem eq_of_pid_eq {up other : RunningUp} (hup : up ∈ s.running)
    (hother : other ∈ s.running) (hpid : up.active.pid = other.active.pid) :
    up = other :=
  List.inj_on_of_nodup_map h.distinct hup hother hpid

theorem ownersAlive {env : UpEnvironment} (hsees : env.Sees s) :
    OwnersAlive env env.state := by
  rcases hsees with ⟨hstate, _, _, hrunning⟩
  intro session hmem
  rw [hstate] at hmem
  rcases h.owned session hmem with ⟨up, hup, _, rfl⟩
  exact ⟨h.pid_ne_zero up hup, (hrunning up hup).right⟩

theorem fileIsExact {before : LaptopState world} {action : LaptopAction}
    {output : LaptopOutput}
    (houtput : forall localPort owner pid,
      output ≠ .up (.error (.staleForward localPort owner pid))) :
    FileIsExact before action output s := by
  refine ⟨?_, h.listed, houtput⟩
  intro session hmem
  rcases h.owned session hmem with ⟨up, hup, _, hsession⟩
  exact ⟨up, hup, hsession⟩

theorem upsert {active : ActiveSession} (startedAt : Int) (bastion : world)
    (hpid : active.pid ≠ 0)
    (hnew : forall up, up ∈ s.running -> up.active.pid ≠ active.pid) :
    LaptopState.Exact
      { file := s.file.upsert (active.record startedAt)
        running := s.running.map (RunningUp.supersededBy active) ++
          [{ active := active, startedAt := startedAt, superseded := false }]
        bastion := bastion } where
  owned := by
    intro session hmem
    rcases State.mem_upsert_iff.mp hmem with ⟨hold, hne⟩ | rfl
    · rcases h.owned session hold with ⟨up, hup, hfirst, rfl⟩
      exact ⟨up.supersededBy active, by simp [List.mem_map_of_mem hup],
        RunningUp.supersededBy_of_ne hfirst hne, rfl⟩
    · exact ⟨_, List.mem_append_right _ List.mem_cons_self, rfl, rfl⟩
  listed := by
    intro up hmem hfirst
    apply State.mem_upsert_iff.mpr
    rcases List.mem_append.mp hmem with hold | hlast
    · rcases List.mem_map.mp hold with ⟨other, hother, rfl⟩
      rcases RunningUp.supersededBy_eq_false hfirst with ⟨hbefore, hne⟩
      exact Or.inl ⟨h.listed other hother hbefore, hne⟩
    · rw [List.mem_singleton.mp hlast]
      exact Or.inr rfl
  distinct := by
    have hpids : (s.running.map (RunningUp.supersededBy active)).map
        (fun up => up.active.pid) = s.running.map fun up => up.active.pid := by
      rw [List.map_map]
      rfl
    rw [List.map_append, hpids, List.map_singleton, ← List.concat_eq_append]
    refine List.Nodup.concat ?_ h.distinct
    intro hmem
    rcases List.mem_map.mp hmem with ⟨up, hup, heq⟩
    exact hnew up hup heq
  pid_ne_zero := by
    intro up hmem
    rcases List.mem_append.mp hmem with hold | hlast
    · rcases List.mem_map.mp hold with ⟨other, hother, rfl⟩
      exact h.pid_ne_zero other hother
    · rw [List.mem_singleton.mp hlast]
      exact hpid

theorem drop_superseded {up : RunningUp} (hup : up ∈ s.running)
    (hsuperseded : up.superseded = true) (bastion : world) :
    LaptopState.Exact
      { s with
        running := s.running.filter fun other =>
          other.active.pid != up.active.pid
        bastion := bastion } where
  owned := by
    intro session hmem
    rcases h.owned session hmem with ⟨other, hother, hfirst, rfl⟩
    refine ⟨other, List.mem_filter.mpr ⟨hother, bne_iff_ne.mpr ?_⟩, hfirst, rfl⟩
    intro hpid
    rw [h.eq_of_pid_eq hother hup hpid, hsuperseded] at hfirst
    cases hfirst
  listed := by
    intro other hmem hfirst
    exact h.listed other (List.mem_filter.mp hmem).left hfirst
  distinct := h.distinct.sublist (List.filter_sublist.map _)
  pid_ne_zero := by
    intro other hmem
    exact h.pid_ne_zero other (List.mem_filter.mp hmem).left

theorem not_owned_of_drop {up : RunningUp} (hup : up ∈ s.running)
    (hfirst : up.superseded = false) :
    up.session ∈ s.file.sessions ∧
      ¬ exists other, other ∈ (s.running.filter fun other =>
        other.active.pid != up.active.pid) ∧ other.session = up.session := by
  refine ⟨h.listed up hup hfirst, ?_⟩
  intro howned
  rcases howned with ⟨other, hother, hsession⟩
  have hpid := congrArg Session.pid hsession
  exact bne_iff_ne.mp (List.mem_filter.mp hother).right (Option.some.inj hpid)

theorem not_listed_of_remove {pred : Session -> Bool} {session : Session}
    (hmem : session ∈ s.file.sessions) (hpred : pred session = true) :
    exists up, up ∈ s.running ∧ up.superseded = false ∧
      up.session ∉ (s.file.removeWhere pred).2.sessions := by
  rcases h.owned session hmem with ⟨up, hup, hfirst, rfl⟩
  refine ⟨up, hup, hfirst, ?_⟩
  intro hkept
  rw [(State.mem_removeWhere_iff.mp hkept).right] at hpred
  cases hpred

theorem with_bastion (bastion : world) :
    LaptopState.Exact { s with bastion := bastion } where
  owned := h.owned
  listed := h.listed
  distinct := h.distinct
  pid_ne_zero := h.pid_ne_zero

end LaptopState.Exact

end

/-!
# Steps and runs
-/

section

variable {world : Type} {serde : SerdeJson}
  {exchange : world -> BastionEndpoint -> Bytes -> Except String Bytes × world}
  {s : LaptopState world} (h : s.Exact)

include h

theorem up_keeps {request : UpRequest} {context : BastionContext}
    {env : UpEnvironment} (hsees : env.Sees s) {output : LaptopOutput}
    {after : LaptopState world}
    (hup : s.up serde exchange request context env = (output, after))
    (action : LaptopAction) :
    FileIsExact s action output after ∧ after.Exact := by
  have havoids := avoids_upService (h.ownersAlive hsees) serde exchange request
    context s.bastion
  unfold LaptopState.up at hup
  rcases hcall : upService env serde exchange request context s.bastion with
    ⟨result, bastion⟩
  rw [hcall] at hup havoids
  cases result with
  | error e =>
      cases hup
      refine ⟨(h.with_bastion bastion).fileIsExact ?_, h.with_bastion bastion⟩
      intro localPort owner pid heq
      cases heq
      exact havoids _ rfl ⟨localPort, owner, pid, rfl⟩
  | ok opened =>
      rcases opened with ⟨active, file⟩
      cases hup
      have hstarted := upService_started hcall
      have hpid := hstarted.pid_eq
      have hfile := hstarted.file_eq
      rcases hsees with ⟨_, hstate, hzero, hrunning⟩
      rw [hstate] at hfile
      rw [hfile]
      have hexact := h.upsert env.now bastion (hpid ▸ hzero)
        (fun up hup => hpid ▸ (hrunning up hup).left)
      refine ⟨hexact.fileIsExact ?_, hexact⟩
      intro localPort owner pid heq
      cases heq

theorem shutdown_keeps_iff {up : RunningUp} (hup : up ∈ s.running)
    (action : LaptopAction) :
    (FileIsExact s action .shutdown (s.shutdown serde exchange up) <->
      up.superseded = true) ∧
    (up.superseded = true -> (s.shutdown serde exchange up).Exact) := by
  cases hsuperseded : up.superseded with
  | true =>
      have hexact := h.drop_superseded hup hsuperseded
        (up.active.shutdown serde exchange s.bastion)
      refine ⟨iff_of_true (hexact.fileIsExact ?_) rfl, fun _ => hexact⟩
      intro localPort owner pid heq
      cases heq
  | false =>
      rcases h.not_owned_of_drop hup hsuperseded with ⟨hlisted, hnot⟩
      refine ⟨iff_of_false ?_ Bool.false_ne_true, fun heq => by cases heq⟩
      intro hexact
      exact hnot (hexact.left up.session hlisted)

theorem down_keeps_iff {service : Option String} {env : DownEnvironment}
    (hsees : env.Sees s) {output : LaptopOutput} {after : LaptopState world}
    (hdown : s.down serde exchange service env = (output, after))
    (action : LaptopAction) :
    (FileIsExact s action output after <->
      downCandidates s.file env.user service = [] ∨ ¬ env.Completes) ∧
    (downCandidates s.file env.user service = [] ∨ ¬ env.Completes ->
      after.Exact) := by
  rcases hsees with ⟨hstate, hforget⟩
  unfold LaptopState.down at hdown
  by_cases hkeeps : downCandidates s.file env.user service = [] ∨
      ¬ env.Completes
  · have hexact : after.Exact := by
      rcases hcall : downService env serde exchange service s.bastion with
        ⟨result, bastion⟩
      rw [hcall] at hdown
      rcases result with e | ⟨removed, file⟩
      · cases hdown
        exact h.with_bastion bastion
      · rw [← hstate] at hkeeps
        have hfile := downService_keeps hkeeps hcall
        rw [hstate] at hfile
        cases hdown
        rw [hfile]
        exact h.with_bastion bastion
    refine ⟨iff_of_true (hexact.fileIsExact ?_) hkeeps, fun _ => hexact⟩
    intro localPort owner pid heq
    rw [heq] at hdown
    split at hdown <;> cases hdown
  · rcases not_or.mp hkeeps with ⟨hfound, hcompletes⟩
    rw [not_not] at hcompletes
    rw [← hstate] at hfound
    rcases downService_of_completes serde exchange hcompletes hfound s.bastion
      with ⟨bastion, hcall⟩
    rw [hcall, hforget] at hdown
    refine ⟨iff_of_false ?_ hkeeps, fun hcontra => absurd hcontra hkeeps⟩
    cases hdown
    intro hexact
    rcases List.exists_mem_of_ne_nil _ hfound with ⟨session, hsession⟩
    rw [hstate] at hsession
    rcases (mem_downCandidates_iff _ _ _ _).mp hsession with ⟨hmem, hpred⟩
    rcases h.not_listed_of_remove hmem hpred with ⟨up, hup, hfirst, hnot⟩
    exact hnot (hexact.right.left up hup hfirst)

end

section

variable {world : Type} (serde : SerdeJson)
  (exchange : world -> BastionEndpoint -> Bytes -> Except String Bytes × world)

/-- One command: the file stays exact if and only if the command keeps the
records, and then the invariant is kept. -/
theorem fileIsExact_step {s t : LaptopState world} {action : LaptopAction}
    {output : LaptopOutput} (h : s.Exact)
    (hstep : (laptopSystem serde exchange).step s action = some (output, t)) :
    (FileIsExact s action output t <-> KeepsRecords s action output t) ∧
      (KeepsRecords s action output t -> t.Exact) := by
  cases action with
  | up request context env =>
      simp only [laptopSystem] at hstep
      split at hstep
      · next hsees =>
          have hkeeps := up_keeps h hsees (Option.some.inj hstep)
            (.up request context env)
          exact ⟨iff_of_true hkeeps.left trivial, fun _ => hkeeps.right⟩
      · cases hstep
  | shutdown pid =>
      simp only [laptopSystem, Option.map_eq_some_iff] at hstep
      rcases hstep with ⟨up, hfind, hstep⟩
      cases hstep
      have hup := List.mem_of_find?_eq_some hfind
      have htest := List.find?_some hfind
      have hpid : up.active.pid = pid := beq_iff_eq.mp htest
      have hsuperseded : KeepsRecords s (.shutdown pid) .shutdown
          (s.shutdown serde exchange up) <-> up.superseded = true := by
        constructor
        · intro hkeeps
          exact hkeeps up hup hpid
        · intro hsuperseded other hother hsame
          rw [h.eq_of_pid_eq hother hup (hsame.trans hpid.symm)]
          exact hsuperseded
      rw [hsuperseded]
      exact shutdown_keeps_iff h hup (.shutdown pid)
  | down service env =>
      simp only [laptopSystem] at hstep
      split at hstep
      · next hsees =>
          exact down_keeps_iff h hsees (Option.some.inj hstep)
            (.down service env)
      · cases hstep

/-- From a laptop without sessions, the state file lists exactly the live
sessions after every command of a sequence if and only if no session that was
not superseded is ended with Ctrl-C, and no `down` that completes finds a
session. -/
theorem state_file_exact_iff (bastion : world)
    (actions : List LaptopAction) :
    (laptopSystem serde exchange).Along FileIsExact
        (LaptopState.fresh bastion) actions <->
      (laptopSystem serde exchange).Along KeepsRecords
        (LaptopState.fresh bastion) actions := by
  have hallowed : forall action, action ∈ actions -> True :=
    fun _ _ => trivial
  exact TransitionSystem.along_iff _
    (fun _ _ _ _ h _ hstep => (fileIsExact_step serde exchange h hstep).right)
    (fun _ _ _ _ h _ hstep => (fileIsExact_step serde exchange h hstep).left)
    (LaptopState.exact_fresh bastion) hallowed

end

/-!
# Ctrl-C and `up` again
-/

def engineWorker : UpRequest where
  user := "alice"
  service := "engine-worker"
  region := "us-east-1"
  localServicePort := none
  runCommand := "python -m engine"
  healthCheckPath := none
  forwardPorts := ["5432:db.internal:5432"]
  bootstrapCommand := none

def workerEnvironment (state : State) (alive : UInt32 -> Bool) (pid : UInt32) :
    UpEnvironment where
  failure := fun _ => none
  bastion := some "i-0123456789abcdef0"
  controlPlanePort := 40000
  sshPort := 40001
  state := state
  stateAtRecord := state
  alive := alive
  pid := pid
  now := 0

def engineSession : ActiveSession where
  user := "alice"
  service := "engine-worker"
  localPort := none
  remotePort := none
  pid := 4242
  forwardPorts := [5432]
  controlPlane := none

def workerState : State where
  sessions := [engineSession.record 0]

def restartWorker : List LaptopAction :=
  [.up engineWorker ⟨"demo"⟩
      (workerEnvironment State.default (fun _ => false) 4242),
    .shutdown 4242,
    .up engineWorker ⟨"demo"⟩
      (workerEnvironment workerState (fun _ => false) 4243)]

def unreachable (_ : Unit) (_ : BastionEndpoint) (_ : Bytes) :
    Except String Bytes × Unit :=
  (.error "connection refused", ())

/-- The record that Ctrl-C leaves behind belongs to no running session, and the
next `up` is refused because of it. -/
theorem shutdown_leaves_record :
    ¬ (laptopSystem serdeJson unreachable).Along FileIsExact
        (LaptopState.fresh ()) restartWorker ∧
      ((laptopSystem serdeJson unreachable).run (LaptopState.fresh ())
        restartWorker).map Prod.fst =
        some [.up (.ok engineSession), .shutdown,
          .up (.error
            (.staleForward 5432 "engine-worker" (some 4242)))] := by
  refine ⟨?_, rfl⟩
  intro h
  rcases h _ _ rfl with ⟨_, hrest⟩
  rcases hrest _ _ rfl with ⟨hshutdown, _⟩
  rcases hshutdown.left (engineSession.record 0) List.mem_cons_self with
    ⟨up, hup, _⟩
  exact List.not_mem_nil hup

end Laptop

end Ephemwork
