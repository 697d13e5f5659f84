import Ephemwork.Foundation.Fallible
import Ephemwork.Foundation.SharedFile
import Ephemwork.Laptop.Commands
import Ephemwork.Laptop.StateFile

/-!
# Concurrent updates of the state file

`record_session` and `forget_sessions` of several processes on one laptop.  Each
loads the state file, changes the sessions in memory and saves them through the
sibling file `state.json.tmp`, without a lock.
-/

namespace Ephemwork

open Foundation
open Bastion (Codec)

namespace Laptop

/-- What a process does to the sessions it loaded. -/
inductive SessionUpdate where
  | record (session : Session)
  | forget (pred : Session -> Bool)

def SessionUpdate.apply : SessionUpdate -> State -> List Session × State
  | .record session, state => ([], state.upsert session)
  | .forget pred, state => state.removeWhere pred

/-!
The commands apply these updates to the state they load.
-/

theorem recordSession_applies {env : UpEnvironment} {session : Session}
    {state : State} (h : recordSession env session = .ok state) :
    state = ((SessionUpdate.record session).apply env.stateAtRecord).2 := by
  simp only [recordSession, bind_eq_ok_iff] at h
  rcases h with ⟨_, _, _, _, _, _, hstate⟩
  cases hstate
  rfl

theorem forgetSessions_applies {env : DownEnvironment}
    {pred : Session -> Bool} {result : List Session × State}
    (h : forgetSessions env pred = .ok result) :
    result = (SessionUpdate.forget pred).apply env.stateAtForget := by
  simp only [forgetSessions, bind_eq_ok_iff] at h
  rcases h with ⟨_, _, _, _, hresult⟩
  cases hresult
  rfl

section

variable {process : Type}

def sessionUpdates (json : Codec String State) (path : Path)
    (updates : process -> SessionUpdate) :
    FileUpdates Path process State (List Session) String where
  target := path
  temporary := State.temporary path
  load := State.load json
  encode := State.fileContents json
  update := fun p => (updates p).apply
  notFound := "No such file or directory"

theorem sessionUpdates_faithful {json : Codec String State}
    (hjson : StateRoundTrip json) (path : Path)
    (updates : process -> SessionUpdate) :
    (sessionUpdates json path updates).Faithful :=
  fun state => State.load_fileContents hjson state

variable [DecidableEq process]

/-- Where each rename finds the sibling file as its process wrote it, and the
state file with sessions for which that is the process's update, no session
update is lost and no process fails because of another. -/
theorem session_updates_serializable {json : Codec String State}
    (hjson : StateRoundTrip json) (path : Path)
    (updates : process -> SessionUpdate) {files : FileSystem Path}
    {schedule : List process} {outputs : List Unit}
    {t : UpdateState Path process State (List Session) String}
    (hrun : (sessionUpdates json path updates).system.run
      (FileUpdates.start files) schedule = some (outputs, t))
    (hown : (sessionUpdates json path updates).system.Along
      (sessionUpdates json path updates).PublishesOwn
      (FileUpdates.start files) schedule) :
    (sessionUpdates json path updates).Serializable files t :=
  FileUpdates.serializable_of_publishesOwn
    (sessionUpdates_faithful hjson path updates) (State.temporary_ne path) hrun
    hown

theorem serializable_of_undisturbed {json : Codec String State}
    (hjson : StateRoundTrip json) (path : Path)
    (updates : process -> SessionUpdate) {files : FileSystem Path}
    {schedule : List process} {outputs : List Unit}
    {t : UpdateState Path process State (List Session) String}
    (hrun : (sessionUpdates json path updates).system.run
      (FileUpdates.start files) schedule = some (outputs, t))
    (hclear : (sessionUpdates json path updates).system.Along
      FileUpdates.Undisturbed
      (FileUpdates.start files) schedule) :
    (sessionUpdates json path updates).Serializable files t :=
  FileUpdates.serializable_of_publishesOwn
    (sessionUpdates_faithful hjson path updates) (State.temporary_ne path) hrun
    (FileUpdates.publishesOwn_of_undisturbed (State.temporary_ne path) hclear)

end

/-!
# Two commands at once
-/

def apiSession : Session where
  user := "alice"
  service := "api"
  startedAt := 0
  localPort := 8000
  remotePort := 10000
  pid := some 4242
  forwardLocalPorts := []

def workerSession : Session where
  user := "alice"
  service := "engine-worker"
  startedAt := 0
  localPort := 0
  remotePort := 0
  pid := some 4243
  forwardLocalPorts := [5432]

inductive Terminal where
  | api
  | worker
deriving DecidableEq, Repr

def Terminal.update : Terminal -> SessionUpdate
  | api => .record apiSession
  | worker => .record workerSession

def statePath : Path where
  directory := ["home", "alice", ".ephemwork"]
  fileName := "state.json"

def terminalUpdates : FileUpdates Path Terminal State (List Session) String :=
  sessionUpdates StateCodec.codec statePath Terminal.update

theorem terminalUpdates_faithful : terminalUpdates.Faithful :=
  sessionUpdates_faithful StateCodec.codec_roundTrip statePath Terminal.update

def bothForget (_ : Terminal) : SessionUpdate :=
  .forget fun session => session.service == "engine-worker"

def recordedFiles : FileSystem Path :=
  Function.update (fun _ => none) statePath
    (some (State.fileContents StateCodec.codec ⟨[apiSession, workerSession]⟩))

theorem load_recordedFiles :
    State.load StateCodec.codec (recordedFiles statePath) =
      .ok ⟨[apiSession, workerSession]⟩ := by
  rw [recordedFiles, Function.update_self]
  exact State.load_fileContents StateCodec.codec_roundTrip _

/-- Both load the file, then one of them saves it, then the other does: the session is
taken out of it twice, which is as good as once. -/
theorem run_bothForget {files : FileSystem Path}
    (hload : State.load StateCodec.codec (files statePath) =
      .ok ⟨[apiSession, workerSession]⟩) :
    exists outputs t,
      (sessionUpdates StateCodec.codec statePath bothForget).system.run
          (FileUpdates.start files)
          (.worker :: FileUpdates.alone .api ++ [.worker, .worker, .worker]) =
        some (outputs, t) ∧
      (forall p, exists answer, t.phase p = .done answer) ∧
      (sessionUpdates StateCodec.codec statePath bothForget).system.Along
        (sessionUpdates StateCodec.codec statePath bothForget).PublishesOwn
        (FileUpdates.start files)
        (.worker :: FileUpdates.alone .api ++ [.worker, .worker, .worker]) := by
  have hne : Terminal.worker ≠ .api := by decide
  have hfaithful :=
    sessionUpdates_faithful StateCodec.codec_roundTrip statePath bothForget
  have hsame : ((bothForget .worker).apply
      ((bothForget .api).apply ⟨[apiSession, workerSession]⟩).2).2 =
        ((bothForget .worker).apply ⟨[apiSession, workerSession]⟩).2 := by decide
  rcases @FileUpdates.run_overlapping Path Terminal State (List Session) String
    (sessionUpdates StateCodec.codec statePath bothForget) _ _ hfaithful
    (State.temporary_ne statePath) (FileUpdates.start files) .api .worker hne rfl rfl
    ⟨[apiSession, workerSession]⟩ hload hsame with
      ⟨outputs, t, hrun, hapi, hworker, hown⟩
  refine ⟨outputs, t, hrun, ?_, hown⟩
  intro p
  cases p with
  | api => exact hapi
  | worker => exact hworker

theorem session_updates_serializable_overlapping :
    exists outputs t,
      (sessionUpdates StateCodec.codec statePath bothForget).system.run
          (FileUpdates.start recordedFiles)
          (.worker :: FileUpdates.alone .api ++ [.worker, .worker, .worker]) =
        some (outputs, t) ∧
      (forall p, exists answer, t.phase p = .done answer) ∧
      (sessionUpdates StateCodec.codec statePath bothForget).Serializable
        recordedFiles t := by
  rcases run_bothForget load_recordedFiles with ⟨outputs, t, hrun, hdone, hown⟩
  exact ⟨outputs, t, hrun, hdone, session_updates_serializable
    StateCodec.codec_roundTrip statePath bothForget hrun hown⟩

def lostUpdate : List Terminal :=
  [.api, .worker, .api, .api, .api, .worker, .worker, .worker]

def lostTemporary : List Terminal :=
  [.api, .worker, .api, .worker, .api, .worker, .api, .worker]

theorem exists_both_sessions {order : List Terminal} (hnodup : order.Nodup)
    (hall : forall p, p ∈ order) :
    exists state, order.foldl terminalUpdates.after none =
        some (terminalUpdates.encode state) ∧
      state.sessions.length = 2 := by
  have hempty : terminalUpdates.load none = .ok State.default := rfl
  have hsecond : forall p q, terminalUpdates.after
      (terminalUpdates.after none p) q =
      some (terminalUpdates.encode (terminalUpdates.update q
        (terminalUpdates.update p State.default).2).2) := by
    intro p q
    rw [FileUpdates.after_of_ok hempty p,
      FileUpdates.after_of_ok (terminalUpdates_faithful _) q]
  match order, hnodup, hall with
  | [], _, hall => exact absurd (hall .api) List.not_mem_nil
  | [.api], _, hall => exact absurd (hall .worker) (by decide)
  | [.worker], _, hall => exact absurd (hall .api) (by decide)
  | [.api, .worker], _, _ =>
      refine ⟨⟨[apiSession, workerSession]⟩, ?_, rfl⟩
      rw [List.foldl_cons, List.foldl_cons, List.foldl_nil, hsecond]
      exact congrArg (fun state => some (terminalUpdates.encode state)) rfl
  | [.worker, .api], _, _ =>
      refine ⟨⟨[workerSession, apiSession]⟩, ?_, rfl⟩
      rw [List.foldl_cons, List.foldl_cons, List.foldl_nil, hsecond]
      exact congrArg (fun state => some (terminalUpdates.encode state)) rfl
  | [.api, .api], hnodup, _ => simp at hnodup
  | [.worker, .worker], hnodup, _ => simp at hnodup
  | p :: q :: r :: rest, hnodup, _ =>
      cases p <;> cases q <;> cases r <;> simp at hnodup

theorem not_serializable_of_one
    {t : UpdateState Path Terminal State (List Session) String} {state : State}
    (hdone : forall p, exists answer, t.phase p = .done answer)
    (htarget : t.files terminalUpdates.target =
      some (terminalUpdates.encode state))
    (hone : state.sessions.length = 1) :
    ¬ terminalUpdates.Serializable (fun _ => none) t := by
  intro hserializable
  have hempty : terminalUpdates.load none = .ok State.default := rfl
  rcases hserializable.exists_foldl terminalUpdates_faithful
    (State.temporary_ne statePath) hdone hempty with
    ⟨order, hnodup, hall, hserial⟩
  rcases exists_both_sessions hnodup hall with ⟨both, hboth, htwo⟩
  have hsame : some (terminalUpdates.encode state) =
      some (terminalUpdates.encode both) := by
    rw [← htarget, hserial, ← hboth]
  have hload := congrArg terminalUpdates.load hsame
  rw [terminalUpdates_faithful state, terminalUpdates_faithful both] at hload
  rw [Except.ok.inj hload, htwo] at hone
  revert hone
  decide

theorem lostUpdate_run :
    exists outputs t,
      terminalUpdates.system.run (FileUpdates.start fun _ => none) lostUpdate =
        some (outputs, t) ∧
      (forall p, exists answer, t.phase p = .done answer) ∧
      t.files terminalUpdates.target =
        some (terminalUpdates.encode ⟨[workerSession]⟩) := by
  refine ⟨_, _, rfl, ?_, rfl⟩
  intro p
  cases p with
  | api => exact ⟨[], rfl⟩
  | worker => exact ⟨[], rfl⟩

/-- Two `up`s that record their sessions at once: one session is lost, or one of
them fails because the other has renamed the sibling file. -/
theorem concurrent_ups_not_serializable :
    (exists outputs t,
      terminalUpdates.system.run (FileUpdates.start fun _ => none) lostUpdate =
        some (outputs, t) ∧
      (forall p, exists answer, t.phase p = .done answer) ∧
      ¬ terminalUpdates.Serializable (fun _ => none) t) ∧
    (exists outputs t,
      terminalUpdates.system.run (FileUpdates.start fun _ => none)
        lostTemporary = some (outputs, t) ∧
      t.phase .worker = .failed "No such file or directory" ∧
      ¬ terminalUpdates.Serializable (fun _ => none) t) := by
  constructor
  · rcases lostUpdate_run with ⟨outputs, t, hrun, hdone, htarget⟩
    exact ⟨outputs, t, hrun, hdone, not_serializable_of_one hdone htarget rfl⟩
  · refine ⟨_, _, rfl, rfl, ?_⟩
    intro hserializable
    rcases hserializable.left .worker _ rfl with ⟨outputs, u, hrun, hfailed⟩
    cases hrun
    cases hfailed

end Laptop

end Ephemwork
