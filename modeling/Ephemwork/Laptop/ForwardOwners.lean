import Ephemwork.Laptop.ForwardLoops
import Ephemwork.Laptop.SessionFile

/-!
# The recorded owners of forwards

One user's `up`s, each completed before the next one starts and all still running.
Who owns a forward is decided from the state file, and the record of a new session
takes the place of an earlier one of its service.
-/

namespace Ephemwork

open Foundation
open Bastion (SerdeJson serdeJson)

namespace Laptop

/-!
# Recorded ports
-/

section Counting

variable {item port : Type} [DecidableEq port] {ports : item -> List port} {p : port}

theorem count_flatMap_filter (ports : item -> List port) (p : port)
    (test : item -> Bool) (items : List item) :
    (items.flatMap ports).count p =
      ((items.filter test).flatMap ports).count p +
        ((items.filter fun x => !test x).flatMap ports).count p := by
  have hperm := (List.filter_append_perm test items).flatMap_right ports
  rw [← hperm.count_eq, List.flatMap_append, List.count_append]

theorem count_flatMap_eq_one_iff (items : List item) :
    (items.flatMap ports).count p = 1 <->
      exists x, (items.filter fun y => (ports y).contains p) = [x] ∧
        (ports x).count p = 1 := by
  induction items with
  | nil => simp
  | cons x rest ih =>
      rw [List.flatMap_cons, List.count_append]
      by_cases hmem : p ∈ ports x
      · have hfilter : ((x :: rest).filter fun y => (ports y).contains p) =
            x :: rest.filter fun y => (ports y).contains p := by
          simp [hmem]
        have hpos : 0 < (ports x).count p := List.count_pos_iff.mpr hmem
        have hnone : (rest.flatMap ports).count p = 0 <->
            (rest.filter fun y => (ports y).contains p) = [] := by
          simp [List.count_eq_zero, List.filter_eq_nil_iff]
        rw [hfilter]
        constructor
        · intro h
          refine ⟨x, ?_, by omega⟩
          rw [hnone.mp (by omega)]
        · intro h
          rcases h with ⟨y, hone, hcount⟩
          rcases List.cons.inj hone with ⟨rfl, hrest⟩
          rw [hnone.mpr hrest, hcount]
      · have hfilter : ((x :: rest).filter fun y => (ports y).contains p) =
            rest.filter fun y => (ports y).contains p := by
          simp [hmem]
        rw [hfilter, List.count_eq_zero_of_not_mem hmem, Nat.zero_add]
        exact ih

end Counting

namespace State

variable (state : State) (user : String)

def recordedPorts : List UInt16 :=
  (state.forUser user).flatMap Session.forwardLocalPorts

def replacedPorts (service : String) : List UInt16 :=
  ((state.forUser user).filter fun session => session.service == service).flatMap
    Session.forwardLocalPorts

def RecordsOnce (port : UInt16) : Prop :=
  exists owner,
    (state.sessions.filter fun session =>
      session.user == user && session.forwardLocalPorts.contains port) = [owner] ∧
    owner.forwardLocalPorts.count port = 1 ∧
    state.forwardOwner user port = some owner

variable {state user}

theorem recordsOnce_iff (port : UInt16) :
    state.RecordsOnce user port <-> (state.recordedPorts user).count port = 1 := by
  have hfilter : (state.sessions.filter fun session =>
        session.user == user && session.forwardLocalPorts.contains port) =
      (state.forUser user).filter fun session =>
        session.forwardLocalPorts.contains port := by
    rw [forUser, List.filter_filter]
    simp only [Bool.and_comm]
  rw [recordedPorts, count_flatMap_eq_one_iff, RecordsOnce, hfilter]
  constructor
  · intro h
    rcases h with ⟨owner, hone, hcount, _⟩
    exact ⟨owner, hone, hcount⟩
  · intro h
    rcases h with ⟨owner, hone, hcount⟩
    refine ⟨owner, hone, hcount, ?_⟩
    rw [forwardOwner, ← List.head?_filter, hfilter, hone]
    rfl

theorem forwardOwner_eq_none_iff (port : UInt16) :
    state.forwardOwner user port = none <-> port ∉ state.recordedPorts user := by
  simp [forwardOwner, recordedPorts, forUser]

theorem count_replacedPorts_le (state : State) (user service : String)
    (port : UInt16) :
    (state.replacedPorts user service).count port ≤
      (state.recordedPorts user).count port := by
  have hsplit := count_flatMap_filter Session.forwardLocalPorts port
    (fun session => session.service == service) (state.forUser user)
  rw [recordedPorts, hsplit]
  exact Nat.le_add_right _ _

theorem count_recordedPorts_upsert (state : State) {session : Session}
    (hsession : session.user = user) (port : UInt16) :
    ((state.upsert session).recordedPorts user).count port +
        (state.replacedPorts user session.service).count port =
      (state.recordedPorts user).count port +
        session.forwardLocalPorts.count port := by
  have hsplit := count_flatMap_filter Session.forwardLocalPorts port
    (fun other => other.service == session.service) (state.forUser user)
  have hkept : (state.upsert session).forUser user =
      ((state.forUser user).filter fun other => !(other.service == session.service)) ++
        [session] := by
    have hnew : [session].filter (fun other => other.user == user) = [session] := by
      simp [hsession]
    have hold : forall other : Session,
        (other.user == user &&
            !(other.user == user && other.service == session.service)) =
          (!(other.service == session.service) && other.user == user) := by
      intro other
      cases other.user == user with
      | true => simp
      | false => simp
    simp only [forUser, upsert, List.filter_append, List.filter_filter, hnew, hsession,
      hold]
  rw [recordedPorts, hkept, List.flatMap_append, List.count_append]
  simp only [recordedPorts, replacedPorts, List.flatMap_cons, List.flatMap_nil,
    List.append_nil]
  omega

end State

/-!
# What an `up` opens
-/

def portsToOpen (env : UpEnvironment) (state : State) (user : String)
    (raws : List String) : List UInt16 :=
  (toOpen env state user 0 raws).map fun entry => entry.2.localPort

theorem openForwards_eq_toOpen {env : UpEnvironment} {state : State} {user : String}
    {testFree : Bool} {index : Nat} {raws : List String} {owned : List UInt16}
    (h : openForwards env testFree state user index raws = .ok owned) :
    owned = (toOpen env state user index raws).map fun entry => entry.2.localPort := by
  induction raws generalizing index owned with
  | nil =>
      cases h
      rfl
  | cons raw rest ih =>
      rw [openForwards_cons] at h
      cases hread : readForward env state user raw with
      | error e =>
          rw [hread] at h
          cases h
      | ok entry =>
          rcases entry with ⟨spec, reused⟩
          rw [hread] at h
          cases reused with
          | true =>
              have hrest := ih h
              simp only [toOpen, hread, hrest]
          | false =>
              rcases (bind_eq_ok_iff _ _ _).mp h with ⟨_, _, h⟩
              rcases (bind_eq_ok_iff _ _ _).mp h with ⟨others, hothers, heq⟩
              cases heq
              simp only [toOpen, hread, ih hothers, List.map_cons]

theorem readForward_false {env : UpEnvironment} {state : State} {user raw : String}
    {spec : ForwardPortSpec} (h : readForward env state user raw = .ok (spec, false)) :
    state.forwardOwner user spec.localPort = none := by
  have hparse := parse_of_readForward h
  cases howner : state.forwardOwner user spec.localPort with
  | none => rfl
  | some owner =>
      simp only [readForward, hparse, checkForwardReuse, howner] at h
      split at h
      · cases h
      · cases h

theorem exists_of_mem_toOpen {env : UpEnvironment} {state : State} {user : String}
    {index position : Nat} {raws : List String} {spec : ForwardPortSpec}
    (h : (position, spec) ∈ toOpen env state user index raws) :
    exists raw, readForward env state user raw = .ok (spec, false) := by
  induction raws generalizing index with
  | nil => cases h
  | cons raw rest ih =>
      cases hread : readForward env state user raw with
      | error e =>
          simp only [toOpen, hread] at h
          exact ih h
      | ok entry =>
          rcases entry with ⟨spec', reused⟩
          cases reused with
          | true =>
              simp only [toOpen, hread] at h
              exact ih h
          | false =>
              simp only [toOpen, hread] at h
              rcases List.mem_cons.mp h with heq | hrest
              · cases heq
                exact ⟨raw, hread⟩
              · exact ih hrest

theorem notMem_recordedPorts_of_toOpen {env : UpEnvironment} {state : State}
    {user : String} {raws : List String} {port : UInt16}
    (h : port ∈ portsToOpen env state user raws) : port ∉ state.recordedPorts user := by
  rw [← State.forwardOwner_eq_none_iff]
  rcases List.mem_map.mp h with ⟨⟨index, spec⟩, hentry, rfl⟩
  rcases exists_of_mem_toOpen hentry with ⟨raw, hread⟩
  exact readForward_false hread

theorem Started.opens {env : UpEnvironment} {request : UpRequest}
    {active : ActiveSession} {file : State} (h : Started env request active file) :
    active.forwardPorts =
      portsToOpen env env.state request.user request.forwardPorts := by
  rcases h.forwards with ⟨testFree, howned⟩
  exact openForwards_eq_toOpen howned

/-!
# One user's `up`s
-/

structure UpRun where
  request : UpRequest
  context : BastionContext
  env : UpEnvironment

section

variable {world : Type} (serde : SerdeJson)
  (exchange : world -> BastionEndpoint -> Bytes -> Except String Bytes × world)
  (user : String)

/-- Completed `up`s of the user, one after the other, none of which ends. -/
def completedUps : TransitionSystem (LaptopState world) UpRun ActiveSession where
  step := fun s run =>
    if run.request.user = user ∧ run.env.Sees s then
      match s.up serde exchange run.request run.context run.env with
      | (.up (.ok active), t) => some (active, t)
      | _ => none
    else
      none

/-- Every forward that a running session opened is recorded once. -/
def ForwardsRecorded (_ : LaptopState world) (_ : UpRun) (_ : ActiveSession)
    (after : LaptopState world) : Prop :=
  forall up, up ∈ after.running -> forall port, port ∈ up.active.forwardPorts ->
    after.file.RecordsOnce user port

/-- The record of the service, if there is one, lists no forwards, and the entries
that are to be opened have different ports. -/
def KeepsOwners (before : LaptopState world) (run : UpRun) (_ : ActiveSession)
    (_ : LaptopState world) : Prop :=
  before.file.replacedPorts user run.request.service = [] ∧
    (portsToOpen run.env before.file user run.request.forwardPorts).Nodup

variable {serde exchange user}

theorem completedUps_step {s t : LaptopState world} {run : UpRun}
    {active : ActiveSession}
    (h : (completedUps serde exchange user).step s run = some (active, t)) :
    run.request.user = user ∧ active.service = run.request.service ∧
      active.user = user ∧
      active.forwardPorts =
        portsToOpen run.env s.file user run.request.forwardPorts ∧
      t.file = s.file.upsert (active.record run.env.now) ∧
      t.running = s.running.map (RunningUp.supersededBy active) ++
        [{ active := active, startedAt := run.env.now, superseded := false }] := by
  simp only [completedUps] at h
  split at h
  · next hsees =>
    rcases hsees with ⟨huser, hstate, hrecord, _⟩
    simp only [LaptopState.up] at h
    cases hup : upService run.env serde exchange run.request run.context s.bastion with
    | mk result after =>
        cases result with
        | error e =>
            rw [hup] at h
            cases h
        | ok value =>
            rcases value with ⟨active', file⟩
            rw [hup] at h
            cases h
            have hstarted := upService_started hup
            have hports := hstarted.opens
            have hfile := hstarted.file_eq
            rw [hstate, huser] at hports
            rw [hrecord] at hfile
            exact ⟨huser, hstarted.service_eq, hstarted.user_eq.trans huser, hports,
              hfile, rfl⟩
  · cases h

/-- What the file lists is what running sessions opened, and each of it once. -/
structure OwnersRecorded (user : String) (s : LaptopState world) : Prop where
  once : forall up, up ∈ s.running -> forall port, port ∈ up.active.forwardPorts ->
    (s.file.recordedPorts user).count port = 1
  opened : forall port, port ∈ s.file.recordedPorts user ->
    exists up, up ∈ s.running ∧ port ∈ up.active.forwardPorts

theorem ownersRecorded_fresh (user : String) (bastion : world) :
    OwnersRecorded user (LaptopState.fresh bastion) where
  once := by
    intro up hup
    cases hup
  opened := by
    intro port hport
    cases hport

section Step

variable {s t : LaptopState world} {run : UpRun} {active : ActiveSession}
variable (hstep : (completedUps serde exchange user).step s run = some (active, t))

include hstep

theorem count_recordedPorts_step (port : UInt16) :
    (t.file.recordedPorts user).count port +
        (s.file.replacedPorts user run.request.service).count port =
      (s.file.recordedPorts user).count port + active.forwardPorts.count port := by
  rcases completedUps_step hstep with ⟨_, hservice, huser, _, hfile, _⟩
  have hrecord : (active.record run.env.now).user = user := huser
  have hcount := s.file.count_recordedPorts_upsert hrecord port
  rw [← hfile] at hcount
  rw [← hservice]
  exact hcount

theorem count_eq_zero_of_opened {port : UInt16} (hport : port ∈ active.forwardPorts) :
    (s.file.recordedPorts user).count port = 0 := by
  rcases completedUps_step hstep with ⟨_, _, _, hports, _⟩
  rw [hports] at hport
  exact List.count_eq_zero_of_not_mem (notMem_recordedPorts_of_toOpen hport)

theorem opened_after_iff (port : UInt16) :
    (exists up, up ∈ t.running ∧ port ∈ up.active.forwardPorts) <->
      (exists up, up ∈ s.running ∧ port ∈ up.active.forwardPorts) ∨
        port ∈ active.forwardPorts := by
  rcases completedUps_step hstep with ⟨_, _, _, _, _, hrunning⟩
  rw [hrunning]
  constructor
  · intro h
    rcases h with ⟨up, hup, hport⟩
    rcases List.mem_append.mp hup with hold | hnew
    · rcases List.mem_map.mp hold with ⟨earlier, hearlier, rfl⟩
      exact Or.inl ⟨earlier, hearlier, hport⟩
    · cases List.mem_singleton.mp hnew
      exact Or.inr hport
  · intro h
    rcases h with ⟨up, hup, hport⟩ | hport
    · exact ⟨up.supersededBy active,
        List.mem_append_left _ (List.mem_map_of_mem hup), hport⟩
    · exact ⟨_, List.mem_append_right _ List.mem_cons_self, hport⟩

theorem count_after_eq_one (hs : OwnersRecorded user s)
    (hkeeps : KeepsOwners user s run active t) {port : UInt16}
    (hport : exists up, up ∈ t.running ∧ port ∈ up.active.forwardPorts) :
    (t.file.recordedPorts user).count port = 1 := by
  have hcount := count_recordedPorts_step hstep port
  rw [hkeeps.left, List.count_nil] at hcount
  by_cases hopened : port ∈ active.forwardPorts
  · have hbefore := count_eq_zero_of_opened hstep hopened
    rcases completedUps_step hstep with ⟨_, _, _, hports, _⟩
    have hnodup : active.forwardPorts.Nodup := by
      rw [hports]
      exact hkeeps.right
    have hnew := List.count_eq_one_of_mem hnodup hopened
    omega
  · rcases (opened_after_iff hstep port).mp hport with ⟨up, hup, hmem⟩ | hmem
    · have hbefore := hs.once up hup port hmem
      have hnew := List.count_eq_zero_of_not_mem hopened
      omega
    · exact absurd hmem hopened

theorem ownersRecorded_step (hs : OwnersRecorded user s)
    (hkeeps : KeepsOwners user s run active t) : OwnersRecorded user t where
  once := fun up hup port hport =>
    count_after_eq_one hstep hs hkeeps ⟨up, hup, hport⟩
  opened := by
    intro port hport
    apply (opened_after_iff hstep port).mpr
    have hcount := count_recordedPorts_step hstep port
    rw [hkeeps.left, List.count_nil] at hcount
    have hpos := List.count_pos_iff.mpr hport
    by_cases hopened : port ∈ active.forwardPorts
    · exact Or.inr hopened
    · have hnew := List.count_eq_zero_of_not_mem hopened
      exact Or.inl (hs.opened port (List.count_pos_iff.mp (by omega)))

theorem forwardsRecorded_step_iff (hs : OwnersRecorded user s) :
    ForwardsRecorded user s run active t <-> KeepsOwners user s run active t := by
  constructor
  · intro h
    have honce : forall port,
        (exists up, up ∈ t.running ∧ port ∈ up.active.forwardPorts) ->
        (t.file.recordedPorts user).count port = 1 := by
      intro port hport
      rcases hport with ⟨up, hup, hmem⟩
      exact (State.recordsOnce_iff port).mp (h up hup port hmem)
    constructor
    · rw [List.eq_nil_iff_forall_not_mem]
      intro port hreplaced
      have hpos := List.count_pos_iff.mpr hreplaced
      have hle := s.file.count_replacedPorts_le user run.request.service port
      have hcount := count_recordedPorts_step hstep port
      -- The session that opened it still runs, and its record is gone.
      rcases hs.opened port (List.count_pos_iff.mp (by omega)) with ⟨up, hup, hmem⟩
      have hbefore := hs.once up hup port hmem
      have hafter := honce port
        ((opened_after_iff hstep port).mpr (Or.inl ⟨up, hup, hmem⟩))
      have hnew : active.forwardPorts.count port = 0 := by
        apply List.count_eq_zero_of_not_mem
        intro hopened
        have hzero := count_eq_zero_of_opened hstep hopened
        omega
      omega
    · rcases completedUps_step hstep with ⟨_, _, _, hports, _⟩
      rw [← hports, List.nodup_iff_count_le_one]
      intro port
      by_cases hopened : port ∈ active.forwardPorts
      · have hbefore := count_eq_zero_of_opened hstep hopened
        have hcount := count_recordedPorts_step hstep port
        have hafter := honce port ((opened_after_iff hstep port).mpr (Or.inr hopened))
        have hle := s.file.count_replacedPorts_le user run.request.service port
        omega
      · have hnew := List.count_eq_zero_of_not_mem hopened
        omega
  · intro hkeeps up hup port hport
    apply (State.recordsOnce_iff port).mpr
    exact count_after_eq_one hstep hs hkeeps ⟨up, hup, hport⟩

end Step

end

/-- In every sequence of completed `up`s of a user, whose sessions all go on running,
the forwards that they opened are recorded once exactly if no `up` replaces a record
that lists forwards or opens a port twice. -/
theorem forwards_recorded_iff {world : Type} (serde : SerdeJson)
    (exchange : world -> BastionEndpoint -> Bytes -> Except String Bytes × world)
    (user : String) (bastion : world) (runs : List UpRun) :
    (completedUps serde exchange user).Along (ForwardsRecorded user)
        (LaptopState.fresh bastion) runs <->
      (completedUps serde exchange user).Along (KeepsOwners user)
        (LaptopState.fresh bastion) runs := by
  have hall : forall run, run ∈ runs -> True := fun _ _ => trivial
  have hkeep : forall s run active t, OwnersRecorded user s -> True ->
      (completedUps serde exchange user).step s run = some (active, t) ->
      KeepsOwners user s run active t -> OwnersRecorded user t := by
    intro s run active t hs _ hstep hkeeps
    exact ownersRecorded_step hstep hs hkeeps
  refine TransitionSystem.along_iff _ hkeep ?_ (ownersRecorded_fresh user bastion) hall
  intro s run active t hs _ hstep
  exact forwardsRecorded_step_iff hstep hs

def secondWorker : List UpRun :=
  [{ request := engineWorker, context := ⟨"demo"⟩,
     env := workerEnvironment State.default (fun _ => false) 4242 },
    { request := engineWorker, context := ⟨"demo"⟩,
      env := workerEnvironment workerState (fun _ => true) 4243 }]

/-- The second `up` borrows the forward from the record that it then replaces: the
first one still has the tunnel, and no session is recorded for it. -/
theorem second_worker_drops_owner :
    exists t,
      (completedUps serdeJson unreachable "alice").run (LaptopState.fresh ())
          secondWorker =
        some ([engineSession, { engineSession with pid := 4243, forwardPorts := [] }],
          t) ∧
      (exists up, up ∈ t.running ∧ up.active = engineSession) ∧
      t.file.forwardOwner "alice" 5432 = none ∧
      ¬ (completedUps serdeJson unreachable "alice").Along (ForwardsRecorded "alice")
        (LaptopState.fresh ()) secondWorker := by
  refine ⟨_, rfl, ⟨_, List.mem_cons_self, rfl⟩, rfl, ?_⟩
  intro h
  rcases h _ _ rfl with ⟨_, hrest⟩
  rcases hrest _ _ rfl with ⟨hrecorded, _⟩
  rcases hrecorded _ List.mem_cons_self 5432 List.mem_cons_self with ⟨_, _, _, howner⟩
  cases howner

end Laptop

end Ephemwork
