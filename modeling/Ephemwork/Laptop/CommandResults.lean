import Ephemwork.Laptop.FailedUp

/-!
# What the commands return

The record a successful `up` leaves, the error it does not return where every
recorded owner is alive, and the sessions a `down` removes.
-/

namespace Ephemwork

open Foundation
open Bastion (SerdeJson)

namespace Laptop

/-!
# What `up` records
-/

def ActiveSession.record (active : ActiveSession) (startedAt : Int) : Session :=
  sessionFor startedAt active.user active.service (active.localPort.getD 0)
    (active.remotePort.getD 0) (some active.pid) active.forwardPorts

structure Started (env : UpEnvironment) (request : UpRequest) (active : ActiveSession)
    (file : State) : Prop where
  user_eq : active.user = request.user
  service_eq : active.service = request.service
  pid_eq : active.pid = env.pid
  forwards : exists testFree,
    openForwards env testFree env.state request.user 0 request.forwardPorts =
      .ok active.forwardPorts
  file_eq : file = env.stateAtRecord.upsert (active.record env.now)

section

variable {env : UpEnvironment} {request : UpRequest} {context : BastionContext}
  {active : ActiveSession} {file : State}

theorem openSession_started {endpoint : BastionEndpoint}
    {localPort remotePort : UInt16}
    (h : openSession env request endpoint localPort remotePort =
      .ok (active, file)) : Started env request active file := by
  rcases openSession_result env h with
    ⟨⟨huser, hservice, hlocal, hremote, hpid⟩, hforwards, hfile⟩
  refine ⟨huser, hservice, hpid, ⟨false, hforwards⟩, ?_⟩
  rw [hfile, ActiveSession.record, huser, hservice, hlocal, hremote, hpid]
  rfl

theorem upWorker_started (h : upWorker env request context = .ok (active, file)) :
    Started env request active file := by
  simp only [upWorker, recordSession, bind_eq_ok_iff] at h
  rcases h with ⟨_, _, _, _, h⟩
  split at h
  · simp only [bind_eq_ok_iff] at h
    rcases h with ⟨_, _, _, _, _, _, _, _, owned, howned, _, _, state,
      ⟨_, _, _, _, _, _, hstate⟩, hresult⟩
    cases hstate
    cases hresult
    exact ⟨rfl, rfl, rfl, ⟨true, howned⟩, rfl⟩
  · next hneeds =>
    have hnone : request.forwardPorts = [] := by simpa using hneeds
    simp only [bind_eq_ok_iff] at h
    rcases h with ⟨owned, howned, _, _, state, ⟨_, _, _, _, _, _, hstate⟩, hresult⟩
    cases howned
    cases hstate
    cases hresult
    refine ⟨rfl, rfl, rfl, ⟨true, ?_⟩, rfl⟩
    rw [hnone]
    rfl

theorem upService_started {world : Type} {serde : SerdeJson}
    {exchange : world -> BastionEndpoint -> Bytes -> Except String Bytes × world}
    {bastion after : world}
    (h : upService env serde exchange request context bastion =
      (.ok (active, file), after)) : Started env request active file := by
  unfold upService at h
  split at h
  · exact upWorker_started (Prod.mk.inj h).left
  · split at h
    · cases h
    · split at h
      · cases h
      · exact openSession_started (Prod.mk.inj h).left

end

/-!
# Owners that are alive
-/

def UpError.IsStaleForward (e : UpError) : Prop :=
  exists localPort owner pid, e = .staleForward localPort owner pid

theorem avoids_attempt (env : UpEnvironment) (step : UpStep) :
    Avoids UpError.IsStaleForward (env.attempt step) := by
  unfold UpEnvironment.attempt
  cases env.failure step with
  | none => exact Avoids.of_ok ()
  | some message =>
      apply Avoids.of_error
      intro h
      rcases h with ⟨localPort, owner, pid, h⟩
      cases h

theorem avoids_attemptIf (env : UpEnvironment) (condition : Bool)
    (step : UpStep) :
    Avoids UpError.IsStaleForward (env.attemptIf condition step) := by
  cases condition with
  | true => exact avoids_attempt env step
  | false => exact Avoids.of_ok ()

theorem avoids_locateBastion (env : UpEnvironment) (context : BastionContext) :
    Avoids UpError.IsStaleForward (locateBastion env context) := by
  apply Avoids.bind (avoids_attempt env _)
  intro _ _
  cases env.bastion with
  | none =>
      apply Avoids.of_error
      intro h
      rcases h with ⟨localPort, owner, pid, h⟩
      cases h
  | some target => exact Avoids.of_ok target

def OwnersAlive (env : UpEnvironment) (state : State) : Prop :=
  forall session, session ∈ state.sessions ->
    session.pid.getD 0 ≠ 0 ∧ env.alive (session.pid.getD 0) = true

section

variable {env : UpEnvironment} {state : State} (halive : OwnersAlive env state)

include halive

theorem checkForwardReuse_of_ownersAlive (user : String)
    (spec : ForwardPortSpec) :
    exists reused, checkForwardReuse env state user spec = .ok reused := by
  unfold checkForwardReuse
  cases howner : state.forwardOwner user spec.localPort with
  | none => exact ⟨false, rfl⟩
  | some owner =>
      rcases halive owner (State.mem_of_forwardOwner howner) with ⟨hpid, hlives⟩
      refine ⟨true, if_neg ?_⟩
      intro hgone
      rcases hgone with hzero | hdead
      · exact hpid hzero
      · rw [hlives] at hdead
        cases hdead

theorem avoids_openForwards (testFree : Bool) (user : String) (index : Nat)
    (specs : List String) :
    Avoids UpError.IsStaleForward
      (openForwards env testFree state user index specs) := by
  induction specs generalizing index with
  | nil => exact Avoids.of_ok []
  | cons raw rest ih =>
      cases hspec : parseForwardPortSpec raw with
      | error e =>
          simp only [openForwards, hspec]
          apply Avoids.of_error
          intro h
          rcases h with ⟨localPort, owner, pid, h⟩
          cases h
      | ok spec =>
          rcases checkForwardReuse_of_ownersAlive halive user spec with
            ⟨reused, hreused⟩
          simp only [openForwards, hspec, hreused]
          apply Avoids.bind (Avoids.of_ok reused)
          intro reused' _
          cases reused' with
          | true => exact ih (index + 1)
          | false =>
              refine Avoids.bind (avoids_attemptIf env _ _) fun _ _ => ?_
              refine Avoids.bind (avoids_attempt env _) fun _ _ => ?_
              refine Avoids.bind (avoids_attempt env _) fun _ _ => ?_
              exact Avoids.bind (ih (index + 1)) fun _ _ => Avoids.of_ok _

end

theorem avoids_recordSession (env : UpEnvironment) (session : Session) :
    Avoids UpError.IsStaleForward (recordSession env session) := by
  refine Avoids.bind (avoids_attempt env _) fun _ _ => ?_
  refine Avoids.bind (avoids_attempt env _) fun _ _ => ?_
  exact Avoids.bind (avoids_attempt env _) fun _ _ => Avoids.of_ok _

theorem avoids_reachControlPlane (env : UpEnvironment) (request : UpRequest)
    (context : BastionContext) :
    Avoids UpError.IsStaleForward (reachControlPlane env request context) := by
  refine Avoids.bind (avoids_attempt env _) fun _ _ => ?_
  refine Avoids.bind (avoids_attempt env _) fun _ _ => ?_
  refine Avoids.bind (avoids_attemptIf env _ _) fun _ _ => ?_
  refine Avoids.bind (avoids_attempt env _) fun _ _ => ?_
  refine Avoids.bind (avoids_locateBastion env context) fun _ _ => ?_
  refine Avoids.bind (avoids_attempt env _) fun _ _ => ?_
  exact Avoids.bind (avoids_attempt env _) fun _ _ => Avoids.of_ok _

section

variable {env : UpEnvironment} (halive : OwnersAlive env env.state)

include halive

theorem avoids_openSession (request : UpRequest) (endpoint : BastionEndpoint)
    (localPort remotePort : UInt16) :
    Avoids UpError.IsStaleForward
      (openSession env request endpoint localPort remotePort) := by
  refine Avoids.bind (avoids_attempt env _) fun _ _ => ?_
  refine Avoids.bind (avoids_attempt env _) fun _ _ => ?_
  refine Avoids.bind (avoids_attempt env _) fun _ _ => ?_
  refine Avoids.bind (avoids_attempt env _) fun _ _ => ?_
  refine Avoids.bind (avoids_openForwards halive _ _ _ _) fun _ _ => ?_
  refine Avoids.bind (avoids_attempt env _) fun _ _ => ?_
  refine Avoids.bind (avoids_attemptIf env _ _) fun _ _ => ?_
  refine Avoids.bind (avoids_attempt env _) fun _ _ => ?_
  exact Avoids.bind (avoids_recordSession env _) fun _ _ => Avoids.of_ok _

theorem avoids_upWorker (request : UpRequest) (context : BastionContext) :
    Avoids UpError.IsStaleForward (upWorker env request context) := by
  refine Avoids.bind (avoids_attemptIf env _ _) fun _ _ => ?_
  refine Avoids.bind (avoids_attemptIf env _ _) fun _ _ => ?_
  -- What a worker does once its forwards are open.
  have hrest : forall owned : List UInt16,
      Avoids UpError.IsStaleForward (do
        env.attempt .spawnService
        let state <- recordSession env
          (sessionFor env.now request.user request.service 0 0 (some env.pid)
            owned)
        return (
          ({ user := request.user
             service := request.service
             localPort := none
             remotePort := none
             pid := env.pid
             forwardPorts := owned
             controlPlane := none } : ActiveSession), state)) := by
    intro owned
    refine Avoids.bind (avoids_attempt env _) fun _ _ => ?_
    exact Avoids.bind (avoids_recordSession env _) fun _ _ => Avoids.of_ok _
  split
  · refine Avoids.bind (avoids_attempt env _) fun _ _ => ?_
    refine Avoids.bind (avoids_locateBastion env context) fun _ _ => ?_
    refine Avoids.bind (avoids_attempt env _) fun _ _ => ?_
    refine Avoids.bind (avoids_attempt env _) fun _ _ => ?_
    exact Avoids.bind (avoids_openForwards halive _ _ _ _) fun owned _ =>
      hrest owned
  · exact Avoids.bind (Avoids.of_ok []) fun owned _ => hrest owned

theorem avoids_upService {world : Type} (serde : SerdeJson)
    (exchange : world -> BastionEndpoint -> Bytes ->
      Except String Bytes × world)
    (request : UpRequest) (context : BastionContext) (bastion : world) :
    Avoids UpError.IsStaleForward
      (upService env serde exchange request context bastion).1 := by
  unfold upService
  split
  · exact avoids_upWorker halive request context
  · split
    · next e hreach =>
        apply Avoids.of_error
        exact avoids_reachControlPlane env request context e hreach
    · split
      · apply Avoids.of_error
        intro h
        rcases h with ⟨localPort, owner, pid, h⟩
        cases h
      · exact avoids_openSession halive request _ _ _

end

/-!
# What a `down` removes
-/

theorem downAttempt_eq_ok_iff (env : DownEnvironment) (step : DownStep)
    (value : Unit) :
    env.attempt step = .ok value <-> env.failure step = none := by
  unfold DownEnvironment.attempt
  cases env.failure step with
  | none => simp
  | some message => simp

theorem loadCandidates_eq_ok_iff (env : DownEnvironment)
    (service : Option String) (candidates : List Session) :
    loadCandidates env service = .ok candidates <->
      (env.failure .currentUser = none ∧ env.failure .loadConfig = none ∧
        env.failure .statePath = none ∧ env.failure .loadState = none) ∧
      candidates = downCandidates env.state env.user service := by
  simp only [loadCandidates, bind_eq_ok_iff, downAttempt_eq_ok_iff]
  constructor
  · intro h
    rcases h with ⟨_, huser, _, hconfig, _, hpath, _, hload, heq⟩
    cases heq
    exact ⟨⟨huser, hconfig, hpath, hload⟩, rfl⟩
  · intro h
    rcases h with ⟨⟨huser, hconfig, hpath, hload⟩, rfl⟩
    exact ⟨(), huser, (), hconfig, (), hpath, (), hload, rfl⟩

theorem forgetSessions_eq_ok_iff (env : DownEnvironment)
    (pred : Session -> Bool) (result : List Session × State) :
    forgetSessions env pred = .ok result <->
      (env.failure .forgetLoad = none ∧ env.failure .forgetSave = none) ∧
      result = env.stateAtForget.removeWhere pred := by
  simp only [forgetSessions, bind_eq_ok_iff, downAttempt_eq_ok_iff]
  constructor
  · intro h
    rcases h with ⟨_, hload, _, hsave, heq⟩
    cases heq
    exact ⟨⟨hload, hsave⟩, rfl⟩
  · intro h
    rcases h with ⟨⟨hload, hsave⟩, rfl⟩
    exact ⟨(), hload, (), hsave, rfl⟩

def DownEnvironment.Completes (env : DownEnvironment) : Prop :=
  forall step, step ∈ [DownStep.currentUser, .loadConfig, .statePath,
    .loadState, .forgetLoad, .forgetSave] -> env.failure step = none

theorem completes_iff (env : DownEnvironment) :
    env.Completes <->
      (env.failure .currentUser = none ∧ env.failure .loadConfig = none ∧
        env.failure .statePath = none ∧ env.failure .loadState = none) ∧
      (env.failure .forgetLoad = none ∧ env.failure .forgetSave = none) := by
  simp [DownEnvironment.Completes, and_assoc]

theorem mem_downCandidates_iff (state : State) (user : String)
    (service : Option String) (session : Session) :
    session ∈ downCandidates state user service <->
      session ∈ state.sessions ∧ downForgets user service session = true := by
  simp only [downCandidates, State.forUser, downForgets, List.mem_filter,
    Bool.and_eq_true, and_assoc]

section

variable {world : Type} {serde : SerdeJson}
  {exchange : world -> BastionEndpoint -> Bytes -> Except String Bytes × world}
  {env : DownEnvironment} {service : Option String}

theorem downService_of_completes (serde : SerdeJson)
    (exchange : world -> BastionEndpoint -> Bytes ->
      Except String Bytes × world) (hcompletes : env.Completes)
    (hfound : downCandidates env.state env.user service ≠ [])
    (bastion : world) :
    exists after, downService env serde exchange service bastion =
      (.ok (env.stateAtForget.removeWhere (downForgets env.user service)),
        after) := by
  rcases (completes_iff env).mp hcompletes with ⟨hlisted, hforgotten⟩
  have hload := (loadCandidates_eq_ok_iff env service _).mpr ⟨hlisted, rfl⟩
  have hforget := (forgetSessions_eq_ok_iff env
    (downForgets env.user service) _).mpr ⟨hforgotten, rfl⟩
  unfold downService
  rw [hload]
  cases hcandidates : downCandidates env.state env.user service with
  | nil => exact absurd hcandidates hfound
  | cons session rest => exact ⟨_, by simp only [hforget]; rfl⟩

theorem downService_keeps
    (h : downCandidates env.state env.user service = [] ∨ ¬ env.Completes)
    {bastion after : world} {removed : List Session} {file : State}
    (hcall : downService env serde exchange service bastion =
      (.ok (removed, file), after)) :
    file = env.state := by
  unfold downService at hcall
  split at hcall
  · cases hcall
  · cases hcall
    rfl
  · next candidates hne hload =>
      rcases (loadCandidates_eq_ok_iff env service _).mp hload with
        ⟨hlisted, hcandidates⟩
      have hforget := (forgetSessions_eq_ok_iff env
        (downForgets env.user service) _).mp (Prod.mk.inj hcall).left
      rcases h with hnone | hfails
      · rw [hnone] at hcandidates
        exact absurd hcandidates hne
      · exact absurd ((completes_iff env).mpr ⟨hlisted, hforget.left⟩) hfails

end

end Laptop

end Ephemwork
