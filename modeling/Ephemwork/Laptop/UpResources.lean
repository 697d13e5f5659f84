import Ephemwork.Foundation.Ownership
import Ephemwork.Laptop.FailedUp

/-!
# What an `up` holds

An `up` starts processes and a reverse forward, each owned by a variable of
`up_service` or `up_worker` that ends it when it is dropped.  Here the steps of
`Commands.lean` keep account of them, from the first tunnel to the session that is
returned, and where a step fails, to the last drop.
-/

namespace Ephemwork

open Foundation
open Bastion (SerdeJson)

namespace Laptop

/-!
# Resources
-/

structure PortForwardSpec where
  target : String
  remotePort : UInt16
  region : String
deriving DecidableEq, Repr

structure RemoteHostForwardSpec where
  target : String
  remoteHost : String
  remotePort : UInt16
  localPort : UInt16
  region : String
deriving DecidableEq, Repr

inductive SshAuth where
  | agent
  | keyFile (privateKey : String) (passphrase : Option String)
deriving DecidableEq, Repr

structure SshConfig where
  host : String
  port : UInt16
  username : String
  auth : SshAuth
  /-- In seconds. -/
  keepalive : Nat
deriving DecidableEq, Repr

inductive Resource where
  /-- `aws ssm start-session` to a port of the bastion. -/
  | tunnel (spec : PortForwardSpec) (localPort : UInt16)
  /-- `aws ssm start-session` to a host behind the bastion. -/
  | remoteTunnel (spec : RemoteHostForwardSpec)
  | service (runCommand : String) (pid : UInt32)
  | reverse (config : SshConfig) (localPort remotePort : UInt16)
deriving DecidableEq, Repr

/-- The reverse forward goes through the tunnel on its port, and the service reaches
other hosts through the forwards. -/
def Resource.needs : Resource -> Resource -> Prop
  | .reverse config _ _, .tunnel _ localPort => localPort = config.port
  | .service _ _, .remoteTunnel _ => True
  | _, _ => False

def Resource.isReverse : Resource -> Bool
  | .reverse _ _ _ => true
  | _ => false

def defaultControlPlanePort : UInt16 := 8443

def sshPort : UInt16 := 22

def UpRequest.defaultSshUsername : String := "ec2-user"

def UpRequest.sshKeepalive : Nat := 30

/-!
# The steps with what they own
-/

namespace Holding

section

variable (env : UpEnvironment)

def attempt (step : UpStep) : Owning Resource UpError Unit :=
  Owning.outcome (env.attempt step)

def attemptIf (condition : Bool) (step : UpStep) : Owning Resource UpError Unit :=
  Owning.outcome (env.attemptIf condition step)

def start (step : UpStep) (r : Resource) : Owning Resource UpError Unit := do
  attempt env step
  Owning.acquire r

def controlPlaneTunnel (request : UpRequest) (target : String) : Resource :=
  .tunnel
    { target := target, remotePort := defaultControlPlanePort, region := request.region }
    env.controlPlanePort

def sshTunnel (request : UpRequest) (target : String) : Resource :=
  .tunnel { target := target, remotePort := sshPort, region := request.region } env.sshPort

def remoteForward (request : UpRequest) (target : String) (spec : ForwardPortSpec) :
    RemoteHostForwardSpec where
  target := target
  remoteHost := spec.remoteHost
  remotePort := spec.remotePort
  localPort := spec.localPort
  region := request.region

def serviceProcess (request : UpRequest) : Resource :=
  .service request.runCommand env.pid

def reverseForward (localPort remotePort : UInt16) : Resource :=
  .reverse
    { host := "127.0.0.1"
      port := env.sshPort
      username := UpRequest.defaultSshUsername
      auth := .agent
      keepalive := UpRequest.sshKeepalive }
    localPort remotePort

def reachControlPlane (request : UpRequest) (context : BastionContext) :
    Owning Resource UpError (String × BastionEndpoint) := do
  attempt env .pluginAvailable
  attempt env .portFree
  attemptIf env request.bootstrapCommand.isSome .bootstrap
  attempt env .newProvisioner
  let target <- Owning.outcome (locateBastion env context)
  start env .openControlPlane (controlPlaneTunnel env request target)
  attempt env .controlPlaneReady
  return (target, env.controlPlane)

/-- A forward belongs to its turn of the loop until it is ready. -/
def openForwards (request : UpRequest) (target : String) (testFree : Bool) :
    Nat -> List String -> Owning Resource UpError (List UInt16)
  | _, [] => return []
  | index, raw :: rest =>
      match parseForwardPortSpec raw with
      | .error e => throw (.forwardPort e)
      | .ok spec => do
          let reused <-
            Owning.outcome (checkForwardReuse env env.state request.user spec)
          if reused then
            openForwards request target testFree (index + 1) rest
          else do
            attemptIf env testFree (.forwardPortFree index)
            start env (.openForward index)
              (.remoteTunnel (remoteForward request target spec))
            attempt env (.forwardReady index)
            Owning.deposit
            let owned <- openForwards request target testFree (index + 1) rest
            return spec.localPort :: owned

/-- The fields of a session that own something, in the order in which they are
dropped. -/
def sessionOwners : List (List Resource) -> List (List Resource)
  | [reverse, runner, forwards, ssh, controlPlane] =>
      [reverse, runner, ssh, controlPlane, forwards]
  | scope => scope

def openSession (request : UpRequest) (target : String) (endpoint : BastionEndpoint)
    (localPort remotePort : UInt16) :
    Owning Resource UpError (ActiveSession × State) := do
  start env .openSsh (sshTunnel env request target)
  attempt env .sshReady
  attempt env .statePath
  attempt env .loadState
  Owning.declare
  let owned <- openForwards env request target false 0 request.forwardPorts
  start env .spawnService (serviceProcess env request)
  attemptIf env request.healthCheckPath.isSome .healthy
  start env .openReverse (reverseForward env localPort remotePort)
  let state <- Owning.outcome (recordSession env
    (sessionFor env.now request.user request.service localPort remotePort
      (some env.pid) owned))
  Owning.handOver sessionOwners
  return (
    { user := request.user
      service := request.service
      localPort := some localPort
      remotePort := some remotePort
      pid := env.pid
      forwardPorts := owned
      controlPlane := some endpoint }, state)

def workerForwards (request : UpRequest) (context : BastionContext) :
    Owning Resource UpError (List UInt16) :=
  if request.forwardPorts = [] then
    pure []
  else do
    attempt env .newProvisioner
    let target <- Owning.outcome (locateBastion env context)
    attempt env .statePath
    attempt env .loadState
    openForwards env request target true 0 request.forwardPorts

def upWorker (request : UpRequest) (context : BastionContext) :
    Owning Resource UpError (ActiveSession × State) := do
  attemptIf env (decide (request.forwardPorts ≠ [])) .pluginAvailable
  attemptIf env request.bootstrapCommand.isSome .bootstrap
  Owning.declare
  let owned <- workerForwards env request context
  start env .spawnService (serviceProcess env request)
  let state <- Owning.outcome (recordSession env
    (sessionFor env.now request.user request.service 0 0 (some env.pid) owned))
  return (
    { user := request.user
      service := request.service
      localPort := none
      remotePort := none
      pid := env.pid
      forwardPorts := owned
      controlPlane := none }, state)

variable {world : Type} (serde : SerdeJson)
  (exchange : world -> BastionEndpoint -> Bytes -> Except String Bytes × world)

def upService (request : UpRequest) (context : BastionContext) (bastion : world) :
    (Except UpError (ActiveSession × State) × world) × Ledger Resource :=
  match request.localServicePort with
  | none =>
      match (Owning.function (upWorker env request context)).exec .empty with
      | (result, ledger) => ((result, bastion), ledger)
  | some localPort =>
      match (Owning.function (reachControlPlane env request context)).exec .empty with
      | (.error e, ledger) => ((.error e, bastion), ledger)
      | (.ok (target, endpoint), ledger) =>
          match register (exchange bastion) serde endpoint request.registration with
          | (.error e, after) => ((.error (.register e), after), ledger.unwind)
          | (.ok response, after) =>
              match (Owning.function (openSession env request target endpoint localPort
                  response.remotePort)).exec ledger with
              | (result, final) => ((result, after), final)

end

/-!
# The same outcomes
-/

section Outcomes

variable {env : UpEnvironment} {request : UpRequest} {context : BastionContext}

theorem returns_attempt (step : UpStep) :
    Owning.Returns (attempt env step) id (env.attempt step) :=
  Owning.Returns.outcome _

theorem returns_attemptIf (condition : Bool) (step : UpStep) :
    Owning.Returns (attemptIf env condition step) id (env.attemptIf condition step) :=
  Owning.Returns.outcome _

theorem returns_start (step : UpStep) (r : Resource) :
    Owning.Returns (start env step r) id (env.attempt step) := by
  have h : Owning.Returns (start env step r) id
      (env.attempt step >>= fun _ => Except.ok ()) :=
    (returns_attempt step).bind fun _ => Owning.Returns.acquire r
  have hbind : (env.attempt step >>= fun _ => Except.ok ()) = env.attempt step := by
    cases env.attempt step with
    | ok a => rfl
    | error e => rfl
  rw [hbind] at h
  exact h

variable (env request context) in
theorem returns_reachControlPlane :
    Owning.Returns (reachControlPlane env request context) Prod.snd
      (Laptop.reachControlPlane env request context) := by
  refine (returns_attempt .pluginAvailable).bind fun _ => ?_
  refine (returns_attempt .portFree).bind fun _ => ?_
  refine (returns_attemptIf _ .bootstrap).bind fun _ => ?_
  refine (returns_attempt .newProvisioner).bind fun _ => ?_
  refine (Owning.Returns.outcome (locateBastion env context)).bind fun target => ?_
  refine (returns_start .openControlPlane _).bind fun _ => ?_
  refine (returns_attempt .controlPlaneReady).bind fun _ => ?_
  exact Owning.Returns.pure (target, env.controlPlane)

theorem returns_openForwards (target : String) (testFree : Bool) (index : Nat)
    (raws : List String) :
    Owning.Returns (openForwards env request target testFree index raws) id
      (Laptop.openForwards env testFree env.state request.user index raws) := by
  induction raws generalizing index with
  | nil => exact Owning.Returns.pure []
  | cons raw rest ih =>
      rw [openForwards, Laptop.openForwards]
      cases parseForwardPortSpec raw with
      | error e => exact Owning.Returns.throw _
      | ok spec =>
          refine (Owning.Returns.outcome
            (checkForwardReuse env env.state request.user spec)).bind fun reused => ?_
          cases reused with
          | true => exact ih (index + 1)
          | false =>
              refine (returns_attemptIf testFree _).bind fun _ => ?_
              refine (returns_start (.openForward index) _).bind fun _ => ?_
              refine (returns_attempt (.forwardReady index)).bind fun _ => ?_
              refine Owning.Returns.deposit.after ?_
              exact (ih (index + 1)).bind fun owned => Owning.Returns.pure _

variable (env request) in
theorem returns_openSession (target : String) (endpoint : BastionEndpoint)
    (localPort remotePort : UInt16) :
    Owning.Returns (openSession env request target endpoint localPort remotePort) id
      (Laptop.openSession env request endpoint localPort remotePort) := by
  refine (returns_start .openSsh _).bind fun _ => ?_
  refine (returns_attempt .sshReady).bind fun _ => ?_
  refine (returns_attempt .statePath).bind fun _ => ?_
  refine (returns_attempt .loadState).bind fun _ => ?_
  refine Owning.Returns.declare.after ?_
  refine (returns_openForwards target false 0 request.forwardPorts).bind fun owned => ?_
  refine (returns_start .spawnService _).bind fun _ => ?_
  refine (returns_attemptIf _ .healthy).bind fun _ => ?_
  refine (returns_start .openReverse _).bind fun _ => ?_
  refine (Owning.Returns.outcome (recordSession env _)).bind fun state => ?_
  refine (Owning.Returns.handOver sessionOwners).after ?_
  exact Owning.Returns.pure _

variable (env request context) in
theorem returns_upWorker :
    Owning.Returns (upWorker env request context) id
      (Laptop.upWorker env request context) := by
  refine (returns_attemptIf _ .pluginAvailable).bind fun _ => ?_
  refine (returns_attemptIf _ .bootstrap).bind fun _ => ?_
  refine Owning.Returns.declare.after ?_
  have hend : forall owned, Owning.Returns
      (do
        start env .spawnService (serviceProcess env request)
        let state <- Owning.outcome (recordSession env
          (sessionFor env.now request.user request.service 0 0 (some env.pid) owned))
        return (({
          user := request.user
          service := request.service
          localPort := none
          remotePort := none
          pid := env.pid
          forwardPorts := owned
          controlPlane := none } : ActiveSession), state)) id
      (do
        env.attempt .spawnService
        let state <- recordSession env
          (sessionFor env.now request.user request.service 0 0 (some env.pid) owned)
        return (({
          user := request.user
          service := request.service
          localPort := none
          remotePort := none
          pid := env.pid
          forwardPorts := owned
          controlPlane := none } : ActiveSession), state)) := by
    intro owned
    refine (returns_start .spawnService _).bind fun _ => ?_
    refine (Owning.Returns.outcome (recordSession env _)).bind fun state => ?_
    exact Owning.Returns.pure _
  by_cases hnone : request.forwardPorts = []
  · rw [workerForwards, if_pos hnone, if_neg (by simp [hnone])]
    exact (Owning.Returns.pure []).bind hend
  · rw [workerForwards, if_neg hnone, if_pos (by simp [hnone])]
    simp only [bind_assoc]
    refine (returns_attempt .newProvisioner).bind fun _ => ?_
    refine (Owning.Returns.outcome (locateBastion env context)).bind fun target => ?_
    refine (returns_attempt .statePath).bind fun _ => ?_
    refine (returns_attempt .loadState).bind fun _ => ?_
    exact (returns_openForwards target true 0 request.forwardPorts).bind hend

variable {world : Type} {serde : SerdeJson}
  {exchange : world -> BastionEndpoint -> Bytes -> Except String Bytes × world}

variable (env request context serde exchange) in
theorem upService_outcome (bastion : world) :
    (upService env serde exchange request context bastion).1 =
      Laptop.upService env serde exchange request context bastion := by
  unfold upService Laptop.upService
  cases request.localServicePort with
  | none =>
      have hworker := (returns_upWorker env request context).function .empty
      rw [Except.map_id] at hworker
      exact congrArg (fun result => (result, bastion)) hworker
  | some localPort =>
      have hreach := (returns_reachControlPlane env request context).function .empty
      cases hexec : (Owning.function (reachControlPlane env request context)).exec
          (.empty : Ledger Resource) with
      | mk reached ledger =>
          rw [hexec] at hreach
          rw [← hreach]
          cases reached with
          | error e => rfl
          | ok found =>
              simp only [Except.map]
              cases hregister : register (exchange bastion) serde found.2
                  request.registration with
              | mk registered after =>
                  cases registered with
                  | error e => rfl
                  | ok response =>
                      have hopen := (returns_openSession env request found.1 found.2
                        localPort response.remotePort).function ledger
                      rw [Except.map_id] at hopen
                      exact congrArg (fun result => (result, after)) hopen

end Outcomes

/-!
# What is started for whom
-/

section Accounts

variable (env : UpEnvironment) (request : UpRequest)

/-- A tunnel leads to the located instance or through it, in the region of the
request; a process is the request's. -/
def Asked : Resource -> Prop
  | .tunnel spec localPort =>
      env.bastion = some spec.target ∧ spec.region = request.region ∧
        ((spec.remotePort = defaultControlPlanePort ∧ localPort = env.controlPlanePort) ∨
          (spec.remotePort = sshPort ∧ localPort = env.sshPort))
  | .remoteTunnel spec =>
      env.bastion = some spec.target ∧ spec.region = request.region ∧
        exists raw, raw ∈ request.forwardPorts ∧
          parseForwardPortSpec raw = .ok
            { localPort := spec.localPort
              remoteHost := spec.remoteHost
              remotePort := spec.remotePort }
  | .service command pid => command = request.runCommand ∧ pid = env.pid
  | .reverse config localPort _ =>
      config.port = env.sshPort ∧ request.localServicePort = some localPort

structure Accounted (ledger : Ledger Resource) : Prop where
  sound : ledger.Sound Resource.needs
  asked : forall r, r ∈ ledger.acquisitions -> Asked env request r

structure Opening (scope : List (List Resource)) (ledger : Ledger Resource) : Prop
    extends Accounted env request ledger where
  releases : ledger.releases = []
  scope : ledger.scope = scope

def Failing (_ : UpError) (ledger : Ledger Resource) : Prop :=
  exists scope, Opening env request scope ledger

def Ended (_ : UpError) (ledger : Ledger Resource) : Prop :=
  Accounted env request ledger ∧ ledger.held = []

variable {env request}

theorem opening_empty : Opening env request [] Ledger.empty :=
  ⟨⟨Ledger.sound_empty, by simp⟩, rfl, rfl⟩

theorem Opening.ended {scope : List (List Resource)} {ledger : Ledger Resource}
    (h : Opening env request scope ledger) (e : UpError) :
    Ended env request e ledger.unwind := by
  refine ⟨⟨h.sound.unwind, ?_⟩, rfl⟩
  rw [Ledger.acquisitions_unwind]
  exact h.asked

theorem Opening.acquire {scope : List (List Resource)} {ledger : Ledger Resource}
    (h : Opening env request scope ledger) {r : Resource} (hasked : Asked env request r)
    (hneeds : forall other, other ∈ scope.flatten -> ¬ other.needs r) :
    Opening env request ([r] :: scope) (ledger.acquire r) := by
  have hheld : ledger.held = scope.flatten := by rw [Ledger.held, h.scope]
  refine ⟨⟨h.sound.acquire h.releases ?_, ?_⟩, ?_, ?_⟩
  · rw [hheld]
    exact hneeds
  · intro other hother
    rw [Ledger.acquisitions_acquire] at hother
    rcases List.mem_append.mp hother with hbefore | hnew
    · exact h.asked other hbefore
    · rw [List.mem_singleton.mp hnew]
      exact hasked
  · rw [Ledger.releases_acquire, h.releases]
  · rw [Ledger.acquire, h.scope]

theorem Opening.declare {scope : List (List Resource)} {ledger : Ledger Resource}
    (h : Opening env request scope ledger) :
    Opening env request ([] :: scope) ledger.declare := by
  refine ⟨⟨h.sound.declare, h.asked⟩, h.releases, ?_⟩
  rw [Ledger.declare, h.scope]

theorem Opening.deposit {r : Resource} {owner : List Resource}
    {rest : List (List Resource)} {ledger : Ledger Resource}
    (h : Opening env request ([r] :: owner :: rest) ledger)
    (hneeds : forall other, other ∈ owner -> ¬ r.needs other) :
    Opening env request ((owner ++ [r]) :: rest) ledger.deposit := by
  refine ⟨⟨h.sound.deposit h.releases h.scope hneeds, ?_⟩, ?_, ?_⟩
  · rw [Ledger.acquisitions_deposit]
    exact h.asked
  · rw [Ledger.releases_deposit, h.releases]
  · simp only [Ledger.deposit, h.scope]

theorem triple_attempt (scope : List (List Resource)) (step : UpStep) :
    Triple (Opening env request scope) (attempt env step)
      (fun _ => Opening env request scope) (Failing env request) :=
  (Owning.triple_outcome _).conseq (fun _ h => h) (fun _ _ h => h.right)
    fun _ _ h => ⟨scope, h⟩

theorem triple_attemptIf (scope : List (List Resource)) (condition : Bool)
    (step : UpStep) :
    Triple (Opening env request scope) (attemptIf env condition step)
      (fun _ => Opening env request scope) (Failing env request) :=
  (Owning.triple_outcome _).conseq (fun _ h => h) (fun _ _ h => h.right)
    fun _ _ h => ⟨scope, h⟩

theorem triple_outcome {value : Type} (scope : List (List Resource))
    (result : Except UpError value) :
    Triple (Opening env request scope)
      (Owning.outcome result : Owning Resource UpError value)
      (fun a ledger => result = .ok a ∧ Opening env request scope ledger)
      (Failing env request) :=
  (Owning.triple_outcome _).conseq (fun _ h => h) (fun _ _ h => h)
    fun _ _ h => ⟨scope, h⟩

theorem triple_start {scope : List (List Resource)} {step : UpStep} {r : Resource}
    (hasked : Asked env request r)
    (hneeds : forall other, other ∈ scope.flatten -> ¬ other.needs r) :
    Triple (Opening env request scope) (start env step r)
      (fun _ => Opening env request ([r] :: scope)) (Failing env request) :=
  (triple_attempt scope step).bind fun _ =>
    Owning.triple_acquire fun _ h => h.acquire hasked hneeds

theorem locateBastion_ok {context : BastionContext} {target : String}
    (h : locateBastion env context = .ok target) : env.bastion = some target := by
  rw [locateBastion, bind_eq_ok_iff] at h
  rcases h with ⟨_, _, h⟩
  cases hbastion : env.bastion with
  | none =>
      rw [hbastion] at h
      cases h
  | some found =>
      rw [hbastion] at h
      cases h
      rfl

def remoteTunnels (specs : List RemoteHostForwardSpec) : List Resource :=
  specs.map .remoteTunnel

def OnlyTunnels (scope : List (List Resource)) : Prop :=
  forall other, other ∈ scope.flatten -> exists spec localPort, other = .tunnel spec localPort

theorem not_needs_of_tunnels {specs : List RemoteHostForwardSpec}
    {base : List (List Resource)} (hbase : OnlyTunnels base) {other : Resource}
    (h : other ∈ (remoteTunnels specs :: base).flatten) (r : Resource) :
    ¬ other.needs r := by
  rw [List.flatten_cons] at h
  rcases List.mem_append.mp h with hforward | htunnel
  · rcases List.mem_map.mp hforward with ⟨_, _, rfl⟩
    cases r <;> exact id
  · rcases hbase other htunnel with ⟨_, _, rfl⟩
    cases r <;> exact id

theorem not_needs_reverse (other : Resource) {localPort remotePort : UInt16} :
    ¬ other.needs (reverseForward env localPort remotePort) := by
  cases other with
  | tunnel spec port => exact id
  | remoteTunnel spec => exact id
  | service command pid => exact id
  | reverse config port bound => exact id

theorem triple_openForwards {target : String} (htarget : env.bastion = some target)
    (testFree : Bool) {base : List (List Resource)} (hbase : OnlyTunnels base)
    (index : Nat) (raws : List String)
    (hraws : forall raw, raw ∈ raws -> raw ∈ request.forwardPorts)
    (opened : List RemoteHostForwardSpec) :
    Triple (Opening env request (remoteTunnels opened :: base))
      (openForwards env request target testFree index raws)
      (fun owned ledger => exists more,
        more.map RemoteHostForwardSpec.localPort = owned ∧
          Opening env request (remoteTunnels (opened ++ more) :: base) ledger)
      (Failing env request) := by
  induction raws generalizing index opened with
  | nil =>
      refine Triple.pure fun ledger h => ⟨[], rfl, ?_⟩
      rw [List.append_nil]
      exact h
  | cons raw rest ih =>
      have hrest : forall raw', raw' ∈ rest -> raw' ∈ request.forwardPorts :=
        fun raw' h => hraws raw' (List.mem_cons_of_mem raw h)
      rw [openForwards]
      cases hspec : parseForwardPortSpec raw with
      | error e => exact Triple.throw fun ledger h => ⟨_, h⟩
      | ok spec =>
          refine (triple_outcome _ _).bind fun reused => Triple.of_fact fun _ => ?_
          cases reused with
          | true => exact ih (index + 1) hrest opened
          | false =>
              have hasked : Asked env request
                  (.remoteTunnel (remoteForward request target spec)) :=
                ⟨htarget, rfl, raw, hraws raw List.mem_cons_self, hspec⟩
              refine (triple_attemptIf _ _ _).bind fun _ => ?_
              refine (triple_start hasked fun other h =>
                not_needs_of_tunnels hbase h _).bind fun _ => ?_
              refine (triple_attempt _ _).bind fun _ => ?_
              refine (Owning.triple_deposit fun ledger h =>
                h.deposit fun other _ => id).bind fun _ => ?_
              have hmoved : remoteTunnels opened ++
                    [.remoteTunnel (remoteForward request target spec)] =
                  remoteTunnels (opened ++ [remoteForward request target spec]) := by
                simp [remoteTunnels]
              rw [hmoved]
              refine (ih (index + 1) hrest _).bind fun owned => Triple.pure ?_
              intro ledger h
              rcases h with ⟨more, rfl, h⟩
              refine ⟨remoteForward request target spec :: more, rfl, ?_⟩
              rw [List.append_assoc, List.singleton_append] at h
              exact h

def serviceOwners (env : UpEnvironment) (request : UpRequest) (target : String)
    (localPort remotePort : UInt16) (specs : List RemoteHostForwardSpec) :
    List (List Resource) :=
  [[reverseForward env localPort remotePort], [serviceProcess env request],
    [sshTunnel env request target], [controlPlaneTunnel env request target],
    remoteTunnels specs]

def workerOwners (env : UpEnvironment) (request : UpRequest)
    (specs : List RemoteHostForwardSpec) : List (List Resource) :=
  [[serviceProcess env request], remoteTunnels specs]

/-- What a session owns of what is on the ledger: everything, field by field. -/
inductive Holds (env : UpEnvironment) (request : UpRequest) (session : ActiveSession)
    (ledger : Ledger Resource) : Prop where
  | service (target : String) (endpoint : BastionEndpoint) (localPort remotePort : UInt16)
      (specs : List RemoteHostForwardSpec)
      (local_eq : session.localPort = some localPort)
      (remote_eq : session.remotePort = some remotePort)
      (endpoint_eq : session.controlPlane = some endpoint)
      (forwards_eq : specs.map RemoteHostForwardSpec.localPort = session.forwardPorts)
      (opening : Opening env request
        (serviceOwners env request target localPort remotePort specs) ledger)
  | worker (specs : List RemoteHostForwardSpec)
      (local_eq : session.localPort = none)
      (remote_eq : session.remotePort = none)
      (endpoint_eq : session.controlPlane = none)
      (forwards_eq : specs.map RemoteHostForwardSpec.localPort = session.forwardPorts)
      (opening : Opening env request (workerOwners env request specs) ledger)

theorem Opening.serviceOwners {target : String} {localPort remotePort : UInt16}
    {specs : List RemoteHostForwardSpec} {ledger : Ledger Resource}
    (h : Opening env request
      [[reverseForward env localPort remotePort], [serviceProcess env request],
        remoteTunnels specs, [sshTunnel env request target],
        [controlPlaneTunnel env request target]] ledger) :
    Opening env request (serviceOwners env request target localPort remotePort specs)
      { ledger with scope := sessionOwners ledger.scope } := by
  have hscope : sessionOwners ledger.scope =
      Holding.serviceOwners env request target localPort remotePort specs := by
    rw [h.scope]
    rfl
  have htail : forall other,
      other ∈ [sshTunnel env request target, controlPlaneTunnel env request target] ++
        remoteTunnels specs -> forall r, ¬ other.needs r := by
    intro other hother r
    rcases List.mem_append.mp hother with hports | hforward
    · rcases List.mem_pair.mp hports with rfl | rfl
      · cases r <;> exact id
      · cases r <;> exact id
    · rcases List.mem_map.mp hforward with ⟨_, _, rfl⟩
      cases r <;> exact id
  have hflat : (Holding.serviceOwners env request target localPort remotePort
        specs).flatten =
      reverseForward env localPort remotePort :: serviceProcess env request ::
        ([sshTunnel env request target, controlPlaneTunnel env request target] ++
          remoteTunnels specs) := by
    simp [Holding.serviceOwners]
  refine ⟨⟨h.sound.owners h.releases ?_ ?_, h.asked⟩, h.releases, hscope⟩
  · have hheld : ledger.held =
        reverseForward env localPort remotePort :: serviceProcess env request ::
          (remoteTunnels specs ++
            [sshTunnel env request target, controlPlaneTunnel env request target]) := by
      simp [Ledger.held, h.scope]
    rw [hscope, hflat, hheld]
    exact (List.perm_append_comm.cons _).cons _
  · rw [hscope, hflat, List.pairwise_cons, List.pairwise_cons]
    refine ⟨fun other _ => not_needs_reverse other, fun other h => htail other h _, ?_⟩
    exact List.pairwise_of_forall_mem_list fun first _ later hlater => htail later hlater first

variable (env request) in
theorem triple_reachControlPlane (context : BastionContext) :
    Triple (Opening env request []) (reachControlPlane env request context)
      (fun found ledger => env.bastion = some found.1 ∧
        Opening env request [[controlPlaneTunnel env request found.1]] ledger)
      (Failing env request) := by
  refine (triple_attempt _ .pluginAvailable).bind fun _ => ?_
  refine (triple_attempt _ .portFree).bind fun _ => ?_
  refine (triple_attemptIf _ _ .bootstrap).bind fun _ => ?_
  refine (triple_attempt _ .newProvisioner).bind fun _ => ?_
  refine (triple_outcome _ (locateBastion env context)).bind fun target =>
    Triple.of_fact fun hlocate => ?_
  have htarget := locateBastion_ok hlocate
  have hasked : Asked env request (controlPlaneTunnel env request target) :=
    ⟨htarget, rfl, Or.inl ⟨rfl, rfl⟩⟩
  refine (triple_start hasked fun _ h => absurd h List.not_mem_nil).bind fun _ => ?_
  refine (triple_attempt _ .controlPlaneReady).bind fun _ => ?_
  exact Triple.pure fun ledger h => ⟨htarget, h⟩

theorem triple_openSession {target : String} (htarget : env.bastion = some target)
    (endpoint : BastionEndpoint) {localPort : UInt16}
    (hport : request.localServicePort = some localPort) (remotePort : UInt16) :
    Triple (Opening env request [[controlPlaneTunnel env request target]])
      (openSession env request target endpoint localPort remotePort)
      (fun result ledger => Holds env request result.1 ledger)
      (Failing env request) := by
  have hssh : Asked env request (sshTunnel env request target) :=
    ⟨htarget, rfl, Or.inr ⟨rfl, rfl⟩⟩
  have hbase : OnlyTunnels
      [[sshTunnel env request target], [controlPlaneTunnel env request target]] := by
    intro other hother
    simp only [List.flatten_cons, List.flatten_nil, List.append_nil, List.singleton_append,
      List.mem_cons, List.not_mem_nil, or_false] at hother
    rcases hother with rfl | rfl
    · exact ⟨_, _, rfl⟩
    · exact ⟨_, _, rfl⟩
  refine (triple_start hssh ?_).bind fun _ => ?_
  · intro other hother
    rw [List.mem_singleton.mp hother]
    exact id
  refine (triple_attempt _ .sshReady).bind fun _ => ?_
  refine (triple_attempt _ .statePath).bind fun _ => ?_
  refine (triple_attempt _ .loadState).bind fun _ => ?_
  refine (Owning.triple_declare fun _ h => h.declare).bind fun _ => ?_
  refine (triple_openForwards htarget false hbase 0 request.forwardPorts
    (fun _ h => h) []).bind fun owned => Triple.of_exists fun specs =>
      Triple.of_fact fun howned => ?_
  rw [List.nil_append]
  have hservice : Asked env request (serviceProcess env request) := ⟨rfl, rfl⟩
  refine (triple_start hservice fun other h =>
    not_needs_of_tunnels hbase h _).bind fun _ => ?_
  refine (triple_attemptIf _ _ .healthy).bind fun _ => ?_
  have hreverse : Asked env request (reverseForward env localPort remotePort) :=
    ⟨rfl, hport⟩
  refine (triple_start hreverse fun other _ => not_needs_reverse other).bind fun _ => ?_
  refine (triple_outcome _ (recordSession env _)).bind fun state =>
    Triple.of_fact fun _ => ?_
  refine (Owning.triple_handOver fun ledger h => h.serviceOwners).bind fun _ => ?_
  exact Triple.pure fun ledger h =>
    Holds.service target endpoint localPort remotePort specs rfl rfl rfl howned h

theorem triple_workerForwards (context : BastionContext) :
    Triple (Opening env request [[]]) (workerForwards env request context)
      (fun owned ledger => exists specs,
        specs.map RemoteHostForwardSpec.localPort = owned ∧
          Opening env request [remoteTunnels specs] ledger)
      (Failing env request) := by
  rw [workerForwards]
  split
  · exact Triple.pure fun ledger h => ⟨[], rfl, h⟩
  · refine (triple_attempt _ .newProvisioner).bind fun _ => ?_
    refine (triple_outcome _ (locateBastion env context)).bind fun target =>
      Triple.of_fact fun hlocate => ?_
    refine (triple_attempt _ .statePath).bind fun _ => ?_
    refine (triple_attempt _ .loadState).bind fun _ => ?_
    exact triple_openForwards (locateBastion_ok hlocate) true
      (fun other h => absurd h List.not_mem_nil) 0 request.forwardPorts (fun _ h => h) []

variable (env request) in
theorem triple_upWorker (context : BastionContext) :
    Triple (Opening env request []) (upWorker env request context)
      (fun result ledger => Holds env request result.1 ledger)
      (Failing env request) := by
  refine (triple_attemptIf _ _ .pluginAvailable).bind fun _ => ?_
  refine (triple_attemptIf _ _ .bootstrap).bind fun _ => ?_
  refine (Owning.triple_declare fun _ h => h.declare).bind fun _ => ?_
  refine (triple_workerForwards context).bind fun owned =>
    Triple.of_exists fun specs => Triple.of_fact fun howned => ?_
  have hservice : Asked env request (serviceProcess env request) := ⟨rfl, rfl⟩
  have hbase : OnlyTunnels [] := fun other h => absurd h List.not_mem_nil
  refine (triple_start hservice fun other h =>
    not_needs_of_tunnels hbase h _).bind fun _ => ?_
  refine (triple_outcome _ (recordSession env _)).bind fun state =>
    Triple.of_fact fun _ => ?_
  exact Triple.pure fun ledger h => Holds.worker specs rfl rfl rfl howned h

variable {world : Type} {serde : SerdeJson}
  {exchange : world -> BastionEndpoint -> Bytes -> Except String Bytes × world}
  {context : BastionContext}

theorem triple_function {value : Type} {scope : List (List Resource)}
    {body : Owning Resource UpError value} {post : value -> Ledger Resource -> Prop}
    (h : Triple (Opening env request scope) body post (Failing env request)) :
    Triple (Opening env request scope) (Owning.function body) post
      (Ended env request) := by
  refine Owning.triple_function h ?_
  intro e ledger hfailing
  rcases hfailing with ⟨scope, hopening⟩
  exact hopening.ended e

variable (env request context serde exchange) in
theorem upService_account (bastion : world) :
    match Holding.upService env serde exchange request context bastion with
    | ((.ok (session, _), _), ledger) => Holds env request session ledger
    | ((.error e, _), ledger) => Ended env request e ledger := by
  unfold Holding.upService
  cases hport : request.localServicePort with
  | none =>
      have hworker := triple_function (triple_upWorker env request context)
      cases hexec : (Owning.function (upWorker env request context)).exec
          (.empty : Ledger Resource) with
      | mk result ledger =>
          cases result with
          | ok found => exact hworker.of_ok opening_empty hexec
          | error e => exact hworker.of_error opening_empty hexec
  | some localPort =>
      have hreach := triple_function (triple_reachControlPlane env request context)
      cases hexec : (Owning.function (reachControlPlane env request context)).exec
          (.empty : Ledger Resource) with
      | mk reached ledger =>
          cases reached with
          | error e => exact hreach.of_error opening_empty hexec
          | ok found =>
              have hfound := hreach.of_ok opening_empty hexec
              dsimp only
              cases register (exchange bastion) serde found.2 request.registration with
              | mk registered after =>
                  cases registered with
                  | error e => exact hfound.right.ended (.register e)
                  | ok response =>
                      have hopen := triple_function (triple_openSession hfound.left found.2
                        hport response.remotePort)
                      dsimp only
                      cases hsession : (Owning.function (openSession env request found.1
                          found.2 localPort response.remotePort)).exec ledger with
                      | mk result final =>
                          cases result with
                          | ok opened => exact hopen.of_ok hfound.right hsession
                          | error e => exact hopen.of_error hfound.right hsession

end Accounts

end Holding

section

variable {world : Type} (env : UpEnvironment) (serde : SerdeJson)
  (exchange : world -> BastionEndpoint -> Bytes -> Except String Bytes × world)

/-- Whichever step fails, everything the `up` had started is ended, each once and
nothing before what needs it; where none fails, the session owns it all. -/
theorem up_accounts (request : UpRequest) (context : BastionContext) (bastion : world)
    {result : Except UpError (ActiveSession × State)} {after : world}
    {ledger : Ledger Resource}
    (hrun : Holding.upService env serde exchange request context bastion =
      ((result, after), ledger)) :
    upService env serde exchange request context bastion = (result, after) ∧
      ledger.Sound Resource.needs ∧
      (forall r, r ∈ ledger.acquisitions -> Holding.Asked env request r) ∧
      match result with
      | .error _ => ledger.held = []
      | .ok (session, _) => ledger.releases = [] ∧ Holding.Holds env request session ledger := by
  have hsame := Holding.upService_outcome env request context serde exchange bastion
  have haccount := Holding.upService_account env request serde exchange context bastion
  rw [hrun] at hsame haccount
  refine ⟨hsame.symm, ?_⟩
  cases result with
  | error e => exact ⟨haccount.left.sound, haccount.left.asked, haccount.right⟩
  | ok found =>
      have hheld : Holding.Holds env request found.1 ledger := haccount
      have hopening : exists scope, Holding.Opening env request scope ledger := by
        cases hheld with
        | service target endpoint localPort remotePort specs _ _ _ _ hopening =>
            exact ⟨_, hopening⟩
        | worker specs _ _ _ _ hopening => exact ⟨_, hopening⟩
      rcases hopening with ⟨scope, hopening⟩
      exact ⟨hopening.sound, hopening.asked, hopening.releases, hheld⟩

end

def aliceWorker : UpRequest where
  user := "alice"
  service := "worker"
  region := "us-east-1"
  localServicePort := none
  runCommand := "./worker"
  healthCheckPath := none
  forwardPorts := ["5432:db.internal:5432"]
  bootstrapCommand := none

def databaseTunnel : Resource :=
  .remoteTunnel
    { target := "i-0123456789abcdef0"
      remoteHost := "db.internal"
      remotePort := 5432
      localPort := 5432
      region := "us-east-1" }

def tunnelThenFailure : Ledger Resource where
  scope := []
  events := [.acquired databaseTunnel, .released databaseTunnel]

theorem up_accounts_aliceWorker :
    Holding.upService (failingAt (some .spawnService)) Bastion.serdeJson
        (fun (world : Unit) _ _ => (.error "connection refused", world)) aliceWorker
        ⟨"demo"⟩ () =
      ((.error (.step .spawnService "connection refused"), ()), tunnelThenFailure) ∧
    tunnelThenFailure.Sound Resource.needs ∧ tunnelThenFailure.held = [] := by
  have hrun : Holding.upService (failingAt (some .spawnService)) Bastion.serdeJson
        (fun (world : Unit) _ _ => (.error "connection refused", world)) aliceWorker
        ⟨"demo"⟩ () =
      ((.error (.step .spawnService "connection refused"), ()), tunnelThenFailure) := by
    decide +kernel
  have haccounts := up_accounts (failingAt (some .spawnService)) Bastion.serdeJson
    (fun (world : Unit) _ _ => (.error "connection refused", world)) aliceWorker ⟨"demo"⟩
    () hrun
  exact ⟨hrun, haccounts.right.left, haccounts.right.right.right⟩

end Laptop

end Ephemwork
