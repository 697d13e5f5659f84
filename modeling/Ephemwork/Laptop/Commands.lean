import Ephemwork.Laptop.Config
import Ephemwork.Laptop.BastionClient
import Ephemwork.Laptop.Ssm
import Ephemwork.Laptop.State

/-!
# The commands

`up`, `shutdown` and `down` of `src/commands.rs`.  What the machine and AWS do at
each step is given by an environment that says which steps fail and what the
others return; the calls to the bastion go through the connection to the control
plane.
-/

namespace Ephemwork

open Foundation
open Bastion (SerdeJson RegisterRequest)

namespace Laptop

/-!
# Requests
-/

structure UpRequest where
  user : String
  service : String
  region : String
  /-- `none` is a worker. -/
  localServicePort : Option UInt16
  runCommand : String
  healthCheckPath : Option String
  forwardPorts : List String
  bootstrapCommand : Option String
deriving DecidableEq, Repr

def UpRequest.registration (request : UpRequest) : RegisterRequest where
  user := request.user
  service := request.service

def lookupService (config : Config) (service : String) : Option ServiceConfig :=
  config.service.lookup service

inductive RequestError where
  /-- `service '{service}' not found in ephemwork.toml; known: {known}` -/
  | unknownService (service : String) (known : List String)
  | forwardPort (error : ForwardPortError)
deriving DecidableEq, Repr

def checkForwardPorts : List String -> Except RequestError Unit
  | [] => .ok ()
  | raw :: rest =>
      match parseForwardPortSpec raw with
      | .error e => .error (.forwardPort e)
      | .ok _ => checkForwardPorts rest

def UpRequest.fromConfig (config : Config) (service user : String) :
    Except RequestError UpRequest :=
  match lookupService config service with
  | none =>
      .error (.unknownService service
        ((config.service.map Prod.fst).mergeSort fun a b => decide (a ≤ b)))
  | some serviceConfig => do
      checkForwardPorts serviceConfig.forwardPorts
      return {
        user := user
        service := service
        region := config.tunnel.region
        localServicePort := serviceConfig.port
        runCommand := serviceConfig.runCommand
        healthCheckPath := serviceConfig.healthCheckPath
        forwardPorts := serviceConfig.forwardPorts
        bootstrapCommand := serviceConfig.bootstrapCommand }

structure BastionContext where
  projectName : String
deriving DecidableEq, Repr

def BastionContext.instanceName (context : BastionContext) : String :=
  "ephemwork-" ++ context.projectName ++ "-bastion"

/-!
# The environment of an `up`
-/

/-- The steps that can fail outside of the program, in the order in which they
are taken; a forward is known by its position in the list. -/
inductive UpStep where
  | pluginAvailable
  | portFree
  | bootstrap
  | newProvisioner
  | findInstance
  | openControlPlane
  | controlPlaneReady
  | openSsh
  | sshReady
  | statePath
  | loadState
  | forwardPortFree (index : Nat)
  | openForward (index : Nat)
  | forwardReady (index : Nat)
  | spawnService
  | healthy
  | openReverse
  | recordPath
  | recordLoad
  | recordSave
deriving DecidableEq, Repr

structure UpEnvironment where
  failure : UpStep -> Option String
  /-- The instance tagged with the project's name. -/
  bastion : Option String
  controlPlanePort : UInt16
  sshPort : UInt16
  /-- The state file when the forwards are opened. -/
  state : State
  /-- The state file when the session is recorded. -/
  stateAtRecord : State
  alive : UInt32 -> Bool
  pid : UInt32
  now : Int

inductive UpError where
  | step (step : UpStep) (message : String)
  | noBastion (name : String)
  | register (error : ClientError)
  | forwardPort (error : ForwardPortError)
  /-- The forward's owner is a session whose process is gone. -/
  | staleForward (localPort : UInt16) (owner : String) (pid : Option UInt32)
deriving DecidableEq, Repr

def UpEnvironment.attempt (env : UpEnvironment) (step : UpStep) :
    Except UpError Unit :=
  match env.failure step with
  | none => .ok ()
  | some message => .error (.step step message)

def UpEnvironment.controlPlane (env : UpEnvironment) : BastionEndpoint where
  host := "127.0.0.1"
  port := env.controlPlanePort

def UpEnvironment.attemptIf (env : UpEnvironment) (condition : Bool)
    (step : UpStep) : Except UpError Unit :=
  if condition then env.attempt step else .ok ()

/-!
# Steps
-/

section

variable (env : UpEnvironment)

def locateBastion (context : BastionContext) : Except UpError String := do
  env.attempt .findInstance
  match env.bastion with
  | none => .error (.noBastion context.instanceName)
  | some target => .ok target

def checkForwardReuse (state : State) (user : String)
    (spec : ForwardPortSpec) : Except UpError Bool :=
  match state.forwardOwner user spec.localPort with
  | none => .ok false
  | some owner =>
      let pid := owner.pid.getD 0
      if pid = 0 ∨ env.alive pid = false then
        .error (.staleForward spec.localPort owner.service owner.pid)
      else
        .ok true

/-- Open the forwards no sibling has; returns the local ports of those that were
opened.  Only a worker tests first that the port is free. -/
def openForwards (testFree : Bool) (state : State) (user : String) :
    Nat -> List String -> Except UpError (List UInt16)
  | _, [] => .ok []
  | index, raw :: rest =>
      match parseForwardPortSpec raw with
      | .error e => .error (.forwardPort e)
      | .ok spec => do
          let reused <- checkForwardReuse env state user spec
          if reused then
            openForwards testFree state user (index + 1) rest
          else do
            env.attemptIf testFree (.forwardPortFree index)
            env.attempt (.openForward index)
            env.attempt (.forwardReady index)
            let owned <- openForwards testFree state user (index + 1) rest
            return spec.localPort :: owned

def sessionFor (now : Int) (user service : String)
    (localPort remotePort : UInt16) (pid : Option UInt32)
    (forwardLocalPorts : List UInt16) : Session where
  user := user
  service := service
  startedAt := now
  localPort := localPort
  remotePort := remotePort
  pid := pid
  forwardLocalPorts := forwardLocalPorts

def recordSession (session : Session) : Except UpError State := do
  env.attempt .recordPath
  env.attempt .recordLoad
  env.attempt .recordSave
  return env.stateAtRecord.upsert session

structure ActiveSession where
  user : String
  service : String
  localPort : Option UInt16
  remotePort : Option UInt16
  pid : UInt32
  /-- The forwards it opened and will close. -/
  forwardPorts : List UInt16
  controlPlane : Option BastionEndpoint
deriving DecidableEq, Repr

def ActiveSession.headerValue (session : ActiveSession) : String :=
  session.user ++ ":" ++ session.service

def reachControlPlane (request : UpRequest) (context : BastionContext) :
    Except UpError BastionEndpoint := do
  env.attempt .pluginAvailable
  env.attempt .portFree
  env.attemptIf request.bootstrapCommand.isSome .bootstrap
  env.attempt .newProvisioner
  let _ <- locateBastion env context
  env.attempt .openControlPlane
  env.attempt .controlPlaneReady
  return env.controlPlane

/-- Everything after the registration: tunnels, forwards, the service, and the
record of the session.  Returns the session and the state file. -/
def openSession (request : UpRequest) (endpoint : BastionEndpoint)
    (localPort remotePort : UInt16) :
    Except UpError (ActiveSession × State) := do
  env.attempt .openSsh
  env.attempt .sshReady
  env.attempt .statePath
  env.attempt .loadState
  let owned <- openForwards env false env.state request.user 0
    request.forwardPorts
  env.attempt .spawnService
  env.attemptIf request.healthCheckPath.isSome .healthy
  env.attempt .openReverse
  let state <- recordSession env
    (sessionFor env.now request.user request.service localPort remotePort
      (some env.pid) owned)
  return (
    { user := request.user
      service := request.service
      localPort := some localPort
      remotePort := some remotePort
      pid := env.pid
      forwardPorts := owned
      controlPlane := some endpoint }, state)

def upWorker (request : UpRequest) (context : BastionContext) :
    Except UpError (ActiveSession × State) := do
  let needsBastion := decide (request.forwardPorts ≠ [])
  env.attemptIf needsBastion .pluginAvailable
  env.attemptIf request.bootstrapCommand.isSome .bootstrap
  let owned <-
    if needsBastion then do
      env.attempt .newProvisioner
      let _ <- locateBastion env context
      env.attempt .statePath
      env.attempt .loadState
      openForwards env true env.state request.user 0 request.forwardPorts
    else
      .ok []
  env.attempt .spawnService
  let state <- recordSession env
    (sessionFor env.now request.user request.service 0 0 (some env.pid) owned)
  return (
    { user := request.user
      service := request.service
      localPort := none
      remotePort := none
      pid := env.pid
      forwardPorts := owned
      controlPlane := none }, state)

variable {world : Type} (serde : SerdeJson)
  (exchange : world -> BastionEndpoint -> Bytes -> Except String Bytes × world)

/-- `up` as a function of the other side, which only the registration
touches. -/
def upService (request : UpRequest) (context : BastionContext)
    (bastion : world) : Except UpError (ActiveSession × State) × world :=
  match request.localServicePort with
  | none => (upWorker env request context, bastion)
  | some localPort =>
      match reachControlPlane env request context with
      | .error e => (.error e, bastion)
      | .ok endpoint =>
          match register (exchange bastion) serde endpoint
              request.registration with
          | (.error e, after) => (.error (.register e), after)
          | (.ok response, after) =>
              (openSession env request endpoint localPort response.remotePort,
                after)

/-!
# Ending sessions
-/

/-- A failed deregistration is only logged. -/
def deregisterBestEffort (endpoint : BastionEndpoint) (user service : String)
    (bastion : world) : world :=
  (deregister (exchange bastion) serde endpoint
    { user := user, service := service }).2

/-- What `shutdown` does to the bastion's registry.  Only afterwards it drops the
reverse forward, the service and the tunnels. -/
def ActiveSession.shutdown (session : ActiveSession) (bastion : world) :
    world :=
  match session.controlPlane with
  | some endpoint =>
      deregisterBestEffort serde exchange endpoint session.user session.service
        bastion
  | none => bastion

end

/-- The steps of a `down` that can fail outside of the program. -/
inductive DownStep where
  | currentUser
  | loadConfig
  | statePath
  | loadState
  | pluginAvailable
  | newProvisioner
  | findInstance
  | openControlPlane
  | controlPlaneReady
  | forgetLoad
  | forgetSave
deriving DecidableEq, Repr

structure DownEnvironment where
  failure : DownStep -> Option String
  user : String
  bastion : Option String
  controlPlanePort : UInt16
  /-- The state file when the sessions are listed. -/
  state : State
  /-- The state file when they are removed. -/
  stateAtForget : State

structure DownError where
  step : DownStep
  message : String
deriving DecidableEq, Repr

def DownEnvironment.attempt (env : DownEnvironment) (step : DownStep) :
    Except DownError Unit :=
  match env.failure step with
  | none => .ok ()
  | some message => .error { step := step, message := message }

/-- Whether a session is of the service; `none` is every service. -/
def ofService (service : Option String) (session : Session) : Bool :=
  service.all fun name => session.service == name

def downCandidates (state : State) (user : String) (service : Option String) :
    List Session :=
  (state.forUser user).filter (ofService service)

def downForgets (user : String) (service : Option String) (session : Session) :
    Bool :=
  session.user == user && ofService service session

section

variable (env : DownEnvironment)

/-- `none` where there is no bastion to deregister from. -/
def reachForDown : Except DownError (Option BastionEndpoint) := do
  env.attempt .pluginAvailable
  env.attempt .newProvisioner
  env.attempt .findInstance
  match env.bastion with
  | none => return none
  | some _ => do
      env.attempt .openControlPlane
      env.attempt .controlPlaneReady
      return some { host := "127.0.0.1", port := env.controlPlanePort }

variable {world : Type} (serde : SerdeJson)
  (exchange : world -> BastionEndpoint -> Bytes -> Except String Bytes × world)

def deregisterViaBastion (user : String) (sessions : List Session)
    (bastion : world) : Except DownError Unit × world :=
  match reachForDown env with
  | .error e => (.error e, bastion)
  | .ok none => (.ok (), bastion)
  | .ok (some endpoint) =>
      (.ok (), sessions.foldl (fun after session =>
        deregisterBestEffort serde exchange endpoint user session.service after)
        bastion)

def forgetSessions (pred : Session -> Bool) :
    Except DownError (List Session × State) := do
  env.attempt .forgetLoad
  env.attempt .forgetSave
  return env.stateAtForget.removeWhere pred

def loadCandidates (service : Option String) :
    Except DownError (List Session) := do
  env.attempt .currentUser
  env.attempt .loadConfig
  env.attempt .statePath
  env.attempt .loadState
  return downCandidates env.state env.user service

/-- The sessions `down` removes, and the state file it leaves.  An error of the
deregistration is only logged. -/
def downService (service : Option String) (bastion : world) :
    Except DownError (List Session × State) × world :=
  match loadCandidates env service with
  | .error e => (.error e, bastion)
  | .ok [] => (.ok ([], env.state), bastion)
  | .ok candidates =>
      let (_, after) :=
        deregisterViaBastion env serde exchange env.user candidates bastion
      (forgetSessions env (downForgets env.user service), after)

end

end Laptop

end Ephemwork
