import Ephemwork.Foundation.Fallible
import Ephemwork.Laptop.Commands
import Ephemwork.Laptop.Rpc

/-!
# Failing after the registration

The registration is the first lasting effect of an `up`, and only the session
that the last step returns knows how to undo it.  An `up` that fails in between
leaves the pair registered.
-/

namespace Ephemwork

open Foundation
open Bastion

namespace Laptop

/-!
# When the steps succeed
-/

section

variable (env : UpEnvironment)

theorem attempt_eq_ok_iff (step : UpStep) (value : Unit) :
    env.attempt step = .ok value <-> env.failure step = none := by
  unfold UpEnvironment.attempt
  cases env.failure step with
  | none => simp
  | some message => simp

theorem attemptIf_eq_ok_iff (condition : Bool) (step : UpStep)
    (value : Unit) :
    env.attemptIf condition step = .ok value <->
      (condition = true -> env.failure step = none) := by
  cases condition with
  | true => simp [UpEnvironment.attemptIf, attempt_eq_ok_iff]
  | false => simp [UpEnvironment.attemptIf]

/-- An entry of `forward_ports` is well formed, and a sibling session forwards
the port or the forward can be opened. -/
def ForwardOpens (testFree : Bool) (state : State) (user : String)
    (index : Nat) (raw : String) : Prop :=
  exists spec reused, parseForwardPortSpec raw = .ok spec ∧
    checkForwardReuse env state user spec = .ok reused ∧
    (reused = false ->
      (testFree = true -> env.failure (.forwardPortFree index) = none) ∧
      env.failure (.openForward index) = none ∧
      env.failure (.forwardReady index) = none)

theorem openForwards_cons_eq_ok_iff (testFree : Bool) (state : State)
    (user : String) (index : Nat) (raw : String) (rest : List String) :
    (exists owned,
      openForwards env testFree state user index (raw :: rest) = .ok owned) <->
      ForwardOpens env testFree state user index raw ∧
        exists owned,
          openForwards env testFree state user (index + 1) rest =
            .ok owned := by
  constructor
  · intro h
    rcases h with ⟨owned, h⟩
    cases hspec : parseForwardPortSpec raw with
    | error e =>
        simp only [openForwards, hspec] at h
        cases h
    | ok spec =>
        simp only [openForwards, hspec, bind_eq_ok_iff] at h
        rcases h with ⟨reused, hreused, h⟩
        cases reused with
        | true => exact ⟨⟨spec, true, hspec, hreused, by simp⟩, owned, h⟩
        | false =>
            simp only [Bool.false_eq_true, if_false, bind_eq_ok_iff,
              attempt_eq_ok_iff, attemptIf_eq_ok_iff] at h
            rcases h with ⟨_, hfree, _, hopen, _, hready, tail, hrest, _⟩
            exact ⟨⟨spec, false, hspec, hreused,
              fun _ => ⟨hfree, hopen, hready⟩⟩, tail, hrest⟩
  · intro h
    rcases h with ⟨⟨spec, reused, hspec, hreused, hsteps⟩, owned, hrest⟩
    simp only [openForwards, hspec, bind_eq_ok_iff]
    cases reused with
    | true => exact ⟨owned, true, hreused, hrest⟩
    | false =>
        rcases hsteps rfl with ⟨hfree, hopen, hready⟩
        refine ⟨spec.localPort :: owned, false, hreused, ?_⟩
        simp only [Bool.false_eq_true, if_false, bind_eq_ok_iff,
          attempt_eq_ok_iff, attemptIf_eq_ok_iff]
        exact ⟨(), hfree, (), hopen, (), hready, owned, hrest, rfl⟩

theorem openForwards_eq_ok_iff (testFree : Bool) (state : State)
    (user : String) (index : Nat) (specs : List String) :
    (exists owned,
      openForwards env testFree state user index specs = .ok owned) <->
      forall n raw, specs[n]? = some raw ->
        ForwardOpens env testFree state user (index + n) raw := by
  induction specs generalizing index with
  | nil => simp [openForwards]
  | cons raw rest ih =>
      rw [openForwards_cons_eq_ok_iff, ih]
      constructor
      · intro h n raw' hget
        cases n with
        | zero =>
            cases hget
            exact h.left
        | succ n =>
            have hrest := h.right n raw' hget
            rw [Nat.add_right_comm] at hrest
            exact hrest
      · intro h
        refine ⟨h 0 raw rfl, ?_⟩
        intro n raw' hget
        rw [Nat.add_right_comm]
        exact h (n + 1) raw' hget

structure Reaches (request : UpRequest) : Prop where
  pluginAvailable : env.failure .pluginAvailable = none
  portFree : env.failure .portFree = none
  bootstrap : request.bootstrapCommand.isSome = true ->
    env.failure .bootstrap = none
  newProvisioner : env.failure .newProvisioner = none
  findInstance : env.failure .findInstance = none
  bastion : env.bastion.isSome = true
  openControlPlane : env.failure .openControlPlane = none
  controlPlaneReady : env.failure .controlPlaneReady = none

structure Completes (request : UpRequest) : Prop where
  openSsh : env.failure .openSsh = none
  sshReady : env.failure .sshReady = none
  statePath : env.failure .statePath = none
  loadState : env.failure .loadState = none
  forwards : forall index raw, request.forwardPorts[index]? = some raw ->
    ForwardOpens env false env.state request.user index raw
  spawnService : env.failure .spawnService = none
  healthy : request.healthCheckPath.isSome = true ->
    env.failure .healthy = none
  openReverse : env.failure .openReverse = none
  recordPath : env.failure .recordPath = none
  recordLoad : env.failure .recordLoad = none
  recordSave : env.failure .recordSave = none

theorem locateBastion_eq_ok_iff (context : BastionContext) :
    (exists target, locateBastion env context = .ok target) <->
      env.failure .findInstance = none ∧ env.bastion.isSome = true := by
  simp only [locateBastion, bind_eq_ok_iff, attempt_eq_ok_iff]
  cases env.bastion with
  | none => simp
  | some target => simp

theorem reachControlPlane_eq_ok_iff (request : UpRequest)
    (context : BastionContext) (endpoint : BastionEndpoint) :
    reachControlPlane env request context = .ok endpoint <->
      Reaches env request ∧
        endpoint = env.controlPlane := by
  simp only [reachControlPlane, bind_eq_ok_iff, attempt_eq_ok_iff,
    attemptIf_eq_ok_iff]
  constructor
  · intro h
    rcases h with ⟨_, hplugin, _, hport, _, hbootstrap, _, hprovisioner,
      target, hlocate, _, hopen, _, hready, hendpoint⟩
    have hfound := (locateBastion_eq_ok_iff env context).mp ⟨target, hlocate⟩
    cases hendpoint
    exact ⟨⟨hplugin, hport, hbootstrap, hprovisioner, hfound.left,
      hfound.right, hopen, hready⟩, rfl⟩
  · intro h
    rcases h with ⟨h, rfl⟩
    rcases (locateBastion_eq_ok_iff env context).mpr
      ⟨h.findInstance, h.bastion⟩ with ⟨target, hlocate⟩
    exact ⟨(), h.pluginAvailable, (), h.portFree, (), h.bootstrap, (),
      h.newProvisioner, target, hlocate, (), h.openControlPlane, (),
      h.controlPlaneReady, rfl⟩

theorem openSession_eq_ok_iff (request : UpRequest)
    (endpoint : BastionEndpoint) (localPort remotePort : UInt16) :
    (exists result,
      openSession env request endpoint localPort remotePort = .ok result) <->
      Completes env request := by
  have hforwards := openForwards_eq_ok_iff env false env.state request.user 0
    request.forwardPorts
  simp only [Nat.zero_add] at hforwards
  simp only [openSession, recordSession, bind_eq_ok_iff, attempt_eq_ok_iff,
    attemptIf_eq_ok_iff]
  constructor
  · intro h
    rcases h with ⟨_, _, hssh, _, hsshReady, _, hpath, _, hload, owned, howned,
      _, hspawn, _, hhealthy, _, hreverse, _, ⟨_, hrecordPath, _, hrecordLoad,
      _, hrecordSave, _⟩, _⟩
    exact ⟨hssh, hsshReady, hpath, hload, hforwards.mp ⟨owned, howned⟩, hspawn,
      hhealthy, hreverse, hrecordPath, hrecordLoad, hrecordSave⟩
  · intro h
    rcases hforwards.mpr h.forwards with ⟨owned, howned⟩
    exact ⟨_, (), h.openSsh, (), h.sshReady, (), h.statePath, (), h.loadState,
      owned, howned, (), h.spawnService, (), h.healthy, (), h.openReverse, _,
      ⟨(), h.recordPath, (), h.recordLoad, (), h.recordSave, rfl⟩, rfl⟩

theorem openSession_result {request : UpRequest} {endpoint : BastionEndpoint}
    {localPort remotePort : UInt16} {active : ActiveSession} {file : State}
    (h : openSession env request endpoint localPort remotePort =
      .ok (active, file)) :
    (active.user = request.user ∧ active.service = request.service ∧
      active.localPort = some localPort ∧ active.remotePort = some remotePort ∧
      active.pid = env.pid) ∧
    openForwards env false env.state request.user 0 request.forwardPorts =
      .ok active.forwardPorts ∧
    file = env.stateAtRecord.upsert
      (sessionFor env.now request.user request.service localPort remotePort
        (some env.pid) active.forwardPorts) := by
  simp only [openSession, recordSession, bind_eq_ok_iff] at h
  rcases h with ⟨_, _, _, _, _, _, _, _, owned, howned, _, _, _, _, _, _, state,
    ⟨_, _, _, _, _, _, hstate⟩, hresult⟩
  cases hstate
  cases hresult
  exact ⟨⟨rfl, rfl, rfl, rfl, rfl⟩, howned, rfl⟩

end

/-!
# What a failed `up` leaves
-/

def connect {world : Type} (serde : SerdeJson)
    (listener : MutationListener world) (overflowChecks : Bool)
    (network : forall wire, Arrival wire) (bastion : Registry × world) :
    BastionEndpoint -> Bytes -> Except String Bytes × Registry × world :=
  serve serde listener overflowChecks network bastion.1 bastion.2

section

variable {world : Type} {serde : SerdeJson}

section

variable {exchange : world -> BastionEndpoint -> Bytes ->
    Except String Bytes × world} {env : UpEnvironment} {request : UpRequest}
  {context : BastionContext} {bastion after : world} {localPort : UInt16}
  {endpoint : BastionEndpoint}

theorem upService_of_unreached {e : UpError}
    (hport : request.localServicePort = some localPort)
    (hreach : reachControlPlane env request context = .error e) :
    upService env serde exchange request context bastion =
      (.error e, bastion) := by
  simp only [upService, hport, hreach]

theorem upService_of_refused {e : ClientError}
    (hport : request.localServicePort = some localPort)
    (hreach : reachControlPlane env request context = .ok endpoint)
    (hcall : register (exchange bastion) serde endpoint request.registration =
      (.error e, after)) :
    upService env serde exchange request context bastion =
      (.error (.register e), after) := by
  simp only [upService, hport, hreach, hcall]

theorem upService_of_registered {response : RegisterResponse}
    (hport : request.localServicePort = some localPort)
    (hreach : reachControlPlane env request context = .ok endpoint)
    (hcall : register (exchange bastion) serde endpoint request.registration =
      (.ok response, after)) :
    upService env serde exchange request context bastion =
      (openSession env request endpoint localPort response.remotePort,
        after) := by
  simp only [upService, hport, hreach, hcall]

end

section

variable (hregister : serde.registerRequest.Faithful)
  (hresponse : serde.registerResponse.Faithful)
  (listener : MutationListener world) (overflowChecks : Bool)
  (network : forall wire, Arrival wire) (env : UpEnvironment)
  (context : BastionContext) {request : UpRequest} {localPort : UInt16}
  (hport : request.localServicePort = some localPort)
  {bastion : Registry × world}

include hregister hresponse hport

/-- An `up` that is not admitted fails and leaves the registry as it was.  Any
other registers its pair, whatever becomes of the session. -/
theorem upService_cases :
    (¬ (Reaches env request ∧ Admitted serde overflowChecks network
        env.controlPlane bastion.1 request.registration) ∧
      exists e after,
        upService env serde (connect serde listener overflowChecks network)
          request context bastion = (.error e, after) ∧
        after.1 = bastion.1) ∨
    ((Reaches env request ∧ Admitted serde overflowChecks network
        env.controlPlane bastion.1 request.registration) ∧
      exists port after,
        bastion.1.register request.registration.key = (.ok port, after.1) ∧
        upService env serde (connect serde listener overflowChecks network)
          request context bastion =
          (openSession env request env.controlPlane localPort port,
            after)) := by
  have hhost : MessageHead.OneLine env.controlPlane.host.toList :=
    oneLine_localhost
  have hadmitted : (exists response after,
      register (connect serde listener overflowChecks network bastion) serde
        env.controlPlane request.registration = (.ok response, after)) <->
      Admitted serde overflowChecks network env.controlPlane bastion.1
        request.registration :=
    exists_register_serve_iff hregister hresponse listener hhost bastion.2
  cases hreach : reachControlPlane env request context with
  | error e =>
      refine Or.inl ⟨?_, e, bastion, upService_of_unreached hport hreach, rfl⟩
      intro h
      have hok := (reachControlPlane_eq_ok_iff env request context _).mpr
        ⟨h.left, rfl⟩
      rw [hreach] at hok
      cases hok
  | ok endpoint =>
      rcases (reachControlPlane_eq_ok_iff env request context endpoint).mp
        hreach with ⟨hreaches, rfl⟩
      rcases hcall : register
        (connect serde listener overflowChecks network bastion) serde
        env.controlPlane request.registration with ⟨answer, after⟩
      rcases register_serve hregister hresponse hhost hcall with
        ⟨response, rfl, _, hpair⟩ | ⟨⟨e, rfl⟩, hunchanged⟩
      · exact Or.inr ⟨⟨hreaches, hadmitted.mp ⟨response, after, hcall⟩⟩,
          response.remotePort, after, hpair,
          upService_of_registered hport hreach hcall⟩
      · refine Or.inl ⟨?_, _, after, upService_of_refused hport hreach hcall,
          hunchanged⟩
        intro h
        rcases hadmitted.mpr h.right with ⟨response, after', hok⟩
        have hsame := hok.symm.trans hcall
        cases hsame

/-- A failed `up` leaves the pair as absent as it found it if and only if nothing
fails after a registration that was admitted. -/
theorem failed_up_unregisters_iff
    (habsent : bastion.1.lookup request.registration.key = none) :
    (forall e after,
      upService env serde (connect serde listener overflowChecks network)
        request context bastion = (.error e, after) ->
      after.1.lookup request.registration.key = none) <->
    (Reaches env request ->
      Admitted serde overflowChecks network env.controlPlane bastion.1
        request.registration ->
      Completes env request) := by
  rcases upService_cases hregister hresponse listener overflowChecks network
    env context hport with
    ⟨hnot, e, after, hup, hunchanged⟩ | ⟨⟨hreaches, hadmits⟩, port, after,
      hpair, hup⟩
  · apply iff_of_true
    · intro e' after' hfails
      rw [hup] at hfails
      cases hfails
      rw [hunchanged]
      exact habsent
    · intro hreaches hadmits
      exact absurd ⟨hreaches, hadmits⟩ hnot
  · have hopen := openSession_eq_ok_iff env request env.controlPlane localPort
      port
    cases hresult : openSession env request env.controlPlane localPort port with
    | ok result =>
        refine iff_of_true ?_ fun _ _ => hopen.mp ⟨result, hresult⟩
        intro e after' hfails
        rw [hup, hresult] at hfails
        cases hfails
    | error e =>
        apply iff_of_false
        · intro hclean
          have hstored : (bastion.1.register
              request.registration.key).2.lookup request.registration.key =
              some port :=
            Registry.register_getElem?_self (by rw [hpair])
          rw [hpair, hclean e after (by rw [hup, hresult])] at hstored
          cases hstored
        · intro hcompletes
          rcases hopen.mpr (hcompletes hreaches hadmits) with ⟨result, hok⟩
          rw [hresult] at hok
          cases hok

end

end

def failingAt (failing : Option UpStep) : UpEnvironment where
  failure := fun step =>
    if failing = some step then some "connection refused" else none
  bastion := some "i-0123456789abcdef0"
  controlPlanePort := 40000
  sshPort := 40001
  state := State.default
  stateAtRecord := State.default
  alive := fun _ => true
  pid := 4242
  now := 0

def aliceUp : UpRequest where
  user := "alice"
  service := "api"
  region := "us-east-1"
  localServicePort := some 8000
  runCommand := "uvicorn app.main:app"
  healthCheckPath := none
  forwardPorts := []
  bootstrapCommand := none

theorem admitted_aliceUp (env : UpEnvironment) :
    Admitted serdeJson true Arrival.bytewise env.controlPlane Registry.default
      aliceUp.registration := by
  have hsize : (buildRequest env.controlPlane.host "/register"
      (serdeJson.registerRequest.encode aliceUp.registration)).length ≤
      maxRequest := by
    show (buildRequest "127.0.0.1" "/register"
      (serdeJson.registerRequest.encode aliceUp.registration)).length ≤
      maxRequest
    decide +kernel
  have hread := readRequest_of_fits oneLine_localhost isPath_register true
    hsize (Arrival.bytewise _)
  exact ⟨⟨_, hread⟩, by decide, Registry.exists_register_default _⟩

theorem failed_up_unregisters_iff_alice :
    aliceUp.localServicePort = some 8000 ∧
      ((forall e after,
        upService (failingAt none) serdeJson
          (connect serdeJson noopListener true Arrival.bytewise) aliceUp
          ⟨"demo"⟩ (Registry.default, ()) = (.error e, after) ->
        after.1.lookup aliceUp.registration.key = none) <->
      (Reaches (failingAt none) aliceUp ->
        Admitted serdeJson true Arrival.bytewise (failingAt none).controlPlane
          Registry.default aliceUp.registration ->
        Completes (failingAt none) aliceUp)) :=
  ⟨rfl, failed_up_unregisters_iff serdeJson_registerRequest_faithful
    serdeJson_registerResponse_faithful noopListener true Arrival.bytewise
    (failingAt none) ⟨"demo"⟩ rfl rfl⟩

/-- Alice's `up` fails to open the tunnel to the bastion's SSH and leaves her
service registered. -/
theorem failed_up_leaves_registration :
    ¬ forall (env : UpEnvironment) (context : BastionContext)
      (request : UpRequest) (localPort : UInt16) (registry : Registry) e after,
      request.localServicePort = some localPort ->
      registry.lookup request.registration.key = none ->
      upService env serdeJson
        (connect serdeJson noopListener true Arrival.bytewise) request context
        (registry, ()) = (.error e, after) ->
      after.1.lookup request.registration.key = none := by
  intro h
  have hport : aliceUp.localServicePort = some 8000 := rfl
  have hok : (Registry.default.register aliceUp.registration.key).1 =
      .ok 10000 := rfl
  have hcall : register (connect serdeJson noopListener true Arrival.bytewise
      (Registry.default, ())) serdeJson (failingAt (some .openSsh)).controlPlane
      aliceUp.registration =
      (.ok { remotePort := 10000 },
        (Registry.default.register aliceUp.registration.key).2, ()) :=
    register_serve_eq serdeJson_registerRequest_faithful
      serdeJson_registerResponse_faithful noopListener oneLine_localhost ()
      (admitted_aliceUp _) hok
  have hreach : reachControlPlane (failingAt (some .openSsh)) aliceUp ⟨"demo"⟩ =
      .ok (failingAt (some .openSsh)).controlPlane := rfl
  have hup : upService (failingAt (some .openSsh)) serdeJson
      (connect serdeJson noopListener true Arrival.bytewise) aliceUp ⟨"demo"⟩
      (Registry.default, ()) =
      (.error (.step .openSsh "connection refused"),
        (Registry.default.register aliceUp.registration.key).2, ()) :=
    upService_of_registered hport hreach hcall
  have hnone := h _ _ aliceUp 8000 Registry.default _ _ hport rfl hup
  rw [Registry.lookup, Registry.register_getElem?_self hok] at hnone
  cases hnone

end Laptop

end Ephemwork
