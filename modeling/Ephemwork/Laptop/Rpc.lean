import Ephemwork.Laptop.Delivery

/-!
# The call from the laptop to the bastion

The client's two calls composed with the server's reading loop, router and
answer.  What the client concludes from the answer is true of the server's
registry.
-/

namespace Ephemwork

open Foundation
open Bastion

namespace Laptop

/-!
# What the server answers
-/

/-- An answer has one of the status codes the handlers use and a reason within
its line. -/
structure IsAnswer (response : Response) : Prop where
  status : response.status = 200 ∨ 400 ≤ response.status
  reason : MessageHead.OneLine response.reason.toList
  contentType : MessageHead.OneLine response.contentType.toList

theorem isAnswer_json {status : UInt16} {reason : String} (body : Bytes)
    (hstatus : status = 200 ∨ 400 ≤ status)
    (hreason : MessageHead.OneLine reason.toList) :
    IsAnswer (Response.json status reason body) := by
  have htype : MessageHead.OneLine "application/json".toList :=
    MessageHead.OneLine.of_check rfl
  exact ⟨hstatus, hreason, htype⟩

variable {world : Type}

theorem isAnswer_route (serde : SerdeJson) (listener : MutationListener world)
    (request : Request) (registry : Registry) (state : world) :
    IsAnswer (route serde listener request registry state).1 := by
  have htext : MessageHead.OneLine "text/plain".toList :=
    MessageHead.OneLine.of_check rfl
  have hok : MessageHead.OneLine "OK".toList := MessageHead.OneLine.of_check rfl
  have hbad : MessageHead.OneLine "Bad Request".toList :=
    MessageHead.OneLine.of_check rfl
  have hunavailable : MessageHead.OneLine "Service Unavailable".toList :=
    MessageHead.OneLine.of_check rfl
  have hmissing : MessageHead.OneLine "Not Found".toList :=
    MessageHead.OneLine.of_check rfl
  unfold route
  split
  · exact ⟨Or.inl rfl, hok, htext⟩
  · unfold handleRegister
    split
    · exact isAnswer_json _ (Or.inr (by decide)) hbad
    · split
      · exact isAnswer_json _ (Or.inr (by decide)) hbad
      · split
        · exact isAnswer_json _ (Or.inl rfl) hok
        · exact isAnswer_json _ (Or.inr (by decide)) hunavailable
  · unfold handleDeregister
    split
    · exact isAnswer_json _ (Or.inr (by decide)) hbad
    · split
      · exact isAnswer_json _ (Or.inl rfl) hok
      · exact isAnswer_json _ (Or.inl rfl) hok
  · exact isAnswer_json _ (Or.inl rfl) hok
  · exact isAnswer_json _ (Or.inr (by decide)) hmissing

/-!
# The whole call
-/

/-- The server as the client sees it: each connection's bytes arrive as the
network makes them. -/
def serve (serde : SerdeJson) (listener : MutationListener world)
    (overflowChecks : Bool) (network : forall wire, Arrival wire)
    (registry : Registry) (state : world) :
    BastionEndpoint -> Bytes -> Except String Bytes × Registry × world :=
  fun _ wire =>
    let (raw, after) := handleConnection serde listener overflowChecks
      (network wire).stream registry state
    (.ok raw, after)

section

variable (serde : SerdeJson) (listener : MutationListener world)
  (overflowChecks : Bool) (network : forall wire, Arrival wire)
  (endpoint : BastionEndpoint) (path : String) (body : Bytes)
  (registry : Registry) (state : world)

/-- A post fails without effect, or the request is routed as it was sent and the
client returns a 200 answer and fails on any other. -/
theorem postJson_serve (hhost : MessageHead.OneLine endpoint.host.toList)
    (hpath : IsPath path) :
    (exists e, postJson (serve serde listener overflowChecks network registry
        state) endpoint path body = (.error e, registry, state)) ∨
    exists response changed after,
      Routed serde listener (Request.post path body) registry state
        (response, changed, after) ∧
      ((response.status = 200 ∧
          postJson (serve serde listener overflowChecks network registry state)
            endpoint path body =
            (.ok { status := 200, body := response.body }, changed, after)) ∨
        (response.status ≠ 200 ∧
          exists e,
            postJson (serve serde listener overflowChecks network registry
              state) endpoint path body = (.error e, changed, after))) := by
  cases hread : readRequest overflowChecks
      (network (buildRequest endpoint.host path body)).stream with
  | error e =>
      refine Or.inl ⟨.malformed "malformed http response: no header terminator",
        ?_⟩
      simp only [postJson, serve, handleConnection, hread]
      rfl
  | ok request =>
      have hrequest := readRequest_eq_ok hhost hpath _ hread
      have hrouted := route_routed serde listener request registry state
      have hanswer := isAnswer_route serde listener request registry state
      rw [hrequest] at hrouted hanswer hread
      rcases hroute : route serde listener (Request.post path body) registry
        state with ⟨response, changed, after⟩
      rw [hroute] at hrouted hanswer
      have hparse := parseResponse_toWire hanswer.reason hanswer.contentType
      refine Or.inr ⟨response, changed, after, hrouted, ?_⟩
      simp only [postJson, serve, handleConnection, hread, hroute, hparse]
      rcases hanswer.status with hok | hfailed
      · simp only at hok
        simp [hok]
      · simp only at hfailed
        have hrange : ¬ (200 ≤ response.status ∧ response.status < 300) :=
          fun h => absurd (UInt16.lt_of_le_of_lt hfailed h.right) (by decide)
        have hne : response.status ≠ 200 := by
          intro heq
          rw [heq] at hfailed
          exact absurd hfailed (by decide)
        simp only [if_neg hrange]
        exact Or.inr ⟨hne, _, rfl⟩

end

theorem not_deregisters_register (serde : SerdeJson) (body : Bytes)
    (key : Key) :
    (Request.post "/register" body).deregisters serde ≠ some key := by
  intro h
  have hpath : "/register" = "/deregister" :=
    (Request.deregisters_eq_some h).right.left
  revert hpath
  decide

theorem register_serve {serde : SerdeJson}
    (hregister : serde.registerRequest.Faithful)
    (hresponse : serde.registerResponse.Faithful)
    {listener : MutationListener world} {overflowChecks : Bool}
    {network : forall wire, Arrival wire} {endpoint : BastionEndpoint}
    (hhost : MessageHead.OneLine endpoint.host.toList)
    {registry changed : Registry} {state after : world}
    {request : RegisterRequest} {answer : Except ClientError RegisterResponse}
    (hcall : register
      (serve serde listener overflowChecks network registry state) serde
      endpoint request = (answer, changed, after)) :
    (exists response, answer = .ok response ∧
      (Text.isBlank request.user.toList ||
        Text.isBlank request.service.toList) = false ∧
      registry.register request.key = (.ok response.remotePort, changed)) ∨
    (exists e, answer = .error e) ∧ changed = registry := by
  rcases postJson_serve serde listener overflowChecks network endpoint
    "/register" (serde.registerRequest.encode request) registry state hhost
    isPath_register with
    ⟨e, hpost⟩ | ⟨response, changed', after', hrouted, hpost⟩
  · rw [register, hpost] at hcall
    cases hcall
    exact Or.inr ⟨⟨e, rfl⟩, rfl⟩
  · rw [register] at hcall
    cases hrouted with
    | registered key port hkey hok =>
        rw [Request.registers_post hregister] at hkey
        split at hkey
        · cases hkey
        · next hnonblank =>
            cases hkey
            rcases hpost with ⟨_, hpost⟩ | ⟨hstatus, _⟩
            · have hdecode : serde.registerResponse.decode
                  (Response.json 200 "OK" (serde.registerResponse.encode
                    { remotePort := port })).body =
                  .ok { remotePort := port } := hresponse _
              simp only [hpost, hdecode] at hcall
              cases hcall
              exact Or.inl ⟨_, rfl, Bool.eq_false_iff.mpr hnonblank,
                Prod.ext hok rfl⟩
            · exact absurd rfl hstatus
    | refused key message hkey herror =>
        rcases hpost with ⟨hstatus, _⟩ | ⟨_, e, hpost⟩
        · revert hstatus
          simp [jsonError, Response.json]
        · simp only [hpost] at hcall
          cases hcall
          exact Or.inr ⟨⟨e, rfl⟩, rfl⟩
    | deregistered key port hkey _ =>
        exact absurd hkey (not_deregisters_register serde _ key)
    | absent key hkey _ =>
        exact absurd hkey (not_deregisters_register serde _ key)
    | other response _ _ hother =>
        rcases hpost with ⟨hstatus, _⟩ | ⟨_, e, hpost⟩
        · exact absurd rfl (hother hstatus).left
        · simp only [hpost] at hcall
          cases hcall
          exact Or.inr ⟨⟨e, rfl⟩, rfl⟩

/-- The bastion gives the request a port: it reads the request, the names are
not blank, and the pair has a port or one is unused. -/
structure Admitted (serde : SerdeJson) (overflowChecks : Bool)
    (network : forall wire, Arrival wire) (endpoint : BastionEndpoint)
    (registry : Registry) (request : RegisterRequest) : Prop where
  read : exists sent, readRequest overflowChecks
    (network (buildRequest endpoint.host "/register"
      (serde.registerRequest.encode request))).stream = .ok sent
  named : (Text.isBlank request.user.toList ||
    Text.isBlank request.service.toList) = false
  available : exists port, (registry.register request.key).1 = .ok port

section

variable {serde : SerdeJson} (hregister : serde.registerRequest.Faithful)
  (hresponse : serde.registerResponse.Faithful)
  (listener : MutationListener world) {overflowChecks : Bool}
  {network : forall wire, Arrival wire} {endpoint : BastionEndpoint}
  (hhost : MessageHead.OneLine endpoint.host.toList) {registry : Registry}
  (state : world) {request : RegisterRequest}

include hregister hresponse hhost

theorem register_serve_eq
    (h : Admitted serde overflowChecks network endpoint registry request)
    {port : UInt16} (hok : (registry.register request.key).1 = .ok port) :
    register (serve serde listener overflowChecks network registry state) serde
        endpoint request =
      (.ok { remotePort := port }, (registry.register request.key).2,
        listener (registry.register request.key).2 state) := by
  rcases h.read with ⟨sent, hread⟩
  have hsent := readRequest_eq_ok hhost isPath_register _ hread
  rw [hsent] at hread
  have hkey : (Request.post "/register"
      (serde.registerRequest.encode request)).registers serde =
      some request.key := by
    rw [Request.registers_post hregister, h.named]
    rfl
  have hpair : registry.register request.key =
      (.ok port, (registry.register request.key).2) := Prod.ext hok rfl
  have hreason : MessageHead.OneLine "OK".toList :=
    MessageHead.OneLine.of_check rfl
  have hanswer : IsAnswer (Response.json 200 "OK"
      (serde.registerResponse.encode { remotePort := port })) :=
    isAnswer_json _ (Or.inl rfl) hreason
  have hparse := parseResponse_toWire hanswer.reason hanswer.contentType
  have hdecode := hresponse { remotePort := port }
  have hroute := route_of_registers listener registry state hkey
  rw [hpair] at hroute
  have hpost : postJson
      (serve serde listener overflowChecks network registry state) endpoint
      "/register" (serde.registerRequest.encode request) =
      (.ok { status := 200
             body := serde.registerResponse.encode { remotePort := port } },
        (registry.register request.key).2,
        listener (registry.register request.key).2 state) := by
    simp only [postJson, serve, handleConnection, hread, hroute, hparse]
    rfl
  simp only [register, hpost, hdecode]

theorem exists_register_serve_iff :
    (exists response after,
      register (serve serde listener overflowChecks network registry state)
        serde endpoint request = (.ok response, after)) <->
      Admitted serde overflowChecks network endpoint registry request := by
  constructor
  · intro h
    rcases h with ⟨response, ⟨changed, after⟩, hcall⟩
    rcases register_serve hregister hresponse hhost hcall with
      ⟨response', hanswer, hnonblank, hpair⟩ | ⟨⟨e, hanswer⟩, _⟩
    · refine ⟨?_, hnonblank, response'.remotePort, by rw [hpair]⟩
      cases hread : readRequest overflowChecks
          (network (buildRequest endpoint.host "/register"
            (serde.registerRequest.encode request))).stream with
      | ok sent => exact ⟨sent, rfl⟩
      | error e =>
          simp only [register, postJson, serve, handleConnection, hread] at hcall
          cases hcall
    · cases hanswer
  · intro h
    rcases h.available with ⟨port, hok⟩
    exact ⟨_, _, register_serve_eq hregister hresponse listener hhost state h
      hok⟩

end

theorem deregister_serve {serde : SerdeJson}
    (hderegister : serde.deregisterRequest.Faithful)
    {listener : MutationListener world} {overflowChecks : Bool}
    {network : forall wire, Arrival wire} {endpoint : BastionEndpoint}
    (hhost : MessageHead.OneLine endpoint.host.toList)
    {registry changed : Registry} {state after : world}
    {request : DeregisterRequest} {answer : Except ClientError Unit}
    (hcall : deregister
      (serve serde listener overflowChecks network registry state) serde
      endpoint request = (answer, changed, after)) :
    (answer = .ok () ∧ changed = (registry.deregister request.key).2) ∨
    (exists e, answer = .error e) ∧ changed = registry := by
  have hkey := Request.deregisters_post hderegister request
  have hnone := Request.registers_eq_none_of_deregisters hkey
  rcases postJson_serve serde listener overflowChecks network endpoint
    "/deregister" (serde.deregisterRequest.encode request) registry state hhost
    isPath_deregister with
    ⟨e, hpost⟩ | ⟨response, changed', after', hrouted, hpost⟩
  · rw [deregister, hpost] at hcall
    cases hcall
    exact Or.inr ⟨⟨e, rfl⟩, rfl⟩
  · have hchanged : changed' = (registry.deregister request.key).2 := by
      rw [hrouted.changed_eq, handled_of_deregisters hkey]
    rw [deregister] at hcall
    rcases hpost with ⟨_, hpost⟩ | ⟨hstatus, e, hpost⟩
    · rw [hpost] at hcall
      cases hcall
      exact Or.inl ⟨rfl, hchanged⟩
    · refine absurd ?_ hstatus
      cases hrouted with
      | registered key port hregisters _ =>
          rw [hnone] at hregisters
          cases hregisters
      | refused key message hregisters _ =>
          rw [hnone] at hregisters
          cases hregisters
      | deregistered key port _ _ => rfl
      | absent key _ _ => rfl
      | other _ _ hderegisters _ =>
          rw [hkey] at hderegisters
          cases hderegisters

/-- A register that returns a port leaves the pair at that port on the server,
and one that fails leaves the registry as it was; after a deregister that
returns the pair is absent. -/
theorem calls_are_faithful {serde : SerdeJson}
    (hregister : serde.registerRequest.Faithful)
    (hresponse : serde.registerResponse.Faithful)
    (hderegister : serde.deregisterRequest.Faithful)
    (listener : MutationListener world) (overflowChecks : Bool)
    (network : forall wire, Arrival wire) {endpoint : BastionEndpoint}
    (hhost : MessageHead.OneLine endpoint.host.toList) (registry : Registry)
    (state : world) :
    (forall request answer changed after,
      register (serve serde listener overflowChecks network registry state)
        serde endpoint request = (answer, changed, after) ->
      (forall response, answer = .ok response ->
        changed.lookup request.key = some response.remotePort) ∧
      (forall e, answer = .error e -> changed = registry)) ∧
    (forall request answer changed after,
      deregister (serve serde listener overflowChecks network registry state)
        serde endpoint request = (answer, changed, after) ->
      answer = .ok () -> changed.lookup request.key = none) := by
  constructor
  · intro request answer changed after hcall
    rcases register_serve hregister hresponse hhost hcall with
      ⟨response, rfl, _, hpair⟩ | ⟨⟨e, rfl⟩, hunchanged⟩
    · refine ⟨?_, by simp⟩
      intro response' hanswer
      cases hanswer
      have hlookup : (registry.register request.key).2.lookup request.key =
          some response.remotePort :=
        Registry.register_getElem?_self (by rw [hpair])
      rw [hpair] at hlookup
      exact hlookup
    · exact ⟨by simp, fun _ _ => hunchanged⟩
  · intro request answer changed after hcall hanswer
    rcases deregister_serve hderegister hhost hcall with
      ⟨_, hchanged⟩ | ⟨⟨e, herror⟩, _⟩
    · rw [hchanged]
      exact registry.deregister_getElem?_self request.key
    · rw [hanswer] at herror
      cases herror

theorem calls_are_faithful_alice :
    MessageHead.OneLine "127.0.0.1".toList ∧
      forall response changed after,
        register (serve serdeJson noopListener true Arrival.bytewise
          Registry.default ()) serdeJson ⟨"127.0.0.1", 8443⟩
          ⟨"alice", "api"⟩ = (.ok response, changed, after) ->
        changed.lookup ⟨"alice", "api"⟩ = some response.remotePort := by
  have hhost : MessageHead.OneLine
      (BastionEndpoint.mk "127.0.0.1" 8443).host.toList := oneLine_localhost
  refine ⟨hhost, ?_⟩
  intro response changed after hcall
  exact ((calls_are_faithful serdeJson_registerRequest_faithful
    serdeJson_registerResponse_faithful serdeJson_deregisterRequest_faithful
    noopListener true Arrival.bytewise hhost Registry.default ()).left
    _ _ changed after hcall).left response rfl

end Laptop

end Ephemwork
