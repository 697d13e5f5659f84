import Ephemwork.Bastion.Http
import Ephemwork.Bastion.Wire

/-!
# Routing and handlers

The handlers of `bastion-server/src/handlers.rs`.  The mutation listener is a
function that updates a state of its own (files, a call counter) from the
registry it is shown.
-/

namespace Ephemwork

open Foundation

namespace Bastion

/-- `on_change`: what is done with the listener's state when the registry has
changed. -/
abbrev MutationListener (world : Type) : Type :=
  Registry -> world -> world

def noopListener {world : Type} : MutationListener world :=
  fun _ files => files

section

variable {world : Type} (serde : SerdeJson) (listener : MutationListener world)

def jsonError (status : UInt16) (reason message : String) : Response :=
  Response.json status reason (serde.errorResponse { error := message })

def handleRegister (request : Request) (registry : Registry) (state : world) :
    Response × Registry × world :=
  match serde.registerRequest.decode request.body with
  | .error message =>
      (jsonError serde 400 "Bad Request" message, registry, state)
  | .ok parsed =>
      if Text.isBlank parsed.user.toList || Text.isBlank parsed.service.toList then
        (jsonError serde 400 "Bad Request" "user and service must be non-empty",
          registry, state)
      else
        match registry.register parsed.key with
        | (.ok remotePort, changed) =>
            let body := serde.registerResponse.encode
              { remotePort := remotePort }
            (Response.json 200 "OK" body, changed, listener changed state)
        | (.error message, unchanged) =>
            (jsonError serde 503 "Service Unavailable" message, unchanged, state)

def handleDeregister (request : Request) (registry : Registry)
    (state : world) : Response × Registry × world :=
  match serde.deregisterRequest.decode request.body with
  | .error message =>
      (jsonError serde 400 "Bad Request" message, registry, state)
  | .ok parsed =>
      let response := Response.json 200 "OK" (Bytes.ofText "\x7b\x7d".toList)
      match registry.deregister parsed.key with
      | (some _, changed) => (response, changed, listener changed state)
      | (none, unchanged) => (response, unchanged, state)

def handleSnapshot (registry : Registry) : Response :=
  let entries := registry.snapshot.map fun entry =>
    { user := entry.1.user, service := entry.1.service,
      remotePort := entry.2 : SnapshotEntry }
  Response.json 200 "OK" (serde.snapshot entries)

def route (request : Request) (registry : Registry) (state : world) :
    Response × Registry × world :=
  match request.method, request.path with
  | "GET", "/healthz" =>
      (Response.text 200 "OK" (Bytes.ofText "ok".toList), registry, state)
  | "POST", "/register" => handleRegister serde listener request registry state
  | "POST", "/deregister" =>
      handleDeregister serde listener request registry state
  | "GET", "/snapshot" => (handleSnapshot serde registry, registry, state)
  | _, _ => (jsonError serde 404 "Not Found" "no such route", registry, state)

end

/-!
# What a request asks for

The pair a request registers or deregisters, as far as the routing and the
validation in front of the registry let it through.
-/

section

variable (serde : SerdeJson)

def Request.registers (request : Request) : Option Key :=
  if request.method = "POST" ∧ request.path = "/register" then
    match serde.registerRequest.decode request.body with
    | .error _ => none
    | .ok parsed =>
        if Text.isBlank parsed.user.toList ||
            Text.isBlank parsed.service.toList then
          none
        else
          some parsed.key
  else
    none

def Request.deregisters (request : Request) : Option Key :=
  if request.method = "POST" ∧ request.path = "/deregister" then
    match serde.deregisterRequest.decode request.body with
    | .error _ => none
    | .ok parsed => some parsed.key
  else
    none

def Request.names (request : Request) : Option Key :=
  match request.registers serde with
  | some key => some key
  | none => request.deregisters serde

variable {serde} {request : Request} {key : Key}

theorem Request.registers_eq_some (h : request.registers serde = some key) :
    request.method = "POST" ∧ request.path = "/register" ∧
      exists parsed, serde.registerRequest.decode request.body = .ok parsed ∧
        (Text.isBlank parsed.user.toList ||
          Text.isBlank parsed.service.toList) = false ∧
        parsed.key = key := by
  unfold Request.registers at h
  split at h
  · next hroute =>
      cases hdecode : serde.registerRequest.decode request.body with
      | error message =>
          rw [hdecode] at h
          cases h
      | ok parsed =>
          rw [hdecode] at h
          cases hblank : Text.isBlank parsed.user.toList ||
              Text.isBlank parsed.service.toList with
          | true => simp [hblank] at h
          | false =>
              simp only [hblank, Bool.false_eq_true, if_false,
                Option.some.injEq] at h
              exact ⟨hroute.left, hroute.right, parsed, rfl, hblank, h⟩
  · cases h

theorem Request.deregisters_eq_some
    (h : request.deregisters serde = some key) :
    request.method = "POST" ∧ request.path = "/deregister" ∧
      exists parsed, serde.deregisterRequest.decode request.body = .ok parsed ∧
        parsed.key = key := by
  unfold Request.deregisters at h
  split at h
  · next hroute =>
      cases hdecode : serde.deregisterRequest.decode request.body with
      | error message =>
          rw [hdecode] at h
          cases h
      | ok parsed =>
          rw [hdecode] at h
          exact ⟨hroute.left, hroute.right, parsed, rfl, Option.some.inj h⟩
  · cases h

theorem Request.registers_eq_none_of_deregisters
    (h : request.deregisters serde = some key) :
    request.registers serde = none := by
  rcases Request.deregisters_eq_some h with ⟨_, hpath, _⟩
  have hne : ¬ (request.method = "POST" ∧ request.path = "/register") := by
    intro h
    rcases h with ⟨_, hregister⟩
    rw [hpath] at hregister
    revert hregister
    decide
  rw [Request.registers, if_neg hne]

theorem Request.names_of_deregisters
    (h : request.deregisters serde = some key) :
    request.names serde = some key := by
  rw [Request.names, Request.registers_eq_none_of_deregisters h]
  exact h

theorem Request.registers_or_deregisters_of_names
    (h : request.names serde = some key) :
    request.registers serde = some key ∨
      request.deregisters serde = some key := by
  unfold Request.names at h
  cases hregisters : request.registers serde with
  | some registered =>
      rw [hregisters] at h
      exact Or.inl h
  | none =>
      rw [hregisters] at h
      exact Or.inr h

def Request.post (path : String) (body : Bytes) : Request where
  method := "POST"
  path := path
  body := body

theorem Request.registers_post (hfaithful : serde.registerRequest.Faithful)
    (parsed : RegisterRequest) :
    (Request.post "/register"
        (serde.registerRequest.encode parsed)).registers serde =
      if Text.isBlank parsed.user.toList ||
          Text.isBlank parsed.service.toList then
        none
      else
        some parsed.key := by
  have hdecode := hfaithful parsed
  simp only [Request.registers, Request.post, hdecode, and_self, if_true]

theorem Request.deregisters_post
    (hfaithful : serde.deregisterRequest.Faithful)
    (parsed : DeregisterRequest) :
    (Request.post "/deregister"
        (serde.deregisterRequest.encode parsed)).deregisters serde =
      some parsed.key := by
  have hdecode := hfaithful parsed
  simp only [Request.deregisters, Request.post, hdecode, and_self, if_true]

/-!
# What routing a request can do
-/

variable {world : Type}

theorem route_of_registers (listener : MutationListener world)
    (registry : Registry) (state : world)
    (h : request.registers serde = some key) :
    route serde listener request registry state =
      match registry.register key with
      | (.ok remotePort, changed) =>
          (Response.json 200 "OK"
            (serde.registerResponse.encode { remotePort := remotePort }),
            changed, listener changed state)
      | (.error message, unchanged) =>
          (jsonError serde 503 "Service Unavailable" message, unchanged,
            state) := by
  rcases Request.registers_eq_some h with
    ⟨hmethod, hpath, parsed, hdecode, hblank, hkey⟩
  simp only [route, hmethod, hpath, handleRegister, hdecode, hblank,
    Bool.false_eq_true, if_false, hkey]

theorem route_of_deregisters (listener : MutationListener world)
    (registry : Registry) (state : world)
    (h : request.deregisters serde = some key) :
    route serde listener request registry state =
      (Response.json 200 "OK" (Bytes.ofText "\x7b\x7d".toList),
        (registry.deregister key).2,
        if (registry.deregister key).1.isSome then
          listener (registry.deregister key).2 state
        else
          state) := by
  rcases Request.deregisters_eq_some h with ⟨hmethod, hpath, parsed, hdecode, hkey⟩
  have hroute : route serde listener request registry state =
      handleDeregister serde listener request registry state := by
    simp only [route, hmethod, hpath]
  rw [hroute]
  simp only [handleDeregister, hdecode, hkey]
  rcases registry.deregister key with ⟨removed, changed⟩
  cases removed with
  | none => rfl
  | some port => rfl

theorem route_of_neither (listener : MutationListener world)
    (registry : Registry) (state : world)
    (hregisters : request.registers serde = none)
    (hderegisters : request.deregisters serde = none) :
    exists response,
      route serde listener request registry state =
        (response, registry, state) ∧
      (response.status = 200 ->
        request.path ≠ "/register" ∧ request.path ≠ "/deregister") := by
  unfold route
  split
  · next hpath => exact ⟨_, rfl, fun _ => by rw [hpath]; decide⟩
  · next hmethod hpath =>
      unfold handleRegister
      unfold Request.registers at hregisters
      rw [if_pos ⟨hmethod, hpath⟩] at hregisters
      cases hdecode : serde.registerRequest.decode request.body with
      | error message =>
          refine ⟨_, rfl, fun hstatus => ?_⟩
          revert hstatus
          simp [jsonError, Response.json]
      | ok parsed =>
          rw [hdecode] at hregisters
          cases hblank : Text.isBlank parsed.user.toList ||
              Text.isBlank parsed.service.toList with
          | true =>
              refine ⟨jsonError serde 400 "Bad Request"
                "user and service must be non-empty",
                by simp only [hblank, if_true], fun hstatus => ?_⟩
              revert hstatus
              simp [jsonError, Response.json]
          | false => simp [hblank] at hregisters
  · next hmethod hpath =>
      unfold handleDeregister
      unfold Request.deregisters at hderegisters
      rw [if_pos ⟨hmethod, hpath⟩] at hderegisters
      cases hdecode : serde.deregisterRequest.decode request.body with
      | error message =>
          refine ⟨_, rfl, fun hstatus => ?_⟩
          revert hstatus
          simp [jsonError, Response.json]
      | ok parsed =>
          rw [hdecode] at hderegisters
          cases hderegisters
  · next hpath => exact ⟨_, rfl, fun _ => by rw [hpath]; decide⟩
  · refine ⟨_, rfl, fun hstatus => ?_⟩
    revert hstatus
    simp [jsonError, Response.json]

/-- The five ways a request is routed.  Only a registration that succeeds and
the removal of a stored entry change the registry and call the listener. -/
inductive Routed (serde : SerdeJson) (listener : MutationListener world)
    (request : Request) (registry : Registry) (state : world) :
    Response × Registry × world -> Prop where
  | registered (key : Key) (port : UInt16)
      (hkey : request.registers serde = some key)
      (hok : (registry.register key).1 = .ok port) :
      Routed serde listener request registry state
        (Response.json 200 "OK"
          (serde.registerResponse.encode { remotePort := port }),
          (registry.register key).2,
          listener (registry.register key).2 state)
  | refused (key : Key) (message : String)
      (hkey : request.registers serde = some key)
      (herror : (registry.register key).1 = .error message) :
      Routed serde listener request registry state
        (jsonError serde 503 "Service Unavailable" message, registry, state)
  | deregistered (key : Key) (port : UInt16)
      (hkey : request.deregisters serde = some key)
      (hstored : registry.lookup key = some port) :
      Routed serde listener request registry state
        (Response.json 200 "OK" (Bytes.ofText "\x7b\x7d".toList),
          (registry.deregister key).2,
          listener (registry.deregister key).2 state)
  | absent (key : Key) (hkey : request.deregisters serde = some key)
      (hnone : registry.lookup key = none) :
      Routed serde listener request registry state
        (Response.json 200 "OK" (Bytes.ofText "\x7b\x7d".toList), registry,
          state)
  | other (response : Response)
      (hregisters : request.registers serde = none)
      (hderegisters : request.deregisters serde = none)
      (hstatus : response.status = 200 ->
        request.path ≠ "/register" ∧ request.path ≠ "/deregister") :
      Routed serde listener request registry state (response, registry, state)

theorem route_routed (serde : SerdeJson) (listener : MutationListener world)
    (request : Request) (registry : Registry) (state : world) :
    Routed serde listener request registry state
      (route serde listener request registry state) := by
  cases hregisters : request.registers serde with
  | some key =>
      rw [route_of_registers listener registry state hregisters]
      cases hok : (registry.register key).1 with
      | ok port =>
          have hpair : registry.register key =
              (.ok port, (registry.register key).2) := Prod.ext hok rfl
          rw [hpair]
          exact .registered key port hregisters hok
      | error message =>
          have hpair : registry.register key = (.error message, registry) :=
            Prod.ext hok (Registry.register_eq_of_error hok)
          rw [hpair]
          exact .refused key message hregisters hok
  | none =>
      cases hderegisters : request.deregisters serde with
      | some key =>
          rw [route_of_deregisters listener registry state hderegisters]
          cases hstored : registry.lookup key with
          | some port =>
              have hremoved : (registry.deregister key).1 = some port := hstored
              rw [hremoved]
              exact .deregistered key port hderegisters hstored
          | none =>
              rw [Registry.deregister_of_absent hstored]
              exact .absent key hderegisters hstored
      | none =>
          rcases route_of_neither listener registry state hregisters
            hderegisters with
            ⟨response, hroute, hstatus⟩
          rw [hroute]
          exact .other response hregisters hderegisters hstatus

/-- The handler calls the listener: the pair is given a port, or there is an
entry to remove. -/
def Request.CallsListener (serde : SerdeJson) (request : Request)
    (registry : Registry) : Prop :=
  (exists key port, request.registers serde = some key ∧
    (registry.register key).1 = .ok port) ∨
  (exists key port, request.deregisters serde = some key ∧
    registry.lookup key = some port)

/-- The registry after a request, whatever the listener. -/
def Registry.handled (serde : SerdeJson) (request : Request)
    (registry : Registry) : Registry :=
  (route serde noopListener request registry ()).2.1

theorem handled_of_registers {request : Request} {key : Key}
    (h : request.registers serde = some key) (registry : Registry) :
    registry.handled serde request = (registry.register key).2 := by
  rw [Registry.handled, route_of_registers noopListener registry () h]
  rcases registry.register key with ⟨result, changed⟩
  cases result with
  | ok port => rfl
  | error message => rfl

theorem handled_of_deregisters {request : Request} {key : Key}
    (h : request.deregisters serde = some key) (registry : Registry) :
    registry.handled serde request = (registry.deregister key).2 := by
  rw [Registry.handled, route_of_deregisters noopListener registry () h]

theorem handled_of_neither {request : Request}
    (hregisters : request.registers serde = none)
    (hderegisters : request.deregisters serde = none) (registry : Registry) :
    registry.handled serde request = registry := by
  rcases route_of_neither noopListener registry () hregisters hderegisters with
    ⟨response, hroute, _⟩
  rw [Registry.handled, hroute]

namespace Routed

variable {listener : MutationListener world} {request : Request}
  {registry changed : Registry} {state after : world} {response : Response}

theorem changed_eq
    (h : Routed serde listener request registry state
      (response, changed, after)) :
    changed = registry.handled serde request := by
  cases h with
  | registered key port hkey hok => rw [handled_of_registers hkey]
  | refused key message hkey herror =>
      rw [handled_of_registers hkey, Registry.register_eq_of_error herror]
  | deregistered key port hkey hstored => rw [handled_of_deregisters hkey]
  | absent key hkey hnone =>
      rw [handled_of_deregisters hkey, Registry.deregister_of_absent hnone]
  | other _ hregisters hderegisters _ =>
      rw [handled_of_neither hregisters hderegisters]

theorem after_cases
    (h : Routed serde listener request registry state
      (response, changed, after)) :
    (request.CallsListener serde registry ∧ after = listener changed state) ∨
      (¬ request.CallsListener serde registry ∧ changed = registry ∧
        after = state) := by
  cases h with
  | registered key port hkey hok =>
      exact Or.inl ⟨Or.inl ⟨key, port, hkey, hok⟩, rfl⟩
  | refused key message hkey herror =>
      refine Or.inr ⟨?_, rfl, rfl⟩
      intro hcalls
      rcases hcalls with ⟨key', port, hkey', hok⟩ | ⟨key', port, hkey', _⟩
      · rw [hkey] at hkey'
        cases hkey'
        rw [herror] at hok
        cases hok
      · rw [Request.registers_eq_none_of_deregisters hkey'] at hkey
        cases hkey
  | deregistered key port hkey hstored =>
      exact Or.inl ⟨Or.inr ⟨key, port, hkey, hstored⟩, rfl⟩
  | absent key hkey hnone =>
      refine Or.inr ⟨?_, rfl, rfl⟩
      intro hcalls
      rcases hcalls with ⟨key', port, hkey', _⟩ | ⟨key', port, hkey', hstored⟩
      · rw [Request.registers_eq_none_of_deregisters hkey] at hkey'
        cases hkey'
      · rw [hkey] at hkey'
        cases hkey'
        rw [hnone] at hstored
        cases hstored
  | other _ hregisters hderegisters _ =>
      refine Or.inr ⟨?_, rfl, rfl⟩
      intro hcalls
      rcases hcalls with ⟨key', port, hkey', _⟩ | ⟨key', port, hkey', _⟩
      · rw [hregisters] at hkey'
        cases hkey'
      · rw [hderegisters] at hkey'
        cases hkey'

end Routed

end

end Bastion

end Ephemwork
