import Ephemwork.Bastion.PortInvariant
import Ephemwork.Laptop.FailedUp
import Ephemwork.Laptop.Identity

/-!
# The builders of the routing header

The value of `X-Ephemwork` is built in three places and written by the renderer
in a fourth.  Two of them trim and lower the user, the others take it as it was
resolved, so they agree on the users without a capital letter.
-/

namespace Ephemwork

open Foundation
open Bastion

namespace Laptop

/-- `str::to_lowercase`, known on ASCII texts. -/
structure Lowercase where
  apply : List Char -> List Char
  ascii : forall s, (forall c, c ∈ s -> c.toNat < 128) -> apply s = s.map Char.toLower

section

variable (lowercase : Lowercase)

def headerValue (user service : String) : String :=
  String.ofList (lowercase.apply (Text.trim user.toList)) ++ ":" ++
    String.ofList (Text.trim service.toList)

def routingHeaderValue (user service : String) : String :=
  String.ofList (lowercase.apply (Text.trim user.toList)) ++ ":" ++
    String.ofList (Text.trim service.toList)

/-- The value that is printed is the one both helpers compute, and the only one
that the rendered map sends to the port of the session. -/
structure HeadersAgree (user service : String) (active : ActiveSession)
    (registry : Registry) : Prop where
  commands : headerValue lowercase user service = active.headerValue
  shared : routingHeaderValue lowercase user service = active.headerValue
  rendered : forall text port, renderConfig registry.snapshot = .ok text ->
    active.remotePort = some port ->
      forall header, (header, mapTarget port) ∈ readMap text.toList <->
        header = active.headerValue

end

/-!
# Lower-case users
-/

theorem toLower_eq_self_iff {c : Char} (h : c.toNat < 128) :
    c.toLower = c <-> c.isUpper = false := by
  have hall : forall n, n < 128 ->
      ((Char.ofNat n).toLower = Char.ofNat n <-> (Char.ofNat n).isUpper = false) := by
    decide
  have hc := hall c.toNat h
  rw [Char.ofNat_toNat] at hc
  exact hc

theorem map_toLower_eq_self_iff {s : List Char}
    (h : forall c, c ∈ s -> c.toNat < 128) :
    s.map Char.toLower = s <-> forall c, c ∈ s -> c.isUpper = false := by
  have hid : s.map Char.toLower = s <-> s.map Char.toLower = s.map id := by
    rw [List.map_id]
  rw [hid, List.map_inj_left]
  exact forall₂_congr fun c hc => toLower_eq_self_iff (h c hc)

theorem trim_of_isSafeIdentifier {s : String} (h : isSafeIdentifier s = true) :
    Text.trim s.toList = s.toList :=
  Text.trim_eq_self_of_none fun c hc =>
    isWhitespace_of_isSafeChar (((isSafeIdentifier_eq_true_iff s).mp h).right c hc)

theorem ascii_of_isSafeIdentifier {s : String} (h : isSafeIdentifier s = true) :
    forall c, c ∈ s.toList -> c.toNat < 128 :=
  fun c hc => toNat_lt_of_isSafeChar (((isSafeIdentifier_eq_true_iff s).mp h).right c hc)

theorem headerValue_of_safe (lowercase : Lowercase) {key : Key} (h : key.Safe) :
    headerValue lowercase key.user key.service =
      String.ofList (key.user.toList.map Char.toLower) ++ ":" ++ key.service := by
  rw [headerValue, trim_of_isSafeIdentifier h.left, trim_of_isSafeIdentifier h.right,
    lowercase.ascii _ (ascii_of_isSafeIdentifier h.left), String.ofList_toList]

theorem headerValue_eq_mapHeader_iff (lowercase : Lowercase) {key : Key} (h : key.Safe) :
    headerValue lowercase key.user key.service = mapHeader key <->
      forall c, c ∈ key.user.toList -> c.isUpper = false := by
  rw [headerValue_of_safe lowercase h,
    ← map_toLower_eq_self_iff (ascii_of_isSafeIdentifier h.left), mapHeader]
  constructor
  · intro heq
    have hlist := congrArg String.toList heq
    simp only [String.toList_append, String.toList_ofList, List.append_assoc] at hlist
    exact List.append_cancel_right hlist
  · intro heq
    rw [heq, String.ofList_toList]

/-!
# The key of the rendered map
-/

theorem mem_readMap_iff {registry : Registry} (hsound : registry.Sound) {key : Key}
    (hsafe : key.Safe) {port : UInt16} (hstored : registry.lookup key = some port)
    {text : String} (htext : renderConfig registry.snapshot = .ok text)
    (header : String) :
    (header, mapTarget port) ∈ readMap text.toList <-> header = mapHeader key := by
  rcases (renderConfig_eq_ok_iff _ _).mp htext with ⟨hentries, rfl⟩
  rw [String.toList_ofList, readMap_configText hentries, List.mem_map]
  constructor
  · intro h
    rcases h with ⟨entry, hentry, heq⟩
    have hheader : mapHeader entry.1 = header := congrArg Prod.fst heq
    have hport : entry.2 = port := mapTarget_inj (congrArg Prod.snd heq)
    have hlookup := ((Registry.mem_snapshot_iff registry entry.1 entry.2).mp hentry).right
    rw [hport] at hlookup
    have hkey : entry.1 = key :=
      hsafe.of_composeKey_eq (hsound.distinct hlookup hstored)
    rw [← hheader, hkey]
  · intro h
    exact ⟨(key, port), (mem_snapshot_of_safe hsafe port).mpr hstored, by rw [h]; rfl⟩

/-!
# The session of an `up`
-/

section

variable {world : Type} {serde : SerdeJson}
variable (hregister : serde.registerRequest.Faithful)
  (hresponse : serde.registerResponse.Faithful)
  (listener : MutationListener world) (overflowChecks : Bool)
  (network : forall wire, Arrival wire) (env : UpEnvironment)
  (context : BastionContext) {request : UpRequest} {localPort : UInt16}
  (hport : request.localServicePort = some localPort)
  {bastion after : Registry × world} {active : ActiveSession} {file : State}
  (hup : upService env serde (connect serde listener overflowChecks network)
    request context bastion = (.ok (active, file), after))

include hregister hresponse hport hup

theorem upService_registers :
    exists port, bastion.1.register request.registration.key = (.ok port, after.1) ∧
      active.headerValue = mapHeader request.registration.key ∧
      active.remotePort = some port := by
  have hcases : (_ ∧ exists e after',
      upService env serde (connect serde listener overflowChecks network) request context
        bastion = (.error e, after') ∧ _) ∨ _ :=
    upService_cases hregister hresponse listener overflowChecks network env context hport
  rcases hcases with ⟨_, e, after', hfails, _⟩ | ⟨_, port, after', hpair, hopen⟩
  · rw [hfails] at hup
    cases hup
  · rw [hopen] at hup
    have hresult := congrArg Prod.fst hup
    have hafter : after' = after := congrArg Prod.snd hup
    rcases openSession_result env hresult with
      ⟨⟨huser, hservice, _, hremote, _⟩, _, _⟩
    refine ⟨port, by rw [hpair, hafter], ?_, hremote⟩
    rw [ActiveSession.headerValue, huser, hservice]
    rfl

/-- The builders agree on the session of an `up` exactly if its user has no
capital letter. -/
theorem headers_agree_iff (lowercase : Lowercase) {range : PortRange}
    {ops : List RegistryOp} {results : List RegistryResult}
    (hrun : registrySystem.run (Registry.withRange range) ops = some (results, bastion.1))
    (hsafe : request.registration.key.Safe) :
    HeadersAgree lowercase request.user request.service active after.1 <->
      forall c, c ∈ request.user.toList -> c.isUpper = false := by
  rcases upService_registers hregister hresponse listener overflowChecks network env
    context hport hup with ⟨port, hpair, hheader, hremote⟩
  have hsound : after.1.Sound := by
    have hbefore := registry_run_sound hrun (Registry.sound_withRange range)
    have hafter := hbefore.register request.registration.key
    rw [hpair] at hafter
    exact hafter
  have hstored : after.1.lookup request.registration.key = some port := by
    have hself := Registry.register_getElem?_self
      (show (bastion.1.register request.registration.key).1 = .ok port by rw [hpair])
    rw [hpair] at hself
    exact hself
  have hiff := headerValue_eq_mapHeader_iff lowercase hsafe
  constructor
  · intro h
    exact hiff.mp (h.commands.trans hheader)
  · intro h
    refine ⟨(hiff.mpr h).trans hheader.symm, (hiff.mpr h).trans hheader.symm, ?_⟩
    intro text port' htext hport' header
    rw [hremote] at hport'
    cases hport'
    rw [hheader]
    exact mem_readMap_iff hsound hsafe hstored htext header

end

/-!
# A user with capital letters
-/

def asciiLowercase : Lowercase where
  apply := fun s => s.map Char.toLower
  ascii := fun _ _ => rfl

theorem exists_upService_ok {request : UpRequest} {localPort : UInt16}
    (hport : request.localServicePort = some localPort)
    (hforwards : request.forwardPorts = [])
    (hadmitted : Admitted serdeJson true Arrival.bytewise (failingAt none).controlPlane
      Registry.default request.registration) :
    exists active file after,
      upService (failingAt none) serdeJson
        (connect serdeJson noopListener true Arrival.bytewise) request ⟨"demo"⟩
        (Registry.default, ()) = (.ok (active, file), after) := by
  have hreaches : Reaches (failingAt none) request :=
    ⟨rfl, rfl, fun _ => rfl, rfl, rfl, rfl, rfl, rfl⟩
  have hcompletes : Completes (failingAt none) request := by
    refine ⟨rfl, rfl, rfl, rfl, ?_, rfl, fun _ => rfl, rfl, rfl, rfl, rfl⟩
    intro index raw hraw
    rw [hforwards] at hraw
    cases hraw
  have hcases : (_ ∧ exists e after',
      upService (failingAt none) serdeJson
        (connect serdeJson noopListener true Arrival.bytewise) request ⟨"demo"⟩
        (Registry.default, ()) = (.error e, after') ∧ _) ∨ _ :=
    upService_cases serdeJson_registerRequest_faithful
      serdeJson_registerResponse_faithful noopListener true Arrival.bytewise
      (failingAt none) ⟨"demo"⟩ hport
  rcases hcases with ⟨hnot, _⟩ | ⟨_, port, after, _, hup⟩
  · exact absurd ⟨hreaches, hadmitted⟩ hnot
  · rcases (openSession_eq_ok_iff (failingAt none) request
      (failingAt none).controlPlane localPort port).mpr hcompletes with
      ⟨⟨active, file⟩, hopen⟩
    rw [hopen] at hup
    exact ⟨active, file, after, hup⟩

theorem headers_agree_iff_alice :
    exists active file after,
      upService (failingAt none) serdeJson
          (connect serdeJson noopListener true Arrival.bytewise) aliceUp ⟨"demo"⟩
          (Registry.default, ()) = (.ok (active, file), after) ∧
        HeadersAgree asciiLowercase "alice" "api" active after.1 := by
  have hport : aliceUp.localServicePort = some 8000 := rfl
  rcases exists_upService_ok hport rfl (admitted_aliceUp _) with
    ⟨active, file, after, hup⟩
  have hrun : registrySystem.run (Registry.withRange PortRange.default) [] =
      some ([], Registry.default) := rfl
  have hall : "alice".toList.all (fun c => decide (c.isUpper = false)) = true := by
    decide
  refine ⟨active, file, after, hup, ?_⟩
  exact (headers_agree_iff serdeJson_registerRequest_faithful
    serdeJson_registerResponse_faithful noopListener true Arrival.bytewise
    (failingAt none) ⟨"demo"⟩ hport hup asciiLowercase hrun
    (show Key.Safe ⟨"alice", "api"⟩ by decide)).mpr
      fun c hc => of_decide_eq_true (List.all_eq_true.mp hall c hc)

def matheusUp : UpRequest where
  user := "Matheus.Silva"
  service := "api"
  region := "us-east-1"
  localServicePort := some 8000
  runCommand := "uvicorn app.main:app"
  healthCheckPath := none
  forwardPorts := []
  bootstrapCommand := none

theorem admitted_matheusUp (env : UpEnvironment) :
    Admitted serdeJson true Arrival.bytewise env.controlPlane Registry.default
      matheusUp.registration := by
  have hsize : (buildRequest env.controlPlane.host "/register"
      (serdeJson.registerRequest.encode matheusUp.registration)).length ≤
      maxRequest := by
    show (buildRequest "127.0.0.1" "/register"
      (serdeJson.registerRequest.encode matheusUp.registration)).length ≤ maxRequest
    decide +kernel
  have hread := readRequest_of_fits oneLine_localhost isPath_register true
    hsize (Arrival.bytewise _)
  exact ⟨⟨_, hread⟩, by decide, Registry.exists_register_default _⟩

/-- The user of a git email with capitals: what is printed and rendered has
them, what the helpers compute has not. -/
theorem capital_user_headers_differ :
    resolveUser none (.ok "Matheus.Silva@example.com") = .ok "Matheus.Silva" ∧
      isSafeIdentifier "Matheus.Silva" = true ∧ isSafeIdentifier "api" = true ∧
      exists active file after,
        upService (failingAt none) serdeJson
            (connect serdeJson noopListener true Arrival.bytewise) matheusUp ⟨"demo"⟩
            (Registry.default, ()) = (.ok (active, file), after) ∧
          active.headerValue = "Matheus.Silva:api" ∧
          headerValue asciiLowercase "Matheus.Silva" "api" = "matheus.silva:api" ∧
          ¬ HeadersAgree asciiLowercase "Matheus.Silva" "api" active after.1 := by
  have hport : matheusUp.localServicePort = some 8000 := rfl
  rcases exists_upService_ok hport rfl (admitted_matheusUp _) with
    ⟨active, file, after, hup⟩
  rcases upService_registers serdeJson_registerRequest_faithful
    serdeJson_registerResponse_faithful noopListener true Arrival.bytewise
    (failingAt none) ⟨"demo"⟩ hport hup with ⟨_, _, hheader, _⟩
  have hactive : active.headerValue = "Matheus.Silva:api" := by
    rw [hheader]
    decide
  have hlower : headerValue asciiLowercase "Matheus.Silva" "api" =
      "matheus.silva:api" := by
    decide
  refine ⟨by decide, by decide, by decide, active, file, after, hup, hactive, hlower, ?_⟩
  intro h
  have heq := h.commands
  rw [hactive, hlower] at heq
  revert heq
  decide

end Laptop

end Ephemwork
