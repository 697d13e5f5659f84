import Ephemwork.Laptop.Deployment
import Ephemwork.Laptop.FailedUp

/-!
# The commands as runs of the deployment

What `up`, `shutdown` and `down` do when nothing else happens meanwhile is what
their steps do one after the other.
-/

namespace Ephemwork

open Foundation
open Bastion

namespace Laptop

/-!
# Steps that succeed
-/

theorem grant_eq_of_register {registry changed : Registry} {key : Key}
    {port : UInt16}
    (hnonblank : (Text.isBlank key.user.toList ||
      Text.isBlank key.service.toList) = false)
    (h : registry.register key = (.ok port, changed)) :
    grant registry key = (some port, changed) := by
  rw [grant, hnonblank, h]
  rfl

namespace Deployment

variable {s : Deployment} {up down laptop : Nat} {key : Key} {port : UInt16}

theorem upIn_of_ups {run : Up} (h : s.ups up = some run) :
    s.upIn up run.phase = some run :=
  upIn_eq_some_iff.mpr ⟨h, rfl⟩

theorem register_succeeds {changed : Registry} (hup : s.ups up = none)
    (hgrant : grant s.registry key = (some port, changed)) :
    exists t, s.step (.register up laptop key true) = some t ∧
      t.registry = changed ∧ t.listeners = s.listeners ∧ t.files = s.files ∧
      t.ups up = some
        { laptop := laptop, key := key, port := port, phase := .registered } := by
  have hstep : s.step (.register up laptop key true) = some { s with
      registry := changed
      ups := Function.update s.ups up (some
        { laptop := laptop, key := key, port := port,
          phase := .registered }) } := by
    simp only [step, register, hup, hgrant, if_true]
  exact ⟨_, hstep, rfl, rfl, rfl, Function.update_self _ _ _⟩

theorem openReverse_succeeds
    (hup : s.ups up = some
      { laptop := laptop, key := key, port := port, phase := .registered })
    (hfree : s.listeners port = none) :
    exists t, s.step (.openReverse up) = some t ∧
      t.registry = s.registry ∧
      t.listeners port = some { up := up, key := key } ∧ t.files = s.files ∧
      t.ups up = some
        { laptop := laptop, key := key, port := port, phase := .listening } := by
  have hstep : s.step (.openReverse up) = some { s with
      listeners := Function.update s.listeners port
        (some { up := up, key := key })
      ups := Function.update s.ups up (some
        { laptop := laptop, key := key, port := port,
          phase := .listening }) } := by
    simp only [step, openReverse, upIn_of_ups hup, hfree, Option.bind_eq_bind,
      Option.bind_some]
    rfl
  exact ⟨_, hstep, rfl, Function.update_self _ _ _, rfl,
    Function.update_self _ _ _⟩

theorem record_succeeds {now : Int} {localPort : UInt16} {pid : UInt32}
    {owned : List UInt16}
    (hup : s.ups up = some
      { laptop := laptop, key := key, port := port, phase := .listening }) :
    exists t, s.step (.record up now localPort pid owned) = some t ∧
      t.registry = s.registry ∧ t.listeners = s.listeners ∧
      t.files laptop = (s.files laptop).upsert
        (sessionFor now key.user key.service localPort port (some pid) owned) ∧
      t.ups up = some
        { laptop := laptop, key := key, port := port, phase := .active } := by
  have hstep : s.step (.record up now localPort pid owned) = some { s with
      files := Function.update s.files laptop
        ((s.files laptop).upsert (sessionFor now key.user key.service localPort
          port (some pid) owned))
      ups := Function.update s.ups up (some
        { laptop := laptop, key := key, port := port, phase := .active }) } := by
    simp only [step, record, upIn_of_ups hup, Option.bind_eq_bind,
      Option.bind_some]
    rfl
  exact ⟨_, hstep, rfl, rfl, Function.update_self _ _ _,
    Function.update_self _ _ _⟩

theorem shutdown_succeeds (reached : Bool)
    (hup : s.ups up = some
      { laptop := laptop, key := key, port := port, phase := .active }) :
    exists t, s.step (.shutdown up reached) = some t ∧
      t.registry = retract s.registry key reached ∧
      t.listeners = s.listeners ∧
      t.ups up = some
        { laptop := laptop, key := key, port := port, phase := .closing } := by
  have hstep : s.step (.shutdown up reached) = some { s with
      registry := retract s.registry key reached
      ups := Function.update s.ups up (some
        { laptop := laptop, key := key, port := port, phase := .closing }) } := by
    simp only [step, shutdown, upIn_of_ups hup, Option.bind_eq_bind,
      Option.bind_some]
    rfl
  exact ⟨_, hstep, rfl, rfl, Function.update_self _ _ _⟩

theorem dropReverse_succeeds
    (hup : s.ups up = some
      { laptop := laptop, key := key, port := port, phase := .closing })
    (hlistener : s.listeners port = some { up := up, key := key }) :
    exists t, s.step (.dropReverse up) = some t ∧ t.registry = s.registry ∧
      t.listeners port = none ∧ t.ups up = none := by
  have hstep : s.step (.dropReverse up) = some { s with
      listeners := Function.update s.listeners port none
      ups := Function.update s.ups up none } := by
    simp only [step, dropReverse, upIn_of_ups hup, hlistener,
      Option.bind_eq_bind, Option.bind_some]
    simp [Option.filter]
  exact ⟨_, hstep, rfl, Function.update_self _ _ _, Function.update_self _ _ _⟩

theorem list_of_none {user : String} {service : Option String}
    (hdown : s.downs down = none)
    (hnil : downCandidates (s.files laptop) user service = []) :
    s.step (.list down laptop user service) = some s := by
  simp only [step, list, hdown, hnil]

theorem list_succeeds {user : String} {service : Option String}
    (hdown : s.downs down = none)
    (hne : downCandidates (s.files laptop) user service ≠ []) :
    exists t, s.step (.list down laptop user service) = some t ∧
      t.registry = s.registry ∧ t.listeners = s.listeners ∧
      t.files = s.files ∧
      t.downs down = some
        { laptop := laptop, user := user, service := service,
          remaining := downCandidates (s.files laptop) user service } := by
  have hstep : s.step (.list down laptop user service) = some { s with
      downs := Function.update s.downs down (some
        { laptop := laptop, user := user, service := service,
          remaining := downCandidates (s.files laptop) user service }) } := by
    cases hcandidates : downCandidates (s.files laptop) user service with
    | nil => exact absurd hcandidates hne
    | cons session rest => simp only [step, list, hdown, hcandidates]
  exact ⟨_, hstep, rfl, rfl, rfl, Function.update_self _ _ _⟩

theorem deregister_succeeds (reached : Bool) {user : String}
    {service : Option String} {session : Session} {rest : List Session}
    (hdown : s.downs down = some
      { laptop := laptop, user := user, service := service,
        remaining := session :: rest }) :
    exists t, s.step (.deregister down reached) = some t ∧
      t.registry = retract s.registry ⟨user, session.service⟩ reached ∧
      t.listeners = s.listeners ∧ t.files = s.files ∧
      t.downs down = some
        { laptop := laptop, user := user, service := service,
          remaining := rest } := by
  have hstep : s.step (.deregister down reached) = some { s with
      registry := retract s.registry ⟨user, session.service⟩ reached
      downs := Function.update s.downs down (some
        { laptop := laptop, user := user, service := service,
          remaining := rest }) } := by
    simp only [step, deregister, hdown, Option.bind_eq_bind, Option.bind_some]
    rfl
  exact ⟨_, hstep, rfl, rfl, rfl, Function.update_self _ _ _⟩

theorem forget_succeeds {user : String} {service : Option String}
    (hdown : s.downs down = some
      { laptop := laptop, user := user, service := service,
        remaining := [] }) :
    exists t, s.step (.forget down) = some t ∧ t.registry = s.registry ∧
      t.listeners = s.listeners ∧
      t.files laptop =
        ((s.files laptop).removeWhere (downForgets user service)).2 := by
  have hstep : s.step (.forget down) = some { s with
      files := Function.update s.files laptop
        ((s.files laptop).removeWhere (downForgets user service)).2
      downs := Function.update s.downs down none } := by
    simp only [step, forget, hdown, Option.bind_eq_bind, Option.bind_some]
    rfl
  exact ⟨_, hstep, rfl, rfl, Function.update_self _ _ _⟩

end Deployment

/-!
# Whole commands
-/

section

variable {world : Type} {serde : SerdeJson} {listener : MutationListener world}
  {overflowChecks : Bool} {network : forall wire, Arrival wire}
  {s : Deployment} {state : world} {after : Registry × world}

theorem upService_run (hregister : serde.registerRequest.Faithful)
    (hresponse : serde.registerResponse.Faithful) {env : UpEnvironment}
    {request : UpRequest} {context : BastionContext} {localPort : UInt16}
    (hport : request.localServicePort = some localPort)
    {active : ActiveSession} {file : State}
    (hcall : upService env serde
      (connect serde listener overflowChecks network) request context
      (s.registry, state) = (.ok (active, file), after)) {up laptop : Nat}
    (hup : s.ups up = none) (hfile : s.files laptop = env.stateAtRecord)
    (hfree : forall port, active.remotePort = some port ->
      s.listeners port = none) :
    exists port outputs t,
      deploymentSystem.run s
        [.register up laptop request.registration.key true, .openReverse up,
          .record up env.now localPort env.pid active.forwardPorts] =
        some (outputs, t) ∧
      t.registry = after.1 ∧ t.files laptop = file ∧
      t.ups up = some
        { laptop := laptop, key := request.registration.key, port := port,
          phase := .active } ∧
      t.listeners port =
        some { up := up, key := request.registration.key } := by
  rcases upService_cases hregister hresponse listener overflowChecks network
    env context hport with
    ⟨_, e, after', hfails, _⟩ | ⟨⟨_, hadmits⟩, port, after', hpair, hup'⟩
  · have hsame := hcall.symm.trans hfails
    cases hsame
  · rcases Prod.mk.inj (hup'.symm.trans hcall) with ⟨hopen, rfl⟩
    rcases openSession_result env hopen with ⟨⟨_, _, _, hremote, _⟩, _, rfl⟩
    have hgrant : grant s.registry request.registration.key =
        (some port, after'.1) := grant_eq_of_register hadmits.named hpair
    rcases Deployment.register_succeeds hup hgrant with
      ⟨s1, hstep1, hregistry1, hlisteners1, hfiles1, hup1⟩
    have hfree1 : s1.listeners port = none := by
      rw [hlisteners1]
      exact hfree port hremote
    rcases Deployment.openReverse_succeeds hup1 hfree1 with
      ⟨s2, hstep2, hregistry2, hlisteners2, hfiles2, hup2⟩
    rcases Deployment.record_succeeds hup2 with
      ⟨s3, hstep3, hregistry3, hlisteners3, hfiles3, hup3⟩
    refine ⟨port, [(), (), ()], s3,
      deployment_run_cons hstep1 (deployment_run_cons hstep2
        (deployment_run_cons hstep3 rfl)), ?_, ?_, hup3, ?_⟩
    · rw [hregistry3, hregistry2, hregistry1]
    · rw [hfiles3, hfiles2, hfiles1, hfile]
      rfl
    · rw [hlisteners3, hlisteners2]

theorem deregisterBestEffort_eq (hderegister : serde.deregisterRequest.Faithful)
    (listener : MutationListener world) (overflowChecks : Bool)
    (network : forall wire, Arrival wire) {endpoint : BastionEndpoint}
    (hhost : MessageHead.OneLine endpoint.host.toList) (user service : String)
    (bastion : Registry × world) :
    exists reached,
      (deregisterBestEffort serde
        (connect serde listener overflowChecks network) endpoint user service
        bastion).1 = retract bastion.1 ⟨user, service⟩ reached := by
  rcases hcall : deregister
    (connect serde listener overflowChecks network bastion) serde endpoint
    { user := user, service := service } with ⟨answer, changed, after⟩
  rw [deregisterBestEffort, hcall]
  rcases deregister_serve hderegister hhost hcall with
    ⟨_, hchanged⟩ | ⟨_, hunchanged⟩
  · exact ⟨true, hchanged⟩
  · exact ⟨false, hunchanged⟩

theorem shutdown_run (hderegister : serde.deregisterRequest.Faithful)
    {active : ActiveSession} {endpoint : BastionEndpoint}
    (hendpoint : active.controlPlane = some endpoint)
    (hhost : MessageHead.OneLine endpoint.host.toList) {up laptop : Nat}
    {port : UInt16}
    (hup : s.ups up = some
      { laptop := laptop, key := ⟨active.user, active.service⟩, port := port,
        phase := .active })
    (hlistener : s.listeners port =
      some { up := up, key := ⟨active.user, active.service⟩ }) :
    exists reached outputs t,
      deploymentSystem.run s [.shutdown up reached, .dropReverse up] =
        some (outputs, t) ∧
      t.registry = (active.shutdown serde
        (connect serde listener overflowChecks network)
        (s.registry, state)).1 ∧
      t.listeners port = none ∧ t.ups up = none := by
  rcases deregisterBestEffort_eq hderegister listener overflowChecks network
    hhost active.user active.service (s.registry, state) with
    ⟨reached, hretracted⟩
  rcases Deployment.shutdown_succeeds reached hup with
    ⟨s1, hstep1, hregistry1, hlisteners1, hup1⟩
  have hlistener1 : s1.listeners port =
      some { up := up, key := ⟨active.user, active.service⟩ } := by
    rw [hlisteners1]
    exact hlistener
  rcases Deployment.dropReverse_succeeds hup1 hlistener1 with
    ⟨s2, hstep2, hregistry2, hlistener2, hup2⟩
  refine ⟨reached, [(), ()], s2,
    deployment_run_cons hstep1 (deployment_run_cons hstep2 rfl), ?_,
    hlistener2, hup2⟩
  rw [hregistry2, hregistry1]
  simp only [ActiveSession.shutdown, hendpoint]
  exact hretracted.symm

end

/-!
# Taking sessions down
-/

/-- Deregister sessions of a user one after the other; each request may fail to
reach the bastion. -/
def retractAll (user : String) (registry : Registry)
    (calls : List (Session × Bool)) : Registry :=
  calls.foldl (fun registry call =>
    retract registry ⟨user, call.1.service⟩ call.2) registry

theorem retractAll_unreached (user : String) (registry : Registry)
    (sessions : List Session) :
    retractAll user registry (sessions.map fun session => (session, false)) =
      registry := by
  induction sessions with
  | nil => rfl
  | cons session rest ih => exact ih

theorem deregisters_run {s : Deployment} {down laptop : Nat} {user : String}
    {service : Option String} (calls : List (Session × Bool))
    (hdown : s.downs down = some
      { laptop := laptop, user := user, service := service,
        remaining := calls.map Prod.fst }) :
    exists outputs t,
      deploymentSystem.run s (calls.map fun call => .deregister down call.2) =
        some (outputs, t) ∧
      t.registry = retractAll user s.registry calls ∧
      t.listeners = s.listeners ∧ t.files = s.files ∧
      t.downs down = some
        { laptop := laptop, user := user, service := service,
          remaining := [] } := by
  induction calls generalizing s with
  | nil => exact ⟨[], s, rfl, rfl, rfl, rfl, hdown⟩
  | cons call rest ih =>
      rcases Deployment.deregister_succeeds call.2 hdown with
        ⟨s1, hstep, hregistry1, hlisteners1, hfiles1, hdown1⟩
      rcases ih hdown1 with
        ⟨outputs, t, hrun, hregistry, hlisteners, hfiles, hlast⟩
      refine ⟨() :: outputs, t, deployment_run_cons hstep hrun, ?_, ?_, ?_,
        hlast⟩
      · rw [hregistry, hregistry1]
        rfl
      · rw [hlisteners, hlisteners1]
      · rw [hfiles, hfiles1]

section

variable {world : Type} {serde : SerdeJson}
  (hderegister : serde.deregisterRequest.Faithful)
  (listener : MutationListener world) (overflowChecks : Bool)
  (network : forall wire, Arrival wire)

include hderegister

theorem foldl_deregisterBestEffort {endpoint : BastionEndpoint}
    (hhost : MessageHead.OneLine endpoint.host.toList) (user : String)
    (sessions : List Session) (bastion : Registry × world) :
    exists calls, calls.map Prod.fst = sessions ∧
      (sessions.foldl (fun after session =>
        deregisterBestEffort serde
          (connect serde listener overflowChecks network) endpoint user
          session.service after) bastion).1 =
        retractAll user bastion.1 calls := by
  induction sessions generalizing bastion with
  | nil => exact ⟨[], rfl, rfl⟩
  | cons session rest ih =>
      rcases deregisterBestEffort_eq hderegister listener overflowChecks network
        hhost user session.service bastion with ⟨reached, hretracted⟩
      rcases ih (deregisterBestEffort serde
        (connect serde listener overflowChecks network) endpoint user
        session.service bastion) with ⟨calls, hcalls, hafter⟩
      refine ⟨(session, reached) :: calls, by rw [List.map_cons, hcalls], ?_⟩
      rw [List.foldl_cons, hafter, hretracted]
      rfl

theorem deregisterViaBastion_eq (env : DownEnvironment) (user : String)
    (sessions : List Session) (bastion : Registry × world) :
    exists calls, calls.map Prod.fst = sessions ∧
      (deregisterViaBastion env serde
        (connect serde listener overflowChecks network) user sessions
        bastion).2.1 = retractAll user bastion.1 calls := by
  have hskipped : exists calls : List (Session × Bool),
      calls.map Prod.fst = sessions ∧
        bastion.1 = retractAll user bastion.1 calls := by
    refine ⟨sessions.map fun session => (session, false), ?_, ?_⟩
    · simp [Function.comp_def]
    · rw [retractAll_unreached]
  cases hreach : reachForDown env with
  | error e => simpa only [deregisterViaBastion, hreach] using hskipped
  | ok endpoint =>
      cases endpoint with
      | none => simpa only [deregisterViaBastion, hreach] using hskipped
      | some endpoint =>
          have hhost : MessageHead.OneLine endpoint.host.toList := by
            simp only [reachForDown, bind_eq_ok_iff] at hreach
            rcases hreach with ⟨_, _, _, _, _, _, hreach⟩
            split at hreach
            · cases hreach
            · simp only [bind_eq_ok_iff] at hreach
              rcases hreach with ⟨_, _, _, _, hendpoint⟩
              cases hendpoint
              exact oneLine_localhost
          simp only [deregisterViaBastion, hreach]
          exact foldl_deregisterBestEffort hderegister listener overflowChecks
            network hhost user sessions bastion

/-- A `down` that returns sessions lists them, deregisters them one after the
other and forgets them.  It drops no listener. -/
theorem downService_run {env : DownEnvironment} {service : Option String}
    {s : Deployment} {state : world} {removed : List Session} {file : State}
    {after : Registry × world}
    (hcall : downService env serde
      (connect serde listener overflowChecks network) service
      (s.registry, state) = (.ok (removed, file), after)) {down laptop : Nat}
    (hdown : s.downs down = none) (hlisted : s.files laptop = env.state)
    (hforgotten : s.files laptop = env.stateAtForget) :
    exists actions outputs t,
      deploymentSystem.run s (.list down laptop env.user service :: actions) =
        some (outputs, t) ∧
      t.registry = after.1 ∧ t.files laptop = file ∧
      t.listeners = s.listeners := by
  cases hload : loadCandidates env service with
  | error e =>
      simp only [downService, hload] at hcall
      cases hcall
  | ok candidates =>
      have hcandidates :
          downCandidates (s.files laptop) env.user service = candidates := by
        simp only [loadCandidates, bind_eq_ok_iff] at hload
        rcases hload with ⟨_, _, _, _, _, _, _, _, hload⟩
        cases hload
        rw [hlisted]
      cases hsessions : candidates with
      | nil =>
          rw [hsessions] at hcandidates
          simp only [downService, hload, hsessions] at hcall
          cases hcall
          exact ⟨[], [()], s,
            deployment_run_cons (Deployment.list_of_none hdown hcandidates) rfl,
            rfl, hlisted, rfl⟩
      | cons session rest =>
          have hne :
              downCandidates (s.files laptop) env.user service ≠ [] := by
            rw [hcandidates, hsessions]
            exact List.cons_ne_nil _ _
          rcases deregisterViaBastion_eq hderegister listener overflowChecks
            network env env.user candidates (s.registry, state) with
            ⟨calls, hcalls, hretracted⟩
          rcases Deployment.list_succeeds hdown hne with
            ⟨s1, hstep1, hregistry1, hlisteners1, hfiles1, hdown1⟩
          rw [hcandidates, ← hcalls] at hdown1
          rcases deregisters_run calls hdown1 with
            ⟨outputs, s2, hrun2, hregistry2, hlisteners2, hfiles2, hdown2⟩
          rcases Deployment.forget_succeeds hdown2 with
            ⟨s3, hstep3, hregistry3, hlisteners3, hfiles3⟩
          simp only [downService, hload, hsessions] at hcall
          rw [← hsessions] at hcall
          rcases Prod.mk.inj hcall with ⟨hforget, hafter⟩
          simp only [forgetSessions, bind_eq_ok_iff] at hforget
          rcases hforget with ⟨_, _, _, _, hforget⟩
          cases hforget
          refine ⟨_, _, s3, deployment_run_cons hstep1
            (deploymentSystem.run_append hrun2
              (deployment_run_cons hstep3 (deploymentSystem.run_nil s3))),
            ?_, ?_, ?_⟩
          · rw [hregistry3, hregistry2, hregistry1, ← hafter, hretracted]
          · rw [hfiles3, hfiles2, hfiles1, hforgotten]
            rfl
          · rw [hlisteners3, hlisteners2, hlisteners1]

end

end Laptop

end Ephemwork
