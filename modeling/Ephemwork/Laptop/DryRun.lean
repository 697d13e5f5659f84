import Ephemwork.Foundation.TracedCalls
import Ephemwork.Laptop.BastionInit

/-!
# The dry run

`PlanLogger` of `src/bastion_provisioner.rs`, which writes down each step instead of
taking it, and the branches of `bastion_init` and `bastion_destroy` in `src/main.rs`
without `--live`: what they print, against what a live run asks for.
-/

namespace Ephemwork

open Foundation

namespace Laptop

/-!
# The steps and their texts
-/

/-- What a provisioner is asked. -/
inductive PlanStep where
  | ensureSecurityGroup (plan : SecurityGroupPlan)
  | ensureIamRole
  | launchInstance (plan : LaunchPlan)
  | waitUntilRunning (instanceId : String)
  | findInstanceByName (name : String)
  | terminateInstance (instanceId : String)
  | deleteSecurityGroup (securityGroupId : String)
  | deleteIamRole
deriving DecidableEq, Repr

/-- A character of `{:?}`.  Those that are escaped by their number are given by the
tables of Unicode. -/
def debugChar (unprintable : Char -> Bool) (c : Char) : String :=
  if c = '\x00' then
    "\\0"
  else if c = '\t' then
    "\\t"
  else if c = '\n' then
    "\\n"
  else if c = '\r' then
    "\\r"
  else if c = '"' then
    "\\\""
  else if c = '\\' then
    "\\\\"
  else if unprintable c then
    "\\u\x7b" ++ String.ofList (Nat.toDigits 16 c.toNat) ++ "\x7d"
  else
    String.singleton c

def debugText (unprintable : Char -> Bool) (text : String) : String :=
  "\"" ++ String.join (text.toList.map (debugChar unprintable)) ++ "\""

def LaunchPlan.nameTag (plan : LaunchPlan) : String :=
  ((plan.tags.find? fun tag => tag.1 = "Name").map Prod.snd).getD "?"

def PlanStep.line (unprintable : Char -> Bool) (context : BastionContext) :
    PlanStep -> String
  | .ensureSecurityGroup plan =>
      "[plan] ensure security group " ++ debugText unprintable plan.name ++ " with " ++
        toString plan.ingress.length ++ " ingress rule(s)"
  | .ensureIamRole =>
      "[plan] ensure IAM role " ++ debugText unprintable context.iamRoleName ++
        " + instance profile " ++
        debugText unprintable context.iamInstanceProfileName ++ " with " ++
        toString managedPolicyArns.length ++ " managed policies"
  | .launchInstance plan =>
      "[plan] launch " ++ plan.instanceType ++ " in " ++ plan.region ++ " (subnet " ++
        plan.subnetId ++ ", ami " ++ plan.amiId ++ ") tagged Name=" ++ plan.nameTag
  | .waitUntilRunning instanceId => "[plan] wait until " ++ instanceId ++ " is running"
  | .findInstanceByName name => "[plan] look up instance tagged Name=" ++ name
  | .terminateInstance instanceId => "[plan] terminate instance " ++ instanceId
  | .deleteSecurityGroup securityGroupId =>
      "[plan] delete security group " ++ securityGroupId
  | .deleteIamRole =>
      "[plan] delete IAM role " ++ context.iamRoleName ++ " + instance profile " ++
        context.iamInstanceProfileName

/-!
# The logger
-/

structure PlanLogger where
  log : List String
  context : BastionContext
  /-- The lookup is to find an instance. -/
  pretendExisting : Bool

def PlanLogger.new (context : BastionContext) : PlanLogger where
  log := []
  context := context
  pretendExisting := false

section

variable (unprintable : Char -> Bool)

def PlanLogger.push (step : PlanStep) : Call PlanLogger ProvisionError Unit :=
  Call.ofFn fun logger =>
    (.ok (), { logger with log := logger.log ++ [step.line unprintable logger.context] })

def pretendedInstance : InstanceSummary where
  instanceId := "i-DRYRUN"
  state := "running"
  privateIp := some "10.0.0.42"
  securityGroupId := some "sg-DRYRUN"

def planLogger : BastionProvisioner PlanLogger where
  ensureSecurityGroup plan := do
    PlanLogger.push unprintable (.ensureSecurityGroup plan)
    return "sg-DRYRUN"
  ensureIamRole := PlanLogger.push unprintable .ensureIamRole
  launchInstance plan := do
    PlanLogger.push unprintable (.launchInstance plan)
    return "i-DRYRUN"
  waitUntilRunning instanceId := PlanLogger.push unprintable (.waitUntilRunning instanceId)
  findInstanceByName name := do
    PlanLogger.push unprintable (.findInstanceByName name)
    Call.ofFn fun logger =>
      (.ok (if logger.pretendExisting then some pretendedInstance else none), logger)
  terminateInstance instanceId :=
    PlanLogger.push unprintable (.terminateInstance instanceId)
  deleteSecurityGroup securityGroupId :=
    PlanLogger.push unprintable (.deleteSecurityGroup securityGroupId)
  deleteIamRole := PlanLogger.push unprintable .deleteIamRole

/-- `bastion_init` without `--live`: the lines it prints. -/
def bastionInitDry (readFile : String -> Except String String) (config : Config)
    (args : BastionInitArgs) : Except ProvisionError (List String) :=
  let context := ctxFromConfig config
  match securityGroupPlan context args.albSecurityGroupId with
  | .error e => .error (.plan e)
  | .ok groupPlan =>
      match readSshKey readFile args.sshPublicKey with
      | .error e => .error e
      | .ok sshKey =>
          match (runInit (planLogger unprintable) context groupPlan
            (buildLaunchPlan config.tunnel context args sshKey)).exec
              (PlanLogger.new context) with
          | (.error e, _) => .error e
          | (.ok _, logger) =>
              .ok ("Dry run (no AWS calls). Re-run with --live to provision." ::
                logger.log.map fun line => "  " ++ line)

/-- `bastion_destroy` without `--live`: the lines it prints. -/
def bastionDestroyDry (config : Config) : Except ProvisionError (List String) :=
  let context := ctxFromConfig config
  match (runDestroy (planLogger unprintable) context).exec
    { PlanLogger.new context with pretendExisting := true } with
  | (.error e, _) => .error e
  | (.ok outcome, logger) =>
      .ok ("Dry run (no AWS calls). Re-run with --live to delete." ::
        (logger.log.map fun line => "  " ++ line) ++
          outcome.instanceId.toList.map fun id => "  (would terminate " ++ id ++ ")")

end

/-!
# What a live run asks for
-/

variable {world : Type}

def BastionProvisioner.traced (provisioner : BastionProvisioner world) :
    BastionProvisioner (world × List PlanStep) where
  ensureSecurityGroup plan :=
    (provisioner.ensureSecurityGroup plan).trace (.ensureSecurityGroup plan)
  ensureIamRole := provisioner.ensureIamRole.trace .ensureIamRole
  launchInstance plan := (provisioner.launchInstance plan).trace (.launchInstance plan)
  waitUntilRunning id := (provisioner.waitUntilRunning id).trace (.waitUntilRunning id)
  findInstanceByName name :=
    (provisioner.findInstanceByName name).trace (.findInstanceByName name)
  terminateInstance id := (provisioner.terminateInstance id).trace (.terminateInstance id)
  deleteSecurityGroup id :=
    (provisioner.deleteSecurityGroup id).trace (.deleteSecurityGroup id)
  deleteIamRole := provisioner.deleteIamRole.trace .deleteIamRole

def prepareSteps (context : BastionContext) (groupPlan : SecurityGroupPlan) :
    List PlanStep :=
  [.findInstanceByName context.instanceName, .ensureIamRole,
    .ensureSecurityGroup groupPlan]

def launchSteps (plan : LaunchPlan) (instanceId : String) : List PlanStep :=
  [.launchInstance plan, .waitUntilRunning instanceId]

def destroySteps (context : BastionContext) (summary : InstanceSummary) : List PlanStep :=
  .findInstanceByName context.instanceName :: .terminateInstance summary.instanceId ::
    (summary.securityGroupId.toList.map .deleteSecurityGroup ++ [.deleteIamRole])

section

variable (provisioner : BastionProvisioner world) (context : BastionContext)
variable (groupPlan : SecurityGroupPlan)
variable (launchPlanFor : String -> Except PlanError LaunchPlan)

theorem createBastion_projects :
    Projects Prod.fst (createBastion provisioner.traced groupPlan launchPlanFor)
      (createBastion provisioner groupPlan launchPlanFor) := by
  refine Projects.bind (Projects.trace _ _) fun _ => ?_
  refine Projects.bind (Projects.trace _ _) fun groupId => ?_
  cases launchPlanFor groupId with
  | error e => exact Projects.throw _ _
  | ok plan =>
      refine Projects.bind (Projects.trace _ _) fun id => ?_
      exact Projects.bind (Projects.trace _ _) fun _ => Projects.pure _ _

theorem runInit_projects :
    Projects Prod.fst (runInit provisioner.traced context groupPlan launchPlanFor)
      (runInit provisioner context groupPlan launchPlanFor) := by
  refine Projects.bind (Projects.trace _ _) fun found => ?_
  cases found with
  | none => exact createBastion_projects provisioner groupPlan launchPlanFor
  | some existing =>
      cases hreusable : existing.isReusable with
      | true =>
          simp only [hreusable, if_true]
          exact Projects.pure _ _
      | false =>
          simp only [hreusable, Bool.false_eq_true, if_false]
          exact createBastion_projects provisioner groupPlan launchPlanFor

theorem runDestroy_projects :
    Projects Prod.fst (runDestroy provisioner.traced context)
      (runDestroy provisioner context) := by
  refine Projects.bind (Projects.trace _ _) fun found => ?_
  cases found with
  | none => exact Projects.pure _ _
  | some summary =>
      refine Projects.bind (Projects.trace _ _) fun _ => ?_
      refine Projects.bind ?_ fun _ => ?_
      · unfold deleteGroupOf
        cases summary.securityGroupId with
        | none => exact Projects.pure _ _
        | some id => exact Projects.trace _ _
      · exact Projects.bind (Projects.trace _ _) fun _ => Projects.pure _ _

def InitBegun (steps : List PlanStep) : Prop :=
  steps <+: prepareSteps context groupPlan ∨
    exists groupId plan id, launchPlanFor groupId = .ok plan ∧
      steps <+: prepareSteps context groupPlan ++ launchSteps plan id

def InitDone (outcome : InitOutcome) (steps : List PlanStep) : Prop :=
  (outcome.reused = true ∧ steps <+: prepareSteps context groupPlan) ∨
    (outcome.reused = false ∧
      exists plan, launchPlanFor outcome.securityGroupId = .ok plan ∧
        steps = prepareSteps context groupPlan ++ launchSteps plan outcome.instanceId)

theorem createBastion_steps :
    Triple (fun s => s.2 = [.findInstanceByName context.instanceName])
      (createBastion provisioner.traced groupPlan launchPlanFor)
      (fun outcome s => InitDone context groupPlan launchPlanFor outcome s.2)
      (fun _ s => InitBegun context groupPlan launchPlanFor s.2) := by
  have hprepared : forall steps rest, steps ++ rest = prepareSteps context groupPlan ->
      InitBegun context groupPlan launchPlanFor steps :=
    fun steps rest h => Or.inl ⟨rest, h⟩
  refine Triple.bind ((Triple.trace _ _ _).conseq (fun _ hs => hs) (fun _ _ hs => hs)
    fun _ s hs => hprepared s.2 [.ensureSecurityGroup groupPlan] (by rw [hs]; rfl))
    fun _ => ?_
  refine Triple.bind ((Triple.trace _ _ _).conseq (fun _ hs => hs) (fun _ _ hs => hs)
    fun _ s hs => hprepared s.2 [] (by rw [hs]; rfl)) fun groupId => ?_
  cases hplan : launchPlanFor groupId with
  | error e => exact Triple.throw fun s hs => hprepared s.2 [] (by rw [hs]; rfl)
  | ok plan =>
      have hlaunching : forall id steps rest,
          steps ++ rest = prepareSteps context groupPlan ++ launchSteps plan id ->
            InitBegun context groupPlan launchPlanFor steps :=
        fun id steps rest h => Or.inr ⟨groupId, plan, id, hplan, ⟨rest, h⟩⟩
      refine Triple.bind ((Triple.trace _ _ _).conseq (fun _ hs => hs)
        (fun _ _ hs => hs) fun _ s hs =>
          hlaunching "" s.2 [.waitUntilRunning ""] (by rw [hs]; rfl)) fun id => ?_
      refine Triple.bind ((Triple.trace _ _ _).conseq (fun _ hs => hs)
        (fun _ _ hs => hs) fun _ s hs => hlaunching id s.2 [] (by rw [hs]; rfl))
        fun _ => ?_
      exact Triple.pure fun s hs => Or.inr ⟨rfl, plan, hplan, hs⟩

theorem runInit_steps :
    Triple (fun s => s.2 = [])
      (runInit provisioner.traced context groupPlan launchPlanFor)
      (fun outcome s => InitDone context groupPlan launchPlanFor outcome s.2)
      (fun _ s => InitBegun context groupPlan launchPlanFor s.2) := by
  have hlooked : [PlanStep.findInstanceByName context.instanceName] <+:
      prepareSteps context groupPlan :=
    ⟨[.ensureIamRole, .ensureSecurityGroup groupPlan], rfl⟩
  refine Triple.bind ((Triple.trace _ _ _).conseq (fun _ hs => hs) (fun _ _ hs => hs)
    fun _ s hs => Or.inl (by rw [hs]; exact hlooked)) fun found => ?_
  have hcreate := createBastion_steps provisioner context groupPlan launchPlanFor
  cases found with
  | none => exact hcreate
  | some existing =>
      cases hreusable : existing.isReusable with
      | true =>
          simp only [hreusable, if_true]
          exact Triple.pure fun s hs => Or.inl ⟨rfl, by rw [hs]; exact hlooked⟩
      | false =>
          simp only [hreusable, Bool.false_eq_true, if_false]
          exact hcreate

def DestroyBegun (steps : List PlanStep) : Prop :=
  exists summary, steps <+: destroySteps context summary

def DestroyDone (outcome : DestroyOutcome) (steps : List PlanStep) : Prop :=
  (outcome.instanceId = none ∧ steps = [.findInstanceByName context.instanceName]) ∨
    exists summary : InstanceSummary, outcome.instanceId = some summary.instanceId ∧
      outcome.securityGroupId = summary.securityGroupId ∧
        steps = destroySteps context summary

theorem destroyBastion_steps (summary : InstanceSummary) :
    Triple (fun s => s.2 = [.findInstanceByName context.instanceName])
      (destroyBastion provisioner.traced summary)
      (fun outcome s => DestroyDone context outcome s.2)
      (fun _ s => DestroyBegun context s.2) := by
  have hbegun : forall steps rest, steps ++ rest = destroySteps context summary ->
      DestroyBegun context steps :=
    fun steps rest h => ⟨summary, rest, h⟩
  let group : List PlanStep := summary.securityGroupId.toList.map .deleteSecurityGroup
  refine Triple.bind ((Triple.trace _ _ _).conseq (fun _ hs => hs) (fun _ _ hs => hs)
    fun _ s hs => hbegun s.2 (group ++ [.deleteIamRole]) (by rw [hs]; rfl)) fun _ => ?_
  have hgroup : Triple
      (fun s => s.2 = [.findInstanceByName context.instanceName,
        .terminateInstance summary.instanceId])
      (deleteGroupOf provisioner.traced summary)
      (fun _ s => s.2 = [.findInstanceByName context.instanceName,
        .terminateInstance summary.instanceId] ++ group)
      (fun _ s => DestroyBegun context s.2) := by
    unfold deleteGroupOf
    cases hid : summary.securityGroupId with
    | none =>
        have hnone : group = [] := by
          show summary.securityGroupId.toList.map _ = []
          rw [hid]
          rfl
        exact Triple.pure fun s hs => by rw [hs, hnone, List.append_nil]
    | some id =>
        have hsome : group = [.deleteSecurityGroup id] := by
          show summary.securityGroupId.toList.map _ = _
          rw [hid]
          rfl
        rw [hsome]
        refine (Triple.trace _ _ _).conseq (fun _ hs => hs) (fun _ _ hs => hs)
          fun _ s hs => hbegun s.2 [.deleteIamRole] ?_
        show s.2 ++ _ = _ :: _ :: (group ++ _)
        rw [hs, hsome]
        rfl
  refine Triple.bind hgroup fun _ => ?_
  have hall : [.findInstanceByName context.instanceName,
      .terminateInstance summary.instanceId] ++ group ++ [.deleteIamRole] =
        destroySteps context summary := rfl
  refine Triple.bind ((Triple.trace _ _ _).conseq (fun _ hs => hs) (fun _ _ hs => hs)
    fun _ s hs => hbegun s.2 [] (by rw [hs, List.append_nil, hall])) fun _ => ?_
  exact Triple.pure fun s hs => Or.inr ⟨summary, rfl, rfl, by rw [hs, hall]⟩

theorem runDestroy_steps :
    Triple (fun s => s.2 = []) (runDestroy provisioner.traced context)
      (fun outcome s => DestroyDone context outcome s.2)
      (fun _ s => DestroyBegun context s.2) := by
  refine Triple.bind ((Triple.trace _ _ _).conseq (fun _ hs => hs) (fun _ _ hs => hs)
    fun _ s hs => ⟨pretendedInstance, _, by rw [hs]; rfl⟩) fun found => ?_
  cases found with
  | none => exact Triple.pure fun s hs => Or.inl ⟨rfl, hs⟩
  | some summary => exact destroyBastion_steps provisioner context summary

end

/-!
# The dry run
-/

section

variable (unprintable : Char -> Bool) (context : BastionContext)

theorem exec_runInit_planLogger (groupPlan : SecurityGroupPlan)
    (launchPlanFor : String -> Except PlanError LaunchPlan) :
    (runInit (planLogger unprintable) context groupPlan launchPlanFor).exec
        (PlanLogger.new context) =
      match launchPlanFor "sg-DRYRUN" with
      | .error e =>
          (.error (.plan e), { PlanLogger.new context with
            log := (prepareSteps context groupPlan).map (PlanStep.line unprintable context) })
      | .ok plan =>
          (.ok ⟨"sg-DRYRUN", "i-DRYRUN", false⟩, { PlanLogger.new context with
            log := (prepareSteps context groupPlan ++ launchSteps plan "i-DRYRUN").map
              (PlanStep.line unprintable context) }) := by
  have hcreate : (runInit (planLogger unprintable) context groupPlan launchPlanFor).exec
      (PlanLogger.new context) =
        (createBastion (planLogger unprintable) groupPlan launchPlanFor).exec
          { PlanLogger.new context with
            log := [(PlanStep.findInstanceByName context.instanceName).line unprintable
              context] } := rfl
  rw [hcreate, createBastion]
  cases hplan : launchPlanFor "sg-DRYRUN" with
  | error e =>
      show (match launchPlanFor "sg-DRYRUN" with
        | .error e => _
        | .ok plan => _ : Call PlanLogger ProvisionError InitOutcome).exec _ = _
      rw [hplan]
      rfl
  | ok plan =>
      show (match launchPlanFor "sg-DRYRUN" with
        | .error e => _
        | .ok plan => _ : Call PlanLogger ProvisionError InitOutcome).exec _ = _
      rw [hplan]
      rfl

theorem exec_runDestroy_planLogger :
    (runDestroy (planLogger unprintable) context).exec
        { PlanLogger.new context with pretendExisting := true } =
      (.ok ⟨some "i-DRYRUN", some "sg-DRYRUN"⟩,
        { PlanLogger.new context with
          pretendExisting := true
          log := (destroySteps context pretendedInstance).map
            (PlanStep.line unprintable context) }) :=
  rfl

theorem buildLaunchPlan_eq (tunnel : TunnelConfig) (args : BastionInitArgs)
    (sshKey : Option String) (groupId otherId : String) :
    buildLaunchPlan tunnel context args sshKey groupId =
      (buildLaunchPlan tunnel context args sshKey otherId).map fun plan =>
        { plan with securityGroupId := groupId } := by
  rw [buildLaunchPlan, buildLaunchPlan, LaunchPlan.fromConfig, LaunchPlan.fromConfig]
  cases userDataScript args.bastionBinaryS3Uri sshKey with
  | error e => rfl
  | ok userData => rfl

def launchFront (groupPlan : SecurityGroupPlan) (plan : LaunchPlan) : List String :=
  (prepareSteps context groupPlan ++ [PlanStep.launchInstance plan]).map
    (PlanStep.line unprintable context)

/-- What the lines up to the last one say of the steps that a run has taken: these are
a beginning of what is printed, and all of it once an instance was launched.  Only the
id of the instance is another one. -/
structure InitForetold (front : List String) (result : Except ProvisionError InitOutcome)
    (steps : List PlanStep) : Prop where
  begun : exists id, steps.map (PlanStep.line unprintable context) <+:
    front ++ [(PlanStep.waitUntilRunning id).line unprintable context]
  done : forall outcome, result = .ok outcome -> outcome.reused = false ->
    steps.map (PlanStep.line unprintable context) =
      front ++ [(PlanStep.waitUntilRunning outcome.instanceId).line unprintable context]

end

section

variable {unprintable : Char -> Bool} {context : BastionContext}
variable {groupPlan : SecurityGroupPlan} {tunnel : TunnelConfig} {args : BastionInitArgs}
variable {sshKey : Option String} {steps : List PlanStep}

theorem map_line_launchSteps {groupId id : String} {plan shown : LaunchPlan}
    (hplan : buildLaunchPlan tunnel context args sshKey groupId = .ok plan)
    (hshown : buildLaunchPlan tunnel context args sshKey "sg-DRYRUN" = .ok shown) :
    (prepareSteps context groupPlan ++ launchSteps plan id).map
        (PlanStep.line unprintable context) =
      launchFront unprintable context groupPlan shown ++
        [(PlanStep.waitUntilRunning id).line unprintable context] := by
  rw [buildLaunchPlan_eq context tunnel args sshKey groupId "sg-DRYRUN", hshown] at hplan
  cases hplan
  rfl

theorem map_line_prepareSteps (plan : LaunchPlan) (id : String)
    (hsteps : steps <+: prepareSteps context groupPlan) :
    steps.map (PlanStep.line unprintable context) <+:
      launchFront unprintable context groupPlan plan ++
        [(PlanStep.waitUntilRunning id).line unprintable context] := by
  rw [launchFront, List.map_append, List.append_assoc]
  exact (hsteps.map _).trans (List.prefix_append _ _)

theorem InitForetold.of_steps {shown : LaunchPlan}
    {result : Except ProvisionError InitOutcome}
    (hshown : buildLaunchPlan tunnel context args sshKey "sg-DRYRUN" = .ok shown)
    (hbegun : InitBegun context groupPlan (buildLaunchPlan tunnel context args sshKey)
      steps)
    (hdone : forall outcome, result = .ok outcome ->
      InitDone context groupPlan (buildLaunchPlan tunnel context args sshKey) outcome
        steps) :
    InitForetold unprintable context (launchFront unprintable context groupPlan shown)
      result steps where
  begun := by
    rcases hbegun with hprepare | ⟨groupId, plan, id, hplan, hsteps⟩
    · exact ⟨"", map_line_prepareSteps shown "" hprepare⟩
    · refine ⟨id, ?_⟩
      rw [← map_line_launchSteps hplan hshown]
      exact hsteps.map _
  done := by
    intro outcome hresult hnew
    rcases hdone outcome hresult with ⟨hreused, _⟩ | ⟨_, plan, hplan, hsteps⟩
    · rw [hnew] at hreused
      cases hreused
    · rw [hsteps, map_line_launchSteps hplan hshown]

end

section

variable (provisioner : BastionProvisioner world) (context : BastionContext)
variable (groupPlan : SecurityGroupPlan)
variable (launchPlanFor : String -> Except PlanError LaunchPlan)

def InitTakes (w : world) (steps : List PlanStep) : Prop :=
  (runInit provisioner.traced context groupPlan launchPlanFor).exec (w, []) =
    (((runInit provisioner context groupPlan launchPlanFor).exec w).1,
      (((runInit provisioner context groupPlan launchPlanFor).exec w).2, steps))

def InitLaunches (w : world) (plan : LaunchPlan) (instanceId : String) : Prop :=
  exists found groupId looked prepared grouped launched,
    (provisioner.findInstanceByName context.instanceName).exec w = (.ok found, looked) ∧
    (forall existing, found = some existing -> existing.isReusable = false) ∧
    provisioner.ensureIamRole.exec looked = (.ok (), prepared) ∧
    (provisioner.ensureSecurityGroup groupPlan).exec prepared = (.ok groupId, grouped) ∧
    launchPlanFor groupId = .ok plan ∧
    (provisioner.launchInstance plan).exec grouped = (.ok instanceId, launched)

def DestroyTakes (w : world) (steps : List PlanStep) : Prop :=
  (runDestroy provisioner.traced context).exec (w, []) =
    (((runDestroy provisioner context).exec w).1,
      (((runDestroy provisioner context).exec w).2, steps))

theorem exists_initTakes (w : world) :
    exists steps, InitTakes provisioner context groupPlan launchPlanFor w steps ∧
      InitBegun context groupPlan launchPlanFor steps ∧
        forall outcome,
          ((runInit provisioner context groupPlan launchPlanFor).exec w).1 =
            .ok outcome -> InitDone context groupPlan launchPlanFor outcome steps := by
  have hsame := runInit_projects provisioner context groupPlan launchPlanFor (w, [])
  have hsteps := runInit_steps provisioner context groupPlan launchPlanFor
  rcases hsame with ⟨hresult, hworld⟩
  cases hexec : (runInit provisioner.traced context groupPlan launchPlanFor).exec
      (w, []) with
  | mk result s =>
      rw [hexec] at hresult hworld
      dsimp only at hresult hworld
      refine ⟨s.2, ?_, ?_, ?_⟩
      · rw [InitTakes, hexec, ← hresult, ← hworld]
      · cases result with
        | ok outcome =>
            rcases hsteps.of_ok rfl hexec with ⟨_, hprepare⟩ | ⟨_, plan, hplan, hall⟩
            · exact Or.inl hprepare
            · exact Or.inr ⟨_, plan, _, hplan, by rw [hall]⟩
        | error e => exact hsteps.of_error rfl hexec
      · intro outcome hok
        rw [← hresult] at hok
        cases hok
        exact hsteps.of_ok rfl hexec

variable {provisioner context groupPlan launchPlanFor} in
theorem InitLaunches.steps_eq {w : world} {steps : List PlanStep} {plan : LaunchPlan}
    {instanceId : String}
    (h : InitLaunches provisioner context groupPlan launchPlanFor w plan instanceId)
    (htakes : InitTakes provisioner context groupPlan launchPlanFor w steps) :
    exists groupId, launchPlanFor groupId = .ok plan ∧
      steps = prepareSteps context groupPlan ++ launchSteps plan instanceId := by
  rcases h with ⟨found, groupId, looked, prepared, grouped, launched, hfind, hnew, hrole,
    hgroup, hplan, hlaunch⟩
  have hcreate : (runInit provisioner.traced context groupPlan launchPlanFor).exec (w, []) =
      (createBastion provisioner.traced groupPlan launchPlanFor).exec
        (looked, [.findInstanceByName context.instanceName]) := by
    rw [runInit, Call.exec_bind]
    simp only [BastionProvisioner.traced, Call.exec_trace, hfind, List.nil_append]
    cases found with
    | none => rfl
    | some existing => simp only [hnew existing rfl, Bool.false_eq_true, if_false]
  have hlog : ((createBastion provisioner.traced groupPlan launchPlanFor).exec
      (looked, [.findInstanceByName context.instanceName])).2.2 =
        prepareSteps context groupPlan ++ launchSteps plan instanceId := by
    simp only [createBastion, BastionProvisioner.traced, Call.exec_bind, Call.exec_trace,
      hrole, hgroup, hplan, hlaunch]
    cases hwait : (provisioner.waitUntilRunning instanceId).exec launched with
    | mk result last =>
        cases result with
        | ok a => rfl
        | error e => rfl
  rw [InitTakes, hcreate] at htakes
  rw [htakes] at hlog
  exact ⟨groupId, hplan, hlog⟩

theorem exists_destroyTakes (w : world) :
    exists steps, DestroyTakes provisioner context w steps ∧
      DestroyBegun context steps ∧
        forall outcome, ((runDestroy provisioner context).exec w).1 = .ok outcome ->
          DestroyDone context outcome steps := by
  have hsame := runDestroy_projects provisioner context (w, [])
  have hsteps := runDestroy_steps provisioner context
  rcases hsame with ⟨hresult, hworld⟩
  cases hexec : (runDestroy provisioner.traced context).exec (w, []) with
  | mk result s =>
      rw [hexec] at hresult hworld
      dsimp only at hresult hworld
      refine ⟨s.2, ?_, ?_, ?_⟩
      · rw [DestroyTakes, hexec, ← hresult, ← hworld]
      · cases result with
        | ok outcome =>
            rcases hsteps.of_ok rfl hexec with ⟨_, hlooked⟩ | ⟨summary, _, _, hall⟩
            · exact ⟨pretendedInstance, _, by rw [hlooked]; rfl⟩
            · exact ⟨summary, by rw [hall]⟩
        | error e => exact hsteps.of_error rfl hexec
      · intro outcome hok
        rw [← hresult] at hok
        cases hok
        exact hsteps.of_ok rfl hexec

end

/-!
# Dry runs against live ones
-/

def liveInit (api : AwsApi world) (config : Config) (args : BastionInitArgs)
    (groupPlan : SecurityGroupPlan) (sshKey : Option String) :
    Call world ProvisionError InitOutcome := do
  let context := ctxFromConfig config
  checkVpc api config.tunnel args.subnetId
  runInit (awsProvisioner api context) context groupPlan
    (buildLaunchPlan config.tunnel context args sshKey)

section

variable (unprintable : Char -> Bool) (api : AwsApi world)
variable (readFile : String -> Except String String) (config : Config)
variable (args : BastionInitArgs)

variable {readFile config args}

theorem bastionInit_eq_liveInit {groupPlan : SecurityGroupPlan} {sshKey : Option String}
    (hgroup : securityGroupPlan (ctxFromConfig config) args.albSecurityGroupId =
      .ok groupPlan)
    (hkey : readSshKey readFile args.sshPublicKey = .ok sshKey) :
    bastionInit api readFile config args = liveInit api config args groupPlan sshKey := by
  rw [bastionInit, hgroup]
  dsimp only
  rw [hkey]
  rfl

variable {api} in
theorem reused_of_liveInit {groupPlan : SecurityGroupPlan} {sshKey : Option String}
    {e : PlanError}
    (hplan : buildLaunchPlan config.tunnel (ctxFromConfig config) args sshKey
      "sg-DRYRUN" = .error e) {w : world} {outcome : InitOutcome}
    (h : ((liveInit api config args groupPlan sshKey).exec w).1 = .ok outcome) :
    outcome.reused = true := by
  rcases (Call.bind_eq_ok_iff _ _ _ _).mp h with ⟨_, t, _, hrun⟩
  rcases exists_initTakes (awsProvisioner api (ctxFromConfig config))
    (ctxFromConfig config) groupPlan
    (buildLaunchPlan config.tunnel (ctxFromConfig config) args sshKey) t with
      ⟨_, _, _, hdone⟩
  rcases hdone outcome hrun with ⟨hreused, _⟩ | ⟨_, plan, hmade, _⟩
  · exact hreused
  · rw [buildLaunchPlan_eq _ _ _ _ _ "sg-DRYRUN", hplan] at hmade
    cases hmade

variable (readFile config args)

/-- A dry run of init that fails does so where the live run fails too, or the live
run launches nothing; one that succeeds prints what the live run asks for, all of it
where an instance is launched, whether or not that is seen to run. -/
theorem dry_init_foretells :
    match bastionInitDry unprintable readFile config args with
    | .error e =>
        (forall w, (bastionInit api readFile config args).exec w = (.error e, w)) ∨
        exists groupPlan sshKey,
          bastionInit api readFile config args =
            liveInit api config args groupPlan sshKey ∧
          forall w, exists steps,
            InitTakes (awsProvisioner api (ctxFromConfig config)) (ctxFromConfig config)
              groupPlan (buildLaunchPlan config.tunnel (ctxFromConfig config) args sshKey)
              w steps ∧
            steps <+: prepareSteps (ctxFromConfig config) groupPlan ∧
            forall outcome,
              ((liveInit api config args groupPlan sshKey).exec w).1 = .ok outcome ->
                outcome.reused = true
    | .ok lines =>
        exists groupPlan sshKey front,
          bastionInit api readFile config args =
            liveInit api config args groupPlan sshKey ∧
          lines = "Dry run (no AWS calls). Re-run with --live to provision." ::
            (front ++ ["[plan] wait until i-DRYRUN is running"]).map
              (fun line => "  " ++ line) ∧
          forall w, exists steps,
            InitTakes (awsProvisioner api (ctxFromConfig config)) (ctxFromConfig config)
              groupPlan (buildLaunchPlan config.tunnel (ctxFromConfig config) args sshKey)
              w steps ∧
            InitForetold unprintable (ctxFromConfig config) front
              ((runInit (awsProvisioner api (ctxFromConfig config)) (ctxFromConfig config)
                groupPlan (buildLaunchPlan config.tunnel (ctxFromConfig config) args
                  sshKey)).exec w).1 steps ∧
            forall plan instanceId,
              InitLaunches (awsProvisioner api (ctxFromConfig config))
                (ctxFromConfig config) groupPlan
                (buildLaunchPlan config.tunnel (ctxFromConfig config) args sshKey) w plan
                instanceId ->
              steps.map (PlanStep.line unprintable (ctxFromConfig config)) =
                front ++ [(PlanStep.waitUntilRunning instanceId).line unprintable
                  (ctxFromConfig config)] := by
  have hsteps := fun groupPlan sshKey =>
    exists_initTakes (awsProvisioner api (ctxFromConfig config)) (ctxFromConfig config)
      groupPlan (buildLaunchPlan config.tunnel (ctxFromConfig config) args sshKey)
  cases hgroup : securityGroupPlan (ctxFromConfig config) args.albSecurityGroupId with
  | error e =>
      rw [bastionInitDry, hgroup]
      refine Or.inl fun w => ?_
      rw [bastionInit, hgroup]
      rfl
  | ok groupPlan =>
      rw [bastionInitDry, hgroup]
      dsimp only
      cases hkey : readSshKey readFile args.sshPublicKey with
      | error e =>
          refine Or.inl fun w => ?_
          rw [bastionInit, hgroup]
          dsimp only
          rw [hkey]
          rfl
      | ok sshKey =>
          have hlive := bastionInit_eq_liveInit api hgroup hkey
          dsimp only
          rw [exec_runInit_planLogger]
          cases hplan : buildLaunchPlan config.tunnel (ctxFromConfig config) args sshKey
              "sg-DRYRUN" with
          | error e =>
              refine Or.inr ⟨groupPlan, sshKey, hlive, fun w => ?_⟩
              rcases hsteps groupPlan sshKey w with ⟨steps, htakes, hbegun, _⟩
              refine ⟨steps, htakes, ?_, fun outcome hok => reused_of_liveInit hplan hok⟩
              rcases hbegun with hprepare | ⟨groupId, plan, _, hmade, _⟩
              · exact hprepare
              · rw [buildLaunchPlan_eq _ _ _ _ groupId "sg-DRYRUN", hplan] at hmade
                cases hmade
          | ok shown =>
              refine ⟨groupPlan, sshKey,
                launchFront unprintable (ctxFromConfig config) groupPlan shown, hlive, rfl,
                fun w => ?_⟩
              rcases hsteps groupPlan sshKey w with ⟨steps, htakes, hbegun, hdone⟩
              refine ⟨steps, htakes, InitForetold.of_steps hplan hbegun hdone, ?_⟩
              intro plan instanceId hlaunches
              rcases hlaunches.steps_eq htakes with ⟨groupId, hmade, hall⟩
              rw [hall, map_line_launchSteps hmade hplan]

end

/-- A dry run of destroy prints the steps for the instance that it makes up.  A live
run takes a beginning of the same steps for some instance, and all of them for the one
it reports; a group that is not known is not deleted. -/
theorem dry_destroy_foretells (unprintable : Char -> Bool)
    (provisioner : BastionProvisioner world) (config : Config) (w : world) :
    bastionDestroyDry unprintable config =
      .ok ("Dry run (no AWS calls). Re-run with --live to delete." ::
        ((destroySteps (ctxFromConfig config) pretendedInstance).map fun step =>
          "  " ++ step.line unprintable (ctxFromConfig config)) ++
            ["  (would terminate i-DRYRUN)"]) ∧
    exists steps, DestroyTakes provisioner (ctxFromConfig config) w steps ∧
      DestroyBegun (ctxFromConfig config) steps ∧
      forall outcome,
        ((runDestroy provisioner (ctxFromConfig config)).exec w).1 = .ok outcome ->
          DestroyDone (ctxFromConfig config) outcome steps := by
  refine ⟨?_, exists_destroyTakes provisioner (ctxFromConfig config) w⟩
  rw [bastionDestroyDry, exec_runDestroy_planLogger]
  dsimp only
  rw [List.map_map]
  rfl

end Laptop

end Ephemwork
