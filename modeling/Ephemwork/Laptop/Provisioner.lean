import Ephemwork.Foundation.Calls
import Ephemwork.Laptop.LaunchPlan

/-!
# The provisioner

The orchestration of `src/bastion_provisioner.rs`: what a provisioner can be
asked, and the order in which `run_init` and `run_destroy` ask it.
-/

namespace Ephemwork

open Foundation

namespace Laptop

structure AwsError where
  code : Option String
  display : String
deriving DecidableEq, Repr

inductive ProvisionError where
  /-- An error of AWS under the context it was given. -/
  | context (text : String) (source : AwsError)
  | message (text : String)
  | plan (error : PlanError)
deriving DecidableEq, Repr

structure InstanceSummary where
  instanceId : String
  state : String
  privateIp : Option String
  securityGroupId : Option String
deriving DecidableEq, Repr

structure BastionProvisioner (world : Type) where
  ensureSecurityGroup : SecurityGroupPlan -> Call world ProvisionError String
  ensureIamRole : Call world ProvisionError Unit
  launchInstance : LaunchPlan -> Call world ProvisionError String
  waitUntilRunning : String -> Call world ProvisionError Unit
  /-- The instance with the `Name` tag, if there is one. -/
  findInstanceByName : String -> Call world ProvisionError (Option InstanceSummary)
  terminateInstance : String -> Call world ProvisionError Unit
  deleteSecurityGroup : String -> Call world ProvisionError Unit
  deleteIamRole : Call world ProvisionError Unit

variable {world : Type}

/-!
# Destroy
-/

structure DestroyOutcome where
  instanceId : Option String
  securityGroupId : Option String
deriving DecidableEq, Repr

def deleteGroupOf (provisioner : BastionProvisioner world)
    (summary : InstanceSummary) : Call world ProvisionError Unit :=
  match summary.securityGroupId with
  | none => pure ()
  | some id => provisioner.deleteSecurityGroup id

def destroyBastion (provisioner : BastionProvisioner world)
    (summary : InstanceSummary) : Call world ProvisionError DestroyOutcome := do
  provisioner.terminateInstance summary.instanceId
  deleteGroupOf provisioner summary
  provisioner.deleteIamRole
  return {
    instanceId := some summary.instanceId
    securityGroupId := summary.securityGroupId }

def runDestroy (provisioner : BastionProvisioner world) (context : BastionContext) :
    Call world ProvisionError DestroyOutcome := do
  let found <- provisioner.findInstanceByName context.instanceName
  match found with
  | none => return { instanceId := none, securityGroupId := none }
  | some summary => destroyBastion provisioner summary

/-!
# Init
-/

structure InitOutcome where
  securityGroupId : String
  instanceId : String
  /-- An existing instance was reused. -/
  reused : Bool
deriving DecidableEq, Repr

/-- The instance reported is to be reused: it is neither gone nor going. -/
def InstanceSummary.isReusable (summary : InstanceSummary) : Bool :=
  !(["terminated", "shutting-down", ""].contains summary.state)

theorem InstanceSummary.isReusable_of_live {summary : InstanceSummary}
    (h : summary.state ∈ ["pending", "running", "stopping", "stopped"]) :
    summary.isReusable = true := by
  simp only [List.mem_cons, List.not_mem_nil, or_false] at h
  rcases h with h | h | h | h <;> simp [isReusable, h]

theorem InstanceSummary.isReusable_of_gone {summary : InstanceSummary}
    (h : summary.state ∈ ["shutting-down", "terminated", ""]) :
    summary.isReusable = false := by
  simp only [List.mem_cons, List.not_mem_nil, or_false] at h
  rcases h with h | h | h <;> simp [isReusable, h]

def createBastion (provisioner : BastionProvisioner world)
    (groupPlan : SecurityGroupPlan)
    (launchPlanFor : String -> Except PlanError LaunchPlan) :
    Call world ProvisionError InitOutcome := do
  provisioner.ensureIamRole
  let groupId <- provisioner.ensureSecurityGroup groupPlan
  match launchPlanFor groupId with
  | .error e => throw (.plan e)
  | .ok plan =>
      let instanceId <- provisioner.launchInstance plan
      provisioner.waitUntilRunning instanceId
      return {
        securityGroupId := groupId, instanceId := instanceId, reused := false }

def runInit (provisioner : BastionProvisioner world) (context : BastionContext)
    (groupPlan : SecurityGroupPlan)
    (launchPlanFor : String -> Except PlanError LaunchPlan) :
    Call world ProvisionError InitOutcome := do
  let found <- provisioner.findInstanceByName context.instanceName
  match found with
  | none => createBastion provisioner groupPlan launchPlanFor
  | some existing =>
      if existing.isReusable then
        return {
          securityGroupId := existing.securityGroupId.getD ""
          instanceId := existing.instanceId
          reused := true }
      else
        createBastion provisioner groupPlan launchPlanFor

/-!
# Keeping a record
-/

def BastionProvisioner.recorded (provisioner : BastionProvisioner world) :
    BastionProvisioner (world × List world) where
  ensureSecurityGroup := fun plan => (provisioner.ensureSecurityGroup plan).record
  ensureIamRole := provisioner.ensureIamRole.record
  launchInstance := fun plan => (provisioner.launchInstance plan).record
  waitUntilRunning := fun id => (provisioner.waitUntilRunning id).record
  findInstanceByName := fun name => (provisioner.findInstanceByName name).record
  terminateInstance := fun id => (provisioner.terminateInstance id).record
  deleteSecurityGroup := fun id => (provisioner.deleteSecurityGroup id).record
  deleteIamRole := provisioner.deleteIamRole.record

section Recorded

variable (provisioner : BastionProvisioner world) (context : BastionContext)

theorem createBastion_mirrors (groupPlan : SecurityGroupPlan)
    (launchPlanFor : String -> Except PlanError LaunchPlan) :
    Mirrors (createBastion provisioner.recorded groupPlan launchPlanFor)
      (createBastion provisioner groupPlan launchPlanFor) := by
  refine Mirrors.bind (Mirrors.record _) fun _ => ?_
  refine Mirrors.bind (Mirrors.record _) fun groupId => ?_
  cases launchPlanFor groupId with
  | error e => exact Mirrors.throw _
  | ok plan =>
      refine Mirrors.bind (Mirrors.record _) fun id => ?_
      exact Mirrors.bind (Mirrors.record _) fun _ => Mirrors.pure _

theorem runInit_mirrors (groupPlan : SecurityGroupPlan)
    (launchPlanFor : String -> Except PlanError LaunchPlan) :
    Mirrors (runInit provisioner.recorded context groupPlan launchPlanFor)
      (runInit provisioner context groupPlan launchPlanFor) := by
  refine Mirrors.bind (Mirrors.record _) fun found => ?_
  cases found with
  | none => exact createBastion_mirrors provisioner groupPlan launchPlanFor
  | some existing =>
      cases hreusable : existing.isReusable with
      | true =>
          simp only [hreusable, if_true]
          exact Mirrors.pure _
      | false =>
          simp only [hreusable, Bool.false_eq_true, if_false]
          exact createBastion_mirrors provisioner groupPlan launchPlanFor

theorem runDestroy_mirrors :
    Mirrors (runDestroy provisioner.recorded context)
      (runDestroy provisioner context) := by
  refine Mirrors.bind (Mirrors.record _) fun found => ?_
  cases found with
  | none => exact Mirrors.pure _
  | some summary =>
      refine Mirrors.bind (Mirrors.record _) fun _ => ?_
      refine Mirrors.bind ?_ fun _ => ?_
      · unfold deleteGroupOf
        cases summary.securityGroupId with
        | none => exact Mirrors.pure _
        | some id => exact Mirrors.record _
      · exact Mirrors.bind (Mirrors.record _) fun _ => Mirrors.pure _

end Recorded

end Laptop

end Ephemwork
