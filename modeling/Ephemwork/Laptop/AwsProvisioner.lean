import Ephemwork.Laptop.Base64
import Ephemwork.Laptop.Provisioner

/-!
# The provisioner on AWS

`src/aws_bastion_provisioner.rs`.  The calls of the SDK are given, with their
inputs and outputs; every field that the SDK may leave out is optional.
-/

namespace Ephemwork

open Foundation

namespace Laptop

/-!
# Inputs and outputs of the SDK
-/

structure Filter where
  name : String
  values : List String
deriving DecidableEq, Repr

inductive InstanceStateName where
  | pending
  | running
  | shuttingDown
  | stopped
  | stopping
  | terminated
  | unknown (text : String)
deriving DecidableEq, Repr

def InstanceStateName.asStr : InstanceStateName -> String
  | .pending => "pending"
  | .running => "running"
  | .shuttingDown => "shutting-down"
  | .stopped => "stopped"
  | .stopping => "stopping"
  | .terminated => "terminated"
  | .unknown text => text

structure InstanceState where
  name : Option InstanceStateName
deriving DecidableEq, Repr

structure GroupIdentifier where
  groupId : Option String
deriving DecidableEq, Repr

structure InstanceDescription where
  instanceId : Option String
  state : Option InstanceState
  privateIpAddress : Option String
  securityGroups : Option (List GroupIdentifier)
deriving DecidableEq, Repr

def InstanceDescription.stateName (description : InstanceDescription) :
    Option InstanceStateName :=
  description.state.bind fun state => state.name

structure Reservation where
  instances : Option (List InstanceDescription)
deriving DecidableEq, Repr

structure RunInstancesInput where
  imageId : String
  instanceType : String
  minCount : Nat
  maxCount : Nat
  subnetId : String
  securityGroupIds : List String
  iamInstanceProfileName : String
  userData : String
  /-- The tags of the instance. -/
  tags : List (String × String)
deriving DecidableEq, Repr

structure UserIdGroupPair where
  groupId : Option String
  description : Option String
deriving DecidableEq, Repr

structure IpPermission where
  ipProtocol : Option String
  fromPort : Option Int
  toPort : Option Int
  userIdGroupPairs : List UserIdGroupPair
deriving DecidableEq, Repr

structure GroupDescription where
  groupId : Option String
  vpcId : Option String
deriving DecidableEq, Repr

structure CreateSecurityGroupInput where
  groupName : String
  description : String
  vpcId : String
deriving DecidableEq, Repr

structure SubnetDescription where
  vpcId : Option String
deriving DecidableEq, Repr

/-- The calls of the SDK that the provisioner makes.  Those that describe
something take filters and ids. -/
structure AwsApi (world : Type) where
  describeInstances :
    List Filter -> List String -> Call world AwsError (Option (List Reservation))
  runInstances :
    RunInstancesInput -> Call world AwsError (Option (List InstanceDescription))
  terminateInstances : String -> Call world AwsError Unit
  describeSecurityGroups :
    List Filter -> List String -> Call world AwsError (Option (List GroupDescription))
  createSecurityGroup : CreateSecurityGroupInput -> Call world AwsError (Option String)
  authorizeSecurityGroupIngress : String -> IpPermission -> Call world AwsError Unit
  deleteSecurityGroup : String -> Call world AwsError Unit
  describeSubnets : String -> Call world AwsError (Option (List SubnetDescription))
  getRole : String -> Call world AwsError Unit
  createRole : String -> String -> Call world AwsError Unit
  attachRolePolicy : String -> String -> Call world AwsError Unit
  detachRolePolicy : String -> String -> Call world AwsError Unit
  deleteRole : String -> Call world AwsError Unit
  getInstanceProfile : String -> Call world AwsError Unit
  createInstanceProfile : String -> Call world AwsError Unit
  /-- The profile, then the role. -/
  addRoleToInstanceProfile : String -> String -> Call world AwsError Unit
  removeRoleFromInstanceProfile : String -> String -> Call world AwsError Unit
  deleteInstanceProfile : String -> Call world AwsError Unit
  /-- How often an instance is polled again before the five minutes are over. -/
  pollsBeforeDeadline : world -> Nat

def AwsError.isNoSuchEntity (error : AwsError) : Bool :=
  error.code == some "NoSuchEntity"

namespace AwsProvisioner

variable {world : Type} (api : AwsApi world) (context : BastionContext)

/-!
# Lookups
-/

def firstOf {item : Type} (items : Option (List item)) : Option item :=
  items.bind List.head?

def vpcIdForSubnet (subnetId : String) : Call world ProvisionError String := do
  let subnets <-
    (api.describeSubnets subnetId).onError
      (.context ("describe_subnets " ++ subnetId))
  match (firstOf subnets).bind fun subnet => subnet.vpcId with
  | none => throw (.message ("subnet " ++ subnetId ++ " not found"))
  | some vpcId => return vpcId

def existsFrom (operation : String) (get : Call world AwsError Unit) :
    Call world ProvisionError Bool := do
  let result <- get.attempt
  match result with
  | .ok _ => return true
  | .error e =>
      if e.isNoSuchEntity then
        return false
      else
        throw (.message (operation ++ " failed: " ++ e.display))

def iamRoleExists (name : String) : Call world ProvisionError Bool :=
  existsFrom "get_role" (api.getRole name)

def instanceProfileExists (name : String) : Call world ProvisionError Bool :=
  existsFrom "get_instance_profile" (api.getInstanceProfile name)

def groupNameFilter (name : String) : Filter where
  name := "group-name"
  values := [name]

def findSecurityGroupByName (name : String) :
    Call world ProvisionError (Option String) := do
  let groups <-
    (api.describeSecurityGroups [groupNameFilter name] []).onError
      (.context "describe_security_groups")
  return (firstOf groups).bind fun group => group.groupId

def vpcIdForSecurityGroup (groupId : String) : Call world ProvisionError String := do
  let groups <-
    (api.describeSecurityGroups [] [groupId]).onError
      (.context "describe_security_groups by id")
  match firstOf groups with
  | none => throw (.message ("security group " ++ groupId ++ " not found"))
  | some group =>
      match group.vpcId with
      | none => throw (.message ("security group " ++ groupId ++ " has no VpcId"))
      | some vpcId => return vpcId

/-!
# The role and its profile
-/

def attachPolicies : Call world ProvisionError Unit :=
  managedPolicyArns.forM fun arn =>
    (api.attachRolePolicy context.iamRoleName arn).onError
      (.context ("attach_role_policy " ++ arn))

def createProfile : Call world ProvisionError Unit := do
  (api.createInstanceProfile context.iamInstanceProfileName).onError
    (.context "create_instance_profile")
  (api.addRoleToInstanceProfile context.iamInstanceProfileName
    context.iamRoleName).onError (.context "add_role_to_instance_profile")

def ensureIamRole : Call world ProvisionError Unit := do
  let roleExists <- iamRoleExists api context.iamRoleName
  Call.skipIf roleExists
    ((api.createRole context.iamRoleName assumeRolePolicyDocument).onError
      (.context "create_role"))
  attachPolicies api context
  let profileExists <- instanceProfileExists api context.iamInstanceProfileName
  Call.skipIf profileExists (createProfile api context)

/-- Errors of the removal are ignored. -/
def deleteProfile : Call world ProvisionError Unit := do
  let _ <-
    (api.removeRoleFromInstanceProfile context.iamInstanceProfileName
      context.iamRoleName).attempt
  (api.deleteInstanceProfile context.iamInstanceProfileName).onError
    (.context "delete_instance_profile")

/-- Errors of the detaching are ignored. -/
def deleteRole : Call world ProvisionError Unit := do
  managedPolicyArns.forM fun arn => do
    let _ <- (api.detachRolePolicy context.iamRoleName arn).attempt
    return ()
  (api.deleteRole context.iamRoleName).onError (.context "delete_role")

def deleteIamRole : Call world ProvisionError Unit := do
  let profileExists <- instanceProfileExists api context.iamInstanceProfileName
  Call.skipIf (!profileExists) (deleteProfile api context)
  let roleExists <- iamRoleExists api context.iamRoleName
  Call.skipIf (!roleExists) (deleteRole api context)

/-!
# The security group
-/

def sourceGroup (plan : SecurityGroupPlan) : Option String :=
  plan.ingress.findSome? fun rule =>
    match rule.source with
    | .securityGroup id => some id
    | .cidr _ => none

/-- A new group, in the VPC of the group that the plan admits. -/
def createSecurityGroup (plan : SecurityGroupPlan) :
    Call world ProvisionError String := do
  match sourceGroup plan with
  | none => throw (.message "plan has no SG-source ingress to derive VPC from")
  | some albGroup =>
      let vpcId <- vpcIdForSecurityGroup api albGroup
      let created <-
        (api.createSecurityGroup {
          groupName := plan.name
          description := plan.description
          vpcId := vpcId }).onError (.context "create_security_group")
      match created with
      | none => throw (.message "create_security_group returned no GroupId")
      | some groupId => return groupId

def groupOfPlan (plan : SecurityGroupPlan) : Call world ProvisionError String := do
  let found <- findSecurityGroupByName api plan.name
  match found with
  | some existing => return existing
  | none => createSecurityGroup api plan

def permissionOf (rule : IngressRule) : IpPermission where
  ipProtocol := some rule.protocol
  fromPort := some rule.fromPort.toNat
  toPort := some rule.toPort.toNat
  userIdGroupPairs :=
    match rule.source with
    | .securityGroup id =>
        [{ groupId := some id, description := some rule.description }]
    | .cidr _ => []

/-- A rule that is there already is no error. -/
def authorizeRule (groupId : String) (rule : IngressRule) :
    Call world ProvisionError Unit := do
  let result <-
    (api.authorizeSecurityGroupIngress groupId (permissionOf rule)).attempt
  match result with
  | .ok _ => return ()
  | .error e =>
      if e.code = some "InvalidPermission.Duplicate" then
        return ()
      else
        throw (.message ("authorize_security_group_ingress failed: " ++ e.display))

def ensureSecurityGroup (plan : SecurityGroupPlan) :
    Call world ProvisionError String := do
  let groupId <- groupOfPlan api plan
  plan.ingress.forM (authorizeRule api groupId)
  return groupId

def deleteSecurityGroup (groupId : String) : Call world ProvisionError Unit :=
  (api.deleteSecurityGroup groupId).onError (.context "delete_security_group")

/-!
# The instance
-/

def runInput (plan : LaunchPlan) : RunInstancesInput where
  imageId := plan.amiId
  instanceType := plan.instanceType
  minCount := 1
  maxCount := 1
  subnetId := plan.subnetId
  securityGroupIds := [plan.securityGroupId]
  iamInstanceProfileName := plan.instanceProfileName
  userData := String.ofList (base64Encode (Bytes.ofText plan.userData.toList))
  tags := plan.tags

def launchInstance (plan : LaunchPlan) : Call world ProvisionError String := do
  let instances <- (api.runInstances (runInput plan)).onError (.context "run_instances")
  match (firstOf instances).bind fun launched => launched.instanceId with
  | none => throw (.message "run_instances returned no instance")
  | some id => return id

def firstInstance (reservations : Option (List Reservation)) :
    Option InstanceDescription :=
  (firstOf reservations).bind fun reservation => firstOf reservation.instances

def isRunning (reservations : Option (List Reservation)) : Bool :=
  match (firstInstance reservations).bind fun launched => launched.stateName with
  | none => false
  | some name => name.asStr == "running"

/-- The polls of the wait, with those that the deadline still leaves. -/
def pollUntilRunning (instanceId : String) : Nat -> Call world ProvisionError Unit
  | 0 => do
      let reservations <-
        (api.describeInstances [] [instanceId]).onError (.context "describe_instances")
      if isRunning reservations then
        return ()
      else
        throw (.message
          ("timed out waiting for " ++ instanceId ++ " to reach running"))
  | polls + 1 => do
      let reservations <-
        (api.describeInstances [] [instanceId]).onError (.context "describe_instances")
      if isRunning reservations then
        return ()
      else
        pollUntilRunning instanceId polls

def waitUntilRunning (instanceId : String) : Call world ProvisionError Unit :=
  Call.ofFn fun w =>
    (pollUntilRunning api instanceId (api.pollsBeforeDeadline w)).exec w

/-- The filters of the lookup: the `Name` tag, and the states of an instance
that is not gone. -/
def bastionFilters (name : String) : List Filter :=
  [{ name := "tag:Name", values := [name] },
   { name := "instance-state-name",
     values := ["pending", "running", "stopping", "stopped"] }]

def summaryOf (description : InstanceDescription) : InstanceSummary where
  instanceId := description.instanceId.getD ""
  state := (description.stateName.map InstanceStateName.asStr).getD ""
  privateIp := description.privateIpAddress
  securityGroupId :=
    (firstOf description.securityGroups).bind fun group => group.groupId

def findInstanceByName (name : String) :
    Call world ProvisionError (Option InstanceSummary) := do
  let reservations <-
    (api.describeInstances (bastionFilters name) []).onError
      (.context "describe_instances by tag")
  return (firstInstance reservations).map summaryOf

def terminateInstance (instanceId : String) : Call world ProvisionError Unit :=
  (api.terminateInstances instanceId).onError (.context "terminate_instances")

end AwsProvisioner

def awsProvisioner {world : Type} (api : AwsApi world) (context : BastionContext) :
    BastionProvisioner world where
  ensureSecurityGroup := AwsProvisioner.ensureSecurityGroup api
  ensureIamRole := AwsProvisioner.ensureIamRole api context
  launchInstance := AwsProvisioner.launchInstance api
  waitUntilRunning := AwsProvisioner.waitUntilRunning api
  findInstanceByName := AwsProvisioner.findInstanceByName api
  terminateInstance := AwsProvisioner.terminateInstance api
  deleteSecurityGroup := AwsProvisioner.deleteSecurityGroup api
  deleteIamRole := AwsProvisioner.deleteIamRole api context

end Laptop

end Ephemwork
