import Ephemwork.Laptop.AwsProvisioner
import Mathlib.Data.Finset.Basic
import Mathlib.Logic.Function.Basic

/-!
# The account

What an AWS account holds of the resources of a bastion, and what the calls of the
SDK do to it.  A call may fail at any time, with its effect or without; no one
else acts on the account.
-/

namespace Ephemwork

open Foundation

namespace Laptop

structure Instance where
  tags : List (String × String)
  vpcId : String
  securityGroupIds : List String
deriving DecidableEq, Repr

def Instance.IsNamed (i : Instance) (name : String) : Prop :=
  ("Name", name) ∈ i.tags

instance (i : Instance) (name : String) : Decidable (i.IsNamed name) :=
  inferInstanceAs (Decidable (_ ∈ _))

structure SecurityGroup where
  name : String
  vpcId : String
  ingress : List IpPermission
deriving DecidableEq, Repr

/-- Everything is known by its id, roles and instance profiles by their name. -/
structure Account where
  instances : String -> Option Instance
  securityGroups : String -> Option SecurityGroup
  /-- The VPC of a subnet. -/
  subnets : String -> Option String
  /-- The policies attached to a role. -/
  roles : String -> Option (Finset String)
  /-- The roles in an instance profile. -/
  profiles : String -> Option (Finset String)

namespace Account

def setInstance (A : Account) (id : String) (i : Option Instance) : Account :=
  { A with instances := Function.update A.instances id i }

def setGroup (A : Account) (id : String) (g : Option SecurityGroup) : Account :=
  { A with securityGroups := Function.update A.securityGroups id g }

def setRole (A : Account) (name : String) (policies : Option (Finset String)) :
    Account :=
  { A with roles := Function.update A.roles name policies }

def setProfile (A : Account) (name : String) (roles : Option (Finset String)) :
    Account :=
  { A with profiles := Function.update A.profiles name roles }

def SameEc2 (A A' : Account) : Prop :=
  A'.instances = A.instances ∧ A'.securityGroups = A.securityGroups ∧
    A'.subnets = A.subnets

theorem SameEc2.refl (A : Account) : A.SameEc2 A := ⟨rfl, rfl, rfl⟩

theorem SameEc2.setRole {A A' : Account} (h : A.SameEc2 A') (name : String)
    (policies : Option (Finset String)) : A.SameEc2 (A'.setRole name policies) := h

theorem SameEc2.setProfile {A A' : Account} (h : A.SameEc2 A') (name : String)
    (roles : Option (Finset String)) : A.SameEc2 (A'.setProfile name roles) := h

/-- No instance and no group is there that was not there before. -/
structure Loses (A A' : Account) : Prop where
  instances : forall id i, A'.instances id = some i -> A.instances id = some i
  groups : forall id, A.securityGroups id = none -> A'.securityGroups id = none

theorem Loses.of_sameEc2 {A A' : Account} (h : A.SameEc2 A') :
    A.Loses A' where
  instances := by
    intro id i hi
    rw [h.left] at hi
    exact hi
  groups := by
    intro id hid
    rw [h.right.left]
    exact hid

theorem Loses.trans {A B C : Account} (hB : A.Loses B) (hC : B.Loses C) :
    A.Loses C where
  instances := fun id i hi => hB.instances id i (hC.instances id i hi)
  groups := fun id hid => hC.groups id (hB.groups id hid)

theorem loses_instance (A : Account) (id : String) :
    A.Loses (A.setInstance id none) where
  instances := by
    intro other i hi
    by_cases hother : other = id
    · simp [Account.setInstance, hother] at hi
    · simpa [Account.setInstance, hother] using hi
  groups := fun _ hid => hid

theorem loses_group (A : Account) (id : String) :
    A.Loses (A.setGroup id none) where
  instances := fun _ _ hi => hi
  groups := by
    intro other hnone
    by_cases hother : other = id
    · simp [Account.setGroup, hother]
    · simpa [Account.setGroup, hother] using hnone

end Account

/-!
# Descriptions
-/

/-- A value that a filter takes for itself: without wildcards. -/
def IsLiteral (value : String) : Prop :=
  forall c, c ∈ value.toList -> c ≠ '*' ∧ c ≠ '?' ∧ c ≠ '\\'

def liveStates : List InstanceStateName :=
  [.pending, .running, .stopping, .stopped]

structure InstanceDescription.Describes (description : InstanceDescription)
    (id : String) (i : Instance) : Prop where
  id_eq : description.instanceId = some id
  state_live : exists name, description.state = some { name := some name } ∧
    name ∈ liveStates
  groups_eq : description.securityGroups =
    some (i.securityGroupIds.map fun group => { groupId := some group })

def listed (reservations : Option (List Reservation)) : List InstanceDescription :=
  (reservations.getD []).flatMap fun reservation => reservation.instances.getD []

/-- The answer lists the instances of the account with the name, and nothing
else; no reservation is listed without an instance. -/
structure ListsNamed (A : Account) (name : String)
    (reservations : Option (List Reservation)) : Prop where
  sound : forall description, description ∈ listed reservations ->
    exists id i, A.instances id = some i ∧ i.IsNamed name ∧
      description.Describes id i
  complete : forall id i, A.instances id = some i -> i.IsNamed name ->
    exists description, description ∈ listed reservations ∧
      description.Describes id i
  not_empty : forall reservation, reservation ∈ reservations.getD [] ->
    reservation.instances.getD [] ≠ []

/-- The answer lists the groups of the account with the name, and nothing else. -/
structure ListsGroupsNamed (A : Account) (name : String)
    (groups : Option (List GroupDescription)) : Prop where
  sound : forall description, description ∈ groups.getD [] ->
    exists id g, description.groupId = some id ∧ A.securityGroups id = some g ∧
      g.name = name
  complete : forall id g, A.securityGroups id = some g -> g.name = name ->
    exists description, description ∈ groups.getD [] ∧ description.groupId = some id

/-!
# What the calls do
-/

def TellsExistence {item : Type} (found : Option item)
    (result : Except AwsError Unit) : Prop :=
  match result with
  | .ok _ => found ≠ none
  | .error e => e.isNoSuchEntity = true -> found = none

/-- An account follows the documentation of AWS: descriptions are true and
change nothing, and a call that creates, changes or deletes something does only
that. -/
structure AwsApi.Lawful {world : Type} (api : AwsApi world) (view : world -> Account) :
    Prop where
  describeNamed : forall name,
    Reads view (api.describeInstances (AwsProvisioner.bastionFilters name) [])
      fun A result => IsLiteral name -> forall out, result = .ok out ->
        ListsNamed A name out
  describeInstance : forall id,
    Reads view (api.describeInstances [] [id]) fun _ _ => True
  runInstances : forall input : RunInstancesInput,
    input.minCount = 1 -> input.maxCount = 1 ->
    Performs view (api.runInstances input) fun A out A' =>
      exists id vpcId, A.instances id = none ∧
        A.subnets input.subnetId = some vpcId ∧
        A' = A.setInstance id (some {
          tags := input.tags
          vpcId := vpcId
          securityGroupIds := input.securityGroupIds }) ∧
        forall description, description ∈ out.getD [] ->
          description.instanceId = some id
  terminateInstances : forall id,
    Performs view (api.terminateInstances id) fun A _ A' => A' = A.setInstance id none
  describeGroupsNamed : forall name,
    Reads view (api.describeSecurityGroups [AwsProvisioner.groupNameFilter name] [])
      fun A result => IsLiteral name -> forall out, result = .ok out ->
        ListsGroupsNamed A name out
  describeGroup : forall id,
    Reads view (api.describeSecurityGroups [] [id])
      fun A result => forall out, result = .ok out ->
        forall description vpcId, description ∈ out.getD [] ->
          description.vpcId = some vpcId ->
          exists g, A.securityGroups id = some g ∧ g.vpcId = vpcId
  createSecurityGroup : forall input : CreateSecurityGroupInput,
    Performs view (api.createSecurityGroup input) fun A out A' =>
      exists id, A.securityGroups id = none ∧
        A' = A.setGroup id (some {
          name := input.groupName, vpcId := input.vpcId, ingress := [] }) ∧
        forall returned, out = some returned -> returned = id
  authorizeSecurityGroupIngress : forall id permission,
    Performs view (api.authorizeSecurityGroupIngress id permission) fun A _ A' =>
      A' = A.setGroup id ((A.securityGroups id).map fun g =>
        { g with ingress := permission :: g.ingress })
  deleteSecurityGroup : forall id,
    Performs view (api.deleteSecurityGroup id) fun A _ A' => A' = A.setGroup id none
  describeSubnet : forall id,
    Reads view (api.describeSubnets id)
      fun A result => forall out, result = .ok out ->
        forall description vpcId, description ∈ out.getD [] ->
          description.vpcId = some vpcId -> A.subnets id = some vpcId
  getRole : forall name,
    Reads view (api.getRole name) fun A => TellsExistence (A.roles name)
  createRole : forall name document,
    Performs view (api.createRole name document) fun A _ A' =>
      A.roles name = none ∧ A' = A.setRole name (some ∅)
  attachRolePolicy : forall name arn,
    Performs view (api.attachRolePolicy name arn) fun A _ A' =>
      A' = A.setRole name ((A.roles name).map fun policies => insert arn policies)
  detachRolePolicy : forall name arn,
    Performs view (api.detachRolePolicy name arn) fun A _ A' =>
      A' = A.setRole name ((A.roles name).map fun policies => policies.erase arn)
  deleteRole : forall name,
    Performs view (api.deleteRole name) fun A _ A' => A' = A.setRole name none
  getInstanceProfile : forall name,
    Reads view (api.getInstanceProfile name) fun A => TellsExistence (A.profiles name)
  createInstanceProfile : forall name,
    Performs view (api.createInstanceProfile name) fun A _ A' =>
      A.profiles name = none ∧ A' = A.setProfile name (some ∅)
  addRoleToInstanceProfile : forall name role,
    Performs view (api.addRoleToInstanceProfile name role) fun A _ A' =>
      A' = A.setProfile name ((A.profiles name).map fun roles => insert role roles)
  removeRoleFromInstanceProfile : forall name role,
    Performs view (api.removeRoleFromInstanceProfile name role) fun A _ A' =>
      A' = A.setProfile name ((A.profiles name).map fun roles => roles.erase role)
  deleteInstanceProfile : forall name,
    Performs view (api.deleteInstanceProfile name) fun A _ A' =>
      A' = A.setProfile name none

end Laptop

end Ephemwork
