import Ephemwork.Laptop.Account
import Mathlib.Algebra.Order.BigOperators.Group.List
import Mathlib.Data.List.AList

/-!
# An AWS in memory

An account in memory that follows the documentation of AWS, with a script of the
calls that fail.  It shows that the laws can be met, and runs the commands on
given accounts.
-/

namespace Ephemwork

open Foundation

namespace Laptop

/-- How a call fails: it is refused, or its answer is lost. -/
inductive Fault where
  | refused
  | lost
deriving DecidableEq, Repr

structure LocalAws where
  instances : AList fun _ : String => Instance
  securityGroups : AList fun _ : String => SecurityGroup
  /-- The VPC of a subnet. -/
  subnets : AList fun _ : String => String
  roles : AList fun _ : String => Finset String
  profiles : AList fun _ : String => Finset String
  /-- What happens to the next calls; those after them do not fail. -/
  faults : List (Option Fault)

namespace LocalAws

def account (S : LocalAws) : Account where
  instances := fun id => S.instances.lookup id
  securityGroups := fun id => S.securityGroups.lookup id
  subnets := fun id => S.subnets.lookup id
  roles := fun name => S.roles.lookup name
  profiles := fun name => S.profiles.lookup name

/-!
# Performing a call
-/

def unavailable : AwsError where
  code := none
  display := "service unavailable"

def refusal (code : String) : AwsError where
  code := some code
  display := code

def next (S : LocalAws) : LocalAws :=
  { S with faults := S.faults.tail }

@[simp] theorem account_next (S : LocalAws) : S.next.account = S.account := rfl

def perform {value : Type} (step : LocalAws -> Except AwsError (value × LocalAws)) :
    Call LocalAws AwsError value :=
  Call.ofFn fun S =>
    match S.faults.head? with
    | some (some .refused) => (.error unavailable, S.next)
    | some (some .lost) =>
        match step S.next with
        | .error e => (.error e, S.next)
        | .ok (_, T) => (.error unavailable, T)
    | _ =>
        match step S.next with
        | .error e => (.error e, S.next)
        | .ok (a, T) => (.ok a, T)

section Perform

variable {value : Type} {step : LocalAws -> Except AwsError (value × LocalAws)}

theorem perform_cases (step : LocalAws -> Except AwsError (value × LocalAws))
    (S : LocalAws) :
    (perform step).exec S = (.error unavailable, S.next) ∨
    (exists e, step S.next = .error e ∧ (perform step).exec S = (.error e, S.next)) ∨
    exists a T, step S.next = .ok (a, T) ∧
      ((perform step).exec S = (.ok a, T) ∨
        (perform step).exec S = (.error unavailable, T)) := by
  simp only [perform, Call.exec_ofFn]
  split
  · exact Or.inl rfl
  · cases h : step S.next with
    | error e => exact Or.inr (Or.inl ⟨e, rfl, rfl⟩)
    | ok result => exact Or.inr (Or.inr ⟨result.1, result.2, rfl, Or.inr rfl⟩)
  · cases h : step S.next with
    | error e => exact Or.inr (Or.inl ⟨e, rfl, rfl⟩)
    | ok result => exact Or.inr (Or.inr ⟨result.1, result.2, rfl, Or.inl rfl⟩)

theorem perform_reads {answer : Account -> Except AwsError value -> Prop}
    (hok : forall S a T, step S = .ok (a, T) ->
      T.account = S.account ∧ answer S.account (.ok a))
    (herror : forall S e, step S = .error e -> answer S.account (.error e))
    (hfault : forall A, answer A (.error unavailable)) :
    Reads account (perform step) answer := by
  intro S
  rcases perform_cases step S with
    hrefused | ⟨e, hstep, hexec⟩ | ⟨a, T, hstep, hexec⟩
  · rw [hrefused]
    exact ⟨rfl, hfault S.account⟩
  · rw [hexec]
    exact ⟨rfl, herror S.next e hstep⟩
  · have hread := hok S.next a T hstep
    rcases hexec with hexec | hexec
    · rw [hexec]
      exact hread
    · rw [hexec]
      exact ⟨hread.left, hfault S.account⟩

theorem perform_describes {true_of : Account -> value -> Prop}
    (hok : forall S a T, step S = .ok (a, T) -> T = S ∧ true_of S.account a) :
    Reads account (perform step)
      fun A result => forall a, result = .ok a -> true_of A a := by
  refine perform_reads ?_ ?_ ?_
  · intro S a T h
    rcases hok S a T h with ⟨rfl, htrue⟩
    refine ⟨rfl, ?_⟩
    intro a' h'
    cases h'
    exact htrue
  · intro S e _ a h
    cases h
  · intro A a h
    cases h

theorem perform_performs {effect : Account -> value -> Account -> Prop}
    (hok : forall S a T, step S = .ok (a, T) -> effect S.account a T.account) :
    Performs account (perform step) effect := by
  intro S
  rcases perform_cases step S with
    hrefused | ⟨e, _, hexec⟩ | ⟨a, T, hstep, hexec⟩
  · rw [hrefused]
    exact Or.inl rfl
  · rw [hexec]
    exact Or.inl rfl
  · have heffect := hok S.next a T hstep
    rcases hexec with hexec | hexec
    · rw [hexec]
      exact heffect
    · rw [hexec]
      exact Or.inr ⟨a, heffect⟩

theorem perform_triple {pre : LocalAws -> Prop} {post : value -> LocalAws -> Prop}
    {fail : AwsError -> LocalAws -> Prop} (hfaults : forall S, pre S -> S.faults = [])
    (hstep : forall S, pre S ->
      match step S with
      | .ok (a, T) => post a T
      | .error e => fail e S) :
    Triple pre (perform step) post fail := by
  intro S hS
  have hnil := hfaults S hS
  have hdone := hstep S hS
  have hnext : S.next = S := by
    cases S
    cases hnil
    rfl
  simp only [perform, Call.exec_ofFn, hnil, List.head?_nil, hnext]
  cases h : step S with
  | error e => simpa [h] using hdone
  | ok result => simpa [h] using hdone

end Perform

/-!
# New ids
-/

def freshId (ids : List String) : String :=
  String.ofList (List.replicate ((ids.map fun id => id.toList.length).sum + 1) 'x')

theorem freshId_notMem (ids : List String) : freshId ids ∉ ids := by
  intro hmem
  have hlength : (freshId ids).toList.length ∈ ids.map fun id => id.toList.length :=
    List.mem_map.mpr ⟨freshId ids, hmem, rfl⟩
  have hle := List.single_le_sum (fun n _ => Nat.zero_le n) _ hlength
  simp only [freshId, String.toList_ofList, List.length_replicate] at hle
  omega

/-!
# The calls
-/

def passes (filters : List Filter) (i : Instance) : Bool :=
  filters.all fun filter =>
    if filter.name = "tag:Name" then
      filter.values.any fun name => decide (i.IsNamed name)
    else
      filter.name = "instance-state-name" ∧ filter.values.contains "running"

def describe (id : String) (i : Instance) : InstanceDescription where
  instanceId := some id
  state := some { name := some .running }
  privateIpAddress := none
  securityGroups := some (i.securityGroupIds.map fun group => { groupId := some group })

def describeInstances (filters : List Filter) (ids : List String) (S : LocalAws) :
    Except AwsError (Option (List Reservation) × LocalAws) :=
  let found := S.instances.entries.filter fun entry =>
    passes filters entry.2 && (ids.isEmpty || ids.contains entry.1)
  .ok (some (found.map fun entry =>
    { instances := some [describe entry.1 entry.2] }), S)

def runInstances (input : RunInstancesInput) (S : LocalAws) :
    Except AwsError (Option (List InstanceDescription) × LocalAws) :=
  match S.subnets.lookup input.subnetId with
  | none => .error (refusal "InvalidSubnetID.NotFound")
  | some vpcId =>
      if input.securityGroupIds.any fun group =>
          (S.securityGroups.lookup group).map SecurityGroup.vpcId ≠ some vpcId then
        .error (refusal "InvalidParameter")
      else
        let i : Instance := {
          tags := input.tags
          vpcId := vpcId
          securityGroupIds := input.securityGroupIds }
        let id := freshId S.instances.keys
        .ok (some [describe id i], { S with instances := S.instances.insert id i })

def terminateInstances (id : String) (S : LocalAws) :
    Except AwsError (Unit × LocalAws) :=
  .ok ((), { S with instances := S.instances.erase id })

def describeSecurityGroups (filters : List Filter) (ids : List String) (S : LocalAws) :
    Except AwsError (Option (List GroupDescription) × LocalAws) :=
  let found := S.securityGroups.entries.filter fun entry =>
    (filters.all fun filter =>
      filter.name = "group-name" ∧ filter.values.contains entry.2.name) &&
    (ids.isEmpty || ids.contains entry.1)
  if found = [] ∧ ids ≠ [] then
    .error (refusal "InvalidGroup.NotFound")
  else
    .ok (some (found.map fun entry =>
      { groupId := some entry.1, vpcId := some entry.2.vpcId }), S)

def createSecurityGroup (input : CreateSecurityGroupInput) (S : LocalAws) :
    Except AwsError (Option String × LocalAws) :=
  if S.securityGroups.entries.any fun entry =>
      entry.2.name = input.groupName ∧ entry.2.vpcId = input.vpcId then
    .error (refusal "InvalidGroup.Duplicate")
  else
    let g : SecurityGroup := {
      name := input.groupName, vpcId := input.vpcId, ingress := [] }
    let id := freshId S.securityGroups.keys
    .ok (some id, { S with securityGroups := S.securityGroups.insert id g })

def authorizeSecurityGroupIngress (id : String) (permission : IpPermission)
    (S : LocalAws) : Except AwsError (Unit × LocalAws) :=
  match S.securityGroups.lookup id with
  | none => .error (refusal "InvalidGroup.NotFound")
  | some g =>
      if permission ∈ g.ingress then
        .error (refusal "InvalidPermission.Duplicate")
      else
        .ok ((), { S with securityGroups :=
          S.securityGroups.insert id { g with ingress := permission :: g.ingress } })

def deleteSecurityGroup (id : String) (S : LocalAws) :
    Except AwsError (Unit × LocalAws) :=
  if S.instances.entries.any fun entry => entry.2.securityGroupIds.contains id then
    .error (refusal "DependencyViolation")
  else
    .ok ((), { S with securityGroups := S.securityGroups.erase id })

def describeSubnets (id : String) (S : LocalAws) :
    Except AwsError (Option (List SubnetDescription) × LocalAws) :=
  match S.subnets.lookup id with
  | none => .error (refusal "InvalidSubnetID.NotFound")
  | some vpcId => .ok (some [{ vpcId := some vpcId }], S)

def getEntity (entities : LocalAws -> AList fun _ : String => Finset String)
    (name : String) (S : LocalAws) : Except AwsError (Unit × LocalAws) :=
  match (entities S).lookup name with
  | none => .error (refusal "NoSuchEntity")
  | some _ => .ok ((), S)

def createRole (name _document : String) (S : LocalAws) :
    Except AwsError (Unit × LocalAws) :=
  match S.roles.lookup name with
  | some _ => .error (refusal "EntityAlreadyExists")
  | none => .ok ((), { S with roles := S.roles.insert name ∅ })

def attachRolePolicy (name arn : String) (S : LocalAws) :
    Except AwsError (Unit × LocalAws) :=
  match S.roles.lookup name with
  | none => .error (refusal "NoSuchEntity")
  | some policies =>
      .ok ((), { S with roles := S.roles.insert name (insert arn policies) })

def detachRolePolicy (name arn : String) (S : LocalAws) :
    Except AwsError (Unit × LocalAws) :=
  match S.roles.lookup name with
  | none => .error (refusal "NoSuchEntity")
  | some policies =>
      if arn ∈ policies then
        .ok ((), { S with roles := S.roles.insert name (policies.erase arn) })
      else
        .error (refusal "NoSuchEntity")

def deleteRole (name : String) (S : LocalAws) : Except AwsError (Unit × LocalAws) :=
  match S.roles.lookup name with
  | none => .error (refusal "NoSuchEntity")
  | some policies =>
      if policies ≠ ∅ ∨ S.profiles.entries.any fun entry => name ∈ entry.2 then
        .error (refusal "DeleteConflict")
      else
        .ok ((), { S with roles := S.roles.erase name })

def createInstanceProfile (name : String) (S : LocalAws) :
    Except AwsError (Unit × LocalAws) :=
  match S.profiles.lookup name with
  | some _ => .error (refusal "EntityAlreadyExists")
  | none => .ok ((), { S with profiles := S.profiles.insert name ∅ })

def addRoleToInstanceProfile (name role : String) (S : LocalAws) :
    Except AwsError (Unit × LocalAws) :=
  match S.profiles.lookup name with
  | none => .error (refusal "NoSuchEntity")
  | some roles =>
      if roles ≠ ∅ then
        .error (refusal "LimitExceeded")
      else
        .ok ((), { S with profiles := S.profiles.insert name (insert role roles) })

def removeRoleFromInstanceProfile (name role : String) (S : LocalAws) :
    Except AwsError (Unit × LocalAws) :=
  match S.profiles.lookup name with
  | none => .error (refusal "NoSuchEntity")
  | some roles =>
      if role ∈ roles then
        .ok ((), { S with profiles := S.profiles.insert name (roles.erase role) })
      else
        .error (refusal "NoSuchEntity")

def deleteInstanceProfile (name : String) (S : LocalAws) :
    Except AwsError (Unit × LocalAws) :=
  match S.profiles.lookup name with
  | none => .error (refusal "NoSuchEntity")
  | some roles =>
      if roles ≠ ∅ then
        .error (refusal "DeleteConflict")
      else
        .ok ((), { S with profiles := S.profiles.erase name })

def api : AwsApi LocalAws where
  describeInstances := fun filters ids => perform (describeInstances filters ids)
  runInstances := fun input => perform (runInstances input)
  terminateInstances := fun id => perform (terminateInstances id)
  describeSecurityGroups := fun filters ids =>
    perform (describeSecurityGroups filters ids)
  createSecurityGroup := fun input => perform (createSecurityGroup input)
  authorizeSecurityGroupIngress := fun id permission =>
    perform (authorizeSecurityGroupIngress id permission)
  deleteSecurityGroup := fun id => perform (deleteSecurityGroup id)
  describeSubnets := fun id => perform (describeSubnets id)
  getRole := fun name => perform (getEntity LocalAws.roles name)
  createRole := fun name document => perform (createRole name document)
  attachRolePolicy := fun name arn => perform (attachRolePolicy name arn)
  detachRolePolicy := fun name arn => perform (detachRolePolicy name arn)
  deleteRole := fun name => perform (deleteRole name)
  getInstanceProfile := fun name => perform (getEntity LocalAws.profiles name)
  createInstanceProfile := fun name => perform (createInstanceProfile name)
  addRoleToInstanceProfile := fun name role =>
    perform (addRoleToInstanceProfile name role)
  removeRoleFromInstanceProfile := fun name role =>
    perform (removeRoleFromInstanceProfile name role)
  deleteInstanceProfile := fun name => perform (deleteInstanceProfile name)
  pollsBeforeDeadline := fun _ => 60

/-!
# The laws
-/

section Updates

variable {item : Type} (entries : AList fun _ : String => item)

theorem lookup_insert_eq_update (id : String) (a : item) :
    (fun other => (entries.insert id a).lookup other) =
      Function.update (fun other => entries.lookup other) id (some a) := by
  funext other
  by_cases h : other = id
  · subst h
    rw [AList.lookup_insert, Function.update_self]
  · rw [AList.lookup_insert_ne h, Function.update_of_ne h]

theorem lookup_erase_eq_update (id : String) :
    (fun other => (entries.erase id).lookup other) =
      Function.update (fun other => entries.lookup other) id none := by
  funext other
  by_cases h : other = id
  · subst h
    rw [AList.lookup_erase, Function.update_self]
  · rw [AList.lookup_erase_ne h, Function.update_of_ne h]

theorem lookup_freshId : entries.lookup (freshId entries.keys) = none :=
  AList.lookup_eq_none.mpr fun hmem => freshId_notMem entries.keys hmem

end Updates

theorem account_insert_instance (S : LocalAws) (id : String) (i : Instance) :
    ({ S with instances := S.instances.insert id i } : LocalAws).account =
      S.account.setInstance id (some i) := by
  simp only [account, Account.setInstance, lookup_insert_eq_update]

theorem account_erase_instance (S : LocalAws) (id : String) :
    ({ S with instances := S.instances.erase id } : LocalAws).account =
      S.account.setInstance id none := by
  simp only [account, Account.setInstance, lookup_erase_eq_update]

theorem account_insert_group (S : LocalAws) (id : String) (g : SecurityGroup) :
    ({ S with securityGroups := S.securityGroups.insert id g } : LocalAws).account =
      S.account.setGroup id (some g) := by
  simp only [account, Account.setGroup, lookup_insert_eq_update]

theorem account_erase_group (S : LocalAws) (id : String) :
    ({ S with securityGroups := S.securityGroups.erase id } : LocalAws).account =
      S.account.setGroup id none := by
  simp only [account, Account.setGroup, lookup_erase_eq_update]

theorem account_insert_role (S : LocalAws) (name : String) (policies : Finset String) :
    ({ S with roles := S.roles.insert name policies } : LocalAws).account =
      S.account.setRole name (some policies) := by
  simp only [account, Account.setRole, lookup_insert_eq_update]

theorem account_erase_role (S : LocalAws) (name : String) :
    ({ S with roles := S.roles.erase name } : LocalAws).account =
      S.account.setRole name none := by
  simp only [account, Account.setRole, lookup_erase_eq_update]

theorem account_insert_profile (S : LocalAws) (name : String) (roles : Finset String) :
    ({ S with profiles := S.profiles.insert name roles } : LocalAws).account =
      S.account.setProfile name (some roles) := by
  simp only [account, Account.setProfile, lookup_insert_eq_update]

theorem account_erase_profile (S : LocalAws) (name : String) :
    ({ S with profiles := S.profiles.erase name } : LocalAws).account =
      S.account.setProfile name none := by
  simp only [account, Account.setProfile, lookup_erase_eq_update]

theorem account_update_group {S : LocalAws} {id : String} {g : SecurityGroup}
    (h : S.securityGroups.lookup id = some g) (f : SecurityGroup -> SecurityGroup) :
    ({ S with securityGroups := S.securityGroups.insert id (f g) } : LocalAws).account =
      S.account.setGroup id ((S.account.securityGroups id).map f) := by
  have hview : S.account.securityGroups id = some g := h
  rw [account_insert_group, hview]
  rfl

theorem account_update_role {S : LocalAws} {name : String} {policies : Finset String}
    (h : S.roles.lookup name = some policies) (f : Finset String -> Finset String) :
    ({ S with roles := S.roles.insert name (f policies) } : LocalAws).account =
      S.account.setRole name ((S.account.roles name).map f) := by
  have hview : S.account.roles name = some policies := h
  rw [account_insert_role, hview]
  rfl

theorem account_update_profile {S : LocalAws} {name : String} {roles : Finset String}
    (h : S.profiles.lookup name = some roles) (f : Finset String -> Finset String) :
    ({ S with profiles := S.profiles.insert name (f roles) } : LocalAws).account =
      S.account.setProfile name ((S.account.profiles name).map f) := by
  have hview : S.account.profiles name = some roles := h
  rw [account_insert_profile, hview]
  rfl

theorem describe_describes (id : String) (i : Instance) :
    (describe id i).Describes id i where
  id_eq := rfl
  state_live := ⟨.running, rfl, by simp [liveStates]⟩
  groups_eq := rfl

theorem passes_bastionFilters (name : String) (i : Instance) :
    passes (AwsProvisioner.bastionFilters name) i = true <-> i.IsNamed name := by
  simp [passes, AwsProvisioner.bastionFilters]

theorem listsNamed (name : String) (S : LocalAws)
    {out : Option (List Reservation)} {T : LocalAws}
    (h : describeInstances (AwsProvisioner.bastionFilters name) [] S = .ok (out, T)) :
    ListsNamed S.account name out := by
  have hlisted : forall description, description ∈ listed out <->
      exists id i, S.instances.lookup id = some i ∧ i.IsNamed name ∧
        description = describe id i := by
    intro description
    simp only [describeInstances, List.isEmpty_nil, Bool.true_or, Bool.and_true,
      Except.ok.injEq, Prod.mk.injEq] at h
    rw [← h.left]
    simp only [listed, Option.getD_some, List.flatMap_map, List.mem_flatMap,
      List.mem_filter, passes_bastionFilters, List.mem_singleton]
    constructor
    · intro hmem
      rcases hmem with ⟨entry, ⟨hentry, hnamed⟩, hdescription⟩
      exact ⟨entry.1, entry.2, AList.mem_lookup_iff.mpr hentry, hnamed, hdescription⟩
    · intro hmem
      rcases hmem with ⟨id, i, hid, hnamed, hdescription⟩
      exact ⟨⟨id, i⟩, ⟨AList.mem_lookup_iff.mp hid, hnamed⟩, hdescription⟩
  refine ⟨?_, ?_, ?_⟩
  · intro description hmem
    rcases (hlisted description).mp hmem with ⟨id, i, hid, hnamed, rfl⟩
    exact ⟨id, i, hid, hnamed, describe_describes id i⟩
  · intro id i hid hnamed
    exact ⟨describe id i, (hlisted _).mpr ⟨id, i, hid, hnamed, rfl⟩,
      describe_describes id i⟩
  · intro reservation hmem
    simp only [describeInstances, Except.ok.injEq, Prod.mk.injEq] at h
    rw [← h.left] at hmem
    simp only [Option.getD_some, List.mem_map] at hmem
    rcases hmem with ⟨entry, _, rfl⟩
    simp

theorem listsGroupsNamed (name : String) (S : LocalAws)
    {out : Option (List GroupDescription)} {T : LocalAws}
    (h : describeSecurityGroups [AwsProvisioner.groupNameFilter name] [] S =
      .ok (out, T)) :
    ListsGroupsNamed S.account name out := by
  have hlisted : forall description, description ∈ out.getD [] <->
      exists id g, S.securityGroups.lookup id = some g ∧ g.name = name ∧
        description = { groupId := some id, vpcId := some g.vpcId } := by
    intro description
    simp only [describeSecurityGroups, AwsProvisioner.groupNameFilter, ne_eq,
      not_true_eq_false, and_false, if_false, Except.ok.injEq, Prod.mk.injEq] at h
    rw [← h.left]
    simp only [Option.getD_some, List.mem_map, List.mem_filter]
    constructor
    · intro hmem
      rcases hmem with ⟨entry, ⟨hentry, hnamed⟩, hdescription⟩
      exact ⟨entry.1, entry.2, AList.mem_lookup_iff.mpr hentry, by simpa using hnamed,
        hdescription.symm⟩
    · intro hmem
      rcases hmem with ⟨id, g, hid, hnamed, hdescription⟩
      exact ⟨⟨id, g⟩, ⟨AList.mem_lookup_iff.mp hid, by simpa using hnamed⟩,
        hdescription.symm⟩
  refine ⟨?_, ?_⟩
  · intro description hmem
    rcases (hlisted description).mp hmem with ⟨id, g, hid, hnamed, rfl⟩
    exact ⟨id, g, rfl, hid, hnamed⟩
  · intro id g hid hnamed
    exact ⟨_, (hlisted _).mpr ⟨id, g, hid, hnamed, rfl⟩, rfl⟩

theorem describeGroup_sound (id : String) (S : LocalAws)
    {out : Option (List GroupDescription)} {T : LocalAws}
    (h : describeSecurityGroups [] [id] S = .ok (out, T))
    {description : GroupDescription} {vpcId : String}
    (hmem : description ∈ out.getD []) (hvpc : description.vpcId = some vpcId) :
    exists g, S.account.securityGroups id = some g ∧ g.vpcId = vpcId := by
  simp only [describeSecurityGroups] at h
  split at h
  · cases h
  · simp only [Except.ok.injEq, Prod.mk.injEq] at h
    rw [← h.left] at hmem
    simp only [Option.getD_some, List.mem_map, List.mem_filter] at hmem
    rcases hmem with ⟨entry, ⟨hentry, hid⟩, rfl⟩
    have hsame : entry.1 = id := by simpa using hid
    subst hsame
    exact ⟨entry.2, AList.mem_lookup_iff.mpr hentry, Option.some.inj hvpc⟩

theorem describeSecurityGroups_id {id : String} {S : LocalAws} {g : SecurityGroup}
    (hg : S.securityGroups.lookup id = some g) :
    exists rest, describeSecurityGroups [] [id] S =
      .ok (some ({ groupId := some id, vpcId := some g.vpcId } :: rest), S) := by
  have hfound : exists rest,
      (S.securityGroups.entries.filter fun entry => [id].contains entry.1) =
        ⟨id, g⟩ :: rest := by
    cases hfilter : S.securityGroups.entries.filter fun entry =>
        [id].contains entry.1 with
    | nil =>
        have hdrop := List.filter_eq_nil_iff.mp hfilter ⟨id, g⟩
          (AList.mem_lookup_iff.mp hg)
        simp at hdrop
    | cons entry rest =>
        have hentry : entry ∈ entry :: rest := List.mem_cons_self
        rw [← hfilter] at hentry
        rcases List.mem_filter.mp hentry with ⟨hin, hpass⟩
        have hid : entry.1 = id := by simpa using hpass
        subst hid
        have hsame : S.securityGroups.lookup entry.1 = some entry.2 :=
          AList.mem_lookup_iff.mpr hin
        rw [hg] at hsame
        cases hsame
        exact ⟨rest, rfl⟩
  rcases hfound with ⟨rest, hrest⟩
  refine ⟨rest.map fun entry => {
    groupId := some entry.1, vpcId := some entry.2.vpcId }, ?_⟩
  simp only [describeSecurityGroups, List.all_nil, Bool.true_and, List.isEmpty_cons,
    Bool.false_or, hrest]
  rfl

theorem getEntity_reads {entities : LocalAws -> AList fun _ : String => Finset String}
    {found : Account -> String -> Option (Finset String)}
    (hfound : forall S name, found S.account name = (entities S).lookup name)
    (name : String) :
    Reads account (perform (getEntity entities name))
      fun A => TellsExistence (found A name) := by
  refine perform_reads ?_ ?_ ?_
  · intro S a T h
    unfold getEntity at h
    cases hlookup : (entities S).lookup name with
    | none => simp [hlookup] at h
    | some entity =>
        simp only [hlookup, Except.ok.injEq, Prod.mk.injEq] at h
        rw [← h.right]
        exact ⟨rfl, by simp [TellsExistence, hfound, hlookup]⟩
  · intro S e h
    unfold getEntity at h
    cases hlookup : (entities S).lookup name with
    | none => simp [TellsExistence, hfound, hlookup]
    | some entity => simp [hlookup] at h
  · intro A
    simp [TellsExistence, unavailable, AwsError.isNoSuchEntity]

theorem lawful : api.Lawful account where
  describeNamed := by
    intro name
    have hlists : Reads account
        (perform (describeInstances (AwsProvisioner.bastionFilters name) []))
        fun A result => forall out, result = .ok out -> ListsNamed A name out := by
      apply perform_describes
      intro S out T h
      refine ⟨?_, listsNamed name S h⟩
      simp only [describeInstances, Except.ok.injEq, Prod.mk.injEq] at h
      exact h.right.symm
    exact hlists.imp fun A result h _ => h
  describeInstance := by
    intro id
    show Reads account (perform (describeInstances _ _)) _
    refine perform_reads ?_ ?_ ?_
    · intro S out T h
      simp only [describeInstances, Except.ok.injEq, Prod.mk.injEq] at h
      exact ⟨by rw [h.right], trivial⟩
    · intro _ _ _
      trivial
    · intro _
      trivial
  runInstances := by
    intro input _ _
    apply perform_performs
    intro S out T h
    unfold runInstances at h
    split at h
    · cases h
    · next vpcId hsubnet =>
        split at h
        · cases h
        · simp only [Except.ok.injEq, Prod.mk.injEq] at h
          rcases h with ⟨hout, hT⟩
          refine ⟨freshId S.instances.keys, vpcId, lookup_freshId _, hsubnet, ?_, ?_⟩
          · rw [← hT, account_insert_instance]
          · intro description hmem
            rw [← hout] at hmem
            rw [List.mem_singleton.mp hmem]
            rfl
  terminateInstances := by
    intro id
    show Performs account (perform (terminateInstances id)) _
    apply perform_performs
    intro S a T h
    simp only [terminateInstances, Except.ok.injEq, Prod.mk.injEq] at h
    rw [← h.right, account_erase_instance]
  describeGroupsNamed := by
    intro name
    have hlists : Reads account
        (perform (describeSecurityGroups [AwsProvisioner.groupNameFilter name] []))
        fun A result => forall out, result = .ok out -> ListsGroupsNamed A name out := by
      apply perform_describes
      intro S out T h
      refine ⟨?_, listsGroupsNamed name S h⟩
      simp only [describeSecurityGroups, ne_eq, not_true_eq_false, and_false,
        if_false, Except.ok.injEq, Prod.mk.injEq] at h
      exact h.right.symm
    exact hlists.imp fun A result h _ => h
  describeGroup := by
    intro id
    apply perform_describes
    intro S out T h
    refine ⟨?_, fun description vpcId hmem hvpc => describeGroup_sound id S h hmem hvpc⟩
    simp only [describeSecurityGroups] at h
    split at h
    · cases h
    · simp only [Except.ok.injEq, Prod.mk.injEq] at h
      exact h.right.symm
  createSecurityGroup := by
    intro input
    apply perform_performs
    intro S out T h
    unfold createSecurityGroup at h
    split at h
    · cases h
    · simp only [Except.ok.injEq, Prod.mk.injEq] at h
      rcases h with ⟨hout, hT⟩
      refine ⟨freshId S.securityGroups.keys, lookup_freshId _, ?_, ?_⟩
      · rw [← hT, account_insert_group]
      · intro returned hreturned
        rw [← hout] at hreturned
        exact (Option.some.inj hreturned).symm
  authorizeSecurityGroupIngress := by
    intro id permission
    apply perform_performs
    intro S a T h
    unfold authorizeSecurityGroupIngress at h
    split at h
    · cases h
    · next g hg =>
        split at h
        · cases h
        · simp only [Except.ok.injEq, Prod.mk.injEq] at h
          rw [← h.right]
          exact account_update_group hg fun g =>
            { g with ingress := permission :: g.ingress }
  deleteSecurityGroup := by
    intro id
    apply perform_performs
    intro S a T h
    unfold deleteSecurityGroup at h
    split at h
    · cases h
    · simp only [Except.ok.injEq, Prod.mk.injEq] at h
      rw [← h.right, account_erase_group]
  describeSubnet := by
    intro id
    apply perform_describes
    intro S out T h
    unfold describeSubnets at h
    split at h
    · cases h
    · next vpcId hvpc =>
        simp only [Except.ok.injEq, Prod.mk.injEq] at h
        rcases h with ⟨hout, hT⟩
        refine ⟨hT.symm, ?_⟩
        intro description returned hmem hreturned
        rw [← hout] at hmem
        have heq : description = { vpcId := some vpcId } := by simpa using hmem
        rw [heq] at hreturned
        rw [← Option.some.inj hreturned]
        exact hvpc
  getRole := getEntity_reads fun _ _ => rfl
  createRole := by
    intro name document
    apply perform_performs
    intro S a T h
    unfold createRole at h
    split at h
    · cases h
    · next hnone =>
        simp only [Except.ok.injEq, Prod.mk.injEq] at h
        rw [← h.right, account_insert_role]
        exact ⟨hnone, rfl⟩
  attachRolePolicy := by
    intro name arn
    apply perform_performs
    intro S a T h
    unfold attachRolePolicy at h
    split at h
    · cases h
    · next policies hpolicies =>
        simp only [Except.ok.injEq, Prod.mk.injEq] at h
        rw [← h.right]
        exact account_update_role hpolicies fun policies => insert arn policies
  detachRolePolicy := by
    intro name arn
    apply perform_performs
    intro S a T h
    unfold detachRolePolicy at h
    split at h
    · cases h
    · next policies hpolicies =>
        split at h
        · simp only [Except.ok.injEq, Prod.mk.injEq] at h
          rw [← h.right]
          exact account_update_role hpolicies fun policies => policies.erase arn
        · cases h
  deleteRole := by
    intro name
    apply perform_performs
    intro S a T h
    unfold deleteRole at h
    split at h
    · cases h
    · split at h
      · cases h
      · simp only [Except.ok.injEq, Prod.mk.injEq] at h
        rw [← h.right, account_erase_role]
  getInstanceProfile := getEntity_reads fun _ _ => rfl
  createInstanceProfile := by
    intro name
    apply perform_performs
    intro S a T h
    unfold createInstanceProfile at h
    split at h
    · cases h
    · next hnone =>
        simp only [Except.ok.injEq, Prod.mk.injEq] at h
        rw [← h.right, account_insert_profile]
        exact ⟨hnone, rfl⟩
  addRoleToInstanceProfile := by
    intro name role
    apply perform_performs
    intro S a T h
    unfold addRoleToInstanceProfile at h
    split at h
    · cases h
    · next roles hroles =>
        split at h
        · cases h
        · simp only [Except.ok.injEq, Prod.mk.injEq] at h
          rw [← h.right]
          exact account_update_profile hroles fun roles => insert role roles
  removeRoleFromInstanceProfile := by
    intro name role
    apply perform_performs
    intro S a T h
    unfold removeRoleFromInstanceProfile at h
    split at h
    · cases h
    · next roles hroles =>
        split at h
        · simp only [Except.ok.injEq, Prod.mk.injEq] at h
          rw [← h.right]
          exact account_update_profile hroles fun roles => roles.erase role
        · cases h
  deleteInstanceProfile := by
    intro name
    apply perform_performs
    intro S a T h
    unfold deleteInstanceProfile at h
    split at h
    · cases h
    · split at h
      · cases h
      · simp only [Except.ok.injEq, Prod.mk.injEq] at h
        rw [← h.right, account_erase_profile]

/-!
# A project
-/

def network (faults : List (Option Fault)) : LocalAws where
  instances := ∅
  securityGroups := AList.singleton "sg-alb"
    { name := "alb", vpcId := "vpc-staging", ingress := [] }
  subnets := AList.singleton "subnet-a" "vpc-staging"
  roles := ∅
  profiles := ∅
  faults := faults

def demoBastion : Instance where
  tags := instanceTags { projectName := "demo" }
  vpcId := "vpc-staging"
  securityGroupIds := ["sg-bastion"]

def deployed (faults : List (Option Fault)) : LocalAws where
  instances := AList.singleton "i-bastion" demoBastion
  securityGroups := (network faults).securityGroups.insert "sg-bastion"
    { name := "ephemwork-demo-bastion-sg", vpcId := "vpc-staging", ingress := [] }
  subnets := (network faults).subnets
  roles := AList.singleton "ephemwork-demo-bastion-role" managedPolicyArns.toFinset
  profiles := AList.singleton "ephemwork-demo-bastion-instance-profile"
    {"ephemwork-demo-bastion-role"}
  faults := faults

end LocalAws

end Laptop

end Ephemwork
