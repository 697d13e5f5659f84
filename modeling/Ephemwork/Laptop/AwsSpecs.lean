import Ephemwork.Laptop.Account

/-!
# What the provisioner does to an account

One specification for each function of the provisioner, on every account that
follows the documentation of AWS and however its calls fail.
-/

namespace Ephemwork

open Foundation

namespace Laptop

namespace AwsProvisioner

variable {world : Type} {api : AwsApi world} {view : world -> Account}

theorem mem_of_firstOf {item : Type} {items : Option (List item)} {first : item}
    (h : firstOf items = some first) : first ∈ items.getD [] := by
  rcases Option.bind_eq_some_iff.mp h with ⟨list, rfl, hhead⟩
  exact List.mem_of_head? hhead

theorem firstOf_eq_none_iff {item : Type} (items : Option (List item)) :
    firstOf items = none <-> items.getD [] = [] := by
  cases items with
  | none => simp [firstOf]
  | some list => simp [firstOf]

/-!
# Lookups
-/

/-- A report on the instances with a name: none where there is none, else one of
them in a state that is not gone. -/
def ReportsNamed (A : Account) (name : String) (found : Option InstanceSummary) : Prop :=
  match found with
  | none => forall id i, A.instances id = some i -> ¬ i.IsNamed name
  | some summary =>
      exists i, A.instances summary.instanceId = some i ∧ i.IsNamed name ∧
        summary.state ∈ ["pending", "running", "stopping", "stopped"] ∧
        summary.securityGroupId = i.securityGroupIds.head?

theorem summaryOf_describes {description : InstanceDescription} {id : String}
    {i : Instance} (h : description.Describes id i) :
    (summaryOf description).instanceId = id ∧
      (summaryOf description).state ∈ ["pending", "running", "stopping", "stopped"] ∧
      (summaryOf description).securityGroupId = i.securityGroupIds.head? := by
  rcases h.state_live with ⟨name, hstate, hlive⟩
  refine ⟨?_, ?_, ?_⟩
  · simp [summaryOf, h.id_eq]
  · have hname : (summaryOf description).state = name.asStr := by
      simp [summaryOf, InstanceDescription.stateName, hstate]
    rw [hname]
    simp only [liveStates, List.mem_cons, List.not_mem_nil, or_false] at hlive
    rcases hlive with rfl | rfl | rfl | rfl
    · simp [InstanceStateName.asStr]
    · simp [InstanceStateName.asStr]
    · simp [InstanceStateName.asStr]
    · simp [InstanceStateName.asStr]
  · cases hgroups : i.securityGroupIds with
    | nil => simp [summaryOf, firstOf, h.groups_eq, hgroups]
    | cons group rest => simp [summaryOf, firstOf, h.groups_eq, hgroups]

theorem ListsNamed.reports {A : Account} {name : String}
    {reservations : Option (List Reservation)} (h : ListsNamed A name reservations) :
    ReportsNamed A name ((firstInstance reservations).map summaryOf) := by
  cases hfirst : firstInstance reservations with
  | none =>
      -- Had a reservation been listed, its first instance would be the first.
      have hnone : reservations.getD [] = [] := by
        cases hreservation : firstOf reservations with
        | none => exact (firstOf_eq_none_iff reservations).mp hreservation
        | some reservation =>
            have hempty : firstOf reservation.instances = none := by
              simpa [firstInstance, hreservation] using hfirst
            exact absurd ((firstOf_eq_none_iff _).mp hempty)
              (h.not_empty reservation (mem_of_firstOf hreservation))
      intro id i hi hnamed
      rcases h.complete id i hi hnamed with ⟨description, hmem, _⟩
      simp [listed, hnone] at hmem
  | some description =>
      rcases Option.bind_eq_some_iff.mp hfirst with ⟨reservation, hreservation, hin⟩
      have hmem : description ∈ listed reservations :=
        List.mem_flatMap.mpr
          ⟨reservation, mem_of_firstOf hreservation, mem_of_firstOf hin⟩
      rcases h.sound description hmem with ⟨id, i, hi, hnamed, hdescribes⟩
      rcases summaryOf_describes hdescribes with ⟨hid, hstate, hgroup⟩
      refine ⟨i, ?_, hnamed, hstate, hgroup⟩
      rw [hid]
      exact hi

section Specs

variable (hlaw : api.Lawful view)

include hlaw

theorem findInstanceByName_spec {name : String} (hname : IsLiteral name)
    (A : Account) :
    Triple (fun w => view w = A) (findInstanceByName api name)
      (fun found w => view w = A ∧ ReportsNamed A name found)
      (fun _ w => view w = A) := by
  have hread := (hlaw.describeNamed name).triple fun B => B = A
  refine Triple.bind (Triple.onError (hread.conseq (fun _ h => h) (fun _ _ h => h) ?_)) ?_
  · intro e w h
    exact h.left
  · intro reservations
    apply Triple.pure
    intro w h
    refine ⟨h.left, ?_⟩
    have hlists := h.right hname reservations rfl
    rw [h.left] at hlists
    exact ListsNamed.reports hlists

end Specs

theorem existsFrom_spec {item : Type} {found : Account -> Option item}
    {get : Call world AwsError Unit}
    (hget : Reads view get fun A => TellsExistence (found A)) (operation : String)
    (inv : Account -> Prop) :
    Triple (fun w => inv (view w)) (existsFrom operation get)
      (fun known w => inv (view w) ∧ (known = true <-> found (view w) ≠ none))
      (fun _ w => inv (view w)) := by
  have hresult : Triple (fun w => inv (view w)) get.attempt
      (fun result w => inv (view w) ∧ TellsExistence (found (view w)) result)
      (fun (_ : ProvisionError) w => inv (view w)) :=
    Triple.attempt (hget.triple inv)
  apply Triple.bind hresult
  intro result
  cases result with
  | ok _ =>
      apply Triple.pure
      intro w hw
      exact ⟨hw.left, iff_of_true rfl hw.right⟩
  | error e =>
      cases hcode : e.isNoSuchEntity with
      | true =>
          simp only [hcode, if_true]
          apply Triple.pure
          intro w hw
          have hnone : found (view w) = none := hw.right hcode
          exact ⟨hw.left, iff_of_false (by simp) (by simp [hnone])⟩
      | false =>
          simp only [hcode, Bool.false_eq_true, if_false]
          exact Triple.throw fun w hw => hw.left

/-!
# The role and its profile
-/

section Roles

/-- What holds on, whatever ensuring the role changes: it makes a role and a profile
and adds to them. -/
structure KeptBySetup (inv : Account -> Prop) : Prop where
  createRole : forall B name, inv B -> B.roles name = none ->
    inv (B.setRole name (some ∅))
  attachPolicy : forall B name arn, inv B ->
    inv (B.setRole name ((B.roles name).map fun policies => insert arn policies))
  createProfile : forall B name, inv B -> B.profiles name = none ->
    inv (B.setProfile name (some ∅))
  addRole : forall B name role, inv B ->
    inv (B.setProfile name ((B.profiles name).map fun roles => insert role roles))

theorem keptBySetup_sameEc2 (A : Account) : KeptBySetup fun B => A.SameEc2 B where
  createRole := fun _ _ hB _ => hB.setRole _ _
  attachPolicy := fun _ _ _ hB => hB.setRole _ _
  createProfile := fun _ _ hB _ => hB.setProfile _ _
  addRole := fun _ _ _ hB => hB.setProfile _ _

variable (hlaw : api.Lawful view) (context : BastionContext)

include hlaw

section Kept

variable {inv : Account -> Prop} (hkept : KeptBySetup inv)

include hkept

theorem createRole_keeps :
    Triple (fun w => inv (view w))
      ((api.createRole context.iamRoleName assumeRolePolicyDocument).onError
        (ProvisionError.context "create_role"))
      (fun _ w => inv (view w)) (fun _ w => inv (view w)) := by
  refine Triple.onError ((hlaw.createRole _ _).keeps ?_)
  intro B _ B' hB h
  rw [h.right]
  exact hkept.createRole B _ hB h.left

theorem attachPolicies_keeps :
    Triple (fun w => inv (view w)) (attachPolicies api context)
      (fun _ w => inv (view w)) (fun _ w => inv (view w)) := by
  apply Triple.forM
  intro arn _
  refine Triple.onError ((hlaw.attachRolePolicy _ arn).keeps ?_)
  intro B _ B' hB h
  rw [h]
  exact hkept.attachPolicy B _ arn hB

theorem createProfile_keeps :
    Triple (fun w => inv (view w)) (createProfile api context)
      (fun _ w => inv (view w)) (fun _ w => inv (view w)) := by
  refine Triple.bind (Triple.onError ((hlaw.createInstanceProfile _).keeps ?_))
    fun _ => ?_
  · intro B _ B' hB h
    rw [h.right]
    exact hkept.createProfile B _ hB h.left
  · refine Triple.onError
      ((hlaw.addRoleToInstanceProfile _ context.iamRoleName).keeps ?_)
    intro B _ B' hB h
    rw [h]
    exact hkept.addRole B _ _ hB

theorem ensureIamRole_keeps :
    Triple (fun w => inv (view w)) (ensureIamRole api context)
      (fun _ w => inv (view w)) (fun _ w => inv (view w)) := by
  refine Triple.bind (existsFrom_spec (hlaw.getRole _) "get_role" inv)
    fun roleExists => ?_
  refine Triple.bind (M := fun _ w => inv (view w))
    (Triple.skipIf (fun _ w h => h.left) fun _ =>
      (createRole_keeps hlaw context hkept).weaken fun w h => h.left) fun _ => ?_
  refine Triple.bind (attachPolicies_keeps hlaw context hkept) fun _ => ?_
  refine Triple.bind
    (existsFrom_spec (hlaw.getInstanceProfile _) "get_instance_profile" inv)
    fun profileExists => ?_
  exact Triple.skipIf (fun _ w h => h.left) fun _ =>
    (createProfile_keeps hlaw context hkept).weaken fun w h => h.left

end Kept

theorem ensureIamRole_spec (A : Account) :
    Triple (fun w => A.SameEc2 (view w)) (ensureIamRole api context)
      (fun _ w => A.SameEc2 (view w)) (fun _ w => A.SameEc2 (view w)) :=
  ensureIamRole_keeps hlaw context (keptBySetup_sameEc2 A)

theorem deleteProfile_spec (A : Account) :
    Triple (fun w => A.SameEc2 (view w)) (deleteProfile api context)
      (fun _ w => A.SameEc2 (view w) ∧
        (view w).profiles context.iamInstanceProfileName = none)
      (fun _ w => A.SameEc2 (view w)) := by
  have hremove : Triple (fun w => A.SameEc2 (view w))
      (api.removeRoleFromInstanceProfile context.iamInstanceProfileName
        context.iamRoleName)
      (fun _ w => A.SameEc2 (view w)) (fun _ w => A.SameEc2 (view w)) := by
    refine (hlaw.removeRoleFromInstanceProfile _ _).keeps ?_
    intro B _ B' hB h
    rw [h]
    exact hB.setProfile _ _
  refine Triple.bind (M := fun _ w => A.SameEc2 (view w)) (Triple.attempt hremove)
    fun _ => ?_
  refine Triple.onError ((hlaw.deleteInstanceProfile _).triple
    (fun B => A.SameEc2 B)
    (fun _ B => A.SameEc2 B ∧ B.profiles context.iamInstanceProfileName = none)
    (fun B => A.SameEc2 B) ?_ (fun _ h => h) ?_)
  · intro B _ B' hB h
    rw [h]
    exact ⟨hB.setProfile _ _, Function.update_self _ _ _⟩
  · intro B _ B' hB h
    rw [h]
    exact hB.setProfile _ _

theorem deleteRole_spec (A : Account) :
    Triple
      (fun w => A.SameEc2 (view w) ∧
        (view w).profiles context.iamInstanceProfileName = none)
      (deleteRole api context)
      (fun _ w => A.SameEc2 (view w) ∧
        (view w).profiles context.iamInstanceProfileName = none ∧
        (view w).roles context.iamRoleName = none)
      (fun _ w => A.SameEc2 (view w)) := by
  refine Triple.bind (Triple.forM fun arn _ => ?_) fun _ => ?_
  · have hkept : forall (B : Account) (_ : Unit) (B' : Account),
        A.SameEc2 B ∧ B.profiles context.iamInstanceProfileName = none ->
        B' = B.setRole context.iamRoleName
          ((B.roles context.iamRoleName).map fun policies => policies.erase arn) ->
        A.SameEc2 B' ∧ B'.profiles context.iamInstanceProfileName = none := by
      intro B _ B' hB h
      rw [h]
      exact ⟨hB.left.setRole _ _, hB.right⟩
    have hdetach := (hlaw.detachRolePolicy context.iamRoleName arn).keeps hkept
    refine Triple.bind (M := fun _ w => A.SameEc2 (view w) ∧
      (view w).profiles context.iamInstanceProfileName = none)
      (Triple.attempt hdetach) fun _ => ?_
    exact Triple.pure fun _ h => h
  · refine Triple.onError ((hlaw.deleteRole _).triple
      (fun B => A.SameEc2 B ∧ B.profiles context.iamInstanceProfileName = none)
      (fun _ B => A.SameEc2 B ∧ B.profiles context.iamInstanceProfileName = none ∧
        B.roles context.iamRoleName = none)
      (fun B => A.SameEc2 B) ?_ (fun _ h => h.left) ?_)
    · intro B _ B' hB h
      rw [h]
      exact ⟨hB.left.setRole _ _, hB.right, Function.update_self _ _ _⟩
    · intro B _ B' hB h
      rw [h]
      exact hB.left.setRole _ _

theorem deleteIamRole_spec (A : Account) :
    Triple (fun w => A.SameEc2 (view w)) (deleteIamRole api context)
      (fun _ w => A.SameEc2 (view w) ∧
        (view w).profiles context.iamInstanceProfileName = none ∧
        (view w).roles context.iamRoleName = none)
      (fun _ w => A.SameEc2 (view w)) := by
  refine Triple.bind
    (existsFrom_spec (hlaw.getInstanceProfile _) "get_instance_profile"
      fun B => A.SameEc2 B) fun profileExists => ?_
  refine Triple.bind (M := fun _ w => A.SameEc2 (view w) ∧
    (view w).profiles context.iamInstanceProfileName = none)
    (Triple.skipIf ?_ fun _ => ?_) fun _ => ?_
  · intro hskip w h
    refine ⟨h.left, ?_⟩
    by_contra hne
    rw [h.right.mpr hne] at hskip
    cases hskip
  · exact (deleteProfile_spec hlaw context A).weaken fun w h => h.left
  have hrole := existsFrom_spec (hlaw.getRole context.iamRoleName) "get_role"
    fun B => A.SameEc2 B ∧ B.profiles context.iamInstanceProfileName = none
  refine Triple.bind (hrole.conseq (fun _ h => h) (fun _ _ h => h) ?_)
    fun roleExists => ?_
  · intro _ w h
    exact h.left
  refine Triple.skipIf ?_ fun _ => ?_
  · intro hskip w h
    refine ⟨h.left.left, h.left.right, ?_⟩
    by_contra hne
    rw [h.right.mpr hne] at hskip
    cases hskip
  · exact (deleteRole_spec hlaw context A).weaken fun w h => h.left

end Roles

/-!
# The security group
-/

/-- What ensuring the group of a plan does: if there was no group of its name, one
may have been made, in the VPC of the group that the plan admits. -/
structure EnsuresGroup (plan : SecurityGroupPlan) (A A' : Account) : Prop where
  instances_eq : A'.instances = A.instances
  subnets_eq : A'.subnets = A.subnets
  made : forall id g', A'.securityGroups id = some g' -> A.securityGroups id = none ->
    (IsLiteral plan.name ->
      forall other g, A.securityGroups other = some g -> g.name ≠ plan.name) ∧
      exists source g, sourceGroup plan = some source ∧
        A.securityGroups source = some g ∧ g'.vpcId = g.vpcId

theorem EnsuresGroup.refl (plan : SecurityGroupPlan) (A : Account) :
    EnsuresGroup plan A A where
  instances_eq := rfl
  subnets_eq := rfl
  made := by
    intro id g' hnew hnone
    rw [hnone] at hnew
    cases hnew

theorem EnsuresGroup.addRule {plan : SecurityGroupPlan} {A B : Account}
    (h : EnsuresGroup plan A B) (id : String) (permission : IpPermission) :
    EnsuresGroup plan A (B.setGroup id ((B.securityGroups id).map fun g =>
      { g with ingress := permission :: g.ingress })) where
  instances_eq := h.instances_eq
  subnets_eq := h.subnets_eq
  made := by
    intro other g' hnew hnone
    by_cases hid : other = id
    · subst hid
      have hmap : (B.securityGroups other).map (fun g =>
          { g with ingress := permission :: g.ingress }) = some g' := by
        simpa [Account.setGroup] using hnew
      rcases Option.map_eq_some_iff.mp hmap with ⟨g, hg, rfl⟩
      exact h.made other g hg hnone
    · have hsame : B.securityGroups other = some g' := by
        simpa [Account.setGroup, Function.update_of_ne hid] using hnew
      exact h.made other g' hsame hnone

section Groups

variable (hlaw : api.Lawful view)

include hlaw

theorem findSecurityGroupByName_spec (name : String) (A : Account) :
    Triple (fun w => view w = A) (findSecurityGroupByName api name)
      (fun found w => view w = A ∧ (found = none -> IsLiteral name ->
        forall id g, A.securityGroups id = some g -> g.name ≠ name))
      (fun _ w => view w = A) := by
  have hread := (hlaw.describeGroupsNamed name).triple fun B => B = A
  refine Triple.bind (Triple.onError (hread.conseq (fun _ h => h) (fun _ _ h => h) ?_))
    fun groups => ?_
  · intro _ w h
    exact h.left
  apply Triple.pure
  intro w h
  refine ⟨h.left, ?_⟩
  intro hnone hname id g hg hnamed
  have hlists : ListsGroupsNamed A name groups := by
    have hview := h.right hname groups rfl
    rw [h.left] at hview
    exact hview
  cases hfirst : firstOf groups with
  | none =>
      rcases hlists.complete id g hg hnamed with ⟨description, hmem, _⟩
      rw [(firstOf_eq_none_iff groups).mp hfirst] at hmem
      simp at hmem
  | some description =>
      rcases hlists.sound description (mem_of_firstOf hfirst) with ⟨id', _, hid', _⟩
      simp [hfirst, hid'] at hnone

theorem vpcIdForSecurityGroup_spec (id : String) (A : Account) :
    Triple (fun w => view w = A) (vpcIdForSecurityGroup api id)
      (fun vpcId w => view w = A ∧
        exists g, A.securityGroups id = some g ∧ g.vpcId = vpcId)
      (fun _ w => view w = A) := by
  have hread := (hlaw.describeGroup id).triple fun B => B = A
  refine Triple.bind (Triple.onError (hread.conseq (fun _ h => h) (fun _ _ h => h) ?_))
    fun groups => ?_
  · intro _ w h
    exact h.left
  cases hfirst : firstOf groups with
  | none => exact Triple.throw fun w h => h.left
  | some description =>
      simp only
      cases hvpc : description.vpcId with
      | none => exact Triple.throw fun w h => h.left
      | some vpcId =>
          apply Triple.pure
          intro w h
          have hg := h.right groups rfl description vpcId (mem_of_firstOf hfirst) hvpc
          rw [h.left] at hg
          exact ⟨h.left, hg⟩

theorem vpcIdForSubnet_spec (id : String) (A : Account) :
    Triple (fun w => view w = A) (vpcIdForSubnet api id)
      (fun vpcId w => view w = A ∧ A.subnets id = some vpcId)
      (fun _ w => view w = A) := by
  have hread := (hlaw.describeSubnet id).triple fun B => B = A
  refine Triple.bind (Triple.onError (hread.conseq (fun _ h => h) (fun _ _ h => h) ?_))
    fun subnets => ?_
  · intro _ w h
    exact h.left
  cases hvpc : (firstOf subnets).bind fun subnet => subnet.vpcId with
  | none => exact Triple.throw fun w h => h.left
  | some vpcId =>
      rcases Option.bind_eq_some_iff.mp hvpc with ⟨description, hfirst, hdescription⟩
      apply Triple.pure
      intro w h
      have hid := h.right subnets rfl description vpcId (mem_of_firstOf hfirst)
        hdescription
      rw [h.left] at hid
      exact ⟨h.left, hid⟩

theorem createSecurityGroup_spec (plan : SecurityGroupPlan) {A : Account}
    (hnone : IsLiteral plan.name ->
      forall other g, A.securityGroups other = some g -> g.name ≠ plan.name) :
    Triple (fun w => view w = A) (createSecurityGroup api plan)
      (fun _ w => EnsuresGroup plan A (view w))
      (fun _ w => EnsuresGroup plan A (view w)) := by
  unfold createSecurityGroup
  cases hsource : sourceGroup plan with
  | none =>
      apply Triple.throw
      intro w h
      rw [h]
      exact EnsuresGroup.refl plan A
  | some source =>
      refine Triple.bind
        ((vpcIdForSecurityGroup_spec hlaw source A).conseq (fun _ h => h)
          (fun _ _ h => h) ?_) fun vpcId => ?_
      · intro _ w h
        rw [h]
        exact EnsuresGroup.refl plan A
      have hmade : forall (B : Account) (out : Option String) (B' : Account),
          (B = A ∧ exists g, A.securityGroups source = some g ∧ g.vpcId = vpcId) ->
          (exists id, B.securityGroups id = none ∧
            B' = B.setGroup id (some {
              name := plan.name, vpcId := vpcId, ingress := [] }) ∧
            forall returned, out = some returned -> returned = id) ->
          EnsuresGroup plan A B' := by
        intro B out B' hB heffect
        rcases hB with ⟨rfl, g, hg, hvpc⟩
        rcases heffect with ⟨id, _, rfl, _⟩
        refine ⟨rfl, rfl, ?_⟩
        intro other g' hnew hold
        by_cases hid : other = id
        · subst hid
          have hg' : ({ name := plan.name, vpcId := vpcId, ingress := [] } :
              SecurityGroup) = g' := by
            simpa [Account.setGroup] using hnew
          subst hg'
          exact ⟨hnone, source, g, hsource, hg, hvpc.symm⟩
        · have hsame : B.securityGroups other = some g' := by
            simpa [Account.setGroup, Function.update_of_ne hid] using hnew
          rw [hsame] at hold
          cases hold
      have hcreate := (hlaw.createSecurityGroup {
        groupName := plan.name, description := plan.description, vpcId := vpcId }).triple
          _ (fun _ B => EnsuresGroup plan A B) (fun B => EnsuresGroup plan A B)
          hmade ?_ hmade
      · refine Triple.bind (Triple.onError hcreate) fun created => ?_
        cases created with
        | none => exact Triple.throw fun _ h => h
        | some groupId => exact Triple.pure fun _ h => h
      · intro B hB
        rw [hB.left]
        exact EnsuresGroup.refl plan A

theorem groupOfPlan_spec (plan : SecurityGroupPlan) (A : Account) :
    Triple (fun w => view w = A) (groupOfPlan api plan)
      (fun _ w => EnsuresGroup plan A (view w))
      (fun _ w => EnsuresGroup plan A (view w)) := by
  refine Triple.bind
    ((findSecurityGroupByName_spec hlaw plan.name A).conseq (fun _ h => h)
      (fun _ _ h => h) ?_) fun found => ?_
  · intro _ w h
    rw [h]
    exact EnsuresGroup.refl plan A
  cases found with
  | some existing =>
      apply Triple.pure
      intro w h
      rw [h.left]
      exact EnsuresGroup.refl plan A
  | none =>
      intro w h
      exact createSecurityGroup_spec hlaw plan (h.right rfl) w h.left

theorem authorizeRule_spec {inv : Account -> Prop} (groupId : String)
    (rule : IngressRule)
    (hadd : forall B, inv B ->
      inv (B.setGroup groupId ((B.securityGroups groupId).map fun g =>
        { g with ingress := permissionOf rule :: g.ingress }))) :
    Triple (fun w => inv (view w)) (authorizeRule api groupId rule)
      (fun _ w => inv (view w)) (fun _ w => inv (view w)) := by
  have hadded : forall (B : Account) (_ : Unit) (B' : Account), inv B ->
      B' = B.setGroup groupId ((B.securityGroups groupId).map fun g =>
        { g with ingress := permissionOf rule :: g.ingress }) -> inv B' := by
    intro B _ B' hB h
    rw [h]
    exact hadd B hB
  have hauthorize := (hlaw.authorizeSecurityGroupIngress groupId
    (permissionOf rule)).keeps hadded
  refine Triple.bind (M := fun _ w => inv (view w)) (Triple.attempt hauthorize)
    fun result => ?_
  cases result with
  | ok _ => exact Triple.pure fun _ h => h
  | error e =>
      by_cases hduplicate : e.code = some "InvalidPermission.Duplicate"
      · simp only [hduplicate, if_true]
        exact Triple.pure fun _ h => h
      · simp only [hduplicate, if_false]
        exact Triple.throw fun _ h => h

theorem ensureSecurityGroup_spec (plan : SecurityGroupPlan) (A : Account) :
    Triple (fun w => view w = A) (ensureSecurityGroup api plan)
      (fun _ w => EnsuresGroup plan A (view w))
      (fun _ w => EnsuresGroup plan A (view w)) := by
  refine Triple.bind (groupOfPlan_spec hlaw plan A) fun groupId => ?_
  refine Triple.bind (Triple.forM fun rule _ => ?_) fun _ => ?_
  · exact authorizeRule_spec hlaw groupId rule fun B hB => hB.addRule groupId _
  · exact Triple.pure fun _ h => h

theorem deleteSecurityGroup_spec (id : String) (A : Account) :
    Triple (fun w => view w = A) (deleteSecurityGroup api id)
      (fun _ w => view w = A.setGroup id none)
      (fun _ w => view w = A ∨ view w = A.setGroup id none) := by
  exact Triple.onError ((hlaw.deleteSecurityGroup id).becomes A)

end Groups

/-!
# The instance
-/

/-- A launch of the plan: one more instance, in the VPC of its subnet. -/
def Launches (plan : LaunchPlan) (A : Account) (id : String) (A' : Account) : Prop :=
  A.instances id = none ∧
    exists vpcId, A.subnets plan.subnetId = some vpcId ∧
      A' = A.setInstance id (some {
        tags := plan.tags
        vpcId := vpcId
        securityGroupIds := [plan.securityGroupId] })

section Instances

variable (hlaw : api.Lawful view)

include hlaw

theorem launchInstance_spec (plan : LaunchPlan) (A : Account) :
    Triple (fun w => view w = A) (launchInstance api plan)
      (fun id w => Launches plan A id (view w))
      (fun _ w => view w = A ∨ exists id, Launches plan A id (view w)) := by
  have hrun := (hlaw.runInstances (runInput plan) rfl rfl).triple (fun B => B = A)
    (fun out B => exists id, Launches plan A id B ∧
      forall description, description ∈ out.getD [] -> description.instanceId = some id)
    (fun B => B = A ∨ exists id, Launches plan A id B) ?_ (fun _ h => Or.inl h) ?_
  · refine Triple.bind (Triple.onError hrun) fun out => ?_
    cases hid : (firstOf out).bind fun launched => launched.instanceId with
    | none =>
        apply Triple.throw
        intro w h
        rcases h with ⟨id, hlaunch, _⟩
        exact Or.inr ⟨id, hlaunch⟩
    | some returned =>
        rcases Option.bind_eq_some_iff.mp hid with ⟨description, hfirst, hreturned⟩
        apply Triple.pure
        intro w h
        rcases h with ⟨id, hlaunch, hlisted⟩
        have heq := hlisted description (mem_of_firstOf hfirst)
        rw [hreturned] at heq
        cases heq
        exact hlaunch
  · intro B out B' hB h
    rcases h with ⟨id, vpcId, hnew, hsubnet, hB', hlisted⟩
    rw [hB] at hnew hsubnet hB'
    exact ⟨id, ⟨hnew, vpcId, hsubnet, hB'⟩, hlisted⟩
  · intro B out B' hB h
    rcases h with ⟨id, vpcId, hnew, hsubnet, hB', _⟩
    rw [hB] at hnew hsubnet hB'
    exact Or.inr ⟨id, hnew, vpcId, hsubnet, hB'⟩

theorem launchInstance_keeps {inv : Account -> Prop} (plan : LaunchPlan)
    (hlaunch : forall A id B, inv A -> Launches plan A id B -> inv B) :
    Triple (fun w => inv (view w)) (launchInstance api plan) (fun _ w => inv (view w))
      (fun _ w => inv (view w)) := by
  refine Triple.of_view view inv fun A hA => ?_
  refine (launchInstance_spec hlaw plan A).conseq (fun _ h => h) ?_ ?_
  · intro id w h
    exact hlaunch A id (view w) hA h
  · intro _ w h
    rcases h with h | ⟨id, h⟩
    · rw [h]
      exact hA
    · exact hlaunch A id (view w) hA h

theorem poll_spec (id : String) (inv : Account -> Prop) :
    Triple (fun w => inv (view w))
      ((api.describeInstances [] [id]).onError
        (ProvisionError.context "describe_instances"))
      (fun _ w => inv (view w)) (fun _ w => inv (view w)) := by
  have hread := (hlaw.describeInstance id).triple inv
  exact Triple.onError
    (hread.conseq (fun _ h => h) (fun _ _ h => h.left) fun _ _ h => h.left)

theorem pollUntilRunning_spec (id : String) (inv : Account -> Prop) (polls : Nat) :
    Triple (fun w => inv (view w)) (pollUntilRunning api id polls)
      (fun _ w => inv (view w)) (fun _ w => inv (view w)) := by
  induction polls with
  | zero =>
      refine Triple.bind (poll_spec hlaw id inv) fun reservations => ?_
      cases isRunning reservations with
      | true => exact Triple.pure fun _ h => h
      | false => exact Triple.throw fun _ h => h
  | succ polls ih =>
      refine Triple.bind (poll_spec hlaw id inv) fun reservations => ?_
      cases isRunning reservations with
      | true => exact Triple.pure fun _ h => h
      | false => exact ih

theorem waitUntilRunning_spec (id : String) (inv : Account -> Prop) :
    Triple (fun w => inv (view w)) (waitUntilRunning api id)
      (fun _ w => inv (view w)) (fun _ w => inv (view w)) := by
  intro w hw
  exact pollUntilRunning_spec hlaw id inv (api.pollsBeforeDeadline w) w hw

theorem terminateInstance_spec (id : String) (A : Account) :
    Triple (fun w => view w = A) (terminateInstance api id)
      (fun _ w => view w = A.setInstance id none)
      (fun _ w => view w = A ∨ view w = A.setInstance id none) := by
  exact Triple.onError ((hlaw.terminateInstances id).becomes A)

end Instances

end AwsProvisioner

end Laptop

end Ephemwork
