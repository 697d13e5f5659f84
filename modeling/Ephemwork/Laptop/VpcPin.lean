import Ephemwork.Laptop.AwsSpecs
import Ephemwork.Laptop.BastionInit
import Ephemwork.Laptop.LocalAws

/-!
# The pinned VPC

`bastion init --live` checks that its subnet lies in the VPC that the configuration
pins.  A security group, if one has to be made, is made in the VPC of the load
balancer's group, which nothing compares with the pinned one.
-/

namespace Ephemwork

open Foundation

namespace Laptop

open AwsProvisioner

variable {world : Type}

/-- Every security group and every instance that is new in `A'` lies in the VPC. -/
structure CreatesIn (vpcId : String) (A A' : Account) : Prop where
  groups : forall id g, A'.securityGroups id = some g -> A.securityGroups id = none ->
    g.vpcId = vpcId
  instances : forall id i, A'.instances id = some i -> A.instances id = none ->
    i.vpcId = vpcId

theorem CreatesIn.of_eq {vpcId : String} {A A' : Account}
    (hgroups : A'.securityGroups = A.securityGroups)
    (hinstances : A'.instances = A.instances) : CreatesIn vpcId A A' where
  groups := by
    intro id g hnew hnone
    rw [hgroups, hnone] at hnew
    cases hnew
  instances := by
    intro id i hnew hnone
    rw [hinstances, hnone] at hnew
    cases hnew

theorem CreatesIn.refl (vpcId : String) (A : Account) : CreatesIn vpcId A A :=
  CreatesIn.of_eq rfl rfl

theorem CreatesIn.of_sameEc2 {vpcId : String} {A A' : Account} (h : A.SameEc2 A') :
    CreatesIn vpcId A A' :=
  CreatesIn.of_eq h.right.left h.left

theorem CreatesIn.launch {vpcId : String} {plan : LaunchPlan} {A B C : Account}
    {id : String}
    (hB : CreatesIn vpcId A B) (hsubnet : B.subnets plan.subnetId = some vpcId)
    (hlaunch : Launches plan B id C) : CreatesIn vpcId A C := by
  rcases hlaunch with ⟨_, actualVpc, hactual, rfl⟩
  rw [hsubnet] at hactual
  refine ⟨hB.groups, ?_⟩
  intro other i hnew hnone
  by_cases hother : other = id
  · subst hother
    have hi : Instance.mk plan.tags actualVpc [plan.securityGroupId] = i := by
      simpa [Account.setInstance] using hnew
    rw [← hi]
    exact (Option.some.inj hactual).symm
  · exact hB.instances other i
      (by simpa [Account.setInstance, hother] using hnew) hnone

/-- What keeps an init inside the pinned VPC: it stops before it creates anything,
or it makes no group, or the load balancer's group lies in the VPC too. -/
inductive PinCovers (config : Config) (readFile : String -> Except String String)
    (args : BastionInitArgs) (vpcId : String) (A : Account) : Prop where
  | blankGroup (h : Text.isBlank args.albSecurityGroupId.toList = true)
  | unreadableKey (e : ProvisionError)
      (h : readSshKey readFile args.sshPublicKey = .error e)
  | otherSubnet (h : A.subnets args.subnetId ≠ some vpcId)
  | bastionExists (id : String) (i : Instance) (h : A.instances id = some i)
      (hnamed : i.IsNamed (ctxFromConfig config).instanceName)
  | groupExists (id : String) (g : SecurityGroup) (h : A.securityGroups id = some g)
      (hnamed : g.name = (ctxFromConfig config).securityGroupName)
  | pinnedGroup (h : forall g, A.securityGroups args.albSecurityGroupId = some g ->
      g.vpcId = vpcId)

theorem of_securityGroupPlan {context : BastionContext} {albSecurityGroupId : String}
    {plan : SecurityGroupPlan}
    (h : securityGroupPlan context albSecurityGroupId = .ok plan) :
    Text.isBlank albSecurityGroupId.toList = false ∧
      plan.name = context.securityGroupName ∧
      sourceGroup plan = some albSecurityGroupId := by
  unfold securityGroupPlan at h
  split at h
  · cases h
  · next hfilled =>
      cases h
      exact ⟨by simpa using hfilled, rfl, rfl⟩

theorem blank_of_securityGroupPlan {context : BastionContext}
    {albSecurityGroupId : String} {e : PlanError}
    (h : securityGroupPlan context albSecurityGroupId = .error e) :
    Text.isBlank albSecurityGroupId.toList = true := by
  unfold securityGroupPlan at h
  split at h
  · assumption
  · cases h

/-!
# An init that the pin covers
-/

section Covered

variable {api : AwsApi world} {view : world -> Account} (hlaw : api.Lawful view)
variable {vpcId : String} {A : Account}

include hlaw

theorem checkVpc_spec {tunnel : TunnelConfig} (hpin : tunnel.expectedVpcId = some vpcId)
    (subnetId : String) (A : Account) :
    Triple (fun w => view w = A) (checkVpc api tunnel subnetId)
      (fun _ w => view w = A ∧ A.subnets subnetId = some vpcId)
      (fun _ w => view w = A) := by
  unfold checkVpc
  rw [hpin]
  refine Triple.bind (vpcIdForSubnet_spec hlaw subnetId A) fun actualVpc => ?_
  by_cases hmatch : actualVpc = vpcId
  · simp only [verifyVpcMatch, hmatch, ne_eq, not_true_eq_false, if_false]
    exact Triple.pure fun w h => h
  · simp only [verifyVpcMatch, hmatch, ne_eq, not_false_eq_true, if_true]
    exact Triple.throw fun w h => h.left

/-- Where there is a group of the plan's name, or the group that the plan admits
lies in the VPC, everything is made in the VPC of the subnet. -/
theorem createBastion_createsIn {context : BastionContext}
    {groupPlan : SecurityGroupPlan} (hname : IsLiteral groupPlan.name)
    {launchPlanFor : String -> Except PlanError LaunchPlan} {subnetId : String}
    (hplans : forall groupId plan, launchPlanFor groupId = .ok plan ->
      plan.subnetId = subnetId)
    (hsubnet : A.subnets subnetId = some vpcId)
    (hgroup : (exists id g, A.securityGroups id = some g ∧ g.name = groupPlan.name) ∨
      forall source g, sourceGroup groupPlan = some source ->
        A.securityGroups source = some g -> g.vpcId = vpcId) :
    Triple (fun w => view w = A)
      (createBastion (awsProvisioner api context) groupPlan launchPlanFor)
      (fun _ w => CreatesIn vpcId A (view w))
      (fun _ w => CreatesIn vpcId A (view w)) := by
  refine Triple.bind ((ensureIamRole_spec hlaw context A).conseq ?_ (fun _ _ h => h) ?_)
    fun _ => ?_
  · intro w h
    rw [h]
    exact Account.SameEc2.refl A
  · intro _ w h
    exact CreatesIn.of_sameEc2 h
  -- The group is made in the VPC, and instances and subnets are as they were.
  have hensured : forall {B C : Account}, A.SameEc2 B -> EnsuresGroup groupPlan B C ->
      CreatesIn vpcId A C ∧ C.subnets = A.subnets := by
    intro B C hB hC
    rcases hB with ⟨hinstances, hgroups, hsubnets⟩
    refine ⟨⟨?_, ?_⟩, hC.subnets_eq.trans hsubnets⟩
    · intro id g hnew hnone
      rw [← hgroups] at hnone
      rcases hC.made id g hnew hnone with ⟨hfresh, source, g', hsource, hg', hvpc⟩
      rcases hgroup with ⟨other, existing, hexisting, hnamed⟩ | hpinned
      · rw [← hgroups] at hexisting
        exact absurd hnamed (hfresh hname other existing hexisting)
      · rw [hgroups] at hg'
        rw [hvpc]
        exact hpinned source g' hsource hg'
    · intro id i hnew hnone
      rw [hC.instances_eq, hinstances, hnone] at hnew
      cases hnew
  refine Triple.bind (M := fun _ w => CreatesIn vpcId A (view w) ∧
    (view w).subnets = A.subnets) ?_ fun groupId => ?_
  · refine Triple.of_view view (fun B => A.SameEc2 B) fun B hB => ?_
    refine (ensureSecurityGroup_spec hlaw groupPlan B).conseq (fun _ h => h) ?_ ?_
    · intro _ w h
      exact hensured hB h
    · intro _ w h
      exact (hensured hB h).left
  cases hplan : launchPlanFor groupId with
  | error e => exact Triple.throw fun w h => h.left
  | ok plan =>
      have hid : plan.subnetId = subnetId := hplans groupId plan hplan
      have hlaunch : forall B id C,
          CreatesIn vpcId A B ∧ B.subnets = A.subnets -> Launches plan B id C ->
          CreatesIn vpcId A C ∧ C.subnets = A.subnets := by
        intro B id C hB h
        have hin : B.subnets plan.subnetId = some vpcId := by
          rw [hB.right, hid]
          exact hsubnet
        refine ⟨hB.left.launch hin h, ?_⟩
        rcases h with ⟨_, _, _, rfl⟩
        exact hB.right
      refine Triple.bind ((launchInstance_keeps hlaw plan hlaunch).conseq (fun _ h => h)
        (fun _ _ h => h) fun _ _ h => h.left) fun id => ?_
      have hwait := waitUntilRunning_spec hlaw id fun B =>
        CreatesIn vpcId A B ∧ B.subnets = A.subnets
      refine Triple.bind (hwait.conseq (fun _ h => h) (fun _ _ h => h)
        fun _ _ h => h.left) fun _ => ?_
      exact Triple.pure fun w h => h.left

theorem bastionInit_createsIn {config : Config} (hconfig : config.validate = .ok ())
    (hpin : config.tunnel.expectedVpcId = some vpcId)
    {readFile : String -> Except String String} {args : BastionInitArgs}
    (hcovers : PinCovers config readFile args vpcId A) :
    Triple (fun w => view w = A) (bastionInit api readFile config args)
      (fun _ w => CreatesIn vpcId A (view w))
      (fun _ w => CreatesIn vpcId A (view w)) := by
  have hproject := Config.isLiteral_projectName hconfig
  have hsame : forall w, view w = A -> CreatesIn vpcId A (view w) := by
    intro w h
    rw [h]
    exact CreatesIn.refl vpcId A
  unfold bastionInit
  cases hplan : securityGroupPlan (ctxFromConfig config) args.albSecurityGroupId with
  | error e =>
      simp only [hplan]
      exact Triple.throw hsame
  | ok groupPlan =>
      rcases of_securityGroupPlan hplan with ⟨hfilled, hname, hsource⟩
      cases hkey : readSshKey readFile args.sshPublicKey with
      | error e =>
          simp only [hplan]
          exact Triple.throw hsame
      | ok sshKey =>
          simp only [hplan]
          refine Triple.bind ((checkVpc_spec hlaw hpin args.subnetId A).conseq
            (fun _ h => h) (fun _ _ h => h) fun _ => hsame) fun _ => ?_
          intro w h
          rcases h with ⟨hw, hsubnet⟩
          refine Triple.bind ((findInstanceByName_spec hlaw
            (isLiteral_instanceName hproject) A).conseq
            (fun _ h => h) (fun _ _ h => h) fun _ => hsame) (fun report => ?_) w hw
          cases report with
          | some existing =>
              intro w h
              rcases h with ⟨hw, i, _, _, hstate, _⟩
              have hreusable := InstanceSummary.isReusable_of_live hstate
              simp only [hreusable, if_true]
              exact hsame w hw
          | none =>
              intro w h
              rcases h with ⟨hw, hnone⟩
              have hliteral : IsLiteral groupPlan.name := by
                rw [hname]
                exact isLiteral_securityGroupName hproject
              refine createBastion_createsIn hlaw hliteral
                (fun groupId plan hplan => (LaunchPlan.of_fromConfig hplan).left)
                hsubnet ?_ w hw
              cases hcovers with
              | blankGroup h =>
                  rw [hfilled] at h
                  cases h
              | unreadableKey e h =>
                  rw [hkey] at h
                  cases h
              | otherSubnet h => exact absurd hsubnet h
              | bastionExists id i h hnamed => exact absurd hnamed (hnone id i h)
              | groupExists id g h hnamed =>
                  exact Or.inl ⟨id, g, h, hnamed.trans hname.symm⟩
              | pinnedGroup h =>
                  apply Or.inr
                  intro source g hs hg
                  rw [hsource] at hs
                  cases hs
                  exact h g hg

end Covered

/-!
# An init that the pin does not cover

Where no call fails, the role is ensured and a group is made in the VPC of the
load balancer's group.
-/

section Uncovered

open LocalAws

/-- No call is going to fail, and the resources of EC2 are those of `S`. -/
structure Calm (S T : LocalAws) : Prop where
  faults_eq : T.faults = []
  instances_eq : T.instances = S.instances
  securityGroups_eq : T.securityGroups = S.securityGroups
  subnets_eq : T.subnets = S.subnets

theorem existsFrom_calm {entities : LocalAws -> AList fun _ : String => Finset String}
    {inv : LocalAws -> Prop} (hfaults : forall T, inv T -> T.faults = [])
    (operation name : String) :
    Triple inv (existsFrom operation (perform (getEntity entities name)))
      (fun known T => inv T ∧ (known = true <-> (entities T).lookup name ≠ none))
      (fun _ _ => False) := by
  have hget : Triple inv (perform (getEntity entities name)).attempt
      (fun result T => inv T ∧
        ((entities T).lookup name ≠ none ∧ result = .ok () ∨
          (entities T).lookup name = none ∧ result = .error (refusal "NoSuchEntity")))
      (fun (_ : ProvisionError) _ => False) := by
    refine Triple.attempt (perform_triple hfaults ?_)
    intro T hT
    unfold getEntity
    cases hlookup : (entities T).lookup name with
    | none => exact ⟨hT, Or.inr ⟨rfl, rfl⟩⟩
    | some entity => exact ⟨hT, Or.inl ⟨by simp [hlookup], rfl⟩⟩
  refine Triple.bind hget fun result => ?_
  intro T h
  rcases h with ⟨hT, ⟨hfound, rfl⟩ | ⟨hnone, rfl⟩⟩
  · exact ⟨hT, iff_of_true rfl hfound⟩
  · exact ⟨hT, iff_of_false (by simp) (by simp [hnone])⟩

theorem Calm.of_eq {S T T' : LocalAws} (h : Calm S T) (hfaults : T'.faults = T.faults)
    (hinstances : T'.instances = T.instances)
    (hgroups : T'.securityGroups = T.securityGroups)
    (hsubnets : T'.subnets = T.subnets) : Calm S T' where
  faults_eq := hfaults.trans h.faults_eq
  instances_eq := hinstances.trans h.instances_eq
  securityGroups_eq := hgroups.trans h.securityGroups_eq
  subnets_eq := hsubnets.trans h.subnets_eq

theorem attachPolicies_calm (S : LocalAws) (context : BastionContext) :
    Triple (fun T => Calm S T ∧ T.roles.lookup context.iamRoleName ≠ none)
      (attachPolicies LocalAws.api context)
      (fun _ T => Calm S T ∧ T.roles.lookup context.iamRoleName ≠ none)
      (fun _ _ => False) := by
  apply Triple.forM
  intro arn _
  refine Triple.onError (perform_triple (fun T h => h.left.faults_eq) ?_)
  intro T h
  rcases h with ⟨hT, hrole⟩
  unfold attachRolePolicy
  cases hlookup : T.roles.lookup context.iamRoleName with
  | none => exact absurd hlookup hrole
  | some policies =>
      refine ⟨hT.of_eq rfl rfl rfl rfl, ?_⟩
      simp [AList.lookup_insert]

theorem createProfile_calm (S : LocalAws) (context : BastionContext) :
    Triple
      (fun T => Calm S T ∧ T.profiles.lookup context.iamInstanceProfileName = none)
      (createProfile LocalAws.api context)
      (fun _ T => Calm S T) (fun _ _ => False) := by
  have hcreate : Triple
      (fun T => Calm S T ∧ T.profiles.lookup context.iamInstanceProfileName = none)
      ((LocalAws.api.createInstanceProfile context.iamInstanceProfileName).onError
        (ProvisionError.context "create_instance_profile"))
      (fun _ T => Calm S T ∧
        T.profiles.lookup context.iamInstanceProfileName = some ∅)
      (fun _ _ => False) := by
    refine Triple.onError (perform_triple (fun T h => h.left.faults_eq) ?_)
    intro T h
    unfold createInstanceProfile
    rw [h.right]
    exact ⟨h.left.of_eq rfl rfl rfl rfl, AList.lookup_insert _⟩
  refine Triple.bind hcreate fun _ => ?_
  refine Triple.onError (perform_triple (fun T h => h.left.faults_eq) ?_)
  intro T h
  unfold addRoleToInstanceProfile
  rw [h.right]
  simp only [ne_eq, not_true_eq_false, if_false]
  exact h.left.of_eq rfl rfl rfl rfl

theorem ensureIamRole_calm (S : LocalAws) (context : BastionContext) :
    Triple (Calm S) (ensureIamRole LocalAws.api context) (fun _ T => Calm S T)
      (fun _ _ => False) := by
  refine Triple.bind (existsFrom_calm (fun T h => h.faults_eq) "get_role" _)
    fun roleExists => ?_
  have hrole : Triple
      (fun T => Calm S T ∧
        (roleExists = true <-> T.roles.lookup context.iamRoleName ≠ none))
      (Call.skipIf roleExists
        ((LocalAws.api.createRole context.iamRoleName assumeRolePolicyDocument).onError
          (ProvisionError.context "create_role")))
      (fun _ T => Calm S T ∧ T.roles.lookup context.iamRoleName ≠ none)
      (fun _ _ => False) := by
    refine Triple.skipIf ?_ fun hcreate => ?_
    · intro hskip T h
      exact ⟨h.left, h.right.mp hskip⟩
    · refine Triple.onError (perform_triple (fun T h => h.left.faults_eq) ?_)
      intro T h
      unfold createRole
      cases hlookup : T.roles.lookup context.iamRoleName with
      | some policies =>
          have hexists := h.right.mpr (by simp [hlookup])
          rw [hcreate] at hexists
          cases hexists
      | none =>
          refine ⟨h.left.of_eq rfl rfl rfl rfl, ?_⟩
          simp [AList.lookup_insert]
  refine Triple.bind hrole fun _ => ?_
  refine Triple.bind (attachPolicies_calm S context) fun _ => ?_
  refine Triple.bind ((existsFrom_calm (fun T h => h.faults_eq)
    "get_instance_profile" _).weaken fun T h => h.left) fun profileExists => ?_
  refine Triple.skipIf (fun _ T h => h.left) fun hcreate => ?_
  apply (createProfile_calm S context).weaken
  intro T h
  refine ⟨h.left, ?_⟩
  by_contra hne
  rw [h.right.mpr hne] at hcreate
  cases hcreate

theorem checkVpc_calm {S : LocalAws} {tunnel : TunnelConfig} {vpcId subnetId : String}
    (hpin : tunnel.expectedVpcId = some vpcId)
    (hsubnet : S.subnets.lookup subnetId = some vpcId) :
    Triple (Calm S) (checkVpc LocalAws.api tunnel subnetId) (fun _ T => Calm S T)
      (fun _ _ => False) := by
  unfold checkVpc
  rw [hpin]
  have hvpc : Triple (Calm S) (vpcIdForSubnet LocalAws.api subnetId)
      (fun actualVpc T => actualVpc = vpcId ∧ Calm S T) (fun _ _ => False) := by
    refine Triple.bind (M := fun subnets T =>
      subnets = some [{ vpcId := some vpcId }] ∧ Calm S T)
      (Triple.onError (perform_triple (fun T h => h.faults_eq) ?_)) fun subnets => ?_
    · intro T hT
      unfold describeSubnets
      rw [hT.subnets_eq, hsubnet]
      exact ⟨rfl, hT⟩
    · intro T h
      rcases h with ⟨rfl, hT⟩
      exact ⟨rfl, hT⟩
  refine Triple.bind hvpc fun actualVpc => ?_
  intro T h
  rcases h with ⟨rfl, hT⟩
  simp only [verifyVpcMatch, ne_eq, not_true_eq_false, if_false]
  exact hT

theorem findInstanceByName_calm {S : LocalAws} {name : String}
    (hnone : forall id i, S.instances.lookup id = some i -> ¬ i.IsNamed name) :
    Triple (Calm S) (findInstanceByName LocalAws.api name)
      (fun found T => found = none ∧ Calm S T) (fun _ _ => False) := by
  have hdescribe : Triple (Calm S) (perform (describeInstances (bastionFilters name) []))
      (fun out T => ListsNamed T.account name out ∧ Calm S T) (fun _ _ => False) := by
    refine perform_triple (fun T h => h.faults_eq) ?_
    intro T hT
    exact ⟨listsNamed name T rfl, hT⟩
  refine Triple.bind (Triple.onError hdescribe) fun reservations => Triple.pure ?_
  · intro T h
    refine ⟨?_, h.right⟩
    have hreport := ListsNamed.reports h.left
    cases hfound : (firstInstance reservations).map summaryOf with
    | none => rfl
    | some summary =>
        rw [hfound] at hreport
        rcases hreport with ⟨i, hi, hnamed, _⟩
        have hS : S.instances.lookup summary.instanceId = some i := by
          rw [← h.right.instances_eq]
          exact hi
        exact absurd hnamed (hnone _ i hS)

theorem findSecurityGroupByName_calm {S : LocalAws} {name : String}
    (hnone : forall id g, S.securityGroups.lookup id = some g -> g.name ≠ name) :
    Triple (Calm S) (findSecurityGroupByName LocalAws.api name)
      (fun found T => found = none ∧ Calm S T) (fun _ _ => False) := by
  refine Triple.bind (M := fun out T => ListsGroupsNamed T.account name out ∧ Calm S T)
    (Triple.onError (perform_triple (fun T h => h.faults_eq) ?_))
    fun groups => Triple.pure ?_
  · intro T hT
    have hok : exists out,
        describeSecurityGroups [groupNameFilter name] [] T = .ok (out, T) := by
      simp [describeSecurityGroups]
    rcases hok with ⟨out, hout⟩
    rw [hout]
    exact ⟨listsGroupsNamed name T hout, hT⟩
  · intro T h
    refine ⟨?_, h.right⟩
    cases hfirst : firstOf groups with
    | none => rfl
    | some description =>
        rcases h.left.sound description (mem_of_firstOf hfirst) with ⟨id, g, _, hg, hname⟩
        have hS : S.securityGroups.lookup id = some g := by
          rw [← h.right.securityGroups_eq]
          exact hg
        exact absurd hname (hnone id g hS)

theorem vpcIdForSecurityGroup_calm {S : LocalAws} {id : String} {g : SecurityGroup}
    (hg : S.securityGroups.lookup id = some g) :
    Triple (Calm S) (vpcIdForSecurityGroup LocalAws.api id)
      (fun vpcId T => vpcId = g.vpcId ∧ Calm S T) (fun _ _ => False) := by
  refine Triple.bind (M := fun groups T =>
    (exists description, firstOf groups = some description ∧
      description.vpcId = some g.vpcId) ∧ Calm S T)
    (Triple.onError (perform_triple (fun T h => h.faults_eq) ?_)) fun groups => ?_
  · intro T hT
    have hT' : T.securityGroups.lookup id = some g := by
      rw [hT.securityGroups_eq]
      exact hg
    rcases describeSecurityGroups_id hT' with ⟨rest, hout⟩
    rw [hout]
    exact ⟨⟨_, rfl, rfl⟩, hT⟩
  · intro T h
    rcases h with ⟨⟨description, hfirst, hvpc⟩, hT⟩
    simp only [hfirst, hvpc]
    exact ⟨rfl, hT⟩

def CreatesOutside (vpcId : String) (A A' : Account) : Prop :=
  exists id g, A'.securityGroups id = some g ∧ A.securityGroups id = none ∧
    g.vpcId ≠ vpcId

theorem createSecurityGroup_outside {S : LocalAws} {plan : SecurityGroupPlan}
    {source vpcId : String} {g : SecurityGroup}
    (hnone : forall id g, S.securityGroups.lookup id = some g -> g.name ≠ plan.name)
    (hsource : sourceGroup plan = some source)
    (hg : S.securityGroups.lookup source = some g) (hvpc : g.vpcId ≠ vpcId) :
    Triple (Calm S) (createSecurityGroup LocalAws.api plan)
      (fun _ T => CreatesOutside vpcId S.account T.account) (fun _ _ => False) := by
  unfold AwsProvisioner.createSecurityGroup
  rw [hsource]
  refine Triple.bind (vpcIdForSecurityGroup_calm hg) fun groupVpc => ?_
  intro T h
  rcases h with ⟨rfl, hT⟩
  have hcreate : Triple (Calm S)
      (perform (LocalAws.createSecurityGroup {
        groupName := plan.name, description := plan.description, vpcId := g.vpcId }))
      (fun out T' => (exists id, out = some id) ∧
        CreatesOutside vpcId S.account T'.account) (fun _ _ => False) := by
    refine perform_triple (fun T h => h.faults_eq) ?_
    intro T hT
    have hfresh : (T.securityGroups.entries.any fun entry =>
        entry.2.name = plan.name ∧ entry.2.vpcId = g.vpcId) = false := by
      rw [List.any_eq_false]
      intro entry hentry
      have hlookup : S.securityGroups.lookup entry.1 = some entry.2 := by
        rw [← hT.securityGroups_eq]
        exact AList.mem_lookup_iff.mpr hentry
      simp [hnone entry.1 entry.2 hlookup]
    simp only [LocalAws.createSecurityGroup, hfresh, Bool.false_eq_true, if_false]
    refine ⟨⟨_, rfl⟩, freshId T.securityGroups.keys, _, AList.lookup_insert _, ?_, hvpc⟩
    show S.securityGroups.lookup (freshId T.securityGroups.keys) = none
    rw [← hT.securityGroups_eq]
    exact lookup_freshId _
  refine Triple.bind (Triple.onError hcreate) (fun created => ?_) T hT
  intro T' h'
  rcases h' with ⟨⟨id, rfl⟩, houtside⟩
  exact houtside

theorem groupOfPlan_outside {S : LocalAws} {plan : SecurityGroupPlan}
    {source vpcId : String} {g : SecurityGroup}
    (hnone : forall id g, S.securityGroups.lookup id = some g -> g.name ≠ plan.name)
    (hsource : sourceGroup plan = some source)
    (hg : S.securityGroups.lookup source = some g) (hvpc : g.vpcId ≠ vpcId) :
    Triple (Calm S) (groupOfPlan LocalAws.api plan)
      (fun _ T => CreatesOutside vpcId S.account T.account) (fun _ _ => False) := by
  refine Triple.bind (findSecurityGroupByName_calm hnone) fun found => ?_
  intro T h
  rcases h with ⟨rfl, hT⟩
  exact createSecurityGroup_outside hnone hsource hg hvpc T hT

theorem CreatesOutside.addRule {vpcId : String} {A B : Account}
    (h : CreatesOutside vpcId A B) (groupId : String) (permission : IpPermission) :
    CreatesOutside vpcId A (B.setGroup groupId ((B.securityGroups groupId).map fun g =>
      { g with ingress := permission :: g.ingress })) := by
  rcases h with ⟨id, g, hg, hnew, hvpc⟩
  by_cases hid : id = groupId
  · subst hid
    exact ⟨id, { g with ingress := permission :: g.ingress },
      by simp [Account.setGroup, hg], hnew, hvpc⟩
  · exact ⟨id, g, by simp [Account.setGroup, hid, hg], hnew, hvpc⟩

theorem createBastion_outside {S : LocalAws} (context : BastionContext)
    {plan : SecurityGroupPlan}
    (launchPlanFor : String -> Except PlanError LaunchPlan)
    {source vpcId : String} {g : SecurityGroup}
    (hnone : forall id g, S.securityGroups.lookup id = some g -> g.name ≠ plan.name)
    (hsource : sourceGroup plan = some source)
    (hg : S.securityGroups.lookup source = some g) (hvpc : g.vpcId ≠ vpcId) :
    Triple (Calm S)
      (createBastion (awsProvisioner LocalAws.api context) plan launchPlanFor)
      (fun _ T => CreatesOutside vpcId S.account (account T))
      (fun _ T => CreatesOutside vpcId S.account (account T)) := by
  refine Triple.bind ((ensureIamRole_calm S context).conseq (fun _ h => h)
    (fun _ _ h => h) fun _ _ h => h.elim) fun _ => ?_
  have hensure : Triple (Calm S) (ensureSecurityGroup LocalAws.api plan)
      (fun _ T => CreatesOutside vpcId S.account (account T))
      (fun _ T => CreatesOutside vpcId S.account (account T)) := by
    refine Triple.bind ((groupOfPlan_outside hnone hsource hg hvpc).conseq
      (fun _ h => h) (fun _ _ h => h) fun _ _ h => h.elim) fun groupId => ?_
    refine Triple.bind (Triple.forM fun rule _ => ?_) fun _ => Triple.pure fun _ h => h
    exact authorizeRule_spec lawful groupId rule fun B hB => hB.addRule groupId _
  refine Triple.bind hensure fun groupId => ?_
  cases launchPlanFor groupId with
  | error e => exact Triple.throw fun _ h => h
  | ok launch =>
      have hlaunch : forall B id C, CreatesOutside vpcId S.account B ->
          Launches launch B id C -> CreatesOutside vpcId S.account C := by
        intro B id C hB h
        rcases h with ⟨_, _, _, rfl⟩
        exact hB
      refine Triple.bind (launchInstance_keeps lawful launch hlaunch) fun id => ?_
      refine Triple.bind (waitUntilRunning_spec lawful id _) fun _ => ?_
      exact Triple.pure fun _ h => h

theorem bastionInit_outside {S : LocalAws} {config : Config}
    {readFile : String -> Except String String} {args : BastionInitArgs}
    {vpcId : String} (hpin : config.tunnel.expectedVpcId = some vpcId)
    (hmissed : ¬ PinCovers config readFile args vpcId S.account) :
    Triple (Calm S) (bastionInit LocalAws.api readFile config args)
      (fun _ T => CreatesOutside vpcId S.account (account T))
      (fun _ T => CreatesOutside vpcId S.account (account T)) := by
  have hsubnet : S.subnets.lookup args.subnetId = some vpcId := by
    by_contra hother
    exact hmissed (.otherSubnet hother)
  have hbastion : forall id i, S.instances.lookup id = some i ->
      ¬ i.IsNamed (ctxFromConfig config).instanceName := by
    intro id i hi hnamed
    exact hmissed (.bastionExists id i hi hnamed)
  have hgroup : forall id g, S.securityGroups.lookup id = some g ->
      g.name ≠ (ctxFromConfig config).securityGroupName := by
    intro id g hg hnamed
    exact hmissed (.groupExists id g hg hnamed)
  have halb : exists g, S.securityGroups.lookup args.albSecurityGroupId = some g ∧
      g.vpcId ≠ vpcId := by
    by_contra hpinned
    refine hmissed (.pinnedGroup ?_)
    intro g hg
    by_contra hne
    exact hpinned ⟨g, hg, hne⟩
  rcases halb with ⟨g, hg, hvpc⟩
  unfold bastionInit
  cases hplan : securityGroupPlan (ctxFromConfig config) args.albSecurityGroupId with
  | error e =>
      refine absurd (PinCovers.blankGroup ?_) hmissed
      exact blank_of_securityGroupPlan hplan
  | ok groupPlan =>
      rcases of_securityGroupPlan hplan with ⟨_, hname, hsource⟩
      cases hkey : readSshKey readFile args.sshPublicKey with
      | error e => exact absurd (PinCovers.unreadableKey e hkey) hmissed
      | ok sshKey =>
          simp only [hplan]
          refine Triple.bind ((checkVpc_calm hpin hsubnet).conseq (fun _ h => h)
            (fun _ _ h => h) fun _ _ h => h.elim) fun _ => ?_
          refine Triple.bind ((findInstanceByName_calm hbastion).conseq (fun _ h => h)
            (fun _ _ h => h) fun _ _ h => h.elim) fun found => ?_
          intro T h
          rcases h with ⟨rfl, hT⟩
          rw [← hname] at hgroup
          exact createBastion_outside (ctxFromConfig config) _ hgroup hsource hg hvpc T hT

end Uncovered

theorem CreatesOutside.not_createsIn {vpcId : String} {A A' : Account}
    (h : CreatesOutside vpcId A A') : ¬ CreatesIn vpcId A A' := by
  intro hin
  rcases h with ⟨id, g, hg, hnew, hvpc⟩
  exact hvpc (hin.groups id g hg hnew)

/-!
# The pin
-/

/-- However its calls end, an init in the account creates nothing outside of the
VPC. -/
def PinProtects (config : Config) (readFile : String -> Except String String)
    (args : BastionInitArgs) (vpcId : String) (A : Account) : Prop :=
  forall (world : Type) (api : AwsApi world) (view : world -> Account) (w : world),
    api.Lawful view -> view w = A ->
    CreatesIn vpcId A (view ((bastionInit api readFile config args).exec w).2)

section Pin

variable {config : Config} {vpcId : String} {readFile : String -> Except String String}
variable {args : BastionInitArgs}

theorem PinCovers.protects {A : Account} (hconfig : config.validate = .ok ())
    (hpin : config.tunnel.expectedVpcId = some vpcId)
    (hcovers : PinCovers config readFile args vpcId A) :
    PinProtects config readFile args vpcId A := by
  intro world api view w hlaw hw
  have hinit := bastionInit_createsIn hlaw hconfig hpin hcovers w hw
  split at hinit
  · next hexec =>
      rw [hexec]
      exact hinit
  · next hexec =>
      rw [hexec]
      exact hinit

theorem PinProtects.covers {S : LocalAws}
    (hpin : config.tunnel.expectedVpcId = some vpcId)
    (hprotects : PinProtects config readFile args vpcId S.account) :
    PinCovers config readFile args vpcId S.account := by
  by_contra hmissed
  have hcalm : Calm S { S with faults := [] } := ⟨rfl, rfl, rfl, rfl⟩
  have hin := hprotects LocalAws LocalAws.api LocalAws.account { S with faults := [] }
    LocalAws.lawful rfl
  have houtside := bastionInit_outside hpin hmissed _ hcalm
  split at houtside
  · next hexec =>
      rw [hexec] at hin
      exact houtside.not_createsIn hin
  · next hexec =>
      rw [hexec] at hin
      exact houtside.not_createsIn hin

end Pin

/-- An init creates nothing outside of the pinned VPC if it stops before it creates
anything, makes no group, or makes it for a load balancer in that VPC.  In an
account that holds finitely many things this is the only way. -/
theorem vpc_pin_protects_iff {config : Config} (hconfig : config.validate = .ok ())
    {vpcId : String} (hpin : config.tunnel.expectedVpcId = some vpcId)
    (readFile : String -> Except String String) (args : BastionInitArgs) (A : Account) :
    (PinCovers config readFile args vpcId A ->
      PinProtects config readFile args vpcId A) ∧
    forall S : LocalAws, S.account = A ->
      (PinProtects config readFile args vpcId A <->
        PinCovers config readFile args vpcId A) := by
  constructor
  · intro hcovers
    exact hcovers.protects hconfig hpin
  · intro S hS
    subst hS
    constructor
    · intro hprotects
      exact hprotects.covers hpin
    · intro hcovers
      exact hcovers.protects hconfig hpin

theorem vpc_pin_protects_iff_demo :
    PinProtects (demoConfig (some "vpc-staging")) (fun path => .error path) demoArgs
        "vpc-staging" (LocalAws.network []).account <->
      PinCovers (demoConfig (some "vpc-staging")) (fun path => .error path) demoArgs
        "vpc-staging" (LocalAws.network []).account :=
  (vpc_pin_protects_iff (demoConfig_valid _) rfl _ demoArgs _).right
    (LocalAws.network []) rfl

def sharedNetwork : LocalAws where
  instances := ∅
  securityGroups := (LocalAws.network []).securityGroups.insert "sg-prod-alb"
    { name := "prod-alb", vpcId := "vpc-prod", ingress := [] }
  subnets := (LocalAws.network []).subnets
  roles := ∅
  profiles := ∅
  faults := []

/-- The subnet lies in the pinned VPC, the load balancer's group in another one:
the launch is refused, and the new group is in the other VPC. -/
theorem group_created_in_other_vpc :
    (demoConfig (some "vpc-staging")).validate = .ok () ∧
    (demoConfig (some "vpc-staging")).tunnel.expectedVpcId = some "vpc-staging" ∧
    sharedNetwork.account.subnets demoArgs.subnetId = some "vpc-staging" ∧
    exists id T,
      (bastionInit LocalAws.api (fun path => .error path)
        (demoConfig (some "vpc-staging"))
        { demoArgs with albSecurityGroupId := "sg-prod-alb" }).exec sharedNetwork =
        (.error (.context "run_instances" (LocalAws.refusal "InvalidParameter")), T) ∧
      sharedNetwork.account.securityGroups id = none ∧
      (T.account.securityGroups id).map SecurityGroup.vpcId = some "vpc-prod" ∧
      ¬ CreatesIn "vpc-staging" sharedNetwork.account T.account := by
  refine ⟨demoConfig_valid _, rfl, rfl,
    LocalAws.freshId sharedNetwork.securityGroups.keys, _, rfl, rfl, rfl, ?_⟩
  intro hin
  have hvpc := hin.groups (LocalAws.freshId sharedNetwork.securityGroups.keys) _ rfl rfl
  revert hvpc
  decide

end Laptop

end Ephemwork
