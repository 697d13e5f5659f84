import Ephemwork.Laptop.AwsSpecs
import Ephemwork.Laptop.BastionInit
import Ephemwork.Laptop.LocalAws
import Mathlib.Data.Set.Subsingleton

/-!
# At most one bastion

Whatever fails, the executions of init and destroy of a project never leave more
than one live instance with its name, at any time between two calls.
-/

namespace Ephemwork

open Foundation

namespace Laptop

variable {world : Type}

/-!
# What is asked of a provisioner
-/

/-- A true report, where `found` has the ids of the live instances: one of them if
there are any, and otherwise at most one that is gone. -/
def Reports (found : Set String) (report : Option InstanceSummary) : Prop :=
  match report with
  | none => found = ∅
  | some summary =>
      summary.instanceId ∈ found ∧
          summary.state ∈ ["pending", "running", "stopping", "stopped"] ∨
        found = ∅ ∧ summary.state ∈ ["shutting-down", "terminated", ""]

def AddsNone {value : Type} (live : world -> Set String)
    (call : Call world ProvisionError value) : Prop :=
  forall found, Triple (fun w => live w ⊆ found) call (fun _ w => live w ⊆ found)
    (fun _ w => live w ⊆ found)

/-- A provisioner of a project, `live` having the ids of the live instances with
the project's name.  Only a launch adds one of them, also if it fails, and the
lookup is true. -/
structure WatchesBastion (provisioner : BastionProvisioner world)
    (context : BastionContext) (live : world -> Set String) : Prop where
  find : forall found,
    Triple (fun w => live w ⊆ found)
      (provisioner.findInstanceByName context.instanceName)
      (fun report w => live w ⊆ found ∧ Reports (live w) report)
      (fun _ w => live w ⊆ found)
  launch : forall plan : LaunchPlan, ("Name", context.instanceName) ∈ plan.tags ->
    forall found, Triple (fun w => live w ⊆ found) (provisioner.launchInstance plan)
      (fun id w => id ∈ live w ∧ live w ⊆ insert id found)
      (fun _ w => exists id, live w ⊆ insert id found)
  wait : forall id found,
    Triple (fun w => id ∈ live w ∧ live w ⊆ found) (provisioner.waitUntilRunning id)
      (fun _ w => id ∈ live w ∧ live w ⊆ found) (fun _ w => live w ⊆ found)
  ensureIamRole : AddsNone live provisioner.ensureIamRole
  ensureSecurityGroup : forall plan, AddsNone live (provisioner.ensureSecurityGroup plan)
  terminate : forall id, AddsNone live (provisioner.terminateInstance id)
  deleteSecurityGroup : forall id, AddsNone live (provisioner.deleteSecurityGroup id)
  deleteIamRole : AddsNone live provisioner.deleteIamRole

/-!
# The provisioner on AWS
-/

def Account.named (A : Account) (name : String) : Set String :=
  {id | exists i, A.instances id = some i ∧ i.IsNamed name}

theorem Account.named_of_instances {A A' : Account}
    (h : A'.instances = A.instances) (name : String) : A'.named name = A.named name := by
  simp only [Account.named, h]

theorem Account.Loses.named_subset {A A' : Account} (h : A.Loses A') (name : String) :
    A'.named name ⊆ A.named name := by
  intro id hid
  rcases hid with ⟨i, hi, hnamed⟩
  exact ⟨i, h.instances id i hi, hnamed⟩

theorem AwsProvisioner.Launches.named {plan : LaunchPlan} {A A' : Account} {id : String}
    (h : AwsProvisioner.Launches plan A id A') {name : String}
    (hname : ("Name", name) ∈ plan.tags) :
    id ∈ A'.named name ∧ A'.named name ⊆ insert id (A.named name) := by
  rcases h with ⟨_, vpcId, _, rfl⟩
  refine ⟨⟨_, Function.update_self _ _ _, hname⟩, ?_⟩
  intro other hother
  rcases hother with ⟨i, hi, hnamed⟩
  by_cases hid : other = id
  · exact Or.inl hid
  · exact Or.inr ⟨i, by simpa [Account.setInstance, hid] using hi, hnamed⟩

section Aws

open AwsProvisioner

variable {api : AwsApi world} {view : world -> Account} {name : String}

theorem addsNone_of_view {value : Type} {call : Call world ProvisionError value}
    (h : forall A, Triple (fun w => view w = A) call
      (fun _ w => (view w).named name ⊆ A.named name)
      (fun _ w => (view w).named name ⊆ A.named name)) :
    AddsNone (fun w => (view w).named name) call := by
  intro found
  refine Triple.of_view view (fun A => A.named name ⊆ found) fun A hA => ?_
  exact (h A).conseq (fun _ hw => hw) (fun _ _ hw => hw.trans hA)
    fun _ _ hw => hw.trans hA

theorem addsNone_of_sameEc2 {value : Type} {call : Call world ProvisionError value}
    (h : forall A, Triple (fun w => Account.SameEc2 A (view w)) call
      (fun _ w => Account.SameEc2 A (view w)) (fun _ w => Account.SameEc2 A (view w))) :
    AddsNone (fun w => (view w).named name) call := by
  refine addsNone_of_view fun A => ?_
  refine (h A).conseq ?_ ?_ ?_
  · intro w hw
    rw [hw]
    exact Account.SameEc2.refl A
  · intro _ w hw
    exact (Account.named_of_instances hw.left name).subset
  · intro _ w hw
    exact (Account.named_of_instances hw.left name).subset

variable {context : BastionContext}

theorem awsProvisioner_watches (hlaw : api.Lawful view)
    (hname : IsLiteral context.instanceName) :
    WatchesBastion (awsProvisioner api context) context
      (fun w => (view w).named context.instanceName) where
  find := by
    intro found
    refine Triple.of_view view (fun A => A.named context.instanceName ⊆ found)
      fun A hA => ?_
    refine (findInstanceByName_spec hlaw hname A).conseq (fun _ hw => hw) ?_ ?_
    · intro report w hw
      rcases hw with ⟨rfl, hreport⟩
      refine ⟨hA, ?_⟩
      cases report with
      | none =>
          apply Set.eq_empty_of_forall_notMem
          intro id hid
          rcases hid with ⟨i, hi, hnamed⟩
          exact hreport id i hi hnamed
      | some summary =>
          rcases hreport with ⟨i, hi, hnamed, hstate, _⟩
          exact Or.inl ⟨⟨i, hi, hnamed⟩, hstate⟩
    · intro _ w hw
      rw [hw]
      exact hA
  launch := by
    intro plan hplan found
    refine Triple.of_view view (fun A => A.named context.instanceName ⊆ found)
      fun A hA => ?_
    refine (launchInstance_spec hlaw plan A).conseq (fun _ hw => hw) ?_ ?_
    · intro id w hw
      rcases hw.named hplan with ⟨hid, hsubset⟩
      exact ⟨hid, hsubset.trans (Set.insert_subset_insert hA)⟩
    · intro _ w hw
      rcases hw with hw | ⟨id, hw⟩
      · rw [hw]
        exact ⟨"", hA.trans (Set.subset_insert _ _)⟩
      · exact ⟨id, (hw.named hplan).right.trans (Set.insert_subset_insert hA)⟩
  wait := by
    intro id found
    exact (waitUntilRunning_spec hlaw id fun A => id ∈ A.named context.instanceName ∧
      A.named context.instanceName ⊆ found).conseq (fun _ hw => hw) (fun _ _ hw => hw)
      fun _ _ hw => hw.right
  ensureIamRole := addsNone_of_sameEc2 fun A => ensureIamRole_spec hlaw context A
  ensureSecurityGroup := by
    intro plan
    refine addsNone_of_view fun A => ?_
    exact (ensureSecurityGroup_spec hlaw plan A).conseq (fun _ hw => hw)
      (fun _ _ hw => (Account.named_of_instances hw.instances_eq _).subset)
      fun _ _ hw => (Account.named_of_instances hw.instances_eq _).subset
  terminate := by
    intro id
    refine addsNone_of_view fun A => ?_
    refine (terminateInstance_spec hlaw id A).conseq (fun _ hw => hw) ?_ ?_
    · intro _ w hw
      rw [hw]
      exact (A.loses_instance id).named_subset _
    · intro _ w hw
      rcases hw with hw | hw
      · rw [hw]
      · rw [hw]
        exact (A.loses_instance id).named_subset _
  deleteSecurityGroup := by
    intro id
    refine addsNone_of_view fun A => ?_
    refine (deleteSecurityGroup_spec hlaw id A).conseq (fun _ hw => hw) ?_ ?_
    · intro _ w hw
      rw [hw]
      exact (A.loses_group id).named_subset _
    · intro _ w hw
      rcases hw with hw | hw
      · rw [hw]
      · rw [hw]
        exact (A.loses_group id).named_subset _
  deleteIamRole := by
    refine addsNone_of_sameEc2 fun A => ?_
    exact (deleteIamRole_spec hlaw context A).conseq (fun _ hw => hw)
      (fun _ _ hw => hw.left) fun _ _ hw => hw

end Aws

/-!
# Every call, with what was seen before it
-/

/-- No state that the record has shows two live instances. -/
def NeverTwo (live : world -> Set String) (s : world × List world) : Prop :=
  forall v, v ∈ s.2 -> (live v).Subsingleton

section Calls

variable {provisioner : BastionProvisioner world} {context : BastionContext}
variable {live : world -> Set String}

theorem AddsNone.recorded {value : Type} {call : Call world ProvisionError value}
    (h : AddsNone live call) {found : Set String} (hfound : found.Subsingleton) :
    Triple (fun s => live s.1 ⊆ found ∧ NeverTwo live s) call.record
      (fun _ s => live s.1 ⊆ found ∧ NeverTwo live s)
      (fun _ s => live s.1 ⊆ found ∧ NeverTwo live s) :=
  Triple.record (h found) (fun _ _ hs => hfound.anti hs) fun _ _ hs => hfound.anti hs

variable (hlaws : WatchesBastion provisioner context live)

include hlaws

theorem createBastion_recorded (groupPlan : SecurityGroupPlan)
    {launchPlanFor : String -> Except PlanError LaunchPlan}
    (hnamed : forall groupId plan, launchPlanFor groupId = .ok plan ->
      ("Name", context.instanceName) ∈ plan.tags) :
    Triple (fun s => live s.1 ⊆ ∅ ∧ NeverTwo live s)
      (createBastion provisioner.recorded groupPlan launchPlanFor)
      (fun outcome s => live s.1 = {outcome.instanceId} ∧ NeverTwo live s)
      (fun _ s => (live s.1).Subsingleton ∧ NeverTwo live s) := by
  have hempty : (∅ : Set String).Subsingleton := Set.subsingleton_empty
  have hone : forall id : String, (insert id ∅ : Set String).Subsingleton := by
    intro id
    rw [insert_empty_eq]
    exact Set.subsingleton_singleton
  -- A call that fails before the launch leaves no live instance.
  have hadds : forall {value : Type} {call : Call world ProvisionError value},
      AddsNone live call ->
      Triple (fun s => live s.1 ⊆ ∅ ∧ NeverTwo live s) call.record
        (fun _ s => live s.1 ⊆ ∅ ∧ NeverTwo live s)
        (fun _ s => (live s.1).Subsingleton ∧ NeverTwo live s) := by
    intro value call hcall
    refine (hcall.recorded hempty).conseq (fun _ h => h) (fun _ _ h => h) ?_
    intro _ s h
    exact ⟨hempty.anti h.left, h.right⟩
  refine Triple.bind (hadds hlaws.ensureIamRole) fun _ => ?_
  refine Triple.bind (hadds (hlaws.ensureSecurityGroup groupPlan)) fun groupId => ?_
  cases hplan : launchPlanFor groupId with
  | error e =>
      apply Triple.throw
      intro s h
      exact ⟨hempty.anti h.left, h.right⟩
  | ok plan =>
      have hlaunch := Triple.record (hlaws.launch plan (hnamed groupId plan hplan) ∅)
        (fun id w h => (hone id).anti h.right)
        (fun e w h => by
          rcases h with ⟨id, h⟩
          exact (hone id).anti h)
      refine Triple.bind (hlaunch.conseq (fun _ h => h) (fun _ _ h => h) ?_)
        fun id => ?_
      · intro _ s h
        rcases h with ⟨⟨id, hid⟩, hseen⟩
        exact ⟨(hone id).anti hid, hseen⟩
      have hwait := Triple.record (hlaws.wait id (insert id ∅))
        (fun _ w h => (hone id).anti h.right) (fun _ w h => (hone id).anti h)
      refine Triple.bind (hwait.conseq (fun _ h => h) (fun _ _ h => h) ?_) fun _ => ?_
      · intro _ s h
        exact ⟨(hone id).anti h.left, h.right⟩
      · apply Triple.pure
        intro s h
        rcases h with ⟨⟨hmem, hsubset⟩, hseen⟩
        rw [insert_empty_eq] at hsubset
        exact ⟨Set.Subset.antisymm hsubset (Set.singleton_subset_iff.mpr hmem), hseen⟩

theorem runInit_recorded (groupPlan : SecurityGroupPlan)
    {launchPlanFor : String -> Except PlanError LaunchPlan}
    (hnamed : forall groupId plan, launchPlanFor groupId = .ok plan ->
      ("Name", context.instanceName) ∈ plan.tags)
    {found : Set String} (hfound : found.Subsingleton) :
    Triple (fun s => live s.1 ⊆ found ∧ NeverTwo live s)
      (runInit provisioner.recorded context groupPlan launchPlanFor)
      (fun outcome s => live s.1 = {outcome.instanceId} ∧ NeverTwo live s)
      (fun _ s => (live s.1).Subsingleton ∧ NeverTwo live s) := by
  have hfind := Triple.record (hlaws.find found)
    (fun _ w h => hfound.anti h.left) (fun _ w h => hfound.anti h)
  refine Triple.bind (hfind.conseq (fun _ h => h) (fun _ _ h => h) ?_) fun report => ?_
  · intro _ s h
    exact ⟨hfound.anti h.left, h.right⟩
  cases report with
  | none =>
      apply (createBastion_recorded hlaws groupPlan hnamed).weaken
      intro s h
      have hnone : live s.1 = ∅ := h.left.right
      exact ⟨hnone.subset, h.right⟩
  | some existing =>
      cases hreusable : existing.isReusable with
      | true =>
          simp only [hreusable, if_true]
          apply Triple.pure
          intro s h
          rcases h with ⟨⟨hsubset, hreport⟩, hseen⟩
          refine ⟨?_, hseen⟩
          rcases hreport with ⟨hmem, _⟩ | ⟨_, hgone⟩
          · exact (hfound.anti hsubset).eq_singleton_of_mem hmem
          · rw [InstanceSummary.isReusable_of_gone hgone] at hreusable
            cases hreusable
      | false =>
          simp only [hreusable, Bool.false_eq_true, if_false]
          apply (createBastion_recorded hlaws groupPlan hnamed).weaken
          intro s h
          rcases h with ⟨⟨_, hreport⟩, hseen⟩
          rcases hreport with ⟨_, hstate⟩ | ⟨hnone, _⟩
          · rw [InstanceSummary.isReusable_of_live hstate] at hreusable
            cases hreusable
          · exact ⟨hnone.subset, hseen⟩

theorem runDestroy_recorded {found : Set String} (hfound : found.Subsingleton) :
    Triple (fun s => live s.1 ⊆ found ∧ NeverTwo live s)
      (runDestroy provisioner.recorded context)
      (fun _ s => live s.1 ⊆ found ∧ NeverTwo live s)
      (fun _ s => live s.1 ⊆ found ∧ NeverTwo live s) := by
  have hfind := Triple.record (hlaws.find found)
    (fun _ w h => hfound.anti h.left) (fun _ w h => hfound.anti h)
  refine Triple.bind hfind fun report => ?_
  cases report with
  | none => exact Triple.pure fun s h => ⟨h.left.left, h.right⟩
  | some summary =>
      refine Triple.bind (((hlaws.terminate summary.instanceId).recorded hfound).weaken
        fun s h => ⟨h.left.left, h.right⟩) fun _ => ?_
      refine Triple.bind (M := fun _ s => live s.1 ⊆ found ∧ NeverTwo live s) ?_
        fun _ => ?_
      · unfold deleteGroupOf
        cases summary.securityGroupId with
        | none => exact Triple.pure fun _ h => h
        | some id => exact (hlaws.deleteSecurityGroup id).recorded hfound
      · refine Triple.bind (hlaws.deleteIamRole.recorded hfound) fun _ => ?_
        exact Triple.pure fun _ h => h

end Calls

/-!
# Runs
-/

/-- For any executions of init and destroy, however their calls fail: at no time is
there more than one live instance, and where an init succeeds there is exactly the
one it returns. -/
theorem at_most_one_bastion {provisioner : BastionProvisioner world}
    {context : BastionContext} {live : world -> Set String}
    (hlaws : WatchesBastion provisioner context live) {w : world}
    (hstart : (live w).Subsingleton) (executions : List Execution) :
    (provisioning provisioner.recorded context).Along
      (fun _ _ result s =>
        (forall v, v ∈ s.2 -> (live v).Subsingleton) ∧
        forall outcome, result = .init (.ok outcome) ->
          live s.1 = {outcome.instanceId})
      (w, []) executions := by
  refine (provisioning provisioner.recorded context).along_of_invariant
    (fun s => (live s.1).Subsingleton ∧ NeverTwo live s) ?_ ?_ executions
  · intro s execution result t hinv hstep
    have hbefore : live s.1 ⊆ live s.1 ∧ NeverTwo live s :=
      ⟨Set.Subset.rfl, hinv.right⟩
    cases execution with
    | init tunnel groupPlan args sshKey =>
        rcases provisioning_init_step hstep with ⟨ending, rfl, hexec⟩
        have hspec := runInit_recorded hlaws groupPlan
          (fun groupId plan (h : buildLaunchPlan tunnel context args sshKey groupId =
            .ok plan) => buildLaunchPlan_named h) hinv.left
        cases ending with
        | ok outcome =>
            rcases hspec.of_ok hbefore hexec with ⟨hone, hseen⟩
            refine ⟨⟨hseen, ?_⟩, ?_, hseen⟩
            · intro outcome' h
              cases h
              exact hone
            · rw [hone]
              exact Set.subsingleton_singleton
        | error e =>
            rcases hspec.of_error hbefore hexec with ⟨hone, hseen⟩
            refine ⟨⟨hseen, ?_⟩, hone, hseen⟩
            intro outcome' h
            cases h
    | destroy =>
        rcases provisioning_destroy_step hstep with ⟨ending, rfl, hexec⟩
        have hspec := runDestroy_recorded hlaws hinv.left
        have hafter : live t.1 ⊆ live s.1 ∧ NeverTwo live t := by
          cases ending with
          | ok outcome => exact hspec.of_ok hbefore hexec
          | error e => exact hspec.of_error hbefore hexec
        refine ⟨⟨hafter.right, ?_⟩, hinv.left.anti hafter.left, hafter.right⟩
        intro outcome h
        cases h
  · refine ⟨hstart, ?_⟩
    intro v hv
    cases hv

/-- Two inits, the first of which loses the answer to its launch, a destroy and
another init. -/
theorem at_most_one_bastion_demo :
    (provisioning (awsProvisioner LocalAws.api demoContext).recorded demoContext).Along
      (fun _ _ result s =>
        (forall v, v ∈ s.2 ->
          ((LocalAws.account v).named demoContext.instanceName).Subsingleton) ∧
        forall outcome, result = .init (.ok outcome) ->
          (LocalAws.account s.1).named demoContext.instanceName = {outcome.instanceId})
      (LocalAws.network (List.replicate 12 none ++ [some .lost]), [])
      [.init (demoTunnel none) demoGroupPlan demoArgs none,
       .init (demoTunnel none) demoGroupPlan demoArgs none, .destroy,
       .init (demoTunnel none) demoGroupPlan demoArgs none] := by
  refine at_most_one_bastion
    (awsProvisioner_watches LocalAws.lawful (isLiteral_instanceName isLiteral_demo)) ?_ _
  intro id hid
  rcases hid with ⟨i, hi, _⟩
  simp [LocalAws.network, LocalAws.account] at hi

end Laptop

end Ephemwork
