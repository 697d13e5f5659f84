import Ephemwork.Laptop.AwsSpecs
import Ephemwork.Laptop.BastionInit
import Ephemwork.Laptop.LocalAws

/-!
# Destroying in several attempts

`run_destroy` finds what it has to delete through the live instance.  After an
execution that terminated the instance and then failed, the next one finds
nothing and succeeds, whatever is left.
-/

namespace Ephemwork

open Foundation

namespace Laptop

open AwsProvisioner

variable {world : Type}

/-- The live bastion of a project, the only one, and its security group. -/
structure HasBastion (context : BastionContext) (A : Account) (id : String)
    (i : Instance) (group : String) : Prop where
  live : A.instances id = some i
  named : i.IsNamed context.instanceName
  only : forall other j, A.instances other = some j ->
    j.IsNamed context.instanceName -> other = id
  group_eq : i.securityGroupIds.head? = some group

/-- Nothing of the bastion is left. -/
structure TornDown (context : BastionContext) (id group : String) (A : Account) :
    Prop where
  instance_gone : A.instances id = none
  group_gone : A.securityGroups group = none
  profile_gone : A.profiles context.iamInstanceProfileName = none
  role_gone : A.roles context.iamRoleName = none

def LookupFails (api : AwsApi world) (context : BastionContext) (w : world) : Prop :=
  exists e t, (findInstanceByName api context.instanceName).exec w = (.error e, t)

/-- The live instances with the project's name are at most the bastion itself. -/
def OnlyBastion (context : BastionContext) (id : String) (i : Instance) (A : Account) :
    Prop :=
  forall other j, A.instances other = some j -> j.IsNamed context.instanceName ->
    other = id ∧ j = i

theorem HasBastion.onlyBastion {context : BastionContext} {A : Account}
    {id group : String} {i : Instance} (h : HasBastion context A id i group) :
    OnlyBastion context id i A := by
  intro other j hj hnamed
  have hid := h.only other j hj hnamed
  subst hid
  rw [h.live] at hj
  exact ⟨rfl, (Option.some.inj hj).symm⟩

theorem OnlyBastion.hasBastion {context : BastionContext} {A : Account}
    {id group : String} {i : Instance} (h : OnlyBastion context id i A)
    (hgroup : i.securityGroupIds.head? = some group) (hlive : A.instances id = some i)
    (hnamed : i.IsNamed context.instanceName) : HasBastion context A id i group where
  live := hlive
  named := hnamed
  only := fun other j hj hj' => (h other j hj hj').left
  group_eq := hgroup

theorem OnlyBastion.loses {context : BastionContext} {A B : Account} {id : String}
    {i : Instance} (h : OnlyBastion context id i A) (hloses : A.Loses B) :
    OnlyBastion context id i B := by
  intro other j hj hnamed
  exact h other j (hloses.instances other j hj) hnamed

/-!
# One execution
-/

structure Deleted (context : BastionContext) (id : String) (group : Option String)
    (A : Account) : Prop where
  instance_gone : A.instances id = none
  group_gone : forall name, group = some name -> A.securityGroups name = none
  profile_gone : A.profiles context.iamInstanceProfileName = none
  role_gone : A.roles context.iamRoleName = none

theorem TornDown.loses {context : BastionContext} {id group : String} {A B : Account}
    (h : TornDown context id group A) (hloses : A.Loses B) {other : String}
    {otherGroup : Option String} (hdeleted : Deleted context other otherGroup B) :
    TornDown context id group B where
  instance_gone := by
    cases hi : B.instances id with
    | none => rfl
    | some i =>
        have hA := hloses.instances id i hi
        rw [h.instance_gone] at hA
        cases hA
  group_gone := hloses.groups group h.group_gone
  profile_gone := hdeleted.profile_gone
  role_gone := hdeleted.role_gone

section Step

variable {api : AwsApi world} {view : world -> Account} (hlaw : api.Lawful view)
variable (context : BastionContext)

include hlaw

theorem deleteGroupOf_spec (summary : InstanceSummary) (A : Account) :
    Triple (fun w => view w = A)
      (deleteGroupOf (awsProvisioner api context) summary)
      (fun _ w => A.Loses (view w) ∧ (view w).instances = A.instances ∧
        forall name, summary.securityGroupId = some name ->
          (view w).securityGroups name = none)
      (fun _ w => A.Loses (view w)) := by
  unfold deleteGroupOf
  cases summary.securityGroupId with
  | none =>
      apply Triple.pure
      intro w h
      rw [h]
      refine ⟨Account.Loses.of_sameEc2 (Account.SameEc2.refl A), rfl, ?_⟩
      intro name hname
      cases hname
  | some group =>
      refine (deleteSecurityGroup_spec hlaw group A).conseq (fun _ h => h) ?_ ?_
      · intro _ w h
        rw [h]
        refine ⟨A.loses_group group, rfl, ?_⟩
        intro name hname
        cases hname
        exact Function.update_self _ _ _
      · intro _ w h
        rcases h with h | h
        · rw [h]
          exact Account.Loses.of_sameEc2 (Account.SameEc2.refl A)
        · rw [h]
          exact A.loses_group group

theorem destroyBastion_spec (summary : InstanceSummary) (A : Account) :
    Triple (fun w => view w = A)
      (destroyBastion (awsProvisioner api context) summary)
      (fun _ w => A.Loses (view w) ∧
        Deleted context summary.instanceId summary.securityGroupId (view w))
      (fun _ w => A.Loses (view w)) := by
  have hterminated := A.loses_instance summary.instanceId
  refine Triple.bind
    (M := fun _ w => view w = A.setInstance summary.instanceId none) ?_ fun _ => ?_
  · refine (terminateInstance_spec hlaw summary.instanceId A).conseq (fun _ h => h)
      (fun _ _ h => h) ?_
    intro _ w h
    rcases h with h | h
    · rw [h]
      exact Account.Loses.of_sameEc2 (Account.SameEc2.refl A)
    · rw [h]
      exact hterminated
  refine Triple.bind ((deleteGroupOf_spec hlaw context summary _).conseq (fun _ h => h)
    (fun _ _ h => h) fun _ _ h => hterminated.trans h) fun _ => ?_
  apply Triple.of_view view fun B =>
    (A.setInstance summary.instanceId none).Loses B ∧
      B.instances = (A.setInstance summary.instanceId none).instances ∧
      forall name, summary.securityGroupId = some name -> B.securityGroups name = none
  intro B hB
  rcases hB with ⟨hloses, hinstances, hgroups⟩
  refine Triple.bind ((deleteIamRole_spec hlaw context B).conseq ?_
    (fun _ _ h => h) ?_) fun _ => ?_
  · intro w h
    rw [h]
    exact Account.SameEc2.refl B
  · intro _ w h
    exact (hterminated.trans hloses).trans (Account.Loses.of_sameEc2 h)
  apply Triple.pure
  intro w h
  rcases h with ⟨hsame, hprofile, hrole⟩
  refine ⟨(hterminated.trans hloses).trans (Account.Loses.of_sameEc2 hsame),
    ?_, ?_, hprofile, hrole⟩
  · rw [hsame.left, hinstances]
    exact Function.update_self _ _ _
  · intro name hname
    rw [hsame.right.left]
    exact hgroups name hname

variable {context}

/-- What an execution can do: its lookup fails; it finds nothing and succeeds; or it
finds a live instance with the project's name. -/
theorem runDestroy_cases (hname : IsLiteral context.instanceName) {s : world}
    {result : Except ProvisionError DestroyOutcome} {t : world}
    (hexec : (runDestroy (awsProvisioner api context) context).exec s = (result, t)) :
    (LookupFails api context s ∧ view t = view s ∧ exists e, result = .error e) ∨
    ¬ LookupFails api context s ∧
      ((view t = view s ∧
          result = .ok { instanceId := none, securityGroupId := none } ∧
          forall other j, (view s).instances other = some j ->
            ¬ j.IsNamed context.instanceName) ∨
        exists other j, (view s).instances other = some j ∧
          j.IsNamed context.instanceName ∧ (view s).Loses (view t) ∧
          forall outcome, result = .ok outcome ->
            Deleted context other j.securityGroupIds.head? (view t)) := by
  have hfind := findInstanceByName_spec hlaw hname (view s)
  unfold runDestroy at hexec
  rw [Call.exec_bind] at hexec
  cases hlookup : (findInstanceByName api context.instanceName).exec s with
  | mk report after =>
      have hlookup' : ((awsProvisioner api context).findInstanceByName
          context.instanceName).exec s = (report, after) := hlookup
      rw [hlookup'] at hexec
      cases report with
      | error e =>
          cases hexec
          exact Or.inl ⟨⟨e, t, hlookup⟩, hfind.of_error rfl hlookup, e, rfl⟩
      | ok report =>
          have hworks : ¬ LookupFails api context s := by
            intro hfails
            rcases hfails with ⟨e, t, hfails⟩
            rw [hlookup] at hfails
            cases hfails
          rcases hfind.of_ok rfl hlookup with ⟨hsame, hreport⟩
          refine Or.inr ⟨hworks, ?_⟩
          cases report with
          | none =>
              cases hexec
              exact Or.inl ⟨hsame, rfl, hreport⟩
          | some summary =>
              rcases hreport with ⟨j, hj, hnamed, _, hfirst⟩
              have hspec := destroyBastion_spec hlaw context summary (view s)
              rw [hfirst] at hspec
              refine Or.inr ⟨summary.instanceId, j, hj, hnamed, ?_⟩
              cases result with
              | ok outcome =>
                  rcases hspec.of_ok hsame hexec with ⟨hloses, hdeleted⟩
                  exact ⟨hloses, fun _ _ => hdeleted⟩
              | error e =>
                  refine ⟨hspec.of_error hsame hexec, ?_⟩
                  intro outcome houtcome
                  cases houtcome

end Step

/-!
# Runs
-/

def SuccessTearsDown (view : world -> Account) (context : BastionContext)
    (id group : String) (_ : world) (_ : Execution) (result : ExecutionResult)
    (t : world) : Prop :=
  forall outcome, result = .destroy (.ok outcome) -> TornDown context id group (view t)

/-- The execution finds the bastion alive, or nothing is left, or its lookup
fails. -/
def FindsAllOrNothing (api : AwsApi world) (view : world -> Account)
    (context : BastionContext) (id group : String) (s : world)
    (_ : Execution) (_ : ExecutionResult) (_ : world) : Prop :=
  LookupFails api context s ∨ (exists i, HasBastion context (view s) id i group) ∨
    TornDown context id group (view s)

section Runs

variable {api : AwsApi world} {view : world -> Account} (hlaw : api.Lawful view)
variable {context : BastionContext} (hname : IsLiteral context.instanceName)
variable {id group : String} {s t : world} {result : ExecutionResult}

include hlaw hname

theorem successTearsDown_of_finds
    (hstep : (provisioning (awsProvisioner api context) context).step s .destroy =
      some (result, t))
    (hfinds : FindsAllOrNothing api view context id group s .destroy result t) :
    SuccessTearsDown view context id group s .destroy result t := by
  rcases provisioning_destroy_step hstep with ⟨ending, rfl, hexec⟩
  intro outcome houtcome
  cases houtcome
  rcases runDestroy_cases hlaw hname hexec with
    ⟨_, _, e, herror⟩ | ⟨hworks, ⟨hsame, _, hnone⟩ | ⟨other, j, hj, hnamed, hloses, hok⟩⟩
  · cases herror
  · rw [hsame]
    rcases hfinds with hfails | ⟨i, hbastion⟩ | htorn
    · exact absurd hfails hworks
    · exact absurd hbastion.named (hnone id i hbastion.live)
    · exact htorn
  · have hdeleted := hok outcome rfl
    rcases hfinds with hfails | ⟨i, hbastion⟩ | htorn
    · exact absurd hfails hworks
    · rcases hbastion.onlyBastion other j hj hnamed with ⟨rfl, rfl⟩
      exact ⟨hdeleted.instance_gone, hdeleted.group_gone group hbastion.group_eq,
        hdeleted.profile_gone, hdeleted.role_gone⟩
    · exact htorn.loses hloses hdeleted

variable {i : Instance} (honly : OnlyBastion context id i (view s))

include honly

theorem onlyBastion_step
    (hstep : (provisioning (awsProvisioner api context) context).step s .destroy =
      some (result, t)) : OnlyBastion context id i (view t) := by
  rcases provisioning_destroy_step hstep with ⟨ending, rfl, hexec⟩
  rcases runDestroy_cases hlaw hname hexec with
    ⟨_, hsame, _⟩ | ⟨_, ⟨hsame, _⟩ | ⟨_, _, _, _, hloses, _⟩⟩
  · rw [hsame]
    exact honly
  · rw [hsame]
    exact honly
  · exact honly.loses hloses

theorem finds_of_successTearsDown
    (hgroup : i.securityGroupIds.head? = some group)
    (hstep : (provisioning (awsProvisioner api context) context).step s .destroy =
      some (result, t))
    (hsuccess : SuccessTearsDown view context id group s .destroy result t) :
    FindsAllOrNothing api view context id group s .destroy result t := by
  rcases provisioning_destroy_step hstep with ⟨ending, rfl, hexec⟩
  rcases runDestroy_cases hlaw hname hexec with
    ⟨hfails, _⟩ | ⟨_, ⟨hsame, hok, _⟩ | ⟨other, j, hj, hnamed, _⟩⟩
  · exact Or.inl hfails
  · have htorn := hsuccess _ (congrArg ExecutionResult.destroy hok)
    rw [hsame] at htorn
    exact Or.inr (Or.inr htorn)
  · rcases honly other j hj hnamed with ⟨rfl, rfl⟩
    exact Or.inr (Or.inl ⟨j, honly.hasBastion hgroup hj hnamed⟩)

end Runs

/-- In a sequence of executions, every one that succeeds leaves nothing of the
bastion if every one finds the bastion alive or nothing left, or its lookup fails.
From an account with the bastion this is the only way. -/
theorem destroy_resumes_iff {api : AwsApi world} {view : world -> Account}
    (hlaw : api.Lawful view) {config : Config} (hconfig : config.validate = .ok ())
    (w : world) (id group : String) (n : Nat) :
    ((provisioning (awsProvisioner api (ctxFromConfig config))
          (ctxFromConfig config)).Along
        (FindsAllOrNothing api view (ctxFromConfig config) id group)
        w (List.replicate n .destroy) ->
      (provisioning (awsProvisioner api (ctxFromConfig config))
          (ctxFromConfig config)).Along
        (SuccessTearsDown view (ctxFromConfig config) id group)
        w (List.replicate n .destroy)) ∧
    forall i, HasBastion (ctxFromConfig config) (view w) id i group ->
      ((provisioning (awsProvisioner api (ctxFromConfig config))
            (ctxFromConfig config)).Along
          (SuccessTearsDown view (ctxFromConfig config) id group)
          w (List.replicate n .destroy) <->
        (provisioning (awsProvisioner api (ctxFromConfig config))
            (ctxFromConfig config)).Along
          (FindsAllOrNothing api view (ctxFromConfig config) id group)
          w (List.replicate n .destroy)) := by
  have hname : IsLiteral (ctxFromConfig config).instanceName :=
    isLiteral_instanceName (Config.isLiteral_projectName hconfig)
  have hdestroys : forall a, a ∈ List.replicate n Execution.destroy ->
      a = Execution.destroy := fun a ha => List.eq_of_mem_replicate ha
  constructor
  · apply TransitionSystem.along_imp _ _ hdestroys
    intro s a result t ha hstep hfinds
    subst ha
    exact successTearsDown_of_finds hlaw hname hstep hfinds
  · intro i hbastion
    have hkeep : forall s a result t,
        OnlyBastion (ctxFromConfig config) id i (view s) -> a = Execution.destroy ->
        (provisioning (awsProvisioner api (ctxFromConfig config))
          (ctxFromConfig config)).step s a = some (result, t) ->
        FindsAllOrNothing api view (ctxFromConfig config) id group s a result t ->
        OnlyBastion (ctxFromConfig config) id i (view t) := by
      intro s a result t honly ha hstep _
      subst ha
      exact onlyBastion_step hlaw hname honly hstep
    refine TransitionSystem.along_iff _ hkeep ?_ hbastion.onlyBastion hdestroys
    intro s a result t honly ha hstep
    subst ha
    constructor
    · intro hsuccess
      exact finds_of_successTearsDown hlaw hname honly hbastion.group_eq hstep hsuccess
    · intro hfinds
      exact successTearsDown_of_finds hlaw hname hstep hfinds

theorem deployed_hasBastion (faults : List (Option Fault)) :
    HasBastion (ctxFromConfig (demoConfig none)) (LocalAws.deployed faults).account
      "i-bastion" LocalAws.demoBastion "sg-bastion" where
  live := rfl
  named := by decide
  only := by
    intro other j hj _
    have hentry : (⟨other, j⟩ : Sigma fun _ : String => Instance) ∈
        [⟨"i-bastion", LocalAws.demoBastion⟩] := AList.mem_lookup_iff.mp hj
    exact congrArg Sigma.fst (List.mem_singleton.mp hentry)
  group_eq := rfl

theorem destroy_resumes_iff_demo :
    ((provisioning (awsProvisioner LocalAws.api (ctxFromConfig (demoConfig none)))
          (ctxFromConfig (demoConfig none))).Along
        (FindsAllOrNothing LocalAws.api LocalAws.account (ctxFromConfig (demoConfig none))
          "i-bastion" "sg-bastion")
        (LocalAws.deployed [some .refused]) (List.replicate 2 .destroy) ->
      (provisioning (awsProvisioner LocalAws.api (ctxFromConfig (demoConfig none)))
          (ctxFromConfig (demoConfig none))).Along
        (SuccessTearsDown LocalAws.account (ctxFromConfig (demoConfig none))
          "i-bastion" "sg-bastion")
        (LocalAws.deployed [some .refused]) (List.replicate 2 .destroy)) ∧
    ((provisioning (awsProvisioner LocalAws.api (ctxFromConfig (demoConfig none)))
          (ctxFromConfig (demoConfig none))).Along
        (SuccessTearsDown LocalAws.account (ctxFromConfig (demoConfig none))
          "i-bastion" "sg-bastion")
        (LocalAws.deployed [some .refused]) (List.replicate 2 .destroy) <->
      (provisioning (awsProvisioner LocalAws.api (ctxFromConfig (demoConfig none)))
          (ctxFromConfig (demoConfig none))).Along
        (FindsAllOrNothing LocalAws.api LocalAws.account (ctxFromConfig (demoConfig none))
          "i-bastion" "sg-bastion")
        (LocalAws.deployed [some .refused]) (List.replicate 2 .destroy)) := by
  have hresumes := destroy_resumes_iff LocalAws.lawful (demoConfig_valid none)
    (LocalAws.deployed [some .refused]) "i-bastion" "sg-bastion" 2
  exact ⟨hresumes.left, hresumes.right LocalAws.demoBastion (deployed_hasBastion _)⟩

/-- The first execution terminates the instance and fails to delete its group; the
second one succeeds, and group, profile and role are still there. -/
theorem second_destroy_leaves_group :
    HasBastion demoContext (LocalAws.deployed [none, none, some .refused]).account
      "i-bastion" LocalAws.demoBastion "sg-bastion" ∧
    exists t,
      (provisioning (awsProvisioner LocalAws.api demoContext) demoContext).run
        (LocalAws.deployed [none, none, some .refused]) (List.replicate 2 .destroy) =
        some ([.destroy (.error (.context "delete_security_group" LocalAws.unavailable)),
          .destroy (.ok { instanceId := none, securityGroupId := none })], t) ∧
      t.account.securityGroups "sg-bastion" ≠ none ∧
      t.account.profiles demoContext.iamInstanceProfileName ≠ none ∧
      t.account.roles demoContext.iamRoleName ≠ none ∧
    ¬ (provisioning (awsProvisioner LocalAws.api demoContext) demoContext).Along
      (SuccessTearsDown LocalAws.account demoContext "i-bastion" "sg-bastion")
      (LocalAws.deployed [none, none, some .refused]) (List.replicate 2 .destroy) := by
  refine ⟨deployed_hasBastion _,
    { LocalAws.deployed [] with instances := ∅ }, rfl, ?_, ?_, ?_, ?_⟩
  · decide
  · decide
  · decide
  · intro h
    rcases h _ _ rfl with ⟨_, hrest⟩
    rcases hrest _ _ rfl with ⟨hsecond, _⟩
    have htorn := hsecond { instanceId := none, securityGroupId := none } rfl
    have hgone := htorn.group_gone
    cases hgone

end Laptop

end Ephemwork
