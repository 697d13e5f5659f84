import Ephemwork.Foundation.TransitionSystem
import Ephemwork.Laptop.AwsSpecs
import Ephemwork.Laptop.BastionInit
import Ephemwork.Laptop.LocalAws

/-!
# Repeating the setup of the role

`ensure_iam_role` may stop at any of its calls and be executed again.  A role left
half made is completed by the next execution; a profile that was created and did
not get its role stays empty, and the next execution succeeds.
-/

namespace Ephemwork

open Foundation

namespace Laptop

/-!
# What the setup is for
-/

def HasRole (context : BastionContext) (A : Account) : Prop :=
  exists policies, A.roles context.iamRoleName = some policies ∧
    forall arn, arn ∈ managedPolicyArns -> arn ∈ policies

def HasProfile (context : BastionContext) (A : Account) : Prop :=
  exists roles, A.profiles context.iamInstanceProfileName = some roles ∧
    context.iamRoleName ∈ roles

structure RoleSetUp (context : BastionContext) (A : Account) : Prop where
  role : HasRole context A
  profile : HasProfile context A

def ProfileWhole (context : BastionContext) (A : Account) : Prop :=
  forall roles, A.profiles context.iamInstanceProfileName = some roles ->
    context.iamRoleName ∈ roles

/-!
# Accounts that grow
-/

/-- Every role keeps its policies and every profile its roles. -/
structure Account.Grows (A A' : Account) : Prop where
  roles : forall name policies, A.roles name = some policies ->
    exists policies', A'.roles name = some policies' ∧ policies ⊆ policies'
  profiles : forall name roles, A.profiles name = some roles ->
    exists roles', A'.profiles name = some roles' ∧ roles ⊆ roles'

namespace Account.Grows

variable {A B : Account}

theorem refl (A : Account) : A.Grows A where
  roles := fun _ policies h => ⟨policies, h, Finset.Subset.refl policies⟩
  profiles := fun _ roles h => ⟨roles, h, Finset.Subset.refl roles⟩

theorem setRole (h : A.Grows B) (name : String) {policies : Option (Finset String)}
    (hpolicies : forall old, B.roles name = some old ->
      exists new, policies = some new ∧ old ⊆ new) :
    A.Grows (B.setRole name policies) where
  roles := by
    intro other old hold
    rcases h.roles other old hold with ⟨mid, hmid, hsub⟩
    by_cases hother : other = name
    · subst hother
      rcases hpolicies mid hmid with ⟨new, hnew, hsub'⟩
      exact ⟨new, by simp [Account.setRole, hnew], hsub.trans hsub'⟩
    · exact ⟨mid, by simpa [Account.setRole, hother] using hmid, hsub⟩
  profiles := h.profiles

theorem setProfile (h : A.Grows B) (name : String) {roles : Option (Finset String)}
    (hroles : forall old, B.profiles name = some old ->
      exists new, roles = some new ∧ old ⊆ new) :
    A.Grows (B.setProfile name roles) where
  roles := h.roles
  profiles := by
    intro other old hold
    rcases h.profiles other old hold with ⟨mid, hmid, hsub⟩
    by_cases hother : other = name
    · subst hother
      rcases hroles mid hmid with ⟨new, hnew, hsub'⟩
      exact ⟨new, by simp [Account.setProfile, hnew], hsub.trans hsub'⟩
    · exact ⟨mid, by simpa [Account.setProfile, hother] using hmid, hsub⟩

end Account.Grows

theorem RoleSetUp.grows {context : BastionContext} {A A' : Account}
    (h : RoleSetUp context A) (hgrows : A.Grows A') : RoleSetUp context A' where
  role := by
    rcases h.role with ⟨policies, hpolicies, hall⟩
    rcases hgrows.roles _ policies hpolicies with ⟨policies', hpolicies', hsub⟩
    exact ⟨policies', hpolicies', fun arn harn => hsub (hall arn harn)⟩
  profile := by
    rcases h.profile with ⟨roles, hroles, hmem⟩
    rcases hgrows.profiles _ roles hroles with ⟨roles', hroles', hsub⟩
    exact ⟨roles', hroles', hsub hmem⟩

namespace AwsProvisioner

variable {world : Type} {api : AwsApi world} {view : world -> Account}

/-!
# However an execution ends
-/

theorem keptBySetup_grows (A : Account) : KeptBySetup fun B => A.Grows B where
  createRole := by
    intro B name hB hnone
    apply hB.setRole
    intro old hold
    rw [hnone] at hold
    cases hold
  attachPolicy := by
    intro B name arn hB
    apply hB.setRole
    intro old hold
    exact ⟨insert arn old, by rw [hold]; rfl, Finset.subset_insert arn old⟩
  createProfile := by
    intro B name hB hnone
    apply hB.setProfile
    intro old hold
    rw [hnone] at hold
    cases hold
  addRole := by
    intro B name role hB
    apply hB.setProfile
    intro old hold
    exact ⟨insert role old, by rw [hold]; rfl, Finset.subset_insert role old⟩

theorem ensureIamRole_grows (hlaw : api.Lawful view) (context : BastionContext)
    (A : Account) :
    Triple (fun w => A.Grows (view w)) (ensureIamRole api context)
      (fun _ w => A.Grows (view w)) (fun _ w => A.Grows (view w)) :=
  ensureIamRole_keeps hlaw context (keptBySetup_grows A)

/-!
# What a successful execution leaves
-/

section Success

variable (hlaw : api.Lawful view) (context : BastionContext)
variable (profiles : String -> Option (Finset String))

def HasPolicies (context : BastionContext) (profiles : String -> Option (Finset String))
    (arns : List String) (A : Account) : Prop :=
  (exists policies, A.roles context.iamRoleName = some policies ∧
    forall arn, arn ∈ arns -> arn ∈ policies) ∧ A.profiles = profiles

include hlaw

theorem createRole_spec :
    Triple (fun w => (view w).profiles = profiles)
      ((api.createRole context.iamRoleName assumeRolePolicyDocument).onError
        (ProvisionError.context "create_role"))
      (fun _ w => HasPolicies context profiles [] (view w)) (fun _ _ => True) := by
  refine Triple.onError ((hlaw.createRole _ _).establishes
    (fun B => B.profiles = profiles) (fun _ B => HasPolicies context profiles [] B) ?_)
  intro B _ B' hB h
  rw [h.right]
  exact ⟨⟨∅, Function.update_self _ _ _, fun arn harn => by cases harn⟩, hB⟩

theorem attachPolicy_spec (arns : List String) (arn : String) :
    Triple (fun w => HasPolicies context profiles arns (view w))
      ((api.attachRolePolicy context.iamRoleName arn).onError
        (ProvisionError.context ("attach_role_policy " ++ arn)))
      (fun _ w => HasPolicies context profiles (arns ++ [arn]) (view w))
      (fun _ _ => True) := by
  refine Triple.onError ((hlaw.attachRolePolicy _ arn).establishes
    (fun B => HasPolicies context profiles arns B)
    (fun _ B => HasPolicies context profiles (arns ++ [arn]) B) ?_)
  intro B _ B' hB h
  rcases hB with ⟨⟨policies, hpolicies, hall⟩, hprofiles⟩
  rw [h, hpolicies]
  refine ⟨⟨insert arn policies, Function.update_self _ _ _, ?_⟩, hprofiles⟩
  intro other hother
  rcases List.mem_append.mp hother with hdone | hlast
  · exact Finset.mem_insert_of_mem (hall other hdone)
  · rw [List.mem_singleton.mp hlast]
    exact Finset.mem_insert_self arn policies

theorem attachPolicies_attaches :
    Triple (fun w => HasPolicies context profiles [] (view w))
      (attachPolicies api context)
      (fun _ w => HasPolicies context profiles managedPolicyArns (view w))
      (fun _ _ => True) :=
  Triple.forM_done (fun arns w => HasPolicies context profiles arns (view w))
    (fun arns arn => attachPolicy_spec hlaw context profiles arns arn) []
    managedPolicyArns

/-- The role is there, and so is the profile: with the role alone if there was none,
and otherwise as it was. -/
def SetsUpFrom (context : BastionContext) (profiles : String -> Option (Finset String))
    (A : Account) : Prop :=
  HasRole context A ∧ A.profiles context.iamInstanceProfileName =
    some ((profiles context.iamInstanceProfileName).getD {context.iamRoleName})

theorem createProfile_setsUp (hnone : profiles context.iamInstanceProfileName = none) :
    Triple (fun w => HasPolicies context profiles managedPolicyArns (view w))
      (createProfile api context) (fun _ w => SetsUpFrom context profiles (view w))
      (fun _ _ => True) := by
  have hcreated : Triple
      (fun w => HasPolicies context profiles managedPolicyArns (view w))
      (api.createInstanceProfile context.iamInstanceProfileName)
      (fun _ w => HasRole context (view w) ∧
        (view w).profiles context.iamInstanceProfileName = some ∅) (fun _ _ => True) := by
    refine (hlaw.createInstanceProfile _).establishes
      (fun B => HasPolicies context profiles managedPolicyArns B)
      (fun _ B => HasRole context B ∧
        B.profiles context.iamInstanceProfileName = some ∅) ?_
    intro B _ B' hB h
    rw [h.right]
    exact ⟨hB.left, Function.update_self _ _ _⟩
  refine Triple.bind (Triple.onError hcreated) fun _ => Triple.onError ?_
  refine (hlaw.addRoleToInstanceProfile _ context.iamRoleName).establishes
    (fun B => HasRole context B ∧ B.profiles context.iamInstanceProfileName = some ∅)
    (fun _ B => SetsUpFrom context profiles B) ?_
  intro B _ B' hB h
  rw [h, hB.right]
  exact ⟨hB.left, by simp [Account.setProfile, hnone]⟩

theorem ensureIamRole_setsUp :
    Triple (fun w => (view w).profiles = profiles) (ensureIamRole api context)
      (fun _ w => SetsUpFrom context profiles (view w)) (fun _ _ => True) := by
  have hrole := (existsFrom_spec (hlaw.getRole context.iamRoleName) "get_role"
    fun B => B.profiles = profiles).conseq (fun _ h => h) (fun _ _ h => h)
    fun (_ : ProvisionError) _ _ => trivial
  refine Triple.bind hrole fun roleExists => ?_
  have hcreated : Triple (fun w => (view w).profiles = profiles ∧
        (roleExists = true <-> (view w).roles context.iamRoleName ≠ none))
      (Call.skipIf roleExists
        ((api.createRole context.iamRoleName assumeRolePolicyDocument).onError
          (ProvisionError.context "create_role")))
      (fun _ w => HasPolicies context profiles [] (view w)) (fun _ _ => True) := by
    refine Triple.skipIf ?_ fun _ =>
      (createRole_spec hlaw context profiles).weaken fun w h => h.left
    intro hskip w h
    rcases Option.ne_none_iff_exists'.mp (h.right.mp hskip) with ⟨policies, hpolicies⟩
    exact ⟨⟨policies, hpolicies, fun arn harn => by cases harn⟩, h.left⟩
  refine Triple.bind hcreated fun _ => ?_
  refine Triple.bind (attachPolicies_attaches hlaw context profiles) fun _ => ?_
  have hprofile := (existsFrom_spec
    (hlaw.getInstanceProfile context.iamInstanceProfileName) "get_instance_profile"
    fun B => HasPolicies context profiles managedPolicyArns B).conseq (fun _ h => h)
    (fun _ _ h => h) fun (_ : ProvisionError) _ _ => trivial
  refine Triple.bind hprofile fun profileExists => ?_
  intro w h
  have hprofiles := h.left.right
  cases hknown : profiles context.iamInstanceProfileName with
  | none =>
      have hmissing : profileExists = false := by
        rw [Bool.eq_false_iff]
        intro htrue
        exact h.right.mp htrue (by rw [hprofiles, hknown])
      rw [hmissing]
      exact createProfile_setsUp hlaw context profiles hknown w h.left
  | some roles =>
      have hthere : profileExists = true :=
        h.right.mpr (by rw [hprofiles, hknown]; simp)
      rw [hthere]
      exact ⟨h.left.left, by rw [hprofiles, hknown]; rfl⟩

theorem ensureIamRole_roleSetUp_iff {s t : world}
    (hexec : (ensureIamRole api context).exec s = (.ok (), t)) :
    RoleSetUp context (view t) <-> ProfileWhole context (view s) := by
  have hsets := (ensureIamRole_setsUp hlaw context (view s).profiles).of_ok rfl hexec
  rcases hsets with ⟨hrole, hprofile⟩
  constructor
  · intro hdone roles hroles
    rcases hdone.profile with ⟨after, hafter, hmem⟩
    rw [hprofile, hroles] at hafter
    cases hafter
    exact hmem
  · intro hwhole
    refine ⟨hrole, _, hprofile, ?_⟩
    cases hknown : (view s).profiles context.iamInstanceProfileName with
    | none => exact Finset.mem_singleton_self context.iamRoleName
    | some roles => exact hwhole roles hknown

end Success

end AwsProvisioner

/-!
# Sequences of executions
-/

section Runs

variable {world : Type}

def roleSetup (api : AwsApi world) (context : BastionContext) :
    TransitionSystem world Unit (Except ProvisionError Unit) where
  step := fun w _ => some ((AwsProvisioner.ensureIamRole api context).exec w)

/-- An execution that succeeds leaves the role set up, and one that finds it so
leaves it so. -/
def SetsUpRole (view : world -> Account) (context : BastionContext) (s : world)
    (_ : Unit) (result : Except ProvisionError Unit) (t : world) : Prop :=
  (result = .ok () -> RoleSetUp context (view t)) ∧
    (RoleSetUp context (view s) -> RoleSetUp context (view t))

/-- The execution starts with no profile or with one that has the role. -/
def StartsWhole (view : world -> Account) (context : BastionContext) (s : world)
    (_ : Unit) (_ : Except ProvisionError Unit) (_ : world) : Prop :=
  ProfileWhole context (view s)

def SuccessStartsWhole (view : world -> Account) (context : BastionContext) (s : world)
    (_ : Unit) (result : Except ProvisionError Unit) (_ : world) : Prop :=
  result = .ok () -> ProfileWhole context (view s)

theorem setsUpRole_iff {api : AwsApi world} {view : world -> Account}
    (hlaw : api.Lawful view) {context : BastionContext} {s t : world} {a : Unit}
    {result : Except ProvisionError Unit}
    (hstep : (roleSetup api context).step s a = some (result, t)) :
    SetsUpRole view context s a result t <->
      SuccessStartsWhole view context s a result t := by
  have hexec : (AwsProvisioner.ensureIamRole api context).exec s = (result, t) :=
    Option.some.inj hstep
  have hgrows : (view s).Grows (view t) := by
    have hspec := AwsProvisioner.ensureIamRole_grows hlaw context (view s) s
      (Account.Grows.refl _)
    rw [hexec] at hspec
    cases result with
    | ok _ => exact hspec
    | error _ => exact hspec
  have hkept : RoleSetUp context (view s) -> RoleSetUp context (view t) :=
    fun hdone => hdone.grows hgrows
  constructor
  · intro h hok
    rw [hok] at hexec
    exact (AwsProvisioner.ensureIamRole_roleSetUp_iff hlaw context hexec).mp (h.left hok)
  · intro h
    refine ⟨?_, hkept⟩
    intro hok
    have hwhole := h hok
    rw [hok] at hexec
    exact (AwsProvisioner.ensureIamRole_roleSetUp_iff hlaw context hexec).mpr hwhole

/-- Where every execution starts with no profile or with one that has the role, a
success leaves role and profile set up for good; of the executions that succeed
this is also needed. -/
theorem role_setup_repairs_iff {api : AwsApi world} {view : world -> Account}
    (hlaw : api.Lawful view) (context : BastionContext) (w : world)
    (executions : List Unit) :
    ((roleSetup api context).Along (StartsWhole view context) w executions ->
      (roleSetup api context).Along (SetsUpRole view context) w executions) ∧
    ((roleSetup api context).Along (SetsUpRole view context) w executions <->
      (roleSetup api context).Along (SuccessStartsWhole view context) w executions) := by
  have hall : forall a, a ∈ executions -> True := fun _ _ => trivial
  constructor
  · apply TransitionSystem.along_imp _ _ hall
    intro s a result t _ hstep hwhole
    exact (setsUpRole_iff hlaw hstep).mpr fun _ => hwhole
  · constructor
    · apply TransitionSystem.along_imp _ _ hall
      intro s a result t _ hstep
      exact (setsUpRole_iff hlaw hstep).mp
    · apply TransitionSystem.along_imp _ _ hall
      intro s a result t _ hstep
      exact (setsUpRole_iff hlaw hstep).mpr

end Runs

theorem role_setup_repairs_iff_demo :
    ((roleSetup LocalAws.api demoContext).Along
        (StartsWhole LocalAws.account demoContext)
        (LocalAws.network [none, some .refused]) [(), ()] ->
      (roleSetup LocalAws.api demoContext).Along
        (SetsUpRole LocalAws.account demoContext)
        (LocalAws.network [none, some .refused]) [(), ()]) ∧
    ((roleSetup LocalAws.api demoContext).Along
        (SetsUpRole LocalAws.account demoContext)
        (LocalAws.network [none, some .refused]) [(), ()] <->
      (roleSetup LocalAws.api demoContext).Along
        (SuccessStartsWhole LocalAws.account demoContext)
        (LocalAws.network [none, some .refused]) [(), ()]) :=
  role_setup_repairs_iff LocalAws.lawful demoContext
    (LocalAws.network [none, some .refused]) [(), ()]

def addRoleRefused : LocalAws :=
  LocalAws.network [none, none, none, none, none, none, some .refused]

/-- The role cannot be added to the profile just created.  The next execution finds
the profile and succeeds, and the profile is empty. -/
theorem second_setup_leaves_profile_empty :
    addRoleRefused.account.roles demoContext.iamRoleName = none ∧
    addRoleRefused.account.profiles demoContext.iamInstanceProfileName = none ∧
    exists t,
      (roleSetup LocalAws.api demoContext).run addRoleRefused [(), ()] =
        some ([.error (.context "add_role_to_instance_profile" LocalAws.unavailable),
          .ok ()], t) ∧
      t.account.profiles demoContext.iamInstanceProfileName = some ∅ ∧
    ¬ (roleSetup LocalAws.api demoContext).Along
      (SetsUpRole LocalAws.account demoContext) addRoleRefused [(), ()] := by
  refine ⟨rfl, rfl, _, rfl, rfl, ?_⟩
  intro h
  rcases h _ _ rfl with ⟨_, hrest⟩
  rcases hrest _ _ rfl with ⟨hsecond, _⟩
  rcases (hsecond.left rfl).profile with ⟨roles, hroles, hmem⟩
  cases hroles
  cases hmem

end Laptop

end Ephemwork
