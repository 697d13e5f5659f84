import Ephemwork.Foundation.TransitionSystem
import Ephemwork.Laptop.Account

/-!
# The bastion commands

`bastion_init` of `src/main.rs` with `--live`, up to the outcome that it prints, and
the system of the executions of init and destroy.
-/

namespace Ephemwork

open Foundation
open Bastion (isAsciiAlphanumeric)

namespace Laptop

def ctxFromConfig (config : Config) : BastionContext where
  projectName := config.tunnel.projectName

structure BastionInitArgs where
  amiId : String
  subnetId : String
  albSecurityGroupId : String
  bastionBinaryS3Uri : String
  /-- The path of the key file. -/
  sshPublicKey : Option String
deriving DecidableEq, Repr

def readSshKey (readFile : String -> Except String String) :
    Option String -> Except ProvisionError (Option String)
  | none => .ok none
  | some path =>
      match readFile path with
      | .error e => .error (.message ("reading " ++ path ++ ": " ++ e))
      | .ok text => .ok (some text)

def buildLaunchPlan (tunnel : TunnelConfig) (context : BastionContext)
    (args : BastionInitArgs) (sshKey : Option String) (groupId : String) :
    Except PlanError LaunchPlan :=
  LaunchPlan.fromConfig tunnel context args.amiId args.subnetId groupId
    args.bastionBinaryS3Uri sshKey

def verifyVpcMatch (subnetId actualVpc expectedVpc : String) :
    Except ProvisionError Unit :=
  if actualVpc ≠ expectedVpc then
    .error (.message
      ("refusing to provision: subnet " ++ subnetId ++ " is in " ++ actualVpc ++
        " but ephemwork.toml pins tunnel.expected_vpc_id = " ++ expectedVpc ++
        ". Aborting before any AWS resource is created."))
  else
    .ok ()

variable {world : Type}

/-- The guard: the subnet lies in the pinned VPC, if one is pinned. -/
def checkVpc (api : AwsApi world) (tunnel : TunnelConfig) (subnetId : String) :
    Call world ProvisionError Unit := do
  match tunnel.expectedVpcId with
  | none => return ()
  | some expectedVpc =>
      let actualVpc <- AwsProvisioner.vpcIdForSubnet api subnetId
      match verifyVpcMatch subnetId actualVpc expectedVpc with
      | .error e => throw e
      | .ok _ => return ()

def bastionInit (api : AwsApi world) (readFile : String -> Except String String)
    (config : Config) (args : BastionInitArgs) :
    Call world ProvisionError InitOutcome := do
  let context := ctxFromConfig config
  match securityGroupPlan context args.albSecurityGroupId with
  | .error e => throw (.plan e)
  | .ok groupPlan =>
      match readSshKey readFile args.sshPublicKey with
      | .error e => throw e
      | .ok sshKey =>
          checkVpc api config.tunnel args.subnetId
          runInit (awsProvisioner api context) context groupPlan
            (buildLaunchPlan config.tunnel context args sshKey)

/-!
# Executions
-/

inductive Execution where
  | init (tunnel : TunnelConfig) (groupPlan : SecurityGroupPlan)
      (args : BastionInitArgs) (sshKey : Option String)
  | destroy
deriving DecidableEq, Repr

inductive ExecutionResult where
  | init (result : Except ProvisionError InitOutcome)
  | destroy (result : Except ProvisionError DestroyOutcome)

def Execution.exec (provisioner : BastionProvisioner world) (context : BastionContext)
    (execution : Execution) (w : world) : ExecutionResult × world :=
  match execution with
  | .init tunnel groupPlan args sshKey =>
      let result := (runInit provisioner context groupPlan
        (buildLaunchPlan tunnel context args sshKey)).exec w
      (.init result.1, result.2)
  | .destroy =>
      let result := (runDestroy provisioner context).exec w
      (.destroy result.1, result.2)

def provisioning (provisioner : BastionProvisioner world) (context : BastionContext) :
    TransitionSystem world Execution ExecutionResult where
  step := fun w execution => some (execution.exec provisioner context w)

section Steps

variable {provisioner : BastionProvisioner world} {context : BastionContext}
variable {s t : world} {result : ExecutionResult}

theorem provisioning_init_step {tunnel : TunnelConfig} {groupPlan : SecurityGroupPlan}
    {args : BastionInitArgs} {sshKey : Option String}
    (h : (provisioning provisioner context).step s (.init tunnel groupPlan args sshKey) =
      some (result, t)) :
    exists ending, result = .init ending ∧
      (runInit provisioner context groupPlan
        (buildLaunchPlan tunnel context args sshKey)).exec s = (ending, t) := by
  cases hexec : (runInit provisioner context groupPlan
      (buildLaunchPlan tunnel context args sshKey)).exec s with
  | mk ending last =>
      simp only [provisioning, Execution.exec, hexec, Option.some.injEq,
        Prod.mk.injEq] at h
      rcases h with ⟨rfl, rfl⟩
      exact ⟨ending, rfl, rfl⟩

theorem provisioning_destroy_step
    (h : (provisioning provisioner context).step s .destroy = some (result, t)) :
    exists ending, result = .destroy ending ∧
      (runDestroy provisioner context).exec s = (ending, t) := by
  cases hexec : (runDestroy provisioner context).exec s with
  | mk ending last =>
      simp only [provisioning, Execution.exec, hexec, Option.some.injEq,
        Prod.mk.injEq] at h
      rcases h with ⟨rfl, rfl⟩
      exact ⟨ending, rfl, rfl⟩

end Steps

theorem provisioning_recorded (provisioner : BastionProvisioner world)
    (context : BastionContext) {executions : List Execution}
    {s t : world × List world} {results : List ExecutionResult}
    (h : (provisioning provisioner.recorded context).run s executions =
      some (results, t)) :
    (provisioning provisioner context).run s.1 executions = some (results, t.1) := by
  induction executions generalizing s results with
  | nil =>
      cases h
      rfl
  | cons execution rest ih =>
      rcases (provisioning provisioner.recorded context).run_cons_some h with
        ⟨result, mid, tail, hstep, hrest, rfl⟩
      have hmirror : execution.exec provisioner context s.1 = (result, mid.1) := by
        have hexec : execution.exec provisioner.recorded context s = (result, mid) :=
          Option.some.inj hstep
        cases execution with
        | init tunnel groupPlan args sshKey =>
            rcases runInit_mirrors provisioner context groupPlan
              (buildLaunchPlan tunnel context args sshKey) s with ⟨hresult, hworld⟩
            cases hexec
            simp only [Execution.exec, hresult, hworld]
        | destroy =>
            rcases runDestroy_mirrors provisioner context s with ⟨hresult, hworld⟩
            cases hexec
            simp only [Execution.exec, hresult, hworld]
      have hplain : (provisioning provisioner context).step s.1 execution =
          some (result, mid.1) := congrArg some hmirror
      rw [(provisioning provisioner context).run_cons_of_step hplain, ih hrest]
      rfl

/-!
# Names of a project
-/

theorem buildLaunchPlan_named {tunnel : TunnelConfig} {context : BastionContext}
    {args : BastionInitArgs} {sshKey : Option String} {groupId : String}
    {plan : LaunchPlan}
    (h : buildLaunchPlan tunnel context args sshKey groupId = .ok plan) :
    ("Name", context.instanceName) ∈ plan.tags := by
  rw [(LaunchPlan.of_fromConfig h).right]
  exact name_mem_instanceTags context

theorem IsLiteral.append {s t : String} (hs : IsLiteral s) (ht : IsLiteral t) :
    IsLiteral (s ++ t) := by
  intro c hc
  rw [String.toList_append, List.mem_append] at hc
  rcases hc with hc | hc
  · exact hs c hc
  · exact ht c hc

theorem isLiteral_of_projectBytes {name : String}
    (h : (Bytes.ofText name.toList).all isProjectByte = true) : IsLiteral name := by
  have habsent : forall (c : Char) (b : UInt8), b.toNat < 128 -> c.toNat = b.toNat ->
      isProjectByte b = false -> c ∉ name.toList := by
    intro c b hb hcode hbyte hc
    have hmem : b ∈ Bytes.ofText name.toList :=
      (Bytes.mem_ofText_iff hb _).mpr ⟨c, hc, hcode⟩
    have htrue : isProjectByte b = true := List.all_eq_true.mp h b hmem
    rw [hbyte] at htrue
    cases htrue
  intro c hc
  refine ⟨?_, ?_, ?_⟩
  · intro heq
    exact habsent '*' 42 (by decide) (by decide) (by decide) (heq ▸ hc)
  · intro heq
    exact habsent '?' 63 (by decide) (by decide) (by decide) (heq ▸ hc)
  · intro heq
    exact habsent '\\' 92 (by decide) (by decide) (by decide) (heq ▸ hc)

theorem Config.isLiteral_projectName {config : Config} (h : config.validate = .ok ()) :
    IsLiteral config.tunnel.projectName := by
  unfold Config.validate at h
  split at h
  · cases h
  split at h
  · cases h
  split at h
  · cases h
  split at h
  · cases h
  split at h
  · cases h
  · next hbytes => exact isLiteral_of_projectBytes (by simpa using hbytes)

theorem isLiteral_of_check {s : String}
    (h : (s.toList.all fun c => c != '*' && c != '?' && c != '\\') = true) :
    IsLiteral s := by
  intro c hc
  have htest := List.all_eq_true.mp h c hc
  simp only [Bool.and_eq_true, bne_iff_ne, ne_eq] at htest
  exact ⟨htest.left.left, htest.left.right, htest.right⟩

theorem isLiteral_instanceName {context : BastionContext}
    (h : IsLiteral context.projectName) : IsLiteral context.instanceName :=
  IsLiteral.append (IsLiteral.append (isLiteral_of_check (by decide)) h)
    (isLiteral_of_check (by decide))

theorem isLiteral_securityGroupName {context : BastionContext}
    (h : IsLiteral context.projectName) : IsLiteral context.securityGroupName :=
  IsLiteral.append (IsLiteral.append (isLiteral_of_check (by decide)) h)
    (isLiteral_of_check (by decide))

/-!
# A configured project
-/

def demoContext : BastionContext where
  projectName := "demo"

def demoTunnel (expectedVpcId : Option String) : TunnelConfig where
  type := "ec2"
  region := "us-east-1"
  instanceType := "t4g.nano"
  projectName := "demo"
  expectedVpcId := expectedVpcId

def demoConfig (expectedVpcId : Option String) : Config where
  tunnel := demoTunnel expectedVpcId
  service := [("api", {
    port := some 3000
    runCommand := "npm start"
    healthCheckPath := none
    forwardPorts := []
    bootstrapCommand := none })]
  distinct := by decide

theorem demoConfig_valid (expectedVpcId : Option String) :
    (demoConfig expectedVpcId).validate = .ok () := by
  have hpin : (demoConfig expectedVpcId).validate = (demoConfig none).validate := rfl
  rw [hpin]
  decide

def demoArgs : BastionInitArgs where
  amiId := "ami-1"
  subnetId := "subnet-a"
  albSecurityGroupId := "sg-alb"
  bastionBinaryS3Uri := "s3://bucket/bastion-server"
  sshPublicKey := none

def demoGroupPlan : SecurityGroupPlan where
  name := "ephemwork-demo-bastion-sg"
  description := "Inbound rules for the ephemwork bastion (project demo)"
  ingress := [{
    protocol := "tcp"
    fromPort := 80
    toPort := 80
    source := .securityGroup "sg-alb"
    description := "ALB to bastion nginx" }]

example : securityGroupPlan demoContext demoArgs.albSecurityGroupId =
    .ok demoGroupPlan := by decide

theorem isLiteral_demo : IsLiteral demoContext.projectName :=
  isLiteral_of_check (by decide)

end Laptop

end Ephemwork
