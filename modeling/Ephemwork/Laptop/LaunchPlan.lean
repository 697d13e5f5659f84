import Ephemwork.Foundation.Fallible
import Ephemwork.Foundation.Json
import Ephemwork.Laptop.Commands

/-!
# The plan of a bastion

The pure part of `src/bastion_provisioner.rs`: the names of a project's
resources, the security group, the user-data script and the launch plan.
-/

namespace Ephemwork

open Foundation

namespace Laptop

/-!
# Names
-/

namespace BastionContext

def securityGroupName (context : BastionContext) : String :=
  "ephemwork-" ++ context.projectName ++ "-bastion-sg"

def iamRoleName (context : BastionContext) : String :=
  "ephemwork-" ++ context.projectName ++ "-bastion-role"

def iamInstanceProfileName (context : BastionContext) : String :=
  "ephemwork-" ++ context.projectName ++ "-bastion-instance-profile"

end BastionContext

/-!
# The role
-/

/-- The trust policy that lets EC2 assume the role; the keys are sorted, as the
printed map is. -/
def assumeRolePolicyDocument : String :=
  let principal : Json :=
    .obj (JsonFields.ofList [("Service".toList, .str "ec2.amazonaws.com".toList)])
  let statement : Json :=
    .obj (JsonFields.ofList [
      ("Action".toList, .str "sts:AssumeRole".toList),
      ("Effect".toList, .str "Allow".toList),
      ("Principal".toList, principal)])
  let document : Json :=
    .obj (JsonFields.ofList [
      ("Statement".toList, .arr (JsonItems.ofList [statement])),
      ("Version".toList, .str "2012-10-17".toList)])
  String.ofList (Json.print Json.compact document)

def managedPolicyArns : List String :=
  -- SSM Session Manager, and fetching the bastion-server binary from S3.
  ["arn:aws:iam::aws:policy/AmazonSSMManagedInstanceCore",
   "arn:aws:iam::aws:policy/AmazonS3ReadOnlyAccess"]

/-!
# The security group
-/

inductive IngressSource where
  | securityGroup (id : String)
  | cidr (block : String)
deriving DecidableEq, Repr

structure IngressRule where
  protocol : String
  fromPort : UInt16
  toPort : UInt16
  source : IngressSource
  description : String
deriving DecidableEq, Repr

structure SecurityGroupPlan where
  name : String
  description : String
  ingress : List IngressRule
deriving DecidableEq, Repr

inductive PlanError where
  /-- `alb_security_group_id must not be empty` -/
  | emptyAlbSecurityGroup
  /-- `bastion_binary_s3_uri must be an s3:// URL, got {uri:?}` -/
  | notS3 (uri : String)
  /-- ``ssh_authorized_key does not look like an SSH public key (expected
  `ssh-ed25519 …` or similar)`` -/
  | notSshKey
deriving DecidableEq, Repr

/-- Port 80 is open to the load balancer, and nothing else is. -/
def securityGroupPlan (context : BastionContext) (albSecurityGroupId : String) :
    Except PlanError SecurityGroupPlan :=
  if Text.isBlank albSecurityGroupId.toList then
    .error .emptyAlbSecurityGroup
  else
    .ok {
      name := context.securityGroupName
      description :=
        "Inbound rules for the ephemwork bastion (project " ++
          context.projectName ++ ")"
      ingress := [{
        protocol := "tcp"
        fromPort := 80
        toPort := 80
        source := .securityGroup albSecurityGroupId
        description := "ALB to bastion nginx" }] }

/-!
# The user-data script
-/

def knownKeyAlgorithms : List String :=
  ["ssh-rsa", "ssh-ed25519", "ecdsa-sha2-nistp256", "ecdsa-sha2-nistp384",
   "ecdsa-sha2-nistp521", "sk-ssh-ed25519@openssh.com",
   "sk-ecdsa-sha2-nistp256@openssh.com"]

/-- An algorithm name and at least one further word. -/
def isSshPublicKey (s : String) : Bool :=
  match Text.words (Text.trim s.toList) with
  | [] => false
  | algo :: rest =>
      if !knownKeyAlgorithms.contains (String.ofList algo) then
        false
      else
        match rest.head? with
        | none => false
        | some body => !body.isEmpty

def scriptText (lines : List String) : String :=
  String.join (lines.map fun line => line ++ "\n")

/-- What installs the key, if there is one: its text stands between the two
delimiters of a here-document. -/
def sshBlock : Option String -> String
  | none => ""
  | some key =>
      scriptText [
        "",
        "# Authorize the developer's SSH public key for ec2-user.",
        "install -d -m 700 -o ec2-user -g ec2-user /home/ec2-user/.ssh",
        "cat > /home/ec2-user/.ssh/authorized_keys <<'KEY'",
        String.ofList (Text.trim key.toList),
        "KEY",
        "chown ec2-user:ec2-user /home/ec2-user/.ssh/authorized_keys",
        "chmod 600 /home/ec2-user/.ssh/authorized_keys"]

def scriptHead (s3Uri : String) : String :=
  scriptText [
    "#!/bin/bash",
    "set -euxo pipefail",
    "",
    "# Install nginx + AWS CLI (for fetching the bastion-server binary).",
    "dnf install -y nginx awscli || yum install -y nginx awscli",
    "",
    "# Layout for the bastion-server binary and its persistence.",
    "install -d -m 0755 /opt/ephemwork",
    "install -d -m 0755 /var/lib/ephemwork",
    "install -d -m 0755 /etc/nginx/conf.d",
    "",
    "# Pull the prebuilt arm64 binary the operator uploaded.",
    "aws s3 cp \"" ++ s3Uri ++ "\" /opt/ephemwork/bastion-server",
    "chmod 0755 /opt/ephemwork/bastion-server"]

def scriptTail : String :=
  scriptText [
    "",
    "",
    "# Stub config so nginx starts before any sessions exist.",
    "cat > /etc/nginx/conf.d/ephemwork.conf <<'NGINX'",
    "server \x7b",
    "    listen 80 default_server;",
    "    listen [::]:80 default_server;",
    "    location = /ephemwork-health \x7b return 200 \"ok\\n\"; \x7d",
    "    location / \x7b return 404 \"ephemwork bastion not yet configured\\n\"; \x7d",
    "\x7d",
    "NGINX",
    "systemctl enable --now nginx",
    "",
    "# Run the control plane as a system user, restart on crash.",
    "cat > /etc/systemd/system/ephemwork-bastion.service <<'UNIT'",
    "[Unit]",
    "Description=ephemwork bastion control plane",
    "After=network-online.target nginx.service",
    "Wants=network-online.target",
    "",
    "[Service]",
    "ExecStart=/opt/ephemwork/bastion-server",
    "Restart=always",
    "RestartSec=2",
    "Environment=EPHEMWORK_REGISTRY_PATH=/var/lib/ephemwork/registry.json",
    "Environment=EPHEMWORK_NGINX_CONFIG=/etc/nginx/conf.d/ephemwork.conf",
    "# Quote the entire KEY=VALUE so systemd treats the multi-word",
    "# command as ONE env var. Without quotes, `systemctl reload nginx`",
    "# is parsed as three separate `Key=Value` tokens, the bastion-server",
    "# only sees `EPHEMWORK_NGINX_RELOAD=systemctl`, and nginx is never",
    "# actually reloaded after a /register.",
    "Environment=\"EPHEMWORK_NGINX_RELOAD=systemctl reload nginx\"",
    "Environment=RUST_LOG=info",
    "",
    "[Install]",
    "WantedBy=multi-user.target",
    "UNIT",
    "systemctl daemon-reload",
    "systemctl enable --now ephemwork-bastion.service"]

def userDataScript (bastionBinaryS3Uri : String) (sshAuthorizedKey : Option String) :
    Except PlanError String :=
  if !"s3://".toList.isPrefixOf bastionBinaryS3Uri.toList then
    .error (.notS3 bastionBinaryS3Uri)
  else if sshAuthorizedKey.any fun key => !isSshPublicKey key then
    .error .notSshKey
  else
    .ok (scriptHead bastionBinaryS3Uri ++ sshBlock sshAuthorizedKey ++ scriptTail)

/-!
# The launch plan
-/

def instanceTags (context : BastionContext) : List (String × String) :=
  [("EphemworkProject", context.projectName), ("ManagedBy", "ephemwork"),
   ("Name", context.instanceName)]

structure LaunchPlan where
  region : String
  instanceType : String
  amiId : String
  subnetId : String
  securityGroupId : String
  instanceProfileName : String
  userData : String
  tags : List (String × String)
deriving DecidableEq, Repr

def LaunchPlan.fromConfig (config : TunnelConfig) (context : BastionContext)
    (amiId subnetId securityGroupId bastionBinaryS3Uri : String)
    (sshAuthorizedKey : Option String) : Except PlanError LaunchPlan := do
  let userData <- userDataScript bastionBinaryS3Uri sshAuthorizedKey
  return {
    region := config.region
    instanceType := config.instanceType
    amiId := amiId
    subnetId := subnetId
    securityGroupId := securityGroupId
    instanceProfileName := context.iamInstanceProfileName
    userData := userData
    tags := instanceTags context }

theorem LaunchPlan.of_fromConfig {config : TunnelConfig} {context : BastionContext}
    {amiId subnetId securityGroupId uri : String} {key : Option String}
    {plan : LaunchPlan}
    (h : LaunchPlan.fromConfig config context amiId subnetId securityGroupId uri key =
      .ok plan) :
    plan.subnetId = subnetId ∧ plan.tags = instanceTags context := by
  rcases (bind_eq_ok_iff _ _ _).mp h with ⟨userData, _, hplan⟩
  cases hplan
  exact ⟨rfl, rfl⟩

theorem name_mem_instanceTags (context : BastionContext) :
    ("Name", context.instanceName) ∈ instanceTags context := by
  simp [instanceTags]

end Laptop

end Ephemwork
