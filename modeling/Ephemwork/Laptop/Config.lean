import Ephemwork.Bastion.Nginx
import Ephemwork.Foundation.Text

/-!
# Configuration and identity

What `src/config.rs` accepts: the checks on a parsed `ephemwork.toml`, and the
user name taken from `EPHEMWORK_USER` or the email of git.
-/

namespace Ephemwork

open Foundation
open Bastion (isAsciiAlphanumeric)

namespace Laptop

structure TunnelConfig where
  type : String
  region : String
  instanceType : String
  projectName : String
  expectedVpcId : Option String
deriving DecidableEq, Repr

structure ServiceConfig where
  /-- `none` is a worker service. -/
  port : Option UInt16
  runCommand : String
  healthCheckPath : Option String
  forwardPorts : List String
  bootstrapCommand : Option String
deriving DecidableEq, Repr

/-- The services are listed in the order in which the table is iterated. -/
structure Config where
  tunnel : TunnelConfig
  service : List (String × ServiceConfig)
  distinct : (service.map Prod.fst).Nodup

inductive ConfigError where
  /-- `{field} must not be empty` -/
  | empty (field : String)
  /-- ``tunnel.project_name must be ASCII alnum + `-_` (got {name:?})`` -/
  | projectName (name : String)
  /-- `at least one [service.<name>] entry is required` -/
  | noService
  /-- `service.{name}: port=0 is not valid; omit port for a worker service` -/
  | zeroPort (name : String)
  /-- `service.{name}: run_command must not be empty` -/
  | noRunCommand (name : String)
deriving DecidableEq, Repr

def validateServices : List (String × ServiceConfig) -> Except ConfigError Unit
  | [] => .ok ()
  | (name, service) :: rest =>
      if service.port = some 0 then
        .error (.zeroPort name)
      else if Text.isBlank service.runCommand.toList then
        .error (.noRunCommand name)
      else
        validateServices rest

def isProjectByte (b : UInt8) : Bool :=
  isAsciiAlphanumeric b || b == '-'.toUInt8 || b == '_'.toUInt8

def Config.validate (config : Config) : Except ConfigError Unit :=
  if Text.isBlank config.tunnel.type.toList then
    .error (.empty "tunnel.type")
  else if Text.isBlank config.tunnel.region.toList then
    .error (.empty "tunnel.region")
  else if Text.isBlank config.tunnel.instanceType.toList then
    .error (.empty "tunnel.instance_type")
  else if Text.isBlank config.tunnel.projectName.toList then
    .error (.empty "tunnel.project_name")
  else if !(Bytes.ofText config.tunnel.projectName.toList).all isProjectByte then
    .error (.projectName config.tunnel.projectName)
  else if config.service = [] then
    .error .noService
  else
    validateServices config.service

/-!
# The user
-/

def localPart (email : List Char) : List Char :=
  match Text.splitOnce '@' email with
  | some (before, _) => before
  | none => email

def overridingUser (envOverride : Option String) : Option String :=
  match envOverride with
  | none => none
  | some user =>
      let trimmed := Text.trim user.toList
      if trimmed = [] then none else some (String.ofList trimmed)

/-- The user of the header: the override, else the local part of the email. -/
def resolveUser (envOverride : Option String)
    (gitEmail : Except String String) : Except String String :=
  match overridingUser envOverride with
  | some user => .ok user
  | none =>
      match gitEmail with
      | .error message => .error message
      | .ok email =>
          let user := Text.trim (localPart email.toList)
          if user = [] then
            .error
              "could not derive a user identity from git user.email; set EPHEMWORK_USER"
          else
            .ok (String.ofList user)

end Laptop

end Ephemwork
