import Ephemwork.Foundation.Polling
import Ephemwork.Foundation.Json
import Ephemwork.Laptop.Provisioner
import Ephemwork.Laptop.RedeployScript
import Ephemwork.Laptop.Runner

/-!
# Delivering a redeploy

`bastion_redeploy` and `run_ssm_redeploy` of `src/main.rs`: the program is built and
uploaded, the script is sent to the bastion, and its status is polled until the command
has ended or three minutes are over.
-/

namespace Ephemwork

open Foundation

namespace Laptop

structure BastionRedeployArgs where
  bastionBinaryS3Uri : String
  skipBuild : Bool
deriving DecidableEq, Repr

structure ToolOutput where
  success : Bool
  /-- The exit status as it is printed. -/
  status : String
  stdout : List Char
  stderr : List Char
deriving DecidableEq, Repr

inductive RedeployError where
  | provision (error : ProvisionError)
  /-- `no bastion found for project {:?}; run ... first` -/
  | noBastion (projectName : String)
  /-- `spawning {program}: {e}` -/
  | spawning (program : String) (e : String)
  /-- `{program} failed (status {status:?})` -/
  | failed (program status : String)
  /-- `binary not found at {binary_path}. ...` -/
  | binaryNotFound
  /-- `aws ssm send-command failed: {stderr}` -/
  | sendFailed (stderr : List Char)
  /-- `SSM send-command returned empty command id` -/
  | emptyCommandId
  /-- `SSM command status poll timed out` -/
  | pollTimedOut
  /-- `SSM command ended with {status}:\n{body}` -/
  | ended (status body : List Char)
  /-- `SSM command stuck in status {status} after 3 min` -/
  | stuck (status : List Char)
deriving DecidableEq, Repr

def binaryFile : String :=
  "target/aarch64-unknown-linux-musl/release/ephemwork-bastion-server"

def buildArguments : List String :=
  ["zigbuild", "--release", "--target", "aarch64-unknown-linux-musl", "-p",
    "ephemwork-bastion-server"]

def uploadArguments (s3Uri : String) : List String :=
  ["s3", "cp", binaryFile, s3Uri]

def commandParameters (script : String) : String :=
  "commands=" ++ String.ofList
    (Json.print Json.compact (.arr (.ofList [.str script.toList])))

def sendArguments (region instanceId script : String) : List String :=
  ["ssm", "send-command", "--region", region, "--instance-ids", instanceId,
    "--document-name", "AWS-RunShellScript", "--parameters", commandParameters script,
    "--query", "Command.CommandId", "--output", "text"]

def invocationArguments (region instanceId : String) (commandId : List Char)
    (query : String) : List String :=
  ["ssm", "get-command-invocation", "--region", region, "--command-id",
    String.ofList commandId, "--instance-id", instanceId, "--query", query,
    "--output", "text"]

def statusInterval : Nat := 5000 * millisecond

def statusTimeout : Nat := 180000 * millisecond

/-- What the tools and the account bring to a redeploy. -/
structure RedeployTools where
  find : String -> Except ProvisionError (Option InstanceSummary)
  /-- Whether there is a file by that name once the build is over. -/
  fileExists : String -> Bool
  /-- A run of `cargo` or `aws`, by program and arguments. -/
  run : String -> List String -> Except String ToolOutput
  /-- A run of `aws` in a round of the status loop. -/
  poll : Nat -> List String -> Except String ToolOutput
  /-- The looks at the clock in the status loop. -/
  clock : Clock statusInterval

section

variable (tools : RedeployTools) (region instanceId : String) (commandId : List Char)

/-!
# The status loop
-/

def statusDeadline : Nat :=
  tools.clock.start + statusTimeout

def statusAt (n : Nat) : Option (List Char) :=
  match tools.poll n (invocationArguments region instanceId commandId "Status") with
  | .error _ => none
  | .ok output => if output.success then some (Text.trim output.stdout) else none

def outputAt (n : Nat) : List Char :=
  match tools.poll n (invocationArguments region instanceId commandId
      "[StandardOutputContent,StandardErrorContent]") with
  | .error _ => []
  | .ok output => Text.trim output.stdout

def endedStatuses : List (List Char) :=
  ["Failed".toList, "Cancelled".toList, "TimedOut".toList]

def statusRound (n : Nat) : Except RedeployError Unit ⊕ Unit :=
  match statusAt tools region instanceId commandId n with
  | none =>
      if statusDeadline tools ≤ tools.clock.now n then
        .inl (.error .pollTimedOut)
      else
        .inr ()
  | some status =>
      if status = "Success".toList then
        .inl (.ok ())
      else if endedStatuses.contains status then
        .inl (.error (.ended status (outputAt tools region instanceId commandId n)))
      else if statusDeadline tools ≤ tools.clock.now n then
        .inl (.error (.stuck status))
      else
        .inr ()

/-- The status of the round decides nothing: it could not be had, or the command has
not ended. -/
def Undecided (n : Nat) : Prop :=
  forall status, statusAt tools region instanceId commandId n = some status ->
    status ≠ "Success".toList ∧ status ∉ endedStatuses

def Pending (n : Nat) : Prop :=
  Undecided tools region instanceId commandId n ∧
    tools.clock.now n < statusDeadline tools

def lateError : Option (List Char) -> RedeployError
  | none => .pollTimedOut
  | some status => .stuck status

variable {tools region instanceId commandId}

theorem statusRound_of_undecided {n : Nat}
    (h : Undecided tools region instanceId commandId n) :
    statusRound tools region instanceId commandId n =
      if statusDeadline tools ≤ tools.clock.now n then
        .inl (.error (lateError (statusAt tools region instanceId commandId n)))
      else
        .inr () := by
  rw [statusRound]
  cases hstatus : statusAt tools region instanceId commandId n with
  | none => rfl
  | some status =>
      rcases h status hstatus with ⟨hsuccess, hended⟩
      dsimp only
      rw [if_neg hsuccess, if_neg (mt List.contains_iff_mem.mp hended)]
      rfl

theorem statusRound_of_success {n : Nat}
    (h : statusAt tools region instanceId commandId n = some "Success".toList) :
    statusRound tools region instanceId commandId n = .inl (.ok ()) := by
  rw [statusRound, h]
  exact if_pos rfl

theorem success_notMem_endedStatuses : "Success".toList ∉ endedStatuses := by
  rw [endedStatuses]
  repeat rw [String.toList_ofList]
  decide

theorem statusRound_of_ended {n : Nat} {status : List Char}
    (h : statusAt tools region instanceId commandId n = some status)
    (hended : status ∈ endedStatuses) :
    statusRound tools region instanceId commandId n =
      .inl (.error (.ended status (outputAt tools region instanceId commandId n))) := by
  have hsuccess : status ≠ "Success".toList := by
    rintro rfl
    exact success_notMem_endedStatuses hended
  rw [statusRound, h]
  dsimp only
  rw [if_neg hsuccess, if_pos (List.contains_iff_mem.mpr hended)]

theorem status_cases (tools : RedeployTools) (region instanceId : String)
    (commandId : List Char) (n : Nat) :
    statusAt tools region instanceId commandId n = some "Success".toList ∨
      (exists status, statusAt tools region instanceId commandId n = some status ∧
        status ∈ endedStatuses) ∨
      Undecided tools region instanceId commandId n := by
  by_cases hsuccess : statusAt tools region instanceId commandId n =
      some "Success".toList
  · exact Or.inl hsuccess
  · by_cases hended : exists status,
        statusAt tools region instanceId commandId n = some status ∧
          status ∈ endedStatuses
    · exact Or.inr (Or.inl hended)
    · refine Or.inr (Or.inr fun status hstatus => ⟨?_, ?_⟩)
      · rintro rfl
        exact hsuccess hstatus
      · exact fun hmem => hended ⟨status, hstatus, hmem⟩

theorem statusRound_eq_inr_iff {n : Nat} :
    statusRound tools region instanceId commandId n = .inr () <->
      Pending tools region instanceId commandId n := by
  rcases status_cases tools region instanceId commandId n with
    hsuccess | ⟨status, hstatus, hended⟩ | hundecided
  · rw [statusRound_of_success hsuccess]
    refine ⟨fun h => (by cases h), fun h => ?_⟩
    exact absurd rfl (h.left _ hsuccess).left
  · rw [statusRound_of_ended hstatus hended]
    refine ⟨fun h => (by cases h), fun h => ?_⟩
    exact absurd hended (h.left _ hstatus).right
  · rw [statusRound_of_undecided hundecided]
    by_cases hlate : statusDeadline tools ≤ tools.clock.now n
    · rw [if_pos hlate]
      refine ⟨fun h => (by cases h), fun h => ?_⟩
      exact absurd h.right (Nat.not_lt_of_le hlate)
    · rw [if_neg hlate]
      exact ⟨fun _ => ⟨hundecided, Nat.lt_of_not_le hlate⟩, fun _ => rfl⟩

theorem statusRound_eq_ok_iff {n : Nat} :
    statusRound tools region instanceId commandId n = .inl (.ok ()) <->
      statusAt tools region instanceId commandId n = some "Success".toList := by
  refine ⟨fun h => ?_, statusRound_of_success⟩
  rcases status_cases tools region instanceId commandId n with
    hsuccess | ⟨status, hstatus, hended⟩ | hundecided
  · exact hsuccess
  · rw [statusRound_of_ended hstatus hended] at h
    cases h
  · rw [statusRound_of_undecided hundecided] at h
    by_cases hlate : statusDeadline tools ≤ tools.clock.now n
    · rw [if_pos hlate] at h
      cases h
    · rw [if_neg hlate] at h
      cases h

theorem statusRound_eq_error_iff {n : Nat} {e : RedeployError} :
    statusRound tools region instanceId commandId n = .inl (.error e) <->
      (exists status, status ∈ endedStatuses ∧
          statusAt tools region instanceId commandId n = some status ∧
          e = .ended status (outputAt tools region instanceId commandId n)) ∨
        Undecided tools region instanceId commandId n ∧
          statusDeadline tools ≤ tools.clock.now n ∧
          e = lateError (statusAt tools region instanceId commandId n) := by
  constructor
  · intro h
    rcases status_cases tools region instanceId commandId n with
      hsuccess | ⟨status, hstatus, hended⟩ | hundecided
    · rw [statusRound_of_success hsuccess] at h
      cases h
    · rw [statusRound_of_ended hstatus hended] at h
      cases h
      exact Or.inl ⟨status, hended, hstatus, rfl⟩
    · rw [statusRound_of_undecided hundecided] at h
      by_cases hlate : statusDeadline tools ≤ tools.clock.now n
      · rw [if_pos hlate] at h
        cases h
        exact Or.inr ⟨hundecided, hlate, rfl⟩
      · rw [if_neg hlate] at h
        cases h
  · rintro (⟨status, hended, hstatus, rfl⟩ | ⟨hundecided, hlate, rfl⟩)
    · exact statusRound_of_ended hstatus hended
    · rw [statusRound_of_undecided hundecided, if_pos hlate]

variable (tools region instanceId commandId)

def statusPoller : Poller Unit (Except RedeployError Unit) where
  round n _ := statusRound tools region instanceId commandId n
  last := tools.clock.lastWithin statusTimeout
  settles n _ h := by
    have hlate := tools.clock.deadline_le_now h
    cases hround : statusRound tools region instanceId commandId n with
    | inl r => exact ⟨r, rfl⟩
    | inr u =>
        have hpending := statusRound_eq_inr_iff.mp hround
        exact absurd hpending.right (Nat.not_lt_of_le hlate)

def pollStatus : Except RedeployError Unit :=
  (statusPoller tools region instanceId commandId).run ()

variable {tools region instanceId commandId}

theorem pollStatus_eq_iff {r : Except RedeployError Unit} :
    pollStatus tools region instanceId commandId = r <->
      exists n, statusRound tools region instanceId commandId n = .inl r ∧
        forall m, m < n -> Pending tools region instanceId commandId m := by
  have hrounds : forall n, (forall m, m < n ->
      statusRound tools region instanceId commandId m = .inr ()) <->
        forall m, m < n -> Pending tools region instanceId commandId m :=
    fun n => forall₂_congr fun m _ => statusRound_eq_inr_iff
  rw [pollStatus, Poller.run_unit_eq_iff]
  exact exists_congr fun n => and_congr_right fun _ => hrounds n

theorem Pending.lt_thirtySix {n : Nat}
    (h : Pending tools region instanceId commandId n) : n < 36 := by
  have hlt := tools.clock.mul_lt_of_now_lt h.right
  simp only [statusInterval, statusTimeout, millisecond] at hlt
  omega

theorem le_thirtySix_of_pending {n : Nat}
    (h : forall m, m < n -> Pending tools region instanceId commandId m) : n ≤ 36 := by
  cases n with
  | zero => exact Nat.zero_le _
  | succ m => exact (h m (Nat.lt_succ_self m)).lt_thirtySix

end

/-!
# The command
-/

section

variable (tools : RedeployTools) (region : String)

def sendCommand (instanceId script : String) : Except RedeployError (List Char) :=
  match tools.run "aws" (sendArguments region instanceId script) with
  | .error e => .error (.spawning "aws ssm send-command" e)
  | .ok output =>
      if output.success then
        if Text.trim output.stdout = [] then
          .error .emptyCommandId
        else
          .ok (Text.trim output.stdout)
      else
        .error (.sendFailed (Text.trim output.stderr))

def runSsmRedeploy (instanceId script : String) : Except RedeployError Unit := do
  let commandId <- sendCommand tools region instanceId script
  pollStatus tools region instanceId commandId

def runTool (name program : String) (arguments : List String) :
    Except RedeployError Unit :=
  match tools.run program arguments with
  | .error e => .error (.spawning name e)
  | .ok output => if output.success then .ok () else .error (.failed name output.status)

def redeployTarget (context : BastionContext) : Except RedeployError InstanceSummary := do
  let found <- (tools.find context.instanceName).mapError .provision
  match found with
  | none => throw (.noBastion context.projectName)
  | some bastion => pure bastion

def buildBinary (args : BastionRedeployArgs) : Except RedeployError Unit := do
  if !args.skipBuild then
    runTool tools "cargo zigbuild" "cargo" buildArguments
  if !tools.fileExists binaryFile then
    throw .binaryNotFound

def bastionRedeploy (context : BastionContext) (args : BastionRedeployArgs) :
    Except RedeployError Unit := do
  let bastion <- redeployTarget tools context
  buildBinary tools args
  runTool tools "aws s3 cp" "aws" (uploadArguments args.bastionBinaryS3Uri)
  runSsmRedeploy tools region bastion.instanceId
    (redeployScript args.bastionBinaryS3Uri)

def Ran (program : String) (arguments : List String) : Prop :=
  exists output, tools.run program arguments = .ok output ∧ output.success = true

/-- The script was sent to the bastion that was found, once the program was built and
uploaded. -/
structure Sent (context : BastionContext) (args : BastionRedeployArgs)
    (bastion : InstanceSummary) (commandId : List Char) : Prop where
  found : tools.find context.instanceName = .ok (some bastion)
  built : args.skipBuild = false -> Ran tools "cargo" buildArguments
  fileExists : tools.fileExists binaryFile = true
  uploaded : Ran tools "aws" (uploadArguments args.bastionBinaryS3Uri)
  sent : exists output,
    tools.run "aws" (sendArguments region bastion.instanceId
      (redeployScript args.bastionBinaryS3Uri)) = .ok output ∧
    output.success = true ∧ Text.trim output.stdout = commandId ∧ commandId ≠ []

variable {tools region} {context : BastionContext} {args : BastionRedeployArgs}

theorem runTool_eq_ok_iff {name program : String} {arguments : List String} :
    runTool tools name program arguments = .ok () <-> Ran tools program arguments := by
  rw [runTool, Ran]
  cases hrun : tools.run program arguments with
  | error e => simp
  | ok output => cases hsuccess : output.success <;> simp [hsuccess]

theorem sendCommand_eq_ok_iff {instanceId script : String} {commandId : List Char} :
    sendCommand tools region instanceId script = .ok commandId <->
      exists output, tools.run "aws" (sendArguments region instanceId script) =
        .ok output ∧ output.success = true ∧ Text.trim output.stdout = commandId ∧
          commandId ≠ [] := by
  rw [sendCommand]
  cases hrun : tools.run "aws" (sendArguments region instanceId script) with
  | error e => simp
  | ok output =>
      cases hsuccess : output.success with
      | false => simp [hsuccess]
      | true =>
          by_cases hempty : Text.trim output.stdout = []
          · simp only [hsuccess, if_true, hempty, reduceCtorEq, Except.ok.injEq,
              exists_eq_left', true_and, false_iff]
            rintro ⟨rfl, hne⟩
            exact absurd rfl hne
          · simp only [hsuccess, if_true, hempty, if_false, Except.ok.injEq,
              exists_eq_left', true_and]
            constructor
            · rintro rfl
              exact ⟨rfl, hempty⟩
            · exact fun h => h.left

theorem redeployTarget_eq_ok_iff {bastion : InstanceSummary} :
    redeployTarget tools context = .ok bastion <->
      tools.find context.instanceName = .ok (some bastion) := by
  rw [redeployTarget]
  cases tools.find context.instanceName with
  | error e => simp [Except.mapError, bind, Except.bind]
  | ok found =>
      cases found <;>
        simp [Except.mapError, bind, Except.bind, throw, throwThe, MonadExceptOf.throw,
          pure, Except.pure]

theorem buildBinary_eq_ok_iff :
    buildBinary tools args = .ok () <->
      (args.skipBuild = false -> Ran tools "cargo" buildArguments) ∧
        tools.fileExists binaryFile = true := by
  rw [← @runTool_eq_ok_iff tools "cargo zigbuild", buildBinary]
  cases args.skipBuild <;> cases tools.fileExists binaryFile <;>
    cases runTool tools "cargo zigbuild" "cargo" buildArguments <;>
      simp [bind, Except.bind, throw, throwThe, MonadExceptOf.throw, pure, Except.pure]

theorem bastionRedeploy_eq_ok_iff :
    bastionRedeploy tools region context args = .ok () <->
      exists bastion commandId, Sent tools region context args bastion commandId ∧
        pollStatus tools region bastion.instanceId commandId = .ok () := by
  simp only [bastionRedeploy, runSsmRedeploy, bind_eq_ok_iff, redeployTarget_eq_ok_iff]
  constructor
  · rintro ⟨bastion, hfound, _, hbuild, _, hupload, commandId, hsend, hpoll⟩
    rcases buildBinary_eq_ok_iff.mp hbuild with ⟨hbuilt, hfile⟩
    exact ⟨bastion, commandId, ⟨hfound, hbuilt, hfile, runTool_eq_ok_iff.mp hupload,
      sendCommand_eq_ok_iff.mp hsend⟩, hpoll⟩
  · rintro ⟨bastion, commandId, hsent, hpoll⟩
    exact ⟨bastion, hsent.found, (), buildBinary_eq_ok_iff.mpr ⟨hsent.built,
      hsent.fileExists⟩, (), runTool_eq_ok_iff.mpr hsent.uploaded, commandId,
      sendCommand_eq_ok_iff.mpr hsent.sent, hpoll⟩

theorem Sent.bastionRedeploy_eq {bastion : InstanceSummary} {commandId : List Char}
    (h : Sent tools region context args bastion commandId) :
    bastionRedeploy tools region context args =
      pollStatus tools region bastion.instanceId commandId := by
  rw [bastionRedeploy, redeployTarget_eq_ok_iff.mpr h.found]
  show (buildBinary tools args >>= fun _ => _) = _
  rw [buildBinary_eq_ok_iff.mpr ⟨h.built, h.fileExists⟩]
  show (runTool tools "aws s3 cp" "aws" _ >>= fun _ => _) = _
  rw [runTool_eq_ok_iff.mpr h.uploaded]
  show (sendCommand tools region bastion.instanceId _ >>= fun _ => _) = _
  rw [sendCommand_eq_ok_iff.mpr h.sent]
  rfl

variable (tools region context args)

/-- A redeploy succeeds if and only if its script is sent and a poll of its status
brings `Success`, before which every poll decided nothing and was in time; the poll
itself may be late and is one of the first thirty-seven.  Once the script is sent, the redeploy fails if and only if a poll
brings the end of the command without success, or is the first that is late and decides
nothing; one of the first thirty-seven polls settles it. -/
theorem bastion_redeploy_settles :
    (bastionRedeploy tools region context args = .ok () <->
      exists bastion commandId n, Sent tools region context args bastion commandId ∧
        n ≤ 36 ∧
        statusAt tools region bastion.instanceId commandId n =
          some "Success".toList ∧
        forall m, m < n -> Pending tools region bastion.instanceId commandId m) ∧
    (forall bastion commandId, Sent tools region context args bastion commandId ->
      forall e, bastionRedeploy tools region context args = .error e <->
        exists n, n ≤ 36 ∧
          (forall m, m < n -> Pending tools region bastion.instanceId commandId m) ∧
          ((exists status, status ∈ endedStatuses ∧
              statusAt tools region bastion.instanceId commandId n = some status ∧
              e = .ended status
                (outputAt tools region bastion.instanceId commandId n)) ∨
            Undecided tools region bastion.instanceId commandId n ∧
              statusDeadline tools ≤ tools.clock.now n ∧
              e = lateError (statusAt tools region bastion.instanceId commandId n))) := by
  refine ⟨?_, ?_⟩
  · rw [bastionRedeploy_eq_ok_iff]
    constructor
    · rintro ⟨bastion, commandId, hsent, hpoll⟩
      rcases pollStatus_eq_iff.mp hpoll with ⟨n, hround, hbefore⟩
      exact ⟨bastion, commandId, n, hsent, le_thirtySix_of_pending hbefore,
        statusRound_eq_ok_iff.mp hround, hbefore⟩
    · rintro ⟨bastion, commandId, n, hsent, _, hstatus, hbefore⟩
      refine ⟨bastion, commandId, hsent, ?_⟩
      exact pollStatus_eq_iff.mpr ⟨n, statusRound_of_success hstatus, hbefore⟩
  · intro bastion commandId hsent e
    rw [hsent.bastionRedeploy_eq, pollStatus_eq_iff]
    constructor
    · rintro ⟨n, hround, hbefore⟩
      exact ⟨n, le_thirtySix_of_pending hbefore, hbefore,
        statusRound_eq_error_iff.mp hround⟩
    · rintro ⟨n, _, hbefore, hend⟩
      exact ⟨n, statusRound_eq_error_iff.mpr hend, hbefore⟩

end

end Laptop

end Ephemwork
