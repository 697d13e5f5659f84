import Ephemwork.Laptop.RedeployDelivery

/-!
# What a redeploy leaves on the bastion

The tools of the instance, S3 and Systems Manager are known by what their
documentation says of the commands of a redeploy, whatever else they do and wherever
they fail or are cut off.  The new program is downloaded beside the old one and
renamed over it when it is whole.
-/

namespace Ephemwork

open Foundation

namespace Laptop

def binaryPath : String :=
  "/opt/ephemwork/bastion-server"

def newBinaryPath : String :=
  "/opt/ephemwork/bastion-server.new"

structure Program where
  contents : Bytes
  executable : Bool
deriving DecidableEq, Repr

/-- An instance: its files, the program that the process of the service was started
from, and its tools. -/
structure BastionHost (host : Type) where
  program : host -> String -> Option Program
  running : host -> Option Bytes
  run : Shell.Command -> Call host Shell.Stop Unit

/-- What is outside of the instance: the objects of S3, and which programs answer a
health check with success. -/
structure Surroundings where
  object : String -> Option Bytes
  answers : Bytes -> Prop

def healthCommands : List Shell.Command :=
  [shellCommand ["curl", "-sf", "http://127.0.0.1:8443/healthz"],
    shellCommand ["echo", "control-plane-ok"]]

/-- The commands that change no file. -/
def askingWords : List (List String) :=
  [["sleep", "2"], ["systemctl", "is-active", "ephemwork-bastion"],
    ["curl", "-sf", "http://127.0.0.1:8443/healthz"], ["echo", "control-plane-ok"]]

namespace BastionHost

variable {host : Type}

section

variable (H : BastionHost host) (around : Surroundings) (s3Uri : String)

def installed (s : host) : Option Bytes :=
  (H.program s binaryPath).map Program.contents

/-- The process may end at any time, and `Restart=always` starts it again. -/
def Serves (s t : host) : Prop :=
  H.running t = H.running s ∨ H.running t = none ∨ H.running t = H.installed s ∨
    H.running t = H.installed t

/-- What the tools are documented to do, `r` being how the command ends. -/
structure Documented : Prop where
  service : forall command, command ∈ redeployCommands s3Uri ++ healthCommands ->
    forall s r t, (H.run command).exec s = (r, t) -> H.Serves s t
  /-- `aws s3 cp` that succeeds has downloaded the object. -/
  download : forall s r t,
    (H.run (shellCommand ["aws", "s3", "cp", s3Uri, newBinaryPath])).exec s = (r, t) ->
      H.program t binaryPath = H.program s binaryPath ∧
        (r = .ok () -> exists bytes executable, around.object s3Uri = some bytes ∧
          H.program t newBinaryPath = some ⟨bytes, executable⟩)
  changeMode : forall s r t,
    (H.run (shellCommand ["chmod", "0755", newBinaryPath])).exec s = (r, t) ->
      H.program t binaryPath = H.program s binaryPath ∧
        (r = .ok () -> exists bytes executable,
          H.program s newBinaryPath = some ⟨bytes, executable⟩ ∧
            H.program t newBinaryPath = some ⟨bytes, true⟩)
  /-- Within a file system `mv` is one rename. -/
  move : forall s r t,
    (H.run (shellCommand ["mv", newBinaryPath, binaryPath])).exec s = (r, t) ->
      (r ≠ .ok () ∧ H.program t binaryPath = H.program s binaryPath) ∨
        (H.program t binaryPath = H.program s newBinaryPath ∧
          H.program t newBinaryPath = none)
  /-- A restart that succeeds has ended the process that there was. -/
  restart : forall s r t,
    (H.run (shellCommand ["systemctl", "restart", "ephemwork-bastion.service"])).exec s =
        (r, t) ->
      H.program t = H.program s ∧
        (r = .ok () -> H.running t = none ∨ H.running t = H.installed s)
  asks : forall words, words ∈ askingWords ->
    forall s r t, (H.run (shellCommand words)).exec s = (r, t) ->
      H.program t = H.program s
  /-- What answers is what runs, or what the unit has started again. -/
  health : forall s t,
    (H.run (shellCommand ["curl", "-sf", "http://127.0.0.1:8443/healthz"])).exec s =
        (.ok (), t) ->
      exists bytes, (H.running s = some bytes ∨ H.installed s = some bytes) ∧
        around.answers bytes

variable (before : host)

/-- What may run while the program is the one before. -/
def IsOld (process : Option Bytes) : Prop :=
  process = H.running before ∨ process = none ∨ process = H.installed before

structure Untouched (s : host) : Prop where
  program : H.program s binaryPath = H.program before binaryPath
  running : H.IsOld before (H.running s)

structure Swapped (bytes : Bytes) (s : host) : Prop where
  object : around.object s3Uri = some bytes
  program : H.program s binaryPath = some ⟨bytes, true⟩
  beside : H.program s newBinaryPath = none
  running : H.IsOld before (H.running s) ∨ H.running s = some bytes

/-- The program is the one before or all of the new one. -/
def LeftWhole (s : host) : Prop :=
  H.Untouched before s ∨ exists bytes, H.Swapped around s3Uri before bytes s

def Downloaded (executable : Bool -> Prop) (s : host) : Prop :=
  H.Untouched before s ∧ exists bytes mode, executable mode ∧
    around.object s3Uri = some bytes ∧ H.program s newBinaryPath = some ⟨bytes, mode⟩

/-- The new program is what runs, if anything does. -/
structure Restarted (bytes : Bytes) (s : host) : Prop where
  swapped : H.Swapped around s3Uri before bytes s
  running : H.running s = none ∨ H.running s = some bytes

end

section

variable {H : BastionHost host} {around : Surroundings} {s3Uri : String}
variable {before s t : host} {bytes : Bytes}

theorem installed_congr (h : H.program t binaryPath = H.program s binaryPath) :
    H.installed t = H.installed s := by
  rw [installed, h]
  rfl

theorem Swapped.installed_eq (h : H.Swapped around s3Uri before bytes s) :
    H.installed s = some bytes := by
  rw [installed, h.program]
  rfl

/-- What is so of each thing that may run afterwards is so of what runs. -/
theorem Serves.elim (P : Option Bytes -> Prop) (h : H.Serves s t) (hsame : P (H.running s))
    (hnone : P none) (hbefore : P (H.installed s)) (hafter : P (H.installed t)) :
    P (H.running t) := by
  rcases h with hrun | hrun | hrun | hrun
  all_goals rw [hrun]
  · exact hsame
  · exact hnone
  · exact hbefore
  · exact hafter

theorem Untouched.step (h : H.Untouched before s) (hserves : H.Serves s t)
    (hprogram : H.program t binaryPath = H.program s binaryPath) :
    H.Untouched before t := by
  have hkeep : H.installed s = H.installed before := installed_congr h.program
  have hsame : H.installed t = H.installed s := installed_congr hprogram
  refine ⟨hprogram.trans h.program, ?_⟩
  refine hserves.elim (H.IsOld before) h.running (Or.inr (Or.inl rfl)) ?_ ?_
  · exact Or.inr (Or.inr hkeep)
  · exact Or.inr (Or.inr (hsame.trans hkeep))

theorem Swapped.step (h : H.Swapped around s3Uri before bytes s)
    (hserves : H.Serves s t) (hprogram : H.program t = H.program s) :
    H.Swapped around s3Uri before bytes t := by
  have hsame : H.installed t = H.installed s := installed_congr (congrFun hprogram _)
  refine ⟨h.object, by rw [hprogram, h.program], by rw [hprogram, h.beside], ?_⟩
  refine hserves.elim (fun process => H.IsOld before process ∨ process = some bytes)
    h.running (Or.inl (Or.inr (Or.inl rfl))) ?_ ?_
  · exact Or.inr h.installed_eq
  · exact Or.inr (hsame.trans h.installed_eq)

theorem Restarted.step (h : H.Restarted around s3Uri before bytes s)
    (hserves : H.Serves s t) (hprogram : H.program t = H.program s) :
    H.Restarted around s3Uri before bytes t := by
  have hsame : H.installed t = H.installed s := installed_congr (congrFun hprogram _)
  refine ⟨h.swapped.step hserves hprogram, ?_⟩
  refine hserves.elim (fun process => process = none ∨ process = some bytes)
    h.running (Or.inl rfl) ?_ ?_
  · exact Or.inr h.swapped.installed_eq
  · exact Or.inr (hsame.trans h.swapped.installed_eq)

/-- The rename takes the whole program to its place. -/
theorem Untouched.swapped (h : H.Untouched before s)
    (hobject : around.object s3Uri = some bytes)
    (hnew : H.program s newBinaryPath = some ⟨bytes, true⟩) (hserves : H.Serves s t)
    (hmoved : H.program t binaryPath = H.program s newBinaryPath)
    (hgone : H.program t newBinaryPath = none) :
    H.Swapped around s3Uri before bytes t := by
  have hprogram := hmoved.trans hnew
  have hinstalled : H.installed t = some bytes := by
    rw [installed, hprogram]
    rfl
  refine ⟨hobject, hprogram, hgone, ?_⟩
  refine hserves.elim (fun process => H.IsOld before process ∨ process = some bytes)
    (Or.inl h.running) (Or.inl (Or.inr (Or.inl rfl))) ?_ ?_
  · exact Or.inl (Or.inr (Or.inr (installed_congr h.program)))
  · exact Or.inr hinstalled

/-!
# The script
-/

theorem triple_run {command : Shell.Command} {P Q : host -> Prop}
    (hleft : forall s r t, P s -> (H.run command).exec s = (r, t) ->
      H.LeftWhole around s3Uri before t ∧ (r = .ok () -> Q t)) :
    Triple P (H.run command) (fun _ => Q) (fun _ => H.LeftWhole around s3Uri before) :=
  Triple.intro (fun s _ t hs hexec => (hleft s _ t hs hexec).2 rfl)
    fun s _ t hs hexec => (hleft s _ t hs hexec).1

section

variable (h : H.Documented around s3Uri) (before : host)
include h

theorem Documented.triple_download :
    Triple (H.Untouched before)
      (H.run (shellCommand ["aws", "s3", "cp", s3Uri, newBinaryPath]))
      (fun _ => H.Downloaded around s3Uri before fun _ => True)
      (fun _ => H.LeftWhole around s3Uri before) := by
  refine triple_run fun s r t hs hexec => ?_
  rcases h.download s r t hexec with ⟨hprogram, hdone⟩
  have hserves := h.service _ (by simp [redeployCommands, newBinaryPath]) s r t hexec
  have hkept := hs.step hserves hprogram
  refine ⟨Or.inl hkept, fun hr => ⟨hkept, ?_⟩⟩
  rcases hdone hr with ⟨bytes, mode, hobject, hnew⟩
  exact ⟨bytes, mode, trivial, hobject, hnew⟩

theorem Documented.triple_changeMode :
    Triple (H.Downloaded around s3Uri before fun _ => True)
      (H.run (shellCommand ["chmod", "0755", newBinaryPath]))
      (fun _ => H.Downloaded around s3Uri before (· = true))
      (fun _ => H.LeftWhole around s3Uri before) := by
  refine triple_run fun s r t hs hexec => ?_
  rcases hs with ⟨hbefore, bytes, mode, _, hobject, hnew⟩
  rcases h.changeMode s r t hexec with ⟨hprogram, hdone⟩
  have hserves := h.service _ (by simp [redeployCommands, newBinaryPath]) s r t hexec
  have hkept := hbefore.step hserves hprogram
  refine ⟨Or.inl hkept, fun hr => ⟨hkept, ?_⟩⟩
  rcases hdone hr with ⟨found, _, hfound, hmode⟩
  rw [hnew] at hfound
  cases hfound
  exact ⟨bytes, true, rfl, hobject, hmode⟩

theorem Documented.triple_move :
    Triple (H.Downloaded around s3Uri before (· = true))
      (H.run (shellCommand ["mv", newBinaryPath, binaryPath]))
      (fun _ s => exists bytes, H.Swapped around s3Uri before bytes s)
      (fun _ => H.LeftWhole around s3Uri before) := by
  refine triple_run fun s r t hs hexec => ?_
  rcases hs with ⟨hbefore, bytes, _, rfl, hobject, hnew⟩
  have hserves := h.service _
    (by simp [redeployCommands, newBinaryPath, binaryPath]) s r t hexec
  rcases h.move s r t hexec with ⟨hfailed, hprogram⟩ | ⟨hmoved, hgone⟩
  · exact ⟨Or.inl (hbefore.step hserves hprogram), fun hr => absurd hr hfailed⟩
  · have hswapped := hbefore.swapped hobject hnew hserves hmoved hgone
    exact ⟨Or.inr ⟨bytes, hswapped⟩, fun _ => ⟨bytes, hswapped⟩⟩

theorem Documented.triple_restart :
    Triple (fun s => exists bytes, H.Swapped around s3Uri before bytes s)
      (H.run (shellCommand ["systemctl", "restart", "ephemwork-bastion.service"]))
      (fun _ s => exists bytes, H.Restarted around s3Uri before bytes s)
      (fun _ => H.LeftWhole around s3Uri before) := by
  refine triple_run fun s r t hs hexec => ?_
  rcases hs with ⟨bytes, hswapped⟩
  rcases h.restart s r t hexec with ⟨hprogram, hended⟩
  have hserves := h.service _ (by simp [redeployCommands]) s r t hexec
  have hkept := hswapped.step hserves hprogram
  refine ⟨Or.inr ⟨bytes, hkept⟩, fun hr => ⟨bytes, hkept, ?_⟩⟩
  rw [← hswapped.installed_eq]
  exact hended hr

theorem Documented.triple_asks {words : List String}
    (hwords : words ∈ askingWords) (bytes : Bytes) :
    Triple (H.Restarted around s3Uri before bytes) (H.run (shellCommand words))
      (fun _ => H.Restarted around s3Uri before bytes)
      (fun _ => H.LeftWhole around s3Uri before) := by
  have hcommand : shellCommand words ∈ redeployCommands s3Uri ++ healthCommands := by
    simp only [askingWords, List.mem_cons, List.not_mem_nil, or_false] at hwords
    rcases hwords with rfl | rfl | rfl | rfl <;> simp [redeployCommands, healthCommands]
  refine triple_run fun s r t hs hexec => ?_
  have hkept := hs.step (h.service _ hcommand s r t hexec) (h.asks _ hwords s r t hexec)
  exact ⟨Or.inr ⟨bytes, hkept.swapped⟩, fun _ => hkept⟩

theorem Documented.triple_health (bytes : Bytes) :
    Triple (H.Restarted around s3Uri before bytes)
      (H.run (shellCommand ["curl", "-sf", "http://127.0.0.1:8443/healthz"]))
      (fun _ s => around.answers bytes ∧ H.Restarted around s3Uri before bytes s)
      (fun _ => H.LeftWhole around s3Uri before) := by
  have hasks := h.triple_asks before
    (show ["curl", "-sf", "http://127.0.0.1:8443/healthz"] ∈ askingWords by
      simp [askingWords]) bytes
  refine Triple.intro (fun s u t hs hexec => ?_) fun s e t hs hexec =>
    hasks.of_error hs hexec
  refine ⟨?_, hasks.of_ok hs hexec⟩
  rcases h.health s t hexec with ⟨program, hruns | hinstalled, hanswers⟩
  · rcases hs.running with hnone | hnew
    · rw [hruns] at hnone
      cases hnone
    · rw [hruns] at hnew
      cases hnew
      exact hanswers
  · rw [hs.swapped.installed_eq] at hinstalled
    cases hinstalled
    exact hanswers

theorem Documented.meets_health (bytes : Bytes) :
    Shell.Meets H.run (H.Restarted around s3Uri before bytes) [healthList]
      (fun s => around.answers bytes ∧ H.Restarted around s3Uri before bytes s)
      (H.LeftWhole around s3Uri before) := by
  have hecho : ["echo", "control-plane-ok"] ∈ askingWords := by simp [askingWords]
  refine Shell.Meets.both (h.triple_health before bytes) ?_
  refine Triple.of_fact fun hanswers => ?_
  exact (h.triple_asks before hecho bytes).conseq (fun _ hs => hs)
    (fun _ _ hs => ⟨hanswers, hs⟩) fun _ _ hs => hs

theorem Documented.meets_redeploy :
    Shell.Meets H.run (H.Untouched before)
      ((redeployCommands s3Uri).map Shell.Command.alone ++ [healthList])
      (fun s => exists bytes, around.answers bytes ∧
        H.Restarted around s3Uri before bytes s)
      (H.LeftWhole around s3Uri before) := by
  have hsleep : ["sleep", "2"] ∈ askingWords := by simp [askingWords]
  have hactive : ["systemctl", "is-active", "ephemwork-bastion"] ∈ askingWords := by
    simp [askingWords]
  refine Shell.Meets.cons rfl (h.triple_download before) ?_
  refine Shell.Meets.cons rfl (h.triple_changeMode before) ?_
  refine Shell.Meets.cons rfl (h.triple_move before) ?_
  refine Shell.Meets.cons rfl (h.triple_restart before) ?_
  refine Triple.of_exists fun bytes => ?_
  refine Shell.Meets.cons rfl (h.triple_asks before hsleep bytes) ?_
  refine Shell.Meets.cons rfl (h.triple_asks before hactive bytes) ?_
  exact Triple.conseq (h.meets_health before bytes) (fun _ hs => hs)
    (fun _ _ hs => ⟨bytes, hs⟩) fun _ _ hs => hs

end

end

/-!
# From the laptop
-/

section

variable (H : BastionHost host) (around : Surroundings)

/-- The script is run to its end, or up to where it is cut off. -/
def RunsScript (s3Uri : String) (before : host) (result : Except Shell.Stop Unit)
    (after : host) : Prop :=
  exists lists, Shell.readScript (redeployScript s3Uri).toList = some lists ∧
    (Shell.runScript H.run false lists).exec before = (result, after)

/-- What S3 and Systems Manager are documented to do, `built` being the program that is
uploaded. -/
structure Delivered (tools : RedeployTools) (region : String) (context : BastionContext)
    (args : BastionRedeployArgs) (built : Bytes) (before after : host) : Prop where
  /-- `aws s3 cp` that succeeds has stored the program. -/
  uploaded : Ran tools "aws" (uploadArguments args.bastionBinaryS3Uri) ->
    around.object args.bastionBinaryS3Uri = some built
  /-- The script is run once or not at all. -/
  once : after = before ∨
    exists result, H.RunsScript args.bastionBinaryS3Uri before result after
  /-- A command is reported as `Success` if its script has ended with status 0. -/
  success : forall bastion commandId n, Sent tools region context args bastion commandId ->
    statusAt tools region bastion.instanceId commandId n = some "Success".toList ->
      H.RunsScript args.bastionBinaryS3Uri before (.ok ()) after

/-- The new program is in place and answers, and it is what runs if anything does. -/
structure Redeployed (built : Bytes) (s : host) : Prop where
  program : H.program s binaryPath = some ⟨built, true⟩
  beside : H.program s newBinaryPath = none
  running : H.running s = none ∨ H.running s = some built
  answers : around.answers built

end

section

variable {H : BastionHost host} {around : Surroundings} {s3Uri : String}
variable {before after : host}

theorem runScript_redeploy (H : BastionHost host) (s3Uri : String) :
    Shell.runScript H.run false (redeployLists s3Uri) =
      Shell.runScript H.run true
        ((redeployCommands s3Uri).map Shell.Command.alone ++ [healthList]) := by
  have hset : Shell.setArguments? (shellCommand ["set", "-eux"]).alone =
      some ["-eux".toList] := by
    simp only [shellCommand, List.map_cons, List.map_nil]
    repeat rw [String.toList_ofList]
    rfl
  have herrexit : Shell.setErrexit false ["-eux".toList] = true := by
    rw [String.toList_ofList]
    rfl
  rw [redeployLists, Shell.runScript_set hset, herrexit]

theorem Untouched.refl (H : BastionHost host) (before : host) :
    H.Untouched before before :=
  ⟨rfl, Or.inl rfl⟩

/-- What a script that was run leaves. -/
theorem Documented.of_runsScript (h : H.Documented around s3Uri)
    (hbare : Shell.IsBare s3Uri.toList) {result : Except Shell.Stop Unit}
    (hruns : H.RunsScript s3Uri before result after) :
    H.LeftWhole around s3Uri before after ∧
      (result = .ok () -> exists bytes, around.answers bytes ∧
        H.Restarted around s3Uri before bytes after) := by
  rcases hruns with ⟨lists, hread, hexec⟩
  rw [readScript_redeploy hbare] at hread
  cases hread
  rw [runScript_redeploy] at hexec
  have hmeets := h.meets_redeploy before
  cases result with
  | ok u =>
      have hdone := Triple.of_ok hmeets (Untouched.refl H before) hexec
      rcases hdone with ⟨bytes, hanswers, hrestarted⟩
      exact ⟨Or.inr ⟨bytes, hrestarted.swapped⟩, fun _ => ⟨bytes, hanswers, hrestarted⟩⟩
  | error stop =>
      exact ⟨Triple.of_error hmeets (Untouched.refl H before) hexec,
        fun hok => (by cases hok)⟩

/-- Wherever a redeploy ends, the bastion has the program it had or all of the new one.
If it succeeds, it has the one that was built. -/
theorem redeploy_swaps_whole_program {tools : RedeployTools} {region : String}
    {context : BastionContext} {args : BastionRedeployArgs} {built : Bytes}
    (hbare : Shell.IsBare args.bastionBinaryS3Uri.toList)
    (htools : H.Documented around args.bastionBinaryS3Uri)
    (hservices : H.Delivered around tools region context args built before after) :
    H.LeftWhole around args.bastionBinaryS3Uri before after ∧
      (bastionRedeploy tools region context args = .ok () ->
        H.Redeployed around built after) := by
  constructor
  · rcases hservices.once with rfl | ⟨result, hruns⟩
    · exact Or.inl (Untouched.refl H after)
    · exact (htools.of_runsScript hbare hruns).1
  · intro hok
    rcases bastionRedeploy_eq_ok_iff.mp hok with ⟨bastion, commandId, hsent, hpoll⟩
    rcases pollStatus_eq_iff.mp hpoll with ⟨n, hround, _⟩
    have hruns := hservices.success bastion commandId n hsent
      (statusRound_eq_ok_iff.mp hround)
    rcases (htools.of_runsScript hbare hruns).2 rfl with ⟨bytes, hanswers, hrestarted⟩
    have hobject := hservices.uploaded hsent.uploaded
    rw [hrestarted.swapped.object] at hobject
    cases hobject
    exact ⟨hrestarted.swapped.program, hrestarted.swapped.beside, hrestarted.running,
      hanswers⟩

end

end BastionHost

/-!
# A run
-/

/-- An instance with two files. -/
structure TwoFiles where
  binary : Option Program
  beside : Option Program
  running : Option Bytes

def newBytes : Bytes := [2, 3]

/-- The tools, with a download that may be cut off half-way. -/
def twoFilesTool (cut : Bool) (s : TwoFiles) :
    List String -> Except Shell.Stop Unit × TwoFiles
  | ["aws", "s3", "cp", _, _] =>
      if cut then
        (.error .killed, { s with beside := some ⟨newBytes.take 1, false⟩ })
      else
        (.ok (), { s with beside := some ⟨newBytes, false⟩ })
  | ["chmod", "0755", _] =>
      match s.beside with
      | none => (.error .failed, s)
      | some ⟨bytes, _⟩ => (.ok (), { s with beside := some ⟨bytes, true⟩ })
  | ["mv", _, _] =>
      match s.beside with
      | none => (.error .failed, s)
      | some program => (.ok (), { s with binary := some program, beside := none })
  | ["systemctl", "restart", _] =>
      (.ok (), { s with running := s.binary.map Program.contents })
  | ["curl", _, _] =>
      if s.running = some newBytes then (.ok (), s) else (.error .failed, s)
  | _ => (.ok (), s)

def twoFiles (cut : Bool) : BastionHost TwoFiles where
  program s path :=
    if path = binaryPath then s.binary
    else if path = newBinaryPath then s.beside
    else none
  running s := s.running
  run command := Call.ofFn fun s => twoFilesTool cut s (command.words.map String.ofList)

def newObject : Surroundings where
  object uri := if uri = "s3://b/b" then some newBytes else none
  answers bytes := bytes = newBytes

theorem exec_twoFiles (cut : Bool) (words : List String) (s : TwoFiles) :
    ((twoFiles cut).run (shellCommand words)).exec s = twoFilesTool cut s words := by
  simp [twoFiles, shellCommand, Function.comp_def]

/-- Only a restart changes what runs. -/
theorem twoFilesTool_running (cut : Bool) (s : TwoFiles) (words : List String) :
    (twoFilesTool cut s words).2.running = s.running ∨
      (twoFilesTool cut s words).2.running = s.binary.map Program.contents := by
  fun_cases twoFilesTool cut s words <;> simp

theorem newBinaryPath_ne : newBinaryPath ≠ binaryPath := by decide

theorem documented_twoFiles (cut : Bool) :
    (twoFiles cut).Documented newObject "s3://b/b" where
  service command _ s r t hexec := by
    have hrun := twoFilesTool_running cut s (command.words.map String.ofList)
    have heq : twoFilesTool cut s (command.words.map String.ofList) = (r, t) := hexec
    rw [heq] at hrun
    rcases hrun with hrun | hrun
    · exact Or.inl hrun
    · exact Or.inr (Or.inr (Or.inl hrun))
  download s r t hexec := by
    rw [exec_twoFiles, twoFilesTool] at hexec
    cases cut <;> cases hexec <;> simp [twoFiles, newBinaryPath_ne, newObject]
  changeMode s r t hexec := by
    rw [exec_twoFiles, twoFilesTool] at hexec
    cases hbeside : s.beside with
    | none =>
        rw [hbeside] at hexec
        cases hexec
        exact ⟨rfl, fun hok => (by cases hok)⟩
    | some program =>
        rw [hbeside] at hexec
        cases hexec
        exact ⟨rfl, fun _ => ⟨program.contents, program.executable, hbeside, rfl⟩⟩
  move s r t hexec := by
    rw [exec_twoFiles, twoFilesTool] at hexec
    cases hbeside : s.beside with
    | none =>
        rw [hbeside] at hexec
        cases hexec
        exact Or.inl ⟨fun hok => (by cases hok), rfl⟩
    | some program =>
        rw [hbeside] at hexec
        cases hexec
        exact Or.inr ⟨hbeside.symm, rfl⟩
  restart s r t hexec := by
    rw [exec_twoFiles, twoFilesTool] at hexec
    cases hexec
    exact ⟨rfl, fun _ => Or.inr rfl⟩
  asks words hwords s r t hexec := by
    rw [exec_twoFiles] at hexec
    simp only [askingWords, List.mem_cons, List.not_mem_nil, or_false] at hwords
    rcases hwords with rfl | rfl | rfl | rfl
    · cases hexec
      rfl
    · cases hexec
      rfl
    · rw [twoFilesTool] at hexec
      split at hexec <;> cases hexec <;> rfl
    · cases hexec
      rfl
  health s t hexec := by
    rw [exec_twoFiles, twoFilesTool] at hexec
    split at hexec
    · next hruns => exact ⟨newBytes, Or.inl hruns, rfl⟩
    · cases hexec

def olderFiles : TwoFiles where
  binary := some ⟨[1], true⟩
  beside := none
  running := some [1]

def newerFiles : TwoFiles where
  binary := some ⟨newBytes, true⟩
  beside := none
  running := some newBytes

def tornFiles : TwoFiles where
  binary := some ⟨[1], true⟩
  beside := some ⟨newBytes.take 1, false⟩
  running := some [1]

def swapArguments : BastionRedeployArgs where
  bastionBinaryS3Uri := "s3://b/b"
  skipBuild := false

/-- Every tool of the laptop succeeds; the command ends as the script did. -/
def swapTools (cut : Bool) : RedeployTools where
  find _ := .ok (some ⟨"i-1", "running", none, none⟩)
  fileExists _ := true
  run _ _ := .ok ⟨true, "0", "c-1".toList, []⟩
  poll _ _ := .ok ⟨true, "0", if cut then "Failed".toList else "Success".toList, []⟩
  clock :=
    { start := 0
      now := fun n => n * statusInterval
      start_le := Nat.zero_le _
      sleeps := fun n => Nat.le_of_eq (Nat.succ_mul n statusInterval).symm
      interval_pos := by decide }

theorem isBare_swapArguments : Shell.IsBare swapArguments.bastionBinaryS3Uri.toList := by
  rw [swapArguments, String.toList_ofList]
  refine ⟨by decide, by decide, fun c hc => ?_⟩
  simp only [List.mem_cons, List.not_mem_nil, or_false] at hc
  rcases hc with rfl | rfl | rfl | rfl | rfl | rfl | rfl | rfl <;> rfl

theorem runsScript_newer :
    (twoFiles false).RunsScript "s3://b/b" olderFiles (.ok ()) newerFiles :=
  ⟨_, readScript_redeploy isBare_swapArguments, rfl⟩

theorem runsScript_torn :
    (twoFiles true).RunsScript "s3://b/b" olderFiles (.error .killed) tornFiles :=
  ⟨_, readScript_redeploy isBare_swapArguments, rfl⟩

theorem delivered_newer :
    (twoFiles false).Delivered newObject (swapTools false) "eu-west-1" ⟨"demo"⟩
      swapArguments newBytes olderFiles newerFiles where
  uploaded _ := by simp [newObject, swapArguments]
  once := Or.inr ⟨_, runsScript_newer⟩
  success _ _ _ _ _ := runsScript_newer

theorem status_ne : "Failed".toList ≠ "Success".toList := by
  repeat rw [String.toList_ofList]
  decide

theorem statusAt_swapTools (cut : Bool) (region instanceId : String)
    (commandId : List Char) (n : Nat) :
    statusAt (swapTools cut) region instanceId commandId n =
      some (if cut then "Failed".toList else "Success".toList) := by
  have hfailed : Text.trim "Failed".toList = "Failed".toList := by
    rw [String.toList_ofList]
    rfl
  have hsuccess : Text.trim "Success".toList = "Success".toList := by
    rw [String.toList_ofList]
    rfl
  cases cut with
  | true => exact congrArg some hfailed
  | false => exact congrArg some hsuccess

theorem delivered_torn :
    (twoFiles true).Delivered newObject (swapTools true) "eu-west-1" ⟨"demo"⟩
      swapArguments newBytes olderFiles tornFiles where
  uploaded _ := by simp [newObject, swapArguments]
  once := Or.inr ⟨_, runsScript_torn⟩
  success _ _ n _ hstatus := by
    rw [statusAt_swapTools] at hstatus
    exact absurd (Option.some.inj hstatus) status_ne

theorem bastionRedeploy_swapTools :
    bastionRedeploy (swapTools false) "eu-west-1" ⟨"demo"⟩ swapArguments = .ok () := by
  have hid : Text.trim "c-1".toList = "c-1".toList ∧ "c-1".toList ≠ [] := by
    rw [String.toList_ofList]
    exact ⟨rfl, by decide⟩
  refine bastionRedeploy_eq_ok_iff.mpr ⟨⟨"i-1", "running", none, none⟩, "c-1".toList, ?_, ?_⟩
  · exact ⟨rfl, fun _ => ⟨_, rfl, rfl⟩, rfl, ⟨_, rfl, rfl⟩, _, rfl, rfl, hid⟩
  · exact pollStatus_eq_iff.mpr ⟨0, statusRound_of_success (statusAt_swapTools _ _ _ _ _),
      fun m hm => absurd hm (Nat.not_lt_zero m)⟩

/-- A redeploy that succeeds, and one whose download is cut off. -/
theorem redeploy_swaps_whole_program_torn :
    bastionRedeploy (swapTools false) "eu-west-1" ⟨"demo"⟩ swapArguments = .ok () ∧
      (twoFiles false).Redeployed newObject newBytes newerFiles ∧
      (twoFiles true).RunsScript "s3://b/b" olderFiles (.error .killed) tornFiles ∧
      tornFiles.beside = some ⟨[2], false⟩ ∧
      (twoFiles true).LeftWhole newObject "s3://b/b" olderFiles tornFiles := by
  have hnewer := BastionHost.redeploy_swaps_whole_program isBare_swapArguments
    (documented_twoFiles false) delivered_newer
  have htorn := BastionHost.redeploy_swaps_whole_program isBare_swapArguments
    (documented_twoFiles true) delivered_torn
  exact ⟨bastionRedeploy_swapTools, hnewer.2 bastionRedeploy_swapTools, runsScript_torn,
    rfl, htorn.1⟩

end Laptop

end Ephemwork
