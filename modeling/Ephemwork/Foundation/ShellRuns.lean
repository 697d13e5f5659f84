import Ephemwork.Foundation.Calls
import Ephemwork.Foundation.ShellSyntax

/-!
# Running shell scripts

What a script does, given what its commands do.  A command succeeds, fails, or
is cut off together with the script.  Under `set -e` the script ends at a command
that fails, unless what is left of its list decides about it.  The rules say what
holds if a script succeeds and what holds wherever it is left.
-/

namespace Foundation

namespace Shell

inductive Stop where
  | failed
  | killed
deriving DecidableEq, Repr

section

variable {world : Type}

/-- Whether the call succeeds; a script that is cut off has no status. -/
def status (call : Call world Stop Unit) : Call world Stop Bool :=
  Call.ofFn fun s =>
    match call.exec s with
    | (.ok _, t) => (.ok true, t)
    | (.error .failed, t) => (.ok false, t)
    | (.error .killed, t) => (.error .killed, t)

def Connective.follows : Connective -> Bool -> Bool
  | .andIf, success => success
  | .orIf, success => !success

/-- How a list ends.  It is exempt from `set -e` if the command that failed was
not the last one of the list. -/
structure Ended where
  success : Bool
  exempt : Bool
deriving DecidableEq, Repr

def setErrexit (errexit : Bool) : List Word -> Bool
  | [] => errexit
  | ('-' :: letters) :: rest => setErrexit (errexit || letters.contains 'e') rest
  | ('+' :: letters) :: rest => setErrexit (errexit && !letters.contains 'e') rest
  | _ :: rest => setErrexit errexit rest

def setArguments? (list : CommandList) : Option (List Word) :=
  match list with
  | { first := { words := ['s', 'e', 't'] :: arguments, output := none, input := none },
      rest := [] } => some arguments
  | _ => none

theorem setArguments?_of_joined (first : Command) (joined : Connective × Command)
    (rest : List (Connective × Command)) :
    setArguments? { first := first, rest := joined :: rest } = none := by
  unfold setArguments?
  split
  · next heq => cases heq
  · rfl

variable (run : Command -> Call world Stop Unit)

def runRest : Bool -> Bool -> List (Connective × Command) -> Call world Stop Ended
  | success, exempt, [] => pure { success := success, exempt := exempt }
  | success, _, (connective, command) :: rest =>
      if connective.follows success then do
        let success <- status (run command)
        runRest success false rest
      else
        runRest success true rest

def runList (list : CommandList) : Call world Stop Ended := do
  let success <- status (run list.first)
  runRest run success false list.rest

/-- The status of a script is that of its last list. -/
def runScript : Bool -> List CommandList -> Call world Stop Unit
  | _, [] => pure ()
  | errexit, list :: rest =>
      match setArguments? list with
      | some arguments => runScript (setErrexit errexit arguments) rest
      | none => do
          let ended <- runList run list
          if ended.success then
            runScript errexit rest
          else if (errexit && !ended.exempt) || rest.isEmpty then
            throw .failed
          else
            runScript errexit rest

variable {run} in
theorem runScript_set {errexit : Bool} {list : CommandList} {arguments : List Word}
    (hset : setArguments? list = some arguments) (rest : List CommandList) :
    runScript run errexit (list :: rest) =
      runScript run (setErrexit errexit arguments) rest := by
  rw [runScript, hset]

end

/-!
# Rules
-/

section

variable {world : Type} {run : Command -> Call world Stop Unit}
variable {P Q R F K : world -> Prop}

def stopped (F K : world -> Prop) : Stop -> world -> Prop
  | .failed => F
  | .killed => K

theorem Triple.toStopped {call : Call world Stop Unit}
    (h : Triple P call (fun _ => Q) (fun _ => K)) :
    Triple P call (fun _ => Q) (stopped K K) := by
  refine h.conseq (fun _ hs => hs) (fun _ _ hs => hs) ?_
  intro stop s hs
  cases stop with
  | failed => exact hs
  | killed => exact hs

theorem Triple.bind_status {value : Type} {call : Call world Stop Unit}
    {next : Bool -> Call world Stop value} {post : value -> world -> Prop}
    (hcall : Triple P call (fun _ => Q) (stopped F K))
    (hsuccess : Triple Q (next true) post (fun _ => K))
    (hfailure : Triple F (next false) post (fun _ => K)) :
    Triple P (status call >>= next) post (fun _ => K) := by
  intro s hs
  rw [Call.exec_bind]
  cases hexec : call.exec s with
  | mk result t =>
      cases result with
      | ok a =>
          simp only [status, Call.exec_ofFn, hexec]
          exact hsuccess t (hcall.of_ok hs hexec)
      | error stop =>
          have hstop := hcall.of_error hs hexec
          cases stop with
          | failed =>
              simp only [status, Call.exec_ofFn, hexec]
              exact hfailure t hstop
          | killed =>
              simp only [status, Call.exec_ofFn, hexec]
              exact hstop

def endedIn (Q K : world -> Prop) (ended : Ended) : world -> Prop :=
  if ended.success then Q else K

def endedFirmly (Q K : world -> Prop) (ended : Ended) : world -> Prop :=
  fun s => endedIn Q K ended s ∧ (ended.success = false -> ended.exempt = false)

/-- Under `set -e` the script takes states in `P` to states in `Q` if it
succeeds, and leaves the world in `K` wherever else it ends. -/
def Meets (run : Command -> Call world Stop Unit) (P : world -> Prop)
    (script : List CommandList) (Q K : world -> Prop) : Prop :=
  Triple P (runScript run true script) (fun _ => Q) (fun _ => K)

theorem Meets.of_list {list : CommandList} {rest : List CommandList}
    (hset : setArguments? list = none)
    (hlist : Triple P (runList run list) (endedFirmly R K) (fun _ => K))
    (hrest : Meets run R rest Q K) : Meets run P (list :: rest) Q K := by
  rw [Meets, runScript, hset]
  refine Triple.bind hlist fun ended => ?_
  cases ended with
  | mk success exempt =>
      cases success with
      | true => exact Triple.weaken hrest fun s hs => hs.1
      | false =>
          intro s hs
          have hexempt : exempt = false := hs.2 rfl
          subst hexempt
          exact hs.1

theorem Meets.of_last {list : CommandList} (hset : setArguments? list = none)
    (hlist : Triple P (runList run list) (endedIn Q K) (fun _ => K)) :
    Meets run P [list] Q K := by
  rw [Meets, runScript, hset]
  refine Triple.bind hlist fun ended => ?_
  cases ended with
  | mk success exempt =>
      intro s hs
      cases success with
      | true => exact hs
      | false =>
          cases exempt with
          | true => exact hs
          | false => exact hs

theorem Meets.cons {command : Command} {rest : List CommandList}
    (hset : setArguments? command.alone = none)
    (hcommand : Triple P (run command) (fun _ => R) (fun _ => K))
    (hrest : Meets run R rest Q K) : Meets run P (command.alone :: rest) Q K := by
  refine Meets.of_list hset ?_ hrest
  refine Triple.bind_status (Triple.toStopped hcommand) ?_ ?_
  · exact Triple.pure fun s hs => ⟨hs, fun h => absurd h (by decide)⟩
  · exact Triple.pure fun s hs => ⟨hs, fun _ => rfl⟩

/-- Two commands that end the script.  Where the first one fails, `set -e` does
not see it, but the script has its status. -/
theorem Meets.both {first second : Command}
    (hfirst : Triple P (run first) (fun _ => R) (fun _ => K))
    (hsecond : Triple R (run second) (fun _ => Q) (fun _ => K)) :
    Meets run P [{ first := first, rest := [(.andIf, second)] }] Q K := by
  refine Meets.of_last (setArguments?_of_joined _ _ _) ?_
  refine Triple.bind_status (Triple.toStopped hfirst) ?_ ?_
  · refine Triple.bind_status (Triple.toStopped hsecond) ?_ ?_
    · exact Triple.pure fun s hs => hs
    · exact Triple.pure fun s hs => hs
  · exact Triple.pure fun s hs => hs

end

end Shell

end Foundation
