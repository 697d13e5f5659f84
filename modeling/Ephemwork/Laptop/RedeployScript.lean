import Ephemwork.Foundation.ShellRuns
import Ephemwork.Laptop.UserData

/-!
# Redeploying the control plane

The script of `redeploy_script` in `src/bastion_provisioner.rs`: it downloads the
program beside the one that is installed, renames it over that one, restarts the
service and asks for its health.
-/

namespace Ephemwork

open Foundation Bastion

namespace Laptop

def redeployLines (s3Uri : String) : List String :=
  ["set -eux",
    "aws s3 cp " ++ s3Uri ++ " /opt/ephemwork/bastion-server.new",
    "chmod 0755 /opt/ephemwork/bastion-server.new",
    "mv /opt/ephemwork/bastion-server.new /opt/ephemwork/bastion-server",
    "systemctl restart ephemwork-bastion.service",
    "sleep 2",
    "systemctl is-active ephemwork-bastion"]

def healthLine : String :=
  "curl -sf http://127.0.0.1:8443/healthz && echo control-plane-ok"

def redeployScript (s3Uri : String) : String :=
  scriptText (redeployLines s3Uri) ++ healthLine

/-!
# Reading the script
-/

def shellCommand (words : List String) : Shell.Command where
  words := words.map String.toList
  output := none
  input := none

def redeployCommands (s3Uri : String) : List Shell.Command :=
  [shellCommand ["aws", "s3", "cp", s3Uri, "/opt/ephemwork/bastion-server.new"],
    shellCommand ["chmod", "0755", "/opt/ephemwork/bastion-server.new"],
    shellCommand
      ["mv", "/opt/ephemwork/bastion-server.new", "/opt/ephemwork/bastion-server"],
    shellCommand ["systemctl", "restart", "ephemwork-bastion.service"],
    shellCommand ["sleep", "2"],
    shellCommand ["systemctl", "is-active", "ephemwork-bastion"]]

def healthList : Shell.CommandList where
  first := shellCommand ["curl", "-sf", "http://127.0.0.1:8443/healthz"]
  rest := [(.andIf, shellCommand ["echo", "control-plane-ok"])]

def redeployLists (s3Uri : String) : List Shell.CommandList :=
  (shellCommand ["set", "-eux"]).alone ::
    ((redeployCommands s3Uri).map Shell.Command.alone ++ [healthList])

theorem readLine_fixed : forall read, read ∈
    [("chmod 0755 /opt/ephemwork/bastion-server.new",
        ["chmod", "0755", "/opt/ephemwork/bastion-server.new"]),
      ("mv /opt/ephemwork/bastion-server.new /opt/ephemwork/bastion-server",
        ["mv", "/opt/ephemwork/bastion-server.new", "/opt/ephemwork/bastion-server"]),
      ("systemctl restart ephemwork-bastion.service",
        ["systemctl", "restart", "ephemwork-bastion.service"]),
      ("sleep 2", ["sleep", "2"]),
      ("systemctl is-active ephemwork-bastion",
        ["systemctl", "is-active", "ephemwork-bastion"]),
      ("set -eux", ["set", "-eux"])] ->
    Shell.readLine read.1.toList = some (some (shellCommand read.2).alone) := by
  intro read hread
  simp only [List.mem_cons, List.not_mem_nil, or_false] at hread
  rcases hread with rfl | rfl | rfl | rfl | rfl | rfl
  all_goals
    simp only [shellCommand, List.map_cons, List.map_nil]
    repeat rw [String.toList_ofList]
    rfl

theorem readLine_download {shown : List Char} {uri path : String}
    (hshown : Shell.scan .gap shown = ([], .bare uri.toList))
    (hpath : Shell.scan .gap path.toList = ([], .bare path.toList)) :
    Shell.readLine ("aws s3 cp ".toList ++ (shown ++ ' ' :: path.toList)) =
      some (some (shellCommand ["aws", "s3", "cp", uri, path]).alone) := by
  have hfront : Shell.scan .gap "aws s3 cp ".toList =
      (["aws", "s3", "cp"].map fun word => Shell.Token.word word.toList, .gap) := by
    simp only [List.map_cons, List.map_nil]
    repeat rw [String.toList_ofList]
    rfl
  have hspace : Shell.stepReading (.bare uri.toList) ' ' = ([.word uri.toList], .gap) :=
    rfl
  have htokens : Shell.tokens ("aws s3 cp ".toList ++ (shown ++ ' ' :: path.toList)) =
      some (["aws", "s3", "cp", uri, path].map fun word => Shell.Token.word word.toList) := by
    rw [Shell.tokens, Shell.scan_append, hfront, Shell.scan_append, hshown,
      Shell.scan_cons, hspace, hpath]
    rfl
  have hname : Shell.isCommandName "aws".toList = true := by
    rw [String.toList_ofList]
    rfl
  rw [Shell.readLine, htokens]
  show (Shell.readList (("aws".toList :: ["s3".toList, "cp".toList, uri.toList,
    path.toList]).map Shell.Token.word)).map some = _
  rw [Shell.readList_words hname]
  rfl

theorem scan_newBinary :
    Shell.scan .gap "/opt/ephemwork/bastion-server.new".toList =
      ([], .bare "/opt/ephemwork/bastion-server.new".toList) := by
  rw [String.toList_ofList]
  rfl

theorem toList_downloadLine (s3Uri : String) :
    ("aws s3 cp " ++ s3Uri ++ " /opt/ephemwork/bastion-server.new").toList =
      "aws s3 cp ".toList ++
        (s3Uri.toList ++ ' ' :: "/opt/ephemwork/bastion-server.new".toList) := by
  have hspace : " /opt/ephemwork/bastion-server.new".toList =
      ' ' :: "/opt/ephemwork/bastion-server.new".toList := by
    repeat rw [String.toList_ofList]
  rw [String.toList_append, String.toList_append, hspace, List.append_assoc]

theorem isPlain_redeployLine {s3Uri : String} (h : Shell.IsBare s3Uri.toList)
    {line : HereDocument.Line} (hline : line ∈ (redeployLines s3Uri).map String.toList) :
    IsPlain line := by
  simp only [redeployLines, List.map_cons, List.map_nil, List.mem_cons, List.not_mem_nil,
    or_false] at hline
  have hcopy : IsPlain
      ("aws s3 cp " ++ s3Uri ++ " /opt/ephemwork/bastion-server.new").toList := by
    have hend : "/opt/ephemwork/bastion-server.new".toList =
        "/opt/ephemwork/bastion-server.ne".toList ++ ['w'] := by
      repeat rw [String.toList_ofList]
      decide
    have hbreak : '\n' ∉ s3Uri.toList := fun hmem =>
      absurd (h.plain '\n' hmem) (by decide)
    rw [toList_downloadLine, hend, ← List.cons_append, ← List.append_assoc,
      ← List.append_assoc]
    refine ⟨?_, HereDocument.quotedDelimiter?_append_of_ne (by decide) _⟩
    simp [hbreak]
  rcases hline with rfl | rfl | rfl | rfl | rfl | rfl | rfl
  any_goals
    rw [String.toList_ofList]
    exact ⟨by decide, rfl⟩
  exact hcopy

theorem readLine_redeploy {s3Uri : String} (h : Shell.IsBare s3Uri.toList) :
    ((redeployLines s3Uri).map String.toList).map Shell.readLine =
      ((shellCommand ["set", "-eux"] :: redeployCommands s3Uri).map
        Shell.Command.alone).map fun list => some (some list) := by
  have hfixed := readLine_fixed
  simp only [List.forall_mem_cons] at hfixed
  rcases hfixed with ⟨hmode, hmove, hrestart, hsleep, hactive, hset, _⟩
  simp only [redeployLines, redeployCommands, List.map_cons, List.map_nil, hmode, hmove,
    hrestart, hsleep, hactive, hset, toList_downloadLine,
    readLine_download h.scan scan_newBinary]

theorem readLine_health :
    Shell.readLine healthLine.toList = some (some healthList) := by
  simp only [healthLine, healthList, shellCommand, List.map_cons, List.map_nil]
  repeat rw [String.toList_ofList]
  rfl

theorem readScript_redeploy {s3Uri : String} (h : Shell.IsBare s3Uri.toList) :
    Shell.readScript (redeployScript s3Uri).toList = some (redeployLists s3Uri) := by
  have hplain := fun line => @isPlain_redeployLine s3Uri h line
  have hlast : HereDocument.read (healthLine.toList.splitOn '\n') =
      [.command healthLine.toList] := by
    rw [healthLine, String.toList_ofList]
    rfl
  have hitems : HereDocument.read ((redeployScript s3Uri).toList.splitOn '\n') =
      ((redeployLines s3Uri).map String.toList ++ [healthLine.toList]).map
        HereDocument.Item.command := by
    rw [redeployScript, String.toList_append, toList_scriptText,
      Text.splitOn_unlines_append fun line hline => (hplain line hline).1,
      HereDocument.read_commands_append fun line hline => (hplain line hline).2, hlast,
      List.map_append]
    rfl
  rw [Shell.readScript, hitems]
  apply Shell.readItems_commands
  rw [List.map_append, readLine_redeploy h, List.map_singleton, readLine_health,
    redeployLists, ← List.cons_append, List.map_append]
  rfl

end Laptop

end Ephemwork
