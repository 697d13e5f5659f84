import Ephemwork.Foundation.HereDocument
import Ephemwork.Laptop.LaunchPlan

/-!
# The user-data script as the shell reads it

The script of `src/bastion_provisioner.rs` writes the developer's key through a
here-document, and runs as root.  The key stays in its document unless one of
its own lines is the delimiter.
-/

namespace Ephemwork

open Foundation

namespace Laptop

/-!
# Lines of the script
-/

def scriptLines (script : List Char) : List HereDocument.Line :=
  script.splitOn '\n'

def keyLines (key : String) : List HereDocument.Line :=
  (Text.trim key.toList).splitOn '\n'

def authorizedKeysLine : String :=
  "cat > /home/ec2-user/.ssh/authorized_keys <<'KEY'"

def linesBeforeKey : List String :=
  ["", "# Authorize the developer's SSH public key for ec2-user.",
   "install -d -m 700 -o ec2-user -g ec2-user /home/ec2-user/.ssh"]

def linesAfterKey : List String :=
  ["chown ec2-user:ec2-user /home/ec2-user/.ssh/authorized_keys",
   "chmod 600 /home/ec2-user/.ssh/authorized_keys"]

/-- A line with no line break in it that opens no document. -/
def IsPlain (line : HereDocument.Line) : Prop :=
  '\n' ∉ line ∧ HereDocument.quotedDelimiter? line = none

instance (line : HereDocument.Line) : Decidable (IsPlain line) :=
  inferInstanceAs (Decidable (_ ∧ _))

theorem isPlain_fixed : forall line,
    line ∈ (linesBeforeKey ++ linesAfterKey).map String.toList -> IsPlain line := by
  intro line hline
  simp only [linesBeforeKey, linesAfterKey, List.cons_append, List.nil_append,
    List.map_cons, List.map_nil, List.mem_cons, List.not_mem_nil, or_false] at hline
  rcases hline with hline | hline | hline | hline | hline
  all_goals
    rw [hline, String.toList_ofList]
    decide +kernel

theorem isPlain_beforeKey {line : HereDocument.Line}
    (h : line ∈ linesBeforeKey.map String.toList) : IsPlain line :=
  isPlain_fixed line (by rw [List.map_append]; exact List.mem_append_left _ h)

theorem isPlain_afterKey {line : HereDocument.Line}
    (h : line ∈ linesAfterKey.map String.toList) : IsPlain line :=
  isPlain_fixed line (by rw [List.map_append]; exact List.mem_append_right _ h)

theorem toList_scriptText (lines : List String) :
    (scriptText lines).toList = Text.unlines (lines.map String.toList) := by
  simp [scriptText, Text.unlines, String.toList_join, List.flatMap_map]

theorem toList_sshBlock (key : String) :
    (sshBlock (some key)).toList =
      Text.unlines ((linesBeforeKey ++ [authorizedKeysLine]).map String.toList) ++
        (Text.trim key.toList ++
          '\n' :: Text.unlines (("KEY" :: linesAfterKey).map String.toList)) := by
  rw [sshBlock, toList_scriptText]
  simp [-String.reduceToList, Text.unlines, linesBeforeKey, linesAfterKey,
    authorizedKeysLine]

def keyCommands : List HereDocument.Line :=
  (linesBeforeKey ++ [authorizedKeysLine] ++ linesAfterKey).map String.toList ++
    HereDocument.commands (HereDocument.read (scriptLines scriptTail.toList))

theorem scriptLines_block (key : String) :
    scriptLines ((sshBlock (some key)).toList ++ scriptTail.toList) =
      linesBeforeKey.map String.toList ++ authorizedKeysLine.toList ::
        (keyLines key ++ "KEY".toList ::
          (linesAfterKey.map String.toList ++ scriptLines scriptTail.toList)) := by
  have hbefore : forall line,
      line ∈ (linesBeforeKey ++ [authorizedKeysLine]).map String.toList ->
        '\n' ∉ line := by
    intro line hline
    rw [List.map_append] at hline
    rcases List.mem_append.mp hline with hline | hline
    · exact (isPlain_beforeKey hline).1
    · rw [List.map_singleton, List.mem_singleton] at hline
      rw [hline, authorizedKeysLine, String.toList_ofList]
      decide
  have hafter : forall line,
      line ∈ ("KEY" :: linesAfterKey).map String.toList -> '\n' ∉ line := by
    intro line hline
    rcases List.mem_cons.mp hline with hline | hline
    · rw [hline]
      decide
    · exact (isPlain_afterKey hline).1
  rw [toList_sshBlock, List.append_assoc, List.append_assoc, List.cons_append,
    scriptLines, Text.splitOn_unlines_append hbefore, List.splitOn_append_cons_self,
    Text.splitOn_unlines_append hafter]
  simp [keyLines, scriptLines]

/-!
# The key in its document
-/

theorem read_linesBeforeKey (rest : List HereDocument.Line) :
    HereDocument.read (linesBeforeKey.map String.toList ++
        authorizedKeysLine.toList :: rest) =
      (linesBeforeKey.map String.toList).map HereDocument.Item.command ++
        HereDocument.scan (some ⟨authorizedKeysLine.toList, "KEY".toList, []⟩) rest := by
  have hopener : HereDocument.quotedDelimiter? authorizedKeysLine.toList =
      some "KEY".toList := by
    rw [authorizedKeysLine, String.toList_ofList]
    decide
  rw [HereDocument.read_commands_append fun line hline => (isPlain_beforeKey hline).2,
    HereDocument.read_cons_of_some hopener]

/-- The document of the key holds what comes before the first line that is the
delimiter. -/
theorem exists_read_block (key : String) :
    exists tail,
      HereDocument.read
          (scriptLines ((sshBlock (some key)).toList ++ scriptTail.toList)) =
        (linesBeforeKey.map String.toList).map HereDocument.Item.command ++
          .document authorizedKeysLine.toList
            ((keyLines key).takeWhile fun line => decide (line ≠ "KEY".toList)) ::
              tail := by
  rw [scriptLines_block, read_linesBeforeKey]
  exact ⟨_, congrArg _ (HereDocument.scan_open
    ⟨authorizedKeysLine.toList, "KEY".toList, []⟩ (keyLines key) _)⟩

theorem read_block_of_not_mem {key : String} (h : "KEY".toList ∉ keyLines key) :
    HereDocument.read
        (scriptLines ((sshBlock (some key)).toList ++ scriptTail.toList)) =
      (linesBeforeKey.map String.toList).map HereDocument.Item.command ++
        .document authorizedKeysLine.toList (keyLines key) ::
          ((linesAfterKey.map String.toList).map HereDocument.Item.command ++
            HereDocument.read (scriptLines scriptTail.toList)) := by
  have hscan := HereDocument.scan_open_of_not_mem
    ⟨authorizedKeysLine.toList, "KEY".toList, []⟩ h
    (linesAfterKey.map String.toList ++ scriptLines scriptTail.toList)
  rw [HereDocument.read_commands_append fun line hline =>
    (isPlain_afterKey hline).2] at hscan
  rw [scriptLines_block, read_linesBeforeKey]
  exact congrArg _ hscan

/-- The document holds exactly the trimmed key, and what is run does not depend
on it. -/
structure KeyIsData (key : String) (front : List HereDocument.Line)
    (items : List HereDocument.Item) : Prop where
  document : exists body,
    HereDocument.bodyOf authorizedKeysLine.toList items = some body ∧
      ['\n'].intercalate body = Text.trim key.toList
  commands : HereDocument.commands items = front ++ keyCommands

theorem eq_keyLines_of_intercalate {key : String} {body : List HereDocument.Line}
    (hbody : body = (keyLines key).takeWhile fun line => decide (line ≠ "KEY".toList))
    (h : ['\n'].intercalate body = Text.trim key.toList) : body = keyLines key := by
  have hlines : forall line, line ∈ body -> '\n' ∉ line := by
    intro line hline
    rw [hbody] at hline
    exact Text.not_mem_of_mem_splitOn ((List.takeWhile_sublist _).mem hline)
  cases hcases : body with
  | nil =>
      rw [hcases] at h
      have hkey : keyLines key = [[]] := by
        rw [keyLines, ← h]
        rfl
      rw [hcases, hkey] at hbody
      cases hbody
  | cons line rest =>
      have hne : body ≠ [] := by
        rw [hcases]
        exact List.cons_ne_nil line rest
      rw [← hcases, keyLines, ← h, List.splitOn_intercalate '\n' hlines hne]

theorem keyIsData_iff (key : String) (front : List HereDocument.Line) :
    KeyIsData key front (front.map HereDocument.Item.command ++
      HereDocument.read
        (scriptLines ((sshBlock (some key)).toList ++ scriptTail.toList))) <->
      "KEY".toList ∉ keyLines key := by
  constructor
  · intro h hmem
    rcases exists_read_block key with ⟨tail, hread⟩
    rcases h.document with ⟨body, hbody, hkey⟩
    rw [hread, HereDocument.bodyOf_document] at hbody
    have heq := eq_keyLines_of_intercalate (Option.some.inj hbody).symm hkey
    rw [← Option.some.inj hbody] at heq
    exact HereDocument.takeWhile_ne_of_mem hmem heq
  · intro hnot
    rw [read_block_of_not_mem hnot]
    refine ⟨⟨keyLines key, ?_, List.intercalate_splitOn '\n'⟩, ?_⟩
    · exact HereDocument.bodyOf_document _ front _ _ _
    · simp only [HereDocument.commands_append, HereDocument.commands_map_command,
        HereDocument.commands_document, keyCommands, List.map_append, List.map_cons,
        List.append_assoc, List.cons_append, List.nil_append]

/-!
# The whole script
-/

def headLines (s3Uri : String) : List HereDocument.Line :=
  (scriptLines (scriptHead s3Uri).toList).dropLast

theorem isPlain_copyLine {s3Uri : String} (h : '\n' ∉ s3Uri.toList) :
    IsPlain ("aws s3 cp \"" ++ s3Uri ++ "\" /opt/ephemwork/bastion-server").toList := by
  have hline : ("aws s3 cp \"" ++ s3Uri ++ "\" /opt/ephemwork/bastion-server").toList =
      ("aws s3 cp \"".toList ++ (s3Uri.toList ++
        "\" /opt/ephemwork/bastion-serve".toList)) ++ ['r'] := by
    simp
  rw [hline]
  refine ⟨?_, HereDocument.quotedDelimiter?_append_of_ne (by decide) _⟩
  simp [h]

theorem exists_headLines {s3Uri : String} (h : '\n' ∉ s3Uri.toList) :
    exists lines, (scriptHead s3Uri).toList = Text.unlines lines ∧
      forall line, line ∈ lines -> IsPlain line := by
  refine ⟨_, by rw [scriptHead, toList_scriptText], ?_⟩
  intro line hline
  simp only [List.map_cons, List.map_nil, List.mem_cons, List.not_mem_nil,
    or_false] at hline
  rcases hline with hline | hline | hline | hline | hline | hline | hline | hline |
    hline | hline | hline | hline | hline | hline
  any_goals
    rw [hline, String.toList_ofList]
    decide +kernel
  rw [hline]
  exact isPlain_copyLine h

theorem headLines_eq {s3Uri : String} (h : '\n' ∉ s3Uri.toList) :
    (scriptHead s3Uri).toList = Text.unlines (headLines s3Uri) ∧
      forall line, line ∈ headLines s3Uri -> IsPlain line := by
  rcases exists_headLines h with ⟨lines, hhead, hlines⟩
  have heq : headLines s3Uri = lines := by
    rw [headLines, hhead, scriptLines,
      Text.splitOn_unlines fun line hline => (hlines line hline).1, List.dropLast_concat]
  rw [heq]
  exact ⟨hhead, hlines⟩

theorem read_script {s3Uri : String} (h : '\n' ∉ s3Uri.toList) (rest : List Char) :
    HereDocument.read (scriptLines ((scriptHead s3Uri).toList ++ rest)) =
      (headLines s3Uri).map HereDocument.Item.command ++
        HereDocument.read (scriptLines rest) := by
  rcases headLines_eq h with ⟨hhead, hlines⟩
  rw [hhead, scriptLines,
    Text.splitOn_unlines_append fun line hline => (hlines line hline).1,
    HereDocument.read_commands_append fun line hline => (hlines line hline).2]
  rfl

theorem toList_of_userDataScript {s3Uri key script : String}
    (h : userDataScript s3Uri (some key) = .ok script) :
    script.toList = (scriptHead s3Uri).toList ++
      ((sshBlock (some key)).toList ++ scriptTail.toList) := by
  rw [userDataScript] at h
  split at h
  · cases h
  · split at h
    · cases h
    · cases h
      rw [String.toList_append, String.toList_append, List.append_assoc]

/-- The key stays in its document exactly if none of its lines is the
delimiter, read behind the head for any URI, and from the top for a URI of one
line. -/
theorem userDataScript_key_iff {s3Uri key script : String}
    (h : userDataScript s3Uri (some key) = .ok script) :
    exists rest, script.toList = (scriptHead s3Uri).toList ++ rest ∧
      (KeyIsData key [] (HereDocument.read (scriptLines rest)) <->
        "KEY".toList ∉ keyLines key) ∧
      ('\n' ∉ s3Uri.toList ->
        (KeyIsData key (headLines s3Uri)
            (HereDocument.read (scriptLines script.toList)) <->
          "KEY".toList ∉ keyLines key)) := by
  have hscript := toList_of_userDataScript h
  have hrest := keyIsData_iff key []
  rw [List.map_nil, List.nil_append] at hrest
  refine ⟨_, hscript, hrest, fun hline => ?_⟩
  rw [hscript, read_script hline]
  exact keyIsData_iff key (headLines s3Uri)

theorem userDataScript_eq_ok {s3Uri key : String}
    (huri : "s3://".toList.isPrefixOf s3Uri.toList = true)
    (hkey : isSshPublicKey key = true) :
    userDataScript s3Uri (some key) =
      .ok (scriptHead s3Uri ++ sshBlock (some key) ++ scriptTail) := by
  rw [userDataScript, huri, Option.any_some, hkey]
  rfl

theorem userDataScript_key_iff_laptop :
    exists script,
      userDataScript "s3://b/b" (some " ssh-rsa AAAAB3NzaC1yc2E foo@bar \n") =
        .ok script ∧
      KeyIsData " ssh-rsa AAAAB3NzaC1yc2E foo@bar \n" (headLines "s3://b/b")
        (HereDocument.read (scriptLines script.toList)) := by
  have hscript := userDataScript_eq_ok
    (show "s3://".toList.isPrefixOf "s3://b/b".toList = true by decide)
    (show isSshPublicKey " ssh-rsa AAAAB3NzaC1yc2E foo@bar \n" = true by decide +kernel)
  rcases userDataScript_key_iff hscript with ⟨rest, _, _, hwhole⟩
  exact ⟨_, hscript, (hwhole (by decide)).mpr (by decide +kernel)⟩

/-- A key with the delimiter among its lines: the line behind it is run. -/
theorem userDataScript_runs_key_line :
    exists script,
      userDataScript "s3://b/b" (some "ssh-ed25519 AAAA\nKEY\nreboot") = .ok script ∧
      HereDocument.bodyOf authorizedKeysLine.toList
          (HereDocument.read (scriptLines script.toList)) =
        some ["ssh-ed25519 AAAA".toList] ∧
      ['\n'].intercalate ["ssh-ed25519 AAAA".toList] ≠
        Text.trim "ssh-ed25519 AAAA\nKEY\nreboot".toList ∧
      "reboot".toList ∈ HereDocument.commands
        (HereDocument.read (scriptLines script.toList)) := by
  have hscript := userDataScript_eq_ok
    (show "s3://".toList.isPrefixOf "s3://b/b".toList = true by decide)
    (show isSshPublicKey "ssh-ed25519 AAAA\nKEY\nreboot" = true by decide +kernel)
  have hlines : keyLines "ssh-ed25519 AAAA\nKEY\nreboot" =
      ["ssh-ed25519 AAAA".toList, "KEY".toList, "reboot".toList] := by
    decide +kernel
  refine ⟨_, hscript, ?_⟩
  have hfirst : "KEY".toList ∉ ["ssh-ed25519 AAAA".toList] := by decide
  have hreboot : HereDocument.quotedDelimiter? "reboot".toList = none := by decide
  have hscan := HereDocument.scan_open_of_not_mem
    ⟨authorizedKeysLine.toList, "KEY".toList, []⟩ hfirst
    ("reboot".toList :: "KEY".toList ::
      (linesAfterKey.map String.toList ++ scriptLines scriptTail.toList))
  rw [HereDocument.read_cons_of_none hreboot] at hscan
  rw [toList_of_userDataScript hscript, read_script (by decide), scriptLines_block,
    read_linesBeforeKey, hlines, List.cons_append, List.cons_append, List.cons_append,
    List.nil_append]
  rw [List.singleton_append] at hscan
  rw [hscan, HereDocument.bodyOf_document]
  refine ⟨rfl, by decide +kernel, ?_⟩
  simp only [HereDocument.commands_append, HereDocument.commands_document,
    List.mem_append]
  exact Or.inr (Or.inr (List.mem_cons_of_mem _ List.mem_cons_self))

end Laptop

end Ephemwork
