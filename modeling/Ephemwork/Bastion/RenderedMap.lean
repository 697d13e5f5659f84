import Ephemwork.Bastion.Nginx

/-!
# Rendering is exact and reversible

The text of a rendered configuration is fixed but for the two quoted texts of
each map line, and these are read back as the entries they were rendered from.
-/

namespace Ephemwork

open Foundation

namespace Bastion

/-!
# What stands outside the pairs
-/

/-- A map line without the contents of its quotes. -/
def eraseQuoted (line : List Char) : List Char :=
  match line.splitOn '"' with
  | [before, _, between, _, after] =>
      before ++ '"' :: '"' :: (between ++ '"' :: '"' :: after)
  | _ => line

/-- The lines of a configuration, those of the map block without the contents
of their quotes. -/
def linesOutsidePairs (text : List Char) : List (List Char) :=
  let lines := text.splitOn '\n'
  let beforeMap := lines.takeWhile fun line =>
    decide (line ≠ defaultLine.toList)
  let fromMap := lines.dropWhile fun line =>
    decide (line ≠ defaultLine.toList)
  let mapLines := (fromMap.drop 1).takeWhile fun line =>
    decide (line ≠ ['\x7d'])
  let afterMap := (fromMap.drop 1).dropWhile fun line =>
    decide (line ≠ ['\x7d'])
  beforeMap ++ fromMap.take 1 ++ mapLines.map eraseQuoted ++ afterMap

def emptyMapLine : String := "    \"\" \"\";"

theorem eraseQuoted_mapLine {entry : Key × UInt16} (h : entry.1.Safe) :
    eraseQuoted (mapLine entry).toList = emptyMapLine.toList := by
  simp only [eraseQuoted, splitOn_mapLine h]
  rfl

theorem takeWhile_configText {entries : List (Key × UInt16)}
    (h : forall entry, entry ∈ entries -> entry.1.Safe) :
    ((configText entries).splitOn '\n').takeWhile
        (fun line => decide (line ≠ defaultLine.toList)) =
      configHead.dropLast.map String.toList := by
  rw [splitOn_configText h, List.append_assoc, List.append_assoc,
    List.takeWhile_append_of_pos ne_default_of_mem_head, List.cons_append,
    List.takeWhile_cons_of_neg (by simp), List.append_nil]

theorem linesOutsidePairs_configText {entries : List (Key × UInt16)}
    (h : forall entry, entry ∈ entries -> entry.1.Safe) :
    linesOutsidePairs (configText entries) =
      (configHead ++ (List.replicate entries.length emptyMapLine ++
        configTail)).map String.toList ++ [[]] := by
  have herase : forall entry, entry ∈ entries ->
      (eraseQuoted ∘ fun entry => (mapLine entry).toList) entry =
        emptyMapLine.toList :=
    fun entry hentry => eraseQuoted_mapLine (h entry hentry)
  have hhead : configHead = configHead.dropLast ++ [defaultLine] := rfl
  have htail : configTail = "\x7d" :: configTail.tail := rfl
  have hbrace : "\x7d".toList = ['\x7d'] := rfl
  unfold linesOutsidePairs
  simp only [takeWhile_configText h, dropWhile_configText h, List.drop_one,
    List.tail_cons]
  rw [List.takeWhile_append_of_pos (ne_brace_of_mem_mapLines entries),
    List.dropWhile_append_of_pos (ne_brace_of_mem_mapLines entries),
    List.takeWhile_cons_of_neg (by simp), List.dropWhile_cons_of_neg (by simp),
    List.append_nil, List.map_map, List.map_congr_left herase]
  conv_rhs => rw [hhead, htail]
  simp [hbrace]

/-!
# Reading the entries back
-/

/-- `render_config` renders exactly the lists of safe pairs.  The text of such a
list reads back as its entries in order, has nothing of them outside the pairs
of the map block, and gives different pairs different header keys. -/
theorem rendering_reads_back (entries : List (Key × UInt16)) :
    ((exists text, renderConfig entries = .ok text) <->
      forall entry, entry ∈ entries ->
        isSafeIdentifier entry.1.user = true ∧
          isSafeIdentifier entry.1.service = true) ∧
    forall text, renderConfig entries = .ok text ->
      readMap text.toList = entries.map mapEntry ∧
        linesOutsidePairs text.toList =
          (configHead ++ (List.replicate entries.length emptyMapLine ++
            configTail)).map String.toList ++ [[]] ∧
        forall entry entry', entry ∈ entries -> entry' ∈ entries ->
          mapHeader entry.1 = mapHeader entry'.1 ->
          entry.1.user = entry'.1.user ∧ entry.1.service = entry'.1.service := by
  constructor
  · constructor
    · intro h
      rcases h with ⟨text, htext⟩
      exact ((renderConfig_eq_ok_iff entries text).mp htext).left
    · intro h
      exact ⟨_, renderConfig_of_safe h⟩
  · intro text htext
    rcases (renderConfig_eq_ok_iff entries text).mp htext with ⟨hsafe, rfl⟩
    rw [String.toList_ofList]
    refine ⟨readMap_configText hsafe, linesOutsidePairs_configText hsafe, ?_⟩
    intro entry entry' _ hentry' hheader
    rw [Key.Safe.of_mapHeader_eq (hsafe entry' hentry') hheader]
    exact ⟨rfl, rfl⟩

theorem rendering_reads_back_alice :
    (renderConfig [(⟨"alice", "api"⟩, 10000)]).toOption.map
        (fun text => readMap text.toList) =
      some [("alice:api", "127.0.0.1:10000")] := by
  have h := rendering_reads_back [(⟨"alice", "api"⟩, 10000)]
  rcases h.left.mpr (by decide) with ⟨text, htext⟩
  rw [htext]
  exact congrArg some (h.right text htext).left

end Bastion

end Ephemwork
