import Mathlib.Data.List.TakeWhile

/-!
# Text operations

The string operations of a standard library that works on Unicode scalar
values, over lists of characters: white space, trimming, and splitting at the
first occurrence of a separator.
-/

namespace Foundation

namespace Text

/-!
# White space
-/

def isWhitespace (c : Char) : Bool :=
  let n := c.toNat
  (9 ≤ n && n ≤ 13) || n == 0x20 || n == 0x85 || n == 0xA0 || n == 0x1680 ||
    (0x2000 ≤ n && n ≤ 0x200A) || n == 0x2028 || n == 0x2029 || n == 0x202F ||
    n == 0x205F || n == 0x3000

theorem isWhitespace_of_isDigit {c : Char} (h : c.isDigit = true) :
    isWhitespace c = false := by
  simp only [Char.isDigit, Bool.and_eq_true, decide_eq_true_eq, ge_iff_le,
    UInt32.le_iff_toNat_le] at h
  have hlow : 48 ≤ c.toNat := h.left
  have hhigh : c.toNat ≤ 57 := h.right
  cases hspace : isWhitespace c with
  | false => rfl
  | true =>
      simp only [isWhitespace, Bool.or_eq_true, Bool.and_eq_true,
        decide_eq_true_eq, beq_iff_eq] at hspace
      omega

theorem not_whitespace_of_check {s : List Char}
    (h : s.any isWhitespace = false) :
    forall c, c ∈ s -> isWhitespace c = false := by
  intro c hc
  exact Bool.eq_false_iff.mpr (List.any_eq_false.mp h c hc)

def trimStart (s : List Char) : List Char :=
  s.dropWhile isWhitespace

def trimEnd (s : List Char) : List Char :=
  (trimStart s.reverse).reverse

def trim (s : List Char) : List Char :=
  trimEnd (trimStart s)

theorem trimStart_append_of_all {pad : List Char}
    (hpad : forall c, c ∈ pad -> isWhitespace c = true) (s : List Char) :
    trimStart (pad ++ s) = trimStart s := by
  induction pad with
  | nil => rfl
  | cons c rest ih =>
      have hc : isWhitespace c = true := hpad c (by simp)
      have hrest : forall d, d ∈ rest -> isWhitespace d = true :=
        fun d hd => hpad d (by simp [hd])
      simpa [trimStart, hc] using ih hrest

theorem trimEnd_append_of_all {pad : List Char}
    (hpad : forall c, c ∈ pad -> isWhitespace c = true) (s : List Char) :
    trimEnd (s ++ pad) = trimEnd s := by
  unfold trimEnd
  rw [List.reverse_append, trimStart_append_of_all]
  intro c hc
  exact hpad c (List.mem_reverse.mp hc)

theorem trimStart_of_head {c : Char} (hc : isWhitespace c = false)
    (s : List Char) : trimStart (c :: s) = c :: s := by
  simp [trimStart, hc]

theorem trimEnd_of_last {c : Char} (hc : isWhitespace c = false)
    (s : List Char) : trimEnd (s ++ [c]) = s ++ [c] := by
  simp [trimEnd, trimStart, hc]

theorem exists_pad_trimStart (s : List Char) :
    exists pad, (forall c, c ∈ pad -> isWhitespace c = true) ∧
      s = pad ++ trimStart s := by
  refine ⟨s.takeWhile isWhitespace, ?_, ?_⟩
  · intro c hc
    exact List.mem_takeWhile_imp hc
  · exact (List.takeWhile_append_dropWhile).symm

theorem exists_pad_trimEnd (s : List Char) :
    exists pad, (forall c, c ∈ pad -> isWhitespace c = true) ∧
      s = trimEnd s ++ pad := by
  rcases exists_pad_trimStart s.reverse with ⟨pad, hpad, hs⟩
  refine ⟨pad.reverse, ?_, ?_⟩
  · intro c hc
    exact hpad c (List.mem_reverse.mp hc)
  · have h := congrArg List.reverse hs
    simpa [trimEnd] using h

theorem exists_pads_trim (s : List Char) :
    exists before after,
      (forall c, c ∈ before -> isWhitespace c = true) ∧
      (forall c, c ∈ after -> isWhitespace c = true) ∧
      s = before ++ (trim s ++ after) := by
  rcases exists_pad_trimStart s with ⟨before, hbefore, hs⟩
  rcases exists_pad_trimEnd (trimStart s) with ⟨after, hafter, htrim⟩
  refine ⟨before, after, hbefore, hafter, ?_⟩
  exact hs.trans (congrArg (before ++ ·) htrim)

theorem trim_of_all {s : List Char}
    (h : forall c, c ∈ s -> isWhitespace c = true) : trim s = [] := by
  have hstart : trimStart s = [] := by
    simpa [trimStart] using trimStart_append_of_all h []
  rw [trim, hstart]
  rfl

theorem trim_append_of_all {pad : List Char}
    (hpad : forall c, c ∈ pad -> isWhitespace c = true) (s : List Char) :
    trim (s ++ pad) = trim s := by
  unfold trim trimStart
  rw [List.dropWhile_append]
  split
  · next hall =>
      have hnone : pad.dropWhile isWhitespace = [] := List.dropWhile_eq_nil_iff.mpr hpad
      rw [hnone, List.isEmpty_iff.mp hall]
  · exact trimEnd_append_of_all hpad _

theorem trim_eq_self_of_none {s : List Char}
    (h : forall c, c ∈ s -> isWhitespace c = false) : trim s = s := by
  cases s with
  | nil => rfl
  | cons c rest =>
      unfold trim
      rw [trimStart_of_head (h c (by simp))]
      rcases List.eq_nil_or_concat (c :: rest) with hnil | ⟨front, last, hlast⟩
      · cases hnil
      · rw [List.concat_eq_append] at hlast
        rw [hlast]
        apply trimEnd_of_last
        apply h
        rw [hlast]
        simp

theorem trim_pads_of_none {before core after : List Char}
    (hbefore : forall c, c ∈ before -> isWhitespace c = true)
    (hafter : forall c, c ∈ after -> isWhitespace c = true)
    (hcore : forall c, c ∈ core -> isWhitespace c = false) :
    trim (before ++ (core ++ after)) = core := by
  unfold trim
  rw [trimStart_append_of_all hbefore]
  cases core with
  | nil =>
      simpa [trim] using trim_of_all hafter
  | cons c rest =>
      have hself := trim_eq_self_of_none hcore
      rw [List.cons_append, trimStart_of_head (hcore c (by simp)),
        ← List.cons_append, trimEnd_append_of_all hafter]
      rw [trim, trimStart_of_head (hcore c (by simp))] at hself
      exact hself

def isBlank (s : List Char) : Bool :=
  (trim s).isEmpty

theorem isBlank_eq_true_iff (s : List Char) :
    isBlank s = true <-> forall c, c ∈ s -> isWhitespace c = true := by
  constructor
  · intro h
    rcases exists_pads_trim s with ⟨before, after, hbefore, hafter, hs⟩
    have hnil : trim s = [] := List.isEmpty_iff.mp h
    rw [hnil, List.nil_append] at hs
    intro c hc
    rw [hs] at hc
    rcases List.mem_append.mp hc with hc | hc
    · exact hbefore c hc
    · exact hafter c hc
  · intro h
    simp [isBlank, trim_of_all h]

theorem trim_ne_nil_iff (s : List Char) :
    trim s ≠ [] <-> exists c, c ∈ s ∧ isWhitespace c = false := by
  have hnil : trim s = [] <-> isBlank s = true := List.isEmpty_iff.symm
  rw [Ne, hnil, not_congr (isBlank_eq_true_iff s)]
  simp

/-!
# Splitting at the first separator
-/

def splitOnce (sep : Char) : List Char -> Option (List Char × List Char)
  | [] => none
  | c :: rest =>
      if c = sep then
        some ([], rest)
      else
        (splitOnce sep rest).map fun parts => (c :: parts.1, parts.2)

theorem splitOnce_append {sep : Char} {left : List Char} (h : sep ∉ left)
    (right : List Char) :
    splitOnce sep (left ++ sep :: right) = some (left, right) := by
  induction left with
  | nil => simp [splitOnce]
  | cons c rest ih =>
      have hc : c ≠ sep := fun hc => h (by simp [hc])
      have hrest : sep ∉ rest := fun hrest => h (by simp [hrest])
      simp [splitOnce, hc, ih hrest]

theorem splitOnce_eq_none_iff (sep : Char) (s : List Char) :
    splitOnce sep s = none <-> sep ∉ s := by
  induction s with
  | nil => simp [splitOnce]
  | cons c rest ih =>
      by_cases hc : c = sep
      · simp [splitOnce, hc]
      · have hc' : ¬ sep = c := fun h => hc h.symm
        simp [splitOnce, hc, hc', ih]

theorem exists_eq_append_of_mem {sep : Char} {s : List Char} (h : sep ∈ s) :
    exists left right, sep ∉ left ∧ s = left ++ sep :: right := by
  induction s with
  | nil => cases h
  | cons c rest ih =>
      by_cases hc : c = sep
      · exact ⟨[], rest, by simp, by simp [hc]⟩
      · have hrest : sep ∈ rest := by
          rcases List.mem_cons.mp h with heq | hmem
          · exact absurd heq.symm hc
          · exact hmem
        rcases ih hrest with ⟨left, right, hleft, hs⟩
        refine ⟨c :: left, right, ?_, by simp [hs]⟩
        intro hmem
        rcases List.mem_cons.mp hmem with heq | hmem
        · exact hc heq.symm
        · exact hleft hmem

theorem append_cons_inj {sep : Char} {left right left' right' : List Char}
    (hleft : sep ∉ left) (hleft' : sep ∉ left')
    (h : left ++ sep :: right = left' ++ sep :: right') :
    left = left' ∧ right = right' := by
  have hsplit := splitOnce_append hleft right
  rw [h, splitOnce_append hleft' right'] at hsplit
  cases hsplit
  exact ⟨rfl, rfl⟩

/-!
# Splitting at every separator
-/

theorem not_mem_of_mem_splitOn {sep : Char} {s part : List Char}
    (h : part ∈ s.splitOn sep) : sep ∉ part := by
  induction s generalizing part with
  | nil =>
      rw [List.splitOn_nil, List.mem_singleton] at h
      rw [h]
      exact List.not_mem_nil
  | cons c rest ih =>
      rw [List.splitOn_cons_eq_if_modifyHead] at h
      by_cases hc : c = sep
      · rw [if_pos (beq_iff_eq.mpr hc)] at h
        rcases List.mem_cons.mp h with hnil | hmem
        · rw [hnil]
          exact List.not_mem_nil
        · exact ih hmem
      · rw [if_neg (fun heq => hc (beq_iff_eq.mp heq))] at h
        cases hparts : rest.splitOn sep with
        | nil => exact absurd hparts (List.splitOn_ne_nil sep rest)
        | cons first others =>
            rw [hparts, List.modifyHead_cons] at h
            rcases List.mem_cons.mp h with heq | hmem
            · have hfirst : sep ∉ first := ih (by rw [hparts]; simp)
              rw [heq]
              intro hsep
              rcases List.mem_cons.mp hsep with hhead | htail
              · exact hc hhead.symm
              · exact hfirst htail
            · exact ih (by rw [hparts]; exact List.mem_cons_of_mem _ hmem)

theorem splitOn_eq_iff {sep : Char} {s : List Char} {parts : List (List Char)}
    (hne : parts ≠ []) :
    s.splitOn sep = parts <->
      (forall part, part ∈ parts -> sep ∉ part) ∧ [sep].intercalate parts = s := by
  constructor
  · intro h
    refine ⟨fun part hpart => not_mem_of_mem_splitOn (by rw [h]; exact hpart), ?_⟩
    rw [← h]
    exact List.intercalate_splitOn sep
  · intro h
    rw [← h.2]
    exact List.splitOn_intercalate sep h.1 hne

/-!
# Lines
-/

def unlines (lines : List (List Char)) : List Char :=
  lines.flatMap fun line => line ++ ['\n']

theorem splitOn_unlines_append {lines : List (List Char)}
    (h : forall line, line ∈ lines -> '\n' ∉ line) (rest : List Char) :
    (unlines lines ++ rest).splitOn '\n' = lines ++ rest.splitOn '\n' := by
  induction lines with
  | nil => rfl
  | cons line more ih =>
      have hline : '\n' ∉ line := h line (by simp)
      have hmore : forall l, l ∈ more -> '\n' ∉ l :=
        fun l hl => h l (by simp [hl])
      have hunfold : unlines (line :: more) ++ rest =
          line ++ '\n' :: (unlines more ++ rest) := by
        simp [unlines]
      rw [hunfold, List.splitOn_append_cons_self_of_not_mem hline, ih hmore]
      rfl

theorem splitOn_unlines {lines : List (List Char)}
    (h : forall line, line ∈ lines -> '\n' ∉ line) :
    (unlines lines).splitOn '\n' = lines ++ [[]] := by
  have hsplit := splitOn_unlines_append h []
  rw [List.append_nil] at hsplit
  exact hsplit

/-!
# Words
-/

def words (s : List Char) : List (List Char) :=
  (s.splitOnP isWhitespace).filter fun word => decide (word ≠ [])

theorem words_append {word : List Char} (hne : word ≠ [])
    (hword : forall c, c ∈ word -> isWhitespace c = false) {c : Char}
    (hc : isWhitespace c = true) (rest : List Char) :
    words (word ++ c :: rest) = word :: words rest := by
  unfold words
  rw [List.splitOnP_append_cons_of_forall_mem hword c hc,
    List.filter_cons_of_pos (by simpa using hne)]

theorem words_of_none {word : List Char} (hne : word ≠ [])
    (hword : forall c, c ∈ word -> isWhitespace c = false) :
    words word = [word] := by
  unfold words
  rw [List.splitOnP_eq_singleton hword,
    List.filter_cons_of_pos (by simpa using hne)]
  rfl

end Text

end Foundation
