import Ephemwork.Foundation.Bytes

/-!
# Message heads

A head is a list of lines joined by CRLF and closed by an empty line.  The
module locates the end of the head in a byte string, whatever follows it or is
missing, and reads the lines back.
-/

namespace Foundation

namespace MessageHead

def crlf : List Char := ['\r', '\n']

def crlfCrlf : Bytes := [13, 10, 13, 10]

def lfLf : Bytes := [10, 10]

/-- A line that is not empty and has no line break inside. -/
structure IsLine (line : List Char) : Prop where
  ne_nil : line ≠ []
  cr_notMem : '\r' ∉ line
  lf_notMem : '\n' ∉ line

structure OneLine (s : List Char) : Prop where
  cr_notMem : '\r' ∉ s
  lf_notMem : '\n' ∉ s

theorem OneLine.append {s t : List Char} (hs : OneLine s) (ht : OneLine t) :
    OneLine (s ++ t) where
  cr_notMem := by simp [hs.cr_notMem, ht.cr_notMem]
  lf_notMem := by simp [hs.lf_notMem, ht.lf_notMem]

theorem IsLine.append {line s : List Char} (hline : IsLine line)
    (hs : OneLine s) : IsLine (line ++ s) where
  ne_nil := by simp [hline.ne_nil]
  cr_notMem := by simp [hline.cr_notMem, hs.cr_notMem]
  lf_notMem := by simp [hline.lf_notMem, hs.lf_notMem]

def endsLine (c : Char) : Bool :=
  c == '\r' || c == '\n'

theorem OneLine.of_check {s : List Char} (h : s.any endsLine = false) :
    OneLine s where
  cr_notMem := fun hmem => List.any_eq_false.mp h _ hmem rfl
  lf_notMem := fun hmem => List.any_eq_false.mp h _ hmem rfl

theorem IsLine.of_check {line : List Char}
    (h : (line.isEmpty || line.any endsLine) = false) : IsLine line := by
  rcases Bool.or_eq_false_iff.mp h with ⟨hne, hline⟩
  have hone := OneLine.of_check hline
  refine ⟨?_, hone.cr_notMem, hone.lf_notMem⟩
  intro hnil
  rw [hnil] at hne
  cases hne

def join (lines : List (List Char)) : List Char :=
  crlf.intercalate lines

def render (lines : List (List Char)) : Bytes :=
  Bytes.ofText (join lines) ++ crlfCrlf

theorem ofText_crlf : Bytes.ofText crlf = [13, 10] := by decide

theorem join_cons_cons (line next : List Char) (rest : List (List Char)) :
    join (line :: next :: rest) = line ++ crlf ++ join (next :: rest) := by
  simp [join, List.intercalate_cons_cons]

namespace IsLine

variable {line : List Char}

theorem notMem_13 (h : IsLine line) : (13 : UInt8) ∉ Bytes.ofText line :=
  Bytes.notMem_ofText (by decide) (by decide) h.cr_notMem

theorem notMem_10 (h : IsLine line) : (10 : UInt8) ∉ Bytes.ofText line :=
  Bytes.notMem_ofText (by decide) (by decide) h.lf_notMem

theorem lf_notMem_append_cr (h : IsLine line) : '\n' ∉ line ++ ['\r'] := by
  intro hmem
  rcases List.mem_append.mp hmem with hmem | hmem
  · exact h.lf_notMem hmem
  · revert hmem
    decide

theorem exists_ofText (h : IsLine line) :
    exists b rest, Bytes.ofText line = b :: rest ∧ b ≠ 13 ∧ b ≠ 10 := by
  have h13 := h.notMem_13
  have h10 := h.notMem_10
  cases hbytes : Bytes.ofText line with
  | nil => exact absurd (Bytes.ofText_inj (t := []) hbytes) h.ne_nil
  | cons b rest =>
      rw [hbytes] at h13 h10
      refine ⟨b, rest, rfl, ?_, ?_⟩
      · intro heq
        subst heq
        exact h13 (by simp)
      · intro heq
        subst heq
        exact h10 (by simp)

end IsLine

theorem exists_ofText_join {line : List Char} (h : IsLine line)
    (rest : List (List Char)) :
    exists b more, Bytes.ofText (join (line :: rest)) = b :: more ∧
      b ≠ 13 ∧ b ≠ 10 := by
  rcases h.exists_ofText with ⟨b, tail, hline, h13, h10⟩
  cases rest with
  | nil => exact ⟨b, tail, by simpa [join] using hline, h13, h10⟩
  | cons next rest =>
      rw [join_cons_cons, List.append_assoc, Bytes.ofText_append, hline]
      exact ⟨b, _, rfl, h13, h10⟩

/-!
# Where the head ends
-/

section

variable {lines : List (List Char)}

theorem findWindow_crlfCrlf_render (hne : lines ≠ [])
    (h : forall line, line ∈ lines -> IsLine line) (body : Bytes) :
    Bytes.findWindow crlfCrlf (render lines ++ body) =
      some (Bytes.ofText (join lines)).length := by
  rw [render, List.append_assoc]
  induction lines with
  | nil => exact absurd rfl hne
  | cons line rest ih =>
      have hline := h line (by simp)
      have hmatch : crlfCrlf <+: crlfCrlf ++ body := List.prefix_append _ _
      cases rest with
      | nil =>
          have hjoin : join [line] = line := by simp [join]
          rw [hjoin, crlfCrlf, Bytes.findWindow_append_of_notMem hline.notMem_13]
          rw [← crlfCrlf, Bytes.findWindow_of_prefix (by decide) hmatch]
          simp
      | cons next rest =>
          -- The line is skipped, and so is its line break: another line follows.
          have hnext := h next (by simp)
          have htail := ih (by simp) fun l hl => h l (by simp [hl])
          rcases exists_ofText_join hnext rest with
            ⟨b, more, hmore, h13, _⟩
          have hb : ¬ (13 : UInt8) = b := fun heq => h13 heq.symm
          have hskip : Bytes.findWindow crlfCrlf
              (13 :: 10 :: (Bytes.ofText (join (next :: rest)) ++
                (crlfCrlf ++ body))) =
              some ((Bytes.ofText (join (next :: rest))).length + 2) := by
            rw [Bytes.findWindow, if_neg (by simp [hmore, crlfCrlf, hb])]
            rw [Bytes.findWindow, if_neg (by simp [crlfCrlf]), htail]
            rfl
          rw [join_cons_cons, Bytes.ofText_append, Bytes.ofText_append,
            ofText_crlf, List.append_assoc, List.append_assoc]
          rw [crlfCrlf, Bytes.findWindow_append_of_notMem hline.notMem_13]
          rw [← crlfCrlf, List.cons_append, List.cons_append, List.nil_append,
            hskip]
          simp only [Option.map_some, List.length_append, List.length_cons,
            List.length_nil]
          congr 1
          omega

theorem findWindow_lfLf_render
    (h : forall line, line ∈ lines -> IsLine line) :
    Bytes.findWindow lfLf (render lines) = none := by
  rw [render]
  induction lines with
  | nil => decide
  | cons line rest ih =>
      have hline := h line (by simp)
      cases rest with
      | nil =>
          have hjoin : join [line] = line := by simp [join]
          rw [hjoin, lfLf, Bytes.findWindow_append_of_notMem hline.notMem_10]
          rfl
      | cons next rest =>
          have hnext := h next (by simp)
          have htail := ih fun l hl => h l (by simp [hl])
          rcases exists_ofText_join hnext rest with
            ⟨b, more, hmore, _, h10⟩
          have hb : ¬ (10 : UInt8) = b := fun heq => h10 heq.symm
          have hskip : Bytes.findWindow lfLf
              (13 :: 10 :: (Bytes.ofText (join (next :: rest)) ++ crlfCrlf)) =
              none := by
            rw [Bytes.findWindow, if_neg (by simp [lfLf])]
            rw [Bytes.findWindow, if_neg (by simp [hmore, lfLf, hb]), htail]
            rfl
          rw [join_cons_cons, Bytes.ofText_append, Bytes.ofText_append,
            ofText_crlf, List.append_assoc, List.append_assoc]
          rw [lfLf, Bytes.findWindow_append_of_notMem hline.notMem_10]
          rw [← lfLf, List.cons_append, List.cons_append, List.nil_append,
            hskip]
          rfl

theorem length_render :
    (render lines).length = (Bytes.ofText (join lines)).length + 4 := by
  simp [render, crlfCrlf]

/-- In a beginning of the message that does not reach past the head, no end is
found. -/
theorem findWindow_of_prefix_lt (hne : lines ≠ [])
    (h : forall line, line ∈ lines -> IsLine line) {front body : Bytes}
    (hfront : front <+: render lines ++ body)
    (hlt : front.length < (render lines).length) :
    Bytes.findWindow crlfCrlf front = none ∧
      Bytes.findWindow lfLf front = none := by
  have hhead : front <+: render lines :=
    List.prefix_of_prefix_length_le hfront (List.prefix_append _ _)
      (Nat.le_of_lt hlt)
  rcases hhead with ⟨rest, hrest⟩
  constructor
  · cases hfind : Bytes.findWindow crlfCrlf front with
    | none => rfl
    | some n =>
        have hroom := Bytes.findWindow_le hfind
        have hwhole := Bytes.findWindow_append_of_some hfind rest
        have hexact := findWindow_crlfCrlf_render hne h []
        rw [hrest] at hwhole
        rw [List.append_nil, hwhole] at hexact
        cases hexact
        rw [length_render] at hlt
        simp only [crlfCrlf, List.length_cons, List.length_nil] at hroom
        omega
  · have hwhole := findWindow_lfLf_render h
    rw [← hrest] at hwhole
    exact Bytes.findWindow_eq_none_of_append hwhole

end

theorem take_crlfCrlf_of_lfLf {front rest : Bytes} {lf crlf : Nat}
    (hnone : Bytes.findWindow crlfCrlf front = none)
    (hlf : Bytes.findWindow lfLf front = some lf)
    (hcrlf : Bytes.findWindow crlfCrlf (front ++ rest) = some crlf) :
    lf + 2 ≤ crlf ∧
      exists more, (front ++ rest).take crlf = front.take lf ++ 10 :: more := by
  have hroom := Bytes.findWindow_le hlf
  have hlate : ¬ crlf + 4 ≤ front.length := by
    intro hle
    rw [Bytes.findWindow_of_append (by simp [crlfCrlf]) hcrlf hle] at hnone
    cases hnone
  have hwhole := Bytes.findWindow_append_of_some hlf rest
  -- No byte of the two line feeds is one of the carriage returns.
  have hfirst := Bytes.getElem?_of_findWindow (i := 0) hwhole (by decide)
  have hsecond := Bytes.getElem?_of_findWindow (i := 1) hwhole (by decide)
  have hcr := Bytes.getElem?_of_findWindow (i := 0) hcrlf (by decide)
  have hcr' := Bytes.getElem?_of_findWindow (i := 2) hcrlf (by decide)
  simp only [lfLf, crlfCrlf, List.length_cons, List.length_nil,
    List.getElem_cons_zero, List.getElem_cons_succ, Nat.add_zero]
    at hroom hfirst hsecond hcr hcr'
  have hne : forall i j : Nat, (front ++ rest)[i]? = some 10 ->
      (front ++ rest)[j]? = some 13 -> i ≠ j := by
    intro i j hi hj heq
    rw [heq, hj] at hi
    cases hi
  have h0 := hne _ _ hfirst hcr
  have h1 := hne _ _ hsecond hcr
  have h2 := hne _ _ hsecond hcr'
  have h3 := hne _ _ hfirst hcr'
  have hle : lf + 2 ≤ crlf := by omega
  refine ⟨hle, ((front ++ rest).take crlf).drop (lf + 1), ?_⟩
  have hlt : lf < ((front ++ rest).take crlf).length := by
    have hcrlfRoom := Bytes.findWindow_le hcrlf
    rw [List.length_take]
    omega
  have hbyte : ((front ++ rest).take crlf)[lf] = 10 := by
    apply Option.some.inj
    rw [← List.getElem?_eq_getElem hlt, List.getElem?_take_of_lt (by omega),
      hfirst]
  have hsplit := List.take_append_drop lf ((front ++ rest).take crlf)
  rw [List.drop_eq_getElem_cons hlt, hbyte, List.take_take,
    Nat.min_eq_left (by omega), List.take_append_of_le_length (by omega)]
    at hsplit
  exact hsplit.symm

theorem lfLf_lt_crlfCrlf {bytes : Bytes} {lf crlf : Nat}
    (hlf : Bytes.findWindow lfLf bytes = some lf)
    (hcrlf : Bytes.findWindow crlfCrlf bytes = some crlf) (hnear : lf < crlf + 2) :
    lf + 2 ≤ crlf := by
  have hnone : Bytes.findWindow crlfCrlf (bytes.take (lf + 2)) = none := by
    cases hfind : Bytes.findWindow crlfCrlf (bytes.take (lf + 2)) with
    | none => rfl
    | some position =>
        rcases (Bytes.findWindow_take_iff (by simp [crlfCrlf])).mp hfind with ⟨hposition, hle⟩
        rw [hcrlf] at hposition
        cases hposition
        simp only [crlfCrlf, List.length_cons, List.length_nil] at hle
        omega
  have hfront : Bytes.findWindow lfLf (bytes.take (lf + 2)) = some lf :=
    (Bytes.findWindow_take_iff (by simp [lfLf])).mpr ⟨hlf, Nat.le_refl _⟩
  rw [← List.take_append_drop (lf + 2) bytes] at hcrlf
  exact (take_crlfCrlf_of_lfLf hnone hfront hcrlf).left

/-!
# The lines of a head
-/

def splitCrlf : List Char -> List (List Char)
  | [] => [[]]
  | '\r' :: '\n' :: rest => [] :: splitCrlf rest
  | c :: rest =>
      match splitCrlf rest with
      | [] => [[c]]
      | first :: more => (c :: first) :: more

theorem splitCrlf_cons_of_ne {c : Char} (hc : c ≠ '\r') {s first : List Char}
    {more : List (List Char)} (h : splitCrlf s = first :: more) :
    splitCrlf (c :: s) = (c :: first) :: more := by
  rw [splitCrlf]
  · simp [h]
  · intro _ hcontra
    exact absurd hcontra hc

theorem splitCrlf_of_notMem {s : List Char} (h : '\r' ∉ s) :
    splitCrlf s = [s] := by
  induction s with
  | nil => rfl
  | cons c rest ih =>
      have hc : c ≠ '\r' := fun heq => h (by simp [heq])
      exact splitCrlf_cons_of_ne hc (ih fun hmem => h (by simp [hmem]))

theorem splitCrlf_append {left : List Char} (h : '\r' ∉ left)
    (rest : List Char) :
    splitCrlf (left ++ (crlf ++ rest)) = left :: splitCrlf rest := by
  induction left with
  | nil => simp [crlf, splitCrlf]
  | cons c more ih =>
      have hc : c ≠ '\r' := fun heq => h (by simp [heq])
      exact splitCrlf_cons_of_ne hc (ih fun hmem => h (by simp [hmem]))

/-- The lines of a text in which CRLF and bare LF both end a line. -/
def textLines (s : List Char) : List (List Char) :=
  (splitCrlf s).flatMap fun part => part.splitOn '\n'

theorem splitCrlf_join {lines : List (List Char)} (hne : lines ≠ [])
    (h : forall line, line ∈ lines -> IsLine line) :
    splitCrlf (join lines) = lines := by
  induction lines with
  | nil => exact absurd rfl hne
  | cons line rest ih =>
      have hline := h line (by simp)
      cases rest with
      | nil =>
          have hjoin : join [line] = line := by simp [join]
          rw [hjoin, splitCrlf_of_notMem hline.cr_notMem]
      | cons next rest =>
          rw [join_cons_cons, List.append_assoc,
            splitCrlf_append hline.cr_notMem,
            ih (by simp) fun l hl => h l (by simp [hl])]

theorem textLines_join {lines : List (List Char)} (hne : lines ≠ [])
    (h : forall line, line ∈ lines -> IsLine line) :
    textLines (join lines) = lines := by
  rw [textLines, splitCrlf_join hne h]
  clear hne
  induction lines with
  | nil => rfl
  | cons line rest ih =>
      rw [List.flatMap_cons,
        List.splitOn_eq_singleton (h line (by simp)).lf_notMem,
        ih fun l hl => h l (by simp [hl])]
      rfl

theorem splitCrlf_of_lf_notMem {s : List Char} (h : '\n' ∉ s) :
    splitCrlf s = [s] := by
  induction s with
  | nil => rfl
  | cons c rest ih =>
      have hrest : '\n' ∉ rest := fun hmem => h (by simp [hmem])
      have htail := ih hrest
      rw [splitCrlf]
      · simp [htail]
      · intro more hc heq
        apply hrest
        rw [heq]
        exact List.mem_cons_self

theorem splitCrlf_append_crlf {front : List Char} (h : '\n' ∉ front)
    (rest : List Char) :
    splitCrlf (front ++ '\r' :: '\n' :: rest) = front :: splitCrlf rest := by
  induction front with
  | nil => simp [splitCrlf]
  | cons c more ih =>
      have hmore : '\n' ∉ more := fun hmem => h (by simp [hmem])
      have htail := ih hmore
      rw [List.cons_append, splitCrlf]
      · simp [htail]
      · intro others hc heq
        cases more with
        | nil => cases heq
        | cons d ds =>
            cases heq
            exact hmore List.mem_cons_self

theorem splitCrlf_ne_nil (s : List Char) : splitCrlf s ≠ [] := by
  induction s using splitCrlf.induct with
  | case1 => simp [splitCrlf]
  | case2 rest ih => simp [splitCrlf]
  | case3 c rest hc hnil ih => exact absurd hnil ih
  | case4 c rest hc first more hrest ih =>
      rw [splitCrlf, hrest]
      · simp
      · exact hc

theorem splitCrlf_append_lf {left : List Char} (h : '\n' ∉ left)
    (hlast : left.getLast? ≠ some '\r') {rest part : List Char}
    {parts : List (List Char)} (hrest : splitCrlf rest = part :: parts) :
    splitCrlf (left ++ '\n' :: rest) = (left ++ '\n' :: part) :: parts := by
  induction left with
  | nil => simp [splitCrlf, hrest]
  | cons c more ih =>
      have hmore : '\n' ∉ more := fun hmem => h (by simp [hmem])
      have hlast' : more.getLast? ≠ some '\r' := by
        cases more with
        | nil => simp
        | cons d ds => simpa using hlast
      have hsplit := ih hmore hlast'
      rw [List.cons_append, splitCrlf]
      · simp [hsplit]
      · intro others hc heq
        cases more with
        | nil =>
            subst hc
            exact hlast rfl
        | cons d ds =>
            cases heq
            exact hmore List.mem_cons_self

theorem splitOn_join_crlf {lines : List (List Char)} (hne : lines ≠ [])
    (h : forall line, line ∈ lines -> IsLine line) :
    (join lines ++ ['\r', '\n', '\r']).splitOn '\n' =
      lines.map (fun line => line ++ ['\r']) ++ [['\r']] := by
  induction lines with
  | nil => exact absurd rfl hne
  | cons line rest ih =>
      have hline := h line (by simp)
      cases rest with
      | nil =>
          have hshape : join [line] ++ ['\r', '\n', '\r'] =
              (line ++ ['\r']) ++ '\n' :: ['\r'] := by simp [join]
          rw [hshape,
            List.splitOn_append_cons_self_of_not_mem hline.lf_notMem_append_cr]
          rfl
      | cons next rest =>
          have hshape : join (line :: next :: rest) ++ ['\r', '\n', '\r'] =
              (line ++ ['\r']) ++ '\n' ::
                (join (next :: rest) ++ ['\r', '\n', '\r']) := by
            simp [join_cons_cons, crlf]
          rw [hshape,
            List.splitOn_append_cons_self_of_not_mem hline.lf_notMem_append_cr,
            ih (by simp) fun l hl => h l (by simp [hl])]
          rfl

/-- A line that was ended by a line feed, without the carriage return before
it. -/
def stripCr (line : List Char) : List Char :=
  if line.getLast? = some '\r' then line.dropLast else line

def endedLines : List (List Char) -> List (List Char)
  | [] => []
  | [last] => if last = [] then [] else [last]
  | line :: rest => stripCr line :: endedLines rest

def lines (s : List Char) : List (List Char) :=
  endedLines (s.splitOn '\n')

theorem textLines_append_lf {left : List Char} (h : '\n' ∉ left)
    (rest : List Char) :
    textLines (left ++ '\n' :: rest) = stripCr left :: textLines rest := by
  unfold stripCr textLines
  by_cases hlast : left.getLast? = some '\r'
  · rcases List.getLast?_eq_some_iff.mp hlast with ⟨front, rfl⟩
    have hfront : '\n' ∉ front := fun hmem => h (by simp [hmem])
    have hshape : front ++ ['\r'] ++ '\n' :: rest =
        front ++ '\r' :: '\n' :: rest := by simp
    rw [if_pos hlast, hshape, splitCrlf_append_crlf hfront, List.flatMap_cons,
      List.splitOn_eq_singleton hfront, List.dropLast_concat]
    rfl
  · cases hrest : splitCrlf rest with
    | nil => exact absurd hrest (splitCrlf_ne_nil rest)
    | cons part parts =>
        rw [if_neg hlast, splitCrlf_append_lf h hlast hrest, List.flatMap_cons,
          List.splitOn_append_cons_self_of_not_mem h, List.flatMap_cons, List.cons_append]

theorem textLines_of_lf_notMem {s : List Char} (h : '\n' ∉ s) : textLines s = [s] := by
  rw [textLines, splitCrlf_of_lf_notMem h]
  simp [List.splitOn_eq_singleton h]

theorem words_stripCr (line : List Char) :
    Text.words (stripCr line) = Text.words line := by
  unfold stripCr
  by_cases hlast : line.getLast? = some '\r'
  · rcases List.getLast?_eq_some_iff.mp hlast with ⟨front, rfl⟩
    have hcr : Text.isWhitespace '\r' = true := by decide
    rw [if_pos hlast, List.dropLast_concat, Text.words, Text.words,
      List.splitOnP_append_cons front [] hcr, List.filter_append]
    simp
  · rw [if_neg hlast]

theorem exists_first_words (s rest : List Char) :
    exists line more line' more', textLines s = line :: more ∧
      textLines (s ++ '\n' :: rest) = line' :: more' ∧
      Text.words line = Text.words line' := by
  by_cases hlf : '\n' ∈ s
  · rcases Text.exists_eq_append_of_mem hlf with ⟨left, right, hleft, rfl⟩
    refine ⟨_, _, _, textLines (right ++ '\n' :: rest),
      textLines_append_lf hleft right, ?_, rfl⟩
    rw [List.append_assoc, List.cons_append, textLines_append_lf hleft]
  · exact ⟨s, [], _, _, textLines_of_lf_notMem hlf, textLines_append_lf hlf rest,
      (words_stripCr s).symm⟩

theorem lines_induction {motive : List Char -> Prop}
    (last : forall s, '\n' ∉ s -> motive s)
    (line : forall left right, '\n' ∉ left -> motive right ->
      motive (left ++ '\n' :: right)) (s : List Char) : motive s := by
  by_cases hlf : '\n' ∈ s
  · rcases Text.exists_eq_append_of_mem hlf with ⟨left, right, hleft, hs⟩
    have hlength : right.length < s.length := by
      rw [hs, List.length_append, List.length_cons]
      omega
    rw [hs]
    exact line left right hleft (lines_induction last line right)
  · exact last s hlf
termination_by s.length

theorem textLines_ne_nil (s : List Char) : textLines s ≠ [] := by
  induction s using lines_induction with
  | last s hs => simp [textLines_of_lf_notMem hs]
  | line left right hleft ih => simp [textLines_append_lf hleft]

section

variable {value : Type} {read : List Char -> Option value}

/-- What is read from the lines is read from the parts between line feeds, if a
carriage return at the end does not matter. -/
theorem filterMap_textLines
    (hread : forall line, read (line ++ ['\r']) = read line) (s : List Char) :
    (textLines s).filterMap read = (s.splitOn '\n').filterMap read := by
  have hstrip : forall line, read (stripCr line) = read line := by
    intro line
    unfold stripCr
    by_cases hlast : line.getLast? = some '\r'
    · rcases List.getLast?_eq_some_iff.mp hlast with ⟨front, rfl⟩
      rw [if_pos hlast, List.dropLast_concat, hread]
    · rw [if_neg hlast]
  induction s using lines_induction with
  | last s hs => rw [textLines_of_lf_notMem hs, List.splitOn_eq_singleton hs]
  | line left right hleft ih =>
      rw [textLines_append_lf hleft, List.splitOn_append_cons_self_of_not_mem hleft,
        List.filterMap_cons, List.filterMap_cons, hstrip, ih]

theorem filterMap_splitOn_append_cr
    (hread : forall line, read (line ++ ['\r']) = read line) (s : List Char) :
    ((s ++ ['\r']).splitOn '\n').filterMap read = (s.splitOn '\n').filterMap read := by
  induction s using lines_induction with
  | last s hs =>
      have hcr : '\n' ∉ s ++ ['\r'] := by simp [hs]
      rw [List.splitOn_eq_singleton hs, List.splitOn_eq_singleton hcr,
        List.filterMap_cons, List.filterMap_cons, hread]
  | line left right hleft ih =>
      rw [List.append_assoc, List.cons_append,
        List.splitOn_append_cons_self_of_not_mem hleft,
        List.splitOn_append_cons_self_of_not_mem hleft, List.filterMap_cons,
        List.filterMap_cons, ih]

end

theorem stripCr_append_cr (line : List Char) :
    stripCr (line ++ ['\r']) = line := by
  simp [stripCr]

theorem exists_lines_append_lf {left : List Char} (h : '\n' ∉ left)
    (rest : List Char) :
    exists more, lines (left ++ '\n' :: rest) = stripCr left :: more := by
  rw [lines, List.splitOn_append_cons_self_of_not_mem h]
  cases hrest : rest.splitOn '\n' with
  | nil => exact absurd hrest (List.splitOn_ne_nil '\n' rest)
  | cons part parts => exact ⟨endedLines (part :: parts), rfl⟩

theorem exists_lines_of_crlf {line : List Char} (h : IsLine line) {rest : List Char}
    (hrest : rest = [] ∨ exists more, rest = '\r' :: '\n' :: more) :
    exists more, lines (line ++ rest) = line :: more := by
  rcases hrest with rfl | ⟨after, rfl⟩
  · refine ⟨[], ?_⟩
    rw [List.append_nil, lines, List.splitOn_eq_singleton h.lf_notMem]
    simp [endedLines, h.ne_nil]
  · have hshape : line ++ '\r' :: '\n' :: after =
        (line ++ ['\r']) ++ '\n' :: after := by simp
    rcases exists_lines_append_lf h.lf_notMem_append_cr after with ⟨more, hlines⟩
    rw [hshape, hlines, stripCr_append_cr]
    exact ⟨more, rfl⟩

theorem lines_join {ls : List (List Char)} (hne : ls ≠ [])
    (h : forall line, line ∈ ls -> IsLine line) : lines (join ls) = ls := by
  induction ls with
  | nil => exact absurd rfl hne
  | cons line rest ih =>
      have hline := h line (by simp)
      cases rest with
      | nil =>
          have hjoin : join [line] = line := by simp [join]
          rw [hjoin, lines, List.splitOn_eq_singleton hline.lf_notMem,
            endedLines, if_neg hline.ne_nil]
      | cons next rest =>
          have hshape : join (line :: next :: rest) =
              (line ++ ['\r']) ++ '\n' :: join (next :: rest) := by
            simp [join_cons_cons, crlf]
          have hrest := ih (by simp) fun l hl => h l (by simp [hl])
          rw [lines] at hrest
          rw [hshape, lines,
            List.splitOn_append_cons_self_of_not_mem hline.lf_notMem_append_cr]
          cases hparts : (join (next :: rest)).splitOn '\n' with
          | nil => exact absurd hparts (List.splitOn_ne_nil _ _)
          | cons part parts =>
              rw [hparts] at hrest
              rw [endedLines, stripCr_append_cr, hrest]
              simp

/-!
# Heads with bare line feeds
-/

def joinLf (lines : List (List Char)) : List Char :=
  ['\n'].intercalate lines

def renderLf (lines : List (List Char)) : Bytes :=
  Bytes.ofText (joinLf lines) ++ lfLf

section

variable {ls : List (List Char)}

theorem joinLf_cons_cons (line next : List Char) (rest : List (List Char)) :
    joinLf (line :: next :: rest) = line ++ '\n' :: joinLf (next :: rest) := by
  simp [joinLf, List.intercalate_cons_cons]

theorem exists_ofText_joinLf {line : List Char} (h : IsLine line)
    (rest : List (List Char)) :
    exists b more, Bytes.ofText (joinLf (line :: rest)) = b :: more ∧
      b ≠ 10 := by
  rcases h.exists_ofText with ⟨b, tail, hline, _, h10⟩
  cases rest with
  | nil => exact ⟨b, tail, by simpa [joinLf] using hline, h10⟩
  | cons next rest =>
      rw [joinLf_cons_cons, Bytes.ofText_append, hline]
      exact ⟨b, _, rfl, h10⟩

theorem length_renderLf :
    (renderLf ls).length = (Bytes.ofText (joinLf ls)).length + 2 := by
  simp [renderLf, lfLf]

theorem length_renderLf_le : (renderLf ls).length ≤ (render ls).length := by
  have hjoin : (Bytes.ofText (joinLf ls)).length ≤
      (Bytes.ofText (join ls)).length := by
    induction ls with
    | nil => exact Nat.le_refl _
    | cons line rest ih =>
        cases rest with
        | nil => simp [joinLf, join]
        | cons next rest =>
            have hlf : Bytes.ofText ['\n'] = [10] := by decide
            rw [joinLf_cons_cons, join_cons_cons, ← List.singleton_append,
              Bytes.ofText_append, Bytes.ofText_append, Bytes.ofText_append,
              Bytes.ofText_append, ofText_crlf, hlf]
            simp only [List.length_append, List.length_cons, List.length_nil]
            omega
  rw [length_renderLf, length_render]
  omega

theorem cr_notMem_joinLf (h : forall line, line ∈ ls -> IsLine line) :
    '\r' ∉ joinLf ls := by
  induction ls with
  | nil => simp [joinLf]
  | cons line rest ih =>
      have hline := h line (by simp)
      cases rest with
      | nil => simpa [joinLf] using hline.cr_notMem
      | cons next rest =>
          have hrest := ih fun l hl => h l (by simp [hl])
          rw [joinLf_cons_cons]
          simp [hline.cr_notMem, hrest]

theorem textLines_joinLf (hne : ls ≠ [])
    (h : forall line, line ∈ ls -> IsLine line) : textLines (joinLf ls) = ls := by
  have hlines : (joinLf ls).splitOn '\n' = ls :=
    List.splitOn_intercalate '\n' (fun line hline => (h line hline).lf_notMem)
      hne
  rw [textLines, splitCrlf_of_notMem (cr_notMem_joinLf h)]
  simp [hlines]

theorem findWindow_crlfCrlf_renderLf
    (h : forall line, line ∈ ls -> IsLine line) (body : Bytes) :
    Bytes.findWindow crlfCrlf (renderLf ls ++ body) =
      (Bytes.findWindow crlfCrlf body).map (· + (renderLf ls).length) := by
  apply Bytes.findWindow_append_of_notMem
  intro hmem
  rcases List.mem_append.mp hmem with hmem | hmem
  · exact Bytes.notMem_ofText (by decide) (by decide) (cr_notMem_joinLf h) hmem
  · revert hmem
    decide

theorem findWindow_lfLf_renderLf (hne : ls ≠ [])
    (h : forall line, line ∈ ls -> IsLine line) (body : Bytes) :
    Bytes.findWindow lfLf (renderLf ls ++ body) =
      some (Bytes.ofText (joinLf ls)).length := by
  rw [renderLf, List.append_assoc]
  induction ls with
  | nil => exact absurd rfl hne
  | cons line rest ih =>
      have hline := h line (by simp)
      have hmatch : lfLf <+: lfLf ++ body := List.prefix_append _ _
      cases rest with
      | nil =>
          have hjoin : joinLf [line] = line := by simp [joinLf]
          rw [hjoin, lfLf, Bytes.findWindow_append_of_notMem hline.notMem_10]
          rw [← lfLf, Bytes.findWindow_of_prefix (by decide) hmatch]
          simp
      | cons next rest =>
          -- The line is skipped, and so is its line feed: another line follows.
          have hnext := h next (by simp)
          have htail := ih (by simp) fun l hl => h l (by simp [hl])
          have hskip : Bytes.findWindow lfLf
              (10 :: (Bytes.ofText (joinLf (next :: rest)) ++
                (lfLf ++ body))) =
              some ((Bytes.ofText (joinLf (next :: rest))).length + 1) := by
            rcases exists_ofText_joinLf hnext rest with ⟨b, more, hmore, h10⟩
            have hb : ¬ (10 : UInt8) = b := fun heq => h10 heq.symm
            rw [Bytes.findWindow, if_neg (by simp [hmore, lfLf, hb]), htail]
            rfl
          have hlf : Bytes.ofText ('\n' :: joinLf (next :: rest)) =
              10 :: Bytes.ofText (joinLf (next :: rest)) := rfl
          rw [joinLf_cons_cons, Bytes.ofText_append, hlf, List.append_assoc]
          rw [lfLf, Bytes.findWindow_append_of_notMem hline.notMem_10]
          rw [← lfLf, List.cons_append, hskip]
          simp only [Option.map_some, List.length_append, List.length_cons]
          congr 1
          omega

end

end MessageHead

end Foundation
