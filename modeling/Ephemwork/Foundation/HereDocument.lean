import Ephemwork.Foundation.Text

/-!
# Here-documents

A shell script as the lines that are commands and the here-documents among
them.  Only quoted delimiters are read: the lines of such a document are taken
as they stand, up to the first one that is the delimiter.
-/

namespace Foundation

namespace HereDocument

abbrev Line : Type :=
  List Char

inductive Item where
  | command (line : Line)
  | document (opener : Line) (body : List Line)
deriving DecidableEq, Repr

/-- The word `D` of a line that ends in `<<'D'`. -/
def quotedDelimiter? (line : Line) : Option Line :=
  match line.reverse with
  | '\'' :: rest =>
      match Text.splitOnce '\'' rest with
      | some (word, '<' :: '<' :: _) => some word.reverse
      | _ => none
  | _ => none

structure Open where
  opener : Line
  delimiter : Line
  body : List Line

/-- A document that is not closed takes the rest of the script. -/
def scan : Option Open -> List Line -> List Item
  | none, [] => []
  | some document, [] => [.document document.opener document.body]
  | none, line :: rest =>
      match quotedDelimiter? line with
      | none => .command line :: scan none rest
      | some delimiter => scan (some ⟨line, delimiter, []⟩) rest
  | some document, line :: rest =>
      if line = document.delimiter then
        .document document.opener document.body :: scan none rest
      else
        scan (some { document with body := document.body ++ [line] }) rest

def read (lines : List Line) : List Item :=
  scan none lines

def commands (items : List Item) : List Line :=
  items.map fun item =>
    match item with
    | .command line => line
    | .document opener _ => opener

def bodyOf (opener : Line) : List Item -> Option (List Line)
  | [] => none
  | .command _ :: rest => bodyOf opener rest
  | .document other body :: rest =>
      if other = opener then some body else bodyOf opener rest

/-!
# Reading
-/

theorem quotedDelimiter?_append_of_ne {c : Char} (hc : c ≠ '\'') (line : Line) :
    quotedDelimiter? (line ++ [c]) = none := by
  rw [quotedDelimiter?, List.reverse_append, List.reverse_singleton,
    List.singleton_append]
  split
  · next rest heq => exact absurd (List.cons.inj heq).1 hc
  · rfl

theorem read_cons_of_none {line : Line} (h : quotedDelimiter? line = none)
    (rest : List Line) : read (line :: rest) = .command line :: read rest := by
  rw [read, scan, h]
  rfl

theorem read_cons_of_some {line delimiter : Line}
    (h : quotedDelimiter? line = some delimiter) (rest : List Line) :
    read (line :: rest) = scan (some ⟨line, delimiter, []⟩) rest := by
  rw [read, scan, h]

theorem read_commands_append {lines : List Line}
    (h : forall line, line ∈ lines -> quotedDelimiter? line = none) (rest : List Line) :
    read (lines ++ rest) = lines.map Item.command ++ read rest := by
  induction lines with
  | nil => rfl
  | cons line more ih =>
      have hmore : forall l, l ∈ more -> quotedDelimiter? l = none :=
        fun l hl => h l (List.mem_cons_of_mem line hl)
      rw [List.cons_append, read_cons_of_none (h line List.mem_cons_self), ih hmore]
      rfl

theorem scan_open (document : Open) (lines rest : List Line) :
    scan (some document) (lines ++ document.delimiter :: rest) =
      .document document.opener
          (document.body ++
            lines.takeWhile fun line => decide (line ≠ document.delimiter)) ::
        read ((lines ++ document.delimiter :: rest).dropWhile fun line =>
          decide (line ≠ document.delimiter)).tail := by
  induction lines generalizing document with
  | nil =>
      rw [List.nil_append, scan, if_pos rfl, List.takeWhile_nil, List.append_nil,
        List.dropWhile_cons_of_neg (by simp)]
      rfl
  | cons line more ih =>
      by_cases hline : line = document.delimiter
      · rw [List.cons_append, scan, if_pos hline,
          List.takeWhile_cons_of_neg (by simp [hline]), List.append_nil,
          List.dropWhile_cons_of_neg (by simp [hline])]
        rfl
      · have hmore := ih { document with body := document.body ++ [line] }
        rw [List.cons_append, scan, if_neg hline, hmore,
          List.takeWhile_cons_of_pos (by simp [hline]),
          List.dropWhile_cons_of_pos (by simp [hline]), List.append_assoc]
        rfl

theorem takeWhile_ne_of_mem {delimiter : Line} {lines : List Line}
    (h : delimiter ∈ lines) :
    lines.takeWhile (fun line => decide (line ≠ delimiter)) ≠ lines := by
  intro heq
  rw [← heq] at h
  have hne := List.mem_takeWhile_imp h
  exact of_decide_eq_true hne rfl

theorem scan_open_of_not_mem (document : Open) {lines : List Line}
    (h : document.delimiter ∉ lines) (rest : List Line) :
    scan (some document) (lines ++ document.delimiter :: rest) =
      .document document.opener (document.body ++ lines) :: read rest := by
  have hne : forall line, line ∈ lines ->
      decide (line ≠ document.delimiter) = true := by
    intro line hline
    exact decide_eq_true fun heq => h (heq ▸ hline)
  rw [scan_open, List.takeWhile_eq_self_iff.mpr hne, List.dropWhile_append_of_pos hne,
    List.dropWhile_cons_of_neg (by simp)]
  rfl

/-!
# Commands and documents
-/

@[simp] theorem commands_append (first second : List Item) :
    commands (first ++ second) = commands first ++ commands second := by
  simp [commands]

@[simp] theorem commands_map_command (lines : List Line) :
    commands (lines.map Item.command) = lines := by
  rw [commands, List.map_map]
  exact List.map_id lines

@[simp] theorem commands_document (opener : Line) (body : List Line) (rest : List Item) :
    commands (.document opener body :: rest) = opener :: commands rest := rfl

theorem bodyOf_commands_append (opener : Line) (lines : List Line) (items : List Item) :
    bodyOf opener (lines.map Item.command ++ items) = bodyOf opener items := by
  induction lines with
  | nil => rfl
  | cons line more ih => exact ih

theorem bodyOf_document (opener : Line) (front more body : List Line)
    (rest : List Item) :
    bodyOf opener (front.map Item.command ++
      (more.map Item.command ++ .document opener body :: rest)) = some body := by
  rw [bodyOf_commands_append, bodyOf_commands_append, bodyOf, if_pos rfl]

end HereDocument

end Foundation
