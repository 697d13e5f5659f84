import Mathlib.Data.List.TakeWhile
import Ephemwork.Foundation.Decimal

/-!
# JSON

Strings, natural numbers, arrays and objects, printed compactly or indented,
and a parser that skips white space.  A printed value is read back whatever the
layout.
-/

namespace Foundation

mutual

inductive Json where
  | str (text : List Char)
  | num (value : Nat)
  | arr (items : JsonItems)
  | obj (fields : JsonFields)

inductive JsonItems where
  | nil
  | cons (value : Json) (rest : JsonItems)

inductive JsonFields where
  | nil
  | cons (name : List Char) (value : Json) (rest : JsonFields)

end

namespace JsonItems

def ofList : List Json -> JsonItems
  | [] => .nil
  | value :: rest => .cons value (ofList rest)

def toList : JsonItems -> List Json
  | .nil => []
  | .cons value rest => value :: rest.toList

@[simp] theorem toList_ofList (items : List Json) :
    (ofList items).toList = items := by
  induction items with
  | nil => rfl
  | cons value rest ih => simp [ofList, toList, ih]

end JsonItems

namespace JsonFields

def ofList : List (List Char × Json) -> JsonFields
  | [] => .nil
  | (name, value) :: rest => .cons name value (ofList rest)

def toList : JsonFields -> List (List Char × Json)
  | .nil => []
  | .cons name value rest => (name, value) :: rest.toList

@[simp] theorem toList_ofList (fields : List (List Char × Json)) :
    (ofList fields).toList = fields := by
  induction fields with
  | nil => rfl
  | cons field rest ih =>
      rcases field with ⟨name, value⟩
      simp [ofList, toList, ih]

end JsonFields

namespace Json

/-!
# Strings
-/

def hexDigit (n : Nat) : Char :=
  if n < 10 then Char.ofNat (48 + n) else Char.ofNat (87 + n)

def hexValue (c : Char) : Option Nat :=
  if '0' ≤ c ∧ c ≤ '9' then
    some (c.toNat - 48)
  else if 'a' ≤ c ∧ c ≤ 'f' then
    some (c.toNat - 87)
  else if 'A' ≤ c ∧ c ≤ 'F' then
    some (c.toNat - 55)
  else
    none

def shortEscape (c : Char) : Option Char :=
  match c with
  | '"' => some '"'
  | '\\' => some '\\'
  | '\x08' => some 'b'
  | '\x0c' => some 'f'
  | '\n' => some 'n'
  | '\r' => some 'r'
  | '\t' => some 't'
  | _ => none

def escapeChar (c : Char) : List Char :=
  match shortEscape c with
  | some letter => ['\\', letter]
  | none =>
      if c.toNat < 32 then
        ['\\', 'u', '0', '0', hexDigit (c.toNat / 16),
          hexDigit (c.toNat % 16)]
      else
        [c]

def quote (text : List Char) : List Char :=
  '"' :: (text.flatMap escapeChar ++ ['"'])

def unescapeChar (c : Char) : Option Char :=
  match c with
  | '"' => some '"'
  | '\\' => some '\\'
  | '/' => some '/'
  | 'b' => some '\x08'
  | 'f' => some '\x0c'
  | 'n' => some '\n'
  | 'r' => some '\r'
  | 't' => some '\t'
  | _ => none

def unescapeUnit (a b c d : Char) : Option Char := do
  let a <- hexValue a
  let b <- hexValue b
  let c <- hexValue c
  let d <- hexValue d
  let n := ((a * 16 + b) * 16 + c) * 16 + d
  if n.isValidChar then some (Char.ofNat n) else none

def readString : List Char -> Option (List Char × List Char)
  | [] => none
  | '"' :: rest => some ([], rest)
  | '\\' :: 'u' :: a :: b :: c :: d :: rest =>
      match unescapeUnit a b c d, readString rest with
      | some char, some (text, after) => some (char :: text, after)
      | _, _ => none
  | '\\' :: c :: rest =>
      match unescapeChar c, readString rest with
      | some char, some (text, after) => some (char :: text, after)
      | _, _ => none
  | c :: rest =>
      if c.toNat < 32 then
        none
      else
        (readString rest).map fun result => (c :: result.1, result.2)

theorem unescapeUnit_hexDigit {c : Char} (h : c.toNat < 32) :
    unescapeUnit '0' '0' (hexDigit (c.toNat / 16)) (hexDigit (c.toNat % 16)) =
      some c := by
  have hall : forall n : Fin 32,
      unescapeUnit '0' '0' (hexDigit (n / 16)) (hexDigit (n % 16)) =
        some (Char.ofNat n) := by decide
  have hc := hall ⟨c.toNat, h⟩
  rwa [Char.ofNat_toNat] at hc

theorem unescapeChar_of_shortEscape {c letter : Char}
    (h : shortEscape c = some letter) :
    unescapeChar letter = some c ∧ letter ≠ 'u' := by
  unfold shortEscape at h
  split at h <;> cases h <;> decide

theorem ne_of_shortEscape_eq_none {c : Char} (h : shortEscape c = none) :
    c ≠ '"' ∧ c ≠ '\\' := by
  constructor
  · intro heq
    subst heq
    cases h
  · intro heq
    subst heq
    cases h

theorem readString_escape (c : Char) {s text after : List Char}
    (h : readString s = some (text, after)) :
    readString (escapeChar c ++ s) = some (c :: text, after) := by
  unfold escapeChar
  cases hshort : shortEscape c with
  | some letter =>
      rcases unescapeChar_of_shortEscape hshort with ⟨hletter, hne⟩
      rw [List.cons_append, List.cons_append, List.nil_append, readString]
      · simp [hletter, h]
      · intro _ _ _ _ _ hcontra
        exact absurd hcontra hne
  | none =>
      rcases ne_of_shortEscape_eq_none hshort with ⟨hquote, hslash⟩
      by_cases hlow : c.toNat < 32
      · simp [hlow, readString, unescapeUnit_hexDigit hlow, h]
      · rw [if_neg hlow, List.singleton_append, readString]
        · simp [hlow, h]
        · exact hquote
        · intro _ _ _ _ _ hcontra
          exact absurd hcontra hslash
        · intro _ _ hcontra
          exact absurd hcontra hslash

theorem readString_quoted (text rest : List Char) :
    readString (text.flatMap escapeChar ++ '"' :: rest) =
      some (text, rest) := by
  induction text with
  | nil => simp [readString]
  | cons c more ih =>
      rw [List.flatMap_cons, List.append_assoc]
      exact readString_escape c ih

/-!
# Layouts
-/

def isSpace (c : Char) : Bool :=
  c == ' ' || c == '\n' || c == '\r' || c == '\t'

def skipSpace (s : List Char) : List Char :=
  s.dropWhile isSpace

structure Layout where
  gap : Nat -> List Char
  colon : List Char
  gap_isSpace : forall depth c, c ∈ gap depth -> isSpace c = true
  colon_isSpace : forall c, c ∈ colon -> isSpace c = true

def compact : Layout where
  gap := fun _ => []
  colon := []
  gap_isSpace := by simp
  colon_isSpace := by simp

def pretty : Layout where
  gap := fun depth => '\n' :: List.replicate (2 * depth) ' '
  colon := [' ']
  gap_isSpace := by
    intro depth c hc
    rcases List.mem_cons.mp hc with rfl | hc
    · decide
    · rw [List.eq_of_mem_replicate hc]
      decide
  colon_isSpace := by
    intro c hc
    rw [List.mem_singleton.mp hc]
    decide

mutual

def printAt (layout : Layout) (depth : Nat) : Json -> List Char
  | .str text => quote text
  | .num value => Decimal.print value
  | .arr .nil => ['[', ']']
  | .arr (.cons value rest) =>
      '[' :: (layout.gap (depth + 1) ++ (printAt layout (depth + 1) value ++
        (printItems layout (depth + 1) rest ++ (layout.gap depth ++ [']']))))
  | .obj .nil => ['\x7b', '\x7d']
  | .obj (.cons name value rest) =>
      '\x7b' :: (layout.gap (depth + 1) ++ (quote name ++ (':' ::
        (layout.colon ++ (printAt layout (depth + 1) value ++
          (printFields layout (depth + 1) rest ++
            (layout.gap depth ++ ['\x7d'])))))))

def printItems (layout : Layout) (depth : Nat) : JsonItems -> List Char
  | .nil => []
  | .cons value rest =>
      ',' :: (layout.gap depth ++ (printAt layout depth value ++
        printItems layout depth rest))

def printFields (layout : Layout) (depth : Nat) : JsonFields -> List Char
  | .nil => []
  | .cons name value rest =>
      ',' :: (layout.gap depth ++ (quote name ++ (':' ::
        (layout.colon ++ (printAt layout depth value ++
          printFields layout depth rest)))))

end

def print (layout : Layout) (value : Json) : List Char :=
  printAt layout 0 value

/-!
# Parsing
-/

mutual

def parseValue : Nat -> List Char -> Option (Json × List Char)
  | 0, _ => none
  | fuel + 1, s =>
      match skipSpace s with
      | [] => none
      | c :: rest =>
          if c = '"' then
            (readString rest).map fun result => (.str result.1, result.2)
          else if c = '[' then
            match skipSpace rest with
            | ']' :: after => some (.arr .nil, after)
            | _ => (parseItems fuel rest).map fun result =>
                (.arr result.1, result.2)
          else if c = '\x7b' then
            match skipSpace rest with
            | '\x7d' :: after => some (.obj .nil, after)
            | _ => (parseFields fuel rest).map fun result =>
                (.obj result.1, result.2)
          else if c.isDigit then
            let digits := (c :: rest).takeWhile Char.isDigit
            some (.num (Nat.ofDigitChars 10 digits 0),
              (c :: rest).dropWhile Char.isDigit)
          else
            none

def parseItems : Nat -> List Char -> Option (JsonItems × List Char)
  | 0, _ => none
  | fuel + 1, s =>
      match parseValue fuel s with
      | none => none
      | some (value, rest) =>
          match skipSpace rest with
          | ',' :: after => (parseItems fuel after).map fun result =>
              (.cons value result.1, result.2)
          | ']' :: after => some (.cons value .nil, after)
          | _ => none

def parseFields : Nat -> List Char -> Option (JsonFields × List Char)
  | 0, _ => none
  | fuel + 1, s =>
      match skipSpace s with
      | '"' :: quoted =>
          match readString quoted with
          | none => none
          | some (name, rest) =>
              match skipSpace rest with
              | ':' :: rest =>
                  match parseValue fuel rest with
                  | none => none
                  | some (value, rest) =>
                      match skipSpace rest with
                      | ',' :: after =>
                          (parseFields fuel after).map fun result =>
                            (.cons name value result.1, result.2)
                      | '\x7d' :: after => some (.cons name value .nil, after)
                      | _ => none
              | _ => none
      | _ => none

end

def parse (s : List Char) : Option Json :=
  match parseValue (s.length + 1) s with
  | some (value, rest) =>
      if skipSpace rest = [] then some value else none
  | none => none

/-!
# Printed values parse
-/

theorem skipSpace_append {pad : List Char}
    (hpad : forall c, c ∈ pad -> isSpace c = true) (s : List Char) :
    skipSpace (pad ++ s) = skipSpace s := by
  unfold skipSpace
  exact List.dropWhile_append_of_pos hpad

theorem skipSpace_of_head {c : Char} (hc : isSpace c = false) (s : List Char) :
    skipSpace (c :: s) = c :: s := by
  simp [skipSpace, hc]

def Ends (s : List Char) : Prop :=
  forall c rest, s = c :: rest -> c.isDigit = false

theorem ends_cons {c : Char} (hc : c.isDigit = false) (s : List Char) :
    Ends (c :: s) := by
  intro d rest h
  cases h
  exact hc

theorem ends_space_append {pad : List Char}
    (hpad : forall c, c ∈ pad -> isSpace c = true) {s : List Char}
    (hs : Ends s) : Ends (pad ++ s) := by
  cases pad with
  | nil => exact hs
  | cons c rest =>
      apply ends_cons
      have hc := hpad c (by simp)
      simp only [isSpace, Bool.or_eq_true, beq_iff_eq] at hc
      rcases hc with ((rfl | rfl) | rfl) | rfl <;> decide

theorem ends_printItems (layout : Layout) (depth : Nat) (items : JsonItems)
    {s : List Char} (hs : Ends s) :
    Ends (printItems layout depth items ++ s) := by
  cases items with
  | nil => exact hs
  | cons value rest =>
      rw [printItems, List.cons_append]
      exact ends_cons (by decide) _

theorem ends_printFields (layout : Layout) (depth : Nat) (fields : JsonFields)
    {s : List Char} (hs : Ends s) :
    Ends (printFields layout depth fields ++ s) := by
  cases fields with
  | nil => exact hs
  | cons name value rest =>
      rw [printFields, List.cons_append]
      exact ends_cons (by decide) _

theorem takeWhile_print_append (n : Nat) {rest : List Char} (h : Ends rest) :
    (Decimal.print n ++ rest).takeWhile Char.isDigit = Decimal.print n ∧
      (Decimal.print n ++ rest).dropWhile Char.isDigit = rest := by
  have hdigits : forall c, c ∈ Decimal.print n -> c.isDigit = true :=
    fun c => Decimal.isDigit_of_mem_print
  rw [List.takeWhile_append_of_pos hdigits,
    List.dropWhile_append_of_pos hdigits]
  cases rest with
  | nil => simp
  | cons c more =>
      have hc := h c more rfl
      simp [hc]

theorem parseValue_num (fuel n : Nat) {rest : List Char} (h : Ends rest) :
    parseValue (fuel + 1) (Decimal.print n ++ rest) =
      some (.num n, rest) := by
  rcases takeWhile_print_append n h with ⟨htake, hdrop⟩
  cases hprint : Decimal.print n with
  | nil => exact absurd hprint (Decimal.print_ne_nil n)
  | cons c more =>
      have hdigit : c.isDigit = true :=
        Decimal.isDigit_of_mem_print (n := n) (by simp [hprint])
      have hspace : isSpace c = false := by
        cases hspace : isSpace c with
        | false => rfl
        | true =>
            simp only [isSpace, Bool.or_eq_true, beq_iff_eq] at hspace
            rcases hspace with ((rfl | rfl) | rfl) | rfl <;> cases hdigit
      have hquote : c ≠ '"' := by
        intro heq
        subst heq
        cases hdigit
      have hbracket : c ≠ '[' := by
        intro heq
        subst heq
        cases hdigit
      have hbrace : c ≠ '\x7b' := by
        intro heq
        subst heq
        cases hdigit
      have hvalue := Decimal.ofDigitChars_print n
      rw [hprint] at htake hdrop hvalue
      rw [List.cons_append] at htake hdrop
      rw [List.cons_append, parseValue, skipSpace_of_head hspace]
      simp only [hquote, hbracket, hbrace, hdigit, if_false, if_true, htake,
        hdrop, hvalue]

theorem exists_head_printAt (layout : Layout) (depth : Nat) (value : Json) :
    exists c rest, printAt layout depth value = c :: rest ∧
      isSpace c = false ∧ c ≠ ']' := by
  cases value with
  | str text => exact ⟨_, _, rfl, by decide, by decide⟩
  | num n =>
      rw [printAt]
      cases hprint : Decimal.print n with
      | nil => exact absurd hprint (Decimal.print_ne_nil n)
      | cons c more =>
          have hdigit : c.isDigit = true :=
            Decimal.isDigit_of_mem_print (n := n) (by simp [hprint])
          refine ⟨c, more, rfl, ?_, ?_⟩
          · cases hspace : isSpace c with
            | false => rfl
            | true =>
                simp only [isSpace, Bool.or_eq_true, beq_iff_eq] at hspace
                rcases hspace with ((rfl | rfl) | rfl) | rfl <;> cases hdigit
          · intro heq
            subst heq
            cases hdigit
  | arr items =>
      cases items with
      | nil => exact ⟨_, _, rfl, by decide, by decide⟩
      | cons value rest => exact ⟨_, _, rfl, by decide, by decide⟩
  | obj fields =>
      cases fields with
      | nil => exact ⟨_, _, rfl, by decide, by decide⟩
      | cons name value rest => exact ⟨_, _, rfl, by decide, by decide⟩

theorem skipSpace_printAt {pad : List Char}
    (hpad : forall c, c ∈ pad -> isSpace c = true) (layout : Layout)
    (depth : Nat) (value : Json) (s : List Char) :
    skipSpace (pad ++ (printAt layout depth value ++ s)) =
      printAt layout depth value ++ s := by
  rcases exists_head_printAt layout depth value with ⟨c, rest, hprint, hc, _⟩
  rw [skipSpace_append hpad, hprint, List.cons_append, skipSpace_of_head hc]

theorem parseValue_pad {pad : List Char}
    (hpad : forall c, c ∈ pad -> isSpace c = true) (fuel : Nat)
    (s : List Char) : parseValue fuel (pad ++ s) = parseValue fuel s := by
  cases fuel with
  | zero => rfl
  | succ fuel => rw [parseValue, parseValue, skipSpace_append hpad]

mutual

theorem parseValue_printAt (layout : Layout) (value : Json) (depth fuel : Nat)
    {pad : List Char} (hpad : forall c, c ∈ pad -> isSpace c = true)
    {rest : List Char} (hrest : Ends rest)
    (hfuel : (printAt layout depth value).length ≤ fuel) :
    parseValue fuel (pad ++ (printAt layout depth value ++ rest)) =
      some (value, rest) := by
  rw [parseValue_pad hpad]
  cases fuel with
  | zero =>
      rcases exists_head_printAt layout depth value with ⟨c, more, hprint, _⟩
      rw [hprint] at hfuel
      simp at hfuel
  | succ fuel =>
      cases value with
      | str text =>
          simp [printAt, quote, parseValue, skipSpace_of_head,
            isSpace, readString_quoted]
      | num n => exact parseValue_num fuel n hrest
      | arr items =>
          cases items with
          | nil => simp [printAt, parseValue, skipSpace, isSpace]
          | cons value more =>
              simp only [printAt, List.length_cons, List.length_append] at hfuel
              have hitems := parseItems_printItems layout value more depth fuel
                (layout.gap_isSpace (depth + 1)) rest (by omega)
              rcases exists_head_printAt layout (depth + 1) value with
                ⟨c, tail, hprint, hc, hbracket⟩
              have hskip := skipSpace_printAt (layout.gap_isSpace (depth + 1))
                layout (depth + 1) value
                (printItems layout (depth + 1) more ++
                  (layout.gap depth ++ ']' :: rest))
              rw [hprint, List.cons_append] at hskip
              simp only [printAt, parseValue, List.cons_append,
                List.append_assoc, List.nil_append]
              rw [hprint, List.cons_append] at hitems ⊢
              simp [skipSpace_of_head, isSpace, hskip, hbracket, hitems]
      | obj fields =>
          cases fields with
          | nil => simp [printAt, parseValue, skipSpace, isSpace]
          | cons name value more =>
              simp only [printAt, List.length_cons, List.length_append] at hfuel
              have hfields := parseFields_printFields layout name value more
                depth fuel (layout.gap_isSpace (depth + 1)) rest
                (by omega)
              have hskip := skipSpace_append (layout.gap_isSpace (depth + 1))
                (quote name ++ (':' :: (layout.colon ++
                  (printAt layout (depth + 1) value ++
                    (printFields layout (depth + 1) more ++
                      (layout.gap depth ++ '\x7d' :: rest))))))
              rw [quote, List.cons_append,
                skipSpace_of_head (by decide)] at hskip
              rw [quote, List.cons_append] at hfields
              simp only [printAt, parseValue, List.cons_append,
                List.append_assoc, List.nil_append, quote] at *
              simp [skipSpace_of_head, isSpace, hskip, hfields]
termination_by sizeOf value

theorem parseItems_printItems (layout : Layout) (value : Json)
    (more : JsonItems) (depth fuel : Nat) {pad : List Char}
    (hpad : forall c, c ∈ pad -> isSpace c = true) (rest : List Char)
    (hfuel : (printAt layout (depth + 1) value).length +
      (printItems layout (depth + 1) more).length + 1 ≤ fuel) :
    parseItems fuel (pad ++ (printAt layout (depth + 1) value ++
      (printItems layout (depth + 1) more ++
        (layout.gap depth ++ ']' :: rest)))) =
      some (.cons value more, rest) := by
  cases fuel with
  | zero => omega
  | succ fuel =>
      have hclose : Ends (layout.gap depth ++ ']' :: rest) :=
        ends_space_append (layout.gap_isSpace depth)
          (ends_cons (by decide) rest)
      rw [parseItems, parseValue_printAt layout value (depth + 1) fuel hpad
        (ends_printItems layout (depth + 1) more hclose) (by omega)]
      cases more with
      | nil =>
          simp [printItems, skipSpace_append (layout.gap_isSpace depth),
            skipSpace_of_head, isSpace]
      | cons next more =>
          simp only [printItems, List.length_cons, List.length_append] at hfuel
          have hitems := parseItems_printItems layout next more depth fuel
            (layout.gap_isSpace (depth + 1)) rest (by omega)
          simp only [printItems, List.cons_append, List.append_assoc]
          rw [skipSpace_of_head (by decide)]
          simp [hitems]
termination_by sizeOf value + sizeOf more + 1

theorem parseFields_printFields (layout : Layout) (name : List Char)
    (value : Json) (more : JsonFields) (depth fuel : Nat) {pad : List Char}
    (hpad : forall c, c ∈ pad -> isSpace c = true) (rest : List Char)
    (hfuel : (quote name).length + (printAt layout (depth + 1) value).length +
      (printFields layout (depth + 1) more).length + 1 ≤ fuel) :
    parseFields fuel (pad ++ (quote name ++ (':' :: (layout.colon ++
      (printAt layout (depth + 1) value ++
        (printFields layout (depth + 1) more ++
          (layout.gap depth ++ '\x7d' :: rest))))))) =
      some (.cons name value more, rest) := by
  cases fuel with
  | zero => omega
  | succ fuel =>
      have hclose : Ends (layout.gap depth ++ '\x7d' :: rest) :=
        ends_space_append (layout.gap_isSpace depth)
          (ends_cons (by decide) rest)
      have hvalue := parseValue_printAt layout value (depth + 1) fuel
        layout.colon_isSpace
        (ends_printFields layout (depth + 1) more hclose) (by omega)
      rw [parseFields, skipSpace_append hpad, quote, List.cons_append,
        skipSpace_of_head (by decide), List.append_assoc, List.singleton_append]
      simp only [readString_quoted]
      rw [skipSpace_of_head (by decide)]
      simp only [hvalue]
      cases more with
      | nil =>
          simp [printFields, skipSpace_append (layout.gap_isSpace depth),
            skipSpace_of_head, isSpace]
      | cons name' next more =>
          simp only [printFields, List.length_cons, List.length_append] at hfuel
          have hfields := parseFields_printFields layout name' next more depth
            fuel (layout.gap_isSpace (depth + 1)) rest (by omega)
          simp only [printFields, List.cons_append, List.append_assoc]
          rw [skipSpace_of_head (by decide)]
          simp [hfields]
termination_by sizeOf value + sizeOf more + 1

end

theorem parse_print (layout : Layout) (value : Json) :
    parse (print layout value) = some value := by
  have hends : Ends [] := by
    intro c rest h
    cases h
  have hpad : forall c, c ∈ ([] : List Char) -> isSpace c = true := by simp
  have h := parseValue_printAt layout value 0
    ((printAt layout 0 value).length + 1) hpad hends (Nat.le_succ _)
  rw [List.nil_append, List.append_nil] at h
  simp [parse, print, h, skipSpace]

end Json

end Foundation
