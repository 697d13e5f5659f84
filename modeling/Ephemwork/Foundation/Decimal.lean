import Mathlib.Data.Nat.Basic

/-!
# Decimal numerals

Printing a number in decimal and reading an unsigned machine integer back the
way a fixed-width parser does: an optional leading `+`, at least one digit,
nothing but digits, and a value below the limit.
-/

namespace Foundation

namespace Decimal

def print (n : Nat) : List Char :=
  Nat.toDigits 10 n

def stripPlus : List Char -> List Char
  | '+' :: rest => rest
  | s => s

def parse (limit : Nat) (s : List Char) : Option Nat :=
  let digits := stripPlus s
  if digits ≠ [] ∧ digits.all Char.isDigit then
    let value := Nat.ofDigitChars 10 digits 0
    if value < limit then some value else none
  else
    none

theorem isDigit_of_mem_print {n : Nat} {c : Char} (h : c ∈ print n) :
    c.isDigit = true :=
  Nat.isDigit_of_mem_toDigits (by decide) (by decide) h

theorem print_ne_nil (n : Nat) : print n ≠ [] :=
  Nat.toDigits_ne_nil

theorem not_mem_print {c : Char} (hc : c.isDigit = false) (n : Nat) :
    c ∉ print n := by
  intro h
  rw [isDigit_of_mem_print h] at hc
  cases hc

theorem ofDigitChars_print (n : Nat) :
    Nat.ofDigitChars 10 (print n) 0 = n :=
  Nat.ofDigitChars_ten_toDigits

theorem stripPlus_of_digits {s : List Char}
    (hdigits : forall c, c ∈ s -> c.isDigit = true) : stripPlus s = s := by
  unfold stripPlus
  split
  · have hplus := hdigits '+' (by simp)
    cases hplus
  · rfl

theorem parse_of_digits {limit : Nat} {s : List Char} (hne : s ≠ [])
    (hdigits : forall c, c ∈ s -> c.isDigit = true) :
    parse limit s =
      if Nat.ofDigitChars 10 s 0 < limit then
        some (Nat.ofDigitChars 10 s 0)
      else
        none := by
  have hall : s.all Char.isDigit = true := by
    rw [List.all_eq_true]
    exact hdigits
  simp only [parse, stripPlus_of_digits hdigits, if_pos (And.intro hne hall)]

theorem digit_lt_ten {c : Char} (hc : c.isDigit = true) : c.toNat - '0'.toNat < 10 := by
  simp only [Char.isDigit, Bool.and_eq_true, decide_eq_true_eq, ge_iff_le,
    UInt32.le_iff_toNat_le] at hc
  have hhigh : c.toNat ≤ 57 := hc.right
  have hzero : '0'.toNat = 48 := rfl
  omega

theorem ofDigitChars_three_lt {s : List Char} (hlength : s.length = 3)
    (hdigits : forall c, c ∈ s -> c.isDigit = true) :
    Nat.ofDigitChars 10 s 0 < 1000 := by
  match s, hlength, hdigits with
  | [a, b, c], _, hdigits =>
      have ha := digit_lt_ten (hdigits a (by simp))
      have hb := digit_lt_ten (hdigits b (by simp))
      have hc := digit_lt_ten (hdigits c (by simp))
      simp only [Nat.ofDigitChars_cons, Nat.ofDigitChars_nil]
      omega

theorem lt_of_parse {limit n : Nat} {s : List Char}
    (h : parse limit s = some n) : n < limit := by
  simp only [parse] at h
  split at h
  · split at h
    · next hlt =>
        cases h
        exact hlt
    · cases h
  · cases h

def Numeral (limit : Nat) (s : List Char) (n : Nat) : Prop :=
  exists digits : List Char, (s = digits ∨ s = '+' :: digits) ∧ digits ≠ [] ∧
    (forall c, c ∈ digits -> c.isDigit = true) ∧
      Nat.ofDigitChars 10 digits 0 = n ∧ n < limit

theorem stripPlus_eq (s : List Char) : s = stripPlus s ∨ s = '+' :: stripPlus s := by
  unfold stripPlus
  split
  · exact Or.inr rfl
  · exact Or.inl rfl

theorem parse_eq_some_iff {limit n : Nat} {s : List Char} :
    parse limit s = some n <-> Numeral limit s n := by
  constructor
  · intro h
    have hlt : n < limit := lt_of_parse h
    simp only [parse] at h
    split at h
    · next hdigits =>
        split at h
        · refine ⟨stripPlus s, stripPlus_eq s, hdigits.1, ?_, Option.some.inj h, hlt⟩
          exact List.all_eq_true.mp hdigits.2
        · cases h
    · cases h
  · intro h
    rcases h with ⟨digits, hs, hne, hdigits, hvalue, hlt⟩
    have hstrip : stripPlus s = digits := by
      rcases hs with rfl | rfl
      · exact stripPlus_of_digits hdigits
      · rfl
    have hall : digits.all Char.isDigit = true := List.all_eq_true.mpr hdigits
    simp only [parse, hstrip, if_pos (And.intro hne hall), hvalue, if_pos hlt]

theorem parse_print {limit n : Nat} (h : n < limit) :
    parse limit (print n) = some n := by
  rw [parse_of_digits (print_ne_nil n) fun c => isDigit_of_mem_print,
    ofDigitChars_print, if_pos h]

theorem parse_print_of_le {limit n : Nat} (h : limit ≤ n) :
    parse limit (print n) = none := by
  rw [parse_of_digits (print_ne_nil n) fun c => isDigit_of_mem_print,
    ofDigitChars_print, if_neg (by omega)]

end Decimal

end Foundation
