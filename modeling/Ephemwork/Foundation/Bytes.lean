import Ephemwork.Foundation.Text

/-!
# Byte strings

Texts as they travel and are stored: their UTF-8 encoding, and the search for
the first place where a pattern of bytes occurs.
-/

namespace Foundation

abbrev Bytes : Type :=
  List UInt8

namespace Bytes

/-!
# UTF-8
-/

def ofText (s : List Char) : Bytes :=
  s.flatMap String.utf8EncodeChar

def toText? (bytes : Bytes) : Option (List Char) :=
  bytes.toByteArray.utf8Decode?.map Array.toList

@[simp] theorem ofText_cons (c : Char) (s : List Char) :
    ofText (c :: s) = String.utf8EncodeChar c ++ ofText s := rfl

@[simp] theorem ofText_append (s t : List Char) :
    ofText (s ++ t) = ofText s ++ ofText t := by
  simp [ofText]

@[simp] theorem toText?_ofText (s : List Char) : toText? (ofText s) = some s := by
  have h : (ofText s).toByteArray = s.utf8Encode := rfl
  simp [toText?, h]

theorem ofText_inj {s t : List Char} (h : ofText s = ofText t) : s = t := by
  have hs := toText?_ofText s
  rw [h, toText?_ofText] at hs
  exact (Option.some.inj hs).symm

theorem ofText_of_toText? {bytes : Bytes} {s : List Char}
    (h : toText? bytes = some s) : ofText s = bytes := by
  have hsome : bytes.toByteArray.utf8Decode?.isSome := by
    rw [← Option.isSome_map, ← toText?, h]
    rfl
  rcases ByteArray.isSome_utf8Decode?_iff.mp hsome with ⟨t, ht⟩
  have hbytes : bytes = ofText t := by
    have hlists := congrArg (fun b => b.data.toList) ht
    simpa [List.utf8Encode, ofText] using hlists
  rw [hbytes, toText?_ofText] at h
  cases h
  exact hbytes.symm

theorem utf8EncodeChar_of_lt {c : Char} (h : c.toNat < 128) :
    String.utf8EncodeChar c = [UInt8.ofNat c.toNat] := by
  have hle : c.val.toNat ≤ 0x7f := Nat.le_of_lt_succ h
  simp only [String.utf8EncodeChar, if_pos hle]
  rfl

theorem le_of_mem_utf8EncodeChar {c : Char} (h : 128 ≤ c.toNat) {b : UInt8}
    (hb : b ∈ String.utf8EncodeChar c) : 128 ≤ b.toNat := by
  have hnot : ¬ c.val.toNat ≤ 0x7f := Nat.not_le_of_lt h
  simp only [String.utf8EncodeChar, if_neg hnot] at hb
  split at hb
  · simp only [List.mem_cons, List.not_mem_nil, or_false] at hb
    rcases hb with rfl | rfl <;> rw [UInt8.toNat_ofNat'] <;> omega
  · split at hb
    · simp only [List.mem_cons, List.not_mem_nil, or_false] at hb
      rcases hb with rfl | rfl | rfl <;> rw [UInt8.toNat_ofNat'] <;> omega
    · simp only [List.mem_cons, List.not_mem_nil, or_false] at hb
      rcases hb with rfl | rfl | rfl | rfl <;>
        rw [UInt8.toNat_ofNat'] <;> omega

theorem mem_ofText_iff {b : UInt8} (hb : b.toNat < 128) (s : List Char) :
    b ∈ ofText s <-> exists c, c ∈ s ∧ c.toNat = b.toNat := by
  simp only [ofText, List.mem_flatMap]
  constructor
  · intro h
    rcases h with ⟨c, hc, hmem⟩
    refine ⟨c, hc, ?_⟩
    by_cases hlt : c.toNat < 128
    · rw [utf8EncodeChar_of_lt hlt, List.mem_singleton] at hmem
      rw [hmem, UInt8.toNat_ofNat', Nat.mod_eq_of_lt (by omega)]
    · have hle := le_of_mem_utf8EncodeChar (Nat.le_of_not_lt hlt) hmem
      omega
  · intro h
    rcases h with ⟨c, hc, heq⟩
    refine ⟨c, hc, ?_⟩
    rw [utf8EncodeChar_of_lt (by omega), List.mem_singleton, heq]
    exact (UInt8.ofNat_toNat).symm

theorem notMem_ofText {c : Char} {b : UInt8} (hb : b.toNat < 128)
    (hcode : c.toNat = b.toNat) {s : List Char} (hs : c ∉ s) :
    b ∉ ofText s := by
  intro hmem
  rcases (mem_ofText_iff hb s).mp hmem with ⟨d, hd, heq⟩
  have hdc : d = c := by
    apply Char.ext
    apply UInt32.toNat_inj.mp
    exact heq.trans hcode.symm
  exact hs (hdc ▸ hd)

theorem all_ofText {test : UInt8 -> Bool} {charTest : Char -> Bool}
    (hlow : forall c : Char, c.toNat < 128 ->
      test (UInt8.ofNat c.toNat) = charTest c)
    (hhigh : forall b : UInt8, 128 ≤ b.toNat -> test b = false)
    (hcharHigh : forall c : Char, 128 ≤ c.toNat -> charTest c = false)
    (s : List Char) : (ofText s).all test = s.all charTest := by
  induction s with
  | nil => rfl
  | cons c rest ih =>
      rw [ofText_cons, List.all_append, ih, List.all_cons]
      congr 1
      by_cases hc : c.toNat < 128
      · rw [utf8EncodeChar_of_lt hc]
        simp [hlow c hc]
      · have hge := Nat.le_of_not_lt hc
        rw [hcharHigh c hge]
        cases hbytes : String.utf8EncodeChar c with
        | nil => exact absurd hbytes String.utf8EncodeChar_ne_nil
        | cons b more =>
            have hb : b ∈ String.utf8EncodeChar c := by simp [hbytes]
            simp [hhigh b (le_of_mem_utf8EncodeChar hge hb)]

theorem exists_of_ofText_append {s t : List Char} {rest : Bytes}
    (h : ofText t = ofText s ++ rest) :
    exists more, t = s ++ more ∧ ofText more = rest := by
  have hencode : s.utf8Encode ++ rest.toByteArray = t.utf8Encode := by
    rw [List.utf8Encode, List.utf8Encode, ← List.toByteArray_append]
    exact congrArg List.toByteArray h.symm
  rcases List.isPrefix_of_utf8Encode_append_eq_utf8Encode _ hencode with
    ⟨more, rfl⟩
  rw [ofText_append] at h
  exact ⟨more, rfl, List.append_cancel_left h⟩

theorem toText?_ofText_append (s : List Char) (rest : Bytes) :
    toText? (ofText s ++ rest) = (toText? rest).map fun more => s ++ more := by
  cases hrest : toText? rest with
  | some more =>
      rw [← ofText_of_toText? hrest, ← ofText_append, toText?_ofText]
      rfl
  | none =>
      cases hwhole : toText? (ofText s ++ rest) with
      | none => rfl
      | some t =>
          rcases exists_of_ofText_append (ofText_of_toText? hwhole) with ⟨more, _, hmore⟩
          rw [← hmore, toText?_ofText] at hrest
          cases hrest

theorem exists_of_ofText_append_cons {c : Char} {b : UInt8}
    (hb : b.toNat < 128) (hcode : c.toNat = b.toNat) {s t : List Char}
    {rest : Bytes} (h : ofText t = ofText s ++ b :: rest) :
    exists more, t = s ++ c :: more := by
  rcases exists_of_ofText_append h with ⟨more, rfl, hmore⟩
  cases more with
  | nil => cases hmore
  | cons d others =>
      have hmem : b ∈ String.utf8EncodeChar d := by
        cases hd : String.utf8EncodeChar d with
        | nil => exact absurd hd String.utf8EncodeChar_ne_nil
        | cons first tail =>
            rw [ofText_cons, hd, List.cons_append] at hmore
            rw [(List.cons.inj hmore).left]
            exact List.mem_cons_self
      have hd : d = c := by
        by_cases hlt : d.toNat < 128
        · rw [utf8EncodeChar_of_lt hlt, List.mem_singleton] at hmem
          have hnat := congrArg UInt8.toNat hmem
          rw [UInt8.toNat_ofNat', Nat.mod_eq_of_lt (by omega)] at hnat
          apply Char.ext
          apply UInt32.toNat_inj.mp
          exact hnat.symm.trans hcode.symm
        · have hhigh := le_of_mem_utf8EncodeChar (Nat.le_of_not_lt hlt) hmem
          omega
      exact ⟨others, by rw [hd]⟩

theorem exists_ofText_of_append_cons {b : UInt8} (hb : b.toNat < 128) {s : List Char}
    {front rest : Bytes} (h : ofText s = front ++ b :: rest) :
    exists t, front = ofText t := by
  induction s generalizing front with
  | nil => exact absurd h.symm (by simp [ofText])
  | cons c more ih =>
      rw [ofText_cons] at h
      rcases List.append_eq_append_iff.mp h with ⟨others, hfront, hmore⟩ | ⟨middle, hchar, hmore⟩
      · rcases ih hmore with ⟨t, rfl⟩
        exact ⟨c :: t, hfront⟩
      · cases middle with
        | nil => exact ⟨[c], by simpa [ofText] using hchar.symm⟩
        | cons first tail =>
            -- The byte is one of this character, which then has no other.
            have hfirst : first = b := (List.cons.inj hmore).left.symm
            subst hfirst
            by_cases hlt : c.toNat < 128
            · rw [utf8EncodeChar_of_lt hlt] at hchar
              cases front with
              | nil => exact ⟨[], rfl⟩
              | cons d ds => simp at hchar
            · have hmem : first ∈ String.utf8EncodeChar c := by
                rw [hchar]
                simp
              have hhigh := le_of_mem_utf8EncodeChar (Nat.le_of_not_lt hlt) hmem
              omega

theorem toText?_append_ofText_cons {c : Char} (hc : c.toNat < 128) (front : Bytes)
    (more : List Char) :
    toText? (front ++ ofText (c :: more)) =
      (toText? front).map fun s => s ++ c :: more := by
  cases hfront : toText? front with
  | some s =>
      rw [← ofText_of_toText? hfront, ← ofText_append, toText?_ofText]
      rfl
  | none =>
      cases hwhole : toText? (front ++ ofText (c :: more)) with
      | none => rfl
      | some t =>
          have hcode : (UInt8.ofNat c.toNat).toNat < 128 := by
            rw [UInt8.toNat_ofNat', Nat.mod_eq_of_lt (by omega)]
            exact hc
          have hbytes := ofText_of_toText? hwhole
          rw [ofText_cons, utf8EncodeChar_of_lt hc, List.singleton_append] at hbytes
          rcases exists_ofText_of_append_cons hcode hbytes with ⟨s, rfl⟩
          rw [toText?_ofText] at hfront
          cases hfront

/-!
# Searching a pattern
-/

def findWindow (pattern : Bytes) : Bytes -> Option Nat
  | [] => none
  | b :: rest =>
      if pattern.isPrefixOf (b :: rest) then
        some 0
      else
        (findWindow pattern rest).map (· + 1)

theorem findWindow_of_prefix {pattern bytes : Bytes} (hne : pattern ≠ [])
    (h : pattern <+: bytes) : findWindow pattern bytes = some 0 := by
  cases bytes with
  | nil => exact absurd (List.prefix_nil.mp h) hne
  | cons b rest => simp [findWindow, h]

theorem findWindow_cons_of_ne {b p : UInt8} (h : b ≠ p) (pattern rest : Bytes) :
    findWindow (p :: pattern) (b :: rest) =
      (findWindow (p :: pattern) rest).map (· + 1) := by
  have hp : ¬ p = b := fun heq => h heq.symm
  simp [findWindow, hp]

theorem findWindow_append_of_notMem {p : UInt8} {skipped : Bytes}
    (h : p ∉ skipped) (pattern rest : Bytes) :
    findWindow (p :: pattern) (skipped ++ rest) =
      (findWindow (p :: pattern) rest).map (· + skipped.length) := by
  induction skipped with
  | nil => simp
  | cons b more ih =>
      have hb : b ≠ p := fun heq => h (by simp [heq])
      have hmore : p ∉ more := fun hmem => h (by simp [hmem])
      rw [List.cons_append, findWindow_cons_of_ne hb, ih hmore, Option.map_map]
      rfl

theorem findWindow_le {pattern bytes : Bytes} {n : Nat}
    (h : findWindow pattern bytes = some n) :
    n + pattern.length ≤ bytes.length := by
  induction bytes generalizing n with
  | nil => cases h
  | cons b rest ih =>
      by_cases hfront : pattern.isPrefixOf (b :: rest)
      · simp only [findWindow, if_pos hfront, Option.some.injEq] at h
        subst h
        have hle := (List.isPrefixOf_iff_prefix.mp hfront).length_le
        omega
      · simp only [findWindow, if_neg hfront, Option.map_eq_some_iff] at h
        rcases h with ⟨m, hm, rfl⟩
        have hle := ih hm
        simp only [List.length_cons]
        omega

theorem findWindow_append_of_some {pattern front : Bytes} {n : Nat}
    (h : findWindow pattern front = some n) (rest : Bytes) :
    findWindow pattern (front ++ rest) = some n := by
  induction front generalizing n with
  | nil => cases h
  | cons b more ih =>
      by_cases hfront : pattern.isPrefixOf (b :: more)
      · simp only [findWindow, if_pos hfront, Option.some.injEq] at h
        subst h
        have hwhole : pattern <+: b :: (more ++ rest) :=
          (List.isPrefixOf_iff_prefix.mp hfront).trans
            (List.prefix_append (b :: more) rest)
        simp [findWindow, hwhole]
      · have hlater := h
        simp only [findWindow, if_neg hfront, Option.map_eq_some_iff] at hlater
        rcases hlater with ⟨m, hm, rfl⟩
        have hroom := findWindow_le hm
        have hnot : ¬ pattern <+: b :: (more ++ rest) := by
          intro hwhole
          apply hfront
          rw [List.isPrefixOf_iff_prefix]
          refine List.prefix_of_prefix_length_le hwhole
            (List.prefix_append (b :: more) rest) ?_
          simp only [List.length_cons]
          omega
        simp [findWindow, hnot, ih hm]

theorem findWindow_prefix {pattern bytes : Bytes} {n : Nat}
    (h : findWindow pattern bytes = some n) : pattern <+: bytes.drop n := by
  induction bytes generalizing n with
  | nil => cases h
  | cons b rest ih =>
      by_cases hfront : pattern.isPrefixOf (b :: rest)
      · simp only [findWindow, if_pos hfront, Option.some.injEq] at h
        subst h
        exact List.isPrefixOf_iff_prefix.mp hfront
      · simp only [findWindow, if_neg hfront, Option.map_eq_some_iff] at h
        rcases h with ⟨m, hm, rfl⟩
        exact ih hm

theorem getElem?_of_findWindow {pattern bytes : Bytes} {n i : Nat}
    (h : findWindow pattern bytes = some n) (hi : i < pattern.length) :
    bytes[n + i]? = some pattern[i] := by
  rcases findWindow_prefix h with ⟨rest, hrest⟩
  rw [← List.getElem?_drop, ← hrest, List.getElem?_append_left hi,
    List.getElem?_eq_getElem hi]

theorem findWindow_of_append {pattern front rest : Bytes} {n : Nat}
    (hne : pattern ≠ []) (h : findWindow pattern (front ++ rest) = some n)
    (hroom : n + pattern.length ≤ front.length) :
    findWindow pattern front = some n := by
  induction front generalizing n with
  | nil =>
      have hpos := List.length_pos_iff.mpr hne
      simp only [List.length_nil] at hroom
      omega
  | cons b more ih =>
      rw [List.cons_append] at h
      by_cases hfront : pattern.isPrefixOf (b :: (more ++ rest))
      · simp only [findWindow, if_pos hfront, Option.some.injEq] at h
        subst h
        have hpart : pattern <+: b :: more := by
          apply List.prefix_of_prefix_length_le
            (List.isPrefixOf_iff_prefix.mp hfront)
            (List.prefix_append (b :: more) rest)
          omega
        simp [findWindow, hpart]
      · simp only [findWindow, if_neg hfront, Option.map_eq_some_iff] at h
        rcases h with ⟨m, hm, rfl⟩
        have hnot : ¬ pattern.isPrefixOf (b :: more) := by
          intro hpart
          apply hfront
          rw [List.isPrefixOf_iff_prefix] at hpart ⊢
          exact hpart.trans (List.prefix_append (b :: more) rest)
        simp only [List.length_cons] at hroom
        simp only [findWindow, if_neg hnot, ih hm (by omega), Option.map_some]

theorem findWindow_eq_none_of_append {pattern front rest : Bytes}
    (h : findWindow pattern (front ++ rest) = none) :
    findWindow pattern front = none := by
  cases hfront : findWindow pattern front with
  | none => rfl
  | some n =>
      rw [findWindow_append_of_some hfront] at h
      cases h

theorem findWindow_take_iff {pattern bytes : Bytes} (hne : pattern ≠ []) {n k : Nat} :
    findWindow pattern (bytes.take n) = some k <->
      findWindow pattern bytes = some k ∧ k + pattern.length ≤ n := by
  constructor
  · intro h
    have hroom := findWindow_le h
    have hwhole := findWindow_append_of_some h (bytes.drop n)
    rw [List.take_append_drop] at hwhole
    rw [List.length_take] at hroom
    exact ⟨hwhole, by omega⟩
  · rintro ⟨h, hle⟩
    have hroom := findWindow_le h
    rw [← List.take_append_drop n bytes] at h
    apply findWindow_of_append hne h
    rw [List.length_take]
    omega

end Bytes

end Foundation
