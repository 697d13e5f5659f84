import Ephemwork.Foundation.Bytes

/-!
# Base64

The standard encoding of byte strings in groups of four characters, with its
strict decoder: padding stands at the end only, exactly where the last group is
short, and the bits that no byte fills are zero.
-/

namespace Foundation

namespace Base64

/-!
# The alphabet
-/

def digit (n : Nat) : Char :=
  if n < 26 then Char.ofNat (65 + n)
  else if n < 52 then Char.ofNat (71 + n)
  else if n < 62 then Char.ofNat (n - 4)
  else if n = 62 then '+'
  else '/'

def sextet? (c : Char) : Option Nat :=
  if 'A' ≤ c ∧ c ≤ 'Z' then some (c.toNat - 65)
  else if 'a' ≤ c ∧ c ≤ 'z' then some (c.toNat - 71)
  else if '0' ≤ c ∧ c ≤ '9' then some (c.toNat + 4)
  else if c = '+' then some 62
  else if c = '/' then some 63
  else none

@[simp] theorem sextet?_digit {n : Nat} (h : n < 64) : sextet? (digit n) = some n := by
  revert n
  decide +kernel

theorem digit_ne_pad {n : Nat} (h : n < 64) : digit n ≠ '=' := by
  revert n
  decide +kernel

theorem sextet?_of_le {c : Char} (h : 128 ≤ c.toNat) : sextet? c = none := by
  have hlow : forall d : Char, d.toNat < 128 -> ¬ c ≤ d := by
    intro d hd hle
    have hnat : c.toNat ≤ d.toNat := hle
    omega
  have hne : forall d : Char, d.toNat < 128 -> c ≠ d := by
    intro d hd heq
    rw [heq] at h
    omega
  rw [sextet?, if_neg fun hc => hlow 'Z' (by decide) hc.2,
    if_neg fun hc => hlow 'z' (by decide) hc.2,
    if_neg fun hc => hlow '9' (by decide) hc.2,
    if_neg (hne '+' (by decide)), if_neg (hne '/' (by decide))]

theorem digit_of_sextet? {c : Char} {n : Nat} (h : sextet? c = some n) :
    n < 64 ∧ digit n = c := by
  have hall : forall k, k < 128 ->
      (sextet? (Char.ofNat k)).all (fun n => n < 64 ∧ digit n = Char.ofNat k) = true := by
    decide +kernel
  by_cases hc : c.toNat < 128
  · have hchar := hall c.toNat hc
    rw [Char.ofNat_toNat, h] at hchar
    simpa using hchar
  · rw [sextet?_of_le (Nat.le_of_not_lt hc)] at h
    cases h

/-!
# Encoding
-/

section Groups

variable (x y z : UInt8)

def oneByteGroup : List Char :=
  [digit (x.toNat / 4), digit (x.toNat % 4 * 16), '=', '=']

def twoByteGroup : List Char :=
  [digit (x.toNat / 4), digit (x.toNat % 4 * 16 + y.toNat / 16),
   digit (y.toNat % 16 * 4), '=']

def fullGroup : List Char :=
  [digit (x.toNat / 4), digit (x.toNat % 4 * 16 + y.toNat / 16),
   digit (y.toNat % 16 * 4 + z.toNat / 64), digit (z.toNat % 64)]

end Groups

def encode : Bytes -> List Char
  | [] => []
  | [x] => oneByteGroup x
  | [x, y] => twoByteGroup x y
  | x :: y :: z :: rest => fullGroup x y z ++ encode rest

theorem length_encode (input : Bytes) :
    (encode input).length = 4 * ((input.length + 2) / 3) := by
  induction input using encode.induct with
  | case1 => rfl
  | case2 x => simp [encode, oneByteGroup]
  | case3 x y => simp [encode, twoByteGroup]
  | case4 x y z rest ih =>
      rw [encode, List.length_append, ih]
      simp only [fullGroup, List.length_cons, List.length_nil]
      omega

theorem encode_eq_append_pad (input : Bytes) :
    exists front pad : List Char, encode input = front ++ pad ∧
      (forall c, c ∈ front -> (sextet? c).isSome = true) ∧
        pad ∈ [[], ['='], ['=', '=']] := by
  have hdigit : forall n, n < 64 -> (sextet? (digit n)).isSome = true := by
    intro n hn
    rw [sextet?_digit hn]
    rfl
  induction input using encode.induct with
  | case1 => exact ⟨[], [], rfl, by simp, by simp⟩
  | case2 x =>
      have hx : x.toNat < 256 := x.toNat_lt
      refine ⟨[digit (x.toNat / 4), digit (x.toNat % 4 * 16)], ['=', '='], rfl, ?_,
        by simp⟩
      intro c hc
      simp only [List.mem_cons, List.not_mem_nil, or_false] at hc
      rcases hc with rfl | rfl
      · exact hdigit _ (by omega)
      · exact hdigit _ (by omega)
  | case3 x y =>
      have hx : x.toNat < 256 := x.toNat_lt
      have hy : y.toNat < 256 := y.toNat_lt
      refine ⟨[digit (x.toNat / 4), digit (x.toNat % 4 * 16 + y.toNat / 16),
        digit (y.toNat % 16 * 4)], ['='], rfl, ?_, by simp⟩
      intro c hc
      simp only [List.mem_cons, List.not_mem_nil, or_false] at hc
      rcases hc with rfl | rfl | rfl
      · exact hdigit _ (by omega)
      · exact hdigit _ (by omega)
      · exact hdigit _ (by omega)
  | case4 x y z rest ih =>
      have hx : x.toNat < 256 := x.toNat_lt
      have hy : y.toNat < 256 := y.toNat_lt
      have hz : z.toNat < 256 := z.toNat_lt
      rcases ih with ⟨front, pad, hrest, hfront, hpad⟩
      refine ⟨fullGroup x y z ++ front, pad, by rw [encode, hrest, List.append_assoc],
        ?_, hpad⟩
      intro c hc
      rcases List.mem_append.mp hc with hgroup | hmem
      · simp only [fullGroup, List.mem_cons, List.not_mem_nil, or_false] at hgroup
        rcases hgroup with rfl | rfl | rfl | rfl
        · exact hdigit _ (by omega)
        · exact hdigit _ (by omega)
        · exact hdigit _ (by omega)
        · exact hdigit _ (by omega)
      · exact hfront c hmem

/-!
# Decoding
-/

def fullGroup? (a b c d : Char) : Option Bytes :=
  match sextet? a, sextet? b, sextet? c, sextet? d with
  | some w, some x, some y, some z =>
      some [UInt8.ofNat (w * 4 + x / 16), UInt8.ofNat (x % 16 * 16 + y / 4),
        UInt8.ofNat (y % 4 * 64 + z)]
  | _, _, _, _ => none

def paddedGroup? (a b c : Char) : Option Bytes :=
  match sextet? a, sextet? b with
  | some w, some x =>
      if c = '=' then
        if x % 16 = 0 then some [UInt8.ofNat (w * 4 + x / 16)] else none
      else
        match sextet? c with
        | some y =>
            if y % 4 = 0 then
              some [UInt8.ofNat (w * 4 + x / 16), UInt8.ofNat (x % 16 * 16 + y / 4)]
            else none
        | none => none
  | _, _ => none

def decode : List Char -> Option Bytes
  | [] => some []
  | a :: b :: c :: d :: rest =>
      if d = '=' ∧ rest = [] then paddedGroup? a b c
      else
        match fullGroup? a b c d, decode rest with
        | some bytes, some more => some (bytes ++ more)
        | _, _ => none
  | _ => none

/-!
# The decoder undoes the encoder
-/

theorem ofNat_eq {n : Nat} {b : UInt8} (h : n = b.toNat) : UInt8.ofNat n = b := by
  rw [h, UInt8.ofNat_toNat]

theorem decode_oneByteGroup (x : UInt8) : decode (oneByteGroup x) = some [x] := by
  have hx : x.toNat < 256 := x.toNat_lt
  have hbyte : UInt8.ofNat (x.toNat / 4 * 4 + x.toNat % 4 * 16 / 16) = x :=
    ofNat_eq (by omega)
  rw [oneByteGroup, decode, if_pos ⟨rfl, rfl⟩, paddedGroup?, sextet?_digit (by omega),
    sextet?_digit (by omega)]
  show (if x.toNat % 4 * 16 % 16 = 0 then _ else _) = _
  rw [if_pos (by omega), hbyte]

theorem decode_twoByteGroup (x y : UInt8) :
    decode (twoByteGroup x y) = some [x, y] := by
  have hx : x.toNat < 256 := x.toNat_lt
  have hy : y.toNat < 256 := y.toNat_lt
  have hfirst : UInt8.ofNat (x.toNat / 4 * 4 +
      (x.toNat % 4 * 16 + y.toNat / 16) / 16) = x := ofNat_eq (by omega)
  have hsecond : UInt8.ofNat ((x.toNat % 4 * 16 + y.toNat / 16) % 16 * 16 +
      y.toNat % 16 * 4 / 4) = y := ofNat_eq (by omega)
  rw [twoByteGroup, decode, if_pos ⟨rfl, rfl⟩, paddedGroup?, sextet?_digit (by omega),
    sextet?_digit (by omega), sextet?_digit (by omega)]
  show (if digit (y.toNat % 16 * 4) = '=' then _ else
    if y.toNat % 16 * 4 % 4 = 0 then _ else _) = _
  rw [if_neg (digit_ne_pad (by omega)), if_pos (by omega), hfirst, hsecond]

theorem decode_fullGroup (x y z : UInt8) (rest : List Char) :
    decode (fullGroup x y z ++ rest) =
      (decode rest).map fun more => [x, y, z] ++ more := by
  have hx : x.toNat < 256 := x.toNat_lt
  have hy : y.toNat < 256 := y.toNat_lt
  have hz : z.toNat < 256 := z.toNat_lt
  have hfirst : UInt8.ofNat (x.toNat / 4 * 4 +
      (x.toNat % 4 * 16 + y.toNat / 16) / 16) = x := ofNat_eq (by omega)
  have hsecond : UInt8.ofNat ((x.toNat % 4 * 16 + y.toNat / 16) % 16 * 16 +
      (y.toNat % 16 * 4 + z.toNat / 64) / 4) = y := ofNat_eq (by omega)
  have hthird : UInt8.ofNat ((y.toNat % 16 * 4 + z.toNat / 64) % 4 * 64 +
      z.toNat % 64) = z := ofNat_eq (by omega)
  have hgroup : fullGroup? (digit (x.toNat / 4))
      (digit (x.toNat % 4 * 16 + y.toNat / 16))
      (digit (y.toNat % 16 * 4 + z.toNat / 64)) (digit (z.toNat % 64)) =
        some [x, y, z] := by
    rw [fullGroup?, sextet?_digit (by omega), sextet?_digit (by omega),
      sextet?_digit (by omega), sextet?_digit (by omega)]
    show some [_, _, _] = _
    rw [hfirst, hsecond, hthird]
  show decode (_ :: _ :: _ :: digit (z.toNat % 64) :: rest) = _
  rw [decode, if_neg fun h => digit_ne_pad (by omega) h.1, hgroup]
  cases decode rest with
  | none => rfl
  | some more => rfl

theorem decode_encode (input : Bytes) : decode (encode input) = some input := by
  induction input using encode.induct with
  | case1 => rfl
  | case2 x => exact decode_oneByteGroup x
  | case3 x y => exact decode_twoByteGroup x y
  | case4 x y z rest ih =>
      rw [encode, decode_fullGroup, ih]
      rfl

/-!
# What the decoder accepts
-/

theorem toNat_ofNat_of_lt {n : Nat} (h : n < 256) : (UInt8.ofNat n).toNat = n := by
  rw [UInt8.toNat_ofNat', Nat.mod_eq_of_lt h]

theorem fullGroup?_eq_some {a b c d : Char} {bytes : Bytes}
    (h : fullGroup? a b c d = some bytes) :
    exists x y z, bytes = [x, y, z] ∧ fullGroup x y z = [a, b, c, d] := by
  rw [fullGroup?] at h
  split at h
  · next w x y z ha hb hc hd =>
      have hw := digit_of_sextet? ha
      have hx := digit_of_sextet? hb
      have hy := digit_of_sextet? hc
      have hz := digit_of_sextet? hd
      have hfirst : (w * 4 + x / 16) / 4 = w := by omega
      have hsecond : (w * 4 + x / 16) % 4 * 16 + (x % 16 * 16 + y / 4) / 16 = x := by
        omega
      have hthird : (x % 16 * 16 + y / 4) % 16 * 4 + (y % 4 * 64 + z) / 64 = y := by
        omega
      have hfourth : (y % 4 * 64 + z) % 64 = z := by omega
      refine ⟨_, _, _, (Option.some.inj h).symm, ?_⟩
      rw [fullGroup, toNat_ofNat_of_lt (by omega), toNat_ofNat_of_lt (by omega),
        toNat_ofNat_of_lt (by omega), hfirst, hsecond, hthird, hfourth, hw.2, hx.2,
        hy.2, hz.2]
  · cases h

theorem paddedGroup?_eq_some {a b c : Char} {bytes : Bytes}
    (h : paddedGroup? a b c = some bytes) :
    (exists x, bytes = [x] ∧ oneByteGroup x = [a, b, c, '=']) ∨
      (exists x y, bytes = [x, y] ∧ twoByteGroup x y = [a, b, c, '=']) := by
  rw [paddedGroup?] at h
  split at h
  · next w x ha hb =>
      have hw := digit_of_sextet? ha
      have hx := digit_of_sextet? hb
      have hfirst : (w * 4 + x / 16) / 4 = w := by omega
      by_cases hpad : c = '='
      · rw [if_pos hpad] at h
        by_cases hspare : x % 16 = 0
        · rw [if_pos hspare] at h
          have hsecond : (w * 4 + x / 16) % 4 * 16 = x := by omega
          refine Or.inl ⟨_, (Option.some.inj h).symm, ?_⟩
          rw [oneByteGroup, toNat_ofNat_of_lt (by omega), hfirst, hsecond, hw.2, hx.2,
            hpad]
        · rw [if_neg hspare] at h
          cases h
      · rw [if_neg hpad] at h
        split at h
        · next y hc =>
            have hy := digit_of_sextet? hc
            by_cases hspare : y % 4 = 0
            · rw [if_pos hspare] at h
              have hsecond : (w * 4 + x / 16) % 4 * 16 +
                  (x % 16 * 16 + y / 4) / 16 = x := by omega
              have hthird : (x % 16 * 16 + y / 4) % 16 * 4 = y := by omega
              refine Or.inr ⟨_, _, (Option.some.inj h).symm, ?_⟩
              rw [twoByteGroup, toNat_ofNat_of_lt (by omega),
                toNat_ofNat_of_lt (by omega), hfirst, hsecond, hthird, hw.2, hx.2, hy.2]
            · rw [if_neg hspare] at h
              cases h
        · cases h
  · cases h

theorem encode_of_decode {text : List Char} {input : Bytes}
    (h : decode text = some input) : encode input = text := by
  induction text using decode.induct generalizing input with
  | case1 =>
      cases h
      rfl
  | case2 a b c d rest hlast =>
      rw [decode, if_pos hlast] at h
      rw [hlast.1, hlast.2]
      rcases paddedGroup?_eq_some h with ⟨x, rfl, hgroup⟩ | ⟨x, y, rfl, hgroup⟩
      · exact hgroup
      · exact hgroup
  | case3 a b c d rest hlast bytes more hmore hbytes ih =>
      rw [decode, if_neg hlast, hbytes, hmore] at h
      rcases fullGroup?_eq_some hbytes with ⟨x, y, z, rfl, hgroup⟩
      cases h
      show fullGroup x y z ++ encode more = _
      rw [hgroup, ih hmore]
      rfl
  | case4 a b c d rest hlast hnone =>
      rw [decode, if_neg hlast] at h
      split at h
      · next bytes more hbytes hmore => exact (hnone bytes more hbytes hmore).elim
      · cases h
  | case5 text hnil hcons =>
      rw [decode.eq_3 text hnil hcons] at h
      cases h

theorem decode_eq_some_iff {text : List Char} {input : Bytes} :
    decode text = some input <-> text = encode input := by
  constructor
  · intro h
    exact (encode_of_decode h).symm
  · intro h
    rw [h]
    exact decode_encode input

end Base64

end Foundation
