import Ephemwork.Foundation.Base64

/-!
# Base64

The encoder of `src/aws_bastion_provisioner.rs`.  A place in the alphabet is
looked up together with the reason why it is one.  A second version makes every
check that the source leaves to the machine, and never fails one.
-/

namespace Ephemwork

open Foundation

namespace Laptop

def base64Alphabet : List Char :=
  "ABCDEFGHIJKLMNOPQRSTUVWXYZabcdefghijklmnopqrstuvwxyz0123456789+/".toList

theorem length_base64Alphabet : base64Alphabet.length = 64 := by decide

def base64Char (index : UInt8) (h : index.toNat < 64) : Char :=
  base64Alphabet.get ⟨index.toNat, by rw [length_base64Alphabet]; exact h⟩

/-!
# The places as numbers
-/

section Places

variable (b c : UInt8)

theorem toNat_lowBits {mask : UInt8} {bits : Nat} (h : mask.toNat = 1 <<< bits - 1) :
    (b &&& mask).toNat = b.toNat % (1 <<< bits) := by
  rw [UInt8.toNat_and, h, Nat.one_shiftLeft, Nat.and_two_pow_sub_one_eq_mod]

theorem toNat_lowTwo : (b &&& 0b11).toNat = b.toNat % 4 :=
  toNat_lowBits b (show (0b11 : UInt8).toNat = 1 <<< 2 - 1 from rfl)

theorem toNat_lowFour : (b &&& 0b1111).toNat = b.toNat % 16 :=
  toNat_lowBits b (show (0b1111 : UInt8).toNat = 1 <<< 4 - 1 from rfl)

theorem toNat_highBits : ((b &&& 0b11) <<< 4).toNat = (b.toNat % 4) <<< 4 := by
  rw [UInt8.toNat_shiftLeft, toNat_lowTwo]
  show (b.toNat % 4) <<< 4 % 256 = _
  rw [Nat.shiftLeft_eq]
  omega

theorem toNat_middleBits : ((b &&& 0b1111) <<< 2).toNat = (b.toNat % 16) <<< 2 := by
  rw [UInt8.toNat_shiftLeft, toNat_lowFour]
  show (b.toNat % 16) <<< 2 % 256 = _
  rw [Nat.shiftLeft_eq]
  omega

theorem toNat_firstPlace : (b >>> 2).toNat = b.toNat / 4 := by
  rw [UInt8.toNat_shiftRight]
  exact Nat.shiftRight_eq_div_pow b.toNat 2

theorem toNat_secondPlace :
    (((b &&& 0b11) <<< 4) ||| (c >>> 4)).toNat = b.toNat % 4 * 16 + c.toNat / 16 := by
  have hc : c.toNat < 256 := c.toNat_lt
  have hlow : (c >>> 4).toNat = c.toNat / 16 := by
    rw [UInt8.toNat_shiftRight]
    exact Nat.shiftRight_eq_div_pow c.toNat 4
  rw [UInt8.toNat_or, toNat_highBits, hlow,
    ← Nat.shiftLeft_add_eq_or_of_lt (by omega), Nat.shiftLeft_eq]

theorem toNat_thirdPlace :
    (((b &&& 0b1111) <<< 2) ||| (c >>> 6)).toNat = b.toNat % 16 * 4 + c.toNat / 64 := by
  have hc : c.toNat < 256 := c.toNat_lt
  have hlow : (c >>> 6).toNat = c.toNat / 64 := by
    rw [UInt8.toNat_shiftRight]
    exact Nat.shiftRight_eq_div_pow c.toNat 6
  rw [UInt8.toNat_or, toNat_middleBits, hlow,
    ← Nat.shiftLeft_add_eq_or_of_lt (by omega), Nat.shiftLeft_eq]

theorem toNat_fourthPlace : (b &&& 0b111111).toNat = b.toNat % 64 :=
  toNat_lowBits b (show (0b111111 : UInt8).toNat = 1 <<< 6 - 1 from rfl)

theorem firstPlace_lt : (b >>> 2).toNat < 64 := by
  have hb : b.toNat < 256 := b.toNat_lt
  rw [toNat_firstPlace]
  omega

theorem secondPlace_lt : (((b &&& 0b11) <<< 4) ||| (c >>> 4)).toNat < 64 := by
  have hc : c.toNat < 256 := c.toNat_lt
  rw [toNat_secondPlace]
  omega

theorem thirdPlace_lt : (((b &&& 0b1111) <<< 2) ||| (c >>> 6)).toNat < 64 := by
  have hc : c.toNat < 256 := c.toNat_lt
  rw [toNat_thirdPlace]
  omega

theorem fourthPlace_lt : (b &&& 0b111111).toNat < 64 := by
  rw [toNat_fourthPlace]
  exact Nat.mod_lt b.toNat (by decide)

end Places

/-!
# The encoder
-/

def base64Chunk (b0 : UInt8) (second third : Option UInt8) : List Char :=
  let b1 := second.getD 0
  let b2 := third.getD 0
  [base64Char (b0 >>> 2) (firstPlace_lt b0),
   base64Char (((b0 &&& 0b11) <<< 4) ||| (b1 >>> 4)) (secondPlace_lt b0 b1),
   if second.isSome then
     base64Char (((b1 &&& 0b1111) <<< 2) ||| (b2 >>> 6)) (thirdPlace_lt b1 b2)
   else
     '=',
   if third.isSome then
     base64Char (b2 &&& 0b111111) (fourthPlace_lt b2)
   else
     '=']

def base64Encode : Bytes -> List Char
  | [] => []
  | [b0] => base64Chunk b0 none none
  | [b0, b1] => base64Chunk b0 (some b1) none
  | b0 :: b1 :: b2 :: rest => base64Chunk b0 (some b1) (some b2) ++ base64Encode rest

/-!
# The encoder with every check of the source

Each shift is checked for its amount and for bits pushed out of the byte, and
each place is looked up in the alphabet with the chance to miss it.
-/

def checkedShl (b : UInt8) (amount : Nat) : Option UInt8 :=
  if amount < 8 ∧ b.toNat <<< amount < 256 then some (b <<< UInt8.ofNat amount) else none

def checkedShr (b : UInt8) (amount : Nat) : Option UInt8 :=
  if amount < 8 then some (b >>> UInt8.ofNat amount) else none

def alphabetAt (index : UInt8) : Option Char :=
  base64Alphabet[index.toNat]?

def firstPlace? (b0 : UInt8) : Option Char := do
  alphabetAt (<- checkedShr b0 2)

def secondPlace? (b0 b1 : UInt8) : Option Char := do
  alphabetAt ((<- checkedShl (b0 &&& 0b11) 4) ||| (<- checkedShr b1 4))

def thirdPlace? (b1 b2 : UInt8) : Option Char := do
  alphabetAt ((<- checkedShl (b1 &&& 0b1111) 2) ||| (<- checkedShr b2 6))

def fourthPlace? (b2 : UInt8) : Option Char :=
  alphabetAt (b2 &&& 0b111111)

def checkedBase64Chunk (chunk : Bytes) : Option (List Char) := do
  let b0 <- chunk[0]?
  let b1 := chunk[1]?.getD 0
  let b2 := chunk[2]?.getD 0
  let first <- firstPlace? b0
  let second <- secondPlace? b0 b1
  let third <- if chunk.length > 1 then thirdPlace? b1 b2 else some '='
  let fourth <- if chunk.length > 2 then fourthPlace? b2 else some '='
  some [first, second, third, fourth]

def chunks : Bytes -> List Bytes
  | [] => []
  | [b0] => [[b0]]
  | [b0, b1] => [[b0, b1]]
  | b0 :: b1 :: b2 :: rest => [b0, b1, b2] :: chunks rest

def checkedBase64Encode (input : Bytes) : Option (List Char) := do
  let groups <- (chunks input).mapM checkedBase64Chunk
  some groups.flatten

/-!
# The encoder is the standard one
-/

theorem base64Char_eq_digit {index : UInt8} (h : index.toNat < 64) :
    base64Char index h = Base64.digit index.toNat := by
  have hall : forall n, n < 64 -> base64Alphabet[n]? = some (Base64.digit n) := by
    decide +kernel
  have hplace := hall index.toNat h
  rw [List.getElem?_eq_getElem (by rw [length_base64Alphabet]; exact h)] at hplace
  exact Option.some.inj hplace

theorem base64Chunk_full (b0 b1 b2 : UInt8) :
    base64Chunk b0 (some b1) (some b2) = Base64.fullGroup b0 b1 b2 := by
  simp only [base64Chunk, base64Char_eq_digit, Option.getD_some, Option.isSome_some,
    if_true, toNat_firstPlace, toNat_secondPlace, toNat_thirdPlace, toNat_fourthPlace,
    Base64.fullGroup]

theorem base64Chunk_two (b0 b1 : UInt8) :
    base64Chunk b0 (some b1) none = Base64.twoByteGroup b0 b1 := by
  simp only [base64Chunk, base64Char_eq_digit, Option.getD_some, Option.getD_none,
    Option.isSome_some, Option.isSome_none, if_true, if_false, Bool.false_eq_true,
    toNat_firstPlace, toNat_secondPlace, toNat_thirdPlace, UInt8.toNat_zero,
    Nat.zero_div, Nat.add_zero, Base64.twoByteGroup]

theorem base64Chunk_one (b0 : UInt8) :
    base64Chunk b0 none none = Base64.oneByteGroup b0 := by
  simp only [base64Chunk, base64Char_eq_digit, Option.getD_none, Option.isSome_none,
    if_false, Bool.false_eq_true, toNat_firstPlace, toNat_secondPlace, UInt8.toNat_zero,
    Nat.zero_div, Nat.add_zero, Base64.oneByteGroup]

theorem base64Encode_eq_encode (input : Bytes) :
    base64Encode input = Base64.encode input := by
  induction input using base64Encode.induct with
  | case1 => rfl
  | case2 b0 => exact base64Chunk_one b0
  | case3 b0 b1 => exact base64Chunk_two b0 b1
  | case4 b0 b1 b2 rest ih =>
      rw [base64Encode, Base64.encode, base64Chunk_full, ih]

/-!
# No check of the source fails
-/

theorem alphabetAt_eq {index : UInt8} (h : index.toNat < 64) :
    alphabetAt index = some (base64Char index h) :=
  List.getElem?_eq_getElem (by rw [length_base64Alphabet]; exact h)

theorem firstPlace?_eq (b0 : UInt8) :
    firstPlace? b0 = some (base64Char (b0 >>> 2) (firstPlace_lt b0)) :=
  alphabetAt_eq (firstPlace_lt b0)

theorem checkedShl_eq {b : UInt8} {amount : Nat} (hamount : amount < 8)
    (hbits : b.toNat <<< amount < 256) :
    checkedShl b amount = some (b <<< UInt8.ofNat amount) := by
  rw [checkedShl, if_pos ⟨hamount, hbits⟩]

theorem secondPlace?_eq (b0 b1 : UInt8) :
    secondPlace? b0 b1 =
      some (base64Char (((b0 &&& 0b11) <<< 4) ||| (b1 >>> 4))
        (secondPlace_lt b0 b1)) := by
  have hbits : (b0 &&& 0b11).toNat <<< 4 < 256 := by
    rw [toNat_lowTwo, Nat.shiftLeft_eq]
    omega
  rw [secondPlace?, checkedShl_eq (by decide) hbits]
  exact alphabetAt_eq (secondPlace_lt b0 b1)

theorem thirdPlace?_eq (b1 b2 : UInt8) :
    thirdPlace? b1 b2 =
      some (base64Char (((b1 &&& 0b1111) <<< 2) ||| (b2 >>> 6))
        (thirdPlace_lt b1 b2)) := by
  have hbits : (b1 &&& 0b1111).toNat <<< 2 < 256 := by
    rw [toNat_lowFour, Nat.shiftLeft_eq]
    omega
  rw [thirdPlace?, checkedShl_eq (by decide) hbits]
  exact alphabetAt_eq (thirdPlace_lt b1 b2)

theorem fourthPlace?_eq (b2 : UInt8) :
    fourthPlace? b2 = some (base64Char (b2 &&& 0b111111) (fourthPlace_lt b2)) :=
  alphabetAt_eq (fourthPlace_lt b2)

theorem checkedBase64Chunk_full (b0 b1 b2 : UInt8) :
    checkedBase64Chunk [b0, b1, b2] = some (base64Chunk b0 (some b1) (some b2)) := by
  simp [checkedBase64Chunk, firstPlace?_eq, secondPlace?_eq, thirdPlace?_eq,
    fourthPlace?_eq, base64Chunk]

theorem checkedBase64Chunk_two (b0 b1 : UInt8) :
    checkedBase64Chunk [b0, b1] = some (base64Chunk b0 (some b1) none) := by
  simp [checkedBase64Chunk, firstPlace?_eq, secondPlace?_eq, thirdPlace?_eq, base64Chunk]

theorem checkedBase64Chunk_one (b0 : UInt8) :
    checkedBase64Chunk [b0] = some (base64Chunk b0 none none) := by
  simp [checkedBase64Chunk, firstPlace?_eq, secondPlace?_eq, base64Chunk]

theorem checkedBase64Encode_eq (input : Bytes) :
    checkedBase64Encode input = some (base64Encode input) := by
  induction input using base64Encode.induct with
  | case1 => rfl
  | case2 b0 =>
      simp [checkedBase64Encode, chunks, checkedBase64Chunk_one, base64Encode]
  | case3 b0 b1 =>
      simp [checkedBase64Encode, chunks, checkedBase64Chunk_two, base64Encode]
  | case4 b0 b1 b2 rest ih =>
      cases hrest : (chunks rest).mapM checkedBase64Chunk with
      | none =>
          rw [checkedBase64Encode, hrest] at ih
          cases ih
      | some groups =>
          rw [checkedBase64Encode, hrest] at ih
          have hflatten : groups.flatten = base64Encode rest := Option.some.inj ih
          simp [checkedBase64Encode, chunks, checkedBase64Chunk_full, hrest, hflatten,
            base64Encode]

/-- Standard Base64, at its length and in its alphabet, with no shift and no
look-up of the source out of range. -/
theorem base64Encode_correct (input : Bytes) :
    Base64.decode (base64Encode input) = some input ∧
      (base64Encode input).length = 4 * ((input.length + 2) / 3) ∧
      (exists front pad : List Char, base64Encode input = front ++ pad ∧
        (forall c, c ∈ front -> (Base64.sextet? c).isSome = true) ∧
          pad ∈ [[], ['='], ['=', '=']]) ∧
      checkedBase64Encode input = some (base64Encode input) := by
  have hencode := base64Encode_eq_encode input
  refine ⟨?_, ?_, ?_, checkedBase64Encode_eq input⟩
  · exact Base64.decode_eq_some_iff.mpr hencode
  · rw [hencode]
    exact Base64.length_encode input
  · rw [hencode]
    exact Base64.encode_eq_append_pad input

end Laptop

end Ephemwork
