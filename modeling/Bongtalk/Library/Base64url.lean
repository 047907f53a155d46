import Mathlib.Data.List.Basic

/-!
# Base64url

Three bytes are written as four digits to the base 64, without padding. The reader takes the
digits of both alphabets and passes over other characters. Bytes are numbers below 256.
-/

namespace Library

open List

namespace Base64url

/-- The digit for a number below 64. -/
def digit (value : Nat) : Char :=
  if value < 26 then Char.ofNat (0x41 + value)
  else if value < 52 then Char.ofNat (0x61 + (value - 26))
  else if value < 62 then Char.ofNat (0x30 + (value - 52))
  else if value = 62 then '-'
  else '_'

/-- The number of a digit of either alphabet. -/
def digitValue (char : Char) : Option Nat :=
  if 'A' ≤ char ∧ char ≤ 'Z' then some (char.toNat - 0x41)
  else if 'a' ≤ char ∧ char ≤ 'z' then some (char.toNat - 0x61 + 26)
  else if '0' ≤ char ∧ char ≤ '9' then some (char.toNat - 0x30 + 52)
  else if char = '-' ∨ char = '+' then some 62
  else if char = '_' ∨ char = '/' then some 63
  else none

theorem digitValue_digit {value : Nat} (small : value < 64) :
    digitValue (digit value) = some value := by
  have table : ∀ value : Fin 64, digitValue (digit value) = some value.val := by decide
  exact table ⟨value, small⟩

/-- The digits of bytes, as numbers. -/
def toDigits : List Nat → List Nat
  | [] => []
  | [first] => [first / 4, first % 4 * 16]
  | [first, second] => [first / 4, first % 4 * 16 + second / 16, second % 16 * 4]
  | first :: second :: third :: rest =>
    first / 4 :: (first % 4 * 16 + second / 16) :: (second % 16 * 4 + third / 64) ::
      third % 64 :: toDigits rest

/-- The bytes of digits; bits that fill no byte are dropped. -/
def ofDigits : List Nat → List Nat
  | first :: second :: third :: fourth :: rest =>
    (first * 4 + second / 16) :: (second % 16 * 16 + third / 4) :: (third % 4 * 64 + fourth) ::
      ofDigits rest
  | [first, second, third] => [first * 4 + second / 16, second % 16 * 16 + third / 4]
  | [first, second] => [first * 4 + second / 16]
  | _ => []

def encode (bytes : List Nat) : List Char :=
  (toDigits bytes).map digit

def decode (text : List Char) : List Nat :=
  ofDigits (text.filterMap digitValue)

variable {bytes : List Nat}

section

variable (small : ∀ byte ∈ bytes, byte < 256)

include small

theorem toDigits_lt : ∀ value ∈ toDigits bytes, value < 64 := by
  induction bytes using toDigits.induct with
  | case1 => exact nofun
  | case2 first =>
    have firstSmall := small first (by simp)
    simp only [toDigits, mem_cons, not_mem_nil, or_false]
    omega
  | case3 first second =>
    have firstSmall := small first (by simp)
    have secondSmall := small second (by simp)
    simp only [toDigits, mem_cons, not_mem_nil, or_false]
    omega
  | case4 first second third rest ih =>
    have firstSmall := small first (by simp)
    have secondSmall := small second (by simp)
    have restSmall := ih fun byte inRest => small byte (by simp [inRest])
    intro value valueMem
    simp only [toDigits, mem_cons] at valueMem
    obtain rfl | rfl | rfl | rfl | inRest := valueMem
    · omega
    · omega
    · have thirdSmall := small third (by simp)
      omega
    · omega
    · exact restSmall value inRest

theorem ofDigits_toDigits : ofDigits (toDigits bytes) = bytes := by
  induction bytes using toDigits.induct with
  | case1 => rfl
  | case2 first =>
    simp only [toDigits, ofDigits, List.cons.injEq, and_true]
    omega
  | case3 first second =>
    have secondSmall := small second (by simp)
    simp only [toDigits, ofDigits, List.cons.injEq, and_true]
    omega
  | case4 first second third rest ih =>
    have secondSmall := small second (by simp)
    have thirdSmall := small third (by simp)
    have restSame := ih fun byte inRest => small byte (by simp [inRest])
    simp only [toDigits, ofDigits, restSame, List.cons.injEq, and_true]
    omega

/-- What is written is read back. -/
theorem decode_encode : decode (encode bytes) = bytes := by
  have digits : (encode bytes).filterMap digitValue = toDigits bytes := by
    have back : ∀ value ∈ toDigits bytes, (digitValue ∘ digit) value = some value :=
      fun value valueMem => digitValue_digit (toDigits_lt small value valueMem)
    rw [encode, filterMap_map, filterMap_congr back, filterMap_some]
  rw [decode, digits, ofDigits_toDigits small]

end

theorem length_encode_le (bytes : List Nat) : 3 * (encode bytes).length ≤ 4 * bytes.length + 2 := by
  rw [encode, length_map]
  induction bytes using toDigits.induct with
  | case1 => exact Nat.zero_le 2
  | case2 first => exact Nat.le_refl 6
  | case3 first second => exact Nat.le_succ 9
  | case4 first second third rest ih =>
    simp only [toDigits, length_cons]
    omega

theorem digit_ascii (value : Nat) : (digit value).toNat < 0x80 := by
  by_cases small : value < 64
  · have table : ∀ value : Fin 64, (digit value).toNat < 0x80 := by decide
    exact table ⟨value, small⟩
  · rw [digit, if_neg (by omega), if_neg (by omega), if_neg (by omega), if_neg (by omega)]
    decide

end Base64url

end Library
