import Mathlib.Data.List.Basic

/-!
# Unicode encodings

UTF-8 and UTF-16, with readers that go on behind bytes or units that encode no character: each
such stretch is read as the replacement character. Bytes and units are numbers.
-/

namespace Library

open List

/-- What is read where no character is. -/
def replacement : Char :=
  Char.ofNat 0xfffd

/-- The numbers of characters. -/
theorem toNat_valid (char : Char) :
    char.toNat < 0xd800 ∨ 0xdfff < char.toNat ∧ char.toNat < 0x110000 :=
  char.valid

namespace Utf8

/-- The bytes of a character. -/
def encodeChar (char : Char) : List Nat :=
  let point := char.toNat
  if point < 0x80 then [point]
  else if point < 0x800 then [0xc0 + point / 64, 0x80 + point % 64]
  else if point < 0x10000 then
    [0xe0 + point / 4096, 0x80 + point / 64 % 64, 0x80 + point % 64]
  else
    [0xf0 + point / 262144, 0x80 + point / 4096 % 64, 0x80 + point / 64 % 64, 0x80 + point % 64]

def encode (text : List Char) : List Nat :=
  text.flatMap encodeChar

/-- A character of which bytes are missing: how many, its number so far, and the bounds of the
next byte. -/
structure Pending where
  needed : Nat
  point : Nat
  lower : Nat := 0x80
  upper : Nat := 0xbf

/-- What the first byte of a character gives, and what it leaves pending. -/
def start (byte : Nat) : List Char × Option Pending :=
  if byte < 0x80 then ([Char.ofNat byte], none)
  else if 0xc2 ≤ byte ∧ byte ≤ 0xdf then ([], some { needed := 1, point := byte - 0xc0 })
  else if 0xe0 ≤ byte ∧ byte ≤ 0xef then
    ([], some {
      needed := 2
      point := byte - 0xe0
      lower := if byte = 0xe0 then 0xa0 else 0x80
      upper := if byte = 0xed then 0x9f else 0xbf })
  else if 0xf0 ≤ byte ∧ byte ≤ 0xf4 then
    ([], some {
      needed := 3
      point := byte - 0xf0
      lower := if byte = 0xf0 then 0x90 else 0x80
      upper := if byte = 0xf4 then 0x8f else 0xbf })
  else ([replacement], none)

def decodeFrom : Option Pending → List Nat → List Char
  | none, [] => []
  | some _, [] => [replacement]
  | none, byte :: rest => (start byte).1 ++ decodeFrom (start byte).2 rest
  | some pending, byte :: rest =>
    if pending.lower ≤ byte ∧ byte ≤ pending.upper then
      let point := pending.point * 64 + (byte - 0x80)
      if pending.needed = 1 then Char.ofNat point :: decodeFrom none rest
      else decodeFrom (some { needed := pending.needed - 1, point := point }) rest
    else
      -- The byte that does not fit may start a character.
      replacement :: ((start byte).1 ++ decodeFrom (start byte).2 rest)

def decode (bytes : List Nat) : List Char :=
  decodeFrom none bytes

section Bytes

variable {needed point lower upper byte : Nat}

/-- A byte within the bounds, when it is the last one. -/
theorem decodeFrom_last (rest : List Nat) (low : lower ≤ byte) (high : byte ≤ upper) :
    decodeFrom (some ⟨1, point, lower, upper⟩) (byte :: rest) =
      Char.ofNat (point * 64 + (byte - 0x80)) :: decodeFrom none rest := by
  rw [decodeFrom, if_pos ⟨low, high⟩]
  rfl

/-- A byte within the bounds, when more are missing. -/
theorem decodeFrom_more (rest : List Nat) (low : lower ≤ byte) (high : byte ≤ upper) :
    decodeFrom (some ⟨needed + 2, point, lower, upper⟩) (byte :: rest) =
      decodeFrom (some ⟨needed + 1, point * 64 + (byte - 0x80), 0x80, 0xbf⟩) rest := by
  rw [decodeFrom, if_pos ⟨low, high⟩]
  rfl

theorem start_one (small : byte < 0x80) : start byte = ([Char.ofNat byte], none) :=
  if_pos small

theorem start_two (low : 0xc2 ≤ byte) (high : byte ≤ 0xdf) :
    start byte = ([], some ⟨1, byte - 0xc0, 0x80, 0xbf⟩) := by
  rw [start, if_neg (by omega), if_pos ⟨low, high⟩]

theorem start_three (low : 0xe0 ≤ byte) (high : byte ≤ 0xef) :
    start byte = ([], some ⟨2, byte - 0xe0, if byte = 0xe0 then 0xa0 else 0x80,
      if byte = 0xed then 0x9f else 0xbf⟩) := by
  rw [start, if_neg (by omega), if_neg (by omega), if_pos ⟨low, high⟩]

theorem start_four (low : 0xf0 ≤ byte) (high : byte ≤ 0xf4) :
    start byte = ([], some ⟨3, byte - 0xf0, if byte = 0xf0 then 0x90 else 0x80,
      if byte = 0xf4 then 0x8f else 0xbf⟩) := by
  rw [start, if_neg (by omega), if_neg (by omega), if_neg (by omega), if_pos ⟨low, high⟩]

end Bytes

/-- A character is read back, whatever follows. -/
theorem decodeFrom_encodeChar (char : Char) (rest : List Nat) :
    decodeFrom none (encodeChar char ++ rest) = char :: decodeFrom none rest := by
  have valid := toNat_valid char
  have same : ∀ point, point = char.toNat →
      Char.ofNat point :: decodeFrom none rest = char :: decodeFrom none rest := by
    intro point pointEq
    rw [pointEq, Char.ofNat_toNat]
  unfold encodeChar
  dsimp only
  split
  next one =>
    rw [cons_append, decodeFrom, start_one one]
    exact same _ rfl
  next notOne =>
  split
  next two =>
    rw [cons_append, cons_append, decodeFrom, start_two (by omega) (by omega)]
    refine (decodeFrom_last rest ?_ ?_).trans (same _ ?_) <;> omega
  next notTwo =>
  split
  next three =>
    rw [cons_append, cons_append, cons_append, decodeFrom, start_three (by omega) (by omega)]
    refine (decodeFrom_more _ ?_ ?_).trans ((decodeFrom_last rest ?_ ?_).trans (same _ ?_))
    · split <;> omega
    · split <;> omega
    · omega
    · omega
    · omega
  next notThree =>
    rw [cons_append, cons_append, cons_append, cons_append, decodeFrom,
      start_four (by omega) (by omega)]
    refine (decodeFrom_more _ ?_ ?_).trans ((decodeFrom_more _ ?_ ?_).trans
      ((decodeFrom_last rest ?_ ?_).trans (same _ ?_)))
    · split <;> omega
    · split <;> omega
    · omega
    · omega
    · omega
    · omega
    · omega

/-- What is written is read back. -/
theorem decode_encode (text : List Char) : decode (encode text) = text := by
  rw [decode, encode]
  induction text with
  | nil => rfl
  | cons char rest ih =>
    rw [flatMap_cons, decodeFrom_encodeChar, ih]

theorem encode_lt (text : List Char) : ∀ byte ∈ encode text, byte < 256 := by
  intro byte byteMem
  obtain ⟨char, -, inChar⟩ := mem_flatMap.mp byteMem
  have valid := toNat_valid char
  unfold encodeChar at inChar
  dsimp only at inChar
  split at inChar
  · simp only [mem_cons, not_mem_nil, or_false] at inChar
    omega
  split at inChar
  · simp only [mem_cons, not_mem_nil, or_false] at inChar
    omega
  split at inChar
  · simp only [mem_cons, not_mem_nil, or_false] at inChar
    omega
  · simp only [mem_cons, not_mem_nil, or_false] at inChar
    omega

theorem length_encode_le (text : List Char) : (encode text).length ≤ 4 * text.length := by
  induction text with
  | nil => exact Nat.le_refl 0
  | cons char rest ih =>
    have short : (encodeChar char).length ≤ 4 := by
      unfold encodeChar
      dsimp only
      split
      · exact Nat.le_add_left 1 3
      split
      · exact Nat.le_add_left 2 2
      split
      · exact Nat.le_add_left 3 1
      · exact Nat.le_refl 4
    rw [encode] at *
    rw [flatMap_cons, length_append, length_cons]
    omega

/-- Characters of ASCII are one byte each. -/
theorem length_encode_of_ascii {text : List Char} (ascii : ∀ char ∈ text, char.toNat < 0x80) :
    (encode text).length = text.length := by
  induction text with
  | nil => rfl
  | cons char rest ih =>
    obtain ⟨charAscii, restAscii⟩ := forall_mem_cons.mp ascii
    have one : encodeChar char = [char.toNat] := if_pos charAscii
    have others := ih restAscii
    rw [encode] at *
    rw [flatMap_cons, one, length_append, others, length_cons]
    exact Nat.add_comm _ _

end Utf8

namespace Utf16

/-- The units of a character. -/
def encodeChar (char : Char) : List Nat :=
  let point := char.toNat
  if point < 0x10000 then [point]
  else [0xd800 + (point - 0x10000) / 1024, 0xdc00 + (point - 0x10000) % 1024]

def encode (text : List Char) : List Nat :=
  text.flatMap encodeChar

def isHigh (unit : Nat) : Bool :=
  decide (0xd800 ≤ unit) && decide (unit < 0xdc00)

def isLow (unit : Nat) : Bool :=
  decide (0xdc00 ≤ unit) && decide (unit < 0xe000)

/-- A unit that is not in a pair. -/
def single (unit : Nat) : Char :=
  if isHigh unit || isLow unit then replacement else Char.ofNat unit

def decode : List Nat → List Char
  | [] => []
  | [unit] => [single unit]
  | first :: second :: rest =>
    if isHigh first && isLow second then
      Char.ofNat (0x10000 + (first - 0xd800) * 1024 + (second - 0xdc00)) :: decode rest
    else single first :: decode (second :: rest)

/-- A unit that starts no pair. -/
theorem decode_cons {unit : Nat} (rest : List Nat) (notHigh : isHigh unit = false) :
    decode (unit :: rest) = single unit :: decode rest := by
  cases rest with
  | nil => rfl
  | cons second rest => rw [decode, notHigh, Bool.false_and, if_neg Bool.false_ne_true]

/-- A character is read back, whatever follows. -/
theorem decode_encodeChar (char : Char) (rest : List Nat) :
    decode (encodeChar char ++ rest) = char :: decode rest := by
  have valid := toNat_valid char
  unfold encodeChar
  dsimp only
  split
  next one =>
    have notHigh : isHigh char.toNat = false := by
      simp only [isHigh, Bool.and_eq_false_iff, decide_eq_false_iff_not]
      omega
    have notLow : isLow char.toNat = false := by
      simp only [isLow, Bool.and_eq_false_iff, decide_eq_false_iff_not]
      omega
    rw [singleton_append, decode_cons _ notHigh, single, notHigh, notLow, Char.ofNat_toNat]
    rfl
  next two =>
    have high : isHigh (0xd800 + (char.toNat - 0x10000) / 1024) = true := by
      simp only [isHigh, Bool.and_eq_true, decide_eq_true_eq]
      omega
    have low : isLow (0xdc00 + (char.toNat - 0x10000) % 1024) = true := by
      simp only [isLow, Bool.and_eq_true, decide_eq_true_eq]
      omega
    have point : 0x10000 + (0xd800 + (char.toNat - 0x10000) / 1024 - 0xd800) * 1024 +
        (0xdc00 + (char.toNat - 0x10000) % 1024 - 0xdc00) = char.toNat := by
      omega
    rw [cons_append, singleton_append, decode, high, low, point, Char.ofNat_toNat]
    rfl

/-- What is written is read back. -/
theorem decode_encode (text : List Char) : decode (encode text) = text := by
  rw [encode]
  induction text with
  | nil => rfl
  | cons char rest ih =>
    rw [flatMap_cons, decode_encodeChar, ih]

end Utf16

end Library
