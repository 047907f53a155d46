import Mathlib.Algebra.GroupWithZero.Nat
import Mathlib.Data.String.Basic

/-!
# Text

The character classes and string functions of the runtime that the text scanners
use. A text is its list of characters.
-/

namespace Bongtalk.Shared

/-- The class `\s`, which is also what `trim` removes. -/
def isWhitespace (char : Char) : Bool :=
  (9 ≤ char.toNat && char.toNat ≤ 13) || char.toNat == 32 || char.toNat == 0xa0 ||
    char.toNat == 0x1680 || (0x2000 ≤ char.toNat && char.toNat ≤ 0x200a) ||
    char.toNat == 0x2028 || char.toNat == 0x2029 || char.toNat == 0x202f ||
    char.toNat == 0x205f || char.toNat == 0x3000 || char.toNat == 0xfeff

/-- The class `[A-Za-z0-9_]`. -/
def isWordChar (char : Char) : Bool :=
  char.isAlphanum || char == '_'

/-- `text.trim()`. -/
def trim (text : List Char) : List Char :=
  ((text.dropWhile isWhitespace).reverse.dropWhile isWhitespace).reverse

/-- `text.split(/\s+/).filter(Boolean)`, with the word read so far in reverse. -/
def wordsFrom (word : List Char) : List Char → List (List Char)
  | [] => if word = [] then [] else [word.reverse]
  | char :: rest =>
    if isWhitespace char then
      if word = [] then wordsFrom [] rest else word.reverse :: wordsFrom [] rest
    else wordsFrom (char :: word) rest

/-- The words of a text. -/
def words (text : List Char) : List (List Char) :=
  wordsFrom [] text

/-- `words.join(' ')`. -/
def unwords (words : List (List Char)) : List Char :=
  [' '].intercalate words

/-- The number of UTF-16 units of a character. -/
def utf16Units (char : Char) : Nat :=
  if char.toNat < 0x10000 then 1 else 2

/-- `text.length`. -/
def utf16Length (text : List Char) : Nat :=
  (text.map utf16Units).sum

/-- `text.slice(0, units)`; a surrogate pair across the end is left out. -/
def takeUnits : Nat → List Char → List Char
  | _, [] => []
  | units, char :: rest =>
    if utf16Units char ≤ units then char :: takeUnits (units - utf16Units char) rest else []

/-- Whether a text occurs in another, `text.includes(part)`. -/
def includes (part : List Char) : List Char → Bool
  | [] => part.isEmpty
  | char :: rest => part.isPrefixOf (char :: rest) || includes part rest

theorem includes_iff {part text : List Char} : includes part text = true ↔ part <:+: text := by
  induction text with
  | nil => simp [includes]
  | cons char rest ih => simp [includes, List.infix_cons_iff, ih]

/-- A word has a character, and no blank. -/
theorem solid_of_mem_wordsFrom {word text read : List Char} (member : word ∈ wordsFrom read text)
    (solid : ∀ char ∈ read, isWhitespace char = false) :
    word ≠ [] ∧ ∀ char ∈ word, isWhitespace char = false := by
  induction text generalizing read with
  | nil =>
    rw [wordsFrom] at member
    split at member
    · cases member
    next nonempty =>
      obtain rfl := List.mem_singleton.mp member
      exact ⟨by simpa using nonempty, by simpa using solid⟩
  | cons char rest ih =>
    rw [wordsFrom] at member
    split at member
    · split at member
      · exact ih member (List.forall_mem_nil _)
      next nonempty =>
        rcases List.mem_cons.mp member with rfl | later
        · exact ⟨by simpa using nonempty, by simpa using solid⟩
        · exact ih later (List.forall_mem_nil _)
    next notBlank =>
      exact ih member (List.forall_mem_cons.mpr ⟨by simpa using notBlank, solid⟩)

theorem solid_of_mem_words {word text : List Char} (member : word ∈ words text) :
    word ≠ [] ∧ ∀ char ∈ word, isWhitespace char = false :=
  solid_of_mem_wordsFrom member (List.forall_mem_nil _)

end Bongtalk.Shared
