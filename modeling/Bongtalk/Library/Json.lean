import Bongtalk.Library.Unicode

/-!
# JSON

The values, their writer and a reader. A number is kept as it is written. The reader answers
nothing where the text is not JSON.
-/

namespace Library

open List Option

inductive Json where
  | null
  | bool (value : Bool)
  | number (literal : List Char)
  | string (text : List Char)
  | array (items : List Json)
  | object (members : List (List Char × Json))

namespace Json

/-- A hexadecimal digit. -/
def hexDigit (value : Nat) : Char :=
  if value < 10 then Char.ofNat (0x30 + value) else Char.ofNat (0x61 + (value - 10))

/-- The value of a hexadecimal digit. -/
def hexValue (char : Char) : Option Nat :=
  if '0' ≤ char ∧ char ≤ '9' then some (char.toNat - 0x30)
  else if 'a' ≤ char ∧ char ≤ 'f' then some (char.toNat - 0x61 + 10)
  else if 'A' ≤ char ∧ char ≤ 'F' then some (char.toNat - 0x41 + 10)
  else none

/-- A character of a string. -/
def escape (char : Char) : List Char :=
  if char = '"' then ['\\', '"']
  else if char = '\\' then ['\\', '\\']
  else if char.toNat = 8 then ['\\', 'b']
  else if char = '\t' then ['\\', 't']
  else if char = '\n' then ['\\', 'n']
  else if char.toNat = 12 then ['\\', 'f']
  else if char = '\r' then ['\\', 'r']
  else if char.toNat < 0x20 then
    ['\\', 'u', '0', '0', hexDigit (char.toNat / 16), hexDigit (char.toNat % 16)]
  else [char]

def quote (text : List Char) : List Char :=
  '"' :: text.flatMap escape ++ ['"']

/-- The unit of an escape of one letter. -/
def escaped (letter : Char) : Option Nat :=
  if letter = '"' then some 0x22
  else if letter = '\\' then some 0x5c
  else if letter = '/' then some 0x2f
  else if letter = 'b' then some 8
  else if letter = 'f' then some 12
  else if letter = 'n' then some 10
  else if letter = 'r' then some 13
  else if letter = 't' then some 9
  else none

/-- The unit of four hexadecimal digits. -/
def hexUnit (first second third fourth : Char) : Option Nat := do
  let first ← hexValue first
  let second ← hexValue second
  let third ← hexValue third
  let fourth ← hexValue fourth
  some (((first * 16 + second) * 16 + third) * 16 + fourth)

/-- The units of an escape behind its backslash, and the number of its characters. -/
def escapeAt : List Char → Option (List Nat × Nat)
  | 'u' :: first :: second :: third :: fourth :: _ =>
    (hexUnit first second third fourth).map fun unit => ([unit], 5)
  | letter :: _ => (escaped letter).map fun unit => ([unit], 1)
  | [] => none

/-- The units that a character or an escape gives, and the number of characters behind the first
that it takes. -/
def unitsAt : List Char → Option (List Nat × Nat)
  | [] => none
  | char :: rest =>
    if char = '\\' then escapeAt rest
    else if char.toNat < 0x20 then none
    else some (Utf16.encodeChar char, 0)

/-- The units of a string up to its closing quote, and what follows, past the characters that an
escape has taken. -/
def readUnits : Nat → List Char → Option (List Nat × List Char)
  | _, [] => none
  | skip + 1, _ :: rest => readUnits skip rest
  | 0, char :: rest =>
    if char = '"' then some ([], rest)
    else
      (unitsAt (char :: rest)).bind fun taken =>
        (readUnits taken.2 rest).map fun read => (taken.1 ++ read.1, read.2)

/-- A string behind its opening quote. -/
def readString (text : List Char) : Option (List Char × List Char) :=
  (readUnits 0 text).map fun read => (Utf16.decode read.1, read.2)

theorem hexValue_hexDigit {value : Nat} (small : value < 16) :
    hexValue (hexDigit value) = some value := by
  have table : ∀ value : Fin 16, hexValue (hexDigit value) = some value.val := by decide
  exact table ⟨value, small⟩

theorem hexUnit_control {value : Nat} (control : value < 0x20) :
    hexUnit '0' '0' (hexDigit (value / 16)) (hexDigit (value % 16)) = some value := by
  rw [hexUnit, hexValue_hexDigit (by omega), hexValue_hexDigit (by omega)]
  change some (((0 * 16 + 0) * 16 + value / 16) * 16 + value % 16) = some value
  congr 1
  omega

theorem encodeChar_of_small {char : Char} {value : Nat} (valueEq : char.toNat = value)
    (small : value < 0x10000) : Utf16.encodeChar char = [value] := by
  rw [Utf16.encodeChar, valueEq]
  exact if_pos small

/-- What a character is written as stands for it, and starts with no quote. -/
theorem exists_escape (char : Char) (rest : List Char) :
    ∃ first more, escape char = first :: more ∧ first ≠ '"' ∧
      unitsAt (first :: more ++ rest) = some (Utf16.encodeChar char, more.length) := by
  unfold escape
  split
  next same =>
    have point : char.toNat = 0x22 := congrArg Char.toNat same
    rw [encodeChar_of_small point (by decide)]
    exact ⟨_, _, rfl, by decide, rfl⟩
  split
  next same =>
    have point : char.toNat = 0x5c := congrArg Char.toNat same
    rw [encodeChar_of_small point (by decide)]
    exact ⟨_, _, rfl, by decide, rfl⟩
  split
  next same =>
    rw [encodeChar_of_small same (by decide)]
    exact ⟨_, _, rfl, by decide, rfl⟩
  split
  next same =>
    have point : char.toNat = 9 := congrArg Char.toNat same
    rw [encodeChar_of_small point (by decide)]
    exact ⟨_, _, rfl, by decide, rfl⟩
  split
  next same =>
    have point : char.toNat = 10 := congrArg Char.toNat same
    rw [encodeChar_of_small point (by decide)]
    exact ⟨_, _, rfl, by decide, rfl⟩
  split
  next same =>
    rw [encodeChar_of_small same (by decide)]
    exact ⟨_, _, rfl, by decide, rfl⟩
  split
  next same =>
    have point : char.toNat = 13 := congrArg Char.toNat same
    rw [encodeChar_of_small point (by decide)]
    exact ⟨_, _, rfl, by decide, rfl⟩
  split
  next control =>
    rw [encodeChar_of_small rfl (by omega)]
    refine ⟨_, _, rfl, by decide, ?_⟩
    change (hexUnit '0' '0' _ _).map (fun unit => ([unit], 5)) = _
    rw [hexUnit_control control]
    rfl
  next notQuote notBackslash _ _ _ _ _ notControl =>
    refine ⟨_, _, rfl, notQuote, ?_⟩
    rw [List.cons_append, unitsAt, if_neg notBackslash, if_neg notControl]
    rfl

theorem readUnits_skip (taken rest : List Char) :
    readUnits taken.length (taken ++ rest) = readUnits 0 rest := by
  induction taken with
  | nil => rfl
  | cons char taken ih => exact ih

theorem readUnits_quoted (text rest : List Char) :
    readUnits 0 (text.flatMap escape ++ '"' :: rest) = some (Utf16.encode text, rest) := by
  induction text with
  | nil => rfl
  | cons char text ih =>
    obtain ⟨first, more, written, notQuote, units⟩ :=
      exists_escape char (text.flatMap escape ++ '"' :: rest)
    rw [List.flatMap_cons, written, List.append_assoc, List.cons_append, readUnits, if_neg notQuote]
    rw [List.cons_append] at units
    rw [units, Option.bind_some, readUnits_skip, ih]
    rfl

/-- A string is read back, whatever follows. -/
theorem readString_quoted (text rest : List Char) :
    readString (text.flatMap escape ++ '"' :: rest) = some (text, rest) := by
  rw [readString, readUnits_quoted, map_some, Utf16.decode_encode]

theorem quote_plain {text : List Char} (plain : ∀ char ∈ text, escape char = [char]) :
    quote text = '"' :: (text ++ ['"']) := by
  have same : text.flatMap escape = text := by
    induction text with
    | nil => rfl
    | cons char text ih =>
      obtain ⟨charPlain, textPlain⟩ := forall_mem_cons.mp plain
      rw [flatMap_cons, charPlain, ih textPlain, singleton_append]
  rw [quote, same, cons_append]

theorem length_quote {text : List Char} (plain : ∀ char ∈ text, escape char = [char]) :
    (quote text).length = text.length + 2 := by
  rw [quote_plain plain, length_cons, length_append, length_singleton]

/-- Characters that have no escape. -/
theorem escape_plain {char : Char} (low : 0x23 ≤ char.toNat) (other : char.toNat ≠ 0x5c) :
    escape char = [char] := by
  have other : ∀ special : Char, special.toNat < 0x23 ∨ special.toNat = 0x5c → char ≠ special := by
    intro special outside same
    rw [same] at low other
    omega
  rw [escape, if_neg (other _ (by decide)), if_neg (other _ (by decide)), if_neg (by omega),
    if_neg (other _ (by decide)), if_neg (other _ (by decide)), if_neg (by omega),
    if_neg (other _ (by decide)), if_neg (by omega)]

mutual

/-- The text of a value, without blanks. -/
def stringify : Json → List Char
  | .null => "null".toList
  | .bool value => if value then "true".toList else "false".toList
  | .number literal => literal
  | .string text => quote text
  | .array items => '[' :: stringifyItems items ++ [']']
  | .object members => '\x7b' :: stringifyMembers members ++ ['\x7d']

def stringifyItems : List Json → List Char
  | [] => []
  | [item] => stringify item
  | item :: items => stringify item ++ ',' :: stringifyItems items

def stringifyMembers : List (List Char × Json) → List Char
  | [] => []
  | [(name, value)] => quote name ++ ':' :: stringify value
  | (name, value) :: members => quote name ++ ':' :: stringify value ++ ',' :: stringifyMembers members

end

section Reader

def isBlank (char : Char) : Bool :=
  char == ' ' || char == '\t' || char == '\n' || char == '\r'

def skipBlanks (text : List Char) : List Char :=
  text.dropWhile isBlank

/-- What follows a sign, which may have blanks in front. -/
def expect (sign : Char) (text : List Char) : Option (List Char) :=
  match skipBlanks text with
  | char :: rest => if char = sign then some rest else none
  | [] => none

/-- Digits, of which there is at least one. -/
def readDigits (text : List Char) : Option (List Char × List Char) :=
  let digits := text.takeWhile Char.isDigit
  if digits = [] then none else some (digits, text.drop digits.length)

/-- The whole part of a number, which starts with zero only if it is zero. -/
def readWhole (text : List Char) : Option (List Char × List Char) := do
  let (digits, rest) ← readDigits text
  if digits.head? = some '0' ∧ 1 < digits.length then none else some (digits, rest)

def readFraction : List Char → Option (List Char × List Char)
  | '.' :: rest => (readDigits rest).map fun read => ('.' :: read.1, read.2)
  | text => some ([], text)

/-- An optional sign; a whole number has no plus. -/
def readSign (signs : List Char) : List Char → List Char × List Char
  | char :: rest => if char ∈ signs then ([char], rest) else ([], char :: rest)
  | [] => ([], [])

def readExponent : List Char → Option (List Char × List Char)
  | char :: rest =>
    if char = 'e' ∨ char = 'E' then
      let (sign, rest) := readSign ['+', '-'] rest
      (readDigits rest).map fun read => (char :: sign ++ read.1, read.2)
    else some ([], char :: rest)
  | [] => some ([], [])

def readNumber (text : List Char) : Option (List Char × List Char) := do
  let (sign, rest) := readSign ['-'] text
  let (whole, rest) ← readWhole rest
  let (fraction, rest) ← readFraction rest
  let (exponent, rest) ← readExponent rest
  some (sign ++ whole ++ fraction ++ exponent, rest)

/-- A value that is one of the words, or a number. -/
def readAtom (text : List Char) : Option (Json × List Char) :=
  if "null".toList.isPrefixOf text then some (.null, text.drop 4)
  else if "true".toList.isPrefixOf text then some (.bool true, text.drop 4)
  else if "false".toList.isPrefixOf text then some (.bool false, text.drop 5)
  else (readNumber text).map fun read => (.number read.1, read.2)

mutual

/-- A value and what follows. The first argument bounds the depth of the calls; it goes down by
at most two for each character. -/
def readValue : Nat → List Char → Option (Json × List Char)
  | 0, _ => none
  | fuel + 1, text =>
    match skipBlanks text with
    | [] => none
    | char :: rest =>
      if char = '"' then (readString rest).map fun read => (.string read.1, read.2)
      else if char = '[' then
        match expect ']' rest with
        | some rest => some (.array [], rest)
        | none => (readItems fuel rest).map fun read => (.array read.1, read.2)
      else if char = '\x7b' then
        match expect '\x7d' rest with
        | some rest => some (.object [], rest)
        | none => (readMembers fuel rest).map fun read => (.object read.1, read.2)
      else readAtom (char :: rest)

/-- The items up to the closing bracket. -/
def readItems : Nat → List Char → Option (List Json × List Char)
  | 0, _ => none
  | fuel + 1, text => do
    let (item, rest) ← readValue fuel text
    match expect ',' rest with
    | some rest => (readItems fuel rest).map fun read => (item :: read.1, read.2)
    | none => (expect ']' rest).map fun rest => ([item], rest)

/-- The members up to the closing brace. -/
def readMembers : Nat → List Char → Option (List (List Char × Json) × List Char)
  | 0, _ => none
  | fuel + 1, text => do
    let rest ← expect '"' text
    let (name, rest) ← readString rest
    let rest ← expect ':' rest
    let (value, rest) ← readValue fuel rest
    match expect ',' rest with
    | some rest => (readMembers fuel rest).map fun read => ((name, value) :: read.1, read.2)
    | none => (expect '\x7d' rest).map fun rest => ([(name, value)], rest)

end

/-- The value that a text is. -/
def parse (text : List Char) : Option Json := do
  let (value, rest) ← readValue (2 * text.length + 2) text
  if skipBlanks rest = [] then some value else none

/-- A member of an object; of several with one name it is the last. -/
def field (name : List Char) : Json → Option Json
  | .object members => (members.reverse.find? fun member => member.1 == name).map Prod.snd
  | _ => none

variable (rest : List Char) (fuel : Nat) (member : List Char × Option (List Char))
  (members : List (List Char × Option (List Char))) {char sign : Char}

theorem skipBlanks_cons (solid : isBlank char = false) : skipBlanks (char :: rest) = char :: rest :=
  dropWhile_cons_of_neg (by rw [solid]; exact Bool.false_ne_true)

theorem readValue_string (text rest : List Char) :
    readValue (fuel + 1) (quote text ++ rest) = some (.string text, rest) := by
  rw [quote, cons_append, cons_append, append_assoc, readValue, skipBlanks_cons _ (by decide)]
  dsimp only
  rw [if_pos rfl, singleton_append, readString_quoted]
  rfl

theorem readValue_null (rest : List Char) :
    readValue (fuel + 1) ("null".toList ++ rest) = some (.null, rest) :=
  rfl

/-- A text, or `null` for none. -/
def ofText : Option (List Char) → Json
  | none => .null
  | some text => .string text

theorem readValue_ofText (value : Option (List Char)) (rest : List Char) :
    readValue (fuel + 1) (stringify (ofText value) ++ rest) = some (ofText value, rest) := by
  cases value with
  | none =>
    rw [ofText, stringify]
    exact readValue_null fuel rest
  | some text =>
    rw [ofText, stringify]
    exact readValue_string fuel text rest

/-- The members whose values are texts or none. -/
def texts (members : List (List Char × Option (List Char))) : List (List Char × Json) :=
  members.map fun member => (member.1, ofText member.2)

theorem expect_same (solid : isBlank sign = false) : expect sign (sign :: rest) = some rest := by
  rw [expect, skipBlanks_cons rest solid]
  exact if_pos rfl

theorem expect_other (solid : isBlank char = false) (other : char ≠ sign) :
    expect sign (char :: rest) = none := by
  rw [expect, skipBlanks_cons rest solid]
  exact if_neg other

/-- A member whose value is a text or none, up to the sign behind it. -/
theorem readMembers_member (name : List Char) (value : Option (List Char)) (rest : List Char) :
    readMembers (fuel + 2) (quote name ++ ':' :: (stringify (ofText value) ++ rest)) =
      match expect ',' rest with
      | some rest =>
        (readMembers (fuel + 1) rest).map fun read => ((name, ofText value) :: read.1, read.2)
      | none => (expect '\x7d' rest).map fun rest => ([(name, ofText value)], rest) := by
  have key : quote name ++ ':' :: (stringify (ofText value) ++ rest) =
      '"' :: (name.flatMap escape ++ '"' :: ':' :: (stringify (ofText value) ++ rest)) := by
    rw [quote, cons_append, cons_append, append_assoc, singleton_append]
  rw [readMembers, key, expect_same _ (by decide), bind_eq_bind, bind_some,
    readString_quoted, bind_eq_bind, bind_some]
  dsimp only
  rw [expect_same _ (by decide), bind_eq_bind, bind_some, readValue_ofText, bind_some]

theorem stringifyMembers_last :
    stringifyMembers (texts [member]) = quote member.1 ++ ':' :: stringify (ofText member.2) := by
  rw [texts, map_cons, map_nil, stringifyMembers]

theorem stringifyMembers_more (member next : List Char × Option (List Char))
    (members : List (List Char × Option (List Char))) :
    stringifyMembers (texts (member :: next :: members)) =
      quote member.1 ++ ':' :: (stringify (ofText member.2) ++
        ',' :: stringifyMembers (texts (next :: members))) := by
  rw [texts, map_cons, map_cons, stringifyMembers, append_assoc, cons_append]
  · rfl
  · exact fun impossible => cons_ne_nil _ _ impossible

theorem readMembers_texts (rest : List Char) {fuel : Nat} (enough : members.length + 2 ≤ fuel) :
    readMembers fuel (stringifyMembers (texts (member :: members)) ++ '\x7d' :: rest) =
      some (texts (member :: members), rest) := by
  induction members generalizing member fuel with
  | nil =>
    rw [length_nil, Nat.zero_add] at enough
    obtain ⟨fuel, rfl⟩ := Nat.exists_eq_add_of_le' enough
    rw [stringifyMembers_last, append_assoc, cons_append, readMembers_member,
      expect_other _ (by decide) (by decide)]
    dsimp only
    rw [expect_same _ (by decide)]
    rfl
  | cons next members ih =>
    rw [length_cons] at enough
    have two : 2 ≤ fuel := by omega
    obtain ⟨fuel, rfl⟩ := Nat.exists_eq_add_of_le' two
    have others := ih next (show members.length + 2 ≤ fuel + 1 by omega)
    rw [stringifyMembers_more, append_assoc, cons_append, append_assoc,
      cons_append, readMembers_member, expect_same _ (by decide)]
    dsimp only
    rw [others]
    rfl

theorem length_stringifyMembers : members.length ≤ (stringifyMembers (texts members)).length := by
  induction members with
  | nil => exact Nat.zero_le _
  | cons member members ih =>
    cases members with
    | nil =>
      rw [stringifyMembers_last, length_append, length_cons, length_cons, length_nil]
      omega
    | cons next members =>
      rw [stringifyMembers_more, length_append, length_cons]
      simp only [length_append, length_cons] at ih ⊢
      omega

/-- An object of texts is read back. -/
theorem parse_texts :
    parse (stringify (.object (texts (member :: members)))) =
      some (.object (texts (member :: members))) := by
  have long := length_stringifyMembers (member :: members)
  generalize textEq : stringify (.object (texts (member :: members))) = text
  have enough : members.length + 2 ≤ 2 * text.length + 1 := by
    rw [← textEq, stringify, length_append, length_cons]
    rw [length_cons] at long
    omega
  have notEmpty : expect '\x7d' (stringifyMembers (texts (member :: members)) ++ ['\x7d']) =
      none := by
    have opens : ∃ more, stringifyMembers (texts (member :: members)) = '"' :: more := by
      cases members with
      | nil =>
        rw [stringifyMembers_last]
        exact ⟨_, rfl⟩
      | cons next members =>
        rw [stringifyMembers_more]
        exact ⟨_, rfl⟩
    obtain ⟨more, opensEq⟩ := opens
    rw [opensEq]
    exact expect_other _ (by decide) (by decide)
  have reads : readValue (2 * text.length + 2) text =
      some (.object (texts (member :: members)), []) := by
    conv => lhs; arg 2; rw [← textEq]
    rw [stringify, readValue, cons_append, skipBlanks_cons _ (by decide)]
    dsimp only
    rw [if_neg (by decide), if_neg (by decide), if_pos rfl, notEmpty]
    dsimp only
    rw [readMembers_texts member members [] enough]
    rfl
  rw [parse, reads]
  rfl

end Reader

end Json

end Library
