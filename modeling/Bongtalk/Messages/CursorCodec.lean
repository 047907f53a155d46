import Mathlib.Data.Bool.AllAny
import Bongtalk.Library.Base64url
import Bongtalk.Library.Calendar
import Bongtalk.Library.Json
import Bongtalk.Messages.Cursor
import Bongtalk.Shared.RichText

/-!
# The text of a cursor

A client gets a cursor as an opaque text and sends it back: base64url of JSON of an id and a
creation time.
-/

namespace Bongtalk.Messages

open Library Common Prisma Shared Json Base64url List Option

/-- The groups of `ISO_DATETIME_RE`; the zone is its hours and minutes. -/
structure IsoDateTime where
  month : Nat
  day : Nat
  hour : Nat
  minute : Nat
  second : Nat
  fraction : List Char
  zone : Nat × Nat
deriving DecidableEq, Repr

/-- What follows a sign. -/
def matchSign (sign : Char) : List Char → Option (List Char)
  | char :: rest => if char = sign then some rest else none
  | [] => none

/-- `(?:\.\d{1,9})?`: the digits, and what follows. -/
def matchFraction (text : List Char) : Option (List Char × List Char) :=
  match matchSign '.' text with
  | none => some ([], text)
  | some rest =>
    let digits := rest.takeWhile Char.isDigit
    if 1 ≤ digits.length ∧ digits.length ≤ 9 then some (digits, rest.drop digits.length) else none

/-- `(?:Z|[+-]\d{2}:\d{2})$`. -/
def matchZone (text : List Char) : Option (Nat × Nat) :=
  if text = ['Z'] then some (0, 0)
  else do
    let rest ← (matchSign '+' text).orElse fun _ => matchSign '-' text
    let (hour, rest) ← readDecimal 2 rest
    let rest ← matchSign ':' rest
    let (minute, rest) ← readDecimal 2 rest
    if rest = [] then some (hour, minute) else none

/-- `ISO_DATETIME_RE`. -/
def matchIsoDateTime (text : List Char) : Option IsoDateTime := do
  let (_, rest) ← readDecimal 4 text
  let rest ← matchSign '-' rest
  let (month, rest) ← readDecimal 2 rest
  let rest ← matchSign '-' rest
  let (day, rest) ← readDecimal 2 rest
  let rest ← matchSign 'T' rest
  let (hour, rest) ← readDecimal 2 rest
  let rest ← matchSign ':' rest
  let (minute, rest) ← readDecimal 2 rest
  let rest ← matchSign ':' rest
  let (second, rest) ← readDecimal 2 rest
  let (fraction, rest) ← matchFraction rest
  let zone ← matchZone rest
  some ⟨month, day, hour, minute, second, fraction, zone⟩

/-- `Number.isFinite(Date.parse(value))`. Every month has up to 31 days here, and the 24th hour is
the end of a day. -/
def IsoDateTime.isFinite (time : IsoDateTime) : Bool :=
  decide (1 ≤ time.month ∧ time.month ≤ 12) && decide (1 ≤ time.day ∧ time.day ≤ 31) &&
    (decide (time.hour ≤ 23) ||
      decide (time.hour = 24 ∧ time.minute = 0 ∧ time.second = 0) && time.fraction.all (· == '0')) &&
    decide (time.minute ≤ 59) && decide (time.second ≤ 59) &&
    decide (time.zone.1 ≤ 23) && decide (time.zone.2 ≤ 59)

def isIsoDateTime (value : List Char) : Bool :=
  (matchIsoDateTime value).any IsoDateTime.isFinite

/-- `UUID_RE`. -/
def isValidId (value : List Char) : Bool :=
  isUuid value

/-- The names of the members of a cursor. -/
def idKey : List Char := "id".toList

def createdAtKey : List Char := "createdAt".toList

/-- The name of the time in earlier cursors. -/
def legacyKey : List Char := "t".toList

def encodeCursor (payload : CursorPayload) : List Char :=
  let json := stringify (.object [(idKey, .string payload.id),
    (createdAtKey, .string payload.createdAt)])
  encode (Utf8.encode json)

/-- `typeof value === 'string'`. -/
def asString : Option Json → Option (List Char)
  | some (.string text) => some text
  | _ => none

/-- The creation time of a payload, or the one of an earlier cursor. -/
def createdAtOf (parsed : Json) : Option (List Char) :=
  (asString (parsed.field createdAtKey)).orElse fun _ => asString (parsed.field legacyKey)

/-- `parsed && typeof parsed === 'object'`. -/
def isObject : Json → Bool
  | .array _ | .object _ => true
  | _ => false

/-- `decodeCursor`. The reader of base64url never fails. -/
def decodeCursor (raw : List Char) : Except Failure CursorPayload :=
  if raw = [] ∨ 512 < utf16Length raw then
    failWith .messageCursorInvalid "cursor empty or too long"
  else
    match parse (Utf8.decode (decode raw)) with
    | none => failWith .messageCursorInvalid "cursor payload is not JSON"
    | some parsed =>
      if isObject parsed = false then
        failWith .messageCursorInvalid "cursor payload is not an object"
      else
        match (createdAtOf parsed).filter isIsoDateTime with
        | none => failWith .messageCursorInvalid "cursor.createdAt must be ISO date-time"
        | some createdAt =>
          match (asString (parsed.field idKey)).filter isValidId with
          | none => failWith .messageCursorInvalid "cursor.id must be a uuid"
          | some id => .ok { id := id, createdAt := createdAt }

/-- So many hexadecimal digits, with zeros in front. -/
def hexDigits : Nat → Nat → List Char
  | 0, _ => []
  | width + 1, value => hexDigits width (value / 16) ++ [hexDigit (value % 16)]

/-- `row.id`, as the database writes it. -/
def uuidText (value : Nat) : List Char :=
  let digits := hexDigits 32 value
  digits.take 8 ++ '-' :: ((digits.drop 8).take 4 ++ '-' :: ((digits.drop 12).take 4 ++
    '-' :: ((digits.drop 16).take 4 ++ '-' :: digits.drop 20)))

def cursorFor (row : Message) : List Char :=
  encodeCursor { id := uuidText row.id.value, createdAt := toISOString row.createdAt }

section Times

theorem matchSign_same (sign : Char) (rest : List Char) : matchSign sign (sign :: rest) = some rest :=
  if_pos rfl

theorem matchFraction_decimal {width value : Nat} (positive : 1 ≤ width) (short : width ≤ 9)
    {char : Char} (notDigit : char.isDigit = false) (rest : List Char) :
    matchFraction ('.' :: (decimal width value ++ char :: rest)) =
      some (decimal width value, char :: rest) := by
  have digits : (decimal width value ++ char :: rest).takeWhile Char.isDigit =
      decimal width value := by
    rw [takeWhile_append_of_pos isDigit_decimal,
      takeWhile_cons_of_neg (by rw [notDigit]; exact Bool.false_ne_true), append_nil]
  rw [matchFraction, matchSign_same]
  dsimp only
  rw [digits, length_decimal, if_pos ⟨positive, short⟩, drop_left' (length_decimal _ _)]

/-- A time in UTC with three digits behind the second. -/
theorem matchIsoDateTime_utc {year month day hour minute second milli : Nat} (yearFits : year < 10000)
    (monthFits : month < 100) (dayFits : day < 100) (hourFits : hour < 100)
    (minuteFits : minute < 100) (secondFits : second < 100) :
    matchIsoDateTime (decimal 4 year ++ ('-' :: decimal 2 month ++ ('-' :: decimal 2 day ++
      ('T' :: decimal 2 hour ++ (':' :: decimal 2 minute ++ (':' :: decimal 2 second ++
        ('.' :: decimal 3 milli ++ ['Z']))))))) =
      some ⟨month, day, hour, minute, second, decimal 3 milli, (0, 0)⟩ := by
  have two : ∀ {value : Nat}, value < 100 → ∀ rest,
      readDecimal 2 (decimal 2 value ++ rest) = some (value, rest) :=
    fun fits rest => readDecimal_decimal fits rest
  have zone : matchZone ['Z'] = some (0, 0) := if_pos rfl
  rw [matchIsoDateTime, readDecimal_decimal yearFits]
  simp only [bind_eq_bind, bind_some, cons_append, matchSign_same,
    two monthFits, two dayFits, two hourFits, two minuteFits, two secondFits]
  rw [matchFraction_decimal (by decide) (by decide) (by decide)]
  simp only [bind_some, zone]

/-- The milliseconds before the year 10000. -/
def endOfTime : Nat := 253402300800000

variable {instant : Nat}

variable (early : instant < endOfTime)

include early

theorem year_lt_of_early : (dateOfDays (instant / 86400000)).year < 10000 := by
  apply year_lt
  unfold endOfTime at early
  omega

/-- An instant of a year with four digits is written as a cursor has it. -/
theorem isIsoDateTime_toISOString : isIsoDateTime (toISOString instant) = true := by
  have year := year_lt_of_early early
  have month := month_bounds (instant / 86400000)
  have day := day_bounds (instant / 86400000)
  have time : instant % 86400000 < 86400000 := Nat.mod_lt _ (by decide)
  rw [toISOString]
  generalize dateOfDays (instant / 86400000) = date at year month day
  generalize instant % 86400000 = inDay at time
  have hour : inDay / 3600000 ≤ 23 := by omega
  have minute : inDay / 60000 % 60 ≤ 59 := by omega
  have second : inDay / 1000 % 60 ≤ 59 := by omega
  generalize inDay / 3600000 = hours at hour
  generalize inDay / 60000 % 60 = minutes at minute
  generalize inDay / 1000 % 60 = seconds at second
  rw [if_pos year, isIsoDateTime, matchIsoDateTime_utc year (by omega) (by omega) (by omega)
    (by omega) (by omega), any_some, IsoDateTime.isFinite]
  simp only [Bool.and_eq_true, Bool.or_eq_true, decide_eq_true_eq]
  omega

theorem length_toISOString : (toISOString instant).length = 24 := by
  rw [toISOString, if_pos (year_lt_of_early early)]
  simp only [length_append, length_cons, length_decimal, length_nil]

/-- What holds of the signs and of the digits holds of every character of an instant. -/
theorem forall_mem_toISOString {property : Char → Prop}
    (signs : ∀ sign ∈ ['-', 'T', ':', '.', 'Z'], property sign)
    (digits : ∀ char, char.isDigit = true → property char) :
    ∀ char ∈ toISOString instant, property char := by
  have decimals : ∀ {width value : Nat}, ∀ char ∈ decimal width value, property char :=
    fun char charMem => digits char (isDigit_decimal char charMem)
  have hyphen := signs '-' (by decide)
  have colon := signs ':' (by decide)
  rw [toISOString, if_pos (year_lt_of_early early)]
  simp only [forall_mem_append, forall_mem_cons]
  exact ⟨decimals, ⟨hyphen, decimals⟩, ⟨hyphen, decimals⟩, ⟨signs 'T' (by decide), decimals⟩,
    ⟨colon, decimals⟩, ⟨colon, decimals⟩, ⟨signs '.' (by decide), decimals⟩,
    signs 'Z' (by decide), fun _ listed => absurd listed not_mem_nil⟩

omit early in
theorem toNat_of_isDigit {char : Char} (isDigit : char.isDigit = true) :
    48 ≤ char.toNat ∧ char.toNat ≤ 57 := by
  simp only [Char.isDigit, Bool.and_eq_true, decide_eq_true_eq, ge_iff_le,
    UInt32.le_iff_toNat_le] at isDigit
  exact isDigit

/-- The characters of an instant have no escape. -/
theorem toISOString_plain : ∀ char ∈ toISOString instant, escape char = [char] := by
  refine forall_mem_toISOString early (all_iff_forall_prop.mp (by decide)) ?_
  intro char isDigit
  have bounds := toNat_of_isDigit isDigit
  exact escape_plain (by omega) (by omega)

end Times

section Ids

theorem length_hexDigits (width value : Nat) : (hexDigits width value).length = width := by
  induction width generalizing value with
  | zero => rfl
  | succ width ih =>
    rw [hexDigits, length_append, ih, length_singleton]

/-- What a hexadecimal digit is to the readers of ids. -/
theorem hexDigit_spec {value : Nat} (small : value < 16) :
    hexValue (hexDigit value) = some value ∧
      isHexChar (hexDigit value).toLower = true ∧ hexDigit value ≠ '-' ∧
      escape (hexDigit value) = [hexDigit value] := by
  have table : ∀ value : Fin 16, hexValue (hexDigit value) = some value.val ∧
      isHexChar (hexDigit value).toLower = true ∧ hexDigit value ≠ '-' ∧
      escape (hexDigit value) = [hexDigit value] := by
    decide
  exact table ⟨value, small⟩

theorem exists_digit {width value : Nat} :
    ∀ char ∈ hexDigits width value, ∃ digit < 16, char = hexDigit digit := by
  induction width generalizing value with
  | zero => exact nofun
  | succ width ih =>
    intro char charMem
    cases mem_append.mp charMem with
    | inl inFront => exact ih char inFront
    | inr isLast =>
      exact ⟨_, Nat.mod_lt value (by decide), mem_singleton.mp isLast⟩

theorem hexNumber_append (read : Nat) (text : List Char) (last : Char) :
    hexNumber read (text ++ [last]) =
      (hexNumber read text).bind fun number => (hexValue last).map (16 * number + ·) := by
  induction text generalizing read with
  | nil =>
    rw [nil_append, hexNumber, hexNumber, bind_some]
    cases hexValue last <;> rfl
  | cons char rest ih =>
    rw [cons_append, hexNumber, hexNumber, bind_assoc]
    congr 1
    funext digit
    exact ih _

theorem hexNumber_hexDigits {width value : Nat} (fits : value < 16 ^ width) :
    hexNumber 0 (hexDigits width value) = some value := by
  induction width generalizing value with
  | zero => rw [Nat.lt_one_iff.mp fits]; rfl
  | succ width ih =>
    have front : value / 16 < 16 ^ width := by
      rw [Nat.pow_succ] at fits
      exact Nat.div_lt_of_lt_mul (by omega)
    rw [hexDigits, hexNumber_append, ih front, bind_some,
      (hexDigit_spec (Nat.mod_lt value (by decide))).1, map_some, Nat.div_add_mod]

/-- The groups of an id are its digits. -/
theorem groups_eq (digits : List Char) :
    digits.take 8 ++ ((digits.drop 8).take 4 ++ ((digits.drop 12).take 4 ++
      ((digits.drop 16).take 4 ++ digits.drop 20))) = digits := by
  have next : ∀ start, (digits.drop start).take 4 ++ digits.drop (start + 4) =
      digits.drop start := by
    intro start
    rw [← drop_drop, take_append_drop]
  rw [next 16, next 12, next 8, take_append_drop]

/-- The database reads an id that it wrote. -/
theorem uuid_uuidText {value : Nat} (fits : value < 2 ^ 128) : uuid (uuidText value) = some value := by
  have kept : ∀ group : List Char, (∀ char ∈ group, char ∈ hexDigits 32 value) →
      group.filter (· ≠ '-') = group := by
    intro group sub
    apply filter_eq_self.mpr
    intro char charMem
    obtain ⟨digit, small, rfl⟩ := exists_digit char (sub char charMem)
    exact decide_eq_true (hexDigit_spec small).2.2.1
  have hyphen : ∀ rest : List Char, ('-' :: rest).filter (· ≠ '-') = rest.filter (· ≠ '-') :=
    fun rest => filter_cons_of_neg (by decide)
  rw [uuid, uuidText]
  simp only [filter_append, hyphen]
  rw [kept _ fun char charMem => mem_of_mem_take charMem,
    kept _ fun char charMem => mem_of_mem_drop (mem_of_mem_take charMem),
    kept _ fun char charMem => mem_of_mem_drop (mem_of_mem_take charMem),
    kept _ fun char charMem => mem_of_mem_drop (mem_of_mem_take charMem),
    kept _ fun char charMem => mem_of_mem_drop charMem, groups_eq]
  exact hexNumber_hexDigits fits

theorem length_uuidText (value : Nat) : (uuidText value).length = 36 := by
  rw [uuidText]
  simp only [length_append, length_cons, length_take, length_drop, length_hexDigits]
  rfl

/-- What holds of the hyphen and of the digits holds of every character of an id. -/
theorem forall_mem_uuidText {property : Char → Prop} (hyphen : property '-')
    (digits : ∀ digit < 16, property (hexDigit digit)) (value : Nat) :
    ∀ char ∈ uuidText value, property char := by
  have group : ∀ char ∈ hexDigits 32 value, property char := by
    intro char charMem
    obtain ⟨digit, small, rfl⟩ := exists_digit char charMem
    exact digits digit small
  rw [uuidText]
  simp only [forall_mem_append, forall_mem_cons]
  exact ⟨fun char charMem => group char (mem_of_mem_take charMem), hyphen,
    fun char charMem => group char (mem_of_mem_drop (mem_of_mem_take charMem)), hyphen,
    fun char charMem => group char (mem_of_mem_drop (mem_of_mem_take charMem)), hyphen,
    fun char charMem => group char (mem_of_mem_drop (mem_of_mem_take charMem)), hyphen,
    fun char charMem => group char (mem_of_mem_drop charMem)⟩

/-- The characters of an id have no escape. -/
theorem uuidText_plain (value : Nat) : ∀ char ∈ uuidText value, escape char = [char] :=
  forall_mem_uuidText (by decide) (fun _ small => (hexDigit_spec small).2.2.2) value

/-- A group of digits between the places of the hyphens. -/
theorem all_group {isDigit : Char → Bool} {group : List Char} {start : Nat}
    (digits : ∀ char ∈ group, isDigit char = true)
    (apart : ∀ place ∈ [8, 13, 18, 23], place < start ∨ start + group.length ≤ place) :
    (group.zipIdx start).all (fun entry =>
      if entry.2 ∈ [8, 13, 18, 23] then entry.1 == '-' else isDigit entry.1) = true := by
  apply all_eq_true.mpr
  rintro ⟨char, index⟩ entryMem
  obtain ⟨low, high, same⟩ := mem_zipIdx entryMem
  have between : index ∉ [8, 13, 18, 23] := by
    intro isPlace
    have outside := apart index isPlace
    omega
  dsimp only
  rw [if_neg between, same]
  exact digits _ (getElem_mem _)

theorem hasUuidShape_groups {isDigit : Char → Bool} {first second third fourth fifth : List Char}
    (lengths : first.length = 8 ∧ second.length = 4 ∧ third.length = 4 ∧ fourth.length = 4 ∧
      fifth.length = 12)
    (digits : ∀ char ∈ first ++ (second ++ (third ++ (fourth ++ fifth))), isDigit char = true) :
    hasUuidShape isDigit (first ++ '-' :: (second ++ '-' :: (third ++ '-' :: (fourth ++
      '-' :: fifth)))) = true := by
  obtain ⟨one, two, three, four, five⟩ := lengths
  simp only [forall_mem_append] at digits
  obtain ⟨firstDigits, secondDigits, thirdDigits, fourthDigits, fifthDigits⟩ := digits
  rw [hasUuidShape, Bool.and_eq_true]
  constructor
  · rw [beq_iff_eq]
    simp only [length_append, length_cons]
    omega
  · simp only [zipIdx_append, zipIdx_cons, all_append, all_cons, one, two,
      three, four, Bool.and_eq_true]
    exact ⟨all_group firstDigits (by rw [one]; decide), rfl,
      all_group secondDigits (by rw [two]; decide), rfl,
      all_group thirdDigits (by rw [three]; decide), rfl,
      all_group fourthDigits (by rw [four]; decide), rfl,
      all_group fifthDigits (by rw [five]; decide)⟩

theorem isValidId_uuidText (value : Nat) : isValidId (uuidText value) = true := by
  rw [isValidId, isUuid, uuidText]
  apply hasUuidShape_groups
  · simp only [length_take, length_drop, length_hexDigits]
    decide
  · rw [groups_eq]
    intro char charMem
    obtain ⟨digit, small, rfl⟩ := exists_digit char charMem
    exact (hexDigit_spec small).2.1

theorem hexValue_lt {char : Char} {digit : Nat} (found : hexValue char = some digit) : digit < 16 := by
  unfold hexValue at found
  split at found
  next isDigit =>
    have high : char.toNat ≤ 57 := isDigit.2
    cases found
    change char.toNat - 48 < 16
    omega
  split at found
  next isLetter =>
    have high : char.toNat ≤ 102 := isLetter.2
    cases found
    change char.toNat - 97 + 10 < 16
    omega
  split at found
  next isCapital =>
    have high : char.toNat ≤ 70 := isCapital.2
    cases found
    change char.toNat - 65 + 10 < 16
    omega
  · cases found

variable {text : List Char}

theorem hexNumber_lt {read number : Nat} (found : hexNumber read text = some number) :
    number < (read + 1) * 16 ^ text.length := by
  induction text generalizing read with
  | nil =>
    cases found
    simp
  | cons char rest ih =>
    obtain ⟨digit, digitEq, restEq⟩ := bind_eq_some_iff.mp found
    have digitSmall := hexValue_lt digitEq
    calc number < (16 * read + digit + 1) * 16 ^ rest.length := ih restEq
      _ ≤ (16 * (read + 1)) * 16 ^ rest.length := Nat.mul_le_mul_right _ (by omega)
      _ = (read + 1) * 16 ^ (char :: rest).length := by
        rw [length_cons, Nat.pow_succ, Nat.mul_comm 16, Nat.mul_assoc, Nat.mul_comm 16]

/-- Four of the 36 characters are hyphens. -/
theorem length_filter_of_isValidId (valid : isValidId text = true) :
    (text.filter (· ≠ '-')).length ≤ 32 := by
  rw [isValidId, isUuid, hasUuidShape, Bool.and_eq_true, beq_iff_eq, List.all_eq_true] at valid
  obtain ⟨long, places⟩ := valid
  have kept : ∀ entry ∈ text.zipIdx, (decide (entry.1 ≠ '-')) = true →
      decide (entry.2 ∉ [8, 13, 18, 23]) = true := by
    rintro ⟨char, index⟩ entryMem notHyphen
    rw [decide_eq_true_eq] at notHyphen ⊢
    intro isPlace
    have atPlace := places _ entryMem
    dsimp only at isPlace atPlace
    rw [if_pos isPlace, beq_iff_eq] at atPlace
    exact notHyphen atPlace
  calc (text.filter (· ≠ '-')).length
      = (text.zipIdx.map Prod.fst).countP (· ≠ '-') := by
        rw [List.zipIdx_map_fst, List.countP_eq_length_filter]
    _ = text.zipIdx.countP fun entry => decide (entry.1 ≠ '-') := List.countP_map
    _ ≤ text.zipIdx.countP fun entry => decide (entry.2 ∉ [8, 13, 18, 23]) :=
        List.countP_mono_left kept
    _ = (text.zipIdx.map Prod.snd).countP (· ∉ [8, 13, 18, 23]) := by
        rw [List.countP_map]
        rfl
    _ = (List.range' 0 36).countP (· ∉ [8, 13, 18, 23]) := by rw [List.zipIdx_map_snd, long]
    _ = 32 := by decide

/-- An id of the shape of a UUID has 128 bits. -/
theorem uuid_lt (valid : isValidId text = true) {value : Nat} (found : uuid text = some value) :
    value < 2 ^ 128 := by
  have digits := length_filter_of_isValidId valid
  calc value < (0 + 1) * 16 ^ (text.filter (· ≠ '-')).length := hexNumber_lt found
    _ ≤ 1 * 16 ^ 32 := Nat.mul_le_mul_left _ (Nat.pow_le_pow_right (by decide) digits)
    _ = 2 ^ 128 := by decide

end Ids

theorem stringify_cursor (payload : CursorPayload) :
    stringify (.object [(idKey, .string payload.id), (createdAtKey, .string payload.createdAt)]) =
      '\x7b' :: (quote idKey ++ ':' :: (quote payload.id ++
        ',' :: (quote createdAtKey ++ ':' :: quote payload.createdAt))) ++ ['\x7d'] := by
  rw [stringify]
  exact congrArg (fun text => '\x7b' :: text ++ ['\x7d'])
    (stringifyMembers_more (idKey, some payload.id) (createdAtKey, some payload.createdAt) [])

/-- Digits of base64url are one unit each. -/
theorem utf16Length_encode (bytes : List Nat) :
    utf16Length (encode bytes) = (encode bytes).length := by
  rw [encode, utf16Length, List.map_map, List.length_map]
  induction toDigits bytes with
  | nil => rfl
  | cons digit digits ih =>
    have small := digit_ascii digit
    rw [List.map_cons, List.sum_cons, ih, List.length_cons,
      Function.comp_apply, utf16Units, if_pos (by omega), Nat.add_comm]

/-- The text of a cursor is not longer than a reader allows. -/
theorem length_encodeCursor {payload : CursorPayload}
    (idPlain : ∀ char ∈ payload.id, escape char = [char]) (idLength : payload.id.length = 36)
    (createdAtPlain : ∀ char ∈ payload.createdAt, escape char = [char])
    (createdAtLength : payload.createdAt.length = 24) :
    utf16Length (encodeCursor payload) ≤ 512 := by
  rw [encodeCursor, stringify_cursor, utf16Length_encode]
  generalize textEq : '\x7b' :: (quote idKey ++ ':' :: (quote payload.id ++
    ',' :: (quote createdAtKey ++ ':' :: quote payload.createdAt))) ++ ['\x7d'] = text
  have textLength : text.length = 84 := by
    rw [← textEq]
    simp only [length_append, length_cons, length_quote idPlain,
      length_quote createdAtPlain, idLength, createdAtLength]
    decide
  have bytes := Utf8.length_encode_le text
  have chars := length_encode_le (Utf8.encode text)
  omega

/-- A cursor of a valid id and a valid time is decoded to what it was encoded from. -/
theorem decodeCursor_encodeCursor {payload : CursorPayload}
    (validId : isValidId payload.id = true) (validTime : isIsoDateTime payload.createdAt = true)
    (short : utf16Length (encodeCursor payload) ≤ 512) :
    decodeCursor (encodeCursor payload) = .ok payload := by
  have parsed : parse (Utf8.decode (decode (encodeCursor payload))) =
      some (.object [(idKey, .string payload.id), (createdAtKey, .string payload.createdAt)]) := by
    rw [encodeCursor, decode_encode (Utf8.encode_lt _), Utf8.decode_encode]
    exact parse_texts (idKey, some payload.id) [(createdAtKey, some payload.createdAt)]
  have nonempty : encodeCursor payload ≠ [] := by
    intro empty
    rw [empty] at parsed
    cases parsed
  have createdAt : createdAtOf (.object [(idKey, .string payload.id),
      (createdAtKey, .string payload.createdAt)]) = some payload.createdAt := rfl
  have id : asString ((object [(idKey, .string payload.id),
      (createdAtKey, .string payload.createdAt)]).field idKey) = some payload.id := rfl
  rw [decodeCursor, if_neg (not_or.mpr ⟨nonempty, Nat.not_lt.mpr short⟩), parsed]
  dsimp only
  rw [if_neg nofun, createdAt, filter_some_pos validTime]
  dsimp only
  rw [id, filter_some_pos validId]

/-- The cursor of a row is decoded to its id and its time. -/
theorem decodeCursor_cursorFor {row : Message} (early : row.createdAt < endOfTime) :
    decodeCursor (cursorFor row) =
      .ok { id := uuidText row.id.value, createdAt := toISOString row.createdAt } :=
  decodeCursor_encodeCursor (isValidId_uuidText _) (isIsoDateTime_toISOString early)
    (length_encodeCursor (uuidText_plain _) (length_uuidText _) (toISOString_plain early)
      (length_toISOString early))

end Bongtalk.Messages
