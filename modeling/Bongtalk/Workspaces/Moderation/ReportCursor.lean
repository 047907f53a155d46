import Bongtalk.Messages.CursorCodec
import Bongtalk.Workspaces.Moderation.ReportService

/-!
# Cursors of the report queue

The queue shows open reports first, then resolved ones in the order in which they were resolved, and
the newest first among those. A cursor holds these three columns of a report.
-/

namespace Bongtalk.Workspaces.Moderation

open Library Common Messages Prisma Shared Json List

/-- `new Date(text)` of a text that `REPORT_ISO_RE` matches, unless it is invalid. What follows the
third digit behind a second does not count. -/
def dateOf (text : List Char) : Option Int := do
  let time ← (matchIsoDateTime text).filter IsoDateTime.isFinite
  let (year, _) ← readDecimal 4 text
  let milli := ofDecimal 0 ((time.fraction ++ ['0', '0', '0']).take 3)
  let inDay := time.hour * 3600000 + time.minute * 60000 + time.second * 1000 + milli
  let offset : Int := (time.zone.1 * 60 + time.zone.2) * 60000
  let east := if (text.drop (text.length - 6)).head? = some '-' then -offset else offset
  some (daysOfDate ⟨year, time.month, time.day⟩ * 86400000 + inDay - east)

example : dateOf "1970-01-02T01:30:00.5+01:30".toList = some 86400500 := by decide

/-- The parts of a time that is written with milliseconds. -/
theorem matchIsoDateTime_toISOString {instant : Nat} (early : instant < endOfTime) :
    matchIsoDateTime (toISOString instant) = some
      ⟨(dateOfDays (instant / 86400000)).month, (dateOfDays (instant / 86400000)).day,
        instant % 86400000 / 3600000, instant % 86400000 / 60000 % 60,
        instant % 86400000 / 1000 % 60, decimal 3 (instant % 86400000 % 1000), (0, 0)⟩ := by
  have year := year_lt_of_early early
  have month := month_bounds (instant / 86400000)
  have day := day_bounds (instant / 86400000)
  rw [toISOString, if_pos year]
  exact matchIsoDateTime_utc year (by omega) (by omega) (by omega) (by omega) (by omega)

theorem readDecimal_toISOString {instant : Nat} (early : instant < endOfTime) :
    ∃ rest, readDecimal 4 (toISOString instant) =
      some ((dateOfDays (instant / 86400000)).year, rest) := by
  have year := year_lt_of_early early
  rw [toISOString, if_pos year]
  exact ⟨_, readDecimal_decimal year _⟩

/-- A time that is written with milliseconds is read back. -/
theorem dateOf_toISOString {instant : Nat} (early : instant < endOfTime) :
    dateOf (toISOString instant) = some (instant : Int) := by
  have matched := matchIsoDateTime_toISOString early
  have valid := isIsoDateTime_toISOString early
  rw [isIsoDateTime, matched, Option.any_some] at valid
  obtain ⟨rest, year⟩ := readDecimal_toISOString early
  have milli : ofDecimal 0 ((decimal 3 (instant % 86400000 % 1000) ++ ['0', '0', '0']).take 3) =
      instant % 86400000 % 1000 := by
    rw [take_left' (length_decimal 3 _), ofDecimal_decimal (by omega)]
  have days : daysOfDate ⟨(dateOfDays (instant / 86400000)).year,
      (dateOfDays (instant / 86400000)).month, (dateOfDays (instant / 86400000)).day⟩ =
      ((instant / 86400000 : Nat) : Int) := daysOfDate_dateOfDays _
  rw [dateOf, matched, Option.filter_some_pos valid, Option.bind_eq_bind, Option.bind_some, year,
    Option.bind_eq_bind, Option.bind_some]
  simp only [milli, days, Nat.cast_zero, zero_mul, add_zero, neg_zero, ite_self, sub_zero,
    Option.some.injEq]
  omega

inductive ReportCategory where
  | spam
  | harassment
  | hateSpeech
  | inappropriate
  | other
deriving DecidableEq, Repr

/-- A report with the columns that the queue lists. -/
structure QueuedReport extends ModerationReport where
  channelId : ChannelId
  reporterId : Option UserId := none
  category : ReportCategory
  reason : Option String := none
  createdAt : DateTime
deriving DecidableEq, Repr

/-- `resolvedAt` in ascending order, with those first that have none. -/
def ResolvedBefore : Option DateTime → Option DateTime → Prop
  | none, none => False
  | none, some _ => True
  | some _, none => False
  | some first, some second => first < second

/-- `orderBy`: `resolvedAt` ascending and nulls first, `createdAt` descending, `id` descending. -/
def QueuedReport.Before (first second : QueuedReport) : Prop :=
  ResolvedBefore first.resolvedAt second.resolvedAt ∨ first.resolvedAt = second.resolvedAt ∧
    (second.createdAt < first.createdAt ∨
      first.createdAt = second.createdAt ∧ second.id.value < first.id.value)

/-- A place in the queue, the first one being the greatest. -/
abbrev QueuePosition := (WithBot Int)ᵒᵈ ×ₗ Int ×ₗ Nat

def resolvedRank : Option Int → WithBot Int
  | none => ⊥
  | some resolvedAt => resolvedAt

def queuePosition (resolvedAt : Option Int) (createdAt : Int) (id : Nat) : QueuePosition :=
  toLex (OrderDual.toDual (resolvedRank resolvedAt), toLex (createdAt, id))

def QueuedReport.position (report : QueuedReport) : QueuePosition :=
  queuePosition (report.resolvedAt.map Int.ofNat) report.createdAt report.id.value

theorem resolvedRank_inj {first second : Option Int} :
    resolvedRank first = resolvedRank second ↔ first = second := by
  cases first <;> cases second <;> simp [resolvedRank]

theorem queuePosition_lt_iff {resolvedAt otherResolvedAt : Option Int} {createdAt other : Int}
    {id otherId : Nat} :
    queuePosition resolvedAt createdAt id < queuePosition otherResolvedAt other otherId ↔
      resolvedRank otherResolvedAt < resolvedRank resolvedAt ∨ resolvedAt = otherResolvedAt ∧
        (createdAt < other ∨ createdAt = other ∧ id < otherId) := by
  rw [queuePosition, queuePosition, Prod.Lex.toLex_lt_toLex, Prod.Lex.toLex_lt_toLex]
  dsimp only
  rw [OrderDual.toDual_lt_toDual, OrderDual.toDual_inj, resolvedRank_inj]

theorem resolvedRank_lt_iff {first second : Option DateTime} :
    resolvedRank (first.map Int.ofNat) < resolvedRank (second.map Int.ofNat) ↔
      ResolvedBefore first second := by
  cases first <;> cases second <;> simp [resolvedRank, ResolvedBefore]

/-- The position is the order of the query. -/
theorem QueuedReport.before_iff {first second : QueuedReport} :
    first.Before second ↔ second.position < first.position := by
  rw [position, position, queuePosition_lt_iff, resolvedRank_lt_iff, Before,
    (Option.map_injective fun _ _ => Int.ofNat.inj).eq_iff, Int.ofNat_lt, Int.ofNat_inj,
    eq_comm (a := first.resolvedAt), eq_comm (a := first.createdAt)]

/-- The columns of a cursor. -/
structure ReportCursor where
  resolvedAt : Option Int
  createdAt : Int
  id : Nat
deriving DecidableEq, Repr

/-- The name of the first member of a cursor. -/
def resolvedAtKey : List Char := "resolvedAt".toList

/-- The members of a cursor, whose time of resolution may be `null`. -/
def cursorMembers (resolvedAt : Option (List Char)) (createdAt id : List Char) :
    List (List Char × Json) :=
  texts [(resolvedAtKey, resolvedAt), (createdAtKey, some createdAt), (idKey, some id)]

def encodeReportCursor (row : QueuedReport) : List Char :=
  let members := cursorMembers (row.resolvedAt.map toISOString) (toISOString row.createdAt)
    (uuidText row.id.value)
  Base64url.encode (Utf8.encode (stringify (.object members)))

/-- `REPORT_ISO_RE`. -/
def isReportIso (text : List Char) : Bool :=
  (matchIsoDateTime text).isSome

/-- `null`, or a text that `REPORT_ISO_RE` matches. -/
def readResolvedAt : Option Json → Option (Option (List Char))
  | some .null => some none
  | other => ((asString other).filter isReportIso).map some

/-- A date of a condition. The query refuses an invalid one. -/
def queryDate (text : List Char) : Except Failure Int :=
  match dateOf text with
  | some date => .ok date
  | none => .error .invalidArgument

/-- `decodeReportCursorWhere`, up to the condition. -/
def decodeReportCursor (raw : List Char) : Except Failure ReportCursor :=
  if raw = [] ∨ 512 < utf16Length raw then
    failWith .validationFailed "report cursor empty or too long"
  else
    match parse (Utf8.decode (Base64url.decode raw)) with
    | none => failWith .validationFailed "report cursor decode failed"
    | some parsed =>
      if isObject parsed = false then
        failWith .validationFailed "report cursor not an object"
      else
        match (asString (parsed.field createdAtKey)).filter isReportIso with
        | none => failWith .validationFailed "report cursor.createdAt invalid"
        | some createdAt =>
          match ((asString (parsed.field idKey)).filter isValidId).bind uuid with
          | none => failWith .validationFailed "report cursor.id must be a uuid"
          | some id =>
            match readResolvedAt (parsed.field resolvedAtKey) with
            | none => failWith .validationFailed "report cursor.resolvedAt invalid"
            | some resolvedAt => do
              let createdAt ← queryDate createdAt
              let resolvedAt ← resolvedAt.mapM queryDate
              .ok ⟨resolvedAt, createdAt, id⟩

/-- The alternatives of the condition, from `decodeReportCursorWhere`. -/
def ReportCursor.admits (cursor : ReportCursor) (row : QueuedReport) : Bool :=
  let sameGroupAfter := decide ((row.createdAt : Int) < cursor.createdAt)
  let sameGroupTie := (row.createdAt : Int) == cursor.createdAt && decide (row.id.value < cursor.id)
  match cursor.resolvedAt with
  | none =>
    row.resolvedAt.isNone && sameGroupAfter || row.resolvedAt.isNone && sameGroupTie ||
      row.resolvedAt.isSome
  | some resolvedAt =>
    let sameGroup := row.resolvedAt.any fun time => (time : Int) == resolvedAt
    row.resolvedAt.any (fun time => decide (resolvedAt < (time : Int))) ||
      sameGroup && sameGroupAfter || sameGroup && sameGroupTie

def ReportCursor.position (cursor : ReportCursor) : QueuePosition :=
  queuePosition cursor.resolvedAt cursor.createdAt cursor.id

/-- The condition is that a row comes behind the cursor. -/
theorem ReportCursor.admits_eq (cursor : ReportCursor) (row : QueuedReport) :
    cursor.admits row = decide (row.position < cursor.position) := by
  rw [Bool.eq_iff_iff, decide_eq_true_iff, QueuedReport.position, position, queuePosition_lt_iff,
    admits]
  cases cursor.resolvedAt with
  | none => cases row.resolvedAt <;> simp [resolvedRank]
  | some resolvedAt =>
    cases row.resolvedAt with
    | none => simp [resolvedRank]
    | some time => simp [resolvedRank, and_or_left, or_assoc]

section RoundTrip

variable {row : QueuedReport}

/-- The times of a row are of years that have four digits. -/
structure QueuedReport.Early (row : QueuedReport) : Prop where
  createdAt : row.createdAt < endOfTime
  resolvedAt : ∀ resolvedAt, row.resolvedAt = some resolvedAt → resolvedAt < endOfTime

/-- The cursor of a row. -/
def QueuedReport.cursor (row : QueuedReport) : ReportCursor :=
  ⟨row.resolvedAt.map Int.ofNat, row.createdAt, row.id.value⟩

theorem isReportIso_toISOString {instant : Nat} (early : instant < endOfTime) :
    isReportIso (toISOString instant) = true := by
  rw [isReportIso, matchIsoDateTime_toISOString early]
  rfl

theorem queryDate_toISOString {instant : Nat} (early : instant < endOfTime) :
    queryDate (toISOString instant) = .ok (instant : Int) := by
  rw [queryDate, dateOf_toISOString early]

theorem QueuedReport.Early.readResolvedAt (early : row.Early) :
    readResolvedAt (some (ofText (row.resolvedAt.map toISOString))) =
      some (row.resolvedAt.map toISOString) := by
  cases isResolved : row.resolvedAt with
  | none => rfl
  | some resolvedAt =>
    have valid := isReportIso_toISOString (early.resolvedAt resolvedAt isResolved)
    have read : asString (some (string (toISOString resolvedAt))) =
      some (toISOString resolvedAt) := rfl
    rw [Option.map_some, ofText, Moderation.readResolvedAt]
    · rw [read, Option.filter_some_pos valid, Option.map_some]
    · exact fun impossible => by cases impossible

theorem QueuedReport.Early.queryDates (early : row.Early) :
    (row.resolvedAt.map toISOString).mapM queryDate = .ok (row.resolvedAt.map Int.ofNat) := by
  cases isResolved : row.resolvedAt with
  | none => rfl
  | some resolvedAt =>
    have date := queryDate_toISOString (early.resolvedAt resolvedAt isResolved)
    rw [Option.map_some, Option.mapM_some, date]
    rfl

/-- A text of ASCII without escapes, in quotes. -/
structure Plain (text : List Char) : Prop where
  noEscape : ∀ char ∈ text, escape char = [char]
  ascii : ∀ char ∈ text, char.toNat < 0x80

theorem plain_toISOString {instant : Nat} (early : instant < endOfTime) :
    Plain (toISOString instant) where
  noEscape := toISOString_plain early
  ascii := by
    refine forall_mem_toISOString early (all_iff_forall_prop.mp (by decide)) ?_
    intro char isDigit
    have bounds := toNat_of_isDigit isDigit
    omega

theorem plain_uuidText (value : Nat) : Plain (uuidText value) where
  noEscape := uuidText_plain value
  ascii := by
    refine forall_mem_uuidText (by decide) ?_ value
    intro digit small
    have table : ∀ digit : Fin 16, (hexDigit digit).toNat < 0x80 := by decide
    exact table ⟨digit, small⟩

theorem Plain.ascii_ofText {text : List Char} (plain : Plain text) :
    ∀ char ∈ stringify (ofText (some text)), char.toNat < 0x80 := by
  have quoteAscii : '"'.toNat < 0x80 := by decide
  rw [ofText, stringify, quote_plain plain.noEscape]
  simp only [forall_mem_append, forall_mem_cons]
  exact ⟨quoteAscii, plain.ascii, quoteAscii, fun _ listed => absurd listed not_mem_nil⟩

theorem Plain.length_ofText {text : List Char} (plain : Plain text) :
    (stringify (ofText (some text))).length = text.length + 2 := by
  rw [ofText, stringify, length_quote plain.noEscape]

/-- A time of resolution takes up to 26 characters of ASCII. -/
theorem QueuedReport.Early.ofText_resolvedAt (early : row.Early) :
    (stringify (ofText (row.resolvedAt.map toISOString))).length ≤ 26 ∧
      ∀ char ∈ stringify (ofText (row.resolvedAt.map toISOString)),
        char.toNat < 0x80 := by
  cases isResolved : row.resolvedAt with
  | none => exact ⟨by decide, all_iff_forall_prop.mp (by decide)⟩
  | some resolvedAt =>
    have small := early.resolvedAt resolvedAt isResolved
    have plain := plain_toISOString small
    rw [Option.map_some, plain.length_ofText, length_toISOString small]
    exact ⟨le_rfl, plain.ascii_ofText⟩

/-- The text of a cursor is not longer than a reader allows. -/
theorem length_encodeReportCursor (early : row.Early) :
    utf16Length (encodeReportCursor row) ≤ 512 := by
  rw [encodeReportCursor, utf16Length_encode]
  generalize textEq : stringify (.object (cursorMembers (row.resolvedAt.map toISOString)
    (toISOString row.createdAt) (uuidText row.id.value))) = text
  have createdAt := plain_toISOString early.createdAt
  have id := plain_uuidText row.id.value
  obtain ⟨resolvedLength, resolvedAscii⟩ := early.ofText_resolvedAt
  have names : (quote resolvedAtKey).length + (quote createdAtKey).length +
    (quote idKey).length = 27 := by decide
  have nameAscii : ∀ char ∈ quote resolvedAtKey ++ quote createdAtKey ++ quote idKey,
    char.toNat < 0x80 := all_iff_forall_prop.mp (by decide)
  rw [cursorMembers, stringify, stringifyMembers_more, stringifyMembers_more,
    stringifyMembers_last] at textEq
  have ascii : ∀ char ∈ text, char.toNat < 0x80 := by
    simp only [forall_mem_append] at nameAscii
    rw [← textEq]
    simp only [forall_mem_append, forall_mem_cons]
    exact ⟨⟨by decide, nameAscii.1.1, by decide, resolvedAscii, by decide, nameAscii.1.2,
      by decide, createdAt.ascii_ofText, by decide, nameAscii.2, by decide, id.ascii_ofText⟩,
      by decide, fun _ listed => absurd listed not_mem_nil⟩
  have textLength : text.length ≤ 130 := by
    rw [← textEq]
    simp only [length_append, length_cons, length_nil, createdAt.length_ofText,
      id.length_ofText, length_toISOString early.createdAt, length_uuidText]
    omega
  have chars := Base64url.length_encode_le (Utf8.encode text)
  rw [Utf8.length_encode_of_ascii ascii] at chars
  omega

/-- The cursor of a row is decoded to its columns. -/
theorem decodeReportCursor_encodeReportCursor (early : row.Early) (id : row.id.value < 2 ^ 128) :
    decodeReportCursor (encodeReportCursor row) = .ok row.cursor := by
  have parsed : parse (Utf8.decode (Base64url.decode (encodeReportCursor row))) =
      some (.object (cursorMembers (row.resolvedAt.map toISOString) (toISOString row.createdAt)
        (uuidText row.id.value))) := by
    rw [encodeReportCursor, Base64url.decode_encode (Utf8.encode_lt _), Utf8.decode_encode]
    exact parse_texts _ _
  have nonempty : encodeReportCursor row ≠ [] := by
    intro empty
    rw [empty] at parsed
    cases parsed
  have short := length_encodeReportCursor early
  generalize membersEq : cursorMembers (row.resolvedAt.map toISOString)
    (toISOString row.createdAt) (uuidText row.id.value) = members at parsed
  have createdAt : asString ((Json.object members).field createdAtKey) =
      some (toISOString row.createdAt) := by
    rw [← membersEq]
    rfl
  have idText : asString ((Json.object members).field idKey) = some (uuidText row.id.value) := by
    rw [← membersEq]
    rfl
  have resolvedAt : (Json.object members).field resolvedAtKey =
      some (ofText (row.resolvedAt.map toISOString)) := by
    rw [← membersEq]
    rfl
  rw [decodeReportCursor, if_neg (not_or.mpr ⟨nonempty, Nat.not_lt.mpr short⟩), parsed]
  dsimp only
  have object : isObject (.object members) ≠ false := fun impossible => by cases impossible
  rw [if_neg object, createdAt, Option.filter_some_pos (isReportIso_toISOString early.createdAt)]
  dsimp only
  rw [idText, Option.filter_some_pos (isValidId_uuidText _), Option.bind_some, uuid_uuidText id]
  dsimp only
  rw [resolvedAt, early.readResolvedAt]
  dsimp only
  rw [queryDate_toISOString early.createdAt, early.queryDates]
  rfl

end RoundTrip

end Bongtalk.Workspaces.Moderation
