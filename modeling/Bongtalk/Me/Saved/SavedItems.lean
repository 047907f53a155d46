import Bongtalk.Me.Saved.SavedMessages

/-!
# The list of saved messages

What a user is shown of the messages that they have saved, a page at a time, and what a
reminder of one of them says.
-/

namespace Bongtalk.Me

open Library Common Messages Prisma

/-- `LEFT(text, 150)` -/
def excerptOf (text : String) : String :=
  String.ofList (text.toList.take excerptLen)

/-- `text.slice(0, 150)`, which counts the units of UTF-16. -/
def previewOf (text : String) : String :=
  String.ofList (Utf16.decode ((Utf16.encode text.toList).take excerptLen))

/-- A saved row joined with its message and the name of the channel. -/
structure SavedRow where
  row : SavedMessage
  message : Message
  channelName : String
deriving DecidableEq, Repr

structure SavedMessageDto where
  id : SavedMessageId
  messageId : MessageId
  status : SaveStatus
  savedAt : List Char
  messageDeletedAt : Option (List Char)
  excerpt : String
  authorId : UserId
  channelId : ChannelId
  channelName : String
  reminderAt : Option (List Char)
  reminderFiredAt : Option (List Char)
  snoozedUntil : Option (List Char)
  note : Option String
deriving DecidableEq, Repr

structure SavedListArgs where
  userId : UserId
  status : SaveStatus
  limit : Int
  before : Option (List Char) := none
  overdueReminder : Bool := false
  now : DateTime

structure SavedMessageListResponse where
  items : List SavedMessageDto
  nextCursor : Option (List Char)
deriving DecidableEq, Repr

/-- The casts `text::timestamptz` and `text::uuid` of the database. -/
structure SqlCasts where
  timestamp : List Char → Option Int
  uuid : List Char → Option Nat

/-- The columns that the list is ordered by. -/
def SavedMessage.position (row : SavedMessage) : Position :=
  toLex (row.savedAt * 1000, row.id.value)

def encodeSavedCursor (row : SavedMessage) : List Char :=
  Base64url.encode (Utf8.encode (toISOString row.savedAt ++ '|' :: uuidText row.id.value))

/-- The text before the last bar, and the text behind it. -/
def decodeSavedCursor (token : List Char) : Except Failure (List Char × List Char) :=
  let decoded := (Utf8.decode (Base64url.decode token)).reverse
  let id := decoded.takeWhile (· ≠ '|')
  let savedAt := (decoded.dropWhile (· ≠ '|')).drop 1
  if savedAt = [] ∨ id = [] then failWith .messageCursorInvalid "invalid saved cursor"
  else .ok (savedAt.reverse, id.reverse)

/-- The condition of the list apart from the cursor. -/
def SavedListArgs.shows (args : SavedListArgs) (row : SavedMessage) : Bool :=
  row.userId == args.userId &&
    if args.overdueReminder then
      row.status != .completed && row.reminderFiredAt.isSome && row.reminderAt.any (· < args.now)
    else row.status == args.status

/-- The comparison with the cursor, when there is one. -/
def cursorSql (casts : SqlCasts) (cursor : Option (List Char × List Char)) :
    Except Failure (SavedMessage → Bool) :=
  match cursor with
  | none => .ok fun _ => true
  | some (savedAt, id) =>
    match casts.timestamp savedAt, casts.uuid id with
    | some savedAt, some id => .ok fun row => row.position < toLex (savedAt, id)
    | _, _ => .error .rawQueryFailed

def toDto (joined : SavedRow) : SavedMessageDto where
  id := joined.row.id
  messageId := joined.row.messageId
  status := joined.row.status
  savedAt := toISOString joined.row.savedAt
  messageDeletedAt := joined.row.messageDeletedAt.map toISOString
  excerpt :=
    if joined.row.messageDeletedAt.isSome then deletedPlaceholder
    else excerptOf joined.message.contentPlain
  authorId := joined.message.authorId
  channelId := joined.message.channelId
  channelName := joined.channelName
  reminderAt := joined.row.reminderAt.map toISOString
  reminderFiredAt := joined.row.reminderFiredAt.map toISOString
  snoozedUntil := joined.row.snoozedUntil.map toISOString
  note := joined.row.note

namespace SavedState

variable (state : SavedState)

/-- `COALESCE("displayName", "name")` -/
def channelName (channel : Channel) : String :=
  (state.displayName channel.id).getD channel.name

/-- The row with its message and the name of the channel of that, which is live. -/
def join (row : SavedMessage) : Option SavedRow := do
  let message ← state.messages.findUnique row.messageId
  let channel ← state.inbox.liveChannel message.channelId
  return ⟨row, message, state.channelName channel⟩

def order (rows : List SavedRow) : List SavedRow :=
  rows.insertionSort fun first second => second.row.position ≤ first.row.position

def list (casts : SqlCasts) (args : SavedListArgs) : Except Failure SavedMessageListResponse := do
  let limit := (max 1 (min 100 args.limit)).toNat
  let cursor ← (given args.before).mapM decodeSavedCursor
  let older ← cursorSql casts cursor
  let rows := (order ((state.saved.table.findMany fun row =>
    args.shows row && older row).filterMap state.join)).take (limit + 1)
  let hasMore := decide (limit < rows.length)
  let page := rows.take limit
  .ok {
    items := page.map toDto
    nextCursor := if hasMore then page.getLast?.map fun last => encodeSavedCursor last.row else none }

variable {state}

theorem join_eq_some_iff {row : SavedMessage} {joined : SavedRow} :
    state.join row = some joined ↔
      joined.row = row ∧ joined.message ∈ state.messages ∧ joined.message.id = row.messageId ∧
        ∃ channel, state.inbox.liveChannel joined.message.channelId = some channel ∧
          state.channelName channel = joined.channelName := by
  rcases joined with ⟨joinedRow, message, channelName⟩
  simp only [join, bind, pure, Option.bind_eq_some_iff, MessageTable.findUnique_eq_some_iff,
    Option.some.injEq, SavedRow.mk.injEq]
  constructor
  · rintro ⟨_, ⟨present, same⟩, channel, channelEq, rfl, rfl, rfl⟩
    exact ⟨rfl, present, same, channel, channelEq, rfl⟩
  · rintro ⟨rfl, present, same, channel, channelEq, rfl⟩
    exact ⟨message, ⟨present, same⟩, channel, channelEq, rfl, rfl, rfl⟩

/-- An item of a page is a row of the user joined with its message. -/
theorem exists_of_mem_list {casts : SqlCasts} {args : SavedListArgs}
    {response : SavedMessageListResponse} (listed : state.list casts args = .ok response)
    {item : SavedMessageDto} (shown : item ∈ response.items) :
    ∃ row ∈ state.saved, args.shows row = true ∧
      ∃ joined, state.join row = some joined ∧ toDto joined = item := by
  simp only [list, bind_eq_ok] at listed
  obtain ⟨cursor, -, older, -, made⟩ := listed
  cases made
  obtain ⟨joined, inPage, rfl⟩ := List.mem_map.mp shown
  have isRow := List.mem_of_mem_take (List.mem_of_mem_take inPage)
  obtain ⟨row, found, joinedEq⟩ := List.mem_filterMap.mp ((List.mem_insertionSort _).mp isRow)
  obtain ⟨present, meets⟩ := Table.mem_findMany.mp found
  exact ⟨row, present, (Bool.and_eq_true_iff.mp meets).1, joined, joinedEq, rfl⟩

end SavedState

end Bongtalk.Me
