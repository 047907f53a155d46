import Bongtalk.Me.Saved.MessageVisible
import Bongtalk.Messages.Pages
import Bongtalk.Messages.Pins

/-!
# Saved messages

A user saves messages for later. A row keeps beside the message the time at which the message
was deleted, so that what is shown of it need not look at the message.
-/

namespace Bongtalk.Me

open Library Common Messages Prisma

structure SavedMessageId where
  value : Nat
deriving DecidableEq, Repr

inductive SaveStatus where
  | inProgress
  | archived
  | completed
deriving DecidableEq, Repr

structure SavedMessage where
  id : SavedMessageId
  userId : UserId
  messageId : MessageId
  status : SaveStatus := .inProgress
  /-- The time of the deletion of the message. -/
  messageDeletedAt : Option DateTime := none
  reminderAt : Option DateTime := none
  reminderFiredAt : Option DateTime := none
  snoozedUntil : Option DateTime := none
  note : Option String := none
  savedAt : DateTime
deriving DecidableEq, Repr

open SavedMessage

def SavedMessage.pair (row : SavedMessage) : UserId × MessageId :=
  (row.userId, row.messageId)

/-- Keep the time of a deletion in the row for a message that is deleted. -/
def SavedMessage.markDeleted (messageIds : List MessageId) (deletedAt : DateTime)
    (row : SavedMessage) : SavedMessage :=
  if row.messageId ∈ messageIds then { row with messageDeletedAt := some deletedAt } else row

theorem SavedMessage.identity_markDeleted (messageIds : List MessageId) (deletedAt : DateTime)
    (row : SavedMessage) :
    ((markDeleted messageIds deletedAt row).id, (markDeleted messageIds deletedAt row).pair) =
      (row.id, row.pair) := by
  rw [markDeleted]
  split <;> rfl

/-- `SAVED_LIMIT`. -/
def savedLimit : Nat := 500

/-- `EXCERPT_LEN`. -/
def excerptLen : Nat := 150

/-- `DELETED_PLACEHOLDER`. -/
def deletedPlaceholder : String := "[삭제된 메시지]"

structure SavedTable where
  table : Table SavedMessage SavedMessage.id
  /-- `@@unique([userId, messageId])`. -/
  pairsNodup : (table.rows.map pair).Nodup

namespace SavedTable

instance : Membership SavedMessage SavedTable where
  mem saved row := row ∈ saved.table

variable {saved : SavedTable}

theorem mem_def {row : SavedMessage} : row ∈ saved ↔ row ∈ saved.table :=
  Iff.rfl

def empty : SavedTable where
  table := .empty
  pairsNodup := List.nodup_nil

/-- The row of a user for a message. -/
def findUnique (saved : SavedTable) (userId : UserId) (messageId : MessageId) :
    Option SavedMessage :=
  saved.table.rows.find? fun row => row.pair = (userId, messageId)

def count (saved : SavedTable) (userId : UserId) : Nat :=
  saved.table.rows.countP (·.userId == userId)

/-- A row of this id or of this pair is there. -/
def Taken (saved : SavedTable) (row : SavedMessage) : Prop :=
  row.id ∈ saved.table.rows.map SavedMessage.id ∨ row.pair ∈ saved.table.rows.map pair

instance (saved : SavedTable) (row : SavedMessage) : Decidable (saved.Taken row) :=
  inferInstanceAs (Decidable (_ ∨ _))

/-- Insert a row that no row stands in the way of. -/
def insert (saved : SavedTable) (row : SavedMessage) (free : ¬saved.Taken row) : SavedTable where
  table := {
    rows := row :: saved.table.rows
    keysNodup := List.nodup_cons.mpr ⟨fun same => free (.inl same), saved.table.keysNodup⟩ }
  pairsNodup := List.nodup_cons.mpr ⟨fun same => free (.inr same), saved.pairsNodup⟩

theorem mem_insert {row other : SavedMessage} (free : ¬saved.Taken row) :
    other ∈ saved.insert row free ↔ other = row ∨ other ∈ saved :=
  List.mem_cons

/-- `savedMessage.updateMany` of the rows for some messages, with the time of a deletion. -/
def markDeleted (saved : SavedTable) (messageIds : List MessageId) (deletedAt : DateTime) :
    SavedTable where
  table := saved.table.rewrite (SavedMessage.markDeleted messageIds deletedAt) fun row =>
    congrArg Prod.fst (identity_markDeleted messageIds deletedAt row)
  pairsNodup := by
    have samePairs : (saved.table.rows.map (SavedMessage.markDeleted messageIds deletedAt)).map
        pair = saved.table.rows.map pair := by
      rw [List.map_map]
      refine List.map_congr_left fun row _ => ?_
      exact congrArg Prod.snd (identity_markDeleted messageIds deletedAt row)
    rw [Table.rewrite, samePairs]
    exact saved.pairsNodup

/-- A row of the result comes from one for the same message, and bears the mark if that row
does or the message is among the deleted ones. -/
theorem exists_of_mem_markDeleted {messageIds : List MessageId} {deletedAt : DateTime}
    {row : SavedMessage} (present : row ∈ saved.markDeleted messageIds deletedAt) :
    ∃ old ∈ saved, old.messageId = row.messageId ∧
      (old.messageDeletedAt ≠ none ∨ row.messageId ∈ messageIds → row.messageDeletedAt ≠ none) := by
  obtain ⟨old, oldMem, rfl⟩ := List.mem_map.mp present
  refine ⟨old, oldMem, ?_⟩
  rw [SavedMessage.markDeleted]
  split
  next among => exact ⟨rfl, fun _ => Option.some_ne_none _⟩
  next others => exact ⟨rfl, fun marked => marked.resolve_right others⟩

end SavedTable

/-- What `save` answers. -/
structure SaveToggleResponse where
  saved : Bool
  savedMessageId : Option SavedMessageId
  status : Option SaveStatus
deriving DecidableEq, Repr

structure SavedState where
  db : Database
  messages : MessageTable
  saved : SavedTable := .empty
  /-- The column `displayName` of the channels. -/
  displayName : ChannelId → Option String := fun _ => none
  answers : List SaveToggleResponse := []
  refused : List Failure := []
  /-- The rows whose reminders a deletion cancels. -/
  cancelled : List SavedMessageId := []

/-- A call of `save`, with the id and the time that the database makes up for the row. -/
structure SaveArgs where
  userId : UserId
  messageId : MessageId
  savedMessageId : SavedMessageId
  savedAt : DateTime
deriving DecidableEq, Repr

def SaveArgs.row (args : SaveArgs) : SavedMessage where
  id := args.savedMessageId
  userId := args.userId
  messageId := args.messageId
  savedAt := args.savedAt

namespace SavedState

variable (state : SavedState)

/-- The state as the check of the access reads it. -/
def inbox : InboxState :=
  .ofMessages state.db .empty state.messages

def answer (row : SavedMessage) : SavedState :=
  { state with answers := state.answers ++ [⟨true, some row.id, some row.status⟩] }

def refuse (failure : Failure) : SavedState :=
  { state with refused := state.refused ++ [failure] }

def checkLimit (userId : UserId) : Except Failure Unit :=
  if savedLimit ≤ state.saved.count userId then
    failWith .savedLimitExceeded s!"개인 저장함은 최대 {savedLimit}개까지 저장할 수 있습니다"
  else .ok ()

/-- `savedMessage.create`. -/
def create (row : SavedMessage) : Except Failure SavedState :=
  if taken : state.saved.Taken row then .error .uniqueViolation
  else if (state.messages.findUnique row.messageId).isNone then .error .foreignKeyViolation
  else .ok { state with saved := state.saved.insert row taken }

/-- The rows of some messages with a reminder that has not fired. -/
def pendingReminders (messageIds : List MessageId) : List SavedMessageId :=
  (state.saved.table.findMany fun row =>
    messageIds.contains row.messageId && row.reminderAt.isSome && row.reminderFiredAt.isNone).map
      (·.id)

/-- The transaction of `softDelete`, and the reminders that are cancelled behind it. -/
def softDelete (channelId : ChannelId) (msgId : MessageId) (deletedAt : DateTime) : SavedState :=
  if (state.messages.findUnique msgId).any fun message =>
      message.channelId == channelId && message.deletedAt == none then
    { state with
      messages := Messages.softDelete state.messages channelId msgId deletedAt
      saved := state.saved.markDeleted [msgId] deletedAt
      cancelled := state.cancelled ++ state.pendingReminders [msgId] }
  else state

/-- The writes of the transaction of `bulkDelete`. -/
def bulkUpdate (channelId : ChannelId) (targetIds : List MessageId) (deletedAt : DateTime) :
    SavedState :=
  { state with
    messages := Messages.bulkUpdate state.messages channelId targetIds deletedAt
    saved := state.saved.markDeleted targetIds deletedAt }

variable {state}

/-- An insert fails for a row that is there or for a message that is not. -/
theorem create_cases (row : SavedMessage) :
    (state.saved.Taken row ∧ state.create row = .error .uniqueViolation) ∨
      (¬state.saved.Taken row ∧ (∀ message ∈ state.messages, message.id ≠ row.messageId) ∧
        state.create row = .error .foreignKeyViolation) ∨
      ∃ free : ¬state.saved.Taken row,
        state.create row = .ok { state with saved := state.saved.insert row free } := by
  rw [create]
  split
  next taken => exact .inl ⟨taken, rfl⟩
  next free =>
    split
    next absent =>
      refine .inr (.inl ⟨free, fun message present same => ?_, rfl⟩)
      rw [MessageTable.findUnique_eq_some_iff.mpr ⟨present, same⟩] at absent
      cases absent
    next => exact .inr (.inr ⟨free, rfl⟩)

end SavedState

inductive SavedTask where
  | findUnique (args : SaveArgs)
  | assertVisible (args : SaveArgs)
  | count (args : SaveArgs)
  | create (args : SaveArgs)
  | findAgain (args : SaveArgs)
  | softDelete (channelId : ChannelId) (msgId : MessageId) (deletedAt : DateTime)
  | bulkFind (args : BulkDeleteArgs)
  | bulkUpdate (channelId : ChannelId) (targetIds : List MessageId) (deletedAt : DateTime)
deriving DecidableEq, Repr

/-- One statement of `save`, or the writes of a transaction that deletes. -/
def SavedTask.resume (state : SavedState) : SavedTask → SavedState × List SavedTask
  | .findUnique args =>
    match state.saved.findUnique args.userId args.messageId with
    | some row => (state.answer row, [])
    | none => (state, [.assertVisible args])
  | .assertVisible args =>
    match state.inbox.assertMessageVisible args.userId args.messageId with
    | .error failure => (state.refuse failure, [])
    | .ok () => (state, [.count args])
  | .count args =>
    match state.checkLimit args.userId with
    | .error failure => (state.refuse failure, [])
    | .ok () => (state, [.create args])
  | .create args =>
    match state.create args.row with
    | .ok created => (created.answer args.row, [])
    -- Another `save` of the same message was faster.
    | .error .uniqueViolation => (state, [.findAgain args])
    | .error failure => (state.refuse failure, [])
  | .findAgain args =>
    match state.saved.findUnique args.userId args.messageId with
    | some row => (state.answer row, [])
    | none => (state.refuse .uniqueViolation, [])
  | .softDelete channelId msgId deletedAt => (state.softDelete channelId msgId deletedAt, [])
  | .bulkFind args =>
    match bulkTargets state.messages args with
    | .error failure => (state.refuse failure, [])
    | .ok targetIds =>
      if targetIds = [] then (state, [])
      else (state, [.bulkUpdate args.channelId targetIds args.deletedAt])
  | .bulkUpdate channelId targetIds deletedAt =>
    (state.bulkUpdate channelId targetIds deletedAt, [])

inductive SavedInput where
  | save (args : SaveArgs)
  | softDelete (channelId : ChannelId) (msgId : MessageId) (deletedAt : DateTime)
  | bulkDelete (args : BulkDeleteArgs)
deriving DecidableEq, Repr

/-- The first statement of a call. -/
def SavedInput.starts : SavedInput → List SavedTask
  | .save args => [.findUnique args]
  | .softDelete channelId msgId deletedAt => [.softDelete channelId msgId deletedAt]
  | .bulkDelete args => [.bulkFind args]

def savedLoop : EventLoop SavedState SavedTask SavedInput where
  resume := SavedTask.resume
  Accepts state input next spawned := next = state ∧ spawned = input.starts

end Bongtalk.Me
