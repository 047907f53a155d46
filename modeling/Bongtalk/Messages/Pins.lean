import Bongtalk.Library.EventLoop
import Bongtalk.Messages.List
import Bongtalk.Messages.Thread

/-!
# Pins

The transactions that pin, unpin and delete messages, statement by statement. The pins of a
channel run one at a time under an advisory lock; nothing else takes this lock. What a
transaction writes shows when it commits.
-/

namespace Bongtalk.Messages

open Library Common Prisma

/-- `HARD_PIN_CAP`. -/
def hardPinCap : Nat := 55

/-- `BULK_DELETE_MAX`. -/
def bulkDeleteMax : Nat := 200

/-- `isSystemMessageType`. -/
def MessageType.isSystem (type : MessageType) : Bool :=
  type != .default

structure PinArgs where
  channelId : ChannelId
  msgId : MessageId
  actorId : UserId
  /-- The time of the pin. -/
  pinnedAt : DateTime
  /-- The message that tells of the pin: its id, its text and its time. -/
  systemMessageId : MessageId
  content : String
  contentPlain : String
  createdAt : DateTime
deriving DecidableEq, Repr

/-- The message a pin is about, which is live and no system message. -/
def pinTarget (messages : MessageTable) (args : PinArgs) : Except Failure Message :=
  match (messages.findUnique args.msgId).filter fun message =>
      message.channelId == args.channelId && message.deletedAt == none with
  | none => failWith .messageNotFound "message not found or deleted"
  | some target =>
    if target.type.isSystem then failWith .validationFailed "시스템 메시지는 고정할 수 없습니다"
    else .ok target

/-- The live pinned messages of a channel. -/
def livePins (messages : MessageTable) (channelId : ChannelId) : Nat :=
  messages.table.rows.countP fun message =>
    message.channelId == channelId && message.pinnedAt.isSome && message.deletedAt == none

/-- The check of the cap, with the number of pins so far. -/
def checkPinCap (messages : MessageTable) (channelId : ChannelId) : Except Failure Nat :=
  if hardPinCap ≤ livePins messages channelId then
    failWith .messagePinCapExceeded s!"최대 {hardPinCap}개까지 고정할 수 있습니다"
  else .ok (livePins messages channelId)

def Message.setPinned (message : Message) (pinnedAt : Option DateTime) : Message :=
  { message with pinnedAt := pinnedAt }

/-- `message.update` of a row of the channel, whether it is deleted or not. -/
def updateInChannel (messages : MessageTable) (channelId : ChannelId) (msgId : MessageId)
    (pinnedAt : Option DateTime) : Except Failure MessageTable :=
  match (messages.findUnique msgId).filter (·.channelId == channelId) with
  | none => .error .recordNotFound
  | some _ =>
    .ok (messages.updateOne msgId (Message.setPinned · pinnedAt) fun _ => rfl)

/-- The row of `insertPinSystemMessage`. -/
def PinArgs.systemMessage (args : PinArgs) : Message :=
  { id := args.systemMessageId
    channelId := args.channelId
    authorId := args.actorId
    authorType := .system
    type := .systemPin
    content := args.content
    contentPlain := args.contentPlain
    createdAt := args.createdAt }

/-- The writes of a pin. -/
def pinUpdate (messages : MessageTable) (args : PinArgs) : Except Failure MessageTable := do
  let updated ← updateInChannel messages args.channelId args.msgId (some args.pinnedAt)
  updated.create args.systemMessage

/-- The message an unpin is about. -/
def unpinTarget (messages : MessageTable) (channelId : ChannelId) (msgId : MessageId) :
    Except Failure Message :=
  match (messages.findUnique msgId).filter (·.channelId == channelId) with
  | none => failWith .messageNotFound "message not found"
  | some target => .ok target

structure BulkDeleteArgs where
  channelId : ChannelId
  messageIds : Option (List MessageId) := none
  latest : Option Nat := none
  deletedAt : DateTime
deriving DecidableEq, Repr

/-- The ids a bulk delete is about: the given ones, or the latest of the channel. -/
def bulkTargets (messages : MessageTable) (args : BulkDeleteArgs) :
    Except Failure (List MessageId) :=
  if args.messageIds.any (bulkDeleteMax < ·.length) || args.latest.any (bulkDeleteMax < ·) then
    failWith .bulkDeleteLimit s!"cannot bulk-delete more than {bulkDeleteMax} messages"
  else
    let live := messages.table.findMany fun message =>
      message.channelId == args.channelId && message.deletedAt == none
    match args.messageIds with
    | some messageIds => .ok ((live.filter (messageIds.contains ·.id)).map (·.id))
    | none => .ok (((newestFirst live).take (args.latest.getD 0)).map (·.id))

/-- The update of a bulk delete. -/
def bulkUpdate (messages : MessageTable) (channelId : ChannelId) (targetIds : List MessageId)
    (deletedAt : DateTime) : MessageTable :=
  messages.rewrite (fun message =>
      if message.id ∈ targetIds ∧ message.channelId = channelId ∧ message.deletedAt = none then
        message.markDeleted deletedAt
      else message)
    fun message => by split <;> rfl

/-- The rows, and the channels whose pin lock is taken. -/
structure PinState where
  messages : MessageTable
  locked : List ChannelId := []

def PinState.unlock (state : PinState) (channelId : ChannelId) : PinState :=
  { state with locked := state.locked.erase channelId }

/-- A transaction, named by its next statement. -/
inductive PinTask where
  | pinLock (args : PinArgs)
  | pinFind (args : PinArgs)
  | pinCount (args : PinArgs)
  | pinUpdate (args : PinArgs)
  | unpinFind (channelId : ChannelId) (msgId : MessageId)
  | unpinUpdate (channelId : ChannelId) (msgId : MessageId)
  | softDelete (channelId : ChannelId) (msgId : MessageId) (deletedAt : DateTime)
  | bulkFind (args : BulkDeleteArgs)
  | bulkUpdate (channelId : ChannelId) (targetIds : List MessageId) (deletedAt : DateTime)
deriving DecidableEq, Repr

def PinTask.resume (state : PinState) : PinTask → PinState × List PinTask
  | .pinLock args =>
    -- A transaction that does not get the lock waits for it.
    if args.channelId ∈ state.locked then (state, [.pinLock args])
    else ({ state with locked := args.channelId :: state.locked }, [.pinFind args])
  | .pinFind args =>
    match pinTarget state.messages args with
    | .error _ => (state.unlock args.channelId, [])
    | .ok target =>
      if target.pinnedAt.isSome then (state.unlock args.channelId, [])
      else (state, [.pinCount args])
  | .pinCount args =>
    match checkPinCap state.messages args.channelId with
    | .error _ => (state.unlock args.channelId, [])
    | .ok _ => (state, [.pinUpdate args])
  | .pinUpdate args =>
    match Messages.pinUpdate state.messages args with
    | .error _ => (state.unlock args.channelId, [])
    | .ok messages => ({ state with messages := messages }.unlock args.channelId, [])
  | .unpinFind channelId msgId =>
    match unpinTarget state.messages channelId msgId with
    | .error _ => (state, [])
    | .ok target =>
      if target.pinnedAt.isSome then (state, [.unpinUpdate channelId msgId]) else (state, [])
  | .unpinUpdate channelId msgId =>
    match updateInChannel state.messages channelId msgId none with
    | .error _ => (state, [])
    | .ok messages => ({ state with messages := messages }, [])
  | .softDelete channelId msgId deletedAt =>
    ({ state with messages := Messages.softDelete state.messages channelId msgId deletedAt }, [])
  | .bulkFind args =>
    match bulkTargets state.messages args with
    | .error _ => (state, [])
    | .ok targetIds =>
      if targetIds = [] then (state, [])
      else (state, [.bulkUpdate args.channelId targetIds args.deletedAt])
  | .bulkUpdate channelId targetIds deletedAt =>
    ({ state with
        messages := Messages.bulkUpdate state.messages channelId targetIds deletedAt }, [])

/-- A request that starts a transaction, or a message that arrives. -/
inductive PinInput where
  | pin (args : PinArgs)
  | unpin (channelId : ChannelId) (msgId : MessageId)
  | softDelete (channelId : ChannelId) (msgId : MessageId) (deletedAt : DateTime)
  | bulkDelete (args : BulkDeleteArgs)
  | send (row : SendRow)

/-- The first statement of a request. -/
def PinInput.starts : PinInput → List PinTask
  | .pin args => [.pinLock args]
  | .unpin channelId msgId => [.unpinFind channelId msgId]
  | .softDelete channelId msgId deletedAt => [.softDelete channelId msgId deletedAt]
  | .bulkDelete args => [.bulkFind args]
  | .send _ => []

def PinInput.after (state : PinState) : PinInput → PinState
  | .send row =>
    { state with messages := (sendMessage state.messages row).toOption.getD state.messages }
  | _ => state

def pinLoop : EventLoop PinState PinTask PinInput where
  resume := PinTask.resume
  Accepts state input next spawned := next = input.after state ∧ spawned = input.starts

end Bongtalk.Messages
