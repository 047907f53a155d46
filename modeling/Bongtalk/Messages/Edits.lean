import Bongtalk.Library.EventLoop
import Bongtalk.Messages.Thread

/-!
# Edits

The transaction of an edit, statement by statement: read the row, compare and set its version,
keep what was overwritten, and drop the oldest entries beyond the cap. The compare-and-set holds
the lock of the row until the commit, and what the transaction writes shows then.
-/

namespace Bongtalk.Messages

open Library Common Prisma

/-- `EDIT_HISTORY_CAP`. -/
def editHistoryCap : Nat := 10

structure EditHistoryId where
  value : Nat
deriving DecidableEq, Repr

/-- A row of `MessageEditHistory`: a message as it was before an edit. -/
structure EditHistoryRow where
  id : EditHistoryId
  messageId : MessageId
  version : Nat
  contentPlain : String
  editedAt : DateTime
deriving DecidableEq, Repr

structure EditArgs where
  channelId : ChannelId
  msgId : MessageId
  expectedVersion : Nat
  content : String
  contentPlain : String
  mentions : Mentions := {}
  editedAt : DateTime
  /-- The id of the row the history gets. -/
  historyId : EditHistoryId
deriving DecidableEq, Repr

/-- A committed edit: the version the client expected, and what was overwritten. -/
structure Edit where
  messageId : MessageId
  expectedVersion : Nat
  version : Nat
  contentPlain : String
  editedAt : DateTime
deriving DecidableEq, Repr

/-- The read of the row before the update. -/
def findInChannel (messages : MessageTable) (args : EditArgs) : Option Message :=
  (messages.findUnique args.msgId).filter (·.channelId == args.channelId)

/-- The row the update matches: live and at the expected version. Without one the read before
tells why. -/
def compareAndSet (messages : MessageTable) (args : EditArgs) (before : Option Message) :
    Except Failure Message :=
  match (findInChannel messages args).filter fun message =>
      message.deletedAt == none && message.version == args.expectedVersion with
  | some stored => .ok stored
  | none =>
    if before.all (·.deletedAt.isSome) then
      failWith .messageNotFound "message not found or deleted"
    else if findInChannel messages args = none then
      failWith .messageNotFound "message not found or deleted"
    else failWith .messageVersionConflict "message was edited elsewhere — reload and retry"

/-- The entry of the history, made from the read before. -/
def EditArgs.historyRow (args : EditArgs) (before : Message) : EditHistoryRow :=
  { id := args.historyId
    messageId := args.msgId
    version := before.version
    contentPlain := before.contentPlain
    editedAt := args.editedAt }

/-- The entries of a message, in the order they were made. -/
def historyOf (history : Table EditHistoryRow EditHistoryRow.id) (messageId : MessageId) :
    List EditHistoryRow :=
  (history.rows.filter (·.messageId == messageId)).reverse

/-- `ORDER BY version ASC`. -/
def byVersion (rows : List EditHistoryRow) : List EditHistoryRow :=
  rows.insertionSort fun first second => first.version ≤ second.version

structure EditState where
  messages : MessageTable
  history : Table EditHistoryRow EditHistoryRow.id := .empty
  /-- The messages whose row a transaction has locked. -/
  locked : List MessageId := []
  /-- The edits committed so far. No code reads this. -/
  edits : List Edit := []

def EditState.unlock (state : EditState) (messageId : MessageId) : EditState :=
  { state with locked := state.locked.erase messageId }

/-- The edit a commit makes, over the row as it is stored. -/
def EditArgs.edit (args : EditArgs) (stored : Message) : Edit :=
  { messageId := args.msgId
    expectedVersion := args.expectedVersion
    version := stored.version
    contentPlain := stored.contentPlain
    editedAt := args.editedAt }

/-- All writes of an edit; an id the history has already fails them all. -/
def EditState.commit (state : EditState) (args : EditArgs) (before : Message)
    (doomed : List EditHistoryId) : Option EditState :=
  (state.history.insert? (args.historyRow before)).map fun inserted =>
    { state with
      messages := state.messages.updateOne args.msgId
        (Message.edit · args.content args.contentPlain args.mentions args.editedAt) fun _ => rfl
      history := inserted.deleteMany fun row => row.id ∈ doomed
      edits := state.edits ++ ((state.messages.findUnique args.msgId).map args.edit).toList }

/-- A transaction, named by its next statement, with what it has read. -/
inductive EditTask where
  | findBefore (args : EditArgs)
  | compareAndSet (args : EditArgs) (before : Option Message)
  | createHistory (args : EditArgs) (before : Option Message)
  | countHistory (args : EditArgs) (before : Message)
  | findOldest (args : EditArgs) (before : Message) (excess : Nat)
  | commit (args : EditArgs) (before : Message) (doomed : List EditHistoryId)
  | softDelete (channelId : ChannelId) (msgId : MessageId) (deletedAt : DateTime)
deriving DecidableEq, Repr

def EditTask.resume (state : EditState) : EditTask → EditState × List EditTask
  | .findBefore args => (state, [.compareAndSet args (findInChannel state.messages args)])
  | .compareAndSet args before =>
    match Messages.compareAndSet state.messages args before with
    | .error _ => (state, [])
    | .ok _ =>
      -- An update that matches a locked row waits, and then looks at the row again.
      if args.msgId ∈ state.locked then (state, [.compareAndSet args before])
      else ({ state with locked := args.msgId :: state.locked }, [.createHistory args before])
  -- `before!` of a message that was not there at the read: the transaction fails.
  | .createHistory args none => (state.unlock args.msgId, [])
  | .createHistory args (some before) => (state, [.countHistory args before])
  | .countHistory args before =>
    let historyCount := (historyOf state.history args.msgId).length + 1
    if editHistoryCap < historyCount then
      (state, [.findOldest args before (historyCount - editHistoryCap)])
    else (state, [.commit args before []])
  | .findOldest args before excess =>
    let rows := historyOf state.history args.msgId ++ [args.historyRow before]
    (state, [.commit args before (((byVersion rows).take excess).map (·.id))])
  | .commit args before doomed =>
    (((state.commit args before doomed).getD state).unlock args.msgId, [])
  | .softDelete channelId msgId deletedAt =>
    if msgId ∈ state.locked then (state, [.softDelete channelId msgId deletedAt])
    else
      ({ state with messages := Messages.softDelete state.messages channelId msgId deletedAt }, [])

inductive EditInput where
  | update (args : EditArgs)
  | softDelete (channelId : ChannelId) (msgId : MessageId) (deletedAt : DateTime)
  | send (row : SendRow)

def EditInput.starts : EditInput → List EditTask
  | .update args => [.findBefore args]
  | .softDelete channelId msgId deletedAt => [.softDelete channelId msgId deletedAt]
  | .send _ => []

def EditInput.after (state : EditState) : EditInput → EditState
  | .send row =>
    { state with messages := (sendMessage state.messages row).toOption.getD state.messages }
  | _ => state

def editLoop : EventLoop EditState EditTask EditInput where
  resume := EditTask.resume
  Accepts state input next spawned := next = input.after state ∧ spawned = input.starts

end Bongtalk.Messages
