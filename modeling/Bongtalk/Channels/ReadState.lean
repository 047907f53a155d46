import Bongtalk.Library.EventLoop
import Bongtalk.Messages.Cursor
import Bongtalk.Messages.Thread

/-!
# Read cursors

How far a user has read a channel or a thread. Both tables keep the position of a message and
move it by the same guarded upsert.
-/

namespace Bongtalk.Channels

open Library Common Prisma Messages

/-- The columns `lastReadMessageCreatedAt` and `lastReadMessageId`, which are null together. -/
structure ReadCursor where
  createdAt : DateTime
  messageId : MessageId
deriving DecidableEq, Repr

/-- The tuple the database compares. -/
def ReadCursor.position (cursor : ReadCursor) : Position :=
  toLex (cursor.createdAt * 1000, cursor.messageId.value)

def cursorAt (message : Message) : ReadCursor :=
  { createdAt := message.createdAt, messageId := message.id }

/-- A row of `UserChannelReadState` or `ThreadReadState`; the scope is the channel or the root. -/
structure ReadState (Scope : Type) where
  userId : UserId
  scope : Scope
  cursor : Option ReadCursor := none
deriving DecidableEq, Repr

def ReadState.key {Scope : Type} (state : ReadState Scope) : UserId × Scope :=
  (state.userId, state.scope)

abbrev ReadStateTable (Scope : Type) := Table (ReadState Scope) ReadState.key

section Scoped

variable {Scope : Type} [DecidableEq Scope]

/-- The place of a cursor, below every message while there is none. -/
def placeOf : Option ReadCursor → WithBot Position
  | none => ⊥
  | some cursor => cursor.position

def storedCursor (states : ReadStateTable Scope) (userId : UserId) (scope : Scope) :
    Option ReadCursor :=
  (states.findUnique (userId, scope)).bind (·.cursor)

/-- How far a user has read. -/
def cursorOf (states : ReadStateTable Scope) (userId : UserId) (scope : Scope) :
    WithBot Position :=
  placeOf (storedCursor states userId scope)

/-- `INSERT … ON CONFLICT DO UPDATE … WHERE` the stored tuple is null or smaller. -/
def advance (states : ReadStateTable Scope) (userId : UserId) (scope : Scope)
    (cursor : ReadCursor) : ReadStateTable Scope :=
  match states.findUnique (userId, scope) with
  | none => states.upsert { userId := userId, scope := scope, cursor := some cursor }
  | some stored =>
    if stored.cursor.all fun old => old.position < cursor.position then
      states.upsert { userId := userId, scope := scope, cursor := some cursor }
    else states

/-- The upsert of the replay pointer, which makes a row without a cursor and moves none. -/
def touch (states : ReadStateTable Scope) (userId : UserId) (scope : Scope) :
    ReadStateTable Scope :=
  match states.findUnique (userId, scope) with
  | none => states.upsert { userId := userId, scope := scope }
  | some _ => states

structure AckArgs (Scope : Type) where
  userId : UserId
  scope : Scope
  lastReadMessageId : MessageId
deriving DecidableEq, Repr

structure AckState (Scope : Type) where
  messages : MessageTable
  states : ReadStateTable Scope := .empty

/-- An acknowledgement, named by its next statement. -/
inductive AckTask (Scope : Type) where
  | find (args : AckArgs Scope)
  | upsert (args : AckArgs Scope) (message : Message)

/-- The message an acknowledgement is about. -/
def ackTarget (belongs : Scope → Message → Bool) (messages : MessageTable)
    (args : AckArgs Scope) (what : String) : Except Failure Message :=
  match (messages.findUnique args.lastReadMessageId).filter fun message =>
      belongs args.scope message && message.deletedAt == none with
  | none => failWith .messageNotFound what
  | some message => .ok message

def AckTask.resume (belongs : Scope → Message → Bool) (what : String) (state : AckState Scope) :
    AckTask Scope → AckState Scope × List (AckTask Scope)
  | .find args =>
    match ackTarget belongs state.messages args what with
    | .error _ => (state, [])
    | .ok message => (state, [.upsert args message])
  | .upsert args message =>
    ({ state with states := advance state.states args.userId args.scope (cursorAt message) }, [])

/-- An acknowledgement, a replay pointer, a new message or a deleted one. -/
inductive AckInput (Scope : Type) where
  | ack (args : AckArgs Scope)
  | replay (userId : UserId) (scope : Scope)
  | send (row : SendRow)
  | softDelete (channelId : ChannelId) (msgId : MessageId) (deletedAt : DateTime)

def AckInput.starts : AckInput Scope → List (AckTask Scope)
  | .ack args => [.find args]
  | _ => []

def AckInput.after (state : AckState Scope) : AckInput Scope → AckState Scope
  | .ack _ => state
  | .replay userId scope => { state with states := touch state.states userId scope }
  | .send row =>
    { state with messages := (sendMessage state.messages row).toOption.getD state.messages }
  | .softDelete channelId msgId deletedAt =>
    { state with messages := Messages.softDelete state.messages channelId msgId deletedAt }

def ackLoop (belongs : Scope → Message → Bool) (what : String) :
    EventLoop (AckState Scope) (AckTask Scope) (AckInput Scope) where
  resume := AckTask.resume belongs what
  Accepts state input next spawned := next = input.after state ∧ spawned = input.starts

end Scoped

def ofChannel (channelId : ChannelId) (message : Message) : Bool :=
  message.channelId == channelId

/-- A reply of the root that is no broadcast copy. -/
def ofThread (rootId : MessageId) (message : Message) : Bool :=
  message.parentMessageId == some rootId && !message.isBroadcast

/-- `ackRead`, over HTTP or a socket. -/
def ackRead : EventLoop (AckState ChannelId) (AckTask ChannelId) (AckInput ChannelId) :=
  ackLoop ofChannel "lastReadMessageId does not belong to this channel"

def ackThread : EventLoop (AckState MessageId) (AckTask MessageId) (AckInput MessageId) :=
  ackLoop ofThread "lastReadMessageId does not belong to this thread"

end Bongtalk.Channels
