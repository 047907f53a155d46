import Bongtalk.Me.Saved.SavedItems

/-!
# What a reminder says

A reminder that fires tells the devices of the user about the saved message.
-/

namespace Bongtalk.Queue

open Library Me Messages Prisma

/-- What a run of the reminder reads: the row, its message and the channel of that, live or not. -/
structure FireRow where
  status : SaveStatus
  reminderFiredAt : Option DateTime
  savedAt : DateTime
  messageId : MessageId
  messageDeletedAt : Option DateTime
  contentPlain : Option String
  channelId : Option ChannelId
  channelName : Option String
deriving DecidableEq, Repr

structure ReminderFirePayload where
  savedMessageId : SavedMessageId
  messageId : MessageId
  channelId : Option ChannelId
  channelName : String
  messagePreview : String
  originalSavedAt : List Char
deriving DecidableEq, Repr

structure SavedUpdatedPayload where
  savedMessageId : SavedMessageId
  status : SaveStatus
  reminderAt : Option (List Char) := none
deriving DecidableEq, Repr

namespace FireRow

variable (row : FireRow)

/-- A reminder fires once, and not for what is completed. -/
def fires : Bool :=
  row.reminderFiredAt.isNone && row.status != .completed

def deleted : Bool :=
  row.messageDeletedAt.isSome || row.channelId.isNone

def firePayload (savedMessageId : SavedMessageId) : ReminderFirePayload where
  savedMessageId := savedMessageId
  messageId := row.messageId
  channelId := row.channelId
  channelName := if row.deleted then "" else row.channelName.getD ""
  messagePreview := if row.deleted then deletedPlaceholder else previewOf (row.contentPlain.getD "")
  originalSavedAt := toISOString row.savedAt

def updatedPayload (savedMessageId : SavedMessageId) : SavedUpdatedPayload where
  savedMessageId := savedMessageId
  status := row.status

end FireRow

/-- The row for a saved row, its message and the name of the channel. -/
def FireRow.join (row : SavedMessage) (message : Option Message) (channelName : Option String) :
    FireRow where
  status := row.status
  reminderFiredAt := row.reminderFiredAt
  savedAt := row.savedAt
  messageId := row.messageId
  messageDeletedAt := row.messageDeletedAt
  contentPlain := message.map (·.contentPlain)
  channelId := message.map (·.channelId)
  channelName := channelName

/-- The row that a run reads for the id and the user of its job. -/
def fireRow (state : SavedState) (savedMessageId : SavedMessageId) (userId : UserId) :
    Option FireRow :=
  ((state.saved.table.findUnique savedMessageId).filter (·.userId == userId)).map fun row =>
    let message := state.messages.findUnique row.messageId
    let channel := message.bind fun message => state.db.channels.findUnique message.channelId
    .join row message (channel.map state.channelName)

/-- What the user is told if the reminder fires in a state. -/
def notification (state : SavedState) (savedMessageId : SavedMessageId) (userId : UserId) :
    Option ReminderFirePayload :=
  ((fireRow state savedMessageId userId).filter FireRow.fires).map (·.firePayload savedMessageId)

end Bongtalk.Queue
