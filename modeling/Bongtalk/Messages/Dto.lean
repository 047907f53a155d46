import Bongtalk.Messages.Message

/-!
# Messages on the wire

What a row becomes when it is sent to a client, and what is left of it when the client has
blocked its author.
-/

namespace Bongtalk.Messages

open Prisma

/-- The column `mentions`, where old rows lack some of the keys. -/
structure StoredMentions where
  users : List UserId
  channels : List ChannelId
  everyone : Bool
  here : Option Bool := none
  channel : Option Bool := none
  roles : Option (List RoleId) := none
deriving DecidableEq, Repr

structure PreviewUser where
  id : UserId
  username : String
deriving DecidableEq, Repr

structure ReactionSummary where
  emoji : String
  count : Nat
  byMe : Bool
  customEmojiId : Option Nat := none
  url : Option String := none
  previewUsers : Option (List PreviewUser) := none
deriving DecidableEq, Repr

structure ThreadSummary where
  replyCount : Nat
  lastRepliedAt : Option DateTime
  recentReplyUserIds : List UserId
  hasUnread : Bool := false
deriving DecidableEq, Repr

section Wire

-- Syntax trees, attachments and the two kinds of embeds are passed on as they are.
variable {Ast Attachment Embed RichEmbed : Type}

/-- The columns that a select returns; a column it leaves out is `none`. -/
structure MessageRow (Ast RichEmbed : Type) where
  id : MessageId
  channelId : ChannelId
  authorId : UserId
  content : String
  contentPlain : Option String
  contentPlainV2 : Option String := none
  contentRaw : Option String := none
  contentAst : Option Ast := none
  type : Option MessageType := none
  authorType : Option AuthorType := none
  botUsername : Option String := none
  botAvatarUrl : Option String := none
  richEmbeds : Option (List RichEmbed) := none
  mentions : Option StoredMentions := none
  editedAt : Option DateTime := none
  deletedAt : Option DateTime := none
  createdAt : DateTime
  parentMessageId : Option MessageId := none
  pinnedAt : Option DateTime := none
  pinnedBy : Option UserId := none
  version : Option Nat := none
  isBroadcast : Option Bool := none
  threadLocked : Option Bool := none

/-- The fields of a message that a block leaves as they are. -/
structure MessageFrame (Attachment RichEmbed : Type) where
  id : MessageId
  channelId : ChannelId
  authorId : UserId
  type : MessageType
  authorType : AuthorType
  botUsername : Option String
  botAvatarUrl : Option String
  edited : Bool
  deleted : Bool
  createdAt : DateTime
  editedAt : Option DateTime
  reactions : List ReactionSummary
  parentMessageId : Option MessageId
  thread : Option ThreadSummary
  attachments : List Attachment
  pinnedAt : Option DateTime
  pinnedBy : Option UserId
  version : Nat
  isBroadcast : Bool
  threadLocked : Bool
  richEmbeds : List RichEmbed

/-- The fields of a message that a block of its author replaces. -/
structure MessageBody (Ast Embed : Type) where
  content : Option String := none
  contentRaw : Option String := none
  contentAst : Option Ast := none
  contentPlain : Option String := none
  mentions : Mentions := {}
  embeds : List Embed := []
deriving DecidableEq

/-- A message on the wire. A deleted one has neither body nor excerpt. -/
structure MessageDto (Ast Attachment Embed RichEmbed : Type) extends
    MessageFrame Attachment RichEmbed, MessageBody Ast Embed where
  parentExcerpt : Option String
  blank : deleted = true → toMessageBody = {} ∧ parentExcerpt = none

/-- The mentions of a row with the defaults for the keys it lacks. -/
def wireMentions (stored : Option StoredMentions) : Mentions :=
  match stored with
  | none => {}
  | some mentions =>
    { users := mentions.users
      channels := mentions.channels
      everyone := mentions.everyone
      here := mentions.here.getD false
      channel := mentions.channel.getD false
      roles := mentions.roles.getD [] }

/-- `toDto`. -/
def MessageRow.toDto (row : MessageRow Ast RichEmbed) (reactions : List ReactionSummary := [])
    (thread : Option ThreadSummary := none) (attachments : List Attachment := [])
    (parentExcerpt : Option String := none) (embeds : List Embed := []) :
    MessageDto Ast Attachment Embed RichEmbed :=
  let isDeleted := row.deletedAt.isSome
  { id := row.id
    channelId := row.channelId
    authorId := row.authorId
    content := if isDeleted then none else some row.content
    contentRaw := if isDeleted then none else some (row.contentRaw.getD row.content)
    contentAst := if isDeleted then none else row.contentAst
    contentPlain := if isDeleted then none else row.contentPlainV2.or row.contentPlain
    type := row.type.getD .default
    authorType := row.authorType.getD .user
    botUsername := row.botUsername
    botAvatarUrl := if isDeleted then none else row.botAvatarUrl
    mentions := if isDeleted then {} else wireMentions row.mentions
    edited := if isDeleted then false else row.editedAt.isSome
    deleted := isDeleted
    createdAt := row.createdAt
    editedAt := if isDeleted then none else row.editedAt
    reactions :=
      if isDeleted then reactions.map fun reaction => { reaction with previewUsers := none }
      else reactions
    parentMessageId := row.parentMessageId
    thread := thread
    attachments := if isDeleted then [] else attachments
    pinnedAt := if isDeleted then none else row.pinnedAt
    pinnedBy := if isDeleted then none else row.pinnedBy
    version := row.version.getD 0
    isBroadcast := row.isBroadcast.getD false
    parentExcerpt := if isDeleted then none else parentExcerpt
    threadLocked := row.threadLocked.getD false
    embeds := if isDeleted then [] else embeds
    richEmbeds := if isDeleted then [] else row.richEmbeds.getD []
    blank := by
      intro deleted
      simp [deleted] }

/-- `BLOCKED_MESSAGE_PLACEHOLDER`. -/
def blockedMessagePlaceholder : String := "[차단된 사용자의 메시지]"

/-- The body that takes the place of a blocked author's. -/
def blockedBody : MessageBody Ast Embed :=
  { content := some blockedMessagePlaceholder
    contentRaw := some blockedMessagePlaceholder
    contentAst := none
    contentPlain := some blockedMessagePlaceholder
    mentions := {}
    embeds := [] }

/-- Whether the viewer has blocked the author of a message that is not deleted. -/
def rowAuthorBlocked (blockedIds : List UserId) (dto : MessageDto Ast Attachment Embed RichEmbed) :
    Bool :=
  blockedIds.contains dto.authorId && !dto.deleted

/-- Whether the viewer has blocked the author of the root whose excerpt the message has. -/
def rootAuthorBlocked (blockedIds : List UserId)
    (rootAuthorByMessageId : Option (MessageId → Option UserId))
    (dto : MessageDto Ast Attachment Embed RichEmbed) : Bool :=
  ((rootAuthorByMessageId.bind fun rootAuthor => rootAuthor dto.id).any blockedIds.contains) &&
    !dto.deleted

/-- An excerpt without its text. -/
def emptiedExcerpt (parentExcerpt : Option String) : Option String :=
  parentExcerpt.map fun _ => ""

/-- What `maskBlockedAuthors` makes of one message. -/
def maskBlockedAuthor (blockedIds : List UserId)
    (rootAuthorByMessageId : Option (MessageId → Option UserId))
    (dto : MessageDto Ast Attachment Embed RichEmbed) : MessageDto Ast Attachment Embed RichEmbed :=
  if rowBlocked : rowAuthorBlocked blockedIds dto = true then
    { dto with
      toMessageBody := blockedBody
      parentExcerpt := emptiedExcerpt dto.parentExcerpt
      blank := by
        intro deleted
        simp [rowAuthorBlocked, deleted] at rowBlocked }
  else if rootAuthorBlocked blockedIds rootAuthorByMessageId dto then
    -- The body is of another author than the root.
    { dto with
      parentExcerpt := emptiedExcerpt dto.parentExcerpt
      blank := by
        intro deleted
        simp [emptiedExcerpt, dto.blank deleted] }
  else dto

def maskBlockedAuthors (dtos : List (MessageDto Ast Attachment Embed RichEmbed))
    (blockedIds : List UserId)
    (rootAuthorByMessageId : Option (MessageId → Option UserId) := none) :
    List (MessageDto Ast Attachment Embed RichEmbed) :=
  if blockedIds.length = 0 then dtos
  else dtos.map (maskBlockedAuthor blockedIds rootAuthorByMessageId)

end Wire

end Bongtalk.Messages
