import Bongtalk.Channels.Permission.ChannelAccess
import Bongtalk.Messages.Dto
import Bongtalk.Messages.Pins
import Bongtalk.Messages.ThreadReplies
import Bongtalk.Prisma.Notifications

/-!
# Reading endpoints

A viewer reads messages in the list of a channel, in its pins, one by one and in threads. Each of
these endpoints puts its rows on the wire in its own way.
-/

namespace Bongtalk.Messages

open Library Auth Channels.Permission Common Prisma

variable {Ast Attachment Embed RichEmbed : Type}

/-- The columns and embeds that hold what a message says, apart from those of its row. -/
structure StoredBody (Ast Embed : Type) where
  contentPlainV2 : Option String := none
  contentRaw : Option String := none
  contentAst : Option Ast := none
  embeds : List Embed := []

/-- The other columns on the wire. -/
structure StoredFrame (RichEmbed : Type) where
  botUsername : Option String := none
  botAvatarUrl : Option String := none
  richEmbeds : Option (List RichEmbed) := none
  pinnedBy : Option UserId := none
  threadLocked : Bool := false

structure ReadState (Ast Embed : Type) where
  messages : MessageTable
  /-- A reply is in the channel of its root. -/
  repliesInChannel : ∀ reply ∈ messages, ∀ root ∈ messages,
    reply.parentMessageId = some root.id → reply.channelId = root.channelId
  bodies : MessageId → StoredBody Ast Embed

/-- What the endpoints read apart from what messages say. -/
structure ReadContext (Attachment RichEmbed : Type) where
  /-- The cast of the database to `timestamp`. -/
  timestamp : List Char → Option Int
  db : Database
  /-- The cache of the masks. -/
  cached : ChannelId → UserId → Option Mask := fun _ _ => none
  friendships : Table Friendship fun row => (row.requesterId, row.addresseeId) := .empty
  /-- The column `visibleFrom` of the override row of a user. -/
  visibleFrom : ChannelId → UserId → Option DateTime := fun _ _ => none
  frames : MessageId → StoredFrame RichEmbed := fun _ => {}
  aggregateReactions : UserId → MessageId → List ReactionSummary := fun _ _ => []
  aggregateThreadSummaries : UserId → MessageId → Option ThreadSummary := fun _ _ => none
  aggregateAttachments : MessageId → List Attachment := fun _ => []
  /-- The column `lastReadMessageId` of the read state of a thread. -/
  lastReadMessageId : UserId → MessageId → Option MessageId := fun _ _ => none
  notificationLevel : UserId → MessageId → Option ThreadNotificationLevel := fun _ _ => none

/-- A user with the workspace in the path of the request. -/
structure Viewer where
  userId : UserId
  workspaceId : WorkspaceId

structure ListMessagesResponse (Ast Attachment Embed RichEmbed : Type) where
  items : List (MessageDto Ast Attachment Embed RichEmbed)
  hasMore : Bool
  nextCursor : Option (List Char)
  prevCursor : Option (List Char)
  canManageMessages : Bool

structure ListPinsResponse (Ast Attachment Embed RichEmbed : Type) where
  items : List (MessageDto Ast Attachment Embed RichEmbed)
  cap : Nat
  used : Nat

structure ThreadResponse (Ast Attachment Embed RichEmbed : Type) where
  root : MessageDto Ast Attachment Embed RichEmbed
  replies : List (MessageDto Ast Attachment Embed RichEmbed)
  lastReadMessageId : Option MessageId
  viewerNotificationLevel : Option ThreadNotificationLevel
  hasMore : Bool
  nextCursor : Option (DateTime × MessageId)
  prevCursor : Option (DateTime × MessageId)

inductive ReadRequest where
  | list (query : ListMessagesArgs)
  | listPins
  | getOne (msgId : MessageId)
  | thread (rootId : MessageId) (cursor : Option CursorPayload) (limit : Nat)

inductive ReadResponse (Ast Attachment Embed RichEmbed : Type) where
  | list (page : ListMessagesResponse Ast Attachment Embed RichEmbed)
  | listPins (pins : ListPinsResponse Ast Attachment Embed RichEmbed)
  | getOne (message : MessageDto Ast Attachment Embed RichEmbed)
  | thread (panel : ThreadResponse Ast Attachment Embed RichEmbed)

/-- The messages of a response. -/
def ReadResponse.dtos {Ast Attachment Embed RichEmbed : Type} :
    ReadResponse Ast Attachment Embed RichEmbed → List (MessageDto Ast Attachment Embed RichEmbed)
  | list page => page.items
  | listPins pins => pins.items
  | getOne message => [message]
  | thread panel => panel.root :: panel.replies

section Service

variable (messages : MessageTable)

/-- `ORDER BY "pinnedAt" DESC`. -/
def latestPinFirst (rows : List Message) : List Message :=
  rows.insertionSort fun first second => second.pinnedAt.getD 0 ≤ first.pinnedAt.getD 0

/-- The rows of `listPins`. -/
def listPins (channelId : ChannelId) : List Message :=
  (latestPinFirst (messages.table.findMany fun message =>
    message.channelId == channelId && message.pinnedAt.isSome && message.deletedAt == none)).take
      hardPinCap

/-- `MESSAGE_PIN_CAP`. -/
def messagePinCap : Nat := 50

def requireOne (channelId : ChannelId) (msgId : MessageId) (includeDeleted : Bool) :
    Except Failure Message :=
  match (messages.findUnique msgId).filter fun message =>
      message.channelId == channelId && (includeDeleted || message.deletedAt == none) with
  | none => failWith .messageNotFound "message not found"
  | some row => .ok row

/-- `aggregateBroadcastExcerpts`, by the ids of the rows of a page. -/
def aggregateBroadcastExcerpts (rows : List Message) (id : MessageId) : Option BroadcastExcerpt :=
  (rows.find? fun row => row.id = id).bind (broadcastExcerpt messages)

end Service

section Wire

variable (context : ReadContext Attachment RichEmbed) (bodies : MessageId → StoredBody Ast Embed)

/-- The columns of a row. -/
def storedRow (row : Message) : MessageRow Ast RichEmbed where
  id := row.id
  channelId := row.channelId
  authorId := row.authorId
  content := row.content
  contentPlain := row.contentPlain
  contentPlainV2 := (bodies row.id).contentPlainV2
  contentRaw := (bodies row.id).contentRaw
  contentAst := (bodies row.id).contentAst
  type := row.type
  authorType := row.authorType
  botUsername := (context.frames row.id).botUsername
  botAvatarUrl := (context.frames row.id).botAvatarUrl
  richEmbeds := (context.frames row.id).richEmbeds
  mentions := some {
    users := row.mentions.users
    channels := row.mentions.channels
    everyone := row.mentions.everyone
    here := row.mentions.here
    channel := row.mentions.channel
    roles := row.mentions.roles }
  editedAt := row.editedAt
  deletedAt := row.deletedAt
  createdAt := row.createdAt
  parentMessageId := row.parentMessageId
  pinnedAt := row.pinnedAt
  pinnedBy := (context.frames row.id).pinnedBy
  version := row.version
  isBroadcast := row.isBroadcast
  threadLocked := (context.frames row.id).threadLocked

/-- `toDto`, with the reactions and the attachments that every endpoint adds. -/
def ReadContext.toDto (userId : UserId) (thread : Option ThreadSummary)
    (parentExcerpt : Option String) (embeds : List Embed) (row : Message) :
    MessageDto Ast Attachment Embed RichEmbed :=
  (storedRow context bodies row).toDto (context.aggregateReactions userId row.id) thread
    (context.aggregateAttachments row.id) parentExcerpt embeds

end Wire

section Guards

variable (context : ReadContext Attachment RichEmbed)

namespace ReadContext

def loadBlockedUserIds (blockerId : UserId) : List UserId :=
  (context.friendships.findMany fun row =>
    row.requesterId == blockerId && row.status == .blocked).map Friendship.addresseeId

/-- `WorkspaceMemberGuard`. -/
def currentMember (viewer : Viewer) : Except Failure WorkspaceMember :=
  match (context.db.workspaces.findUnique viewer.workspaceId).filter (·.deletedAt == none) with
  | none => failWith .workspaceNotFound "workspace not found"
  | some _ =>
    match context.db.findMember viewer.workspaceId viewer.userId with
    | none => failWith .workspaceNotMember "workspace not found"
    | some member => .ok member

/-- The check of private channels. The owner of a workspace passes outside of direct messages. -/
def checkVisible (viewer : Viewer) (member : WorkspaceMember) (channel : Channel) :
    Except Failure Unit :=
  if channel.isPrivate && (channel.type == .direct || member.role != .owner) then do
    let effective ← (resolveEffective context.db (context.cached channel.id viewer.userId) channel
      viewer.userId).mapError .domain
    failIf (!hasPermission effective Permission.read) .channelNotVisible
      "channel not visible to this user"
  else .ok ()

/-- `ChannelAccessGuard`. -/
def currentChannel (viewer : Viewer) (member : WorkspaceMember) (channelId : ChannelId) :
    Except Failure Channel :=
  match (context.db.channels.findUnique channelId).filter (·.deletedAt == none) with
  | none => failWith .channelNotFound "channel not found"
  | some channel => do
    failIf (channel.type != .direct && channel.workspaceId != some viewer.workspaceId)
      .channelNotFound "channel not found"
    context.checkVisible viewer member channel
    failIf channel.archivedAt.isSome .channelArchived "channel is archived — unarchive first"
    .ok channel

/-- The guards of the message routes, one after the other. -/
def canActivate (viewer : Viewer) (channelId : ChannelId) :
    Except Failure (WorkspaceMember × Channel) := do
  let member ← context.currentMember viewer
  let channel ← context.currentChannel viewer member channelId
  .ok (member, channel)

end ReadContext

/-- `isAdminOrOwner`. -/
def isAdminOrOwner (role : WorkspaceRole) : Bool :=
  role == .admin || role == .owner

end Guards

section Endpoints

variable (context : ReadContext Attachment RichEmbed) (state : ReadState Ast Embed)

/-- `GET` of the messages of a channel. -/
def MessagesController.list (member : WorkspaceMember) (channel : Channel)
    (query : ListMessagesArgs) :
    Except Failure (ListMessagesResponse Ast Attachment Embed RichEmbed) := do
  failIf (query.includeDeleted && !isAdminOrOwner member.role) .workspaceInsufficientRole
    "ADMIN or OWNER required to list deleted messages"
  let visibleFrom :=
    if channel.type = .direct then context.visibleFrom channel.id member.userId else none
  let result ← Messages.list context.timestamp state.messages
    { query with channelId := channel.id, visibleFrom := visibleFrom }
  let excerpts := aggregateBroadcastExcerpts state.messages result.items
  let dtos := result.items.map fun row =>
    context.toDto state.bodies member.userId (context.aggregateThreadSummaries member.userId row.id)
      ((excerpts row.id).map BroadcastExcerpt.excerpt) (state.bodies row.id).embeds row
  let canManageMessages :=
    channel.type != .direct &&
      match resolveEffective context.db (context.cached channel.id member.userId) channel
          member.userId with
      | .ok effective => hasPermission effective Permission.deleteAnyMessage
      | .error _ => false
  .ok {
    items := maskBlockedAuthors dtos (context.loadBlockedUserIds member.userId)
      (some fun id => (excerpts id).bind BroadcastExcerpt.rootAuthorId)
    hasMore := result.hasMore
    nextCursor := result.nextCursor
    prevCursor := result.prevCursor
    canManageMessages := canManageMessages }

/-- `GET pins`. -/
def MessagesController.listPins (userId : UserId) (channel : Channel) :
    ListPinsResponse Ast Attachment Embed RichEmbed :=
  let items := Messages.listPins state.messages channel.id
  { items := items.map (context.toDto state.bodies userId none none [])
    cap := messagePinCap
    used := items.length }

/-- `GET :msgId`. -/
def MessagesController.getOne (member : WorkspaceMember) (channel : Channel) (msgId : MessageId) :
    Except Failure (MessageDto Ast Attachment Embed RichEmbed) := do
  let row ← requireOne state.messages channel.id msgId (isAdminOrOwner member.role)
  let dto := context.toDto state.bodies member.userId none none (state.bodies row.id).embeds row
  if channel.type = .direct then
    failIf ((context.visibleFrom channel.id member.userId).any (row.createdAt < ·))
      .messageNotFound "message not found"
    .ok (maskBlockedAuthor (context.loadBlockedUserIds member.userId) none dto)
  else .ok dto

/-- `GET :id/thread`. -/
def ThreadsController.replies (userId : UserId) (rootId : MessageId) (cursor : Option CursorPayload)
    (limit : Nat) : Except Failure (ThreadResponse Ast Attachment Embed RichEmbed) :=
  match (state.messages.findUnique rootId).filter (·.deletedAt == none) with
  | none => failWith .messageNotFound "thread root not found"
  | some message =>
    match (context.db.channels.findUnique message.channelId).filter (·.deletedAt == none) with
    | none => failWith .messageNotFound "thread root not found"
    | some channel => do
      (requirePermission context.db (context.cached channel.id userId) channel userId
        Permission.read).mapError .domain
      failIf channel.archivedAt.isSome .channelArchived "channel is archived — unarchive first"
      let page ← listThreadReplies context.timestamp state.messages
        { channelId := message.channelId, rootId := rootId, cursor := cursor, limit := limit }
      let blockedIds :=
        if channel.type = .direct then context.loadBlockedUserIds userId else []
      .ok {
        root := maskBlockedAuthor blockedIds none (context.toDto state.bodies userId
          (context.aggregateThreadSummaries userId page.root.id) none [] page.root)
        replies := maskBlockedAuthors
          (page.items.map (context.toDto state.bodies userId none none [])) blockedIds
        lastReadMessageId := context.lastReadMessageId userId rootId
        viewerNotificationLevel := context.notificationLevel userId rootId
        hasMore := page.hasMore
        nextCursor := page.nextCursor
        prevCursor := page.prevCursor }

/-- The endpoint of a request, behind its guards. -/
def ReadState.respond (viewer : Viewer) (channelId : ChannelId) (request : ReadRequest) :
    Except Failure (ReadResponse Ast Attachment Embed RichEmbed) :=
  match request with
  | .list query => do
    let (member, channel) ← context.canActivate viewer channelId
    .list <$> MessagesController.list context state member channel query
  | .listPins => do
    let (member, channel) ← context.canActivate viewer channelId
    .ok (.listPins (MessagesController.listPins context state member.userId channel))
  | .getOne msgId => do
    let (member, channel) ← context.canActivate viewer channelId
    .getOne <$> MessagesController.getOne context state member channel msgId
  | .thread rootId cursor limit =>
    .thread <$> ThreadsController.replies context state viewer.userId rootId cursor limit

end Endpoints

end Bongtalk.Messages
