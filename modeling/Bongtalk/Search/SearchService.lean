import Bongtalk.Library.Grouping
import Bongtalk.Messages.List
import Bongtalk.Messages.Send

/-!
# The search of a workspace

A search first computes the channels that the caller sees, from one query for the
channels and one for the override rows, and everything after that is narrowed to them.
The rows of the page are filtered by the same channels once more.
-/

namespace Bongtalk.Search

open Library Auth Channels.Permission Common Messages
open Prisma Shared

/-- `where: { workspaceId, deletedAt: null, archivedAt: null }`. -/
def isSearchable (workspaceId : WorkspaceId) (channel : Channel) : Bool :=
  channel.workspaceId == some workspaceId && channel.deletedAt == none && channel.archivedAt == none

/-- The mask of the held roles; a member without role rows falls back to its baseline. -/
def enforcementBase (member : MemberWithRoles) : Mask :=
  if member.memberRoles.length = 0 then roleBaseline member.role
  else bigintToEnforcementMask
    (Masks.unionFrom 0 (fun role => fromStoragePermissions role.permissions) member.memberRoles)

/-- The accumulator of a channel that no row names. -/
def noMasks : Tiers Mask where
  groupAllow := 0
  groupDeny := 0
  ownAllow := 0
  ownDeny := 0

/-- One turn of the loop over the override rows. -/
def addOverride (acc : Tiers Mask) (row : ChannelPermissionOverride) : Tiers Mask :=
  if row.principal.isUser then
    { acc with
      ownAllow := acc.ownAllow ||| number row.allowMask
      ownDeny := acc.ownDeny ||| number row.denyMask }
  else
    { acc with
      groupAllow := acc.groupAllow ||| number row.allowMask
      groupDeny := acc.groupDeny ||| number row.denyMask }

/-- The query for the override rows of all channels. -/
def searchOverrides (db : Database) (workspaceId : WorkspaceId) (userId : UserId)
    (roles : List Principal) : List ChannelPermissionOverride :=
  db.overrides.findMany fun row =>
    ((db.channels.findUnique row.channelId).any (isSearchable workspaceId)) &&
      matchesPrincipal userId roles row.principal

/-- `byChannel`. -/
def byChannel (rows : List ChannelPermissionOverride) : ChannelId → Option (Tiers Mask) :=
  groupRows (fun row => row.channelId) addOverride noMasks rows

/-- The mask that the loop over the channels computes for one of them. -/
def searchMask (member : MemberWithRoles) (rows : List ChannelPermissionOverride)
    (channel : Channel) : Mask :=
  let acc := (byChannel rows channel.id).getD noMasks
  let base :=
    if channel.isPrivate && member.role != .owner then
      if hasPermission (acc.ownAllow ||| acc.groupAllow) Permission.read then
        enforcementBase member
      else 0
    else enforcementBase member
  acc.fold base

/-- The channels that a user sees; who is no member sees none. -/
def visibleChannelIds (db : Database) (workspaceId : WorkspaceId) (userId : UserId) :
    List ChannelId :=
  match db.findMember workspaceId userId with
  | none => []
  | some row =>
    let member := loadMember db row
    let overrides := searchOverrides db workspaceId userId member.principals
    ((db.channels.findMany (isSearchable workspaceId)).filter fun channel =>
      hasPermission (searchMask member overrides channel) Permission.read).map (·.id)

inductive SearchSort where
  | relevance
  | recent
deriving DecidableEq, Repr

inductive HasType where
  | link
  | image
  | file
deriving DecidableEq, Repr

structure ParsedSearchQuery where
  text : String
  fromHandle : Option String := none
  inChannel : Option String := none
  has : List HasType := []
  isPinned : Bool := false
  since : Option DateTime := none
  untilDate : Option DateTime := none

structure SearchCursor (Rank : Type) where
  rank : Rank
  createdAt : DateTime
  id : MessageId

structure SearchContextMessageRow where
  messageId : Option MessageId
  senderName : Option String
  text : Option String
  createdAt : Option DateTime
  masked : Bool
deriving DecidableEq, Repr

structure SearchResultRow (Rank : Type) where
  messageId : MessageId
  channelId : ChannelId
  channelName : String
  senderId : UserId
  senderName : String
  createdAt : DateTime
  snippet : String
  rank : Rank

/-- A result with its context. -/
structure SearchContextRow (Rank : Type) extends SearchResultRow Rank where
  contextBefore : Option SearchContextMessageRow
  contextAfter : Option SearchContextMessageRow
  inThread : Bool
  threadRootExcerpt : Option String

structure SearchArgs where
  query : String
  workspaceId : WorkspaceId
  userId : UserId
  channelId : Option ChannelId := none
  senderId : Option UserId := none
  since : Option DateTime := none
  untilDate : Option DateTime := none
  hasAttachment : Bool := false
  sort : Option SearchSort := none
  cursor : Option String := none
  limit : Nat
  now : DateTime

/-- The text functions around a search: the parser of the modifiers, the codec of the cursor,
what the database computes from the search vector of a message, and how it compares names. -/
structure SearchText (Rank : Type) where
  parseSearchQuery : String → DateTime → ParsedSearchQuery
  trim : String → String
  decodeCursor : String → Option (SearchCursor Rank)
  encodeCursor : SearchCursor Rank → String
  /-- `search_tsv @@ plainto_tsquery(q) OR content ILIKE q`. -/
  textClause : String → Message → Bool
  tsRankCd : String → Message → Rank
  tsHeadline : String → Message → String
  /-- `equals`, insensitive. -/
  sameName : String → String → Bool
  /-- `startsWith`, insensitive. -/
  startsWith : String → String → Bool
  /-- `escapeHtml(truncatePlain(…))`. -/
  contextText : String → String

/-- The tables that the queries of a search read. -/
structure SearchTables where
  channels : Table Channel Channel.id
  workspaceMembers : WorkspaceMemberTable
  users : Table User User.id
  messages : MessageTable
  attachments : List Attachment
  /-- The columns `hasLink`, `hasImage` and `hasFile`. -/
  flags : MessageId → HasType → Bool

/-- The narrower of two bounds. -/
def pickTighter (first second : Option DateTime) (lower : Bool) : Option DateTime :=
  match first, second with
  | none, second => second
  | first, none => first
  | some first, some second => if lower then some (max first second) else some (min first second)

section Queries

variable {Rank : Type} (texts : SearchText Rank) (tables : SearchTables)

/-- The name of a channel, looked up among the visible channels only. -/
def resolveVisibleChannelByName (visibleIds : List ChannelId) (name : String)
    (workspaceId : WorkspaceId) : Option ChannelId :=
  if visibleIds.length = 0 then none
  else
    ((tables.channels.findMany fun channel =>
      channel.workspaceId == some workspaceId && channel.deletedAt == none &&
        visibleIds.contains channel.id && texts.sameName name channel.name).head?).map (·.id)

/-- The handle of a user, looked up among the members only. -/
def resolveWorkspaceMemberByHandle (workspaceId : WorkspaceId) (handle : String) :
    Option UserId :=
  ((tables.workspaceMembers.findMany fun member =>
    member.workspaceId == workspaceId && (tables.users.findUnique member.userId).any fun user =>
      texts.sameName handle user.username).head?).map (·.userId)

/-- The visible channels after `channelId` has narrowed them. -/
def narrowToChannel (args : SearchArgs) (visibleIds : List ChannelId) : List ChannelId :=
  match args.channelId with
  | none => visibleIds
  | some channelId => visibleIds.filter (· == channelId)

/-- The visible channels after `channelId` and `in:` have narrowed them. -/
def narrowChannels (args : SearchArgs) (parsed : ParsedSearchQuery)
    (visibleIds : List ChannelId) : List ChannelId :=
  match parsed.inChannel with
  | none => narrowToChannel args visibleIds
  | some name =>
    (resolveVisibleChannelByName texts tables (narrowToChannel args visibleIds) name
      args.workspaceId).toList

/-- The sender that the arguments and `from:` name together; `none` when nobody fits both. -/
def resolveSender (args : SearchArgs) (parsed : ParsedSearchQuery) : Option (Option UserId) :=
  match parsed.fromHandle with
  | none => some args.senderId
  | some handle =>
    match resolveWorkspaceMemberByHandle texts tables args.workspaceId handle with
    | none => none
    | some fromId =>
      if args.senderId.any (· != fromId) then none else some (some fromId)

/-- A row of the query, with the rows of its joins. -/
structure FetchedRow (Rank : Type) where
  message : Message
  channel : Channel
  author : User
  rank : Rank

/-- The condition of the query apart from the cursor. -/
def baseMatches (args : SearchArgs) (parsed : ParsedSearchQuery) (q : String)
    (senderId : Option UserId) (since untilDate : Option DateTime) (visibleIds : List ChannelId)
    (message : Message) : Bool :=
  message.deletedAt == none && !message.isBroadcast && visibleIds.contains message.channelId &&
    (q.length == 0 || texts.textClause q message) &&
    senderId.all (message.authorId == ·) &&
    since.all (decide <| · ≤ message.createdAt) &&
    untilDate.all (decide <| message.createdAt < ·) &&
    (!args.hasAttachment || tables.attachments.any fun attachment =>
      attachment.messageId == some message.id && attachment.finalizedAt != none) &&
    (parsed.has.all fun hasType => tables.flags message.id hasType) &&
    (!parsed.isPinned || message.pinnedAt != none)

/-- `JOIN "Channel"` and `JOIN "User"`. -/
def joinRow (q : String) (message : Message) : Option (FetchedRow Rank) :=
  match tables.channels.findUnique message.channelId, tables.users.findUnique message.authorId with
  | some channel, some author => some ⟨message, channel, author, texts.tsRankCd q message⟩
  | _, _ => none

end Queries

section Search

variable {Rank : Type} [LinearOrder Rank] (texts : SearchText Rank)

/-- The keys of a row, which the cursor and the order compare. -/
def FetchedRow.key (row : FetchedRow Rank) : Rank ×ₗ Position :=
  toLex (row.rank, row.message.position)

/-- The keys of a cursor. -/
def SearchCursor.key (cursor : SearchCursor Rank) : Rank ×ₗ Position :=
  toLex (cursor.rank, toLex ((cursor.createdAt : Int), cursor.id.value))

/-- The comparison of the sort in use: `recent` leaves the rank out. -/
def sortBefore (sort : SearchSort) (first second : Rank ×ₗ Position) : Bool :=
  match sort with
  | .recent => (ofLex first).2 < (ofLex second).2
  | .relevance => first < second

/-- `ORDER BY`, descending. -/
def orderRows (sort : SearchSort) (rows : List (FetchedRow Rank)) : List (FetchedRow Rank) :=
  rows.insertionSort fun first second => !sortBefore sort first.key second.key

structure SearchPage (ρ : Type) where
  results : List ρ
  nextCursor : Option String

/-- The answer without any result. -/
def SearchPage.empty {ρ : Type} : SearchPage ρ where
  results := []
  nextCursor := none

def FetchedRow.result (q : String) (row : FetchedRow Rank) : SearchResultRow Rank where
  messageId := row.message.id
  channelId := row.message.channelId
  channelName := row.channel.name
  senderId := row.message.authorId
  senderName := row.author.username
  createdAt := row.message.createdAt
  snippet := texts.tsHeadline q row.message
  rank := row.rank

/-- The raw query: `limit + 1` rows in the order of the sort, after the cursor. -/
def fetchRows (tables : SearchTables) (args : SearchArgs) (parsed : ParsedSearchQuery)
    (q : String) (cursor : Option (SearchCursor Rank)) (senderId : Option UserId)
    (since untilDate : Option DateTime) (visibleIds : List ChannelId) : List (FetchedRow Rank) :=
  let sort := if q.length = 0 then .recent else args.sort.getD .relevance
  let base := (tables.messages.table.findMany (baseMatches texts tables args parsed q senderId
    since untilDate visibleIds)).filterMap (joinRow texts tables q)
  let after := base.filter fun row => cursor.all fun cursor => sortBefore sort row.key cursor.key
  (orderRows sort after).take (args.limit + 1)

/-- The second filter, and the page made of what it leaves. -/
def assemblePage (args : SearchArgs) (q : String) (visibleIds : List ChannelId)
    (fetched : List (FetchedRow Rank)) : SearchPage (SearchResultRow Rank) :=
  let filtered := fetched.filter fun row => visibleIds.contains row.message.channelId
  let rows := filtered.take args.limit
  { results := rows.map (·.result texts q)
    nextCursor :=
      if args.limit < filtered.length then
        rows.getLast?.map fun last =>
          texts.encodeCursor ⟨last.rank, last.message.createdAt, last.message.id⟩
      else none }

/-- The cursor of a request. -/
def decodeSearchCursor (cursor : Option String) : Except DomainError (Option (SearchCursor Rank)) :=
  match cursor with
  | none => .ok none
  | some raw =>
    match texts.decodeCursor raw with
    | some cursor => .ok (some cursor)
    | none => .error ⟨.messageCursorInvalid, "invalid search cursor"⟩

/-- `search`. The visible channels are those of `db`; the queries after that meet `tables`. -/
def search (db : Database) (tables : SearchTables) (args : SearchArgs) :
    Except DomainError (SearchPage (SearchResultRow Rank)) :=
  let parsed := texts.parseSearchQuery args.query args.now
  let since := pickTighter args.since parsed.since true
  let untilDate := pickTighter args.untilDate parsed.untilDate false
  if since.any fun since => untilDate.any fun untilDate => untilDate ≤ since then .ok .empty
  else do
    let q := texts.trim parsed.text
    let cursor ← decodeSearchCursor texts args.cursor
    let visibleIds := narrowChannels texts tables args parsed
      (visibleChannelIds db args.workspaceId args.userId)
    match resolveSender texts tables args parsed with
    | none => .ok .empty
    | some senderId =>
      if visibleIds.length = 0 then .ok .empty
      else
        .ok (assemblePage texts args q visibleIds
          (fetchRows texts tables args parsed q cursor senderId since untilDate visibleIds))

/-- The condition of the query for a neighbour. -/
def isNeighbor (channelId : ChannelId) (pivot : Position) (direction : Direction)
    (message : Message) : Bool :=
  message.channelId == channelId && message.deletedAt == none &&
    match direction with
    | .before => message.position < pivot
    | .after => pivot < message.position

/-- The message next to a result in its channel; nothing is read of a channel that is not
visible. -/
def neighborMessage (tables : SearchTables) (channelId : ChannelId) (pivot : Position)
    (direction : Direction) (visibleIds : List ChannelId) : Option SearchContextMessageRow :=
  if !visibleIds.contains channelId then some ⟨none, none, none, none, true⟩
  else
    let rows := tables.messages.table.findMany (isNeighbor channelId pivot direction)
    (orderBy direction rows).head?.map fun neighbor =>
      { messageId := some neighbor.id
        senderName := (tables.users.findUnique neighbor.authorId).map (·.username)
        text := some (texts.contextText neighbor.contentPlain)
        createdAt := some neighbor.createdAt
        masked := false }

/-- Whether a result is a reply, and the text of its root if that is live and visible. -/
def threadRootExcerpt (tables : SearchTables) (messageId : MessageId)
    (visibleIds : List ChannelId) : Bool × Option String :=
  match (tables.messages.findUnique messageId).bind (·.parentMessageId) with
  | none => (false, none)
  | some parentId =>
    match tables.messages.findUnique parentId with
    | none => (true, none)
    | some root =>
      if root.deletedAt != none || !visibleIds.contains root.channelId then (true, none)
      else (true, some (texts.contextText root.contentPlain))

/-- `searchWithContext`. The visible channels are computed anew, from `again`, for the rows around
the results. -/
def searchWithContext (db again : Database) (tables later : SearchTables) (args : SearchArgs) :
    Except DomainError (SearchPage (SearchContextRow Rank)) := do
  let base ← search texts db tables args
  let visibleIds := visibleChannelIds again args.workspaceId args.userId
  .ok
    { results := base.results.map fun row =>
        let pivot : Position := toLex ((row.createdAt : Int), row.messageId.value)
        let root := threadRootExcerpt texts later row.messageId visibleIds
        { row with
          contextBefore := neighborMessage texts later row.channelId pivot .before visibleIds
          contextAfter := neighborMessage texts later row.channelId pivot .after visibleIds
          inThread := root.1
          threadRootExcerpt := root.2 }
      nextCursor := base.nextCursor }

/-- What a user is offered while typing. -/
structure Suggestions where
  channels : List (ChannelId × String)
  users : List (UserId × String)

/-- `Math.max(1, Math.min(20, limit ?? 5))`. -/
def suggestCap (limit : Option Nat) : Nat :=
  max 1 (min 20 (limit.getD 5))

/-- `suggest`: the visible channels and the members whose names start with a prefix. -/
def suggest (db : Database) (tables : SearchTables) (workspaceId : WorkspaceId) (userId : UserId)
    (input : String) (limit : Option Nat) : Suggestions :=
  let typed := texts.trim input
  let visibleIds := visibleChannelIds db workspaceId userId
  if typed.length = 0 || visibleIds.length = 0 then ⟨[], []⟩
  else
    let channels := (tables.channels.findMany fun channel =>
      visibleIds.contains channel.id && channel.deletedAt == none &&
        texts.startsWith channel.name typed).insertionSort fun first second =>
          first.name ≤ second.name
    let users := (tables.workspaceMembers.findMany (·.workspaceId == workspaceId)).filterMap
      fun member => tables.users.findUnique member.userId
    let named := (users.filter (texts.startsWith ·.username typed)).insertionSort
      fun first second => first.username ≤ second.username
    { channels := (channels.take (suggestCap limit)).map fun channel => (channel.id, channel.name)
      users := (named.take (suggestCap limit)).map fun user => (user.id, user.username) }

end Search

end Bongtalk.Search
