import Bongtalk.Me.Inbox

/-!
# The activity feed

Five kinds of activities in one feed. The feed and the unread counts state the conditions of each
kind separately; a single activity is marked read after its key has been looked up per kind.
-/

namespace Bongtalk.Me

open Library Common Messages Prisma List

inductive ActivityKind where
  | mention
  | reply
  | reaction
  | direct
  | friendRequest
deriving DecidableEq, Repr

def ActivityKind.text : ActivityKind → List Char
  | .mention => "mention".toList
  | .reply => "reply".toList
  | .reaction => "reaction".toList
  | .direct => "direct".toList
  | .friendRequest => "friend_request".toList

/-- The kinds in the order of the union. -/
def ActivityKind.all : List ActivityKind :=
  [.mention, .reply, .reaction, .direct, .friendRequest]

theorem ActivityKind.mem_all (kind : ActivityKind) : kind ∈ ActivityKind.all := by
  cases kind <;> decide

inductive ActivityFilter where
  | all
  | mentions
  | replies
  | reactions
  | directs
  | friendRequests
deriving DecidableEq, Repr

/-- `includeMention`, `includeReply` and so on. -/
def ActivityFilter.includes (filter : ActivityFilter) (kind : ActivityKind) : Bool :=
  filter == .all ||
    filter == match kind with
      | .mention => .mentions
      | .reply => .replies
      | .reaction => .reactions
      | .direct => .directs
      | .friendRequest => .friendRequests

/-- The column `messageId`, which for a friend request is the id of the friendship. -/
inductive SubjectId where
  | message (id : MessageId)
  | friendship (id : FriendshipId)
deriving DecidableEq, Repr

/-- A row of `combined`. -/
structure Activity where
  activityKey : List Char
  kind : ActivityKind
  workspaceId : Option WorkspaceId
  channelId : Option ChannelId
  messageId : SubjectId
  actorId : UserId
  actorName : Option String
  snippet : String
  createdAt : DateTime
  keyword : Bool
deriving DecidableEq, Repr

structure ActivityRow where
  activityKey : List Char
  kind : ActivityKind
  workspaceId : Option WorkspaceId
  channelId : Option ChannelId
  messageId : SubjectId
  actorId : UserId
  actorName : Option String
  snippet : String
  createdAt : List Char
  readAt : Option (List Char)
  keyword : Bool
deriving DecidableEq, Repr

structure ActivityPage where
  items : List ActivityRow
  nextCursor : Option (List Char)
deriving DecidableEq, Repr

structure UnreadCounts where
  total : Nat := 0
  mentions : Nat := 0
  replies : Nat := 0
  reactions : Nat := 0
  directs : Nat := 0
  friendRequests : Nat := 0
deriving DecidableEq, Repr

/-- `kind || ':' || id::text` -/
def activityKey (kind : ActivityKind) (id : Nat) : List Char :=
  kind.text ++ ':' :: uuidText id

/-- The database compares texts by sort keys, of which no two texts share one. -/
structure Collation (κ : Type) where
  key : List Char → κ
  injective : Function.Injective key

namespace InboxState

variable (state : InboxState) (userId : UserId)

def username (id : UserId) : Option String :=
  (state.users.findUnique id).map User.username

/-- The workspace of the channel of a message. -/
def workspaceOf (channelId : ChannelId) : Option WorkspaceId :=
  (state.db.channels.findUnique channelId).bind Channel.workspaceId

/-- The rows of `acc` that the feed keeps. -/
def visibleAccess (channelId : ChannelId) : Option Access :=
  (state.access userId channelId).filter Access.isVisible

/-- The parent of a reply, when it is live and the caller wrote it. -/
def hasOwnRoot (message : Message) : Bool :=
  message.parentMessageId.any fun parentId =>
    (state.messages.findUnique parentId).any fun root =>
      root.authorId == userId && root.deletedAt == none

/-- A live reply of another user to a message of the caller. A copy in the channel is none. -/
def isLiveReply (message : Message) : Bool :=
  message.deletedAt == none && message.isBroadcast == false && message.authorId != userId &&
    state.hasOwnRoot userId message

/-- The message of a reaction, when it is live and its author is another than who reacted. -/
def reactedMessage (reaction : MessageReaction) : Option Message :=
  (state.messages.findUnique reaction.messageId).filter fun message =>
    message.deletedAt == none && message.authorId == userId && reaction.userId != userId

/-- A live message of another user in a direct channel. -/
def isLiveDirect (message : Message) : Bool :=
  message.deletedAt == none && message.authorId != userId &&
    (state.liveChannel message.channelId).any (·.type == .direct)

/-- The join with the own row of the caller, which is one by its unique key. -/
def hasOwnAllow (channelId : ChannelId) : Bool :=
  state.db.overrides.rows.any fun row =>
    row.channelId == channelId && row.principal == .user userId && row.allowMask.value.testBit 0

def messageActivity (kind : ActivityKind) (keyword : Bool) (message : Message) : Activity where
  activityKey := activityKey kind message.id.value
  kind := kind
  workspaceId := state.workspaceOf message.channelId
  channelId := some message.channelId
  messageId := .message message.id
  actorId := message.authorId
  actorName := state.username message.authorId
  snippet := snippetOf message.contentPlain
  createdAt := message.createdAt
  keyword := keyword

def mentions : List Activity :=
  (state.messages.table.findMany fun message =>
      state.isLiveMention userId message &&
        (state.visibleAccess userId message.channelId).any Access.isVisible).map
    fun message => state.messageActivity .mention (state.hasKeywordRecord userId message) message

def replies : List Activity :=
  (state.messages.table.findMany fun message =>
      state.isLiveReply userId message &&
        (state.visibleAccess userId message.channelId).any Access.isVisible).map
    (state.messageActivity .reply false)

def reactionActivity (reaction : MessageReaction) (message : Message) : Activity where
  activityKey := activityKey .reaction reaction.id.value
  kind := .reaction
  workspaceId := state.workspaceOf message.channelId
  channelId := some message.channelId
  messageId := .message message.id
  actorId := reaction.userId
  actorName := state.username reaction.userId
  snippet := reaction.emoji
  createdAt := reaction.createdAt
  keyword := false

def reactionActivities : List Activity :=
  state.reactions.rows.filterMap fun reaction =>
    ((state.reactedMessage userId reaction).filter fun message =>
        (state.visibleAccess userId message.channelId).any Access.isVisible).map
      (state.reactionActivity reaction)

def directs : List Activity :=
  (state.messages.table.findMany fun message =>
      state.isLiveDirect userId message && state.hasOwnAllow userId message.channelId).map
    (state.messageActivity .direct false)

def isPendingRequest (friendship : FriendshipRow) : Bool :=
  friendship.addresseeId == userId && friendship.status == .pending

def friendRequestActivity (friendship : FriendshipRow) (user : User) : Activity where
  activityKey := activityKey .friendRequest friendship.id.value
  kind := .friendRequest
  workspaceId := none
  channelId := none
  messageId := .friendship friendship.id
  actorId := friendship.requesterId
  actorName := some user.username
  snippet := user.username
  createdAt := friendship.createdAt
  keyword := false

def friendRequests : List Activity :=
  (state.friendships.findMany (isPendingRequest userId)).filterMap fun friendship =>
    (state.users.findUnique friendship.requesterId).map (friendRequestActivity friendship)

/-- The rows of a CTE, which none of them passes when the filter leaves its kind out. -/
def included (filter : ActivityFilter) (kind : ActivityKind) (rows : List Activity) :
    List Activity :=
  if filter.includes kind then rows else []

/-- The rows of the CTE of a kind. -/
def activitiesOf : ActivityKind → List Activity
  | .mention => state.mentions userId
  | .reply => state.replies userId
  | .reaction => state.reactionActivities userId
  | .direct => state.directs userId
  | .friendRequest => state.friendRequests userId

/-- The `UNION ALL` of the five. -/
def combined (filter : ActivityFilter) : List Activity :=
  ActivityKind.all.flatMap fun kind => included filter kind (state.activitiesOf userId kind)

def readAtOf (key : List Char) : Option DateTime :=
  (state.activityReads.findUnique (userId, key)).map UserActivityReadState.readAt

def toActivityRow (activity : Activity) : ActivityRow where
  activityKey := activity.activityKey
  kind := activity.kind
  workspaceId := activity.workspaceId
  channelId := activity.channelId
  messageId := activity.messageId
  actorId := activity.actorId
  actorName := activity.actorName
  snippet := activity.snippet
  createdAt := toISOString activity.createdAt
  readAt := (state.readAtOf userId activity.activityKey).map toISOString
  keyword := activity.keyword

end InboxState

/-- The cursor of a request, with `getTime` for `new Date(text).getTime()`. A text without two
parts is no cursor. -/
def activityCursor (getTime : List Char → Option Int) (cursor : Option (List Char)) :
    Except Failure (Option (Int × List Char)) :=
  match cursor.map (·.splitOn '|') with
  | some (ts :: key :: _) =>
    if ts.isEmpty || key.isEmpty then .ok none
    else
      match getTime ts with
      | none => failWith .validationFailed "invalid activity cursor"
      | some parsed => .ok (some (parsed, key))
  | _ => .ok none

def defaultLimit : Int := 25

def maxLimit : Int := 50

/-- `Math.max(1, Math.min(MAX_LIMIT, limit || DEFAULT_LIMIT))` -/
def cappedLimit (limit : Int) : Nat :=
  (max 1 (min maxLimit (if limit = 0 then defaultLimit else limit))).toNat

section Feed

variable {κ : Type} [LinearOrder κ] (collation : Collation κ)

/-- The place of an activity in the order of the feed. -/
def feedKey (activity : Activity) : Int ×ₗ κ :=
  toLex ((activity.createdAt : Int), collation.key activity.activityKey)

/-- `createdAt < cursorTs OR (createdAt = cursorTs AND "activityKey" < cursorKey)` -/
def isBehind (cursor : Option (Int × List Char)) (activity : Activity) : Bool :=
  cursor.all fun (cursorTs, cursorKey) =>
    decide ((activity.createdAt : Int) < cursorTs ∨
      ((activity.createdAt : Int) = cursorTs ∧
        collation.key activity.activityKey < collation.key cursorKey))

namespace InboxState

variable (getTime : List Char → Option Int) (state : InboxState) (userId : UserId)

/-- The rows behind a cursor, the newest first. -/
def feedRows (filter : ActivityFilter) (cursor : Option (Int × List Char)) : List Activity :=
  ((state.combined userId filter).filter (isBehind collation cursor)).mergeSort
    fun first second => feedKey collation second ≤ feedKey collation first

def pageOf (capped : Nat) (rows : List Activity) : ActivityPage :=
  let hasMore := capped < rows.length
  let items := (if hasMore then rows.take capped else rows).map (state.toActivityRow userId)
  { items := items
    nextCursor := if hasMore then
        items.getLast?.map fun last => last.createdAt ++ '|' :: last.activityKey
      else none }

def page (filter : ActivityFilter) (cursor : Option (List Char)) (limit : Int) :
    Except Failure ActivityPage := do
  let capped := cappedLimit limit
  let position ← activityCursor getTime cursor
  .ok (state.pageOf userId capped
    ((state.feedRows collation userId filter position).take (capped + 1)))

end InboxState

end Feed

/-- The count of a kind. -/
def UnreadCounts.of (counts : UnreadCounts) : ActivityKind → Nat
  | .mention => counts.mentions
  | .reply => counts.replies
  | .reaction => counts.reactions
  | .direct => counts.directs
  | .friendRequest => counts.friendRequests

namespace InboxState

section Counts

variable (state : InboxState) (userId : UserId)

/-- The messages of the CTE `unread_mentions`, whose `acc` holds every live channel. -/
def countedMentions : List Message :=
  state.messages.table.findMany fun message =>
    state.isLiveMention userId message &&
      (state.access userId message.channelId).any Access.isVisible

/-- The keys of the CTE of a kind in the counts. -/
def countedKeys : ActivityKind → List (List Char)
  | .mention => (state.countedMentions userId).map
      fun message => activityKey .mention message.id.value
  | .reply => (state.messages.table.findMany fun message =>
    state.isLiveReply userId message &&
      (state.access userId message.channelId).any Access.isVisible).map
    fun message => activityKey .reply message.id.value
  | .reaction => (state.reactions.findMany fun reaction =>
    (state.reactedMessage userId reaction).any fun message =>
      (state.access userId message.channelId).any Access.isVisible).map
    fun reaction => activityKey .reaction reaction.id.value
  | .direct => (state.messages.table.findMany fun message =>
    state.isLiveDirect userId message && state.hasOwnAllow userId message.channelId).map
    fun message => activityKey .direct message.id.value
  | .friendRequest => (state.friendships.findMany (isPendingRequest userId)).map
      fun friendship => activityKey .friendRequest friendship.id.value

def isUnread (key : List Char) : Bool :=
  (state.activityReads.findUnique (userId, key)).isNone

/-- `COUNT(*)` of a kind. -/
def countOf (kind : ActivityKind) : Nat :=
  (state.countedKeys userId kind).countP (state.isUnread userId)

def unreadCounts : UnreadCounts where
  mentions := state.countOf userId .mention
  replies := state.countOf userId .reply
  reactions := state.countOf userId .reaction
  directs := state.countOf userId .direct
  friendRequests := state.countOf userId .friendRequest
  total := state.countOf userId .mention + state.countOf userId .reply +
    state.countOf userId .reaction + state.countOf userId .direct +
    state.countOf userId .friendRequest

end Counts

end InboxState

/-- What is in front of the first colon and what is behind it, if both are something. -/
def keyParts (key : List Char) : Option (List Char × List Char) :=
  match key.dropWhile (· ≠ ':') with
  | [] => none
  | _ :: id =>
    let kind := key.takeWhile (· ≠ ':')
    if kind.isEmpty || id.isEmpty then none else some (kind, id)

namespace InboxState

section Reads

variable (state : InboxState) (userId : UserId)

/-- The query of a kind for one id. A kind that is none of the others is looked up as a reply. -/
def activityExists (kind : List Char) (id : Nat) : Bool :=
  if kind = ActivityKind.text .friendRequest then
    state.friendships.rows.any fun friendship =>
      friendship.id.value == id && isPendingRequest userId friendship
  else if kind = ActivityKind.text .direct then
    state.messages.table.rows.any fun message => message.id.value == id &&
      (state.isLiveDirect userId message && state.hasOwnAllow userId message.channelId)
  else if kind = ActivityKind.text .reaction then
    state.reactions.rows.any fun reaction => reaction.id.value == id &&
      (state.reactedMessage userId reaction).any fun message =>
        decide (state.ShowsChannel userId message.channelId)
  else
    state.messages.table.rows.any fun message => message.id.value == id &&
      (decide (state.ShowsChannel userId message.channelId) &&
        if kind = ActivityKind.text .mention then state.isLiveMention userId message
        else state.isLiveReply userId message)

def activityKeyBelongsTo (kind id : List Char) : Bool :=
  isValidId id && (uuid id).any (state.activityExists userId kind)

/-- `userActivityReadState.upsert` -/
def upsertRead (now : DateTime) (key : List Char) : InboxState :=
  { state with
    activityReads := state.activityReads.upsert
      { userId := userId, activityKey := key, readAt := now } }

def markRead (now : DateTime) (key : List Char) : Except Failure InboxState :=
  match keyParts key with
  | none => failWith .forbidden "malformed activityKey"
  | some (kind, id) =>
    if state.activityKeyBelongsTo userId kind id then .ok (state.upsertRead userId now key)
    else failWith .forbidden "activity does not belong to caller"

/-- The unread keys of the first page, upserted in one transaction. -/
def markAllRead {κ : Type} [LinearOrder κ] (collation : Collation κ)
    (getTime : List Char → Option Int) (now : DateTime) (filter : ActivityFilter) :
    Except Failure (InboxState × Nat) := do
  let page ← state.page collation getTime userId filter none maxLimit
  let keys := (page.items.filter (·.readAt.isNone)).map ActivityRow.activityKey
  .ok (keys.foldl (fun marked key => marked.upsertRead userId now key) state, keys.length)

end Reads

variable {state : InboxState} {userId : UserId} {activity : Activity}

theorem of_unreadCounts (kind : ActivityKind) :
    (state.unreadCounts userId).of kind = state.countOf userId kind := by
  cases kind <;> rfl

/-- The counts add up. -/
theorem total_unreadCounts : (state.unreadCounts userId).total =
    (ActivityKind.all.map (state.unreadCounts userId).of).sum := by
  have total : (state.unreadCounts userId).total = state.countOf userId .mention +
      state.countOf userId .reply + state.countOf userId .reaction +
      state.countOf userId .direct + state.countOf userId .friendRequest := rfl
  simp only [total, ActivityKind.all, map_cons, map_nil, sum_cons, sum_nil, of_unreadCounts]
  omega

/-- The second filter of the feed changes nothing. -/
theorem any_visibleAccess {channelId : ChannelId} :
    (state.visibleAccess userId channelId).any Access.isVisible =
      (state.access userId channelId).any Access.isVisible := by
  rw [visibleAccess]
  cases state.access userId channelId with
  | none => rfl
  | some access => cases visible : access.isVisible <;> simp [visible]

theorem mem_mentions : activity ∈ state.mentions userId ↔
    ∃ message ∈ state.messages, (state.isLiveMention userId message = true ∧
      state.ShowsChannel userId message.channelId) ∧
      state.messageActivity .mention (state.hasKeywordRecord userId message) message =
        activity := by
  simp only [mentions, mem_map, Table.mem_findMany, Bool.and_eq_true, any_visibleAccess,
    ShowsChannel, and_assoc]
  rfl

theorem mem_countedMentions {message : Message} : message ∈ state.countedMentions userId ↔
    message ∈ state.messages ∧ state.isLiveMention userId message = true ∧
      state.ShowsChannel userId message.channelId := by
  rw [countedMentions, Table.mem_findMany, Bool.and_eq_true]
  rfl

theorem mem_replies : activity ∈ state.replies userId ↔
    ∃ message ∈ state.messages, (state.isLiveReply userId message = true ∧
      state.ShowsChannel userId message.channelId) ∧
      state.messageActivity .reply false message = activity := by
  simp only [replies, mem_map, Table.mem_findMany, Bool.and_eq_true, any_visibleAccess,
    ShowsChannel, and_assoc]
  rfl

theorem mem_reactionActivities : activity ∈ state.reactionActivities userId ↔
    ∃ reaction ∈ state.reactions, ∃ message, (state.reactedMessage userId reaction = some message ∧
      state.ShowsChannel userId message.channelId) ∧
      state.reactionActivity reaction message = activity := by
  simp only [reactionActivities, mem_filterMap, Option.map_eq_some_iff,
    Option.filter_eq_some_iff, any_visibleAccess, ShowsChannel]
  rfl

theorem mem_directs : activity ∈ state.directs userId ↔
    ∃ message ∈ state.messages, (state.isLiveDirect userId message = true ∧
      state.hasOwnAllow userId message.channelId = true) ∧
      state.messageActivity .direct false message = activity := by
  simp only [directs, mem_map, Table.mem_findMany, Bool.and_eq_true, and_assoc]
  rfl

theorem mem_friendRequests : activity ∈ state.friendRequests userId ↔
    ∃ friendship ∈ state.friendships, isPendingRequest userId friendship = true ∧
      ∃ user, state.users.findUnique friendship.requesterId = some user ∧
        friendRequestActivity friendship user = activity := by
  simp only [friendRequests, mem_filterMap, Table.mem_findMany, Option.map_eq_some_iff, and_assoc]

theorem kind_of_mem_activitiesOf {kind : ActivityKind}
    (listed : activity ∈ state.activitiesOf userId kind) : activity.kind = kind := by
  cases kind with
  | mention =>
    obtain ⟨_, -, -, rfl⟩ := mem_mentions.mp listed
    rfl
  | reply =>
    obtain ⟨_, -, -, rfl⟩ := mem_replies.mp listed
    rfl
  | reaction =>
    obtain ⟨_, -, _, -, rfl⟩ := mem_reactionActivities.mp listed
    rfl
  | direct =>
    obtain ⟨_, -, -, rfl⟩ := mem_directs.mp listed
    rfl
  | friendRequest =>
    obtain ⟨_, -, -, _, -, rfl⟩ := mem_friendRequests.mp listed
    rfl

theorem mem_included {filter : ActivityFilter} {kind : ActivityKind} {rows : List Activity} :
    activity ∈ included filter kind rows ↔ filter.includes kind = true ∧ activity ∈ rows := by
  rw [included]
  split
  next isIncluded => simp [isIncluded]
  next isExcluded => simp [isExcluded]

/-- The feed has the activities of the kinds that its filter includes. -/
theorem mem_combined {filter : ActivityFilter} : activity ∈ state.combined userId filter ↔
    filter.includes activity.kind = true ∧
      activity ∈ state.activitiesOf userId activity.kind := by
  simp only [combined, mem_flatMap, mem_included]
  constructor
  · rintro ⟨kind, -, isIncluded, listed⟩
    rw [kind_of_mem_activitiesOf listed]
    exact ⟨isIncluded, listed⟩
  · intro listed
    exact ⟨activity.kind, activity.kind.mem_all, listed⟩

end InboxState

end Bongtalk.Me
