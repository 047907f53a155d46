import Bongtalk.Channels.DirectMessages.Listing
import Bongtalk.Me.MeActivity
import Bongtalk.Messages.Masking
import Bongtalk.Messages.ThreadReplies

/-!
# Where members read

A member reads what others write in the list of the messages, in the threads, in the previews of the
lists of direct messages and in the feed of activities. Each of them has a query of its own.
-/

namespace Bongtalk.Channels.DirectMessages

open Library Auth Common Me Messages Prisma Shared List Option

/-- What the queries use apart from the rows of direct messages. -/
structure Surroundings where
  /-- The cast of the database to `timestamp`. -/
  timestamp : List Char → Option Int
  /-- The operator `ILIKE` of the database, with the escape `\`. -/
  ilike : String → List Char → Bool
  /-- The column `displayName` of a group. -/
  displayName : ChannelId → Option String
  directory : Directory

def Directory.loadBlockedUserIds (directory : Directory) (blockerId : UserId) : List UserId :=
  (directory.friendships.findMany fun row =>
    row.requesterId == blockerId && row.status == .blocked).map Friendship.addresseeId

section Wire

/-- Neither its deletion nor a block of its author masks a row. -/
def isReadable (blockedIds : List UserId) (message : Message) : Bool :=
  message.deletedAt.isNone && !blockedIds.contains message.authorId

variable {blockedIds : List UserId} {message : Message}

theorem isReadable_iff : isReadable blockedIds message = true ↔
    message.deletedAt = none ∧ message.authorId ∉ blockedIds := by
  rw [isReadable, Bool.and_eq_true, isNone_iff_eq_none, Bool.not_eq_true',
    ← Bool.not_eq_true, contains_iff_mem]

end Wire

/-- `SEARCH_TERM_MAX_LEN`. -/
def searchTermMaxLen : Nat := 100

def buildSearchPattern (q : Option (List Char)) : Option (List Char) :=
  let term := trim (q.getD [])
  if term = [] then none
  else if searchTermMaxLen < utf16Length term then none
  else some ('%' :: term.flatMap (fun char =>
    if char ∈ ['\\', '%', '_'] then ['\\', char] else [char]) ++ ['%'])

/-- The row of `last_msg`. Messages of one time are told apart by the ids. -/
def lastMessage (messages : MessageTable) (channelId : ChannelId) : Option Message :=
  (newestFirst (messages.table.findMany fun message =>
    message.channelId == channelId && message.deletedAt.isNone)).head?

def lastMessagePreview (messages : MessageTable) (channelId : ChannelId) : Option String :=
  (lastMessage messages channelId).map fun message => snippetOf message.contentPlain

theorem lastMessage_eq_some_iff {messages : MessageTable} {channelId : ChannelId}
    {message : Message} :
    lastMessage messages channelId = some message ↔
      (message ∈ messages ∧ message.channelId = channelId ∧ message.deletedAt = none) ∧
      ∀ other ∈ messages, other.channelId = channelId → other.deletedAt = none →
        other.position ≤ message.position := by
  have condition : ∀ other : Message,
      (other.channelId == channelId && other.deletedAt.isNone) = true ↔
        other.channelId = channelId ∧ other.deletedAt = none := by
    intro other
    rw [Bool.and_eq_true, beq_iff_eq, isNone_iff_eq_none]
  rw [lastMessage, newest_eq_some_iff, condition]
  simp only [condition, and_imp]

/-- An entry of `listGroups` with its preview. -/
structure GroupListItem extends GroupItem where
  lastMessagePreview : Option String
deriving DecidableEq, Repr

/-- An entry of `list` with its preview. -/
structure PairListItem extends PairItem where
  lastMessagePreview : Option String
deriving DecidableEq, Repr

namespace DmState

variable (around : Surroundings) (state : DmState) (workspaceId : Option WorkspaceId)
  (meId : UserId) (limit : Int) (q : Option (List Char))

/-- The clause of a search for groups: the name that the members gave, the name made of their ids,
and the names of the active members. -/
def searchesGroup (group : DmChannel) : Bool :=
  (buildSearchPattern q).all fun pattern =>
    (around.displayName group.id).any (around.ilike · pattern) || around.ilike group.name pattern ||
      state.members.rows.any fun peer =>
        peer.channelId == group.id && peer.allowsRead && peer.leftAt.isNone &&
          (around.directory.users.findUnique peer.userId).any fun user =>
            around.ilike user.username pattern

/-- The groups that a search leaves. -/
def foundGroups : List DmChannel :=
  (state.myGroups workspaceId meId).filter (state.searchesGroup around q)

/-- `listGroups`, with a search. -/
def searchGroups : List GroupListItem :=
  (page (groupKey state.messages) (pageSize limit)
    (state.foundGroups around workspaceId meId q)).map fun group =>
      { state.groupItem group with
        lastMessagePreview := lastMessagePreview state.messages group.id }

/-- The clause of a search for pairs. -/
def searchesPair (item : PairItem) : Bool :=
  (buildSearchPattern q).all fun pattern =>
    around.ilike item.otherUsername pattern ||
      (state.channels.findUnique item.channelId).any fun pair => around.ilike pair.name pattern

/-- `list`, with a search. -/
def searchPairs : List PairListItem :=
  (page pairKey (pageSize limit)
    ((state.pairItems around.directory workspaceId meId).filter
      (state.searchesPair around q))).map fun item =>
      { item with lastMessagePreview := lastMessagePreview state.messages item.channelId }

end DmState

section Queries

variable (around : Surroundings) (state : DmState)

namespace DmState

/-- The time from which on a member sees a direct message. -/
def resolveDmVisibleFrom (channelId : ChannelId) (userId : UserId) : Option DateTime :=
  (state.members.findUnique (channelId, userId)).bind DmMember.visibleFrom

/-- The rows of the list of messages, for a member. -/
def listMessages (userId : UserId) (request : ListMessagesArgs) : Except Failure MessagePage :=
  Messages.list around.timestamp state.messages
    { request with visibleFrom := state.resolveDmVisibleFrom request.channelId userId }

/-- `GET :id/thread`. Whether the user may read the channel is asked before it is asked whether it
is archived, and left out. -/
def readThread (rootId : MessageId) (cursor : Option CursorPayload) (limit : Nat) :
    Except Failure ThreadPage := do
  match (state.messages.findUnique rootId).filter (·.deletedAt == none) with
  | none => failWith .messageNotFound "thread root not found"
  | some message =>
    match (state.channels.findUnique message.channelId).filter (·.deletedAt == none) with
    | none => failWith .messageNotFound "thread root not found"
    | some channel => do
      failIf channel.archivedAt.isSome .channelArchived "channel is archived — unarchive first"
      listThreadReplies around.timestamp state.messages
        { channelId := message.channelId, rootId := rootId, cursor := cursor, limit := limit }

/-- The tables that the feed reads, as far as direct messages go. -/
def inbox (directory : Directory) : InboxState :=
  .ofMessages
    (.withoutRoles directory.workspaceMembers
      (state.channels.image DmChannel.toChannel id Function.injective_id fun _ => rfl)
      (state.members.image
        (fun row => {
          channelId := row.channelId
          principal := .user row.userId
          allowMask := row.allowMask
          denyMask := row.denyMask })
        (fun key => (key.1, .user key.2)) (by
          rintro ⟨_, _⟩ ⟨_, _⟩ same
          simpa using same) fun _ => rfl))
    (directory.users.image (fun user => { id := user.id, username := user.username }) id
      Function.injective_id fun _ => rfl)
    state.messages

end DmState

end Queries

section Specs

variable {around : Surroundings} {state : DmState} {userId : UserId}

theorem DmMember.allowsRead_eq_testBit (row : DmMember) :
    row.allowsRead = row.allowMask.value.testBit 0 := by
  rw [DmMember.allowsRead, hasPermission_read, number, BitVec.getLsbD_ofNat]
  rfl

theorem resolveDmVisibleFrom_eq {row : DmMember} (present : row ∈ state.members) :
    state.resolveDmVisibleFrom row.channelId row.userId = row.visibleFrom := by
  have found : state.members.findUnique (row.channelId, row.userId) = some row :=
    Table.findUnique_eq_some_iff.mpr ⟨present, rfl⟩
  rw [DmState.resolveDmVisibleFrom, found]
  rfl

/-- A thread is answered for a live message in a live channel that is not archived. -/
theorem readThread_eq_ok_iff {rootId : MessageId} {cursor : Option CursorPayload} {limit : Nat}
    {page : ThreadPage} :
    state.readThread around rootId cursor limit = .ok page ↔
      ∃ message ∈ state.messages, message.id = rootId ∧ message.deletedAt = none ∧
        ∃ channel ∈ state.channels, channel.id = message.channelId ∧ channel.deletedAt = none ∧
          channel.archivedAt = none ∧
          listThreadReplies around.timestamp state.messages
            { channelId := message.channelId, rootId := rootId, cursor := cursor, limit := limit } =
            .ok page := by
  have messageIff : ∀ message,
      (state.messages.findUnique rootId).filter (·.deletedAt == none) = some message ↔
        message ∈ state.messages ∧ message.id = rootId ∧ message.deletedAt = none := by
    intro message
    rw [filter_eq_some_iff, MessageTable.findUnique_eq_some_iff, beq_iff_eq, and_assoc]
  have channelIff : ∀ channelId channel,
      (state.channels.findUnique channelId).filter (·.deletedAt == none) = some channel ↔
        channel ∈ state.channels ∧ channel.id = channelId ∧ channel.deletedAt = none := by
    intro channelId channel
    rw [filter_eq_some_iff, Table.findUnique_eq_some_iff, beq_iff_eq, and_assoc]
  constructor
  · intro answered
    unfold DmState.readThread at answered
    split at answered
    · exact absurd answered failWith_ne_ok
    next message found =>
      split at answered
      · exact absurd answered failWith_ne_ok
      next channel joined =>
        obtain ⟨present, sameId, live⟩ := (messageIff message).mp found
        obtain ⟨channelMem, channelId, channelLive⟩ := (channelIff _ channel).mp joined
        obtain ⟨notArchived, answered⟩ := check_bind_eq_ok.mp answered
        rw [failIf_eq_ok, isSome_eq_false_iff, isNone_iff_eq_none] at notArchived
        exact ⟨message, present, sameId, live, channel, channelMem, channelId, channelLive,
          notArchived, answered⟩
  · rintro ⟨message, present, sameId, live, channel, channelMem, channelId, channelLive,
      notArchived, answered⟩
    rw [DmState.readThread, (messageIff message).mpr ⟨present, sameId, live⟩]
    dsimp only
    rw [(channelIff _ channel).mpr ⟨channelMem, channelId, channelLive⟩]
    dsimp only
    rw [check_bind_eq_ok, failIf_eq_ok, notArchived]
    exact ⟨rfl, answered⟩

/-- A message is in the feed when it is a live message of somebody else in a live direct message on
which the own row allows to read. -/
theorem mem_directs_inbox {directory : Directory} {activity : Activity} :
    activity ∈ (state.inbox directory).directs userId ↔
      ∃ message ∈ state.messages, (message.deletedAt = none ∧ message.authorId ≠ userId ∧
          (∃ channel ∈ state.channels, channel.id = message.channelId ∧ channel.deletedAt = none ∧
            channel.type = .direct) ∧
          ∃ row ∈ state.members, row.channelId = message.channelId ∧ row.userId = userId ∧
            row.allowsRead = true) ∧
        (state.inbox directory).messageActivity .direct false message = activity := by
  have isDirect : ∀ message : Message,
      (state.inbox directory).isLiveDirect userId message = true ↔
        message.deletedAt = none ∧ message.authorId ≠ userId ∧
          ∃ channel ∈ state.channels, channel.id = message.channelId ∧
            channel.deletedAt = none ∧ channel.type = .direct := by
    intro message
    rw [InboxState.isLiveDirect, Bool.and_eq_true, Bool.and_eq_true, beq_iff_eq, bne_iff_ne,
      and_assoc, Option.any_eq_true]
    refine and_congr_right fun _ => and_congr_right fun _ => ?_
    simp only [InboxState.liveChannel_eq_some_iff, beq_iff_eq]
    constructor
    · rintro ⟨_, ⟨present, sameId, live⟩, direct⟩
      obtain ⟨channel, channelMem, rfl⟩ := List.mem_map.mp present
      exact ⟨channel, channelMem, sameId, live, direct⟩
    · rintro ⟨channel, channelMem, sameId, live, direct⟩
      exact ⟨channel.toChannel, ⟨List.mem_map.mpr ⟨channel, channelMem, rfl⟩, sameId, live⟩, direct⟩
  have ownAllow : ∀ channelId : ChannelId,
      (state.inbox directory).hasOwnAllow userId channelId = true ↔
        ∃ row ∈ state.members, row.channelId = channelId ∧ row.userId = userId ∧
          row.allowsRead = true := by
    intro channelId
    simp only [InboxState.hasOwnAllow, List.any_eq_true, Bool.and_eq_true, beq_iff_eq, and_assoc,
      DmMember.allowsRead_eq_testBit]
    constructor
    · rintro ⟨_, present, sameChannel, sameUser, allowed⟩
      obtain ⟨row, rowMem, rfl⟩ := List.mem_map.mp present
      exact ⟨row, rowMem, sameChannel, Principal.user.inj sameUser, allowed⟩
    · rintro ⟨row, rowMem, sameChannel, sameUser, allowed⟩
      exact ⟨_, List.mem_map.mpr ⟨row, rowMem, rfl⟩, sameChannel, congrArg Principal.user sameUser,
        allowed⟩
  simp only [InboxState.mem_directs, isDirect, ownAllow, and_assoc]
  rfl

variable {workspaceId : Option WorkspaceId} {limit : Int} {q : Option (List Char)}
  {group : DmChannel}

/-- A group is on a page of the list, when a search leaves it and fewer groups than the page holds
come before it. -/
theorem mem_searchGroups (groupMem : group ∈ state.channels) :
    (∃ item ∈ state.searchGroups around workspaceId userId limit q, item.channelId = group.id) ↔
      group ∈ state.foundGroups around workspaceId userId q ∧
        (state.foundGroups around workspaceId userId q).countP (fun other =>
          decide (groupKey state.messages other < groupKey state.messages group)) <
          pageSize limit := by
  have unique : ∀ other ∈ state.foundGroups around workspaceId userId q,
      other.id = group.id → other = group := by
    intro other otherMem same
    have inChannels := (Table.mem_findMany.mp (mem_filter.mp otherMem).1).1
    exact Table.eq_of_key_eq inChannels groupMem same
  rw [← mem_page_iff fun other otherMem same => unique other otherMem (id_eq_of_groupKey_eq same)]
  constructor
  · rintro ⟨_, itemMem, itemId⟩
    obtain ⟨other, onPage, rfl⟩ := mem_map.mp itemMem
    exact unique other (mem_sortBy.mp (mem_of_mem_take onPage)) itemId ▸ onPage
  · exact fun onPage => ⟨_, mem_map.mpr ⟨group, onPage, rfl⟩, rfl⟩

/-- The list of pairs has no groups. -/
theorem isGroup_of_mem_searchPairs {item : PairListItem}
    (itemMem : item ∈ state.searchPairs around workspaceId userId limit q)
    (groupMem : group ∈ state.channels) (itemId : item.channelId = group.id) :
    group.isGroup = false := by
  obtain ⟨pair, onPage, rfl⟩ := mem_map.mp itemMem
  have inItems := (mem_filter.mp (mem_sortBy.mp (mem_of_mem_take onPage))).1
  obtain ⟨peer, -, peerItem⟩ := mem_filterMap.mp inItems
  simp only [DmState.pairItem, bind_eq_bind, bind_eq_some_iff,
    Table.findUnique_eq_some_iff, ite_none_right_eq_some, Option.some.injEq] at peerItem
  obtain ⟨channel, ⟨channelMem, channelId⟩, _, -, ⟨-, mine⟩, rfl⟩ := peerItem
  have same : channel = group := Table.eq_of_key_eq channelMem groupMem (channelId.trans itemId)
  rw [← same]
  simp only [DmState.isMyPair, Bool.and_eq_true, Bool.not_eq_true'] at mine
  exact mine.1.2

end Specs

end Bongtalk.Channels.DirectMessages
