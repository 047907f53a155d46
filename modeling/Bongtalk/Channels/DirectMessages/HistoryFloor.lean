import Bongtalk.Channels.DirectMessages.ReadPaths

/-!
# The history floor of a group

A member sees the messages of a group from the time on at which it was let in, or let in again. The
list of messages keeps to it. The threads, the copies of replies, the previews and the feed do not
ask for it.
-/

namespace Bongtalk.Channels.DirectMessages

open Library Common Me Messages Prisma List

/-- A member of a live group who was let in at a time. -/
structure IsMemberFrom (state : DmState) (group : DmChannel) (userId : UserId)
    (visibleFrom : DateTime) : Prop where
  present : group ∈ state.channels
  direct : group.type = .direct
  live : group.deletedAt = none
  isGroup : group.isGroup = true
  row : ∃ row ∈ state.members, row.channelId = group.id ∧ row.userId = userId ∧ row.Belongs ∧
    row.visibleFrom = some visibleFrom

instance (row : DmMember) : Decidable row.Belongs :=
  decidable_of_iff (row.allowMask = dmAllowMask ∧ row.denyMask = .none ∧ row.leftAt = none)
    ⟨fun ⟨allow, deny, present⟩ => ⟨allow, deny, present⟩,
      fun belongs => ⟨belongs.allow, belongs.deny, belongs.present⟩⟩

instance (state : DmState) (group : DmChannel) (userId : UserId) (visibleFrom : DateTime) :
    Decidable (IsMemberFrom state group userId visibleFrom) :=
  decidable_of_iff (group ∈ state.channels.rows ∧ group.type = .direct ∧ group.deletedAt = none ∧
      group.isGroup = true ∧ ∃ row ∈ state.members.rows, row.channelId = group.id ∧
        row.userId = userId ∧ row.Belongs ∧ row.visibleFrom = some visibleFrom)
    ⟨fun ⟨present, direct, live, isGroup, row⟩ => ⟨present, direct, live, isGroup, row⟩,
      fun member => ⟨member.present, member.direct, member.live, member.isGroup, member.row⟩⟩

section Paths

variable (around : Surroundings) (state : DmState) (group : DmChannel) (userId : UserId)

/-- A read path of a group answers a user with what a message says. -/
inductive Returns : Message → Prop
  | listed {request : ListMessagesArgs} {page : MessagePage} {message : Message} :
      request.channelId = group.id → state.listMessages around userId request = .ok page →
      message ∈ page.items →
      isReadable (around.directory.loadBlockedUserIds userId) message = true → Returns message
  | quoted {request : ListMessagesArgs} {page : MessagePage} {copy root : Message} :
      request.channelId = group.id → state.listMessages around userId request = .ok page →
      copy ∈ page.items → copy.isBroadcast = true →
      isReadable (around.directory.loadBlockedUserIds userId) copy = true →
      broadcastRoot state.messages copy = some root →
      root.authorId ∉ around.directory.loadBlockedUserIds userId → Returns root
  | threaded {rootId : MessageId} {cursor : Option CursorPayload} {limit : Nat}
      {page : ThreadPage} {message : Message} :
      state.readThread around rootId cursor limit = .ok page → page.root.channelId = group.id →
      message ∈ page.root :: page.items →
      isReadable (around.directory.loadBlockedUserIds userId) message = true → Returns message
  | previewed {workspaceId : Option WorkspaceId} {limit : Int} {q : Option (List Char)}
      {item : GroupListItem} {message : Message} :
      item ∈ state.searchGroups around workspaceId userId limit q → item.channelId = group.id →
      lastMessage state.messages item.channelId = some message → Returns message
  | previewedPair {workspaceId : Option WorkspaceId} {limit : Int} {q : Option (List Char)}
      {item : PairListItem} {message : Message} :
      item ∈ state.searchPairs around workspaceId userId limit q → item.channelId = group.id →
      lastMessage state.messages item.channelId = some message → Returns message
  | fed {message : Message} : message ∈ state.messages → message.channelId = group.id →
      (state.inbox around.directory).messageActivity .direct false message ∈
        (state.inbox around.directory).directs userId → Returns message

/-- A message is a live root of the group, or a reply in the thread of one, and not masked. -/
def IsThreaded (message : Message) : Prop :=
  group.archivedAt = none ∧ isReadable (around.directory.loadBlockedUserIds userId) message = true ∧
    ∃ root ∈ state.messages, root.channelId = group.id ∧ root.deletedAt = none ∧
      root.parentMessageId = none ∧
      (message = root ∨ message.parentMessageId = some root.id ∧ message.isBroadcast = false)

/-- A broadcast copy that the list shows to a member quotes a message. -/
def IsQuoted (visibleFrom : DateTime) (message : Message) : Prop :=
  isReadable (around.directory.loadBlockedUserIds userId) message = true ∧
    ∃ copy ∈ state.messages, copy.channelId = group.id ∧ copy.isBroadcast = true ∧
      copy.parentMessageId = some message.id ∧
      isReadable (around.directory.loadBlockedUserIds userId) copy = true ∧
      visibleFrom ≤ copy.createdAt

/-- A message is the latest live one of the group, and the group is among the first hundred of some
list of groups. -/
def IsPreviewed (message : Message) : Prop :=
  (∃ workspaceId q, group ∈ state.foundGroups around workspaceId userId q ∧
    (state.foundGroups around workspaceId userId q).countP (fun other =>
      decide (groupKey state.messages other < groupKey state.messages group)) < 100) ∧
  message.deletedAt = none ∧
  ∀ other ∈ state.messages, other.channelId = group.id → other.deletedAt = none →
    other.position ≤ message.position

/-- No path that has forgotten the floor gets to a message. -/
structure IsOutOfReach (visibleFrom : DateTime) (message : Message) : Prop where
  own : message.authorId = userId
  notThreaded : ¬IsThreaded around state group userId message
  notQuoted : ¬IsQuoted around state group userId visibleFrom message
  notPreviewed : ¬IsPreviewed around state group userId message

end Paths

section Returned

variable {around : Surroundings} {state : DmState} {group : DmChannel} {userId : UserId}
  {visibleFrom : DateTime}

section

variable (member : IsMemberFrom state group userId visibleFrom)

include member

theorem IsMemberFrom.resolves : state.resolveDmVisibleFrom group.id userId = some visibleFrom := by
  obtain ⟨row, present, ofGroup, ofUser, -, floor⟩ := member.row
  rw [← ofGroup, ← ofUser, resolveDmVisibleFrom_eq present, floor]

/-- The list of messages has nothing that is older than the floor. -/
theorem listMessages_maySee {request : ListMessagesArgs} (ofGroup : request.channelId = group.id)
    {page : MessagePage} (answered : state.listMessages around userId request = .ok page) :
    ∀ row ∈ page.items, row ∈ state.messages ∧ row.channelId = group.id ∧
      visibleFrom ≤ row.createdAt := by
  intro row rowMem
  obtain ⟨present, sameChannel, sees⟩ := list_maySee answered row rowMem
  refine ⟨present, sameChannel.trans ofGroup, sees visibleFrom ?_⟩
  change state.resolveDmVisibleFrom request.channelId userId = some visibleFrom
  rw [ofGroup, member.resolves]

/-- A live row that the list may show is on a page that is long enough. -/
theorem exists_listMessages {row : Message} (present : row ∈ state.messages)
    (ofGroup : row.channelId = group.id) (live : row.deletedAt = none)
    (isCopy : row.isBroadcast = true) (later : visibleFrom ≤ row.createdAt) :
    ∃ request page, request.channelId = group.id ∧
      state.listMessages around userId request = .ok page ∧ row ∈ page.items := by
  let request : ListMessagesArgs :=
    { channelId := group.id, limit := state.messages.table.rows.length
      visibleFrom := some visibleFrom }
  have fetches : rawList around.timestamp state.messages
      (request.rawArgs .before none false (request.limit + 1)) =
      .ok ((timeline state.messages request).take (request.limit + 1)) := rawList_newest _ _
  have answers : state.listMessages around userId request =
      .ok (messagePage (((timeline state.messages request).take (request.limit + 1)).take
        request.limit) (decide (request.limit <
          ((timeline state.messages request).take (request.limit + 1)).length))) := by
    rw [DmState.listMessages, member.resolves]
    exact bind_eq_ok.mpr ⟨none, rfl, bind_eq_ok.mpr ⟨_, fetches, rfl⟩⟩
  have room : (timeline state.messages request).length ≤ request.limit := by
    rw [timeline, newestFirst, length_insertionSort]
    exact length_filter_le _ _
  refine ⟨request, _, rfl, answers, ?_⟩
  dsimp only [messagePage]
  rw [take_of_length_le (room.trans (Nat.le_succ _)), take_of_length_le room, mem_timeline]
  refine ⟨present, ?_⟩
  simp [RawListArgs.shows, ListMessagesArgs.rawArgs, request, ofGroup, live, isCopy, later]

/-- What the threads of the group answer with. -/
theorem isThreaded_of_readThread {rootId : MessageId} {cursor : Option CursorPayload} {limit : Nat}
    {page : ThreadPage} {message : Message}
    (answered : state.readThread around rootId cursor limit = .ok page)
    (ofGroup : page.root.channelId = group.id) (listed : message ∈ page.root :: page.items)
    (readable : isReadable (around.directory.loadBlockedUserIds userId) message = true) :
    IsThreaded around state group userId message := by
  obtain ⟨_, -, -, -, channel, channelMem, channelId, -, notArchived, answered⟩ :=
    readThread_eq_ok_iff.mp answered
  obtain ⟨⟨rootMem, -, rootChannel, rootLive, isRoot⟩, replies⟩ := listThreadReplies_eq_ok answered
  obtain rfl : channel = group := Table.eq_of_key_eq channelMem member.present
    (channelId.trans (rootChannel.symm.trans ofGroup))
  refine ⟨notArchived, readable, page.root, rootMem, ofGroup, rootLive, isRoot, ?_⟩
  rcases mem_cons.mp listed with same | inItems
  · exact .inl same
  · exact .inr (replies message inItems).2

theorem exists_readThread {message : Message} (present : message ∈ state.messages)
    (threaded : IsThreaded around state group userId message) :
    Returns around state group userId message := by
  obtain ⟨notArchived, readable, root, rootMem, rootChannel, rootLive, isRoot, inThread⟩ := threaded
  obtain ⟨page, answered, rootEq, items⟩ :=
    exists_whole_thread around.timestamp rootMem rootLive isRoot
  have reads : state.readThread around root.id none state.messages.table.rows.length = .ok page :=
    readThread_eq_ok_iff.mpr ⟨root, rootMem, rfl, rootLive, group, member.present,
      rootChannel.symm, member.live, notArchived, answered⟩
  refine .threaded reads (rootEq ▸ rootChannel) ?_ readable
  rcases inThread with rfl | ⟨ofRoot, notCopy⟩
  · exact rootEq ▸ mem_cons_self
  · exact mem_cons_of_mem _ ((items message).mpr ⟨present, ofRoot, notCopy⟩)

end

theorem pageSize_le (limit : Int) : pageSize limit ≤ 100 := by
  unfold pageSize
  omega

/-- Of the messages before the floor a member gets those that a path without the floor gets to. -/
theorem returns_iff (member : IsMemberFrom state group userId visibleFrom) {message : Message}
    (present : message ∈ state.messages) (ofGroup : message.channelId = group.id)
    (older : message.createdAt < visibleFrom) :
    Returns around state group userId message ↔
      message.deletedAt = none ∧ ¬IsOutOfReach around state group userId visibleFrom message := by
  constructor
  · intro returned
    cases returned with
    | listed ofRequest answered listed =>
      have later := (listMessages_maySee member ofRequest answered message listed).2.2
      exact absurd later (not_le.mpr older)
    | @quoted _ _ copy _ ofRequest answered listed isCopy readable quotes notBlocked =>
      obtain ⟨copyMem, copyChannel, later⟩ :=
        listMessages_maySee member ofRequest answered copy listed
      obtain ⟨ofRoot, -, -, live⟩ := broadcastRoot_eq_some_iff.mp quotes
      exact ⟨live, fun outOfReach => outOfReach.notQuoted ⟨isReadable_iff.mpr ⟨live, notBlocked⟩,
        copy, copyMem, copyChannel, isCopy, ofRoot, readable, later⟩⟩
    | threaded answered rootChannel listed readable =>
      have threaded := isThreaded_of_readThread member answered rootChannel listed readable
      exact ⟨(isReadable_iff.mp readable).1, fun outOfReach => outOfReach.notThreaded threaded⟩
    | @previewed workspaceId limit q item _ itemMem itemId latest =>
      obtain ⟨found, ahead⟩ := (mem_searchGroups member.present).mp ⟨item, itemMem, itemId⟩
      obtain ⟨⟨-, -, live⟩, isLatest⟩ := lastMessage_eq_some_iff.mp latest
      rw [itemId] at isLatest
      exact ⟨live, fun outOfReach => outOfReach.notPreviewed
        ⟨⟨workspaceId, q, found, ahead.trans_le (pageSize_le limit)⟩, live, isLatest⟩⟩
    | previewedPair itemMem itemId =>
      have isPair := isGroup_of_mem_searchPairs itemMem member.present itemId
      exact absurd (isPair.symm.trans member.isGroup) Bool.false_ne_true
    | fed _ _ listed =>
      obtain ⟨other, otherMem, ⟨live, notMine, -⟩, same⟩ := mem_directs_inbox.mp listed
      obtain rfl : other = message := Table.eq_of_key_eq otherMem present
        (SubjectId.message.inj (congrArg Activity.messageId same))
      exact ⟨live, fun outOfReach => notMine outOfReach.own⟩
  · rintro ⟨live, inReach⟩
    by_contra notReturned
    refine inReach ⟨?_, ?_, ?_, ?_⟩
    · by_contra notMine
      obtain ⟨row, rowMem, rowGroup, rowUser, belongs, -⟩ := member.row
      exact notReturned <| .fed present ofGroup <| mem_directs_inbox.mpr ⟨message, present,
        ⟨live, notMine, ⟨group, member.present, ofGroup.symm, member.live, member.direct⟩,
          row, rowMem, rowGroup.trans ofGroup.symm, rowUser, belongs.allowsRead⟩, rfl⟩
    · exact fun threaded => notReturned (exists_readThread member present threaded)
    · rintro ⟨readable, copy, copyMem, copyChannel, isCopy, ofMessage, copyReadable, later⟩
      obtain ⟨request, page, ofRequest, answered, listed⟩ := exists_listMessages member copyMem
        copyChannel (isReadable_iff.mp copyReadable).1 isCopy later
      exact notReturned <| .quoted ofRequest answered listed isCopy copyReadable
        (broadcastRoot_eq_some_iff.mpr
          ⟨ofMessage, present, ofGroup.trans copyChannel.symm, live⟩) (isReadable_iff.mp readable).2
    · rintro ⟨⟨workspaceId, q, found, ahead⟩, -, isLatest⟩
      have onFirstPage : _ < pageSize 100 := ahead
      obtain ⟨item, itemMem, itemId⟩ := (mem_searchGroups member.present).mpr ⟨found, onFirstPage⟩
      exact notReturned <| .previewed itemMem itemId <| lastMessage_eq_some_iff.mpr
        ⟨⟨present, ofGroup.trans itemId.symm, live⟩, by rwa [itemId]⟩

end Returned

section TwoRuns

/-- Two histories that differ at most in messages of a channel from before a time. -/
structure AlikeFrom (channelId : ChannelId) (visibleFrom : DateTime) (first second : DmState) :
    Prop where
  channels : first.channels = second.channels
  members : first.members = second.members
  messages : ∀ message : Message, ¬(message.channelId = channelId ∧ message.createdAt < visibleFrom) →
    (message ∈ first.messages ↔ message ∈ second.messages)

/-- The read paths of a group answer a user alike. -/
structure ReadsAlike (around : Surroundings) (group : DmChannel) (userId : UserId)
    (first second : DmState) : Prop where
  listed : ∀ request : ListMessagesArgs, request.channelId = group.id →
    first.listMessages around userId request = second.listMessages around userId request
  quoted : ∀ (request : ListMessagesArgs) (page : MessagePage), request.channelId = group.id →
    first.listMessages around userId request = .ok page →
    page.items.map (broadcastExcerpt first.messages) =
      page.items.map (broadcastExcerpt second.messages)
  threaded : ∀ rootId cursor limit, first.readThread around rootId cursor limit =
    second.readThread around rootId cursor limit
  previewed : ∀ workspaceId limit q, first.searchGroups around workspaceId userId limit q =
    second.searchGroups around workspaceId userId limit q
  previewedPair : ∀ workspaceId limit q, first.searchPairs around workspaceId userId limit q =
    second.searchPairs around workspaceId userId limit q
  fed : ∀ activity, activity ∈ (first.inbox around.directory).directs userId ↔
    activity ∈ (second.inbox around.directory).directs userId

variable {around : Surroundings} {state other : DmState} {group : DmChannel} {userId : UserId}
  {visibleFrom : DateTime}

/-- The rows of the list do not tell histories apart that are alike from the floor on. -/
theorem listMessages_alike (member : IsMemberFrom state group userId visibleFrom)
    (alike : AlikeFrom group.id visibleFrom state other) {request : ListMessagesArgs}
    (ofGroup : request.channelId = group.id) :
    state.listMessages around userId request = other.listMessages around userId request := by
  have sameFloor : other.resolveDmVisibleFrom request.channelId userId =
      state.resolveDmVisibleFrom request.channelId userId := by
    rw [DmState.resolveDmVisibleFrom, DmState.resolveDmVisibleFrom, alike.members]
  rw [DmState.listMessages, DmState.listMessages, sameFloor]
  apply list_alike
  rintro row ⟨-, sees⟩
  apply alike.messages row
  rintro ⟨-, older⟩
  have later := sees visibleFrom (by rw [ofGroup, member.resolves])
  exact absurd later (not_le.mpr older)

theorem exists_fresh_id (messages : MessageTable) :
    ∃ id : MessageId, ∀ message ∈ messages, message.id ≠ id := by
  obtain ⟨value, fresh⟩ := Infinite.exists_notMem_finset
    (messages.table.rows.map fun message => message.id.value).toFinset
  refine ⟨⟨value⟩, fun message present same => fresh ?_⟩
  rw [mem_toFinset, mem_map]
  exact ⟨message, present, congrArg MessageId.value same⟩

/-- Nothing stands in the way of a root without a key in a channel that is there. -/
theorem exists_createMessage {message : Message}
    (fresh : ∀ old ∈ state.messages, old.id ≠ message.id) (noKey : message.idempotencyKey = none)
    (isRoot : message.parentMessageId = none)
    (channel : ∃ channel ∈ state.channels.rows, channel.id = message.channelId) :
    ∃ next, state.createMessage message = .ok next := by
  have notTaken : state.messages.keyTaken message = false := by
    rw [MessageTable.keyTaken_eq_false_iff]
    exact fun _ _ _ _ => noKey
  have parentPresent : state.messages.parentPresent message = true := by
    rw [MessageTable.parentPresent, isRoot]
    rfl
  obtain ⟨messages, created⟩ := MessageTable.exists_create fresh notTaken parentPresent
  unfold DmState.createMessage
  split
  next failure refused =>
    rw [created] at refused
    cases refused
  next =>
    rw [dif_pos channel]
    exact ⟨_, rfl⟩

/-- Beside any history there is one that is alike from the floor on, and that the feed tells apart. -/
theorem exists_told_apart (around : Surroundings)
    (member : IsMemberFrom state group userId visibleFrom) (positive : 0 < visibleFrom) :
    ∃ other, AlikeFrom group.id visibleFrom state other ∧
      ¬ReadsAlike around group userId state other := by
  obtain ⟨id, fresh⟩ := exists_fresh_id state.messages
  let message : Message :=
    { id := id, channelId := group.id, authorId := ⟨userId.value + 1⟩, content := "", createdAt := 0 }
  have notMine : message.authorId ≠ userId := by
    intro same
    exact absurd (congrArg UserId.value same) (Nat.succ_ne_self userId.value)
  have freshRow : ∀ old ∈ state.messages, old.id ≠ message.id := fresh
  obtain ⟨other, created⟩ :=
    exists_createMessage freshRow rfl rfl ⟨group, member.present, rfl⟩
  obtain ⟨messages, channels, members⟩ := DmState.createMessage_eq_ok created
  refine ⟨other, ⟨channels.symm, members.symm, fun row notOlder => ?_⟩, fun readsAlike => ?_⟩
  · rw [messages, or_iff_right]
    rintro rfl
    exact notOlder ⟨rfl, positive⟩
  · obtain ⟨row, rowMem, rowGroup, rowUser, belongs, -⟩ := member.row
    have told : (other.inbox around.directory).messageActivity .direct false message ∈
        (other.inbox around.directory).directs userId :=
      mem_directs_inbox.mpr ⟨message, (messages message).mpr (.inl rfl), ⟨rfl, notMine,
        ⟨group, channels ▸ member.present, rfl, member.live, member.direct⟩,
        row, members ▸ rowMem, rowGroup, rowUser, belongs.allowsRead⟩, rfl⟩
    obtain ⟨old, oldMem, -, same⟩ := mem_directs_inbox.mp ((readsAlike.fed _).mpr told)
    exact fresh old oldMem (SubjectId.message.inj (congrArg Activity.messageId same))

end TwoRuns

/-- A member gets no message from before its floor exactly when every such message of the group is
out of reach of the paths that have forgotten the floor. What happened before the floor can always
be told apart, though not in the rows of the list of messages. -/
theorem history_floor_iff (around : Surroundings) (state : DmState) (group : DmChannel)
    (userId : UserId) (visibleFrom : DateTime)
    (member : IsMemberFrom state group userId visibleFrom) :
    ((∀ message ∈ state.messages, message.channelId = group.id →
          Returns around state group userId message → visibleFrom ≤ message.createdAt) ↔
        ∀ message ∈ state.messages, message.channelId = group.id →
          message.createdAt < visibleFrom → message.deletedAt = none →
          IsOutOfReach around state group userId visibleFrom message) ∧
      (0 < visibleFrom → ∃ other, AlikeFrom group.id visibleFrom state other ∧
        ¬ReadsAlike around group userId state other) ∧
      ∀ other, AlikeFrom group.id visibleFrom state other →
        ∀ request : ListMessagesArgs, request.channelId = group.id →
          state.listMessages around userId request = other.listMessages around userId request := by
  refine ⟨⟨?_, ?_⟩, exists_told_apart around member, fun other alike request ofGroup =>
    listMessages_alike member alike ofGroup⟩
  · intro keeps message present ofGroup older live
    by_contra inReach
    have returned := (returns_iff member present ofGroup older).mpr ⟨live, inReach⟩
    exact absurd (keeps message present ofGroup returned) (not_le.mpr older)
  · intro outOfReach message present ofGroup returned
    by_contra notLater
    have older := not_le.mp notLater
    obtain ⟨live, inReach⟩ := (returns_iff member present ofGroup older).mp returned
    exact inReach (outOfReach message present ofGroup older live)

/-- The first user writes a root in the group that it has opened. -/
def greeting : Message where
  id := ⟨7⟩
  channelId := ⟨100⟩
  authorId := ⟨1⟩
  content := "before the second comes back"
  createdAt := 20

def leaveSecond : LeaveGroup where
  meId := ⟨2⟩
  channelId := ⟨100⟩
  now := 30

def addSecond : AddParticipants where
  meId := ⟨1⟩
  channelId := ⟨100⟩
  userIds := [⟨2⟩]
  now := 40
  rowCreatedAt _ := 40

/-- No search finds anything, and no text is a time. -/
def plainSurroundings : Surroundings where
  timestamp _ := none
  ilike _ _ := false
  displayName _ := none
  directory := threeFriends

/-- A member who has left and is let in again gets what was written before. -/
theorem returned_from_before_floor :
    ¬∀ (calls : List (Directory × DmCall)) (state : DmState) (around : Surroundings)
      (group : DmChannel) (userId : UserId) (visibleFrom : DateTime),
      Steps DmStep .empty calls state → IsMemberFrom state group userId visibleFrom →
      (∀ message ∈ state.messages, message.channelId = group.id →
        Returns around state group userId message → visibleFrom ≤ message.createdAt) ∧
      ∀ other, AlikeFrom group.id visibleFrom state other →
        ReadsAlike around group userId state other := by
  intro claimed
  obtain ⟨state, ran, good⟩ := exists_ok
    (show (runAll [(threeFriends, .createGroupDm openGroup), (threeFriends, .send greeting),
        (threeFriends, .leaveGroup leaveSecond),
        (threeFriends, .addParticipants addSecond)]).toOption.any (fun state =>
        decide (greeting ∈ state.messages.table.rows) && state.channels.rows.any fun group =>
          decide (group.id = ⟨100⟩ ∧ IsMemberFrom state group ⟨2⟩ 40)) = true by decide +kernel)
  obtain ⟨sent, back⟩ := Bool.and_eq_true_iff.mp good
  obtain ⟨group, -, isMember⟩ := any_eq_true.mp back
  obtain ⟨groupId, member⟩ := of_decide_eq_true isMember
  have present : greeting ∈ state.messages.table.rows := of_decide_eq_true sent
  have returned : Returns plainSurroundings state group ⟨2⟩ greeting :=
    (returns_iff member present groupId.symm (by decide)).mpr
      ⟨rfl, fun outOfReach => absurd outOfReach.own (by decide)⟩
  have later := (claimed _ state plainSurroundings group ⟨2⟩ 40 (steps_of_runAll ran) member).1
    greeting present groupId.symm returned
  exact absurd later (by decide)

/-- Before anybody has left, a member gets nothing that is older than the group. -/
theorem founder_keeps_floor :
    ∃ (state : DmState) (group : DmChannel),
      Steps DmStep .empty [(threeFriends, .createGroupDm openGroup), (threeFriends, .send greeting)]
          state ∧
        IsMemberFrom state group ⟨2⟩ 5 ∧
        ∀ message ∈ state.messages, message.channelId = group.id →
          Returns plainSurroundings state group ⟨2⟩ message → 5 ≤ message.createdAt := by
  obtain ⟨state, ran, good⟩ := exists_ok
    (show (runAll [(threeFriends, .createGroupDm openGroup),
        (threeFriends, .send greeting)]).toOption.any (fun state =>
        decide (state.messages.table.rows = [greeting]) && state.channels.rows.any fun group =>
          decide (IsMemberFrom state group ⟨2⟩ 5)) = true by decide +kernel)
  obtain ⟨sent, opened⟩ := Bool.and_eq_true_iff.mp good
  obtain ⟨group, -, isMember⟩ := any_eq_true.mp opened
  have member := of_decide_eq_true isMember
  refine ⟨state, group, steps_of_runAll ran, member,
    (history_floor_iff plainSurroundings state group ⟨2⟩ 5 member).1.mpr ?_⟩
  intro message present _ older
  have onlyOne : message ∈ [greeting] := of_decide_eq_true sent ▸ present
  obtain rfl := mem_singleton.mp onlyOne
  exact absurd older (by decide)

end Bongtalk.Channels.DirectMessages
