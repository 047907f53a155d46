import Bongtalk.Channels.DirectMessages.Listing

/-!
# Opening a direct message

A user who opens a direct message, or is let into a group, finds it in a list, unless a row from
before is still hidden, or so much of the list comes first that it is cut off.
-/

namespace Bongtalk.Channels.DirectMessages

open Library Common Prisma DmState List

variable {directory : Directory} {state next : DmState}

/-- A call that opens a direct message or lets users in. -/
inductive OpenCall where
  | addParticipants (call : AddParticipants)
  | createGroupDm (call : CreateGroupDm)
  | createOrGetGlobal (call : CreateOrGetGlobal)

open OpenCall

/-- The channel of an answer, with the users that it reports as added. -/
structure OpenResult where
  channelId : ChannelId
  added : List UserId

namespace OpenCall

def openerId : OpenCall → UserId
  | addParticipants call => call.meId
  | createGroupDm call => call.meId
  | createOrGetGlobal call => call.meId

/-- A group that was there before is answered without adding anybody. -/
def run (directory : Directory) (state : DmState) :
    OpenCall → Except Failure (DmState × OpenResult)
  | addParticipants call =>
    (state.addParticipants directory call).map fun answer =>
      (answer.1, ⟨answer.2.channelId, answer.2.addedUserIds⟩)
  | createGroupDm call =>
    (state.createGroupDm directory call).map fun answer =>
      (answer.1, ⟨answer.2.channelId, if answer.2.created then call.memberIds else []⟩)
  | createOrGetGlobal call =>
    (state.createOrGetGlobal directory call).map fun answer =>
      (answer.1, ⟨answer.2.channelId, []⟩)

end OpenCall

/-- The entry that a pair has in the list of the caller. -/
def CreateOrGetGlobal.item (directory : Directory) (state : DmState) (call : CreateOrGetGlobal)
    (channelId : ChannelId) : PairItem where
  channelId := channelId
  otherUserId := call.otherUserId
  otherUsername := ((directory.users.findUnique call.otherUserId).map DmUser.username).getD ""
  lastMessageAt := lastMessageAt state.messages channelId

/-- When a call shows the direct message to the opener and to those whom it adds: none of them has
it hidden from before, a group that is found again is one that the caller has not left, and fewer
entries than the list has room for come before it. -/
def OpenCall.Shows (directory : Directory) (state : DmState) (limit : Int) : OpenCall → Prop
  | addParticipants call =>
    ∀ group, state.findDirect call.channelId = some group →
      ∀ userId ∈ call.meId :: state.newParticipants call,
        state.NotHidden group.id userId ∧
          state.groupsAhead userId (groupKey state.messages group) < pageSize limit
  | createGroupDm call =>
    match state.findByName call.workspaceId (groupChannelName call.allMembers) with
    | some group =>
      (∀ row ∈ state.members, row.channelId = group.id → row.userId = call.meId →
        row.leftAt = none) ∧
      state.NotHidden group.id call.meId ∧
        state.groupsAhead call.meId (groupKey state.messages group) < pageSize limit
    | none =>
      ∀ userId ∈ call.allMembers,
        state.groupsAhead userId (groupKey state.messages call.channel) < pageSize limit
  | createOrGetGlobal call =>
    match state.findByName none (channelName call.meId call.otherUserId) with
    | some pair =>
      state.NotHidden pair.id call.meId ∧
        state.pairsAhead directory call.meId (call.item directory state pair.id) < pageSize limit
    | none =>
      state.pairsAhead directory call.meId (call.item directory state call.newId) < pageSize limit

/-- All but one channel is as before, and so are the messages. -/
structure SameElsewhere (state next : DmState) (channelId : ChannelId) : Prop where
  channels : ∀ channel, channel.id ≠ channelId →
    (channel ∈ next.channels ↔ channel ∈ state.channels)
  members : ∀ row, row.channelId ≠ channelId → (row ∈ next.members ↔ row ∈ state.members)
  messages : next.messages = state.messages

section SameElsewhere

theorem Opens.sameElsewhere {channel : DmChannel} {userIds : List UserId} {row : UserId → DmMember}
    (opens : Opens state channel userIds row next) : SameElsewhere state next channel.id where
  channels other elsewhere := by
    rw [opens.channels]
    exact or_iff_right fun same => elsewhere (congrArg (fun opened => opened.id) same)
  members other elsewhere := by
    rw [opens.members]
    apply or_iff_right
    rintro ⟨userId, -, rfl⟩
    exact elsewhere (opens.rows userId).1
  messages := opens.messages

variable {channelId : ChannelId}

theorem Joins.sameElsewhere {now : DateTime} {createdAt : UserId → DateTime} {userIds : List UserId}
    (joins : Joins state channelId now createdAt userIds next) (nodup : userIds.Nodup) :
    SameElsewhere state next channelId where
  channels channel _ := by rw [joins.channels]
  members row elsewhere := by
    rw [joins.members, mem_joinMembers _ _ _ _ nodup]
    constructor
    · rintro (⟨userId, -, rfl⟩ | ⟨before, -⟩)
      · exact absurd (joined_key _ _ _ _ userId).1 elsewhere
      · exact before
    · exact fun before => .inr ⟨before, fun again => elsewhere again.1⟩
  messages := joins.messages

/-- The rows of another channel are the same. -/
theorem SameElsewhere.exists_row {channelId other : ChannelId}
    (same : SameElsewhere state next channelId) (elsewhere : other ≠ channelId)
    {condition : DmMember → Prop} :
    (∃ row ∈ next.members, row.channelId = other ∧ condition row) ↔
      ∃ row ∈ state.members, row.channelId = other ∧ condition row := by
  refine exists_congr fun row => ?_
  constructor
  · rintro ⟨rowMem, ofOther, holds⟩
    exact ⟨(same.members row (ofOther ▸ elsewhere)).mp rowMem, ofOther, holds⟩
  · rintro ⟨rowMem, ofOther, holds⟩
    exact ⟨(same.members row (ofOther ▸ elsewhere)).mpr rowMem, ofOther, holds⟩

theorem mem_myGroups_elsewhere (same : SameElsewhere state next channelId) {group : DmChannel}
    (elsewhere : group.id ≠ channelId) (userId : UserId) :
    group ∈ next.myGroups none userId ↔ group ∈ state.myGroups none userId := by
  rw [mem_myGroups, mem_myGroups, same.channels group elsewhere]
  exact and_congr_right fun _ => same.exists_row elsewhere

/-- As many groups come before the changed one as came before it would have been. -/
theorem groupsAhead_eq {group : DmChannel} (same : SameElsewhere state next group.id)
    (unique : ∀ other, other ∈ next.channels ∨ other ∈ state.channels → other.id = group.id →
      other = group) (userId : UserId) :
    next.groupsAhead userId (groupKey next.messages group) =
      state.groupsAhead userId (groupKey state.messages group) := by
  rw [groupsAhead, groupsAhead, same.messages]
  refine countP_eq_of_mem_iff (nodup_myGroups _ _) (nodup_myGroups _ _) fun other before => ?_
  by_cases elsewhere : other.id = group.id
  · -- The changed group does not come before itself.
    have notGroup : other ≠ group := by
      rintro rfl
      exact lt_irrefl _ (of_decide_eq_true before)
    have absent : ¬(other ∈ next.channels ∨ other ∈ state.channels) :=
      fun present => notGroup (unique other present elsewhere)
    constructor
    · exact fun member => absurd (.inl (mem_myGroups.mp member).1.1) absent
    · exact fun member => absurd (.inr (mem_myGroups.mp member).1.1) absent
  · exact mem_myGroups_elsewhere same elsewhere userId

theorem isMyPair_elsewhere (same : SameElsewhere state next channelId) {pair : DmChannel}
    (elsewhere : pair.id ≠ channelId) (userId : UserId) :
    next.isMyPair none userId pair = true ↔ state.isMyPair none userId pair = true := by
  rw [isMyPair_iff, isMyPair_iff]
  exact and_congr_right fun _ => same.exists_row elsewhere

theorem mem_pairItems_elsewhere (same : SameElsewhere state next channelId) {item : PairItem}
    (elsewhere : item.channelId ≠ channelId) (userId : UserId) :
    item ∈ next.pairItems directory none userId ↔ item ∈ state.pairItems directory none userId := by
  have sameEntry : ∀ other ofChannel, entryOf next other ofChannel = entryOf state other ofChannel := by
    intro other ofChannel
    rw [entryOf, entryOf, same.messages]
  have pairs : ∀ {peer : DmMember}, peer.channelId ≠ channelId →
      (next.pairItem directory none userId peer = some item ↔
        state.pairItem directory none userId peer = some item) := by
    intro peer peerElsewhere
    simp only [pairItem_eq_some_iff, sameEntry]
    refine and_congr_right fun _ => and_congr_left fun _ => exists_congr fun pair => ?_
    by_cases pairElsewhere : pair.id = channelId
    · have notPeer : pair.id ≠ peer.channelId := pairElsewhere ▸ peerElsewhere.symm
      simp only [notPeer, false_and, and_false]
    · rw [same.channels pair pairElsewhere, isMyPair_elsewhere same pairElsewhere userId]
  have peerElsewhere : ∀ {state : DmState} {peer : DmMember},
      state.pairItem directory none userId peer = some item → peer.channelId ≠ channelId := by
    intro state peer peerItem
    obtain ⟨-, -, other, -, -, rfl⟩ := pairItem_eq_some_iff.mp peerItem
    exact elsewhere
  rw [pairItems, pairItems, mem_filterMap, mem_filterMap]
  constructor
  · rintro ⟨peer, peerMem, peerItem⟩
    have apart := peerElsewhere peerItem
    exact ⟨peer, (same.members peer apart).mp peerMem, (pairs apart).mp peerItem⟩
  · rintro ⟨peer, peerMem, peerItem⟩
    have apart := peerElsewhere peerItem
    exact ⟨peer, (same.members peer apart).mpr peerMem, (pairs apart).mpr peerItem⟩

/-- As many pairs come before a new one as came before it would have been. -/
theorem pairsAhead_eq {item : PairItem} (same : SameElsewhere state next item.channelId)
    {userId : UserId}
    (unique : ∀ other, other ∈ next.pairItems directory none userId ∨
      other ∈ state.pairItems directory none userId → other.channelId = item.channelId →
      other = item) :
    next.pairsAhead directory userId item = state.pairsAhead directory userId item := by
  refine countP_eq_of_mem_iff (nodup_pairItems _ _ _) (nodup_pairItems _ _ _) fun other before => ?_
  by_cases elsewhere : other.channelId = item.channelId
  · have notItem : other ≠ item := by
      rintro rfl
      exact lt_irrefl _ (of_decide_eq_true before)
    constructor
    · exact fun member => absurd (unique other (.inl member) elsewhere) notItem
    · exact fun member => absurd (unique other (.inr member) elsewhere) notItem
  · exact mem_pairItems_elsewhere same elsewhere userId

end SameElsewhere

section Calls

variable {limit : Int}

variable {group : DmChannel}

/-- A group is one of the groups of a user when the row of the user has not left and is not
hidden. -/
theorem mem_myGroups_of_row (law : GroupLaw state) (groupMem : group ∈ state.channels)
    (direct : group.type = .direct) (live : group.deletedAt = none) (isGroup : group.isGroup = true)
    {row : DmMember} (rowMem : row ∈ state.members) (ofGroup : row.channelId = group.id) :
    group ∈ state.myGroups none row.userId ↔ row.leftAt = none ∧ row.hiddenAt = none := by
  rw [mem_myGroups]
  constructor
  · rintro ⟨-, mine, mineMem, mineChannel, mineUser, -, present, shown⟩
    have same : mine = row := Table.eq_of_key_eq mineMem rowMem
      (Prod.ext (mineChannel.trans ofGroup.symm) mineUser)
    exact same ▸ ⟨present, shown⟩
  · rintro ⟨present, shown⟩
    exact ⟨⟨groupMem, direct, live, isGroup⟩, row, rowMem, ofGroup, rfl,
      (law.settled row rowMem).allowsRead_iff.mpr present, present, shown⟩

theorem notHidden_iff_of_row {row : DmMember} (rowMem : row ∈ state.members) :
    state.NotHidden row.channelId row.userId ↔ row.hiddenAt = none := by
  constructor
  · exact fun shown => shown row rowMem rfl rfl
  · intro shown other otherMem sameChannel sameUser
    have same : other = row := Table.eq_of_key_eq otherMem rowMem (Prod.ext sameChannel sameUser)
    exact same ▸ shown

theorem addParticipants_listed_iff (law : GroupLaw state) {call : AddParticipants}
    {result : AddResult} (ok : state.addParticipants directory call = .ok (next, result))
    (found : state.findDirect call.channelId = some group) {userId : UserId}
    (named : userId ∈ call.meId :: state.newParticipants call) :
    next.IsListed directory userId limit group.id ↔
      state.NotHidden group.id userId ∧
        state.groupsAhead userId (groupKey state.messages group) < pageSize limit := by
  have lawNext := law.addParticipants ok
  obtain ⟨⟨other, otherFound, isGroup, owner⟩, -, joins, -⟩ := addParticipants_eq_ok ok
  cases found.symm.trans otherFound
  obtain ⟨groupMem, groupId, direct, live⟩ := findDirect_eq_some found
  have nodup := state.nodup_newParticipants call
  have groupNext : group ∈ next.channels := by
    rw [joins.channels]
    exact groupMem
  have ahead : next.groupsAhead userId (groupKey next.messages group) =
      state.groupsAhead userId (groupKey state.messages group) := by
    refine groupsAhead_eq (groupId ▸ joins.sameElsewhere nodup) (fun other otherMem same => ?_) userId
    rw [joins.channels, or_self] at otherMem
    exact Table.eq_of_key_eq otherMem groupMem same
  rw [isListed_group_iff groupNext isGroup, ← ahead, groupsAhead]
  refine and_congr_left fun _ => ?_
  rcases mem_cons.mp named with rfl | isNew
  · -- The owner is an active member, whose row stays as it is.
    obtain ⟨ownerId, member, isOwner⟩ := (law.groups group groupMem isGroup).owned live
    cases isOwner.symm.trans owner
    obtain ⟨row, rowMem, ofGroup, ofOwner, active⟩ := mem_audience.mp member
    have notNew : ¬(row.channelId = call.channelId ∧ row.userId ∈ state.newParticipants call) := by
      rintro ⟨-, isNew⟩
      have activeMember : row.userId ∈ state.activeMembers call.channelId :=
        mem_activeMembers.mpr ⟨row, rowMem, ofGroup.trans groupId, rfl, active⟩
      simp [newParticipants, activeMember] at isNew
    have rowNext : row ∈ next.members := by
      rw [joins.members]
      exact (mem_joinMembers _ _ _ _ nodup).mpr (.inr ⟨rowMem, notNew⟩)
    have present := (law.settled row rowMem).active_iff.mp active
    rw [← ofOwner, mem_myGroups_of_row lawNext groupNext direct live isGroup rowNext ofGroup,
      ← ofGroup, notHidden_iff_of_row rowMem]
    exact and_iff_right present
  · obtain ⟨ofGroup, ofUser⟩ := joined_key state.members call.channelId call.now call.rowCreatedAt
      userId
    have rowNext : joined state.members call.channelId call.now call.rowCreatedAt userId ∈
        next.members := by
      rw [joins.members]
      exact (mem_joinMembers _ _ _ _ nodup).mpr (.inl ⟨userId, isNew, rfl⟩)
    have listed := mem_myGroups_of_row lawNext groupNext direct live isGroup rowNext
      (ofGroup.trans groupId.symm)
    rw [ofUser, joined_hiddenAt_eq_none_iff] at listed
    rw [listed, groupId]
    exact and_iff_right (joined_belongs _ _ _ _ userId).present

/-- A group that is found by its name is listed for the caller by the row of the caller. -/
theorem foundGroup_listed_iff (law : GroupLaw state) (named : NamedForFounders state)
    {call : CreateGroupDm}
    (found : state.findByName call.workspaceId (groupChannelName call.allMembers) = some group) :
    state.IsListed directory call.meId limit group.id ↔
      (∀ row ∈ state.members, row.channelId = group.id → row.userId = call.meId →
        row.leftAt = none) ∧
      state.NotHidden group.id call.meId ∧
        state.groupsAhead call.meId (groupKey state.messages group) < pageSize limit := by
  obtain ⟨groupMem, -, groupName, direct, live⟩ := findByName_eq_some found
  have isGroup := isGroup_of_groupChannelName groupName
  obtain ⟨row, rowMem, ofGroup, ofMe⟩ := founder_row named found mem_cons_self
  have notLeft : (∀ row ∈ state.members, row.channelId = group.id → row.userId = call.meId →
      row.leftAt = none) ↔ row.leftAt = none := by
    constructor
    · exact fun present => present row rowMem ofGroup ofMe
    · intro present other otherMem otherGroup otherMe
      have same : other = row := Table.eq_of_key_eq otherMem rowMem
        (Prod.ext (otherGroup.trans ofGroup.symm) (otherMe.trans ofMe.symm))
      exact same ▸ present
  rw [isListed_group_iff groupMem isGroup, notLeft, ← and_assoc, groupsAhead]
  refine and_congr_left fun _ => ?_
  rw [← ofMe, mem_myGroups_of_row law groupMem direct live isGroup rowMem ofGroup, ← ofGroup,
    notHidden_iff_of_row rowMem]

/-- A new group is listed for each of its members unless it is cut off. -/
theorem newGroup_listed_iff (law : GroupLaw next) {call : CreateGroupDm}
    (opens : Opens state call.channel call.allMembers call.row next) {userId : UserId}
    (member : userId ∈ call.allMembers) :
    next.IsListed directory userId limit call.newId ↔
      state.groupsAhead userId (groupKey state.messages call.channel) < pageSize limit := by
  have groupMem : call.channel ∈ next.channels := (opens.channels _).mpr (.inl rfl)
  have isGroup : call.channel.isGroup = true := isGroup_of_groupChannelName rfl
  have rowMem : call.row userId ∈ next.members :=
    (opens.members _).mpr (.inl ⟨userId, member, rfl⟩)
  have listed : call.channel ∈ next.myGroups none userId :=
    (mem_myGroups_of_row law groupMem rfl rfl isGroup rowMem rfl).mpr ⟨rfl, rfl⟩
  have ahead : next.groupsAhead userId (groupKey next.messages call.channel) =
      state.groupsAhead userId (groupKey state.messages call.channel) := by
    refine groupsAhead_eq opens.sameElsewhere (fun other otherMem same => ?_) userId
    rcases otherMem with inNext | before
    · exact Table.eq_of_key_eq inNext groupMem same
    · exact absurd same (opens.fresh other before)
  rw [← ahead]
  exact (isListed_group_iff groupMem isGroup).trans (and_iff_right listed)

variable {call : CreateOrGetGlobal}

/-- The other user of a pair passes the gates only when there is such a user. -/
theorem item_eq_entryOf (state : DmState)
    (mayOpen : directory.assertMayOpen call.meId call.otherUserId = .ok ()) :
    call.meId ≠ call.otherUserId ∧ ∃ other ∈ directory.users, other.id = call.otherUserId ∧
      ∀ channelId, call.item directory state channelId = entryOf state other channelId := by
  obtain ⟨canDm, other, otherMem, otherId⟩ := assertMayOpen_eq_ok_iff.mp mayOpen
  refine ⟨(assertCanDm_eq_ok_iff.mp canDm).1, other, otherMem, otherId, fun channelId => ?_⟩
  have found := Table.findUnique_eq_some_iff.mpr ⟨otherMem, otherId⟩
  simp [CreateOrGetGlobal.item, entryOf, found, otherId]

theorem foundPair_listed_iff (law : PairLaw state)
    (mayOpen : directory.assertMayOpen call.meId call.otherUserId = .ok ()) {pair : DmChannel}
    (found : state.findByName none (channelName call.meId call.otherUserId) = some pair) :
    state.IsListed directory call.meId limit pair.id ↔
      state.NotHidden pair.id call.meId ∧
        state.pairsAhead directory call.meId (call.item directory state pair.id) <
          pageSize limit := by
  obtain ⟨different, other, otherMem, otherId, item⟩ := item_eq_entryOf state mayOpen
  obtain ⟨pairMem, -, name, direct, live⟩ := findByName_eq_some found
  rw [← otherId] at name different
  rw [item]
  exact isListed_pair_iff law pairMem direct live name otherMem different

theorem newPair_listed_iff (law : PairLaw next)
    (mayOpen : directory.assertMayOpen call.meId call.otherUserId = .ok ())
    (opens : Opens state call.channel call.allMembers call.row next) :
    next.IsListed directory call.meId limit call.newId ↔
      state.pairsAhead directory call.meId (call.item directory state call.newId) <
        pageSize limit := by
  obtain ⟨different, other, otherMem, otherId, item⟩ := item_eq_entryOf state mayOpen
  have pairMem : call.channel ∈ next.channels := (opens.channels _).mpr (.inl rfl)
  have name : call.channel.name = channelName call.meId other.id := by
    rw [otherId]
    rfl
  have notHidden : next.NotHidden call.newId call.meId := by
    intro row rowMem ofPair _
    rcases (opens.members row).mp rowMem with ⟨userId, -, rfl⟩ | before
    · rfl
    obtain ⟨old, oldMem, idEq⟩ := state.memberChannel row before
    exact absurd (idEq.trans ofPair) (opens.fresh old oldMem)
  have sameEntry : entryOf next other call.newId = entryOf state other call.newId := by
    rw [entryOf, entryOf, opens.messages]
  have ahead : next.pairsAhead directory call.meId (entryOf next other call.newId) =
      state.pairsAhead directory call.meId (entryOf state other call.newId) := by
    rw [sameEntry]
    refine pairsAhead_eq opens.sameElsewhere fun entry entryMem same => ?_
    rcases entryMem with inNext | before
    · rw [← sameEntry]
      exact entry_of_pair law pairMem name otherMem inNext same
    · -- The pair has not been there before.
      obtain ⟨peer, -, peerItem⟩ := mem_filterMap.mp before
      obtain ⟨-, ⟨pair, pairBefore, pairId, -⟩, user, -, -, rfl⟩ :=
        pairItem_eq_some_iff.mp peerItem
      exact absurd (pairId.trans same) (opens.fresh pair pairBefore)
  rw [item, ← ahead]
  exact (isListed_pair_iff law pairMem rfl rfl name otherMem (otherId ▸ different)).trans
    (and_iff_right notHidden)

end Calls

/-- After every run, a call that opens a direct message or lets users in has it listed for the
opener and for everyone it reports as added when and only when its condition holds before. -/
theorem opened_listed_iff {state : DmState} {calls : List (Directory × DmCall)}
    (run : Steps DmStep .empty calls state) {directory : Directory} {call : OpenCall}
    {next : DmState} {result : OpenResult} (ok : call.run directory state = .ok (next, result))
    (limit : Int) :
    (∀ userId ∈ call.openerId :: result.added,
      next.IsListed directory userId limit result.channelId) ↔
      call.Shows directory state limit := by
  have law := GroupLaw.run run
  cases call with
  | addParticipants call =>
    obtain ⟨⟨after, answer⟩, added, same⟩ := map_eq_ok ok
    cases same
    obtain ⟨⟨group, found, -, -⟩, -, -, rfl⟩ := addParticipants_eq_ok added
    obtain ⟨-, groupId, -, -⟩ := findDirect_eq_some found
    rw [← groupId]
    constructor
    · intro listed other otherFound userId named
      obtain rfl := Option.some.inj (found.symm.trans otherFound)
      exact (addParticipants_listed_iff law added found named).mp (listed userId named)
    · intro shows userId named
      exact (addParticipants_listed_iff law added found named).mpr (shows group found userId named)
  | createGroupDm call =>
    obtain ⟨⟨after, answer⟩, created, same⟩ := map_eq_ok ok
    cases same
    obtain ⟨-, ⟨group, found, rfl, rfl⟩ | ⟨absent, opens, rfl⟩⟩ := createGroupDm_eq_ok created
    · simp only [Shows, found]
      rw [← foundGroup_listed_iff law (namedForFounders_run run) found]
      exact forall_mem_singleton
    · simp only [Shows, absent]
      refine forall₂_congr fun userId member => ?_
      exact newGroup_listed_iff (law.createGroupDm created) opens member
  | createOrGetGlobal call =>
    obtain ⟨⟨after, answer⟩, created, same⟩ := map_eq_ok ok
    cases same
    have step : DmStep state (directory, .createOrGetGlobal call) after := by
      rw [DmStep, DmCall.run, created]
      rfl
    refine forall_mem_singleton.trans ?_
    obtain ⟨mayOpen, ⟨pair, found, rfl, rfl⟩ | ⟨absent, opens, rfl⟩⟩ :=
      createOrGetGlobal_eq_ok created
    · simp only [Shows, found]
      exact foundPair_listed_iff (pairLaw_run run) mayOpen found
    · simp only [Shows, absent]
      exact newPair_listed_iff (pairLaw_step step (pairLaw_run run)) mayOpen opens

def openPair : CreateOrGetGlobal where
  meId := ⟨1⟩
  otherUserId := ⟨2⟩
  newId := ⟨100⟩
  createdAt := 5
  visibleFrom _ := 5
  rowCreatedAt _ := 5

def hidePair : SetVisibility where
  meId := ⟨1⟩
  channelId := ⟨100⟩
  hiddenAt := some 6

/-- A user hides a pair and opens it again, and it is still in no list. -/
theorem opened_hidden_not_listed :
    ¬∀ (calls : List (Directory × DmCall)) (state : DmState) (directory : Directory)
      (call : OpenCall) (next : DmState) (result : OpenResult),
      Steps DmStep .empty calls state →
      call.run directory state = .ok (next, result) →
      ∀ userId ∈ call.openerId :: result.added,
        next.IsListed directory userId 50 result.channelId := by
  intro claimed
  obtain ⟨state, ran, good⟩ := exists_ok
    (show (runAll [(threeFriends, .createOrGetGlobal openPair),
        (threeFriends, .setVisibility hidePair)]).toOption.any (fun state =>
        ((createOrGetGlobal openPair).run threeFriends state).toOption.any fun answer =>
          (answer.1.list threeFriends none ⟨1⟩ 50).isEmpty &&
            (answer.1.listGroups none ⟨1⟩ 50).isEmpty) = true by decide +kernel)
  obtain ⟨⟨next, result⟩, ok, nothing⟩ := exists_ok good
  simp only [Bool.and_eq_true, List.isEmpty_iff] at nothing
  rcases claimed _ state threeFriends _ next result (steps_of_runAll ran) ok ⟨1⟩
    List.mem_cons_self with ⟨item, itemMem, -⟩ | ⟨item, itemMem, -⟩
  · rw [nothing.1] at itemMem
    cases itemMem
  · rw [nothing.2] at itemMem
    cases itemMem

/-- The first pair that a user opens is listed. -/
theorem opened_listed_first :
    ∃ (next : DmState) (result : OpenResult),
      (createOrGetGlobal openPair).run threeFriends .empty = .ok (next, result) ∧
        next.IsListed threeFriends ⟨1⟩ 50 result.channelId := by
  obtain ⟨⟨next, result⟩, ok, -⟩ := exists_ok
    (show ((createOrGetGlobal openPair).run threeFriends .empty).toOption.any
      (fun _ => true) = true by decide +kernel)
  refine ⟨next, result, ok, ?_⟩
  have shows : Shows threeFriends .empty 50 (.createOrGetGlobal openPair) := by
    change pairsAhead threeFriends .empty ⟨1⟩ (openPair.item threeFriends .empty ⟨100⟩) <
      pageSize 50
    decide +kernel
  exact (opened_listed_iff .refl ok 50).mpr shows ⟨1⟩ mem_cons_self

end Bongtalk.Channels.DirectMessages
