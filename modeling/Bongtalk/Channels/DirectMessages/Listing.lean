import Bongtalk.Channels.DirectMessages.GroupNames
import Mathlib.Data.String.Basic

/-!
# The lists of direct messages

A user has a list of groups and a list of pairs, each cut off after some entries. Hidden direct
messages are in neither, and opening one does not bring it back.
-/

namespace Bongtalk.Channels.DirectMessages

open Library Auth Messages Prisma List Table DmState

/-- `Math.max(1, Math.min(100, limit))`. -/
def pageSize (limit : Int) : Nat :=
  (max 1 (min 100 limit)).toNat

/-- An entry of `listGroups`. -/
structure GroupItem where
  channelId : ChannelId
  memberIds : List UserId
  lastMessageAt : Option DateTime
  createdAt : DateTime
deriving DecidableEq, Repr

/-- An entry of `list`. -/
structure PairItem where
  channelId : ChannelId
  otherUserId : UserId
  otherUsername : String
  lastMessageAt : Option DateTime
deriving DecidableEq, Repr

/-- The time of the latest message that is not deleted. -/
def lastMessageAt (messages : MessageTable) (channelId : ChannelId) : Option DateTime :=
  ((messages.table.findMany fun message =>
    message.channelId == channelId && message.deletedAt.isNone).map Message.createdAt).max?

/-- `COALESCE(lastMessageAt, createdAt) DESC`; equal times are told apart by the ids. -/
def groupKey (messages : MessageTable) (group : DmChannel) : DateTimeᵒᵈ ×ₗ Nat :=
  toLex (.toDual ((lastMessageAt messages group.id).getD group.createdAt), group.id.value)

/-- `lastMessageAt DESC NULLS LAST, username ASC`; equal entries are told apart by the ids. -/
def pairKey (item : PairItem) : (WithBot DateTime)ᵒᵈ ×ₗ String ×ₗ Nat :=
  toLex (.toDual item.lastMessageAt, toLex (item.otherUsername, item.channelId.value))

namespace DmState

variable (directory : Directory) (state : DmState) (workspaceId : Option WorkspaceId)
  (meId : UserId)

/-- Whether a live direct message is in the scope of a list. -/
def inScope (channel : DmChannel) : Bool :=
  (workspaceId.isNone || channel.workspaceId == workspaceId) && channel.type == .direct &&
    channel.deletedAt.isNone

/-- The groups of a user, `my_groups`. The join with the members of each drops none of them, since
the user is one. -/
def myGroups : List DmChannel :=
  state.channels.findMany fun channel =>
    inScope workspaceId channel && channel.isGroup && state.members.rows.any fun mine =>
      mine.channelId == channel.id && mine.userId == meId && mine.allowsRead &&
        mine.leftAt.isNone && mine.hiddenAt.isNone

def groupItem (group : DmChannel) : GroupItem where
  channelId := group.id
  memberIds := ((state.members.findMany fun peer =>
    peer.channelId == group.id && peer.allowsRead && peer.leftAt.isNone).map
      DmMember.userId).insertionSort fun first second => idText first ≤ idText second
  lastMessageAt := lastMessageAt state.messages group.id
  createdAt := group.createdAt

def listGroups (limit : Int) : List GroupItem :=
  (page (groupKey state.messages) (pageSize limit) (state.myGroups workspaceId meId)).map
    state.groupItem

/-- Whether a channel is one of the pairs of a user, `my_dms`. -/
def isMyPair (channel : DmChannel) : Bool :=
  inScope workspaceId channel && !channel.isGroup && state.members.rows.any fun mine =>
    mine.channelId == channel.id && mine.userId == meId && mine.allowsRead && mine.hiddenAt.isNone

/-- The join of the pairs of a user with the row of the other user and that user. -/
def pairItem (peer : DmMember) : Option PairItem := do
  let channel ← state.channels.findUnique peer.channelId
  let other ← directory.users.findUnique peer.userId
  if peer.userId ≠ meId ∧ state.isMyPair workspaceId meId channel = true then
    some {
      channelId := peer.channelId
      otherUserId := peer.userId
      otherUsername := other.username
      lastMessageAt := lastMessageAt state.messages peer.channelId }
  else none

def pairItems : List PairItem :=
  state.members.rows.filterMap (state.pairItem directory workspaceId meId)

def list (limit : Int) : List PairItem :=
  page pairKey (pageSize limit) (state.pairItems directory workspaceId meId)

/-- A direct message is in one of the lists of a user, over all workspaces. -/
def IsListed (limit : Int) (channelId : ChannelId) : Prop :=
  (∃ item ∈ state.list directory none meId limit, item.channelId = channelId) ∨
    ∃ item ∈ state.listGroups none meId limit, item.channelId = channelId

end DmState

/-- A member of a direct message may read in it. -/
theorem DmMember.Settled.allowsRead_iff {row : DmMember} (settled : row.Settled) :
    row.allowsRead = true ↔ row.leftAt = none := by
  rcases settled with belongs | ⟨mask, left⟩
  · simp [belongs.allowsRead, belongs.present]
  obtain ⟨leftAt, leftEq⟩ := Option.isSome_iff_exists.mp left
  simp [allowsRead, mask, leftEq, number, OverrideMask.none, hasPermission, Permission.read]

section Lists

variable {directory : Directory} {state : DmState} {meId : UserId}

theorem mem_myGroups {group : DmChannel} :
    group ∈ state.myGroups none meId ↔
      (group ∈ state.channels ∧ group.type = .direct ∧ group.deletedAt = none ∧
        group.isGroup = true) ∧
      ∃ mine ∈ state.members, mine.channelId = group.id ∧ mine.userId = meId ∧
        mine.allowsRead = true ∧ mine.leftAt = none ∧ mine.hiddenAt = none := by
  simp only [myGroups, inScope, mem_findMany, any_eq_true,
    Bool.and_eq_true, Bool.or_eq_true, beq_iff_eq, Option.isNone_iff_eq_none, true_or, true_and,
    and_assoc, mem_def]

theorem isMyPair_iff {pair : DmChannel} :
    state.isMyPair none meId pair = true ↔
      (pair.type = .direct ∧ pair.deletedAt = none ∧ pair.isGroup = false) ∧
      ∃ mine ∈ state.members, mine.channelId = pair.id ∧ mine.userId = meId ∧
        mine.allowsRead = true ∧ mine.hiddenAt = none := by
  simp only [isMyPair, inScope, any_eq_true, Bool.and_eq_true,
    Bool.or_eq_true, beq_iff_eq, Option.isNone_iff_eq_none, true_or, true_and, and_assoc,
    mem_def, Bool.not_eq_true']

/-- The entry that the row of another user makes. -/
def entryOf (state : DmState) (other : DmUser) (channelId : ChannelId) : PairItem where
  channelId := channelId
  otherUserId := other.id
  otherUsername := other.username
  lastMessageAt := lastMessageAt state.messages channelId

theorem pairItem_eq_some_iff {peer : DmMember} {item : PairItem} :
    state.pairItem directory none meId peer = some item ↔
      peer.userId ≠ meId ∧
        (∃ pair ∈ state.channels, pair.id = peer.channelId ∧ state.isMyPair none meId pair = true) ∧
        ∃ other ∈ directory.users, other.id = peer.userId ∧
          item = entryOf state other peer.channelId := by
  simp only [pairItem, Option.bind_eq_bind, Option.bind_eq_some_iff,
    findUnique_eq_some_iff, Option.ite_none_right_eq_some, Option.some.injEq]
  constructor
  · rintro ⟨pair, ⟨pairMem, pairId⟩, other, ⟨otherMem, otherId⟩, ⟨notMe, mine⟩, rfl⟩
    refine ⟨notMe, ⟨pair, pairMem, pairId, mine⟩, other, otherMem, otherId, ?_⟩
    rw [entryOf, otherId]
  · rintro ⟨notMe, ⟨pair, pairMem, pairId, mine⟩, other, otherMem, otherId, rfl⟩
    refine ⟨pair, ⟨pairMem, pairId⟩, other, ⟨otherMem, otherId⟩, ⟨notMe, mine⟩, ?_⟩
    rw [entryOf, otherId]

theorem nodup_myGroups (state : DmState) (meId : UserId) : (state.myGroups none meId).Nodup :=
  (Nodup.of_map _ state.channels.keysNodup).filter _

/-- Entries of different rows are different. -/
theorem nodup_pairItems (directory : Directory) (state : DmState) (meId : UserId) :
    (state.pairItems directory none meId).Nodup := by
  have keys := pairwise_map.mp state.members.keysNodup
  refine pairwise_filterMap.mpr (keys.imp ?_)
  rintro first second different item firstItem other secondItem rfl
  obtain ⟨-, -, firstUser, -, firstId, rfl⟩ := pairItem_eq_some_iff.mp firstItem
  obtain ⟨-, -, secondUser, -, secondId, same⟩ := pairItem_eq_some_iff.mp secondItem
  simp only [entryOf, PairItem.mk.injEq] at same
  exact different (Prod.ext same.1 ((firstId.symm.trans same.2.1).trans secondId))

theorem id_eq_of_groupKey_eq {messages : MessageTable} {first second : DmChannel}
    (same : groupKey messages first = groupKey messages second) : first.id = second.id := by
  have ids := congrArg (fun key => (ofLex key).2) same
  simp only [groupKey, ofLex_toLex] at ids
  cases firstId : first.id
  cases secondId : second.id
  rw [firstId, secondId] at ids
  exact congrArg ChannelId.mk ids

theorem id_eq_of_pairKey_eq {first second : PairItem} (same : pairKey first = pairKey second) :
    first.channelId = second.channelId := by
  have ids := congrArg (fun key => (ofLex (ofLex key).2).2) same
  simp only [pairKey, ofLex_toLex] at ids
  cases firstId : first.channelId
  cases secondId : second.channelId
  rw [firstId, secondId] at ids
  exact congrArg ChannelId.mk ids

/-- A group is in the list of groups, if the user has it and it is not cut off. -/
theorem isListed_group_iff {limit : Int} {group : DmChannel} (groupMem : group ∈ state.channels)
    (isGroup : group.isGroup = true) :
    state.IsListed directory meId limit group.id ↔
      group ∈ state.myGroups none meId ∧
        (state.myGroups none meId).countP (fun other =>
          decide (groupKey state.messages other < groupKey state.messages group)) <
          pageSize limit := by
  have unique : ∀ other ∈ state.channels, other.id = group.id → other = group :=
    fun other otherMem same => eq_of_key_eq otherMem groupMem same
  have noPair : ¬∃ item ∈ state.list directory none meId limit, item.channelId = group.id := by
    rintro ⟨item, itemMem, itemId⟩
    have inItems := mem_sortBy.mp (mem_of_mem_take itemMem)
    obtain ⟨peer, -, peerItem⟩ := mem_filterMap.mp inItems
    obtain ⟨-, ⟨pair, pairMem, pairId, mine⟩, other, -, -, rfl⟩ := pairItem_eq_some_iff.mp peerItem
    obtain rfl := unique pair pairMem (pairId.trans itemId)
    rw [(isMyPair_iff.mp mine).1.2.2] at isGroup
    exact Bool.false_ne_true isGroup
  have alone : ∀ other ∈ state.myGroups none meId,
      groupKey state.messages other = groupKey state.messages group → other = group := by
    intro other otherMem same
    exact unique other (mem_myGroups.mp otherMem).1.1 (id_eq_of_groupKey_eq same)
  rw [IsListed, or_iff_right noPair, ← mem_page_iff alone, listGroups]
  constructor
  · rintro ⟨item, itemMem, itemId⟩
    obtain ⟨other, otherMem, rfl⟩ := mem_map.mp itemMem
    have inGroups := mem_sortBy.mp (mem_of_mem_take otherMem)
    exact unique other (mem_myGroups.mp inGroups).1.1 itemId ▸ otherMem
  · intro onPage
    exact ⟨_, mem_map.mpr ⟨group, onPage, rfl⟩, rfl⟩

end Lists

/-- A pair has the rows of its two users, who cannot leave. -/
def PairLaw (state : DmState) : Prop :=
  ∀ pair ∈ state.channels, pair.isGroup = false →
    (∀ row ∈ state.members, row.channelId = pair.id → row.Belongs) ∧
    ∃ first second, first ≠ second ∧ pair.name = channelName first second ∧
      ∀ userId, (∃ row ∈ state.members, row.channelId = pair.id ∧ row.userId = userId) ↔
        userId ∈ [first, second]

section Pairs

variable {state next : DmState}

variable {pair : DmChannel}

/-- No step writes more in the rows of a pair than since when they are hidden. -/
theorem DmEffect.row_of_pair (effect : DmEffect state next) (pairMem : pair ∈ state.channels)
    (isPair : pair.isGroup = false) {row : DmMember} (rowMem : row ∈ next.members)
    (ofPair : row.channelId = pair.id) :
    ∃ old ∈ state.members, ∃ hiddenAt, row = { old with hiddenAt := hiddenAt } := by
  have notGroup : ∀ {channelId group}, state.findDirect channelId = some group →
      group.isGroup = true → channelId ≠ pair.id := by
    rintro channelId group found isGroup rfl
    obtain rfl := GroupLaw.found_unique found pairMem rfl
    exact Bool.false_ne_true (isPair.symm.trans isGroup)
  cases effect with
  | stays same => exact ⟨row, same ▸ rowMem, row.hiddenAt, rfl⟩
  | opensGroup call wellFormed opens | opensPair call different opens =>
    rcases (opens.members row).mp rowMem with ⟨userId, -, rfl⟩ | before
    · exact absurd ofPair.symm (opens.fresh pair pairMem)
    · exact ⟨row, before, row.hiddenAt, rfl⟩
  | joins call group joins =>
    obtain ⟨found, foundEq, isGroup, -⟩ := group
    have nodup := state.nodup_newParticipants call
    rw [joins.members, mem_joinMembers _ _ _ _ nodup] at rowMem
    rcases rowMem with ⟨userId, -, rfl⟩ | ⟨before, -⟩
    · rw [(joined_key _ _ _ _ userId).1] at ofPair
      exact absurd ofPair (notGroup foundEq isGroup)
    · exact ⟨row, before, row.hiddenAt, rfl⟩
  | leaves channelId userId leaves =>
    obtain ⟨group, foundEq, isGroup⟩ := leaves.group
    obtain ⟨now, members⟩ := leaves.members
    rw [members] at rowMem
    obtain ⟨old, oldMem, rfl⟩ := mem_softLeave.mp rowMem
    split at ofPair
    next left => exact absurd (left.1.symm.trans ofPair) (notGroup foundEq isGroup)
    next stays =>
      rw [if_neg stays]
      exact ⟨old, oldMem, old.hiddenAt, rfl⟩
  | hides hides =>
    obtain ⟨hiddenAt, rows⟩ := hides.members
    obtain ⟨old, oldMem, rfl⟩ := (rows row).mp rowMem
    exact ⟨old, oldMem, hiddenAt old, rfl⟩

theorem pairLaw_step {label : Directory × DmCall} (step : DmStep state label next)
    (law : PairLaw state) : PairLaw next := by
  intro pair pairMem isPair
  rcases step.effect.channel_cases pairMem with
    ⟨old, oldMem, same⟩ | ⟨call, -, rfl, -⟩ | ⟨call, different, rfl, opens⟩
  · simp only [DmChannel.identity, Prod.mk.injEq] at same
    obtain ⟨sameId, -, sameName, -, -⟩ := same
    rw [DmChannel.isGroup, ← sameName, ← DmChannel.isGroup] at isPair
    obtain ⟨belongs, first, second, different, name, users⟩ := law old oldMem isPair
    rw [← sameId, ← sameName]
    refine ⟨fun row rowMem ofPair => ?_, first, second, different, name, fun userId => ?_⟩
    · obtain ⟨before, beforeMem, hiddenAt, rfl⟩ :=
        step.effect.row_of_pair oldMem isPair rowMem ofPair
      obtain ⟨allow, deny, present⟩ := belongs before beforeMem ofPair
      exact ⟨allow, deny, present⟩
    · rw [← users userId]
      constructor
      · rintro ⟨row, rowMem, ofPair, rfl⟩
        obtain ⟨before, beforeMem, hiddenAt, rfl⟩ :=
          step.effect.row_of_pair oldMem isPair rowMem ofPair
        exact ⟨before, beforeMem, ofPair, rfl⟩
      · rintro ⟨row, rowMem, ofPair, rfl⟩
        obtain ⟨after, afterMem, afterChannel, afterUser⟩ := step.effect.keeps_row rowMem
        exact ⟨after, afterMem, afterChannel.trans ofPair, afterUser⟩
  · have group : call.channel.isGroup = true := isGroup_of_groupChannelName rfl
    exact absurd (isPair.symm.trans group) Bool.false_ne_true
  · have newRow : ∀ row ∈ next.members, row.channelId = call.newId →
        ∃ userId ∈ call.allMembers, row = call.row userId := by
      intro row rowMem ofPair
      refine ((opens.members row).mp rowMem).resolve_right fun before => ?_
      obtain ⟨old, oldMem, idEq⟩ := state.memberChannel row before
      exact opens.fresh old oldMem (idEq.trans ofPair)
    refine ⟨fun row rowMem ofPair => ?_, call.meId, call.otherUserId, different, rfl,
      fun userId => ?_⟩
    · obtain ⟨userId, -, rfl⟩ := newRow row rowMem ofPair
      exact ⟨rfl, rfl, rfl⟩
    · constructor
      · rintro ⟨row, rowMem, ofPair, rfl⟩
        obtain ⟨userId, member, rfl⟩ := newRow row rowMem ofPair
        exact member
      · exact fun member => ⟨call.row userId,
          (opens.members _).mpr (.inl ⟨userId, member, rfl⟩), rfl, rfl⟩

theorem pairLaw_run {calls : List (Directory × DmCall)} (run : Steps DmStep .empty calls state) :
    PairLaw state :=
  run.preserves PairLaw (fun step => pairLaw_step step) fun _ pairMem => absurd pairMem not_mem_nil

/-- No row of a user on a channel is hidden. -/
def DmState.NotHidden (state : DmState) (channelId : ChannelId) (userId : UserId) : Prop :=
  ∀ row ∈ state.members, row.channelId = channelId → row.userId = userId → row.hiddenAt = none

/-- How many entries of the list of groups come before a key. -/
def DmState.groupsAhead (state : DmState) (userId : UserId) (key : DateTimeᵒᵈ ×ₗ Nat) : Nat :=
  (state.myGroups none userId).countP fun other => decide (groupKey state.messages other < key)

/-- How many entries of the list of pairs come before an entry. -/
def DmState.pairsAhead (directory : Directory) (state : DmState) (userId : UserId)
    (item : PairItem) : Nat :=
  (state.pairItems directory none userId).countP fun other => decide (pairKey other < pairKey item)

/-- The users of a pair are those that its name is made of. -/
theorem users_of_pair (law : PairLaw state) {first second : UserId}
    (pairMem : pair ∈ state.channels) (name : pair.name = channelName first second)
    (userId : UserId) :
    (∃ row ∈ state.members, row.channelId = pair.id ∧ row.userId = userId) ↔
      userId ∈ [first, second] := by
  obtain ⟨-, founder, other, -, founderName, users⟩ :=
    law pair pairMem (isGroup_of_channelName name)
  exact (users userId).trans (mem_iff_of_slug_eq (cons_ne_nil _ _) (cons_ne_nil _ _)
    (founderName.symm.trans name) userId)

/-- The only entry that a pair makes is that of the other user. -/
theorem entry_of_pair (law : PairLaw state) {directory : Directory} {meId : UserId} {other : DmUser}
    (pairMem : pair ∈ state.channels) (name : pair.name = channelName meId other.id)
    (otherMem : other ∈ directory.users) {item : PairItem}
    (itemMem : item ∈ state.pairItems directory none meId) (itemId : item.channelId = pair.id) :
    item = entryOf state other pair.id := by
  obtain ⟨peer, peerMem, peerItem⟩ := mem_filterMap.mp itemMem
  obtain ⟨notMe, -, user, userMem, userId, rfl⟩ := pairItem_eq_some_iff.mp peerItem
  have peerChannel : peer.channelId = pair.id := itemId
  have oneOfTwo := (users_of_pair law pairMem name peer.userId).mp ⟨peer, peerMem, itemId, rfl⟩
  have isOther : peer.userId = other.id := by
    rcases mem_cons.mp oneOfTwo with isMe | rest
    · exact absurd isMe notMe
    · exact mem_singleton.mp rest
  have sameUser : user = other := eq_of_key_eq userMem otherMem (userId.trans isOther)
  rw [sameUser, peerChannel]

/-- A pair is in the list of pairs, if the user has not hidden it and it is not cut off. -/
theorem isListed_pair_iff (law : PairLaw state) {directory : Directory} {limit : Int}
    {meId : UserId} {other : DmUser} (pairMem : pair ∈ state.channels)
    (direct : pair.type = .direct) (live : pair.deletedAt = none)
    (name : pair.name = channelName meId other.id) (otherMem : other ∈ directory.users)
    (different : meId ≠ other.id) :
    state.IsListed directory meId limit pair.id ↔
      state.NotHidden pair.id meId ∧
        state.pairsAhead directory meId (entryOf state other pair.id) < pageSize limit := by
  have isPair : pair.isGroup = false := isGroup_of_channelName name
  have users := users_of_pair law pairMem name
  have noGroup : ¬∃ item ∈ state.listGroups none meId limit, item.channelId = pair.id := by
    rintro ⟨item, itemMem, itemId⟩
    obtain ⟨group, groupMem, rfl⟩ := mem_map.mp itemMem
    have mine := mem_myGroups.mp (mem_sortBy.mp (mem_of_mem_take groupMem))
    obtain rfl : group = pair := eq_of_key_eq mine.1.1 pairMem itemId
    exact Bool.false_ne_true (isPair.symm.trans mine.1.2.2.2)
  have inItems : entryOf state other pair.id ∈ state.pairItems directory none meId ↔
      state.NotHidden pair.id meId := by
    constructor
    · intro itemMem row rowMem ofPair ofMe
      obtain ⟨peer, -, peerItem⟩ := mem_filterMap.mp itemMem
      obtain ⟨-, ⟨channel, channelMem, channelId, mine⟩, user, -, -, same⟩ :=
        pairItem_eq_some_iff.mp peerItem
      have peerChannel : pair.id = peer.channelId := congrArg PairItem.channelId same
      obtain ⟨-, shown, shownMem, shownChannel, shownUser, -, notHidden⟩ := isMyPair_iff.mp mine
      have sameRow : row = shown := eq_of_key_eq rowMem shownMem <| Prod.ext
        (((ofPair.trans peerChannel).trans channelId.symm).trans shownChannel.symm)
        (ofMe.trans shownUser.symm)
      exact sameRow ▸ notHidden
    · intro notHidden
      obtain ⟨mine, mineMem, mineChannel, mineUser⟩ := (users meId).mpr mem_cons_self
      obtain ⟨peer, peerMem, peerChannel, peerUser⟩ :=
        (users other.id).mpr (mem_cons_of_mem _ mem_cons_self)
      have reads := ((law pair pairMem isPair).1 mine mineMem mineChannel).allowsRead
      refine mem_filterMap.mpr ⟨peer, peerMem, pairItem_eq_some_iff.mpr ⟨?_, ?_, ?_⟩⟩
      · exact fun isMe => different (isMe.symm.trans peerUser)
      · refine ⟨pair, pairMem, peerChannel.symm, isMyPair_iff.mpr ⟨⟨direct, live, isPair⟩, ?_⟩⟩
        exact ⟨mine, mineMem, mineChannel, mineUser, reads,
          notHidden mine mineMem mineChannel mineUser⟩
      · exact ⟨other, otherMem, peerUser.symm, by rw [peerChannel]⟩
  have alone : ∀ item ∈ state.pairItems directory none meId,
      pairKey item = pairKey (entryOf state other pair.id) →
        item = entryOf state other pair.id := fun item itemMem same =>
    entry_of_pair law pairMem name otherMem itemMem (id_eq_of_pairKey_eq same)
  rw [IsListed, or_iff_left noGroup, ← inItems, pairsAhead, ← mem_page_iff alone]
  constructor
  · rintro ⟨item, itemMem, itemId⟩
    have inAll := mem_sortBy.mp (mem_of_mem_take itemMem)
    exact entry_of_pair law pairMem name otherMem inAll itemId ▸ itemMem
  · exact fun onPage => ⟨_, onPage, rfl⟩

end Pairs

end Bongtalk.Channels.DirectMessages
