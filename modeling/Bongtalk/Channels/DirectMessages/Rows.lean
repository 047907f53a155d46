import Bongtalk.Messages.Message

/-!
# The rows of direct messages

A direct message is a channel, and each of its members has an override row of its own on it. A
member who leaves keeps the row, and comes back by having it written again.
-/

namespace Bongtalk.Channels.DirectMessages

open Library Auth Common Messages Prisma Table List

structure DmChannel extends Channel where
  /-- Groups have an owner. -/
  ownerId : Option UserId := none
deriving DecidableEq, Repr

/-- An override row of a `USER` principal, with the columns that only direct messages use. -/
structure DmMember where
  channelId : ChannelId
  userId : UserId
  allowMask : OverrideMask := .none
  denyMask : OverrideMask := .none
  visibleFrom : Option DateTime := none
  joinedAt : Option DateTime := none
  leftAt : Option DateTime := none
  hiddenAt : Option DateTime := none
  createdAt : DateTime
deriving DecidableEq, Repr

abbrev DmMemberTable :=
  Table DmMember fun row => (row.channelId, row.userId)

/-- `DM_ALLOW_MASK`. -/
def dmAllowMask : OverrideMask where
  value := (Permission.read ||| Permission.writeMessage ||| Permission.deleteOwnMessage |||
    Permission.uploadAttachment).toNat
  within := by decide

theorem dmAllowMask_pos : 0 < dmAllowMask.value := by
  decide

/-- `name.startsWith('gdm:')`. -/
def DmChannel.isGroup (channel : DmChannel) : Bool :=
  "gdm:".toList.isPrefixOf channel.name.toList

namespace DmMember

/-- `allowMask > 0` and `leftAt IS NULL`. -/
def active (row : DmMember) : Bool :=
  decide (0 < row.allowMask.value) && row.leftAt.isNone

/-- `(allowMask & 1) > 0`. -/
def allowsRead (row : DmMember) : Bool :=
  hasPermission (number row.allowMask) Permission.read

/-- What a row says about reading, outside of a workspace. -/
def reads (row : DmMember) : Bool :=
  hasPermission (number row.allowMask &&& ~~~number row.denyMask) Permission.read

/-- The columns that `softLeave` writes. -/
def softLeave (now : DateTime) (row : DmMember) : DmMember :=
  { row with allowMask := .none, denyMask := .none, leftAt := some now }

/-- The columns that a member who comes back gets anew. -/
def rejoin (now : DateTime) (row : DmMember) : DmMember :=
  { row with
    allowMask := dmAllowMask
    denyMask := .none
    visibleFrom := some now
    joinedAt := some now
    leftAt := none }

/-- The row of a member, and not of somebody who has left. -/
structure Belongs (row : DmMember) : Prop where
  allow : row.allowMask = dmAllowMask
  deny : row.denyMask = .none
  present : row.leftAt = none

variable {row : DmMember}

theorem Belongs.active (belongs : row.Belongs) : row.active = true := by
  simp [DmMember.active, belongs.allow, belongs.present, dmAllowMask_pos]

theorem Belongs.allowsRead (belongs : row.Belongs) : row.allowsRead = true := by
  rw [DmMember.allowsRead, belongs.allow]
  decide

theorem Belongs.reads (belongs : row.Belongs) : row.reads = true := by
  rw [DmMember.reads, belongs.allow, belongs.deny]
  decide

end DmMember

/-- The row that the upsert of a member leaves. -/
def joined (members : DmMemberTable) (channelId : ChannelId) (now : DateTime)
    (createdAt : UserId → DateTime) (userId : UserId) : DmMember :=
  match members.findUnique (channelId, userId) with
  | some row => row.rejoin now
  | none =>
    { channelId := channelId
      userId := userId
      allowMask := dmAllowMask
      visibleFrom := some now
      joinedAt := some now
      createdAt := createdAt userId }

/-- The upserts of some members, one after the other. -/
def joinMembers (channelId : ChannelId) (now : DateTime) (createdAt : UserId → DateTime)
    (members : DmMemberTable) (userIds : List UserId) : DmMemberTable :=
  userIds.foldl (fun table userId => table.upsert (joined table channelId now createdAt userId))
    members

/-- The channels of direct messages with their members and messages. -/
structure DmState where
  channels : Table DmChannel fun row => row.id
  members : DmMemberTable
  messages : MessageTable
  /-- Foreign key `ChannelPermissionOverride.channelId`. -/
  memberChannel : ∀ row ∈ members, ∃ channel ∈ channels, channel.id = row.channelId
  /-- Foreign key `Message.channelId`. -/
  messageChannel : ∀ message ∈ messages, ∃ channel ∈ channels, channel.id = message.channelId

section Joined

variable (members : DmMemberTable) (channelId : ChannelId) (now : DateTime)
  (createdAt : UserId → DateTime)

theorem joined_key (userId : UserId) :
    (joined members channelId now createdAt userId).channelId = channelId ∧
      (joined members channelId now createdAt userId).userId = userId := by
  unfold joined
  split
  next row found =>
    have keyed := (mem_of_findUnique found).2
    exact ⟨congrArg Prod.fst keyed, congrArg Prod.snd keyed⟩
  next => exact ⟨rfl, rfl⟩

theorem joined_belongs (userId : UserId) :
    (joined members channelId now createdAt userId).Belongs := by
  unfold joined
  split <;> exact ⟨rfl, rfl, rfl⟩

/-- Whoever joins stays hidden when the old row was. -/
theorem joined_hiddenAt_eq_none_iff (userId : UserId) :
    (joined members channelId now createdAt userId).hiddenAt = none ↔
      ∀ row ∈ members, row.channelId = channelId → row.userId = userId → row.hiddenAt = none := by
  unfold joined
  split
  next row found =>
    obtain ⟨rowMem, keyed⟩ := mem_of_findUnique found
    constructor
    · intro shown other otherMem otherChannel otherUser
      have same : other = row :=
        eq_of_key_eq otherMem rowMem (keyed ▸ Prod.ext otherChannel otherUser)
      exact same ▸ shown
    · intro shown
      exact shown row rowMem (congrArg Prod.fst keyed) (congrArg Prod.snd keyed)
  next absent =>
    have none := findUnique_eq_none_iff.mp absent
    refine ⟨fun _ row rowMem rowChannel rowUser => ?_, fun _ => rfl⟩
    exact absurd (Prod.ext rowChannel rowUser) (none row rowMem)

/-- The upsert of one member leaves the row that another one gets as it is. -/
theorem joined_upsert {first userId : UserId} (different : userId ≠ first) :
    joined (members.upsert (joined members channelId now createdAt first)) channelId now createdAt
      userId = joined members channelId now createdAt userId := by
  have firstKey := joined_key members channelId now createdAt first
  have sameRow : (members.upsert (joined members channelId now createdAt first)).findUnique
      (channelId, userId) = members.findUnique (channelId, userId) := by
    refine (findUnique_upsert _).trans (if_neg ?_)
    rw [firstKey.1, firstKey.2]
    exact fun same => different (Prod.mk.inj same).2.symm
  rw [joined.eq_def, sameRow, ← joined.eq_def]

/-- After the upserts, the named members have their new rows, and every other row is as before. -/
theorem mem_joinMembers {userIds : List UserId} (nodup : userIds.Nodup) {row : DmMember} :
    row ∈ joinMembers channelId now createdAt members userIds ↔
      (∃ userId ∈ userIds, row = joined members channelId now createdAt userId) ∨
        row ∈ members ∧ ¬(row.channelId = channelId ∧ row.userId ∈ userIds) := by
  induction userIds generalizing members with
  | nil => simp [joinMembers]
  | cons first rest ih =>
    obtain ⟨firstNew, restNodup⟩ := nodup_cons.mp nodup
    have firstKey := joined_key members channelId now createdAt first
    have restSame : ∀ userId ∈ rest,
        joined (members.upsert (joined members channelId now createdAt first)) channelId now
          createdAt userId = joined members channelId now createdAt userId := by
      intro userId inRest
      refine joined_upsert members channelId now createdAt fun same => ?_
      exact firstNew (same ▸ inRest)
    change row ∈ joinMembers channelId now createdAt
      (members.upsert (joined members channelId now createdAt first)) rest ↔ _
    rw [ih _ restNodup, mem_upsert, firstKey.1, firstKey.2]
    constructor
    · rintro (⟨userId, inRest, rfl⟩ | ⟨rfl | ⟨present, notFirst⟩, notRest⟩)
      · exact .inl ⟨userId, mem_cons_of_mem first inRest, restSame userId inRest⟩
      · exact .inl ⟨first, mem_cons_self, rfl⟩
      · refine .inr ⟨present, ?_⟩
        rintro ⟨sameChannel, inAll⟩
        rcases mem_cons.mp inAll with sameUser | inRest
        · exact notFirst (Prod.ext sameChannel sameUser)
        · exact notRest ⟨sameChannel, inRest⟩
    · rintro (⟨userId, inAll, rfl⟩ | ⟨present, notAll⟩)
      · rcases mem_cons.mp inAll with rfl | inRest
        · exact .inr ⟨.inl rfl, fun named => firstNew (firstKey.2 ▸ named.2)⟩
        · exact .inl ⟨userId, inRest, (restSame userId inRest).symm⟩
      · refine .inr ⟨.inr ⟨present, fun same => ?_⟩, fun named => ?_⟩
        · obtain ⟨sameChannel, sameUser⟩ := Prod.mk.inj same
          exact notAll ⟨sameChannel, sameUser ▸ mem_cons_self⟩
        · exact notAll ⟨named.1, mem_cons_of_mem first named.2⟩

end Joined

namespace DmState

/-- No direct message has been opened. -/
def empty : DmState where
  channels := .empty
  members := .empty
  messages := .empty
  memberChannel := by simp [Table.empty, mem_def]
  messageChannel := by simp [MessageTable.empty, MessageTable.mem_def, Table.empty, mem_def]

section Reads

variable (state : DmState)

/-- `channel.findFirst` among the live direct messages. -/
def findDirect (channelId : ChannelId) : Option DmChannel :=
  state.channels.rows.find? fun row =>
    row.id == channelId && row.type == .direct && row.deletedAt.isNone

def findByName (workspaceId : Option WorkspaceId) (name : String) : Option DmChannel :=
  state.channels.rows.find? fun row =>
    row.workspaceId == workspaceId && row.name == name && row.type == .direct &&
      row.deletedAt.isNone

/-- The rows of the active members of a channel. -/
def activeRows (channelId : ChannelId) : List DmMember :=
  state.members.findMany fun row => row.channelId == channelId && row.active

def activeMembers (channelId : ChannelId) : List UserId :=
  (state.activeRows channelId).map DmMember.userId

end Reads

section Writes

variable (state : DmState)

def createChannel (channel : DmChannel) : Except Failure DmState :=
  match inserted : state.channels.insert? channel with
  | none => .error .uniqueViolation
  | some channels => .ok { state with
      channels := channels
      memberChannel := by
        intro row rowMem
        obtain ⟨old, oldMem, idEq⟩ := state.memberChannel row rowMem
        exact ⟨old, (mem_insert? inserted).mpr (.inr oldMem), idEq⟩
      messageChannel := by
        intro message messageMem
        obtain ⟨old, oldMem, idEq⟩ := state.messageChannel message messageMem
        exact ⟨old, (mem_insert? inserted).mpr (.inr oldMem), idEq⟩ }

def createMembers (rows : List DmMember) : Except Failure DmState :=
  match inserted : state.members.insertAll? rows with
  | none => .error .uniqueViolation
  | some members =>
    if present : ∀ row ∈ rows, ∃ channel ∈ state.channels.rows, channel.id = row.channelId then
      .ok { state with
        members := members
        memberChannel := by
          intro row rowMem
          rcases (mem_insertAll? inserted).mp rowMem with created | before
          · exact present row created
          · exact state.memberChannel row before }
    else .error .foreignKeyViolation

/-- The upserts of `addParticipants`. -/
def upsertMembers (channelId : ChannelId) (now : DateTime) (createdAt : UserId → DateTime)
    (userIds : List UserId) (nodup : userIds.Nodup) : Except Failure DmState :=
  if present : ∃ channel ∈ state.channels.rows, channel.id = channelId then
    .ok { state with
      members := joinMembers channelId now createdAt state.members userIds
      memberChannel := by
        intro row rowMem
        rcases (mem_joinMembers _ _ _ _ nodup).mp rowMem with ⟨userId, -, rfl⟩ | ⟨before, -⟩
        · rw [(joined_key _ _ _ _ userId).1]
          exact present
        · exact state.memberChannel row before }
  else .error .foreignKeyViolation

/-- `channelPermissionOverride.updateMany`. -/
def updateMembers (condition : DmMember → Bool) (change : DmMember → DmMember)
    (keeps : ∀ row, ((change row).channelId, (change row).userId) = (row.channelId, row.userId)) :
    DmState :=
  { state with
    members := state.members.rewrite (fun row => if condition row then change row else row)
      fun row => by
        split
        · exact keeps row
        · rfl
    memberChannel := by
      intro row rowMem
      obtain ⟨old, oldMem, rfl⟩ := mem_map.mp rowMem
      obtain ⟨channel, channelMem, idEq⟩ := state.memberChannel old oldMem
      refine ⟨channel, channelMem, idEq.trans ?_⟩
      split
      · exact (congrArg Prod.fst (keeps old)).symm
      · rfl }

/-- `channel.update`. -/
def updateChannel (channelId : ChannelId) (change : DmChannel → DmChannel)
    (keeps : ∀ row, (change row).id = row.id) : DmState :=
  { state with
    channels := state.channels.update channelId change keeps
    memberChannel := by
      intro row rowMem
      obtain ⟨old, oldMem, idEq⟩ := state.memberChannel row rowMem
      refine ⟨_, mem_map.mpr ⟨old, oldMem, rfl⟩, ?_⟩
      split
      · exact (keeps old).trans idEq
      · exact idEq
    messageChannel := by
      intro message messageMem
      obtain ⟨old, oldMem, idEq⟩ := state.messageChannel message messageMem
      refine ⟨_, mem_map.mpr ⟨old, oldMem, rfl⟩, ?_⟩
      split
      · exact (keeps old).trans idEq
      · exact idEq }

def createMessage (message : Message) : Except Failure DmState :=
  match created : state.messages.create message with
  | .error failure => .error failure
  | .ok messages =>
    if present : ∃ channel ∈ state.channels.rows, channel.id = message.channelId then
      .ok { state with
        messages := messages
        messageChannel := by
          intro other otherMem
          have rowsEq := (MessageTable.create_eq_ok_iff.mp created).2.2.2
          rw [MessageTable.mem_def, mem_def, rowsEq, mem_cons] at otherMem
          rcases otherMem with rfl | before
          · exact present
          · exact state.messageChannel other before }
    else .error .foreignKeyViolation

/-- A member leaves, or is made to leave. -/
def softLeave (channelId : ChannelId) (userId : UserId) (now : DateTime) : DmState :=
  state.updateMembers (fun row => row.channelId == channelId && row.userId == userId)
    (DmMember.softLeave now) fun _ => rfl

end Writes

section Specs

variable {state next : DmState}

variable {channelId : ChannelId}

variable {row : DmMember} {userId : UserId} {now : DateTime}

@[simp]
theorem mem_activeRows :
    row ∈ state.activeRows channelId ↔
      row ∈ state.members ∧ row.channelId = channelId ∧ row.active = true := by
  simp [activeRows]

theorem mem_activeMembers :
    userId ∈ state.activeMembers channelId ↔
      ∃ row ∈ state.members, row.channelId = channelId ∧ row.userId = userId ∧
        row.active = true := by
  rw [activeMembers, mem_map]
  constructor
  · rintro ⟨row, rowMem, rfl⟩
    obtain ⟨present, sameChannel, active⟩ := mem_activeRows.mp rowMem
    exact ⟨row, present, sameChannel, rfl, active⟩
  · rintro ⟨row, present, sameChannel, rfl, active⟩
    exact ⟨row, mem_activeRows.mpr ⟨present, sameChannel, active⟩, rfl⟩

/-- A member has one row on a channel. -/
theorem nodup_activeMembers (state : DmState) (channelId : ChannelId) :
    (state.activeMembers channelId).Nodup := by
  refine Nodup.map_on ?_ ((Nodup.of_map _ state.members.keysNodup).filter _)
  intro first firstMem second secondMem sameUser
  obtain ⟨firstPresent, firstChannel, -⟩ := mem_activeRows.mp firstMem
  obtain ⟨secondPresent, secondChannel, -⟩ := mem_activeRows.mp secondMem
  exact eq_of_key_eq firstPresent secondPresent
    (Prod.ext (firstChannel.trans secondChannel.symm) sameUser)

variable {channel : DmChannel}

/-- A channel that was found has the looked up id and is in the table. -/
theorem findDirect_eq_some (found : state.findDirect channelId = some channel) :
    channel ∈ state.channels ∧ channel.id = channelId ∧ channel.type = .direct ∧
      channel.deletedAt = none := by
  have condition := List.find?_some found
  simp only [Bool.and_eq_true, beq_iff_eq, Option.isNone_iff_eq_none] at condition
  exact ⟨mem_of_find?_eq_some found, condition.1.1, condition.1.2, condition.2⟩

theorem findByName_eq_some {workspaceId : Option WorkspaceId} {name : String}
    (found : state.findByName workspaceId name = some channel) :
    channel ∈ state.channels ∧ channel.workspaceId = workspaceId ∧ channel.name = name ∧
      channel.type = .direct ∧ channel.deletedAt = none := by
  have condition := List.find?_some found
  simp only [Bool.and_eq_true, beq_iff_eq, Option.isNone_iff_eq_none] at condition
  exact ⟨mem_of_find?_eq_some found, condition.1.1.1, condition.1.1.2, condition.1.2, condition.2⟩

/-- A new channel has an id of its own. -/
theorem createChannel_eq_ok (created : state.createChannel channel = .ok next) :
    (∀ old ∈ state.channels, old.id ≠ channel.id) ∧
      (∀ other, other ∈ next.channels ↔ other = channel ∨ other ∈ state.channels) ∧
      next.members = state.members ∧ next.messages = state.messages := by
  unfold createChannel at created
  split at created
  · cases created
  next channels inserted =>
    cases created
    exact ⟨(Table.insert?_eq_some_iff.mp inserted).1, fun _ => mem_insert? inserted, rfl, rfl⟩

theorem createMembers_eq_ok {rows : List DmMember} (created : state.createMembers rows = .ok next) :
    (∀ row, row ∈ next.members ↔ row ∈ rows ∨ row ∈ state.members) ∧
      next.channels = state.channels ∧ next.messages = state.messages := by
  unfold createMembers at created
  split at created
  · cases created
  next members inserted =>
    split at created
    · cases created
      exact ⟨fun _ => mem_insertAll? inserted, rfl, rfl⟩
    · cases created

theorem upsertMembers_eq_ok {createdAt : UserId → DateTime} {userIds : List UserId}
    {nodup : userIds.Nodup}
    (joined : state.upsertMembers channelId now createdAt userIds nodup = .ok next) :
    next.members = joinMembers channelId now createdAt state.members userIds ∧
      next.channels = state.channels ∧ next.messages = state.messages := by
  unfold upsertMembers at joined
  split at joined
  · cases joined
    exact ⟨rfl, rfl, rfl⟩
  · cases joined

theorem createMessage_eq_ok {message : Message} (created : state.createMessage message = .ok next) :
    (∀ other, other ∈ next.messages ↔ other = message ∨ other ∈ state.messages) ∧
      next.channels = state.channels ∧ next.members = state.members := by
  unfold createMessage at created
  split at created
  · cases created
  next messages inserted =>
    split at created
    · cases created
      refine ⟨fun other => ?_, rfl, rfl⟩
      have rowsEq := (MessageTable.create_eq_ok_iff.mp inserted).2.2.2
      rw [MessageTable.mem_def, mem_def, rowsEq, mem_cons, MessageTable.mem_def, mem_def]
    · cases created

theorem mem_updateMembers {condition : DmMember → Bool} {change : DmMember → DmMember}
    {keeps : ∀ row, ((change row).channelId, (change row).userId) = (row.channelId, row.userId)} :
    row ∈ (state.updateMembers condition change keeps).members ↔
      ∃ old ∈ state.members, (if condition old then change old else old) = row :=
  mem_map

theorem mem_softLeave :
    row ∈ (state.softLeave channelId userId now).members ↔
      ∃ old ∈ state.members,
        (if old.channelId = channelId ∧ old.userId = userId then old.softLeave now else old) =
          row := by
  apply mem_updateMembers.trans
  simp only [Bool.and_eq_true, beq_iff_eq]

/-- After an update, a channel is the changed one or was there under another id. -/
theorem mem_updateChannel {change : DmChannel → DmChannel} {keeps : ∀ row, (change row).id = row.id}
    {row : DmChannel} :
    row ∈ (state.updateChannel channelId change keeps).channels ↔
      (∃ old ∈ state.channels, old.id = channelId ∧ change old = row) ∨
        row ∈ state.channels ∧ row.id ≠ channelId := by
  apply mem_map.trans
  constructor
  · rintro ⟨old, oldMem, rfl⟩
    split
    next same => exact .inl ⟨old, oldMem, same, rfl⟩
    next different => exact .inr ⟨oldMem, different⟩
  · rintro (⟨old, oldMem, same, rfl⟩ | ⟨rowMem, different⟩)
    · exact ⟨old, oldMem, if_pos same⟩
    · exact ⟨row, rowMem, if_neg different⟩

end Specs

end DmState

end Bongtalk.Channels.DirectMessages
