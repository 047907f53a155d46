import Bongtalk.Common.Acl.ReadVisibility
import Bongtalk.Messages.CursorCodec
import Bongtalk.Messages.Send

/-!
# The inbox

Mentions, replies, reactions, direct messages and friend requests that concern a user. The queries
of the inbox decide with a predicate of their own which channels the user sees: a private channel
is open when the masks of all matching rows together allow `READ` and none of them denies it.
-/

namespace Bongtalk.Me

open Library Auth Channels.Permission Common.Acl Messages Prisma

structure ReactionId where
  value : Nat
deriving DecidableEq, Repr

structure FriendshipId where
  value : Nat
deriving DecidableEq, Repr

structure MessageReaction where
  id : ReactionId
  messageId : MessageId
  userId : UserId
  emoji : String
  createdAt : DateTime
deriving DecidableEq, Repr

/-- A friendship with the columns that the feed shows. -/
structure FriendshipRow where
  id : FriendshipId
  requesterId : UserId
  addresseeId : UserId
  status : FriendshipStatus := .pending
  createdAt : DateTime
deriving DecidableEq, Repr

structure UserActivityReadState where
  userId : UserId
  activityKey : List Char
  readAt : DateTime
deriving DecidableEq, Repr

/-- The threshold of the mentions in the read state of a channel. -/
structure LastRead where
  userId : UserId
  channelId : ChannelId
  lastReadAt : DateTime
deriving DecidableEq, Repr

/-- The column `mentions` as it is stored. A row that is older than a key lacks it. -/
structure MentionsColumn where
  users : Option (List UserId) := none
  everyone : Option Bool := none
  here : Option Bool := none
  channel : Option Bool := none
deriving DecidableEq, Repr

namespace MentionsColumn

/-- `mentions @> {"users": [userId]}` -/
def containsUser (column : MentionsColumn) (userId : UserId) : Bool :=
  column.users.any (·.contains userId)

/-- `(flag)::boolean IS TRUE`, which is `mentions @> {"flag": true}`. -/
def isTrue (flag : Option Bool) : Bool :=
  flag == some true

/-- A column that has every key. -/
def ofMentions (mentions : Mentions) : MentionsColumn where
  users := some mentions.users
  everyone := some mentions.everyone
  here := some mentions.here
  channel := some mentions.channel

/-- What a column says, with what it lacks taken as empty. -/
structure Reads (column : MentionsColumn) (mentions : Mentions) : Prop where
  users : mentions.users = column.users.getD []
  everyone : mentions.everyone = column.everyone.getD false
  here : mentions.here = column.here.getD false
  channel : mentions.channel = column.channel.getD false

theorem reads_ofMentions (mentions : Mentions) : (ofMentions mentions).Reads mentions :=
  ⟨rfl, rfl, rfl, rfl⟩

theorem isTrue_eq (flag : Option Bool) : isTrue flag = flag.getD false := by
  cases flag with
  | none => rfl
  | some value => cases value <;> rfl

theorem Reads.containsUser {column : MentionsColumn} {mentions : Mentions}
    (reads : column.Reads mentions) (userId : UserId) :
    column.containsUser userId = mentions.users.contains userId := by
  rw [MentionsColumn.containsUser, reads.users]
  cases column.users <;> rfl

end MentionsColumn

/-- `LEFT(text, 140)` -/
def snippetOf (text : String) : String :=
  String.ofList (text.toList.take 140)

/-- The tables that the inbox reads. -/
structure InboxState where
  db : Database
  users : Table User User.id
  messages : MessageTable := .empty
  mentionsColumn : Message → MentionsColumn := fun message => .ofMentions message.mentions
  mentionRecords : Table MentionRecord MentionRecord.key := .empty
  reactions : Table MessageReaction MessageReaction.id := .empty
  friendships : Table FriendshipRow FriendshipRow.id := .empty
  activityReads : Table UserActivityReadState fun row => (row.userId, row.activityKey) := .empty
  lastReads : Table LastRead fun row => (row.userId, row.channelId) := .empty
  columnReads : ∀ message ∈ messages, (mentionsColumn message).Reads message.mentions
  /-- Foreign key `Friendship.requesterId`. -/
  friendshipRequester : ∀ friendship ∈ friendships, ∃ user ∈ users, user.id = friendship.requesterId

/-- `(bit_or("allowMask") & ~bit_or("denyMask")) & 1` over some rows, null being zero. -/
def overrideBit (rows : List ChannelPermissionOverride) : BigIntColumn :=
  coalesceZero do
    let allow ← bitOr (rows.map (column ·.allowMask))
    let deny ← bitOr (rows.map (column ·.denyMask))
    return (allow &&& ~~~deny) &&& 1

theorem positive_and_one (value : BigIntColumn) : positive (value &&& 1) = value.getLsbD 0 := by
  rw [and_one]
  cases value.getLsbD 0 <;> rfl

/-- The bit is set when a row allows `READ` and no row denies it. -/
theorem positive_overrideBit (rows : List ChannelPermissionOverride) :
    positive (overrideBit rows) = true ↔
      (∃ row ∈ rows, row.allowMask.value.testBit 0 = true) ∧
        ∀ row ∈ rows, row.denyMask.value.testBit 0 = false := by
  have bits : ∀ mask : ChannelPermissionOverride → OverrideMask,
      (Masks.orFrom 0 id (rows.map fun row => column (mask row)) : BigIntColumn).getLsbD 0 = true ↔
        ∃ row ∈ rows, (mask row).value.testBit 0 = true := by
    intro mask
    simp only [Masks.getLsbD_orFrom, List.mem_map, id_eq, exists_exists_and_eq_and,
      getLsbD_column _ (by decide : 0 < 64), BitVec.ofNat_eq_ofNat, BitVec.getLsbD_zero,
      Bool.false_eq_true, false_or]
  cases rows with
  | nil => simp [overrideBit, bitOr, coalesceZero, positive]
  | cons first rest =>
    have masked : overrideBit (first :: rest) =
        (Masks.orFrom 0 id ((first :: rest).map fun row => column row.allowMask) &&&
          ~~~Masks.orFrom 0 id ((first :: rest).map fun row => column row.denyMask)) &&& 1 := rfl
    rw [masked, positive_and_one, BitVec.getLsbD_and, BitVec.getLsbD_not, Bool.and_eq_true,
      bits, Bool.and_eq_true, Bool.not_eq_true', ← Bool.not_eq_true, bits]
    simp

/-- A row of the CTE `acc`: a live channel and the membership of the caller. -/
structure Access where
  channel : Channel
  member : WorkspaceMember
  overrideBit : BigIntColumn

/-- `"isPrivate" = false OR role = 'OWNER' OR overrideBit > 0` -/
def Access.isVisible (access : Access) : Bool :=
  !access.channel.isPrivate || access.member.role == .owner || positive access.overrideBit

namespace InboxState

/-- An inbox over messages alone, whose columns have every key. -/
def ofMessages (db : Database) (users : Table User User.id) (messages : MessageTable) :
    InboxState where
  db := db
  users := users
  messages := messages
  columnReads := fun message _ => MentionsColumn.reads_ofMentions message.mentions
  friendshipRequester := by
    intro friendship present
    cases present

section Queries

variable (state : InboxState) (userId : UserId)

/-- The rows that match the caller or one of its roles in the subquery of the bit. -/
def matchingRows (channel : Channel) (member : WorkspaceMember) : List ChannelPermissionOverride :=
  matchingOverrides state.db.overrides.rows channel.id userId
    (rolePrincipals member.role (state.db.roleIdsOf member.workspaceId userId))

/-- The membership of the caller in the workspace of a channel. -/
def memberOf (channel : Channel) : Option WorkspaceMember :=
  channel.workspaceId.bind fun workspaceId => state.db.findMember workspaceId userId

/-- The channel of a message, unless it is deleted. -/
def liveChannel (channelId : ChannelId) : Option Channel :=
  (state.db.channels.findUnique channelId).filter (·.deletedAt == none)

/-- The row of `acc` for a channel; the unique keys leave at most one. -/
def access (channelId : ChannelId) : Option Access := do
  let channel ← state.liveChannel channelId
  let member ← state.memberOf userId channel
  return ⟨channel, member, overrideBit (state.matchingRows userId channel member)⟩

/-- The channel of a message is one that the inbox shows to the caller. -/
def ShowsChannel (channelId : ChannelId) : Prop :=
  (state.access userId channelId).any Access.isVisible = true

instance (channelId : ChannelId) : Decidable (state.ShowsChannel userId channelId) :=
  inferInstanceAs (Decidable (_ = true))

/-- `EXISTS (SELECT 1 FROM "MentionRecord" …)` -/
def hasRecord (message : Message) : Bool :=
  state.mentionRecords.rows.any fun record =>
    record.messageId == message.id && record.targetId == userId

/-- The record of a keyword. -/
def hasKeywordRecord (message : Message) : Bool :=
  state.mentionRecords.rows.any fun record =>
    record.messageId == message.id && record.targetId == userId && record.targetType == .keyword

/-- The mention predicate of the inbox. -/
def isMention (message : Message) : Bool :=
  (state.mentionsColumn message).containsUser userId ||
    MentionsColumn.isTrue (state.mentionsColumn message).everyone || state.hasRecord userId message

/-- A live message of another user that mentions the caller. -/
def isLiveMention (message : Message) : Bool :=
  message.deletedAt == none && message.authorId != userId && state.isMention userId message

end Queries

variable {state : InboxState} {userId : UserId}

theorem isLiveMention_iff {message : Message} : state.isLiveMention userId message = true ↔
    message.deletedAt = none ∧ message.authorId ≠ userId ∧
      state.isMention userId message = true := by
  simp only [isLiveMention, Bool.and_eq_true, beq_iff_eq, bne_iff_ne, and_assoc]

variable {channelId : ChannelId}

theorem decide_showsChannel :
    decide (state.ShowsChannel userId channelId) =
      (state.access userId channelId).any Access.isVisible := by
  rw [Bool.eq_iff_iff, decide_eq_true_iff]
  rfl

theorem access_eq_some_iff {access : Access} :
    state.access userId channelId = some access ↔
      ∃ channel, state.liveChannel channelId = some channel ∧
        ∃ member, state.memberOf userId channel = some member ∧
          ⟨channel, member, overrideBit (state.matchingRows userId channel member)⟩ = access := by
  simp only [InboxState.access, bind, Option.bind_eq_some_iff, pure, Option.some.injEq]

theorem liveChannel_eq_some_iff {channel : Channel} :
    state.liveChannel channelId = some channel ↔
      channel ∈ state.db.channels ∧ channel.id = channelId ∧ channel.deletedAt = none := by
  rw [liveChannel, Option.filter_eq_some_iff, Table.findUnique_eq_some_iff, beq_iff_eq, and_assoc]

theorem memberOf_eq_some_iff {channel : Channel} {member : WorkspaceMember} :
    state.memberOf userId channel = some member ↔
      channel.workspaceId = some member.workspaceId ∧ member.userId = userId ∧
        member ∈ state.db.workspaceMembers := by
  simp only [memberOf, Option.bind_eq_some_iff, Database.findMember, Table.findUnique_eq_some_iff,
    Prod.mk.injEq]
  constructor
  · rintro ⟨workspaceId, here, present, rfl, rfl⟩
    exact ⟨here, rfl, present⟩
  · rintro ⟨here, rfl, present⟩
    exact ⟨_, here, present, rfl, rfl⟩

end InboxState

end Bongtalk.Me
