import Bongtalk.Channels.MarkAllRead
import Bongtalk.Common.Acl.ReadVisibility

/-!
# Unread counts

The unread messages of a channel are counted for the sidebar, after an acknowledgement, and for
the cursors that an undo brings back. The last count has a condition less than the others.
-/

namespace Bongtalk.Channels

open Library Common.Acl Prisma Messages

/-- Containment of the user, or of one of the scopes, in the column `mentions`. -/
def mentionMatchSql (mentions : Mentions) (userId : UserId) : Bool :=
  mentions.users.contains userId || mentions.everyone || mentions.here || mentions.channel

/-- The cursor is null, or its tuple is smaller than the one of the message. -/
def behindCursor (cursor : Option ReadCursor) (message : Message) : Bool :=
  cursor.all fun read => read.position < message.position

theorem behindCursor_iff {cursor : Option ReadCursor} {message : Message} :
    behindCursor cursor message = true ↔ placeOf cursor < message.position := by
  cases cursor with
  | none | some read => simp [behindCursor, placeOf]

/-- A root, or a copy of a reply that was sent to the channel as well. -/
def isChannelRow (message : Message) : Bool :=
  message.parentMessageId == none || message.isBroadcast

section Counts

variable (acks : AckState ChannelId) (userId : UserId) (channelId : ChannelId)

/-- The live messages of a channel behind the cursor of a user. -/
def unreadRows : List Message :=
  acks.messages.table.findMany fun message =>
    message.channelId == channelId && message.deletedAt == none &&
      behindCursor (storedCursor acks.states userId channelId) message

/-- Those of them that the list of the channel shows. -/
def unreadChannelRows : List Message :=
  (unreadRows acks userId channelId).filter isChannelRow

/-- How many of some messages mention a user. -/
def mentionCount (messages : List Message) : Nat :=
  messages.countP fun message => mentionMatchSql message.mentions userId

def unreadCountFor : Nat :=
  (unreadChannelRows acks userId channelId).length

def mentionCountFor : Nat :=
  mentionCount userId (unreadChannelRows acks userId channelId)

theorem mem_unreadRows {message : Message} :
    message ∈ unreadRows acks userId channelId ↔
      message ∈ acks.messages ∧ message.channelId = channelId ∧ message.deletedAt = none ∧
        cursorOf acks.states userId channelId < message.position := by
  rw [unreadRows, Table.mem_findMany]
  simp only [Bool.and_eq_true, beq_iff_eq, behindCursor_iff, and_assoc]
  rfl

/-- The channel list shows every unread message of a channel when no unread reply hides in a
thread. -/
def NoUnreadReply : Prop :=
  ∀ message ∈ acks.messages, message.channelId = channelId → message.deletedAt = none →
    cursorOf acks.states userId channelId < message.position →
    message.parentMessageId = none ∨ message.isBroadcast = true

theorem unreadRows_eq_iff : unreadRows acks userId channelId = unreadChannelRows acks userId channelId ↔
    NoUnreadReply acks userId channelId := by
  rw [unreadChannelRows, eq_comm, List.filter_eq_self]
  constructor
  · intro shown message present inChannel live behind
    have isShown := shown message
      ((mem_unreadRows acks userId channelId).mpr ⟨present, inChannel, live, behind⟩)
    simpa [isChannelRow] using isShown
  · intro noReply message unread
    obtain ⟨present, inChannel, live, behind⟩ := (mem_unreadRows acks userId channelId).mp unread
    simpa [isChannelRow] using noReply message present inChannel live behind

/-- The counts differ as soon as the messages do. -/
theorem length_unreadRows_eq_iff :
    (unreadRows acks userId channelId).length = unreadCountFor acks userId channelId ↔
      NoUnreadReply acks userId channelId := by
  rw [← unreadRows_eq_iff, unreadCountFor, unreadChannelRows]
  constructor
  · intro sameLength
    exact (List.filter_sublist.eq_of_length sameLength.symm).symm
  · intro same
    exact congrArg List.length same

end Counts

structure UnreadChannelSummary where
  channelId : ChannelId
  unreadCount : Nat
  hasMention : Bool
  mentionCount : Nat
  lastMessageAt : Option DateTime
deriving DecidableEq, Repr

/-- The role principals in the subqueries `me` and `my_role_ids`. -/
def callerPrincipals (db : Database) (workspaceId : WorkspaceId) (userId : UserId) :
    List Principal :=
  ((db.findMember workspaceId userId).toList.map fun member => .systemRole member.role) ++
    (db.roleIdsOf workspaceId userId).map .role

/-- The channels of a workspace that the caller reads and that are not archived. -/
def summarizedChannels (db : Database) (workspaceId : WorkspaceId) (userId : UserId) :
    List Channel :=
  (db.channels.findMany fun channel =>
    channel.workspaceId == some workspaceId && channel.deletedAt == none &&
      channel.archivedAt == none &&
      readBitVisibleSql (overrideRefs db.overrides.rows channel userId
        (callerPrincipals db workspaceId userId))).insertionSort
    fun first second => first.createdAt ≤ second.createdAt

def summarize (db : Database) (acks : AckState ChannelId) (workspaceId : WorkspaceId)
    (userId : UserId) : List UnreadChannelSummary :=
  (summarizedChannels db workspaceId userId).map fun channel =>
    let rows := unreadChannelRows acks userId channel.id
    { channelId := channel.id
      unreadCount := rows.length
      hasMention := rows.any fun message => mentionMatchSql message.mentions userId
      mentionCount := mentionCount userId rows
      lastMessageAt := (rows.map (·.createdAt)).max? }

/-- A summary repeats the counts of its channel. -/
theorem counts_of_mem_summarize {db : Database} {acks : AckState ChannelId}
    {workspaceId : WorkspaceId} {userId : UserId} {summary : UnreadChannelSummary}
    (listed : summary ∈ summarize db acks workspaceId userId) :
    summary.unreadCount = unreadCountFor acks userId summary.channelId ∧
      summary.mentionCount = mentionCountFor acks userId summary.channelId ∧
      (summary.hasMention = true ↔ 0 < summary.mentionCount) := by
  obtain ⟨channel, -, rfl⟩ := List.mem_map.mp listed
  refine ⟨rfl, rfl, ?_⟩
  simp only [mentionCount, List.countP_pos_iff, List.any_eq_true]

/-- The event `read_state:updated`. -/
structure ReadStateUpdatedPayload where
  channelId : ChannelId
  workspaceId : WorkspaceId
  lastReadMessageId : Option MessageId
  unreadCount : Nat
  mentionCount : Nat
deriving DecidableEq, Repr

/-- The query that counts for all entries of a snapshot at once. -/
def recountSetBased (acks : AckState ChannelId) (userId : UserId) (workspaceId : WorkspaceId)
    (entries : Snapshot) : List ReadStateUpdatedPayload :=
  entries.map fun entry =>
    let rows := unreadRows acks userId entry.1
    { channelId := entry.1
      workspaceId := workspaceId
      lastReadMessageId := (storedCursor acks.states userId entry.1).map (·.messageId)
      unreadCount := rows.length
      mentionCount := mentionCount userId rows }

/-- The transaction of an undo: the cursors of the snapshot, then the counts behind them. -/
def undoPayloads (acks : AckState ChannelId) (userId : UserId) (workspaceId : WorkspaceId)
    (entries : Snapshot) : AckState ChannelId × List ReadStateUpdatedPayload :=
  let restored := { acks with states := restoreCursors acks.states userId entries }
  (restored, recountSetBased restored userId workspaceId entries)

/-- The counts of a payload are those of an acknowledgement and of the sidebar, over the same
messages. -/
structure OneFormula (db : Database) (acks : AckState ChannelId) (userId : UserId)
    (payload : ReadStateUpdatedPayload) : Prop where
  unread : payload.unreadCount = unreadCountFor acks userId payload.channelId
  mention : payload.mentionCount = mentionCountFor acks userId payload.channelId
  summary : ∀ summary ∈ summarize db acks payload.workspaceId userId,
    summary.channelId = payload.channelId →
    payload.unreadCount = summary.unreadCount ∧ payload.mentionCount = summary.mentionCount
  counted : unreadRows acks userId payload.channelId =
    unreadChannelRows acks userId payload.channelId

/-- An undo reports what the other counts say, for each channel, exactly when no live reply behind
the cursor is in a thread alone. -/
theorem one_unread_formula_iff (db : Database) (acks : AckState ChannelId) (userId : UserId)
    (workspaceId : WorkspaceId) (entries : Snapshot) :
    (∀ payload ∈ recountSetBased acks userId workspaceId entries,
      OneFormula db acks userId payload) ↔
      ∀ entry ∈ entries, NoUnreadReply acks userId entry.1 := by
  rw [recountSetBased, List.forall_mem_map]
  refine forall₂_congr fun entry _ => ?_
  constructor
  · intro formula
    exact (length_unreadRows_eq_iff acks userId entry.1).mp formula.unread
  · intro noReply
    have same := (unreadRows_eq_iff acks userId entry.1).mpr noReply
    have unread : (unreadRows acks userId entry.1).length = unreadCountFor acks userId entry.1 :=
      congrArg List.length same
    have mention : mentionCount userId (unreadRows acks userId entry.1) =
        mentionCountFor acks userId entry.1 :=
      congrArg (mentionCount userId) same
    refine ⟨unread, mention, ?_, same⟩
    intro summary listed sameChannel
    obtain ⟨summaryUnread, summaryMention, -⟩ := counts_of_mem_summarize listed
    rw [summaryUnread, summaryMention, sameChannel]
    exact ⟨unread, mention⟩

/-- A message of user 1 in channel 1 and a reply in its thread, both unread by user 2. -/
def repliedUnread : AckState ChannelId :=
  { messages := ((sendMessage .empty
        { id := ⟨1⟩, channelId := ⟨1⟩, authorId := ⟨1⟩, content := "root", createdAt := 1 }).bind
      fun sent => sendMessage sent
        { id := ⟨2⟩, channelId := ⟨1⟩, authorId := ⟨1⟩, content := "reply", createdAt := 2,
          parentMessageId := some ⟨1⟩ }).toOption.getD .empty }

/-- The undo of a read-all reports two unread messages where the sidebar has one. -/
theorem undo_counts_replies :
    let undone := undoPayloads repliedUnread ⟨2⟩ ⟨1⟩ [(⟨1⟩, none)]
    undone.2.map (·.unreadCount) = [2] ∧ unreadCountFor undone.1 ⟨2⟩ ⟨1⟩ = 1 ∧
      ¬∀ (db : Database) (acks : AckState ChannelId) (userId : UserId) (workspaceId : WorkspaceId)
        (entries : Snapshot), ∀ payload ∈ recountSetBased acks userId workspaceId entries,
          OneFormula db acks userId payload := by
  intro undone
  refine ⟨by decide, by decide, fun always => ?_⟩
  have formula := always (.withoutRoles .empty .empty .empty) undone.1 ⟨2⟩ ⟨1⟩ [(⟨1⟩, none)] _
    (List.mem_singleton_self _)
  have unread := formula.unread
  revert unread
  decide

end Bongtalk.Channels
