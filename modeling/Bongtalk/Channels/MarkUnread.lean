import Bongtalk.Channels.ReadCursor
import Bongtalk.Channels.UnreadCounts
import Bongtalk.Messages.Pages

/-!
# Marking a message unread

The cursor goes back to the live message before the marked one, or to null if there is none. That
message need not be one that counts.
-/

namespace Bongtalk.Channels

open Library Common Prisma Messages

/-- The upsert without a guard, of one channel. -/
def setCursorBackward (acks : AckState ChannelId) (userId : UserId) (channelId : ChannelId)
    (cursor : Option ReadCursor) : AckState ChannelId :=
  { acks with states := restoreCursors acks.states userId [(channelId, cursor)] }

/-- `markUnread`, with the workspace that the route has checked. -/
def markUnread (acks : AckState ChannelId) (workspaceId : WorkspaceId) (args : UnreadArgs) :
    Except Failure (AckState ChannelId × ReadStateUpdatedPayload) := do
  let target ← unreadTarget acks.messages args
  let prev := messageBefore acks.messages target
  let marked := setCursorBackward acks args.userId args.channelId (prev.map cursorAt)
  .ok (marked,
    { channelId := args.channelId
      workspaceId := workspaceId
      lastReadMessageId := prev.map (·.id)
      unreadCount := unreadCountFor marked args.userId args.channelId
      mentionCount := mentionCountFor marked args.userId args.channelId })

/-- The statements of the call, one after the other, are the three tasks of the cursor loop. -/
theorem markUnread_runs (state : CursorState) (workspaceId : WorkspaceId) (args : UnreadArgs) :
    (cursorLoop.runFirst 3 ⟨state, (CursorInput.markUnread args).starts⟩).shared.acks =
      ((markUnread state.acks workspaceId args).map Prod.fst).toOption.getD state.acks := by
  cases found : unreadTarget state.acks.messages args with
  | error failure =>
    simp [markUnread, found, CursorInput.starts, EventLoop.runFirst, cursorLoop, CursorTask.resume,
      bind, Except.bind, Except.map, Except.toOption]
  | ok target =>
    simp [markUnread, found, CursorInput.starts, EventLoop.runFirst, cursorLoop, CursorTask.resume,
      CursorState.setStates, setCursorBackward, bind, Except.bind, Except.map, Except.toOption]

section Exact

variable {messages : MessageTable} {target : Message}

/-- Nothing live lies between a message and the one before it. -/
theorem behind_messageBefore_iff {other : Message} (present : other ∈ messages)
    (inChannel : other.channelId = target.channelId) (live : other.deletedAt = none) :
    placeOf ((messageBefore messages target).map cursorAt) < other.position ↔
      target.position ≤ other.position := by
  have earlier : ∀ message : Message, (message.channelId == target.channelId &&
      message.deletedAt == none && decide (message.position < target.position)) = true ↔
      (message.channelId = target.channelId ∧ message.deletedAt = none) ∧
        message.position < target.position := by
    intro message
    rw [Bool.and_eq_true, Bool.and_eq_true, beq_iff_eq, beq_iff_eq, decide_eq_true_iff]
  cases before : messageBefore messages target with
  | none =>
    have nothing := newest_eq_none_iff.mp before other present
    rw [ne_eq, earlier, not_and] at nothing
    exact iff_of_true (WithBot.bot_lt_coe _) (not_lt.mp (nothing ⟨inChannel, live⟩))
  | some prev =>
    obtain ⟨⟨-, isEarlier⟩, latest⟩ := newest_eq_some_iff.mp before
    have prevBefore := ((earlier prev).mp isEarlier).2
    change ((prev.position : Position) : WithBot Position) < other.position ↔ _
    rw [WithBot.coe_lt_coe]
    constructor
    · intro after
      by_contra notAfter
      have notLater := latest other present
        ((earlier other).mpr ⟨⟨inChannel, live⟩, not_le.mp notAfter⟩)
      exact absurd after (not_lt.mpr notLater)
    · exact prevBefore.trans_le

/-- The live rows of the channel list from a message on. -/
def countableFrom (messages : MessageTable) (target : Message) : List Message :=
  messages.table.findMany fun message =>
    message.channelId == target.channelId && message.deletedAt == none && isChannelRow message &&
      decide (target.position ≤ message.position)

/-- The rows that count are those from the message on, once the cursor is right before it. -/
theorem unreadChannelRows_eq {acks : AckState ChannelId} {userId : UserId}
    (cursor : storedCursor acks.states userId target.channelId =
      (messageBefore acks.messages target).map cursorAt) :
    unreadChannelRows acks userId target.channelId = countableFrom acks.messages target := by
  rw [unreadChannelRows, unreadRows, countableFrom, cursor, Table.findMany, List.filter_filter]
  apply List.filter_congr
  intro message present
  rw [Bool.eq_iff_iff]
  simp only [Bool.and_eq_true, beq_iff_eq, behindCursor_iff, decide_eq_true_iff]
  constructor
  · rintro ⟨shown, ⟨inChannel, live⟩, behind⟩
    exact ⟨⟨⟨inChannel, live⟩, shown⟩, (behind_messageBefore_iff present inChannel live).mp behind⟩
  · rintro ⟨⟨⟨inChannel, live⟩, shown⟩, fromTarget⟩
    exact ⟨shown, ⟨inChannel, live⟩,
      (behind_messageBefore_iff present inChannel live).mpr fromTarget⟩

theorem unreadTarget_eq (present : target ∈ messages) (userId : UserId) :
    unreadTarget messages ⟨userId, target.channelId, target.id⟩ =
      if target.deletedAt = none then .ok target
      else failWith .messageNotFound "messageId does not belong to this channel" := by
  have found : messages.findUnique target.id = some target :=
    Table.findUnique_eq_some_iff.mpr ⟨present, rfl⟩
  unfold unreadTarget
  dsimp only
  rw [found]
  by_cases live : target.deletedAt = none
  · simp [Option.filter_some, live]
  · simp [Option.filter_some, live]

end Exact

/-- After a live message is marked unread, exactly the rows from it on count as unread. A deleted
one is refused. -/
theorem unread_exactly_from_marked {acks : AckState ChannelId} {target : Message}
    (present : target ∈ acks.messages) (workspaceId : WorkspaceId) (userId : UserId) :
    (target.deletedAt = none →
      ∃ marked payload,
        markUnread acks workspaceId ⟨userId, target.channelId, target.id⟩ = .ok (marked, payload) ∧
        marked.messages = acks.messages ∧
        unreadChannelRows marked userId target.channelId = countableFrom acks.messages target ∧
        unreadCountFor marked userId target.channelId =
          (countableFrom acks.messages target).length ∧
        payload.unreadCount = unreadCountFor marked userId target.channelId) ∧
    (target.deletedAt ≠ none →
      markUnread acks workspaceId ⟨userId, target.channelId, target.id⟩ =
        failWith .messageNotFound "messageId does not belong to this channel") := by
  have accepted := unreadTarget_eq present userId
  constructor
  · intro live
    rw [if_pos live] at accepted
    let marked := setCursorBackward acks userId target.channelId
      ((messageBefore acks.messages target).map cursorAt)
    have stored : storedCursor marked.states userId target.channelId =
        (messageBefore acks.messages target).map cursorAt :=
      (storedCursor_upsert _).trans (if_pos rfl)
    have exactly : unreadChannelRows marked userId target.channelId =
        countableFrom acks.messages target :=
      unreadChannelRows_eq stored
    refine ⟨marked, ?payload, ?called, rfl, exactly, congrArg List.length exactly, ?count⟩
    case called =>
      rw [markUnread, accepted]
      rfl
    case count => rfl
  · intro deleted
    rw [markUnread, accepted, if_neg deleted]
    rfl

/-- Of two messages with one time, the second is marked, and it alone is unread. -/
theorem second_twin_unread :
    let second : Message :=
      { id := ⟨2⟩, channelId := ⟨1⟩, authorId := ⟨1⟩, content := "two", createdAt := 5 }
    countableFrom twins.messages second = [second] ∧
      ∃ marked payload, markUnread twins ⟨1⟩ ⟨⟨2⟩, ⟨1⟩, ⟨2⟩⟩ = .ok (marked, payload) ∧
        unreadChannelRows marked ⟨2⟩ ⟨1⟩ = [second] := by
  intro second
  have present : second ∈ twins.messages.table.rows := by decide +kernel
  have only : countableFrom twins.messages second = [second] := by decide +kernel
  obtain ⟨marked, payload, called, -, exactly, -⟩ :=
    (unread_exactly_from_marked present ⟨1⟩ ⟨2⟩).1 rfl
  exact ⟨only, marked, payload, called, exactly.trans only⟩

end Bongtalk.Channels
