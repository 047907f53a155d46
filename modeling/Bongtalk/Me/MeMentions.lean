import Bongtalk.Me.Inbox

/-!
# Mentions of a user

The recent mentions, and how many of them are newer than the last visit of their channel.
-/

namespace Bongtalk.Me

open Library Messages Prisma

structure MentionSummary where
  messageId : MessageId
  channelId : ChannelId
  workspaceId : WorkspaceId
  authorId : UserId
  snippet : String
  createdAt : List Char
  everyone : Bool
  here : Bool
  keyword : Bool
deriving DecidableEq, Repr

namespace InboxState

variable (state : InboxState) (userId : UserId)

/-- The rows of `recent` without its limit. Rows of one time come in the order of the table. -/
def recentRows : List (Message × Access) :=
  ((state.messages.table.rows.filterMap fun message =>
      ((state.access userId message.channelId).filter fun access =>
        state.isLiveMention userId message && access.isVisible).map fun access =>
          (message, access))).mergeSort
    fun first second => second.1.createdAt ≤ first.1.createdAt

def toMentionSummary (row : Message × Access) : MentionSummary where
  messageId := row.1.id
  channelId := row.1.channelId
  workspaceId := row.2.member.workspaceId
  authorId := row.1.authorId
  snippet := snippetOf row.1.contentPlain
  createdAt := toISOString row.1.createdAt
  everyone := (state.mentionsColumn row.1).everyone == some true
  here := (state.mentionsColumn row.1).here.getD false
  keyword := state.hasKeywordRecord userId row.1

def recent (limit : Int := 20) : List MentionSummary :=
  let capped := (max 1 (min 50 limit)).toNat
  ((state.recentRows userId).take capped).map (state.toMentionSummary userId)

/-- `lastReadAt IS NULL OR createdAt > lastReadAt` -/
def isUnvisited (message : Message) : Bool :=
  (state.lastReads.findUnique (userId, message.channelId)).all fun read =>
    read.lastReadAt < message.createdAt

/-- The messages that `unreadCount` counts. -/
def unreadMentionMessages : List Message :=
  state.messages.table.findMany fun message =>
    state.isLiveMention userId message && state.isUnvisited userId message &&
      (state.access userId message.channelId).any Access.isVisible

def unreadCount : Nat :=
  (state.unreadMentionMessages userId).length

variable {state userId}

theorem mem_recentRows {message : Message} {access : Access} :
    (message, access) ∈ state.recentRows userId ↔
      message ∈ state.messages ∧ state.isLiveMention userId message = true ∧
        state.access userId message.channelId = some access ∧ access.isVisible = true := by
  simp only [recentRows, List.mem_mergeSort, List.mem_filterMap, Option.map_eq_some_iff,
    Option.filter_eq_some_iff, Bool.and_eq_true, Prod.mk.injEq]
  constructor
  · rintro ⟨_, present, _, ⟨joined, mentioned, visible⟩, rfl, rfl⟩
    exact ⟨present, mentioned, joined, visible⟩
  · rintro ⟨present, mentioned, joined, visible⟩
    exact ⟨message, present, access, ⟨joined, mentioned, visible⟩, rfl, rfl⟩

theorem mem_unreadMentionMessages {message : Message} :
    message ∈ state.unreadMentionMessages userId ↔
      message ∈ state.messages ∧ state.isLiveMention userId message = true ∧
        state.isUnvisited userId message = true ∧ state.ShowsChannel userId message.channelId := by
  simp only [unreadMentionMessages, Table.mem_findMany, Bool.and_eq_true, and_assoc]
  rfl

end InboxState

end Bongtalk.Me
