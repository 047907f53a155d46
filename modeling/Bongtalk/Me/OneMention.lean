import Bongtalk.Channels.UnreadCounts
import Bongtalk.Me.InboxAccess

/-!
# What a mention is

The badges ask the column `mentions` for the user and for three scopes. The inbox asks it for the
user and for one scope, and looks for a record.
-/

namespace Bongtalk.Me

open Library Channels Messages Prisma

/-- The predicate of the badges on the stored column. -/
def MentionsColumn.mentionMatchSql (column : MentionsColumn) (userId : UserId) : Bool :=
  column.containsUser userId || isTrue column.everyone || isTrue column.here ||
    isTrue column.channel

/-- What a column lacks is false for the containment and for the flag alike. -/
theorem MentionsColumn.Reads.mentionMatchSql {column : MentionsColumn} {mentions : Mentions}
    (reads : column.Reads mentions) (userId : UserId) :
    column.mentionMatchSql userId = Channels.mentionMatchSql mentions userId := by
  rw [MentionsColumn.mentionMatchSql, reads.containsUser, isTrue_eq, isTrue_eq, isTrue_eq,
    Channels.mentionMatchSql, reads.everyone, reads.here, reads.channel]

/-- The queries of the inbox that find mentions. -/
inductive MentionQuery where
  | recent
  | unreadCount
  | page
  | unreadCounts
deriving DecidableEq, Repr

section Queries

variable (state : InboxState) (userId : UserId) (message : Message)

/-- The message counts as a mention of the user. -/
def CountsAsMention : MentionQuery → Prop
  | .recent => MayReturn state userId message .recent
  | .unreadCount => message ∈ state.unreadMentionMessages userId
  | .page => MayReturn state userId message (.activity .mention)
  | .unreadCounts => message ∈ state.countedMentions userId ∧
      state.isUnread userId (activityKey .mention message.id.value) = true

/-- What a query asks of a message beside that it mentions the user. -/
def IsCandidate (query : MentionQuery) : Prop :=
  (message.deletedAt = none ∧ message.authorId ≠ userId ∧
      state.ShowsChannel userId message.channelId) ∧
    match query with
    | .recent | .page => True
    | .unreadCount => state.isUnvisited userId message = true
    | .unreadCounts => state.isUnread userId (activityKey .mention message.id.value) = true

/-- A mention that only a record tells of. -/
def IsRecordOnly : Prop :=
  state.hasRecord userId message = true ∧
    (state.mentionsColumn message).mentionMatchSql userId = false

/-- Mentions of records apart, a query counts the mentions of the badges. -/
def AgreesWithBadges (query : MentionQuery) : Prop :=
  IsCandidate state userId message query → ¬IsRecordOnly state userId message →
    (CountsAsMention state userId message query ↔
      (state.mentionsColumn message).mentionMatchSql userId = true)

end Queries

variable {state : InboxState} {userId : UserId} {message : Message}

/-- A query counts the candidates that the predicate of the inbox holds of. -/
theorem countsAsMention_iff (present : message ∈ state.messages) {query : MentionQuery}
    (candidate : IsCandidate state userId message query) :
    CountsAsMention state userId message query ↔ state.isMention userId message = true := by
  obtain ⟨⟨undeleted, notAuthor, visible⟩, unread⟩ := candidate
  have mentioned : state.isLiveMention userId message = true ↔
      state.isMention userId message = true := by
    rw [InboxState.isLiveMention_iff]
    exact ⟨fun live => live.2.2, fun mention => ⟨undeleted, notAuthor, mention⟩⟩
  rw [← mentioned]
  cases query with
  | recent =>
    rw [CountsAsMention, mayReturn_recent]
    exact ⟨fun found => found.2.1, fun mention => ⟨present, mention, visible⟩⟩
  | page =>
    rw [CountsAsMention, mayReturn_mention present]
    exact ⟨And.left, fun mention => ⟨mention, visible⟩⟩
  | unreadCount =>
    rw [CountsAsMention, InboxState.mem_unreadMentionMessages]
    exact ⟨fun found => found.2.1, fun mention => ⟨present, mention, unread, visible⟩⟩
  | unreadCounts =>
    rw [CountsAsMention, InboxState.mem_countedMentions]
    exact ⟨fun found => found.1.2.1, fun mention => ⟨⟨present, mention, visible⟩, unread⟩⟩

/-- The inbox agrees with the badges on a candidate unless the message is for those who are here, or
for the channel, and nothing else mentions the user. -/
theorem one_mention_iff (state : InboxState) (userId : UserId) (message : Message)
    (present : message ∈ state.messages) (query : MentionQuery) :
    AgreesWithBadges state userId message query ↔
      (IsCandidate state userId message query →
        (message.mentions.here = true ∨ message.mentions.channel = true) →
          userId ∈ message.mentions.users ∨ message.mentions.everyone = true ∨
            state.hasRecord userId message = true) := by
  refine forall_congr' fun candidate => ?_
  have reads := state.columnReads message present
  rw [countsAsMention_iff present candidate, IsRecordOnly, reads.mentionMatchSql,
    InboxState.isMention, reads.containsUser, MentionsColumn.isTrue_eq, ← reads.everyone,
    mentionMatchSql]
  simp only [Bool.or_eq_true, Bool.or_eq_false_iff, List.contains_eq_mem, decide_eq_true_eq,
    decide_eq_false_iff_not]
  cases message.mentions.everyone <;> cases message.mentions.here <;>
    cases message.mentions.channel <;> cases state.hasRecord userId message <;> simp

/-- User 1 calls those who are here, and maybe everyone. -/
def scopeMention (everyone : Bool) : Message :=
  { id := ⟨3⟩, channelId := ⟨1⟩, authorId := ⟨1⟩, content := "@here", createdAt := 1
    mentions := { here := true, everyone := everyone } }

def scopeExample (everyone : Bool) : InboxState :=
  .ofMessages
    (.withoutRoles (.single ⟨⟨1⟩, ⟨2⟩, .member⟩)
      (.single { id := ⟨1⟩, workspaceId := some ⟨1⟩, name := "hall", position := 0, createdAt := 0 })
      .empty)
    .empty (.single (scopeMention everyone) rfl)

theorem everyone_agrees :
    AgreesWithBadges (scopeExample true) ⟨2⟩ (scopeMention true) .unreadCounts :=
  (one_mention_iff _ _ _ (Table.mem_single.mpr rfl) _).mpr fun _ _ => .inr (.inl rfl)

/-- The badges count a call of those who are here, and no query of the inbox does. -/
theorem here_not_in_inbox :
    (∀ query, IsCandidate (scopeExample false) ⟨2⟩ (scopeMention false) query ∧
        ¬CountsAsMention (scopeExample false) ⟨2⟩ (scopeMention false) query) ∧
      mentionMatchSql (scopeMention false).mentions ⟨2⟩ = true ∧
      ¬∀ (state : InboxState) (userId : UserId), ∀ message ∈ state.messages, ∀ query,
        AgreesWithBadges state userId message query := by
  have present : scopeMention false ∈ (scopeExample false).messages := Table.mem_single.mpr rfl
  have candidate : ∀ query, IsCandidate (scopeExample false) ⟨2⟩ (scopeMention false) query := by
    intro query
    refine ⟨⟨rfl, by decide, by decide⟩, ?_⟩
    cases query with
    | recent | page => trivial
    | unreadCount | unreadCounts => decide
  have uncounted : ∀ query,
      ¬CountsAsMention (scopeExample false) ⟨2⟩ (scopeMention false) query := by
    intro query
    rw [countsAsMention_iff present (candidate query)]
    decide
  refine ⟨fun query => ⟨candidate query, uncounted query⟩, by decide, fun always => ?_⟩
  have counted := (always _ ⟨2⟩ _ present .recent (candidate .recent) (by
    rintro ⟨recorded, -⟩
    revert recorded
    decide)).mpr (by decide)
  exact uncounted .recent counted

end Bongtalk.Me
