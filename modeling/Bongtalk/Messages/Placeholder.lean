import Bongtalk.Messages.List
import Bongtalk.Messages.Thread

/-!
# Placeholders of deleted roots

A deleted root keeps the counter it was deleted with, since the counter of a deleted row
no longer moves. The list decides by this counter whether to show the root.
-/

namespace Bongtalk.Messages

open Library Common Prisma Message MessageTable

variable {timestamp : List Char → Option Int} {messages next : MessageTable}

/-- Some page of its channel that does not ask for deleted rows has the row. -/
def Listed (timestamp : List Char → Option Int) (messages : MessageTable) (row : Message) : Prop :=
  ∃ args rows, args.channelId = row.channelId ∧ args.includeDeleted = false ∧
    rawList timestamp messages args = .ok rows ∧ row ∈ rows

/-- A deleted root is listed exactly while it has a live reply. -/
def PlaceholderLaw (timestamp : List Char → Option Int) (messages : MessageTable) : Prop :=
  ∀ root ∈ messages, root.parentMessageId = none → root.deletedAt ≠ none →
    (Listed timestamp messages root ↔ 0 < liveReplies messages root.id)

/-- A deleted root is listed when its counter is positive. -/
theorem listed_iff {root : Message} (present : root ∈ messages)
    (isRoot : root.parentMessageId = none) (deleted : root.deletedAt ≠ none) :
    Listed timestamp messages root ↔ 0 < root.replyCount := by
  constructor
  · rintro ⟨args, rows, -, liveOnly, listed, inRows⟩
    have shows := (mem_of_rawList listed inRows).2
    simp only [RawListArgs.shows, liveOnly, Bool.and_eq_true, Bool.or_eq_true, beq_iff_eq,
      decide_eq_true_eq, Bool.false_eq_true, deleted, false_or] at shows
    exact shows.1.2
  · intro positive
    let args : RawListArgs :=
      { channelId := root.channelId, limit := messages.table.rows.length }
    let shown := messages.table.findMany fun message => args.shows message && true
    have selected : root ∈ shown := by
      refine Table.mem_findMany.mpr ⟨present, ?_⟩
      simp [RawListArgs.shows, args, isRoot, positive]
    have fits : (newestFirst shown).length ≤ args.limit := by
      rw [newestFirst, List.length_insertionSort]
      exact List.length_filter_le _ _
    refine ⟨args, (newestFirst shown).take args.limit, rfl, rfl, rfl, ?_⟩
    rw [List.take_of_length_le fits]
    change root ∈ orderBy .before shown
    exact mem_orderBy.mpr selected

/-- A deleted root has a positive counter exactly while it has a live reply. -/
def PlaceholdersCount (messages : MessageTable) : Prop :=
  ∀ root ∈ messages, root.parentMessageId = none → root.deletedAt ≠ none →
    (0 < root.replyCount ↔ 0 < liveReplies messages root.id)

theorem placeholderLaw_iff :
    PlaceholderLaw timestamp messages ↔ PlaceholdersCount messages := by
  refine forall₂_congr fun root present => forall₂_congr fun isRoot deleted => ?_
  rw [listed_iff present isRoot deleted]

/-- The call does not delete the last live reply of a root that is deleted already. -/
def SparesLastReply (messages : MessageTable) : ThreadCall → Prop
  | .softDelete channelId msgId _ => ∀ reply ∈ messages, reply.id = msgId →
      reply.channelId = channelId → reply.deletedAt = none → ∀ root ∈ messages,
      reply.isReplyOf root.id = true → root.parentMessageId = none → root.deletedAt ≠ none →
      liveReplies messages root.id ≠ 1
  | _ => True

/-- An update that deletes nothing and leaves the counters of deleted rows alone. -/
theorem placeholdersCount_rewrite {change : Message → Message}
    {keeps : ∀ message, (change message).identity = message.identity}
    (keepsDeleted : ∀ message, (change message).deletedAt = message.deletedAt)
    (keepsCounter : ∀ message, message.deletedAt ≠ none →
      (change message).replyCount = message.replyCount) :
    PlaceholdersCount (messages.rewrite change keeps) ↔ PlaceholdersCount messages := by
  have sameRow : ∀ old : Message, (change old).id = old.id ∧
      (change old).parentMessageId = old.parentMessageId := by
    intro old
    have kept := keeps old
    simp only [identity, Prod.mk.injEq] at kept
    exact ⟨kept.1, kept.2.2.2.1⟩
  constructor
  · intro counts root present isRoot deleted
    have changed := counts (change root) (mem_rewrite.mpr ⟨root, present, rfl⟩)
      ((sameRow root).2.trans isRoot) (by rwa [keepsDeleted])
    rwa [keepsCounter root deleted, liveReplies_rewrite keeps keepsDeleted, (sameRow root).1]
      at changed
  · intro counts row rowMem isRoot deleted
    obtain ⟨root, present, rfl⟩ := mem_rewrite.mp rowMem
    rw [keepsDeleted] at deleted
    rw [(sameRow root).2] at isRoot
    rw [keepsCounter root deleted, liveReplies_rewrite keeps keepsDeleted, (sameRow root).1]
    exact counts root present isRoot deleted

theorem placeholdersCount_updateOne {id : MessageId} {change : Message → Message}
    {keeps : ∀ message, (change message).identity = message.identity}
    (keepsDeleted : ∀ message, (change message).deletedAt = message.deletedAt)
    (keepsCounter : ∀ message, message.deletedAt ≠ none →
      (change message).replyCount = message.replyCount) :
    PlaceholdersCount (messages.updateOne id change keeps) ↔ PlaceholdersCount messages := by
  apply placeholdersCount_rewrite
  · intro message
    split
    · exact keepsDeleted message
    · rfl
  · intro message deleted
    split
    · exact keepsCounter message deleted
    · rfl

/-- A new live row is no reply of a deleted root. -/
theorem placeholdersCount_create {row : Message} (created : messages.create row = .ok next)
    (live : row.deletedAt = none)
    (liveParent : ∀ root ∈ messages, row.isReplyOf root.id = true → root.deletedAt = none)
    (counts : PlaceholdersCount messages) : PlaceholdersCount next := by
  intro root rootMem isRoot deleted
  rcases (mem_create created).mp rootMem with rfl | present
  · exact absurd live deleted
  have uncounted : row.isReplyOf root.id = false := by
    by_contra isReply
    exact deleted (liveParent root present (by simpa using isReply))
  rw [liveReplies_create created, uncounted]
  exact counts root present isRoot deleted

/-- Deleting a live message breaks the count where it was the last live reply of a deleted
root, and nowhere else: a live root is deleted with the right counter. -/
theorem placeholdersCount_markDeleted {target : Message} (present : target ∈ messages)
    (live : target.deletedAt = none) (deletedAt : DateTime)
    (keeps : ∀ message, (markDeleted message deletedAt).identity = message.identity)
    (counts : CountsReplies messages) (placeholders : PlaceholdersCount messages) :
    PlaceholdersCount (messages.updateOne target.id (markDeleted · deletedAt) keeps) ↔
      ∀ root ∈ messages, target.isReplyOf root.id = true → root.parentMessageId = none →
        root.deletedAt ≠ none → liveReplies messages root.id ≠ 1 := by
  have counted : ∀ rootId, liveReplies
      (messages.updateOne target.id (markDeleted · deletedAt) keeps) rootId +
        (if target.isReplyOf rootId then 1 else 0) = liveReplies messages rootId := by
    intro rootId
    simpa [live] using liveReplies_updateOne present (markDeleted · deletedAt) keeps rootId
  constructor
  · intro after root rootMem isReply isRoot deleted last
    have other : root.id ≠ target.id := by
      intro same
      obtain rfl := Table.eq_of_key_eq rootMem present same
      exact deleted live
    have kept : root ∈ messages.updateOne target.id (markDeleted · deletedAt) keeps :=
      mem_rewrite.mpr ⟨root, rootMem, if_neg other⟩
    have before := placeholders root rootMem isRoot deleted
    have empty := after root kept isRoot deleted
    have dropped := counted root.id
    rw [if_pos isReply] at dropped
    omega
  · intro spares row rowMem isRoot deleted
    obtain ⟨root, rootMem, rfl⟩ := mem_rewrite.mp rowMem
    by_cases same : root.id = target.id
    · obtain rfl := Table.eq_of_key_eq rootMem present same
      simp only [if_true] at isRoot ⊢
      change root.parentMessageId = none at isRoot
      change 0 < root.replyCount ↔ 0 < liveReplies _ root.id
      have uncounted : root.isReplyOf root.id = false := by simp [isReplyOf, isRoot]
      have counter := counts root rootMem live isRoot
      have unchanged := counted root.id
      simp only [uncounted, Bool.false_eq_true, if_false] at unchanged
      omega
    · simp only [if_neg same] at isRoot deleted ⊢
      have before := placeholders root rootMem isRoot deleted
      have dropped := counted root.id
      by_cases isReply : target.isReplyOf root.id = true
      · have many := spares root rootMem isReply isRoot deleted
        rw [if_pos isReply] at dropped
        omega
      · rw [if_neg isReply] at dropped
        omega

theorem placeholdersCount_addReply (id : MessageId) (createdAt : DateTime) :
    PlaceholdersCount (messages.updateOne id (addReply · createdAt)
      (identity_addReply createdAt)) ↔ PlaceholdersCount messages :=
  placeholdersCount_updateOne (deletedAt_addReply createdAt) fun message deleted => by
    simp [addReply, deleted]

theorem placeholdersCount_dropReply {id : MessageId} :
    PlaceholdersCount (messages.updateOne id dropReply identity_dropReply) ↔
      PlaceholdersCount messages :=
  placeholdersCount_updateOne deletedAt_dropReply fun message deleted => by
    simp [dropReply, deleted]

/-- Replies are sent to live roots only. -/
theorem placeholdersCount_sendMessage {row : SendRow} (placeholders : PlaceholdersCount messages)
    (sent : sendMessage messages row = .ok next) : PlaceholdersCount next := by
  simp only [sendMessage, sendTransaction, bind_eq_ok] at sent
  obtain ⟨⟨⟩, validated, ⟨⟩, -, created, createdEq, sent⟩ := sent
  have liveParent : ∀ root ∈ messages, row.message.isReplyOf root.id = true →
      root.deletedAt = none := by
    intro root present isReply
    simp only [isReplyOf, SendRow.message, Bool.and_eq_true, beq_iff_eq] at isReply
    obtain ⟨parent, parentMem, same, -, live, -⟩ :=
      validateParent_eq_ok_iff.mp validated root.id isReply.1
    rwa [Table.eq_of_key_eq present parentMem same.symm]
  have afterCreate := placeholdersCount_create createdEq rfl liveParent placeholders
  split at sent
  next =>
    cases sent
    exact afterCreate
  next parentId _ =>
    have afterCount := (placeholdersCount_addReply parentId row.createdAt).mpr afterCreate
    split at sent
    next =>
      cases sent
      exact afterCount
    next broadcastId _ =>
      refine placeholdersCount_create sent rfl ?_ afterCount
      intro root _ isReply
      simp [isReplyOf, SendRow.broadcast] at isReply

/-- A delete keeps the law exactly when it spares the last replies of deleted roots. -/
theorem placeholdersCount_softDelete {channelId : ChannelId} {msgId : MessageId}
    {deletedAt : DateTime} (counts : CountsReplies messages)
    (placeholders : PlaceholdersCount messages) :
    PlaceholdersCount (softDelete messages channelId msgId deletedAt) ↔
      SparesLastReply messages (.softDelete channelId msgId deletedAt) := by
  unfold softDelete
  split
  next missing =>
    apply iff_of_true placeholders
    intro reply present idEq inChannel live
    have found := findUnique_eq_some_iff.mpr ⟨present, idEq⟩
    simp [found, inChannel, live] at missing
  next target found =>
    obtain ⟨foundTarget, isTarget⟩ := Option.filter_eq_some_iff.mp found
    obtain ⟨present, rfl⟩ := findUnique_eq_some_iff.mp foundTarget
    simp only [Bool.and_eq_true, beq_iff_eq] at isTarget
    have spares : SparesLastReply messages (.softDelete channelId target.id deletedAt) ↔
        ∀ root ∈ messages, target.isReplyOf root.id = true → root.parentMessageId = none →
          root.deletedAt ≠ none → liveReplies messages root.id ≠ 1 := by
      constructor
      · intro all
        exact all target present rfl isTarget.1 isTarget.2
      · intro ofTarget reply replyMem same _ _
        obtain rfl := Table.eq_of_key_eq replyMem present same
        exact ofTarget
    have marked := placeholdersCount_markDeleted present isTarget.2 deletedAt (fun _ => rfl) counts
      placeholders
    rw [spares, ← marked]
    split
    next => rfl
    next =>
      split
      next => rfl
      next => exact placeholdersCount_dropReply

theorem placeholdersCount_update {channelId : ChannelId} {msgId : MessageId}
    {expectedVersion : Nat} {content contentPlain : String} {mentions : Mentions}
    {editedAt : DateTime} (placeholders : PlaceholdersCount messages)
    (updated : update messages channelId msgId expectedVersion content contentPlain mentions
      editedAt = .ok next) : PlaceholdersCount next := by
  unfold update at updated
  split at updated
  · cases updated
  split at updated
  · cases updated
  split at updated
  · cases updated
  cases updated
  apply (placeholdersCount_updateOne ?_ ?_).mpr placeholders
  · exact fun _ => rfl
  · exact fun _ _ => rfl

/-- The recount counts the replies of deleted roots too. -/
theorem placeholdersCount_reconcile (placeholders : PlaceholdersCount messages) :
    PlaceholdersCount (reconcile messages).1 := by
  intro row rowMem isRoot deleted
  obtain ⟨root, present, rfl⟩ := mem_reconcile.mp rowMem
  have kept := identity_recount messages root
  simp only [identity, Prod.mk.injEq] at kept
  rw [deletedAt_recount] at deleted
  rw [kept.2.2.2.1] at isRoot
  rw [liveReplies_reconcile, id_recount, replyCount_recount]
  split
  · omega
  · exact placeholders root present isRoot deleted

/-- Of all calls, only the delete of a last reply can break the law. -/
theorem placeholdersCount_step {call : ThreadCall} (step : ThreadStep messages call next)
    (counts : CountsReplies messages) (placeholders : PlaceholdersCount messages) :
    PlaceholdersCount next ↔ SparesLastReply messages call := by
  obtain rfl : next = call.after messages := step
  cases call with
  | send row =>
    refine iff_of_true ?_ trivial
    cases sent : sendMessage messages row with
    | error _ => simpa [ThreadCall.after, sent, Except.toOption] using placeholders
    | ok next =>
      simpa [ThreadCall.after, sent, Except.toOption] using
        placeholdersCount_sendMessage placeholders sent
  | softDelete channelId msgId deletedAt => exact placeholdersCount_softDelete counts placeholders
  | update channelId msgId expectedVersion content contentPlain mentions editedAt =>
    refine iff_of_true ?_ trivial
    cases updated : update messages channelId msgId expectedVersion content contentPlain mentions
        editedAt with
    | error _ => simpa [ThreadCall.after, updated, Except.toOption] using placeholders
    | ok next =>
      simpa [ThreadCall.after, updated, Except.toOption] using
        placeholdersCount_update placeholders updated
  | reconcile => exact iff_of_true (placeholdersCount_reconcile placeholders) trivial

/-- A run stays within the law exactly when none of its deletes takes the last live reply of a
root that is deleted already. -/
theorem placeholders_kept_iff (timestamp : List Char → Option Int) (calls : List ThreadCall)
    (finish : MessageTable) :
    Steps (Lawful ThreadStep (PlaceholderLaw timestamp)) .empty calls finish ↔
      Steps (Guarded ThreadStep SparesLastReply) .empty calls finish := by
  refine Steps.lawful_iff_guarded CountsReplies ?_ ?_ ?_ ?_
  · exact countsReplies_of_step
  · intro messages call next step counts law
    rw [placeholderLaw_iff] at law ⊢
    exact placeholdersCount_step step counts law
  · exact fun root present => nomatch present
  · exact fun root present => nomatch present

/-- A root with one reply; the root is deleted, then the reply. -/
def emptiedThread : List ThreadCall :=
  [.send { id := ⟨1⟩, channelId := ⟨1⟩, authorId := ⟨1⟩, content := "root", createdAt := 1 },
    .send { id := ⟨2⟩, channelId := ⟨1⟩, authorId := ⟨2⟩, content := "reply", createdAt := 2,
            parentMessageId := some ⟨1⟩ },
    .softDelete ⟨1⟩ ⟨1⟩ 3,
    .softDelete ⟨1⟩ ⟨2⟩ 4]

/-- The placeholder of the emptied thread stays. -/
theorem placeholder_of_emptiedThread :
    Steps ThreadStep MessageTable.empty emptiedThread
        (emptiedThread.foldl ThreadCall.after MessageTable.empty) ∧
      ¬PlaceholderLaw (fun _ => none) (emptiedThread.foldl ThreadCall.after MessageTable.empty) := by
  have taken : ∀ messages (call : ThreadCall), ThreadStep messages call (call.after messages) :=
    fun _ _ => rfl
  refine ⟨Steps.of_foldl taken MessageTable.empty emptiedThread, ?_⟩
  rw [placeholderLaw_iff]
  intro counts
  have found : ∃ root ∈ (emptiedThread.foldl ThreadCall.after MessageTable.empty).table.rows,
      root.parentMessageId = none ∧ root.deletedAt ≠ none ∧ 0 < root.replyCount ∧
        liveReplies (emptiedThread.foldl ThreadCall.after MessageTable.empty) root.id = 0 := by
    decide
  obtain ⟨root, present, isRoot, deleted, positive, none⟩ := found
  have live := (counts root present isRoot deleted).mp positive
  omega

end Bongtalk.Messages
