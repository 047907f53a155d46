import Bongtalk.Library.Ranking
import Bongtalk.Messages.Dto
import Bongtalk.Messages.Thread

/-!
# Avatars of a thread

The bar below a root shows who replied last. A listing carries the users in a summary of the
thread, and each reply sends them again in an event.
-/

namespace Bongtalk.Messages

open Library Prisma

/-- `THREAD_REPLY_PARTICIPANT_CAP`. -/
def threadReplyParticipantCap : Nat := 5

/-- `THREAD_REPLY_RECIPIENT_CAP`. -/
def threadReplyRecipientCap : Nat := 20

/-- The order in which a statement reads its rows; what it sorts stays in that order where the sort
keys are equal. -/
structure Scan where
  read : List Message → List Message
  perm : ∀ rows, (read rows).Perm rows

/-- The live replies of a root, as a statement reads them. -/
def Scan.replies (scan : Scan) (messages : MessageTable) (rootId : MessageId) : List Message :=
  scan.read (messages.table.rows.filter fun message =>
    message.isReplyOf rootId && message.deletedAt == none)

/-- `ORDER BY "createdAt" DESC LIMIT 200`. -/
def latestReplies (replies : List Message) : List Message :=
  page (fun reply => OrderDual.toDual reply.createdAt) 200 replies

/-- `SELECT DISTINCT ON ("authorId") … ORDER BY "authorId", "createdAt" DESC`. -/
def distinctAuthors (rows : List Message) : List UserId :=
  ((sortBy (fun row => toLex (row.authorId.value, OrderDual.toDual row.createdAt)) rows).map
    (·.authorId)).dedup

/-- The part of the payload `thread.replied` that is about the thread. -/
structure MessageThreadRepliedPayload where
  rootMessageId : MessageId
  replierId : UserId
  replyCount : Int
  lastRepliedAt : DateTime
  recentReplyUserIds : List UserId
  recipients : List UserId

/-- The closure `push`. -/
def pushRecipient (replierId : UserId) (excludeRecipients candidate : List UserId)
    (userId : UserId) : List UserId :=
  if userId = replierId ∨ userId ∈ excludeRecipients ∨ userId ∈ candidate then candidate
  else candidate ++ [userId]

/-- `buildThreadReplyPayload`; `muted` are the users in quiet hours and those whose subscription of
the thread is not for all replies. -/
def buildThreadReplyPayload (scan : Scan) (muted : UserId → Bool) (messages : MessageTable)
    (rootId : MessageId) (replierId : UserId) (replyCreatedAt : DateTime)
    (excludeRecipients : List UserId) : Option MessageThreadRepliedPayload :=
  ((messages.findUnique rootId).filter fun root => root.deletedAt == none).map fun root =>
    let recent := distinctAuthors (latestReplies (scan.replies messages rootId))
    let push := pushRecipient replierId excludeRecipients
    let candidate := recent.foldl (fun candidate authorId =>
      if threadReplyRecipientCap ≤ candidate.length then candidate else push candidate authorId)
      (push [] root.authorId)
    { rootMessageId := rootId
      replierId := replierId
      replyCount := root.replyCount
      lastRepliedAt := root.latestReplyAt.getD replyCreatedAt
      recentReplyUserIds := recent.take threadReplyParticipantCap
      recipients := candidate.filter (!muted ·) }

/-- `MAX("createdAt")` of the group of an author. -/
def lastReplyAt (replies : List Message) (authorId : UserId) : DateTime :=
  ((replies.filter (·.authorId == authorId)).map (·.createdAt)).foldr max 0

/-- `GROUP BY "authorId"`. -/
def repliers (replies : List Message) : List UserId :=
  (replies.map (·.authorId)).dedup

/-- The place of an author among the repliers, of whom the last one comes first. Authors whose last
replies are of the same time come as they were read. -/
def recency (replies : List Message) (authorId : UserId) : DateTimeᵒᵈ ×ₗ Nat :=
  toLex (OrderDual.toDual (lastReplyAt replies authorId), (replies.map (·.authorId)).idxOf authorId)

/-- The row of a root; `hasUnread` is the column about the viewer. -/
def threadSummary (scan : Scan) (hasUnread : Bool) (messages : MessageTable) (root : Message) :
    ThreadSummary :=
  let replies := scan.replies messages root.id
  let top := page (recency replies) threadReplyParticipantCap (repliers replies)
  { replyCount := root.replyCount.toNat
    lastRepliedAt := root.latestReplyAt
    recentReplyUserIds := sortBy (recency replies) top
    hasUnread := hasUnread }

/-- `aggregateThreadSummaries`. -/
def aggregateThreadSummaries (scan : Scan) (hasUnread : MessageId → Bool) (messages : MessageTable)
    (rootIds : List MessageId) (rootId : MessageId) : Option ThreadSummary :=
  ((messages.findUnique rootId).filter fun root =>
    rootIds.contains root.id && decide (0 < root.replyCount)).map fun root =>
      threadSummary scan (hasUnread root.id) messages root

section Agreement

variable {replies : List Message} {authorId : UserId}

theorem mem_distinctAuthors :
    authorId ∈ distinctAuthors replies ↔ ∃ reply ∈ replies, reply.authorId = authorId := by
  simp only [distinctAuthors, List.mem_dedup, List.mem_map, mem_sortBy]

theorem mem_repliers :
    authorId ∈ repliers replies ↔ ∃ reply ∈ replies, reply.authorId = authorId := by
  simp only [repliers, List.mem_dedup, List.mem_map]

theorem mem_of_mem_latestReplies {reply : Message} (latest : reply ∈ latestReplies replies) :
    reply ∈ replies :=
  mem_sortBy.mp (List.mem_of_mem_take latest)

/-- `DISTINCT ON` leaves the authors in the order of their ids. -/
theorem pairwise_distinctAuthors (rows : List Message) :
    (distinctAuthors rows).Pairwise fun first second => first.value < second.value := by
  have sorted := pairwise_sortBy
    (fun row : Message => toLex (row.authorId.value, OrderDual.toDual row.createdAt)) rows
  have authors : ((sortBy (fun row : Message => toLex (row.authorId.value,
      OrderDual.toDual row.createdAt)) rows).map (·.authorId)).Pairwise
        fun first second => first.value ≤ second.value :=
    List.pairwise_map.mpr (sorted.imp fun below => (Prod.Lex.le_iff'.mp below).1)
  apply ((authors.sublist (List.dedup_sublist _)).and (List.nodup_dedup _)).imp
  rintro ⟨first⟩ ⟨second⟩ ⟨below, apart⟩
  exact lt_of_le_of_ne below fun same => apart (congrArg UserId.mk same)

theorem recency_injOn {other : UserId} (otherMem : other ∈ repliers replies)
    (same : recency replies other = recency replies authorId) : other = authorId := by
  have places := congrArg (fun place => (ofLex place).2) same
  exact (List.idxOf_inj (List.mem_dedup.mp otherMem)).mp places

theorem pairwise_repliers (replies : List Message) :
    (sortBy (recency replies) (repliers replies)).Pairwise fun first second =>
      recency replies first < recency replies second := by
  have nodup : (sortBy (recency replies) (repliers replies)).Nodup :=
    (List.perm_insertionSort _ _).nodup_iff.mpr (List.nodup_dedup _)
  refine List.Pairwise.imp_of_mem ?_ ((pairwise_sortBy _ _).and nodup)
  intro first second firstMem secondMem ⟨below, apart⟩
  exact lt_of_le_of_ne below fun same => apart (recency_injOn (mem_sortBy.mp firstMem) same)

/-- The array is in the order of the subquery. -/
theorem recentReplyUserIds_threadSummary (scan : Scan) (hasUnread : Bool) (messages : MessageTable)
    (root : Message) : (threadSummary scan hasUnread messages root).recentReplyUserIds =
      (sortBy (recency (scan.replies messages root.id))
        (repliers (scan.replies messages root.id))).take threadReplyParticipantCap :=
  List.Pairwise.insertionSort_eq ((pairwise_sortBy _ _).sublist (List.take_sublist _ _))

/-- Each of the five who replied last has written one of the newest replies, and has a lower id than
the other authors of these who replied last before. -/
def RecentInIdOrder (latest replies : List Message) : Prop :=
  ∀ authorId ∈ repliers replies,
    (repliers replies).countP (fun other =>
        decide (recency replies other < recency replies authorId)) < threadReplyParticipantCap →
      authorId ∈ repliers latest ∧ ∀ other ∈ repliers latest,
        recency replies authorId < recency replies other → authorId.value < other.value

/-- The event and the summary show the same users exactly when those who replied last are in the
order of their ids. -/
theorem thread_avatars_agree_iff {sending listing : Scan} {muted : UserId → Bool}
    {hasUnread : MessageId → Bool} {messages : MessageTable} {rootIds : List MessageId}
    {rootId : MessageId} {replierId : UserId} {replyCreatedAt : DateTime}
    {excludeRecipients : List UserId} {payload : MessageThreadRepliedPayload}
    {summary : ThreadSummary}
    (sent : buildThreadReplyPayload sending muted messages rootId replierId replyCreatedAt
      excludeRecipients = some payload)
    (listed : aggregateThreadSummaries listing hasUnread messages rootIds rootId = some summary) :
    payload.recentReplyUserIds = summary.recentReplyUserIds ↔
      RecentInIdOrder (latestReplies (sending.replies messages rootId))
        (listing.replies messages rootId) := by
  obtain ⟨root, found, rfl⟩ := Option.map_eq_some_iff.mp listed
  obtain ⟨-, -, rfl⟩ := Option.map_eq_some_iff.mp sent
  obtain rfl : root.id = rootId :=
    (MessageTable.findUnique_eq_some_iff.mp (Option.filter_eq_some_iff.mp found).1).2
  rw [recentReplyUserIds_threadSummary]
  have within : distinctAuthors (latestReplies (sending.replies messages root.id)) ⊆
      sortBy (recency (listing.replies messages root.id))
        (repliers (listing.replies messages root.id)) := by
    intro authorId isLatest
    obtain ⟨reply, latest, author⟩ := mem_distinctAuthors.mp isLatest
    have present := (sending.perm _).mem_iff.mp (mem_of_mem_latestReplies latest)
    exact mem_sortBy.mpr (mem_repliers.mpr ⟨reply, (listing.perm _).mem_iff.mpr present, author⟩)
  have counted (before : UserId → Bool) :
      (sortBy (recency (listing.replies messages root.id))
        (repliers (listing.replies messages root.id))).countP before =
        (repliers (listing.replies messages root.id)).countP before :=
    (List.perm_insertionSort _ _).countP_eq before
  refine (take_eq_take_iff (pairwise_distinctAuthors _) (pairwise_repliers _) within _).trans ?_
  simp only [RecentInIdOrder, mem_sortBy, mem_distinctAuthors, mem_repliers, counted]

/-- The rows as they stand in the table. -/
def Scan.inOrder : Scan where
  read := id
  perm := List.Perm.refl

/-- A message of user 1 with a reply of user 1 and then one of another user. -/
def repliedBy (userId : UserId) : MessageTable :=
  (do
    let root ← sendMessage .empty
      { id := ⟨1⟩, channelId := ⟨1⟩, authorId := ⟨1⟩, content := "root", createdAt := 1 }
    let replied ← sendMessage root
      { id := ⟨2⟩, channelId := ⟨1⟩, authorId := ⟨1⟩, content := "first", createdAt := 2,
        parentMessageId := some ⟨1⟩ }
    sendMessage replied
      { id := ⟨3⟩, channelId := ⟨1⟩, authorId := userId, content := "second", createdAt := 3,
        parentMessageId := some ⟨1⟩ }).toOption.getD .empty

/-- With two users whose ids are in the order of their replies, both show the same. -/
theorem avatars_in_order : RecentInIdOrder
    (latestReplies (Scan.inOrder.replies (repliedBy ⟨0⟩) ⟨1⟩))
    (Scan.inOrder.replies (repliedBy ⟨0⟩) ⟨1⟩) := by
  have sent : buildThreadReplyPayload .inOrder (fun _ => false) (repliedBy ⟨0⟩) ⟨1⟩ ⟨0⟩ 3 [] =
      some _ := rfl
  have listed : aggregateThreadSummaries .inOrder (fun _ => false) (repliedBy ⟨0⟩) [⟨1⟩] ⟨1⟩ =
      some _ := rfl
  exact (thread_avatars_agree_iff sent listed).mp (by decide +kernel)

/-- User 2 replied last and comes second in the event. -/
theorem avatars_by_id :
    ¬∀ (sending listing : Scan) (muted : UserId → Bool) (hasUnread : MessageId → Bool)
      (messages : MessageTable) (rootIds : List MessageId) (rootId : MessageId)
      (replierId : UserId) (replyCreatedAt : DateTime) (excludeRecipients : List UserId)
      (payload : MessageThreadRepliedPayload) (summary : ThreadSummary),
      buildThreadReplyPayload sending muted messages rootId replierId replyCreatedAt
          excludeRecipients = some payload →
        aggregateThreadSummaries listing hasUnread messages rootIds rootId = some summary →
        payload.recentReplyUserIds = summary.recentReplyUserIds := by
  intro agree
  have same := agree .inOrder .inOrder (fun _ => false) (fun _ => false) (repliedBy ⟨2⟩) [⟨1⟩] ⟨1⟩
    ⟨2⟩ 3 [] _ _ rfl rfl
  exact absurd same (by decide +kernel)

end Agreement

end Bongtalk.Messages
