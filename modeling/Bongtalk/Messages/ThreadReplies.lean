import Bongtalk.Messages.Pages

/-!
# Reading threads

A thread is read from its root on, the oldest reply first. A deleted reply keeps its place, and a
broadcast copy is no reply. In its channel the copy quotes the root.
-/

namespace Bongtalk.Messages

open Library Common Prisma Shared

structure ListThreadRepliesArgs where
  channelId : ChannelId
  rootId : MessageId
  cursor : Option CursorPayload := none
  limit : Nat

/-- What `listThreadReplies` answers. -/
structure ThreadPage where
  root : Message
  items : List Message
  hasMore : Bool
  nextCursor : Option (DateTime × MessageId)
  prevCursor : Option (DateTime × MessageId)

section Service

variable (timestamp : List Char → Option Int) (messages : MessageTable)
  (args : ListThreadRepliesArgs)

/-- `message.findFirst` of the root. -/
def findThreadRoot : Option Message :=
  (messages.findUnique args.rootId).filter fun root =>
    root.channelId == args.channelId && root.deletedAt == none

/-- The rows that a thread holds apart from its root. -/
def isThreadReply (rootId : MessageId) (message : Message) : Bool :=
  message.parentMessageId == some rootId && message.isBroadcast == false

/-- `("createdAt", id) > cursor`, when there is one. -/
def ListThreadRepliesArgs.cursorSql : Except Failure (Message → Bool) :=
  match args.cursor with
  | none => .ok fun _ => true
  | some payload => do
    let cursor ← payload.position timestamp
    .ok fun message => cursor < message.position

/-- The query; one row more than asked for tells whether there are more. -/
def listThreadReplies : Except Failure ThreadPage :=
  match findThreadRoot messages args with
  | none => failWith .messageNotFound "thread root not found"
  | some root =>
    if root.parentMessageId ≠ none then failWith .messageNotFound "id is not a thread root"
    else do
      let cursorSql ← args.cursorSql timestamp
      let fetched := (oldestFirst (messages.table.findMany fun message =>
        isThreadReply args.rootId message && cursorSql message)).take (args.limit + 1)
      let items := fetched.take args.limit
      .ok {
        root := root
        items := items
        hasMore := decide (args.limit < fetched.length)
        prevCursor := items.head?.map fun first => (first.createdAt, first.id)
        nextCursor := items.getLast?.map fun last => (last.createdAt, last.id) }

end Service

/-- `THREAD_BROADCAST_EXCERPT_CAP`. -/
def threadBroadcastExcerptCap : Nat := 50

def buildThreadBroadcastExcerpt (content : String) : String :=
  let collapsed := unwords (words content.toList)
  if utf16Length collapsed ≤ threadBroadcastExcerptCap then String.ofList collapsed
  else String.ofList (takeUnits (threadBroadcastExcerptCap - 1) collapsed ++ ['…'])

structure BroadcastExcerpt where
  excerpt : String
  rootAuthorId : Option UserId
deriving DecidableEq, Repr

/-- The root that a broadcast copy quotes: a live message of its channel. -/
def broadcastRoot (messages : MessageTable) (row : Message) : Option Message :=
  row.parentMessageId.bind fun rootId =>
    (messages.findUnique rootId).filter fun root =>
      root.channelId == row.channelId && root.deletedAt == none

/-- What `aggregateBroadcastExcerpts` has for a row of a page. -/
def broadcastExcerpt (messages : MessageTable) (row : Message) : Option BroadcastExcerpt :=
  if row.isBroadcast && row.parentMessageId.isSome then
    match broadcastRoot messages row with
    | none => some { excerpt := "", rootAuthorId := none }
    | some root => some {
        excerpt := buildThreadBroadcastExcerpt root.content
        rootAuthorId := some root.authorId }
  else none

theorem broadcastRoot_eq_some_iff {messages : MessageTable} {row root : Message} :
    broadcastRoot messages row = some root ↔
      row.parentMessageId = some root.id ∧ root ∈ messages ∧ root.channelId = row.channelId ∧
        root.deletedAt = none := by
  simp only [broadcastRoot, Option.bind_eq_some_iff, Option.filter_eq_some_iff,
    MessageTable.findUnique_eq_some_iff, Bool.and_eq_true, beq_iff_eq]
  constructor
  · rintro ⟨rootId, ofRoot, ⟨present, rfl⟩, sameChannel, live⟩
    exact ⟨ofRoot, present, sameChannel, live⟩
  · rintro ⟨ofRoot, present, sameChannel, live⟩
    exact ⟨root.id, ofRoot, ⟨present, rfl⟩, sameChannel, live⟩

section Specs

variable {timestamp : List Char → Option Int} {messages : MessageTable}
  {args : ListThreadRepliesArgs} {page : ThreadPage}

theorem findThreadRoot_eq_some_iff {root : Message} :
    findThreadRoot messages args = some root ↔
      root ∈ messages ∧ root.id = args.rootId ∧ root.channelId = args.channelId ∧
        root.deletedAt = none := by
  rw [findThreadRoot, Option.filter_eq_some_iff, MessageTable.findUnique_eq_some_iff,
    Bool.and_eq_true, beq_iff_eq, beq_iff_eq, and_assoc]

theorem isThreadReply_iff {rootId : MessageId} {message : Message} :
    isThreadReply rootId message = true ↔
      message.parentMessageId = some rootId ∧ message.isBroadcast = false := by
  rw [isThreadReply, Bool.and_eq_true, beq_iff_eq, beq_iff_eq]

/-- A page comes from a live root of the channel and holds replies to it. -/
theorem listThreadReplies_eq_ok (answered : listThreadReplies timestamp messages args = .ok page) :
    (page.root ∈ messages ∧ page.root.id = args.rootId ∧ page.root.channelId = args.channelId ∧
      page.root.deletedAt = none ∧ page.root.parentMessageId = none) ∧
      ∀ reply ∈ page.items, reply ∈ messages ∧ reply.parentMessageId = some page.root.id ∧
        reply.isBroadcast = false := by
  unfold listThreadReplies at answered
  split at answered
  · exact absurd answered failWith_ne_ok
  next root found =>
    split at answered
    · exact absurd answered failWith_ne_ok
    next isRoot =>
      obtain ⟨cursorSql, -, answered⟩ := bind_eq_ok.mp answered
      cases answered
      obtain ⟨present, sameId, sameChannel, live⟩ := findThreadRoot_eq_some_iff.mp found
      refine ⟨⟨present, sameId, sameChannel, live, not_ne_iff.mp isRoot⟩, fun reply listed => ?_⟩
      have fetched := List.mem_of_mem_take (List.mem_of_mem_take listed)
      obtain ⟨replyMem, shown⟩ := Table.mem_findMany.mp ((List.mem_insertionSort _).mp fetched)
      obtain ⟨ofRoot, noCopy⟩ := isThreadReply_iff.mp (Bool.and_eq_true_iff.mp shown).1
      exact ⟨replyMem, sameId ▸ ofRoot, noCopy⟩

/-- A request from the start with room enough answers with the whole thread. -/
theorem exists_whole_thread (timestamp : List Char → Option Int) {root : Message}
    (present : root ∈ messages) (live : root.deletedAt = none)
    (isRoot : root.parentMessageId = none) :
    ∃ page, listThreadReplies timestamp messages
        { channelId := root.channelId, rootId := root.id, limit := messages.table.rows.length } =
        .ok page ∧ page.root = root ∧
      ∀ reply, reply ∈ page.items ↔ reply ∈ messages ∧ reply.parentMessageId = some root.id ∧
        reply.isBroadcast = false := by
  have found : findThreadRoot messages
      { channelId := root.channelId, rootId := root.id, limit := messages.table.rows.length } =
      some root := findThreadRoot_eq_some_iff.mpr ⟨present, rfl, rfl, live⟩
  unfold listThreadReplies
  rw [found]
  dsimp only
  rw [if_neg (not_ne_iff.mpr isRoot)]
  refine ⟨_, rfl, rfl, fun reply => ?_⟩
  have room : (oldestFirst (messages.table.findMany fun message =>
      isThreadReply root.id message && true)).length ≤ messages.table.rows.length := by
    rw [oldestFirst, List.length_insertionSort]
    exact List.length_filter_le _ _
  dsimp only
  rw [List.take_of_length_le (room.trans (Nat.le_succ _)), List.take_of_length_le room, oldestFirst,
    List.mem_insertionSort, Table.mem_findMany, Bool.and_true, isThreadReply_iff]
  rfl

end Specs

end Bongtalk.Messages
