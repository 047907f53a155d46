import Bongtalk.Library.System
import Bongtalk.Web.MessageList

/-!
# One row for each send

A send puts a row in front of the list under the id `tmp-` with the nonce of the send. A response
turns the row into the row of the message, a failure marks it. Meanwhile responses, failures,
timeouts, echoes and refetches arrive in any order, and each send should be rendered by one row.
-/

namespace Bongtalk.Web

open Prisma MessageListCache List Function

namespace MessageListCache

variable (cache : MessageListCache) (clientNonce : ClientNonce)

/-- The row of the response takes the place of the optimistic one. -/
def confirmOptimistic (confirmed : Row) : MessageListCache :=
  cache.mapItems fun row => if row.id = .optimistic clientNonce then confirmed else row

def markOptimistic (sendState : SendState) : MessageListCache :=
  cache.mapItems fun row =>
    if row.id = .optimistic clientNonce then { row with sendState := some sendState } else row

def markOptimisticFailed : MessageListCache :=
  cache.markOptimistic clientNonce .failed

/-- A failed row is pending again, for a retry. -/
def markOptimisticPending : MessageListCache :=
  cache.markOptimistic clientNonce .pending

/-- A timeout fails a row that is still pending. -/
def applyTimeoutFailure : MessageListCache :=
  match cache.rows.find? fun row => row.id = .optimistic clientNonce with
  | none => cache
  | some row =>
    if row.sendState ≠ some .pending then cache else cache.markOptimisticFailed clientNonce

end MessageListCache

/-- The row of a send before its response. -/
def optimisticRow (clientNonce : ClientNonce) (authorId : RowAuthor) (content : String)
    (createdAt : DateTime) : Row where
  id := .optimistic clientNonce
  authorId := authorId
  content := some content
  createdAt := createdAt
  version := some 0
  sendState := some .pending

/-- The cache update of `onMutate`: a retry finds its row. -/
def MessageListCache.onMutate (cache : MessageListCache) (clientNonce : ClientNonce)
    (authorId : RowAuthor) (content : String) (createdAt : DateTime) : MessageListCache :=
  if cache.first.holds (.optimistic clientNonce) then cache.markOptimisticPending clientNonce
  else cache.withFirst (optimisticRow clientNonce authorId content createdAt :: cache.first.items)

namespace MessageListCache

variable {cache : MessageListCache} {clientNonce : ClientNonce}

/-- The ids of the rows, in the order of the list. -/
def ids (cache : MessageListCache) : List RowId :=
  cache.rows.map Row.id

theorem ids_markOptimistic {sendState : SendState} :
    (cache.markOptimistic clientNonce sendState).ids = cache.ids := by
  rw [ids, markOptimistic, rows_mapItems, map_map, ids]
  refine map_congr_left fun row _ => ?_
  rw [comp_apply]
  split <;> rfl

theorem ids_applyTimeoutFailure : (cache.applyTimeoutFailure clientNonce).ids = cache.ids := by
  rw [applyTimeoutFailure]
  split
  · rfl
  split
  · rfl
  · exact ids_markOptimistic

theorem ids_confirmOptimistic {confirmed : Row} :
    (cache.confirmOptimistic clientNonce confirmed).ids =
      cache.ids.map fun id => if id = .optimistic clientNonce then confirmed.id else id := by
  rw [ids, confirmOptimistic, rows_mapItems, map_map, ids, map_map]
  refine map_congr_left fun row _ => ?_
  rw [comp_apply, comp_apply, apply_ite Row.id]

variable {messageId : MessageId}

theorem ids_updated {content : String} {version : Nat} :
    (cache.updated messageId content version).ids = cache.ids := by
  rw [ids, updated, rows_mapItems, map_id_patchAt (id_merge content version), ids]

theorem ids_replied {replyCount : Nat} : (cache.replied messageId replyCount).ids = cache.ids := by
  have keepsId (row : Row) : ({ row with replyCount := some replyCount } : Row).id = row.id := rfl
  rw [ids, replied, rows_mapItems, map_id_patchAt keepsId, ids]

/-- A deletion takes rows of its message from the list, and no others. -/
theorem filter_ids_deleted {version : Option Nat} :
    (cache.deleted messageId version).ids.filter (fun id => id ≠ .message messageId) =
      cache.ids.filter fun id => id ≠ .message messageId := by
  rw [ids, ids, filter_map, filter_map]
  exact congrArg (List.map Row.id) filter_rows_deleted

/-- `onMutate` finds the row of a retry, or adds one. -/
theorem ids_onMutate {authorId : RowAuthor} {content : String} {createdAt : DateTime} :
    (cache.onMutate clientNonce authorId content createdAt).ids =
      if .optimistic clientNonce ∈ cache.first.items.map Row.id then cache.ids
      else .optimistic clientNonce :: cache.ids := by
  rw [onMutate]
  by_cases held : .optimistic clientNonce ∈ cache.first.items.map Row.id
  · rw [if_pos (Page.holds_iff.mpr held), if_pos held]
    exact ids_markOptimistic
  · rw [if_neg (mt Page.holds_iff.mp held), if_neg held]
    rfl

end MessageListCache

/-- The messages before a cursor, of a list with the newest first. -/
def messagesBefore (log : List Row) (cursor : Option Nat) : List Row :=
  log.filter fun row => cursor.all fun cursor => row.id.position < cursor

/-- A refetch of the list: the pages so far, of as many as the list had. -/
structure Refetch where
  pages : List Page := []
  wanted : Nat
  hasMore : Bool := true
deriving DecidableEq, Repr

namespace Refetch

variable (refetch : Refetch)

def rows : List Row :=
  refetch.pages.flatMap Page.items

def nextCursor : Option Nat :=
  refetch.rows.getLast?.map fun row => row.id.position

/-- The next page. -/
def read (log : List Row) : Refetch :=
  let messages := messagesBefore log refetch.nextCursor
  { refetch with
    pages := refetch.pages ++ [⟨messages.take messagePageLimit, none⟩]
    hasMore := decide (messagePageLimit < messages.length) }

def complete : Bool :=
  !refetch.hasMore || decide (refetch.wanted ≤ refetch.pages.length)

end Refetch

structure SendClient where
  cache : Option MessageListCache := none
  refetch : Option Refetch := none
  sends : List ClientNonce := []
  /-- The list of the server, the newest message first. -/
  log : List Row := []
  nextMessageId : Nat := 0
  /-- The messages that the server has made of the sends. -/
  confirmed : ClientNonce → Option MessageId := fun _ => none

inductive SendInput where
  /-- `send`, or `retry` and the confirmed bulk mention under the nonce of the first attempt. -/
  | submit (clientNonce : ClientNonce) (authorId : RowAuthor) (content : String)
      (createdAt : DateTime)
  /-- The server stores a message, of a send of this client or another one. -/
  | store (clientNonce : Option ClientNonce) (message : Row)
  | edit (messageId : MessageId) (content : String) (version : Nat)
  | remove (messageId : MessageId)
  | respond (clientNonce : ClientNonce) (message : Row)
  /-- A failure; that of a bulk mention is delegated to the composer. -/
  | fail (clientNonce : ClientNonce) (delegated : Bool)
  | timeout (clientNonce : ClientNonce)
  | created (message : Row) (nonce : Option ClientNonce)
  | broadcast (message : Row)
  | updated (messageId : MessageId) (content : String) (version : Nat)
  | deleted (messageId : MessageId) (version : Option Nat)
  | replied (messageId : MessageId) (replyCount : Nat)
  | invalidate
  | readPage
  | refetched
deriving DecidableEq, Repr

namespace SendClient

variable (state : SendClient)

def updateCache (change : MessageListCache → MessageListCache) : SendClient :=
  { state with cache := state.cache.map change }

def take : SendInput → SendClient
  | .submit clientNonce authorId content createdAt =>
    { state.updateCache fun cache => cache.onMutate clientNonce authorId content createdAt with
      refetch := none
      sends := state.sends.insert clientNonce }
  | .store clientNonce message =>
    { state with
      log := { message with id := .message ⟨state.nextMessageId⟩ } :: state.log
      nextMessageId := state.nextMessageId + 1
      confirmed := clientNonce.elim state.confirmed fun clientNonce =>
        update state.confirmed clientNonce (some ⟨state.nextMessageId⟩) }
  | .edit messageId content version =>
    { state with
      log := state.log.map (Row.patchAt messageId fun row => row.merge content version) }
  | .remove messageId =>
    { state with log := state.log.filter fun row => row.id ≠ .message messageId }
  | .respond clientNonce message =>
    state.updateCache fun cache => cache.confirmOptimistic clientNonce message
  | .fail clientNonce delegated =>
    if delegated then state
    else state.updateCache fun cache => cache.markOptimisticFailed clientNonce
  | .timeout clientNonce => state.updateCache fun cache => cache.applyTimeoutFailure clientNonce
  | .created message nonce => state.updateCache fun cache => cache.created message nonce
  | .broadcast message => state.updateCache fun cache => cache.broadcast message
  | .updated messageId content version =>
    state.updateCache fun cache => cache.updated messageId content version
  | .deleted messageId version => state.updateCache fun cache => cache.deleted messageId version
  | .replied messageId replyCount =>
    state.updateCache fun cache => cache.replied messageId replyCount
  | .invalidate =>
    { state with refetch := some { wanted := state.cache.elim 1 fun cache => cache.rest.length + 1 } }
  | .readPage => { state with refetch := state.refetch.map fun refetch => refetch.read state.log }
  | .refetched =>
    match state.refetch with
    | some ⟨first :: rest, _, _⟩ => { state with cache := some ⟨first, rest⟩, refetch := none }
    | _ => state

/-- A message that the server has stored, by its id. -/
def HasStored (id : RowId) : Prop :=
  ∃ messageId, id = .message messageId ∧ messageId.value < state.nextMessageId

/-- The message is of none of the sends. -/
def OfOther (messageId : MessageId) : Prop :=
  ∀ clientNonce, state.confirmed clientNonce ≠ some messageId

/-- The server makes one message of each send, the response and the nonce go with it, and the
deletions and broadcasts are about other messages. -/
def Permits : SendInput → Prop
  | .store clientNonce _ => ∀ sent ∈ clientNonce, sent ∈ state.sends ∧ state.confirmed sent = none
  | .remove messageId => state.OfOther messageId
  | .respond clientNonce message =>
    ∃ messageId, state.confirmed clientNonce = some messageId ∧ message.id = .message messageId
  | .created message nonce => state.HasStored message.id ∧ ∀ sent ∈ nonce, sent ∈ state.sends →
      ∃ messageId, state.confirmed sent = some messageId ∧ message.id = .message messageId
  | .broadcast message => state.HasStored message.id ∧
      ∀ messageId, message.id = .message messageId → state.OfOther messageId
  | .deleted messageId _ => state.OfOther messageId
  | .readPage => ∃ refetch, state.refetch = some refetch ∧ refetch.complete = false
  | .refetched => ∃ refetch, state.refetch = some refetch ∧ refetch.complete = true
  | _ => True

def Takes (input : SendInput) (next : SendClient) : Prop :=
  state.Permits input ∧ next = state.take input

/-- The ids of the rows that are shown. -/
def shownIds : List RowId :=
  state.cache.elim [] ids

/-- Whether a row renders a send. -/
def renders (clientNonce : ClientNonce) (id : RowId) : Bool :=
  decide (id = .optimistic clientNonce) ||
    (state.confirmed clientNonce).any fun messageId => id = .message messageId

/-- Each send is rendered by exactly one row. -/
def OneRowEach : Prop :=
  ∀ clientNonce ∈ state.sends, state.shownIds.countP (state.renders clientNonce) = 1

/-- A send that is submitted again has its row in the first page. A new message that finds
neither itself nor its nonce there collapses the row of its own send and no other. A refetch
brings the messages of all sends. -/
def KeepsOneRow : SendInput → Prop
  | .submit clientNonce _ _ _ => ∃ cache, state.cache = some cache ∧
      (clientNonce ∈ state.sends → .optimistic clientNonce ∈ cache.first.items.map Row.id)
  | .created message nonce => ∀ cache ∈ state.cache,
      message.id ∈ cache.first.items.map Row.id ∨
        (∃ sent ∈ nonce, .optimistic sent ∈ cache.first.items.map Row.id) ∨
        ∀ clientNonce ∈ state.sends,
          (∃ row ∈ cache.first.items, row.id = .optimistic clientNonce ∧
              row.collapsesInto message = true) ↔
            ∃ messageId, state.confirmed clientNonce = some messageId ∧
              message.id = .message messageId
  | .refetched => ∀ refetch ∈ state.refetch, ∀ clientNonce ∈ state.sends,
      ∃ messageId, state.confirmed clientNonce = some messageId ∧
        .message messageId ∈ refetch.rows.map Row.id
  | _ => True

end SendClient

section Counts

variable {state next : SendClient} {clientNonce sent : ClientNonce} {id : RowId}
  {messageId : MessageId}

namespace SendClient

theorem renders_iff : state.renders clientNonce id = true ↔
    id = .optimistic clientNonce ∨
      ∃ messageId, state.confirmed clientNonce = some messageId ∧ id = .message messageId := by
  rw [renders, Bool.or_eq_true, decide_eq_true_eq, Option.any_eq_true]
  simp

theorem renders_message_iff : state.renders clientNonce (.message messageId) = true ↔
    state.confirmed clientNonce = some messageId := by
  rw [renders_iff]
  simp

theorem renders_optimistic_iff :
    state.renders clientNonce (.optimistic sent) = true ↔ sent = clientNonce := by
  rw [renders_iff]
  simp

/-- A row of a message of others renders no send. -/
theorem renders_of_other (other : state.OfOther messageId) :
    state.renders clientNonce (.message messageId) = false :=
  eq_false_of_ne_true (mt renders_message_iff.mp (other clientNonce))

/-- Where the counts stay, each send keeps its row. -/
theorem OneRowEach.of_counts (law : state.OneRowEach) (sends : next.sends = state.sends)
    (counts : ∀ clientNonce ∈ state.sends, next.shownIds.countP (next.renders clientNonce) =
      state.shownIds.countP (state.renders clientNonce)) : next.OneRowEach := by
  intro clientNonce isSent
  rw [sends] at isSent
  rw [counts clientNonce isSent]
  exact law clientNonce isSent

variable {change : MessageListCache → MessageListCache}

theorem shownIds_updateCache (same : ∀ cache, (change cache).ids = cache.ids) :
    (state.updateCache change).shownIds = state.shownIds := by
  rw [shownIds, shownIds, updateCache]
  cases state.cache with
  | none => rfl
  | some cache => exact same cache

theorem OneRowEach.updateCache (law : state.OneRowEach)
    (same : ∀ cache, (change cache).ids = cache.ids) : (state.updateCache change).OneRowEach :=
  law.of_counts rfl fun clientNonce _ =>
    congrArg (List.countP (state.renders clientNonce)) (shownIds_updateCache same)

/-- The counts after a change of the cache, where the cache is loaded. -/
theorem OneRowEach.updateCache_of_counts (law : state.OneRowEach)
    (counts : ∀ cache, state.cache = some cache → ∀ clientNonce ∈ state.sends, (change
      cache).ids.countP (state.renders clientNonce) = cache.ids.countP (state.renders clientNonce)) :
    (state.updateCache change).OneRowEach := by
  refine law.of_counts rfl fun clientNonce isSent => ?_
  change ((state.cache.map change).elim [] ids).countP (state.renders clientNonce) = _
  rw [shownIds]
  cases isLoaded : state.cache with
  | none => rfl
  | some cache => exact counts cache isLoaded clientNonce isSent

end SendClient

/-- To exchange ids that a test does not tell apart changes no count. -/
theorem countP_map_of_same {Test : RowId → Bool} {change : RowId → RowId} {ids : List RowId}
    (same : ∀ id ∈ ids, Test (change id) = Test id) :
    (ids.map change).countP Test = ids.countP Test := by
  rw [countP_map]
  exact countP_congr fun id present => by rw [comp_apply, same id present]

end Counts

section Soundness

variable {state : SendClient} {id : RowId} {messageId : MessageId}

namespace SendClient

/-- A row is of a stored message or of a send. -/
def Known (state : SendClient) (id : RowId) : Prop :=
  state.HasStored id ∨ ∃ clientNonce ∈ state.sends, id = .optimistic clientNonce

/-- Rows from the server, the newest first. -/
structure Served (state : SendClient) (rows : List Row) : Prop where
  stored : ∀ row ∈ rows, state.HasStored row.id
  newestFirst : rows.Pairwise fun newer older => older.id.position < newer.id.position

structure Sound (state : SendClient) : Prop where
  shown : ∀ id ∈ state.shownIds, state.Known id
  log : state.Served state.log
  fetched : ∀ refetch ∈ state.refetch, state.Served refetch.rows
  started : ∀ refetch ∈ state.refetch, refetch.pages = [] → refetch.complete = false
  sent : ∀ clientNonce messageId, state.confirmed clientNonce = some messageId →
    clientNonce ∈ state.sends ∧ messageId.value < state.nextMessageId
  ofOne : ∀ clientNonce sent messageId, state.confirmed clientNonce = some messageId →
    state.confirmed sent = some messageId → clientNonce = sent

theorem HasStored.known (stored : state.HasStored id) : state.Known id :=
  .inl stored

theorem Sound.confirmed_known (sound : state.Sound) {clientNonce : ClientNonce}
    (confirmed : state.confirmed clientNonce = some messageId) :
    state.Known (.message messageId) :=
  .inl ⟨messageId, rfl, (sound.sent clientNonce messageId confirmed).2⟩

theorem Known.optimistic {clientNonce : ClientNonce}
    (known : state.Known (.optimistic clientNonce)) : clientNonce ∈ state.sends := by
  rcases known with ⟨messageId, same, -⟩ | ⟨sent, isSent, same⟩
  · cases same
  · exact RowId.optimistic.inj same ▸ isSent

theorem Known.message (known : state.Known (.message messageId)) :
    messageId.value < state.nextMessageId := by
  rcases known with ⟨other, same, isStored⟩ | ⟨sent, -, same⟩
  · exact RowId.message.inj same ▸ isStored
  · cases same

theorem Served.sublist {rows kept : List Row} (served : state.Served rows)
    (sublist : kept.Sublist rows) : state.Served kept where
  stored := fun row present => served.stored row (sublist.subset present)
  newestFirst := served.newestFirst.sublist sublist

theorem Served.once {rows : List Row} (served : state.Served rows) : (rows.map Row.id).Nodup := by
  rw [Nodup, pairwise_map]
  refine served.newestFirst.imp fun {newer older} less same => ?_
  rw [same] at less
  exact Nat.lt_irrefl _ less

variable {change : MessageListCache → MessageListCache}

theorem Sound.updateCache (sound : state.Sound)
    (known : ∀ cache, state.cache = some cache → (∀ id ∈ cache.ids, state.Known id) → ∀ id ∈ (change
      cache).ids, state.Known id) : (state.updateCache change).Sound where
  shown := by
    have before := sound.shown
    rw [shownIds] at before
    change ∀ id ∈ (state.cache.map change).elim [] ids, state.Known id
    cases isLoaded : state.cache with
    | none => exact forall_mem_nil _
    | some cache =>
      rw [isLoaded] at before
      exact known cache isLoaded before
  log := ⟨sound.log.stored, sound.log.newestFirst⟩
  fetched := fun refetch isRefetch =>
    ⟨(sound.fetched refetch isRefetch).stored, (sound.fetched refetch isRefetch).newestFirst⟩
  started := sound.started
  sent := sound.sent
  ofOne := sound.ofOne

theorem Sound.updateCache_of_same (sound : state.Sound)
    (same : ∀ cache, (change cache).ids = cache.ids) : (state.updateCache change).Sound :=
  sound.updateCache fun cache _ known => by rwa [same cache]

end SendClient

end Soundness

section Inputs

variable {cache : MessageListCache} {message : Row} {nonce : Option ClientNonce}

theorem ids_withFirst {items : List Row} :
    (cache.withFirst items).ids = items.map Row.id ++ cache.laterRows.map Row.id :=
  map_append

theorem ids_eq : cache.ids =
    cache.first.items.map Row.id ++ cache.laterRows.map Row.id :=
  map_append

/-- The ids after a row comes into the first page. -/
theorem Inserts.mem_ids {items : List Row} (inserts : Inserts cache.first.items items message)
    {id : RowId} (present : id ∈ (cache.withFirst items).ids) :
    id = message.id ∨ id ∈ cache.ids := by
  rw [ids_withFirst, mem_append] at present
  rw [ids_eq, mem_append]
  rcases present with inItems | inLater
  · obtain ⟨row, rowMem, rfl⟩ := mem_map.mp inItems
    rcases inserts.others row rowMem with rfl | inFirst
    · exact .inl rfl
    · exact .inr (.inl (mem_map_of_mem inFirst))
  · exact .inr (.inr inLater)

theorem mem_ids_created {id : RowId} (present : id ∈ (cache.created message nonce).ids) :
    id = message.id ∨ id ∈ cache.ids := by
  have effect : CreatedEffect cache message nonce (cache.created message nonce) :=
    createdEffect_created
  rcases effect.inserts with ⟨-, same⟩ | ⟨-, items, next, inserts⟩
  · rw [same] at present
    exact .inr present
  · rw [next] at present
    exact inserts.mem_ids present

theorem mem_ids_broadcast {id : RowId} (present : id ∈ (cache.broadcast message).ids) :
    id = message.id ∨ id ∈ cache.ids := by
  rcases broadcast_inserts cache message with ⟨-, same⟩ | ⟨-, items, next, inserts⟩
  · rw [same] at present
    exact .inr present
  · rw [next] at present
    exact inserts.mem_ids present

end Inputs

section Steps

variable {state : SendClient}

namespace SendClient

theorem sound_submit (sound : state.Sound) (clientNonce : ClientNonce) (authorId : RowAuthor)
    (content : String) (createdAt : DateTime) :
    (state.take (.submit clientNonce authorId content createdAt)).Sound := by
  have isSent {sent : ClientNonce} (isSent : sent ∈ state.sends) :
      sent ∈ state.sends.insert clientNonce := mem_insert_of_mem isSent
  have keeps {id : RowId} (known : state.Known id) :
      (state.take (.submit clientNonce authorId content createdAt)).Known id :=
    known.imp_right fun ⟨sent, sentMem, same⟩ => ⟨sent, isSent sentMem, same⟩
  refine ⟨?_, ⟨sound.log.stored, sound.log.newestFirst⟩, fun _ none_ => (by cases none_),
    fun _ none_ => (by cases none_), fun sent messageId confirmed => ?_, sound.ofOne⟩
  · have before := sound.shown
    rw [shownIds] at before
    change ∀ id ∈ (state.cache.map _).elim [] ids, _
    cases isLoaded : state.cache with
    | none => exact forall_mem_nil _
    | some cache =>
      rw [isLoaded] at before
      intro id present
      rw [Option.map_some, Option.elim_some, ids_onMutate] at present
      split at present
      · exact keeps (before id present)
      rcases mem_cons.mp present with rfl | earlier
      · exact .inr ⟨clientNonce, mem_insert_self, rfl⟩
      · exact keeps (before id earlier)
  · obtain ⟨wasSent, isStored⟩ := sound.sent sent messageId confirmed
    exact ⟨isSent wasSent, isStored⟩

theorem sound_store (sound : state.Sound) {clientNonce : Option ClientNonce} {message : Row}
    (permitted : state.Permits (.store clientNonce message)) :
    (state.take (.store clientNonce message)).Sound := by
  have stays {id : RowId} (stored : state.HasStored id) :
      (state.take (.store clientNonce message)).HasStored id := by
    obtain ⟨messageId, same, less⟩ := stored
    exact ⟨messageId, same, Nat.lt_succ_of_lt less⟩
  have confirmed_cases {sent : ClientNonce} {messageId : MessageId}
      (confirmed : (state.take (.store clientNonce message)).confirmed sent = some messageId) :
      clientNonce = some sent ∧ messageId = ⟨state.nextMessageId⟩ ∨
        clientNonce ≠ some sent ∧ state.confirmed sent = some messageId := by
    cases clientNonce with
    | none => exact .inr ⟨by simp, confirmed⟩
    | some stored =>
      by_cases same : sent = stored
      · obtain rfl := same
        have isNew : update state.confirmed sent (some ⟨state.nextMessageId⟩) sent =
            some messageId := confirmed
        rw [update_self] at isNew
        exact .inl ⟨rfl, (Option.some.inj isNew).symm⟩
      · have kept : update state.confirmed stored (some ⟨state.nextMessageId⟩) sent =
            some messageId := confirmed
        rw [update_of_ne same] at kept
        exact .inr ⟨fun other => same (Option.some.inj other).symm, kept⟩
  refine ⟨fun id present => ?_, ⟨?_, ?_⟩, fun refetch isRefetch => ?_, sound.started, ?_, ?_⟩
  · exact (sound.shown id present).imp_left stays
  · refine forall_mem_cons.mpr ⟨⟨_, rfl, Nat.lt_succ_self _⟩, fun row present => ?_⟩
    exact stays (sound.log.stored row present)
  · refine pairwise_cons.mpr ⟨fun row present => ?_, sound.log.newestFirst⟩
    obtain ⟨messageId, same, less⟩ := sound.log.stored row present
    rw [same]
    exact less
  · have served := sound.fetched refetch isRefetch
    exact ⟨fun row present => stays (served.stored row present), served.newestFirst⟩
  · intro sent messageId confirmed
    rcases confirmed_cases confirmed with ⟨rfl, rfl⟩ | ⟨-, earlier⟩
    · exact ⟨(permitted sent rfl).1, Nat.lt_succ_self _⟩
    obtain ⟨isSent, less⟩ := sound.sent sent messageId earlier
    exact ⟨isSent, Nat.lt_succ_of_lt less⟩
  · intro first second messageId firstConfirmed secondConfirmed
    rcases confirmed_cases firstConfirmed with ⟨firstNew, isNew⟩ | ⟨-, firstEarlier⟩
    · rcases confirmed_cases secondConfirmed with ⟨secondNew, -⟩ | ⟨-, secondEarlier⟩
      · exact Option.some.inj (firstNew.symm.trans secondNew)
      have less := (sound.sent second messageId secondEarlier).2
      rw [isNew] at less
      exact absurd less (Nat.lt_irrefl _)
    · rcases confirmed_cases secondConfirmed with ⟨-, isNew⟩ | ⟨-, secondEarlier⟩
      · have less := (sound.sent first messageId firstEarlier).2
        rw [isNew] at less
        exact absurd less (Nat.lt_irrefl _)
      · exact sound.ofOne first second messageId firstEarlier secondEarlier

/-- A change of the list of the server that keeps its order. -/
theorem Sound.withLog (sound : state.Sound) {log : List Row} (served : state.Served log) :
    ({ state with log := log } : SendClient).Sound where
  shown := sound.shown
  log := ⟨served.stored, served.newestFirst⟩
  fetched := fun refetch isRefetch =>
    ⟨(sound.fetched refetch isRefetch).stored, (sound.fetched refetch isRefetch).newestFirst⟩
  started := sound.started
  sent := sound.sent
  ofOne := sound.ofOne

theorem served_edit {log : List Row} (served : state.Served log) {messageId : MessageId}
    (content : String) (version : Nat) :
    state.Served (log.map (Row.patchAt messageId fun row => row.merge content version)) where
  stored := by
    intro row present
    obtain ⟨before, beforeMem, rfl⟩ := mem_map.mp present
    rw [id_patchAt (id_merge content version)]
    exact served.stored before beforeMem
  newestFirst := by
    rw [pairwise_map]
    refine served.newestFirst.imp fun {newer older} less => ?_
    rw [id_patchAt (id_merge content version), id_patchAt (id_merge content version)]
    exact less

/-- The last row read so far is the oldest one. -/
theorem Served.last_le {rows : List Row} (served : state.Served rows) {last row : Row}
    (isLast : rows.getLast? = some last) (present : row ∈ rows) :
    last.id.position ≤ row.id.position := by
  obtain ⟨earlier, rfl⟩ := List.getLast?_eq_some_iff.mp isLast
  rcases mem_append.mp present with inEarlier | isSame
  · exact Nat.le_of_lt ((pairwise_append.mp served.newestFirst).2.2 row inEarlier last
      (mem_singleton_self _))
  · exact Nat.le_of_eq (congrArg (fun row : Row => row.id.position) (mem_singleton.mp isSame).symm)

variable {refetch : Refetch}

theorem rows_read {log : List Row} : (refetch.read log).rows =
    refetch.rows ++ (messagesBefore log refetch.nextCursor).take messagePageLimit := by
  rw [Refetch.rows, Refetch.read, flatMap_append, flatMap_singleton, Refetch.rows]

/-- A page continues behind the pages before. -/
theorem served_read (log : state.Served state.log) (served : state.Served refetch.rows) :
    state.Served (refetch.read state.log).rows := by
  have kept : ((messagesBefore state.log refetch.nextCursor).take messagePageLimit).Sublist
      state.log := (take_sublist _ _).trans filter_sublist
  have page := log.sublist kept
  rw [rows_read]
  refine ⟨forall_mem_append.mpr ⟨served.stored, page.stored⟩, ?_⟩
  refine pairwise_append.mpr ⟨served.newestFirst, page.newestFirst, ?_⟩
  intro row present new newMem
  have isBefore := (mem_filter.mp (mem_of_mem_take newMem)).2
  cases isLast : refetch.rows.getLast? with
  | none =>
    rw [List.getLast?_eq_none_iff.mp isLast] at present
    cases present
  | some last =>
    rw [Refetch.nextCursor, isLast, Option.map_some, Option.all_some, decide_eq_true_eq]
      at isBefore
    exact Nat.lt_of_lt_of_le isBefore (served.last_le isLast present)

theorem Sound.withRefetch (sound : state.Sound) (served : state.Served refetch.rows)
    (started : refetch.pages = [] → refetch.complete = false) :
    ({ state with refetch := some refetch } : SendClient).Sound where
  shown := sound.shown
  log := ⟨sound.log.stored, sound.log.newestFirst⟩
  fetched := by
    rintro other same
    cases same
    exact ⟨served.stored, served.newestFirst⟩
  started := by
    rintro other same
    cases same
    exact started
  sent := sound.sent
  ofOne := sound.ofOne

/-- Every input keeps the client sound. -/
theorem sound_takes (sound : state.Sound) {input : SendInput} {next : SendClient}
    (taken : state.Takes input next) : next.Sound := by
  obtain ⟨permitted, rfl⟩ := taken
  cases input with
  | submit clientNonce authorId content createdAt =>
    exact sound_submit sound clientNonce authorId content createdAt
  | store clientNonce message => exact sound_store sound permitted
  | edit messageId content version =>
    exact sound.withLog (served_edit sound.log content version)
  | remove messageId => exact sound.withLog (sound.log.sublist filter_sublist)
  | respond clientNonce message =>
    obtain ⟨messageId, confirmed, same⟩ := permitted
    refine sound.updateCache fun cache _ known id present => ?_
    rw [ids_confirmOptimistic] at present
    obtain ⟨before, beforeMem, rfl⟩ := mem_map.mp present
    split
    · rw [same]
      exact sound.confirmed_known confirmed
    · exact known before beforeMem
  | fail clientNonce delegated =>
    cases delegated with
    | true => exact sound
    | false => exact sound.updateCache_of_same fun _ => ids_markOptimistic
  | timeout clientNonce =>
    exact sound.updateCache_of_same fun _ => ids_applyTimeoutFailure
  | created message nonce =>
    refine sound.updateCache fun cache _ known id present => ?_
    rcases mem_ids_created present with rfl | earlier
    · exact permitted.1.known
    · exact known id earlier
  | broadcast message =>
    refine sound.updateCache fun cache _ known id present => ?_
    rcases mem_ids_broadcast present with rfl | earlier
    · exact permitted.1.known
    · exact known id earlier
  | updated messageId content version =>
    exact sound.updateCache_of_same fun _ => ids_updated
  | deleted messageId version =>
    exact sound.updateCache fun cache _ known id present =>
      known id (sublist_rows_deleted.subset present)
  | replied messageId replyCount =>
    exact sound.updateCache_of_same fun _ => ids_replied
  | invalidate =>
    refine sound.withRefetch ⟨forall_mem_nil _, Pairwise.nil⟩ fun _ => ?_
    rw [Refetch.complete]
    cases state.cache <;> simp
  | readPage =>
    obtain ⟨refetch, isRefetch, -⟩ := permitted
    have next : state.take .readPage =
        { state with refetch := some (refetch.read state.log) } := by
      rw [take, isRefetch]
      rfl
    rw [next]
    refine sound.withRefetch (served_read sound.log (sound.fetched refetch isRefetch))
      fun none_ => ?_
    exact absurd none_ (append_ne_nil_of_right_ne_nil _ (cons_ne_nil _ _))
  | refetched =>
    rw [take]
    split
    next first rest wanted hasMore isRefetch =>
      have served := sound.fetched _ isRefetch
      refine ⟨fun id present => ?_, ⟨sound.log.stored, sound.log.newestFirst⟩,
        fun _ none_ => (by cases none_), fun _ none_ => (by cases none_), sound.sent, sound.ofOne⟩
      obtain ⟨row, rowMem, rfl⟩ := mem_map.mp present
      exact .inl (served.stored row rowMem)
    · exact sound

end SendClient

end Steps

end Bongtalk.Web
