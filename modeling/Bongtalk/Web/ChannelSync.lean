import Bongtalk.Library.EventLoop
import Bongtalk.Web.MessageList
import Mathlib.Data.Prod.Lex

/-!
# Synchronization of a channel

Socket events keep the list of a channel up to date. Their sequence numbers tell of holes, and after
a hole or a truncated replay the client fetches the messages behind its first page.
-/

namespace Bongtalk.Web

open Library Prisma

abbrev MessageCursor := DateTime × MessageId

/-- The order of the list, by `createdAt` and then by id. -/
abbrev ListOrder := DateTime ×ₗ Nat

def Row.order (row : Row) : ListOrder :=
  toLex (row.createdAt, row.id.position)

/-- A message as the server answers it. What is deleted is masked. -/
structure MessageDto where
  id : MessageId
  authorId : UserId
  content : Option String
  createdAt : DateTime
  parentMessageId : Option MessageId := none
  replyCount : Nat := 0
  isBroadcast : Bool := false
  version : Nat := 0
  deleted : Bool := false
deriving DecidableEq, Repr

open MessageDto

namespace MessageDto

variable (message : MessageDto)

def row : Row where
  id := .message message.id
  authorId := .user message.authorId
  content := message.content
  createdAt := message.createdAt
  parentMessageId := message.parentMessageId
  replyCount := if 0 < message.replyCount then some message.replyCount else none
  isBroadcast := message.isBroadcast
  version := some message.version
  deleted := message.deleted

/-- The row in the payload of an event, which has no version. -/
def payload : Row :=
  { message.row with version := none }

def cursor : MessageCursor :=
  (message.createdAt, message.id)

def order : ListOrder :=
  toLex (message.createdAt, message.id.value)

/-- The thread that a reply is in. A broadcast row is no reply. -/
def repliesTo : Option MessageId :=
  if message.isBroadcast then none else message.parentMessageId

/-- The filter of the channel list: roots and broadcasts, and deleted ones with replies. -/
def isListed : Bool :=
  (message.parentMessageId.isNone || message.isBroadcast) &&
    (!message.deleted || decide (0 < message.replyCount))

end MessageDto

/-! The server. -/

/-- A page of the list, the newest message first. -/
structure ListPage where
  items : List MessageDto
  hasMore : Bool
deriving DecidableEq, Repr

def ListPage.prevCursor (page : ListPage) : Option MessageCursor :=
  page.items.head?.map cursor

/-- The messages of a channel, the newest first. -/
abbrev MessageTable := List MessageDto

namespace MessageTable

variable (table : MessageTable)

def listed : List MessageDto :=
  table.filter isListed

/-- The page without a cursor. -/
def newestPage : ListPage where
  items := table.listed.take messagePageLimit
  hasMore := decide (messagePageLimit < table.listed.length)

/-- The page behind an `after` cursor: of what is newer, the messages nearest to it. -/
def pageAfter (after : MessageCursor) : ListPage :=
  let newer := table.listed.filter fun message => toLex (after.1, after.2.value) < message.order
  ⟨newer.drop (newer.length - messagePageLimit), decide (messagePageLimit < newer.length)⟩

def insert (message : MessageDto) : MessageTable :=
  table.filter (fun other => message.order < other.order) ++
    message :: table.filter fun other => other.order < message.order

def find (messageId : MessageId) : Option MessageDto :=
  table.find? fun message => message.id = messageId

def patch (messageId : MessageId) (change : MessageDto → MessageDto) : MessageTable :=
  table.map fun message => if message.id = messageId then change message else message

/-- The count of a thread changes while its root is not deleted. -/
def countReplies (root : Option MessageId) (change : Nat → Nat) : MessageTable :=
  table.map fun message =>
    if root = some message.id ∧ message.deleted = false then
      { message with replyCount := change message.replyCount }
    else message

end MessageTable

/-- The channel events that the dispatcher handles. -/
inductive ChannelEvent where
  | created (message : MessageDto) (nonce : Option ClientNonce)
  | broadcast (message : MessageDto)
  | updated (messageId : MessageId) (content : String) (version : Nat)
  | deleted (messageId : MessageId) (version : Option Nat)
  | replied (rootMessageId : MessageId) (replyCount : Nat)
  /-- Reactions, pins and the like, which leave the rows of the list as they are. -/
  | other
deriving DecidableEq, Repr

inductive Commit where
  | post (message : MessageDto) (nonce : Option ClientNonce)
  | edit (messageId : MessageId) (content : String)
  | delete (messageId : MessageId)
  | other
deriving DecidableEq, Repr

namespace Commit

variable (table : MessageTable)

def apply : Commit → MessageTable
  | post message _ => (table.insert message).countReplies message.repliesTo (· + 1)
  | edit messageId content =>
    table.patch messageId fun message =>
      { message with content := some content, version := message.version + 1 }
  | delete messageId =>
    (table.patch messageId fun message =>
      { message with content := none, deleted := true }).countReplies
        ((table.find messageId).bind repliesTo) (· - 1)
  | other => table

def events (commit : Commit) : List ChannelEvent :=
  match commit with
  | post message nonce =>
    if message.isBroadcast then [.broadcast message]
    else .created message nonce :: message.repliesTo.toList.map fun root =>
      .replied root (((commit.apply table).find root).elim 0 replyCount)
  | edit messageId content =>
    [.updated messageId content ((table.find messageId).elim 0 version + 1)]
  | delete messageId => [.deleted messageId ((table.find messageId).map version)]
  | other => [.other]

end Commit

/-- An event as it is emitted. The sequence number is missing while Redis is down. -/
structure Envelope where
  id : Nat
  seq : Option Nat
  event : ChannelEvent
deriving DecidableEq, Repr

/-! The client. -/

/-- The dispatcher, on the list of the channel. Replies go to the list of their thread. -/
def ChannelEvent.dispatch (cache : MessageListCache) : ChannelEvent → MessageListCache
  | created message nonce =>
    if message.parentMessageId.isSome then cache else cache.created message.payload nonce
  | broadcast message => cache.broadcast message.payload
  | updated messageId content version => cache.updated messageId content version
  | deleted messageId version => cache.deleted messageId version
  | replied rootMessageId replyCount => cache.replied rootMessageId replyCount
  | other => cache

inductive ChannelSyncState where
  | disconnected
  | reconnecting
  | gapFetching
  | synced
  | syncFailed
deriving DecidableEq, Repr

inductive ChannelSyncEvent where
  | connect
  | disconnect
  | replayComplete
  | gapNeeded
  | seqHole
  | synced
  | failed
  | retry
deriving DecidableEq, Repr

def transition : ChannelSyncState → ChannelSyncEvent → ChannelSyncState
  | _, .disconnect => .disconnected
  | .disconnected, .connect => .reconnecting
  | .reconnecting, .gapNeeded | .reconnecting, .seqHole => .gapFetching
  | .reconnecting, .replayComplete => .synced
  | .gapFetching, .synced => .synced
  | .gapFetching, .failed => .syncFailed
  | .synced, .seqHole | .synced, .gapNeeded => .gapFetching
  | .synced, .connect => .reconnecting
  | .syncFailed, .retry => .gapFetching
  | .syncFailed, .connect => .reconnecting
  | state, _ => state

inductive SeqObservation where
  | ok
  | hole (expected got : Nat)
  | sentinel
  | duplicate
deriving DecidableEq, Repr

/-- `SeqTracker.observe`, with the number that is the last one from then on. -/
def observe (lastSeq seq : Option Nat) : SeqObservation × Option Nat :=
  match seq with
  | none => (.sentinel, lastSeq)
  | some seq =>
    match lastSeq with
    | none => (.ok, some seq)
    | some prev =>
      if seq ≤ prev then (.duplicate, some prev)
      else if seq = prev + 1 then (.ok, some seq)
      else (.hole (prev + 1) seq, some seq)

/-- `GAP_FETCH_MAX_PAGES`. -/
def gapFetchMaxPages : Nat :=
  10

/-- `PENDING_EVENTS_MAX`. -/
def pendingEventsMax : Nat :=
  200

/-- `maxAttempts` of `Backoff`. -/
def maxAttempts : Nat :=
  3

/-- `PendingEventBuffer`. Nothing reads the events in it. -/
structure PendingEventBuffer where
  size : Nat := 0
  overflowed : Bool := false
deriving DecidableEq, Repr

def PendingEventBuffer.push (buffer : PendingEventBuffer) : PendingEventBuffer :=
  if pendingEventsMax ≤ buffer.size then { buffer with overflowed := true }
  else { buffer with size := buffer.size + 1 }

/-- The loop of `runGapFetch`. -/
structure GapFetch where
  byId : List MessageDto := []
  after : MessageCursor
  pages : Nat := 0
deriving DecidableEq, Repr

inductive SyncTask where
  /-- `syncChannelOnce`, up to its first request. -/
  | syncChannelOnce
  | fetchPage (fetch : GapFetch)
  /-- The rest of `syncChannelOnce`. -/
  | merge (messages : List MessageDto) (truncated : Bool)
  | loadPage
  | loaded (page : ListPage)
deriving DecidableEq, Repr

/-- One response of the loop, as the server reads it. -/
def GapFetch.fetchPage (fetch : GapFetch) (table : MessageTable) : SyncTask :=
  let page := table.pageAfter fetch.after
  let byId := page.items.foldl
    (fun byId message => byId.filter (fun other => other.id ≠ message.id) ++ [message]) fetch.byId
  let messages := byId.insertionSort fun first second => first.id.value ≤ second.id.value
  if page.hasMore then
    match page.prevCursor with
    | none => .merge messages false
    | some next =>
      if next = fetch.after then .merge messages false
      else if gapFetchMaxPages ≤ fetch.pages + 1 then .merge messages true
      else .fetchPage ⟨byId, next, fetch.pages + 1⟩
  else .merge messages false

namespace MessageListCache

variable (cache : MessageListCache)

/-- The fetched roots that no page holds. -/
def additions (fetched : List MessageDto) : List Row :=
  (fetched.filter fun message => message.parentMessageId.isNone &&
    !cache.rows.any fun row => row.id = .message message.id).map MessageDto.row

def mergeGapMessages (fetched : List MessageDto) : MessageListCache :=
  if cache.additions fetched = [] then cache
  else cache.withFirst ((cache.first.items ++ cache.additions fetched).insertionSort
    fun newer older => older.order ≤ newer.order)

end MessageListCache

/-- What `installChannelSync` and its store keep of the channel. -/
structure SyncStatus where
  state : ChannelSyncState := .disconnected
  truncated : Bool := false
  lastSeq : Option Nat := none
  pending : PendingEventBuffer := {}
  attempts : Nat := 0
  /-- How often `runSync` waits for the fetch in flight. -/
  waiting : Nat := 0
  retryTimer : Bool := false
  /-- Whether `resolveChannelRoute` knows the channel. -/
  routed : Bool := true
deriving DecidableEq, Repr

namespace SyncStatus

variable (sync : SyncStatus)

def dispatch (event : ChannelSyncEvent) : SyncStatus :=
  { sync with state := transition sync.state event }

/-- A channel has an entry in the tracker once it has been seen. -/
def dispatchTracked (event : ChannelSyncEvent) : SyncStatus :=
  if sync.lastSeq.isSome then sync.dispatch event else sync

/-- A second call shares the fetch in flight. -/
def runSync : SyncStatus × List SyncTask :=
  if sync.routed then
    ({ sync with waiting := sync.waiting + 1 },
      if sync.waiting = 0 then [.syncChannelOnce] else [])
  else ({ sync.dispatch .synced with pending := {} }, [])

def enterGapFetch (reason : ChannelSyncEvent) : SyncStatus × List SyncTask :=
  let next := sync.dispatch reason
  if next.state = .gapFetching then runSync { next with attempts := 0 } else (next, [])

/-- `onChannelEvent`. -/
def onChannelEvent (seq : Option Nat) : SyncStatus × List SyncTask :=
  if sync.state = .gapFetching then ({ sync with pending := sync.pending.push }, [])
  else
    let observed := observe sync.lastSeq seq
    let next := { sync with lastSeq := observed.2 }
    match observed.1 with
    | .hole _ _ => next.enterGapFetch .seqHole
    | _ => (next, [])

/-- The end of `syncChannelOnce`, and the callback of each call that waits for it. -/
def succeed (truncated : Bool) : SyncStatus :=
  { sync.dispatch .synced with
    truncated := sync.truncated || truncated || sync.pending.overflowed
    pending := {}
    attempts := 0
    waiting := 0 }

/-- One callback after a failure. -/
def failOnce : SyncStatus :=
  let next := { sync with attempts := sync.attempts + 1 }
  if maxAttempts ≤ next.attempts then next.dispatch .failed else { next with retryTimer := true }

def fail : SyncStatus :=
  failOnce^[sync.waiting] { sync with waiting := 0 }

end SyncStatus

/-- A channel on the server, its events on their way, and one client. -/
structure ChannelSync where
  table : MessageTable := []
  seq : Nat := 0
  emitted : List Envelope := []
  /-- The events that are neither delivered nor lost. -/
  outstanding : List Envelope := []
  restUp : Bool := true
  cache : Option MessageListCache := none
  /-- `pageInfo.hasMore` of the page that was loaded. -/
  hasOlder : Bool := false
  loading : Bool := false
  sync : SyncStatus := {}
deriving DecidableEq, Repr

namespace ChannelSync

variable (state : ChannelSync)

def emit (redisUp : Bool) (event : ChannelEvent) : ChannelSync :=
  let seq := if redisUp then state.seq + 1 else state.seq
  let envelope := ⟨state.emitted.length, if redisUp then some seq else none, event⟩
  { state with
    seq := seq
    emitted := state.emitted ++ [envelope]
    outstanding := state.outstanding ++ [envelope] }

def commit (commit : Commit) (redisUp : Bool) : ChannelSync :=
  (commit.events state.table).foldl (fun state event => state.emit redisUp event)
    { state with table := commit.apply state.table }

/-- The dispatcher is installed first, so its handler runs first. -/
def deliver (envelope : Envelope) : ChannelSync × List SyncTask :=
  let received := state.sync.onChannelEvent envelope.seq
  ({ state with
      outstanding := state.outstanding.erase envelope
      cache := state.cache.map fun cache => envelope.event.dispatch cache
      sync := received.1 },
    received.2)

def withSync (sync : SyncStatus × List SyncTask) : ChannelSync × List SyncTask :=
  ({ state with sync := sync.1 }, sync.2)

end ChannelSync

def SyncTask.resume (state : ChannelSync) : SyncTask → ChannelSync × List SyncTask
  | .syncChannelOnce =>
    match state.cache.bind fun cache => cache.first.prevCursor with
    | none => ({ state with sync := state.sync.succeed false }, [])
    | some after => (state, [.fetchPage { after := after }])
  | .fetchPage fetch =>
    if state.restUp then (state, [fetch.fetchPage state.table])
    else ({ state with sync := state.sync.fail }, [])
  | .merge messages truncated =>
    ({ state with
        cache := state.cache.map fun cache => cache.mergeGapMessages messages
        sync := state.sync.succeed truncated }, [])
  | .loadPage =>
    if state.restUp then (state, [.loaded state.table.newestPage])
    else ({ state with loading := false }, [])
  | .loaded page =>
    ({ state with
        cache := some ⟨⟨page.items.map row, page.prevCursor⟩, []⟩
        hasOlder := page.hasMore
        loading := false }, [])

inductive SyncInput where
  | commit (commit : Commit) (redisUp : Bool)
  /-- An event comes, for the first time or again. -/
  | deliver (envelope : Envelope)
  | lose (envelope : Envelope)
  | connect
  | disconnect
  | channelJoined (seq : Option Nat)
  | replayComplete
  /-- `channelIds` of the payload, where it has them: whether the channel is among them. -/
  | replayTruncated (channelIds : Option Bool)
  | load
  /-- The timer of a retry. -/
  | retry
  | setRest (restUp : Bool)
  | setRoute (routed : Bool)
deriving DecidableEq, Repr

namespace SyncInput

/-- A new message has an id of its own, and what is edited or deleted is there. -/
def Allowed (state : ChannelSync) : SyncInput → Prop
  | .commit (.post message _) _ => ∀ other ∈ state.table, other.id ≠ message.id
  | .commit (.edit messageId _) _ | .commit (.delete messageId) _ =>
    ∃ message ∈ state.table, message.id = messageId ∧ message.deleted = false
  | .deliver envelope => envelope ∈ state.emitted
  | .lose envelope => envelope ∈ state.outstanding
  | .load => state.cache = none ∧ state.loading = false
  | .retry => state.sync.retryTimer = true
  | _ => True

def take (state : ChannelSync) : SyncInput → ChannelSync × List SyncTask
  | .commit change redisUp => (state.commit change redisUp, [])
  | .deliver envelope => state.deliver envelope
  | .lose envelope => ({ state with outstanding := state.outstanding.erase envelope }, [])
  | .connect => state.withSync (state.sync.dispatchTracked .connect, [])
  | .disconnect => state.withSync (state.sync.dispatchTracked .disconnect, [])
  | .channelJoined seq => state.withSync ({ state.sync with lastSeq := seq <|> state.sync.lastSeq }, [])
  | .replayComplete => state.withSync (state.sync.dispatchTracked .replayComplete, [])
  | .replayTruncated channelIds =>
    state.withSync (if channelIds.getD state.sync.lastSeq.isSome then
      state.sync.enterGapFetch .gapNeeded else (state.sync, []))
  | .load => ({ state with loading := true }, [.loadPage])
  | .retry => state.withSync (SyncStatus.runSync { state.sync with retryTimer := false })
  | .setRest restUp => ({ state with restUp := restUp }, [])
  | .setRoute routed => state.withSync ({ state.sync with routed := routed }, [])

end SyncInput

def syncLoop : EventLoop ChannelSync SyncTask SyncInput where
  resume := fun state task => task.resume state
  Accepts state input next spawned :=
    input.Allowed state ∧ next = (input.take state).1 ∧ spawned = (input.take state).2

end Bongtalk.Web
