import Bongtalk.Queue.MentionWorkers

/-!
# The messaging system

Requests, workers and the outside world take steps on one store, in any order. Requests are
sends, edits and deletes; workers run their jobs any number of times; rows, cache
entries and settings change from outside. What a step can do to messages, attachments and the
cache is said once, and the invariants of runs follow from it.
-/

namespace Bongtalk.Messaging

open Library Messages Prisma Queue Function

/-- The steps of the system. -/
inductive StoreEvent where
  | send (call : SendCall) (args : SendArgs)
  | edit
  | delete
  | reconcile
  | purge
  | expire (authorId : UserId) (key : IdempotencyKey)
  | upload
  | finalize
  | discard
  | configure
  | broadcast (job : MentionBroadcastJob) (now : DateTime)
  | scanRead (job : MentionScanJob) (now : DateTime)
  | scanInsert (job : MentionScanJob) (targetIds : List UserId)
  | scanAbort (job : MentionScanJob) (targetIds : List UserId)

section Step

variable {World : Type}

/-- Drop the cache entry of a key. -/
def expireEntry (store : Store World) (authorId : UserId) (key : IdempotencyKey) : Store World :=
  { store with
    idemCache := update store.idemCache authorId (update (store.idemCache authorId) key none) }

/-- Mark an upload as complete. -/
def finalizeAttachment (store : Store World) (id : AttachmentId) (finalizedAt : DateTime) :
    Store World :=
  { store with
    attachments := store.attachments.rewrite
      (fun row => if row.id = id then { row with finalizedAt := some finalizedAt } else row)
      fun row => by split <;> rfl }

inductive StoreStep (runtime : Runtime World) : Store World → StoreEvent → Store World → Prop where
  | send {store} (call : SendCall) (args : SendArgs) :
      StoreStep runtime store (.send call args) (Messages.send runtime call store args).2
  | edit {store channelId msgId expectedVersion content contentPlain mentions editedAt messages}
      (updated : update store.messages channelId msgId expectedVersion content contentPlain mentions
        editedAt = .ok messages) :
      StoreStep runtime store .edit { store with messages := messages }
  | delete {store} (channelId : ChannelId) (msgId : MessageId) (deletedAt : DateTime) :
      StoreStep runtime store .delete
        { store with messages := softDelete store.messages channelId msgId deletedAt }
  | reconcile {store} :
      StoreStep runtime store .reconcile
        { store with messages := (Messages.reconcile store.messages).1 }
  /-- Rows of messages go with their channel, and their records and attachments with them. -/
  | purge {store messages mentionRecords attachments}
      (kept : ∀ message ∈ messages, message ∈ store.messages)
      (keptRecords : ∀ record, record ∈ mentionRecords ↔
        record ∈ store.mentionRecords ∧ ∃ message ∈ messages, message.id = record.messageId)
      (keptAttachments : ∀ row ∈ attachments, row ∈ store.attachments) :
      StoreStep runtime store .purge
        { store with
          messages := messages, mentionRecords := mentionRecords, attachments := attachments }
  | expire {store} (authorId : UserId) (key : IdempotencyKey) :
      StoreStep runtime store (.expire authorId key) (expireEntry store authorId key)
  | upload {store attachment attachments} (fresh : attachment.id = ⟨store.nextAttachmentId⟩)
      (inserted : store.attachments.insert? attachment = some attachments) :
      StoreStep runtime store .upload
        { store with
          attachments := attachments, nextAttachmentId := store.nextAttachmentId + 1 }
  | finalize {store} (id : AttachmentId) (finalizedAt : DateTime) :
      StoreStep runtime store .finalize (finalizeAttachment store id finalizedAt)
  | discard {store} (condition : Attachment → Bool) :
      StoreStep runtime store .discard
        { store with attachments := store.attachments.deleteMany condition }
  /-- Members, roles, overrides, settings and the outside services change. -/
  | configure {store} (db : Database) (tables : NotificationTables) (world : World) :
      StoreStep runtime store .configure { store with db := db, tables := tables, world := world }
  | broadcast {store job} (listed : job ∈ store.broadcastJobs) (now : DateTime) :
      StoreStep runtime store (.broadcast job now) (MentionBroadcast.run runtime store job now)
  | scanRead {store job} (listed : job ∈ store.scanJobs) (now : DateTime) :
      StoreStep runtime store (.scanRead job now) (MentionScan.read runtime store job now)
  | scanInsert {store job targetIds} (pending : (job, targetIds) ∈ store.scans)
      (present : ∃ message ∈ store.messages, message.id = job.messageId) :
      StoreStep runtime store (.scanInsert job targetIds) (MentionScan.insert store job targetIds)
  /-- A scan fails before its insert; its job may run again. -/
  | scanAbort {store job targetIds} (pending : (job, targetIds) ∈ store.scans) :
      StoreStep runtime store (.scanAbort job targetIds)
        { store with scans := store.scans.erase (job, targetIds) }

/-- The store before any message. -/
def initialStore (db : Database) (tables : NotificationTables) (world : World) : Store World where
  db := db
  tables := tables
  messages := .empty
  attachments := .empty
  mentionRecords := .empty
  outbox := []
  broadcastJobs := []
  scanJobs := []
  scans := []
  idemCache := fun _ _ => none
  nextMessageId := 0
  nextAttachmentId := 0
  world := world

/-- What any step can do to messages, attachments and the cache. -/
structure Frame (before after : Store World) : Prop where
  messages : ∀ message ∈ after.messages,
    (∃ old ∈ before.messages, message.identity = old.identity) ∨
      (before.nextMessageId ≤ message.id.value ∧ message.id.value < after.nextMessageId)
  nextMessage : before.nextMessageId ≤ after.nextMessageId
  attachments : ∀ row ∈ after.attachments,
    (∃ old ∈ before.attachments, old.id = row.id ∧ (old.messageId ≠ none → row.messageId ≠ none)) ∨
      (before.nextAttachmentId ≤ row.id.value ∧ row.id.value < after.nextAttachmentId)
  nextAttachment : before.nextAttachmentId ≤ after.nextAttachmentId
  cached : ∀ authorId key id, after.idemCache authorId key = some id →
    before.idemCache authorId key = some id ∨
      (id.value < after.nextMessageId ∧ ∀ message ∈ after.messages, message.id = id →
        message.authorId = authorId ∧ message.idempotencyKey = some key)

/-- Ids are drawn below their counters, and the cache knows each key's own message. -/
structure Consistent (store : Store World) : Prop where
  messageIds : ∀ message ∈ store.messages, message.id.value < store.nextMessageId
  attachmentIds : ∀ row ∈ store.attachments, row.id.value < store.nextAttachmentId
  cached : ∀ authorId key id, store.idemCache authorId key = some id →
    id.value < store.nextMessageId ∧ ∀ message ∈ store.messages, message.id = id →
      message.authorId = authorId ∧ message.idempotencyKey = some key

variable {before after : Store World}

variable {first second : Message}

section

variable (same : first.identity = second.identity)

include same

theorem id_eq_of_identity : first.id = second.id :=
  congrArg Prod.fst same

theorem authorId_eq_of_identity : first.authorId = second.authorId :=
  congrArg (fun identity => identity.2.1) same

theorem idempotencyKey_eq_of_identity : first.idempotencyKey = second.idempotencyKey :=
  congrArg (fun identity => identity.2.2.1) same

end

/-- What holds by identity of the message under an old id still holds. -/
theorem Frame.identity_of_old (frame : Frame before after) {id : MessageId}
    (old : id.value < before.nextMessageId) {message : Message} (present : message ∈ after.messages)
    (same : message.id = id) : ∃ old ∈ before.messages, old.id = id ∧ message.identity = old.identity := by
  rcases frame.messages message present with ⟨old, oldMem, sameIdentity⟩ | ⟨fresh, -⟩
  · exact ⟨old, oldMem, (id_eq_of_identity sameIdentity).symm.trans same, sameIdentity⟩
  rw [same] at fresh
  omega

theorem Frame.consistent (frame : Frame before after) (consistent : Consistent before) :
    Consistent after where
  messageIds := by
    intro message present
    rcases frame.messages message present with ⟨old, oldMem, same⟩ | ⟨-, below⟩
    · rw [id_eq_of_identity same]
      exact Nat.lt_of_lt_of_le (consistent.messageIds old oldMem) frame.nextMessage
    · exact below
  attachmentIds := by
    intro row present
    rcases frame.attachments row present with ⟨old, oldMem, same, -⟩ | ⟨-, below⟩
    · rw [← same]
      exact Nat.lt_of_lt_of_le (consistent.attachmentIds old oldMem) frame.nextAttachment
    · exact below
  cached := by
    intro authorId key id entry
    rcases frame.cached authorId key id entry with oldEntry | fresh
    · obtain ⟨below, keyed⟩ := consistent.cached authorId key id oldEntry
      refine ⟨Nat.lt_of_lt_of_le below frame.nextMessage, fun message present same => ?_⟩
      obtain ⟨old, oldMem, oldId, sameIdentity⟩ := frame.identity_of_old below present same
      rw [authorId_eq_of_identity sameIdentity, idempotencyKey_eq_of_identity sameIdentity]
      exact keyed old oldMem oldId
    · exact fresh

/-- A step that leaves messages, attachments, cache and counters alone. -/
theorem Frame.of_same (messages : after.messages = before.messages)
    (attachments : after.attachments = before.attachments)
    (idemCache : after.idemCache = before.idemCache)
    (nextMessageId : after.nextMessageId = before.nextMessageId)
    (nextAttachmentId : after.nextAttachmentId = before.nextAttachmentId) :
    Frame before after where
  messages := by
    intro message present
    rw [messages] at present
    exact .inl ⟨message, present, rfl⟩
  nextMessage := by omega
  attachments := by
    intro row present
    rw [attachments] at present
    exact .inl ⟨row, present, rfl, id⟩
  nextAttachment := by omega
  cached := by
    intro authorId key id entry
    rw [idemCache] at entry
    exact .inl entry

/-- A step on the message rows that keeps their identity. -/
theorem Frame.of_messages {messages : MessageTable}
    (kept : ∀ message ∈ messages, ∃ old ∈ before.messages, message.identity = old.identity) :
    Frame before { before with messages := messages } where
  messages := fun message present => .inl (kept message present)
  nextMessage := Nat.le_refl _
  attachments := fun row present => .inl ⟨row, present, rfl, id⟩
  nextAttachment := Nat.le_refl _
  cached := fun _ _ _ entry => .inl entry

/-- A step on the attachments that links some and unlinks none. -/
theorem Frame.of_attachments {attachments : Table Attachment Attachment.id}
    (kept : ∀ row ∈ attachments, ∃ old ∈ before.attachments,
      old.id = row.id ∧ (old.messageId ≠ none → row.messageId ≠ none)) :
    Frame before { before with attachments := attachments } where
  messages := fun message present => .inl ⟨message, present, rfl⟩
  nextMessage := Nat.le_refl _
  attachments := fun row present => .inl (kept row present)
  nextAttachment := Nat.le_refl _
  cached := fun _ _ _ entry => .inl entry

/-- The rows after a send are old ones, the new one, and a broadcast copy at most. -/
theorem identity_of_sent {call : SendCall} {store : Store World} {args : SendArgs}
    {mentions : Mentions} {contentPlain : String} {messages : MessageTable}
    (sent : sendTransaction store.messages (args.row call store mentions contentPlain) =
      .ok messages) :
    ∀ message ∈ messages, (∃ old ∈ store.messages, message.identity = old.identity) ∨
      message.identity = (args.row call store mentions contentPlain).message.identity ∨
      message.id = ⟨store.nextMessageId + 1⟩ := by
  intro message present
  refine ((identity_sendTransaction sent).2 message present).imp_right (Or.imp_right fun copied => ?_)
  simp only [SendArgs.row] at copied
  split at copied
  · exact (Option.some.inj copied).symm
  · cases copied

/-- A send keeps old messages by identity and draws fresh ids for new ones; the cache learns the id
of the message it created or found. -/
theorem frame_send (runtime : Runtime World) (call : SendCall) {store : Store World}
    (consistent : Consistent store) (args : SendArgs) :
    Frame store (Messages.send runtime call store args).2 := by
  have outcome := send_outcome runtime call store args
  generalize Messages.send runtime call store args = answer at outcome
  cases outcome with
  | refused failure world | cached found same => exact .of_same rfl rfl rfl rfl rfl
  | @created world contentPlain messages _ _ _ sent =>
    obtain ⟨idemCache, cacheEq, entries⟩ := writeIdemCache_eq call
      (Store.created runtime call { store with world := world } args
        (gatedMentions runtime store args)
        (args.row call store (gatedMentions runtime store args) contentPlain).message messages)
      args ⟨store.nextMessageId⟩
    rw [cacheEq]
    have rows := identity_of_sent sent
    constructor
    · intro message present
      apply (rows message present).imp_right
      rintro (same | copied)
      · have idEq : message.id = ⟨store.nextMessageId⟩ := id_eq_of_identity same
        simp only [idEq, Store.created]
        omega
      · simp only [copied, Store.created]
        omega
    · exact Nat.le_add_right _ _
    · intro row present
      obtain ⟨old, oldMem, same, keeps, -⟩ := mem_linkAttachments present
      exact .inl ⟨old, oldMem, same, keeps⟩
    · exact Nat.le_refl _
    · intro authorId key id entry
      apply (entries authorId key id entry).imp_right
      rintro ⟨rfl, keyed, rfl⟩
      refine ⟨by simp only [Store.created]; omega, fun message present same => ?_⟩
      rcases rows message present with ⟨old, oldMem, sameIdentity⟩ | sameIdentity | copied
      · have below := consistent.messageIds old oldMem
        rw [← id_eq_of_identity sameIdentity, same] at below
        exact absurd below (Nat.lt_irrefl _)
      · exact ⟨authorId_eq_of_identity sameIdentity,
          (idempotencyKey_eq_of_identity sameIdentity).trans keyed⟩
      · rw [same] at copied
        simp only [MessageId.mk.injEq] at copied
        omega
  | @replayed world key existing _ keyed found same =>
    obtain ⟨idemCache, cacheEq, entries⟩ :=
      writeIdemCache_eq call { store with world := world } args existing.id
    rw [cacheEq]
    obtain ⟨present, authorEq, keyEq⟩ := MessageTable.findByKey_eq_some_iff.mp found
    constructor
    · exact fun message messageMem => .inl ⟨message, messageMem, rfl⟩
    · exact Nat.le_refl _
    · exact fun row rowMem => .inl ⟨row, rowMem, rfl, id⟩
    · exact Nat.le_refl _
    · intro authorId other id entry
      apply (entries authorId other id entry).imp_right
      rintro ⟨rfl, otherKeyed, rfl⟩
      refine ⟨consistent.messageIds existing present, fun message messageMem sameId => ?_⟩
      obtain rfl := Table.eq_of_key_eq messageMem present sameId
      exact ⟨authorEq, keyEq.trans (keyed.symm.trans otherKeyed)⟩

/-- Every step keeps to the frame. -/
theorem frame_of_step {runtime : Runtime World} {event : StoreEvent}
    (step : StoreStep runtime before event after) (consistent : Consistent before) :
    Frame before after := by
  cases step with
  | send call args => exact frame_send runtime call consistent args
  | edit updated => exact .of_messages fun _ present => identity_update updated present
  | delete channelId msgId deletedAt => exact .of_messages fun _ present => identity_softDelete present
  | reconcile => exact .of_messages fun _ present => identity_reconcile present
  | purge kept keptRecords keptAttachments =>
    constructor
    · exact fun message present => .inl ⟨message, kept message present, rfl⟩
    · exact Nat.le_refl _
    · exact fun row present => .inl ⟨row, keptAttachments row present, rfl, id⟩
    · exact Nat.le_refl _
    · exact fun _ _ _ entry => .inl entry
  | expire authorId key =>
    constructor
    · exact fun message present => .inl ⟨message, present, rfl⟩
    · exact Nat.le_refl _
    · exact fun row present => .inl ⟨row, present, rfl, id⟩
    · exact Nat.le_refl _
    · intro author other id entry
      left
      simp only [expireEntry] at entry
      by_cases sameAuthor : author = authorId
      · subst sameAuthor
        rw [update_self] at entry
        by_cases sameKey : other = key
        · subst sameKey
          rw [update_self] at entry
          cases entry
        · rwa [update_of_ne sameKey] at entry
      · rwa [update_of_ne sameAuthor] at entry
  | @upload attachment attachments fresh inserted =>
    constructor
    · exact fun message present => .inl ⟨message, present, rfl⟩
    · exact Nat.le_refl _
    · intro row present
      rcases (Table.mem_insert? inserted).mp present with rfl | old
      · right
        rw [fresh]
        exact ⟨Nat.le_refl _, Nat.lt_succ_self _⟩
      · exact .inl ⟨row, old, rfl, id⟩
    · exact Nat.le_succ _
    · exact fun _ _ _ entry => .inl entry
  | finalize id finalizedAt =>
    refine .of_attachments fun row present => ?_
    obtain ⟨old, oldMem, rfl⟩ := Table.mem_rewrite.mp present
    refine ⟨old, oldMem, ?_⟩
    split <;> exact ⟨rfl, fun linked => linked⟩
  | discard condition =>
    refine .of_attachments fun row present => ?_
    exact ⟨row, (Table.mem_deleteMany.mp present).1, rfl, id⟩
  | configure db tables world | broadcast listed now | scanRead listed now
  | scanInsert pending present | scanAbort pending => exact .of_same rfl rfl rfl rfl rfl

theorem consistent_initialStore (db : Database) (tables : NotificationTables) (world : World) :
    Consistent (initialStore db tables world) where
  messageIds := fun _ present => nomatch present
  attachmentIds := fun _ present => nomatch present
  cached := nofun

/-- Every reachable store is consistent. -/
theorem consistent_of_steps {runtime : Runtime World} {events : List StoreEvent}
    (steps : Steps (StoreStep runtime) before events after) (consistent : Consistent before) :
    Consistent after :=
  steps.preserves Consistent (fun step held => (frame_of_step step held).consistent held) consistent

end Step

/-- Services outside that admit every text. -/
def quietRuntime : Runtime Unit where
  toLowerCase := (·.map Char.toLower)
  zoneClock := fun _ _ => none
  presence := none
  mentionBroadcast := true
  mentionScan := true
  enforce := fun world args _ => (.ok args.content, world)

end Bongtalk.Messaging
