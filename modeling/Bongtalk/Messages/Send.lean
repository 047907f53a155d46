import Bongtalk.Messages.MentionFanout
import Bongtalk.Messages.Thread

/-!
# Sending a message

A send answers a known idempotency key from the cache, checks its attachments, its parent and
its mentions, and then writes the message, its notifications and its jobs in
one transaction. A repeated key is found there at the latest, by the unique index.
-/

namespace Bongtalk.Messages

open Library Common Messages.Mentions Notifications Prisma

structure AttachmentId where
  value : Nat
deriving DecidableEq, Repr

structure Attachment where
  id : AttachmentId
  channelId : ChannelId
  messageId : Option MessageId := none
  uploaderId : UserId
  finalizedAt : Option DateTime := none
  linkedAt : Option DateTime := none
deriving DecidableEq, Repr

inductive MentionTargetType where
  | user
  | role
  | keyword
deriving DecidableEq, Repr

structure MentionRecord where
  messageId : MessageId
  targetId : UserId
  targetType : MentionTargetType
  channelId : ChannelId
  workspaceId : WorkspaceId
deriving DecidableEq, Repr

/-- The unique key of a mention record. -/
def MentionRecord.key (record : MentionRecord) : MessageId × UserId × MentionTargetType :=
  (record.messageId, record.targetId, record.targetType)

structure MentionBroadcastJob where
  messageId : MessageId
  channelId : ChannelId
  workspaceId : WorkspaceId
  actorId : UserId
  parentMessageId : Option MessageId
  gatedRoleIds : List RoleId
  syncNotifiedUserIds : List UserId
  snippet : List Char
  everyone : Bool
  here : Bool
  createdAt : DateTime
deriving DecidableEq, Repr

structure MentionScanJob where
  messageId : MessageId
  channelId : ChannelId
  workspaceId : WorkspaceId
  actorId : UserId
  snippet : List Char
  createdAt : DateTime
  syncNotifiedUserIds : List UserId
deriving DecidableEq, Repr

/-- The scope mentions a client asks for besides those in the text. -/
structure MentionsHint where
  everyone : Bool := false
  here : Bool := false
  channel : Bool := false
deriving DecidableEq, Repr

structure SendArgs where
  workspaceId : Option WorkspaceId
  channelId : ChannelId
  authorId : UserId
  content : String
  idempotencyKey : Option IdempotencyKey := none
  parentMessageId : Option MessageId := none
  attachmentIds : List AttachmentId := []
  hasMentionEveryone : Bool := false
  hasMentionChannel : Bool := false
  bulkMentionConfirmed : Bool := false
  mentionsHint : MentionsHint := {}
  isBroadcast : Bool := false
  actorRole : Option WorkspaceRole := none
  actorMemberRoleUuids : Option (List RoleId) := none
deriving DecidableEq, Repr

structure SendResult where
  message : Message
  replayed : Bool
deriving DecidableEq, Repr

/-- What a send runs on besides the database. -/
structure Runtime (World : Type) where
  /-- `String.prototype.toLowerCase`. -/
  toLowerCase : List Char → List Char
  zoneClock : ZoneClock
  /-- The presence service, if it is there. -/
  presence : Option (World → Presence)
  /-- Whether the queue of role mentions is there. -/
  mentionBroadcast : Bool
  /-- Whether the queue of keyword scans is there. -/
  mentionScan : Bool
  /-- The rate limits on role mentions, the parser with its size limits and the moderation rules,
  which refuse a text or return its plain form. -/
  enforce : World → SendArgs → Mentions → Except Failure String × World

/-- The state a send reads and writes; `World` is the state of the services outside. -/
structure Store (World : Type) where
  db : Database
  tables : NotificationTables
  messages : MessageTable
  attachments : Table Attachment Attachment.id
  mentionRecords : Table MentionRecord MentionRecord.key
  /-- The `mention.received` rows recorded so far. -/
  outbox : List MentionReceived
  broadcastJobs : List MentionBroadcastJob
  scanJobs : List MentionScanJob
  /-- The scans between their reads and their insert, with the users they are going to record. -/
  scans : List (MentionScanJob × List UserId)
  /-- The entries of the idempotency cache that have not expired. -/
  idemCache : UserId → IdempotencyKey → Option MessageId
  /-- Fresh ids are drawn from here on. -/
  nextMessageId : Nat
  nextAttachmentId : Nat
  world : World

/-- What differs from call to call: whether the cache answers and accepts writes, and the clocks of
the service and of the database. -/
structure SendCall where
  readCache : Bool := true
  writeCache : Bool := true
  now : DateTime
  createdAt : DateTime

section Checks

variable {World : Type} (runtime : Runtime World) (store : Store World) (args : SendArgs)

/-- The message the cache knows for the key, if its row is still there. -/
def cachedMessage (call : SendCall) : Option Message :=
  if call.readCache then
    (args.idempotencyKey.bind (store.idemCache args.authorId)).bind store.messages.findUnique
  else none

/-- Answer with a stored message: another content under the same key is refused. -/
def replayStored (existing : Message) : Except Failure SendResult :=
  if existing.content ≠ args.content then
    failWith .idempotencyKeyReuseConflict "idempotency key already used with different content"
  else .ok ⟨existing, true⟩

/-- An attachment the request may link. -/
def isLinkable (row : Attachment) : Bool :=
  args.attachmentIds.contains row.id && row.channelId == args.channelId &&
    row.uploaderId == args.authorId && row.finalizedAt.isSome && row.messageId == none

def checkAttachments : Except Failure Unit :=
  if args.attachmentIds ≠ [] ∧
      (store.attachments.findMany (isLinkable args)).length ≠ args.attachmentIds.length then
    failWith .attachmentNotFound "one or more attachments are not finalized or already linked"
  else .ok ()

/-- The scope mentions of the text and of the client, as far as the author may make them. -/
def broadGated : Mentions :=
  let extracted := extractMentions store.db store.tables args.workspaceId args.content.toList
  let hint := if args.workspaceId = none then {} else args.mentionsHint
  let rawMentions := { extracted with
    everyone := extracted.everyone || hint.everyone
    here := extracted.here || hint.here
    channel := extracted.channel || hint.channel }
  gateChannelMention
    (gateHereMention (gateEveryoneMention rawMentions args.hasMentionEveryone)
      args.hasMentionChannel)
    args.hasMentionChannel

/-- The mentions of a message, after every gate. -/
def gatedMentions : Mentions :=
  let extractedRoles :=
    extractRoleMentions runtime.toLowerCase store.db args.workspaceId args.content.toList
  let allowedRoleIds := resolveAllowedRoleMentions store.db extractedRoles args.channelId
    args.workspaceId args.authorId args.actorRole args.actorMemberRoleUuids
  gateRoleMention { broadGated store args with roles := extractedRoles.map (·.id) } allowedRoleIds

/-- Whom a message may mention at once. -/
def checkMentions : Except Failure Unit := do
  let broad := broadGated store args
  match args.workspaceId with
  | some workspaceId =>
    if (broad.everyone || broad.here || broad.channel) && !args.bulkMentionConfirmed then
      enforceBulkMentionThreshold store.db workspaceId broad
  | none => pure ()
  let mentions := gatedMentions runtime store args
  if 50 < mentions.users.length then
    failWith .messageContentInvalid "message mentions too many users (max 50)"
  else if maxRoleMentionsPerMsg < mentions.roles.length then
    failWith .messageContentInvalid "message mentions too many roles (max 10)"
  else .ok ()

/-- The checks before the transaction that read the database alone. -/
def validate : Except Failure Unit := do
  checkAttachments store args
  validateParent store.messages args.channelId args.parentMessageId
  checkMentions runtime store args

end Checks

section Write

variable {World : Type} (runtime : Runtime World) (call : SendCall) (store : Store World)
variable (args : SendArgs)

/-- The row of a send under a fresh id. -/
def SendArgs.row (mentions : Mentions) (contentPlain : String) : SendRow where
  id := ⟨store.nextMessageId⟩
  channelId := args.channelId
  authorId := args.authorId
  content := args.content
  contentPlain := contentPlain
  mentions := mentions
  idempotencyKey := args.idempotencyKey
  parentMessageId := args.parentMessageId
  broadcastId := if args.isBroadcast then some ⟨store.nextMessageId + 1⟩ else none
  createdAt := call.createdAt

/-- Link the attachments of the request that are still free. -/
def linkAttachments (messageId : MessageId) : Table Attachment Attachment.id :=
  store.attachments.rewrite
    (fun row =>
      if args.attachmentIds.contains row.id && row.messageId == none &&
          row.uploaderId == args.authorId && row.channelId == args.channelId then
        { row with messageId := some messageId, linkedAt := some call.now }
      else row)
    fun row => by split <;> rfl

/-- What the fan-out of a created message works on. -/
def fanoutInput (mentions : Mentions) (message : Message) : FanoutInput where
  workspaceId := args.workspaceId
  mentions := mentions
  message := message
  now := call.now

/-- The users the send itself notifies of a created message. -/
def syncNotifiedUserIds (mentions : Mentions) (message : Message) : List UserId :=
  (fanoutInput call args mentions message).recipients store.db
    (runtime.presence.map (· store.world)) runtime.mentionBroadcast store.tables runtime.zoneClock

/-- The `mention.received` rows of a created message. -/
def mentionRows (mentions : Mentions) (message : Message) : List MentionReceived :=
  (fanoutInput call args mentions message).rows store.db
    (runtime.presence.map (· store.world)) runtime.mentionBroadcast store.tables runtime.zoneClock

/-- The job that notifies the members of the mentioned roles. -/
def broadcastJob (mentions : Mentions) (message : Message) : Option MentionBroadcastJob :=
  args.workspaceId.bind fun workspaceId =>
    if runtime.mentionBroadcast && !mentions.roles.isEmpty then
      some {
        messageId := message.id
        channelId := args.channelId
        workspaceId := workspaceId
        actorId := args.authorId
        parentMessageId := message.parentMessageId
        gatedRoleIds := mentions.roles
        syncNotifiedUserIds := syncNotifiedUserIds runtime call store args mentions message
        snippet := buildSnippet args.content
        everyone := mentions.everyone
        here := mentions.here
        createdAt := message.createdAt }
    else none

/-- The job that looks for keywords in a root message. -/
def scanJob (mentions : Mentions) (message : Message) : Option MentionScanJob :=
  args.workspaceId.bind fun workspaceId =>
    if runtime.mentionScan && message.parentMessageId == none then
      some {
        messageId := message.id
        channelId := args.channelId
        workspaceId := workspaceId
        actorId := args.authorId
        snippet := buildSnippet args.content
        createdAt := message.createdAt
        syncNotifiedUserIds := syncNotifiedUserIds runtime call store args mentions message }
    else none

section Jobs

variable {runtime call store args} {mentions : Mentions} {message : Message}

theorem broadcastJob_eq_some {job : MentionBroadcastJob}
    (enqueued : broadcastJob runtime call store args mentions message = some job) :
    job.messageId = message.id ∧
      job.syncNotifiedUserIds = syncNotifiedUserIds runtime call store args mentions message := by
  obtain ⟨workspaceId, -, made⟩ := Option.bind_eq_some_iff.mp enqueued
  split at made
  · cases made
    exact ⟨rfl, rfl⟩
  · cases made

theorem scanJob_eq_some {job : MentionScanJob}
    (enqueued : scanJob runtime call store args mentions message = some job) :
    job.messageId = message.id ∧
      job.syncNotifiedUserIds = syncNotifiedUserIds runtime call store args mentions message := by
  obtain ⟨workspaceId, -, made⟩ := Option.bind_eq_some_iff.mp enqueued
  split at made
  · cases made
    exact ⟨rfl, rfl⟩
  · cases made

end Jobs

/-- Write the cache entry of a key, if the cache accepts it. -/
def Store.writeIdemCache (messageId : MessageId) : Store World :=
  match args.idempotencyKey with
  | some key =>
    if call.writeCache then
      { store with
        idemCache := Function.update store.idemCache args.authorId
          (Function.update (store.idemCache args.authorId) key (some messageId)) }
    else store
  | none => store

/-- The store after a send has created its message. -/
def Store.created (mentions : Mentions) (message : Message) (messages : MessageTable) :
    Store World :=
  { store with
    messages := messages
    attachments := linkAttachments call store args message.id
    outbox := store.outbox ++ mentionRows runtime call store args mentions message
    broadcastJobs :=
      store.broadcastJobs ++ (broadcastJob runtime call store args mentions message).toList
    scanJobs := store.scanJobs ++ (scanJob runtime call store args mentions message).toList
    nextMessageId := store.nextMessageId + 2 }

/-- `MessagesService.send`: the answer and the store afterwards. -/
def send : Except Failure SendResult × Store World :=
  match cachedMessage store args call with
  | some existing => (replayStored args existing, store)
  | none =>
    match validate runtime store args with
    | .error failure => (.error failure, store)
    | .ok () =>
      let mentions := gatedMentions runtime store args
      match runtime.enforce store.world args mentions with
      | (.error failure, world) => (.error failure, { store with world := world })
      | (.ok contentPlain, world) =>
        let store := { store with world := world }
        let row := args.row call store mentions contentPlain
        match sendTransaction store.messages row with
        | .ok messages =>
          (.ok ⟨row.message, false⟩,
            (store.created runtime call args mentions row.message messages).writeIdemCache
              call args row.id)
        | .error .uniqueViolation =>
          match args.idempotencyKey.bind (store.messages.findByKey args.authorId) with
          | none => (.error .uniqueViolation, store)
          | some existing =>
            match replayStored args existing with
            | .error failure => (.error failure, store)
            | .ok result => (.ok result, store.writeIdemCache call args existing.id)
        | .error failure => (.error failure, store)

end Write

variable {World : Type}

/-- A cache write touches the cache alone, and there the one entry. -/
theorem writeIdemCache_eq (call : SendCall) (store : Store World) (args : SendArgs)
    (messageId : MessageId) :
    ∃ idemCache, store.writeIdemCache call args messageId = { store with idemCache := idemCache } ∧
      ∀ authorId key id, idemCache authorId key = some id →
        store.idemCache authorId key = some id ∨
          (authorId = args.authorId ∧ args.idempotencyKey = some key ∧ id = messageId) := by
  unfold Store.writeIdemCache
  split
  next key keyed =>
    split
    next =>
      refine ⟨_, rfl, fun authorId other id entry => ?_⟩
      by_cases sameAuthor : authorId = args.authorId
      · subst sameAuthor
        rw [Function.update_self] at entry
        by_cases sameKey : other = key
        · subst sameKey
          rw [Function.update_self] at entry
          exact .inr ⟨rfl, keyed, (Option.some.inj entry).symm⟩
        · rw [Function.update_of_ne sameKey] at entry
          exact .inl entry
      · rw [Function.update_of_ne sameAuthor] at entry
        exact .inl entry
    next => exact ⟨store.idemCache, rfl, fun _ _ _ entry => .inl entry⟩
  next => exact ⟨store.idemCache, rfl, fun _ _ _ entry => .inl entry⟩

variable {args : SendArgs}

variable {store : Store World}

/-- Linking takes no attachment away and unlinks none. -/
theorem mem_linkAttachments {call : SendCall} {messageId : MessageId} {row : Attachment}
    (present : row ∈ linkAttachments call store args messageId) :
    ∃ old ∈ store.attachments, old.id = row.id ∧ (old.messageId ≠ none → row.messageId ≠ none) ∧
      (isLinkable args old = true → row.messageId ≠ none) := by
  obtain ⟨old, oldMem, rfl⟩ := Table.mem_rewrite.mp present
  refine ⟨old, oldMem, ?_⟩
  split
  next => simp
  next other =>
    refine ⟨rfl, id, fun linkable => absurd ?_ other⟩
    simp only [isLinkable, Bool.and_eq_true] at linkable ⊢
    obtain ⟨⟨⟨⟨named, channel⟩, uploader⟩, -⟩, free⟩ := linkable
    exact ⟨⟨⟨named, free⟩, uploader⟩, channel⟩

/-- A request passes the check of its attachments when each of them is linkable, once. -/
theorem linkable_of_checkAttachments (checked : checkAttachments store args = .ok ())
    {id : AttachmentId} (named : id ∈ args.attachmentIds) :
    ∃ row ∈ store.attachments, row.id = id ∧ isLinkable args row = true := by
  have sameLength : (store.attachments.findMany (isLinkable args)).length =
      args.attachmentIds.length := by
    by_contra other
    have nonempty : args.attachmentIds ≠ [] := List.ne_nil_of_mem named
    rw [checkAttachments, if_pos ⟨nonempty, other⟩] at checked
    exact failWith_ne_ok checked
  let found := (store.attachments.findMany (isLinkable args)).map (·.id)
  have foundNodup : found.Nodup :=
    store.attachments.keysNodup.sublist (List.filter_sublist.map _)
  have foundNamed : found ⊆ args.attachmentIds := by
    intro other otherMem
    obtain ⟨row, rowMem, rfl⟩ := List.mem_map.mp otherMem
    have linkable := (Table.mem_findMany.mp rowMem).2
    simp only [isLinkable, Bool.and_eq_true, List.contains_eq_mem, decide_eq_true_eq] at linkable
    exact linkable.1.1.1.1
  have asMany : args.attachmentIds.length ≤ found.length := by
    rw [List.length_map, sameLength]
  have sameIds := (List.subperm_of_subset foundNodup foundNamed).perm_of_length_le asMany
  obtain ⟨row, rowMem, rowId⟩ := List.mem_map.mp (sameIds.mem_iff.mpr named)
  obtain ⟨present, linkable⟩ := Table.mem_findMany.mp rowMem
  exact ⟨row, present, rowId, linkable⟩

/-- Whoever named attachments that are all linked by now does not pass the check again. -/
theorem attachmentIds_eq_nil_of_linked
    (linked : ∀ row ∈ store.attachments, row.id ∈ args.attachmentIds → row.messageId ≠ none) :
    checkAttachments store args = .ok () ↔ args.attachmentIds = [] := by
  constructor
  · intro checked
    rw [List.eq_nil_iff_forall_not_mem]
    intro id named
    obtain ⟨row, present, rfl, linkable⟩ := linkable_of_checkAttachments checked named
    simp only [isLinkable, Bool.and_eq_true, beq_iff_eq] at linkable
    exact linked row present named linkable.2
  · intro none_
    simp [checkAttachments, none_]

/-- What a send can do: refuse, answer from the cache, create a message, or find one by its key. -/
inductive SendOutcome {World : Type} (runtime : Runtime World) (call : SendCall)
    (store : Store World) (args : SendArgs) : Except Failure SendResult × Store World → Prop where
  | refused (failure : Failure) (world : World) :
      SendOutcome runtime call store args (.error failure, { store with world := world })
  | cached {existing : Message} (found : cachedMessage store args call = some existing)
      (same : existing.content = args.content) :
      SendOutcome runtime call store args (.ok ⟨existing, true⟩, store)
  | created {world : World} {contentPlain : String} {messages : MessageTable}
      (missed : cachedMessage store args call = none)
      (valid : validate runtime store args = .ok ())
      (enforced : runtime.enforce store.world args (gatedMentions runtime store args) =
        (.ok contentPlain, world))
      (sent : sendTransaction store.messages
        (args.row call store (gatedMentions runtime store args) contentPlain) = .ok messages) :
      SendOutcome runtime call store args
        (.ok ⟨(args.row call store (gatedMentions runtime store args) contentPlain).message, false⟩,
          (Store.created runtime call { store with world := world } args
            (gatedMentions runtime store args)
            (args.row call store (gatedMentions runtime store args) contentPlain).message
            messages).writeIdemCache call args ⟨store.nextMessageId⟩)
  | replayed {world : World} {key : IdempotencyKey} {existing : Message}
      (missed : cachedMessage store args call = none) (keyed : args.idempotencyKey = some key)
      (found : store.messages.findByKey args.authorId key = some existing)
      (same : existing.content = args.content) :
      SendOutcome runtime call store args
        (.ok ⟨existing, true⟩,
          Store.writeIdemCache call { store with world := world } args existing.id)

theorem replayStored_eq_ok_iff {existing : Message} {result : SendResult} :
    replayStored args existing = .ok result ↔
      existing.content = args.content ∧ result = ⟨existing, true⟩ := by
  unfold replayStored
  split
  next other => simp [failWith, other]
  next same =>
    have sameContent : existing.content = args.content := not_not.mp same
    simp [sameContent, eq_comm]

theorem send_outcome (runtime : Runtime World) (call : SendCall) (store : Store World)
    (args : SendArgs) :
    SendOutcome runtime call store args (send runtime call store args) := by
  unfold send
  split
  next existing found =>
    cases answer : replayStored args existing with
    | error failure => exact .refused failure store.world
    | ok result =>
      obtain ⟨same, rfl⟩ := replayStored_eq_ok_iff.mp answer
      exact .cached found same
  next missed =>
    split
    next failure _ => exact .refused failure store.world
    next valid =>
      dsimp only
      split
      next failure world _ => exact .refused failure world
      next contentPlain world enforced =>
        split
        next messages sent => exact .created missed valid enforced sent
        next =>
          split
          next => exact .refused _ world
          next existing known =>
            obtain ⟨key, keyed, found⟩ := Option.bind_eq_some_iff.mp known
            split
            next failure _ => exact .refused failure world
            next result answer =>
              obtain ⟨same, rfl⟩ := replayStored_eq_ok_iff.mp answer
              exact .replayed missed keyed found same
        next failure _ _ => exact .refused failure world

/-- A send that did not replay has created its message. -/
theorem created_of_send {runtime : Runtime World} {call : SendCall} {store after : Store World}
    {message : Message} (sent : send runtime call store args = (.ok ⟨message, false⟩, after)) :
    let mentions := gatedMentions runtime store args
    ∃ world contentPlain messages idemCache, validate runtime store args = .ok () ∧
      runtime.enforce store.world args mentions = (.ok contentPlain, world) ∧
      sendTransaction store.messages (args.row call store mentions contentPlain) = .ok messages ∧
      message = (args.row call store mentions contentPlain).message ∧
      after = { Store.created runtime call { store with world := world } args mentions message
        messages with idemCache := idemCache } := by
  have outcome := send_outcome runtime call store args
  rw [sent] at outcome
  generalize answered : ((.ok ⟨message, false⟩, after) : Except Failure SendResult × Store World) =
    answer at outcome
  cases outcome with
  | refused | cached | replayed => simp at answered
  | @created world contentPlain messages _ valid enforced created =>
    obtain ⟨idemCache, cacheEq, -⟩ := writeIdemCache_eq call
      (Store.created runtime call { store with world := world } args
        (gatedMentions runtime store args)
        (args.row call store (gatedMentions runtime store args) contentPlain).message messages)
      args ⟨store.nextMessageId⟩
    rw [cacheEq] at answered
    simp only [Prod.mk.injEq, Except.ok.injEq, SendResult.mk.injEq, and_true] at answered
    obtain ⟨rfl, rfl⟩ := answered
    exact ⟨world, contentPlain, messages, idemCache, valid, enforced, created, rfl, rfl⟩

end Bongtalk.Messages
