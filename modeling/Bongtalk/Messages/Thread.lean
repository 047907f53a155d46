import Bongtalk.Library.System
import Bongtalk.Messages.Message

/-!
# Threads and their reply counters

A root message carries the number of its live replies in a column of its own. Sends and
deletes move the column by one, and a periodic job recounts it. Broadcast copies hang
under the root as well and are never counted.
-/

namespace Bongtalk.Messages

open Library Common Prisma MessageTable List

/-- The part of a send that reaches the message table. -/
structure SendRow where
  id : MessageId
  channelId : ChannelId
  authorId : UserId
  content : String
  contentPlain : String := ""
  mentions : Mentions := {}
  idempotencyKey : Option IdempotencyKey := none
  parentMessageId : Option MessageId := none
  /-- "Also send to #channel": the id of the broadcast copy, when it is asked for. -/
  broadcastId : Option MessageId := none
  createdAt : DateTime

/-- The check of a reply's parent before the transaction; replies to replies are refused. -/
def validateParent (messages : MessageTable) (channelId : ChannelId)
    (parentMessageId : Option MessageId) : Except Failure Unit :=
  match parentMessageId with
  | none => .ok ()
  | some parentId =>
    match (messages.findUnique parentId).filter fun parent =>
        parent.channelId == channelId && parent.deletedAt == none with
    | none => failWith .messageParentNotFound "parent message not found in this channel"
    | some parent =>
      if parent.parentMessageId ≠ none then
        failWith .messageThreadDepthExceeded
          "replies to replies are not supported (single-level threads)"
      else .ok ()

/-- The same check inside the transaction, which looks at the channel and the deletion only. -/
def recheckParent (messages : MessageTable) (channelId : ChannelId)
    (parentMessageId : Option MessageId) : Except Failure Unit :=
  match parentMessageId with
  | none => .ok ()
  | some parentId =>
    match messages.findUnique parentId with
    | none => failWith .messageParentNotFound "parent message not found in this channel"
    | some parent =>
      if parent.deletedAt ≠ none ∨ parent.channelId ≠ channelId then
        failWith .messageParentNotFound "parent message not found in this channel"
      else .ok ()

/-- A reply's parent is a live root of the channel. -/
def ParentIsLive (messages : MessageTable) (channelId : ChannelId)
    (parentMessageId : Option MessageId) : Prop :=
  ∀ parentId, parentMessageId = some parentId → ∃ parent ∈ messages, parent.id = parentId ∧
    parent.channelId = channelId ∧ parent.deletedAt = none ∧ parent.parentMessageId = none

variable {messages : MessageTable} {channelId : ChannelId}

variable {parentMessageId : Option MessageId}

theorem validateParent_eq_ok_iff :
    validateParent messages channelId parentMessageId = .ok () ↔
      ParentIsLive messages channelId parentMessageId := by
  unfold validateParent
  split
  next => simp [ParentIsLive]
  next parentId =>
    simp only [ParentIsLive, Option.some.injEq, forall_eq']
    split
    next missing =>
      apply iff_of_false failWith_ne_ok
      rintro ⟨parent, present, idEq, inChannel, live, -⟩
      have found := findUnique_eq_some_iff.mpr ⟨present, idEq⟩
      simp [found, inChannel, live] at missing
    next parent found =>
      obtain ⟨foundParent, inChannel⟩ := Option.filter_eq_some_iff.mp found
      obtain ⟨present, idEq⟩ := findUnique_eq_some_iff.mp foundParent
      simp only [Bool.and_eq_true, beq_iff_eq] at inChannel
      split
      next isReply =>
        apply iff_of_false failWith_ne_ok
        rintro ⟨other, otherMem, otherId, -, -, isRoot⟩
        obtain rfl := Table.eq_of_key_eq otherMem present (otherId.trans idEq.symm)
        exact isReply isRoot
      next isRoot =>
        exact iff_of_true rfl
          ⟨parent, present, idEq, inChannel.1, inChannel.2, not_not.mp isRoot⟩

/-- The check inside the transaction asks for less. -/
theorem recheckParent_of_parentIsLive (live : ParentIsLive messages channelId parentMessageId) :
    recheckParent messages channelId parentMessageId = .ok () := by
  unfold recheckParent
  split
  next => rfl
  next parentId =>
    obtain ⟨parent, present, idEq, inChannel, isLive, -⟩ := live parentId rfl
    have found := findUnique_eq_some_iff.mpr ⟨present, idEq⟩
    simp [found, inChannel, isLive]

/-- The row a send creates. -/
def SendRow.message (row : SendRow) : Message :=
  { id := row.id
    channelId := row.channelId
    authorId := row.authorId
    content := row.content
    contentPlain := row.contentPlain
    mentions := row.mentions
    idempotencyKey := row.idempotencyKey
    parentMessageId := row.parentMessageId
    createdAt := row.createdAt }

/-- The copy of a reply in the timeline of the channel. -/
def SendRow.broadcast (row : SendRow) (parentId id : MessageId) : Message :=
  { id := id
    channelId := row.channelId
    authorId := row.authorId
    authorType := .system
    type := .systemThreadBroadcast
    content := row.content
    contentPlain := row.contentPlain
    parentMessageId := some parentId
    isBroadcast := true
    createdAt := row.createdAt }

/-- `latestReplyAt` only moves forward. -/
def latestReply (latestReplyAt : Option DateTime) (createdAt : DateTime) : DateTime :=
  max (latestReplyAt.getD createdAt) createdAt

/-- One more reply under a live root. -/
def Message.addReply (root : Message) (createdAt : DateTime) : Message :=
  if root.deletedAt = none then
    { root with
      replyCount := root.replyCount + 1
      latestReplyAt := some (latestReply root.latestReplyAt createdAt) }
  else root

/-- One reply less under a live root, never below zero. -/
def Message.dropReply (root : Message) : Message :=
  if root.deletedAt = none then { root with replyCount := max 0 (root.replyCount - 1) } else root

/-- `UPDATE "Message" SET … WHERE id = …` by a change that keeps the identity of the row. -/
def MessageTable.updateOne (messages : MessageTable) (id : MessageId)
    (change : Message → Message)
    (keeps : ∀ message, (change message).identity = message.identity) : MessageTable :=
  messages.rewrite (fun message => if message.id = id then change message else message) fun message => by
    by_cases same : message.id = id
    · simp [same, keeps]
    · simp [same]

theorem identity_addReply (createdAt : DateTime) (root : Message) :
    (root.addReply createdAt).identity = root.identity := by
  unfold Message.addReply
  split <;> rfl

theorem deletedAt_addReply (createdAt : DateTime) (root : Message) :
    (root.addReply createdAt).deletedAt = root.deletedAt := by
  unfold Message.addReply
  split <;> rfl

theorem deletedAt_dropReply (root : Message) : root.dropReply.deletedAt = root.deletedAt := by
  unfold Message.dropReply
  split <;> rfl

theorem identity_dropReply (root : Message) : root.dropReply.identity = root.identity := by
  unfold Message.dropReply
  split <;> rfl

/-- The transaction of a send on the message table. -/
def sendTransaction (messages : MessageTable) (row : SendRow) : Except Failure MessageTable := do
  recheckParent messages row.channelId row.parentMessageId
  let created ← messages.create row.message
  match row.parentMessageId with
  | none => .ok created
  | some parentId =>
    let counted := created.updateOne parentId (Message.addReply · row.createdAt)
      (identity_addReply row.createdAt)
    match row.broadcastId with
    | none => .ok counted
    | some broadcastId => counted.create (row.broadcast parentId broadcastId)

/-- Past the check of the parent, a taken key fails the transaction. -/
theorem sendTransaction_of_keyTaken {row : SendRow}
    (live : ParentIsLive messages row.channelId row.parentMessageId)
    (taken : messages.keyTaken row.message = true) :
    sendTransaction messages row = .error .uniqueViolation := by
  rw [sendTransaction, recheckParent_of_parentIsLive live, create_of_keyTaken taken]
  rfl

/-- A send: the check of the parent, then the transaction. -/
def sendMessage (messages : MessageTable) (row : SendRow) : Except Failure MessageTable := do
  validateParent messages row.channelId row.parentMessageId
  sendTransaction messages row

/-- What the writes of a send have in common, the send has: it creates its row, counts a reply
under the parent and creates the copy. -/
theorem sendMessage_writes (Writes : MessageTable → MessageTable → Prop) {row : SendRow}
    (trans : ∀ {first second third}, Writes first second → Writes second third → Writes first third)
    (creates : ∀ {messages next new}, messages.create new = .ok next →
      (new = row.message ∨ ∃ parentId id, new = row.broadcast parentId id) → Writes messages next)
    (counts : ∀ messages parentId, Writes messages
      (messages.updateOne parentId (Message.addReply · row.createdAt)
        (identity_addReply row.createdAt)))
    {messages next : MessageTable} (sent : sendMessage messages row = .ok next) :
    Writes messages next := by
  simp only [sendMessage, sendTransaction, bind_eq_ok] at sent
  obtain ⟨⟨⟩, -, ⟨⟩, -, created, createdEq, sent⟩ := sent
  have afterCreate := creates createdEq (.inl rfl)
  split at sent
  next =>
    cases sent
    exact afterCreate
  next parentId _ =>
    have afterCount := trans afterCreate (counts created parentId)
    split at sent
    next =>
      cases sent
      exact afterCount
    next broadcastId _ =>
      exact trans afterCount (creates sent (.inr ⟨parentId, broadcastId, rfl⟩))

/-- Mark a message deleted and unpin it. -/
def Message.markDeleted (message : Message) (deletedAt : DateTime) : Message :=
  { message with deletedAt := some deletedAt, pinnedAt := none }

@[simp]
theorem Message.deletedAt_markDeleted (message : Message) (deletedAt : DateTime) :
    (message.markDeleted deletedAt).deletedAt = some deletedAt :=
  rfl

/-- Delete a live message of the channel softly; anything else is left alone. -/
def softDelete (messages : MessageTable) (channelId : ChannelId) (msgId : MessageId)
    (deletedAt : DateTime) : MessageTable :=
  match (messages.findUnique msgId).filter fun message =>
      message.channelId == channelId && message.deletedAt == none with
  | none => messages
  | some target =>
    let deleted := messages.updateOne msgId (Message.markDeleted · deletedAt) fun _ => rfl
    match target.parentMessageId with
    | none => deleted
    | some parentId =>
      if target.isBroadcast then deleted
      else deleted.updateOne parentId Message.dropReply identity_dropReply

variable {msgId : MessageId}

/-- A delete marks one row and takes a reply from one. -/
theorem softDelete_writes (Writes : MessageTable → MessageTable → Prop)
    (refl : ∀ messages, Writes messages messages)
    (trans : ∀ {first second third}, Writes first second → Writes second third → Writes first third)
    {deletedAt : DateTime}
    (marks : ∀ messages : MessageTable, Writes messages (messages.updateOne msgId
      (Message.markDeleted · deletedAt) fun _ => rfl))
    (drops : ∀ messages parentId, Writes messages (messages.updateOne parentId Message.dropReply
      identity_dropReply)) (messages : MessageTable) (channelId : ChannelId) :
    Writes messages (softDelete messages channelId msgId deletedAt) := by
  unfold softDelete
  split
  next => exact refl messages
  next target _ =>
    split
    next => exact marks messages
    next parentId _ =>
      split
      next => exact marks messages
      next => exact trans (marks messages) (drops _ parentId)

/-- Write an edit into a row. -/
def Message.edit (message : Message) (content contentPlain : String) (mentions : Mentions)
    (editedAt : DateTime) : Message :=
  { message with
    content := content
    contentPlain := contentPlain
    mentions := mentions
    editedAt := some editedAt
    version := message.version + 1 }

/-- Edit a live message at the version the client has seen. -/
def update (messages : MessageTable) (channelId : ChannelId) (msgId : MessageId)
    (expectedVersion : Nat) (content contentPlain : String) (mentions : Mentions)
    (editedAt : DateTime) :
    Except Failure MessageTable :=
  match (messages.findUnique msgId).filter fun message => message.channelId == channelId with
  | none => failWith .messageNotFound "message not found or deleted"
  | some before =>
    if before.deletedAt ≠ none then
      failWith .messageNotFound "message not found or deleted"
    else if before.version ≠ expectedVersion then
      failWith .messageVersionConflict "message was edited elsewhere — reload and retry"
    else .ok (messages.updateOne msgId (Message.edit · content contentPlain mentions editedAt) fun _ => rfl)

/-- A reply of a root that is no broadcast copy. -/
def Message.isReplyOf (message : Message) (rootId : MessageId) : Bool :=
  message.parentMessageId == some rootId && !message.isBroadcast

/-- The live replies of a root. -/
def liveReplies (messages : MessageTable) (rootId : MessageId) : Nat :=
  messages.table.rows.countP fun message => message.isReplyOf rootId && message.deletedAt == none

/-- The rows the recount visits: those under which some reply was ever sent. -/
def visited (messages : MessageTable) (rootId : MessageId) : Bool :=
  messages.table.rows.any (·.isReplyOf rootId)

/-- A visited row whose counter drifted is set to the count. -/
def recount (messages : MessageTable) (message : Message) : Message :=
  if visited messages message.id ∧ message.replyCount ≠ liveReplies messages message.id then
    { message with replyCount := liveReplies messages message.id }
  else message

theorem identity_recount (messages : MessageTable) (message : Message) :
    (recount messages message).identity = message.identity := by
  unfold recount
  split <;> rfl

/-- The periodic recount, with the number of corrected rows. -/
def reconcile (messages : MessageTable) : MessageTable × Nat :=
  (messages.rewrite (recount messages) (identity_recount messages),
    messages.table.rows.countP fun message =>
      visited messages message.id &&
        decide (message.replyCount ≠ (liveReplies messages message.id : Int)))

variable {message : Message}

/-- No call but a send adds rows: every other one keeps the identities of the table. -/
theorem identity_updateOne {id : MessageId} {change : Message → Message}
    {keeps : ∀ message, (change message).identity = message.identity}
    (present : message ∈ messages.updateOne id change keeps) :
    ∃ old ∈ messages, message.identity = old.identity := by
  obtain ⟨old, oldMem, rfl⟩ := mem_rewrite.mp present
  refine ⟨old, oldMem, ?_⟩
  split
  · exact keeps old
  · rfl

theorem identity_softDelete {deletedAt : DateTime}
    (present : message ∈ softDelete messages channelId msgId deletedAt) :
    ∃ old ∈ messages, message.identity = old.identity := by
  unfold softDelete at present
  split at present
  next => exact ⟨message, present, rfl⟩
  next target _ =>
    split at present
    next => exact identity_updateOne present
    next parentId _ =>
      split at present
      next => exact identity_updateOne present
      next =>
        obtain ⟨deleted, deletedMem, same⟩ := identity_updateOne present
        obtain ⟨old, oldMem, sameOld⟩ := identity_updateOne deletedMem
        exact ⟨old, oldMem, same.trans sameOld⟩

theorem identity_update {messages next : MessageTable} {expectedVersion : Nat}
    {content contentPlain : String} {mentions : Mentions} {editedAt : DateTime}
    (updated : update messages channelId msgId expectedVersion content contentPlain mentions
      editedAt = .ok next) (present : message ∈ next) :
    ∃ old ∈ messages, message.identity = old.identity := by
  unfold update at updated
  split at updated
  · cases updated
  split at updated
  · cases updated
  split at updated
  · cases updated
  cases updated
  exact identity_updateOne present

theorem identity_reconcile (present : message ∈ (reconcile messages).1) :
    ∃ old ∈ messages, message.identity = old.identity := by
  obtain ⟨old, oldMem, rfl⟩ :=
    mem_map.mp (show message ∈ messages.table.rows.map (recount messages) from present)
  exact ⟨old, oldMem, identity_recount messages old⟩

/-- A send adds its row under a free key, and a broadcast copy at most. -/
theorem identity_sendTransaction {messages next : MessageTable} {row : SendRow}
    (sent : sendTransaction messages row = .ok next) :
    messages.keyTaken row.message = false ∧ ∀ message ∈ next,
      (∃ old ∈ messages, message.identity = old.identity) ∨
        message.identity = row.message.identity ∨ row.broadcastId = some message.id := by
  obtain ⟨_, -, created⟩ := bind_eq_ok.mp sent
  obtain ⟨createdTable, createdEq, finished⟩ := bind_eq_ok.mp created
  obtain ⟨-, free, -, rowsEq⟩ := create_eq_ok_iff.mp createdEq
  have ofCreated : ∀ message : Message, (∃ old ∈ createdTable, message.identity = old.identity) →
      (∃ old ∈ messages, message.identity = old.identity) ∨
        message.identity = row.message.identity := by
    rintro message ⟨old, oldMem, same⟩
    rw [mem_def, Table.mem_def, rowsEq] at oldMem
    rcases mem_cons.mp oldMem with rfl | inTable
    · exact .inr same
    · exact .inl ⟨old, inTable, same⟩
  refine ⟨free, fun message present => ?_⟩
  split at finished
  next =>
    cases finished
    exact (ofCreated message ⟨message, present, rfl⟩).imp_right .inl
  next parentId _ =>
    split at finished
    next =>
      cases finished
      exact (ofCreated message (identity_updateOne present)).imp_right .inl
    next broadcastId asked =>
      obtain ⟨-, -, -, copyRows⟩ := create_eq_ok_iff.mp finished
      rw [mem_def, Table.mem_def, copyRows] at present
      rcases mem_cons.mp present with rfl | inCounted
      · exact .inr (.inr asked)
      · exact (ofCreated message (identity_updateOne inCounted)).imp_right .inl

/-- A request or a job on the message table. -/
inductive ThreadCall where
  | send (row : SendRow)
  | softDelete (channelId : ChannelId) (msgId : MessageId) (deletedAt : DateTime)
  | update (channelId : ChannelId) (msgId : MessageId) (expectedVersion : Nat)
      (content contentPlain : String) (mentions : Mentions) (editedAt : DateTime)
  | reconcile

/-- The table after a call; a refused call leaves it as it was. -/
def ThreadCall.after (messages : MessageTable) : ThreadCall → MessageTable
  | send row => (sendMessage messages row).toOption.getD messages
  | softDelete channelId msgId deletedAt => Messages.softDelete messages channelId msgId deletedAt
  | update channelId msgId expectedVersion content contentPlain mentions editedAt =>
    (Messages.update messages channelId msgId expectedVersion content contentPlain
      mentions editedAt).toOption.getD messages
  | reconcile => (Messages.reconcile messages).1

def ThreadStep (messages : MessageTable) (call : ThreadCall) (next : MessageTable) : Prop :=
  next = call.after messages

/-- Every live root counts its live replies. -/
def CountsReplies (messages : MessageTable) : Prop :=
  ∀ root ∈ messages, root.deletedAt = none → root.parentMessageId = none →
    root.replyCount = liveReplies messages root.id

/-- The counters of the live roots after a drift is added to each. -/
def Drift (messages : MessageTable) (drift : MessageId → Int) : Prop :=
  ∀ root ∈ messages, root.deletedAt = none → root.parentMessageId = none →
    root.replyCount + drift root.id = liveReplies messages root.id

theorem countsReplies_iff_drift : CountsReplies messages ↔ Drift messages fun _ => 0 := by
  simp [CountsReplies, Drift]

section Writes

variable {messages next : MessageTable}

/-- An update of one row changes a count of replies by that row alone. -/
theorem liveReplies_updateOne {message : Message} (present : message ∈ messages)
    (change : Message → Message)
    (keeps : ∀ message, (change message).identity = message.identity) (rootId : MessageId) :
    liveReplies (messages.updateOne message.id change keeps) rootId +
        (if message.isReplyOf rootId && message.deletedAt == none then 1 else 0) =
      liveReplies messages rootId +
        (if message.isReplyOf rootId && (change message).deletedAt == none then 1 else 0) := by
  have sameReply : (change message).isReplyOf rootId = message.isReplyOf rootId := by
    have kept := keeps message
    simp only [Message.identity, Prod.mk.injEq] at kept
    simp [Message.isReplyOf, kept.2.2.2]
  have counted := Table.countP_map_at messages.table.keysNodup present change
    fun message => message.isReplyOf rootId && message.deletedAt == none
  rw [sameReply] at counted
  exact counted

/-- A change that deletes nothing changes no count of replies. -/
theorem liveReplies_rewrite {change : Message → Message}
    (keeps : ∀ message, (change message).identity = message.identity)
    (keepsDeleted : ∀ message, (change message).deletedAt = message.deletedAt)
    (rootId : MessageId) :
    liveReplies (messages.rewrite change keeps) rootId = liveReplies messages rootId := by
  have counted : ∀ message : Message,
      ((change message).isReplyOf rootId && (change message).deletedAt == none) =
        (message.isReplyOf rootId && message.deletedAt == none) := by
    intro message
    have kept := keeps message
    simp only [Message.identity, Prod.mk.injEq] at kept
    simp [Message.isReplyOf, kept.2.2.2, keepsDeleted]
  change (messages.table.rows.map change).countP _ = _
  rw [countP_map]
  exact countP_congr fun message _ => by rw [Function.comp_apply, counted]

variable {row : Message}

section

variable (created : messages.create row = .ok next)

include created

/-- A created row counts if it is a live reply. -/
theorem liveReplies_create (rootId : MessageId) :
    liveReplies next rootId = liveReplies messages rootId +
      (if row.isReplyOf rootId && row.deletedAt == none then 1 else 0) := by
  obtain ⟨-, -, -, rowsEq⟩ := create_eq_ok_iff.mp created
  rw [liveReplies, rowsEq, countP_cons]
  rfl

omit created in
theorem mem_create {row message : Message} (created : messages.create row = .ok next) :
    message ∈ next ↔ message = row ∨ message ∈ messages := by
  obtain ⟨-, -, -, rowsEq⟩ := create_eq_ok_iff.mp created
  rw [mem_def, Table.mem_def, rowsEq, mem_cons]
  rfl

/-- A new root has no replies, since a reply would have had its parent in the table. -/
theorem liveReplies_of_fresh (isRoot : row.parentMessageId = none) :
    liveReplies next row.id = 0 := by
  obtain ⟨fresh, -, -, rowsEq⟩ := create_eq_ok_iff.mp created
  rw [liveReplies, rowsEq, countP_eq_zero]
  intro message messageMem counted
  simp only [Message.isReplyOf, Bool.and_eq_true, beq_iff_eq] at counted
  rcases mem_cons.mp messageMem with rfl | old
  · rw [isRoot] at counted
    simp at counted
  · obtain ⟨parent, parentMem, idEq⟩ := messages.parents message old row.id counted.1.1
    exact fresh parent parentMem idEq

/-- A new root leaves the counters right. -/
theorem drift_create_root (isRoot : row.parentMessageId = none) (uncounted : row.replyCount = 0)
    (counts : Drift messages fun _ => 0) : Drift next fun _ => 0 := by
  intro root rootMem live rootIsRoot
  rcases (mem_create created).mp rootMem with rfl | old
  · simp [uncounted, liveReplies_of_fresh created isRoot]
  have before := counts root old live rootIsRoot
  rw [liveReplies_create created]
  simpa [Message.isReplyOf, isRoot] using before

/-- A new reply leaves the counter of its root one behind; a broadcast copy does not. -/
theorem drift_create_reply {parentId : MessageId} (isReply : row.parentMessageId = some parentId)
    (live : row.deletedAt = none) {drift : MessageId → Int} (counts : Drift messages drift) :
    Drift next fun id =>
      drift id + if row.isBroadcast = false ∧ id = parentId then 1 else 0 := by
  intro root rootMem rootLive rootIsRoot
  rcases (mem_create created).mp rootMem with rfl | old
  · rw [rootIsRoot] at isReply
    cases isReply
  · have before := counts root old rootLive rootIsRoot
    rw [liveReplies_create created, Message.isReplyOf, isReply, live]
    by_cases counted : row.isBroadcast = false ∧ root.id = parentId
    · simp [counted.1, counted.2] at before ⊢
      omega
    · have uncounted : ¬(parentId = root.id ∧ row.isBroadcast = false) :=
        fun same => counted ⟨same.2, same.1.symm⟩
      simp [counted, uncounted] at before ⊢
      omega

end

/-- Moving the counter of one live root moves its drift the other way. -/
theorem drift_updateOne (id : MessageId) {change : Message → Message}
    (keeps : ∀ message, (change message).identity = message.identity)
    (keepsDeleted : ∀ message, (change message).deletedAt = message.deletedAt) (amount : Int)
    {drift : MessageId → Int}
    (moves : ∀ root ∈ messages, root.deletedAt = none → root.parentMessageId = none →
      root.id = id → (change root).replyCount = root.replyCount + amount)
    (counts : Drift messages drift) :
    Drift (messages.updateOne id change keeps) fun rootId =>
      drift rootId - if rootId = id then amount else 0 := by
  intro root rootMem rootLive rootIsRoot
  obtain ⟨old, oldMem, rfl⟩ := mem_rewrite.mp rootMem
  have kept := keeps old
  simp only [Message.identity, Prod.mk.injEq] at kept
  have keepsAll : ∀ message : Message,
      (if message.id = id then change message else message).deletedAt = message.deletedAt := by
    intro message
    split
    · exact keepsDeleted message
    · rfl
  rw [updateOne, liveReplies_rewrite _ keepsAll]
  by_cases target : old.id = id
  · simp only [if_pos target, kept.1] at rootLive rootIsRoot ⊢
    rw [keepsDeleted] at rootLive
    rw [kept.2.2.2.1] at rootIsRoot
    have moved := moves old oldMem rootLive rootIsRoot target
    have before := counts old oldMem rootLive rootIsRoot
    omega
  · simp only [if_neg target] at rootLive rootIsRoot ⊢
    have before := counts old oldMem rootLive rootIsRoot
    omega

/-- Deleting a live message leaves the counter of its root one ahead if it was a reply. -/
theorem drift_markDeleted {target : Message} (present : target ∈ messages)
    (live : target.deletedAt = none) (deletedAt : DateTime)
    (keeps : ∀ message, (Message.markDeleted message deletedAt).identity = message.identity)
    (counts : Drift messages fun _ => 0) :
    Drift (messages.updateOne target.id (Message.markDeleted · deletedAt) keeps) fun rootId =>
      if target.isReplyOf rootId then -1 else 0 := by
  intro root rootMem rootLive rootIsRoot
  obtain ⟨old, oldMem, rfl⟩ := mem_rewrite.mp rootMem
  by_cases same : old.id = target.id
  · simp [same] at rootLive
  simp only [if_neg same] at rootLive rootIsRoot ⊢
  have before : old.replyCount + 0 = liveReplies messages old.id :=
    counts old oldMem rootLive rootIsRoot
  have counted := liveReplies_updateOne present (Message.markDeleted · deletedAt) keeps old.id
  by_cases isReply : target.isReplyOf old.id = true
  · simp [live, isReply] at counted ⊢
    omega
  · simp [isReply] at counted ⊢
    omega

theorem Drift.congr {drift other : MessageId → Int} (same : ∀ id, drift id = other id)
    (counts : Drift messages drift) : Drift messages other := by
  intro root rootMem live isRoot
  rw [← same]
  exact counts root rootMem live isRoot

end Writes

section Calls

variable {messages next : MessageTable}

/-- A send counts its reply, and not the broadcast copy. -/
theorem countsReplies_sendMessage {row : SendRow} (counts : CountsReplies messages)
    (sent : sendMessage messages row = .ok next) : CountsReplies next := by
  rw [countsReplies_iff_drift] at counts ⊢
  simp only [sendMessage, sendTransaction, bind_eq_ok] at sent
  obtain ⟨⟨⟩, -, ⟨⟩, -, created, createdEq, sent⟩ := sent
  split at sent
  next isRoot =>
    cases sent
    exact drift_create_root createdEq isRoot rfl counts
  next parentId isReply =>
    have behind := drift_create_reply createdEq isReply rfl counts
    have counted := drift_updateOne parentId (identity_addReply row.createdAt)
      (deletedAt_addReply row.createdAt) 1
      (fun root _ live _ _ => by simp [Message.addReply, live]) behind
    have even : Drift (created.updateOne parentId (Message.addReply · row.createdAt)
        (identity_addReply row.createdAt)) fun _ => 0 :=
      counted.congr fun id => by simp [SendRow.message]
    split at sent
    next =>
      cases sent
      exact even
    next broadcastId _ =>
      exact (drift_create_reply sent rfl rfl even).congr fun id => by simp [SendRow.broadcast]

/-- Only the first delete of a counted reply takes it from its root. -/
theorem countsReplies_softDelete {channelId : ChannelId} {msgId : MessageId}
    {deletedAt : DateTime} (counts : CountsReplies messages) :
    CountsReplies (softDelete messages channelId msgId deletedAt) := by
  rw [countsReplies_iff_drift] at counts ⊢
  unfold softDelete
  split
  next => exact counts
  next target found =>
    obtain ⟨foundTarget, live⟩ := Option.filter_eq_some_iff.mp found
    obtain ⟨present, rfl⟩ := findUnique_eq_some_iff.mp foundTarget
    have liveTarget : target.deletedAt = none := by
      simpa using (Bool.and_eq_true_iff.mp live).2
    have ahead := drift_markDeleted present liveTarget deletedAt (fun _ => rfl) counts
    split
    next isRoot =>
      exact ahead.congr fun id => by simp [Message.isReplyOf, isRoot]
    next parentId isReply =>
      split
      next isBroadcast =>
        exact ahead.congr fun id => by simp [Message.isReplyOf, isBroadcast]
      next isCounted =>
        have replyOfParent : ∀ id, target.isReplyOf id = decide (id = parentId) := by
          intro id
          rw [Bool.eq_iff_iff]
          simp only [Message.isReplyOf, isReply, isCounted, Bool.and_eq_true, beq_iff_eq,
            decide_eq_true_eq, Option.some.injEq, Bool.not_false, and_true]
          exact eq_comm
        refine (drift_updateOne parentId identity_dropReply deletedAt_dropReply (-1) ?_
          ahead).congr fun id => ?_
        · -- The root still counts the deleted reply, so its counter is positive.
          intro root rootMem rootLive rootIsRoot rootId
          have counter := ahead root rootMem rootLive rootIsRoot
          simp only [replyOfParent, rootId, decide_true, if_true] at counter
          simp only [Message.dropReply, rootLive, if_true]
          omega
        · by_cases same : id = parentId <;> simp [replyOfParent, same]

/-- An edit touches no counter and no deletion. -/
theorem countsReplies_update {channelId : ChannelId} {msgId : MessageId} {expectedVersion : Nat}
    {content : String} {mentions : Mentions} {editedAt : DateTime}
    (counts : CountsReplies messages)
    (updated : update messages channelId msgId expectedVersion content contentPlain mentions
      editedAt = .ok next) : CountsReplies next := by
  rw [countsReplies_iff_drift] at counts ⊢
  unfold update at updated
  split at updated
  · cases updated
  split at updated
  · cases updated
  split at updated
  · cases updated
  cases updated
  have keeps : ∀ message : Message,
      (message.edit content contentPlain mentions editedAt).identity = message.identity :=
    fun _ => rfl
  exact (drift_updateOne msgId keeps (fun _ => rfl) 0
    (fun root _ _ _ _ => (add_zero root.replyCount).symm) counts).congr fun id => by simp

theorem deletedAt_recount (message : Message) :
    (recount messages message).deletedAt = message.deletedAt := by
  unfold recount
  split <;> rfl

theorem id_recount (message : Message) : (recount messages message).id = message.id :=
  congrArg Prod.fst (identity_recount messages message)

theorem mem_reconcile {row : Message} :
    row ∈ (reconcile messages).1 ↔ ∃ old ∈ messages, recount messages old = row :=
  mem_map

theorem liveReplies_reconcile (rootId : MessageId) :
    liveReplies (reconcile messages).1 rootId = liveReplies messages rootId :=
  liveReplies_rewrite (identity_recount messages) deletedAt_recount rootId

/-- The recount visits the same rows again. -/
theorem visited_reconcile (rootId : MessageId) :
    visited (reconcile messages).1 rootId = visited messages rootId := by
  have sameReply : ∀ message : Message,
      (recount messages message).isReplyOf rootId = message.isReplyOf rootId := by
    intro message
    have kept := identity_recount messages message
    simp only [Message.identity, Prod.mk.injEq] at kept
    simp [Message.isReplyOf, kept.2.2.2]
  change (messages.table.rows.map (recount messages)).any (·.isReplyOf rootId) = _
  rw [any_map]
  exact congrArg _ (funext sameReply)

/-- A recounted row shows the count if it is visited, and its own counter otherwise. -/
theorem replyCount_recount (message : Message) :
    (recount messages message).replyCount =
      if visited messages message.id then (liveReplies messages message.id : Int)
      else message.replyCount := by
  unfold recount
  by_cases isVisited : visited messages message.id = true
  · by_cases right : message.replyCount = liveReplies messages message.id
    · simp [isVisited, right]
    · simp [isVisited, right]
  · simp [isVisited]

theorem countsReplies_reconcile (counts : CountsReplies messages) :
    CountsReplies (reconcile messages).1 := by
  intro root rootMem live isRoot
  obtain ⟨old, oldMem, rfl⟩ := mem_reconcile.mp rootMem
  have kept := identity_recount messages old
  simp only [Message.identity, Prod.mk.injEq] at kept
  rw [deletedAt_recount] at live
  rw [kept.2.2.2.1] at isRoot
  rw [liveReplies_reconcile, id_recount, replyCount_recount]
  split
  · rfl
  · exact counts old oldMem live isRoot

/-- The recount is right about the rows it visits, whatever the counters were. -/
theorem reconcile_visited {row : Message} (rowMem : row ∈ (reconcile messages).1)
    (isVisited : visited messages row.id = true) :
    row.replyCount = liveReplies (reconcile messages).1 row.id := by
  obtain ⟨old, -, rfl⟩ := mem_reconcile.mp rowMem
  rw [id_recount] at isVisited
  rw [liveReplies_reconcile, id_recount, replyCount_recount, if_pos isVisited]

/-- A second recount finds nothing to correct. -/
theorem recount_recount (message : Message) :
    recount (reconcile messages).1 (recount messages message) = recount messages message := by
  have settled : ¬(visited (reconcile messages).1 (recount messages message).id = true ∧
      (recount messages message).replyCount ≠
        liveReplies (reconcile messages).1 (recount messages message).id) := by
    rw [visited_reconcile, liveReplies_reconcile, id_recount, replyCount_recount]
    rintro ⟨isVisited, drifted⟩
    rw [if_pos isVisited] at drifted
    exact drifted rfl
  rw [recount, if_neg settled]

theorem MessageTable.ext_rows {first second : MessageTable}
    (same : first.table.rows = second.table.rows) : first = second := by
  rcases first with ⟨⟨firstRows, _⟩, _, _⟩
  rcases second with ⟨⟨secondRows, _⟩, _, _⟩
  obtain rfl : firstRows = secondRows := same
  rfl

theorem reconcile_reconcile : (reconcile (reconcile messages).1).1 = (reconcile messages).1 := by
  apply ext_rows
  change ((messages.table.rows.map (recount messages)).map
    (recount (reconcile messages).1)) = messages.table.rows.map (recount messages)
  rw [map_map]
  exact map_congr_left fun message _ => recount_recount message

/-- Every call leaves the counters of live roots right. -/
theorem countsReplies_of_step {call : ThreadCall} (step : ThreadStep messages call next)
    (counts : CountsReplies messages) : CountsReplies next := by
  obtain rfl : next = call.after messages := step
  cases call with
  | send row =>
    cases sent : sendMessage messages row with
    | error _ => simpa [ThreadCall.after, sent, Except.toOption] using counts
    | ok next =>
      simpa [ThreadCall.after, sent, Except.toOption] using countsReplies_sendMessage counts sent
  | softDelete channelId msgId deletedAt => exact countsReplies_softDelete counts
  | update channelId msgId expectedVersion content contentPlain mentions editedAt =>
    cases updated : update messages channelId msgId expectedVersion content contentPlain mentions
        editedAt with
    | error _ => simpa [ThreadCall.after, updated, Except.toOption] using counts
    | ok next =>
      simpa [ThreadCall.after, updated, Except.toOption] using countsReplies_update counts updated
  | reconcile => exact countsReplies_reconcile counts

end Calls

/-- Along every serial run the live roots count their live replies; from any state at all the
recount restores this for the rows it visits, and doing it again changes nothing. -/
theorem countsReplies_of_steps :
    (∀ (start finish : MessageTable) (calls : List ThreadCall), CountsReplies start →
      Steps ThreadStep start calls finish → CountsReplies finish) ∧
    (∀ (messages : MessageTable) (row : Message), row ∈ (reconcile messages).1 →
      visited messages row.id = true →
      row.replyCount = liveReplies (reconcile messages).1 row.id) ∧
    ∀ messages : MessageTable, (reconcile (reconcile messages).1).1 = (reconcile messages).1 := by
  refine ⟨?_, ?_, ?_⟩
  · intro start finish calls counts steps
    exact steps.preserves CountsReplies countsReplies_of_step counts
  · intro messages row rowMem isVisited
    exact reconcile_visited rowMem isVisited
  · intro messages
    exact reconcile_reconcile

/-- Channel 1 after a root, one reply with its copy, and the deletion of that reply. -/
def repliedThread : List ThreadCall :=
  [.send { id := ⟨1⟩, channelId := ⟨1⟩, authorId := ⟨1⟩, content := "root", createdAt := 1 },
    .send { id := ⟨2⟩, channelId := ⟨1⟩, authorId := ⟨2⟩, content := "first", createdAt := 2,
            parentMessageId := some ⟨1⟩, broadcastId := some ⟨3⟩ },
    .send { id := ⟨4⟩, channelId := ⟨1⟩, authorId := ⟨1⟩, content := "second", createdAt := 3,
            parentMessageId := some ⟨1⟩ },
    .softDelete ⟨1⟩ ⟨2⟩ 4]

theorem countsReplies_of_repliedThread :
    CountsReplies (repliedThread.foldl ThreadCall.after MessageTable.empty) ∧
      ((repliedThread.foldl ThreadCall.after MessageTable.empty).findUnique ⟨1⟩).map (·.replyCount) =
        some 1 := by
  have taken : ∀ messages (call : ThreadCall), ThreadStep messages call (call.after messages) :=
    fun _ _ => rfl
  constructor
  · exact countsReplies_of_steps.1 MessageTable.empty _ repliedThread
      (fun root present => nomatch present)
      (Steps.of_foldl taken MessageTable.empty repliedThread)
  · decide

end Bongtalk.Messages
