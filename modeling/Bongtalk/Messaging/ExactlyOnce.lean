import Bongtalk.Messaging.System

/-!
# One notification for each message and recipient

A send notifies once and hands the workers the list of whom it notified. The workers insert a
record for everyone they notify, but each under a type of its own, and only the keyword worker
looks for records of the other. So the recipients stay apart as long as no insert meets a
record of the other type.
-/

namespace Bongtalk.Messaging

open Library Messages Notifications Prisma MentionRecord List
open Queue

variable {World : Type}

/-- The message and the recipient of a notification. -/
def notified (row : MentionReceived) : MessageId × UserId :=
  (row.messageId, row.targetUserId)

/-- No message notifies anyone twice. -/
def NotifiesOnce (store : Store World) : Prop :=
  (store.outbox.map notified).Nodup

/-- Nothing is going to notify a user of a message any more: every job of the message knows that
the user was notified, and no scan under way targets the user. -/
structure Settled (store : Store World) (messageId : MessageId) (userId : UserId) : Prop where
  broadcast : ∀ job ∈ store.broadcastJobs, job.messageId = messageId →
    userId ∈ job.syncNotifiedUserIds
  scan : ∀ job ∈ store.scanJobs, job.messageId = messageId → userId ∈ job.syncNotifiedUserIds
  scans : ∀ pending ∈ store.scans, pending.1.messageId = messageId → userId ∉ pending.2

/-- A record of a message and a user. -/
def IsRecorded (store : Store World) (messageId : MessageId) (userId : UserId) : Prop :=
  ∃ record ∈ store.mentionRecords, record.messageId = messageId ∧ record.targetId = userId

/-- The bookkeeping behind the notifications: whoever was notified of a message that is still there
is settled or recorded, and everything is about messages that were sent. -/
structure Booked (store : Store World) : Prop where
  once : NotifiesOnce store
  covered : ∀ row ∈ store.outbox, (∃ message ∈ store.messages, message.id = row.messageId) →
    Settled store row.messageId row.targetUserId ∨ IsRecorded store row.messageId row.targetUserId
  types : ∀ record ∈ store.mentionRecords, record.targetType = .user ∨ record.targetType = .keyword
  exclusive : ∀ first ∈ store.mentionRecords, ∀ second ∈ store.mentionRecords,
    first.messageId = second.messageId → first.targetId = second.targetId →
      first.targetType = second.targetType
  reported : ∀ record ∈ store.mentionRecords, ∃ row ∈ store.outbox,
    notified row = (record.messageId, record.targetId)
  sentRows : ∀ row ∈ store.outbox, row.messageId.value < store.nextMessageId
  sentBroadcasts : ∀ job ∈ store.broadcastJobs, job.messageId.value < store.nextMessageId
  sentScanJobs : ∀ job ∈ store.scanJobs, job.messageId.value < store.nextMessageId
  sentScans : ∀ pending ∈ store.scans, pending.1 ∈ store.scanJobs

/-- An insert meets no record of the other worker. -/
def MeetsNoOther (runtime : Runtime World) (store : Store World) : StoreEvent → Prop
  | .broadcast job now => ∀ record ∈ store.mentionRecords, record.messageId = job.messageId →
      record.targetType = .keyword →
      ¬MentionBroadcast.Targets runtime store job now record.targetId
  | .scanInsert job targetIds => ∀ record ∈ store.mentionRecords,
      record.messageId = job.messageId → record.targetType = .user → record.targetId ∉ targetIds
  | _ => True

section Inserts

variable {store : Store World}

variable {row : MentionRecord → MentionReceived}

/-- The notifications of inserted records of one message are new and different. -/
theorem notifiesOnce_append {messageId : MessageId} {inserted : List MentionRecord}
    (once : NotifiesOnce store)
    (rowKey : ∀ record, notified (row record) = (messageId, record.targetId))
    (distinct : (inserted.map key).Nodup)
    (sameMessage : ∀ record ∈ inserted, record.messageId = messageId) {type : MentionTargetType}
    (sameType : ∀ record ∈ inserted, record.targetType = type)
    (fresh : ∀ record ∈ inserted, ∀ old ∈ store.outbox, notified old ≠ (messageId,
      record.targetId)) :
    ((store.outbox ++ inserted.map row).map notified).Nodup := by
  have insertedKeys : (inserted.map row).map notified =
      inserted.map fun record => (messageId, record.targetId) := by
    rw [map_map]
    exact map_congr_left fun record _ => rowKey record
  rw [map_append, insertedKeys, nodup_append]
  refine ⟨once, ?_, ?_⟩
  · -- Records of one message and one type differ in their targets.
    have byTarget : inserted.map key =
        (inserted.map fun record => (messageId, record.targetId)).map
          fun target => (target.1, target.2, type) := by
      rw [map_map]
      refine map_congr_left fun record recordMem => ?_
      simp [key, sameMessage record recordMem, sameType record recordMem]
    rw [byTarget] at distinct
    exact distinct.of_map _
  · intro first firstMem second secondMem same
    obtain ⟨old, oldMem, rfl⟩ := mem_map.mp firstMem
    obtain ⟨record, recordMem, rfl⟩ := mem_map.mp secondMem
    exact fresh record recordMem old oldMem same

/-- Whom the role worker inserts a record for was not notified before. -/
theorem broadcast_fresh (booked : Booked store) {runtime : Runtime World}
    {job : MentionBroadcastJob} {now : DateTime} (listed : job ∈ store.broadcastJobs)
    (guarded : MeetsNoOther runtime store (.broadcast job now)) {userId : UserId}
    (target : MentionBroadcast.Targets runtime store job now userId)
    (free : ∀ old ∈ store.mentionRecords, old.key ≠ (job.messageId, userId, .user)) :
    ∀ old ∈ store.outbox, notified old ≠ (job.messageId, userId) := by
  intro old oldMem same
  obtain ⟨sameMessage, sameUser⟩ := Prod.mk.inj same
  have present := target.message
  rw [← sameMessage] at present
  rcases booked.covered old oldMem present with settled | ⟨record, recordMem, recordId, recordUser⟩
  · have synced := settled.broadcast job listed sameMessage.symm
    rw [sameUser] at synced
    exact target.notSyncNotified synced
  · rw [sameMessage] at recordId
    rw [sameUser] at recordUser
    rcases booked.types record recordMem with isUser | isKeyword
    · exact free record recordMem (by simp [key, recordId, recordUser, isUser])
    · exact guarded record recordMem recordId isKeyword (recordUser ▸ target)

/-- Whom a scan inserts a record for was not notified before. -/
theorem scan_fresh (booked : Booked store) {runtime : Runtime World} {job : MentionScanJob}
    {targetIds : List UserId} (pending : (job, targetIds) ∈ store.scans)
    (present : ∃ message ∈ store.messages, message.id = job.messageId)
    (guarded : MeetsNoOther runtime store (.scanInsert job targetIds)) {userId : UserId}
    (target : userId ∈ targetIds)
    (free : ∀ old ∈ store.mentionRecords, old.key ≠ (job.messageId, userId, .keyword)) :
    ∀ old ∈ store.outbox, notified old ≠ (job.messageId, userId) := by
  intro old oldMem same
  obtain ⟨sameMessage, sameUser⟩ := Prod.mk.inj same
  rw [← sameMessage] at present
  rcases booked.covered old oldMem present with settled | ⟨record, recordMem, recordId, recordUser⟩
  · have notTargeted := settled.scans (job, targetIds) pending sameMessage.symm
    rw [sameUser] at notTargeted
    exact notTargeted target
  · rw [sameMessage] at recordId
    rw [sameUser] at recordUser
    rcases booked.types record recordMem with isUser | isKeyword
    · exact guarded record recordMem recordId isUser (recordUser ▸ target)
    · exact free record recordMem (by simp [key, recordId, recordUser, isKeyword])

/-- The bookkeeping after a worker inserted records of one type for users of one message. -/
theorem Booked.insert {after : Store World} (booked : Booked store) (messageId : MessageId)
    (type : MentionTargetType) {records : List MentionRecord}
    (outbox : after.outbox = store.outbox ++ (store.mentionRecords.insertMissing records).2.map row)
    (mentionRecords : after.mentionRecords = (store.mentionRecords.insertMissing records).1)
    (messages : after.messages = store.messages)
    (broadcastJobs : after.broadcastJobs = store.broadcastJobs)
    (scanJobs : after.scanJobs = store.scanJobs)
    (scans : ∀ pending ∈ after.scans, pending ∈ store.scans)
    (nextMessageId : after.nextMessageId = store.nextMessageId)
    (rowKey : ∀ record, notified (row record) = (messageId, record.targetId))
    (sent : records ≠ [] → messageId.value < store.nextMessageId)
    (shape : ∀ record ∈ records, record.messageId = messageId ∧ record.targetType = type)
    (workerType : type = .user ∨ type = .keyword)
    (fresh : ∀ record ∈ records, (∀ old ∈ store.mentionRecords, old.key ≠ record.key) → (∀ old ∈
      store.outbox, notified old ≠ (messageId, record.targetId)) ∧ ∀ old ∈ store.mentionRecords,
      old.messageId = messageId → old.targetId = record.targetId → False) :
    Booked after := by
  have given : ∀ record ∈ (store.mentionRecords.insertMissing records).2, record ∈ records ∧
      ∀ old ∈ store.mentionRecords, old.key ≠ record.key :=
    fun record recordMem => Table.inserted_of_mem recordMem
  have mem : ∀ record, record ∈ after.mentionRecords ↔ record ∈ store.mentionRecords ∨
      record ∈ (store.mentionRecords.insertMissing records).2 := by
    intro record
    rw [mentionRecords]
    exact Table.mem_insertMissing
  have alone : ∀ first ∈ store.mentionRecords,
      ∀ second ∈ (store.mentionRecords.insertMissing records).2,
        first.messageId = second.messageId → first.targetId = second.targetId → False := by
    intro first firstMem second secondMem sameMessage sameTarget
    obtain ⟨secondGiven, free⟩ := given second secondMem
    exact (fresh second secondGiven free).2 first firstMem
      (sameMessage.trans (shape second secondGiven).1) sameTarget
  constructor
  · unfold NotifiesOnce
    rw [outbox]
    refine notifiesOnce_append booked.once rowKey (Table.nodup_inserted _ _)
      (fun record recordMem => (shape record (given record recordMem).1).1)
      (fun record recordMem => (shape record (given record recordMem).1).2) ?_
    intro record recordMem
    exact (fresh record (given record recordMem).1 (given record recordMem).2).1
  · intro other otherMem present
    rw [messages] at present
    rw [outbox] at otherMem
    rcases mem_append.mp otherMem with old | new
    · rcases booked.covered other old present with settled | ⟨record, recordMem, same⟩
      · left
        constructor
        · rw [broadcastJobs]
          exact settled.broadcast
        · rw [scanJobs]
          exact settled.scan
        · exact fun pending pendingMem => settled.scans pending (scans pending pendingMem)
      · exact .inr ⟨record, (mem record).mpr (.inl recordMem), same⟩
    · obtain ⟨record, recordMem, rfl⟩ := mem_map.mp new
      obtain ⟨sameMessage, sameTarget⟩ := Prod.mk.inj (rowKey record)
      refine .inr ⟨record, (mem record).mpr (.inr recordMem), ?_, sameTarget.symm⟩
      exact (shape record (given record recordMem).1).1.trans sameMessage.symm
  · intro record recordMem
    rcases (mem record).mp recordMem with old | new
    · exact booked.types record old
    rw [(shape record (given record new).1).2]
    exact workerType
  · intro first firstMem second secondMem sameMessage sameTarget
    rcases (mem first).mp firstMem with firstOld | firstNew
    · rcases (mem second).mp secondMem with secondOld | secondNew
      · exact booked.exclusive first firstOld second secondOld sameMessage sameTarget
      · exact (alone first firstOld second secondNew sameMessage sameTarget).elim
    · rcases (mem second).mp secondMem with secondOld | secondNew
      · exact (alone second secondOld first firstNew sameMessage.symm sameTarget.symm).elim
      exact (shape first (given first firstNew).1).2.trans
        (shape second (given second secondNew).1).2.symm
  · intro record recordMem
    rw [outbox]
    rcases (mem record).mp recordMem with old | new
    · obtain ⟨other, otherMem, same⟩ := booked.reported record old
      exact ⟨other, mem_append_left _ otherMem, same⟩
    · refine ⟨row record, mem_append_right _ (mem_map_of_mem new), ?_⟩
      rw [rowKey, (shape record (given record new).1).1]
  · intro other otherMem
    rw [outbox] at otherMem
    rw [nextMessageId]
    rcases mem_append.mp otherMem with old | new
    · exact booked.sentRows other old
    obtain ⟨record, recordMem, rfl⟩ := mem_map.mp new
    rw [(Prod.mk.inj (rowKey record)).1]
    exact sent (ne_nil_of_mem (given record recordMem).1)
  · rw [broadcastJobs, nextMessageId]
    exact booked.sentBroadcasts
  · rw [scanJobs, nextMessageId]
    exact booked.sentScanJobs
  · rw [scanJobs]
    exact fun pending pendingMem => booked.sentScans pending (scans pending pendingMem)

end Inserts

section Steps

variable {runtime : Runtime World} {before after : Store World}

/-- A step that notifies nobody and leaves records, jobs and scans alone. -/
theorem Booked.of_same (booked : Booked before) (frame : Frame before after)
    (outbox : after.outbox = before.outbox)
    (mentionRecords : after.mentionRecords = before.mentionRecords)
    (broadcastJobs : after.broadcastJobs = before.broadcastJobs)
    (scanJobs : after.scanJobs = before.scanJobs) (scans : after.scans = before.scans) :
    Booked after := by
  constructor
  · unfold NotifiesOnce
    rw [outbox]
    exact booked.once
  · intro row rowMem present
    rw [outbox] at rowMem
    obtain ⟨message, messageMem, idEq⟩ := present
    obtain ⟨old, oldMem, oldId, -⟩ :=
      frame.identity_of_old (booked.sentRows row rowMem) messageMem idEq
    refine (booked.covered row rowMem ⟨old, oldMem, oldId⟩).imp ?_ ?_
    · intro settled
      constructor
      · rw [broadcastJobs]
        exact settled.broadcast
      · rw [scanJobs]
        exact settled.scan
      · rw [scans]
        exact settled.scans
    · unfold IsRecorded
      rw [mentionRecords]
      exact id
  · rw [mentionRecords]
    exact booked.types
  · rw [mentionRecords]
    exact booked.exclusive
  · rw [mentionRecords, outbox]
    exact booked.reported
  · rw [outbox]
    exact fun row rowMem => Nat.lt_of_lt_of_le (booked.sentRows row rowMem) frame.nextMessage
  · rw [broadcastJobs]
    exact fun job jobMem => Nat.lt_of_lt_of_le (booked.sentBroadcasts job jobMem) frame.nextMessage
  · rw [scanJobs]
    exact fun job jobMem => Nat.lt_of_lt_of_le (booked.sentScanJobs job jobMem) frame.nextMessage
  · rw [scans, scanJobs]
    exact booked.sentScans

/-- The cache is no part of the books. -/
theorem Booked.writeCache (booked : Booked before)
    (idemCache : UserId → IdempotencyKey → Option MessageId) :
    Booked { before with idemCache := idemCache } where
  once := booked.once
  covered := fun row rowMem present => (booked.covered row rowMem present).imp
    (fun settled => ⟨settled.broadcast, settled.scan, settled.scans⟩) id
  types := booked.types
  exclusive := booked.exclusive
  reported := booked.reported
  sentRows := booked.sentRows
  sentBroadcasts := booked.sentBroadcasts
  sentScanJobs := booked.sentScanJobs
  sentScans := booked.sentScans

section Added

variable {Row : Type} {aboutOf : Row → MessageId} {old new : List Row} {nextMessageId : Nat}

/-- Rows about the new message join those of the messages sent before. -/
theorem sent_append (oldSent : ∀ row ∈ old, (aboutOf row).value < nextMessageId)
    (newAbout : ∀ row ∈ new, aboutOf row = ⟨nextMessageId⟩) :
    ∀ row ∈ old ++ new, (aboutOf row).value < nextMessageId + 2 := by
  intro row rowMem
  rcases mem_append.mp rowMem with isOld | isNew
  · exact Nat.lt_add_right 2 (oldSent row isOld)
  rw [newAbout row isNew]
  exact Nat.lt_add_of_pos_right Nat.two_pos

theorem mem_new_of_about (oldSent : ∀ row ∈ old, (aboutOf row).value < nextMessageId) {row : Row}
    (rowMem : row ∈ old ++ new) (about : aboutOf row = ⟨nextMessageId⟩) : row ∈ new := by
  refine (mem_append.mp rowMem).resolve_left fun isOld => ?_
  have below := oldSent row isOld
  rw [about] at below
  exact Nat.lt_irrefl _ below

theorem mem_old_of_about (newAbout : ∀ row ∈ new, aboutOf row = ⟨nextMessageId⟩) {row : Row}
    (rowMem : row ∈ old ++ new) (other : aboutOf row ≠ ⟨nextMessageId⟩) : row ∈ old :=
  (mem_append.mp rowMem).resolve_right fun isNew => other (newAbout row isNew)

end Added

/-- A created message notifies its recipients once, and its jobs know them. -/
theorem booked_of_created {call : SendCall} {args : SendArgs} {world : World} {mentions : Mentions}
    {message : Message} {messages : MessageTable} (booked : Booked before)
    (fresh : message.id = ⟨before.nextMessageId⟩)
    (kept : ∀ row ∈ messages, row.id.value < before.nextMessageId →
      ∃ old ∈ before.messages, old.id = row.id) :
    Booked (Store.created runtime call { before with world := world } args mentions message
      messages) := by
  have rowIds : (mentionRows runtime call { before with world := world } args mentions message).map
      notified = (syncNotifiedUserIds runtime call { before with world := world } args mentions
        message).map fun userId => (message.id, userId) := by
    rw [mentionRows, FanoutInput.rows, map_map]
    rfl
  have rowsAbout : ∀ row ∈ mentionRows runtime call { before with world := world } args mentions
      message, row.messageId = ⟨before.nextMessageId⟩ := by
    intro row rowMem
    obtain ⟨userId, -, rfl⟩ := mem_map.mp rowMem
    exact fresh
  have broadcastAbout : ∀ job ∈ (broadcastJob runtime call { before with world := world } args
      mentions message).toList, job.messageId = ⟨before.nextMessageId⟩ :=
    fun job jobMem => (broadcastJob_eq_some (Option.mem_toList.mp jobMem)).1.trans fresh
  have scanAbout : ∀ job ∈ (scanJob runtime call { before with world := world } args
      mentions message).toList, job.messageId = ⟨before.nextMessageId⟩ :=
    fun job jobMem => (scanJob_eq_some (Option.mem_toList.mp jobMem)).1.trans fresh
  have oldRow : ∀ row ∈ before.outbox, row.messageId ≠ ⟨before.nextMessageId⟩ := by
    intro row rowMem same
    have below := booked.sentRows row rowMem
    rw [same] at below
    exact Nat.lt_irrefl _ below
  constructor
  · simp only [NotifiesOnce, Store.created, map_append, rowIds, nodup_append]
    refine ⟨booked.once, ?_, ?_⟩
    · exact (filterNotifiable_nodup _ _).map fun first second same => (Prod.mk.inj same).2
    · intro first firstMem second secondMem same
      obtain ⟨row, rowMem, rfl⟩ := mem_map.mp firstMem
      obtain ⟨userId, -, rfl⟩ := mem_map.mp secondMem
      exact oldRow row rowMem ((Prod.mk.inj same).1.trans fresh)
  · intro row rowMem present
    rcases mem_append.mp rowMem with old | new
    · -- The new jobs are about the new message only.
      obtain ⟨found, foundMem, foundId⟩ := present
      have below := booked.sentRows row old
      obtain ⟨oldMessage, oldMessageMem, sameId⟩ := kept found foundMem (foundId ▸ below)
      refine (booked.covered row old ⟨oldMessage, oldMessageMem, sameId.trans foundId⟩).imp_left ?_
      intro settled
      constructor
      · intro job jobMem jobMessage
        have oldJob := mem_old_of_about broadcastAbout jobMem (jobMessage ▸ oldRow row old)
        exact settled.broadcast job oldJob jobMessage
      · intro job jobMem jobMessage
        have oldJob := mem_old_of_about scanAbout jobMem (jobMessage ▸ oldRow row old)
        exact settled.scan job oldJob jobMessage
      · exact settled.scans
    · left
      have newKey : notified row ∈ (mentionRows runtime call { before with world := world } args
          mentions message).map notified := mem_map_of_mem new
      rw [rowIds] at newKey
      obtain ⟨userId, recipient, same⟩ := mem_map.mp newKey
      obtain ⟨sameMessage, rfl⟩ := Prod.mk.inj same
      have rowAbout := rowsAbout row new
      constructor
      · intro job jobMem jobMessage
        have newJob := mem_new_of_about booked.sentBroadcasts jobMem (jobMessage.trans rowAbout)
        rw [(broadcastJob_eq_some (Option.mem_toList.mp newJob)).2]
        exact recipient
      · intro job jobMem jobMessage
        have newJob := mem_new_of_about booked.sentScanJobs jobMem (jobMessage.trans rowAbout)
        rw [(scanJob_eq_some (Option.mem_toList.mp newJob)).2]
        exact recipient
      · intro pending pendingMem pendingMessage
        have below := booked.sentScanJobs pending.1 (booked.sentScans pending pendingMem)
        rw [pendingMessage, rowAbout] at below
        exact absurd below (Nat.lt_irrefl _)
  · exact booked.types
  · exact booked.exclusive
  · intro record recordMem
    obtain ⟨row, rowMem, same⟩ := booked.reported record recordMem
    exact ⟨row, mem_append_left _ rowMem, same⟩
  · exact sent_append booked.sentRows rowsAbout
  · exact sent_append booked.sentBroadcasts broadcastAbout
  · exact sent_append booked.sentScanJobs scanAbout
  · exact fun pending pendingMem => mem_append_left _ (booked.sentScans pending pendingMem)

/-- Every send keeps the books. -/
theorem booked_of_send {call : SendCall} {args : SendArgs} (consistent : Consistent before)
    (booked : Booked before) : Booked (send runtime call before args).2 := by
  have frame := frame_send runtime call consistent args
  have outcome := send_outcome runtime call before args
  generalize send runtime call before args = answer at outcome frame
  cases outcome with
  | refused failure world => exact booked.of_same frame rfl rfl rfl rfl rfl
  | cached found same => exact booked
  | @created world contentPlain messages _ _ _ sent =>
    have created : Booked (Store.created runtime call { before with world := world } args
        (gatedMentions runtime before args)
        (args.row call before (gatedMentions runtime before args) contentPlain).message
        messages) := by
      refine booked_of_created booked rfl fun row present below => ?_
      rcases identity_of_sent sent row present with ⟨old, oldMem, same⟩ | same | copied
      · exact ⟨old, oldMem, (id_eq_of_identity same).symm⟩
      · have sameId : row.id = ⟨before.nextMessageId⟩ := id_eq_of_identity same
        rw [sameId] at below
        exact absurd below (Nat.lt_irrefl _)
      · rw [copied] at below
        exact absurd below (by simp)
    obtain ⟨idemCache, cacheEq, -⟩ := writeIdemCache_eq call
      (Store.created runtime call { before with world := world } args
        (gatedMentions runtime before args)
        (args.row call before (gatedMentions runtime before args) contentPlain).message messages)
      args ⟨before.nextMessageId⟩
    rw [cacheEq]
    exact created.writeCache idemCache
  | @replayed world key existing _ keyed found same =>
    obtain ⟨idemCache, cacheEq, -⟩ :=
      writeIdemCache_eq call { before with world := world } args existing.id
    rw [cacheEq] at frame ⊢
    exact booked.of_same frame rfl rfl rfl rfl rfl

section

variable (booked : Booked before)

include booked

/-- A step on the messages that keeps their identity. -/
theorem Booked.of_messages {messages : MessageTable}
    (kept : ∀ message ∈ messages, ∃ old ∈ before.messages, message.identity = old.identity) :
    Booked { before with messages := messages } :=
  booked.of_same (.of_messages kept) rfl rfl rfl rfl rfl

/-- Scans may start for whom their job does not know to be notified, and end at any time. -/
theorem Booked.of_scans {scans : List (MentionScanJob × List UserId)}
    (listed : ∀ pending ∈ scans, pending.1 ∈ before.scanJobs)
    (apart : ∀ pending ∈ scans, pending ∈ before.scans ∨ ∀ userId ∈ pending.2, userId ∉
      pending.1.syncNotifiedUserIds) :
    Booked { before with scans := scans } where
  once := booked.once
  covered := by
    intro row rowMem present
    refine (booked.covered row rowMem present).imp_left fun settled => ?_
    refine ⟨settled.broadcast, settled.scan, fun pending pendingMem sameMessage target => ?_⟩
    rcases apart pending pendingMem with old | notSynced
    · exact settled.scans pending old sameMessage target
    · exact notSynced _ target (settled.scan pending.1 (listed pending pendingMem) sameMessage)
  types := booked.types
  exclusive := booked.exclusive
  reported := booked.reported
  sentRows := booked.sentRows
  sentBroadcasts := booked.sentBroadcasts
  sentScanJobs := booked.sentScanJobs
  sentScans := listed

/-- Messages that go take their records with them. -/
theorem Booked.of_purge {messages : MessageTable} {mentionRecords : Table MentionRecord key}
    {attachments : Table Attachment Attachment.id}
    (kept : ∀ message ∈ messages, message ∈ before.messages)
    (keptRecords : ∀ record, record ∈ mentionRecords ↔ record ∈ before.mentionRecords ∧ ∃ message ∈
      messages, message.id = record.messageId) :
    Booked { before with
      messages := messages, mentionRecords := mentionRecords, attachments := attachments } where
  once := booked.once
  covered := by
    rintro row rowMem ⟨message, messageMem, idEq⟩
    refine (booked.covered row rowMem ⟨message, kept message messageMem, idEq⟩).imp ?_ ?_
    · exact fun settled => ⟨settled.broadcast, settled.scan, settled.scans⟩
    · rintro ⟨record, recordMem, sameMessage, sameUser⟩
      exact ⟨record, (keptRecords record).mpr
        ⟨recordMem, message, messageMem, idEq.trans sameMessage.symm⟩, sameMessage, sameUser⟩
  types := fun record recordMem => booked.types record ((keptRecords record).mp recordMem).1
  exclusive := fun first firstMem second secondMem =>
    booked.exclusive first ((keptRecords first).mp firstMem).1 second
      ((keptRecords second).mp secondMem).1
  reported := fun record recordMem => booked.reported record ((keptRecords record).mp recordMem).1
  sentRows := booked.sentRows
  sentBroadcasts := booked.sentBroadcasts
  sentScanJobs := booked.sentScanJobs
  sentScans := booked.sentScans

/-- The role worker keeps the books when it meets nobody with a keyword record. -/
theorem booked_of_broadcast {job : MentionBroadcastJob} {now : DateTime}
    (listed : job ∈ before.broadcastJobs)
    (guarded : MeetsNoOther runtime before (.broadcast job now)) :
    Booked (MentionBroadcast.run runtime before job now) := by
  refine booked.insert job.messageId .user rfl rfl rfl rfl rfl
    (fun _ pendingMem => pendingMem) rfl (fun _ => rfl) (fun _ => booked.sentBroadcasts job listed)
    ?_ (.inl rfl) ?_
  · intro record recordMem
    obtain ⟨userId, -, rfl⟩ := mem_map.mp recordMem
    exact ⟨rfl, rfl⟩
  · intro record recordMem free
    obtain ⟨userId, targeted, rfl⟩ := mem_map.mp recordMem
    have target := MentionBroadcast.mem_targetIds.mp targeted
    refine ⟨broadcast_fresh booked listed guarded target free, fun old oldMem sameMessage same => ?_⟩
    rcases booked.types old oldMem with isUser | isKeyword
    · exact free old oldMem (by simp [key, sameMessage, same, isUser, MentionBroadcast.record])
    · exact guarded old oldMem sameMessage isKeyword (same ▸ target)

/-- A scan keeps the books when it meets nobody with a role record. -/
theorem booked_of_scanInsert {job : MentionScanJob} {targetIds : List UserId}
    (pending : (job, targetIds) ∈ before.scans)
    (present : ∃ message ∈ before.messages, message.id = job.messageId)
    (guarded : MeetsNoOther runtime before (.scanInsert job targetIds)) :
    Booked (MentionScan.insert before job targetIds) := by
  refine booked.insert job.messageId .keyword rfl rfl rfl rfl rfl
    (fun _ pendingMem => mem_of_mem_erase pendingMem) rfl (fun _ => rfl)
    (fun _ => booked.sentScanJobs job (booked.sentScans _ pending)) ?_ (.inr rfl) ?_
  · intro record recordMem
    obtain ⟨userId, -, rfl⟩ := mem_map.mp recordMem
    exact ⟨rfl, rfl⟩
  · intro record recordMem free
    obtain ⟨userId, target, rfl⟩ := mem_map.mp recordMem
    refine ⟨scan_fresh booked pending present guarded target free,
      fun old oldMem sameMessage same => ?_⟩
    rcases booked.types old oldMem with isUser | isKeyword
    · exact guarded old oldMem sameMessage isUser (same ▸ target)
    exact free old oldMem (by simp [key, sameMessage, same, isKeyword, MentionScan.record])

end

/-- Every step that meets no record of the other worker keeps the books. -/
theorem booked_of_step {event : StoreEvent} (step : StoreStep runtime before event after)
    (guarded : MeetsNoOther runtime before event) (consistent : Consistent before)
    (booked : Booked before) : Booked after := by
  have frame := frame_of_step step consistent
  cases step with
  | send call args => exact booked_of_send consistent booked
  | edit updated => exact booked.of_messages fun _ present => identity_update updated present
  | delete channelId msgId deletedAt =>
    exact booked.of_messages fun _ present => identity_softDelete present
  | reconcile => exact booked.of_messages fun _ present => identity_reconcile present
  | purge kept keptRecords keptAttachments => exact booked.of_purge kept keptRecords
  | expire authorId key => exact booked.writeCache _
  | upload fresh inserted | finalize id finalizedAt | discard condition
  | configure db tables world => exact booked.of_same frame rfl rfl rfl rfl rfl
  | broadcast listed now => exact booked_of_broadcast booked listed guarded
  | @scanRead job listed now =>
    apply booked.of_scans
    · intro pending pendingMem
      rcases mem_append.mp pendingMem with old | new
      · exact booked.sentScans pending old
      obtain rfl := mem_singleton.mp new
      exact listed
    · intro pending pendingMem
      refine (mem_append.mp pendingMem).imp_right fun new => ?_
      obtain rfl := mem_singleton.mp new
      exact fun userId target => MentionScan.not_syncNotified_of_mem_targetIds target
  | scanInsert pending present => exact booked_of_scanInsert booked pending present guarded
  | scanAbort pending =>
    exact booked.of_scans (fun other otherMem => booked.sentScans other (mem_of_mem_erase otherMem))
      fun other otherMem => .inl (mem_of_mem_erase otherMem)

/-- A record inserted for a user whom a record of the other type names already is one notification
too many. -/
theorem Booked.repeats_of_insert (booked : Booked before) (messageId : MessageId)
    (type : MentionTargetType) {records : List MentionRecord} {row : MentionRecord → MentionReceived}
    (outbox : after.outbox =
      before.outbox ++ (before.mentionRecords.insertMissing records).2.map row)
    (rowKey : ∀ record, notified (row record) = (messageId, record.targetId))
    {record other : MentionRecord} (given : record ∈ records)
    (shape : record.messageId = messageId ∧ record.targetType = type)
    (met : other ∈ before.mentionRecords) (sameMessage : other.messageId = messageId)
    (sameTarget : other.targetId = record.targetId) (otherType : other.targetType ≠ type) :
    ¬NotifiesOnce after := by
  -- All records of the message and the user are of the other type, so the key is free.
  have free : ∀ old ∈ before.mentionRecords, old.key ≠ record.key := by
    intro old oldMem sameKey
    obtain ⟨oldMessage, oldTarget, oldType⟩ : old.messageId = record.messageId ∧
        old.targetId = record.targetId ∧ old.targetType = record.targetType := by
      simpa [MentionRecord.key] using sameKey
    have sameType := booked.exclusive other met old oldMem
      (sameMessage.trans (oldMessage.trans shape.1).symm) (sameTarget.trans oldTarget.symm)
    exact otherType (sameType.trans (oldType.trans shape.2))
  obtain ⟨inserted, insertedMem, sameKey⟩ := Table.exists_inserted given free
  obtain ⟨old, oldMem, oldKey⟩ := booked.reported other met
  intro once
  unfold NotifiesOnce at once
  rw [outbox, map_append] at once
  have insertedTarget : inserted.targetId = record.targetId :=
    congrArg (fun key => key.2.1) sameKey
  have newKey : notified (row inserted) = notified old := by
    rw [rowKey, oldKey, insertedTarget, sameMessage, sameTarget]
  refine (nodup_append.mp once).2.2 (notified old) (mem_map_of_mem oldMem)
    (notified (row inserted)) ?_ newKey.symm
  exact mem_map_of_mem (mem_map_of_mem insertedMem)

/-- A step notifies somebody twice exactly when it meets a record of the other worker. -/
theorem notifiesOnce_of_step_iff {event : StoreEvent} (step : StoreStep runtime before event after)
    (consistent : Consistent before) (booked : Booked before) :
    NotifiesOnce after ↔ MeetsNoOther runtime before event := by
  refine ⟨fun once => ?_, fun guarded => (booked_of_step step guarded consistent booked).once⟩
  cases step with
  | @broadcast job listed now =>
    intro record recordMem sameMessage isKeyword target
    have given := mem_map_of_mem (f := MentionBroadcast.record job)
      (MentionBroadcast.mem_targetIds.mpr target)
    have repeats : ¬NotifiesOnce (MentionBroadcast.run runtime before job now) :=
      booked.repeats_of_insert job.messageId .user rfl (fun _ => rfl) given ⟨rfl, rfl⟩ recordMem
        sameMessage rfl (by simp [isKeyword])
    exact repeats once
  | @scanInsert job targetIds pending present =>
    intro record recordMem sameMessage isUser target
    have given := mem_map_of_mem (f := MentionScan.record job) target
    have repeats : ¬NotifiesOnce (MentionScan.insert before job targetIds) :=
      booked.repeats_of_insert job.messageId .keyword rfl (fun _ => rfl) given ⟨rfl, rfl⟩
        recordMem sameMessage rfl (by simp [isUser])
    exact repeats once
  | _ => trivial

theorem booked_initialStore (db : Database) (tables : NotificationTables) (world : World) :
    Booked (initialStore db tables world) where
  once := nodup_nil
  covered := nofun
  types := nofun
  exclusive := nofun
  reported := nofun
  sentRows := nofun
  sentBroadcasts := nofun
  sentScanJobs := nofun
  sentScans := nofun

/-- As long as no insert meets a record of the other worker, no message notifies anyone twice, in
whatever order and however often the workers run; and the first insert that does
meets one notifies somebody twice. -/
theorem notifiesOnce_of_steps {db : Database} {tables : NotificationTables} {world : World}
    {events : List StoreEvent} {store : Store World}
    (steps : Steps (Guarded (StoreStep runtime) (MeetsNoOther runtime))
      (initialStore db tables world) events store) :
    NotifiesOnce store ∧ ∀ event next, StoreStep runtime store event next →
      (NotifiesOnce next ↔ MeetsNoOther runtime store event) := by
  have invariant : Consistent store ∧ Booked store := by
    refine steps.preserves (fun store => Consistent store ∧ Booked store) ?_
      ⟨consistent_initialStore db tables world, booked_initialStore db tables world⟩
    rintro store event next ⟨step, guarded⟩ ⟨consistent, booked⟩
    exact ⟨(frame_of_step step consistent).consistent consistent,
      booked_of_step step guarded consistent booked⟩
  exact ⟨invariant.2.once,
    fun event next step => notifiesOnce_of_step_iff step invariant.1 invariant.2⟩

end Steps

theorem nodup_watchers : (([⟨⟨1⟩, ⟨1⟩, .member⟩, ⟨⟨1⟩, ⟨2⟩, .member⟩] : List WorkspaceMember).map
    fun row => (row.workspaceId, row.userId)).Nodup := by
  decide

/-- A workspace whose user 2 holds a mentionable role and watches for a word. -/
def watchedStore : Store Unit :=
  let members : WorkspaceMemberTable :=
    ⟨[⟨⟨1⟩, ⟨1⟩, .member⟩, ⟨⟨1⟩, ⟨2⟩, .member⟩], nodup_watchers⟩
  let ops : Role := { id := ⟨5⟩, workspaceId := ⟨1⟩, name := "ops", position := 0, mentionable := true }
  let channel : Channel :=
    { id := ⟨1⟩, workspaceId := some ⟨1⟩, name := "board", position := 0, createdAt := 0 }
  let db : Database :=
    { Database.withoutRoles members ⟨[channel], by decide⟩ .empty with
      roles := ⟨[ops], by decide⟩
      memberRoles := ⟨[⟨⟨1⟩, ⟨2⟩, ⟨5⟩⟩], by decide⟩
      memberRoleRole := by
        intro row present
        obtain rfl := mem_singleton.mp present
        exact ⟨ops, mem_singleton_self ops, rfl⟩
      memberRoleMember := by
        intro row present
        obtain rfl := mem_singleton.mp present
        exact ⟨_, mem_cons_of_mem _ mem_cons_self, rfl, rfl⟩ }
  let tables : NotificationTables :=
    { NotificationTables.empty with
      userSettings := ⟨[{ userId := ⟨2⟩, keywords := ["outage"] }], by decide⟩ }
  initialStore db tables ()

/-- A message to the role with the word in it. -/
def outageArgs : SendArgs where
  workspaceId := some ⟨1⟩
  channelId := ⟨1⟩
  authorId := ⟨1⟩
  content := "@ops outage"
  actorRole := some .member

/-- The message with its two jobs. -/
def sentStore : Store Unit :=
  (send quietRuntime { now := 2, createdAt := 2 } watchedStore outageArgs).2

def outageBroadcastJob : MentionBroadcastJob where
  messageId := ⟨0⟩
  channelId := ⟨1⟩
  workspaceId := ⟨1⟩
  actorId := ⟨1⟩
  parentMessageId := none
  gatedRoleIds := [⟨5⟩]
  syncNotifiedUserIds := []
  snippet := "@ops outage".toList
  everyone := false
  here := false
  createdAt := 2

def outageScanJob : MentionScanJob where
  messageId := ⟨0⟩
  channelId := ⟨1⟩
  workspaceId := ⟨1⟩
  actorId := ⟨1⟩
  snippet := "@ops outage".toList
  createdAt := 2
  syncNotifiedUserIds := []

/-- When the keyword worker runs before the role worker, the user is notified by both. -/
theorem runs_notify_twice :
    ¬∀ (World : Type) (runtime : Runtime World) (db : Database) (tables : NotificationTables)
        (world : World) (events : List StoreEvent) (store : Store World),
      Steps (StoreStep runtime) (initialStore db tables world) events store →
      NotifiesOnce store := by
  intro once
  let scanning := MentionScan.read quietRuntime sentStore outageScanJob 3
  let scanned := MentionScan.insert scanning outageScanJob [⟨2⟩]
  have sent : Steps (StoreStep quietRuntime) watchedStore
      [.send { now := 2, createdAt := 2 } outageArgs] sentStore :=
    .step .refl (.send _ outageArgs)
  have listed : outageScanJob ∈ sentStore.scanJobs := by decide
  have pending : (outageScanJob, [⟨2⟩]) ∈ scanning.scans := by decide
  have present : ∃ message ∈ scanning.messages.table.rows, message.id = outageScanJob.messageId := by
    decide
  have queued : outageBroadcastJob ∈ scanned.broadcastJobs := by decide
  have notifiedOnce := once Unit quietRuntime watchedStore.db watchedStore.tables () _ _
    (.step (.step (.step sent (.scanRead listed 3)) (.scanInsert pending present))
      (.broadcast queued 4))
  revert notifiedOnce
  unfold NotifiesOnce
  decide

/-- The other way around the scan finds the record of the role worker, which may run twice. -/
theorem runs_notify_once :
    let broadcasted := MentionBroadcast.run quietRuntime sentStore outageBroadcastJob 3
    let repeated := MentionBroadcast.run quietRuntime broadcasted outageBroadcastJob 4
    let scanning := MentionScan.read quietRuntime repeated outageScanJob 5
    NotifiesOnce (MentionScan.insert scanning outageScanJob []) := by
  intro broadcasted repeated scanning
  have queued : outageBroadcastJob ∈ sentStore.broadcastJobs := by decide
  have stillQueued : outageBroadcastJob ∈ broadcasted.broadcastJobs := queued
  have userRecords : ∀ record ∈ broadcasted.mentionRecords.rows, record.targetType = .user := by
    decide
  have listed : outageScanJob ∈ repeated.scanJobs := by decide
  have pending : (outageScanJob, []) ∈ scanning.scans := by decide
  have present : ∃ message ∈ scanning.messages.table.rows, message.id = outageScanJob.messageId := by
    decide
  have sent : Steps (Guarded (StoreStep quietRuntime) (MeetsNoOther quietRuntime)) watchedStore
      [.send { now := 2, createdAt := 2 } outageArgs] sentStore :=
    .step .refl ⟨.send _ outageArgs, trivial⟩
  have twice : Steps (Guarded (StoreStep quietRuntime) (MeetsNoOther quietRuntime)) watchedStore
      [.send { now := 2, createdAt := 2 } outageArgs, .broadcast outageBroadcastJob 3,
        .broadcast outageBroadcastJob 4] repeated := by
    refine .step (.step sent ⟨.broadcast queued 3, ?_⟩) ⟨.broadcast stillQueued 4, ?_⟩
    · exact nofun
    · intro record recordMem _ isKeyword
      rw [userRecords record recordMem] at isKeyword
      cases isKeyword
  have scanned := Steps.step (.step twice ⟨.scanRead listed 5, trivial⟩)
    ⟨.scanInsert pending present, nofun⟩
  exact (notifiesOnce_of_steps scanned).1

end Bongtalk.Messaging
