import Bongtalk.Messages.Send
import Bongtalk.Queue.KeywordMatcher

/-!
# The mention workers

One worker notifies the members of the roles a message mentions, the other one those who
watch for a word in it. Both record whom they notify, and notify those whose record they
inserted. A job may run any number of times.
-/

namespace Bongtalk.Queue

open Channels.Permission Messages Notifications Prisma

variable {World : Type} (runtime : Runtime World) (store : Store World)

/-- A live channel and a live message of a job. -/
def findLive (channelId : ChannelId) (messageId : MessageId) : Option (Channel × Message) :=
  ((store.db.channels.findUnique channelId).filter (·.deletedAt == none)).bind fun channel =>
    ((store.messages.findUnique messageId).filter (·.deletedAt == none)).map fun message =>
      (channel, message)

namespace MentionBroadcast

variable (job : MentionBroadcastJob) (now : DateTime)

/-- The members of the roles, without the author and those the send notified. -/
def candidateIds : List UserId :=
  (((store.db.memberRoles.findMany fun row =>
    row.workspaceId == job.workspaceId && job.gatedRoleIds.contains row.roleId).map
      (·.userId)).eraseDups).filter fun userId =>
        userId != job.actorId && !job.syncNotifiedUserIds.contains userId

/-- The candidates who see the channel and pass the gate. -/
def targetIds : List UserId :=
  match findLive store job.channelId job.messageId with
  | none => []
  | some (channel, _) =>
    let visible := filterChannelVisibleUsers store.db channel job.workspaceId
      (candidateIds store job)
    filterNotifiable store.tables runtime.zoneClock
      ⟨job.channelId, some job.workspaceId, job.actorId, job.parentMessageId, now⟩ visible
      fun _ => .direct

def record (userId : UserId) : MentionRecord where
  messageId := job.messageId
  targetId := userId
  targetType := .user
  channelId := job.channelId
  workspaceId := job.workspaceId

def row (userId : UserId) : MentionReceived where
  targetUserId := userId
  workspaceId := some job.workspaceId
  channelId := job.channelId
  messageId := job.messageId
  actorId := job.actorId
  snippet := job.snippet
  createdAt := job.createdAt
  everyone := job.everyone
  here := job.here
  role := true

/-- `MentionBroadcastProcessor.run`. -/
def run : Store World :=
  let inserted := store.mentionRecords.insertMissing ((targetIds runtime store job now).map (record job))
  { store with
    mentionRecords := inserted.1
    outbox := store.outbox ++ inserted.2.map fun record => row job record.targetId }

end MentionBroadcast

namespace MentionScan

variable (job : MentionScanJob) (now : DateTime)

/-- The members of the workspace with keywords, without the author and those the send notified. -/
def watchers : List KeywordWatcher :=
  ((store.tables.userSettings.findMany fun row =>
    !row.keywords.isEmpty && row.userId != job.actorId &&
      (store.db.findMember job.workspaceId row.userId).isSome).filter fun row =>
        !job.syncNotifiedUserIds.contains row.userId).map fun row => ⟨row.userId, row.keywords⟩

/-- The watchers who match, see the channel, pass the gate and have no record of the message: what
the scan is going to record. -/
def targetIds : List UserId :=
  match findLive store job.channelId job.messageId with
  | none => []
  | some (channel, message) =>
    if message.parentMessageId ≠ none then []
    else
      let matched := scanKeywords runtime.toLowerCase message.contentPlain.toList
        (watchers store job)
      let visible := filterChannelVisibleUsers store.db channel job.workspaceId matched
      let notifiable := filterNotifiable store.tables runtime.zoneClock
        ⟨job.channelId, some job.workspaceId, job.actorId, none, now⟩ visible fun _ => .direct
      let alreadyRecorded := (store.mentionRecords.findMany fun record =>
        record.messageId == job.messageId).map (·.targetId)
      notifiable.filter fun userId => !alreadyRecorded.contains userId

def record (userId : UserId) : MentionRecord where
  messageId := job.messageId
  targetId := userId
  targetType := .keyword
  channelId := job.channelId
  workspaceId := job.workspaceId

def row (userId : UserId) : MentionReceived where
  targetUserId := userId
  workspaceId := some job.workspaceId
  channelId := job.channelId
  messageId := job.messageId
  actorId := job.actorId
  snippet := job.snippet
  createdAt := job.createdAt
  everyone := false
  here := false
  role := false
  keyword := true

/-- `MentionScanProcessor.run` up to its read of the existing records. -/
def read : Store World :=
  { store with scans := store.scans ++ [(job, targetIds runtime store job now)] }

/-- The insert of a scan and its notifications. -/
def insert (targetIds : List UserId) : Store World :=
  let inserted := store.mentionRecords.insertMissing (targetIds.map (record job))
  { store with
    mentionRecords := inserted.1
    outbox := store.outbox ++ inserted.2.map (fun record => row job record.targetId)
    scans := store.scans.erase (job, targetIds) }

end MentionScan

section Targets

variable {runtime : Runtime World} {store : Store World}

/-- What makes a user a target of the role worker: a mentioned role, a message that is still there,
sight of its channel and the consent of the gate. -/
structure MentionBroadcast.Targets (runtime : Runtime World) (store : Store World)
    (job : MentionBroadcastJob) (now : DateTime) (userId : UserId) : Prop where
  holdsRole : ∃ row ∈ store.db.memberRoles, row.workspaceId = job.workspaceId ∧
    row.roleId ∈ job.gatedRoleIds ∧ row.userId = userId
  notActor : userId ≠ job.actorId
  notSyncNotified : userId ∉ job.syncNotifiedUserIds
  sees : ∃ channel message, findLive store job.channelId job.messageId = some (channel, message) ∧
    ∃ member, store.db.findMember job.workspaceId userId = some member ∧
      (channel.isPrivate = true → member.role = .owner ∨
        ReadAllowed store.db.overrides.rows channel.id userId
          (loadMember store.db member).principals)
  notifiable : isNotifiable store.tables
    ⟨job.channelId, some job.workspaceId, job.actorId, job.parentMessageId, now⟩ userId
    runtime.zoneClock .direct = true

variable {job : MentionBroadcastJob} {userId : UserId}

theorem MentionBroadcast.mem_candidateIds :
    userId ∈ candidateIds store job ↔
      (∃ row ∈ store.db.memberRoles, row.workspaceId = job.workspaceId ∧
        row.roleId ∈ job.gatedRoleIds ∧ row.userId = userId) ∧
      userId ≠ job.actorId ∧ userId ∉ job.syncNotifiedUserIds := by
  simp [candidateIds, and_assoc]

/-- The role worker targets exactly those. -/
theorem MentionBroadcast.mem_targetIds {now : DateTime} :
    userId ∈ targetIds runtime store job now ↔ Targets runtime store job now userId := by
  unfold targetIds
  split
  next gone =>
    refine iff_of_false List.not_mem_nil fun target => ?_
    obtain ⟨channel, message, found, -⟩ := target.sees
    rw [gone] at found
    cases found
  next channel message live =>
    rw [mem_filterNotifiable, mem_filterChannelVisibleUsers, mem_candidateIds]
    constructor
    · rintro ⟨⟨⟨holdsRole, notActor, notSyncNotified⟩, sees⟩, notifiable⟩
      exact ⟨holdsRole, notActor, notSyncNotified, ⟨channel, message, live, sees⟩, notifiable⟩
    · intro target
      obtain ⟨other, otherMessage, found, sees⟩ := target.sees
      cases live.symm.trans found
      exact ⟨⟨⟨target.holdsRole, target.notActor, target.notSyncNotified⟩, sees⟩, target.notifiable⟩

/-- A target's message is there. -/
theorem MentionBroadcast.Targets.message {now : DateTime}
    (target : Targets runtime store job now userId) :
    ∃ message ∈ store.messages, message.id = job.messageId := by
  obtain ⟨channel, message, found, -⟩ := target.sees
  obtain ⟨_, -, inner⟩ := Option.bind_eq_some_iff.mp found
  obtain ⟨live, liveEq, -⟩ := Option.map_eq_some_iff.mp inner
  obtain ⟨foundMessage, -⟩ := Option.filter_eq_some_iff.mp liveEq
  obtain ⟨present, idEq⟩ := MessageTable.findUnique_eq_some_iff.mp foundMessage
  exact ⟨live, present, idEq⟩

/-- The keyword worker never targets whom the send notified. -/
theorem MentionScan.not_syncNotified_of_mem_targetIds {job : MentionScanJob} {now : DateTime}
    (target : userId ∈ targetIds runtime store job now) :
    userId ∉ job.syncNotifiedUserIds := by
  unfold targetIds at target
  split at target
  next => cases target
  next =>
    split at target
    next => cases target
    next =>
      have notifiable := (List.mem_filter.mp target).1
      have matched := (mem_filterChannelVisibleUsers.mp (mem_filterNotifiable.mp notifiable).1).1
      obtain ⟨watcher, listed, rfl⟩ := mem_of_mem_scanKeywords _ matched
      obtain ⟨row, kept, rfl⟩ := List.mem_map.mp listed
      have notSync := (List.mem_filter.mp kept).2
      simpa using notSync

end Targets

end Bongtalk.Queue
