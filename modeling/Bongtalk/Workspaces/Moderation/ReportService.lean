import Bongtalk.Channels.Permission.ChannelAccess
import Bongtalk.Workspaces.Membership

/-!
# Reported messages

A moderator resolves a report by an action. The row is marked first, in a statement that only one
call can win, and the side effect of the action follows in a transaction of its own. The calls run
statement by statement, among each other and among whatever else happens to messages and members.
-/

namespace Bongtalk.Workspaces.Moderation

open Library Auth Channels.Permission Common Prisma
open Workspaces.Roles

structure ReportId where
  value : Nat
deriving DecidableEq, Repr

structure CallId where
  value : Nat
deriving DecidableEq, Repr

inductive ReportAction where
  | dismiss
  | warn
  | deleteMessage
  | timeout
  | ban
deriving DecidableEq, Repr

/-- A row of a message, with the columns that the calls on reports read. -/
structure ReportedMessage where
  id : MessageId
  channelId : ChannelId
  authorId : UserId
  deletedAt : Option DateTime := none
deriving DecidableEq, Repr

structure ModerationReport where
  id : ReportId
  workspaceId : WorkspaceId
  messageId : MessageId
  resolvedAt : Option DateTime := none
  resolvedBy : Option UserId := none
  resolvedAction : Option ReportAction := none
deriving DecidableEq, Repr

/-- Messages and their reports, under the foreign key between them. -/
structure ReportTables where
  messages : Table ReportedMessage ReportedMessage.id
  reports : Table ModerationReport ModerationReport.id
  reportMessage : ∀ report ∈ reports, ∃ message ∈ messages, message.id = report.messageId

structure ResolveCall where
  workspaceId : WorkspaceId
  reportId : ReportId
  actorId : UserId
  actorRole : WorkspaceRole
  action : ReportAction
  durationSeconds : Option Nat := none
deriving DecidableEq, Repr

/-- A call with the report and the message that it has read. -/
structure Job where
  call : ResolveCall
  report : ModerationReport
  message : ReportedMessage
deriving DecidableEq, Repr

/-- A call of `resolveReport`, named by its next statement or transaction, with what it has read. -/
inductive ResolvePhase where
  | absent
  | findReport (call : ResolveCall)
  | findMessage (call : ResolveCall) (report : ModerationReport)
  | findChannel (job : Job)
  | findPermission (job : Job) (channel : Channel)
  | outrankActor (job : Job)
  | outrankAuthor (job : Job) (actor : ActorContext)
  | outrankTop (job : Job) (actor : ActorContext) (role : WorkspaceRole)
  | claim (call : ResolveCall) (report : ModerationReport) (message : Option ReportedMessage)
  | softDelete (job : Job)
  | timeoutActor (job : Job)
  | timeoutTarget (job : Job) (actor : ActorContext)
  | timeoutTop (job : Job) (actor : ActorContext) (role : WorkspaceRole)
  | timeout (job : Job)
  | banActor (job : Job)
  | findBan (job : Job) (actor : ActorContext)
  | banMember (job : Job) (actor : ActorContext)
  | banTop (job : Job) (actor : ActorContext) (role : Option WorkspaceRole)
  | ban (job : Job) (wasMember : Bool)
  | resolved
  | failed (failure : Failure)

/-- A side effect that a call has carried out for its report: on the message or on its author. -/
structure SideEffect where
  reportId : ReportId
  action : ReportAction
  userId : UserId
deriving DecidableEq, Repr

/-- The last two fields are history: which call has resolved which report, and the side effects. -/
structure ReportQueue extends ReportTables where
  db : Database
  banned : Table BannedMember fun row => (row.workspaceId, row.userId)
  mutedUntil : WorkspaceId → UserId → Option DateTime := fun _ _ => none
  nextReportId : Nat := 0
  calls : CallId → ResolvePhase := fun _ => .absent
  claims : List (ReportId × CallId) := []
  effects : List SideEffect := []

namespace ReportTables

variable (tables : ReportTables)

/-- `updateMany` of a report that is not resolved. -/
def resolve (reportId : ReportId) (actorId : UserId) (action : ReportAction) (now : DateTime) :
    ReportTables :=
  let change := fun row : ModerationReport =>
    { row with resolvedAt := some now, resolvedBy := some actorId, resolvedAction := some action }
  { tables with
    reports := tables.reports.update reportId change fun _ => rfl
    reportMessage := by
      intro report present
      obtain ⟨old, oldMem, rfl⟩ := List.mem_map.mp present
      obtain ⟨message, messageMem, same⟩ := tables.reportMessage old oldMem
      refine ⟨message, messageMem, same.trans ?_⟩
      split <;> rfl }

/-- The rows that a soft delete marks. -/
def isLive (messageId : MessageId) (channelId : ChannelId) (row : ReportedMessage) : Bool :=
  row.id == messageId && row.channelId == channelId && row.deletedAt.isNone

def softDelete (messageId : MessageId) (channelId : ChannelId) (now : DateTime) : ReportTables :=
  let change := fun row : ReportedMessage =>
    if isLive messageId channelId row then { row with deletedAt := some now } else row
  have keeps : ∀ row, (change row).id = row.id := by
    intro row
    dsimp only [change]
    split <;> rfl
  { tables with
    messages := tables.messages.rewrite change keeps
    reportMessage := by
      intro report present
      obtain ⟨message, messageMem, same⟩ := tables.reportMessage report present
      exact ⟨change message, List.mem_map_of_mem messageMem, (keeps message).trans same⟩ }

/-- A hard delete of a message; its reports go with it. -/
def hardDelete (messageId : MessageId) : ReportTables where
  messages := tables.messages.deleteMany (·.id == messageId)
  reports := tables.reports.deleteMany (·.messageId == messageId)
  reportMessage := by
    intro report present
    obtain ⟨present, other⟩ := Table.mem_deleteMany.mp present
    obtain ⟨message, messageMem, same⟩ := tables.reportMessage report present
    exact ⟨message, Table.mem_deleteMany.mpr ⟨messageMem, same ▸ other⟩, same⟩

/-- A new message. -/
def post (message : ReportedMessage) : ReportTables :=
  match inserted : tables.messages.insert? message with
  | none => tables
  | some messages =>
    { tables with
      messages := messages
      reportMessage := by
        intro report present
        obtain ⟨other, otherMem, same⟩ := tables.reportMessage report present
        exact ⟨other, (Table.mem_insert? inserted).mpr (.inr otherMem), same⟩ }

/-- `reportMessage`: a new report of a message that is there. -/
def report (reportId : ReportId) (workspaceId : WorkspaceId) (messageId : MessageId) :
    ReportTables :=
  match found : tables.messages.findUnique messageId with
  | none => tables
  | some message =>
    match inserted : tables.reports.insert?
        { id := reportId, workspaceId := workspaceId, messageId := messageId } with
    | none => tables
    | some reports =>
      { tables with
        reports := reports
        reportMessage := by
          intro report present
          rcases (Table.mem_insert? inserted).mp present with rfl | old
          · obtain ⟨messageMem, same⟩ := Table.mem_of_findUnique found
            exact ⟨message, messageMem, same⟩
          · exact tables.reportMessage report old }

end ReportTables

/-- The action that is stored; there is nothing to delete without a message. -/
def effectiveAction (call : ResolveCall) (message : Option ReportedMessage) : ReportAction :=
  if call.action = .deleteMessage ∧ message = none then .dismiss else call.action

/-- What follows once the report is claimed. -/
def afterClaim (call : ResolveCall) (report : ModerationReport) :
    Option ReportedMessage → ResolvePhase
  | none => .resolved
  | some message =>
    match call.action with
    | .deleteMessage => .softDelete ⟨call, report, message⟩
    | .timeout => .timeoutActor ⟨call, report, message⟩
    | .ban => .banActor ⟨call, report, message⟩
    | .dismiss | .warn => .resolved

def Job.claim (job : Job) : ResolvePhase :=
  .claim job.call job.report (some job.message)

namespace ReportQueue

section Checks

variable (queue : ReportQueue)

/-- `actorContext` -/
def actorContext (job : Job) : ActorContext :=
  moderationContext (queue.db.rolesOf job.call.workspaceId job.call.actorId)

def authorRoles (job : Job) : List Role :=
  queue.db.rolesOf job.call.workspaceId job.message.authorId

def findAuthor (job : Job) : Option WorkspaceMember :=
  queue.db.findMember job.call.workspaceId job.message.authorId

def findReport (call : ResolveCall) : Except Failure ResolvePhase :=
  match (queue.reports.findUnique call.reportId).filter (·.workspaceId == call.workspaceId) with
  | none => failWith .reportNotFound "report not found"
  | some report => do
    failIf report.resolvedAt.isSome .reportAlreadyResolved "report is already resolved"
    .ok (.findMessage call report)

def findMessage (call : ResolveCall) (report : ModerationReport) : ResolvePhase :=
  match queue.messages.findUnique report.messageId with
  | none => .claim call report none
  | some message =>
    if call.action = .deleteMessage then .findChannel ⟨call, report, message⟩
    else .claim call report (some message)

def findChannel (job : Job) : Except Failure ResolvePhase :=
  match queue.db.channels.findUnique job.message.channelId with
  | none => failWith .channelNotFound "channel not found"
  | some channel => .ok (.findPermission job channel)

/-- `cached` is what the cache of the permissions answers. -/
def findPermission (cached : Option Mask) (job : Job) (channel : Channel) :
    Except Failure ResolvePhase := do
  let effective ← (resolveEffective queue.db cached channel job.call.actorId).mapError .domain
  failIf (!hasPermission effective Permission.deleteAnyMessage) .forbidden
    "MANAGE_MESSAGES permission is required to delete this message"
  .ok (if job.call.actorId = job.message.authorId then job.claim else .outrankActor job)

def outrankActor (job : Job) : ResolvePhase :=
  if (queue.actorContext job).isAdministrator then job.claim
  else .outrankAuthor job (queue.actorContext job)

def outrankAuthor (job : Job) (actor : ActorContext) : Except Failure ResolvePhase :=
  match queue.findAuthor job with
  | none => .ok job.claim
  | some author =>
    if author.role = .owner then
      failWith .moderationTargetHigher "cannot delete the owner message"
    else .ok (.outrankTop job actor author.role)

def outrankTop (job : Job) (actor : ActorContext) (role : WorkspaceRole) :
    Except Failure ResolvePhase := do
  assertOutranks actor (topPosition (queue.authorRoles job) role)
    "target outranks you — cannot delete a message authored at or above your highest role"
  .ok job.claim

def timeoutActor (job : Job) : Except Failure ResolvePhase := do
  failIf (job.call.actorId == job.message.authorId) .moderationCannotSelf "cannot moderate yourself"
  assertHolds (queue.actorContext job) .timeoutMembers "you lack the required moderation permission"
  .ok (.timeoutTarget job (queue.actorContext job))

def timeoutTarget (job : Job) (actor : ActorContext) : Except Failure ResolvePhase :=
  match queue.findAuthor job with
  | none => failWith .workspaceTargetNotMember "target user is not a member"
  | some target =>
    if target.role = .owner then failWith .moderationTargetHigher "cannot moderate the owner"
    else if actor.isAdministrator then .ok (.timeout job)
    else .ok (.timeoutTop job actor target.role)

def timeoutTop (job : Job) (actor : ActorContext) (role : WorkspaceRole) :
    Except Failure ResolvePhase := do
  assertOutranks actor (topPosition (queue.authorRoles job) role)
    "target outranks you — cannot moderate a member at or above your highest role"
  .ok (.timeout job)

def banActor (job : Job) : Except Failure ResolvePhase := do
  failIf (job.call.actorId == job.message.authorId) .moderationCannotSelf "cannot ban yourself"
  assertHolds (queue.actorContext job) .banMembers "you lack the BAN_MEMBERS permission"
  .ok (.findBan job (queue.actorContext job))

def isBanned (job : Job) : Bool :=
  (queue.banned.findUnique (job.call.workspaceId, job.message.authorId)).isSome

def findBan (job : Job) (actor : ActorContext) : Except Failure ResolvePhase := do
  failIf (queue.isBanned job) .memberAlreadyBanned "user is already banned"
  .ok (.banMember job actor)

def banMember (job : Job) (actor : ActorContext) : Except Failure ResolvePhase :=
  let role := (queue.findAuthor job).map (·.role)
  if role = some .owner then failWith .moderationTargetHigher "cannot ban the owner"
  else if actor.isAdministrator then .ok (.ban job role.isSome)
  else .ok (.banTop job actor role)

def banTop (job : Job) (actor : ActorContext) : Option WorkspaceRole → Except Failure ResolvePhase
  | some role => do
    assertOutranks actor (topPosition (queue.authorRoles job) role)
      "target outranks you — cannot ban a member at or above your highest role"
    .ok (.ban job true)
  | none => do
    if queue.authorRoles job ≠ [] then
      assertOutranks actor (topOf (queue.authorRoles job))
        "target outranks you — cannot ban a user at or above your highest role"
    .ok (.ban job false)

end Checks

section Writes

variable (queue : ReportQueue) (id : CallId)

def setPhase (phase : ResolvePhase) : ReportQueue :=
  { queue with calls := Function.update queue.calls id phase }

/-- A call goes on, or has thrown. -/
def goOn : Except Failure ResolvePhase → ReportQueue
  | .ok phase => queue.setPhase id phase
  | .error failure => queue.setPhase id (.failed failure)

def withTables (tables : ReportTables) : ReportQueue :=
  { queue with toReportTables := tables }

/-- A side effect of a call has taken place. -/
def carriedOut (job : Job) (action : ReportAction) : ReportQueue :=
  { queue with effects := ⟨job.report.id, action, job.message.authorId⟩ :: queue.effects }

/-- Whether a report is there and not resolved. -/
def isOpen (reportId : ReportId) : Bool :=
  (queue.reports.findUnique reportId).any (·.resolvedAt.isNone)

/-- The statement that claims the report. -/
def claim (now : DateTime) (call : ResolveCall) (report : ModerationReport)
    (message : Option ReportedMessage) : ReportQueue :=
  if queue.isOpen report.id then
    let claimed := queue.withTables (queue.toReportTables.resolve report.id call.actorId
      (effectiveAction call message) now)
    { claimed.setPhase id (afterClaim call report message) with
      claims := (report.id, id) :: queue.claims }
  else
    queue.setPhase id (.failed (.domain ⟨.reportAlreadyResolved, "report is already resolved"⟩))

/-- `softDelete`: nothing happens to a message that is gone or deleted already. -/
def softDelete (now : DateTime) (job : Job) : ReportQueue :=
  let tables :=
    queue.toReportTables.softDelete job.report.messageId job.message.channelId now
  let deleted := (queue.withTables tables).setPhase id .resolved
  if queue.messages.rows.any (ReportTables.isLive job.report.messageId job.message.channelId) then
    deleted.carriedOut job .deleteMessage
  else deleted

/-- The transaction of `timeout`. -/
def timeout (now : DateTime) (job : Job) : ReportQueue :=
  match queue.findAuthor job with
  | none =>
    queue.setPhase id (.failed (.domain
      ⟨.workspaceTargetNotMember, "target user is no longer a member"⟩))
  | some _ =>
    let mutedUntil := now + job.call.durationSeconds.getD 0 * 1000
    ({ queue.setPhase id .resolved with
      mutedUntil := fun workspaceId userId =>
        if workspaceId = job.call.workspaceId ∧ userId = job.message.authorId then some mutedUntil
        else queue.mutedUntil workspaceId userId }).carriedOut job .timeout

/-- The transaction of `ban`. -/
def ban (job : Job) (wasMember : Bool) : ReportQueue :=
  match queue.banned.insert? ⟨job.call.workspaceId, job.message.authorId, job.call.actorId⟩ with
  | none =>
    queue.setPhase id (.failed (.domain ⟨.memberAlreadyBanned, "user is already banned"⟩))
  | some banned =>
    if wasMember && (queue.findAuthor job).isNone then
      queue.setPhase id (.failed .recordNotFound)
    else
      ({ queue.setPhase id .resolved with
        banned := banned
        db := if wasMember then
            queue.db.deleteMember job.call.workspaceId job.message.authorId
          else queue.db }).carriedOut job .ban

/-- The next statement of a call, unless it is over. -/
def advance (cached : Option Mask) (now : DateTime) : Option ReportQueue :=
  match queue.calls id with
  | .absent | .resolved | .failed _ => none
  | .findReport call => some (queue.goOn id (queue.findReport call))
  | .findMessage call report => some (queue.setPhase id (queue.findMessage call report))
  | .findChannel job => some (queue.goOn id (queue.findChannel job))
  | .findPermission job channel => some (queue.goOn id (queue.findPermission cached job channel))
  | .outrankActor job => some (queue.setPhase id (queue.outrankActor job))
  | .outrankAuthor job actor => some (queue.goOn id (queue.outrankAuthor job actor))
  | .outrankTop job actor role => some (queue.goOn id (queue.outrankTop job actor role))
  | .claim call report message => some (queue.claim id now call report message)
  | .softDelete job => some (queue.softDelete id now job)
  | .timeoutActor job => some (queue.goOn id (queue.timeoutActor job))
  | .timeoutTarget job actor => some (queue.goOn id (queue.timeoutTarget job actor))
  | .timeoutTop job actor role => some (queue.goOn id (queue.timeoutTop job actor role))
  | .timeout job => some (queue.timeout id now job)
  | .banActor job => some (queue.goOn id (queue.banActor job))
  | .findBan job actor => some (queue.goOn id (queue.findBan job actor))
  | .banMember job actor => some (queue.goOn id (queue.banMember job actor))
  | .banTop job actor role => some (queue.goOn id (queue.banTop job actor role))
  | .ban job wasMember => some (queue.ban id job wasMember)

end Writes

end ReportQueue

/-- `assertModerator` -/
def ResolveCall.begin (call : ResolveCall) : Except Failure ResolvePhase :=
  if roleRank call.actorRole < roleRank .moderator then
    failWith .workspaceInsufficientRole "requires MODERATOR or higher to view or resolve reports"
  else .ok (.findReport call)

/-- A call that has not ended. -/
def ResolvePhase.isOpen : ResolvePhase → Bool
  | .absent | .resolved | .failed _ => false
  | _ => true

inductive Event where
  | start (id : CallId) (call : ResolveCall)
  | advance (id : CallId) (cached : Option Mask) (now : DateTime)
  | abort (id : CallId) (failure : Failure)
  | report (workspaceId : WorkspaceId) (messageId : MessageId)
  | post (message : ReportedMessage)
  | softDelete (messageId : MessageId) (channelId : ChannelId) (now : DateTime)
  | hardDelete (messageId : MessageId)
  | moderate

/-- The statements of the calls in any order, of which the database may abort any. Around them,
messages come and go and are reported, and members are kicked, banned and timed out, leave, and get
other roles. -/
inductive Happens : ReportQueue → Event → ReportQueue → Prop where
  | start {queue : ReportQueue} {id} (new : queue.calls id = .absent) (call : ResolveCall) :
      Happens queue (.start id call) (queue.goOn id call.begin)
  | advance {queue next : ReportQueue} {id cached now}
      (advanced : queue.advance id cached now = some next) :
      Happens queue (.advance id cached now) next
  | abort {queue : ReportQueue} {id} (isOpen : (queue.calls id).isOpen = true) (failure : Failure) :
      Happens queue (.abort id failure) (queue.setPhase id (.failed failure))
  | report {queue : ReportQueue} (workspaceId : WorkspaceId) (messageId : MessageId) :
      Happens queue (.report workspaceId messageId)
        { queue.withTables
            (queue.toReportTables.report ⟨queue.nextReportId⟩ workspaceId messageId) with
          nextReportId := queue.nextReportId + 1 }
  | post {queue : ReportQueue} (message : ReportedMessage) :
      Happens queue (.post message) (queue.withTables (queue.toReportTables.post message))
  | softDelete {queue : ReportQueue} (messageId : MessageId) (channelId : ChannelId)
      (now : DateTime) :
      Happens queue (.softDelete messageId channelId now)
        (queue.withTables (queue.toReportTables.softDelete messageId channelId now))
  | hardDelete {queue : ReportQueue} (messageId : MessageId) :
      Happens queue (.hardDelete messageId)
        (queue.withTables (queue.toReportTables.hardDelete messageId))
  | moderate {queue : ReportQueue} (db : Database)
      (banned : Table BannedMember fun row => (row.workspaceId, row.userId))
      (mutedUntil : WorkspaceId → UserId → Option DateTime) :
      Happens queue .moderate { queue with db := db, banned := banned, mutedUntil := mutedUntil }

/-- No message is reported. -/
def initialQueue (db : Database) : ReportQueue where
  db := db
  banned := .empty
  messages := .empty
  reports := .empty
  reportMessage := fun _ impossible => absurd impossible List.not_mem_nil

end Bongtalk.Workspaces.Moderation
