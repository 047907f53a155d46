import Bongtalk.Messages.Pages
import Bongtalk.Workspaces.Moderation.ReportCursor

/-!
# The report queue

A moderator reads the queue page by page. A page says where the next one starts; the text of a
message is left out where the moderator may not read its channel.
-/

namespace Bongtalk.Workspaces.Moderation

open Library Auth Channels.Permission Common Messages Keyset List Option QueuedReport
open Prisma

/-- A row of a message, with the columns that the queue shows. -/
structure ListedMessage where
  id : MessageId
  authorId : UserId
  content : Option String
  deletedAt : Option DateTime := none
deriving DecidableEq, Repr

structure Reporter where
  id : UserId
  username : String
deriving DecidableEq, Repr

/-- The tables of the queue. Ids have 128 bits, times are within the years that have four digits,
and the channel of a report is in its workspace. -/
structure ReportSources where
  reports : Table QueuedReport fun report => report.id
  messages : Table ListedMessage ListedMessage.id
  users : Table Reporter Reporter.id
  db : Database
  ids : ∀ report ∈ reports, report.id.value < 2 ^ 128
  times : ∀ report ∈ reports, report.Early
  channels : ∀ report ∈ reports, ∀ channel ∈ db.channels, channel.id = report.channelId →
    channel.workspaceId = some report.workspaceId

inductive ReportQueueFilter where
  | openOnly
  | all
deriving DecidableEq, Repr

structure ListReportsArgs where
  workspaceId : WorkspaceId
  actorId : UserId
  actorRole : WorkspaceRole
  filter : ReportQueueFilter
  cursor : Option (List Char) := none
  limit : Option Nat := none

structure ReportedMessageDto where
  authorId : UserId
  content : Option String
  deleted : Bool
  contentMasked : Bool
deriving DecidableEq, Repr

structure ModerationReportDto where
  id : ReportId
  workspaceId : WorkspaceId
  messageId : MessageId
  channelId : ChannelId
  reporterId : Option UserId
  category : ReportCategory
  reason : Option String
  createdAt : List Char
  resolvedAt : Option (List Char)
  resolvedBy : Option UserId
  resolvedAction : Option ReportAction
  message : Option ReportedMessageDto
  reporter : Option Reporter
deriving DecidableEq, Repr

structure ListReportsResponse where
  reports : List ModerationReportDto
  nextCursor : Option (List Char)

def reportQueuePageDefault : Nat := 50

def reportQueuePageMax : Nat := 100

/-- The number of rows on a page. -/
def ListReportsArgs.take (args : ListReportsArgs) : Nat :=
  min (args.limit.getD reportQueuePageDefault) reportQueuePageMax

/-- The condition of the filter. -/
def ListReportsArgs.shows (args : ListReportsArgs) (report : QueuedReport) : Bool :=
  report.workspaceId == args.workspaceId && (args.filter == .all || report.resolvedAt == none)

/-- `where`. The cursor adds its alternatives to the condition of the filter. -/
def ListReportsArgs.condition (args : ListReportsArgs) (cursor : Option ReportCursor)
    (report : QueuedReport) : Bool :=
  args.shows report && cursor.all (·.admits report)

namespace ReportSources

variable (sources : ReportSources) (cached : ChannelId → Option Mask) (args : ListReportsArgs)

/-- `findMany` of the first rows in the order of the queue. -/
def findReports (cursor : Option ReportCursor) (limit : Nat) : List QueuedReport :=
  (ordered position (sources.reports.findMany (args.condition cursor))).take limit

/-- Whether the moderator reads a channel. `cached` is what the cache of permissions answers. -/
def canRead (channel : Channel) : Except Failure Bool :=
  if channel.isPrivate = false then .ok true
  else do
    let effective ← (resolveEffective sources.db (cached channel.id) channel args.actorId).mapError
      .domain
    .ok (hasPermission effective Permission.read)

/-- The channels of a page, with the answer for each. -/
def channelAccess (page : List QueuedReport) : Except Failure (List (ChannelId × Bool)) :=
  (sources.db.channels.findMany fun channel => decide (channel.id ∈ page.map (·.channelId))).mapM
    fun channel => (sources.canRead cached args channel).map fun canRead => (channel.id, canRead)

def messageDto (access : List (ChannelId × Bool)) (report : QueuedReport) :
    Option ReportedMessageDto :=
  (sources.messages.findUnique report.messageId).map fun message =>
    let deleted := message.deletedAt.isSome
    let canSeeContent := (access.lookup report.channelId).getD false
    let masked := !deleted && !canSeeContent
    { authorId := message.authorId
      content := if deleted || masked then none else message.content
      deleted := deleted
      contentMasked := masked }

def reportDto (access : List (ChannelId × Bool)) (report : QueuedReport) : ModerationReportDto where
  id := report.id
  workspaceId := report.workspaceId
  messageId := report.messageId
  channelId := report.channelId
  reporterId := report.reporterId
  category := report.category
  reason := report.reason
  createdAt := toISOString report.createdAt
  resolvedAt := report.resolvedAt.map toISOString
  resolvedBy := report.resolvedBy
  resolvedAction := report.resolvedAction
  message := sources.messageDto access report
  reporter := report.reporterId.bind sources.users.findUnique

/-- The rows of a page, and whether there are more. One row more than asked for tells. -/
def page (cursor : Option ReportCursor) : List QueuedReport × Bool :=
  let rows := sources.findReports args cursor (args.take + 1)
  let hasMore := decide (args.take < rows.length)
  (if hasMore then rows.take args.take else rows, hasMore)

/-- `listReports`. -/
def listReports : Except Failure ListReportsResponse := do
  failIf (decide (roleRank args.actorRole < roleRank .moderator)) .workspaceInsufficientRole
    "requires MODERATOR or higher to view or resolve reports"
  let cursor ← (given args.cursor).mapM decodeReportCursor
  let page := sources.page args cursor
  let access ← sources.channelAccess cached args page.1
  .ok {
    reports := page.1.map (sources.reportDto access)
    nextCursor := if page.2 then page.1.getLast?.map encodeReportCursor else none }

end ReportSources

section Walks

variable (sources : ReportSources) (cached : ChannelId → Option Mask) (args : ListReportsArgs)

/-- A client asks for the reports from a start, and goes on at `nextCursor`. -/
def queuePage (start : Option (List Char)) :
    Option (Page (Option (List Char)) ReportId) :=
  (sources.listReports cached { args with cursor := start }).toOption.map fun page =>
    { items := page.reports.map (·.id), next := page.nextCursor.map some }

/-- The guards of the controller: the actor is a member with the role that the request carries. -/
structure Moderates : Prop where
  member : ∃ member, sources.db.findMember args.workspaceId args.actorId = some member ∧
    member.role = args.actorRole
  moderator : roleRank .moderator ≤ roleRank args.actorRole

/-- Each report of the filter is listed once, in the order of the queue. -/
def ListsAll (listed : List ReportId) : Prop :=
  ∃ rows : List QueuedReport, rows.Pairwise Before ∧
    (∀ row, row ∈ rows ↔ row ∈ sources.reports ∧ args.shows row = true) ∧ listed = rows.map (·.id)

/-- The reports of the filter in the order of the queue. -/
def queue : List QueuedReport :=
  ordered position (sources.reports.findMany args.shows)

variable {sources cached args}

variable {row : QueuedReport}

theorem mem_queue : row ∈ queue sources args ↔ row ∈ sources.reports ∧ args.shows row = true := by
  rw [queue, mem_ordered]
  exact Table.mem_findMany

/-- The id is a part of the position. -/
theorem id_of_position {first second : QueuedReport} (same : first.position = second.position) :
    first.id = second.id :=
  congrArg (fun position : QueuePosition => ReportId.mk (ofLex (ofLex position).2).2) same

theorem distinct_findMany (condition : QueuedReport → Bool) :
    (sources.reports.findMany condition).Pairwise
      fun first second => first.position ≠ second.position := by
  have distinct : (sources.reports.findMany condition).Pairwise
      fun first second => first.id ≠ second.id :=
    pairwise_map.mp (sources.reports.keysNodup.sublist
      (filter_sublist.map fun report : QueuedReport => report.id))
  exact distinct.imp fun apart same => apart (id_of_position same)

theorem descending_queue : Descending position (queue sources args) :=
  descending_ordered (distinct_findMany _)

variable (cursor : Option ReportCursor) {start : Option (List Char)} {bound : Option QueuePosition}

/-- A query selects from the queue: the cursor lets in no report that the filter leaves out. -/
theorem findReports_eq (limit : Nat) :
    sources.findReports args cursor limit =
      (behind position (queue sources args) (cursor.map ReportCursor.position)).take limit := by
  have selected : sources.reports.findMany (args.condition cursor) =
      (sources.reports.findMany args.shows).filter fun row =>
        (cursor.map ReportCursor.position).all (row.position < ·) := by
    rw [Table.findMany, Table.findMany, List.filter_filter]
    refine List.filter_congr fun row _ => ?_
    rw [ListReportsArgs.condition, Bool.and_comm]
    cases cursor with
    | none => rfl
    | some cursor => rw [Option.all_some, Option.map_some, Option.all_some, cursor.admits_eq]
  rw [ReportSources.findReports, selected, ordered_filter (distinct_findMany _)]
  rfl

/-- A sequence of answers is one when each of them is. -/
theorem exists_mapM_ok {ε α β : Type} {ask : α → Except ε β} {entries : List α}
    (each : ∀ entry ∈ entries, ∃ answer, ask entry = .ok answer) :
    ∃ answers, entries.mapM ask = .ok answers := by
  induction entries with
  | nil => exact ⟨[], rfl⟩
  | cons entry entries ih =>
    obtain ⟨⟨answer, answered⟩, others⟩ := forall_mem_cons.mp each
    obtain ⟨answers, allAnswered⟩ := ih others
    refine ⟨answer :: answers, ?_⟩
    rw [mapM_cons, answered, allAnswered]
    rfl

theorem exists_canRead (cached : ChannelId → Option Mask) (moderates : Moderates sources args)
    (listed : row ∈ queue sources args) {channel : Channel}
    (present : channel ∈ sources.db.channels) (same : channel.id = row.channelId) :
    ∃ canRead, sources.canRead cached args channel = .ok canRead := by
  obtain ⟨member, isMember, -⟩ := moderates.member
  obtain ⟨rowPresent, shown⟩ := mem_queue.mp listed
  have inWorkspace : channel.workspaceId = some args.workspaceId := by
    rw [ListReportsArgs.shows, Bool.and_eq_true, beq_iff_eq] at shown
    rw [sources.channels row rowPresent channel present same, shown.1]
  rw [ReportSources.canRead]
  split
  · exact ⟨_, rfl⟩
  rw [resolveEffective, inWorkspace]
  dsimp only
  rw [isMember]
  exact ⟨_, rfl⟩

/-- A moderator gets an answer for every channel of a report. -/
theorem exists_channelAccess (cached : ChannelId → Option Mask) (moderates : Moderates sources args)
    {page : List QueuedReport} (present : ∀ row ∈ page, row ∈ queue sources args) :
    ∃ access, sources.channelAccess cached args page = .ok access := by
  refine exists_mapM_ok fun channel listed => ?_
  obtain ⟨channelMem, ofPage⟩ := Table.mem_findMany.mp listed
  obtain ⟨row, rowMem, same⟩ := mem_map.mp (of_decide_eq_true ofPage)
  obtain ⟨canRead, answered⟩ :=
    exists_canRead cached moderates (present row rowMem) channelMem same.symm
  exact ⟨(channel.id, canRead), by rw [answered]; rfl⟩

/-- Where a page starts. -/
def startOf (start : Option (List Char)) : Except Failure (Option QueuePosition) :=
  ((given start).mapM decodeReportCursor).map (Option.map ReportCursor.position)

theorem startOf_encodeReportCursor (present : row ∈ sources.reports) :
    startOf (some (encodeReportCursor row)) = .ok (some row.position) := by
  have decoded := decodeReportCursor_encodeReportCursor (sources.times row present)
    (sources.ids row present)
  have nonempty : encodeReportCursor row ≠ [] := by
    intro empty
    rw [empty] at decoded
    cases decoded
  have isGiven : given (some (encodeReportCursor row)) = some (encodeReportCursor row) :=
    filter_some_pos (decide_eq_true nonempty)
  rw [startOf, isGiven, mapM_some, decoded]
  rfl

/-- The reports behind a cursor. -/
def behindCursor (sources : ReportSources) (args : ListReportsArgs)
    (bound : Option QueuePosition) : List QueuedReport :=
  behind position (queue sources args) bound

theorem page_eq :
    sources.page args cursor =
      ((behindCursor sources args (cursor.map ReportCursor.position)).take args.take,
        decide (args.take <
          (behindCursor sources args (cursor.map ReportCursor.position)).length)) := by
  rw [ReportSources.page, findReports_eq, ← behindCursor]
  simp only [decide_eq_true_eq, lt_length_take_succ, slice_take_succ]

/-- What a page has of the reports behind its start. -/
theorem listReports_eq (cached : ChannelId → Option Mask) (moderates : Moderates sources args)
    (starts : startOf start = .ok bound) :
    ∃ access, sources.listReports cached { args with cursor := start } = .ok {
      reports := ((behindCursor sources args bound).take args.take).map (sources.reportDto access)
      nextCursor :=
        if args.take < (behindCursor sources args bound).length then
          ((behindCursor sources args bound).take args.take).getLast?.map encodeReportCursor
        else none } := by
  obtain ⟨cursor, decoded, rfl⟩ := map_eq_ok starts
  have present : ∀ row ∈ (sources.page args cursor).1, row ∈ queue sources args := by
    intro row listed
    rw [page_eq] at listed
    exact mem_of_mem_filter (mem_of_mem_take listed)
  obtain ⟨access, answered⟩ := exists_channelAccess cached moderates present
  have allowed : failIf (decide (roleRank args.actorRole < roleRank .moderator))
      .workspaceInsufficientRole "requires MODERATOR or higher to view or resolve reports" =
      .ok () := failIf_eq_ok.mpr (decide_eq_false (Nat.not_lt.mpr moderates.moderator))
  refine ⟨access, check_bind_eq_ok.mpr ⟨allowed, bind_eq_ok.mpr ⟨cursor, decoded,
    bind_eq_ok.mpr ⟨access, answered, ?_⟩⟩⟩⟩
  have same : sources.page { args with cursor := start } cursor = sources.page args cursor := rfl
  rw [same, page_eq]
  simp only [decide_eq_true_eq]

/-- The reports that a walk from a start has to list. -/
def remaining (sources : ReportSources) (args : ListReportsArgs) (start : Option (List Char)) :
    List ReportId :=
  match startOf start with
  | .ok bound => (behindCursor sources args bound).map (·.id)
  | .error _ => []

theorem remaining_eq (starts : startOf start = .ok bound) :
    remaining sources args start = (behindCursor sources args bound).map (·.id) := by
  rw [remaining, starts]

/-- A page leaves the reports behind its last one. -/
theorem serves_queue (moderates : Moderates sources args) (positive : 0 < args.take)
    (start : Option (List Char)) (valid : ∃ bound, startOf start = .ok bound) :
    ∃ page, queuePage sources cached args start = some page ∧
      Serves id args.take (fun start => ∃ bound, startOf start = .ok bound)
        (remaining sources args) start page := by
  obtain ⟨bound, starts⟩ := valid
  obtain ⟨access, answered⟩ := listReports_eq cached moderates starts
  refine ⟨_, congrArg (fun answer => (Except.toOption answer).map _) answered,
    .of_take positive (remaining_eq starts) (map_map ..) (fun short => ?_)
      fun last isLast longer => ?_⟩
  · exact congrArg (Option.map some) (if_neg short)
  have listed : last ∈ queue sources args :=
    List.mem_of_mem_filter (List.mem_of_mem_take (List.mem_of_getLast? isLast))
  have nextStarts := startOf_encodeReportCursor (mem_queue.mp listed).1
  refine ⟨_, by rw [if_pos longer, isLast]; rfl, ⟨_, nextStarts⟩, ?_⟩
  rw [remaining_eq nextStarts]
  exact congrArg _ (behind_last descending_queue isLast)

/-- Whoever reads the queue from its start to its end gets each report of the filter once, in the
order of the queue, and the end is reached. -/
theorem queue_walk_complete (moderates : Moderates sources args)
    (positive : ∀ limit, args.limit = some limit → 1 ≤ limit) :
    (∃ pages, Walk (queuePage sources cached args) none pages) ∧
      ∀ pages, Walk (queuePage sources cached args) none pages →
        ListsAll sources args pages.flatten := by
  have some : 0 < args.take := by
    rw [ListReportsArgs.take]
    cases isLimit : args.limit with
    | none => decide
    | some limit => exact lt_min (positive limit isLimit) (by decide)
  have starts : startOf none = .ok none := rfl
  refine ⟨exists_walk some (serves_queue moderates some) ⟨none, starts⟩, ?_⟩
  intro pages walk
  have listed := walk.flatten_eq (serves_queue moderates some) ⟨none, starts⟩
  rw [List.map_id, remaining_eq starts, behindCursor, behind_none] at listed
  refine ⟨queue sources args, ?_, fun row => mem_queue, listed⟩
  exact descending_queue.imp fun below => before_iff.mpr below

/-- Two open reports of one time and a resolved one. -/
def deskReports : List QueuedReport :=
  [{ id := ⟨3⟩, workspaceId := ⟨1⟩, messageId := ⟨8⟩, channelId := ⟨5⟩, category := .spam,
      createdAt := 1000 },
    { id := ⟨2⟩, workspaceId := ⟨1⟩, messageId := ⟨9⟩, channelId := ⟨5⟩, category := .other,
      createdAt := 2000, resolvedAt := some 3000, resolvedBy := some ⟨1⟩,
      resolvedAction := some .dismiss },
    { id := ⟨1⟩, workspaceId := ⟨1⟩, messageId := ⟨9⟩, channelId := ⟨5⟩, category := .spam,
      createdAt := 1000 }]

theorem early_deskReports : ∀ report ∈ deskReports, report.Early := by
  have early : ∀ report ∈ deskReports, report.createdAt < endOfTime ∧
      report.resolvedAt.all (· < endOfTime) = true := by decide +kernel
  intro report listed
  obtain ⟨createdAt, resolvedAt⟩ := early report listed
  refine ⟨createdAt, fun time isResolved => ?_⟩
  rw [isResolved] at resolvedAt
  exact of_decide_eq_true resolvedAt

def desk : ReportSources where
  reports := ⟨deskReports, by decide⟩
  messages := .empty
  users := .empty
  db := .withoutRoles ⟨[⟨⟨1⟩, ⟨1⟩, .moderator⟩], by decide⟩ .empty .empty
  ids := by
    have small : ∀ report ∈ deskReports, report.id.value < 2 ^ 128 := by decide +kernel
    exact small
  times := early_deskReports
  channels := fun _ _ _ listed => absurd listed not_mem_nil

def deskArgs : ListReportsArgs :=
  { workspaceId := ⟨1⟩, actorId := ⟨1⟩, actorRole := .moderator, filter := .all, limit := some 1 }

theorem desk_walk_complete :
    (∃ pages, Walk (queuePage desk (fun _ => none) deskArgs) none pages) ∧
      ∀ pages, Walk (queuePage desk (fun _ => none) deskArgs) none pages →
        ListsAll desk deskArgs pages.flatten := by
  refine queue_walk_complete ⟨⟨⟨⟨1⟩, ⟨1⟩, .moderator⟩, rfl, rfl⟩, le_rfl⟩ ?_
  rintro limit ⟨⟩
  exact le_rfl

end Walks

end Bongtalk.Workspaces.Moderation
