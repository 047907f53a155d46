import Bongtalk.Workspaces.Moderation.Resolution

/-!
# Runs of the report queue

Every statement of a call and everything that happens around the calls keeps the invariant, and a run
stays truthful exactly when no check fails after a claim.
-/

namespace Bongtalk.Workspaces.Moderation

open Library Auth Common Prisma List Option Table
open Shared Roles ReportQueue

section Statements

variable {queue : ReportQueue} {before : ResolvePhase}

theorem goesOn_begin (call : ResolveCall) (idle : before.work = none) :
    GoesOn queue before call.begin := by
  unfold ResolveCall.begin
  split
  · exact goesOn_error
  · exact goesOn_ok idle.symm rfl trivial

/-- A report that is read is there, at this moment. -/
theorem goesOn_findReport (sound : Sound queue) (call : ResolveCall) :
    GoesOn queue (.findReport call) (queue.findReport call) := by
  unfold findReport
  split
  · exact goesOn_error
  next report found =>
    obtain ⟨there, -⟩ := filter_eq_some_iff.mp found
    obtain ⟨present, -⟩ := mem_of_findUnique there
    refine goesOn_check (goesOn_ok rfl rfl ⟨sound.issued report present, ?_⟩)
    intro row rowMem same
    rw [queue.reports.eq_of_key_eq rowMem present same]

/-- So is its message, unless both are gone. -/
theorem goesOn_findMessage {call : ResolveCall} {report : ModerationReport}
    (known : KnownReport queue report) :
    GoesOn queue (.findMessage call report) (.ok (queue.findMessage call report)) := by
  unfold findMessage
  split
  next missing =>
    refine goesOn_ok rfl rfl ⟨known.1, ?_⟩
    rintro ⟨row, rowMem, same⟩
    obtain ⟨message, messageMem, isIts⟩ := queue.reportMessage row rowMem
    exact findUnique_eq_none_iff.mp missing message messageMem
      (isIts.trans (known.2 row rowMem same))
  next message found =>
    obtain ⟨messageMem, isIts⟩ := mem_of_findUnique found
    have knownJob : Known queue ⟨call, report, message⟩ :=
      ⟨known, fun row rowMem same =>
        ⟨message, messageMem, isIts.trans (known.2 row rowMem same).symm, rfl, rfl⟩⟩
    split
    · exact goesOn_ok rfl rfl knownJob
    · exact goesOn_ok rfl rfl knownJob

section Deletion

variable {job : Job} (known : Known queue job)

include known

theorem goesOn_findChannel : GoesOn queue (.findChannel job) (queue.findChannel job) := by
  unfold findChannel
  split
  · exact goesOn_error
  · exact goesOn_ok rfl rfl known

theorem goesOn_findPermission (cached : Option Mask) (channel : Channel) :
    GoesOn queue (.findPermission job channel) (queue.findPermission cached job channel) := by
  intro phase ok
  obtain ⟨effective, -, allowed⟩ := bind_eq_ok.mp ok
  refine (goesOn_check ?_ : GoesOn queue (.findPermission job channel) _) phase allowed
  split
  · exact goesOn_ok rfl rfl known
  · exact goesOn_ok rfl rfl known

theorem goesOn_outrankActor : GoesOn queue (.outrankActor job) (.ok (queue.outrankActor job)) := by
  unfold outrankActor
  split
  · exact goesOn_ok rfl rfl known
  · exact goesOn_ok rfl rfl known

theorem goesOn_outrankAuthor (actor : ActorContext) :
    GoesOn queue (.outrankAuthor job actor) (queue.outrankAuthor job actor) := by
  unfold outrankAuthor
  split
  · exact goesOn_ok rfl rfl known
  split
  · exact goesOn_error
  · exact goesOn_ok rfl rfl known

theorem goesOn_outrankTop (actor : ActorContext) (role : WorkspaceRole) :
    GoesOn queue (.outrankTop job actor role) (queue.outrankTop job actor role) :=
  goesOn_check (goesOn_ok rfl rfl known)

end Deletion

section Sanctions

variable (job : Job) (actor : ActorContext)

theorem goesOn_timeoutActor : GoesOn queue (.timeoutActor job) (queue.timeoutActor job) :=
  goesOn_check (goesOn_check (goesOn_ok rfl rfl trivial))

theorem goesOn_timeoutTarget :
    GoesOn queue (.timeoutTarget job actor) (queue.timeoutTarget job actor) := by
  unfold timeoutTarget
  split
  · exact goesOn_error
  split
  · exact goesOn_error
  split
  · exact goesOn_ok rfl rfl trivial
  · exact goesOn_ok rfl rfl trivial

theorem goesOn_timeoutTop (role : WorkspaceRole) :
    GoesOn queue (.timeoutTop job actor role) (queue.timeoutTop job actor role) :=
  goesOn_check (goesOn_ok rfl rfl trivial)

theorem goesOn_banActor : GoesOn queue (.banActor job) (queue.banActor job) :=
  goesOn_check (goesOn_check (goesOn_ok rfl rfl trivial))

theorem goesOn_findBan : GoesOn queue (.findBan job actor) (queue.findBan job actor) :=
  goesOn_check (goesOn_ok rfl rfl trivial)

theorem goesOn_banMember : GoesOn queue (.banMember job actor) (queue.banMember job actor) := by
  unfold banMember
  dsimp only
  split
  · exact goesOn_error
  split
  · exact goesOn_ok rfl rfl trivial
  · exact goesOn_ok rfl rfl trivial

theorem goesOn_banTop (role : Option WorkspaceRole) :
    GoesOn queue (.banTop job actor role) (queue.banTop job actor role) := by
  unfold banTop
  split
  · exact goesOn_check (goesOn_ok rfl rfl trivial)
  split
  · exact goesOn_check (goesOn_ok rfl rfl trivial)
  · exact goesOn_ok rfl rfl trivial

end Sanctions

end Statements

section Writes

variable {queue : ReportQueue} {id : CallId} {job : Job}

theorem follows_claim (sound : Sound queue) {call : ResolveCall} {report : ModerationReport}
    {message : Option ReportedMessage} (phase : queue.calls id = .claim call report message)
    {cached : Option Mask} {now : DateTime} :
    Follows queue (queue.claim id now call report message)
      (Event.Fits queue (.advance id cached now)) := by
  by_cases isOpen : queue.isOpen report.id = true
  · have claimed : ClaimedBy queue (queue.claim id now call report message) id call report message
        now := claimedBy_claim isOpen
    refine ⟨sound.claim phase isOpen claimed, fun thrown => ?_⟩
    refine iff_of_true (throwsOpen_claim thrown claimed) fun _ _ working => ?_
    rw [phase] at working
    cases working
  · rw [claim, if_neg isOpen]
    exact follows_statement sound phase rfl goesOn_error rfl (by rintro _ _ ⟨⟩)

variable {next : ReportQueue}

/-- A soft delete keeps the messages, and marks some. -/
theorem softDelete_kept {messageId : MessageId} {channelId : ChannelId} {now : DateTime}
    (tables : next.toReportTables = queue.toReportTables.softDelete messageId channelId now)
    (issued : next.nextReportId = queue.nextReportId) (effects : queue.effects ⊆ next.effects) :
    Kept queue next where
  issued := issued.ge
  reports := by
    intro report present
    rw [tables] at present
    exact .inl ⟨report, present, rfl, rfl⟩
  messages := by
    intro report present row rowMem same
    rw [tables]
    refine ⟨_, mem_map_of_mem rowMem, ?_⟩
    split
    · exact ⟨rfl, rfl, rfl, fun _ => some_ne_none _⟩
    · exact ⟨rfl, rfl, rfl, fun deleted => deleted⟩
  effects := effects

/-- The message of the report is deleted afterwards, by this call or before. -/
theorem effective_softDelete (known : Known queue job) {now : DateTime}
    (tables : next.toReportTables = queue.toReportTables.softDelete job.report.messageId
      job.message.channelId now) {report : ModerationReport} (present : report ∈ queue.reports)
    (same : report.id = job.report.id) : Effective next report .deleteMessage := by
  obtain ⟨message, messageMem, isIts, inChannel, -⟩ := known.2 report present same
  have ofReport : message.id = job.report.messageId := isIts.trans (known.1.2 report present same)
  unfold Effective
  rw [tables]
  refine ⟨_, mem_map_of_mem messageMem, ?_, ?_⟩
  · split
    · exact isIts
    · exact isIts
  · split
    next => exact some_ne_none _
    next notLive =>
      intro undeleted
      simp [ReportTables.isLive, ofReport, inChannel, undeleted] at notLive

theorem follows_softDelete (sound : Sound queue) (phase : queue.calls id = .softDelete job)
    {cached : Option Mask} {now : DateTime} :
    Follows queue (queue.softDelete id now job) (Event.Fits queue (.advance id cached now)) := by
  have working : (queue.calls id).work = some (job, .deleteMessage) := by
    rw [phase]
    rfl
  have known := (sound.working id job .deleteMessage working).1
  have passes : Event.Fits queue (.advance id cached now) := by
    intro _ _ _ _
    rw [phase]
    trivial
  unfold softDelete
  split
  · refine ⟨sound.finish (softDelete_kept rfl rfl (subset_cons_self _ _)) working rfl rfl rfl
      rfl (.inr rfl) fun report present same => effective_softDelete known rfl present same,
      fun thrown => iff_of_true (throwsOpen_finish thrown rfl rfl rfl) passes⟩
  · refine ⟨sound.finish (softDelete_kept rfl rfl (List.Subset.refl _)) working rfl rfl rfl
      rfl (.inl rfl) fun report present same => effective_softDelete known rfl present same,
      fun thrown => iff_of_true (throwsOpen_finish thrown rfl rfl rfl) passes⟩

/-- A call that sanctions the author ends, and what it has done is in the history. -/
theorem follows_sanction (sound : Sound queue) {action : ReportAction}
    (working : (queue.calls id).work = some (job, action))
    (sanction : action = .timeout ∨ action = .ban) {fits : Prop} (passes : fits)
    (tables : next.toReportTables = queue.toReportTables)
    (issued : next.nextReportId = queue.nextReportId)
    (calls : next.calls = Function.update queue.calls id .resolved)
    (claims : next.claims = queue.claims)
    (effects : next.effects = ⟨job.report.id, action, job.message.authorId⟩ :: queue.effects) :
    Follows queue next fits := by
  have reports : next.toReportTables.reports = queue.toReportTables.reports := by
    rw [tables]
  have kept : Kept queue next := by
    refine ⟨issued.ge, fun report present => ?_, fun _ _ row rowMem _ => ?_, ?_⟩
    · exact .inl ⟨report, reports ▸ present, rfl, rfl⟩
    · refine ⟨row, ?_, rfl, rfl, rfl, fun deleted => deleted⟩
      rw [tables]
      exact rowMem
    · rw [effects]
      exact subset_cons_self _ _
  refine ⟨sound.finish kept working calls claims reports issued (.inr effects) ?_,
    fun thrown => iff_of_true (throwsOpen_finish thrown calls claims reports) passes⟩
  intro report present same
  obtain ⟨message, messageMem, isIts, -, byAuthor⟩ :=
    (sound.working id job action working).1.2 report present same
  have there : message ∈ next.messages := by
    rw [tables]
    exact messageMem
  have logged : ⟨report.id, action, message.authorId⟩ ∈ next.effects := by
    rw [effects, same, byAuthor]
    exact mem_cons_self
  rcases sanction with rfl | rfl
  · exact ⟨message, there, isIts, logged⟩
  · exact ⟨message, there, isIts, logged⟩

theorem follows_timeout (sound : Sound queue) (phase : queue.calls id = .timeout job)
    {cached : Option Mask} {now : DateTime} :
    Follows queue (queue.timeout id now job) (Event.Fits queue (.advance id cached now)) := by
  unfold timeout
  split
  next missing =>
    refine follows_statement sound phase rfl goesOn_error rfl fun _ _ _ => ?_
    simp [ResolvePhase.Passes, missing, Except.isOk, Except.toBool]
  next target found =>
    have working : (queue.calls id).work = some (job, .timeout) := by
      rw [phase]
      rfl
    refine follows_sanction sound working (.inl rfl) ?_ rfl rfl rfl rfl rfl
    intro _ _ _ _
    rw [phase]
    simp [ResolvePhase.Passes, found]

theorem isBanned_iff : queue.isBanned job = true ↔
    ∃ row ∈ queue.banned,
      (row.workspaceId, row.userId) = (job.call.workspaceId, job.message.authorId) := by
  unfold isBanned
  constructor
  · intro found
    obtain ⟨row, isRow⟩ := isSome_iff_exists.mp found
    exact ⟨row, mem_of_findUnique isRow⟩
  · rintro ⟨row, present, same⟩
    rw [← same, findUnique_of_mem present]
    rfl

theorem follows_ban (sound : Sound queue) {wasMember : Bool}
    (phase : queue.calls id = .ban job wasMember) {cached : Option Mask} {now : DateTime} :
    Follows queue (queue.ban id job wasMember) (Event.Fits queue (.advance id cached now)) := by
  unfold ban
  split
  next refused =>
    refine follows_statement sound phase rfl goesOn_error rfl fun _ _ _ => ?_
    have banned : queue.isBanned job = true :=
      isBanned_iff.mpr (Table.insert?_eq_none_iff.mp refused)
    simp [ResolvePhase.Passes, banned, Except.isOk, Except.toBool]
  next banned inserted =>
    have unbanned : queue.isBanned job = false := by
      refine Bool.eq_false_iff.mpr fun isBanned => ?_
      obtain ⟨row, present, same⟩ := isBanned_iff.mp isBanned
      exact (Table.insert?_eq_some_iff.mp inserted).1 row present same
    split
    next gone =>
      obtain ⟨member, left⟩ := Bool.and_eq_true_iff.mp gone
      refine follows_statement sound phase rfl goesOn_error rfl fun _ _ _ => ?_
      simp [ResolvePhase.Passes, member, isNone_iff_eq_none.mp left, Except.isOk, Except.toBool]
    next there =>
      have working : (queue.calls id).work = some (job, .ban) := by
        rw [phase]
        rfl
      refine follows_sanction sound working (.inr rfl) ?_ rfl rfl rfl rfl rfl
      intro _ _ _ _
      rw [phase]
      refine ⟨unbanned, fun member => ?_⟩
      rw [member, Bool.true_and, Bool.not_eq_true, isNone_eq_false_iff] at there
      exact there

end Writes

section Steps

variable {queue next : ReportQueue} {event : Event}

theorem follows_advance (sound : Sound queue) {id : CallId} {cached : Option Mask} {now : DateTime}
    (advanced : queue.advance id cached now = some next) :
    Follows queue next (Event.Fits queue (.advance id cached now)) := by
  have read := sound.read id
  unfold advance at advanced
  generalize phase : queue.calls id = before at advanced read
  cases before with
  | absent | resolved | failed failure => cases advanced
  | findReport call =>
    exact follows_statement sound phase rfl (goesOn_findReport sound call) advanced
      (by rintro _ _ ⟨⟩)
  | findMessage call report =>
    exact follows_statement sound phase rfl (goesOn_findMessage read) advanced (by rintro _ _ ⟨⟩)
  | findChannel job =>
    exact follows_statement sound phase rfl (goesOn_findChannel read) advanced (by rintro _ _ ⟨⟩)
  | findPermission job channel =>
    exact follows_statement sound phase rfl (goesOn_findPermission read cached channel) advanced
      (by rintro _ _ ⟨⟩)
  | outrankActor job =>
    exact follows_statement sound phase rfl (goesOn_outrankActor read) advanced (by rintro _ _ ⟨⟩)
  | outrankAuthor job actor =>
    exact follows_statement sound phase rfl (goesOn_outrankAuthor read actor) advanced
      (by rintro _ _ ⟨⟩)
  | outrankTop job actor role =>
    exact follows_statement sound phase rfl (goesOn_outrankTop read actor role) advanced
      (by rintro _ _ ⟨⟩)
  | claim call report message =>
    cases advanced
    exact follows_claim sound phase
  | softDelete job =>
    cases advanced
    exact follows_softDelete sound phase
  | timeoutActor job =>
    exact follows_statement sound phase rfl (goesOn_timeoutActor job) advanced fun _ _ _ => Iff.rfl
  | timeoutTarget job actor =>
    exact follows_statement sound phase rfl (goesOn_timeoutTarget job actor) advanced
      fun _ _ _ => Iff.rfl
  | timeoutTop job actor role =>
    exact follows_statement sound phase rfl (goesOn_timeoutTop job actor role) advanced
      fun _ _ _ => Iff.rfl
  | timeout job =>
    cases advanced
    exact follows_timeout sound phase
  | banActor job =>
    exact follows_statement sound phase rfl (goesOn_banActor job) advanced fun _ _ _ => Iff.rfl
  | findBan job actor =>
    exact follows_statement sound phase rfl (goesOn_findBan job actor) advanced fun _ _ _ => Iff.rfl
  | banMember job actor =>
    exact follows_statement sound phase rfl (goesOn_banMember job actor) advanced
      fun _ _ _ => Iff.rfl
  | banTop job actor role =>
    exact follows_statement sound phase rfl (goesOn_banTop job actor role) advanced
      fun _ _ _ => Iff.rfl
  | ban job wasMember =>
    cases advanced
    exact follows_ban sound phase

/-- What happens around the calls touches no report that they know. -/
theorem follows_around (sound : Sound queue) (kept : Kept queue next)
    (calls : next.calls = queue.calls) (claims : next.claims = queue.claims)
    (effects : next.effects = queue.effects)
    (issued : ∀ report ∈ next.reports, report.id.value < next.nextReportId)
    (reports : ∀ report ∈ next.reports, report ∈ queue.reports ∨
      queue.nextReportId ≤ report.id.value ∧ report.resolvedAction = none)
    {fits : Prop} (passes : fits) : Follows queue next fits where
  sound := sound.around kept calls claims effects issued reports
  exact thrown := iff_of_true (sound.throwsOpen_around calls claims reports thrown) passes

/-- A table of reports that only shrinks. -/
theorem follows_shrink (sound : Sound queue) (kept : Kept queue next)
    (calls : next.calls = queue.calls) (claims : next.claims = queue.claims)
    (effects : next.effects = queue.effects) (issued : next.nextReportId = queue.nextReportId)
    (reports : next.toReportTables.reports.rows ⊆ queue.toReportTables.reports.rows)
    {fits : Prop} (passes : fits) : Follows queue next fits :=
  follows_around sound kept calls claims effects
    (fun report present => issued ▸ sound.issued report (reports present))
    (fun _ present => .inl (reports present)) passes

theorem report_kept (queue : ReportQueue) (workspaceId : WorkspaceId) (messageId : MessageId) :
    (queue.toReportTables.report ⟨queue.nextReportId⟩ workspaceId messageId).messages =
        queue.messages ∧
      ∀ report ∈ (queue.toReportTables.report ⟨queue.nextReportId⟩ workspaceId messageId).reports,
        report ∈ queue.reports ∨
          report.id.value = queue.nextReportId ∧ report.resolvedAction = none := by
  unfold ReportTables.report
  split
  · exact ⟨rfl, fun report present => .inl present⟩
  split
  · exact ⟨rfl, fun report present => .inl present⟩
  next inserted =>
    refine ⟨rfl, fun report present => ?_⟩
    rcases (mem_insert? inserted).mp present with rfl | old
    · exact .inr ⟨rfl, rfl⟩
    · exact .inl old

theorem post_kept (tables : ReportTables) (message : ReportedMessage) :
    (tables.post message).reports = tables.reports ∧
      tables.messages.rows ⊆ (tables.post message).messages.rows := by
  unfold ReportTables.post
  split
  · exact ⟨rfl, List.Subset.refl _⟩
  next inserted =>
    refine ⟨rfl, fun old present => ?_⟩
    exact (mem_insert? inserted).mpr (.inr present)

theorem Happens.follows (happens : Happens queue event next) (sound : Sound queue) :
    Follows queue next (event.Fits queue) := by
  cases happens with
  | @start id new call =>
    have idle : (queue.calls id).work = none := by
      rw [new]
      rfl
    have going : (queue.calls id).isOver = false := by
      rw [new]
      rfl
    obtain ⟨soundNext, exact⟩ := follows_goOn sound going (goesOn_begin call idle)
    refine ⟨soundNext, fun thrown => (exact thrown).trans (iff_of_true ?_ trivial)⟩
    intro job action working
    rw [idle] at working
    cases working
  | advance advanced => exact follows_advance sound advanced
  | @abort id isOpen failure =>
    have going : (queue.calls id).isOver = false := by
      cases phase : queue.calls id with
      | resolved | failed failure => rw [phase] at isOpen; cases isOpen
      | _ => rfl
    have stops : GoesOn queue (queue.calls id) (.error failure) := goesOn_error
    obtain ⟨soundNext, exact⟩ := follows_goOn sound going stops
    refine ⟨soundNext, fun thrown => (exact thrown).trans ?_⟩
    constructor
    · intro passes job action working there
      cases passes job action working there
    · intro gone job action working there
      exact absurd there (gone job action working)
  | report workspaceId messageId =>
    obtain ⟨messages, reports⟩ := report_kept queue workspaceId messageId
    have kept : Kept queue
        { queue.withTables
            (queue.toReportTables.report ⟨queue.nextReportId⟩ workspaceId messageId) with
          nextReportId := queue.nextReportId + 1 } := by
      refine ⟨Nat.le_succ _, ?_, ?_, List.Subset.refl _⟩
      · intro report present
        rcases reports report present with old | ⟨fresh, -⟩
        · exact .inl ⟨report, old, rfl, rfl⟩
        · exact .inr fresh.ge
      · intro report _ row rowMem _
        exact ⟨row, messages.symm ▸ rowMem, rfl, rfl, rfl, fun deleted => deleted⟩
    refine follows_around sound kept rfl rfl rfl ?_ ?_ trivial
    · intro report present
      rcases reports report present with old | ⟨fresh, -⟩
      · exact (sound.issued report old).trans (Nat.lt_succ_self _)
      · exact fresh ▸ Nat.lt_succ_self _
    · intro report present
      exact (reports report present).imp_right (And.imp_left Eq.ge)
  | post message =>
    obtain ⟨reports, messages⟩ := post_kept queue.toReportTables message
    have kept : Kept queue (queue.withTables (queue.toReportTables.post message)) := by
      refine ⟨Nat.le_refl _, ?_, ?_, List.Subset.refl _⟩
      · intro report present
        exact .inl ⟨report, reports ▸ present, rfl, rfl⟩
      · intro report _ row rowMem _
        exact ⟨row, messages rowMem, rfl, rfl, rfl, fun deleted => deleted⟩
    refine follows_shrink sound kept rfl rfl rfl rfl ?_ trivial
    intro report present
    exact reports ▸ present
  | softDelete messageId channelId now =>
    have kept : Kept queue
        (queue.withTables (queue.toReportTables.softDelete messageId channelId now)) :=
      softDelete_kept rfl rfl (List.Subset.refl _)
    exact follows_shrink sound kept rfl rfl rfl rfl (List.Subset.refl _) trivial
  | hardDelete messageId =>
    have kept : Kept queue (queue.withTables (queue.toReportTables.hardDelete messageId)) := by
      refine ⟨Nat.le_refl _, ?_, ?_, List.Subset.refl _⟩
      · intro report present
        exact .inl ⟨report, (mem_deleteMany.mp present).1, rfl, rfl⟩
      · intro report present row rowMem same
        have other := (mem_deleteMany.mp present).2
        exact ⟨row, mem_deleteMany.mpr ⟨rowMem, same ▸ other⟩, rfl, rfl, rfl,
          fun deleted => deleted⟩
    refine follows_shrink sound kept rfl rfl rfl rfl ?_ trivial
    intro report present
    exact (mem_deleteMany.mp present).1
  | moderate db banned mutedUntil =>
    have kept : Kept queue
        { queue with db := db, banned := banned, mutedUntil := mutedUntil } := by
      refine ⟨Nat.le_refl _, ?_, ?_, List.Subset.refl _⟩
      · exact fun report present => .inl ⟨report, present, rfl, rfl⟩
      · exact fun _ _ row rowMem _ => ⟨row, rowMem, rfl, rfl, rfl, fun deleted => deleted⟩
    exact follows_shrink sound kept rfl rfl rfl rfl (List.Subset.refl _) trivial

end Steps

theorem sound_initialQueue (db : Database) : Sound (initialQueue db) where
  issued := fun _ impossible => absurd impossible not_mem_nil
  marked := fun _ impossible => absurd impossible not_mem_nil
  unclaimed := fun _ impossible => absurd impossible not_mem_nil
  claimsOnce := nodup_nil
  claimed := fun _ _ impossible => absurd impossible not_mem_nil
  read := fun _ => trivial
  working := by rintro id job action ⟨⟩
  settled := fun _ impossible => absurd impossible not_mem_nil
  effectsOnce := nodup_nil
  effectsEnded := fun _ impossible => absurd impossible not_mem_nil

/-- The runs in which the stored resolutions are true are those in which no call fails once it has
claimed a report that is there. -/
theorem resolutions_truthful_iff (db : Database) {events : List Event} {finish : ReportQueue} :
    Steps (Lawful Happens TruthfulQueue) (initialQueue db) events finish ↔
      Steps (Guarded Happens fun queue event => event.Fits queue) (initialQueue db) events finish := by
  have initially := sound_initialQueue db
  refine Steps.lawful_iff_guarded Sound ?_ ?_ initially (initially.truthful_iff.mpr ?_)
  · intro queue event next happens sound
    exact (happens.follows sound).sound
  · intro queue event next happens sound truthful
    have follows := happens.follows sound
    rw [follows.sound.truthful_iff]
    exact follows.exact truthful.thrown
  · rintro id failure ⟨⟩

/-- A call advances a number of times. -/
def ReportQueue.advanceTimes (queue : ReportQueue) (id : CallId) : Nat → Option ReportQueue
  | 0 => some queue
  | count + 1 => (queue.advance id none 0).bind fun next => next.advanceTimes id count

theorem steps_of_advanceTimes {start queue finish : ReportQueue} {events : List Event} {id : CallId}
    {count : Nat} (steps : Steps Happens start events queue)
    (advanced : queue.advanceTimes id count = some finish) :
    ∃ events, Steps Happens start events finish := by
  induction count generalizing queue events with
  | zero =>
    cases advanced
    exact ⟨events, steps⟩
  | succ count ih =>
    obtain ⟨next, first, rest⟩ := bind_eq_some_iff.mp advanced
    exact ih (steps.step (.advance first)) rest

def modRole : Role where
  id := ⟨1⟩
  workspaceId := ⟨1⟩
  name := "MODERATOR"
  position := 300
  permissions := toStoragePermissions (systemRolePermissions .moderator)
  isSystem := true

/-- A workspace of one moderator. -/
def modTables : Database where
  workspaces := .empty
  workspaceMembers := .single ⟨⟨1⟩, ⟨1⟩, .moderator⟩
  roles := .single modRole
  memberRoles := .single ⟨⟨1⟩, ⟨1⟩, ⟨1⟩⟩
  categories := .empty
  channels := .empty
  overrides := .empty
  memberRoleRole := by simp [mem_single, modRole]
  memberRoleMember := by simp [mem_single]

/-- User 2 has posted a message, it has been reported, and user 2 is no member. -/
def reportedAfterwards : ReportQueue :=
  let posted := (initialQueue modTables).withTables
    ((initialQueue modTables).toReportTables.post ⟨⟨1⟩, ⟨1⟩, ⟨2⟩, none⟩)
  { posted.withTables (posted.toReportTables.report ⟨0⟩ ⟨1⟩ ⟨1⟩) with nextReportId := 1 }

def timeoutCall : ResolveCall where
  workspaceId := ⟨1⟩
  reportId := ⟨0⟩
  actorId := ⟨1⟩
  actorRole := .moderator
  action := .timeout
  durationSeconds := some 600

/-- The first call has thrown, and the first report says that its action has been taken. -/
def isLeftBehind (queue : ReportQueue) : Bool :=
  match queue.calls ⟨1⟩ with
  | .failed _ =>
    decide ((⟨0⟩, ⟨1⟩) ∈ queue.claims ∧ queue.effects = [] ∧
      queue.reports.rows.any (fun report =>
        report.id == ⟨0⟩ && report.resolvedAction == some .timeout) = true)
  | _ => false

/-- The report of a member who has left is resolved by a timeout, which throws. -/
theorem resolved_without_timeout : ∃ events finish,
    Steps Happens (initialQueue modTables) events finish ∧ ¬TruthfulQueue finish := by
  have reported : Steps Happens (initialQueue modTables) _ reportedAfterwards :=
    (Steps.refl.step (.post ⟨⟨1⟩, ⟨1⟩, ⟨2⟩, none⟩)).step (.report ⟨1⟩ ⟨1⟩)
  have started : Steps Happens (initialQueue modTables) _
      (reportedAfterwards.goOn ⟨1⟩ timeoutCall.begin) :=
    reported.step (.start rfl timeoutCall)
  have reached : ((reportedAfterwards.goOn ⟨1⟩ timeoutCall.begin).advanceTimes ⟨1⟩ 5).any
      isLeftBehind = true := by
    decide +kernel
  obtain ⟨finish, advanced, leftBehind⟩ := (any_eq_true _ _).mp reached
  obtain ⟨events, steps⟩ := steps_of_advanceTimes started advanced
  refine ⟨events, finish, steps, fun truthful => ?_⟩
  unfold isLeftBehind at leftBehind
  split at leftBehind
  next failure failed =>
    obtain ⟨claimed, -, marked⟩ := of_decide_eq_true leftBehind
    obtain ⟨report, present, same⟩ := any_eq_true.mp marked
    obtain ⟨sameId, -⟩ := Bool.and_eq_true_iff.mp same
    have left := truthful.thrown ⟨1⟩ failure failed report present
    rw [eq_of_beq sameId] at left
    exact left claimed
  · cases leftBehind

end Bongtalk.Workspaces.Moderation
