import Bongtalk.Workspaces.Moderation.ReportService

/-!
# Truthful resolutions

A report is claimed by one call at most, so that its side effect is carried out at most once. But the
checks of a timeout or a ban come after the claim: a call that fails there leaves a report behind
that says what has not been done.
-/

namespace Bongtalk.Workspaces.Moderation

open Library Auth Common Prisma ReportQueue List Function

variable {queue next : ReportQueue}

/-- The side effect of the stored action has taken place. -/
def Effective (queue : ReportQueue) (report : ModerationReport) : ReportAction → Prop
  | .dismiss | .warn => True
  | .deleteMessage => ∃ message ∈ queue.messages, message.id = report.messageId ∧
      message.deletedAt ≠ none
  | .timeout => ∃ message ∈ queue.messages, message.id = report.messageId ∧
      ⟨report.id, .timeout, message.authorId⟩ ∈ queue.effects
  | .ban => ∃ message ∈ queue.messages, message.id = report.messageId ∧
      ⟨report.id, .ban, message.authorId⟩ ∈ queue.effects

/-- What a call that has claimed its report is about to carry out. -/
def ResolvePhase.work : ResolvePhase → Option (Job × ReportAction)
  | .softDelete job => some (job, .deleteMessage)
  | .timeoutActor job | .timeoutTarget job _ | .timeoutTop job _ _ | .timeout job =>
    some (job, .timeout)
  | .banActor job | .findBan job _ | .banMember job _ | .banTop job _ _ | .ban job _ =>
    some (job, .ban)
  | _ => none

/-- A call that has thrown has resolved no report that is there. -/
def ThrowsOpen (queue : ReportQueue) : Prop :=
  ∀ id failure, queue.calls id = .failed failure →
    ∀ report ∈ queue.reports, (report.id, id) ∉ queue.claims

/-- The stored actions have taken effect, as far as the calls that have stored them are not still
carrying them out; each report has one side effect at most; and calls that throw leave their report
as open as it was. -/
structure TruthfulQueue (queue : ReportQueue) : Prop where
  effective : ∀ report ∈ queue.reports, ∀ action, report.resolvedAction = some action →
    Effective queue report action ∨
      ∃ id job, (report.id, id) ∈ queue.claims ∧ (queue.calls id).work = some (job, action)
  once : (queue.effects.map (·.reportId)).Nodup
  thrown : ThrowsOpen queue

/-- The report is still there. -/
def IsThere (queue : ReportQueue) (reportId : ReportId) : Prop :=
  ∃ report ∈ queue.reports, report.id = reportId

/-- The check that comes with the next statement of a call after its claim passes. -/
def ResolvePhase.Passes (queue : ReportQueue) : ResolvePhase → Prop
  | .timeoutActor job => (queue.timeoutActor job).isOk = true
  | .timeoutTarget job actor => (queue.timeoutTarget job actor).isOk = true
  | .timeoutTop job actor role => (queue.timeoutTop job actor role).isOk = true
  | .timeout job => (queue.findAuthor job).isSome = true
  | .banActor job => (queue.banActor job).isOk = true
  | .findBan job actor => (queue.findBan job actor).isOk = true
  | .banMember job actor => (queue.banMember job actor).isOk = true
  | .banTop job actor role => (queue.banTop job actor role).isOk = true
  | .ban job wasMember => queue.isBanned job = false ∧
      (wasMember = true → (queue.findAuthor job).isSome = true)
  | _ => True

/-- The condition on a step: once a call has claimed a report that is still there, its checks pass
and its statements are not aborted. -/
def Event.Fits (queue : ReportQueue) : Event → Prop
  | .advance id _ _ => ∀ job action, (queue.calls id).work = some (job, action) →
      IsThere queue job.report.id → (queue.calls id).Passes queue
  | .abort id _ => ∀ job action, (queue.calls id).work = some (job, action) →
      ¬IsThere queue job.report.id
  | _ => True

/-- What a call knows of a report that it has read, as long as the report is there. -/
def KnownReport (queue : ReportQueue) (report : ModerationReport) : Prop :=
  report.id.value < queue.nextReportId ∧
    ∀ row ∈ queue.reports, row.id = report.id → row.messageId = report.messageId

/-- And of its message. -/
def Known (queue : ReportQueue) (job : Job) : Prop :=
  KnownReport queue job.report ∧ ∀ row ∈ queue.reports, row.id = job.report.id →
    ∃ message ∈ queue.messages, message.id = row.messageId ∧
      message.channelId = job.message.channelId ∧ message.authorId = job.message.authorId

/-- What is known of a call before its claim. -/
def ResolvePhase.Read (queue : ReportQueue) : ResolvePhase → Prop
  | .findMessage _ report => KnownReport queue report
  | .findChannel job | .findPermission job _ | .outrankActor job | .outrankAuthor job _
  | .outrankTop job _ _ => Known queue job
  | .claim call report (some message) => Known queue ⟨call, report, message⟩
  | .claim _ report none => report.id.value < queue.nextReportId ∧ ¬IsThere queue report.id
  | _ => True

/-- The call has returned or thrown. -/
def ResolvePhase.isOver : ResolvePhase → Bool
  | .resolved | .failed _ => true
  | _ => false

/-- A call after its claim: it is at work, or it is over. -/
def ResolvePhase.Claimed (reportId : ReportId) (phase : ResolvePhase) : Prop :=
  (∃ job action, phase.work = some (job, action) ∧ job.report.id = reportId) ∨ phase.isOver = true

/-- A call that is over has nothing left to do. -/
theorem ResolvePhase.work_eq_none {phase : ResolvePhase} (ended : phase.isOver = true) :
    phase.work = none := by
  cases phase with
  | resolved => rfl
  | failed failure => rfl
  | _ => cases ended

structure Sound (queue : ReportQueue) : Prop where
  issued : ∀ report ∈ queue.reports, report.id.value < queue.nextReportId
  marked : ∀ report ∈ queue.reports, report.resolvedAt = none → report.resolvedAction = none
  unclaimed : ∀ report ∈ queue.reports, report.resolvedAt = none →
    ∀ id, (report.id, id) ∉ queue.claims
  claimsOnce : (queue.claims.map Prod.fst).Nodup
  claimed : ∀ reportId id, (reportId, id) ∈ queue.claims →
    reportId.value < queue.nextReportId ∧ (queue.calls id).Claimed reportId
  read : ∀ id, (queue.calls id).Read queue
  working : ∀ id job action, (queue.calls id).work = some (job, action) →
    Known queue job ∧ (job.report.id, id) ∈ queue.claims
  settled : ∀ report ∈ queue.reports, ∀ action, report.resolvedAction = some action →
    ∃ id, (report.id, id) ∈ queue.claims ∧ (Effective queue report action ∨
      (∃ job, (queue.calls id).work = some (job, action)) ∨
        ∃ failure, queue.calls id = .failed failure)
  effectsOnce : (queue.effects.map (·.reportId)).Nodup
  effectsEnded : ∀ effect ∈ queue.effects, ∃ id, (effect.reportId, id) ∈ queue.claims ∧
    (queue.calls id).work = none

section Facts

variable (sound : Sound queue)

include sound

/-- The truth comes down to the calls that throw. -/
theorem Sound.truthful_iff : TruthfulQueue queue ↔ ThrowsOpen queue := by
  constructor
  · exact TruthfulQueue.thrown
  · intro thrown
    refine ⟨fun report present action stored => ?_, sound.effectsOnce, thrown⟩
    obtain ⟨id, claimed, effective | ⟨job, working⟩ | ⟨failure, failed⟩⟩ :=
      sound.settled report present action stored
    · exact .inl effective
    · exact .inr ⟨id, job, claimed, working⟩
    · exact absurd claimed (thrown id failure failed report present)

/-- A report is claimed by one call. -/
theorem Sound.claim_unique {reportId : ReportId} {first second : CallId}
    (firstClaims : (reportId, first) ∈ queue.claims)
    (secondClaims : (reportId, second) ∈ queue.claims) : first = second := by
  have same := inj_on_of_nodup_map sound.claimsOnce firstClaims secondClaims rfl
  exact (Prod.mk.inj same).2

/-- A call that works on a report has claimed no other. -/
theorem Sound.eq_of_claimed {id : CallId} {job : Job} {action : ReportAction}
    (working : (queue.calls id).work = some (job, action)) {reportId : ReportId}
    (claimed : (reportId, id) ∈ queue.claims) : reportId = job.report.id := by
  rcases (sound.claimed reportId id claimed).2 with ⟨other, otherAction, otherWork, rfl⟩ | ended
  · rw [working] at otherWork
    cases otherWork
    rfl
  · rw [ResolvePhase.work_eq_none ended] at working
    cases working

/-- A call before its claim has claimed nothing. -/
theorem Sound.not_claimed {id : CallId} (idle : (queue.calls id).work = none)
    (going : (queue.calls id).isOver = false) (reportId : ReportId) :
    (reportId, id) ∉ queue.claims := by
  intro claimed
  rcases (sound.claimed reportId id claimed).2 with ⟨job, action, working, -⟩ | ended
  · rw [idle] at working
    cases working
  · rw [going] at ended
    cases ended

end Facts

/-- A message stays itself, and deleted if it is. -/
structure ReportedMessage.Stays (row after : ReportedMessage) : Prop where
  id : after.id = row.id
  channelId : after.channelId = row.channelId
  authorId : after.authorId = row.authorId
  deleted : row.deletedAt ≠ none → after.deletedAt ≠ none

/-- What every step keeps of the reports and of their messages. -/
structure Kept (queue next : ReportQueue) : Prop where
  issued : queue.nextReportId ≤ next.nextReportId
  reports : ∀ report ∈ next.reports,
    (∃ old ∈ queue.reports, old.id = report.id ∧ old.messageId = report.messageId) ∨
      queue.nextReportId ≤ report.id.value
  messages : ∀ report ∈ next.reports, ∀ row ∈ queue.messages, row.id = report.messageId →
    ∃ after ∈ next.messages, row.Stays after
  effects : queue.effects ⊆ next.effects

namespace Kept

variable (kept : Kept queue next)

include kept

/-- A report that has an old id is an old one. -/
theorem old {reportId : ReportId} (issued : reportId.value < queue.nextReportId)
    {report : ModerationReport} (present : report ∈ next.reports) (same : report.id = reportId) :
    ∃ row ∈ queue.reports, row.id = reportId ∧ row.messageId = report.messageId := by
  rcases kept.reports report present with ⟨row, rowMem, sameId, sameMessage⟩ | fresh
  · exact ⟨row, rowMem, sameId.trans same, sameMessage⟩
  rw [same] at fresh
  omega

/-- A report that is gone does not come back. -/
theorem gone {reportId : ReportId} (issued : reportId.value < queue.nextReportId)
    (gone : ¬IsThere queue reportId) : ¬IsThere next reportId := by
  rintro ⟨report, present, same⟩
  obtain ⟨row, rowMem, sameId, -⟩ := kept.old issued present same
  exact gone ⟨row, rowMem, sameId⟩

theorem knownReport {report : ModerationReport} (known : KnownReport queue report) :
    KnownReport next report := by
  obtain ⟨issued, sameMessage⟩ := known
  refine ⟨issued.trans_le kept.issued, fun row present same => ?_⟩
  obtain ⟨old, oldMem, sameId, ofMessage⟩ := kept.old issued present same
  exact ofMessage.symm.trans (sameMessage old oldMem sameId)

theorem known {job : Job} (known : Known queue job) : Known next job := by
  obtain ⟨knownReport, there⟩ := known
  refine ⟨kept.knownReport knownReport, fun row present same => ?_⟩
  obtain ⟨old, oldMem, sameId, ofMessage⟩ := kept.old knownReport.1 present same
  obtain ⟨message, messageMem, isIts, inChannel, byAuthor⟩ := there old oldMem sameId
  obtain ⟨after, afterMem, stays⟩ :=
    kept.messages row present message messageMem (isIts.trans ofMessage)
  exact ⟨after, afterMem, stays.id.trans (isIts.trans ofMessage), stays.channelId.trans inChannel,
    stays.authorId.trans byAuthor⟩

theorem read {phase : ResolvePhase} (read : phase.Read queue) : phase.Read next := by
  cases phase with
  | findMessage call report => exact kept.knownReport read
  | findChannel job | findPermission job channel | outrankActor job | outrankAuthor job actor
  | outrankTop job actor role => exact kept.known read
  | claim call report message =>
    cases message with
    | some message => exact kept.known read
    | none =>
      obtain ⟨issued, gone⟩ := read
      exact ⟨issued.trans_le kept.issued, kept.gone issued gone⟩
  | _ => trivial

/-- A side effect stays. -/
theorem effective {old report : ModerationReport} (present : report ∈ next.reports)
    (sameId : old.id = report.id) (sameMessage : old.messageId = report.messageId)
    {action : ReportAction} (effective : Effective queue old action) :
    Effective next report action := by
  cases action with
  | dismiss => trivial
  | warn => trivial
  | deleteMessage =>
    obtain ⟨message, messageMem, isIts, deleted⟩ := effective
    obtain ⟨after, afterMem, stays⟩ :=
      kept.messages report present message messageMem (isIts.trans sameMessage)
    exact ⟨after, afterMem, stays.id.trans (isIts.trans sameMessage), stays.deleted deleted⟩
  | timeout | ban =>
    obtain ⟨message, messageMem, isIts, happened⟩ := effective
    obtain ⟨after, afterMem, stays⟩ :=
      kept.messages report present message messageMem (isIts.trans sameMessage)
    refine ⟨after, afterMem, stays.id.trans (isIts.trans sameMessage), kept.effects ?_⟩
    rw [stays.authorId, ← sameId]
    exact happened

end Kept

section Moves

/-- Whatever happens around the calls. -/
theorem Sound.around (sound : Sound queue) (kept : Kept queue next)
    (calls : next.calls = queue.calls) (claims : next.claims = queue.claims)
    (effects : next.effects = queue.effects)
    (issued : ∀ report ∈ next.reports, report.id.value < next.nextReportId)
    (reports : ∀ report ∈ next.reports, report ∈ queue.reports ∨
      queue.nextReportId ≤ report.id.value ∧ report.resolvedAction = none) : Sound next := by
  refine ⟨issued, ?_, ?_, ?_, ?_, ?_, ?_, ?_, ?_, ?_⟩
  · intro report present unresolved
    rcases reports report present with old | ⟨-, unmarked⟩
    · exact sound.marked report old unresolved
    · exact unmarked
  · intro report present unresolved id claimed
    rw [claims] at claimed
    rcases reports report present with old | ⟨fresh, -⟩
    · exact sound.unclaimed report old unresolved id claimed
    have issuedBefore := (sound.claimed report.id id claimed).1
    omega
  · rw [claims]
    exact sound.claimsOnce
  · intro reportId id claimed
    rw [claims] at claimed
    rw [calls]
    obtain ⟨issuedBefore, phase⟩ := sound.claimed reportId id claimed
    exact ⟨issuedBefore.trans_le kept.issued, phase⟩
  · intro id
    rw [calls]
    exact kept.read (sound.read id)
  · intro id job action working
    rw [calls] at working
    rw [claims]
    obtain ⟨known, claimed⟩ := sound.working id job action working
    exact ⟨kept.known known, claimed⟩
  · intro report present action stored
    rw [calls, claims]
    rcases reports report present with old | ⟨-, unmarked⟩
    · obtain ⟨id, claimed, effective | others⟩ := sound.settled report old action stored
      · exact ⟨id, claimed, .inl (kept.effective present rfl rfl effective)⟩
      · exact ⟨id, claimed, .inr others⟩
    · rw [unmarked] at stored
      cases stored
  · rw [effects]
    exact sound.effectsOnce
  · rw [effects, claims, calls]
    exact sound.effectsEnded

/-- And no report becomes one that a call has given up. -/
theorem Sound.throwsOpen_around (sound : Sound queue) (calls : next.calls = queue.calls)
    (claims : next.claims = queue.claims)
    (reports : ∀ report ∈ next.reports, report ∈ queue.reports ∨
      queue.nextReportId ≤ report.id.value ∧ report.resolvedAction = none)
    (thrown : ThrowsOpen queue) : ThrowsOpen next := by
  intro id failure failed report present claimed
  rw [calls] at failed
  rw [claims] at claimed
  rcases reports report present with old | ⟨fresh, -⟩
  · exact thrown id failure failed report old claimed
  have issuedBefore := (sound.claimed report.id id claimed).1
  omega

variable {id : CallId}

/-- A call that goes on: before its claim, or at the same work, or it throws. -/
theorem Sound.setPhase (sound : Sound queue) {phase : ResolvePhase}
    (going : (queue.calls id).isOver = false) (read : phase.Read queue)
    (goesOn : phase.work = (queue.calls id).work ∨ ∃ failure, phase = .failed failure) :
    Sound (queue.setPhase id phase) := by
  have others : ∀ other, other ≠ id → (queue.setPhase id phase).calls other = queue.calls other :=
    fun other differs => update_of_ne differs _ _
  have own : (queue.setPhase id phase).calls id = phase := update_self _ _ _
  refine ⟨sound.issued, sound.marked, sound.unclaimed, sound.claimsOnce, ?_, ?_, ?_, ?_,
    sound.effectsOnce, ?_⟩
  · intro reportId other claimed
    obtain ⟨issued, before⟩ := sound.claimed reportId other claimed
    refine ⟨issued, ?_⟩
    by_cases same : other = id
    · subst same
      rw [own]
      rcases goesOn with sameWork | ⟨failure, rfl⟩
      · rcases before with working | ended
        · rw [← sameWork] at working
          exact .inl working
        · rw [going] at ended
          cases ended
      · exact .inr rfl
    · rw [others other same]
      exact before
  · intro other
    by_cases same : other = id
    · subst same
      rw [own]
      exact read
    · rw [others other same]
      exact sound.read other
  · intro other job action working
    by_cases same : other = id
    · subst same
      rw [own] at working
      rcases goesOn with sameWork | ⟨failure, rfl⟩
      · exact sound.working other job action (sameWork ▸ working)
      · cases working
    · rw [others other same] at working
      exact sound.working other job action working
  · intro report present action stored
    obtain ⟨other, claimed, settled⟩ := sound.settled report present action stored
    refine ⟨other, claimed, ?_⟩
    by_cases same : other = id
    · subst same
      rw [own]
      rcases settled with effective | ⟨job, working⟩ | ⟨failure, failed⟩
      · exact .inl effective
      · rcases goesOn with sameWork | threw
        · exact .inr (.inl ⟨job, sameWork.trans working⟩)
        · exact .inr (.inr threw)
      · rw [failed] at going
        cases going
    · rw [others other same]
      exact settled
  · intro effect happened
    obtain ⟨other, claimed, ended⟩ := sound.effectsEnded effect happened
    refine ⟨other, claimed, ?_⟩
    have same : other ≠ id := by
      rintro rfl
      exact sound.not_claimed ended going _ claimed
    rw [others other same]
    exact ended

/-- A call that goes on has not thrown, so that only a call that throws can leave a report behind. -/
theorem throwsOpen_setPhase (thrown : ThrowsOpen queue) {phase : ResolvePhase} :
    ThrowsOpen (queue.setPhase id phase) ↔
      ∀ failure, phase = .failed failure → ∀ report ∈ queue.reports,
        (report.id, id) ∉ queue.claims := by
  constructor
  · intro thrownNext failure failed report present
    exact thrownNext id failure ((update_self _ _ _).trans failed) report present
  · intro own other failure failed report present
    by_cases same : other = id
    · subst same
      exact own failure ((update_self _ _ _).symm.trans failed) report present
    · exact thrown other failure ((update_of_ne same _ _).symm.trans failed) report present

/-- A call ends with the side effect of its claim, or finds it done. -/
theorem Sound.finish (sound : Sound queue) (kept : Kept queue next) {job : Job}
    {action : ReportAction} (working : (queue.calls id).work = some (job, action))
    (calls : next.calls = update queue.calls id .resolved)
    (claims : next.claims = queue.claims)
    (reports : next.toReportTables.reports = queue.toReportTables.reports)
    (issued : next.nextReportId = queue.nextReportId)
    (effects : next.effects = queue.effects ∨
      next.effects = ⟨job.report.id, action, job.message.authorId⟩ :: queue.effects)
    (done : ∀ report ∈ queue.reports, report.id = job.report.id → Effective next report action) :
    Sound next := by
  have others : ∀ other, other ≠ id → next.calls other = queue.calls other := by
    intro other differs
    rw [calls]
    exact update_of_ne differs _ _
  have own : next.calls id = .resolved := by
    rw [calls]
    exact update_self _ _ _
  have claimedIt := (sound.working id job action working).2
  refine ⟨?_, ?_, ?_, ?_, ?_, ?_, ?_, ?_, ?_, ?_⟩
  · rw [reports, issued]
    exact sound.issued
  · rw [reports]
    exact sound.marked
  · rw [reports, claims]
    exact sound.unclaimed
  · rw [claims]
    exact sound.claimsOnce
  · intro reportId other claimed
    rw [claims] at claimed
    obtain ⟨issuedBefore, before⟩ := sound.claimed reportId other claimed
    refine ⟨issuedBefore.trans_le kept.issued, ?_⟩
    by_cases same : other = id
    · subst same
      rw [own]
      exact .inr rfl
    · rw [others other same]
      exact before
  · intro other
    by_cases same : other = id
    · subst same
      rw [own]
      trivial
    · rw [others other same]
      exact kept.read (sound.read other)
  · intro other otherJob otherAction otherWork
    rw [claims]
    by_cases same : other = id
    · subst same
      rw [own] at otherWork
      cases otherWork
    · rw [others other same] at otherWork
      obtain ⟨known, claimed⟩ := sound.working other otherJob otherAction otherWork
      exact ⟨kept.known known, claimed⟩
  · intro report present stored isStored
    have old : report ∈ queue.reports := reports ▸ present
    obtain ⟨other, claimed, settled⟩ := sound.settled report old stored isStored
    refine ⟨other, claims ▸ claimed, ?_⟩
    by_cases same : other = id
    · subst same
      left
      rcases settled with effective | ⟨otherJob, otherWork⟩ | ⟨failure, failed⟩
      · exact kept.effective present rfl rfl effective
      · rw [working] at otherWork
        cases otherWork
        exact done report old (sound.eq_of_claimed working claimed)
      · rw [failed] at working
        cases working
    · rw [others other same]
      exact settled.imp_left (kept.effective present rfl rfl)
  · rcases effects with same | logged
    · rw [same]
      exact sound.effectsOnce
    · rw [logged, map_cons]
      refine nodup_cons.mpr ⟨fun earlier => ?_, sound.effectsOnce⟩
      obtain ⟨effect, happened, ofReport⟩ := mem_map.mp earlier
      obtain ⟨other, claimed, ended⟩ := sound.effectsEnded effect happened
      rw [ofReport] at claimed
      rw [sound.claim_unique claimed claimedIt, working] at ended
      cases ended
  · have ended : ∀ other, (queue.calls other).work = none → (next.calls other).work = none := by
      intro other before
      by_cases same : other = id
      · subst same
        rw [own]
        rfl
      · rw [others other same]
        exact before
    have before : ∀ effect ∈ queue.effects, ∃ other, (effect.reportId, other) ∈ next.claims ∧
        (next.calls other).work = none := by
      intro effect happened
      obtain ⟨other, claimed, idle⟩ := sound.effectsEnded effect happened
      exact ⟨other, claims ▸ claimed, ended other idle⟩
    rcases effects with same | logged
    · rw [same]
      exact before
    · rw [logged]
      refine forall_mem_cons.mpr ⟨⟨id, claims ▸ claimedIt, ?_⟩, before⟩
      rw [own]
      rfl

/-- A call that ends well leaves nothing open that it should not. -/
theorem throwsOpen_finish (thrown : ThrowsOpen queue)
    (calls : next.calls = update queue.calls id .resolved)
    (claims : next.claims = queue.claims)
    (reports : next.toReportTables.reports = queue.toReportTables.reports) : ThrowsOpen next := by
  intro other failure failed report present
  rw [claims]
  rw [calls] at failed
  by_cases same : other = id
  · subst same
    rw [update_self] at failed
    cases failed
  · rw [update_of_ne same] at failed
    exact thrown other failure failed report (reports ▸ present)

/-- The row that is resolved, and the others. -/
theorem mem_resolve {tables : ReportTables} {reportId : ReportId} {actorId : UserId}
    {action : ReportAction} {now : DateTime} {row : ModerationReport}
    (present : row ∈ (tables.resolve reportId actorId action now).reports) :
    (row ∈ tables.reports ∧ row.id ≠ reportId) ∨
      (∃ old ∈ tables.reports, old.id = row.id ∧ old.messageId = row.messageId) ∧
        row.id = reportId ∧ row.resolvedAt = some now ∧ row.resolvedAction = some action := by
  obtain ⟨old, oldMem, rfl⟩ := mem_map.mp present
  split
  next same => exact .inr ⟨⟨old, oldMem, rfl, rfl⟩, same, rfl, rfl⟩
  next differs => exact .inl ⟨oldMem, differs⟩

/-- A call that has claimed its report sets to work, if there is something to do. -/
theorem afterClaim_some (call : ResolveCall) (report : ModerationReport)
    (message : ReportedMessage) :
    (afterClaim call report (some message)).work = some (⟨call, report, message⟩, call.action) ∨
      (call.action = .dismiss ∨ call.action = .warn) ∧
        afterClaim call report (some message) = .resolved := by
  unfold afterClaim
  cases call.action with
  | dismiss => exact .inr ⟨.inl rfl, rfl⟩
  | warn => exact .inr ⟨.inr rfl, rfl⟩
  | deleteMessage | timeout | ban => exact .inl rfl

/-- An open report has an unresolved row. -/
theorem exists_of_isOpen {reportId : ReportId} (isOpen : queue.isOpen reportId = true) :
    ∃ row ∈ queue.reports, row.id = reportId ∧ row.resolvedAt = none := by
  obtain ⟨row, found, unresolved⟩ := (Option.any_eq_true _ _).mp isOpen
  obtain ⟨rowMem, same⟩ := Table.mem_of_findUnique found
  exact ⟨row, rowMem, same, Option.isNone_iff_eq_none.mp unresolved⟩

/-- What a claim does to the queue. -/
structure ClaimedBy (queue next : ReportQueue) (id : CallId) (call : ResolveCall)
    (report : ModerationReport) (message : Option ReportedMessage) (now : DateTime) : Prop where
  tables : next.toReportTables =
    queue.toReportTables.resolve report.id call.actorId (effectiveAction call message) now
  issued : next.nextReportId = queue.nextReportId
  calls : next.calls = update queue.calls id (afterClaim call report message)
  claims : next.claims = (report.id, id) :: queue.claims
  effects : next.effects = queue.effects

theorem claimedBy_claim {call : ResolveCall} {report : ModerationReport}
    {message : Option ReportedMessage} {now : DateTime} (isOpen : queue.isOpen report.id = true) :
    ClaimedBy queue (queue.claim id now call report message) id call report message now := by
  rw [claim, if_pos isOpen]
  exact ⟨rfl, rfl, rfl, rfl, rfl⟩

section Claim

variable {call : ResolveCall} {report : ModerationReport} {message : Option ReportedMessage}
variable {now : DateTime}

theorem ClaimedBy.mem (claimed : ClaimedBy queue next id call report message now)
    {row : ModerationReport} (present : row ∈ next.reports) :
    (row ∈ queue.reports ∧ row.id ≠ report.id) ∨
      (∃ old ∈ queue.reports, old.id = row.id ∧ old.messageId = row.messageId) ∧
        row.id = report.id ∧ row.resolvedAt = some now ∧
          row.resolvedAction = some (effectiveAction call message) :=
  mem_resolve (claimed.tables ▸ present)

theorem ClaimedBy.kept (claimed : ClaimedBy queue next id call report message now) :
    Kept queue next where
  issued := claimed.issued.ge
  reports := by
    intro row present
    rcases claimed.mem present with ⟨old, -⟩ | ⟨old, -⟩
    · exact .inl ⟨row, old, rfl, rfl⟩
    · exact .inl old
  messages := by
    intro row _ old oldMem _
    refine ⟨old, ?_, rfl, rfl, rfl, fun deleted => deleted⟩
    rw [claimed.tables]
    exact oldMem
  effects := fun effect happened => claimed.effects ▸ happened

/-- The report of an open row is claimed, and its call goes to work on the stored action. -/
theorem Sound.claim (sound : Sound queue) (phase : queue.calls id = .claim call report message)
    (isOpen : queue.isOpen report.id = true)
    (claimed : ClaimedBy queue next id call report message now) : Sound next := by
  obtain ⟨openRow, openMem, sameId, unresolved⟩ := exists_of_isOpen isOpen
  have kept := claimed.kept
  have read := sound.read id
  rw [phase] at read
  -- A message that is gone has taken its reports along.
  obtain ⟨found, rfl⟩ : ∃ found, message = some found := by
    cases message with
    | none => exact absurd ⟨openRow, openMem, sameId⟩ read.2
    | some found => exact ⟨found, rfl⟩
  have stores : effectiveAction call (some found) = call.action := by
    simp [effectiveAction]
  have unclaimed : ∀ other, (report.id, other) ∉ queue.claims := by
    rw [← sameId]
    exact sound.unclaimed openRow openMem unresolved
  have nothing : ∀ reportId, (reportId, id) ∉ queue.claims := by
    apply sound.not_claimed
    · rw [phase]
      rfl
    · rw [phase]
      rfl
  have others : ∀ other, other ≠ id → next.calls other = queue.calls other := by
    intro other differs
    rw [claimed.calls]
    exact update_of_ne differs _ _
  have own : next.calls id = afterClaim call report (some found) := by
    rw [claimed.calls]
    exact update_self _ _ _
  have before : ∀ {reportId other}, (reportId, other) ∈ queue.claims → other ≠ id := by
    rintro reportId other earlier rfl
    exact nothing reportId earlier
  refine ⟨?_, ?_, ?_, ?_, ?_, ?_, ?_, ?_, ?_, ?_⟩
  · intro row present
    rw [claimed.issued]
    rcases claimed.mem present with ⟨old, -⟩ | ⟨⟨old, oldMem, same, -⟩, -⟩
    · exact sound.issued row old
    rw [← same]
    exact sound.issued old oldMem
  · intro row present unresolvedStill
    rcases claimed.mem present with ⟨old, -⟩ | ⟨-, -, resolved, -⟩
    · exact sound.marked row old unresolvedStill
    rw [resolved] at unresolvedStill
    cases unresolvedStill
  · intro row present unresolvedStill other
    rw [claimed.claims]
    rcases claimed.mem present with ⟨old, differs⟩ | ⟨-, -, resolved, -⟩
    · intro isClaimed
      rcases mem_cons.mp isClaimed with same | earlier
      · exact differs (Prod.mk.inj same).1
      · exact sound.unclaimed row old unresolvedStill other earlier
    · rw [resolved] at unresolvedStill
      cases unresolvedStill
  · rw [claimed.claims, map_cons]
    refine nodup_cons.mpr ⟨fun earlier => ?_, sound.claimsOnce⟩
    obtain ⟨⟨reportId, other⟩, earlier, rfl⟩ := mem_map.mp earlier
    exact unclaimed other earlier
  · intro reportId other isClaimed
    rw [claimed.claims] at isClaimed
    rw [claimed.issued]
    rcases mem_cons.mp isClaimed with same | earlier
    · cases same
      rw [own]
      refine ⟨sameId ▸ sound.issued openRow openMem, ?_⟩
      rcases afterClaim_some call report found with working | ⟨-, ended⟩
      · exact .inl ⟨_, _, working, rfl⟩
      · exact .inr (ended ▸ rfl)
    · rw [others other (before earlier)]
      exact sound.claimed reportId other earlier
  · intro other
    by_cases same : other = id
    · subst same
      rw [own]
      unfold afterClaim
      dsimp only
      split <;> trivial
    · rw [others other same]
      exact kept.read (sound.read other)
  · intro other job action working
    rw [claimed.claims]
    by_cases same : other = id
    · subst same
      rw [own] at working
      rcases afterClaim_some call report found with atWork | ⟨-, ended⟩
      · rw [atWork] at working
        cases working
        exact ⟨kept.known read, mem_cons_self⟩
      · rw [ended] at working
        cases working
    · rw [others other same] at working
      obtain ⟨known, earlier⟩ := sound.working other job action working
      exact ⟨kept.known known, mem_cons_of_mem _ earlier⟩
  · intro row present action stored
    rw [claimed.claims]
    rcases claimed.mem present with ⟨old, -⟩ | ⟨-, same, -, now⟩
    · obtain ⟨other, earlier, settled⟩ := sound.settled row old action stored
      refine ⟨other, mem_cons_of_mem _ earlier, ?_⟩
      rw [others other (before earlier)]
      exact settled.imp_left (kept.effective present rfl rfl)
    · rw [now, stores] at stored
      cases stored
      refine ⟨id, same ▸ mem_cons_self, ?_⟩
      rw [own]
      rcases afterClaim_some call report found with working | ⟨nothingToDo, -⟩
      · exact .inr (.inl ⟨_, working⟩)
      left
      rcases nothingToDo with isAction | isAction <;> rw [isAction] <;> trivial
  · rw [claimed.effects]
    exact sound.effectsOnce
  · intro effect happened
    rw [claimed.effects] at happened
    obtain ⟨other, earlier, ended⟩ := sound.effectsEnded effect happened
    refine ⟨other, claimed.claims ▸ mem_cons_of_mem _ earlier, ?_⟩
    rw [others other (before earlier)]
    exact ended

theorem throwsOpen_claim (thrown : ThrowsOpen queue)
    (claimed : ClaimedBy queue next id call report message now) : ThrowsOpen next := by
  intro other failure failed row present isClaimed
  rw [claimed.calls] at failed
  rw [claimed.claims] at isClaimed
  by_cases same : other = id
  · subst same
    rw [update_self] at failed
    unfold afterClaim at failed
    split at failed
    · cases failed
    · split at failed <;> cases failed
  · rw [update_of_ne same] at failed
    rcases mem_cons.mp isClaimed with new | earlier
    · exact same (Prod.mk.inj new).2
    obtain ⟨old, oldMem, sameId, -⟩ :
        ∃ old ∈ queue.reports, old.id = row.id ∧ old.messageId = row.messageId := by
      rcases claimed.mem present with ⟨old, -⟩ | ⟨old, -⟩
      · exact ⟨row, old, rfl, rfl⟩
      · exact old
    exact thrown other failure failed old oldMem (sameId ▸ earlier)

end Claim

/-- What a step does to the invariant, and when it stays within the law. -/
structure Follows (queue next : ReportQueue) (fits : Prop) : Prop where
  sound : Sound next
  exact : ThrowsOpen queue → (ThrowsOpen next ↔ fits)

/-- A call that has not thrown goes on before its claim, or with the same work. -/
def GoesOn (queue : ReportQueue) (before : ResolvePhase) (result : Except Failure ResolvePhase) :
    Prop :=
  ∀ phase, result = .ok phase → phase.work = before.work ∧ phase.isOver = false ∧ phase.Read queue

section GoesOn

variable {before : ResolvePhase}

theorem goesOn_ok {phase : ResolvePhase} (work : phase.work = before.work)
    (going : phase.isOver = false) (read : phase.Read queue) : GoesOn queue before (.ok phase) := by
  intro other ok
  cases ok
  exact ⟨work, going, read⟩

theorem goesOn_error {failure : Failure} : GoesOn queue before (.error failure) := by
  intro phase ok
  cases ok

theorem goesOn_check {check : Except Failure Unit} {rest : Unit → Except Failure ResolvePhase}
    (goesOn : GoesOn queue before (rest ())) : GoesOn queue before (check >>= rest) := by
  intro phase ok
  exact goesOn phase (check_bind_eq_ok.mp ok).2

end GoesOn

variable {result : Except Failure ResolvePhase}

/-- A call that goes on keeps the law unless it throws after its claim, with the report there. -/
theorem follows_goOn (sound : Sound queue) (going : (queue.calls id).isOver = false)
    (goesOn : GoesOn queue (queue.calls id) result) :
    Follows queue (queue.goOn id result)
      (∀ job action, (queue.calls id).work = some (job, action) →
        IsThere queue job.report.id → result.isOk = true) := by
  cases result with
  | ok phase =>
    obtain ⟨work, unfailed, read⟩ := goesOn phase rfl
    refine ⟨sound.setPhase going read (.inl work), fun thrown => ?_⟩
    refine iff_of_true ((throwsOpen_setPhase thrown).mpr ?_) fun _ _ _ _ => rfl
    rintro failure rfl
    cases unfailed
  | error failure =>
    refine ⟨sound.setPhase going trivial (.inr ⟨failure, rfl⟩), fun thrown => ?_⟩
    apply (throwsOpen_setPhase thrown).trans
    constructor
    · rintro unclaimed job action working ⟨report, present, same⟩
      have claimed := (sound.working id job action working).2
      exact absurd (same ▸ claimed) (unclaimed failure rfl report present)
    · intro passes _ _ report present claimed
      rcases (sound.claimed report.id id claimed).2 with ⟨job, action, working, same⟩ | ended
      · cases passes job action working ⟨report, present, same.symm⟩
      rw [going] at ended
      cases ended

/-- The same for the next statement of a call. -/
theorem follows_statement (sound : Sound queue) {before : ResolvePhase}
    (phase : queue.calls id = before) (going : before.isOver = false)
    (goesOn : GoesOn queue before result) (advanced : some (queue.goOn id result) = some next)
    (passes : ∀ job action, before.work = some (job, action) → (before.Passes queue ↔ result.isOk =
      true)) {cached : Option Mask} {now : DateTime} :
    Follows queue next (Event.Fits queue (.advance id cached now)) := by
  subst phase
  cases advanced
  obtain ⟨soundNext, exact⟩ := follows_goOn sound going goesOn
  refine ⟨soundNext, fun thrown => (exact thrown).trans ?_⟩
  constructor
  · intro ok job action working there
    exact (passes job action working).mpr (ok job action working there)
  · intro fits job action working there
    exact (passes job action working).mp (fits job action working there)

end Moves

end Bongtalk.Workspaces.Moderation
