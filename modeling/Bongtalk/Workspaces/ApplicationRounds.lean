import Bongtalk.Workspaces.Applications

/-!
# Rounds of applications

A user applies, is reviewed, leaves and applies again, any number of times. A closed application
is taken up again, except an approved one, which stays beside the rows of later rounds.
-/

namespace Bongtalk.Workspaces

open Library Common Prisma Shared ApplicationState Table

inductive ApplicationEvent where
  | submit (call : SubmitCall)
  | withdraw (call : WithdrawCall)
  | process (call : ProcessCall)
  /-- Members leave or join by other ways, bans, settings and the clock change. -/
  | elsewhere

/-- A request that succeeds, or a change of everything but the applications. A request that fails
changes nothing. -/
inductive ApplicationStep (toLowerCase : List Char → List Char) :
    ApplicationState → ApplicationEvent → ApplicationState → Prop where
  | submit {state call next} (submitted : submit toLowerCase state call = .ok next) :
      ApplicationStep toLowerCase state (.submit call) next
  | withdraw {state call next} (withdrawn : withdraw state call = .ok next) :
      ApplicationStep toLowerCase state (.withdraw call) next
  | process {state call next} (processed : process state call = .ok next) :
      ApplicationStep toLowerCase state (.process call) next
  | elsewhere {state} (entry : EntryState) :
      ApplicationStep toLowerCase state .elsewhere { state with toEntryState := entry }

/-- Of the applications of a user for a workspace, one at most is not approved. -/
def OneRound (state : ApplicationState) : Prop :=
  ∀ first ∈ state.applications.byId, ∀ second ∈ state.applications.byId,
    first.workspaceId = second.workspaceId → first.applicantId = second.applicantId →
      first.status ≠ .approved → second.status ≠ .approved → first = second

/-- The request is one that the checks before the transaction let through: the reviewer may review,
the application is open, and its applicant is not banned. -/
structure MayReview (state : ApplicationState) (call : ProcessCall)
    (app : WorkspaceMemberApplication) : Prop where
  live : state.isLive call.workspaceId = true
  reviewer : ∃ role, assertModerator (state.members.findUnique (call.workspaceId, call.actorId)) =
    .ok role ∧ assertReviewer role call.action = .ok ()
  found : state.findApplication call.workspaceId call.applicationId = some app
  reviewable : app.status.isReviewable = true
  notBanned : state.isBanned app.workspaceId app.applicantId = false

section Process

variable {state : ApplicationState} {call : ProcessCall} {app : WorkspaceMemberApplication}

/-- What a review that is let through does. -/
theorem process_of_mayReview (asked : MayReview state call app) :
    process state call =
      match call.action with
      | .approve => state.approve app call.actorId
      | .reject => state.reject app call.actorId call.reviewNote
      | .interview => call.interviewDm >>= state.interview app call.actorId := by
  obtain ⟨role, isModerator, isReviewer⟩ := asked.reviewer
  have found : assertReviewable (state.findApplication call.workspaceId call.applicationId) =
      .ok app :=
    assertReviewable_eq_ok.mpr ⟨asked.found, asked.reviewable⟩
  rw [process, asked.live, isModerator, found]
  cases action : call.action with
  | approve | reject | interview =>
    rw [action] at isReviewer
    simp only [Bool.not_true, failIf, Bool.false_eq_true, if_false, EntryState.assertNotBanned,
      asked.notBanned, isReviewer, ok_bind]

end Process

section Rounds

variable {toLowerCase : List Char → List Char} {state next : ApplicationState}

variable {app : WorkspaceMemberApplication}

/-- A write to an application that is not approved leaves one round. -/
theorem OneRound.write (oneRound : OneRound state) (appMem : app ∈ state.applications.byId)
    (notApproved : app.status ≠ .approved) {status : ApplicationStatus}
    {change : WorkspaceMemberApplication → WorkspaceMemberApplication}
    {keepsId : ∀ row, (change row).id = row.id}
    (written : state.writeApplication app.id status change keepsId = .ok next)
    (keepsWorkspace : ∀ row, (change row).workspaceId = row.workspaceId)
    (keepsApplicant : ∀ row, (change row).applicantId = row.applicantId) : OneRound next := by
  obtain ⟨-, -, rows⟩ := writeApplication_eq_ok written
  -- A row that is not approved now was not approved before.
  have before (row : WorkspaceMemberApplication) (rowMem : row ∈ next.applications.byId)
      (open_ : row.status ≠ .approved) :
      ∃ old ∈ state.applications.byId, old.status ≠ .approved ∧
        old.workspaceId = row.workspaceId ∧ old.applicantId = row.applicantId ∧
        (if old.id = app.id then { change old with status := status, updatedAt := state.now }
          else old) = row := by
    obtain ⟨old, oldMem, rfl⟩ := (rows row).mp rowMem
    refine ⟨old, oldMem, ?_, ?_, ?_, rfl⟩
    · by_cases changed : old.id = app.id
      · rwa [eq_of_key_eq oldMem appMem changed]
      · rwa [if_neg changed] at open_
    · split
      · exact (keepsWorkspace old).symm
      · rfl
    · split
      · exact (keepsApplicant old).symm
      · rfl
  intro first firstMem second secondMem sameWorkspace sameApplicant firstOpen secondOpen
  obtain ⟨oldFirst, oldFirstMem, oldFirstOpen, ofWorkspace, ofApplicant, rfl⟩ :=
    before first firstMem firstOpen
  obtain ⟨oldSecond, oldSecondMem, oldSecondOpen, ofWorkspace', ofApplicant', rfl⟩ :=
    before second secondMem secondOpen
  rw [oneRound oldFirst oldFirstMem oldSecond oldSecondMem
    (ofWorkspace.trans (sameWorkspace.trans ofWorkspace'.symm))
    (ofApplicant.trans (sameApplicant.trans ofApplicant'.symm)) oldFirstOpen oldSecondOpen]

variable {rows : List WorkspaceMemberApplication}

theorem mem_of_latest {row : WorkspaceMemberApplication} (found : latest rows = some row) :
    row ∈ rows := by
  induction rows with
  | nil => cases found
  | cons first rest ih =>
    rw [latest] at found
    split at found
    · exact List.mem_cons.mpr (.inl (Option.some.inj found).symm)
    next other inRest =>
      split at found
      · cases found
        exact List.mem_cons_of_mem _ (ih inRest)
      · exact List.mem_cons.mpr (.inl (Option.some.inj found).symm)

theorem latest_eq_none (none : latest rows = none) : rows = [] := by
  cases rows with
  | nil => rfl
  | cons first rest =>
    rw [latest] at none
    split at none
    · cases none
    split at none
    · cases none
    · cases none

/-- A user without an open and without a closed application has approved ones only. -/
theorem status_eq_approved {now : DateTime} {own : List WorkspaceMemberApplication} {result : Unit}
    (noneOpen : assertNoneOpen now own = .ok result) (noneClosed : reusable own = none)
    {row : WorkspaceMemberApplication} (rowMem : row ∈ own) : row.status = .approved := by
  obtain ⟨_, nonePending, noneOpen⟩ := bind_eq_ok.mp noneOpen
  obtain ⟨_, noneInterview, -⟩ := bind_eq_ok.mp noneOpen
  have notPending := List.any_eq_false.mp (failIf_eq_ok.mp nonePending) row rowMem
  have notInterview := List.any_eq_false.mp (failIf_eq_ok.mp noneInterview) row rowMem
  have notClosed := List.filter_eq_nil_iff.mp (latest_eq_none noneClosed) row rowMem
  revert notPending notInterview notClosed
  cases row.status with
  | approved => exact fun _ _ _ => rfl
  | pending | interview | rejected | withdrawn => simp

/-- A submission takes up a closed application, or finds none that is not approved. -/
theorem OneRound.submit (oneRound : OneRound state) {call : SubmitCall}
    (submitted : submit toLowerCase state call = .ok next) : OneRound next := by
  obtain ⟨user, -, submitted⟩ := bind_eq_ok.mp submitted
  obtain ⟨_, -, submitted⟩ := bind_eq_ok.mp submitted
  obtain ⟨_, -, submitted⟩ := bind_eq_ok.mp submitted
  obtain ⟨_, -, submitted⟩ := bind_eq_ok.mp submitted
  obtain ⟨_, -, submitted⟩ := bind_eq_ok.mp submitted
  obtain ⟨_, -, submitted⟩ := bind_eq_ok.mp submitted
  obtain ⟨_, -, submitted⟩ := bind_eq_ok.mp submitted
  obtain ⟨_, noneOpen, submitted⟩ := bind_eq_ok.mp submitted
  have written : state.writeSubmission call = .ok next := by
    split at submitted
    next after written => rw [written, Except.ok.inj submitted]
    · exact absurd submitted failWith_ne_ok
    · cases submitted
  rw [writeSubmission] at written
  split at written
  next row reused =>
    obtain ⟨own, closed⟩ := List.mem_filter.mp (mem_of_latest reused)
    have notApproved : row.status ≠ .approved := by
      intro approved
      rw [approved] at closed
      cases closed
    exact oneRound.write (mem_findMany.mp own).1 notApproved written (fun _ => rfl) fun _ => rfl
  next noneClosed =>
    obtain ⟨applications, created, same⟩ := bind_eq_ok.mp written
    cases same
    have isApproved (row : WorkspaceMemberApplication) (rowMem : row ∈ state.applications.byId)
        (ofWorkspace : row.workspaceId = call.workspaceId)
        (ofApplicant : row.applicantId = call.userId) : row.status = .approved := by
      refine status_eq_approved noneOpen noneClosed (mem_findMany.mpr ⟨rowMem, ?_⟩)
      simp [ofWorkspace, ofApplicant]
    intro first firstMem second secondMem sameWorkspace sameApplicant firstOpen secondOpen
    rcases (ApplicationTable.mem_create created).mp firstMem with rfl | firstOld
    · rcases (ApplicationTable.mem_create created).mp secondMem with rfl | secondOld
      · rfl
      · exact absurd (isApproved second secondOld sameWorkspace.symm sameApplicant.symm) secondOpen
    · rcases (ApplicationTable.mem_create created).mp secondMem with rfl | secondOld
      · exact absurd (isApproved first firstOld sameWorkspace sameApplicant) firstOpen
      exact oneRound first firstOld second secondOld sameWorkspace sameApplicant firstOpen
        secondOpen

theorem OneRound.process (oneRound : OneRound state) {call : ProcessCall}
    (processed : process state call = .ok next) : OneRound next := by
  obtain ⟨_, -, processed⟩ := bind_eq_ok.mp processed
  obtain ⟨_, -, processed⟩ := bind_eq_ok.mp processed
  obtain ⟨_, -, processed⟩ := bind_eq_ok.mp processed
  obtain ⟨app, found, processed⟩ := bind_eq_ok.mp processed
  obtain ⟨found, reviewable⟩ := assertReviewable_eq_ok.mp found
  have appMem := (mem_of_findUnique (findApplication_eq_some.mp found).1).1
  have notApproved := ApplicationStatus.ne_approved_of_isReviewable reviewable
  split at processed
  · obtain ⟨_, -, processed⟩ := bind_eq_ok.mp processed
    obtain ⟨updated, joined, written, -, rfl⟩ := approve_eq_ok.mp processed
    have oneRoundUpdated : OneRound updated :=
      oneRound.write appMem notApproved written (fun _ => rfl) fun _ => rfl
    exact oneRoundUpdated
  · exact oneRound.write appMem notApproved processed (fun _ => rfl) fun _ => rfl
  · obtain ⟨_, -, processed⟩ := bind_eq_ok.mp processed
    exact oneRound.write appMem notApproved processed (fun _ => rfl) fun _ => rfl

theorem OneRound.withdraw (oneRound : OneRound state) {call : WithdrawCall}
    (withdrawn : withdraw state call = .ok next) : OneRound next := by
  obtain ⟨_, -, withdrawn⟩ := bind_eq_ok.mp withdrawn
  obtain ⟨app, found, withdrawn⟩ := bind_eq_ok.mp withdrawn
  obtain ⟨found, pending⟩ := assertPending_eq_ok.mp found
  have found := (Option.filter_eq_some_iff.mp found).1
  have appMem := (mem_of_findUnique (findApplication_eq_some.mp found).1).1
  have notApproved : app.status ≠ .approved := by
    rw [pending]
    simp
  exact oneRound.write appMem notApproved withdrawn (fun _ => rfl) fun _ => rfl

/-- Along every history one application of a user at most is not approved. -/
theorem oneRound_of_steps {start finish : ApplicationState} {events : List ApplicationEvent}
    (oneRound : OneRound start)
    (steps : Steps (ApplicationStep toLowerCase) start events finish) : OneRound finish := by
  refine steps.preserves OneRound ?_ oneRound
  intro state event next step oneRoundNow
  cases step with
  | submit submitted => exact oneRoundNow.submit submitted
  | withdraw withdrawn => exact oneRoundNow.withdraw withdrawn
  | process processed => exact oneRoundNow.process processed
  | elsewhere entry => exact oneRoundNow

/-- A status is taken from an application by another one of the same user. -/
theorem statusTaken_iff (appMem : app ∈ state.applications.byId) {status : ApplicationStatus}
    (otherStatus : app.status ≠ status) :
    state.StatusTaken app.id status ↔
      ∃ row ∈ state.applications.byId, row.workspaceId = app.workspaceId ∧
        row.applicantId = app.applicantId ∧ row.status = status := by
  constructor
  · rintro ⟨row, rowMem, sameId, other, otherMem, -, sameKey⟩
    obtain rfl := eq_of_key_eq rowMem appMem sameId
    obtain ⟨ofWorkspace, rest⟩ := Prod.mk.inj sameKey
    obtain ⟨ofApplicant, ofStatus⟩ := Prod.mk.inj rest
    exact ⟨other, otherMem, ofWorkspace, ofApplicant, ofStatus⟩
  · rintro ⟨row, rowMem, ofWorkspace, ofApplicant, rfl⟩
    refine ⟨app, appMem, rfl, row, rowMem, fun sameId => ?_, ?_⟩
    · exact otherStatus (congrArg WorkspaceMemberApplication.status
        (eq_of_key_eq appMem rowMem sameId.symm))
    · rw [WorkspaceMemberApplication.statusKey, ofWorkspace, ofApplicant]

/-- An open application is the only one of its user that is not approved, so no other is
rejected. -/
theorem reject_succeeds (oneRound : OneRound state) (appMem : app ∈ state.applications.byId)
    (reviewable : app.status.isReviewable = true) (actorId : UserId)
    (reviewNote : Option (List Char)) :
    ∃ next, state.reject app actorId reviewNote = .ok next := by
  have notApproved := ApplicationStatus.ne_approved_of_isReviewable reviewable
  have notRejected : app.status ≠ .rejected := by
    intro rejected
    rw [rejected] at reviewable
    cases reviewable
  have free : ¬state.StatusTaken app.id .rejected := by
    rw [statusTaken_iff appMem notRejected]
    rintro ⟨row, rowMem, ofWorkspace, ofApplicant, rejected⟩
    have rowOpen : row.status ≠ .approved := by
      rw [rejected]
      simp
    obtain rfl := oneRound row rowMem app appMem ofWorkspace ofApplicant rowOpen notApproved
    exact notRejected rejected
  refine (exists_writeApplication_iff ?_ ?_).mpr ⟨⟨app, appMem, rfl⟩, free⟩
  · exact fun _ => rfl
  · exact fun _ => rfl

/-- An approval needs a user who is no member, without an approved application. -/
theorem approve_succeeds_iff (appMem : app ∈ state.applications.byId)
    (notApproved : app.status ≠ .approved) (actorId : UserId) :
    (∃ next, state.approve app actorId = .ok next) ↔
      state.isMember app.workspaceId app.applicantId = false ∧
        ∀ row ∈ state.applications.byId, row.workspaceId = app.workspaceId →
          row.applicantId = app.applicantId → row.status ≠ .approved := by
  have writes : (∃ updated, state.writeApplication app.id .approved
      (fun row => { row with reviewedById := some actorId }) (fun _ => rfl) = .ok updated) ↔ _ :=
    exists_writeApplication_iff (fun _ => rfl) fun _ => rfl
  rw [statusTaken_iff appMem notApproved, and_iff_right ⟨app, appMem, rfl⟩] at writes
  push Not at writes
  constructor
  · rintro ⟨next, approved⟩
    obtain ⟨updated, joined, written, created, -⟩ := approve_eq_ok.mp approved
    have outside := (EntryState.createMember_eq_ok created).1
    rw [toEntryState_writeApplication written] at outside
    exact ⟨outside, writes.mp ⟨updated, written⟩⟩
  · rintro ⟨outside, noneApproved⟩
    obtain ⟨updated, written⟩ := writes.mpr noneApproved
    cases created : updated.createMember app.workspaceId app.applicantId .member with
    | ok joined =>
      exact ⟨_, approve_eq_ok.mpr ⟨updated, joined, written, created, rfl⟩⟩
    | error failure =>
      have member := (EntryState.createMember_eq_error created).2
      rw [toEntryState_writeApplication written, outside] at member
      cases member

/-- In every history a rejection of an open application succeeds, and an approval succeeds exactly
when no earlier application of the user is approved and the user is no member. -/
theorem review_succeeds_iff {start finish : ApplicationState} {events : List ApplicationEvent}
    (oneRound : OneRound start)
    (steps : Steps (ApplicationStep toLowerCase) start events finish) {call : ProcessCall}
    {app : WorkspaceMemberApplication} (asked : MayReview finish call app)
    (notInterview : call.action ≠ .interview) :
    (∃ next, process finish call = .ok next) ↔
      (call.action = .approve →
        finish.isMember app.workspaceId app.applicantId = false ∧
          ∀ row ∈ finish.applications.byId, row.workspaceId = app.workspaceId →
            row.applicantId = app.applicantId → row.status ≠ .approved) := by
  have oneRoundNow := oneRound_of_steps oneRound steps
  have found := (findApplication_eq_some.mp asked.found).1
  have appMem := (mem_of_findUnique found).1
  rw [process_of_mayReview asked]
  cases action : call.action with
  | interview => exact absurd action notInterview
  | reject =>
    have succeeds := reject_succeeds oneRoundNow appMem asked.reviewable call.actorId
      call.reviewNote
    exact iff_of_true succeeds fun impossible => by cases impossible
  | approve =>
    have notApproved := ApplicationStatus.ne_approved_of_isReviewable asked.reviewable
    have succeeds := approve_succeeds_iff appMem notApproved call.actorId
    exact succeeds.trans ⟨fun free _ => free, fun free => free rfl⟩

end Rounds

/-- A workspace of user 1 that takes applications, for which user 2 has not applied yet. -/
def takesApplications : ApplicationState where
  workspaces := .single { id := ⟨1⟩, ownerId := ⟨1⟩ }
  members := .single ⟨⟨1⟩, ⟨1⟩, .owner⟩
  systemRole := fun workspaceId role =>
    { id := ⟨systemRolePosition role⟩, workspaceId := workspaceId, name := roleLiteral role
      position := systemRolePosition role, isSystem := true }
  policyOf := fun _ => { joinMode := .apply }
  users := .single { id := ⟨2⟩, email := [], emailVerified := true }
  now := 1
  applications := .empty

def applyAs (newId : ApplicationId) : SubmitCall :=
  ⟨⟨1⟩, ⟨2⟩, none, newId⟩

def approveAs (applicationId : ApplicationId) : ProcessCall :=
  ⟨⟨1⟩, applicationId, ⟨1⟩, .approve, none, .ok ⟨1⟩⟩

/-- The application of user 2 in a round. -/
def roundOf (id : ApplicationId) : WorkspaceMemberApplication :=
  { id := id, workspaceId := ⟨1⟩, applicantId := ⟨2⟩, updatedAt := 1 }

def firstRound : ApplicationState :=
  (submit id takesApplications (applyAs ⟨1⟩)).toOption.getD takesApplications

theorem oneRound_takesApplications : OneRound takesApplications := by
  intro row rowMem
  cases rowMem

theorem mayReview_firstRound : MayReview firstRound (approveAs ⟨1⟩) (roundOf ⟨1⟩) :=
  ⟨rfl, ⟨.owner, rfl, rfl⟩, rfl, rfl, rfl⟩

theorem firstRound_submitted :
    ApplicationStep id takesApplications (.submit (applyAs ⟨1⟩)) firstRound :=
  .submit rfl

/-- The first application of a user can be approved. -/
theorem first_approval_succeeds : ∃ next, process firstRound (approveAs ⟨1⟩) = .ok next := by
  have steps := Steps.refl.step firstRound_submitted
  refine (review_succeeds_iff oneRound_takesApplications steps mayReview_firstRound ?_).mpr ?_
  · exact fun impossible => by cases impossible
  · refine fun _ => ⟨rfl, fun row rowMem _ _ => ?_⟩
    obtain rfl : row = roundOf ⟨1⟩ := List.mem_singleton.mp rowMem
    simp [roundOf]

def firstApproved : ApplicationState :=
  (process firstRound (approveAs ⟨1⟩)).toOption.getD firstRound

/-- User 2 leaves the workspace. -/
def afterLeaving : ApplicationState :=
  { firstApproved with
    toMembershipState := firstApproved.toMembershipState.deleteMembers ⟨1⟩ [⟨2⟩] }

def secondRound : ApplicationState :=
  (submit id afterLeaving (applyAs ⟨2⟩)).toOption.getD afterLeaving

/-- A user who was approved once, has left and applies again can never be approved: the approved
row of the first round is in the way. -/
theorem second_approval_fails : OneRound takesApplications ∧
    (∃ events, Steps (ApplicationStep id) takesApplications events secondRound) ∧
      MayReview secondRound (approveAs ⟨2⟩) (roundOf ⟨2⟩) ∧
      process secondRound (approveAs ⟨2⟩) = .error .uniqueViolation := by
  have approved : ApplicationStep id firstRound (.process (approveAs ⟨1⟩)) firstApproved :=
    .process rfl
  have left : ApplicationStep id firstApproved .elsewhere afterLeaving := .elsewhere _
  have applied : ApplicationStep id afterLeaving (.submit (applyAs ⟨2⟩)) secondRound :=
    .submit rfl
  exact ⟨oneRound_takesApplications,
    ⟨_, (((Steps.refl.step firstRound_submitted).step approved).step left).step applied⟩,
    ⟨rfl, ⟨.owner, rfl, rfl⟩, rfl, rfl, rfl⟩, rfl⟩

end Bongtalk.Workspaces
