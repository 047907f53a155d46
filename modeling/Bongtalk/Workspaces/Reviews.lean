import Bongtalk.Workspaces.Applications

/-!
# Reviews, statement by statement

A review reads the status of the application before its transaction, which writes by the id alone.
The requests of several reviewers and of the applicant interleave at every statement.
-/

namespace Bongtalk.Workspaces

open Library Library.EventLoop Common Prisma Shared ApplicationState

/-- A review or a withdrawal, named by its next statement. -/
inductive ReviewTask where
  | findWorkspace (call : ProcessCall)
  | findReviewer (call : ProcessCall)
  | findApplication (call : ProcessCall)
  /-- The first statement of the transaction of an approval. -/
  | findBan (app : WorkspaceMemberApplication) (actorId : UserId)
  | approve (app : WorkspaceMemberApplication) (actorId : UserId)
  | reject (app : WorkspaceMemberApplication) (actorId : UserId) (reviewNote : Option (List Char))
  | createDm (app : WorkspaceMemberApplication) (actorId : UserId)
      (interviewDm : Except Failure ChannelId)
  | interview (app : WorkspaceMemberApplication) (actorId : UserId) (channelId : ChannelId)
  | findWithdrawnWorkspace (call : WithdrawCall)
  | findOwnApplication (call : WithdrawCall)
  | withdraw (app : WorkspaceMemberApplication)

namespace ApplicationState

variable (state : ApplicationState)

def proceed {Task : Type} (next : Except Failure Task) : ApplicationState × List Task :=
  (state, next.toOption.toList)

/-- A transaction that fails writes nothing. -/
def committed {Task : Type} (written : Except Failure ApplicationState) :
    ApplicationState × List Task :=
  (written.toOption.getD state, [])

end ApplicationState

/-- The statement that an application which can be reviewed leads to. -/
def ProcessCall.begin (call : ProcessCall) (app : WorkspaceMemberApplication) : ReviewTask :=
  match call.action with
  | .approve => .findBan app call.actorId
  | .reject => .reject app call.actorId call.reviewNote
  | .interview => .createDm app call.actorId call.interviewDm

def ReviewTask.resume (state : ApplicationState) :
    ReviewTask → ApplicationState × List ReviewTask
  | .findWorkspace call =>
    state.proceed do
      failIf (!state.isLive call.workspaceId) .workspaceNotFound "workspace not found"
      .ok (.findReviewer call)
  | .findReviewer call =>
    state.proceed do
      let actorRole ← assertModerator (state.members.findUnique (call.workspaceId, call.actorId))
      assertReviewer actorRole call.action
      .ok (.findApplication call)
  | .findApplication call =>
    state.proceed do
      let app ← assertReviewable (state.findApplication call.workspaceId call.applicationId)
      .ok (call.begin app)
  | .findBan app actorId =>
    state.proceed do
      state.assertNotBanned app.workspaceId app.applicantId .workspaceNotFound "workspace not found"
      .ok (.approve app actorId)
  | .approve app actorId => state.committed (state.approve app actorId)
  | .reject app actorId reviewNote => state.committed (state.reject app actorId reviewNote)
  | .createDm app actorId interviewDm =>
    state.proceed do
      let channelId ← interviewDm
      .ok (.interview app actorId channelId)
  | .interview app actorId channelId => state.committed (state.interview app actorId channelId)
  | .findWithdrawnWorkspace call =>
    state.proceed do
      failIf (!state.isLive call.workspaceId) .workspaceNotFound "workspace not found"
      .ok (.findOwnApplication call)
  | .findOwnApplication call =>
    state.proceed do
      let app ← assertPending
        ((state.findApplication call.workspaceId call.applicationId).filter
          fun app => app.applicantId == call.userId)
      .ok (.withdraw app)
  | .withdraw app => state.committed (state.markWithdrawn app)

/-- What reaches the server: reviews, withdrawals, and what does not touch the applications. -/
inductive ReviewInput where
  | process (call : ProcessCall)
  | withdraw (call : WithdrawCall)
  | elsewhere

def reviewLoop : EventLoop ApplicationState ReviewTask ReviewInput where
  resume state task := task.resume state
  Accepts state input next spawned :=
    match input with
    | .process call => next = state ∧ spawned = [.findWorkspace call]
    | .withdraw call => next = state ∧ spawned = [.findWithdrawnWorkspace call]
    | .elsewhere =>
      (∃ entry : EntryState, next = { state with toEntryState := entry }) ∧ spawned = []

/-- How often an application has come to a closed status. -/
def closings (state : ApplicationState) (id : ApplicationId) : Nat :=
  state.statusLog.countP fun entry => entry.1 == id && entry.2.isTerminal

/-- Each application has been closed once at most, not at all while it is open, and has made a
member exactly when it is approved. -/
structure Settled (state : ApplicationState) : Prop where
  once : ∀ id, closings state id ≤ 1
  isOpen : ∀ row ∈ state.applications.byId, row.status.isReviewable = true →
    closings state row.id = 0
  joined : ∀ row ∈ state.applications.byId, row.id ∈ state.joinedThrough ↔ row.status = .approved

section Writes

variable {state next : ApplicationState} {id : ApplicationId} {status : ApplicationStatus}

/-- The application is still open when its status is written, or the database refuses the status
because another application of the user has it. -/
def WritesInTime (state : ApplicationState) (id : ApplicationId) (status : ApplicationStatus) :
    Prop :=
  state.StatusTaken id status ∨
    ∀ row ∈ state.applications.byId, row.id = id → row.status.isReviewable = true

/-- No write of a review has been overtaken by another one that closed the application. An approval
of a user who is a member already writes nothing. -/
def Timely (state : ApplicationState) : ReviewTask → Prop
  | .approve app _ =>
    state.isMember app.workspaceId app.applicantId = true ∨ WritesInTime state app.id .approved
  | .reject app _ _ => WritesInTime state app.id .rejected
  | .interview app _ _ => WritesInTime state app.id .interview
  | .withdraw app => WritesInTime state app.id .withdrawn
  | _ => True

theorem closings_of_log (log : next.statusLog = (id, status) :: state.statusLog)
    (other : ApplicationId) :
    closings next other =
      closings state other + if id = other ∧ status.isTerminal = true then 1 else 0 := by
  simp only [closings, log, List.countP_cons, Bool.and_eq_true, beq_iff_eq]

variable {change : WorkspaceMemberApplication → WorkspaceMemberApplication}

/-- A write to an open application keeps the account, when it makes a member by an approval only. -/
theorem Settled.write (settled : Settled state) {row : WorkspaceMemberApplication}
    (rowMem : row ∈ state.applications.byId) (reviewable : row.status.isReviewable = true)
    (log : next.statusLog = (row.id, status) :: state.statusLog)
    (rows : ∀ other, other ∈ next.applications.byId ↔ ∃ old ∈ state.applications.byId, (if old.id =
      row.id then { change old with status := status, updatedAt := state.now } else old) = other)
    (keepsId : ∀ row, (change row).id = row.id)
    (joins : ∀ other, other ∈ next.joinedThrough ↔ (other = row.id ∧ status = .approved) ∨ other ∈
      state.joinedThrough) : Settled next := by
  have isClosed := settled.isOpen row rowMem reviewable
  constructor
  · intro other
    rw [closings_of_log log]
    have once := settled.once other
    split
    next written =>
      rw [← written.1, isClosed]
    next => omega
  · intro other otherMem stillOpen
    obtain ⟨old, oldMem, rfl⟩ := (rows other).mp otherMem
    rw [closings_of_log log]
    by_cases written : old.id = row.id
    · rw [if_pos written] at stillOpen ⊢
      have notTerminal : status.isTerminal = false := by
        rw [ApplicationStatus.isTerminal, stillOpen]
        rfl
      rw [keepsId old, written, isClosed, notTerminal]
      simp
    · rw [if_neg written] at stillOpen ⊢
      rw [settled.isOpen old oldMem stillOpen, if_neg fun same => written same.1.symm]
  · intro other otherMem
    obtain ⟨old, oldMem, rfl⟩ := (rows other).mp otherMem
    rw [joins]
    by_cases written : old.id = row.id
    · rw [if_pos written, keepsId old]
      have same := Table.eq_of_key_eq oldMem rowMem written
      have notApproved : old.status ≠ .approved :=
        same ▸ ApplicationStatus.ne_approved_of_isReviewable reviewable
      rw [settled.joined old oldMem, or_iff_left notApproved, and_iff_right written]
    · rw [if_neg written, settled.joined old oldMem]
      exact or_iff_right fun same => written same.1

/-- What the writes of a review have in common. -/
theorem Settled.writeApplication (settled : Settled state)
    {keepsId : ∀ row, (change row).id = row.id}
    (keepsWorkspace : ∀ row, (change row).workspaceId = row.workspaceId)
    (keepsApplicant : ∀ row, (change row).applicantId = row.applicantId)
    (inTime : WritesInTime state id status) (noMember : status ≠ .approved) :
    Settled ((state.writeApplication id status change keepsId).toOption.getD state) := by
  cases written : state.writeApplication id status change keepsId with
  | error failure => exact settled
  | ok next =>
    obtain ⟨⟨row, rowMem, rfl⟩, free⟩ :=
      not_statusTaken_of_write written keepsWorkspace keepsApplicant
    obtain ⟨log, joined, rows⟩ := writeApplication_eq_ok written
    have reviewable := inTime.resolve_left free row rowMem rfl
    refine settled.write rowMem reviewable log rows keepsId fun other => ?_
    rw [Except.toOption, Option.getD_some, joined]
    exact (or_iff_right fun impossible => noMember impossible.2).symm

theorem Settled.approve (settled : Settled state) {app : WorkspaceMemberApplication}
    {actorId : UserId}
    (inTime : state.isMember app.workspaceId app.applicantId = true ∨
      WritesInTime state app.id .approved) :
    Settled ((state.approve app actorId).toOption.getD state) := by
  cases approved : state.approve app actorId with
  | error failure => exact settled
  | ok next =>
    obtain ⟨updated, joined, written, created, rfl⟩ :=
      approve_eq_ok.mp approved
    have same := toEntryState_writeApplication written
    have outside := (EntryState.createMember_eq_ok created).1
    rw [same] at outside
    have inTime : WritesInTime state app.id .approved := by
      refine inTime.resolve_left fun member => ?_
      rw [outside] at member
      cases member
    obtain ⟨⟨row, rowMem, sameId⟩, free⟩ :=
      not_statusTaken_of_write written (fun _ => rfl) fun _ => rfl
    obtain ⟨log, through, rows⟩ := writeApplication_eq_ok written
    have reviewable := inTime.resolve_left free row rowMem sameId
    rw [← sameId] at log rows
    refine settled.write rowMem reviewable log rows (fun _ => rfl) fun other => ?_
    rw [Except.toOption, Option.getD_some, List.mem_cons, through, sameId]
    simp

/-- A step whose write is in time keeps the account. -/
theorem Settled.resume (settled : Settled state) {task : ReviewTask} (timely : Timely state task) :
    Settled (task.resume state).1 := by
  cases task with
  | approve app actorId => exact settled.approve timely
  | reject app actorId reviewNote | interview app actorId channelId | withdraw app =>
    exact settled.writeApplication (fun _ => rfl) (fun _ => rfl) timely (by simp)
  | findWorkspace | findReviewer | findApplication | findBan | createDm | findWithdrawnWorkspace
  | findOwnApplication => exact settled

/-- In a run whose writes are all in time, each application is closed once at most, and it has made
a member exactly when it is approved. -/
theorem application_closes_once {start : ApplicationState} (settled : Settled start)
    {labels : List (Label ReviewTask ReviewInput)} {finish : State ApplicationState ReviewTask}
    (steps : Steps (Guarded (Step reviewLoop) (OnResume Timely)) ⟨start, []⟩ labels finish) :
    (∀ id, closings finish.shared id ≤ 1) ∧
      ∀ app ∈ finish.shared.applications.byId,
        app.id ∈ finish.shared.joinedThrough ↔ app.status = .approved := by
  suffices run : Settled finish.shared from ⟨run.once, run.joined⟩
  refine steps.preserves (fun state => Settled state.shared) ?_ settled
  rintro state label next ⟨transition, timely⟩ settledNow
  cases transition with
  | resume before task after => exact settledNow.resume timely
  | @accept _ _ input _ _ accepted =>
    cases input with
    | process call | withdraw call =>
      obtain ⟨rfl, -⟩ := accepted
      exact settledNow
    | elsewhere =>
      obtain ⟨⟨entry, rfl⟩, -⟩ := accepted
      exact ⟨settledNow.once, settledNow.isOpen, settledNow.joined⟩

end Writes

/-- The pending application of user 2 for a workspace of user 1. -/
def appliedFor : WorkspaceMemberApplication :=
  { id := ⟨1⟩, workspaceId := ⟨1⟩, applicantId := ⟨2⟩, updatedAt := 0 }

def underReview : ApplicationState where
  workspaces := .single { id := ⟨1⟩, ownerId := ⟨1⟩ }
  members := .single ⟨⟨1⟩, ⟨1⟩, .owner⟩
  systemRole := fun workspaceId role =>
    { id := ⟨systemRolePosition role⟩, workspaceId := workspaceId, name := roleLiteral role
      position := systemRolePosition role, isSystem := true }
  applications :=
    { byId := { rows := [appliedFor], keysNodup := List.nodup_singleton _ }
      statusNodup := List.nodup_singleton _ }
  now := 1

theorem settled_underReview : Settled underReview := by
  refine ⟨fun id => Nat.zero_le 1, fun row _ _ => rfl, fun row rowMem => ?_⟩
  obtain rfl : row = appliedFor := List.mem_singleton.mp rowMem
  simp [underReview, appliedFor]

def approveFirst : ProcessCall :=
  ⟨⟨1⟩, ⟨1⟩, ⟨1⟩, .approve, none, .ok ⟨1⟩⟩

def rejectFirst : ProcessCall :=
  ⟨⟨1⟩, ⟨1⟩, ⟨1⟩, .reject, none, .ok ⟨1⟩⟩

/-- An approval that nothing overtakes. -/
theorem approval_closes_once : ∃ labels finish,
    Steps (Guarded (Step reviewLoop) (OnResume Timely)) ⟨underReview, []⟩ labels finish ∧
      finish.shared.joinedThrough = [⟨1⟩] ∧ ∀ id, closings finish.shared id ≤ 1 := by
  have accepted : Guarded (Step reviewLoop) (OnResume Timely) ⟨underReview, []⟩
      (.accept (.process approveFirst)) ⟨underReview, [.findWorkspace approveFirst]⟩ :=
    ⟨.accept ⟨rfl, rfl⟩, trivial⟩
  have inTime : Timely underReview (.approve appliedFor ⟨1⟩) :=
    .inr (.inr (List.forall_mem_singleton.mpr fun _ => rfl))
  obtain ⟨labels, steps⟩ := exists_guarded_runFirst 5 (Steps.refl.step accepted)
    ⟨trivial, trivial, trivial, trivial, inTime, trivial⟩
  exact ⟨labels, _, steps, by rfl, (application_closes_once settled_underReview steps).1⟩

/-- An approval and a rejection both see the application open. Both are written, and the
application that made a member ends as rejected. -/
theorem approved_then_rejected : Settled underReview ∧ ∃ labels finish,
    Steps (Step reviewLoop) ⟨underReview, []⟩ labels finish ∧
      closings finish.shared ⟨1⟩ = 2 ∧ finish.shared.joinedThrough = [⟨1⟩] ∧
      finish.shared.isMember ⟨1⟩ ⟨2⟩ = true ∧
      finish.shared.applications.byId.rows.map (·.status) = [.rejected] := by
  obtain ⟨labels, steps⟩ := reviewLoop.exists_steps_played
    (fun
      | state, .process call => (state, [.findWorkspace call])
      | state, .withdraw call => (state, [.findWithdrawnWorkspace call])
      | state, .elsewhere => (state, []))
    (fun _ _ => true) ⟨underReview, []⟩
    (fun
      | _, .process _, _ | _, .withdraw _, _ => ⟨rfl, rfl⟩
      | state, .elsewhere, _ => ⟨⟨state.shared.toEntryState, rfl⟩, rfl⟩)
    .refl
    [.accept (.process approveFirst), .run 0, .run 0, .run 0, .run 0,
      .accept (.process rejectFirst), .run 1, .run 1, .run 1, .run 0, .run 0] rfl
  exact ⟨settled_underReview, labels, _, steps, by rfl, by rfl, by rfl, by rfl⟩

end Bongtalk.Workspaces
