import Bongtalk.Workspaces.Entry

/-!
# Applications

The requests of an applicant and of the reviewers of a workspace that takes applications. The
status of an application is part of a unique key, and a statement that fails aborts its
transaction.
-/

namespace Bongtalk.Workspaces

open Library Common Prisma Shared Table

structure ApplicationId where
  value : Nat
deriving DecidableEq, Repr

inductive ApplicationStatus where
  | pending
  | approved
  | rejected
  | interview
  | withdrawn
deriving DecidableEq, Repr

namespace ApplicationStatus

def isReviewable (status : ApplicationStatus) : Bool :=
  status == .pending || status == .interview

/-- An application in such a status is closed. -/
def isTerminal (status : ApplicationStatus) : Bool :=
  !status.isReviewable

theorem ne_approved_of_isReviewable {status : ApplicationStatus}
    (reviewable : status.isReviewable = true) : status ≠ .approved := by
  rintro rfl
  cases reviewable

end ApplicationStatus

structure WorkspaceMemberApplication where
  id : ApplicationId
  workspaceId : WorkspaceId
  applicantId : UserId
  status : ApplicationStatus := .pending
  reviewedById : Option UserId := none
  reviewNote : Option (List Char) := none
  interviewChannelId : Option ChannelId := none
  applicantIpHash : Option String := none
  updatedAt : DateTime
deriving DecidableEq, Repr

open WorkspaceMemberApplication

namespace WorkspaceMemberApplication

/-- The columns of the unique key. -/
def statusKey (row : WorkspaceMemberApplication) : WorkspaceId × UserId × ApplicationStatus :=
  (row.workspaceId, row.applicantId, row.status)

end WorkspaceMemberApplication

/-- `@@unique([workspaceId, applicantId, status])` -/
structure ApplicationTable where
  byId : Table WorkspaceMemberApplication WorkspaceMemberApplication.id := .empty
  statusNodup : (byId.rows.map statusKey).Nodup := by
    exact List.nodup_nil

namespace ApplicationTable

def empty : ApplicationTable where

variable (table : ApplicationTable)

def create (row : WorkspaceMemberApplication) : Except Failure ApplicationTable :=
  match table.byId.insert? row with
  | none => .error .uniqueViolation
  | some byId =>
    if distinct : (byId.rows.map statusKey).Nodup then
      .ok ⟨byId, distinct⟩
    else .error .uniqueViolation

/-- An update of the row with an id, in columns other than the id. -/
def update (id : ApplicationId) (change : WorkspaceMemberApplication → WorkspaceMemberApplication)
    (keepsId : ∀ row, (change row).id = row.id) : Except Failure ApplicationTable :=
  if (table.byId.findUnique id).isNone then .error .recordNotFound
  else
    let byId := table.byId.update id change keepsId
    if distinct : (byId.rows.map statusKey).Nodup then
      .ok ⟨byId, distinct⟩
    else .error .uniqueViolation

/-- The applications of a user for a workspace. -/
def ofApplicant (workspaceId : WorkspaceId) (applicantId : UserId) :
    List WorkspaceMemberApplication :=
  table.byId.findMany fun row => row.workspaceId == workspaceId && row.applicantId == applicantId

theorem mem_create {table next : ApplicationTable} {row other : WorkspaceMemberApplication}
    (created : table.create row = .ok next) :
    other ∈ next.byId ↔ other = row ∨ other ∈ table.byId := by
  rw [create] at created
  split at created
  · cases created
  next byId inserted =>
    split at created
    · cases created
      exact mem_insert? inserted
    · cases created

section Update

variable {table next : ApplicationTable} {id : ApplicationId}
  {change : WorkspaceMemberApplication → WorkspaceMemberApplication}
  {keepsId : ∀ row, (change row).id = row.id}

theorem update_eq_ok (updated : table.update id change keepsId = .ok next) :
    (∃ row ∈ table.byId, row.id = id) ∧ next.byId = table.byId.update id change keepsId := by
  rw [update] at updated
  split at updated
  · cases updated
  next present =>
    dsimp only at updated
    split at updated
    · obtain ⟨row, found⟩ := Option.ne_none_iff_exists'.mp fun missing =>
        present (Option.isNone_iff_eq_none.mpr missing)
      exact ⟨⟨row, mem_of_findUnique found⟩, (congrArg byId (Except.ok.inj updated)).symm⟩
    · cases updated

/-- A row under another id has the unique key that the update would write. -/
def Refuses (table : ApplicationTable) (id : ApplicationId)
    (change : WorkspaceMemberApplication → WorkspaceMemberApplication) : Prop :=
  ∃ row ∈ table.byId, row.id = id ∧
    ∃ other ∈ table.byId, other.id ≠ id ∧ other.statusKey = (change row).statusKey

/-- An update of a row that is there succeeds exactly when no other row has its new key. -/
theorem exists_update_eq_ok_iff :
    (∃ next, table.update id change keepsId = .ok next) ↔
      (∃ row ∈ table.byId, row.id = id) ∧ ¬table.Refuses id change := by
  constructor
  · rintro ⟨next, updated⟩
    obtain ⟨present, byIdEq⟩ := update_eq_ok updated
    refine ⟨present, ?_⟩
    rintro ⟨row, rowMem, rfl, other, otherMem, different, sameKey⟩
    have rowAfter : change row ∈ next.byId := by
      rw [byIdEq]
      exact mem_update.mpr ⟨row, rowMem, if_pos rfl⟩
    have otherAfter : other ∈ next.byId := by
      rw [byIdEq]
      exact mem_update.mpr ⟨other, otherMem, if_neg different⟩
    have same := List.inj_on_of_nodup_map next.statusNodup otherAfter rowAfter sameKey
    exact different (same ▸ keepsId row)
  · rintro ⟨⟨row, rowMem, rfl⟩, allowed⟩
    have found : table.byId.findUnique row.id = some row := findUnique_of_mem rowMem
    have distinct : ((table.byId.update row.id change keepsId).rows.map statusKey).Nodup := by
      have rowsNodup := List.Nodup.of_map _ (table.byId.update row.id change keepsId).keysNodup
      refine rowsNodup.map_on fun first firstMem second secondMem sameKey => ?_
      obtain ⟨oldFirst, oldFirstMem, rfl⟩ := mem_update.mp firstMem
      obtain ⟨oldSecond, oldSecondMem, rfl⟩ := mem_update.mp secondMem
      by_cases firstChanged : oldFirst.id = row.id
      · obtain rfl := eq_of_key_eq oldFirstMem rowMem firstChanged
        by_cases secondChanged : oldSecond.id = oldFirst.id
        · rw [eq_of_key_eq oldSecondMem oldFirstMem secondChanged]
        rw [if_pos rfl, if_neg secondChanged] at sameKey
        exact absurd ⟨_, rowMem, rfl, _, oldSecondMem, secondChanged, sameKey.symm⟩ allowed
      · by_cases secondChanged : oldSecond.id = row.id
        · obtain rfl := eq_of_key_eq oldSecondMem rowMem secondChanged
          rw [if_neg firstChanged, if_pos rfl] at sameKey
          exact absurd ⟨_, rowMem, rfl, _, oldFirstMem, firstChanged, sameKey⟩ allowed
        · rw [if_neg firstChanged, if_neg secondChanged] at sameKey ⊢
          exact List.inj_on_of_nodup_map table.statusNodup oldFirstMem oldSecondMem sameKey
    refine ⟨⟨_, distinct⟩, ?_⟩
    rw [update, found, if_neg (by simp)]
    exact dif_pos distinct

end Update

end ApplicationTable

structure ApplicationState extends EntryState where
  applications : ApplicationTable := {}
  /-- Whether a ban row of the workspace carries the hash of the address. -/
  blockedIp : WorkspaceId → String → Bool := fun _ _ => false
  /-- The committed changes of a status, the latest first. -/
  statusLog : List (ApplicationId × ApplicationStatus) := []
  /-- The applications that a member row was created through. -/
  joinedThrough : List ApplicationId := []

inductive ProcessApplicationAction where
  | approve
  | reject
  | interview
deriving DecidableEq, Repr

/-- A review, with what the direct messages answer to the request for an interview channel. -/
structure ProcessCall where
  workspaceId : WorkspaceId
  applicationId : ApplicationId
  actorId : UserId
  action : ProcessApplicationAction
  reviewNote : Option (List Char) := none
  interviewDm : Except Failure ChannelId

structure WithdrawCall where
  workspaceId : WorkspaceId
  applicationId : ApplicationId
  userId : UserId
deriving DecidableEq, Repr

/-- An application, with the id that the database gives to a new row. -/
structure SubmitCall where
  workspaceId : WorkspaceId
  userId : UserId
  ipHash : Option String := none
  newId : ApplicationId
deriving DecidableEq, Repr

/-- `APPLICATION_REAPPLY_COOLDOWN_MS` -/
def applicationReapplyCooldownMs : Nat :=
  24 * 60 * 60 * 1000

def normalizeNote (note : Option (List Char)) : Option (List Char) :=
  (note.map trim).filter fun trimmed => !trimmed.isEmpty

section Checks

/-- `loadMember` and `assertModerator` of the controller. -/
def assertModerator : Option WorkspaceMember → Except Failure WorkspaceRole
  | none => failWith .workspaceNotMember "workspace not found"
  | some member =>
    if roleRank member.role < roleRank .moderator then
      failWith .applicationForbidden "MODERATOR role or higher required"
    else .ok member.role

def assertReviewer (actorRole : WorkspaceRole) : ProcessApplicationAction → Except Failure Unit
  | .reject => .ok ()
  | .approve | .interview =>
    if roleRank actorRole < roleRank .admin then
      failWith .applicationForbidden "approve/interview require ADMIN or higher"
    else .ok ()

def assertReviewable : Option WorkspaceMemberApplication →
    Except Failure WorkspaceMemberApplication
  | none => failWith .applicationNotFound "application not found"
  | some app =>
    if app.status.isReviewable then .ok app
    else failWith .applicationInvalidState "application is not in a reviewable state"

def assertPending : Option WorkspaceMemberApplication → Except Failure WorkspaceMemberApplication
  | none => failWith .applicationNotFound "application not found"
  | some app =>
    if app.status = .pending then .ok app
    else failWith .applicationInvalidState "only a pending application can be withdrawn"

/-- What `submit` checks of the earlier applications of the user. -/
def assertNoneOpen (now : DateTime) (own : List WorkspaceMemberApplication) :
    Except Failure Unit := do
  failIf (own.any (·.status == .pending)) .applicationPendingExists
    "you already have a pending application"
  failIf (own.any (·.status == .interview)) .applicationPendingExists
    "your application is under interview review"
  let cooling := (own.find? (·.status == .rejected)).any fun rejected =>
    now - rejected.updatedAt < applicationReapplyCooldownMs
  failIf cooling .applicationCooldown "you can re-apply 24 hours after a rejection"

variable {found : Option WorkspaceMemberApplication}

theorem assertReviewable_eq_ok {app : WorkspaceMemberApplication} :
    assertReviewable found = .ok app ↔ found = some app ∧ app.status.isReviewable = true := by
  cases found with
  | none => simp [assertReviewable, failWith_ne_ok]
  | some row =>
    rw [assertReviewable]
    split
    next reviewable =>
      constructor
      · intro same
        cases same
        exact ⟨rfl, reviewable⟩
      · rintro ⟨same, -⟩
        rw [Option.some.inj same]
    next closed =>
      apply iff_of_false failWith_ne_ok
      rintro ⟨same, reviewable⟩
      cases same
      exact closed reviewable

theorem assertPending_eq_ok {app : WorkspaceMemberApplication} :
    assertPending found = .ok app ↔ found = some app ∧ app.status = .pending := by
  cases found with
  | none => simp [assertPending, failWith_ne_ok]
  | some row =>
    rw [assertPending]
    split
    next pending =>
      constructor
      · intro same
        cases same
        exact ⟨rfl, pending⟩
      · rintro ⟨same, -⟩
        rw [Option.some.inj same]
    next closed =>
      apply iff_of_false failWith_ne_ok
      rintro ⟨same, pending⟩
      cases same
      exact closed pending

/-- The first row by `updatedAt`, the latest first. -/
def latest : List WorkspaceMemberApplication → Option WorkspaceMemberApplication
  | [] => none
  | row :: rest =>
    match latest rest with
    | none => some row
    | some other => if row.updatedAt < other.updatedAt then some other else some row

/-- The closed application that a new one takes the row of. -/
def reusable (own : List WorkspaceMemberApplication) : Option WorkspaceMemberApplication :=
  latest (own.filter fun row => row.status == .withdrawn || row.status == .rejected)

end Checks

namespace ApplicationState

variable (state : ApplicationState)

/-- An update of an application by its id. -/
def writeApplication (id : ApplicationId) (status : ApplicationStatus)
    (change : WorkspaceMemberApplication → WorkspaceMemberApplication)
    (keepsId : ∀ row, (change row).id = row.id) : Except Failure ApplicationState := do
  let applications ← state.applications.update id
    (fun row => { change row with status := status, updatedAt := state.now }) keepsId
  .ok { state with applications := applications, statusLog := (id, status) :: state.statusLog }

def findApplication (workspaceId : WorkspaceId) (applicationId : ApplicationId) :
    Option WorkspaceMemberApplication :=
  (state.applications.byId.findUnique applicationId).filter fun app =>
    app.workspaceId == workspaceId

/-- The statements of the approval after the ban check. The insert of a member who is there already
is caught, but it has aborted the transaction. -/
def approve (app : WorkspaceMemberApplication) (actorId : UserId) :
    Except Failure ApplicationState := do
  let updated ← state.writeApplication app.id .approved
    (fun row => { row with reviewedById := some actorId }) fun _ => rfl
  match updated.createMember app.workspaceId app.applicantId .member with
  | .error _ => .error .transactionAborted
  | .ok joined =>
    .ok { updated with
      toEntryState := joined
      joinedThrough := app.id :: updated.joinedThrough }

def reject (app : WorkspaceMemberApplication) (actorId : UserId)
    (reviewNote : Option (List Char)) : Except Failure ApplicationState :=
  state.writeApplication app.id .rejected
    (fun row => { row with reviewedById := some actorId, reviewNote := normalizeNote reviewNote })
    fun _ => rfl

def interview (app : WorkspaceMemberApplication) (actorId : UserId) (channelId : ChannelId) :
    Except Failure ApplicationState :=
  state.writeApplication app.id .interview
    (fun row => { row with reviewedById := some actorId, interviewChannelId := some channelId })
    fun _ => rfl

def markWithdrawn (app : WorkspaceMemberApplication) : Except Failure ApplicationState :=
  state.writeApplication app.id .withdrawn id fun _ => rfl

/-- The transaction of `submit`: reuse a closed application, or create one. -/
def writeSubmission (call : SubmitCall) : Except Failure ApplicationState :=
  match reusable (state.applications.ofApplicant call.workspaceId call.userId) with
  | some row =>
    state.writeApplication row.id .pending
      (fun row => { row with
        reviewedById := none
        reviewNote := none
        interviewChannelId := none
        applicantIpHash := call.ipHash })
      fun _ => rfl
  | none => do
    let applications ← state.applications.create
      { id := call.newId, workspaceId := call.workspaceId, applicantId := call.userId,
        applicantIpHash := call.ipHash, updatedAt := state.now }
    .ok { state with applications := applications }

section Writes

variable {state next : ApplicationState}

variable {id : ApplicationId}

theorem findApplication_eq_some {workspaceId : WorkspaceId} {app : WorkspaceMemberApplication} :
    state.findApplication workspaceId id = some app ↔
      state.applications.byId.findUnique id = some app ∧ app.workspaceId = workspaceId := by
  rw [findApplication, Option.filter_eq_some_iff, beq_iff_eq]

variable {status : ApplicationStatus} {change : WorkspaceMemberApplication →
  WorkspaceMemberApplication} {keepsId : ∀ row, (change row).id = row.id}

/-- An update of an application leaves the rest of the state as it is. -/
theorem toEntryState_writeApplication
    (written : state.writeApplication id status change keepsId = .ok next) :
    next.toEntryState = state.toEntryState := by
  obtain ⟨applications, -, same⟩ := bind_eq_ok.mp written
  rw [← Except.ok.inj same]

theorem toEntryState_getD_writeApplication (state : ApplicationState) :
    ((state.writeApplication id status change keepsId).toOption.getD state).toEntryState =
      state.toEntryState := by
  cases written : state.writeApplication id status change keepsId with
  | error failure => rfl
  | ok next => exact toEntryState_writeApplication written

theorem writeApplication_eq_ok
    (written : state.writeApplication id status change keepsId = .ok next) :
    next.statusLog = (id, status) :: state.statusLog ∧
      next.joinedThrough = state.joinedThrough ∧
      ∀ row, row ∈ next.applications.byId ↔ ∃ old ∈ state.applications.byId,
        (if old.id = id then { change old with status := status, updatedAt := state.now }
          else old) = row := by
  obtain ⟨applications, updated, same⟩ := bind_eq_ok.mp written
  cases same
  refine ⟨rfl, rfl, fun row => ?_⟩
  rw [(ApplicationTable.update_eq_ok updated).2]
  exact mem_update

/-- Another application of the same user for the workspace has the status. -/
def StatusTaken (state : ApplicationState) (id : ApplicationId) (status : ApplicationStatus) :
    Prop :=
  ∃ row ∈ state.applications.byId, row.id = id ∧ ∃ other ∈ state.applications.byId,
    other.id ≠ id ∧ other.statusKey = (row.workspaceId, row.applicantId, status)

/-- A status is written unless another application has it. -/
theorem exists_writeApplication_iff
    (keepsWorkspace : ∀ row, (change row).workspaceId = row.workspaceId)
    (keepsApplicant : ∀ row, (change row).applicantId = row.applicantId) :
    (∃ next, state.writeApplication id status change keepsId = .ok next) ↔
      (∃ row ∈ state.applications.byId, row.id = id) ∧ ¬state.StatusTaken id status := by
  have taken : state.StatusTaken id status ↔ state.applications.Refuses id
      (fun row => { change row with status := status, updatedAt := state.now }) := by
    simp only [StatusTaken, ApplicationTable.Refuses, statusKey, keepsWorkspace, keepsApplicant]
  rw [taken]
  refine Iff.trans (b := ∃ next, state.applications.update id
    (fun row => { change row with status := status, updatedAt := state.now }) keepsId = .ok next)
    ?_ ApplicationTable.exists_update_eq_ok_iff
  constructor
  · rintro ⟨next, written⟩
    obtain ⟨applications, updated, -⟩ := bind_eq_ok.mp written
    exact ⟨applications, updated⟩
  · rintro ⟨applications, updated⟩
    exact ⟨_, bind_eq_ok.mpr ⟨applications, updated, rfl⟩⟩

theorem not_statusTaken_of_write
    (written : state.writeApplication id status change keepsId = .ok next)
    (keepsWorkspace : ∀ row, (change row).workspaceId = row.workspaceId)
    (keepsApplicant : ∀ row, (change row).applicantId = row.applicantId) :
    (∃ row ∈ state.applications.byId, row.id = id) ∧ ¬state.StatusTaken id status :=
  (exists_writeApplication_iff keepsWorkspace keepsApplicant).mp ⟨next, written⟩

theorem refused_of_write {failure : Failure}
    (written : state.writeApplication id status change keepsId = .error failure)
    (keepsWorkspace : ∀ row, (change row).workspaceId = row.workspaceId)
    (keepsApplicant : ∀ row, (change row).applicantId = row.applicantId) :
    (∀ row ∈ state.applications.byId, row.id ≠ id) ∨ state.StatusTaken id status := by
  have notWritten : ¬∃ next, state.writeApplication id status change keepsId = .ok next := by
    rintro ⟨next, succeeded⟩
    rw [written] at succeeded
    cases succeeded
  rw [exists_writeApplication_iff keepsWorkspace keepsApplicant, not_and_not_right] at notWritten
  refine or_iff_not_imp_left.mpr fun present => notWritten ?_
  push Not at present
  exact present

/-- An approval that commits writes the status and creates the member. -/
theorem approve_eq_ok {app : WorkspaceMemberApplication} {actorId : UserId} :
    state.approve app actorId = .ok next ↔
      ∃ updated joined,
        state.writeApplication app.id .approved
          (fun row => { row with reviewedById := some actorId }) (fun _ => rfl) = .ok updated ∧
        updated.createMember app.workspaceId app.applicantId .member = .ok joined ∧
        next = { updated with
          toEntryState := joined
          joinedThrough := app.id :: updated.joinedThrough } := by
  rw [approve, bind_eq_ok]
  refine exists_congr fun updated => ?_
  cases created : updated.createMember app.workspaceId app.applicantId .member with
  | error failure => simp
  | ok joined => simp [eq_comm]

end Writes

end ApplicationState

section Requests

variable (toLowerCase : List Char → List Char) (state : ApplicationState)

/-- `submit` -/
def submit (call : SubmitCall) : Except Failure ApplicationState := do
  let user ← state.authenticate call.userId
  failIf (!state.isLive call.workspaceId) .workspaceNotFound "workspace not found"
  failIf ((state.policyOf call.workspaceId).joinMode != .apply) .applicationNotApplicable
    "this workspace does not accept applications"
  failIf (state.isMember call.workspaceId call.userId) .workspaceAlreadyMember "already a member"
  state.assertNotBanned call.workspaceId call.userId .workspaceNotFound "workspace not found"
  assertWorkspaceEntryAllowed toLowerCase user (state.policyOf call.workspaceId).emailDomains
  failIf (call.ipHash.any (state.blockedIp call.workspaceId)) .applicationNotApplicable
    "this workspace does not accept applications"
  assertNoneOpen state.now (state.applications.ofApplicant call.workspaceId call.userId)
  match state.writeSubmission call with
  | .ok submitted => .ok submitted
  | .error .uniqueViolation =>
    failWith .applicationPendingExists "you already have a pending application"
  | .error failure => .error failure

/-- `process`, behind the checks of the controller. -/
def process (call : ProcessCall) : Except Failure ApplicationState := do
  failIf (!state.isLive call.workspaceId) .workspaceNotFound "workspace not found"
  let actorRole ← assertModerator (state.members.findUnique (call.workspaceId, call.actorId))
  assertReviewer actorRole call.action
  let app ← assertReviewable (state.findApplication call.workspaceId call.applicationId)
  match call.action with
  | .approve =>
    state.assertNotBanned app.workspaceId app.applicantId .workspaceNotFound "workspace not found"
    state.approve app call.actorId
  | .reject => state.reject app call.actorId call.reviewNote
  | .interview =>
    let channelId ← call.interviewDm
    state.interview app call.actorId channelId

/-- `withdraw`, behind the checks of the controller. -/
def withdraw (call : WithdrawCall) : Except Failure ApplicationState := do
  failIf (!state.isLive call.workspaceId) .workspaceNotFound "workspace not found"
  let app ← assertPending ((state.findApplication call.workspaceId call.applicationId).filter
    fun app => app.applicantId == call.userId)
  state.markWithdrawn app

end Requests

end Bongtalk.Workspaces
