import Bongtalk.Shared.Text
import Bongtalk.Workspaces.Membership

/-!
# Entry into a workspace

The rows that decide who may join a workspace, and the requests by which a user joins one without
a reviewer: the code of an invite, a public workspace, an invite by email. The soft block of an
address refuses none of the three, so these requests are modelled without the address.
-/

namespace Bongtalk.Workspaces

open Library Common Prisma Shared

structure InviteId where
  value : Nat
deriving DecidableEq, Repr

structure PendingInviteId where
  value : Nat
deriving DecidableEq, Repr

inductive WorkspaceVisibility where
  | isPublic
  | isPrivate
deriving DecidableEq, Repr

inductive WorkspaceJoinMode where
  | isPrivate
  | isPublic
  | apply
deriving DecidableEq, Repr

/-- The columns of a workspace that entry depends on. -/
structure EntryPolicy where
  visibility : WorkspaceVisibility := .isPrivate
  joinMode : WorkspaceJoinMode := .isPrivate
  emailDomains : List (List Char) := []
deriving DecidableEq, Repr

structure User where
  id : UserId
  email : List Char
  emailVerified : Bool := false
deriving DecidableEq, Repr

structure Invite where
  id : InviteId
  workspaceId : WorkspaceId
  code : String
  createdById : UserId
  expiresAt : Option DateTime := none
  maxUses : Option Nat := none
  usedCount : Nat := 0
  revokedAt : Option DateTime := none
deriving DecidableEq, Repr

/-- Invites have two unique keys. -/
structure InviteTable where
  byCode : Table Invite Invite.code := .empty
  idsNodup : (byCode.rows.map Invite.id).Nodup := by exact List.nodup_nil

namespace InviteTable

def single (invite : Invite) : InviteTable where
  byCode := .single invite
  idsNodup := List.nodup_singleton _

/-- Change the invites in columns that are no keys. -/
def rewrite (invites : InviteTable) (change : Invite → Invite)
    (keepsCode : ∀ row, (change row).code = row.code) (keepsId : ∀ row, (change row).id = row.id) :
    InviteTable where
  byCode := invites.byCode.rewrite change keepsCode
  idsNodup := by
    have sameIds : (invites.byCode.rows.map change).map Invite.id =
        invites.byCode.rows.map Invite.id := by
      rw [List.map_map]
      exact List.map_congr_left fun row _ => keepsId row
    rw [Table.rewrite, sameIds]
    exact invites.idsNodup

theorem findUnique_rewrite {invites : InviteTable} {change : Invite → Invite}
    {keepsCode : ∀ row, (change row).code = row.code} {keepsId : ∀ row, (change row).id = row.id}
    {code : String} :
    (invites.rewrite change keepsCode keepsId).byCode.findUnique code =
      (invites.byCode.findUnique code).map change := by
  rw [rewrite, Table.findUnique_rewrite]

end InviteTable

structure WorkspacePendingInvite where
  id : PendingInviteId
  workspaceId : WorkspaceId
  email : List Char
  role : WorkspaceRole := .member
  tokenHash : String
  expiresAt : DateTime
  acceptedAt : Option DateTime := none
  canceledAt : Option DateTime := none
deriving DecidableEq, Repr

/-- The outbox row `INVITE_ACCEPTED`. -/
structure InviteAccepted where
  inviteId : InviteId
  actorId : UserId
deriving DecidableEq, Repr

structure EntryState extends MembershipState where
  policyOf : WorkspaceId → EntryPolicy := fun _ => {}
  users : Table User User.id := .empty
  invites : InviteTable := {}
  pendingInvites : Table WorkspacePendingInvite WorkspacePendingInvite.id := .empty
  inviteAccepted : List InviteAccepted := []
  now : DateTime

section Checks

variable (toLowerCase : List Char → List Char)

/-- `userEmail.split('@')[1]?.toLowerCase() ?? ''` -/
def emailDomain (userEmail : List Char) : List Char :=
  (((userEmail.splitOn '@')[1]?).map toLowerCase).getD []

def domainAllowed (userEmail : List Char) (emailDomains : List (List Char)) : Bool :=
  emailDomains.isEmpty ||
    emailDomains.any fun domain => toLowerCase (trim domain) == emailDomain toLowerCase userEmail

def assertWorkspaceEntryAllowed (user : User) (emailDomains : List (List Char)) :
    Except Failure Unit :=
  if !user.emailVerified then
    failWith .emailNotVerified "이메일 인증 후 워크스페이스에 참여할 수 있습니다"
  else if !domainAllowed toLowerCase user.email emailDomains then
    failWith .workspaceDomainNotAllowed "이 워크스페이스는 허용된 이메일 도메인의 사용자만 참여할 수 있습니다"
  else .ok ()

def normalizeEmail (email : List Char) : List Char :=
  toLowerCase (trim email)

/-- The gate lets a user pass exactly when the email is verified and its domain is allowed. -/
theorem assertWorkspaceEntryAllowed_eq_ok_iff {user : User} {emailDomains : List (List Char)}
    {result : Unit} :
    assertWorkspaceEntryAllowed toLowerCase user emailDomains = .ok result ↔
      user.emailVerified = true ∧ domainAllowed toLowerCase user.email emailDomains = true := by
  rw [assertWorkspaceEntryAllowed]
  cases user.emailVerified with
  | false => simp [failWith_ne_ok]
  | true =>
    cases domainAllowed toLowerCase user.email emailDomains with
    | false => simp [failWith_ne_ok]
    | true => simp

end Checks

namespace Invite

/-- `expiresAt && expiresAt.getTime() <= Date.now()` -/
def isExpired (invite : Invite) (now : DateTime) : Bool :=
  invite.expiresAt.any (· ≤ now)

def isExhausted (invite : Invite) : Bool :=
  invite.maxUses.any (· ≤ invite.usedCount)

end Invite

namespace EntryState

variable (state : EntryState)

/-- The strategy of the access token loads the user of each request. -/
def authenticate (userId : UserId) : Except Failure User :=
  match state.users.findUnique userId with
  | none => failWith .authInvalidToken "user not found"
  | some user => .ok user

def isBanned (workspaceId : WorkspaceId) (userId : UserId) : Bool :=
  (state.banned.findUnique (workspaceId, userId)).isSome

/-- The workspace row is there and not soft-deleted. -/
def isLive (workspaceId : WorkspaceId) : Bool :=
  (state.workspaces.findUnique workspaceId).any (·.deletedAt.isNone)

def assertNotBanned (workspaceId : WorkspaceId) (userId : UserId) (code : ErrorCode)
    (message : String) : Except Failure Unit :=
  failIf (state.isBanned workspaceId userId) code message

/-- The insert of a member and, in the same transaction, of the role row of its system role. -/
def createMember (workspaceId : WorkspaceId) (userId : UserId) (role : WorkspaceRole) :
    Except Failure EntryState :=
  match state.members.insert? ⟨workspaceId, userId, role⟩ with
  | none => .error .uniqueViolation
  | some members =>
    .ok { state with
      members := members
      rolesOf := fun ofWorkspace ofUser =>
        if ofWorkspace = workspaceId ∧ ofUser = userId then
          state.synced workspaceId (state.rolesOf workspaceId userId) role
        else state.rolesOf ofWorkspace ofUser }

section CreateMember

variable {state joined : EntryState} {workspaceId : WorkspaceId} {userId : UserId}
  {role : WorkspaceRole}

/-- The transaction adds one member row, of a user who had none. -/
theorem createMember_eq_ok (created : state.createMember workspaceId userId role = .ok joined) :
    state.isMember workspaceId userId = false ∧
      joined = { state with members := joined.members, rolesOf := joined.rolesOf } ∧
      ∀ row, row ∈ joined.members ↔ row = ⟨workspaceId, userId, role⟩ ∨ row ∈ state.members := by
  rw [createMember] at created
  cases inserted : state.members.insert? ⟨workspaceId, userId, role⟩ with
  | none =>
    rw [inserted] at created
    cases created
  | some members =>
    rw [inserted] at created
    cases created
    refine ⟨Bool.eq_false_iff.mpr fun member => ?_, rfl, fun _ => Table.mem_insert? inserted⟩
    obtain ⟨role, present⟩ := MembershipState.exists_of_isMember member
    exact (Table.insert?_eq_some_iff.mp inserted).1 _ present rfl

theorem createMember_eq_error {failure : Failure}
    (refused : state.createMember workspaceId userId role = .error failure) :
    failure = .uniqueViolation ∧ state.isMember workspaceId userId = true := by
  rw [createMember] at refused
  cases inserted : state.members.insert? ⟨workspaceId, userId, role⟩ with
  | none =>
    rw [inserted] at refused
    obtain ⟨⟨_, _, oldRole⟩, present, same⟩ := Table.insert?_eq_none_iff.mp inserted
    cases same
    exact ⟨(Except.error.inj refused).symm, MembershipState.isMember_of_mem present⟩
  | some members =>
    rw [inserted] at refused
    cases refused

theorem isMember_createMember (created : state.createMember workspaceId userId role = .ok joined)
    {ofWorkspace : WorkspaceId} {ofUser : UserId} :
    joined.isMember ofWorkspace ofUser = true ↔
      (ofWorkspace = workspaceId ∧ ofUser = userId) ∨ state.isMember ofWorkspace ofUser = true := by
  simp only [MembershipState.isMember_iff, (createMember_eq_ok created).2.2,
    WorkspaceMember.mk.injEq]
  constructor
  · rintro ⟨_, ⟨sameWorkspace, sameUser, -⟩ | present⟩
    · exact .inl ⟨sameWorkspace, sameUser⟩
    · exact .inr ⟨_, present⟩
  · rintro (⟨rfl, rfl⟩ | ⟨oldRole, present⟩)
    · exact ⟨role, .inl ⟨rfl, rfl, rfl⟩⟩
    · exact ⟨oldRole, .inr present⟩

end CreateMember

/-! The code of an invite. -/

/-- What `accept` checks of the invite before the seat is claimed. -/
def assertInvite : Option Invite → Except Failure Invite
  | none => failWith .inviteNotFound "invite not found"
  | some invite =>
    if invite.revokedAt.isSome then failWith .inviteRevoked "invite revoked"
    else if invite.isExpired state.now then failWith .inviteExpired "invite expired"
    else .ok invite

/-- The claim of a seat: one statement that compares and counts. -/
def claimSeat (code : String) : Option EntryState :=
  match state.invites.byCode.findUnique code with
  | none => none
  | some invite =>
    if invite.revokedAt.isNone && !invite.isExpired state.now && !invite.isExhausted then
      some { state with
        invites := state.invites.rewrite
          (fun row => if row.code = code then { row with usedCount := row.usedCount + 1 } else row)
          (fun row => by split <;> rfl) fun row => by split <;> rfl }
    else none

/-- A claim changes the invites alone. -/
theorem toMembershipState_claimSeat {state claimed : EntryState} {code : String}
    (taken : state.claimSeat code = some claimed) :
    claimed.toMembershipState = state.toMembershipState := by
  rw [claimSeat] at taken
  split at taken
  · cases taken
  split at taken
  · rw [← Option.some.inj taken]
  · cases taken

/-- The error of a claim that counted nothing. -/
def claimFailure (code : String) : Failure :=
  match state.invites.byCode.findUnique code with
  | none => .domain ⟨.inviteNotFound, "invite vanished mid-accept"⟩
  | some invite =>
    if invite.revokedAt.isSome then .domain ⟨.inviteRevoked, "invite was revoked"⟩
    else if invite.isExpired state.now then .domain ⟨.inviteExpired, "invite expired"⟩
    else .domain ⟨.inviteExhausted, "invite fully used"⟩

/-- The seat that a user who joined in the meantime gives back. -/
def refundSeat (code : String) : EntryState :=
  { state with
    invites := state.invites.rewrite
      (fun row =>
        if row.code = code ∧ 0 < row.usedCount then { row with usedCount := row.usedCount - 1 }
        else row)
      (fun row => by split <;> rfl) fun row => by split <;> rfl }

/-- The membership transaction of `accept`. -/
def admitByInvite (invite : Invite) (userId : UserId) : Except Failure EntryState := do
  let joined ← state.createMember invite.workspaceId userId .member
  .ok { joined with inviteAccepted := ⟨invite.id, userId⟩ :: joined.inviteAccepted }

/-! A public workspace. -/

/-- What `joinPublic` checks of the workspace. -/
def assertJoinable (workspaceId : WorkspaceId) : Except Failure Unit :=
  if !state.isLive workspaceId then failWith .workspaceNotFound "workspace not found"
  else if (state.policyOf workspaceId).visibility ≠ .isPublic then
    failWith .workspaceNotPublic "workspace is not joinable without invite"
  else if (state.policyOf workspaceId).joinMode = .apply then
    failWith .workspaceApplyNotSupported
      "workspace requires application approval — direct join is not supported yet"
  else .ok ()

/-! An invite by email. -/

/-- What the lookup by the token checks. -/
def assertActive : Option WorkspacePendingInvite → Except Failure WorkspacePendingInvite
  | none => failWith .emailInviteTokenInvalid "invalid invite token"
  | some pending =>
    if pending.canceledAt.isSome then
      failWith .emailInviteTokenInvalid "invalid invite token"
    else if pending.acceptedAt.isSome then
      failWith .emailInviteAlreadyAccepted "invite already accepted"
    else if pending.expiresAt ≤ state.now then
      failWith .emailInviteExpired "invite expired"
    else .ok pending

def findPending (tokenHash : String) : Option WorkspacePendingInvite :=
  state.pendingInvites.rows.find? fun pending => pending.tokenHash == tokenHash

/-- Set `acceptedAt` of an invite that is open. -/
def markAccepted (id : PendingInviteId) : EntryState :=
  { state with
    pendingInvites := state.pendingInvites.rewrite
      (fun row =>
        if row.id = id ∧ row.acceptedAt = none ∧ row.canceledAt = none then
          { row with acceptedAt := some state.now }
        else row)
      fun row => by split <;> rfl }

/-- The transaction of `acceptPending`: the invite is still open, and the user joins. -/
def admitByEmail (pending : WorkspacePendingInvite) (userId : UserId) :
    Except Failure EntryState :=
  if (state.pendingInvites.findUnique pending.id).any fun row =>
      row.acceptedAt.isNone && row.canceledAt.isNone then
    (state.markAccepted pending.id).createMember pending.workspaceId userId pending.role
  else failWith .emailInviteAlreadyAccepted "invite already accepted"

end EntryState

section Paths

variable (toLowerCase : List Char → List Char) (state : EntryState)

/-- What `acceptPending` checks of the actor and the invite. -/
def assertInvited (user : User) (pending : WorkspacePendingInvite) : Except Failure Unit :=
  if normalizeEmail toLowerCase user.email ≠ pending.email then
    failWith .emailInviteEmailMismatch "invite email mismatch"
  else if pending.role ≠ .member ∧ pending.role ≠ .guest then
    failWith .emailInviteRoleMismatch "invite role mismatch"
  else .ok ()

/-- `invites.accept`, with whether the user was a member already. -/
def accept (code : String) (userId : UserId) : Except Failure (EntryState × Bool) := do
  let user ← state.authenticate userId
  let invite ← state.assertInvite (state.invites.byCode.findUnique code)
  if state.isMember invite.workspaceId userId then
    return (state, true)
  state.assertNotBanned invite.workspaceId userId .inviteNotFound "invite not found"
  assertWorkspaceEntryAllowed toLowerCase user (state.policyOf invite.workspaceId).emailDomains
  match state.claimSeat code with
  | none => .error (state.claimFailure code)
  | some claimed =>
    let admitted ← claimed.admitByInvite invite userId
    return (admitted, false)

/-- `joinPublic` -/
def joinPublic (workspaceId : WorkspaceId) (userId : UserId) :
    Except Failure (EntryState × Bool) := do
  let user ← state.authenticate userId
  state.assertJoinable workspaceId
  if state.isMember workspaceId userId then
    return (state, true)
  assertWorkspaceEntryAllowed toLowerCase user (state.policyOf workspaceId).emailDomains
  state.assertNotBanned workspaceId userId .workspaceNotFound "workspace not found"
  let admitted ← state.createMember workspaceId userId .member
  return (admitted, false)

/-- `acceptByToken` -/
def acceptByToken (tokenHash : String) (userId : UserId) :
    Except Failure (EntryState × Bool) := do
  let user ← state.authenticate userId
  let pending ← state.assertActive (state.findPending tokenHash)
  assertInvited toLowerCase user pending
  failIf (!state.isLive pending.workspaceId) .workspaceNotFound "workspace not found"
  if state.isMember pending.workspaceId userId then
    return (state.markAccepted pending.id, true)
  state.assertNotBanned pending.workspaceId userId .emailInviteTokenInvalid "invalid invite token"
  assertWorkspaceEntryAllowed toLowerCase user (state.policyOf pending.workspaceId).emailDomains
  let admitted ← state.admitByEmail pending userId
  return (admitted, false)

end Paths

end Bongtalk.Workspaces
