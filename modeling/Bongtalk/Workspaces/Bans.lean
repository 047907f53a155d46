import Bongtalk.Workspaces.Invites
import Bongtalk.Workspaces.Reviews

/-!
# Bans and membership

Every way into a workspace looks for a ban before the transaction that makes the member, and a ban
looks for the member before the transaction that writes the ban row. All of these requests, kicks
and their undoing among them, interleave at every statement.
-/

namespace Bongtalk.Workspaces

open Library Library.EventLoop Common Prisma Shared MembershipState Table EntryState
  ApplicationState

/-- The value under `kick_undo:{workspaceId}:{actorId}:{targetUserId}`. -/
structure UndoToken where
  workspaceId : WorkspaceId
  actorId : UserId
  targetUserId : UserId
  token : String
deriving DecidableEq, Repr

abbrev UndoTokenTable :=
  Table UndoToken fun row => (row.workspaceId, row.actorId, row.targetUserId)

structure ModerationState extends ApplicationState where
  undoTokens : UndoTokenTable := .empty

/-- `joinPublic`, named by its next statement. -/
inductive JoinTask where
  | findUser (workspaceId : WorkspaceId) (userId : UserId)
  | findWorkspace (workspaceId : WorkspaceId) (user : User)
  | findMember (workspaceId : WorkspaceId) (user : User) (policy : EntryPolicy)
  | findBan (workspaceId : WorkspaceId) (user : User)
  | createMember (workspaceId : WorkspaceId) (user : User)

/-- `acceptByToken`, named by its next statement. -/
inductive EmailTask where
  | findUser (tokenHash : String) (userId : UserId)
  | findPending (tokenHash : String) (user : User)
  | findWorkspace (pending : WorkspacePendingInvite) (user : User)
  | findMember (pending : WorkspacePendingInvite) (user : User) (policy : EntryPolicy)
  | findBan (pending : WorkspacePendingInvite) (user : User) (policy : EntryPolicy)
  | createMember (pending : WorkspacePendingInvite) (user : User)
  | markAccepted (id : PendingInviteId)

/-- A kick is undone with the token that it answered with. -/
structure UndoCall where
  workspaceId : WorkspaceId
  actorId : UserId
  targetUserId : UserId
  undoToken : String
deriving DecidableEq, Repr

inductive UndoTask where
  | findWorkspace (call : UndoCall)
  | findActor (call : UndoCall)
  | getToken (call : UndoCall)
  | deleteToken (call : UndoCall)
  | findBan (call : UndoCall)
  | createMember (call : UndoCall)

inductive UnbanTask where
  | findWorkspace (workspaceId : WorkspaceId) (actorId targetUserId : UserId)
  | findActor (workspaceId : WorkspaceId) (actorId targetUserId : UserId)
  | findRoles (workspaceId : WorkspaceId) (actorId targetUserId : UserId)
  | unban (workspaceId : WorkspaceId) (targetUserId : UserId)

inductive ModerationTask where
  | member (task : MemberTask)
  /-- A kick of the actor, which answers with the token. -/
  | kick (actorId : UserId) (undoToken : String) (task : MemberTask)
  | storeToken (token : UndoToken)
  | undo (task : UndoTask)
  | unban (task : UnbanTask)
  | accept (task : AcceptTask)
  | join (task : JoinTask)
  | email (task : EmailTask)
  | review (task : ReviewTask)

namespace ModerationState

variable (state : ModerationState)

def withEntry (entry : EntryState) : ModerationState :=
  { state with toEntryState := entry }

def withMembership (membership : MembershipState) : ModerationState :=
  { state with toMembershipState := membership }

/-- Go on with the next statement, unless a check has thrown. -/
def next {Task : Type} (wrap : Task → ModerationTask) (checked : Except Failure Task) :
    ModerationState × List ModerationTask :=
  (state, (checked.toOption.toList).map wrap)

/-- A transaction that fails writes nothing. -/
def commits (written : Except Failure EntryState) : ModerationState × List ModerationTask :=
  (state.withEntry (written.toOption.getD state.toEntryState), [])

/-- `WorkspaceMemberGuard` -/
def assertMember (workspaceId : WorkspaceId) (userId : UserId) : Except Failure Unit :=
  failIf (!state.isMember workspaceId userId) .workspaceNotMember "workspace not found"

def deleteBan (workspaceId : WorkspaceId) (targetUserId : UserId) : ModerationState :=
  state.withMembership { state.toMembershipState with
    banned := state.banned.deleteMany fun row =>
      row.workspaceId == workspaceId && row.userId == targetUserId }

end ModerationState

section Resume

variable (verify : String → String → Bool) (toLowerCase : List Char → List Char)
  (state : ModerationState)

def JoinTask.resume : JoinTask → ModerationState × List ModerationTask
  | .findUser workspaceId userId =>
    state.next .join do
      let user ← state.authenticate userId
      .ok (.findWorkspace workspaceId user)
  | .findWorkspace workspaceId user =>
    state.next .join do
      state.assertJoinable workspaceId
      .ok (.findMember workspaceId user (state.policyOf workspaceId))
  | .findMember workspaceId user policy =>
    if state.isMember workspaceId user.id then (state, [])
    else
      state.next .join do
        assertWorkspaceEntryAllowed toLowerCase user policy.emailDomains
        .ok (.findBan workspaceId user)
  | .findBan workspaceId user =>
    state.next .join do
      state.assertNotBanned workspaceId user.id .workspaceNotFound "workspace not found"
      .ok (.createMember workspaceId user)
  | .createMember workspaceId user =>
    state.commits (state.createMember workspaceId user.id .member)

def EmailTask.resume : EmailTask → ModerationState × List ModerationTask
  | .findUser tokenHash userId =>
    state.next .email do
      let user ← state.authenticate userId
      .ok (.findPending tokenHash user)
  | .findPending tokenHash user =>
    state.next .email do
      let pending ← state.assertActive (state.findPending tokenHash)
      assertInvited toLowerCase user pending
      .ok (.findWorkspace pending user)
  | .findWorkspace pending user =>
    state.next .email do
      failIf (!state.isLive pending.workspaceId) .workspaceNotFound "workspace not found"
      .ok (.findMember pending user (state.policyOf pending.workspaceId))
  | .findMember pending user policy =>
    if state.isMember pending.workspaceId user.id then (state, [.email (.markAccepted pending.id)])
    else (state, [.email (.findBan pending user policy)])
  | .findBan pending user policy =>
    state.next .email do
      state.assertNotBanned pending.workspaceId user.id .emailInviteTokenInvalid
        "invalid invite token"
      assertWorkspaceEntryAllowed toLowerCase user policy.emailDomains
      .ok (.createMember pending user)
  | .createMember pending user =>
    match state.admitByEmail pending user.id with
    | .ok admitted => (state.withEntry admitted, [])
    -- A member who is there already has accepted the invite as well.
    | .error .uniqueViolation => (state, [.email (.markAccepted pending.id)])
    | .error _ => (state, [])
  | .markAccepted id => (state.withEntry (state.markAccepted id), [])

def UndoTask.resume : UndoTask → ModerationState × List ModerationTask
  | .findWorkspace call =>
    state.next .undo do
      failIf (!state.isLive call.workspaceId) .workspaceNotFound "workspace not found"
      .ok (.findActor call)
  | .findActor call =>
    state.next .undo do
      state.assertMember call.workspaceId call.actorId
      .ok (.getToken call)
  | .getToken call =>
    let stored := state.undoTokens.findUnique (call.workspaceId, call.actorId, call.targetUserId)
    state.next .undo do
      failIf (!stored.any fun row => row.token == call.undoToken) .kickUndoInvalid
        "undo token expired or invalid"
      .ok (.deleteToken call)
  | .deleteToken call =>
    ({ state with
        undoTokens := state.undoTokens.deleteMany fun row => row.workspaceId == call.workspaceId &&
          row.actorId == call.actorId && row.targetUserId == call.targetUserId },
      [.undo (.findBan call)])
  | .findBan call =>
    state.next .undo do
      state.assertNotBanned call.workspaceId call.targetUserId .kickUndoInvalid
        "target was banned after kick"
      .ok (.createMember call)
  | .createMember call =>
    state.commits (state.createMember call.workspaceId call.targetUserId .member)

def UnbanTask.resume : UnbanTask → ModerationState × List ModerationTask
  | .findWorkspace workspaceId actorId targetUserId =>
    state.next .unban do
      failIf (!state.isLive workspaceId) .workspaceNotFound "workspace not found"
      .ok (.findActor workspaceId actorId targetUserId)
  | .findActor workspaceId actorId targetUserId =>
    state.next .unban do
      state.assertMember workspaceId actorId
      .ok (.findRoles workspaceId actorId targetUserId)
  | .findRoles workspaceId actorId targetUserId =>
    state.next .unban do
      assertHolds (moderationContext (state.rolesOf workspaceId actorId)) .banMembers
        "you lack the BAN_MEMBERS permission"
      .ok (.unban workspaceId targetUserId)
  | .unban workspaceId targetUserId => (state.deleteBan workspaceId targetUserId, [])

/-- A kick ends with the token of its undoing, once the member is deleted. -/
def resumeKick (actorId : UserId) (undoToken : String) (task : MemberTask) :
    ModerationState × List ModerationTask :=
  let (membership, spawned) := task.resume verify state.toMembershipState
  let stores := match task with
    | .delete workspaceId targetUserId =>
      if state.isMember workspaceId targetUserId then
        [ModerationTask.storeToken ⟨workspaceId, actorId, targetUserId, undoToken⟩]
      else []
    | _ => []
  (state.withMembership membership, spawned.map (.kick actorId undoToken) ++ stores)

def ModerationTask.resume : ModerationTask → ModerationState × List ModerationTask
  | .member task =>
    let (membership, spawned) := task.resume verify state.toMembershipState
    (state.withMembership membership, spawned.map .member)
  | .kick actorId undoToken task => resumeKick verify state actorId undoToken task
  | .storeToken token => ({ state with undoTokens := state.undoTokens.upsert token }, [])
  | .undo task => task.resume state
  | .unban task => task.resume state
  | .accept task =>
    let (entry, spawned) := task.resume toLowerCase state.toEntryState
    (state.withEntry entry, spawned.map .accept)
  | .join task => task.resume toLowerCase state
  | .email task => task.resume toLowerCase state
  | .review task =>
    let (applications, spawned) := task.resume state.toApplicationState
    ({ state with toApplicationState := applications }, spawned.map .review)

end Resume

/-- What reaches the server, and the changes of rows that are neither members nor bans. -/
inductive ModerationInput where
  | request (call : MemberCall)
  | kick (workspaceId : WorkspaceId) (actorId targetUserId : UserId) (undoToken : String)
  | undo (call : UndoCall)
  | unban (workspaceId : WorkspaceId) (actorId targetUserId : UserId)
  | accept (call : AcceptCall)
  | join (workspaceId : WorkspaceId) (userId : UserId)
  | email (tokenHash : String) (userId : UserId)
  | process (call : ProcessCall)
  | elsewhere

def ModerationInput.starts : ModerationInput → List ModerationTask
  | .request call => [.member (.findWorkspace call)]
  | .kick workspaceId actorId targetUserId undoToken =>
    [.kick actorId undoToken (.findWorkspace ⟨workspaceId, actorId, .kick targetUserId⟩)]
  | .undo call => [.undo (.findWorkspace call)]
  | .unban workspaceId actorId targetUserId =>
    [.unban (.findWorkspace workspaceId actorId targetUserId)]
  | .accept call => [.accept (.findUser call)]
  | .join workspaceId userId => [.join (.findUser workspaceId userId)]
  | .email tokenHash userId => [.email (.findUser tokenHash userId)]
  | .process call => [.review (.findWorkspace call)]
  | .elsewhere => []

def moderationLoop (verify : String → String → Bool) (toLowerCase : List Char → List Char) :
    EventLoop ModerationState ModerationTask ModerationInput where
  resume := ModerationTask.resume verify toLowerCase
  Accepts state input next spawned :=
    spawned = input.starts ∧
      match input with
      | .elsewhere => next.members = state.members ∧ next.banned = state.banned
      | _ => next = state

/-- No one is banned from a workspace and a member of it. -/
def BansExclude (state : MembershipState) : Prop :=
  ∀ workspaceId userId, (state.banned.findUnique (workspaceId, userId)).isSome = true →
    state.isMember workspaceId userId = false

section Writes

variable {state next : MembershipState} {workspaceId : WorkspaceId} {userId : UserId}

theorem BansExclude.of_eq (excludes : BansExclude state) (same : next = state) :
    BansExclude next :=
  same ▸ excludes

theorem BansExclude.of_fewer (excludes : BansExclude state)
    (members : ∀ workspaceId userId, next.isMember workspaceId userId = true →
      state.isMember workspaceId userId = true)
    (banned : ∀ workspaceId userId, (next.banned.findUnique (workspaceId, userId)).isSome = true →
      (state.banned.findUnique (workspaceId, userId)).isSome = true) : BansExclude next := by
  intro ofWorkspace ofUser isBanned
  have outside := excludes ofWorkspace ofUser (banned ofWorkspace ofUser isBanned)
  refine Bool.eq_false_iff.mpr fun member => ?_
  rw [members ofWorkspace ofUser member] at outside
  cases outside

variable {ofWorkspace : WorkspaceId}

theorem isMember_setRole {userIds : List UserId} {role : WorkspaceRole}
    (member : (state.setRole workspaceId userIds role).isMember ofWorkspace userId = true) :
    state.isMember ofWorkspace userId = true := by
  obtain ⟨newRole, present⟩ := isMember_iff.mp member
  obtain ⟨⟨oldWorkspace, oldUser, oldRole⟩, oldMem, same⟩ := mem_setRole.mp present
  refine isMember_iff.mpr ⟨oldRole, ?_⟩
  split at same
  · cases same
    exact oldMem
  · cases same
    exact oldMem

theorem isMember_deleteMembers {userIds : List UserId} :
    (state.deleteMembers workspaceId userIds).isMember ofWorkspace userId = true ↔
      state.isMember ofWorkspace userId = true ∧
        ¬(ofWorkspace = workspaceId ∧ userId ∈ userIds) := by
  simp only [isMember_iff, mem_deleteMembers, exists_and_right]

section

variable (excludes : BansExclude state)

include excludes

theorem BansExclude.setRole (userIds : List UserId) (role : WorkspaceRole) :
    BansExclude (state.setRole workspaceId userIds role) :=
  excludes.of_fewer (fun _ _ => isMember_setRole) fun _ _ isBanned => isBanned

theorem BansExclude.deleteMembers (userIds : List UserId) :
    BansExclude (state.deleteMembers workspaceId userIds) :=
  excludes.of_fewer (fun _ _ member => (isMember_deleteMembers.mp member).1)
    fun _ _ isBanned => isBanned

theorem BansExclude.delete :
    BansExclude ((state.delete workspaceId userId).toOption.getD state) := by
  rw [MembershipState.delete]
  split
  · exact excludes.deleteMembers [userId]
  · exact excludes

omit excludes in
/-- A ban row keeps out exactly those who are no members. -/
theorem isBanned_insert {banned : Table BannedMember fun row => (row.workspaceId, row.userId)}
    {actorId : UserId}
    (inserted : state.banned.insert? ⟨workspaceId, userId, actorId⟩ = some banned) {ofUser : UserId}
    (isBanned : (banned.findUnique (ofWorkspace, ofUser)).isSome = true) :
    (ofWorkspace = workspaceId ∧ ofUser = userId) ∨
      (state.banned.findUnique (ofWorkspace, ofUser)).isSome = true := by
  obtain ⟨row, found⟩ := Option.isSome_iff_exists.mp isBanned
  obtain ⟨present, same⟩ := findUnique_eq_some_iff.mp found
  cases same
  rcases (mem_insert? inserted).mp present with rfl | old
  · exact .inl ⟨rfl, rfl⟩
  have foundOld := findUnique_of_mem old
  exact .inr (Option.isSome_iff_exists.mpr ⟨row, foundOld⟩)

theorem bansExclude_ban_iff (actorId : UserId) :
    BansExclude ((state.ban workspaceId actorId userId false).toOption.getD state) ↔
      state.isMember workspaceId userId = false := by
  rw [ban]
  cases inserted : state.banned.insert? ⟨workspaceId, userId, actorId⟩ with
  | none =>
    obtain ⟨row, present, same⟩ := Table.insert?_eq_none_iff.mp inserted
    refine iff_of_true excludes (excludes workspaceId userId ?_)
    rw [findUnique_eq_some_iff.mpr ⟨present, same⟩]
    rfl
  | some banned =>
    constructor
    · intro after
      apply after workspaceId userId
      have added := (mem_insert? inserted).mpr (.inl rfl)
      exact Option.isSome_iff_exists.mpr ⟨_, findUnique_of_mem added⟩
    · intro outside ofWorkspace ofUser isBanned
      rcases isBanned_insert inserted isBanned with ⟨rfl, rfl⟩ | before
      · exact outside
      · exact excludes ofWorkspace ofUser before

theorem BansExclude.banMember (actorId : UserId) :
    BansExclude ((state.ban workspaceId actorId userId true).toOption.getD state) := by
  rw [ban]
  cases inserted : state.banned.insert? ⟨workspaceId, userId, actorId⟩ with
  | none => exact excludes
  | some banned =>
    let written : MembershipState := { state with banned := banned }
    change BansExclude ((written.delete workspaceId userId).toOption.getD state)
    rw [MembershipState.delete]
    split
    · intro ofWorkspace ofUser isBanned
      refine Bool.eq_false_iff.mpr fun member => ?_
      obtain ⟨before, kept⟩ := isMember_deleteMembers.mp member
      rcases isBanned_insert inserted isBanned with ⟨rfl, rfl⟩ | old
      · exact kept ⟨rfl, List.mem_singleton_self _⟩
      have outside := excludes ofWorkspace ofUser old
      change state.isMember ofWorkspace ofUser = true at before
      rw [outside] at before
      cases before
    · exact excludes

end

/-- A member is made next to a ban row exactly when the user is banned. -/
theorem bansExclude_createMember_iff {state : EntryState}
    (excludes : BansExclude state.toMembershipState) (role : WorkspaceRole) :
    BansExclude ((state.createMember workspaceId userId role).toOption.getD
        state).toMembershipState ↔
      state.isBanned workspaceId userId = false := by
  cases created : state.createMember workspaceId userId role with
  | error failure =>
    refine iff_of_true excludes (Bool.eq_false_iff.mpr fun isBanned => ?_)
    have member := (createMember_eq_error created).2
    rw [excludes workspaceId userId isBanned] at member
    cases member
  | ok joined =>
    obtain ⟨-, unchanged, -⟩ := createMember_eq_ok created
    have sameBans : joined.banned = state.banned := by
      rw [unchanged]
    constructor
    · intro after
      refine Bool.eq_false_iff.mpr fun isBanned => ?_
      have member := (isMember_createMember created).mpr (.inl ⟨rfl, rfl⟩)
      have outside := after workspaceId userId (sameBans ▸ isBanned)
      change joined.isMember workspaceId userId = false at outside
      rw [outside] at member
      cases member
    · intro free ofWorkspace ofUser isBanned
      change (joined.banned.findUnique _).isSome = true at isBanned
      rw [sameBans] at isBanned
      refine Bool.eq_false_iff.mpr fun member => ?_
      rcases (isMember_createMember created).mp member with ⟨rfl, rfl⟩ | before
      · rw [EntryState.isBanned, isBanned] at free
        cases free
      · rw [excludes ofWorkspace ofUser isBanned] at before
        cases before

/-- The requests of members keep bans apart from membership, except for a ban of a user who was no
member when it looked. -/
theorem bansExclude_member_iff {verify : String → String → Bool} (excludes : BansExclude state)
    (task : MemberTask) :
    BansExclude (task.resume verify state).1 ↔
      match task with
      | .ban workspaceId _ targetUserId false => state.isMember workspaceId targetUserId = false
      | _ => True := by
  cases task with
  | transferOwnership workspaceId fromUserId toUserId =>
    refine iff_of_true ?_ trivial
    rw [MemberTask.resume, commit, MembershipState.transferOwnership]
    split
    · exact excludes
    split
    · exact excludes
    split
    · exact excludes
    · exact (excludes.setRole [fromUserId] .admin).setRole [toUserId] .owner
  | updateRole workspaceId targetUserId nextRole =>
    refine iff_of_true ?_ trivial
    rw [MemberTask.resume, commit, MembershipState.updateRole]
    split
    · exact excludes.setRole [targetUserId] nextRole.role
    · exact excludes
  | delete workspaceId userId => exact iff_of_true excludes.delete trivial
  | ban workspaceId actorId userId wasMember =>
    cases wasMember with
    | true => exact iff_of_true (excludes.banMember actorId) trivial
    | false => exact bansExclude_ban_iff excludes actorId
  | bulkWrite workspaceId action affected =>
    refine iff_of_true ?_ trivial
    cases action with
    | kick => exact excludes.deleteMembers affected
    | role nextRole => exact excludes.setRole affected nextRole.role
  | banTop workspaceId actorId targetUserId actor role =>
    cases role with
    | none | some role => exact iff_of_true excludes trivial
  | _ => exact iff_of_true excludes trivial

end Writes

/-- A transaction that makes a member finds no ban, and one that bans a user without deleting a
member finds none, unless the transaction is refused for another reason. -/
def FindsNoOther (state : ModerationState) : ModerationTask → Prop
  | .member (.ban workspaceId _ userId false) | .kick _ _ (.ban workspaceId _ userId false) =>
    state.isMember workspaceId userId = false
  | .accept (.createMember call read) =>
    call.aborts = true ∨ state.isBanned read.invite.workspaceId call.userId = false
  | .join (.createMember workspaceId user) => state.isBanned workspaceId user.id = false
  | .email (.createMember pending user) =>
    ((state.pendingInvites.findUnique pending.id).any fun row =>
        row.acceptedAt.isNone && row.canceledAt.isNone) = false ∨
      state.isBanned pending.workspaceId user.id = false
  | .undo (.createMember call) => state.isBanned call.workspaceId call.targetUserId = false
  | .review (.approve app _) =>
    (∀ row ∈ state.applications.byId, row.id ≠ app.id) ∨ state.StatusTaken app.id .approved ∨
      state.isBanned app.workspaceId app.applicantId = false
  | _ => True

section Run

variable {verify : String → String → Bool} {toLowerCase : List Char → List Char}
  {state : ModerationState}

theorem bansExclude_accept_iff {state : EntryState} (excludes : BansExclude state.toMembershipState)
    (call : AcceptCall) (read : AcceptRead) :
    BansExclude ((AcceptTask.createMember call read).resume toLowerCase state).1.toMembershipState ↔
      call.aborts = true ∨ state.isBanned read.invite.workspaceId call.userId = false := by
  rw [AcceptTask.resume]
  cases aborts : call.aborts with
  | true => exact iff_of_true excludes (.inl rfl)
  | false =>
    rw [if_neg Bool.false_ne_true, or_iff_right Bool.false_ne_true,
      ← bansExclude_createMember_iff excludes .member, admitByInvite]
    cases state.createMember read.invite.workspaceId call.userId .member with
    | error failure | ok joined => exact Iff.rfl

theorem bansExclude_approve_iff {state : ApplicationState}
    (excludes : BansExclude state.toMembershipState) (app : WorkspaceMemberApplication)
    (actorId : UserId) :
    BansExclude ((state.approve app actorId).toOption.getD state).toMembershipState ↔
      (∀ row ∈ state.applications.byId, row.id ≠ app.id) ∨ state.StatusTaken app.id .approved ∨
        state.isBanned app.workspaceId app.applicantId = false := by
  have keptApart :
      BansExclude ((state.createMember app.workspaceId app.applicantId .member).toOption.getD
          state.toEntryState).toMembershipState ↔
        state.isBanned app.workspaceId app.applicantId = false :=
    bansExclude_createMember_iff excludes .member
  rw [approve]
  cases written : state.writeApplication app.id .approved
      (fun row => { row with reviewedById := some actorId }) fun _ => rfl with
  | error failure =>
    apply iff_of_true excludes
    rcases refused_of_write written (fun _ => rfl) fun _ => rfl with
      missing | taken
    · exact .inl missing
    · exact .inr (.inl taken)
  | ok updated =>
    obtain ⟨⟨row, rowMem, sameId⟩, free⟩ :=
      not_statusTaken_of_write written (fun _ => rfl) fun _ => rfl
    rw [or_iff_right fun missing => missing row rowMem sameId, or_iff_right free, ← keptApart,
      ok_bind, toEntryState_writeApplication written]
    cases state.createMember app.workspaceId app.applicantId .member with
    | error failure | ok joined => exact Iff.rfl

theorem bansExclude_admit_iff {state : EntryState} (excludes : BansExclude state.toMembershipState)
    (pending : WorkspacePendingInvite) (userId : UserId) :
    BansExclude ((state.admitByEmail pending userId).toOption.getD state).toMembershipState ↔
      ((state.pendingInvites.findUnique pending.id).any fun row =>
          row.acceptedAt.isNone && row.canceledAt.isNone) = false ∨
        state.isBanned pending.workspaceId userId = false := by
  rw [admitByEmail]
  split
  next isOpen =>
    rw [isOpen, or_iff_right (by simp)]
    have marked : BansExclude (state.markAccepted pending.id).toMembershipState := excludes
    refine Iff.trans ?_ (bansExclude_createMember_iff marked pending.role)
    cases (state.markAccepted pending.id).createMember pending.workspaceId userId pending.role with
    | error failure | ok joined => exact Iff.rfl
  next closed => exact iff_of_true excludes (.inl (by simpa using closed))

section

variable (excludes : BansExclude state.toMembershipState)

include excludes

theorem BansExclude.deleteBan (workspaceId : WorkspaceId) (targetUserId : UserId) :
    BansExclude (state.deleteBan workspaceId targetUserId).toMembershipState := by
  refine excludes.of_fewer (fun _ _ member => member) fun ofWorkspace ofUser isBanned => ?_
  obtain ⟨row, found⟩ := Option.isSome_iff_exists.mp isBanned
  obtain ⟨present, same⟩ := findUnique_eq_some_iff.mp found
  have before := (mem_deleteMany.mp present).1
  exact Option.isSome_iff_exists.mpr ⟨row, findUnique_eq_some_iff.mpr ⟨before, same⟩⟩

/-- The requests of members, a kick among them, with the condition of the step. -/
theorem bansExclude_memberTask_iff (task : MemberTask) :
    BansExclude (task.resume verify state.toMembershipState).1 ↔
      FindsNoOther state (.member task) := by
  apply (bansExclude_member_iff excludes task).trans
  cases task with
  | ban workspaceId actorId userId wasMember => cases wasMember <;> exact Iff.rfl
  | _ => exact Iff.rfl

/-- Of the statements of an accept, the transaction at its end is the only one that makes a
member. -/
theorem bansExclude_acceptTask_iff (task : AcceptTask) :
    BansExclude (task.resume toLowerCase state.toEntryState).1.toMembershipState ↔
      FindsNoOther state (.accept task) := by
  cases task with
  | createMember call read => exact bansExclude_accept_iff excludes call read
  | findMember call read =>
    have same : ((AcceptTask.findMember call read).resume toLowerCase
        state.toEntryState).1.toMembershipState = state.toMembershipState := by
      rw [AcceptTask.resume]
      split <;> rfl
    exact iff_of_true (excludes.of_eq same) trivial
  | claimSeat call read =>
    have same : ((AcceptTask.claimSeat call read).resume toLowerCase
        state.toEntryState).1.toMembershipState = state.toMembershipState := by
      rw [AcceptTask.resume]
      split
      · rfl
      next claimed taken => exact toMembershipState_claimSeat taken
    exact iff_of_true (excludes.of_eq same) trivial
  | _ => exact iff_of_true excludes trivial

theorem bansExclude_joinTask_iff (task : JoinTask) :
    BansExclude (task.resume toLowerCase state).1.toMembershipState ↔
      FindsNoOther state (.join task) := by
  cases task with
  | createMember workspaceId user => exact bansExclude_createMember_iff excludes .member
  | findMember workspaceId user policy =>
    have same : ((JoinTask.findMember workspaceId user policy).resume toLowerCase
        state).1.toMembershipState = state.toMembershipState := by
      rw [JoinTask.resume]
      split <;> rfl
    exact iff_of_true (excludes.of_eq same) trivial
  | _ => exact iff_of_true excludes trivial

theorem bansExclude_emailTask_iff (task : EmailTask) :
    BansExclude (task.resume toLowerCase state).1.toMembershipState ↔
      FindsNoOther state (.email task) := by
  cases task with
  | createMember pending user =>
    have same : ((EmailTask.createMember pending user).resume toLowerCase
        state).1.toMembershipState =
          ((state.admitByEmail pending user.id).toOption.getD
            state.toEntryState).toMembershipState := by
      rw [EmailTask.resume]
      split
      next admitted joined => rw [joined]; rfl
      next refused => rw [refused]; rfl
      next failure _ refused => rw [refused]; rfl
    rw [same]
    exact bansExclude_admit_iff excludes pending user.id
  | findMember pending user policy =>
    have same : ((EmailTask.findMember pending user policy).resume toLowerCase
        state).1.toMembershipState = state.toMembershipState := by
      rw [EmailTask.resume]
      split <;> rfl
    exact iff_of_true (excludes.of_eq same) trivial
  | _ => exact iff_of_true excludes trivial

/-- Of the reviews an approval is the only one that makes a member. -/
theorem bansExclude_reviewTask_iff (task : ReviewTask) :
    BansExclude (task.resume state.toApplicationState).1.toMembershipState ↔
      FindsNoOther state (.review task) := by
  have untouched {status : ApplicationStatus} {id : ApplicationId}
      {change : WorkspaceMemberApplication → WorkspaceMemberApplication}
      {keepsId : ∀ row, (change row).id = row.id} :
      BansExclude ((state.writeApplication id status change keepsId).toOption.getD
        state.toApplicationState).toMembershipState := by
    rw [toEntryState_getD_writeApplication]
    exact excludes
  cases task with
  | approve app actorId => exact bansExclude_approve_iff excludes app actorId
  | reject app actorId reviewNote | interview app actorId channelId | withdraw app =>
    exact iff_of_true untouched trivial
  | _ => exact iff_of_true excludes trivial

/-- A step keeps bans and members apart exactly when its transaction finds no other row. -/
theorem bansExclude_resume_iff (task : ModerationTask) :
    BansExclude (task.resume verify toLowerCase state).1.toMembershipState ↔
      FindsNoOther state task := by
  cases task with
  | member task => exact bansExclude_memberTask_iff excludes task
  | kick actorId undoToken task =>
    apply (bansExclude_memberTask_iff excludes task).trans
    cases task with
    | ban workspaceId actorId userId wasMember => cases wasMember <;> exact Iff.rfl
    | _ => exact Iff.rfl
  | storeToken token => exact iff_of_true excludes trivial
  | undo task =>
    cases task with
    | createMember call => exact bansExclude_createMember_iff excludes .member
    | _ => exact iff_of_true excludes trivial
  | unban task =>
    cases task with
    | unban workspaceId targetUserId =>
      exact iff_of_true (excludes.deleteBan workspaceId targetUserId) trivial
    | _ => exact iff_of_true excludes trivial
  | accept task => exact bansExclude_acceptTask_iff excludes task
  | join task => exact bansExclude_joinTask_iff excludes task
  | email task => exact bansExclude_emailTask_iff excludes task
  | review task => exact bansExclude_reviewTask_iff excludes task

end

/-- In every state of a run no one is banned and a member exactly when each transaction of the run
that makes a member finds no ban, and each ban of a user who was no member finds no member. -/
theorem bans_exclude_iff {start : ModerationState} (excludes : BansExclude start.toMembershipState)
    {labels : List (Label ModerationTask ModerationInput)}
    {finish : State ModerationState ModerationTask} :
    Steps (Lawful (Step (moderationLoop verify toLowerCase))
        fun state => BansExclude state.shared.toMembershipState) ⟨start, []⟩ labels finish ↔
      Steps (Guarded (Step (moderationLoop verify toLowerCase)) (OnResume FindsNoOther))
        ⟨start, []⟩ labels finish := by
  refine Steps.lawful_iff_guarded (fun _ => True) (fun _ _ => trivial) ?_ trivial excludes
  intro state label next transition _ excludesNow
  cases transition with
  | resume before task after => exact bansExclude_resume_iff excludesNow task
  | @accept _ _ input after _ accepted =>
    obtain ⟨-, changed⟩ := accepted
    refine iff_of_true ?_ trivial
    cases input with
    | elsewhere =>
      obtain ⟨sameMembers, sameBans⟩ := changed
      refine BansExclude.of_fewer excludesNow (fun _ _ member => ?_) fun _ _ isBanned => ?_
      · change (after.members.findUnique _).isSome = true at member
        rwa [sameMembers] at member
      · rwa [sameBans] at isBanned
    | _ =>
      obtain rfl := changed
      exact excludesNow

end Run

/-- A public workspace of user 1. User 2 has a verified email. -/
def openToAll : ModerationState where
  workspaces := .single { id := ⟨1⟩, ownerId := ⟨1⟩ }
  members := .single ⟨⟨1⟩, ⟨1⟩, .owner⟩
  systemRole := fun workspaceId role =>
    { id := ⟨systemRolePosition role⟩, workspaceId := workspaceId, name := roleLiteral role
      position := systemRolePosition role, isSystem := true }
  rolesOf := fun _ userId =>
    if userId = ⟨1⟩ then
      [{ id := ⟨5⟩, workspaceId := ⟨1⟩, name := "OWNER", position := 100,
         permissions := toStoragePermissions allPermissions, isSystem := true }]
    else []
  policyOf := fun _ => { visibility := .isPublic, joinMode := .isPublic }
  users := .single { id := ⟨2⟩, email := [], emailVerified := true }
  applications := .empty
  now := 0

theorem bansExclude_openToAll : BansExclude openToAll.toMembershipState := by
  intro workspaceId userId isBanned
  cases isBanned

/-- User 2 joins, and nobody bans them. -/
theorem join_keeps_apart : ∃ labels finish,
    Steps (Lawful (Step (moderationLoop (· == ·) id))
        fun state => BansExclude state.shared.toMembershipState) ⟨openToAll, []⟩ labels finish ∧
      finish.shared.isMember ⟨1⟩ ⟨2⟩ = true := by
  have accepted : Guarded (Step (moderationLoop (· == ·) id)) (OnResume FindsNoOther)
      ⟨openToAll, []⟩ (.accept (.join ⟨1⟩ ⟨2⟩)) ⟨openToAll, [.join (.findUser ⟨1⟩ ⟨2⟩)]⟩ :=
    ⟨.accept ⟨rfl, rfl⟩, trivial⟩
  obtain ⟨labels, steps⟩ := exists_guarded_runFirst 5 (Steps.refl.step accepted)
    ⟨trivial, trivial, trivial, trivial, rfl, trivial⟩
  exact ⟨labels, _, (bans_exclude_iff bansExclude_openToAll).mpr steps, by rfl⟩

def banSecond : MemberCall :=
  ⟨⟨1⟩, ⟨1⟩, .ban ⟨2⟩⟩

/-- User 2 joins and has been found not banned, is banned as no member, and becomes one. -/
theorem banned_member : BansExclude openToAll.toMembershipState ∧ ∃ labels finish,
    Steps (Step (moderationLoop (· == ·) id)) ⟨openToAll, []⟩ labels finish ∧
      finish.shared.isBanned ⟨1⟩ ⟨2⟩ = true ∧ finish.shared.isMember ⟨1⟩ ⟨2⟩ = true := by
  obtain ⟨labels, steps⟩ := (moderationLoop (· == ·) id).exists_steps_played
    (fun state input => (state, input.starts)) (fun _ _ => true) ⟨openToAll, []⟩
    (fun _ input _ => ⟨rfl, by cases input <;> first | rfl | exact ⟨rfl, rfl⟩⟩) .refl
    [.accept (.join ⟨1⟩ ⟨2⟩), .run 0, .run 0, .run 0, .run 0, .accept (.request banSecond),
      .run 1, .run 1, .run 1, .run 1, .run 1, .run 1, .run 0] rfl
  exact ⟨bansExclude_openToAll, labels, _, steps, by rfl, by rfl⟩

end Bongtalk.Workspaces
