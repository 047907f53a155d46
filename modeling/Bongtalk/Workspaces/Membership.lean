import Bongtalk.Library.EventLoop
import Bongtalk.Workspaces.Roles.RolesService

/-!
# Changes of membership

The requests that change who is in a workspace and in which role, statement by statement: the
guards read the caller's row, the services read what they decide on, and a transaction writes.
Between any two of these steps other requests may write.
-/

namespace Bongtalk.Workspaces

open Library Common Prisma Shared Roles

/-- The roles a request can assign. The owner changes by a transfer alone. -/
inductive AssignableRole where
  | admin
  | moderator
  | member
  | guest
deriving DecidableEq, Repr

def AssignableRole.role : AssignableRole → WorkspaceRole
  | .admin => .admin
  | .moderator => .moderator
  | .member => .member
  | .guest => .guest

/-- `ROLE_RANK` -/
def roleRank : WorkspaceRole → Nat
  | .owner => 5
  | .admin => 4
  | .moderator => 3
  | .member => 2
  | .guest => 1

def roleLiteral : WorkspaceRole → String
  | .owner => "OWNER"
  | .admin => "ADMIN"
  | .moderator => "MODERATOR"
  | .member => "MEMBER"
  | .guest => "GUEST"

structure OwnedWorkspace extends Workspace where
  ownerId : UserId
deriving DecidableEq, Repr

structure BannedMember where
  workspaceId : WorkspaceId
  userId : UserId
  bannedBy : UserId
deriving DecidableEq, Repr

structure MembershipState where
  workspaces : Table OwnedWorkspace fun row => row.id
  members : WorkspaceMemberTable
  banned : Table BannedMember (fun row => (row.workspaceId, row.userId)) := .empty
  /-- The roles that `MemberRole` gives to each member. -/
  rolesOf : WorkspaceId → UserId → List Role := fun _ _ => []
  /-- The seeded row of a system role. -/
  systemRole : WorkspaceId → WorkspaceRole → Role
  passwordHash : UserId → Option String := fun _ => none

inductive BulkAction where
  | kick
  | role (role : AssignableRole)
deriving DecidableEq, Repr

inductive MemberRequest where
  | transferOwnership (toUserId : UserId) (password : String)
  | updateRole (targetUserId : UserId) (nextRole : AssignableRole)
  | remove (targetUserId : UserId)
  | leave
  | kick (targetUserId : UserId)
  | ban (targetUserId : UserId)
  | bulkAction (action : BulkAction) (userIds : List UserId)
deriving DecidableEq, Repr

/-- The `@Roles` of the route. -/
def MemberRequest.minRole : MemberRequest → Option WorkspaceRole
  | .transferOwnership _ _ => some .owner
  | .updateRole _ _ | .remove _ => some .admin
  | .leave | .kick _ | .ban _ | .bulkAction _ _ => none

structure MemberCall where
  workspaceId : WorkspaceId
  userId : UserId
  request : MemberRequest
deriving DecidableEq, Repr

/-- A request, named by its next statement, with what it has read. -/
inductive MemberTask where
  | findWorkspace (call : MemberCall)
  | findMember (call : MemberCall)
  | findActor (workspaceId : WorkspaceId) (fromUserId toUserId : UserId) (password : String)
  | transferOwnership (workspaceId : WorkspaceId) (fromUserId toUserId : UserId)
  /-- The target of `updateRole`, or of `remove` without a next role. -/
  | findTarget (workspaceId : WorkspaceId) (actorRole : WorkspaceRole) (targetUserId : UserId)
      (nextRole : Option AssignableRole)
  | updateRole (workspaceId : WorkspaceId) (targetUserId : UserId) (nextRole : AssignableRole)
  /-- The transaction of `remove`, `leave` and `kick`. -/
  | delete (workspaceId : WorkspaceId) (userId : UserId)
  | kickActor (workspaceId : WorkspaceId) (actorId targetUserId : UserId)
  | kickTarget (workspaceId : WorkspaceId) (targetUserId : UserId) (actor : ActorContext)
  | kickTop (workspaceId : WorkspaceId) (targetUserId : UserId) (actor : ActorContext)
      (role : WorkspaceRole)
  | banActor (workspaceId : WorkspaceId) (actorId targetUserId : UserId)
  | findBan (workspaceId : WorkspaceId) (actorId targetUserId : UserId) (actor : ActorContext)
  | banMember (workspaceId : WorkspaceId) (actorId targetUserId : UserId) (actor : ActorContext)
  | banTop (workspaceId : WorkspaceId) (actorId targetUserId : UserId) (actor : ActorContext)
      (role : Option WorkspaceRole)
  | ban (workspaceId : WorkspaceId) (actorId targetUserId : UserId) (wasMember : Bool)
  | bulkActor (workspaceId : WorkspaceId) (actorId : UserId) (actorRole : WorkspaceRole)
      (action : BulkAction) (userIds : List UserId)
  | bulkTargets (workspaceId : WorkspaceId) (actorId : UserId) (actor : ActorContext)
      (action : BulkAction) (userIds : List UserId)
  | bulkTops (workspaceId : WorkspaceId) (actorId : UserId) (actor : ActorContext)
      (action : BulkAction) (userIds : List UserId) (targets : List WorkspaceMember)
  | bulkWrite (workspaceId : WorkspaceId) (action : BulkAction) (affected : List UserId)

/-- `WorkspaceRoleGuard` -/
def assertRole (minRole : Option WorkspaceRole) (role : WorkspaceRole) : Except Failure Unit :=
  match minRole with
  | none => .ok ()
  | some minRole =>
    if roleRank role < roleRank minRole then
      failWith .workspaceInsufficientRole
        ("requires " ++ roleLiteral minRole ++ " or higher; you are " ++ roleLiteral role)
    else .ok ()

/-- What a service checks before its first statement. -/
def MemberCall.begin (call : MemberCall) (role : WorkspaceRole) : Except Failure MemberTask :=
  match call.request with
  | .transferOwnership toUserId password =>
    if call.userId = toUserId then
      failWith .workspaceTargetNotMember "cannot transfer ownership to yourself"
    else .ok (.findActor call.workspaceId call.userId toUserId password)
  | .updateRole targetUserId nextRole =>
    if call.userId = targetUserId then
      failWith .workspaceInsufficientRole "you cannot change your own role"
    else .ok (.findTarget call.workspaceId role targetUserId (some nextRole))
  | .remove targetUserId =>
    if call.userId = targetUserId then
      failWith .workspaceInsufficientRole "use /members/me/leave to leave a workspace"
    else .ok (.findTarget call.workspaceId role targetUserId none)
  | .leave =>
    if role = .owner then
      failWith .workspaceOwnerMustTransfer "owner must transfer ownership before leaving"
    else .ok (.delete call.workspaceId call.userId)
  | .kick targetUserId =>
    if call.userId = targetUserId then
      failWith .moderationCannotSelf "cannot moderate yourself"
    else .ok (.kickActor call.workspaceId call.userId targetUserId)
  | .ban targetUserId =>
    if call.userId = targetUserId then failWith .moderationCannotSelf "cannot ban yourself"
    else .ok (.banActor call.workspaceId call.userId targetUserId)
  | .bulkAction action userIds =>
    .ok (.bulkActor call.workspaceId call.userId role action userIds.eraseDups)

/-- What `updateRole` and `remove` check about their target. -/
def assertModifiable (actorRole : WorkspaceRole) (nextRole : Option AssignableRole) :
    Option WorkspaceMember → Except Failure Unit
  | none => failWith .workspaceTargetNotMember "target user is not a member"
  | some target =>
    if target.role = .owner then
      match nextRole with
      | some _ => failWith .workspaceCannotDemoteOwner "owner must use transfer-ownership"
      | none =>
        failWith .workspaceCannotRemoveOwner "owner cannot be removed — transfer ownership first"
    else if roleRank actorRole ≤ roleRank target.role ∧ actorRole ≠ .owner then
      failWith .workspaceInsufficientRole
        (match nextRole with
        | some _ => "cannot modify a member of equal or higher rank"
        | none => "cannot remove a member of equal or higher rank")
    else .ok ()

/-- `actorContext` of moderation. -/
def moderationContext (roles : List Role) : ActorContext :=
  roles.foldl ActorContext.add ⟨0, 0⟩

def Roles.ActorContext.isAdministrator (actor : ActorContext) : Bool :=
  hasRaw actor.maxPermissions (permissions .administrator)

def assertHolds (actor : ActorContext) (required : PermissionFlag) (message : String) :
    Except Failure Unit :=
  if !actor.isAdministrator && !hasRaw actor.maxPermissions (permissions required) then
    failWith .workspaceInsufficientRole message
  else .ok ()

/-- The highest position among roles. -/
def topOf (roles : List Role) : Nat :=
  (moderationContext roles).topPosition

/-- `topPosition`: a member without role rows has the position of its system role. -/
def topPosition (roles : List Role) (fallbackRole : WorkspaceRole) : Nat :=
  if roles = [] then systemRolePosition fallbackRole else topOf roles

def assertOutranks (actor : ActorContext) (targetTop : Nat) (message : String) :
    Except Failure Unit :=
  if actor.topPosition ≤ targetTop then failWith .moderationTargetHigher message else .ok ()

/-- The targets of a bulk action that it is applied to. Role rows at position zero do not count, so
a member with no others falls back to its system role. -/
def affectedBy (actorId : UserId) (actor : ActorContext) (targets : List WorkspaceMember)
    (rolesOf : UserId → List Role) (userIds : List UserId) : List UserId :=
  userIds.filter fun userId =>
    userId != actorId &&
      match targets.find? fun target => target.userId == userId with
      | none => false
      | some target =>
        target.role != .owner &&
          (actor.isAdministrator ||
            let top := topOf (rolesOf userId)
            !decide (actor.topPosition ≤
              if top = 0 then systemRolePosition target.role else top))

namespace MembershipState

variable (state : MembershipState)

def isMember (workspaceId : WorkspaceId) (userId : UserId) : Bool :=
  (state.members.findUnique (workspaceId, userId)).isSome

/-- `syncMemberSystemRole`: one system role row, the one of the role. -/
def synced (workspaceId : WorkspaceId) (roles : List Role) (role : WorkspaceRole) : List Role :=
  state.systemRole workspaceId role :: roles.filter (!·.isSystem)

/-- Give members of a workspace a role. -/
def setRole (workspaceId : WorkspaceId) (userIds : List UserId) (role : WorkspaceRole) :
    MembershipState :=
  { state with
    members := state.members.rewrite
      (fun row =>
        if row.workspaceId = workspaceId ∧ row.userId ∈ userIds then { row with role := role }
        else row)
      fun row => by split <;> rfl
    rolesOf := fun ofWorkspace userId =>
      if ofWorkspace = workspaceId ∧ userId ∈ userIds then
        state.synced workspaceId (state.rolesOf workspaceId userId) role
      else state.rolesOf ofWorkspace userId }

/-- Delete members of a workspace; their role rows go with them. -/
def deleteMembers (workspaceId : WorkspaceId) (userIds : List UserId) : MembershipState :=
  { state with
    members := state.members.deleteMany fun row =>
      row.workspaceId == workspaceId && decide (row.userId ∈ userIds)
    rolesOf := fun ofWorkspace userId =>
      if ofWorkspace = workspaceId ∧ userId ∈ userIds then [] else state.rolesOf ofWorkspace userId }

def setOwner (workspaceId : WorkspaceId) (ownerId : UserId) : MembershipState :=
  { state with
    workspaces := state.workspaces.rewrite
      (fun row => if row.id = workspaceId then { row with ownerId := ownerId } else row)
      fun row => by split <;> rfl }

/-- The transaction of a transfer. -/
def transferOwnership (workspaceId : WorkspaceId) (fromUserId toUserId : UserId) :
    Except Failure MembershipState :=
  if !state.isMember workspaceId toUserId then
    failWith .workspaceTargetNotMember "target user is not a member of this workspace"
  else if !state.isMember workspaceId fromUserId then .error .recordNotFound
  else if (state.workspaces.findUnique workspaceId).isNone then .error .recordNotFound
  else
    .ok (((state.setRole workspaceId [fromUserId] .admin).setRole workspaceId [toUserId]
      .owner).setOwner workspaceId toUserId)

def updateRole (workspaceId : WorkspaceId) (targetUserId : UserId) (nextRole : AssignableRole) :
    Except Failure MembershipState :=
  if state.isMember workspaceId targetUserId then
    .ok (state.setRole workspaceId [targetUserId] nextRole.role)
  else .error .recordNotFound

def delete (workspaceId : WorkspaceId) (userId : UserId) : Except Failure MembershipState :=
  if state.isMember workspaceId userId then .ok (state.deleteMembers workspaceId [userId])
  else .error .recordNotFound

def ban (workspaceId : WorkspaceId) (actorId targetUserId : UserId) (wasMember : Bool) :
    Except Failure MembershipState :=
  match state.banned.insert? ⟨workspaceId, targetUserId, actorId⟩ with
  | none => failWith .memberAlreadyBanned "user is already banned"
  | some banned =>
    let inserted := { state with banned := banned }
    if wasMember then inserted.delete workspaceId targetUserId else .ok inserted

def bulkWrite (workspaceId : WorkspaceId) (affected : List UserId) : BulkAction → MembershipState
  | .kick => state.deleteMembers workspaceId affected
  | .role nextRole => state.setRole workspaceId affected nextRole.role

section Rows

variable {state : MembershipState} {workspaceId : WorkspaceId}

variable {row : WorkspaceMember}

theorem mem_setRole {userIds : List UserId} {role : WorkspaceRole} :
    row ∈ (state.setRole workspaceId userIds role).members ↔
      ∃ old ∈ state.members,
        (if old.workspaceId = workspaceId ∧ old.userId ∈ userIds then { old with role := role }
          else old) = row :=
  List.mem_map

theorem mem_deleteMembers {userIds : List UserId} :
    row ∈ (state.deleteMembers workspaceId userIds).members ↔
      row ∈ state.members ∧ ¬(row.workspaceId = workspaceId ∧ row.userId ∈ userIds) := by
  rw [deleteMembers, Table.mem_deleteMany]
  simp

theorem isMember_of_mem (present : row ∈ state.members) :
    state.isMember row.workspaceId row.userId = true := by
  rw [isMember, Table.findUnique_of_mem present]
  rfl

theorem exists_of_isMember {userId : UserId} (member : state.isMember workspaceId userId = true) :
    ∃ role, (⟨workspaceId, userId, role⟩ : WorkspaceMember) ∈ state.members := by
  obtain ⟨⟨_, _, role⟩, found⟩ := Option.isSome_iff_exists.mp member
  obtain ⟨present, same⟩ := Table.findUnique_eq_some_iff.mp found
  cases same
  exact ⟨role, present⟩

theorem isMember_iff {userId : UserId} : state.isMember workspaceId userId = true ↔
    ∃ role, (⟨workspaceId, userId, role⟩ : WorkspaceMember) ∈ state.members :=
  ⟨exists_of_isMember, fun ⟨_, present⟩ => isMember_of_mem present⟩

end Rows

end MembershipState

/-- Go on with the next statement, unless a check has thrown. -/
def goOn (state : MembershipState) (next : Except Failure MemberTask) :
    MembershipState × List MemberTask :=
  (state, next.toOption.toList)

/-- A transaction that fails writes nothing. -/
def commit (state : MembershipState) (written : Except Failure MembershipState) :
    MembershipState × List MemberTask :=
  (written.toOption.getD state, [])

section Resume

variable (verify : String → String → Bool) (state : MembershipState)

/-- The guards of the route, then the service. -/
def resumeGuard (call : MemberCall) (member : Option WorkspaceMember) :
    Except Failure MemberTask :=
  match member with
  | none => failWith .workspaceNotMember "workspace not found"
  | some member => do
    assertRole call.request.minRole member.role
    call.begin member.role

/-- One statement of a request. `verify` is the password check of the hash library. -/
def MemberTask.resume : MemberTask → MembershipState × List MemberTask
  | .findWorkspace call =>
    goOn state <|
      if (state.workspaces.findUnique call.workspaceId).all (·.deletedAt.isSome) then
        failWith .workspaceNotFound "workspace not found"
      else .ok (.findMember call)
  | .findMember call =>
    goOn state (resumeGuard call (state.members.findUnique (call.workspaceId, call.userId)))
  | .findActor workspaceId fromUserId toUserId password =>
    goOn state <|
      if (state.passwordHash fromUserId).any fun hash => verify hash password then
        .ok (.transferOwnership workspaceId fromUserId toUserId)
      else failWith .authInvalidCredentials "password confirmation failed"
  | .transferOwnership workspaceId fromUserId toUserId =>
    commit state (state.transferOwnership workspaceId fromUserId toUserId)
  | .findTarget workspaceId actorRole targetUserId nextRole =>
    goOn state do
      assertModifiable actorRole nextRole (state.members.findUnique (workspaceId, targetUserId))
      match nextRole with
      | some nextRole => .ok (.updateRole workspaceId targetUserId nextRole)
      | none => .ok (.delete workspaceId targetUserId)
  | .updateRole workspaceId targetUserId nextRole =>
    commit state (state.updateRole workspaceId targetUserId nextRole)
  | .delete workspaceId userId => commit state (state.delete workspaceId userId)
  | .kickActor workspaceId actorId targetUserId =>
    let actor := moderationContext (state.rolesOf workspaceId actorId)
    goOn state do
      assertHolds actor .kickMembers "you lack the required moderation permission"
      .ok (.kickTarget workspaceId targetUserId actor)
  | .kickTarget workspaceId targetUserId actor =>
    goOn state <|
      match state.members.findUnique (workspaceId, targetUserId) with
      | none => failWith .workspaceTargetNotMember "target user is not a member"
      | some target =>
        if target.role = .owner then
          failWith .moderationTargetHigher "cannot moderate the owner"
        else if actor.isAdministrator then .ok (.delete workspaceId targetUserId)
        else .ok (.kickTop workspaceId targetUserId actor target.role)
  | .kickTop workspaceId targetUserId actor role =>
    goOn state do
      assertOutranks actor (topPosition (state.rolesOf workspaceId targetUserId) role)
        "target outranks you — cannot moderate a member at or above your highest role"
      .ok (.delete workspaceId targetUserId)
  | .banActor workspaceId actorId targetUserId =>
    let actor := moderationContext (state.rolesOf workspaceId actorId)
    goOn state do
      assertHolds actor .banMembers "you lack the BAN_MEMBERS permission"
      .ok (.findBan workspaceId actorId targetUserId actor)
  | .findBan workspaceId actorId targetUserId actor =>
    goOn state <|
      if (state.banned.findUnique (workspaceId, targetUserId)).isSome then
        failWith .memberAlreadyBanned "user is already banned"
      else .ok (.banMember workspaceId actorId targetUserId actor)
  | .banMember workspaceId actorId targetUserId actor =>
    let role := (state.members.findUnique (workspaceId, targetUserId)).map (·.role)
    goOn state <|
      if role = some .owner then failWith .moderationTargetHigher "cannot ban the owner"
      else if actor.isAdministrator then
        .ok (.ban workspaceId actorId targetUserId role.isSome)
      else .ok (.banTop workspaceId actorId targetUserId actor role)
  | .banTop workspaceId actorId targetUserId actor (some role) =>
    goOn state do
      assertOutranks actor (topPosition (state.rolesOf workspaceId targetUserId) role)
        "target outranks you — cannot ban a member at or above your highest role"
      .ok (.ban workspaceId actorId targetUserId true)
  -- Role rows that a former member left behind still protect it.
  | .banTop workspaceId actorId targetUserId actor none =>
    let residualRoles := state.rolesOf workspaceId targetUserId
    goOn state do
      if residualRoles ≠ [] then
        assertOutranks actor (topOf residualRoles)
          "target outranks you — cannot ban a user at or above your highest role"
      .ok (.ban workspaceId actorId targetUserId false)
  | .ban workspaceId actorId targetUserId wasMember =>
    commit state (state.ban workspaceId actorId targetUserId wasMember)
  | .bulkActor workspaceId actorId actorRole action userIds =>
    let actor := moderationContext (state.rolesOf workspaceId actorId)
    goOn state do
      match action with
      | .role _ =>
        if !actor.isAdministrator && roleRank actorRole < roleRank .admin then
          failWith .workspaceInsufficientRole "role changes require ADMIN or higher"
      | .kick =>
        assertHolds actor .kickMembers "you lack the required permission for this bulk action"
      .ok (.bulkTargets workspaceId actorId actor action userIds)
  | .bulkTargets workspaceId actorId actor action userIds =>
    let targets := state.members.findMany fun row =>
      row.workspaceId == workspaceId && decide (row.userId ∈ userIds)
    (state, [.bulkTops workspaceId actorId actor action userIds targets])
  | .bulkTops workspaceId actorId actor action userIds targets =>
    let affected := affectedBy actorId actor targets (state.rolesOf workspaceId) userIds
    (state, if affected = [] then [] else [.bulkWrite workspaceId action affected])
  | .bulkWrite workspaceId action affected => (state.bulkWrite workspaceId affected action, [])

end Resume

/-- Requests come in, and other services change role rows and passwords. -/
inductive MemberInput where
  | request (call : MemberCall)
  | setRoles (workspaceId : WorkspaceId) (userId : UserId) (roles : List Role)
  | setPassword (userId : UserId) (passwordHash : String)

def MemberInput.starts : MemberInput → List MemberTask
  | .request call => [.findWorkspace call]
  | .setRoles _ _ _ | .setPassword _ _ => []

def MemberInput.after (state : MembershipState) : MemberInput → MembershipState
  | .request _ => state
  | .setRoles workspaceId userId roles =>
    { state with rolesOf := fun ofWorkspace ofUser =>
        if ofWorkspace = workspaceId ∧ ofUser = userId then roles
        else state.rolesOf ofWorkspace ofUser }
  | .setPassword userId passwordHash =>
    { state with passwordHash := fun ofUser =>
        if ofUser = userId then some passwordHash else state.passwordHash ofUser }

def memberLoop (verify : String → String → Bool) :
    EventLoop MembershipState MemberTask MemberInput where
  resume := MemberTask.resume verify
  Accepts state input next spawned := next = input.after state ∧ spawned = input.starts

end Bongtalk.Workspaces
