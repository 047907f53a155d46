import Bongtalk.Workspaces.Roles.PrivilegeEscalation
import Bongtalk.Workspaces.Roles.SystemRoles

/-!
# The calls that write roles

A member's role is written when a workspace is made or joined, by a change of one member's role or
of many, and by a transfer of the workspace. Beside these stand the calls on the role rows.
-/

namespace Bongtalk.Workspaces.Roles

open Common Prisma Shared

section Calls

variable (db : Database) (workspaceId : WorkspaceId) (newIds : SystemRoleName → RoleId)

/-- The rows of a new workspace that are about roles. -/
def createWorkspace (ownerId : UserId) : Except Failure Database :=
  match db.workspaces.insert? { id := workspaceId } with
  | none => .error .uniqueViolation
  | some workspaces =>
    match { db with workspaces := workspaces }.insertMember? ⟨workspaceId, ownerId, .owner⟩ with
    | none => .error .uniqueViolation
    | some created =>
      seedMemberSystemRole (seedSystemRoles created workspaceId newIds) workspaceId ownerId .owner

/-- What every way into a workspace writes. Its other checks only refuse. -/
def join (userId : UserId) (role : WorkspaceRole) : Except Failure Database :=
  if role ≠ .member ∧ role ≠ .guest then
    failWith .emailInviteRoleMismatch "invite role mismatch"
  else
    match db.workspaces.findUnique workspaceId with
    | none => .error .foreignKeyViolation
    | some _ =>
      match db.insertMember? ⟨workspaceId, userId, role⟩ with
      | none => .error .uniqueViolation
      | some joined => syncMemberSystemRole joined workspaceId userId role newIds

/-- The guard of the routes: the caller is a member. -/
def findCaller (userId : UserId) : Except Failure WorkspaceMember :=
  match db.findMember workspaceId userId with
  | none => failWith .workspaceNotMember "workspace not found"
  | some member => .ok member

def updateRole (actorId targetUserId : UserId) (nextRole : AssignableRole) :
    Except Failure Database := do
  let actor ← findCaller db workspaceId actorId
  assertRole (some .admin) actor.role
  failIf (actorId == targetUserId) .workspaceInsufficientRole "you cannot change your own role"
  assertModifiable actor.role (some nextRole) (db.findMember workspaceId targetUserId)
  syncMemberSystemRole (db.setMemberRole workspaceId [targetUserId] nextRole.role) workspaceId
    targetUserId nextRole.role newIds

/-- The users that a bulk change of roles applies to. -/
def bulkAffected (actorId : UserId) (userIds : List UserId) : List UserId :=
  affectedBy actorId (moderationContext (db.rolesOf workspaceId actorId))
    (db.workspaceMembers.findMany fun row =>
      row.workspaceId == workspaceId && decide (row.userId ∈ userIds.eraseDups))
    (db.rolesOf workspaceId) userIds.eraseDups

def bulkRole (actorId : UserId) (userIds : List UserId) (nextRole : AssignableRole) :
    Except Failure Database := do
  let caller ← findCaller db workspaceId actorId
  failIf
    (!(moderationContext (db.rolesOf workspaceId actorId)).isAdministrator &&
      decide (roleRank caller.role < roleRank .admin))
    .workspaceInsufficientRole "role changes require ADMIN or higher"
  let affected := bulkAffected db workspaceId actorId userIds
  if affected = [] then .ok db
  else
    syncMembersSystemRole (db.setMemberRole workspaceId affected nextRole.role) workspaceId affected
      nextRole.role newIds

/-- `confirmed` is what the password check answers. -/
def transferOwnership (fromUserId toUserId : UserId) (confirmed : Bool) :
    Except Failure Database := do
  let caller ← findCaller db workspaceId fromUserId
  assertRole (some .owner) caller.role
  failIf (fromUserId == toUserId) .workspaceTargetNotMember "cannot transfer ownership to yourself"
  failIf (!confirmed) .authInvalidCredentials "password confirmation failed"
  failIf (db.findMember workspaceId toUserId).isNone .workspaceTargetNotMember
    "target user is not a member of this workspace"
  let promoted := (db.setMemberRole workspaceId [fromUserId] .admin).setMemberRole workspaceId
    [toUserId] .owner
  let demotedSynced ← syncMemberSystemRole promoted workspaceId fromUserId .admin newIds
  syncMemberSystemRole demotedSynced workspaceId toUserId .owner newIds

end Calls

/-- The calls that write roles. `newIds` are ids that a seeding would generate. -/
inductive RoleWrite where
  | createWorkspace (workspaceId : WorkspaceId) (ownerId : UserId)
      (newIds : SystemRoleName → RoleId)
  | join (workspaceId : WorkspaceId) (userId : UserId) (role : WorkspaceRole)
      (newIds : SystemRoleName → RoleId)
  | updateRole (workspaceId : WorkspaceId) (actorId targetUserId : UserId)
      (nextRole : AssignableRole) (newIds : SystemRoleName → RoleId)
  | bulkRole (workspaceId : WorkspaceId) (actorId : UserId) (userIds : List UserId)
      (nextRole : AssignableRole) (newIds : SystemRoleName → RoleId)
  | transferOwnership (workspaceId : WorkspaceId) (fromUserId toUserId : UserId)
      (confirmed : Bool) (newIds : SystemRoleName → RoleId)
  | roles (workspaceId : WorkspaceId) (call : RoleCall)

namespace RoleWrite

def execute (db : Database) : RoleWrite → Except Failure Database
  | createWorkspace workspaceId ownerId newIds =>
    Roles.createWorkspace db workspaceId newIds ownerId
  | join workspaceId userId role newIds => Roles.join db workspaceId newIds userId role
  | updateRole workspaceId actorId targetUserId nextRole newIds =>
    Roles.updateRole db workspaceId newIds actorId targetUserId nextRole
  | bulkRole workspaceId actorId userIds nextRole newIds =>
    Roles.bulkRole db workspaceId newIds actorId userIds nextRole
  | transferOwnership workspaceId fromUserId toUserId confirmed newIds =>
    Roles.transferOwnership db workspaceId newIds fromUserId toUserId confirmed
  | roles workspaceId call => call.execute db workspaceId

/-- The role that a call writes into the row of a member. -/
def written (db : Database) (call : RoleWrite) (ofWorkspace : WorkspaceId) (userId : UserId) :
    Option WorkspaceRole :=
  match call with
  | createWorkspace workspaceId ownerId _ =>
    if ofWorkspace = workspaceId ∧ userId = ownerId then some .owner else none
  | join workspaceId joined role _ =>
    if ofWorkspace = workspaceId ∧ userId = joined then some role else none
  | updateRole workspaceId _ targetUserId nextRole _ =>
    if ofWorkspace = workspaceId ∧ userId = targetUserId then some nextRole.role else none
  | bulkRole workspaceId actorId userIds nextRole _ =>
    if ofWorkspace = workspaceId ∧ userId ∈ bulkAffected db workspaceId actorId userIds then
      some nextRole.role
    else none
  | transferOwnership workspaceId fromUserId toUserId _ _ =>
    if ofWorkspace = workspaceId ∧ userId = toUserId then some .owner
    else if ofWorkspace = workspaceId ∧ userId = fromUserId then some .admin
    else none
  | roles _ _ => none

/-- The member that a call takes a system role from. -/
def taken (db : Database) : RoleWrite → Option (WorkspaceId × UserId)
  | roles workspaceId (.revoke _ target roleId) =>
    if (findRole db workspaceId roleId).any (·.isSystem) then some (workspaceId, target) else none
  | _ => none

/-- A call assigns custom roles only. -/
def AssignsCustom (db : Database) : RoleWrite → Prop
  | roles workspaceId (.assign _ _ roleId) =>
    ∀ role, findRole db workspaceId roleId = some role → role.isSystem = false
  | _ => True

/-- The ids generated for a new workspace are fresh. -/
def Generates (db : Database) : RoleWrite → Prop
  | createWorkspace _ _ newIds => FreshIds db newIds
  | _ => True

end RoleWrite

/-- The tables, and which members had a system role taken since their role was last written. -/
structure RoleHistory where
  db : Database
  taken : List (WorkspaceId × UserId)

/-- A refused call writes nothing. -/
def RoleHistory.after (history : RoleHistory) (call : RoleWrite) : RoleHistory :=
  match call.execute history.db with
  | .error _ => history
  | .ok next =>
    { db := next
      taken := (call.taken history.db).toList ++
        history.taken.filter fun member => (call.written history.db member.1 member.2).isNone }

def RoleHistory.initial : RoleHistory where
  db := .withoutRoles .empty .empty .empty
  taken := []

def RoleWriteStep (history : RoleHistory) (call : RoleWrite) (next : RoleHistory) : Prop :=
  call.Generates history.db ∧ next = history.after call

end Bongtalk.Workspaces.Roles
