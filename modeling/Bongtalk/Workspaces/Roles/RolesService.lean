import Bongtalk.Common.DomainError
import Bongtalk.Prisma.Schema

/-!
# Role definitions and assignments

The calls that create, change and delete roles and that give them to members. Each
call checks the actor's own roles before it writes; a refused call writes nothing.
-/

namespace Bongtalk.Workspaces.Roles

open Library Common Prisma Shared

variable {db : Database} {workspaceId : WorkspaceId} {actorUserId : UserId}

/-- A position in a request: an integer from `ROLE_POSITION_MIN` to `ROLE_POSITION_MAX`. -/
abbrev RolePosition := Fin 500

structure CreateRoleRequest where
  name : String
  colorHex : Option String := none
  permissions : Option String := none
  position : Option RolePosition := none
  mentionable : Option Bool := none
  hoistInMemberList : Option Bool := none

/-- An absent field leaves its column alone; `colorHex` may be set to null. -/
structure UpdateRoleRequest where
  name : Option String := none
  colorHex : Option (Option String) := none
  permissions : Option String := none
  position : Option RolePosition := none
  mentionable : Option Bool := none
  hoistInMemberList : Option Bool := none

/-- What an actor may pass on: the union of its masks and its highest position. -/
structure ActorContext where
  maxPermissions : Nat
  topPosition : Nat
deriving DecidableEq, Repr

/-- One round of the loop over the actor's roles. -/
def ActorContext.add (context : ActorContext) (role : Role) : ActorContext where
  maxPermissions := context.maxPermissions ||| fromStoragePermissions role.permissions
  topPosition :=
    if context.topPosition < role.position then role.position else context.topPosition

def computeActorContext (db : Database) (workspaceId : WorkspaceId) (actorUserId : UserId) :
    ActorContext :=
  (db.rolesOf workspaceId actorUserId).foldl ActorContext.add ⟨0, 0⟩

/-- A mask is granted only inside the actor's own, and the administrator bit only by an
administrator. -/
def assertGrantWithinActor (requested actorMax : Nat) : Except Failure Unit :=
  if hasRaw actorMax (permissions .administrator) then .ok ()
  else if hasRaw requested (permissions .administrator) then
    failWith .rolePrivilegeEscalation "cannot grant ADMINISTRATOR without holding it"
  else if Masks.without requested actorMax ≠ 0 then
    failWith .rolePrivilegeEscalation "cannot grant permissions you do not hold"
  else .ok ()

/-- One above the highest custom position, kept below the position of the admin role. -/
def nextCustomPosition (db : Database) (workspaceId : WorkspaceId) : Nat :=
  let custom := db.roles.findMany fun role => role.workspaceId == workspaceId && !role.isSystem
  min (custom.foldl (fun top role => max top role.position) 0 + 1) 399

/-- Whether another role of the workspace has a name: the unique key `(workspaceId, name)`. -/
def nameTaken (db : Database) (workspaceId : WorkspaceId) (roleId : RoleId) (name : String) :
    Bool :=
  db.roles.rows.any fun role =>
    role.workspaceId == workspaceId && role.name == name && role.id != roleId

def findRole (db : Database) (workspaceId : WorkspaceId) (roleId : RoleId) : Option Role :=
  (db.roles.findUnique roleId).filter fun role => role.workspaceId == workspaceId

def findRoleOrThrow (db : Database) (workspaceId : WorkspaceId) (roleId : RoleId) :
    Except Failure Role :=
  match findRole db workspaceId roleId with
  | some role => .ok role
  | none => failWith .roleNotFound "role not found in workspace"

/-- Read a mask string of a request. -/
def readPermissions (value : String) : Except Failure Nat :=
  (deserializePermissions value).mapError .range

namespace RolesService

/-- The mask a create request asks for; an absent or empty string asks for nothing. -/
def requestedPermissions (body : CreateRoleRequest) : Except Failure Nat :=
  match body.permissions with
  | none => .ok 0
  | some value => if value = "" then .ok 0 else readPermissions value

/-- Create a custom role under the generated id. -/
def create (db : Database) (workspaceId : WorkspaceId) (actorUserId : UserId) (newId : RoleId)
    (body : CreateRoleRequest) : Except Failure Database := do
  let requested ← requestedPermissions body
  let actor := computeActorContext db workspaceId actorUserId
  assertGrantWithinActor requested actor.maxPermissions
  let position := (body.position.map Fin.val).getD (nextCustomPosition db workspaceId)
  if actor.topPosition ≤ position then
    failWith .rolePositionTooHigh "cannot create a role at or above your own highest role position"
  else if nameTaken db workspaceId newId body.name then
    failWith .roleNameTaken "a role with this name already exists"
  else
    let inserted := db.insertRole?
      { id := newId
        workspaceId := workspaceId
        name := body.name
        colorHex := body.colorHex
        position := position
        permissions := toStoragePermissions requested
        isSystem := false
        mentionable := body.mentionable.getD false
        hoistInMemberList := body.hoistInMemberList.getD false }
    match inserted with
    | some next => .ok next
    | none => failWith .roleNameTaken "a role with this name already exists"

/-- `Prisma.RoleUpdateInput`: the columns an update writes. -/
structure RoleUpdateInput where
  name : Option String
  colorHex : Option (Option String)
  permissions : Option Int
  position : Option Nat
  mentionable : Option Bool
  hoistInMemberList : Option Bool

def RoleUpdateInput.apply (data : RoleUpdateInput) (role : Role) : Role :=
  { role with
    name := data.name.getD role.name
    colorHex := data.colorHex.getD role.colorHex
    permissions := data.permissions.getD role.permissions
    position := data.position.getD role.position
    mentionable := data.mentionable.getD role.mentionable
    hoistInMemberList := data.hoistInMemberList.getD role.hoistInMemberList }

/-- `role.update`; a taken name fails the statement. -/
def writeRole (db : Database) (role : Role) (data : RoleUpdateInput) (conflict : Failure) :
    Except Failure Database :=
  if (data.name.map (nameTaken db role.workspaceId role.id)).getD false then .error conflict
  else .ok (db.updateRole role.id data.apply fun _ => rfl)

/-- The mask an update stores, if it changes the mask. -/
def updatedPermissions (role : Role) (actorMax : Nat) (body : UpdateRoleRequest) :
    Except Failure (Option Int) :=
  match body.permissions with
  | none => .ok none
  | some value => do
    let requested ← readPermissions value
    assertGrantWithinActor requested actorMax
    if role.isSystem then
      failWith .roleSystemImmutable "system role permissions are immutable"
    else .ok (some (toStoragePermissions requested))

/-- Change a role below the actor. -/
def update (db : Database) (workspaceId : WorkspaceId) (actorUserId : UserId) (roleId : RoleId)
    (body : UpdateRoleRequest) : Except Failure Database := do
  let role ← findRoleOrThrow db workspaceId roleId
  let actor := computeActorContext db workspaceId actorUserId
  if actor.topPosition ≤ role.position then
    failWith .rolePositionTooHigh "cannot modify a role at or above your own highest role position"
  else if role.isSystem ∧ (body.name.isSome ∨ body.position.isSome) then
    failWith .roleSystemImmutable "system role name/position is immutable"
  else
    let storedPermissions ← updatedPermissions role actor.maxPermissions body
    let data : RoleUpdateInput :=
      { name := body.name
        colorHex := body.colorHex
        permissions := storedPermissions
        position := none
        mentionable := body.mentionable
        hoistInMemberList := body.hoistInMemberList }
    match (body.position.map Fin.val).filter (· ≠ role.position) with
    | some target =>
      if actor.topPosition ≤ target then
        failWith .rolePositionTooHigh
          "cannot raise a role to or above your own highest role position"
      else
        -- This transaction runs outside of the mapping of unique violations.
        writeRole db role { data with position := some target } .uniqueViolation
    | none =>
      writeRole db role data (.domain ⟨.roleNameTaken, "a role with this name already exists"⟩)

/-- Delete a custom role below the actor, with its override rows in the workspace. -/
def remove (db : Database) (workspaceId : WorkspaceId) (actorUserId : UserId)
    (roleId : RoleId) : Except Failure Database := do
  let role ← findRoleOrThrow db workspaceId roleId
  if role.isSystem then
    failWith .roleSystemImmutable "system role cannot be deleted"
  else
    let actor := computeActorContext db workspaceId actorUserId
    if actor.topPosition ≤ role.position then
      failWith .rolePositionTooHigh
        "cannot delete a role at or above your own highest role position"
    else
      let overrides := db.overrides.deleteMany fun row =>
        row.principal == .role roleId &&
          (db.channels.findUnique row.channelId).any (·.workspaceId == some workspaceId)
      .ok { db.deleteRole roleId with overrides := overrides }

end RolesService

namespace MemberRoleService

/-- Give a role to a member. -/
def assign (db : Database) (workspaceId : WorkspaceId) (actorUserId targetUserId : UserId)
    (roleId : RoleId) : Except Failure Database :=
  match foundRole : findRole db workspaceId roleId with
  | none => failWith .roleNotFound "role not found in workspace"
  | some role =>
    match foundTarget : db.findMember workspaceId targetUserId with
    | none => failWith .workspaceTargetNotMember "target is not a member"
    | some target =>
      let actor := computeActorContext db workspaceId actorUserId
      let isAdministrator := hasRaw actor.maxPermissions (permissions .administrator)
      let rolePerms := fromStoragePermissions role.permissions
      if isAdministrator = false ∧ actor.topPosition ≤ role.position then
        failWith .rolePositionTooHigh
          "cannot assign a role at or above your own highest role position"
      else if isAdministrator = false ∧ hasRaw rolePerms (permissions .administrator) then
        failWith .rolePrivilegeEscalation
          "cannot assign an ADMINISTRATOR role without holding ADMINISTRATOR"
      else if isAdministrator = false ∧ Masks.without rolePerms actor.maxPermissions ≠ 0 then
        failWith .rolePrivilegeEscalation
          "cannot assign a role granting permissions you do not hold"
      else
        .ok (db.upsertMemberRole ⟨workspaceId, targetUserId, roleId⟩
          ⟨role, Table.mem_of_findUnique (Option.filter_eq_some_iff.mp foundRole).1⟩
          ⟨target, (Table.mem_of_findUnique foundTarget).1,
            Prod.mk.inj (Table.mem_of_findUnique foundTarget).2⟩)

/-- Take a role from a member. -/
def revoke (db : Database) (workspaceId : WorkspaceId) (actorUserId targetUserId : UserId)
    (roleId : RoleId) : Except Failure Database :=
  match findRole db workspaceId roleId with
  | none => failWith .roleNotFound "role not found in workspace"
  | some role =>
    let actor := computeActorContext db workspaceId actorUserId
    let isAdministrator := hasRaw actor.maxPermissions (permissions .administrator)
    if isAdministrator = false ∧ actor.topPosition ≤ role.position then
      failWith .rolePositionTooHigh
        "cannot revoke a role at or above your own highest role position"
    else
      .ok (db.deleteMemberRoles fun row =>
        row.workspaceId == workspaceId && row.userId == targetUserId && row.roleId == roleId)

end MemberRoleService

section Outcomes

variable {next : Database}

/-- A created role is custom, has a free name, and stands below the actor. -/
theorem create_eq_ok {newId : RoleId} {body : CreateRoleRequest}
    (ok : RolesService.create db workspaceId actorUserId newId body = .ok next) :
    ∃ row : Role, row.id = newId ∧ row.workspaceId = workspaceId ∧ row.isSystem = false ∧
      row.position < (computeActorContext db workspaceId actorUserId).topPosition ∧
      ¬nameTaken db workspaceId newId row.name = true ∧ db.insertRole? row = some next := by
  simp only [RolesService.create, bind_eq_ok] at ok
  obtain ⟨requested, -, -, -, ok⟩ := ok
  split at ok
  · cases ok
  next below =>
    split at ok
    · cases ok
    next free =>
      split at ok
      next inserted =>
        cases ok
        exact ⟨_, rfl, rfl, rfl, Nat.lt_of_not_le below, free, inserted⟩
      next => cases ok

/-- Only a custom role is deleted, with its assignments and its overrides in the workspace. -/
theorem remove_eq_ok {roleId : RoleId}
    (ok : RolesService.remove db workspaceId actorUserId roleId = .ok next) :
    ∃ role, findRole db workspaceId roleId = some role ∧ role.isSystem = false ∧
      next = { db.deleteRole roleId with
        overrides := db.overrides.deleteMany fun row =>
          row.principal == .role roleId &&
            (db.channels.findUnique row.channelId).any (·.workspaceId == some workspaceId) } := by
  simp only [RolesService.remove, findRoleOrThrow, bind_eq_ok] at ok
  obtain ⟨role, found, ok⟩ := ok
  split at found
  next role' foundRole =>
    obtain rfl := Except.ok.inj found
    split at ok
    · cases ok
    next custom =>
      split at ok
      · cases ok
      · exact ⟨role', foundRole, Bool.eq_false_iff.mpr custom, (Except.ok.inj ok).symm⟩
  next => cases found

theorem revoke_eq_ok {target : UserId} {roleId : RoleId}
    (ok : MemberRoleService.revoke db workspaceId actorUserId target roleId = .ok next) :
    ∃ role, findRole db workspaceId roleId = some role ∧
      next = db.deleteMemberRoles fun row =>
        row.workspaceId == workspaceId && row.userId == target && row.roleId == roleId := by
  unfold MemberRoleService.revoke at ok
  split at ok
  · cases ok
  next role foundRole =>
    dsimp only at ok
    split at ok
    · cases ok
    · exact ⟨role, foundRole, (Except.ok.inj ok).symm⟩

end Outcomes

section ActorContext

variable (roles : List Role) (start : ActorContext) (index bound : Nat)

/-- The bits of the context accumulate from any start. -/
private theorem testBit_foldl_add :
    (roles.foldl ActorContext.add start).maxPermissions.testBit index = true ↔
      start.maxPermissions.testBit index = true ∨
        ∃ role ∈ roles, (fromStoragePermissions role.permissions).testBit index = true := by
  induction roles generalizing start with
  | nil => simp
  | cons role roles ih =>
    rw [List.foldl_cons, ih]
    simp [ActorContext.add, Nat.testBit_or, or_assoc]

/-- The top position of the context accumulates from any start. -/
private theorem lt_foldl_add :
    bound < (roles.foldl ActorContext.add start).topPosition ↔
      bound < start.topPosition ∨ ∃ role ∈ roles, bound < role.position := by
  induction roles generalizing start with
  | nil => simp
  | cons role roles ih =>
    have higher : bound < (start.add role).topPosition ↔
        bound < start.topPosition ∨ bound < role.position := by
      unfold ActorContext.add
      dsimp only
      split <;> omega
    rw [List.foldl_cons, ih, higher]
    simp [or_assoc]

/-- The actor's mask has the bits of its roles. -/
theorem testBit_maxPermissions :
    (computeActorContext db workspaceId actorUserId).maxPermissions.testBit index = true ↔
      ∃ role ∈ db.rolesOf workspaceId actorUserId,
        (fromStoragePermissions role.permissions).testBit index = true := by
  simp [computeActorContext, testBit_foldl_add]

/-- Below the actor's top position there is one of its roles above. -/
theorem lt_topPosition :
    bound < (computeActorContext db workspaceId actorUserId).topPosition ↔
      ∃ role ∈ db.rolesOf workspaceId actorUserId, bound < role.position := by
  simp [computeActorContext, lt_foldl_add]

end ActorContext

end Bongtalk.Workspaces.Roles
