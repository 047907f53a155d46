import Bongtalk.Auth.Permissions
import Bongtalk.Library.Table

/-!
# Rows and tables

The rows of the database that decide who sees what, with the unique keys and
the foreign keys of the schema. Columns that no modelled query reads are left out.
-/

namespace Bongtalk.Prisma

open Library Auth Shared Table

structure UserId where
  value : Nat
deriving DecidableEq, Repr

structure WorkspaceId where
  value : Nat
deriving DecidableEq, Repr

structure ChannelId where
  value : Nat
deriving DecidableEq, Repr

structure CategoryId where
  value : Nat
deriving DecidableEq, Repr

structure RoleId where
  value : Nat
deriving DecidableEq, Repr

structure MessageId where
  value : Nat
deriving DecidableEq, Repr

structure SnapshotId where
  value : Nat
deriving DecidableEq, Repr

/-- A point in time, in milliseconds. -/
abbrev DateTime := Nat

/-- A `Decimal(20, 10)` column, in units of the last decimal place. -/
abbrev Decimal := Int

/-- The database enumeration has the names of the system roles. -/
abbrev WorkspaceRole := SystemRoleName

inductive ChannelType where
  | text
  | voice
  | announcement
  | forum
  | direct
deriving DecidableEq, Repr

/-- A principal of a channel override. A `ROLE` principal id is the literal of a system
role or the id of a role row; a `USER` principal id is a user id. -/
inductive Principal where
  | user (id : UserId)
  | systemRole (role : WorkspaceRole)
  | role (id : RoleId)
deriving DecidableEq, Repr

namespace Principal

/-- `principalType === 'USER'`. -/
def isUser : Principal → Bool
  | user _ => true
  | _ => false

/-- `principalType === 'ROLE'`. -/
def isRole (principal : Principal) : Bool :=
  !principal.isUser

end Principal

structure Workspace where
  id : WorkspaceId
  deletedAt : Option DateTime := none
deriving DecidableEq, Repr

structure WorkspaceMember where
  workspaceId : WorkspaceId
  userId : UserId
  role : WorkspaceRole
deriving DecidableEq, Repr

structure Category where
  id : CategoryId
  workspaceId : WorkspaceId
  name : String
  description : Option String := none
  position : Decimal
  deletedAt : Option DateTime := none
  createdAt : DateTime
deriving DecidableEq, Repr

structure Channel where
  id : ChannelId
  workspaceId : Option WorkspaceId
  categoryId : Option CategoryId := none
  name : String
  type : ChannelType := .text
  topic : Option String := none
  description : Option String := none
  position : Decimal
  slowmodeSeconds : Int := 0
  memberCanPin : Bool := true
  fileUploadEnabled : Bool := true
  maxFileSizeBytes : Option Int := none
  isPrivate : Bool := false
  isDefault : Bool := false
  archivedAt : Option DateTime := none
  deletedAt : Option DateTime := none
  createdAt : DateTime
deriving DecidableEq, Repr

structure Role where
  id : RoleId
  workspaceId : WorkspaceId
  name : String
  colorHex : Option String := none
  /-- Requests and seeds only write positions from 0 on. -/
  position : Nat
  /-- The signed column value, read with `fromStoragePermissions`. -/
  permissions : Int := 0
  isSystem : Bool := false
  mentionable : Bool := false
  hoistInMemberList : Bool := false
deriving DecidableEq, Repr

structure MemberRole where
  workspaceId : WorkspaceId
  userId : UserId
  roleId : RoleId
deriving DecidableEq, Repr

structure ChannelPermissionOverride where
  channelId : ChannelId
  principal : Principal
  allowMask : OverrideMask := .none
  denyMask : OverrideMask := .none
deriving DecidableEq, Repr

abbrev WorkspaceMemberTable :=
  Table WorkspaceMember fun row => (row.workspaceId, row.userId)

abbrev RoleTable :=
  Table Role Role.id

abbrev MemberRoleTable :=
  Table MemberRole id

abbrev OverrideTable :=
  Table ChannelPermissionOverride fun row => (row.channelId, row.principal)

/-- The tables behind channel permissions. -/
structure Database where
  workspaces : Table Workspace Workspace.id
  workspaceMembers : WorkspaceMemberTable
  roles : RoleTable
  memberRoles : MemberRoleTable
  categories : Table Category Category.id
  channels : Table Channel Channel.id
  overrides : OverrideTable
  /-- Foreign key `MemberRole.roleId`. -/
  memberRoleRole : ∀ row ∈ memberRoles, ∃ role ∈ roles, role.id = row.roleId
  /-- Foreign key `MemberRole.(workspaceId, userId)`. -/
  memberRoleMember : ∀ row ∈ memberRoles, ∃ member ∈ workspaceMembers,
    member.workspaceId = row.workspaceId ∧ member.userId = row.userId

namespace Database

/-- A database whose members hold no role rows. -/
def withoutRoles (workspaceMembers : WorkspaceMemberTable) (channels : Table Channel Channel.id)
    (overrides : OverrideTable) : Database where
  workspaces := .empty
  workspaceMembers := workspaceMembers
  roles := .empty
  memberRoles := .empty
  categories := .empty
  channels := channels
  overrides := overrides
  memberRoleRole := by simp [Table.empty, mem_def]
  memberRoleMember := by simp [Table.empty, mem_def]

/-- Insert a role row under a new id. -/
def insertRole? (db : Database) (role : Role) : Option Database :=
  match inserted : db.roles.insert? role with
  | none => none
  | some roles => some { db with
      roles := roles
      memberRoleRole := by
        intro row assigned
        obtain ⟨held, present, idEq⟩ := db.memberRoleRole row assigned
        exact ⟨held, (mem_insert? inserted).mpr (.inr present), idEq⟩ }

/-- Change the columns of the role row with a given id. -/
def updateRole (db : Database) (roleId : RoleId) (change : Role → Role)
    (keeps : ∀ role, (change role).id = role.id) : Database :=
  let changeRow := fun role : Role => if role.id = roleId then change role else role
  have keepsRow : ∀ role, (changeRow role).id = role.id := by
    intro role
    by_cases same : role.id = roleId
    · simp [changeRow, same, keeps]
    · simp [changeRow, same]
  { db with
    roles := db.roles.rewrite changeRow keepsRow
    memberRoleRole := by
      intro row assigned
      obtain ⟨held, present, idEq⟩ := db.memberRoleRole row assigned
      exact ⟨changeRow held, mem_rewrite.mpr ⟨held, present, rfl⟩, (keepsRow held).trans idEq⟩ }

/-- Delete a role row; its `MemberRole` rows go with it. -/
def deleteRole (db : Database) (roleId : RoleId) : Database :=
  { db with
    roles := db.roles.deleteMany fun role => role.id == roleId
    memberRoles := db.memberRoles.deleteMany fun row => row.roleId == roleId
    memberRoleRole := by
      intro row assigned
      obtain ⟨assigned, otherRole⟩ := mem_deleteMany.mp assigned
      obtain ⟨held, present, idEq⟩ := db.memberRoleRole row assigned
      exact ⟨held, mem_deleteMany.mpr ⟨present, by rw [idEq, otherRole]⟩, idEq⟩
    memberRoleMember := fun row assigned =>
      db.memberRoleMember row (mem_deleteMany.mp assigned).1 }

/-- Upsert a `MemberRole` row between an existing member and an existing role. -/
def upsertMemberRole (db : Database) (row : MemberRole)
    (hasRole : ∃ role ∈ db.roles, role.id = row.roleId)
    (hasMember : ∃ member ∈ db.workspaceMembers,
      member.workspaceId = row.workspaceId ∧ member.userId = row.userId) : Database :=
  { db with
    memberRoles := db.memberRoles.upsert row
    memberRoleRole := by
      intro other assigned
      rcases mem_upsert.mp assigned with rfl | ⟨assigned, -⟩
      · exact hasRole
      · exact db.memberRoleRole other assigned
    memberRoleMember := by
      intro other assigned
      rcases mem_upsert.mp assigned with rfl | ⟨assigned, -⟩
      · exact hasMember
      · exact db.memberRoleMember other assigned }

/-- Delete `MemberRole` rows. -/
def deleteMemberRoles (db : Database) (condition : MemberRole → Bool) : Database :=
  { db with
    memberRoles := db.memberRoles.deleteMany condition
    memberRoleRole := fun row assigned =>
      db.memberRoleRole row (mem_deleteMany.mp assigned).1
    memberRoleMember := fun row assigned =>
      db.memberRoleMember row (mem_deleteMany.mp assigned).1 }

/-- Insert a member under a new key. -/
def insertMember? (db : Database) (member : WorkspaceMember) : Option Database :=
  match inserted : db.workspaceMembers.insert? member with
  | none => none
  | some workspaceMembers => some { db with
      workspaceMembers := workspaceMembers
      memberRoleMember := by
        intro row assigned
        obtain ⟨holder, present, same⟩ := db.memberRoleMember row assigned
        exact ⟨holder, (mem_insert? inserted).mpr (.inr present), same⟩ }

/-- Create a `MemberRole` row unless it is there; both of its foreign keys have to hold. -/
def createMemberRole? (db : Database) (row : MemberRole) : Option Database :=
  match foundRole : db.roles.findUnique row.roleId with
  | none => none
  | some role =>
    match foundMember : db.workspaceMembers.findUnique (row.workspaceId, row.userId) with
    | none => none
    | some member => some (db.upsertMemberRole row
        ⟨role, mem_of_findUnique foundRole⟩
        ⟨member, (mem_of_findUnique foundMember).1, Prod.mk.inj (mem_of_findUnique foundMember).2⟩)

/-- Give members of a workspace a role in their own rows. -/
def setMemberRole (db : Database) (workspaceId : WorkspaceId) (userIds : List UserId)
    (role : WorkspaceRole) : Database :=
  let change := fun row : WorkspaceMember =>
    if row.workspaceId = workspaceId ∧ row.userId ∈ userIds then { row with role := role } else row
  have keeps : ∀ row, (change row).workspaceId = row.workspaceId ∧
      (change row).userId = row.userId := by
    intro row
    dsimp only [change]
    split
    · exact ⟨rfl, rfl⟩
    · exact ⟨rfl, rfl⟩
  { db with
    workspaceMembers := db.workspaceMembers.rewrite change fun row =>
      Prod.ext (keeps row).1 (keeps row).2
    memberRoleMember := by
      intro row assigned
      obtain ⟨holder, present, sameWorkspace, sameUser⟩ := db.memberRoleMember row assigned
      exact ⟨change holder, mem_rewrite.mpr ⟨holder, present, rfl⟩,
        (keeps holder).1.trans sameWorkspace, (keeps holder).2.trans sameUser⟩ }

/-- Delete a member; its `MemberRole` rows go with it. -/
def deleteMember (db : Database) (workspaceId : WorkspaceId) (userId : UserId) : Database :=
  let isMember := fun (row : WorkspaceMember) =>
    row.workspaceId == workspaceId && row.userId == userId
  { db with
    workspaceMembers := db.workspaceMembers.deleteMany isMember
    memberRoles := db.memberRoles.deleteMany fun row =>
      row.workspaceId == workspaceId && row.userId == userId
    memberRoleRole := fun row assigned =>
      db.memberRoleRole row (mem_deleteMany.mp assigned).1
    memberRoleMember := by
      intro row assigned
      obtain ⟨assigned, other⟩ := mem_deleteMany.mp assigned
      obtain ⟨holder, present, sameWorkspace, sameUser⟩ := db.memberRoleMember row assigned
      refine ⟨holder, mem_deleteMany.mpr ⟨present, ?_⟩, sameWorkspace, sameUser⟩
      simpa only [isMember, sameWorkspace, sameUser] using other }

/-- `memberRoles: { select: { role } }` of a member. -/
def rolesOf (db : Database) (workspaceId : WorkspaceId) (userId : UserId) : List Role :=
  (db.memberRoles.findMany fun row =>
      row.workspaceId == workspaceId && row.userId == userId).filterMap fun row =>
    db.roles.findUnique row.roleId

/-- `memberRoles: { select: { roleId } }` of a member. -/
def roleIdsOf (db : Database) (workspaceId : WorkspaceId) (userId : UserId) : List RoleId :=
  (db.memberRoles.findMany fun row =>
      row.workspaceId == workspaceId && row.userId == userId).map MemberRole.roleId

/-- `workspaceMember.findUnique`. -/
def findMember (db : Database) (workspaceId : WorkspaceId) (userId : UserId) :
    Option WorkspaceMember :=
  db.workspaceMembers.findUnique (workspaceId, userId)

variable {db : Database} {workspaceId : WorkspaceId} {userId : UserId} {role : Role}

theorem mem_rolesOf :
    role ∈ db.rolesOf workspaceId userId ↔
      role ∈ db.roles ∧ (⟨workspaceId, userId, role.id⟩ : MemberRole) ∈ db.memberRoles := by
  simp only [rolesOf, List.mem_filterMap, mem_findMany, Bool.and_eq_true, beq_iff_eq,
    findUnique_eq_some_iff]
  constructor
  · rintro ⟨⟨_, _, _⟩, ⟨assigned, rfl, rfl⟩, present, rfl⟩
    exact ⟨present, assigned⟩
  · rintro ⟨present, assigned⟩
    exact ⟨_, ⟨assigned, rfl, rfl⟩, present, rfl⟩

/-- The foreign key makes the joined roles the assigned ones. -/
theorem map_id_rolesOf (db : Database) (workspaceId : WorkspaceId) (userId : UserId) :
    (db.rolesOf workspaceId userId).map Role.id = db.roleIdsOf workspaceId userId := by
  have joined : ∀ rows : List MemberRole, (∀ row ∈ rows, row ∈ db.memberRoles) →
      (rows.filterMap fun row => db.roles.findUnique row.roleId).map Role.id =
        rows.map MemberRole.roleId := by
    intro rows assigned
    induction rows with
    | nil => rfl
    | cons row rows ih =>
      obtain ⟨role, present, idEq⟩ :=
        db.memberRoleRole row (assigned row List.mem_cons_self)
      have found : db.roles.findUnique row.roleId = some role :=
        findUnique_eq_some_iff.mpr ⟨present, idEq⟩
      have restEq := ih fun other otherMem =>
        assigned other (List.mem_cons_of_mem _ otherMem)
      simp only [List.filterMap_cons, found, List.map_cons, idEq, restEq]
  exact joined _ fun row rowMem => (mem_findMany.mp rowMem).1

/-- A new role row is held by nobody: an assignment to its id would have had its role. -/
theorem mem_rolesOf_insertRole? {db next : Database} {row role : Role}
    (inserted : db.insertRole? row = some next) :
    role ∈ next.rolesOf workspaceId userId ↔ role ∈ db.rolesOf workspaceId userId := by
  unfold insertRole? at inserted
  split at inserted
  · cases inserted
  next roles rolesEq =>
    cases inserted
    simp only [mem_rolesOf, mem_insert? rolesEq]
    constructor
    · rintro ⟨rfl | present, assigned⟩
      · obtain ⟨held, present, idEq⟩ := db.memberRoleRole _ assigned
        exact absurd idEq ((Table.insert?_eq_some_iff.mp rolesEq).1 held present)
      · exact ⟨present, assigned⟩
    · rintro ⟨present, assigned⟩
      exact ⟨.inr present, assigned⟩

variable {roleId : RoleId}

theorem mem_roles_updateRole {change : Role → Role} {keeps : ∀ role, (change role).id = role.id} :
    role ∈ (db.updateRole roleId change keeps).roles ↔
      ∃ old ∈ db.roles, (if old.id = roleId then change old else old) = role :=
  List.mem_map

/-- A changed role row is held by the members who held it before. -/
theorem mem_rolesOf_updateRole {change : Role → Role} {keeps : ∀ role, (change role).id = role.id} :
    role ∈ (db.updateRole roleId change keeps).rolesOf workspaceId userId ↔
      ∃ old ∈ db.rolesOf workspaceId userId,
        role = if old.id = roleId then change old else old := by
  have keepsRow : ∀ old : Role, (if old.id = roleId then change old else old).id = old.id := by
    intro old
    split
    · exact keeps old
    · rfl
  simp only [mem_rolesOf, updateRole, mem_rewrite]
  constructor
  · rintro ⟨⟨old, present, rfl⟩, assigned⟩
    exact ⟨old, ⟨present, keepsRow old ▸ assigned⟩, rfl⟩
  · rintro ⟨old, ⟨present, assigned⟩, rfl⟩
    exact ⟨⟨old, present, rfl⟩, (keepsRow old).symm ▸ assigned⟩

theorem rolesOf_deleteRole (held : role ∈ (db.deleteRole roleId).rolesOf workspaceId userId) :
    role ∈ db.rolesOf workspaceId userId := by
  obtain ⟨present, assigned⟩ := mem_rolesOf.mp held
  exact mem_rolesOf.mpr ⟨(mem_deleteMany.mp present).1, (mem_deleteMany.mp assigned).1⟩

theorem rolesOf_deleteMemberRoles {condition : MemberRole → Bool}
    (held : role ∈ (db.deleteMemberRoles condition).rolesOf workspaceId userId) :
    role ∈ db.rolesOf workspaceId userId := by
  obtain ⟨present, assigned⟩ := mem_rolesOf.mp held
  exact mem_rolesOf.mpr ⟨present, (mem_deleteMany.mp assigned).1⟩

/-- An upserted assignment adds its role to its member. -/
theorem mem_rolesOf_upsertMemberRole {row : MemberRole}
    {hasRole : ∃ role ∈ db.roles, role.id = row.roleId}
    {hasMember : ∃ member ∈ db.workspaceMembers, member.workspaceId = row.workspaceId ∧
      member.userId = row.userId}
    (held : role ∈ (db.upsertMemberRole row hasRole hasMember).rolesOf workspaceId userId) :
    role ∈ db.rolesOf workspaceId userId ∨ (role ∈ db.roles ∧ role.id = row.roleId) := by
  obtain ⟨present, assigned⟩ := mem_rolesOf.mp held
  rcases mem_upsert.mp assigned with same | ⟨assigned, -⟩
  · exact .inr ⟨present, congrArg MemberRole.roleId same⟩
  · exact .inl (mem_rolesOf.mpr ⟨present, assigned⟩)

/-- A created assignment is the upserted one; without one of its keys there is none. -/
theorem createMemberRole?_eq_some {db next : Database} {row : MemberRole}
    (created : db.createMemberRole? row = some next) :
    ∃ hasRole hasMember, next = db.upsertMemberRole row hasRole hasMember := by
  unfold createMemberRole? at created
  split at created
  · cases created
  split at created
  · cases created
  exact ⟨_, _, (Option.some.inj created).symm⟩

theorem mem_memberRoles_createMemberRole? {db next : Database} {row other : MemberRole}
    (created : db.createMemberRole? row = some next) :
    other ∈ next.memberRoles ↔ other = row ∨ other ∈ db.memberRoles := by
  obtain ⟨hasRole, hasMember, rfl⟩ := createMemberRole?_eq_some created
  rw [upsertMemberRole, mem_upsert]
  constructor
  · exact Or.imp_right And.left
  · rintro (same | present)
    · exact .inl same
    · exact or_iff_not_imp_left.mpr fun different => ⟨present, different⟩

theorem mem_setMemberRole {userIds : List UserId} {role : WorkspaceRole} {row : WorkspaceMember} :
    row ∈ (db.setMemberRole workspaceId userIds role).workspaceMembers ↔
      ∃ old ∈ db.workspaceMembers,
        (if old.workspaceId = workspaceId ∧ old.userId ∈ userIds then { old with role := role }
          else old) = row :=
  List.mem_map

/-- An inserted role row is the one new row, of a new id. -/
theorem insertRole?_spec {db next : Database} (inserted : db.insertRole? role = some next) :
    next.workspaces = db.workspaces ∧ next.workspaceMembers = db.workspaceMembers ∧
      next.memberRoles = db.memberRoles ∧ (∀ old ∈ db.roles, old.id ≠ role.id) ∧
      ∀ other, other ∈ next.roles ↔ other = role ∨ other ∈ db.roles := by
  unfold insertRole? at inserted
  split at inserted
  · cases inserted
  next roles rolesEq =>
    cases inserted
    exact ⟨rfl, rfl, rfl, (Table.insert?_eq_some_iff.mp rolesEq).1,
      fun other => mem_insert? rolesEq⟩

/-- An inserted member is the one new row, of a user who was no member. -/
theorem insertMember?_spec {db next : Database} {member : WorkspaceMember}
    (inserted : db.insertMember? member = some next) :
    next.workspaces = db.workspaces ∧ next.roles = db.roles ∧
      next.memberRoles = db.memberRoles ∧
      (∀ row ∈ db.workspaceMembers,
        ¬(row.workspaceId = member.workspaceId ∧ row.userId = member.userId)) ∧
      ∀ row, row ∈ next.workspaceMembers ↔ row = member ∨ row ∈ db.workspaceMembers := by
  unfold insertMember? at inserted
  split at inserted
  · cases inserted
  next workspaceMembers membersEq =>
    cases inserted
    refine ⟨rfl, rfl, rfl, ?_, fun row => mem_insert? membersEq⟩
    rintro row present ⟨sameWorkspace, sameUser⟩
    exact (Table.insert?_eq_some_iff.mp membersEq).1 row present (Prod.ext sameWorkspace sameUser)

end Database

end Bongtalk.Prisma
