import Bongtalk.Workspaces.Membership

/-!
# The rows of the system roles

A workspace is seeded with one role row for each system role. A member's role is a column of its
own row, and beside it the member holds the row of that system role. Every change of the column
exchanges the held row in the same transaction.
-/

namespace Bongtalk.Workspaces.Roles

open Library Common Prisma Shared Database List

variable {workspaceId : WorkspaceId} {db next : Database}

/-- `SYSTEM_ROLE_NAMES` -/
def systemRoleNames : List SystemRoleName :=
  [.owner, .admin, .moderator, .member, .guest]

/-- The seeded row of a system role. -/
def systemRoleSeed (workspaceId : WorkspaceId) (id : RoleId) (name : SystemRoleName) : Role where
  id := id
  workspaceId := workspaceId
  name := roleLiteral name
  colorHex := none
  position := systemRolePosition name
  permissions := toStoragePermissions (systemRolePermissions name)
  isSystem := true
  hoistInMemberList := systemRoleHoistDefault name

/-- A created role is skipped when its name or its id is taken. -/
def createRole (db : Database) (role : Role) : Database :=
  if db.roles.rows.any fun old => old.workspaceId == role.workspaceId && old.name == role.name then
    db
  else (db.insertRole? role).getD db

/-- `newIds` are the generated ids of the rows. -/
def seedSystemRoles (db : Database) (workspaceId : WorkspaceId) (newIds : SystemRoleName → RoleId) :
    Database :=
  systemRoleNames.foldl
    (fun db name => createRole db (systemRoleSeed workspaceId (newIds name) name)) db

def findSystemRoles (db : Database) (workspaceId : WorkspaceId) : List Role :=
  db.roles.findMany fun role => role.workspaceId == workspaceId && role.isSystem

def findSystemRole (db : Database) (workspaceId : WorkspaceId) (roleName : SystemRoleName) :
    Option Role :=
  (findSystemRoles db workspaceId).find? fun role => role.name == roleLiteral roleName

/-- Create the assignments of one role, one user after the other. -/
def createMemberRoles (workspaceId : WorkspaceId) (roleId : RoleId) :
    Database → List UserId → Except Failure Database
  | db, [] => .ok db
  | db, userId :: rest =>
    match db.createMemberRole? ⟨workspaceId, userId, roleId⟩ with
    | none => .error .foreignKeyViolation
    | some next => createMemberRoles workspaceId roleId next rest

def seedMemberSystemRole (db : Database) (workspaceId : WorkspaceId) (userId : UserId)
    (roleName : SystemRoleName) : Except Failure Database :=
  match findSystemRole db workspaceId roleName with
  | none => .ok db
  | some role => createMemberRoles workspaceId role.id db [userId]

/-- Delete the system roles that the users hold, and create the target for each of them. -/
def replaceSystemRoles (db : Database) (workspaceId : WorkspaceId) (userIds : List UserId)
    (target : Role) : Except Failure Database :=
  let systemRoleIds := (findSystemRoles db workspaceId).map Role.id
  createMemberRoles workspaceId target.id
    (db.deleteMemberRoles fun row =>
      row.workspaceId == workspaceId && userIds.contains row.userId &&
        systemRoleIds.contains row.roleId)
    userIds

/-- The workspace is seeded first if it misses the role. -/
def syncSystemRoles (db : Database) (workspaceId : WorkspaceId) (userIds : List UserId)
    (roleName : SystemRoleName) (newIds : SystemRoleName → RoleId) : Except Failure Database :=
  match findSystemRole db workspaceId roleName with
  | some target => replaceSystemRoles db workspaceId userIds target
  | none =>
    let seeded := seedSystemRoles db workspaceId newIds
    match findSystemRole seeded workspaceId roleName with
    | some target => replaceSystemRoles seeded workspaceId userIds target
    | none => .ok seeded

def syncMemberSystemRole (db : Database) (workspaceId : WorkspaceId) (userId : UserId)
    (roleName : SystemRoleName) (newIds : SystemRoleName → RoleId) : Except Failure Database :=
  syncSystemRoles db workspaceId [userId] roleName newIds

def syncMembersSystemRole (db : Database) (workspaceId : WorkspaceId) (userIds : List UserId)
    (roleName : SystemRoleName) (newIds : SystemRoleName → RoleId) : Except Failure Database :=
  if userIds = [] then .ok db else syncSystemRoles db workspaceId userIds roleName newIds

theorem mem_systemRoleNames (name : SystemRoleName) : name ∈ systemRoleNames := by
  cases name <;> decide

theorem roleLiteral_injective : Function.Injective roleLiteral := by
  intro first second same
  cases first <;> cases second <;> first | rfl | exact absurd same (by decide)

theorem mem_findSystemRoles {db : Database} {role : Role} :
    role ∈ findSystemRoles db workspaceId ↔
      role ∈ db.roles ∧ role.workspaceId = workspaceId ∧ role.isSystem = true := by
  simp [findSystemRoles]

theorem findSystemRole_eq_some {db : Database} {roleName : SystemRoleName} {role : Role}
    (found : findSystemRole db workspaceId roleName = some role) :
    role ∈ db.roles ∧ role.workspaceId = workspaceId ∧ role.isSystem = true ∧
      role.name = roleLiteral roleName := by
  obtain ⟨present, sameWorkspace, isSystem⟩ :=
    mem_findSystemRoles.mp (mem_of_find?_eq_some found)
  have named := List.find?_some found
  exact ⟨present, sameWorkspace, isSystem, by simpa using named⟩

theorem exists_findSystemRole {db : Database} {roleName : SystemRoleName} {role : Role}
    (present : role ∈ db.roles) (sameWorkspace : role.workspaceId = workspaceId)
    (isSystem : role.isSystem = true) (named : role.name = roleLiteral roleName) :
    ∃ target, findSystemRole db workspaceId roleName = some target := by
  rw [← Option.isSome_iff_exists, findSystemRole, List.find?_isSome]
  exact ⟨role, mem_findSystemRoles.mpr ⟨present, sameWorkspace, isSystem⟩, by simpa using named⟩

section Seeds

variable {newIds : SystemRoleName → RoleId}

/-- The generated ids are new and different from each other. -/
def FreshIds (db : Database) (newIds : SystemRoleName → RoleId) : Prop :=
  Function.Injective newIds ∧ ∀ role ∈ db.roles, ∀ name, role.id ≠ newIds name

theorem createRole_of_free {db : Database} {role : Role}
    (freeName : ∀ old ∈ db.roles, old.workspaceId = role.workspaceId → old.name ≠ role.name)
    (freeId : ∀ old ∈ db.roles, old.id ≠ role.id) :
    db.insertRole? role = some (createRole db role) := by
  have free : ¬(db.roles.rows.any fun old =>
      old.workspaceId == role.workspaceId && old.name == role.name) = true := by
    simp only [any_eq_true, Bool.and_eq_true, beq_iff_eq, not_exists, not_and]
    exact freeName
  rw [createRole, if_neg free]
  cases inserted : db.insertRole? role with
  | some next => rfl
  | none =>
    unfold insertRole? at inserted
    split at inserted
    next refused =>
      obtain ⟨old, present, same⟩ := Table.insert?_eq_none_iff.mp refused
      exact absurd same (freeId old present)
    · cases inserted

variable {names : List SystemRoleName}

/-- The names after a seeded one stay free. -/
private theorem freeName_createRole {name : SystemRoleName} {db next : Database}
    (absent : name ∉ names)
    (freeName : ∀ role ∈ db.roles, role.workspaceId = workspaceId → ∀ other ∈ name :: names,
      role.name ≠ roleLiteral other)
    (rows : ∀ role, role ∈ next.roles ↔ role = systemRoleSeed workspaceId (newIds name) name ∨ role
      ∈ db.roles) :
    ∀ role ∈ next.roles, role.workspaceId = workspaceId →
      ∀ other ∈ names, role.name ≠ roleLiteral other := by
  intro role present sameWorkspace other otherMem
  rcases (rows role).mp present with rfl | before
  · intro same
    exact absent (roleLiteral_injective same ▸ otherMem)
  · exact freeName role before sameWorkspace other (mem_cons_of_mem _ otherMem)

private theorem freeId_createRole {name : SystemRoleName} {db next : Database}
    (absent : name ∉ names) (injective : Function.Injective newIds)
    (freeId : ∀ role ∈ db.roles, ∀ other ∈ name :: names, role.id ≠ newIds other)
    (rows : ∀ role, role ∈ next.roles ↔ role = systemRoleSeed workspaceId (newIds name) name ∨ role
      ∈ db.roles) :
    ∀ role ∈ next.roles, ∀ other ∈ names, role.id ≠ newIds other := by
  intro role present other otherMem
  rcases (rows role).mp present with rfl | before
  · intro same
    exact absent (injective same ▸ otherMem)
  · exact freeId role before other (mem_cons_of_mem _ otherMem)

/-- Seeding the roles that a workspace does not have adds their rows. -/
theorem foldl_createRole_spec {db : Database} (nodup : names.Nodup)
    (injective : Function.Injective newIds)
    (freeName : ∀ role ∈ db.roles, role.workspaceId = workspaceId → ∀ name ∈ names, role.name ≠
      roleLiteral name) (freeId : ∀ role ∈ db.roles, ∀ name ∈ names, role.id ≠ newIds name) :
    let next := names.foldl
      (fun db name => createRole db (systemRoleSeed workspaceId (newIds name) name)) db
    next.workspaces = db.workspaces ∧ next.workspaceMembers = db.workspaceMembers ∧
      next.memberRoles = db.memberRoles ∧
      ∀ role, role ∈ next.roles ↔
        role ∈ db.roles ∨ ∃ name ∈ names, role = systemRoleSeed workspaceId (newIds name) name := by
  induction names generalizing db with
  | nil => simp
  | cons name names ih =>
    obtain ⟨absent, nodup⟩ := nodup_cons.mp nodup
    have inserted : db.insertRole? (systemRoleSeed workspaceId (newIds name) name) = some _ :=
      createRole_of_free (fun old present same => freeName old present same name mem_cons_self)
        (fun old present => freeId old present name mem_cons_self)
    obtain ⟨workspacesEq, membersEq, memberRolesEq, -, rows⟩ :=
      insertRole?_spec inserted
    obtain ⟨restWorkspaces, restMembers, restMemberRoles, restRows⟩ :=
      ih nodup (freeName_createRole absent freeName rows)
        (freeId_createRole absent injective freeId rows)
    refine ⟨restWorkspaces.trans workspacesEq, restMembers.trans membersEq,
      restMemberRoles.trans memberRolesEq, fun role => ?_⟩
    rw [foldl_cons, restRows, rows]
    simp only [mem_cons, exists_eq_or_imp]
    tauto

theorem seedSystemRoles_spec {db : Database} (fresh : FreshIds db newIds)
    (unseeded : ∀ role ∈ db.roles, role.workspaceId ≠ workspaceId) :
    (seedSystemRoles db workspaceId newIds).workspaces = db.workspaces ∧
      (seedSystemRoles db workspaceId newIds).workspaceMembers = db.workspaceMembers ∧
      (seedSystemRoles db workspaceId newIds).memberRoles = db.memberRoles ∧
      ∀ role, role ∈ (seedSystemRoles db workspaceId newIds).roles ↔
        role ∈ db.roles ∨ ∃ name, role = systemRoleSeed workspaceId (newIds name) name := by
  have nodup : systemRoleNames.Nodup := by decide
  have freeName : ∀ role ∈ db.roles, role.workspaceId = workspaceId →
      ∀ name ∈ systemRoleNames, role.name ≠ roleLiteral name :=
    fun role present sameWorkspace => absurd sameWorkspace (unseeded role present)
  have spec := foldl_createRole_spec nodup fresh.1 freeName
    fun role present name _ => fresh.2 role present name
  simpa only [seedSystemRoles, mem_systemRoleNames, true_and] using spec

end Seeds

/-- Created assignments leave the other tables alone. -/
theorem createMemberRoles_spec {roleId : RoleId} {userIds : List UserId}
    (created : createMemberRoles workspaceId roleId db userIds = .ok next) :
    next.workspaces = db.workspaces ∧ next.workspaceMembers = db.workspaceMembers ∧
      next.roles = db.roles ∧
      ∀ row : MemberRole, row ∈ next.memberRoles ↔
        (row.workspaceId = workspaceId ∧ row.userId ∈ userIds ∧ row.roleId = roleId) ∨
          row ∈ db.memberRoles := by
  induction userIds generalizing db with
  | nil =>
    cases created
    simp
  | cons userId rest ih =>
    rw [createMemberRoles] at created
    split at created
    · cases created
    next first firstEq =>
      obtain ⟨workspacesEq, membersEq, rolesEq, rows⟩ := ih created
      obtain ⟨hasRole, hasMember, firstIs⟩ := createMemberRole?_eq_some firstEq
      refine ⟨workspacesEq.trans (by rw [firstIs]; rfl), membersEq.trans (by rw [firstIs]; rfl),
        rolesEq.trans (by rw [firstIs]; rfl), ?_⟩
      intro row
      rw [rows, mem_memberRoles_createMemberRole? firstEq, mem_cons]
      rcases row with ⟨rowWorkspace, rowUser, rowRole⟩
      simp only [MemberRole.mk.injEq]
      tauto

/-- What the tables say of the role rows: every workspace has its seeded ones, a name is one role
of its workspace, and members hold roles of their own workspace. -/
structure SeededRoles (db : Database) : Prop where
  seeded : ∀ workspace ∈ db.workspaces, ∀ name, ∃ role ∈ db.roles,
    role.workspaceId = workspace.id ∧ role.isSystem = true ∧ role.name = roleLiteral name
  system : ∀ role ∈ db.roles, role.isSystem = true → ∃ name, role.name = roleLiteral name ∧
    role.permissions = toStoragePermissions (systemRolePermissions name)
  named : ∀ first ∈ db.roles, ∀ second ∈ db.roles, first.workspaceId = second.workspaceId →
    first.name = second.name → first = second
  roleWorkspace : ∀ role ∈ db.roles, ∃ workspace ∈ db.workspaces, workspace.id = role.workspaceId
  memberWorkspace : ∀ member ∈ db.workspaceMembers, ∃ workspace ∈ db.workspaces,
    workspace.id = member.workspaceId
  assignedWorkspace : ∀ row ∈ db.memberRoles, ∀ role ∈ db.roles, role.id = row.roleId →
    role.workspaceId = row.workspaceId

/-- A member holds the row of a system role. -/
def HoldsSystemRole (db : Database) (workspaceId : WorkspaceId) (userId : UserId)
    (name : SystemRoleName) : Prop :=
  ∃ role ∈ db.rolesOf workspaceId userId, role.isSystem = true ∧ role.name = roleLiteral name

section Sync

variable {userId : UserId} {role target : Role} {roleName : SystemRoleName}

/-- A role held in a workspace is a role of that workspace. -/
theorem SeededRoles.workspaceId_of_held (lawful : SeededRoles db)
    (held : role ∈ db.rolesOf workspaceId userId) : role.workspaceId = workspaceId := by
  obtain ⟨present, assigned⟩ := mem_rolesOf.mp held
  exact lawful.assignedWorkspace _ assigned role present rfl

/-- Where rows of one system role of the workspace are created beside kept ones, the tables stay
as they should be. -/
theorem SeededRoles.of_assigned (lawful : SeededRoles db) {target : Role}
    (targetMem : target ∈ db.roles) (targetWorkspace : target.workspaceId = workspaceId)
    (workspacesEq : next.workspaces = db.workspaces)
    (membersEq : next.workspaceMembers = db.workspaceMembers) (rolesEq : next.roles = db.roles)
    (rows : ∀ row ∈ next.memberRoles,
      (row.workspaceId = workspaceId ∧ row.roleId = target.id) ∨ row ∈ db.memberRoles) :
    SeededRoles next where
  seeded := by rw [workspacesEq, rolesEq]; exact lawful.seeded
  system := by rw [rolesEq]; exact lawful.system
  named := by rw [rolesEq]; exact lawful.named
  roleWorkspace := by rw [workspacesEq, rolesEq]; exact lawful.roleWorkspace
  memberWorkspace := by rw [workspacesEq, membersEq]; exact lawful.memberWorkspace
  assignedWorkspace := by
    intro row assigned role present idEq
    rw [rolesEq] at present
    rcases rows row assigned with ⟨sameWorkspace, roleEq⟩ | before
    · have same : role = target := Table.eq_of_key_eq present targetMem (idEq.trans roleEq)
      rw [same, targetWorkspace, sameWorkspace]
    · exact lawful.assignedWorkspace row before role present idEq

/-- What a synchronisation does to the system roles that are held. -/
structure SyncEffect (db next : Database) (workspaceId : WorkspaceId) (userIds : List UserId)
    (roleName : SystemRoleName) : Prop where
  lawful : SeededRoles next
  workspaces : next.workspaces = db.workspaces
  members : next.workspaceMembers = db.workspaceMembers
  holds : ∀ userId ∈ userIds, ∀ name, HoldsSystemRole next workspaceId userId name ↔ name = roleName
  elsewhere : ∀ ofWorkspace userId, ¬(ofWorkspace = workspaceId ∧ userId ∈ userIds) → ∀ name,
    HoldsSystemRole next ofWorkspace userId name ↔ HoldsSystemRole db ofWorkspace userId name

variable {userIds : List UserId}

/-- Users without system roles who get the row of one of them hold that one alone. -/
theorem createMemberRoles_effect (lawful : SeededRoles db)
    (found : findSystemRole db workspaceId roleName = some target)
    (noneHeld : ∀ userId ∈ userIds, ∀ name, ¬HoldsSystemRole db workspaceId userId name)
    (created : createMemberRoles workspaceId target.id db userIds = .ok next) :
    SyncEffect db next workspaceId userIds roleName := by
  obtain ⟨targetMem, targetWorkspace, targetSystem, targetName⟩ := findSystemRole_eq_some found
  obtain ⟨workspacesEq, membersEq, rolesEq, rows⟩ := createMemberRoles_spec created
  refine ⟨?_, workspacesEq, membersEq, ?_, ?_⟩
  · apply lawful.of_assigned targetMem targetWorkspace workspacesEq membersEq rolesEq
    intro row assigned
    exact ((rows row).mp assigned).imp_left fun createdRow => ⟨createdRow.1, createdRow.2.2⟩
  · intro userId listed name
    constructor
    · rintro ⟨role, held, isSystem, named⟩
      obtain ⟨present, assigned⟩ := mem_rolesOf.mp held
      rw [rolesEq] at present
      rcases (rows _).mp assigned with ⟨-, -, idEq⟩ | before
      · obtain rfl := Table.eq_of_key_eq present targetMem idEq
        exact roleLiteral_injective (named.symm.trans targetName)
      · have heldBefore := mem_rolesOf.mpr ⟨present, before⟩
        exact absurd ⟨role, heldBefore, isSystem, named⟩ (noneHeld userId listed name)
    · rintro rfl
      have assigned := (rows ⟨workspaceId, userId, target.id⟩).mpr (.inl ⟨rfl, listed, rfl⟩)
      exact ⟨target, mem_rolesOf.mpr ⟨rolesEq ▸ targetMem, assigned⟩, targetSystem, targetName⟩
  · intro ofWorkspace userId other name
    have sameRows : ∀ roleId, (⟨ofWorkspace, userId, roleId⟩ : MemberRole) ∈ next.memberRoles ↔
        (⟨ofWorkspace, userId, roleId⟩ : MemberRole) ∈ db.memberRoles := by
      intro roleId
      rw [rows]
      exact or_iff_right fun createdRow => other ⟨createdRow.1, createdRow.2.1⟩
    simp only [HoldsSystemRole, mem_rolesOf, sameRows, rolesEq]

/-- After the deletion the users hold their custom roles, and the others what they held. -/
theorem mem_rolesOf_deleteSystemRoles (lawful : SeededRoles db) {ofWorkspace : WorkspaceId} :
    role ∈ (db.deleteMemberRoles fun row => row.workspaceId == workspaceId &&
        userIds.contains row.userId &&
          ((findSystemRoles db workspaceId).map Role.id).contains row.roleId).rolesOf ofWorkspace
      userId ↔
      role ∈ db.rolesOf ofWorkspace userId ∧
        ¬((ofWorkspace = workspaceId ∧ userId ∈ userIds) ∧ role.isSystem = true) := by
  have ofSystem : role ∈ db.rolesOf ofWorkspace userId → ofWorkspace = workspaceId →
      ((∃ system ∈ findSystemRoles db workspaceId, system.id = role.id) ↔
        role.isSystem = true) := by
    rintro held rfl
    obtain ⟨present, -⟩ := mem_rolesOf.mp held
    constructor
    · rintro ⟨system, systemMem, sameId⟩
      obtain ⟨systemPresent, -, isSystem⟩ := mem_findSystemRoles.mp systemMem
      exact Table.eq_of_key_eq systemPresent present sameId ▸ isSystem
    · intro isSystem
      exact ⟨role, mem_findSystemRoles.mpr ⟨present, lawful.workspaceId_of_held held, isSystem⟩,
        rfl⟩
  rw [mem_rolesOf, deleteMemberRoles, Table.mem_deleteMany]
  change role ∈ db.roles ∧ _ ↔ _
  rw [← and_assoc, ← mem_rolesOf]
  refine and_congr_right fun held => ?_
  rw [Bool.eq_false_iff, not_iff_not]
  simp only [Bool.and_eq_true, beq_iff_eq, contains_iff_mem, mem_map]
  exact and_congr_right fun listed => ofSystem held listed.1

/-- In a seeded workspace a synchronisation leaves each user with the one system role. -/
theorem syncSystemRoles_effect (lawful : SeededRoles db) {workspace : Workspace}
    (present : workspace ∈ db.workspaces) {newIds : SystemRoleName → RoleId}
    (synced : syncSystemRoles db workspace.id userIds roleName newIds = .ok next) :
    SyncEffect db next workspace.id userIds roleName := by
  obtain ⟨seed, seedMem, seedWorkspace, seedSystem, seedName⟩ :=
    lawful.seeded workspace present roleName
  obtain ⟨target, found⟩ := exists_findSystemRole seedMem seedWorkspace seedSystem seedName
  obtain ⟨targetMem, targetWorkspace, -, -⟩ := findSystemRole_eq_some found
  rw [syncSystemRoles, found] at synced
  -- The roles are deleted first and created then.
  have deleted : SeededRoles (db.deleteMemberRoles fun row => row.workspaceId == workspace.id &&
      userIds.contains row.userId &&
        ((findSystemRoles db workspace.id).map Role.id).contains row.roleId) :=
    lawful.of_assigned targetMem targetWorkspace rfl rfl rfl
      fun _ assigned => .inr (Table.mem_deleteMany.mp assigned).1
  have created := createMemberRoles_effect deleted found (fun userId listed name => by
    rintro ⟨role, held, isSystem, -⟩
    exact ((mem_rolesOf_deleteSystemRoles lawful).mp held).2 ⟨⟨rfl, listed⟩, isSystem⟩) synced
  refine ⟨created.lawful, created.workspaces, created.members, created.holds, ?_⟩
  intro ofWorkspace userId other name
  rw [created.elsewhere ofWorkspace userId other name]
  refine exists_congr fun role => and_congr_left fun _ => ?_
  rw [mem_rolesOf_deleteSystemRoles lawful]
  exact and_iff_left fun listed => other listed.1

end Sync

end Bongtalk.Workspaces.Roles
