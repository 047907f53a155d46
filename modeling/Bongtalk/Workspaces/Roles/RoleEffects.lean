import Bongtalk.Workspaces.Roles.RoleWrites

/-!
# What the calls do to held system roles

Each call that writes a member's role exchanges the system role that the member holds, and each
call on the role rows leaves the system roles alone, but for a revocation.
-/

namespace Bongtalk.Workspaces.Roles

open Library Common Prisma Shared Database Table RoleWrite RolesService List

/-- What a call does to the rows of the members and to the system roles they hold: `writes` are
the roles written into the rows, and `takes` is the member that loses one. -/
structure WriteEffect (db next : Database) (writes : WorkspaceId → UserId → Option WorkspaceRole)
    (takes : Option (WorkspaceId × UserId)) : Prop where
  lawful : SeededRoles next
  role_eq : ∀ row ∈ next.workspaceMembers, ∀ role,
    writes row.workspaceId row.userId = some role → row.role = role
  before : ∀ row ∈ next.workspaceMembers, writes row.workspaceId row.userId = none →
    row ∈ db.workspaceMembers
  written : ∀ {workspaceId userId role}, writes workspaceId userId = some role → ∀ name,
    HoldsSystemRole next workspaceId userId name ↔ name = role
  of_held : ∀ {workspaceId userId}, writes workspaceId userId = none → ∀ {name},
    HoldsSystemRole next workspaceId userId name → HoldsSystemRole db workspaceId userId name
  held : ∀ {workspaceId userId}, writes workspaceId userId = none →
    takes ≠ some (workspaceId, userId) → ∀ {name},
      HoldsSystemRole db workspaceId userId name → HoldsSystemRole next workspaceId userId name

section Effects

variable {db next : Database} {workspaceId : WorkspaceId} {newIds : SystemRoleName → RoleId}

theorem SeededRoles.setMemberRole (lawful : SeededRoles db) {userIds : List UserId}
    {role : WorkspaceRole} : SeededRoles (db.setMemberRole workspaceId userIds role) :=
  { lawful with
    memberWorkspace := by
      intro member present
      obtain ⟨old, oldMem, rfl⟩ := mem_setMemberRole.mp present
      obtain ⟨workspace, workspaceMem, idEq⟩ := lawful.memberWorkspace old oldMem
      refine ⟨workspace, workspaceMem, idEq.trans ?_⟩
      split
      · rfl
      · rfl }

theorem SeededRoles.insertMember (lawful : SeededRoles db) {member : WorkspaceMember}
    {workspace : Workspace} (present : workspace ∈ db.workspaces)
    (ofWorkspace : workspace.id = member.workspaceId)
    (inserted : db.insertMember? member = some next) : SeededRoles next := by
  obtain ⟨workspacesEq, rolesEq, memberRolesEq, -, rows⟩ := insertMember?_spec inserted
  constructor
  · rw [workspacesEq, rolesEq]
    exact lawful.seeded
  · rw [rolesEq]
    exact lawful.system
  · rw [rolesEq]
    exact lawful.named
  · rw [workspacesEq, rolesEq]
    exact lawful.roleWorkspace
  · rw [workspacesEq]
    intro row rowMem
    rcases (rows row).mp rowMem with rfl | before
    · exact ⟨workspace, present, ofWorkspace⟩
    · exact lawful.memberWorkspace row before
  · rw [rolesEq, memberRolesEq]
    exact lawful.assignedWorkspace

/-- Roles are held by the same users when the role tables are the same. -/
theorem holdsSystemRole_congr (rolesEq : next.roles = db.roles)
    (memberRolesEq : next.memberRoles = db.memberRoles) {userId : UserId} {name : SystemRoleName} :
    HoldsSystemRole next workspaceId userId name ↔ HoldsSystemRole db workspaceId userId name := by
  simp only [HoldsSystemRole, mem_rolesOf, rolesEq, memberRolesEq]

/-- The caller of a route is a member, so its workspace is there. -/
theorem exists_workspace_of_findCaller (lawful : SeededRoles db) {userId : UserId}
    {member : WorkspaceMember} (found : findCaller db workspaceId userId = .ok member) :
    ∃ workspace ∈ db.workspaces, workspace.id = workspaceId := by
  unfold findCaller at found
  split at found
  · cases found
  next caller callerEq =>
    obtain ⟨present, keyEq⟩ := mem_of_findUnique callerEq
    obtain ⟨workspace, workspaceMem, idEq⟩ := lawful.memberWorkspace caller present
    exact ⟨workspace, workspaceMem, idEq.trans (Prod.mk.inj keyEq).1⟩

/-- A change of member rows to one role, with the synchronisation of those members. -/
theorem WriteEffect.of_sync {middle : Database} {userIds : List UserId} {role : WorkspaceRole}
    {writes : WorkspaceId → UserId → Option WorkspaceRole}
    (synced : SyncEffect middle next workspaceId userIds role)
    (writesEq : ∀ ofWorkspace userId, writes ofWorkspace userId =
      if ofWorkspace = workspaceId ∧ userId ∈ userIds then some role else none)
    (kept : ∀ ofWorkspace userId name, HoldsSystemRole middle ofWorkspace userId name ↔
      HoldsSystemRole db ofWorkspace userId name)
    (changed : ∀ row ∈ middle.workspaceMembers,
      row.workspaceId = workspaceId ∧ row.userId ∈ userIds → row.role = role)
    (others : ∀ row ∈ middle.workspaceMembers,
      ¬(row.workspaceId = workspaceId ∧ row.userId ∈ userIds) → row ∈ db.workspaceMembers) :
    WriteEffect db next writes none := by
  have isWritten : ∀ {ofWorkspace userId written}, writes ofWorkspace userId = some written →
      (ofWorkspace = workspaceId ∧ userId ∈ userIds) ∧ role = written := by
    intro ofWorkspace userId written writtenEq
    rw [writesEq] at writtenEq
    split at writtenEq
    next listed => exact ⟨listed, Option.some.inj writtenEq⟩
    next => cases writtenEq
  have notWritten : ∀ {ofWorkspace userId}, writes ofWorkspace userId = none →
      ¬(ofWorkspace = workspaceId ∧ userId ∈ userIds) := by
    intro ofWorkspace userId writtenEq listed
    rw [writesEq, if_pos listed] at writtenEq
    cases writtenEq
  have sameHeld : ∀ {ofWorkspace userId}, writes ofWorkspace userId = none → ∀ {name},
      HoldsSystemRole next ofWorkspace userId name ↔ HoldsSystemRole db ofWorkspace userId name :=
    fun none => (synced.elsewhere _ _ (notWritten none) _).trans (kept _ _ _)
  refine ⟨synced.lawful, ?_, ?_, ?_, fun none _ => sameHeld none |>.mp,
    fun none _ _ => sameHeld none |>.mpr⟩
  · intro row rowMem written writtenEq
    obtain ⟨listed, rfl⟩ := isWritten writtenEq
    exact changed row (synced.members ▸ rowMem) listed
  · intro row rowMem writtenEq
    exact others row (synced.members ▸ rowMem) (notWritten writtenEq)
  · intro ofWorkspace userId written writtenEq name
    obtain ⟨⟨rfl, listed⟩, rfl⟩ := isWritten writtenEq
    exact synced.holds userId listed name

/-- Rows that get a role in place, with the synchronisation of their members. -/
theorem WriteEffect.of_setMemberRole (lawful : SeededRoles db) {userIds : List UserId}
    {role : WorkspaceRole} {writes : WorkspaceId → UserId → Option WorkspaceRole}
    (ofWorkspace : ∃ workspace ∈ db.workspaces, workspace.id = workspaceId)
    (ok : syncSystemRoles (db.setMemberRole workspaceId userIds role) workspaceId userIds role
      newIds = .ok next)
    (writesEq : ∀ ofWorkspace userId, writes ofWorkspace userId =
      if ofWorkspace = workspaceId ∧ userId ∈ userIds then some role else none) :
    WriteEffect db next writes none := by
  obtain ⟨workspace, present, rfl⟩ := ofWorkspace
  have synced := syncSystemRoles_effect lawful.setMemberRole present ok
  refine .of_sync synced writesEq (fun _ _ _ => holdsSystemRole_congr rfl rfl) ?_ ?_
  · intro row rowMem listed
    obtain ⟨old, -, rfl⟩ := mem_setMemberRole.mp rowMem
    split
    next => rfl
    next other =>
      rw [if_neg other] at listed
      exact absurd listed other
  · intro row rowMem other
    obtain ⟨old, oldMem, rfl⟩ := mem_setMemberRole.mp rowMem
    split at other
    next listed => exact absurd listed other
    next other =>
      rw [if_neg other]
      exact oldMem

theorem join_effect (lawful : SeededRoles db) {userId : UserId} {role : WorkspaceRole}
    (ok : join db workspaceId newIds userId role = .ok next) :
    WriteEffect db next ((RoleWrite.join workspaceId userId role newIds).written db) none := by
  unfold join at ok
  split at ok
  · cases ok
  split at ok
  · cases ok
  next workspace found =>
    obtain ⟨present, rfl⟩ := mem_of_findUnique found
    split at ok
    · cases ok
    next joined inserted =>
      obtain ⟨workspacesEq, rolesEq, memberRolesEq, free, rows⟩ :=
        insertMember?_spec inserted
      have synced := syncSystemRoles_effect (lawful.insertMember present rfl inserted)
        (workspacesEq ▸ present) ok
      refine .of_sync synced ?_ (fun _ _ _ => holdsSystemRole_congr rolesEq memberRolesEq) ?_ ?_
      · intro ofWorkspace ofUser
        simp only [written, mem_singleton]
      · rintro row rowMem ⟨sameWorkspace, sameUser⟩
        rcases (rows row).mp rowMem with rfl | before
        · rfl
        · exact absurd ⟨sameWorkspace, mem_singleton.mp sameUser⟩ (free row before)
      · intro row rowMem other
        rcases (rows row).mp rowMem with rfl | before
        · exact absurd ⟨rfl, mem_singleton_self _⟩ other
        · exact before

theorem updateRole_effect (lawful : SeededRoles db) {actorId targetUserId : UserId}
    {nextRole : AssignableRole}
    (ok : updateRole db workspaceId newIds actorId targetUserId nextRole = .ok next) :
    WriteEffect db next
      ((RoleWrite.updateRole workspaceId actorId targetUserId nextRole newIds).written db) none := by
  simp only [updateRole, bind_eq_ok] at ok
  obtain ⟨actor, found, -, -, -, -, -, -, ok⟩ := ok
  have ofCaller := exists_workspace_of_findCaller lawful found
  refine .of_setMemberRole lawful ofCaller ok ?_
  intro ofWorkspace ofUser
  simp only [written, mem_singleton]

theorem bulkRole_effect (lawful : SeededRoles db) {actorId : UserId} {userIds : List UserId}
    {nextRole : AssignableRole}
    (ok : bulkRole db workspaceId newIds actorId userIds nextRole = .ok next) :
    WriteEffect db next
      ((RoleWrite.bulkRole workspaceId actorId userIds nextRole newIds).written db) none := by
  simp only [bulkRole, bind_eq_ok] at ok
  obtain ⟨caller, found, -, -, ok⟩ := ok
  split at ok
  next nobody =>
    cases ok
    have nothing : ∀ ofWorkspace userId,
        (RoleWrite.bulkRole workspaceId actorId userIds nextRole newIds).written db ofWorkspace
          userId = none := by
      intro ofWorkspace userId
      simp [written, nobody]
    refine ⟨lawful, ?_, fun row rowMem _ => rowMem, ?_, fun _ _ => id, fun _ _ _ => id⟩
    · intro row _ role writtenEq
      rw [nothing] at writtenEq
      cases writtenEq
    · intro ofWorkspace userId role writtenEq
      rw [nothing] at writtenEq
      cases writtenEq
  next somebody =>
    rw [syncMembersSystemRole, if_neg somebody] at ok
    have ofCaller := exists_workspace_of_findCaller lawful found
    refine .of_setMemberRole lawful ofCaller ok fun ofWorkspace ofUser => ?_
    simp only [written]

/-- The rows after a transfer: one is demoted, then one promoted. -/
theorem mem_transferredRoles {fromUserId toUserId : UserId} {row : WorkspaceMember}
    (rowMem : row ∈ ((db.setMemberRole workspaceId [fromUserId] .admin).setMemberRole workspaceId
      [toUserId] .owner).workspaceMembers) :
    (row.workspaceId = workspaceId ∧ row.userId = toUserId → row.role = .owner) ∧
      (row.workspaceId = workspaceId ∧ row.userId = fromUserId → row.userId ≠ toUserId →
        row.role = .admin) ∧
      (¬(row.workspaceId = workspaceId ∧ row.userId = toUserId) →
        ¬(row.workspaceId = workspaceId ∧ row.userId = fromUserId) →
          row ∈ db.workspaceMembers) := by
  obtain ⟨middle, middleMem, rfl⟩ := mem_setMemberRole.mp rowMem
  obtain ⟨old, oldMem, rfl⟩ := mem_setMemberRole.mp middleMem
  simp only [mem_singleton]
  by_cases demoted : old.workspaceId = workspaceId ∧ old.userId = fromUserId
  · rw [if_pos demoted]
    by_cases promoted : old.workspaceId = workspaceId ∧ old.userId = toUserId
    · rw [if_pos promoted]
      exact ⟨fun _ => rfl, fun _ other => absurd promoted.2 other,
        fun other => absurd promoted other⟩
    · rw [if_neg promoted]
      exact ⟨fun other => absurd other promoted, fun _ _ => rfl,
        fun _ other => absurd demoted other⟩
  · rw [if_neg demoted]
    by_cases promoted : old.workspaceId = workspaceId ∧ old.userId = toUserId
    · rw [if_pos promoted]
      exact ⟨fun _ => rfl, fun other => absurd other demoted, fun other => absurd promoted other⟩
    · rw [if_neg promoted]
      exact ⟨fun other => absurd other promoted, fun other => absurd other demoted,
        fun _ _ => oldMem⟩

/-- A transfer writes the row of whom it promotes, and the row of whom it demotes. -/
theorem written_transferOwnership_cases {fromUserId toUserId : UserId} {confirmed : Bool}
    (different : fromUserId ≠ toUserId) (ofWorkspace : WorkspaceId) (userId : UserId) :
    let written := (RoleWrite.transferOwnership workspaceId fromUserId toUserId confirmed
      newIds).written db ofWorkspace userId
    (ofWorkspace = workspaceId ∧ userId = toUserId) ∧ written = some .owner ∨
      (ofWorkspace = workspaceId ∧ userId = fromUserId) ∧ userId ≠ toUserId ∧
        written = some .admin ∨
      ¬(ofWorkspace = workspaceId ∧ userId = toUserId) ∧
        ¬(ofWorkspace = workspaceId ∧ userId = fromUserId) ∧ written = none := by
  dsimp only [RoleWrite.written]
  split
  next isTo => exact .inl ⟨isTo, rfl⟩
  next notTo =>
    split
    next isFrom => exact .inr (.inl ⟨isFrom, isFrom.2 ▸ different, rfl⟩)
    next notFrom => exact .inr (.inr ⟨notTo, notFrom, rfl⟩)

theorem transferOwnership_effect (lawful : SeededRoles db) {fromUserId toUserId : UserId}
    {confirmed : Bool}
    (ok : transferOwnership db workspaceId newIds fromUserId toUserId confirmed = .ok next) :
    WriteEffect db next
      ((RoleWrite.transferOwnership workspaceId fromUserId toUserId confirmed newIds).written db)
      none := by
  simp only [transferOwnership, bind_eq_ok, failIf_eq_ok] at ok
  obtain ⟨caller, found, -, -, -, different, -, -, -, -, demoted, demotedOk, ok⟩ := ok
  have different : fromUserId ≠ toUserId := by simpa using different
  obtain ⟨workspace, present, rfl⟩ := exists_workspace_of_findCaller lawful found
  have lawfulRows : SeededRoles ((db.setMemberRole workspace.id [fromUserId] .admin).setMemberRole
      workspace.id [toUserId] .owner) := lawful.setMemberRole.setMemberRole
  have fromSynced := syncSystemRoles_effect lawfulRows present demotedOk
  have toSynced := syncSystemRoles_effect fromSynced.lawful (fromSynced.workspaces ▸ present) ok
  have membersEq := toSynced.members.trans fromSynced.members
  have cases := @written_transferOwnership_cases db workspace.id newIds fromUserId toUserId
    confirmed different
  have sameHeld : ∀ {ofWorkspace userId},
      (RoleWrite.transferOwnership workspace.id fromUserId toUserId confirmed newIds).written db
        ofWorkspace userId = none → ∀ {name},
      (HoldsSystemRole next ofWorkspace userId name ↔
        HoldsSystemRole db ofWorkspace userId name) := by
    intro ofWorkspace userId unwritten name
    rcases cases ofWorkspace userId with ⟨-, owner⟩ | ⟨-, -, admin⟩ | ⟨notTo, notFrom, -⟩
    · cases owner.symm.trans unwritten
    · cases admin.symm.trans unwritten
    · rw [toSynced.elsewhere _ _ (by rwa [mem_singleton]) name,
        fromSynced.elsewhere _ _ (by rwa [mem_singleton]) name]
      exact holdsSystemRole_congr rfl rfl
  refine ⟨toSynced.lawful, ?_, ?_, ?_, fun none _ => (sameHeld none).mp,
    fun none _ _ => (sameHeld none).mpr⟩
  · intro row rowMem role writtenEq
    obtain ⟨promoted, demoted, -⟩ := mem_transferredRoles (membersEq ▸ rowMem)
    rcases cases row.workspaceId row.userId with
      ⟨isTo, owner⟩ | ⟨isFrom, notTo, admin⟩ | ⟨-, -, unwritten⟩
    · exact (promoted isTo).trans (Option.some.inj (owner.symm.trans writtenEq))
    · exact (demoted isFrom notTo).trans (Option.some.inj (admin.symm.trans writtenEq))
    · cases unwritten.symm.trans writtenEq
  · intro row rowMem unwritten
    obtain ⟨-, -, others⟩ := mem_transferredRoles (membersEq ▸ rowMem)
    rcases cases row.workspaceId row.userId with ⟨-, owner⟩ | ⟨-, -, admin⟩ | ⟨notTo, notFrom, -⟩
    · cases owner.symm.trans unwritten
    · cases admin.symm.trans unwritten
    · exact others notTo notFrom
  · intro ofWorkspace userId role writtenEq name
    rcases cases ofWorkspace userId with
      ⟨⟨rfl, rfl⟩, owner⟩ | ⟨⟨rfl, rfl⟩, notTo, admin⟩ | ⟨-, -, unwritten⟩
    · cases owner.symm.trans writtenEq
      exact toSynced.holds _ (mem_singleton_self _) name
    · cases admin.symm.trans writtenEq
      rw [toSynced.elsewhere _ _ (fun listed => notTo (mem_singleton.mp listed.2)) name]
      exact fromSynced.holds _ (mem_singleton_self _) name
    · cases unwritten.symm.trans writtenEq

/-- A new workspace has no roles and no members from before. -/
theorem SeededRoles.unseeded (lawful : SeededRoles db)
    (newWorkspace : ∀ workspace ∈ db.workspaces, workspace.id ≠ workspaceId) :
    (∀ role ∈ db.roles, role.workspaceId ≠ workspaceId) ∧
      ∀ row ∈ db.memberRoles, row.workspaceId ≠ workspaceId := by
  constructor
  · intro role present same
    obtain ⟨workspace, workspaceMem, idEq⟩ := lawful.roleWorkspace role present
    exact newWorkspace workspace workspaceMem (idEq.trans same)
  · intro row assigned same
    obtain ⟨member, memberMem, memberWorkspace, -⟩ := db.memberRoleMember row assigned
    obtain ⟨workspace, workspaceMem, idEq⟩ := lawful.memberWorkspace member memberMem
    exact newWorkspace workspace workspaceMem (idEq.trans (memberWorkspace.trans same))

/-- The tables of a new workspace before its owner gets a role row. -/
theorem SeededRoles.of_newWorkspace (lawful : SeededRoles db) {ownerId : UserId}
    (newWorkspace : ∀ workspace ∈ db.workspaces, workspace.id ≠ workspaceId)
    (workspaceRows : ∀ workspace, workspace ∈ next.workspaces ↔
      workspace = { id := workspaceId } ∨ workspace ∈ db.workspaces)
    (memberRows : ∀ row, row ∈ next.workspaceMembers ↔
      row = ⟨workspaceId, ownerId, .owner⟩ ∨ row ∈ db.workspaceMembers)
    (memberRolesEq : next.memberRoles = db.memberRoles)
    (roleRows : ∀ role, role ∈ next.roles ↔
      role ∈ db.roles ∨ ∃ name, role = systemRoleSeed workspaceId (newIds name) name) :
    SeededRoles next where
  seeded := by
    intro workspace present name
    rcases (workspaceRows workspace).mp present with rfl | before
    · exact ⟨_, (roleRows _).mpr (.inr ⟨name, rfl⟩), rfl, rfl, rfl⟩
    obtain ⟨role, roleMem, facts⟩ := lawful.seeded workspace before name
    exact ⟨role, (roleRows role).mpr (.inl roleMem), facts⟩
  system := by
    intro role present isSystem
    rcases (roleRows role).mp present with before | ⟨name, rfl⟩
    · exact lawful.system role before isSystem
    · exact ⟨name, by dsimp only [systemRoleSeed], by dsimp only [systemRoleSeed]⟩
  named := by
    have unseeded := (lawful.unseeded newWorkspace).1
    intro first firstMem second secondMem sameWorkspace sameName
    rcases (roleRows first).mp firstMem with firstBefore | ⟨firstName, rfl⟩
    · rcases (roleRows second).mp secondMem with secondBefore | ⟨secondName, rfl⟩
      · exact lawful.named first firstBefore second secondBefore sameWorkspace sameName
      · exact absurd sameWorkspace (unseeded first firstBefore)
    · rcases (roleRows second).mp secondMem with secondBefore | ⟨secondName, rfl⟩
      · exact absurd sameWorkspace.symm (unseeded second secondBefore)
      have same : firstName = secondName :=
        roleLiteral_injective (show roleLiteral firstName = roleLiteral secondName from sameName)
      rw [same]
  roleWorkspace := by
    intro role present
    rcases (roleRows role).mp present with before | ⟨name, rfl⟩
    · obtain ⟨workspace, workspaceMem, idEq⟩ := lawful.roleWorkspace role before
      exact ⟨workspace, (workspaceRows workspace).mpr (.inr workspaceMem), idEq⟩
    · exact ⟨_, (workspaceRows _).mpr (.inl rfl), rfl⟩
  memberWorkspace := by
    intro row present
    rcases (memberRows row).mp present with rfl | before
    · exact ⟨_, (workspaceRows _).mpr (.inl rfl), rfl⟩
    obtain ⟨workspace, workspaceMem, idEq⟩ := lawful.memberWorkspace row before
    exact ⟨workspace, (workspaceRows workspace).mpr (.inr workspaceMem), idEq⟩
  assignedWorkspace := by
    intro row assigned role present idEq
    rw [memberRolesEq] at assigned
    -- The foreign key leads to a role from before, which is the only one of the id.
    obtain ⟨old, oldMem, oldId⟩ := db.memberRoleRole row assigned
    have same : role = old :=
      eq_of_key_eq present ((roleRows old).mpr (.inl oldMem)) (idEq.trans oldId.symm)
    rw [same]
    exact lawful.assignedWorkspace row assigned old oldMem oldId

/-- Beside the roles of a new workspace the held roles are those from before. -/
theorem holdsSystemRole_newWorkspace
    (roleRows : ∀ role, role ∈ next.roles ↔
      role ∈ db.roles ∨ ∃ name, role = systemRoleSeed workspaceId (newIds name) name)
    (memberRolesEq : next.memberRoles = db.memberRoles) {ofWorkspace : WorkspaceId}
    {userId : UserId} {name : SystemRoleName} :
    HoldsSystemRole next ofWorkspace userId name ↔ HoldsSystemRole db ofWorkspace userId name := by
  refine exists_congr fun role => and_congr_left fun _ => ?_
  rw [mem_rolesOf, mem_rolesOf, memberRolesEq]
  refine and_congr_left fun assigned => ⟨fun present => ?_, fun before => ?_⟩
  · obtain ⟨old, oldMem, oldId⟩ := db.memberRoleRole _ assigned
    have same : old = role := eq_of_key_eq ((roleRows old).mpr (.inl oldMem)) present oldId
    exact same ▸ oldMem
  · exact (roleRows role).mpr (.inl before)

/-- The tables of a new workspace with its first member and its roles. -/
theorem seedSystemRoles_newWorkspace (lawful : SeededRoles db) {ownerId : UserId}
    {workspaces : Table Workspace Workspace.id} {created : Database} (fresh : FreshIds db newIds)
    (workspacesEq : db.workspaces.insert? { id := workspaceId } = some workspaces)
    (inserted : { db with workspaces := workspaces }.insertMember? ⟨workspaceId, ownerId, .owner⟩ =
      some created) :
    SeededRoles (seedSystemRoles created workspaceId newIds) ∧
      (∀ row, row ∈ (seedSystemRoles created workspaceId newIds).workspaceMembers ↔
        row = ⟨workspaceId, ownerId, .owner⟩ ∨ row ∈ db.workspaceMembers) ∧
      (seedSystemRoles created workspaceId newIds).memberRoles = db.memberRoles ∧
      ∀ role, role ∈ (seedSystemRoles created workspaceId newIds).roles ↔
        role ∈ db.roles ∨ ∃ name, role = systemRoleSeed workspaceId (newIds name) name := by
  have newWorkspace : ∀ workspace ∈ db.workspaces, workspace.id ≠ workspaceId :=
    (Table.insert?_eq_some_iff.mp workspacesEq).1
  obtain ⟨createdWorkspaces, createdRoles, createdMemberRoles, -, createdMembers⟩ :=
    insertMember?_spec inserted
  have freshCreated : FreshIds created newIds := by
    rw [FreshIds, createdRoles]
    exact fresh
  have unseeded : ∀ role ∈ created.roles, role.workspaceId ≠ workspaceId := by
    rw [createdRoles]
    exact (lawful.unseeded newWorkspace).1
  obtain ⟨seededWorkspaces, seededMembers, seededMemberRoles, seededRoles⟩ :=
    seedSystemRoles_spec freshCreated unseeded
  rw [createdRoles] at seededRoles
  have memberRolesEq := seededMemberRoles.trans createdMemberRoles
  have memberRows := fun row => (seededMembers ▸ createdMembers row :
    row ∈ (seedSystemRoles created workspaceId newIds).workspaceMembers ↔ _)
  have workspaceRows : ∀ workspace,
      workspace ∈ (seedSystemRoles created workspaceId newIds).workspaces ↔
        workspace = { id := workspaceId } ∨ workspace ∈ db.workspaces := by
    intro workspace
    rw [seededWorkspaces, createdWorkspaces]
    exact mem_insert? workspacesEq
  exact ⟨lawful.of_newWorkspace newWorkspace workspaceRows memberRows memberRolesEq seededRoles,
    memberRows, memberRolesEq, seededRoles⟩

/-- A new workspace has its own roles and its owner holds the first of them. -/
theorem createWorkspace_effect (lawful : SeededRoles db) {ownerId : UserId}
    (fresh : FreshIds db newIds)
    (ok : createWorkspace db workspaceId newIds ownerId = .ok next) :
    WriteEffect db next ((RoleWrite.createWorkspace workspaceId ownerId newIds).written db)
      none := by
  unfold createWorkspace at ok
  split at ok
  · cases ok
  next workspaces workspacesEq =>
    split at ok
    · cases ok
    next created inserted =>
      have newWorkspace : ∀ workspace ∈ db.workspaces, workspace.id ≠ workspaceId :=
        (Table.insert?_eq_some_iff.mp workspacesEq).1
      obtain ⟨seeded, memberRows, memberRolesEq, roleRows⟩ :=
        seedSystemRoles_newWorkspace lawful fresh workspacesEq inserted
      have ownerSeed := (roleRows (systemRoleSeed workspaceId (newIds .owner) .owner)).mpr
        (.inr ⟨.owner, rfl⟩)
      obtain ⟨target, found⟩ : ∃ target, findSystemRole (seedSystemRoles created workspaceId newIds)
          workspaceId .owner = some target :=
        exists_findSystemRole ownerSeed rfl rfl rfl
      rw [seedMemberSystemRole, found] at ok
      have synced := createMemberRoles_effect seeded found (fun userId _ name => by
        rintro ⟨role, held, -⟩
        rw [mem_rolesOf, memberRolesEq] at held
        exact (lawful.unseeded newWorkspace).2 _ held.2 rfl) ok
      refine .of_sync synced ?_
        (fun _ _ _ => holdsSystemRole_newWorkspace roleRows memberRolesEq) ?_ ?_
      · intro ofWorkspace ofUser
        simp only [written, mem_singleton]
      · rintro row rowMem ⟨sameWorkspace, -⟩
        rcases (memberRows row).mp rowMem with rfl | before
        · rfl
        obtain ⟨workspace, workspaceMem, idEq⟩ := lawful.memberWorkspace row before
        exact absurd (idEq.trans sameWorkspace) (newWorkspace workspace workspaceMem)
      · intro row rowMem other
        rcases (memberRows row).mp rowMem with rfl | before
        · exact absurd ⟨rfl, mem_singleton_self _⟩ other
        · exact before

/-- Held names after a call on the role rows that keeps each system role under its name. -/
theorem WriteEffect.of_roles {takes : Option (WorkspaceId × UserId)} (lawful : SeededRoles next)
    (membersEq : next.workspaceMembers = db.workspaceMembers)
    (of_held : ∀ {ofWorkspace userId name}, HoldsSystemRole next ofWorkspace userId name →
      HoldsSystemRole db ofWorkspace userId name)
    (held : ∀ {ofWorkspace userId}, takes ≠ some (ofWorkspace, userId) → ∀ {name},
      HoldsSystemRole db ofWorkspace userId name → HoldsSystemRole next ofWorkspace userId name) :
    WriteEffect db next (fun _ _ => none) takes where
  lawful := lawful
  role_eq := fun _ _ _ impossible => by cases impossible
  before := fun _ rowMem _ => membersEq ▸ rowMem
  written := fun impossible => by cases impossible
  of_held := fun _ => of_held
  held := fun _ => held

/-- A name that is not taken is free for the role. -/
theorem name_ne_of_not_taken {roleId : RoleId} {name : String}
    (free : ¬nameTaken db workspaceId roleId name = true) {old : Role} (present : old ∈ db.roles)
    (sameWorkspace : old.workspaceId = workspaceId) (otherId : old.id ≠ roleId) :
    old.name ≠ name := by
  intro same
  apply free
  refine any_eq_true.mpr ⟨old, present, ?_⟩
  simp [sameWorkspace, same, otherId]

/-- A custom role of a free name leaves the tables as they should be. -/
theorem SeededRoles.insertRole (lawful : SeededRoles db) {row : Role} {workspace : Workspace}
    (present : workspace ∈ db.workspaces) (ofWorkspace : workspace.id = row.workspaceId)
    (custom : row.isSystem = false)
    (freeName : ∀ old ∈ db.roles, old.workspaceId = row.workspaceId → old.id ≠ row.id →
      old.name ≠ row.name)
    (inserted : db.insertRole? row = some next) : SeededRoles next := by
  obtain ⟨workspacesEq, membersEq, memberRolesEq, freeId, rows⟩ :=
    insertRole?_spec inserted
  refine ⟨?_, ?_, ?_, ?_, ?_, ?_⟩
  · rw [workspacesEq]
    intro workspace workspaceMem name
    obtain ⟨role, roleMem, facts⟩ := lawful.seeded workspace workspaceMem name
    exact ⟨role, (rows role).mpr (.inr roleMem), facts⟩
  · intro role roleMem isSystem
    rcases (rows role).mp roleMem with rfl | before
    · rw [custom] at isSystem
      cases isSystem
    · exact lawful.system role before isSystem
  · intro first firstMem second secondMem sameWorkspace sameName
    rcases (rows first).mp firstMem with rfl | firstBefore
    · rcases (rows second).mp secondMem with rfl | secondBefore
      · rfl
      exact absurd sameName.symm
        (freeName second secondBefore sameWorkspace.symm (freeId second secondBefore))
    · rcases (rows second).mp secondMem with rfl | secondBefore
      · exact absurd sameName (freeName first firstBefore sameWorkspace (freeId first firstBefore))
      · exact lawful.named first firstBefore second secondBefore sameWorkspace sameName
  · rw [workspacesEq]
    intro role roleMem
    rcases (rows role).mp roleMem with rfl | before
    · exact ⟨workspace, present, ofWorkspace⟩
    · exact lawful.roleWorkspace role before
  · rw [workspacesEq, membersEq]
    exact lawful.memberWorkspace
  · intro assignment assigned role roleMem idEq
    rw [memberRolesEq] at assigned
    rcases (rows role).mp roleMem with rfl | before
    · obtain ⟨old, oldMem, oldId⟩ := db.memberRoleRole assignment assigned
      exact absurd (oldId.trans idEq.symm) (freeId old oldMem)
    · exact lawful.assignedWorkspace assignment assigned role before idEq

/-- A created role is custom, of a free name, and of the workspace of its creator. -/
theorem create_effect (lawful : SeededRoles db) {actor : UserId} {newId : RoleId}
    {body : CreateRoleRequest}
    (ok : create db workspaceId actor newId body = .ok next) :
    WriteEffect db next (fun _ _ => none) none := by
  obtain ⟨row, rfl, rfl, custom, below, freeName, inserted⟩ := create_eq_ok ok
  obtain ⟨-, membersEq, -⟩ := insertRole?_spec inserted
  have sameHeld : ∀ {ofWorkspace userId name}, HoldsSystemRole next ofWorkspace userId name ↔
      HoldsSystemRole db ofWorkspace userId name := fun {_ _ _} =>
    exists_congr fun _ => and_congr_left fun _ => mem_rolesOf_insertRole? inserted
  -- The creator holds a role of the workspace, so the workspace is there.
  obtain ⟨held, heldMem, -⟩ := (lt_topPosition _).mp below
  obtain ⟨workspace, present, idEq⟩ :=
    lawful.roleWorkspace held (mem_rolesOf.mp heldMem).1
  have ofWorkspace := idEq.trans (lawful.workspaceId_of_held heldMem)
  have seeded := lawful.insertRole present ofWorkspace custom
    (fun _ => name_ne_of_not_taken freeName) inserted
  exact .of_roles seeded membersEq sameHeld.mp fun _ => sameHeld.mpr

/-- A stored change leaves the name and the mask of a system role alone. -/
theorem updatedPermissions_isSystem {role : Role} {actorMax : Nat} {body : UpdateRoleRequest}
    {stored : Option Int} (isSystem : role.isSystem = true)
    (ok : updatedPermissions role actorMax body = .ok stored) : stored = none := by
  unfold updatedPermissions at ok
  split at ok
  · exact (Except.ok.inj ok).symm
  simp only [bind_eq_ok] at ok
  obtain ⟨requested, -, -, -, ok⟩ := ok
  rw [if_pos isSystem] at ok
  cases ok

/-- A written role gets a name that is free. -/
theorem writeRole_eq_ok {role : Role} {data : RoleUpdateInput} {conflict : Failure}
    (ok : writeRole db role data conflict = .ok next) :
    next = db.updateRole role.id data.apply (fun _ => rfl) ∧
      ∀ name, data.name = some name → ¬nameTaken db role.workspaceId role.id name = true := by
  unfold writeRole at ok
  split at ok
  · cases ok
  next free =>
    refine ⟨(Except.ok.inj ok).symm, fun name renamed taken => ?_⟩
    rw [renamed] at free
    exact free taken

/-- An update changes one role of the workspace, and of a system role not what it stands for. -/
theorem update_eq_ok {actor : UserId} {roleId : RoleId} {body : UpdateRoleRequest}
    (ok : RolesService.update db workspaceId actor roleId body = .ok next) :
    ∃ role ∈ db.roles, ∃ data : RoleUpdateInput,
      next = db.updateRole role.id data.apply (fun _ => rfl) ∧
      (∀ name, data.name = some name → ¬nameTaken db role.workspaceId role.id name = true) ∧
      (role.isSystem = true → data.name = none ∧ data.permissions = none) := by
  simp only [RolesService.update, findRoleOrThrow, bind_eq_ok] at ok
  obtain ⟨role, found, ok⟩ := ok
  split at found
  next role' foundRole =>
    obtain rfl := Except.ok.inj found
    obtain ⟨present, -⟩ := mem_of_findRole foundRole
    split at ok
    · cases ok
    split at ok
    · cases ok
    next mutable =>
      obtain ⟨stored, storedOk, ok⟩ := bind_eq_ok.mp ok
      have systemKept : role'.isSystem = true → body.name = none ∧ stored = none := by
        intro isSystem
        refine ⟨?_, updatedPermissions_isSystem isSystem storedOk⟩
        rw [← Option.not_isSome_iff_eq_none]
        exact fun renamed => mutable ⟨isSystem, .inl renamed⟩
      split at ok
      · split at ok
        · cases ok
        obtain ⟨nextEq, free⟩ := writeRole_eq_ok ok
        exact ⟨role', present, _, nextEq, free, systemKept⟩
      · obtain ⟨nextEq, free⟩ := writeRole_eq_ok ok
        exact ⟨role', present, _, nextEq, free, systemKept⟩
  next => cases found

/-- What an update leaves of a row: its id, its workspace, whether it is a system role, and then
what it stands for. -/
theorem apply_kept {role : Role} {data : RoleUpdateInput}
    (systemKept : role.isSystem = true → data.name = none ∧ data.permissions = none) :
    (data.apply role).workspaceId = role.workspaceId ∧ (data.apply role).isSystem = role.isSystem ∧
      (role.isSystem = true → (data.apply role).name = role.name ∧
        (data.apply role).permissions = role.permissions) := by
  refine ⟨rfl, rfl, fun isSystem => ?_⟩
  obtain ⟨nameKept, permissionsKept⟩ := systemKept isSystem
  simp [RoleUpdateInput.apply, nameKept, permissionsKept]

/-- No other role of the workspace has the name of a changed role. -/
theorem apply_name_ne (lawful : SeededRoles db) {role other : Role}
    {data : RoleUpdateInput} (present : role ∈ db.roles)
    (free : ∀ name, data.name = some name → ¬nameTaken db role.workspaceId role.id name = true)
    (otherMem : other ∈ db.roles) (otherId : other.id ≠ role.id)
    (sameWorkspace : other.workspaceId = role.workspaceId) :
    other.name ≠ (data.apply role).name := by
  cases renamed : data.name with
  | none =>
    intro same
    have sameName : other.name = role.name := by
      simpa [RoleUpdateInput.apply, renamed] using same
    exact otherId (congrArg Role.id
      (lawful.named other otherMem role present sameWorkspace sameName))
  | some name =>
    have applied : (data.apply role).name = name := by
      simp [RoleUpdateInput.apply, renamed]
    rw [applied]
    exact name_ne_of_not_taken (free name renamed) otherMem sameWorkspace otherId

/-- What an update leaves of every row of the table. -/
theorem changedRow_kept {role old : Role} {data : RoleUpdateInput}
    (present : role ∈ db.roles) (oldMem : old ∈ db.roles)
    (systemKept : role.isSystem = true → data.name = none ∧ data.permissions = none) :
    let row := if old.id = role.id then data.apply old else old
    row.id = old.id ∧ row.workspaceId = old.workspaceId ∧ row.isSystem = old.isSystem ∧
      (old.isSystem = true → row.name = old.name ∧ row.permissions = old.permissions) := by
  by_cases same : old.id = role.id
  · obtain rfl := eq_of_key_eq oldMem present same
    rw [if_pos rfl]
    exact ⟨rfl, apply_kept systemKept⟩
  · rw [if_neg same]
    exact ⟨rfl, rfl, rfl, fun _ => ⟨rfl, rfl⟩⟩

theorem holdsSystemRole_updateRole {role : Role} {data : RoleUpdateInput}
    (present : role ∈ db.roles)
    (systemKept : role.isSystem = true → data.name = none ∧ data.permissions = none)
    {userId : UserId} {name : SystemRoleName} :
    HoldsSystemRole (db.updateRole role.id data.apply fun _ => rfl) workspaceId userId name ↔
      HoldsSystemRole db workspaceId userId name := by
  constructor
  · rintro ⟨row, held, isSystem, named⟩
    obtain ⟨old, oldHeld, rfl⟩ := mem_rolesOf_updateRole.mp held
    obtain ⟨-, -, systemEq, nameKept⟩ :=
      changedRow_kept present (mem_rolesOf.mp oldHeld).1 systemKept
    rw [systemEq] at isSystem
    rw [(nameKept isSystem).1] at named
    exact ⟨old, oldHeld, isSystem, named⟩
  · rintro ⟨old, oldHeld, isSystem, named⟩
    obtain ⟨-, -, systemEq, nameKept⟩ :=
      changedRow_kept present (mem_rolesOf.mp oldHeld).1 systemKept
    refine ⟨_, mem_rolesOf_updateRole.mpr ⟨old, oldHeld, rfl⟩, ?_, ?_⟩
    · rw [systemEq, isSystem]
    · rw [(nameKept isSystem).1, named]

variable (lawful : SeededRoles db)

include lawful

/-- A changed role is the same system role or the same custom one. -/
theorem update_effect {actor : UserId} {roleId : RoleId} {body : UpdateRoleRequest}
    (ok : RolesService.update db workspaceId actor roleId body = .ok next) :
    WriteEffect db next (fun _ _ => none) none := by
  obtain ⟨role, present, data, rfl, free, systemKept⟩ := update_eq_ok ok
  -- The rows of the new table are the changed rows of the old one.
  have changed := fun old (oldMem : old ∈ db.roles) => changedRow_kept present oldMem systemKept
  have sameHeld := fun {ofWorkspace userId name} =>
    @holdsSystemRole_updateRole db ofWorkspace role data present systemKept userId name
  refine .of_roles ⟨?_, ?_, ?_, ?_, ?_, ?_⟩ rfl sameHeld.mp fun _ => sameHeld.mpr
  · intro workspace workspaceMem name
    obtain ⟨old, oldMem, oldWorkspace, isSystem, named⟩ := lawful.seeded workspace workspaceMem name
    obtain ⟨-, workspaceEq, systemEq, nameKept⟩ := changed old oldMem
    exact ⟨_, mem_roles_updateRole.mpr ⟨old, oldMem, rfl⟩, workspaceEq.trans oldWorkspace,
      systemEq.trans isSystem, (nameKept isSystem).1.trans named⟩
  · intro row rowMem isSystem
    obtain ⟨old, oldMem, rfl⟩ := mem_roles_updateRole.mp rowMem
    obtain ⟨-, -, systemEq, nameKept⟩ := changed old oldMem
    rw [systemEq] at isSystem
    obtain ⟨name, named, granted⟩ := lawful.system old oldMem isSystem
    exact ⟨name, (nameKept isSystem).1.trans named, (nameKept isSystem).2.trans granted⟩
  · intro first firstMem second secondMem sameWorkspace sameName
    obtain ⟨firstOld, firstOldMem, rfl⟩ := mem_roles_updateRole.mp firstMem
    obtain ⟨secondOld, secondOldMem, rfl⟩ := mem_roles_updateRole.mp secondMem
    rw [(changed firstOld firstOldMem).2.1, (changed secondOld secondOldMem).2.1] at sameWorkspace
    by_cases firstIs : firstOld.id = role.id
    · obtain rfl := eq_of_key_eq firstOldMem present firstIs
      by_cases secondIs : secondOld.id = firstOld.id
      · rw [eq_of_key_eq secondOldMem present secondIs]
      rw [if_pos rfl, if_neg secondIs] at sameName
      exact absurd sameName.symm
        (apply_name_ne lawful present free secondOldMem secondIs sameWorkspace.symm)
    · by_cases secondIs : secondOld.id = role.id
      · obtain rfl := eq_of_key_eq secondOldMem present secondIs
        rw [if_neg firstIs, if_pos rfl] at sameName
        exact absurd sameName (apply_name_ne lawful present free firstOldMem firstIs sameWorkspace)
      · rw [if_neg firstIs, if_neg secondIs] at sameName ⊢
        exact lawful.named firstOld firstOldMem secondOld secondOldMem sameWorkspace sameName
  · intro row rowMem
    obtain ⟨old, oldMem, rfl⟩ := mem_roles_updateRole.mp rowMem
    rw [(changed old oldMem).2.1]
    exact lawful.roleWorkspace old oldMem
  · exact lawful.memberWorkspace
  · intro row assigned changedRole rowMem idEq
    obtain ⟨old, oldMem, rfl⟩ := mem_roles_updateRole.mp rowMem
    obtain ⟨idKept, workspaceEq, -, -⟩ := changed old oldMem
    rw [workspaceEq]
    exact lawful.assignedWorkspace row assigned old oldMem (idKept.symm.trans idEq)

/-- Only a custom role is deleted. -/
theorem remove_effect {actor : UserId} {roleId : RoleId}
    (ok : remove db workspaceId actor roleId = .ok next) :
    WriteEffect db next (fun _ _ => none) none := by
  obtain ⟨role, foundRole, custom, rfl⟩ := remove_eq_ok ok
  obtain ⟨present, rfl⟩ := mem_of_findRole foundRole
  -- The deleted role is custom, so each system role is still there.
  have notDeleted : ∀ row ∈ db.roles, row.isSystem = true → row.id ≠ role.id := by
    intro row rowMem isSystem same
    rw [eq_of_key_eq rowMem present same, custom] at isSystem
    cases isSystem
  have kept : ∀ row ∈ db.roles, row.isSystem = true → row ∈ (db.deleteRole role.id).roles := by
    intro row rowMem isSystem
    exact mem_deleteMany.mpr
      ⟨rowMem, beq_eq_false_iff_ne.mpr (notDeleted row rowMem isSystem)⟩
  have before : ∀ row ∈ (db.deleteRole role.id).roles, row ∈ db.roles :=
    fun row rowMem => (mem_deleteMany.mp rowMem).1
  refine .of_roles ⟨?_, ?_, ?_, ?_, ?_, ?_⟩ rfl ?_ ?_
  · intro workspace workspaceMem name
    obtain ⟨row, rowMem, ofWorkspace, isSystem, named⟩ :=
      lawful.seeded workspace workspaceMem name
    exact ⟨row, kept row rowMem isSystem, ofWorkspace, isSystem, named⟩
  · exact fun row rowMem => lawful.system row (before row rowMem)
  · exact fun first firstMem second secondMem =>
      lawful.named first (before first firstMem) second (before second secondMem)
  · exact fun row rowMem => lawful.roleWorkspace row (before row rowMem)
  · exact lawful.memberWorkspace
  · exact fun row assigned other otherMem =>
      lawful.assignedWorkspace row (mem_deleteMany.mp assigned).1 other (before other otherMem)
  · rintro ofWorkspace userId name ⟨row, held, facts⟩
    exact ⟨row, rolesOf_deleteRole held, facts⟩
  · rintro ofWorkspace userId - name ⟨row, held, isSystem, named⟩
    obtain ⟨rowMem, assigned⟩ := mem_rolesOf.mp held
    refine ⟨row, mem_rolesOf.mpr ⟨kept row rowMem isSystem, ?_⟩, isSystem, named⟩
    exact mem_deleteMany.mpr
      ⟨assigned, beq_eq_false_iff_ne.mpr (notDeleted row rowMem isSystem)⟩

/-- An assigned custom role adds no system role. -/
theorem assign_effect {actor target : UserId} {roleId : RoleId}
    (custom : ∀ role, findRole db workspaceId roleId = some role → role.isSystem = false)
    (ok : MemberRoleService.assign db workspaceId actor target roleId = .ok next) :
    WriteEffect db next (fun _ _ => none) none := by
  unfold MemberRoleService.assign at ok
  split at ok
  · cases ok
  next role foundRole =>
    split at ok
    · cases ok
    dsimp only at ok
    split at ok
    · cases ok
    split at ok
    · cases ok
    split at ok
    · cases ok
    cases ok
    obtain ⟨present, rfl⟩ := mem_of_findRole foundRole
    have ofWorkspace : role.workspaceId = workspaceId := by
      simpa [findRole, Option.filter_eq_some_iff] using (Option.filter_eq_some_iff.mp foundRole).2
    refine .of_roles ⟨lawful.seeded, lawful.system, lawful.named, lawful.roleWorkspace,
      lawful.memberWorkspace, ?_⟩ rfl ?_ ?_
    · intro row assigned other otherMem idEq
      rcases mem_upsert.mp assigned with rfl | ⟨before, -⟩
      · exact eq_of_key_eq otherMem present idEq ▸ ofWorkspace
      · exact lawful.assignedWorkspace row before other otherMem idEq
    · rintro inWorkspace userId name ⟨held, heldMem, isSystem, named⟩
      rcases mem_rolesOf_upsertMemberRole heldMem with before | ⟨heldPresent, idEq⟩
      · exact ⟨held, before, isSystem, named⟩
      rw [eq_of_key_eq heldPresent present idEq, custom role foundRole] at isSystem
      cases isSystem
    · rintro inWorkspace userId - name ⟨held, heldMem, facts⟩
      obtain ⟨heldPresent, assigned⟩ := mem_rolesOf.mp heldMem
      refine ⟨held, mem_rolesOf.mpr ⟨heldPresent, mem_upsert.mpr ?_⟩, facts⟩
      exact or_iff_not_imp_left.mpr fun other => ⟨assigned, other⟩

/-- A revoked role is taken from its member; a system role among them is what `taken` names. -/
theorem revoke_effect {actor target : UserId} {roleId : RoleId}
    (ok : MemberRoleService.revoke db workspaceId actor target roleId = .ok next) :
    WriteEffect db next (fun _ _ => none)
      ((roles workspaceId (.revoke actor target roleId)).taken db) := by
  obtain ⟨role, foundRole, rfl⟩ := revoke_eq_ok ok
  obtain ⟨present, rfl⟩ := mem_of_findRole foundRole
  refine .of_roles ⟨lawful.seeded, lawful.system, lawful.named, lawful.roleWorkspace,
    lawful.memberWorkspace, ?_⟩ rfl ?_ ?_
  · exact fun row assigned => lawful.assignedWorkspace row (mem_deleteMany.mp assigned).1
  · rintro ofWorkspace userId name ⟨held, heldMem, facts⟩
    exact ⟨held, rolesOf_deleteMemberRoles heldMem, facts⟩
  · rintro ofWorkspace userId notTaken name ⟨held, heldMem, isSystem, named⟩
    obtain ⟨heldPresent, assigned⟩ := mem_rolesOf.mp heldMem
    refine ⟨held, mem_rolesOf.mpr ⟨heldPresent, ?_⟩, isSystem, named⟩
    refine mem_deleteMany.mpr ⟨assigned, ?_⟩
    rw [Bool.eq_false_iff]
    intro revoked
    obtain ⟨⟨rfl, rfl⟩, idEq⟩ : (ofWorkspace = workspaceId ∧ userId = target) ∧
        held.id = role.id := by simpa using revoked
    apply notTaken
    rw [eq_of_key_eq heldPresent present idEq] at isSystem
    simp [taken, foundRole, isSystem]

/-- What any call does that succeeds. -/
theorem RoleWrite.effect_of_execute {call : RoleWrite} (generates : call.Generates db)
    (custom : call.AssignsCustom db) (ok : call.execute db = .ok next) :
    WriteEffect db next (call.written db) (call.taken db) := by
  cases call with
  | createWorkspace => exact createWorkspace_effect lawful generates ok
  | join => exact join_effect lawful ok
  | updateRole => exact updateRole_effect lawful ok
  | bulkRole => exact bulkRole_effect lawful ok
  | transferOwnership => exact transferOwnership_effect lawful ok
  | roles workspaceId call =>
    cases call with
    | create => exact create_effect lawful ok
    | update => exact update_effect lawful ok
    | remove => exact remove_effect lawful ok
    | assign => exact assign_effect lawful custom ok
    | revoke => exact revoke_effect lawful ok

end Effects

end Bongtalk.Workspaces.Roles
