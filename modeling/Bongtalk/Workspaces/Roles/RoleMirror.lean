import Bongtalk.Channels.Permission.ChannelAccess
import Bongtalk.Workspaces.Roles.RoleEffects

/-!
# Held system roles mirror the role of a member

The permission fold reads the roles a member holds, the rank checks read the role in its own row.
Whatever writes the one exchanges the other, so a member holds the row of its role and no other
system role, until someone takes that row away by hand.
-/

namespace Bongtalk.Workspaces.Roles

open Library Auth Prisma Shared List
open Channels.Permission

/-- Of the system roles, a member holds the one of its own row. -/
def MirrorsRole (db : Database) (member : WorkspaceMember) : Prop :=
  ∃ target ∈ db.roles, target.workspaceId = member.workspaceId ∧ target.isSystem = true ∧
    target.name = roleLiteral member.role ∧
    ∀ role, (role ∈ db.rolesOf member.workspaceId member.userId ∧ role.isSystem = true) ↔
      role = target

/-- The permissions that the roles of a member add up to contain the baseline of its role. -/
def BaseContainsBaseline (db : Database) (member : WorkspaceMember) : Prop :=
  roleBaseline member.role &&&
      computeEnforcementBase ⟨member.role, db.rolesOf member.workspaceId member.userId⟩ =
    roleBaseline member.role

/-- What holds of the members along every run: no system role beside the one of the row, and that
one unless it was taken. -/
structure RoleHistory.Mirrored (history : RoleHistory) : Prop where
  lawful : SeededRoles history.db
  eq_of_held : ∀ member ∈ history.db.workspaceMembers, ∀ name,
    HoldsSystemRole history.db member.workspaceId member.userId name → name = member.role
  held : ∀ member ∈ history.db.workspaceMembers,
    (member.workspaceId, member.userId) ∉ history.taken →
      HoldsSystemRole history.db member.workspaceId member.userId member.role

section Run

theorem RoleHistory.mirrored_initial : RoleHistory.initial.Mirrored where
  lawful :=
    { seeded := fun _ present => absurd present not_mem_nil
      system := fun _ present => absurd present not_mem_nil
      named := fun _ present => absurd present not_mem_nil
      roleWorkspace := fun _ present => absurd present not_mem_nil
      memberWorkspace := fun _ present => absurd present not_mem_nil
      assignedWorkspace := fun _ present => absurd present not_mem_nil }
  eq_of_held := fun _ present => absurd present not_mem_nil
  held := fun _ present => absurd present not_mem_nil

/-- A call keeps the roles mirrored: written rows are synchronised, and of the others only a
revoke takes a system role. -/
theorem RoleHistory.mirrored_after {history : RoleHistory} (mirrored : history.Mirrored)
    {call : RoleWrite} (generates : call.Generates history.db)
    (custom : call.AssignsCustom history.db) : (history.after call).Mirrored := by
  unfold RoleHistory.after
  split
  · exact mirrored
  next next ok =>
    have effect := RoleWrite.effect_of_execute mirrored.lawful generates custom ok
    refine ⟨effect.lawful, ?_, ?_⟩
    · intro member present name held
      cases writtenEq : call.written history.db member.workspaceId member.userId with
      | some role =>
        rw [effect.role_eq member present role writtenEq]
        exact (effect.written writtenEq name).mp held
      | none =>
        have before := effect.before member present writtenEq
        exact mirrored.eq_of_held member before name (effect.of_held writtenEq held)
    · intro member present notTaken
      cases writtenEq : call.written history.db member.workspaceId member.userId with
      | some role =>
        rw [effect.role_eq member present role writtenEq]
        exact (effect.written writtenEq role).mpr rfl
      | none =>
        obtain ⟨notNow, notBefore⟩ := not_or.mp (mt mem_append.mpr notTaken)
        have before := effect.before member present writtenEq
        refine effect.held writtenEq (fun takes => notNow (by simp [takes])) ?_
        refine mirrored.held member before fun wasTaken => notBefore ?_
        exact mem_filter.mpr ⟨wasTaken, by simp [writtenEq]⟩

/-- Along a run that assigns custom roles only, the roles stay mirrored. -/
theorem RoleHistory.mirrored_of_steps {calls : List RoleWrite} {history : RoleHistory}
    (run : Steps (Guarded RoleWriteStep fun before call => call.AssignsCustom before.db) .initial
      calls history) : history.Mirrored := by
  refine run.preserves RoleHistory.Mirrored ?_ RoleHistory.mirrored_initial
  rintro before call next ⟨⟨generates, rfl⟩, custom⟩ mirrored
  exact RoleHistory.mirrored_after mirrored generates custom

variable {db : Database} {member : WorkspaceMember}

/-- A member that holds its system role and no other mirrors it. -/
theorem mirrorsRole_of_held (lawful : SeededRoles db)
    (eq_of_held : ∀ name,
      HoldsSystemRole db member.workspaceId member.userId name → name = member.role)
    (held : HoldsSystemRole db member.workspaceId member.userId member.role) :
    MirrorsRole db member := by
  obtain ⟨target, targetHeld, targetSystem, targetName⟩ := held
  have targetMem := (Database.mem_rolesOf.mp targetHeld).1
  have targetWorkspace := lawful.workspaceId_of_held targetHeld
  refine ⟨target, targetMem, targetWorkspace, targetSystem, targetName, fun role => ⟨?_, ?_⟩⟩
  · rintro ⟨roleHeld, isSystem⟩
    have present := (Database.mem_rolesOf.mp roleHeld).1
    obtain ⟨name, named, -⟩ := lawful.system role present isSystem
    obtain rfl := eq_of_held name ⟨role, roleHeld, isSystem, named⟩
    exact lawful.named role present target targetMem
      ((lawful.workspaceId_of_held roleHeld).trans targetWorkspace.symm)
      (named.trans targetName.symm)
  · rintro rfl
    exact ⟨targetHeld, targetSystem⟩

/-- The seeded masks fit their column. -/
theorem systemRolePermissions_lt (name : SystemRoleName) : systemRolePermissions name < 2 ^ 64 := by
  cases name <;> decide

/-- A member that holds its system role has the baseline of it. -/
theorem baseContainsBaseline_of_held (lawful : SeededRoles db)
    (held : HoldsSystemRole db member.workspaceId member.userId member.role) :
    BaseContainsBaseline db member := by
  obtain ⟨target, targetHeld, targetSystem, targetName⟩ := held
  obtain ⟨name, named, granted⟩ :=
    lawful.system target (Database.mem_rolesOf.mp targetHeld).1 targetSystem
  obtain rfl : name = member.role := roleLiteral_injective (named.symm.trans targetName)
  have contained := computeEnforcementBase_of_mem (show target ∈ MemberWithRoles.memberRoles
    ⟨member.role, db.rolesOf member.workspaceId member.userId⟩ from targetHeld)
  rw [granted, fromStoragePermissions_toStoragePermissions (systemRolePermissions_lt _),
    bigintToEnforcementMask_systemRole] at contained
  exact contained

end Run

/-- Whatever roles are written, given and taken, a member holds no system role beside the one of
its row; and it holds that one, with its permissions, unless a revoke took it since the row was
last written. Assigned roles are custom ones. -/
theorem heldRole_mirrors {calls : List RoleWrite} {history : RoleHistory}
    (run : Steps (Guarded RoleWriteStep fun before call => call.AssignsCustom before.db) .initial
      calls history)
    {member : WorkspaceMember} (present : member ∈ history.db.workspaceMembers) :
    (∀ role ∈ history.db.rolesOf member.workspaceId member.userId, role.isSystem = true →
      role.workspaceId = member.workspaceId ∧ role.name = roleLiteral member.role) ∧
    ((member.workspaceId, member.userId) ∉ history.taken →
      MirrorsRole history.db member ∧ BaseContainsBaseline history.db member) := by
  have mirrored := RoleHistory.mirrored_of_steps run
  constructor
  · intro role held isSystem
    obtain ⟨name, named, -⟩ :=
      mirrored.lawful.system role (Database.mem_rolesOf.mp held).1 isSystem
    obtain rfl := mirrored.eq_of_held member present name ⟨role, held, isSystem, named⟩
    exact ⟨mirrored.lawful.workspaceId_of_held held, named⟩
  · intro notTaken
    have held := mirrored.held member present notTaken
    exact ⟨mirrorsRole_of_held mirrored.lawful (mirrored.eq_of_held member present) held,
      baseContainsBaseline_of_held mirrored.lawful held⟩

/-- The ids that the examples generate. -/
def exampleIds (name : SystemRoleName) : RoleId :=
  ⟨systemRolePosition name⟩

theorem exampleIds_injective : Function.Injective exampleIds := by
  intro first second same
  cases first <;> cases second <;> first | rfl | exact absurd same (by decide)

/-- A member whose system role was taken gets the next one with its next role. -/
theorem heldRole_mirrors_again :
    let calls : List RoleWrite :=
      [.createWorkspace ⟨1⟩ ⟨1⟩ exampleIds, .join ⟨1⟩ ⟨2⟩ .member exampleIds,
        .roles ⟨1⟩ (.revoke ⟨1⟩ ⟨2⟩ (exampleIds .member)),
        .updateRole ⟨1⟩ ⟨1⟩ ⟨2⟩ .moderator exampleIds]
    let history := calls.foldl RoleHistory.after .initial
    MirrorsRole history.db ⟨⟨1⟩, ⟨2⟩, .moderator⟩ := by
  intro calls history
  have run : Steps (Guarded RoleWriteStep fun before call => call.AssignsCustom before.db) .initial
      calls history :=
    .step (.step (.step (.step .refl ⟨⟨⟨exampleIds_injective,
      fun _ present => absurd present not_mem_nil⟩, rfl⟩, trivial⟩)
      ⟨⟨trivial, rfl⟩, trivial⟩) ⟨⟨trivial, rfl⟩, trivial⟩) ⟨⟨trivial, rfl⟩, trivial⟩
  have present : (⟨⟨1⟩, ⟨2⟩, .moderator⟩ : WorkspaceMember) ∈ history.db.workspaceMembers.rows := by
    decide
  have notTaken : ((⟨1⟩, ⟨2⟩) : WorkspaceId × UserId) ∉ history.taken := by decide
  exact ((heldRole_mirrors run present).2 notTaken).1

/-- An owner may take the system role of a member away, which leaves the member with none. -/
theorem revoked_role_not_mirrored :
    let calls : List RoleWrite :=
      [.createWorkspace ⟨1⟩ ⟨1⟩ exampleIds, .join ⟨1⟩ ⟨2⟩ .member exampleIds,
        .roles ⟨1⟩ (.revoke ⟨1⟩ ⟨2⟩ (exampleIds .member))]
    let history := calls.foldl RoleHistory.after .initial
    Steps RoleWriteStep .initial calls history ∧
      ∃ member ∈ history.db.workspaceMembers, ¬MirrorsRole history.db member := by
  intro calls history
  constructor
  · exact .step (.step (.step .refl ⟨⟨exampleIds_injective,
      fun _ present => absurd present not_mem_nil⟩, rfl⟩) ⟨trivial, rfl⟩) ⟨trivial, rfl⟩
  · have present : (⟨⟨1⟩, ⟨2⟩, .member⟩ : WorkspaceMember) ∈ history.db.workspaceMembers.rows := by
      decide
    have none : history.db.rolesOf ⟨1⟩ ⟨2⟩ = [] := by decide
    refine ⟨_, present, ?_⟩
    rintro ⟨target, -, -, -, -, held⟩
    have targetHeld := ((held target).mpr rfl).1
    rw [none] at targetHeld
    cases targetHeld

end Bongtalk.Workspaces.Roles
