import Bongtalk.Workspaces.Roles.RoleAudit

/-!
# The audited role calls do what the calls do

Beside the audit rows, a request to the role service answers as its call without them and leaves
the same tables.
-/

namespace Bongtalk.Workspaces.Roles

open Library.Program Common Prisma RolesService

namespace AuditedRoles

/-- A program that leaves the tables that a call gives. -/
abbrev Performs (program : RoleProgram PUnit) (start : RoleStore)
    (call : Except Failure Database) : Prop :=
  Simulates RoleStore.db (fun _ finish next => finish.db = next) program start call

section Programs

variable {workspaceId : WorkspaceId} {actorUserId : UserId} {α β : Type} {start : RoleStore}
  {failure : Failure} {agree : α → RoleStore → β → Prop}

theorem simulates_refuse {code : ErrorCode} {message : String} :
    Simulates RoleStore.db agree (refuse code message) start (failWith code message) :=
  simulates_fail

theorem simulates_denial (present : (start.db.workspaces.findUnique workspaceId).isSome = true)
    {attempt : AuditAction} {reason : EscalationReason} {requested : Option String}
    {roleId : Option RoleId} {position : Option Nat} {code : ErrorCode} {message : String} :
    Simulates RoleStore.db agree (recordEscalationDenied workspaceId actorUserId attempt reason
      requested roleId position >>= fun _ => refuse code message) start (failWith code message) :=
  ⟨_, fails_bind_iff.mpr (.inr ⟨_, _, returns_record present, fails_fail_iff.mpr ⟨rfl, rfl⟩⟩),
    rfl⟩

/-- An audit row behind a write. -/
theorem Performs.record {program : RoleProgram PUnit} {entry : AuditLog}
    {answer : Except Failure Database} (statement : Performs program start answer)
    (kept : ∀ next, answer = .ok next →
      (next.workspaces.findUnique entry.workspaceId).isSome = true) :
    Performs (program >>= fun _ => record entry) start answer := by
  cases answer with
  | error failure =>
    obtain ⟨finish, failed, same⟩ := statement
    exact ⟨finish, fails_bind_iff.mpr (.inl failed), same⟩
  | ok next =>
    obtain ⟨value, middle, returned, rfl⟩ := statement
    have recorded := returns_record (kept _ rfl)
    refine ⟨⟨⟩, _, returns_bind_iff.mpr ⟨value, middle, returned, recorded⟩, ?_⟩
    rfl

theorem performs_write {change : RoleStore → RoleStore} :
    Performs (write change) start (.ok (change start).db) :=
  ⟨⟨⟩, _, returns_write_iff.mpr rfl, rfl⟩

theorem performs_updateRow {role : Role} {data : RoleUpdateInput} :
    Performs (updateRow role data) start (writeRole start.db role data .uniqueViolation) := by
  apply Simulates.read
  split
  next thrown answered => exact answered ▸ simulates_fail
  next next answered => exact answered ▸ performs_write

/-- The row of a creation is refused when its name or its id is taken. -/
theorem performs_createRow {row : Role} :
    Performs (createRow row) start
      ((insertedRow start.db row).elim (.error .uniqueViolation) .ok) := by
  apply Simulates.read
  split
  next inserted => exact inserted ▸ simulates_fail
  next next inserted => exact inserted ▸ performs_write

/-- What the transaction of a creation answers without its audit rows. -/
def createInside (db : Database) (workspaceId : WorkspaceId) (actorUserId : UserId)
    (newId : RoleId) (body : CreateRoleRequest) (requested : Nat) : Except Failure Database := do
  let actor := computeActorContext db workspaceId actorUserId
  Roles.assertGrantWithinActor requested actor.maxPermissions
  let position := (body.position.map Fin.val).getD (nextCustomPosition db workspaceId)
  if actor.topPosition ≤ position then
    failWith .rolePositionTooHigh "cannot create a role at or above your own highest role position"
  else
    (insertedRow db (newRole workspaceId newId body position requested)).elim
      (.error .uniqueViolation) .ok

/-- A refused grant is an error of the domain. -/
theorem domain_of_assertGrantWithinActor {requested actorMax : Nat}
    (refused : Roles.assertGrantWithinActor requested actorMax = .error failure) :
    ∃ error, failure = .domain error := by
  unfold Roles.assertGrantWithinActor at refused
  split at refused
  · cases refused
  split at refused
  · exact ⟨_, (Except.error.inj refused).symm⟩
  split at refused
  · exact ⟨_, (Except.error.inj refused).symm⟩
  · cases refused

theorem create_eq_mapError {db : Database} {newId : RoleId} {body : CreateRoleRequest} :
    RolesService.create db workspaceId actorUserId newId body =
      RolesService.requestedPermissions body >>= fun requested =>
        (createInside db workspaceId actorUserId newId body requested).mapError
          mapUniqueViolation := by
  unfold RolesService.create
  refine congrArg _ (funext fun requested => ?_)
  unfold createInside
  dsimp only
  cases granted : Roles.assertGrantWithinActor requested
      (computeActorContext db workspaceId actorUserId).maxPermissions with
  | error failure =>
    obtain ⟨error, rfl⟩ := domain_of_assertGrantWithinActor granted
    rfl
  | ok _ =>
    dsimp only [Bind.bind, Except.bind]
    split
    · rfl
    unfold insertedRow newRole
    dsimp only
    split
    · rfl
    cases db.insertRole? _ with
    | none => rfl
    | some next => rfl

section Requests

variable (present : (start.db.workspaces.findUnique workspaceId).isSome = true)
include present

/-- The grant is checked as without audit rows. -/
theorem checks_assertGrantWithinActor {requested actorMax : Nat} {attempt : AuditAction} :
    Checks RoleStore.db
      (assertGrantWithinActor workspaceId actorUserId requested actorMax attempt) start
      (Roles.assertGrantWithinActor requested actorMax) := by
  unfold assertGrantWithinActor Roles.assertGrantWithinActor
  split
  · exact checks_pure
  split
  · exact simulates_denial present
  split
  · exact simulates_denial present
  · exact checks_pure

theorem checks_updatedPermissions {role : Role} {actorMax : Nat} {body : UpdateRoleRequest} :
    Checks RoleStore.db (updatedPermissions workspaceId actorUserId role actorMax body) start
      (RolesService.updatedPermissions role actorMax body) := by
  unfold updatedPermissions RolesService.updatedPermissions
  cases body.permissions with
  | none => exact checks_pure
  | some value =>
    refine checks_lift.bind fun requested _ => ?_
    refine (checks_assertGrantWithinActor present).bind fun _ _ => ?_
    split
    · exact simulates_refuse
    · exact checks_pure

theorem present_of_writeRole {role : Role} {data : RoleUpdateInput}
    {conflict : Failure} (next : Database)
    (ok : writeRole start.db role data conflict = .ok next) :
    (next.workspaces.findUnique workspaceId).isSome = true := by
  unfold writeRole at ok
  split at ok
  · cases ok
  cases ok
  exact present

theorem present_of_insertedRow {row : Role} (next : Database)
    (ok : (insertedRow start.db row).elim (Except.error Failure.uniqueViolation) Except.ok =
      .ok next) : (next.workspaces.findUnique workspaceId).isSome = true := by
  cases inserted : insertedRow start.db row with
  | none => rw [inserted] at ok; cases ok
  | some tables =>
    rw [inserted] at ok
    cases ok
    unfold insertedRow at inserted
    split at inserted
    · cases inserted
    rw [(Database.insertRole?_spec inserted).1]
    exact present

theorem performs_create {newId : RoleId} {body : CreateRoleRequest} :
    Performs (create workspaceId actorUserId newId body) start
      (RolesService.create start.db workspaceId actorUserId newId body) := by
  rw [create_eq_mapError]
  unfold create
  refine checks_lift.bind fun requested _ => Simulates.rethrow (Simulates.transaction ?_)
  refine Simulates.read ((checks_assertGrantWithinActor present).bind fun _ _ => ?_)
  dsimp only
  split
  · exact simulates_denial present
  · exact performs_createRow.record (present_of_insertedRow present)

theorem performs_update {roleId : RoleId} {body : UpdateRoleRequest} :
    Performs (update workspaceId actorUserId roleId body) start
      (RolesService.update start.db workspaceId actorUserId roleId body) := by
  unfold update RolesService.update
  refine Simulates.read (checks_lift.bind fun role _ => ?_)
  dsimp only
  split
  · exact simulates_denial present
  split
  · exact simulates_refuse
  refine (checks_updatedPermissions present).bind fun stored _ => ?_
  cases (body.position.map Fin.val).filter (· ≠ role.position) with
  | some target =>
    dsimp only
    split
    · exact simulates_denial present
    · exact (performs_updateRow.record (present_of_writeRole present)).transaction
  | none =>
    have mapped : ∀ data, writeRole start.db role data
          (.domain ⟨.roleNameTaken, "a role with this name already exists"⟩) =
        (writeRole start.db role data .uniqueViolation).mapError
          mapUniqueViolation := by
      intro data
      unfold writeRole
      split
      · rfl
      · rfl
    dsimp only
    rw [mapped]
    exact (performs_updateRow.record (present_of_writeRole present)).transaction.rethrow

theorem performs_remove {roleId : RoleId} :
    Performs (remove workspaceId actorUserId roleId) start
      (RolesService.remove start.db workspaceId actorUserId roleId) := by
  unfold remove RolesService.remove
  refine Simulates.read (checks_lift.bind fun role _ => ?_)
  split
  · exact simulates_refuse
  dsimp only
  split
  · exact simulates_denial present
  refine (performs_write.record fun next ok => ?_).transaction
  cases ok
  exact present

end Requests

end Programs

end AuditedRoles

/-- In a workspace that exists, a request does to the tables what its call does. -/
theorem RoleRequest.performs_call {workspaceId : WorkspaceId} {actorUserId : UserId}
    {start : RoleStore} (request : RoleRequest)
    (present : (start.db.workspaces.findUnique workspaceId).isSome = true) :
    AuditedRoles.Performs (request.program workspaceId actorUserId) start
      ((request.call actorUserId).execute start.db workspaceId) := by
  cases request with
  | create newId body => exact AuditedRoles.performs_create present
  | update roleId body => exact AuditedRoles.performs_update present
  | remove roleId => exact AuditedRoles.performs_remove present

theorem owner_role_removal_performed :
    AuditedRoles.Performs (RoleRequest.program ⟨1⟩ ⟨1⟩ (.remove ⟨2⟩)) administered
      ((RoleRequest.call ⟨1⟩ (.remove ⟨2⟩)).execute administered.db ⟨1⟩) :=
  RoleRequest.performs_call _ rfl

end Bongtalk.Workspaces.Roles
