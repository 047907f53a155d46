import Bongtalk.Library.Program
import Bongtalk.Workspaces.Roles.PrivilegeEscalation

/-!
# The audit rows of the role calls

A refused escalation leaves an audit row behind. An update or a removal writes the row before it
throws; in a creation the row is written in the transaction that the refusal undoes.
-/

namespace Bongtalk.Workspaces.Roles

open Library Library.Program Common Prisma Shared RolesService

inductive AuditAction where
  | roleCreate
  | roleUpdate
  | roleDelete
  | privilegeEscalationDenied
deriving DecidableEq, Repr

inductive EscalationReason where
  | administratorGrant
  | permissionsExceedActor
  | positionTooHigh
  | targetPositionTooHigh
  | newPositionTooHigh
deriving DecidableEq, Repr

inductive AuditDetails where
  | created (name : String) (position : Nat) (permissions : Int)
      (mentionable hoistInMemberList : Bool)
  | moved (position : Nat)
  | updated (name permissions : Option String) (colorHex : Option (Option String))
  | deleted (name : String) (position : Nat)
  | denied (attempt : AuditAction) (reason : EscalationReason) (requested : Option String)
      (roleId : Option RoleId) (position : Option Nat)
deriving DecidableEq, Repr

structure AuditLog where
  workspaceId : WorkspaceId
  actorId : UserId
  action : AuditAction
  targetId : Option RoleId := none
  details : AuditDetails
deriving DecidableEq, Repr

/-- The tables, and the audit rows in the order they were written. -/
structure RoleStore where
  db : Database
  auditLogs : List AuditLog

/-- A program of the role service. -/
abbrev RoleProgram := Program RoleStore Failure

namespace AuditedRoles

/-- `AuditService.record`; the row refers to its workspace. -/
def record (entry : AuditLog) : RoleProgram PUnit := do
  let workspace ← read fun store => store.db.workspaces.findUnique entry.workspaceId
  match workspace with
  | none => fail .foreignKeyViolation
  | some _ => write fun store => { store with auditLogs := store.auditLogs ++ [entry] }

def refuse {α : Type} (code : ErrorCode) (message : String) : RoleProgram α :=
  fail (.domain ⟨code, message⟩)

section Calls

variable (workspaceId : WorkspaceId) (actorUserId : UserId)

def recordEscalationDenied (attempt : AuditAction) (reason : EscalationReason)
    (requested : Option String := none) (roleId : Option RoleId := none)
    (position : Option Nat := none) : RoleProgram PUnit :=
  record
    { workspaceId := workspaceId
      actorId := actorUserId
      action := .privilegeEscalationDenied
      details := .denied attempt reason requested roleId position }

def assertGrantWithinActor (requested actorMax : Nat) (attempt : AuditAction) :
    RoleProgram PUnit :=
  if hasRaw actorMax (permissions .administrator) then pure ⟨⟩
  else if hasRaw requested (permissions .administrator) then do
    recordEscalationDenied workspaceId actorUserId attempt .administratorGrant (some requested.repr)
    refuse .rolePrivilegeEscalation "cannot grant ADMINISTRATOR without holding it"
  else if Masks.without requested actorMax ≠ 0 then do
    recordEscalationDenied workspaceId actorUserId attempt .permissionsExceedActor
      (some requested.repr)
    refuse .rolePrivilegeEscalation "cannot grant permissions you do not hold"
  else pure ⟨⟩

/-- A unique violation is a taken name; other errors that are not of the domain are internal. -/
def mapUniqueViolation : Failure → Failure
  | .uniqueViolation => .domain ⟨.roleNameTaken, "a role with this name already exists"⟩
  | .domain error => .domain error
  | _ => .domain ⟨.internal, "role operation failed"⟩

/-- The row of a creation. -/
def newRole (newId : RoleId) (body : CreateRoleRequest) (position requested : Nat) : Role where
  id := newId
  workspaceId := workspaceId
  name := body.name
  colorHex := body.colorHex
  position := position
  permissions := toStoragePermissions requested
  isSystem := false
  mentionable := body.mentionable.getD false
  hoistInMemberList := body.hoistInMemberList.getD false

/-- The tables with a new role, if its name and its id are free. -/
def insertedRow (db : Database) (row : Role) : Option Database :=
  if nameTaken db row.workspaceId row.id row.name then none else db.insertRole? row

/-- `role.create`. -/
def createRow (row : Role) : RoleProgram PUnit := do
  let inserted ← read fun store => insertedRow store.db row
  match inserted with
  | none => fail .uniqueViolation
  | some next => write fun store => { store with db := next }

def create (newId : RoleId) (body : CreateRoleRequest) : RoleProgram PUnit := do
  let requested ← lift (requestedPermissions body)
  rethrow mapUniqueViolation <| transaction <| do
    let db ← read RoleStore.db
    let actor := computeActorContext db workspaceId actorUserId
    assertGrantWithinActor workspaceId actorUserId requested actor.maxPermissions .roleCreate
    let position := (body.position.map Fin.val).getD (nextCustomPosition db workspaceId)
    if actor.topPosition ≤ position then
      recordEscalationDenied workspaceId actorUserId .roleCreate .positionTooHigh none none
        (some position)
      refuse .rolePositionTooHigh "cannot create a role at or above your own highest role position"
    else
      let row := newRole workspaceId newId body position requested
      createRow row
      record
        { workspaceId := workspaceId
          actorId := actorUserId
          action := .roleCreate
          targetId := some row.id
          details := .created row.name row.position row.permissions row.mentionable
            row.hoistInMemberList }

/-- `role.update`. -/
def updateRow (role : Role) (data : RoleUpdateInput) : RoleProgram PUnit := do
  let updated ← read fun store => writeRole store.db role data .uniqueViolation
  match updated with
  | .error failure => fail failure
  | .ok next => write fun store => { store with db := next }

/-- The mask an update stores, if it changes the mask. -/
def updatedPermissions (role : Role) (actorMax : Nat) (body : UpdateRoleRequest) :
    RoleProgram (Option Int) :=
  match body.permissions with
  | none => pure none
  | some value => do
    let requested ← lift (readPermissions value)
    assertGrantWithinActor workspaceId actorUserId requested actorMax .roleUpdate
    if role.isSystem then refuse .roleSystemImmutable "system role permissions are immutable"
    else pure (some (toStoragePermissions requested))

def update (roleId : RoleId) (body : UpdateRoleRequest) : RoleProgram PUnit := do
  let db ← read RoleStore.db
  let role ← lift (findRoleOrThrow db workspaceId roleId)
  let actor := computeActorContext db workspaceId actorUserId
  if actor.topPosition ≤ role.position then
    recordEscalationDenied workspaceId actorUserId .roleUpdate .targetPositionTooHigh none
      (some roleId)
    refuse .rolePositionTooHigh "cannot modify a role at or above your own highest role position"
  else if role.isSystem ∧ (body.name.isSome ∨ body.position.isSome) then
    refuse .roleSystemImmutable "system role name/position is immutable"
  else
    let storedPermissions ←
      updatedPermissions workspaceId actorUserId role actor.maxPermissions body
    let data : RoleUpdateInput :=
      { name := body.name
        colorHex := body.colorHex
        permissions := storedPermissions
        position := none
        mentionable := body.mentionable
        hoistInMemberList := body.hoistInMemberList }
    match (body.position.map Fin.val).filter (· ≠ role.position) with
    | some target =>
      if actor.topPosition ≤ target then
        recordEscalationDenied workspaceId actorUserId .roleUpdate .newPositionTooHigh none
          (some roleId) (some target)
        refuse .rolePositionTooHigh "cannot raise a role to or above your own highest role position"
      else
        transaction <| do
          updateRow role { data with position := some target }
          record
            { workspaceId := workspaceId
              actorId := actorUserId
              action := .roleUpdate
              targetId := some roleId
              details := .moved target }
    | none =>
      rethrow mapUniqueViolation <| transaction <| do
        updateRow role data
        record
          { workspaceId := workspaceId
            actorId := actorUserId
            action := .roleUpdate
            targetId := some roleId
            details := .updated body.name body.permissions body.colorHex }

def remove (roleId : RoleId) : RoleProgram PUnit := do
  let db ← read RoleStore.db
  let role ← lift (findRoleOrThrow db workspaceId roleId)
  if role.isSystem then refuse .roleSystemImmutable "system role cannot be deleted"
  else
    let actor := computeActorContext db workspaceId actorUserId
    if actor.topPosition ≤ role.position then
      recordEscalationDenied workspaceId actorUserId .roleDelete .targetPositionTooHigh none
        (some roleId)
      refuse .rolePositionTooHigh "cannot delete a role at or above your own highest role position"
    else
      transaction <| do
        write fun store => { store with
          db := { store.db.deleteRole roleId with
            overrides := store.db.overrides.deleteMany fun row =>
              row.principal == .role roleId &&
                (store.db.channels.findUnique row.channelId).any
                  (·.workspaceId == some workspaceId) } }
        record
          { workspaceId := workspaceId
            actorId := actorUserId
            action := .roleDelete
            targetId := some roleId
            details := .deleted role.name role.position }

end Calls

end AuditedRoles

/-- A request to the role service. -/
inductive RoleRequest where
  | create (newId : RoleId) (body : CreateRoleRequest)
  | update (roleId : RoleId) (body : UpdateRoleRequest)
  | remove (roleId : RoleId)

namespace RoleRequest

def isCreate : RoleRequest → Bool
  | create .. => true
  | update .. | remove _ => false

def program (workspaceId : WorkspaceId) (actorUserId : UserId) :
    RoleRequest → RoleProgram PUnit
  | create newId body => AuditedRoles.create workspaceId actorUserId newId body
  | update roleId body => AuditedRoles.update workspaceId actorUserId roleId body
  | remove roleId => AuditedRoles.remove workspaceId actorUserId roleId

/-- The call without its audit rows. -/
def call (actorUserId : UserId) : RoleRequest → RoleCall
  | create newId body => .create actorUserId newId body
  | update roleId body => .update actorUserId roleId body
  | remove roleId => .remove actorUserId roleId

end RoleRequest

/-- The refusal of a permission that the actor lacks, or of a position not below the actor. -/
def IsEscalation (failure : Failure) : Prop :=
  ∃ error, failure = .domain error ∧
    (error.code = .rolePrivilegeEscalation ∨ error.code = .rolePositionTooHigh)

/-- The tables are as they were, and one row about the refusal has been written. -/
def DenialRecorded (workspaceId : WorkspaceId) (actorUserId : UserId) (start finish : RoleStore) :
    Prop :=
  ∃ entry : AuditLog, entry.workspaceId = workspaceId ∧ entry.actorId = actorUserId ∧
    entry.action = .privilegeEscalationDenied ∧
    finish = { start with auditLogs := start.auditLogs ++ [entry] }

namespace AuditedRoles

section Programs

variable {workspaceId : WorkspaceId} {actorUserId : UserId} {α β : Type}
  {start finish : RoleStore} {failure : Failure}

variable {entry : AuditLog}

theorem returns_record_iff {value : PUnit} :
    Returns (record entry) start value finish ↔
      (start.db.workspaces.findUnique entry.workspaceId).isSome = true ∧
        finish = { start with auditLogs := start.auditLogs ++ [entry] } := by
  rw [record, returns_bind_iff]
  cases found : start.db.workspaces.findUnique entry.workspaceId with
  | none => simp [found]
  | some workspace => simp [found, eq_comm]

theorem returns_record
    (present : (start.db.workspaces.findUnique entry.workspaceId).isSome = true) :
    Returns (record entry) start ⟨⟩ { start with auditLogs := start.auditLogs ++ [entry] } :=
  returns_record_iff.mpr ⟨present, rfl⟩

theorem fails_record_iff :
    Fails (record entry) start failure finish ↔
      start.db.workspaces.findUnique entry.workspaceId = none ∧
        failure = .foreignKeyViolation ∧ finish = start := by
  rw [record, fails_bind_iff]
  cases found : start.db.workspaces.findUnique entry.workspaceId with
  | none => simp [found, eq_comm]
  | some workspace => simp [found]

/-- The store is as it was when the program returns. -/
def ReadOnly (program : RoleProgram α) : Prop :=
  ∀ ⦃start value finish⦄, Returns program start value finish → finish = start

/-- No failure of the program is an escalation. -/
def NeverEscalates (program : RoleProgram α) : Prop :=
  ∀ ⦃start failure finish⦄, Fails program start failure finish → ¬IsEscalation failure

/-- An escalation that the program refuses is recorded. -/
def Recorded (workspaceId : WorkspaceId) (actorUserId : UserId) (program : RoleProgram α) : Prop :=
  ∀ ⦃start failure finish⦄, Fails program start failure finish → IsEscalation failure →
    DenialRecorded workspaceId actorUserId start finish

theorem NeverEscalates.recorded {program : RoleProgram α} (never : NeverEscalates program) :
    Recorded workspaceId actorUserId program :=
  fun _ _ _ failed escalation => absurd escalation (never failed)

variable {program : RoleProgram β}

variable {next : β → RoleProgram α}

theorem NeverEscalates.bind (first : NeverEscalates program)
    (second : ∀ value, NeverEscalates (next value)) :
    NeverEscalates (program >>= next) := by
  intro start failure finish failed
  obtain failed | ⟨value, middle, -, failed⟩ := fails_bind_iff.mp failed
  · exact first failed
  · exact second value failed

/-- What a program that only reads hands on is refused as its continuation refuses it. -/
theorem Recorded.bind (first : Recorded workspaceId actorUserId program)
    (readOnly : ReadOnly program)
    (second : ∀ value, Recorded workspaceId actorUserId (next value)) :
    Recorded workspaceId actorUserId (program >>= next) := by
  intro start failure finish failed escalation
  obtain early | ⟨value, middle, returned, late⟩ := fails_bind_iff.mp failed
  · exact first early escalation
  · obtain rfl := readOnly returned
    exact second value late escalation

theorem readOnly_read {view : RoleStore → α} : ReadOnly (read view : RoleProgram α) :=
  fun _ _ _ returned => (returns_read_iff.mp returned).2.symm

theorem neverEscalates_read {view : RoleStore → α} : NeverEscalates (read view : RoleProgram α) :=
  fun _ _ _ failed => absurd failed not_fails_read

theorem readOnly_pure {value : α} : ReadOnly (pure value : RoleProgram α) :=
  fun _ _ _ returned => (returns_pure_iff.mp returned).2.symm

theorem neverEscalates_pure {value : α} : NeverEscalates (pure value : RoleProgram α) :=
  fun _ _ _ failed => absurd failed not_fails_pure

theorem readOnly_lift {answer : Except Failure α} : ReadOnly (lift answer : RoleProgram α) :=
  fun _ _ _ returned => (returns_lift_iff.mp returned).2.symm

variable {code : ErrorCode} {message : String}

theorem neverEscalates_refuse
    (other : code ≠ .rolePrivilegeEscalation ∧ code ≠ .rolePositionTooHigh) :
    NeverEscalates (refuse code message : RoleProgram α) := by
  rintro start failure finish failed ⟨error, isDomain, escalates⟩
  obtain ⟨rfl, -⟩ := fails_fail_iff.mp failed
  cases isDomain
  exact escalates.elim other.1 other.2

theorem neverEscalates_record : NeverEscalates (record entry) := by
  rintro start failure finish failed ⟨error, isDomain, -⟩
  obtain ⟨-, rfl, -⟩ := fails_record_iff.mp failed
  cases isDomain

variable {attempt : AuditAction}

/-- A refusal behind its audit row. -/
theorem recorded_denial {reason : EscalationReason} {requested : Option String}
    {roleId : Option RoleId} {position : Option Nat} :
    Recorded workspaceId actorUserId (recordEscalationDenied workspaceId actorUserId attempt reason
      requested roleId position >>= fun _ => (refuse code message : RoleProgram α)) := by
  intro start failure finish failed escalation
  obtain failed | ⟨_, middle, returned, failed⟩ := fails_bind_iff.mp failed
  · exact absurd escalation (neverEscalates_record failed)
  · obtain ⟨-, rfl⟩ := returns_record_iff.mp returned
    obtain ⟨-, rfl⟩ := fails_fail_iff.mp failed
    exact ⟨_, rfl, rfl, rfl, rfl⟩

variable {actorMax : Nat} {role : Role} {requested : Nat}

theorem recorded_assertGrantWithinActor :
    Recorded workspaceId actorUserId
      (assertGrantWithinActor workspaceId actorUserId requested actorMax attempt) := by
  unfold assertGrantWithinActor
  split
  · exact neverEscalates_pure.recorded
  split
  · exact recorded_denial
  split
  · exact recorded_denial
  · exact neverEscalates_pure.recorded

/-- A refusal never returns. -/
theorem readOnly_denial :
    ReadOnly (program >>= fun _ => (refuse code message : RoleProgram α)) := by
  intro start value finish returned
  obtain ⟨_, _, -, never⟩ := returns_bind_iff.mp returned
  exact absurd never not_returns_fail

theorem readOnly_assertGrantWithinActor :
    ReadOnly (assertGrantWithinActor workspaceId actorUserId requested actorMax attempt) := by
  unfold assertGrantWithinActor
  split
  · exact readOnly_pure
  split
  · exact readOnly_denial
  split
  · exact readOnly_denial
  · exact readOnly_pure

theorem ReadOnly.bind (first : ReadOnly program) (second : ∀ value, ReadOnly (next value)) :
    ReadOnly (program >>= next) := by
  intro start value finish returned
  obtain ⟨_, middle, early, late⟩ := returns_bind_iff.mp returned
  exact (second _ late).trans (first early)

/-- Reading a mask fails with an error of the number only. -/
theorem neverEscalates_readPermissions {value : String} :
    NeverEscalates (lift (readPermissions value) : RoleProgram Nat) := by
  rintro start failure finish failed ⟨error, rfl, -⟩
  obtain ⟨read, -⟩ := fails_lift_iff.mp failed
  unfold readPermissions at read
  cases parsed : deserializePermissions value with
  | error thrown | ok mask => rw [parsed] at read; cases read

variable {roleId : RoleId}

theorem neverEscalates_findRoleOrThrow {db : Database} :
    NeverEscalates (lift (findRoleOrThrow db workspaceId roleId) : RoleProgram Role) := by
  rintro start failure finish failed ⟨error, rfl, escalates⟩
  obtain ⟨thrown, -⟩ := fails_lift_iff.mp failed
  unfold findRoleOrThrow at thrown
  split at thrown
  · cases thrown
  cases thrown
  exact escalates.elim (by decide) (by decide)

variable {body : UpdateRoleRequest}

theorem recorded_updatedPermissions :
    Recorded workspaceId actorUserId
      (updatedPermissions workspaceId actorUserId role actorMax body) := by
  unfold updatedPermissions
  split
  · exact neverEscalates_pure.recorded
  refine neverEscalates_readPermissions.recorded.bind readOnly_lift fun requested => ?_
  refine recorded_assertGrantWithinActor.bind readOnly_assertGrantWithinActor fun _ => ?_
  split
  · exact (neverEscalates_refuse (by decide)).recorded
  · exact neverEscalates_pure.recorded

theorem readOnly_updatedPermissions :
    ReadOnly (updatedPermissions workspaceId actorUserId role actorMax body) := by
  unfold updatedPermissions
  split
  · exact readOnly_pure
  refine readOnly_lift.bind fun requested => readOnly_assertGrantWithinActor.bind fun _ => ?_
  split
  · exact fun _ _ _ returned => absurd returned not_returns_fail
  · exact readOnly_pure

theorem neverEscalates_updateRow {data : RoleUpdateInput} :
    NeverEscalates (updateRow role data) := by
  rintro start failure finish failed ⟨error, rfl, -⟩
  obtain impossible | ⟨updated, middle, isRead, failed⟩ := fails_bind_iff.mp failed
  · exact not_fails_read impossible
  obtain ⟨written, -⟩ := returns_read_iff.mp isRead
  split at failed
  · obtain ⟨rfl, -⟩ := fails_fail_iff.mp failed
    unfold writeRole at written
    split at written
    · cases written
    · cases written
  · exact not_fails_write failed

theorem NeverEscalates.transaction {program : RoleProgram α} (never : NeverEscalates program) :
    NeverEscalates (transaction program) := by
  intro start failure finish failed
  obtain ⟨-, middle, inside⟩ := fails_transaction_iff.mp failed
  exact never inside

theorem NeverEscalates.rethrow {program : RoleProgram α} (never : NeverEscalates program) :
    NeverEscalates (rethrow mapUniqueViolation program) := by
  intro start failure finish failed
  obtain ⟨thrown, rfl, inside⟩ := fails_rethrow_iff.mp failed
  rintro ⟨error, isDomain, escalates⟩
  unfold mapUniqueViolation at isDomain
  split at isDomain
  · cases isDomain
    exact escalates.elim (by decide) (by decide)
  · exact never inside ⟨error, isDomain, escalates⟩
  · cases isDomain
    exact escalates.elim (by decide) (by decide)

theorem recorded_update :
    Recorded workspaceId actorUserId (update workspaceId actorUserId roleId body) := by
  unfold update
  refine neverEscalates_read.recorded.bind readOnly_read fun db => ?_
  refine neverEscalates_findRoleOrThrow.recorded.bind readOnly_lift fun role => ?_
  dsimp only
  split
  · exact recorded_denial
  split
  · exact (neverEscalates_refuse (by decide)).recorded
  refine recorded_updatedPermissions.bind readOnly_updatedPermissions fun stored => ?_
  split
  · split
    · exact recorded_denial
    · exact (neverEscalates_updateRow.bind fun _ => neverEscalates_record).transaction.recorded
  · exact (neverEscalates_updateRow.bind fun _ =>
      neverEscalates_record).transaction.rethrow.recorded

theorem recorded_remove :
    Recorded workspaceId actorUserId (remove workspaceId actorUserId roleId) := by
  unfold remove
  refine neverEscalates_read.recorded.bind readOnly_read fun db => ?_
  refine neverEscalates_findRoleOrThrow.recorded.bind readOnly_lift fun role => ?_
  split
  · exact (neverEscalates_refuse (by decide)).recorded
  dsimp only
  split
  · exact recorded_denial
  refine NeverEscalates.recorded (NeverEscalates.transaction (NeverEscalates.bind ?_ fun _ => ?_))
  · exact fun _ _ _ failed => absurd failed not_fails_write
  · exact neverEscalates_record

/-- A creation that is refused leaves the store as it was. -/
theorem create_fails {newId : RoleId} {body : CreateRoleRequest}
    (failed : Fails (create workspaceId actorUserId newId body) start failure finish) :
    finish = start := by
  obtain early | ⟨_, middle, returned, late⟩ := fails_bind_iff.mp failed
  · exact (fails_lift_iff.mp early).2.symm
  · obtain ⟨-, rfl⟩ := returns_lift_iff.mp returned
    obtain ⟨_, -, inside⟩ := fails_rethrow_iff.mp late
    exact (fails_transaction_iff.mp inside).1.symm

end Programs

end AuditedRoles

section Requests

variable {workspaceId : WorkspaceId} {actorUserId : UserId} {start finish : RoleStore}
  {failure : Failure}

theorem DenialRecorded.ne (recorded : DenialRecorded workspaceId actorUserId start finish) :
    finish ≠ start := by
  obtain ⟨entry, -, -, -, rfl⟩ := recorded
  intro same
  have lengths := congrArg (fun store : RoleStore => store.auditLogs.length) same
  simp at lengths

/-- A request refused as an escalation leaves its audit row, and nothing else, exactly when it is
not a creation. -/
theorem denial_recorded_iff {request : RoleRequest}
    (rejected : Fails (request.program workspaceId actorUserId) start failure finish)
    (escalation : IsEscalation failure) :
    DenialRecorded workspaceId actorUserId start finish ↔ request.isCreate = false := by
  cases request with
  | create newId body =>
    refine iff_of_false (fun recorded => ?_) Bool.noConfusion
    exact recorded.ne (AuditedRoles.create_fails rejected)
  | update roleId body =>
    exact iff_of_true (AuditedRoles.recorded_update rejected escalation) rfl
  | remove roleId => exact iff_of_true (AuditedRoles.recorded_remove rejected escalation) rfl

end Requests

/-- A workspace with an administrator below its owner's role. -/
def administered : RoleStore where
  auditLogs := []
  db :=
    { workspaces := .single { id := ⟨1⟩ }
      categories := .empty
      channels := .empty
      overrides := .empty
      workspaceMembers := ⟨[⟨⟨1⟩, ⟨1⟩, .admin⟩], by decide⟩
      roles :=
        ⟨[{ id := ⟨1⟩, workspaceId := ⟨1⟩, name := "ADMIN", position := 400, isSystem := true
            permissions := toStoragePermissions (systemRolePermissions .admin) },
          { id := ⟨2⟩, workspaceId := ⟨1⟩, name := "OWNER", position := 500, isSystem := true
            permissions := toStoragePermissions (systemRolePermissions .owner) }], by decide⟩
      memberRoles := ⟨[⟨⟨1⟩, ⟨1⟩, ⟨1⟩⟩], by decide⟩
      memberRoleRole := fun _ present =>
        ⟨_, List.mem_cons_self, by rw [List.mem_singleton.mp present]⟩
      memberRoleMember := fun _ present =>
        ⟨⟨⟨1⟩, ⟨1⟩, .admin⟩, List.mem_singleton_self _, by
          obtain rfl := List.mem_singleton.mp present
          exact ⟨rfl, rfl⟩⟩ }

/-- The administrator may not touch the owner's role, and leaves an audit row. -/
theorem owner_role_guarded : ∃ finish,
    Fails (RoleRequest.program ⟨1⟩ ⟨1⟩ (.update ⟨2⟩ { mentionable := some true })) administered
        (.domain ⟨.rolePositionTooHigh,
          "cannot modify a role at or above your own highest role position"⟩) finish ∧
      DenialRecorded ⟨1⟩ ⟨1⟩ administered finish := by
  have rejected : Fails (RoleRequest.program ⟨1⟩ ⟨1⟩ (.update ⟨2⟩ { mentionable := some true }))
      administered (.domain ⟨.rolePositionTooHigh,
        "cannot modify a role at or above your own highest role position"⟩) _ := rfl
  exact ⟨_, rejected, (denial_recorded_iff rejected ⟨_, rfl, .inr rfl⟩).mpr rfl⟩

/-- A role as high as its own is refused to the administrator without an audit row. -/
theorem refused_creation_unrecorded :
    ¬∀ (request : RoleRequest) (workspaceId : WorkspaceId) (actorUserId : UserId)
      (start finish : RoleStore) (failure : Failure),
      Fails (request.program workspaceId actorUserId) start failure finish →
      IsEscalation failure → DenialRecorded workspaceId actorUserId start finish := by
  intro always
  have rejected : Fails (RoleRequest.program ⟨1⟩ ⟨1⟩
      (.create ⟨3⟩ { name := "peer", position := some 400 })) administered
      (.domain ⟨.rolePositionTooHigh,
        "cannot create a role at or above your own highest role position"⟩) _ := rfl
  have recorded := always _ _ _ _ _ _ rejected ⟨_, rfl, .inr rfl⟩
  exact recorded.ne rfl

end Bongtalk.Workspaces.Roles
