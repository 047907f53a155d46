import Bongtalk.Library.Coalition
import Bongtalk.Library.System
import Bongtalk.Workspaces.Roles.RolesService

/-!
# No privilege escalation

Several actors may take turns editing, deleting and assigning roles. As long as none of
them administrates, what they hold together never grows: no new permission bit,
and no higher position.
-/

namespace Bongtalk.Workspaces.Roles

open Library Common Prisma Shared RolesService PermissionFlag MemberRoleService

/-- A call of the role services on one workspace. -/
inductive RoleCall where
  | create (actor : UserId) (newId : RoleId) (body : CreateRoleRequest)
  | update (actor : UserId) (roleId : RoleId) (body : UpdateRoleRequest)
  | remove (actor : UserId) (roleId : RoleId)
  | assign (actor target : UserId) (roleId : RoleId)
  | revoke (actor target : UserId) (roleId : RoleId)

namespace RoleCall

def actor : RoleCall → UserId
  | create actor .. | update actor .. | remove actor _ | assign actor .. | revoke actor .. => actor

def execute (db : Database) (workspaceId : WorkspaceId) : RoleCall → Except Failure Database
  | create actor newId body => RolesService.create db workspaceId actor newId body
  | update actor roleId body => RolesService.update db workspaceId actor roleId body
  | remove actor roleId => RolesService.remove db workspaceId actor roleId
  | assign actor target roleId => MemberRoleService.assign db workspaceId actor target roleId
  | revoke actor target roleId => MemberRoleService.revoke db workspaceId actor target roleId

/-- The database after a call; a refused call leaves it as it was. -/
def after (db : Database) (workspaceId : WorkspaceId) (call : RoleCall) : Database :=
  match call.execute db workspaceId with
  | .ok next => next
  | .error _ => db

end RoleCall

/-- A call by a member of the coalition. -/
def RoleStep (workspaceId : WorkspaceId) (coalition : UserId → Prop) (db : Database)
    (call : RoleCall) (next : Database) : Prop :=
  coalition call.actor ∧ next = call.after db workspaceId

/-- A user holds a permission bit through one of its roles. -/
def HoldsBit (db : Database) (workspaceId : WorkspaceId) (userId : UserId) (bit : Nat) : Prop :=
  ∃ role ∈ db.rolesOf workspaceId userId,
    (fromStoragePermissions role.permissions).testBit bit = true

/-- A user holds a role at a position. -/
def HoldsPosition (db : Database) (workspaceId : WorkspaceId) (userId : UserId)
    (position : Nat) : Prop :=
  ∃ role ∈ db.rolesOf workspaceId userId, role.position = position

/-- Every role held afterwards was held before or lies within what the actor holds. -/
def WithinActor (workspaceId : WorkspaceId) (actor : UserId) (db next : Database) : Prop :=
  (∀ userId bit, HoldsBit next workspaceId userId bit →
    HoldsBit db workspaceId userId bit ∨ HoldsBit db workspaceId actor bit) ∧
  ∀ userId position, HoldsPosition next workspaceId userId position →
    HoldsPosition db workspaceId userId position ∨
      ∃ top, HoldsPosition db workspaceId actor top ∧ position ≤ top

section Step

variable {db next : Database} {workspaceId : WorkspaceId} {actor : UserId}

/-- Roles that are only given up lie within anything. -/
theorem WithinActor.of_subset
    (kept : ∀ userId, ∀ role ∈ next.rolesOf workspaceId userId,
      role ∈ db.rolesOf workspaceId userId) :
    WithinActor workspaceId actor db next := by
  constructor
  · rintro userId bit ⟨role, held, bitHeld⟩
    exact .inl ⟨role, kept userId role held, bitHeld⟩
  · rintro userId position ⟨role, held, positionEq⟩
    exact .inl ⟨role, kept userId role held, positionEq⟩

/-- A position below the actor's top is below one of the actor's roles. -/
theorem holdsPosition_of_lt_topPosition {position : Nat}
    (below : position < (computeActorContext db workspaceId actor).topPosition) :
    ∃ top, HoldsPosition db workspaceId actor top ∧ position ≤ top := by
  obtain ⟨role, held, lower⟩ := (lt_topPosition position).mp below
  exact ⟨role.position, ⟨role, held, rfl⟩, Nat.le_of_lt lower⟩

/-- A grant of an actor who does not administrate has only bits the actor holds. -/
theorem holdsBit_of_granted {requested : Nat}
    (plain : ¬HoldsBit db workspaceId actor administrator.shift)
    (granted : assertGrantWithinActor requested
      (computeActorContext db workspaceId actor).maxPermissions = .ok ())
    {bit : Nat} (bitHeld : requested.testBit bit = true) :
    HoldsBit db workspaceId actor bit := by
  have notAdministrator : ¬hasRaw (computeActorContext db workspaceId actor).maxPermissions
      (permissions .administrator) = true := by
    rw [hasRaw_eq_testBit, testBit_maxPermissions]
    exact plain
  unfold assertGrantWithinActor at granted
  rw [if_neg notAdministrator] at granted
  split at granted
  · cases granted
  split at granted
  · cases granted
  next inside =>
    have within := (Masks.without_eq_zero_iff _ _).mp (not_not.mp inside) bit bitHeld
    exact (testBit_maxPermissions bit).mp within

variable {roleId : RoleId}

theorem mem_of_findRole {role : Role} (found : findRole db workspaceId roleId = some role) :
    role ∈ db.roles ∧ role.id = roleId :=
  Table.mem_of_findUnique (Option.filter_eq_some_iff.mp found).1

/-- A created role is held by nobody yet. -/
theorem create_within {newId : RoleId} {body : CreateRoleRequest}
    (ok : create db workspaceId actor newId body = .ok next) :
    WithinActor workspaceId actor db next := by
  obtain ⟨row, -, -, -, -, -, inserted⟩ := create_eq_ok ok
  exact .of_subset fun _ _ held => (Database.mem_rolesOf_insertRole? inserted).mp held

/-- A mask an update stores is a grant within the actor. -/
theorem updatedPermissions_granted {role : Role} {body : UpdateRoleRequest} {stored : Int}
    (ok : updatedPermissions role
      (computeActorContext db workspaceId actor).maxPermissions body = .ok (some stored))
    (plain : ¬HoldsBit db workspaceId actor administrator.shift)
    {bit : Nat} (bitHeld : (fromStoragePermissions stored).testBit bit = true) :
    HoldsBit db workspaceId actor bit := by
  unfold updatedPermissions at ok
  split at ok
  · cases ok
  next value _ =>
    simp only [bind_eq_ok] at ok
    obtain ⟨requested, read, ⟨⟩, granted, ok⟩ := ok
    split at ok
    · cases ok
    obtain rfl : toStoragePermissions requested = stored := by simpa using ok
    have accepted : deserializePermissions value = .ok requested := by
      unfold readPermissions at read
      cases parsed : deserializePermissions value with
      | error error => rw [parsed] at read; cases read
      | ok mask => rw [parsed] at read; exact congrArg Except.ok (Except.ok.inj read)
    rw [fromStoragePermissions_toStoragePermissions (lt_of_deserializePermissions accepted)]
      at bitHeld
    exact holdsBit_of_granted plain granted bitHeld

/-- A changed role keeps its bits or gets granted ones, and stays below the actor. -/
theorem writeRole_within {role : Role} {data : RoleUpdateInput} {conflict : Failure}
    (ok : writeRole db role data conflict = .ok next)
    (granted : ∀ stored, data.permissions = some stored → ∀ bit,
      (fromStoragePermissions stored).testBit bit = true → HoldsBit db workspaceId actor bit)
    (below : ∀ target, data.position = some target →
      target < (computeActorContext db workspaceId actor).topPosition) :
    WithinActor workspaceId actor db next := by
  unfold writeRole at ok
  split at ok
  · cases ok
  cases ok
  constructor
  · rintro userId bit ⟨changed, held, bitHeld⟩
    obtain ⟨old, oldHeld, rfl⟩ := Database.mem_rolesOf_updateRole.mp held
    split at bitHeld
    · cases stored : data.permissions with
      | none =>
        refine .inl ⟨old, oldHeld, ?_⟩
        simpa [RoleUpdateInput.apply, stored] using bitHeld
      | some mask =>
        refine .inr (granted mask stored bit ?_)
        simpa [RoleUpdateInput.apply, stored] using bitHeld
    · exact .inl ⟨old, oldHeld, bitHeld⟩
  · rintro userId position ⟨changed, held, rfl⟩
    obtain ⟨old, oldHeld, rfl⟩ := Database.mem_rolesOf_updateRole.mp held
    split
    · cases target : data.position with
      | none => exact .inl ⟨old, oldHeld, by simp [RoleUpdateInput.apply, target]⟩
      | some position =>
        refine .inr (holdsPosition_of_lt_topPosition ?_)
        simpa [RoleUpdateInput.apply, target] using below position target
    · exact .inl ⟨old, oldHeld, rfl⟩

theorem update_within {body : UpdateRoleRequest}
    (plain : ¬HoldsBit db workspaceId actor administrator.shift)
    (ok : RolesService.update db workspaceId actor roleId body = .ok next) :
    WithinActor workspaceId actor db next := by
  simp only [RolesService.update, bind_eq_ok] at ok
  obtain ⟨role, -, ok⟩ := ok
  split at ok
  · cases ok
  split at ok
  · cases ok
  obtain ⟨stored, storedOk, ok⟩ := bind_eq_ok.mp ok
  have granted : ∀ mask, stored = some mask → ∀ bit,
      (fromStoragePermissions mask).testBit bit = true → HoldsBit db workspaceId actor bit := by
    rintro mask rfl bit bitHeld
    exact updatedPermissions_granted storedOk plain bitHeld
  split at ok
  next target moved =>
    split at ok
    · cases ok
    next low =>
      apply writeRole_within ok granted
      intro position positionEq
      cases positionEq
      exact Nat.lt_of_not_le low
  next => exact writeRole_within ok granted fun position impossible => by cases impossible

theorem remove_within (ok : remove db workspaceId actor roleId = .ok next) :
    WithinActor workspaceId actor db next := by
  obtain ⟨role, -, -, rfl⟩ := remove_eq_ok ok
  exact .of_subset fun _ _ held => Database.rolesOf_deleteRole held

/-- An assigned role has bits of the actor only, and a lower position than the actor. -/
theorem assign_within {target : UserId} (plain : ¬HoldsBit db workspaceId actor administrator.shift)
    (ok : assign db workspaceId actor target roleId = .ok next) :
    WithinActor workspaceId actor db next := by
  have notAdministrator : hasRaw (computeActorContext db workspaceId actor).maxPermissions
      (permissions .administrator) = false := by
    rw [Bool.eq_false_iff, hasRaw_eq_testBit]
    exact fun held => plain ((testBit_maxPermissions _).mp held)
  unfold assign at ok
  split at ok
  · cases ok
  next role foundRole =>
    split at ok
    · cases ok
    simp only [notAdministrator, true_and] at ok
    split at ok
    · cases ok
    next low =>
      split at ok
      · cases ok
      split at ok
      · cases ok
      next inside =>
        have nextEq := Except.ok.inj ok
        obtain ⟨rolePresent, roleIdEq⟩ := mem_of_findRole foundRole
        -- A role held anew is the assigned one.
        have newlyHeld : ∀ {userId : UserId} {held : Role}, held ∈ next.rolesOf workspaceId userId →
            held ∈ db.rolesOf workspaceId userId ∨ held = role := by
          intro userId held heldNext
          rw [← nextEq] at heldNext
          apply (Database.mem_rolesOf_upsertMemberRole heldNext).imp_right
          rintro ⟨present, idEq⟩
          exact Table.eq_of_key_eq present rolePresent (idEq.trans roleIdEq.symm)
        constructor
        · rintro userId bit ⟨held, heldNext, bitHeld⟩
          rcases newlyHeld heldNext with heldBefore | rfl
          · exact .inl ⟨held, heldBefore, bitHeld⟩
          have within := (Masks.without_eq_zero_iff _ _).mp (not_not.mp inside) bit bitHeld
          exact .inr ((testBit_maxPermissions bit).mp within)
        · rintro userId position ⟨held, heldNext, rfl⟩
          rcases newlyHeld heldNext with heldBefore | rfl
          · exact .inl ⟨held, heldBefore, rfl⟩
          · exact .inr (holdsPosition_of_lt_topPosition (Nat.lt_of_not_le low))

theorem revoke_within {target : UserId}
    (ok : revoke db workspaceId actor target roleId = .ok next) :
    WithinActor workspaceId actor db next := by
  obtain ⟨role, -, rfl⟩ := revoke_eq_ok ok
  exact .of_subset fun _ _ held => Database.rolesOf_deleteMemberRoles held

end Step

/-- Whatever call an actor who does not administrate makes, it passes on only what the actor
holds. -/
theorem RoleCall.after_within {db : Database} {workspaceId : WorkspaceId} {call : RoleCall}
    (plain : ¬HoldsBit db workspaceId call.actor administrator.shift) :
    WithinActor workspaceId call.actor db (call.after db workspaceId) := by
  unfold RoleCall.after
  split
  next next ok =>
    cases call with
    | create => exact create_within ok
    | update => exact update_within plain ok
    | remove => exact remove_within ok
    | assign => exact assign_within plain ok
    | revoke => exact revoke_within ok
  next => exact .of_subset fun _ _ held => held

section Run

variable {workspaceId : WorkspaceId} {coalition : UserId → Prop}

/-- The coalition holds no bit and no position above what it held in an earlier state. -/
def NoEscalation (workspaceId : WorkspaceId) (coalition : UserId → Prop)
    (earlier later : Database) : Prop :=
  Coalition.Below (· = ·) coalition (HoldsBit later workspaceId) (HoldsBit earlier workspaceId) ∧
    Coalition.Below (· ≤ ·) coalition (HoldsPosition later workspaceId)
      (HoldsPosition earlier workspaceId)

/-- A call by a member of a coalition without administrator escalates nothing. -/
theorem noEscalation_of_step {db next : Database} {call : RoleCall}
    (step : RoleStep workspaceId coalition db call next)
    (plain : ∀ actor, coalition actor → ¬HoldsBit db workspaceId actor administrator.shift) :
    NoEscalation workspaceId coalition db next := by
  obtain ⟨isMember, rfl⟩ := step
  obtain ⟨bits, positions⟩ := RoleCall.after_within (plain _ isMember)
  constructor
  · refine .of_granted (fun _ => rfl) isMember fun userId bit held => ?_
    exact (bits userId bit held).imp_right fun actorHeld => ⟨bit, actorHeld, rfl⟩
  · exact .of_granted (fun _ => Nat.le_refl _) isMember positions

/-- Along a whole run of a coalition without administrator nothing escalates. -/
theorem noEscalation_of_steps {start finish : Database} {calls : List RoleCall}
    (steps : Steps (RoleStep workspaceId coalition) start calls finish)
    (plain : ∀ actor, coalition actor → ¬HoldsBit start workspaceId actor administrator.shift) :
    NoEscalation workspaceId coalition start finish := by
  refine steps.preserves (NoEscalation workspaceId coalition start) ?_ ?_
  · rintro db call next step ⟨bits, positions⟩
    have stillPlain : ∀ actor, coalition actor →
        ¬HoldsBit db workspaceId actor administrator.shift := by
      intro actor isMember held
      obtain ⟨holder, holderMember, bit, heldBefore, rfl⟩ := bits actor isMember _ held
      exact plain holder holderMember heldBefore
    obtain ⟨nextBits, nextPositions⟩ := noEscalation_of_step step stillPlain
    exact ⟨nextBits.trans Eq.trans bits, nextPositions.trans Nat.le_trans positions⟩
  · exact ⟨.refl fun _ => rfl, .refl fun _ => Nat.le_refl _⟩

end Run

/-- A moderator creates a role below its own and gives it to another member. -/
theorem noEscalation_of_create_and_assign :
    let moderatorRole : Role :=
      { id := ⟨1⟩, workspaceId := ⟨1⟩, name := "MODERATOR", position := 300, isSystem := true,
        permissions := toStoragePermissions (systemRolePermissions .moderator) }
    let start : Database :=
      { workspaces := .empty, categories := .empty, channels := .empty, overrides := .empty
        workspaceMembers := ⟨[⟨⟨1⟩, ⟨1⟩, .moderator⟩, ⟨⟨1⟩, ⟨2⟩, .member⟩], by decide⟩
        roles := ⟨[moderatorRole], by decide⟩
        memberRoles := ⟨[⟨⟨1⟩, ⟨1⟩, ⟨1⟩⟩], by decide⟩
        memberRoleRole := fun _ present =>
          ⟨moderatorRole, List.mem_singleton_self _, by rw [List.mem_singleton.mp present]⟩
        memberRoleMember := fun _ present =>
          ⟨⟨⟨1⟩, ⟨1⟩, .moderator⟩, List.mem_cons_self, by
            obtain rfl := List.mem_singleton.mp present
            exact ⟨rfl, rfl⟩⟩ }
    let create : RoleCall := .create ⟨1⟩ ⟨2⟩ { name := "helper", permissions := some "8" }
    let assign : RoleCall := .assign ⟨1⟩ ⟨2⟩ ⟨2⟩
    let created := create.after start ⟨1⟩
    let finish := assign.after created ⟨1⟩
    HoldsBit finish ⟨1⟩ ⟨2⟩ manageMessages.shift ∧
      NoEscalation ⟨1⟩ (fun userId => userId = ⟨1⟩ ∨ userId = ⟨2⟩) start finish := by
  intro moderatorRole start create assign created finish
  constructor
  · unfold HoldsBit
    decide
  · have steps : Steps (RoleStep ⟨1⟩ fun userId => userId = ⟨1⟩ ∨ userId = ⟨2⟩) start
        [create, assign] finish :=
      .step (.step .refl ⟨.inl rfl, rfl⟩) ⟨.inl rfl, rfl⟩
    refine noEscalation_of_steps steps ?_
    rintro actor (rfl | rfl)
    · unfold HoldsBit
      decide
    · unfold HoldsBit
      decide

end Bongtalk.Workspaces.Roles
