import Bongtalk.Workspaces.Onboarding.OnboardingService

/-!
# The roles that the onboarding grants

Whether an author may pass on the role of an option is checked when the option is written. The
grant comes at any later time, when the role may have been raised and the author demoted, and two
completions of one member may both go through.
-/

namespace Bongtalk.Workspaces.Onboarding

open Library EventLoop Common Prisma Shared Roles OnboardingService List Table

variable {db : Database} {workspaceId : WorkspaceId} {userId : UserId} {store : OnboardingStore}

/-- What a completion may create: assignments of custom roles without the administrator bit, which
every author of a chosen option with this role could assign at that moment. -/
def KeepsHierarchy (before after : OnboardingStore) : OnboardingTask → Prop
  | .record _ choice _ _ => ∀ row ∈ after.db.memberRoles, row ∉ before.db.memberRoles →
      (∃ role ∈ after.db.roles, role.id = row.roleId ∧ role.isSystem = false ∧
        hasRaw (fromStoragePermissions role.permissions) (permissions .administrator) = false) ∧
      ∀ author, (row.roleId, author) ∈ choice.roles →
        (MemberRoleService.assign before.db row.workspaceId author row.userId row.roleId).isOk = true
  | _ => True

variable (identity : RoleId → WorkspaceId × Bool)

/-- A step that escalates nothing, and after which every completion is recorded once and every
assignment is created once at most. -/
def HappensSafely (before : EventLoop.State OnboardingStore OnboardingTask)
    (label : Label OnboardingTask OnboardingInput)
    (after : EventLoop.State OnboardingStore OnboardingTask) : Prop :=
  Step (onboardingLoop identity) before label after ∧
    after.shared.completions.Nodup ∧ after.shared.grants.Nodup ∧
      OnResume (fun store task => KeepsHierarchy store after.shared task) before label

/-- The condition on the transaction of a completion that goes through: no other one of the member
has, and what was checked when the options were written would pass again for each role that the
member does not have yet. -/
def StillGrantable (store : OnboardingStore) : OnboardingTask → Prop
  | .record call choice channelIds roleIds =>
    (record store call choice channelIds roleIds).isOk = true →
      (store.progress call.workspaceId call.userId).onboardingCompletedAt = none ∧
        ∀ roleId ∈ roleIds, ⟨call.workspaceId, call.userId, roleId⟩ ∉ store.db.memberRoles →
          ∀ author, (roleId, author) ∈ choice.roles →
            assertOptionRolesGrantable store.db call.workspaceId author [roleId] = .ok ()
  | _ => True

section Checks

variable {author : UserId} {role : Role}

/-- An actor may pass on a role: as an administrator, or below its position and within its
permissions. -/
def MayGrant (actor : ActorContext) (role : Role) : Prop :=
  hasRaw actor.maxPermissions (permissions .administrator) = true ∨
    role.position < actor.topPosition ∧
      Masks.without (fromStoragePermissions role.permissions) actor.maxPermissions = 0

/-- The two refusals of the checks. -/
theorem mayGrant_iff {actor : ActorContext} :
    MayGrant actor role ↔
      ¬(hasRaw actor.maxPermissions (permissions .administrator) = false ∧
          actor.topPosition ≤ role.position) ∧
        ¬(hasRaw actor.maxPermissions (permissions .administrator) = false ∧
          Masks.without (fromStoragePermissions role.permissions) actor.maxPermissions ≠ 0) := by
  unfold MayGrant
  cases hasRaw actor.maxPermissions (permissions .administrator) with
  | true => simp
  | false => simp

variable (found : findRole db workspaceId role.id = some role)

include found

/-- A role without the administrator bit is assigned by those who may pass it on. -/
theorem isOk_assign_iff (target : (db.findMember workspaceId userId).isSome = true)
    (plain : hasRaw (fromStoragePermissions role.permissions) (permissions .administrator) =
      false) :
    (MemberRoleService.assign db workspaceId author userId role.id).isOk = true ↔
      MayGrant (computeActorContext db workspaceId author) role := by
  rw [mayGrant_iff]
  unfold MemberRoleService.assign
  split
  next missing =>
    rw [found] at missing
    cases missing
  next other foundOther =>
    cases foundOther.symm.trans found
    split
    next missing =>
      rw [missing] at target
      cases target
    · dsimp only
      split
      next high => exact iff_of_false Bool.false_ne_true fun may => may.1 high
      next notHigh =>
        rw [if_neg fun forbidden => by rw [plain] at forbidden; cases forbidden.2]
        split
        next outside => exact iff_of_false Bool.false_ne_true fun may => may.2 outside
        next notOutside => exact iff_of_true rfl ⟨notHigh, notOutside⟩

omit found in
/-- What is checked of a role when an option is written. -/
theorem assertGrantable_eq_ok_iff {roles : List Role} {actor : ActorContext}
    (found : roles.find? (·.id == role.id) = some role) :
    assertGrantable roles actor role.id = .ok () ↔
      role.isSystem = false ∧
        hasRaw (fromStoragePermissions role.permissions) (permissions .administrator) = false ∧
          MayGrant actor role := by
  rw [mayGrant_iff]
  unfold assertGrantable
  simp only [found]
  split
  next system => simp [failWith_ne_ok, system]
  next custom =>
    split
    next administrators => simp [failWith_ne_ok, administrators]
    next plain =>
      rw [Bool.not_eq_true] at custom plain
      split
      next high => exact iff_of_false failWith_ne_ok fun ok => ok.2.2.1 high
      next notHigh =>
        split
        next outside => exact iff_of_false failWith_ne_ok fun ok => ok.2.2.2 outside
        next notOutside => exact iff_of_true rfl ⟨custom, plain, notHigh, notOutside⟩

theorem find_optionRoles :
    (optionRoles db workspaceId [role.id]).find? (·.id == role.id) = some role := by
  obtain ⟨stored, here⟩ := Option.filter_eq_some_iff.mp found
  have present : role ∈ db.roles := (mem_of_findUnique stored).1
  have listed : role ∈ optionRoles db workspaceId [role.id] :=
    mem_findMany.mpr ⟨present, by simpa using here⟩
  cases search : (optionRoles db workspaceId [role.id]).find? (·.id == role.id) with
  | none => exact absurd (beq_self_eq_true role.id) (List.find?_eq_none.mp search role listed)
  | some other =>
    have otherMem : other ∈ db.roles := (mem_findMany.mp (mem_of_find?_eq_some search)).1
    have matching := List.find?_some search
    have sameId : other.id = role.id := beq_iff_eq.mp matching
    rw [eq_of_key_eq otherMem present sameId]

/-- The check of an option, made for one role at one moment. -/
theorem assertOptionRolesGrantable_eq_ok_iff :
    assertOptionRolesGrantable db workspaceId author [role.id] = .ok () ↔
      role.isSystem = false ∧
        hasRaw (fromStoragePermissions role.permissions) (permissions .administrator) = false ∧
          MayGrant (computeActorContext db workspaceId author) role := by
  rw [← assertGrantable_eq_ok_iff (find_optionRoles found)]
  exact check_bind_eq_ok.trans (and_iff_left rfl)

end Checks

section Transaction

variable {next : Database}

/-- A subscription concerns neither roles nor members. -/
theorem subscribe_eq_ok {channelId : ChannelId} (ok : subscribe userId db channelId = .ok next) :
    next.roles = db.roles ∧ next.memberRoles = db.memberRoles ∧
      next.workspaceMembers = db.workspaceMembers := by
  unfold subscribe at ok
  split at ok
  · cases ok
  cases ok
  exact ⟨rfl, rfl, rfl⟩

theorem subscribeAll_eq_ok {channelIds : List ChannelId}
    (ok : channelIds.foldlM (subscribe userId) db = .ok next) :
    next.roles = db.roles ∧ next.memberRoles = db.memberRoles ∧
      next.workspaceMembers = db.workspaceMembers := by
  induction channelIds generalizing db with
  | nil =>
    cases ok
    exact ⟨rfl, rfl, rfl⟩
  | cons channelId channelIds ih =>
    obtain ⟨middle, first, rest⟩ := bind_eq_ok.mp ok
    obtain ⟨roles, memberRoles, members⟩ := subscribe_eq_ok first
    rw [← roles, ← memberRoles, ← members]
    exact ih rest

/-- Roles that have been assigned to a member. -/
structure Granted (workspaceId : WorkspaceId) (userId : UserId) (roleIds : List RoleId)
    (db next : Database) : Prop where
  roles : next.roles = db.roles
  members : next.workspaceMembers = db.workspaceMembers
  assigned : ∀ row, row ∈ next.memberRoles ↔
    row ∈ db.memberRoles ∨ ∃ roleId ∈ roleIds, row = ⟨workspaceId, userId, roleId⟩

theorem grantRole_eq_ok {roleId : RoleId} (ok : grantRole workspaceId userId db roleId = .ok next) :
    Granted workspaceId userId [roleId] db next := by
  unfold grantRole at ok
  split at ok
  · cases ok
  next created =>
    cases ok
    obtain ⟨hasRole, hasMember, rfl⟩ := Database.createMemberRole?_eq_some created
    refine ⟨rfl, rfl, fun row => ?_⟩
    rw [Database.mem_memberRoles_createMemberRole? created]
    simp [or_comm]

theorem grantAll_eq_ok {roleIds : List RoleId}
    (ok : roleIds.foldlM (grantRole workspaceId userId) db = .ok next) :
    Granted workspaceId userId roleIds db next := by
  induction roleIds generalizing db with
  | nil =>
    cases ok
    exact ⟨rfl, rfl, fun row => by simp⟩
  | cons roleId roleIds ih =>
    obtain ⟨middle, first, rest⟩ := bind_eq_ok.mp ok
    have head := grantRole_eq_ok first
    have tail := ih rest
    refine ⟨tail.roles.trans head.roles, tail.members.trans head.members, fun row => ?_⟩
    rw [tail.assigned, head.assigned]
    simp [or_assoc]

/-- What a completion that goes through has written. -/
structure Recorded (store : OnboardingStore) (call : CompleteCall) (roleIds : List RoleId)
    (next : OnboardingStore) : Prop where
  granted : Granted call.workspaceId call.userId roleIds store.db next.db
  isMember : (store.db.findMember call.workspaceId call.userId).isSome = true
  completedAt : ∀ workspaceId userId, (next.progress workspaceId userId).onboardingCompletedAt =
    if workspaceId = call.workspaceId ∧ userId = call.userId then some call.now
    else (store.progress workspaceId userId).onboardingCompletedAt
  completions : next.completions = (call.workspaceId, call.userId) :: store.completions
  grants : next.grants = newMemberRoles store.db next.db ++ store.grants

theorem record_eq_ok {store next : OnboardingStore} {call : CompleteCall} {choice : Choice}
    {channelIds : List ChannelId} {roleIds : List RoleId}
    (ok : record store call choice channelIds roleIds = .ok next) :
    Recorded store call roleIds next := by
  obtain ⟨subscribed, subscribedOk, ok⟩ := bind_eq_ok.mp ok
  obtain ⟨granted, grantedOk, ok⟩ := bind_eq_ok.mp ok
  obtain ⟨roles, memberRoles, members⟩ := subscribeAll_eq_ok subscribedOk
  have assigned := grantAll_eq_ok grantedOk
  split at ok
  · cases ok
  next member found =>
    cases ok
    refine ⟨⟨assigned.roles.trans roles, assigned.members.trans members, ?_⟩, ?_, ?_, rfl, rfl⟩
    · rw [← memberRoles]
      exact assigned.assigned
    · rw [Database.findMember, assigned.members, members] at found
      rw [Database.findMember, found]
      rfl
    · intro workspaceId userId
      simp only [setProgress, completed]
      split <;> rfl

end Transaction

/-- The history agrees with the columns of the members. -/
structure Consistent (identity : RoleId → WorkspaceId × Bool) (store : OnboardingStore) : Prop where
  identified : KeepsIdentity identity store.db
  completed : ∀ workspaceId userId, (workspaceId, userId) ∈ store.completions ↔
    (store.progress workspaceId userId).onboardingCompletedAt ≠ none
  granted : ∀ row ∈ store.grants, (row.workspaceId, row.userId) ∈ store.completions

/-- The roles to be granted are custom roles of the workspace, and options name them. -/
def OnboardingTask.Fits (identity : RoleId → WorkspaceId × Bool) : OnboardingTask → Prop
  | .record call choice _ roleIds => ∀ roleId ∈ roleIds,
      identity roleId = (call.workspaceId, false) ∧ ∃ author, (roleId, author) ∈ choice.roles
  | .assertAdmin _ _ next | .findQuestion _ _ next => next.Fits identity
  | _ => True

section Completion

variable {identity} {next : OnboardingStore} {call : CompleteCall} {choice : Choice}
  {channelIds : List ChannelId} {roleIds : List RoleId}

/-- The assignments that a completion creates are those of its member. -/
theorem mem_newMemberRoles (recorded : Recorded store call roleIds next) {row : MemberRole} :
    row ∈ newMemberRoles store.db next.db ↔
      row ∉ store.db.memberRoles ∧
        ∃ roleId ∈ roleIds, row = ⟨call.workspaceId, call.userId, roleId⟩ := by
  rw [newMemberRoles, mem_findMany, recorded.granted.assigned, decide_eq_true_eq, ← mem_def]
  constructor
  · rintro ⟨old | new, absent⟩
    · exact absurd old absent
    · exact ⟨absent, new⟩
  · rintro ⟨absent, new⟩
    exact ⟨.inr new, absent⟩

variable (consistent : Consistent identity store)

include consistent

/-- The completion of a member is recorded once more exactly when it has been recorded. -/
theorem nodup_completions_iff (once : store.completions.Nodup)
    (recorded : Recorded store call roleIds next) :
    next.completions.Nodup ↔
      (store.progress call.workspaceId call.userId).onboardingCompletedAt = none := by
  rw [recorded.completions, nodup_cons, and_iff_left once, consistent.completed, not_not]

/-- Without an earlier completion nothing has been assigned before. -/
theorem nodup_grants (once : store.grants.Nodup) (recorded : Recorded store call roleIds next)
    (open_ : (store.progress call.workspaceId call.userId).onboardingCompletedAt = none) :
    next.grants.Nodup := by
  rw [recorded.grants, nodup_append']
  refine ⟨?_, once, ?_⟩
  · have distinct : next.db.memberRoles.rows.Nodup := by
      simpa using next.db.memberRoles.keysNodup
    exact distinct.filter _
  · intro row new old
    obtain ⟨-, roleId, -, rfl⟩ := (mem_newMemberRoles recorded).mp new
    exact (consistent.completed _ _).mp (consistent.granted _ old) open_

variable (fits : OnboardingTask.Fits identity (.record call choice channelIds roleIds))

include fits

/-- A role that is created for the member is a custom role of the workspace. -/
theorem exists_role (recorded : Recorded store call roleIds next) {roleId : RoleId}
    (listed : roleId ∈ roleIds) :
    ∃ role, findRole store.db call.workspaceId role.id = some role ∧ role.id = roleId ∧
      role ∈ next.db.roles ∧ role.isSystem = false := by
  have assigned : (⟨call.workspaceId, call.userId, roleId⟩ : MemberRole) ∈ next.db.memberRoles :=
    (recorded.granted.assigned _).mpr (.inr ⟨roleId, listed, rfl⟩)
  obtain ⟨role, present, idEq⟩ := next.db.memberRoleRole _ assigned
  have stored : role ∈ store.db.roles := recorded.granted.roles ▸ present
  have same := consistent.identified role stored
  rw [idEq, (fits roleId listed).1] at same
  obtain ⟨here, custom⟩ := Prod.mk.inj same
  refine ⟨role, ?_, idEq, present, custom.symm⟩
  rw [findRole, findUnique_of_mem stored]
  exact Option.filter_eq_some_iff.mpr ⟨rfl, by rw [← here, beq_self_eq_true]⟩

/-- The assignments of a completion keep to the hierarchy exactly when the checks of the options
would pass again. -/
theorem keepsHierarchy_iff (recorded : Recorded store call roleIds next) :
    KeepsHierarchy store next (.record call choice channelIds roleIds) ↔
      ∀ roleId ∈ roleIds, ⟨call.workspaceId, call.userId, roleId⟩ ∉ store.db.memberRoles →
        ∀ author, (roleId, author) ∈ choice.roles →
          assertOptionRolesGrantable store.db call.workspaceId author [roleId] = .ok () := by
  constructor
  · intro keeps roleId listed absent author chosen
    obtain ⟨role, found, rfl, present, custom⟩ := exists_role consistent fits recorded listed
    have created := (recorded.granted.assigned _).mpr (.inr ⟨role.id, listed, rfl⟩)
    obtain ⟨⟨other, otherMem, sameId, -, plain⟩, assigns⟩ := keeps _ created absent
    obtain rfl := eq_of_key_eq otherMem present sameId
    rw [assertOptionRolesGrantable_eq_ok_iff found]
    exact ⟨custom, plain, (isOk_assign_iff found recorded.isMember plain).mp (assigns author chosen)⟩
  · intro grantable row created absent
    obtain ⟨roleId, listed, rfl⟩ :=
      ((recorded.granted.assigned row).mp created).resolve_left absent
    obtain ⟨role, found, rfl, present, custom⟩ := exists_role consistent fits recorded listed
    have passes := fun author chosen =>
      (assertOptionRolesGrantable_eq_ok_iff found).mp (grantable role.id listed absent author chosen)
    obtain ⟨-, author, chosen⟩ := fits role.id listed
    have plain := (passes author chosen).2.1
    refine ⟨⟨role, present, rfl, custom, plain⟩, fun author chosen => ?_⟩
    exact (isOk_assign_iff found recorded.isMember plain).mpr (passes author chosen).2.2

end Completion

section Steps

variable {identity}

variable {next : OnboardingStore}

/-- Stores with the same tables, completions and grants. -/
theorem Consistent.of_same (consistent : Consistent identity store) (db : next.db = store.db)
    (completions : next.completions = store.completions) (grants : next.grants = store.grants)
    (completedAt : ∀ workspaceId userId, (next.progress workspaceId userId).onboardingCompletedAt =
      (store.progress workspaceId userId).onboardingCompletedAt) : Consistent identity next where
  identified := db ▸ consistent.identified
  completed := by
    intro workspaceId userId
    rw [completions, completedAt]
    exact consistent.completed workspaceId userId
  granted := by
    rw [completions, grants]
    exact consistent.granted

theorem acceptRules_eq_ok {workspaceId : WorkspaceId} {userId : UserId} {now : DateTime}
    (ok : acceptRules store workspaceId userId now = .ok next) :
    next = setProgress store workspaceId userId fun progress =>
      { progress with rulesAcceptedAt := some now } := by
  unfold acceptRules at ok
  split at ok
  · cases ok
  · exact (Except.ok.inj ok).symm

theorem writeQuestion_eq_ok {authoring : Authoring}
    (ok : writeQuestion store authoring = .ok next) :
    ∃ questions, next = { store with questions := questions } := by
  unfold writeQuestion at ok
  dsimp only at ok
  split at ok
  · split at ok
    · cases ok
    · exact ⟨_, (Except.ok.inj ok).symm⟩
  · split at ok
    · cases ok
    · exact ⟨_, (Except.ok.inj ok).symm⟩

theorem deleteQuestion_eq_ok {questionId : QuestionId}
    (ok : deleteQuestion store questionId = .ok next) :
    ∃ questions, next = { store with questions := questions } := by
  unfold deleteQuestion at ok
  split at ok
  · cases ok
  · exact ⟨_, (Except.ok.inj ok).symm⟩

theorem Consistent.of_recorded (consistent : Consistent identity store) {call : CompleteCall}
    {roleIds : List RoleId} (recorded : Recorded store call roleIds next) :
    Consistent identity next where
  identified := by
    rw [KeepsIdentity, recorded.granted.roles]
    exact consistent.identified
  completed := by
    intro workspaceId userId
    rw [recorded.completions, recorded.completedAt, mem_cons, Prod.mk.injEq, consistent.completed]
    split
    next same => exact iff_of_true (.inl same) (Option.some_ne_none _)
    next other => exact or_iff_right other
  granted := by
    intro row created
    rw [recorded.grants] at created
    rw [recorded.completions]
    rcases mem_append.mp created with new | old
    · obtain ⟨-, roleId, -, rfl⟩ := (mem_newMemberRoles recorded).mp new
      exact mem_cons_self
    · exact mem_cons_of_mem _ (consistent.granted row old)

/-- The roles that were found are custom roles of the workspace, and options name them. -/
theorem fits_record (consistent : Consistent identity store) (call : CompleteCall) (choice : Choice)
    (channelIds : List ChannelId) :
    OnboardingTask.Fits identity (.record call choice channelIds
      (validRoleIds store.db call.workspaceId (choice.roles.map Prod.fst))) := by
  intro roleId listed
  obtain ⟨role, found, rfl⟩ := mem_map.mp listed
  obtain ⟨present, named⟩ := mem_findMany.mp (mem_filter.mp found).1
  simp only [Bool.and_eq_true, contains_eq_mem, decide_eq_true_eq, beq_iff_eq,
    Bool.not_eq_true', mem_map] at named
  obtain ⟨⟨⟨⟨_, author⟩, chosen, rfl⟩, here⟩, custom⟩ := named
  exact ⟨by rw [consistent.identified role present, here, custom], author, chosen⟩

variable {task : OnboardingTask} {call : CompleteCall} {new : OnboardingTask}
  {input : OnboardingInput} {spawned : List OnboardingTask}

/-- What a completion begins with grants nothing yet. -/
theorem fits_of_begin (isNew : new ∈ (begin store call).toOption.join.toList) :
    new.Fits identity := by
  unfold begin at isNew
  split at isNew
  · cases isNew
  dsimp only at isNew
  split at isNew
  · cases isNew
  split at isNew
  · obtain rfl := mem_singleton.mp isNew
    trivial
  · obtain rfl := mem_singleton.mp isNew
    trivial

theorem keeps_proceed (consistent : Consistent identity store)
    {next : Except Failure OnboardingTask}
    (fits : ∀ new, next = .ok new → new.Fits identity) :
    Keeps (Consistent identity) (fun _ => OnboardingTask.Fits identity) store
      (proceed store next : OnboardingStore × List OnboardingTask).1 (proceed store next).2 :=
  .of_same consistent fun new isNew => fits new (mem_proceed.mp isNew)

variable {written : Except Failure OnboardingStore}

theorem keeps_conclude (consistent : Consistent identity store)
    (keeps : ∀ next, written = .ok next → Consistent identity next) :
    Keeps (Consistent identity) (fun _ => OnboardingTask.Fits identity) store
      (conclude store written : OnboardingStore × List OnboardingTask).1
      (conclude store written).2 :=
  ⟨law_conclude consistent keeps, fun _ fact => fact, forall_mem_nil _⟩

/-- A check that passes goes on with the next task. -/
theorem eq_of_check_bind {check : Except Failure Unit}
    (ok : (do check; .ok task) = (.ok new : Except Failure OnboardingTask)) : task = new :=
  Except.ok.inj (check_bind_eq_ok.mp ok).2

/-- Each step keeps the history consistent, and the grants to come as they were found. -/
theorem keeps_resume (consistent : Consistent identity store) (fits : task.Fits identity) :
    Keeps (Consistent identity) (fun _ => OnboardingTask.Fits identity) store (task.resume store).1
      (task.resume store).2 := by
  cases task with
  | acceptRules workspaceId userId now =>
    refine keeps_conclude consistent fun next ok => ?_
    obtain rfl := acceptRules_eq_ok ok
    refine consistent.of_same rfl rfl rfl fun ofWorkspace ofUser => ?_
    simp only [setProgress]
    split <;> rfl
  | findMember call =>
    refine .of_same consistent fun new isNew => ?_
    exact fits_of_begin isNew
  | countRules call | countQuestions workspaceId actorUserId newId request
  | findActorRoles authoring roles =>
    refine keeps_proceed consistent fun new ok => ?_
    obtain rfl := eq_of_check_bind ok
    trivial
  | listQuestions call =>
    refine keeps_proceed consistent fun new ok => ?_
    obtain ⟨choice, -, same⟩ := bind_eq_ok.mp ok
    cases same
    trivial
  | findChannels call choice =>
    refine .of_same consistent fun new isNew => ?_
    obtain rfl := mem_singleton.mp isNew
    trivial
  | findRoles call choice channelIds =>
    refine .of_same consistent fun new isNew => ?_
    obtain rfl := mem_singleton.mp isNew
    exact fits_record consistent call choice channelIds
  | record call choice channelIds roleIds =>
    exact keeps_conclude consistent fun next ok => consistent.of_recorded (record_eq_ok ok)
  | assertAdmin workspaceId userId task | findQuestion workspaceId questionId task =>
    refine keeps_proceed consistent fun new ok => ?_
    obtain rfl := eq_of_check_bind ok
    exact fits
  | findOptionRoles authoring =>
    unfold OnboardingTask.resume
    dsimp only
    split
    · refine .of_same consistent fun new isNew => ?_
      obtain rfl := mem_singleton.mp isNew
      trivial
    · refine .of_same consistent fun new isNew => ?_
      obtain rfl := mem_singleton.mp isNew
      trivial
  | write authoring =>
    refine keeps_conclude consistent fun next ok => ?_
    obtain ⟨questions, rfl⟩ := writeQuestion_eq_ok ok
    exact consistent.of_same rfl rfl rfl fun _ _ => rfl
  | delete questionId =>
    refine keeps_conclude consistent fun next ok => ?_
    obtain ⟨questions, rfl⟩ := deleteQuestion_eq_ok ok
    exact consistent.of_same rfl rfl rfl fun _ _ => rfl

/-- A change of the tables takes the history of the members along who stay. -/
theorem Consistent.withTables (consistent : Consistent identity store) {next : Database}
    (identified : KeepsIdentity identity next) (rules : WorkspaceId → WorkspaceRules) :
    Consistent identity (store.withTables next rules) where
  identified := identified
  completed := by
    intro workspaceId userId
    simp only [OnboardingStore.withTables, mem_filter, consistent.completed]
    split
    next stays => exact and_iff_left stays
    next leaves => exact iff_of_false (fun both => leaves both.2) (fun some => some rfl)
  granted := by
    intro row created
    obtain ⟨created, stays⟩ := mem_filter.mp created
    exact mem_filter.mpr ⟨consistent.granted row created, stays⟩

variable (identity) in
/-- The history after a change is part of the history before. -/
theorem change_sublist (store : OnboardingStore) (next : Database)
    (rules : WorkspaceId → WorkspaceRules) :
    (store.change identity next rules).completions.Sublist store.completions ∧
      (store.change identity next rules).grants.Sublist store.grants := by
  unfold OnboardingStore.change
  split
  · exact ⟨filter_sublist, filter_sublist⟩
  · exact ⟨.refl _, .refl _⟩

theorem Consistent.change (consistent : Consistent identity store) (next : Database)
    (rules : WorkspaceId → WorkspaceRules) :
    Consistent identity (store.change identity next rules) := by
  unfold OnboardingStore.change
  split
  next identified => exact consistent.withTables identified rules
  next => exact consistent

theorem fits_starts (request : OnboardingRequest) : request.starts.Fits identity := by
  cases request <;> trivial

/-- Inputs keep the history consistent, and start with calls that grant nothing yet. -/
theorem keeps_accept (consistent : Consistent identity store)
    (accepted : (onboardingLoop identity).Accepts store input next spawned) :
    Keeps (Consistent identity) (fun _ => OnboardingTask.Fits identity) store next spawned := by
  obtain ⟨rfl, rfl⟩ := Prod.mk.inj accepted
  cases input with
  | request call =>
    refine .of_same consistent fun new isNew => ?_
    obtain rfl := mem_singleton.mp isNew
    exact fits_starts call
  | roles workspaceId call =>
    exact ⟨consistent.change _ _, fun _ fact => fact, forall_mem_nil _⟩
  | outside next rules =>
    exact ⟨consistent.change next rules, fun _ fact => fact, forall_mem_nil _⟩

/-- Each completion is recorded once, and each assignment created once. -/
def Once (store : OnboardingStore) : Prop :=
  store.completions.Nodup ∧ store.grants.Nodup

theorem once_accept (once : Once store)
    (accepted : (onboardingLoop identity).Accepts store input next spawned) : Once next := by
  obtain ⟨rfl, -⟩ := Prod.mk.inj accepted
  cases input with
  | request call => exact once
  | roles workspaceId call =>
    obtain ⟨completions, grants⟩ := change_sublist identity store _ _
    exact ⟨once.1.sublist completions, once.2.sublist grants⟩
  | outside next rules =>
    obtain ⟨completions, grants⟩ := change_sublist identity store next rules
    exact ⟨once.1.sublist completions, once.2.sublist grants⟩

theorem once_conclude (once : Once store)
    (same : ∀ next, written = .ok next → next.completions = store.completions ∧ next.grants =
      store.grants) :
    Once (conclude store written : OnboardingStore × List OnboardingTask).1 := by
  refine law_conclude once fun next ok => ?_
  rw [Once, (same next ok).1, (same next ok).2]
  exact once

/-- A step escalates nothing and records once what it records exactly under the condition. -/
theorem safe_resume_iff (consistent : Consistent identity store) (once : Once store)
    (fits : task.Fits identity) :
    Once (task.resume store).1 ∧ KeepsHierarchy store (task.resume store).1 task ↔
      StillGrantable store task := by
  cases task with
  | record call choice channelIds roleIds =>
    unfold OnboardingTask.resume StillGrantable
    dsimp only
    cases written : record store call choice channelIds roleIds with
    | error failure =>
      refine iff_of_true ⟨once, ?_⟩ (fun impossible => by cases impossible)
      exact fun row created absent => absurd created absent
    | ok next =>
      have recorded := record_eq_ok written
      have completionsIff := nodup_completions_iff consistent once.1 recorded
      rw [forall_prop_of_true (by rfl), ← completionsIff,
        ← keepsHierarchy_iff consistent fits recorded]
      constructor
      · exact fun safe => ⟨safe.1.1, safe.2⟩
      · intro safe
        have grants := nodup_grants consistent once.2 recorded (completionsIff.mp safe.1)
        exact ⟨⟨safe.1, grants⟩, safe.2⟩
  | acceptRules workspaceId userId now =>
    refine iff_of_true ⟨once_conclude once fun next ok => ?_, trivial⟩ trivial
    obtain rfl := acceptRules_eq_ok ok
    exact ⟨rfl, rfl⟩
  | write authoring =>
    refine iff_of_true ⟨once_conclude once fun next ok => ?_, trivial⟩ trivial
    obtain ⟨questions, rfl⟩ := writeQuestion_eq_ok ok
    exact ⟨rfl, rfl⟩
  | delete questionId =>
    refine iff_of_true ⟨once_conclude once fun next ok => ?_, trivial⟩ trivial
    obtain ⟨questions, rfl⟩ := deleteQuestion_eq_ok ok
    exact ⟨rfl, rfl⟩
  | findOptionRoles authoring =>
    refine iff_of_true ⟨?_, trivial⟩ trivial
    unfold OnboardingTask.resume
    dsimp only
    split
    · exact once
    · exact once
  | _ => exact iff_of_true ⟨once, trivial⟩ trivial

end Steps

section Runs

variable {identity}

theorem consistent_initialOnboarding : Consistent identity initialOnboarding where
  identified := forall_mem_nil _
  completed := fun _ _ => iff_of_false not_mem_nil fun some => some rfl
  granted := forall_mem_nil _

variable (identity)

/-- The runs in which the onboarding never escalates and records each completion once are those in
which, whenever a completion goes through, no other one of the member has and the checks of its
options would pass again. -/
theorem onboarding_never_escalates_iff (labels : List (Label OnboardingTask OnboardingInput))
    (finish : EventLoop.State OnboardingStore OnboardingTask) :
    Steps (HappensSafely identity) ⟨initialOnboarding, []⟩ labels finish ↔
      Steps (Guarded (Step (onboardingLoop identity)) (OnResume StillGrantable))
        ⟨initialOnboarding, []⟩ labels finish := by
  refine Steps.congr_within (fun state => Consistent identity state.shared ∧
    (∀ task ∈ state.tasks, task.Fits identity) ∧ Once state.shared) ?_ ?_
    ⟨consistent_initialOnboarding, forall_mem_nil _, nodup_nil, nodup_nil⟩
  · rintro state label next ⟨transition, completions, grants, -⟩ ⟨consistent, fits, -⟩
    cases transition with
    | resume before task after =>
      have kept := keeps_resume consistent (fits task (mem_pending.mpr (.inl rfl)))
      exact ⟨kept.invariant, kept.resumed fits, completions, grants⟩
    | accept accepted =>
      have kept := keeps_accept consistent accepted
      exact ⟨kept.invariant, kept.accepted fits, completions, grants⟩
  · rintro state label next ⟨consistent, fits, once⟩
    refine and_congr_right fun transition => ?_
    cases transition with
    | resume before task after =>
      rw [← and_assoc]
      exact safe_resume_iff consistent once (fits task (mem_pending.mpr (.inl rfl)))
    | accept accepted =>
      obtain ⟨completions, grants⟩ := once_accept once accepted
      exact iff_of_true ⟨completions, grants, trivial⟩ trivial

end Runs

/-- Two system roles of a workspace; the other ids are those of its custom roles. -/
def twoSystemRoles : RoleId → WorkspaceId × Bool
  | ⟨1⟩ | ⟨2⟩ => (⟨1⟩, true)
  | _ => (⟨1⟩, false)

def ownerRole : Role where
  id := ⟨1⟩
  workspaceId := ⟨1⟩
  name := "OWNER"
  position := 500
  isSystem := true

def adminRole : Role where
  id := ⟨2⟩
  workspaceId := ⟨1⟩
  name := "ADMIN"
  position := 400
  isSystem := true

def fansRole : Role where
  id := ⟨3⟩
  workspaceId := ⟨1⟩
  name := "fans"
  position := 5

/-- An owner, an admin and a member, and a custom role that nobody has. -/
def clubTables : Database where
  workspaces := .empty
  workspaceMembers :=
    ⟨[⟨⟨1⟩, ⟨1⟩, .owner⟩, ⟨⟨1⟩, ⟨2⟩, .admin⟩, ⟨⟨1⟩, ⟨3⟩, .member⟩], by decide⟩
  roles := ⟨[ownerRole, adminRole, fansRole], by decide⟩
  memberRoles := ⟨[⟨⟨1⟩, ⟨1⟩, ⟨1⟩⟩, ⟨⟨1⟩, ⟨2⟩, ⟨2⟩⟩], by decide⟩
  categories := .empty
  channels := .empty
  overrides := .empty
  memberRoleRole := by simp [mem_def, ownerRole, adminRole, fansRole]
  memberRoleMember := by simp [mem_def]

/-- The admin offers the role in a question, the owner raises the role above the admin, and the
member chooses it. -/
def raisedAfterwards : List (Move OnboardingInput) :=
  [.accept (.outside clubTables fun _ => .empty),
    .accept (.request (.createQuestion ⟨1⟩ ⟨2⟩ ⟨1⟩
      { type := .single, label := "Are you a fan?",
        options := [{ id := "yes", label := "Yes", roleId := some ⟨3⟩ }] })),
    .run 0, .run 0, .run 0, .run 0, .run 0,
    .accept (.roles ⟨1⟩ (.update ⟨1⟩ ⟨3⟩ { position := some 450 })),
    .accept (.request (.complete
      { workspaceId := ⟨1⟩, userId := ⟨3⟩, answers := [{ questionId := ⟨1⟩, optionIds := ["yes"] }],
        now := 1 })),
    .run 0, .run 0, .run 0, .run 0, .run 0]

/-- The one pending task is about to create an assignment that the author of the option could not
make. -/
def aboutToEscalate (state : EventLoop.State OnboardingStore OnboardingTask) : Bool :=
  match state.tasks with
  | [.record call choice channelIds roleIds] =>
    (record state.shared call choice channelIds roleIds).toOption.any fun next =>
      decide (⟨⟨1⟩, ⟨3⟩, ⟨3⟩⟩ ∈ next.db.memberRoles.rows ∧
        ⟨⟨1⟩, ⟨3⟩, ⟨3⟩⟩ ∉ state.shared.db.memberRoles.rows ∧ (⟨3⟩, ⟨2⟩) ∈ choice.roles ∧
          (MemberRoleService.assign state.shared.db ⟨1⟩ ⟨2⟩ ⟨3⟩ ⟨3⟩).isOk = false)
  | _ => false

theorem onboardingLoop_accepts (identity : RoleId → WorkspaceId × Bool) (store : OnboardingStore)
    (input : OnboardingInput) :
    (onboardingLoop identity).Accepts store input (OnboardingInput.accept identity store input).1
      (OnboardingInput.accept identity store input).2 :=
  rfl

/-- The member gets a role that the admin who offered it could not assign. -/
theorem raised_role_granted : ∃ labels before label after,
    Steps (Step (onboardingLoop twoSystemRoles)) ⟨initialOnboarding, []⟩ labels before ∧
      Step (onboardingLoop twoSystemRoles) before label after ∧
        ¬HappensSafely twoSystemRoles before label after := by
  obtain ⟨labels, ⟨store, tasks⟩, steps, escalates⟩ :
      ∃ labels before,
        Steps (Step (onboardingLoop twoSystemRoles)) ⟨initialOnboarding, []⟩ labels before ∧
          aboutToEscalate before = true :=
    exists_steps_of_play _ (onboardingLoop_accepts twoSystemRoles) raisedAfterwards
      (by decide +kernel)
  unfold aboutToEscalate at escalates
  split at escalates
  next call choice channelIds roleIds pending =>
    obtain ⟨next, ok, bad⟩ := exists_ok escalates
    obtain ⟨created, absent, chosen, refused⟩ := of_decide_eq_true bad
    obtain rfl : tasks = _ := pending
    refine ⟨labels, _, _, _, steps,
      .resume [] (OnboardingTask.record call choice channelIds roleIds) [], ?_⟩
    rintro ⟨-, -, -, keeps⟩
    have written : ((OnboardingTask.record call choice channelIds roleIds).resume store).1 = next := by
      rw [OnboardingTask.resume, ok]
      rfl
    have here : (⟨⟨1⟩, ⟨3⟩, ⟨3⟩⟩ : MemberRole) ∈
        ((OnboardingTask.record call choice channelIds roleIds).resume store).1.db.memberRoles := by
      rw [written]
      exact created
    have assigns := (keeps ⟨⟨1⟩, ⟨3⟩, ⟨3⟩⟩ here absent).2 ⟨2⟩ chosen
    rw [refused] at assigns
    cases assigns
  · cases escalates

end Bongtalk.Workspaces.Onboarding
