import Bongtalk.Channels.Permission.ChannelAccess

/-!
# Visibility of many users at once

Fan-outs filter their candidates with one pass over the override rows of a channel.
The pass looks at allow masks only, while the effective mask of a user
also folds the deny masks.
-/

namespace Bongtalk.Channels.Permission

open Library Auth Prisma List

/-- The principals of one type whose row on the channel allows `READ`: `userReadAllow` and
`roleReadAllow`. -/
def readAllowPrincipals (db : Database) (channelId : ChannelId) (type : Principal → Bool) :
    List Principal :=
  ((db.overrides.findMany fun row => row.channelId == channelId).filter fun row =>
    number row.allowMask &&& Permission.read == Permission.read && type row.principal).map
      (·.principal)

/-- The test of the loop over the candidate members. -/
def isVisibleMember (db : Database) (channelId : ChannelId) (member : WorkspaceMember) : Bool :=
  member.role == .owner ||
    (readAllowPrincipals db channelId Principal.isUser).contains (.user member.userId) ||
    (rolePrincipals member.role (db.roleIdsOf member.workspaceId member.userId)).any
      (readAllowPrincipals db channelId Principal.isRole).contains

/-- The candidates who see a private channel: the owner, and every member for whose user
or role principal some row allows `READ`. -/
def filterPrivateChannelVisibleUsers (db : Database) (channelId : ChannelId)
    (workspaceId : WorkspaceId) (candidateUserIds : List UserId) : List UserId :=
  if candidateUserIds = [] then []
  else
    let members := db.workspaceMembers.findMany fun row =>
      row.workspaceId == workspaceId && candidateUserIds.contains row.userId
    (members.filter (isVisibleMember db channelId)).map (·.userId)

/-- The candidates who see a channel; on a public channel they are the members. -/
def filterChannelVisibleUsers (db : Database) (channel : Channel) (workspaceId : WorkspaceId)
    (candidateUserIds : List UserId) : List UserId :=
  if candidateUserIds = [] then []
  else if channel.isPrivate then
    filterPrivateChannelVisibleUsers db channel.id workspaceId candidateUserIds
  else
    (db.workspaceMembers.findMany fun row =>
      row.workspaceId == workspaceId && candidateUserIds.contains row.userId).map (·.userId)

variable {db : Database} {channelId : ChannelId}

theorem mem_readAllowPrincipals {type : Principal → Bool} {principal : Principal} :
    principal ∈ readAllowPrincipals db channelId type ↔
      type principal = true ∧ ∃ row ∈ db.overrides.rows, row.channelId = channelId ∧
        row.principal = principal ∧ row.allowMask.value.testBit 0 = true := by
  have readBit : ∀ mask : OverrideMask,
      (number mask &&& Permission.read == Permission.read) = mask.value.testBit 0 := by
    intro mask
    rw [← getLsbD_number mask 0, ← hasPermission_read]
    rfl
  simp only [readAllowPrincipals, mem_map, mem_filter, Table.mem_findMany,
    Table.mem_def, beq_iff_eq, Bool.and_eq_true, readBit]
  constructor
  · rintro ⟨row, ⟨⟨present, channelEq⟩, allows, typed⟩, rfl⟩
    exact ⟨typed, row, present, channelEq, rfl, allows⟩
  · rintro ⟨typed, row, present, channelEq, rfl, allows⟩
    exact ⟨row, ⟨⟨present, channelEq⟩, allows, typed⟩, rfl⟩

/-- The loop keeps the owner and the members whom some row allows `READ`. -/
theorem isVisibleMember_iff {member : WorkspaceMember} :
    isVisibleMember db channelId member = true ↔
      member.role = .owner ∨
        ReadAllowed db.overrides.rows channelId member.userId (loadMember db member).principals := by
  simp only [isVisibleMember, Bool.or_eq_true, beq_iff_eq, contains_eq_mem,
    decide_eq_true_eq, any_eq_true, mem_readAllowPrincipals, or_assoc]
  refine or_congr_right (or_congr ?_ ?_)
  · exact and_iff_right rfl
  · rw [principals_loadMember]
    constructor
    · rintro ⟨principal, held, -, row, present, channelEq, rfl, allows⟩
      exact ⟨row, present, channelEq, held, allows⟩
    · rintro ⟨row, present, channelEq, held, allows⟩
      exact ⟨_, held, isRole_of_mem_rolePrincipals held, row, present, channelEq, rfl, allows⟩

variable {workspaceId : WorkspaceId} {candidateUserIds : List UserId} {userId : UserId}

/-- The batch filter keeps the candidate members who own the workspace or whom some row
allows `READ`. -/
theorem mem_filterPrivateChannelVisibleUsers :
    userId ∈ filterPrivateChannelVisibleUsers db channelId workspaceId candidateUserIds ↔
      userId ∈ candidateUserIds ∧ ∃ member, db.findMember workspaceId userId = some member ∧
        (member.role = .owner ∨
          ReadAllowed db.overrides.rows channelId userId (loadMember db member).principals) := by
  unfold filterPrivateChannelVisibleUsers
  split
  next empty => simp [empty]
  next nonempty =>
    simp only [mem_map, mem_filter, Table.mem_findMany, Bool.and_eq_true, beq_iff_eq,
      contains_eq_mem, decide_eq_true_eq, isVisibleMember_iff, Database.findMember,
      Table.findUnique_eq_some_iff, Prod.mk.injEq]
    constructor
    · rintro ⟨member, ⟨⟨present, here, candidate⟩, visible⟩, rfl⟩
      exact ⟨candidate, member, ⟨present, here, rfl⟩, visible⟩
    · rintro ⟨candidate, member, ⟨present, here, rfl⟩, visible⟩
      exact ⟨member, ⟨⟨present, here, candidate⟩, visible⟩, rfl⟩

/-- The filter keeps the candidate members, and on a private channel only the owner and those whom
some row allows `READ`. -/
theorem mem_filterChannelVisibleUsers {channel : Channel} :
    userId ∈ filterChannelVisibleUsers db channel workspaceId candidateUserIds ↔
      userId ∈ candidateUserIds ∧ ∃ member, db.findMember workspaceId userId = some member ∧
        (channel.isPrivate = true → member.role = .owner ∨
          ReadAllowed db.overrides.rows channel.id userId (loadMember db member).principals) := by
  unfold filterChannelVisibleUsers
  split
  next empty => simp [empty]
  next nonempty =>
    split
    next isPrivate =>
      rw [mem_filterPrivateChannelVisibleUsers]
      simp only [isPrivate, forall_const]
    next isPublic =>
      simp only [isPublic, Bool.false_eq_true, IsEmpty.forall_iff, and_true, mem_map, Table.mem_findMany,
        Bool.and_eq_true, beq_iff_eq, contains_eq_mem, decide_eq_true_eq,
        Database.findMember, Table.findUnique_eq_some_iff, Prod.mk.injEq]
      constructor
      · rintro ⟨member, ⟨present, here, candidate⟩, rfl⟩
        exact ⟨candidate, member, present, here, rfl⟩
      · rintro ⟨candidate, member, present, here, rfl⟩
        exact ⟨member, ⟨present, here, candidate⟩, rfl⟩

/-- The batch filter computes the effective masks pointwise, provided that no candidate is let
in against a denial and that no owner among them depends on roles that do not read. -/
theorem filterPrivateChannelVisibleUsers_exact_iff (db : Database) {channel : Channel}
    (isPrivate : channel.isPrivate = true) (workspaceId : WorkspaceId)
    (candidateUserIds : List UserId) :
    (∀ userId, userId ∈ filterPrivateChannelVisibleUsers db channel.id workspaceId
          candidateUserIds ↔
        userId ∈ candidateUserIds ∧ ∃ member, db.findMember workspaceId userId = some member ∧
          hasPermission (computeEffectiveForMember db.overrides.rows none channel userId
            (loadMember db member)) Permission.read = true) ↔
      ∀ userId ∈ candidateUserIds, ∀ member, db.findMember workspaceId userId = some member →
        let principals := (loadMember db member).principals
        (member.role = .owner → RolesRead (loadMember db member) ∨
          ReadAllowed db.overrides.rows channel.id userId principals) ∧
        (member.role = .owner ∨ ReadAllowed db.overrides.rows channel.id userId principals →
          ¬ReadDenied db.overrides.rows channel.id userId principals) := by
  simp only [mem_filterPrivateChannelVisibleUsers, computeEffectiveForMember_read, isPrivate,
    Bool.true_eq_false, false_or]
  constructor
  · intro exact_ userId candidate member found
    have pointwise := exact_ userId
    simp only [candidate, true_and, found, Option.some.injEq, exists_eq_left'] at pointwise
    constructor
    · intro owner
      rcases (pointwise.mp (.inl owner)).2 with allowed | ⟨-, rolesRead⟩
      · exact .inr allowed
      · exact .inl rolesRead
    · intro visible
      exact (pointwise.mp visible).1
  · intro condition userId
    refine and_congr_right fun candidate => exists_congr fun member => and_congr_right fun found => ?_
    obtain ⟨ownerReads, undenied⟩ := condition userId candidate member found
    constructor
    · intro visible
      refine ⟨undenied visible, ?_⟩
      rcases visible with owner | allowed
      · exact (ownerReads owner).elim (fun rolesRead => .inr ⟨owner, rolesRead⟩) .inl
      · exact .inl allowed
    · rintro ⟨-, allowed | ⟨owner, -⟩⟩
      · exact .inr allowed
      · exact .inl owner

/-- A member whose role is allowed `READ` and whose own row denies it does not read, and the
batch filter keeps it. -/
theorem filterPrivateChannelVisibleUsers_keeps_denied :
    ¬∀ (db : Database) (channel : Channel) (workspaceId : WorkspaceId)
        (candidateUserIds : List UserId), channel.isPrivate = true →
      ∀ userId, userId ∈ filterPrivateChannelVisibleUsers db channel.id workspaceId
          candidateUserIds ↔
        userId ∈ candidateUserIds ∧ ∃ member, db.findMember workspaceId userId = some member ∧
          hasPermission (computeEffectiveForMember db.overrides.rows none channel userId
            (loadMember db member)) Permission.read = true := by
  intro exact_
  let channel : Channel :=
    { id := ⟨1⟩, workspaceId := some ⟨1⟩, name := "board", position := 0, isPrivate := true,
      createdAt := 0 }
  let db : Database := .withoutRoles ⟨[⟨⟨1⟩, ⟨2⟩, .member⟩], by decide⟩ ⟨[channel], by decide⟩
    ⟨[⟨⟨1⟩, .systemRole .member, .read, .none⟩, ⟨⟨1⟩, .user ⟨2⟩, .none, .read⟩], by decide⟩
  have kept : (⟨2⟩ : UserId) ∈ filterPrivateChannelVisibleUsers db ⟨1⟩ ⟨1⟩ [⟨2⟩] := by decide
  obtain ⟨-, member, found, reads⟩ := (exact_ db channel ⟨1⟩ [⟨2⟩] rfl ⟨2⟩).mp kept
  obtain rfl : (⟨⟨1⟩, ⟨2⟩, .member⟩ : WorkspaceMember) = member := by
    simpa [Database.findMember, db, Database.withoutRoles, Table.findUnique] using found
  revert reads
  decide

/-- With a single row, allowing `READ` to the role of the candidate, the filter is exact. -/
theorem filterPrivateChannelVisibleUsers_exact_on_role_grant :
    let channel : Channel :=
      { id := ⟨1⟩, workspaceId := some ⟨1⟩, name := "board", position := 0, isPrivate := true,
        createdAt := 0 }
    let db : Database := .withoutRoles ⟨[⟨⟨1⟩, ⟨2⟩, .member⟩], by decide⟩ ⟨[channel], by decide⟩
      ⟨[⟨⟨1⟩, .systemRole .member, .read, .none⟩], by decide⟩
    ∀ userId, userId ∈ filterPrivateChannelVisibleUsers db channel.id ⟨1⟩ [⟨2⟩] ↔
      userId ∈ [(⟨2⟩ : UserId)] ∧ ∃ member, db.findMember ⟨1⟩ userId = some member ∧
        hasPermission (computeEffectiveForMember db.overrides.rows none channel userId
          (loadMember db member)) Permission.read = true := by
  intro channel db
  refine (filterPrivateChannelVisibleUsers_exact_iff db (show channel.isPrivate = true from rfl)
    ⟨1⟩ [⟨2⟩]).mpr ?_
  intro userId candidate member found
  obtain rfl : userId = ⟨2⟩ := mem_singleton.mp candidate
  obtain rfl : (⟨⟨1⟩, ⟨2⟩, .member⟩ : WorkspaceMember) = member := by
    simpa [Database.findMember, db, Database.withoutRoles, Table.findUnique] using found
  decide

end Bongtalk.Channels.Permission
