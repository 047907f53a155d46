import Bongtalk.Channels.Permission.BigintToEnforcement
import Bongtalk.Common.DomainError
import Bongtalk.Workspaces.Roles.RolePermissionResolver

/-!
# The effective mask of a member on a channel

The mask is a fold of the matching override rows over the mask of the member's
roles. On a private channel the role mask counts only for the owner and for members
whom some row explicitly allows `READ`. The lemmas below say which rows decide
a bit of the result.
-/

namespace Bongtalk.Channels.Permission

open Library Auth Common Prisma Shared Masks
open Workspaces.Roles

/-- A member as the permission queries load it, with the roles it holds. -/
structure MemberWithRoles where
  role : WorkspaceRole
  memberRoles : List Role
deriving DecidableEq, Repr

/-- The role principals of a member: the literal of its system role and its role ids. -/
def rolePrincipals (role : WorkspaceRole) (roleIds : List RoleId) : List Principal :=
  .systemRole role :: roleIds.map .role

/-- The `OR` of the override queries: the user itself, or one of its role principals. -/
def matchesPrincipal (userId : UserId) (roles : List Principal) (principal : Principal) : Bool :=
  principal == .user userId || (principal.isRole && roles.contains principal)

/-- The allow and deny masks of some rows, accumulated by principal type. -/
def overrideTiers (rows : List ChannelPermissionOverride) : Tiers Mask where
  groupAllow := orFrom 0 (fun row => number row.allowMask) (rows.filter (·.principal.isRole))
  groupDeny := orFrom 0 (fun row => number row.denyMask) (rows.filter (·.principal.isRole))
  ownAllow := orFrom 0 (fun row => number row.allowMask) (rows.filter (·.principal.isUser))
  ownDeny := orFrom 0 (fun row => number row.denyMask) (rows.filter (·.principal.isUser))

/-- The enforcement mask of the held roles; a member without role rows falls back to the
baseline of its system role. -/
def computeEnforcementBase (member : MemberWithRoles) : Mask :=
  match member.memberRoles.map fun role =>
      (⟨role.id, fromStoragePermissions role.permissions, role.position, false⟩ : ResolverRole) with
  | [] => roleBaseline member.role
  | first :: rest =>
    bigintToEnforcementMask
      (resolveChannelPermissions ⟨{ first with isEveryone := true }, rest, none, [], none⟩)

/-- The rows of a channel that concern a user with the given role principals. -/
def matchingOverrides (overrides : List ChannelPermissionOverride) (channelId : ChannelId)
    (userId : UserId) (roles : List Principal) : List ChannelPermissionOverride :=
  overrides.filter fun row =>
    row.channelId == channelId && matchesPrincipal userId roles row.principal

/-- The effective mask; `cached` is what `cacheGet` answers. -/
def computeEffectiveForMember (overrides : List ChannelPermissionOverride) (cached : Option Mask)
    (channel : Channel) (userId : UserId) (member : MemberWithRoles) : Mask :=
  match cached with
  | some mask => mask
  | none =>
    let enforcementBase := computeEnforcementBase member
    let roles := rolePrincipals member.role (member.memberRoles.map Role.id)
    let tiers := overrideTiers (matchingOverrides overrides channel.id userId roles)
    let hasExplicitRead :=
      hasPermission (tiers.ownAllow ||| tiers.groupAllow) Permission.read
    let base :=
      if channel.isPrivate && member.role != .owner then
        if hasExplicitRead then enforcementBase else 0
      else enforcementBase
    tiers.fold base

/-- The effective mask of a user on a channel of the database. -/
def resolveEffective (db : Database) (cached : Option Mask) (channel : Channel)
    (userId : UserId) : Except DomainError Mask :=
  match channel.workspaceId with
  | none =>
    let own := db.overrides.findMany fun row =>
      row.channelId == channel.id && row.principal == .user userId
    .ok (orFrom 0 (fun row => number row.allowMask) own &&&
      ~~~orFrom 0 (fun row => number row.denyMask) own)
  | some workspaceId =>
    match db.findMember workspaceId userId with
    | none => .error ⟨.workspaceNotMember, "not a workspace member"⟩
    | some member =>
      .ok (computeEffectiveForMember db.overrides.rows cached channel userId
        ⟨member.role, db.rolesOf workspaceId userId⟩)

/-- Refuse a caller whose mask lacks a permission; a private channel stays hidden. -/
def requirePermission (db : Database) (cached : Option Mask) (channel : Channel)
    (userId : UserId) (required : Mask) : Except DomainError Unit := do
  let effective ← resolveEffective db cached channel userId
  if effective &&& required ≠ required then
    .error ⟨if channel.isPrivate then .channelNotVisible else .forbidden, "insufficient permission"⟩
  else .ok ()

/-- The visibility check; public channels pass unchecked. -/
def requireVisibility (db : Database) (cached : Option Mask) (channel : Channel)
    (userId : UserId) : Except DomainError Unit :=
  if channel.isPrivate = false then .ok ()
  else requirePermission db cached channel userId Permission.read

/-- Whether the resolved mask holds `READ`; a user without a mask does not read. -/
def canRead (db : Database) (channel : Channel) (userId : UserId) : Bool :=
  match resolveEffective db none channel userId with
  | .ok mask => hasPermission mask Permission.read
  | .error _ => false

section Bits

variable (overrides : List ChannelPermissionOverride) (channelId : ChannelId) (userId : UserId)
  (index : Nat)

/-- The user's own row allows a bit. -/
def UserAllows : Prop :=
  ∃ row ∈ overrides, row.channelId = channelId ∧ row.principal = .user userId ∧
    row.allowMask.value.testBit index = true

/-- The user's own row denies a bit. -/
def UserDenies : Prop :=
  ∃ row ∈ overrides, row.channelId = channelId ∧ row.principal = .user userId ∧
    row.denyMask.value.testBit index = true

/-- A row of one of the role principals allows a bit. -/
def RoleAllows (roles : List Principal) : Prop :=
  ∃ row ∈ overrides, row.channelId = channelId ∧ row.principal ∈ roles ∧
    row.allowMask.value.testBit index = true

/-- A row of one of the role principals denies a bit. -/
def RoleDenies (roles : List Principal) : Prop :=
  ∃ row ∈ overrides, row.channelId = channelId ∧ row.principal ∈ roles ∧
    row.denyMask.value.testBit index = true

/-- Some row allows the bit, whatever the rows deny. -/
def Allowed (roles : List Principal) : Prop :=
  UserAllows overrides channelId userId index ∨ RoleAllows overrides channelId index roles

/-- The bit is denied to the user, or to a role of a user whom no row of its own allows it. -/
def Denied (roles : List Principal) : Prop :=
  UserDenies overrides channelId userId index ∨
    (RoleDenies overrides channelId index roles ∧ ¬UserAllows overrides channelId userId index)

instance : Decidable (UserAllows overrides channelId userId index) :=
  inferInstanceAs (Decidable (∃ row ∈ overrides, _))

instance : Decidable (UserDenies overrides channelId userId index) :=
  inferInstanceAs (Decidable (∃ row ∈ overrides, _))

instance (roles : List Principal) : Decidable (RoleAllows overrides channelId index roles) :=
  inferInstanceAs (Decidable (∃ row ∈ overrides, _))

instance (roles : List Principal) : Decidable (RoleDenies overrides channelId index roles) :=
  inferInstanceAs (Decidable (∃ row ∈ overrides, _))

instance (roles : List Principal) : Decidable (Allowed overrides channelId userId index roles) :=
  inferInstanceAs (Decidable (_ ∨ _))

instance (roles : List Principal) : Decidable (Denied overrides channelId userId index roles) :=
  inferInstanceAs (Decidable (_ ∨ _))

end Bits

section Rows

variable (overrides : List ChannelPermissionOverride) (channelId : ChannelId) (userId : UserId)

/-- The user's own row allows `READ`. -/
def UserAllowsRead : Prop :=
  ∃ row ∈ overrides, row.channelId = channelId ∧ row.principal = .user userId ∧
    row.allowMask.value.testBit 0 = true

/-- The user's own row denies `READ`. -/
def UserDeniesRead : Prop :=
  ∃ row ∈ overrides, row.channelId = channelId ∧ row.principal = .user userId ∧
    row.denyMask.value.testBit 0 = true

/-- A row of one of the role principals allows `READ`. -/
def RoleAllowsRead (roles : List Principal) : Prop :=
  ∃ row ∈ overrides, row.channelId = channelId ∧ row.principal ∈ roles ∧
    row.allowMask.value.testBit 0 = true

/-- A row of one of the role principals denies `READ`. -/
def RoleDeniesRead (roles : List Principal) : Prop :=
  ∃ row ∈ overrides, row.channelId = channelId ∧ row.principal ∈ roles ∧
    row.denyMask.value.testBit 0 = true

/-- Some row allows `READ`, whatever the rows deny. -/
def ReadAllowed (roles : List Principal) : Prop :=
  UserAllowsRead overrides channelId userId ∨ RoleAllowsRead overrides channelId roles

/-- `READ` is denied to the user, or to a role of a user whom no row of its own allows it. -/
def ReadDenied (roles : List Principal) : Prop :=
  UserDeniesRead overrides channelId userId ∨
    (RoleDeniesRead overrides channelId roles ∧ ¬UserAllowsRead overrides channelId userId)

instance : Decidable (UserAllowsRead overrides channelId userId) :=
  inferInstanceAs (Decidable (∃ row ∈ overrides, _))

instance : Decidable (UserDeniesRead overrides channelId userId) :=
  inferInstanceAs (Decidable (∃ row ∈ overrides, _))

instance (roles : List Principal) : Decidable (RoleAllowsRead overrides channelId roles) :=
  inferInstanceAs (Decidable (∃ row ∈ overrides, _))

instance (roles : List Principal) : Decidable (RoleDeniesRead overrides channelId roles) :=
  inferInstanceAs (Decidable (∃ row ∈ overrides, _))

instance (roles : List Principal) : Decidable (ReadAllowed overrides channelId userId roles) :=
  inferInstanceAs (Decidable (_ ∨ _))

instance (roles : List Principal) : Decidable (ReadDenied overrides channelId userId roles) :=
  inferInstanceAs (Decidable (_ ∨ _))

end Rows

/-- The roles of a member read by themselves: some held role views channels, or the member
holds no role row and falls back to its baseline. -/
def RolesRead (member : MemberWithRoles) : Prop :=
  member.memberRoles = [] ∨
    ∃ role ∈ member.memberRoles,
      has (fromStoragePermissions role.permissions) (permissions .viewChannel) = true

instance (member : MemberWithRoles) : Decidable (RolesRead member) :=
  inferInstanceAs (Decidable (_ ∨ _))

/-- The role principals under which a member's rows are looked up. -/
def MemberWithRoles.principals (member : MemberWithRoles) : List Principal :=
  rolePrincipals member.role (member.memberRoles.map Role.id)

variable {role : WorkspaceRole} {roleIds : List RoleId}

theorem isRole_of_mem_rolePrincipals {principal : Principal}
    (listed : principal ∈ rolePrincipals role roleIds) :
    principal.isRole = true := by
  rcases List.mem_cons.mp listed with rfl | listed
  · rfl
  obtain ⟨roleId, -, rfl⟩ := List.mem_map.mp listed
  rfl

variable {overrides : List ChannelPermissionOverride} {userId : UserId}

/-- The matching rows of user principals are the user's own rows. -/
theorem mem_matchingOverrides_user {channelId : ChannelId} {row : ChannelPermissionOverride} :
    row ∈ (matchingOverrides overrides channelId userId (rolePrincipals role roleIds)).filter
        (·.principal.isUser) ↔
      row ∈ overrides ∧ row.channelId = channelId ∧ row.principal = .user userId := by
  simp only [matchingOverrides, matchesPrincipal, List.mem_filter, Bool.and_eq_true,
    Bool.or_eq_true, beq_iff_eq, List.contains_eq_mem, decide_eq_true_eq]
  constructor
  · rintro ⟨⟨present, channelEq, own | ⟨isRole, -⟩⟩, isUser⟩
    · exact ⟨present, channelEq, own⟩
    · simp [Principal.isRole, isUser] at isRole
  · rintro ⟨present, channelEq, own⟩
    exact ⟨⟨present, channelEq, .inl own⟩, by rw [own]; rfl⟩

/-- The matching rows of role principals are the rows of the member's roles. -/
theorem mem_matchingOverrides_role {channelId : ChannelId} {row : ChannelPermissionOverride} :
    row ∈ (matchingOverrides overrides channelId userId (rolePrincipals role roleIds)).filter
        (·.principal.isRole) ↔
      row ∈ overrides ∧ row.channelId = channelId ∧
        row.principal ∈ rolePrincipals role roleIds := by
  simp only [matchingOverrides, matchesPrincipal, List.mem_filter, Bool.and_eq_true,
    Bool.or_eq_true, beq_iff_eq, List.contains_eq_mem, decide_eq_true_eq]
  constructor
  · rintro ⟨⟨present, channelEq, own | ⟨-, listed⟩⟩, isRole⟩
    · rw [own] at isRole
      cases isRole
    · exact ⟨present, channelEq, listed⟩
  · rintro ⟨present, channelEq, listed⟩
    have isRole := isRole_of_mem_rolePrincipals listed
    exact ⟨⟨present, channelEq, .inr ⟨isRole, listed⟩⟩, isRole⟩

section Tiers

variable (overrides : List ChannelPermissionOverride) (channelId : ChannelId) (userId : UserId)
variable (role : WorkspaceRole) (roleIds : List RoleId)

section Bit

variable (index : Nat)

/-- What the matching rows say about a bit. -/
def bitTiers : Tiers Bool :=
  (overrideTiers (matchingOverrides overrides channelId userId
    (rolePrincipals role roleIds))).bit index

theorem bitTiers_ownAllow :
    (bitTiers overrides channelId userId role roleIds index).ownAllow = true ↔
      UserAllows overrides channelId userId index := by
  simp only [bitTiers, Tiers.bit, overrideTiers, getLsbD_orFrom, UserAllows,
    mem_matchingOverrides_user, getLsbD_number, BitVec.ofNat_eq_ofNat, BitVec.getLsbD_zero,
    Bool.false_eq_true, false_or, and_assoc]

theorem bitTiers_ownDeny :
    (bitTiers overrides channelId userId role roleIds index).ownDeny = true ↔
      UserDenies overrides channelId userId index := by
  simp only [bitTiers, Tiers.bit, overrideTiers, getLsbD_orFrom, UserDenies,
    mem_matchingOverrides_user, getLsbD_number, BitVec.ofNat_eq_ofNat, BitVec.getLsbD_zero,
    Bool.false_eq_true, false_or, and_assoc]

theorem bitTiers_groupAllow :
    (bitTiers overrides channelId userId role roleIds index).groupAllow = true ↔
      RoleAllows overrides channelId index (rolePrincipals role roleIds) := by
  simp only [bitTiers, Tiers.bit, overrideTiers, getLsbD_orFrom, RoleAllows,
    mem_matchingOverrides_role, getLsbD_number, BitVec.ofNat_eq_ofNat, BitVec.getLsbD_zero,
    Bool.false_eq_true, false_or, and_assoc]

theorem bitTiers_groupDeny :
    (bitTiers overrides channelId userId role roleIds index).groupDeny = true ↔
      RoleDenies overrides channelId index (rolePrincipals role roleIds) := by
  simp only [bitTiers, Tiers.bit, overrideTiers, getLsbD_orFrom, RoleDenies,
    mem_matchingOverrides_role, getLsbD_number, BitVec.ofNat_eq_ofNat, BitVec.getLsbD_zero,
    Bool.false_eq_true, false_or, and_assoc]

/-- The tiers allow a bit when some matching row does. -/
theorem bitTiers_allows : (bitTiers overrides channelId userId role roleIds index).allows = true ↔
    Allowed overrides channelId userId index (rolePrincipals role roleIds) := by
  rw [Tiers.allows, Bool.or_eq_true, bitTiers_ownAllow, bitTiers_groupAllow]
  rfl

/-- The tiers deny a bit when the matching rows do. -/
theorem bitTiers_denies : (bitTiers overrides channelId userId role roleIds index).denies = true ↔
    Denied overrides channelId userId index (rolePrincipals role roleIds) := by
  rw [Tiers.denies, Bool.or_eq_true, Bool.and_eq_true, Bool.not_eq_true', bitTiers_ownDeny,
    bitTiers_groupDeny, Denied, ← bitTiers_ownAllow _ _ _ role roleIds, Bool.not_eq_true]

end Bit

/-- What the matching rows say about `READ`. -/
def readTiers : Tiers Bool :=
  (overrideTiers (matchingOverrides overrides channelId userId (rolePrincipals role roleIds))).bit 0

/-- The tiers allow `READ` when some matching row does. -/
theorem readTiers_allows : (readTiers overrides channelId userId role roleIds).allows = true ↔
    ReadAllowed overrides channelId userId (rolePrincipals role roleIds) :=
  bitTiers_allows overrides channelId userId role roleIds 0

/-- The tiers deny `READ` when the matching rows do. -/
theorem readTiers_denies : (readTiers overrides channelId userId role roleIds).denies = true ↔
    ReadDenied overrides channelId userId (rolePrincipals role roleIds) :=
  bitTiers_denies overrides channelId userId role roleIds 0

end Tiers

/-- The catalog bits of roles together. -/
def catalogMask (roles : List Role) : Nat :=
  unionFrom 0 (fun role => fromStoragePermissions role.permissions) roles

theorem testBit_catalogMask {roles : List Role} {index : Nat} :
    (catalogMask roles).testBit index = true ↔
      ∃ role ∈ roles, (fromStoragePermissions role.permissions).testBit index = true := by
  simp [catalogMask, testBit_unionFrom]

/-- The base of a member with roles is what its roles enforce together. -/
theorem computeEnforcementBase_eq {member : MemberWithRoles} (holds : member.memberRoles ≠ []) :
    computeEnforcementBase member = bigintToEnforcementMask (catalogMask member.memberRoles) := by
  rcases member with ⟨role, memberRoles⟩
  cases memberRoles with
  | nil => exact absurd rfl holds
  | cons first rest =>
    simp only [computeEnforcementBase, List.map_cons]
    rw [resolveChannelPermissions_no_overwrites]
    congr 1
    apply Nat.eq_of_testBit_eq
    intro index
    rw [Bool.eq_iff_iff, testBit_resolveWorkspacePermissions, testBit_catalogMask]
    simp

/-- The base mask reads when the roles of the member do. -/
theorem computeEnforcementBase_read (member : MemberWithRoles) :
    (computeEnforcementBase member).getLsbD 0 = true ↔ RolesRead member := by
  by_cases holds : member.memberRoles = []
  · simp [computeEnforcementBase, RolesRead, holds, roleBaseline_read]
  rw [computeEnforcementBase_eq holds, bigintToEnforcementMask_read, RolesRead, or_iff_right holds]
  -- A union of masks has a flag when some member of the union does.
  simp only [has_eq_testBit _ (show PermissionFlag.viewChannel ≠ .administrator by decide),
    Bool.or_eq_true, testBit_catalogMask]
  grind

/-- The base of a member contains what each of its roles enforces. -/
theorem computeEnforcementBase_of_mem {member : MemberWithRoles} {role : Role}
    (held : role ∈ member.memberRoles) :
    bigintToEnforcementMask (fromStoragePermissions role.permissions) &&&
        computeEnforcementBase member =
      bigintToEnforcementMask (fromStoragePermissions role.permissions) := by
  apply BitVec.eq_of_getLsbD_eq
  intro index _
  rw [BitVec.getLsbD_and, Bool.and_eq_left_iff_imp,
    computeEnforcementBase_eq (List.ne_nil_of_mem held)]
  exact bigintToEnforcementMask_mono fun _ bitHeld => testBit_catalogMask.mpr ⟨role, held, bitHeld⟩

/-- The base mask of a member counts on a channel: the channel is public, or the member is its
workspace's owner, or some row allows `READ`. -/
def GateOpen (overrides : List ChannelPermissionOverride) (channel : Channel) (userId : UserId)
    (member : MemberWithRoles) : Prop :=
  channel.isPrivate = false ∨ member.role = .owner ∨
    ReadAllowed overrides channel.id userId member.principals

/-- A bit of a computed mask: nothing denies it, and a row allows it or the base mask has it
behind an open gate. -/
theorem computeEffectiveForMember_getLsbD (overrides : List ChannelPermissionOverride)
    (channel : Channel) (userId : UserId) (member : MemberWithRoles) (index : Nat) :
    (computeEffectiveForMember overrides none channel userId member).getLsbD index = true ↔
      ¬Denied overrides channel.id userId index member.principals ∧
        (Allowed overrides channel.id userId index member.principals ∨
          GateOpen overrides channel userId member ∧
            (computeEnforcementBase member).getLsbD index = true) := by
  let roleIds := member.memberRoles.map Role.id
  have denies := bitTiers_denies overrides channel.id userId member.role roleIds index
  have allows := bitTiers_allows overrides channel.id userId member.role roleIds index
  have opens := readTiers_allows overrides channel.id userId member.role roleIds
  rw [MemberWithRoles.principals, ← denies, ← allows, Bool.not_eq_true]
  simp only [computeEffectiveForMember, Tiers.getLsbD_fold]
  rw [Tiers.grants_eq_true_iff, or_comm]
  refine and_congr_right fun _ => or_congr_right ?_
  by_cases gated : (channel.isPrivate && member.role != .owner) = true
  · have closed : GateOpen overrides channel userId member ↔
        ReadAllowed overrides channel.id userId member.principals := by
      have notOpen : channel.isPrivate = true ∧ member.role ≠ .owner := by simpa using gated
      simp [GateOpen, notOpen]
    rw [if_pos gated, closed, MemberWithRoles.principals, ← opens, hasPermission_read,
      BitVec.getLsbD_or]
    change (if (readTiers overrides channel.id userId member.role roleIds).allows = true then _
      else _ : Mask).getLsbD index = true ↔ _
    split
    next opened => simp [roleIds, opened]
    next shut => simp [roleIds, shut]
  · have opened : GateOpen overrides channel userId member := by
      by_cases isPrivate : channel.isPrivate = true
      · exact .inr (.inl (by simpa [isPrivate] using gated))
      · exact .inl (Bool.not_eq_true _ ▸ isPrivate)
    rw [if_neg gated, and_iff_right opened]

/-- `READ` on a computed mask: nothing denies it, and a row allows it or the roles of a
member past the private gate read. -/
theorem computeEffectiveForMember_read (overrides : List ChannelPermissionOverride)
    (channel : Channel) (userId : UserId) (member : MemberWithRoles) :
    hasPermission (computeEffectiveForMember overrides none channel userId member)
        Permission.read = true ↔
      ¬ReadDenied overrides channel.id userId member.principals ∧
        (ReadAllowed overrides channel.id userId member.principals ∨
          ((channel.isPrivate = false ∨ member.role = .owner) ∧ RolesRead member)) := by
  have allowedEq : Allowed overrides channel.id userId 0 member.principals ↔
      ReadAllowed overrides channel.id userId member.principals := Iff.rfl
  have deniedEq : Denied overrides channel.id userId 0 member.principals ↔
      ReadDenied overrides channel.id userId member.principals := Iff.rfl
  rw [hasPermission_read, computeEffectiveForMember_getLsbD, computeEnforcementBase_read, allowedEq,
    deniedEq, GateOpen]
  tauto

/-- The member as the permission queries load it from the database. -/
def loadMember (db : Database) (member : WorkspaceMember) : MemberWithRoles where
  role := member.role
  memberRoles := db.rolesOf member.workspaceId member.userId

/-- The joined roles give a loaded member the principals its role ids give. -/
theorem principals_loadMember (db : Database) (member : WorkspaceMember) :
    (loadMember db member).principals =
      rolePrincipals member.role (db.roleIdsOf member.workspaceId member.userId) := by
  rw [MemberWithRoles.principals, loadMember, Database.map_id_rolesOf]

/-- A member reads a channel: nothing denies it, and a row allows it or the roles of a member
past the private gate read. -/
def Reads (db : Database) (channel : Channel) (member : WorkspaceMember) : Prop :=
  ¬ReadDenied db.overrides.rows channel.id member.userId (loadMember db member).principals ∧
    (ReadAllowed db.overrides.rows channel.id member.userId (loadMember db member).principals ∨
      ((channel.isPrivate = false ∨ member.role = .owner) ∧ RolesRead (loadMember db member)))

instance (db : Database) (channel : Channel) (member : WorkspaceMember) :
    Decidable (Reads db channel member) :=
  inferInstanceAs (Decidable (_ ∧ _))

/-- The readers of a workspace channel are the members who read it. -/
theorem canRead_iff {db : Database} {channel : Channel} {workspaceId : WorkspaceId}
    (here : channel.workspaceId = some workspaceId) :
    canRead db channel userId = true ↔
      ∃ member, db.findMember workspaceId userId = some member ∧ Reads db channel member := by
  simp only [canRead, resolveEffective, here]
  cases found : db.findMember workspaceId userId with
  | none => simp
  | some member =>
    have sameMember : member.workspaceId = workspaceId ∧ member.userId = userId := by
      simpa using (Table.findUnique_eq_some_iff.mp found).2
    obtain ⟨rfl, rfl⟩ := sameMember
    simp only [Option.some.injEq, exists_eq_left']
    exact computeEffectiveForMember_read db.overrides.rows channel member.userId
      (loadMember db member)

/-- The readers of a channel without a workspace are those whose own row allows it. -/
theorem canRead_direct_iff {db : Database} {channel : Channel}
    (direct : channel.workspaceId = none) :
    canRead db channel userId = true ↔ UserAllowsRead db.overrides.rows channel.id userId ∧
      ¬UserDeniesRead db.overrides.rows channel.id userId := by
  have ownRow : ∀ (column : ChannelPermissionOverride → OverrideMask),
      (orFrom 0 (fun row => number (column row)) (db.overrides.findMany fun row =>
          row.channelId == channel.id && row.principal == .user userId)).getLsbD 0 = true ↔
        ∃ row ∈ db.overrides.rows, row.channelId = channel.id ∧ row.principal = .user userId ∧
          (column row).value.testBit 0 = true := by
    intro column
    simp only [getLsbD_orFrom, Table.mem_findMany, Bool.and_eq_true, beq_iff_eq,
      getLsbD_number, BitVec.ofNat_eq_ofNat, BitVec.getLsbD_zero, Bool.false_eq_true, false_or,
      and_assoc, Table.mem_def]
  rw [UserAllowsRead, UserDeniesRead, ← ownRow (·.allowMask), ← ownRow (·.denyMask)]
  simp only [canRead, resolveEffective, direct, hasPermission_read, BitVec.getLsbD_and,
    BitVec.getLsbD_not, Bool.and_eq_true, Bool.not_eq_true', decide_eq_true_eq, Bool.not_eq_true]
  simp

end Bongtalk.Channels.Permission
