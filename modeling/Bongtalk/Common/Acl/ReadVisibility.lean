import Bongtalk.Channels.Permission.ChannelAccess

/-!
# The read predicate of the queries

Unread counts, badges and acknowledgements decide visibility inside the query, from
the aggregated override masks of the caller. The predicate has no role argument,
while `computeEffectiveForMember` opens a private channel to the owner.
-/

namespace Bongtalk.Common.Acl

open Library Auth Channels.Permission Prisma Shared ChannelPermissionOverride

/-- A `bigint` column value. -/
abbrev BigIntColumn := BitVec 64

/-- `bit_or`, which is null over no rows. -/
def bitOr (masks : List BigIntColumn) : Option BigIntColumn :=
  if masks = [] then none else some (Masks.orFrom 0 id masks)

/-- `COALESCE(value, 0)`. -/
def coalesceZero (value : Option BigIntColumn) : BigIntColumn :=
  value.getD 0

/-- `value > 0` on signed columns. -/
def positive (value : BigIntColumn) : Bool :=
  BitVec.slt 0 value

/-- The columns the predicate is bound to. -/
structure ReadVisibilityRefs where
  isPrivate : Bool
  roleAllow : Option BigIntColumn
  roleDeny : Option BigIntColumn
  userAllow : Option BigIntColumn
  userDeny : Option BigIntColumn

def readBitVisibleSql (refs : ReadVisibilityRefs) : Bool :=
  !refs.isPrivate ||
    positive
      (((((if positive ((coalesceZero refs.userAllow ||| coalesceZero refs.roleAllow) &&& 1) then 1
              else 0) |||
            (coalesceZero refs.roleAllow &&& 1)) &&&
          ~~~(coalesceZero refs.roleDeny &&& 1)) |||
        (coalesceZero refs.userAllow &&& 1)) &&&
      ~~~(coalesceZero refs.userDeny &&& 1))

/-- The column value of an override mask. -/
def column (mask : OverrideMask) : BigIntColumn :=
  BitVec.ofNat 64 mask.value

/-- The aggregates of the `overrides` subquery for one channel, left joined to it. -/
def overrideRefs (overrides : List ChannelPermissionOverride) (channel : Channel)
    (userId : UserId) (roles : List Principal) : ReadVisibilityRefs :=
  let rows := matchingOverrides overrides channel.id userId roles
  let aggregate := fun (mask : ChannelPermissionOverride → OverrideMask)
      (filter : Principal → Bool) =>
    if rows = [] then none
    else some (coalesceZero (bitOr ((rows.filter (filter ·.principal)).map (column ∘ mask))))
  { isPrivate := channel.isPrivate
    roleAllow := aggregate allowMask Principal.isRole
    roleDeny := aggregate denyMask Principal.isRole
    userAllow := aggregate allowMask Principal.isUser
    userDeny := aggregate denyMask Principal.isUser }

/-- The lowest bits of the bound columns, a null column having none. -/
def ReadVisibilityRefs.tiers (refs : ReadVisibilityRefs) : Tiers Bool where
  groupAllow := (coalesceZero refs.roleAllow).getLsbD 0
  groupDeny := (coalesceZero refs.roleDeny).getLsbD 0
  ownAllow := (coalesceZero refs.userAllow).getLsbD 0
  ownDeny := (coalesceZero refs.userDeny).getLsbD 0

/-- A column keeps the bits of its mask. -/
theorem getLsbD_column (mask : OverrideMask) {index : Nat} (inside : index < 64) :
    (column mask).getLsbD index = mask.value.testBit index := by
  rw [column, BitVec.getLsbD_ofNat, decide_eq_true inside, Bool.true_and]

/-- The lowest bit of a column as a column. -/
theorem and_one (value : BigIntColumn) : value &&& 1 = if value.getLsbD 0 then 1 else 0 := by
  apply BitVec.eq_of_getLsbD_eq
  intro index inside
  cases index with
  | zero => cases held : value.getLsbD 0 <;> simp_all
  | succ index => cases held : value.getLsbD 0 <;> simp [BitVec.getLsbD_one]

/-- The predicate folds the lowest bits of its columns over a closed base. -/
theorem readBitVisibleSql_eq (refs : ReadVisibilityRefs) :
    readBitVisibleSql refs = (!refs.isPrivate || refs.tiers.grants false) := by
  rw [readBitVisibleSql, ← Tiers.grants_gated refs.tiers true]
  simp only [and_one, BitVec.getLsbD_or, ReadVisibilityRefs.tiers, Tiers.allows]
  cases (coalesceZero refs.userAllow).getLsbD 0 <;>
    cases (coalesceZero refs.roleAllow).getLsbD 0 <;>
      cases (coalesceZero refs.userDeny).getLsbD 0 <;>
        cases (coalesceZero refs.roleDeny).getLsbD 0 <;> rfl

/-- A bit of an aggregate is a bit of some aggregated row. -/
theorem getLsbD_coalesceZero_bitOr (masks : List BigIntColumn) (index : Nat) :
    (coalesceZero (bitOr masks)).getLsbD index = true ↔
      ∃ mask ∈ masks, mask.getLsbD index = true := by
  unfold bitOr
  split
  next none => simp [none, coalesceZero]
  next some => simp [coalesceZero, Masks.getLsbD_orFrom]

/-- The aggregates carry the tiers that the effective mask folds. -/
theorem overrideRefs_tiers (overrides : List ChannelPermissionOverride) (channel : Channel)
    (userId : UserId) (role : WorkspaceRole) (roleIds : List RoleId) :
    (overrideRefs overrides channel userId (rolePrincipals role roleIds)).tiers =
      readTiers overrides channel.id userId role roleIds := by
  have aggregateBit : ∀ (mask : ChannelPermissionOverride → OverrideMask)
      (filter : Principal → Bool),
      let rows := matchingOverrides overrides channel.id userId (rolePrincipals role roleIds)
      (coalesceZero (if rows = [] then none else
        some (coalesceZero (bitOr ((rows.filter (filter ·.principal)).map (column ∘ mask)))))).getLsbD 0 =
        (Masks.orFrom 0 (fun row => number (mask row))
          (rows.filter (filter ·.principal))).getLsbD 0 := by
    intro mask filter rows
    rw [Bool.eq_iff_iff, Masks.getLsbD_orFrom]
    split
    next empty => simp [empty, coalesceZero]
    next nonempty =>
      change (coalesceZero (bitOr _)).getLsbD 0 = true ↔ _
      rw [getLsbD_coalesceZero_bitOr]
      simp only [List.mem_map, Function.comp_apply, exists_exists_and_eq_and,
        getLsbD_column _ (by decide : 0 < 64), getLsbD_number,
        BitVec.ofNat_eq_ofNat, BitVec.getLsbD_zero, Bool.false_eq_true, false_or]
  simp only [overrideRefs, ReadVisibilityRefs.tiers, readTiers, Tiers.bit, overrideTiers,
    aggregateBit]

/-- On a private channel the predicate holds when a row allows `READ` and nothing denies it. -/
theorem readBitVisibleSql_private_iff (overrides : List ChannelPermissionOverride)
    {channel : Channel} (isPrivate : channel.isPrivate = true) (userId : UserId)
    (member : MemberWithRoles) :
    readBitVisibleSql (overrideRefs overrides channel userId member.principals) = true ↔
      ¬ReadDenied overrides channel.id userId member.principals ∧
        ReadAllowed overrides channel.id userId member.principals := by
  have denies := readTiers_denies overrides channel.id userId member.role
    (member.memberRoles.map Role.id)
  have allows := readTiers_allows overrides channel.id userId member.role
    (member.memberRoles.map Role.id)
  rw [readBitVisibleSql_eq, MemberWithRoles.principals, overrideRefs_tiers, ← denies, ← allows,
    Bool.not_eq_true]
  simp [overrideRefs, isPrivate, Tiers.grants_eq_true_iff]

/-- The predicate and the effective mask agree on a private channel, except for an owner
whose roles read and for whom no matching row allows or denies `READ`. -/
theorem readBitVisibleSql_agrees_iff (overrides : List ChannelPermissionOverride)
    {channel : Channel} (isPrivate : channel.isPrivate = true) (userId : UserId)
    (member : MemberWithRoles) :
    (readBitVisibleSql (overrideRefs overrides channel userId member.principals) = true ↔
        hasPermission (computeEffectiveForMember overrides none channel userId member)
          Permission.read = true) ↔
      (member.role = .owner → RolesRead member →
        ReadAllowed overrides channel.id userId member.principals ∨
          ReadDenied overrides channel.id userId member.principals) := by
  rw [readBitVisibleSql_private_iff overrides isPrivate, computeEffectiveForMember_read]
  simp only [isPrivate, Bool.true_eq_false, false_or]
  constructor
  · intro agrees owner rolesRead
    by_cases denied : ReadDenied overrides channel.id userId member.principals
    · exact .inr denied
    · exact .inl (agrees.mpr ⟨denied, .inr ⟨owner, rolesRead⟩⟩).2
  · intro unlessOwner
    refine and_congr_right fun undenied => ⟨.inl, ?_⟩
    rintro (allowed | ⟨owner, rolesRead⟩)
    · exact allowed
    · exact (unlessOwner owner rolesRead).resolve_right undenied

/-- Without an override row an owner reads a private channel, and the predicate hides it. -/
theorem readBitVisibleSql_hides_from_owner :
    ¬∀ (overrides : List ChannelPermissionOverride) (channel : Channel) (userId : UserId)
        (member : MemberWithRoles), channel.isPrivate = true →
      (readBitVisibleSql (overrideRefs overrides channel userId member.principals) = true ↔
        hasPermission (computeEffectiveForMember overrides none channel userId member)
          Permission.read = true) := by
  intro agrees
  let channel : Channel :=
    { id := ⟨1⟩, workspaceId := some ⟨1⟩, name := "board", position := 0, isPrivate := true,
      createdAt := 0 }
  let ownerRole : Role :=
    { id := ⟨1⟩, workspaceId := ⟨1⟩, name := "OWNER", position := 500, isSystem := true,
      permissions := toStoragePermissions (systemRolePermissions .owner) }
  have disagreement := agrees [] channel ⟨1⟩ ⟨.owner, [ownerRole]⟩ rfl
  revert disagreement
  decide

/-- A member whose own row allows `READ` is in the agreeing case. -/
theorem readBitVisibleSql_agrees_on_grant :
    let channel : Channel :=
      { id := ⟨1⟩, workspaceId := some ⟨1⟩, name := "board", position := 0, isPrivate := true,
        createdAt := 0 }
    let overrides : List ChannelPermissionOverride := [⟨⟨1⟩, .user ⟨2⟩, .read, .none⟩]
    let member : MemberWithRoles := ⟨.member, []⟩
    readBitVisibleSql (overrideRefs overrides channel ⟨2⟩ member.principals) = true ↔
      hasPermission (computeEffectiveForMember overrides none channel ⟨2⟩ member)
        Permission.read = true := by
  intro channel overrides member
  exact (readBitVisibleSql_agrees_iff overrides rfl ⟨2⟩ member).mpr fun owner => by cases owner

end Bongtalk.Common.Acl
