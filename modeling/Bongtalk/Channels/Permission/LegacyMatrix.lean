import Bongtalk.Auth.PermissionMatrix
import Bongtalk.Channels.Permission.ChannelAccess

/-!
# Custom roles extend the permission matrix

For a member that holds at most the seeded role of its system role, the effective mask is that of
the matrix. Beyond that, the base mask grows with the roles, in whatever order they come.
-/

namespace Bongtalk.Channels.Permission

open Library Auth Prisma Shared List Principal PermissionMatrix

/-- The rows of a channel as the matrix takes them. -/
def channelOverrides (overrides : List ChannelPermissionOverride) (channelId : ChannelId) :
    List ChannelOverride :=
  (overrides.filter fun row => row.channelId == channelId).map fun row =>
    ⟨row.principal, number row.allowMask, number row.denyMask⟩

/-- What the matrix is asked about a member on a channel. -/
def matrixInput (overrides : List ChannelPermissionOverride) (channel : Channel) (userId : UserId)
    (member : MemberWithRoles) : EffectiveInput where
  role := member.role
  isPrivate := channel.isPrivate
  userId := userId
  overrides := channelOverrides overrides channel.id

/-- A member holds no role, or just the seeded one of its system role. -/
def SeededOnly (member : MemberWithRoles) : Prop :=
  member.memberRoles = [] ∨ ∃ role, member.memberRoles = [role] ∧
    role.permissions = toStoragePermissions (systemRolePermissions member.role)

/-- The rows of a channel are those of users and of system roles. -/
def LegacyRows (overrides : List ChannelPermissionOverride) (channelId : ChannelId) : Prop :=
  ∀ row ∈ overrides, row.channelId = channelId → ∀ roleId, row.principal ≠ .role roleId

section Members

variable {overrides : List ChannelPermissionOverride} {channel : Channel} {userId : UserId}
  {member : MemberWithRoles}

/-- The base of such a member is the baseline of its system role. -/
theorem computeEnforcementBase_seededOnly (seeded : SeededOnly member) :
    computeEnforcementBase member = roleBaseline member.role := by
  obtain empty | ⟨role, single, stored⟩ := seeded
  · rw [computeEnforcementBase, empty]
    rfl
  · have fits : systemRolePermissions member.role < 2 ^ 64 := by
      cases member.role <;> decide
    have holds : member.memberRoles ≠ [] := by simp [single]
    rw [computeEnforcementBase_eq holds, single, catalogMask, Masks.unionFrom_cons,
      Masks.unionFrom_nil, stored, fromStoragePermissions_toStoragePermissions fits, Nat.zero_or]
    exact bigintToEnforcementMask_systemRole member.role

/-- The masks of the rows of a channel that fit a condition. -/
theorem orFrom_channelOverrides (read : ChannelOverride → Mask)
    (column : ChannelPermissionOverride → OverrideMask)
    (reads : ∀ row : ChannelPermissionOverride,
      read ⟨row.principal, number row.allowMask, number row.denyMask⟩ = number (column row))
    (wanted : Principal → Bool) (channelId : ChannelId) :
    Masks.orFrom 0 read ((channelOverrides overrides channelId).filter (wanted ·.principal)) =
      Masks.orFrom 0 (fun row => number (column row))
        (overrides.filter fun row => row.channelId == channelId && wanted row.principal) := by
  rw [channelOverrides, filter_map, filter_filter, Masks.orFrom, foldl_map]
  simp only [reads, Function.comp_apply, Bool.and_comm]
  rfl

/-- The matching rows of user principals, as the matrix filters them. -/
theorem filter_isUser_matchingOverrides :
    (matchingOverrides overrides channel.id userId member.principals).filter (·.principal.isUser) =
      overrides.filter fun row =>
        row.channelId == channel.id && row.principal == .user userId := by
  rw [matchingOverrides, filter_filter]
  apply filter_congr
  intro row _
  cases row.principal with
  | user id => simp [isUser, isRole, matchesPrincipal]
  | systemRole role | role roleId => simp [isUser]

/-- The matching rows of role principals, as the matrix filters them. -/
theorem filter_isRole_matchingOverrides (legacy : LegacyRows overrides channel.id) :
    (matchingOverrides overrides channel.id userId member.principals).filter (·.principal.isRole) =
      overrides.filter fun row =>
        row.channelId == channel.id && row.principal == .systemRole member.role := by
  rw [matchingOverrides, filter_filter]
  apply filter_congr
  intro row present
  have noRole := legacy row present
  rw [Bool.eq_iff_iff]
  cases principal : row.principal with
  | user id => simp [isUser, isRole]
  | systemRole role =>
    simp [isUser, isRole, matchesPrincipal, MemberWithRoles.principals, rolePrincipals]
  | role roleId =>
    have elsewhere : row.channelId ≠ channel.id := fun here => noRole here roleId principal
    simp [elsewhere]

/-- The rows of the member are those that the matrix looks at. -/
theorem tiers_matrixInput (legacy : LegacyRows overrides channel.id) :
    tiers (matrixInput overrides channel userId member) =
      overrideTiers (matchingOverrides overrides channel.id userId member.principals) := by
  have allows := fun wanted => @orFrom_channelOverrides overrides ChannelOverride.allowMask
    (·.allowMask) (fun _ => rfl) wanted channel.id
  have denies := fun wanted => @orFrom_channelOverrides overrides ChannelOverride.denyMask
    (·.denyMask) (fun _ => rfl) wanted channel.id
  rw [overrideTiers, filter_isUser_matchingOverrides, filter_isRole_matchingOverrides legacy,
    ← allows (· == .user userId), ← denies (· == .user userId),
    ← allows (· == .systemRole member.role), ← denies (· == .systemRole member.role)]
  rfl

/-- For a member with the seeded role at most, and rows of users and system roles, the effective
mask is that of the matrix. -/
theorem computeEffectiveForMember_eq_effective (seeded : SeededOnly member)
    (legacy : LegacyRows overrides channel.id) :
    computeEffectiveForMember overrides none channel userId member =
      effective (matrixInput overrides channel userId member) := by
  have tiersEq := @tiers_matrixInput overrides channel userId member legacy
  have sameRole : (matrixInput overrides channel userId member).role = member.role := rfl
  have samePrivacy : (matrixInput overrides channel userId member).isPrivate =
    channel.isPrivate := rfl
  simp only [computeEffectiveForMember, effective, tiersEq, sameRole, samePrivacy,
    computeEnforcementBase_seededOnly seeded]
  rw [← MemberWithRoles.principals]
  by_cases isOwner : member.role = .owner
  · simp [isOwner]
  cases isPrivate : channel.isPrivate with
  | false | true => simp [isOwner]

/-- The order of the roles makes no difference to the base mask. -/
theorem computeEnforcementBase_perm {role : WorkspaceRole} {first second : List Role}
    (permuted : first.Perm second) :
    computeEnforcementBase ⟨role, first⟩ = computeEnforcementBase ⟨role, second⟩ := by
  by_cases empty : first = []
  · rw [empty] at permuted ⊢
    rw [permuted.nil_eq]
  · have alsoHolds : second ≠ [] := fun none => empty (none ▸ permuted).eq_nil
    rw [computeEnforcementBase_eq empty, computeEnforcementBase_eq alsoHolds]
    congr 1
    apply Nat.eq_of_testBit_eq
    intro index
    rw [Bool.eq_iff_iff, testBit_catalogMask, testBit_catalogMask]
    simp only [permuted.mem_iff]

/-- A further role takes nothing from the base mask of a member that holds one. -/
theorem computeEnforcementBase_add {role : WorkspaceRole} {roles : List Role} (holds : roles ≠ [])
    (added : Role) :
    computeEnforcementBase ⟨role, roles⟩ &&& computeEnforcementBase ⟨role, added :: roles⟩ =
      computeEnforcementBase ⟨role, roles⟩ := by
  apply BitVec.eq_of_getLsbD_eq
  intro index _
  rw [BitVec.getLsbD_and, Bool.and_eq_left_iff_imp, computeEnforcementBase_eq holds,
    computeEnforcementBase_eq (cons_ne_nil added roles)]
  refine bigintToEnforcementMask_mono fun bit held => ?_
  obtain ⟨role, roleHeld, bitHeld⟩ := testBit_catalogMask.mp held
  exact testBit_catalogMask.mpr ⟨role, mem_cons_of_mem added roleHeld, bitHeld⟩

/-- The role system extends the matrix, and its base mask depends on which roles are held and grows
with them from the first one on. -/
theorem roles_extend_matrix :
    (SeededOnly member → LegacyRows overrides channel.id →
      computeEffectiveForMember overrides none channel userId member =
        effective (matrixInput overrides channel userId member)) ∧
    (∀ roles, roles.Perm member.memberRoles →
      computeEnforcementBase ⟨member.role, roles⟩ = computeEnforcementBase member) ∧
    (member.memberRoles ≠ [] → ∀ added,
      computeEnforcementBase member &&&
          computeEnforcementBase ⟨member.role, added :: member.memberRoles⟩ =
        computeEnforcementBase member) :=
  ⟨computeEffectiveForMember_eq_effective, fun _ permuted => computeEnforcementBase_perm permuted,
    fun holds added => computeEnforcementBase_add holds added⟩

end Members

/-- A custom role without permissions. -/
def badge : Role where
  id := ⟨2⟩
  workspaceId := ⟨1⟩
  name := "badge"
  position := 1

/-- The seeded role of the members. -/
def memberRole : Role where
  id := ⟨1⟩
  workspaceId := ⟨1⟩
  name := "MEMBER"
  position := 200
  permissions := toStoragePermissions (systemRolePermissions .member)
  isSystem := true

/-- A member with the seeded role of its system role. -/
def seededMember : MemberWithRoles where
  role := .member
  memberRoles := [memberRole]

theorem seededOnly_seededMember : SeededOnly seededMember := by
  refine .inr ⟨memberRole, rfl, ?_⟩
  dsimp only [memberRole, seededMember]

/-- A member whom a private channel is opened to. -/
theorem seededMember_matches_matrix :
    let channel : Channel :=
      { id := ⟨1⟩, workspaceId := some ⟨1⟩, name := "board", position := (1 : Int)
        isPrivate := true, createdAt := 1 }
    let opened : List ChannelPermissionOverride :=
      [{ channelId := ⟨1⟩, principal := .user ⟨1⟩, allowMask := .read }]
    computeEffectiveForMember opened none channel ⟨1⟩ seededMember =
        effective (matrixInput opened channel ⟨1⟩ seededMember) ∧
      computeEnforcementBase seededMember &&&
          computeEnforcementBase ⟨.member, badge :: seededMember.memberRoles⟩ =
        computeEnforcementBase seededMember := by
  intro channel opened
  have legacy : LegacyRows opened channel.id := by
    intro row present _ roleId
    obtain rfl := mem_singleton.mp present
    exact Principal.noConfusion
  have extended := @roles_extend_matrix opened channel ⟨1⟩ seededMember
  exact ⟨extended.1 seededOnly_seededMember legacy, extended.2.2 (cons_ne_nil _ _) badge⟩

/-- A role that a member without role rows gets takes the baseline away. -/
theorem badge_drops_baseline :
    ¬∀ (member : MemberWithRoles) (added : Role),
      computeEnforcementBase member &&&
          computeEnforcementBase ⟨member.role, added :: member.memberRoles⟩ =
        computeEnforcementBase member := by
  intro monotone
  have kept := monotone ⟨.member, []⟩ badge
  revert kept
  decide +kernel

end Bongtalk.Channels.Permission
