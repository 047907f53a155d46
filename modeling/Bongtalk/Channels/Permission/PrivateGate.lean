import Bongtalk.Channels.Permission.ChannelAccess

/-!
# What passes the private gate

The gate lets the base mask through as soon as some row allows `READ`, also where a stronger tier
takes `READ` away again. It does not know administrators.
-/

namespace Bongtalk.Channels.Permission

open Library Auth Prisma Shared

section Gate

variable (overrides : List ChannelPermissionOverride) (channel : Channel) (userId : UserId)
  (member : MemberWithRoles)

/-- A mask holds only what some row allows. -/
def ExplicitOnly (mask : Mask) : Prop :=
  ∀ index, mask.getLsbD index = true → Allowed overrides channel.id userId index member.principals

/-- A member holds a role with the administrator bit. -/
def Administrates : Prop :=
  ∃ role ∈ member.memberRoles,
    hasRaw (fromStoragePermissions role.permissions) (permissions .administrator) = true

/-- Nothing denies the member an enforcement bit. -/
def Undenied : Prop :=
  ∀ index, Auth.allPermissions.getLsbD index = true →
    ¬Denied overrides channel.id userId index member.principals

end Gate

section Masks

variable {overrides : List ChannelPermissionOverride} {channel : Channel} {userId : UserId}
  {member : MemberWithRoles}

/-- On a private channel the gate of a member other than the owner opens with `READ` only. -/
theorem gateOpen_private_iff (isPrivate : channel.isPrivate = true)
    (notOwner : member.role ≠ .owner) :
    GateOpen overrides channel userId member ↔
      ReadAllowed overrides channel.id userId member.principals := by
  simp [GateOpen, isPrivate, notOwner]

/-- Without `READ` on a private channel, a member has what rows allow it, unless a row allows it
`READ`. Then `READ` is denied again, and the base mask passes but for what is denied. -/
theorem unreadable_mask (isPrivate : channel.isPrivate = true) (notOwner : member.role ≠ .owner)
    (unreadable : hasPermission (computeEffectiveForMember overrides none channel userId member)
      Permission.read = false) :
    (¬ReadAllowed overrides channel.id userId member.principals →
      ExplicitOnly overrides channel userId member
        (computeEffectiveForMember overrides none channel userId member)) ∧
    (ReadAllowed overrides channel.id userId member.principals →
      ReadDenied overrides channel.id userId member.principals ∧
        ∀ index, (computeEffectiveForMember overrides none channel userId member).getLsbD index =
            true ↔
          ¬Denied overrides channel.id userId index member.principals ∧
            (Allowed overrides channel.id userId index member.principals ∨
              (computeEnforcementBase member).getLsbD index = true)) := by
  have gate := @gateOpen_private_iff overrides channel userId member isPrivate notOwner
  constructor
  · intro notAllowed index held
    obtain ⟨-, allowed | ⟨opened, -⟩⟩ :=
      (computeEffectiveForMember_getLsbD overrides channel userId member index).mp held
    · exact allowed
    · exact absurd (gate.mp opened) notAllowed
  · intro allowed
    constructor
    · by_contra notDenied
      have readable := (computeEffectiveForMember_read overrides channel userId member).mpr
        ⟨notDenied, .inl allowed⟩
      exact Bool.false_ne_true (unreadable.symm.trans readable)
    · intro index
      rw [computeEffectiveForMember_getLsbD, and_iff_right (gate.mpr allowed)]

/-- A private channel. -/
def board : Channel where
  id := ⟨1⟩
  workspaceId := some ⟨1⟩
  name := "board"
  position := (1 : Int)
  isPrivate := true
  createdAt := 1

/-- A member without role rows. -/
def plainMember : MemberWithRoles where
  role := .member
  memberRoles := []

/-- Members are allowed to read the channel, but not the first user. -/
def readRevoked : List ChannelPermissionOverride :=
  [{ channelId := ⟨1⟩, principal := .systemRole .member, allowMask := .read },
    { channelId := ⟨1⟩, principal := .user ⟨1⟩, denyMask := .read }]

/-- Without rows, the mask on a private channel is empty. -/
theorem plainMember_explicitOnly :
    ExplicitOnly [] board ⟨1⟩ plainMember
      (computeEffectiveForMember [] none board ⟨1⟩ plainMember) :=
  (unreadable_mask rfl (by decide) (by decide +kernel)).1 (by decide)

/-- The first user does not read the channel, and may write to it although no row allows that. -/
theorem readRevoked_writes :
    ¬∀ (overrides : List ChannelPermissionOverride) (channel : Channel) (userId : UserId)
      (member : MemberWithRoles),
      channel.isPrivate = true → member.role ≠ .owner →
      hasPermission (computeEffectiveForMember overrides none channel userId member)
        Permission.read = false →
      ExplicitOnly overrides channel userId member
        (computeEffectiveForMember overrides none channel userId member) := by
  intro always
  have explicit := always readRevoked board ⟨1⟩ plainMember rfl (by decide) (by decide +kernel)
  have allowed := explicit 1 (by decide +kernel)
  exact absurd allowed (by decide)

theorem computeEnforcementBase_administrator (administrates : Administrates member) :
    computeEnforcementBase member = Auth.allPermissions := by
  obtain ⟨role, held, isAdministrator⟩ := administrates
  rw [hasRaw_eq_testBit] at isAdministrator
  rw [computeEnforcementBase_eq (List.ne_nil_of_mem held), bigintToEnforcementMask, if_pos]
  apply (Masks.and_shiftLeft_one_ne_zero_iff _ _).mpr
  exact testBit_catalogMask.mpr ⟨role, held, isAdministrator⟩

/-- An administrator has every enforcement bit exactly when the gate is open to it and nothing
denies it an enforcement bit. -/
theorem administrator_exempt_iff (administrates : Administrates member) :
    computeEffectiveForMember overrides none channel userId member &&& Auth.allPermissions =
        Auth.allPermissions ↔
      GateOpen overrides channel userId member ∧ Undenied overrides channel userId member := by
  have base := computeEnforcementBase_administrator administrates
  have bits : computeEffectiveForMember overrides none channel userId member &&&
        Auth.allPermissions = Auth.allPermissions ↔
      ∀ index, Auth.allPermissions.getLsbD index = true →
        (computeEffectiveForMember overrides none channel userId member).getLsbD index = true := by
    constructor
    · intro contained index enforced
      have bitEq := congrArg (BitVec.getLsbD · index) contained
      rw [BitVec.getLsbD_and, enforced, Bool.and_true] at bitEq
      exact bitEq
    · intro contained
      apply BitVec.eq_of_getLsbD_eq
      intro index _
      rw [BitVec.getLsbD_and, Bool.and_eq_right_iff_imp]
      exact contained index
  rw [bits]
  constructor
  · intro contained
    refine ⟨?_, fun index enforced => ?_⟩
    · have read := (computeEffectiveForMember_getLsbD overrides channel userId member 0).mp
        (contained 0 (by decide))
      obtain ⟨-, allowed | ⟨opened, -⟩⟩ := read
      · exact .inr (.inr allowed)
      · exact opened
    · have held := contained index enforced
      exact ((computeEffectiveForMember_getLsbD overrides channel userId member index).mp held).1
  · rintro ⟨opened, undenied⟩ index enforced
    refine (computeEffectiveForMember_getLsbD overrides channel userId member index).mpr ?_
    rw [base]
    exact ⟨undenied index enforced, .inr ⟨opened, enforced⟩⟩

/-- A member with a custom role that has the administrator bit. -/
def deputy : MemberWithRoles where
  role := .member
  memberRoles :=
    [{ id := ⟨1⟩, workspaceId := ⟨1⟩, name := "deputy", position := 1
       permissions := toStoragePermissions (permissions .administrator) }]

theorem administrates_deputy : Administrates deputy :=
  ⟨_, List.mem_cons_self, by decide +kernel⟩

/-- On a public channel without rows, an administrator has every enforcement bit. -/
theorem deputy_exempt :
    let hall := { board with isPrivate := false }
    computeEffectiveForMember [] none hall ⟨1⟩ deputy &&& Auth.allPermissions =
      Auth.allPermissions :=
  (administrator_exempt_iff administrates_deputy).mpr
    ⟨.inl rfl, fun index _ denied => by
      obtain ⟨row, impossible, -⟩ | ⟨⟨row, impossible, -⟩, -⟩ := denied
      · cases impossible
      · cases impossible⟩

/-- On a private channel, an administrator other than the owner has no bit at all. -/
theorem deputy_shut_out :
    ¬∀ (overrides : List ChannelPermissionOverride) (channel : Channel) (userId : UserId)
      (member : MemberWithRoles),
      channel.workspaceId ≠ none → Administrates member →
      computeEffectiveForMember overrides none channel userId member &&& Auth.allPermissions =
        Auth.allPermissions := by
  intro always
  have exempt := always [] board ⟨1⟩ deputy (by decide) administrates_deputy
  revert exempt
  decide +kernel

end Masks

end Bongtalk.Channels.Permission
