import Bongtalk.Shared.Permissions

/-!
# The enforcement mask

Channel access is enforced on 32-bit masks of its own, apart from the catalog.
-/

namespace Bongtalk.Auth

open Library Shared

/-- An enforcement mask: a number under the bitwise operators. -/
abbrev Mask := BitVec 32

namespace Permission

def read : Mask := 0x0001
def writeMessage : Mask := 0x0002
def deleteOwnMessage : Mask := 0x0004
def deleteAnyMessage : Mask := 0x0008
def manageMembers : Mask := 0x0010
def manageChannel : Mask := 0x0020
def uploadAttachment : Mask := 0x0040
def bypassSlowmode : Mask := 0x0100

end Permission

/-- Every enforcement bit. -/
def allPermissions : Mask :=
  Permission.read ||| Permission.writeMessage ||| Permission.deleteOwnMessage |||
    Permission.deleteAnyMessage ||| Permission.manageMembers ||| Permission.manageChannel |||
    Permission.uploadAttachment ||| Permission.bypassSlowmode

/-- The mask of a system role before any override. -/
def roleBaseline : SystemRoleName → Mask
  | .owner => allPermissions
  | .admin =>
    Permission.read ||| Permission.writeMessage ||| Permission.deleteOwnMessage |||
      Permission.deleteAnyMessage ||| Permission.manageMembers ||| Permission.manageChannel |||
      Permission.uploadAttachment ||| Permission.bypassSlowmode
  | .moderator =>
    Permission.read ||| Permission.writeMessage ||| Permission.deleteOwnMessage |||
      Permission.deleteAnyMessage ||| Permission.uploadAttachment ||| Permission.bypassSlowmode
  | .member =>
    Permission.read ||| Permission.writeMessage ||| Permission.deleteOwnMessage |||
      Permission.uploadAttachment
  | .guest => Permission.read ||| Permission.writeMessage

/-- `PermissionMatrix.has`. -/
def hasPermission (effective permission : Mask) : Bool :=
  effective &&& permission == permission

/-- The bits an override mask may hold: the enforcement bits, the catalog bit of
`@everyone` (`0x0080`) and that of `@channel` and `@here` (`0x2000`). -/
def channelOverrideBits : Nat :=
  allPermissions.toNat ||| 0x0080 ||| 0x2000

/-- Checked before every write of an override mask. -/
def isWithinChannelOverrideBits (mask : Nat) : Bool :=
  Masks.without mask channelOverrideBits == 0

/-- A value of an override mask column. -/
structure OverrideMask where
  value : Nat
  within : isWithinChannelOverrideBits value = true
deriving DecidableEq, Repr

namespace OverrideMask

/-- The mask without a bit. -/
def none : OverrideMask where
  value := 0
  within := by decide

/-- The mask of `READ` alone. -/
def read : OverrideMask where
  value := 1
  within := by decide

/-- The mask `0xff` of a channel's creator. -/
def creator : OverrideMask where
  value := 0xff
  within := by decide

end OverrideMask

/-- `Number(mask)` of an override column, as an operand of the bitwise operators. -/
def number (mask : OverrideMask) : Mask :=
  BitVec.ofNat 32 mask.value

/-- Holding `READ` is having the lowest bit. -/
theorem hasPermission_read (mask : Mask) : hasPermission mask Permission.read = mask.getLsbD 0 := by
  rw [Bool.eq_iff_iff, hasPermission, beq_iff_eq]
  constructor
  · intro equal
    have bitAt := congrArg (BitVec.getLsbD · 0) equal
    simpa [Permission.read] using bitAt
  · intro held
    apply BitVec.eq_of_getLsbD_eq
    intro index inside
    cases index with
    | zero => simp [Permission.read, held]
    | succ index => simp [Permission.read, BitVec.getLsbD_one]

/-- An override column has no bit beyond those of an operand. -/
theorem OverrideMask.lt_of_testBit {mask : OverrideMask} {index : Nat}
    (held : mask.value.testBit index = true) : index < 32 := by
  have inside := (Masks.without_eq_zero_iff _ _).mp (beq_iff_eq.mp mask.within) index held
  by_contra outside
  have small : channelOverrideBits < 2 ^ index :=
    Nat.lt_of_lt_of_le (by decide : channelOverrideBits < 2 ^ 32)
      (Nat.pow_le_pow_right (by decide) (Nat.le_of_not_lt outside))
  rw [Nat.testBit_lt_two_pow small] at inside
  cases inside

/-- An override column keeps its bits as an operand. -/
theorem getLsbD_number (mask : OverrideMask) (index : Nat) :
    (number mask).getLsbD index = mask.value.testBit index := by
  rw [number, BitVec.getLsbD_ofNat]
  by_cases held : mask.value.testBit index = true
  · rw [decide_eq_true (OverrideMask.lt_of_testBit held), Bool.true_and]
  · rw [Bool.eq_false_iff.mpr held, Bool.and_false]

/-- Every system role reads by default. -/
theorem roleBaseline_read (role : SystemRoleName) : (roleBaseline role).getLsbD 0 = true := by
  cases role <;> decide

end Bongtalk.Auth
