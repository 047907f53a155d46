import Bongtalk.Library.Masks

/-!
# The permission catalog

Catalog masks are unsigned bit fields of arbitrary width. They are stored in signed 64-bit columns,
so the bit of `administrator` turns a stored mask negative. Every workspace is seeded with five
fixed roles.
-/

namespace Bongtalk.Shared

open Library

/-- The keys of `PERMISSIONS`. -/
inductive PermissionFlag where
  | viewChannel
  | sendMessages
  | readHistory
  | manageMessages
  | attachFiles
  | addReactions
  | useSlashCommands
  | mentionEveryone
  | manageChannel
  | manageWebhooks
  | createInvites
  | useExternalEmoji
  | bypassSlowmode
  | mentionChannel
  | kickMembers
  | banMembers
  | timeoutMembers
  | administrator
deriving DecidableEq, Repr

namespace PermissionFlag

/-- The shift of the bit in `PERMISSIONS`. -/
def shift : PermissionFlag → Nat
  | viewChannel => 0
  | sendMessages => 1
  | readHistory => 2
  | manageMessages => 3
  | attachFiles => 4
  | addReactions => 5
  | useSlashCommands => 6
  | mentionEveryone => 7
  | manageChannel => 8
  | manageWebhooks => 9
  | createInvites => 10
  | useExternalEmoji => 11
  | bypassSlowmode => 12
  | mentionChannel => 13
  | kickMembers => 14
  | banMembers => 15
  | timeoutMembers => 16
  | administrator => 63

/-- Every flag, in the order of the catalog. -/
def all : List PermissionFlag :=
  [viewChannel, sendMessages, readHistory, manageMessages, attachFiles, addReactions,
    useSlashCommands, mentionEveryone, manageChannel, manageWebhooks, createInvites,
    useExternalEmoji, bypassSlowmode, mentionChannel, kickMembers, banMembers, timeoutMembers,
    administrator]

end PermissionFlag

/-- The bit of a flag: `PERMISSIONS[flag]`. -/
def permissions (flag : PermissionFlag) : Nat :=
  1 <<< flag.shift

/-- Combine several flags into one mask. -/
def combine (flags : List PermissionFlag) : Nat :=
  Masks.unionFrom 0 permissions flags

/-- Every defined bit. -/
def allPermissions : Nat :=
  combine PermissionFlag.all

/-- Whether a mask holds a flag; an administrator mask holds every other flag. -/
def has (mask flag : Nat) : Bool :=
  if mask &&& permissions .administrator ≠ 0 ∧ flag ≠ permissions .administrator then true
  else mask &&& flag == flag

/-- Whether a mask holds a flag, without the administrator bypass. -/
def hasRaw (mask flag : Nat) : Bool :=
  mask &&& flag == flag

/-- `BigInt.asIntN(64, mask)`: the signed column value of a mask. -/
def toStoragePermissions (mask : Nat) : Int :=
  (mask : Int).bmod (2 ^ 64)

/-- `BigInt.asUintN(64, stored)`: the mask of a signed column value. -/
def fromStoragePermissions (stored : Int) : Nat :=
  (stored % (2 ^ 64 : Nat)).toNat

/-- The `RangeError` of a rejected mask string. -/
structure RangeError where
  message : String
deriving DecidableEq, Repr

/-- The pattern `^(0|[1-9]\d*)$`. -/
def isBitmaskString : List Char → Bool
  | [] => false
  | ['0'] => true
  | first :: rest => decide ('1' ≤ first ∧ first ≤ '9') && rest.all Char.isDigit

/-- The value of a string of decimal digits. -/
def bigIntOfDigits (digits : List Char) : Nat :=
  digits.foldl (fun value digit => 10 * value + (digit.toNat - '0'.toNat)) 0

/-- Parse a mask string; only canonical decimals inside the catalog are accepted. -/
def deserializePermissions (value : String) : Except RangeError Nat :=
  if isBitmaskString value.toList = false then
    .error ⟨"invalid permission bitmask string: " ++ value⟩
  else
    let mask := bigIntOfDigits value.toList
    if Masks.without mask allPermissions ≠ 0 then
      .error ⟨"permission bitmask out of range: " ++ value⟩
    else .ok mask

variable {mask : Nat} (flag : PermissionFlag) {value : String}

/-- Every catalog bit lies below 64. -/
theorem shift_lt : flag.shift < 64 := by
  cases flag <;> decide

theorem testBit_permissions (index : Nat) :
    (permissions flag).testBit index = decide (flag.shift = index) := by
  rw [permissions, Nat.shiftLeft_eq, one_mul, Nat.testBit_two_pow]

/-- A combined mask has exactly the bits of its flags. -/
theorem testBit_combine (flags : List PermissionFlag) (index : Nat) :
    (combine flags).testBit index = true ↔ ∃ flag ∈ flags, flag.shift = index := by
  simp [combine, Masks.testBit_unionFrom, testBit_permissions]

/-- Apart from the administrator bypass, holding a flag is having its bit. -/
theorem hasRaw_eq_testBit (mask : Nat) (flag : PermissionFlag) :
    hasRaw mask (permissions flag) = mask.testBit flag.shift := by
  rw [Bool.eq_iff_iff, hasRaw, beq_iff_eq]
  exact Masks.and_shiftLeft_one_eq_iff mask flag.shift

/-- Any other flag is held with its own bit or with the administrator bit. -/
theorem has_eq_testBit (mask : Nat) {flag : PermissionFlag} (other : flag ≠ .administrator) :
    has mask (permissions flag) =
      (mask.testBit PermissionFlag.administrator.shift || mask.testBit flag.shift) := by
  have distinct : permissions flag ≠ permissions .administrator := by
    cases flag <;> first | exact absurd rfl other | decide
  have administrates := Masks.and_shiftLeft_one_ne_zero_iff mask PermissionFlag.administrator.shift
  unfold has
  split
  next bypassed => simp [administrates.mp bypassed.1]
  next unbypassed =>
    have plain : ¬mask.testBit PermissionFlag.administrator.shift = true :=
      fun held => unbypassed ⟨administrates.mpr held, distinct⟩
    rw [Bool.eq_false_iff.mpr plain, Bool.false_or]
    exact hasRaw_eq_testBit mask flag

/-- An accepted mask has catalog bits only. -/
theorem testBit_of_deserializePermissions (accepted : deserializePermissions value = .ok mask)
    {index : Nat} (held : mask.testBit index = true) :
    ∃ flag : PermissionFlag, flag.shift = index := by
  unfold deserializePermissions at accepted
  split at accepted
  · cases accepted
  dsimp only at accepted
  split at accepted
  · cases accepted
  next inside =>
    obtain rfl : bigIntOfDigits value.toList = mask := by simpa using accepted
    have inCatalog := (Masks.without_eq_zero_iff _ _).mp (not_not.mp inside) index held
    obtain ⟨flag, -, shiftEq⟩ := (testBit_combine _ _).mp inCatalog
    exact ⟨flag, shiftEq⟩

/-- An accepted mask fits the 64 bits of its column. -/
theorem lt_of_deserializePermissions (accepted : deserializePermissions value = .ok mask) :
    mask < 2 ^ 64 := by
  apply Nat.lt_pow_two_of_testBit
  intro index beyond
  rw [Bool.eq_false_iff]
  intro held
  obtain ⟨flag, shiftEq⟩ := testBit_of_deserializePermissions accepted held
  have below := shift_lt flag
  omega

/-- The signed and the unsigned reading agree modulo the width of the column. -/
private theorem toNat_emod_bmod {mask modulus : Nat} (fits : mask < modulus) :
    ((mask : Int).bmod modulus % (modulus : Int)).toNat = mask := by
  rw [Int.bmod_emod, Int.emod_eq_of_lt (Int.natCast_nonneg mask) (Int.ofNat_lt.mpr fits),
    Int.toNat_natCast]

/-- Storing a 64-bit mask and reading it back gives the mask, the sign bit included. -/
theorem fromStoragePermissions_toStoragePermissions (fits : mask < 2 ^ 64) :
    fromStoragePermissions (toStoragePermissions mask) = mask :=
  toNat_emod_bmod fits

inductive SystemRoleName where
  | owner
  | admin
  | moderator
  | member
  | guest
deriving DecidableEq, Repr

/-- The position of a system role; higher is above. -/
def systemRolePosition : SystemRoleName → Nat
  | .owner => 500
  | .admin => 400
  | .moderator => 300
  | .member => 200
  | .guest => 100

/-- The default of `hoistInMemberList` for a system role. -/
def systemRoleHoistDefault : SystemRoleName → Bool
  | .owner | .admin => true
  | .moderator | .member | .guest => false

/-- The catalog bits a system role is seeded with. -/
def systemRolePermissions : SystemRoleName → Nat
  | .owner => permissions .administrator
  | .admin =>
    combine [.viewChannel, .sendMessages, .readHistory, .manageMessages, .attachFiles,
      .addReactions, .useSlashCommands, .mentionEveryone, .manageChannel, .manageWebhooks,
      .createInvites, .useExternalEmoji, .bypassSlowmode, .kickMembers, .banMembers,
      .timeoutMembers]
  | .moderator =>
    combine [.viewChannel, .sendMessages, .readHistory, .manageMessages, .attachFiles,
      .addReactions, .useSlashCommands, .mentionEveryone, .createInvites, .useExternalEmoji,
      .bypassSlowmode, .kickMembers, .banMembers, .timeoutMembers]
  | .member =>
    combine [.viewChannel, .sendMessages, .readHistory, .attachFiles, .addReactions,
      .useSlashCommands, .useExternalEmoji, .createInvites]
  | .guest => combine [.viewChannel, .sendMessages, .readHistory, .addReactions]

end Bongtalk.Shared
