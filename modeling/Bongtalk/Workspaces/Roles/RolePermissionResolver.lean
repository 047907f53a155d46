import Bongtalk.Prisma.Schema

/-!
# Channel permissions from custom roles

The catalog mask of a member: the union of the role masks, then the overwrites of
the everyone role, of the held roles as one tier, and of the member.
-/

namespace Bongtalk.Workspaces.Roles

open Library Prisma Shared

structure ResolverRole where
  id : RoleId
  permissions : Nat
  position : Nat
  isEveryone : Bool
deriving DecidableEq, Repr

structure ResolverOverwrite where
  allow : Nat
  deny : Nat
deriving DecidableEq, Repr

structure ResolveChannelPermissionsInput where
  everyone : ResolverRole
  memberRoles : List ResolverRole
  everyoneOverwrite : Option ResolverOverwrite
  /-- The overwrite of a role, keyed by its id. -/
  roleOverwrites : List (RoleId × ResolverOverwrite)
  memberOverwrite : Option ResolverOverwrite

/-- Remove what is denied, then add what is allowed. -/
def applyOverwrite (mask : Nat) (overwrite : ResolverOverwrite) : Nat :=
  Masks.without mask overwrite.deny ||| overwrite.allow

/-- The overwrites of the held roles, accumulated into one. -/
def roleTier (roleOverwrites : List (RoleId × ResolverOverwrite))
    (memberRoles : List ResolverRole) : ResolverOverwrite :=
  memberRoles.foldl
    (fun tier role =>
      match roleOverwrites.lookup role.id with
      | some overwrite => ⟨tier.allow ||| overwrite.allow, tier.deny ||| overwrite.deny⟩
      | none => tier)
    ⟨0, 0⟩

def resolveChannelPermissions (input : ResolveChannelPermissionsInput) : Nat :=
  let base := Masks.unionFrom input.everyone.permissions ResolverRole.permissions input.memberRoles
  -- An administrator is exempt from every overwrite.
  if has base (permissions .administrator) then base
  else
    let mask := (input.everyoneOverwrite.map (applyOverwrite base)).getD base
    let mask :=
      if input.roleOverwrites = [] then mask
      else applyOverwrite mask (roleTier input.roleOverwrites input.memberRoles)
    (input.memberOverwrite.map (applyOverwrite mask)).getD mask

def resolveWorkspacePermissions (everyone : ResolverRole) (memberRoles : List ResolverRole) : Nat :=
  Masks.unionFrom everyone.permissions ResolverRole.permissions memberRoles

/-- Without overwrites the channel mask is the workspace mask. -/
theorem resolveChannelPermissions_no_overwrites (everyone : ResolverRole)
    (memberRoles : List ResolverRole) :
    resolveChannelPermissions ⟨everyone, memberRoles, none, [], none⟩ =
      resolveWorkspacePermissions everyone memberRoles := by
  simp only [resolveChannelPermissions, resolveWorkspacePermissions]
  split <;> rfl

/-- A bit of the workspace mask comes from the everyone role or from a held role. -/
theorem testBit_resolveWorkspacePermissions (everyone : ResolverRole)
    (memberRoles : List ResolverRole) (index : Nat) :
    (resolveWorkspacePermissions everyone memberRoles).testBit index = true ↔
      ∃ role ∈ everyone :: memberRoles, role.permissions.testBit index = true := by
  simp [resolveWorkspacePermissions, Masks.testBit_unionFrom]

end Bongtalk.Workspaces.Roles
