import Bongtalk.Prisma.Schema

/-!
# The permission matrix

The effective mask of a system role on a channel, without the custom roles of a workspace.
-/

namespace Bongtalk.Auth

open Library Prisma

structure ChannelOverride where
  principal : Principal
  allowMask : Mask
  denyMask : Mask
deriving DecidableEq, Repr

structure EffectiveInput where
  role : WorkspaceRole
  isPrivate : Bool
  userId : UserId
  overrides : List ChannelOverride
deriving DecidableEq, Repr

namespace PermissionMatrix

/-- The allow and deny masks of the user's own rows and of the rows of its role. -/
def tiers (input : EffectiveInput) : Tiers Mask :=
  let userOverrides := input.overrides.filter fun row => row.principal == .user input.userId
  let roleOverrides := input.overrides.filter fun row => row.principal == .systemRole input.role
  { groupAllow := Masks.orFrom 0 ChannelOverride.allowMask roleOverrides
    groupDeny := Masks.orFrom 0 ChannelOverride.denyMask roleOverrides
    ownAllow := Masks.orFrom 0 ChannelOverride.allowMask userOverrides
    ownDeny := Masks.orFrom 0 ChannelOverride.denyMask userOverrides }

def effective (input : EffectiveInput) : Mask :=
  let baseline := roleBaseline input.role
  let tiers := tiers input
  if input.role = .owner then tiers.fold (roleBaseline .owner)
  else
    let hasExplicitRead := hasPermission (tiers.ownAllow ||| tiers.groupAllow) Permission.read
    let channelOk := if input.isPrivate then hasExplicitRead else true
    tiers.fold (if channelOk then baseline else 0)

end PermissionMatrix

end Bongtalk.Auth
