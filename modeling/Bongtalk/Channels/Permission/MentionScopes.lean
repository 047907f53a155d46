import Bongtalk.Channels.Permission.ChannelAccess

/-!
# Who may mention a whole channel

`@everyone` and `@channel`/`@here` have a bit each. Both fold over the same override rows
as the effective mask, from a base of their own.
-/

namespace Bongtalk.Channels.Permission

open Library Auth Prisma Shared

/-- `MENTION_EVERYONE_BIT`. -/
def mentionEveryoneBit : Mask :=
  0x0080

/-- `MENTION_CHANNEL_BIT`. -/
def mentionChannelBit : Mask :=
  0x2000

/-- `MENTION_EVERYONE_ROLE_BASE`. -/
def mentionEveryoneRoleBase : WorkspaceRole → Mask
  | .owner | .admin | .moderator => mentionEveryoneBit
  | .member | .guest => 0

/-- `MENTION_CHANNEL_ROLE_BASE`. -/
def mentionChannelRoleBase : WorkspaceRole → Mask
  | .owner | .admin | .moderator | .member => mentionChannelBit
  | .guest => 0

structure MentionScopePermissions where
  hasMentionEveryone : Bool := false
  hasMentionChannel : Bool := false
deriving DecidableEq, Repr

/-- The fold of a single bit. -/
def foldScopeBit (base bit : Mask) (tiers : Tiers Mask) : Bool :=
  let mask := base ||| (tiers.groupAllow &&& bit)
  let mask := mask &&& ~~~(tiers.groupDeny &&& bit)
  let mask := mask ||| (tiers.ownAllow &&& bit)
  let mask := mask &&& ~~~(tiers.ownDeny &&& bit)
  mask &&& bit == bit

/-- The two mention permissions of a member; `preloadedRoleUuids` spares the lookup of the held
roles. -/
def resolveMentionScopes (db : Database) (channelId : ChannelId)
    (workspaceId : Option WorkspaceId) (userId : UserId) (role : WorkspaceRole)
    (preloadedRoleUuids : Option (List RoleId)) : MentionScopePermissions :=
  match workspaceId with
  | none => {}
  | some workspaceId =>
    let roleIds := preloadedRoleUuids.getD (db.roleIdsOf workspaceId userId)
    let tiers := overrideTiers
      (matchingOverrides db.overrides.rows channelId userId (rolePrincipals role roleIds))
    { hasMentionEveryone := foldScopeBit (mentionEveryoneRoleBase role) mentionEveryoneBit tiers
      hasMentionChannel := foldScopeBit (mentionChannelRoleBase role) mentionChannelBit tiers }

def resolveMentionEveryone (db : Database) (channelId : ChannelId)
    (workspaceId : Option WorkspaceId) (userId : UserId) (role : WorkspaceRole)
    (preloadedRoleUuids : Option (List RoleId)) : Bool :=
  (resolveMentionScopes db channelId workspaceId userId role preloadedRoleUuids).hasMentionEveryone

/-- The law of the catalog: the base is the flag in the masks of the held roles together. -/
def CatalogGrants (db : Database) (channelId : ChannelId) (member : WorkspaceMember)
    (flag : PermissionFlag) : Prop :=
  let principals := (loadMember db member).principals
  ¬Denied db.overrides.rows channelId member.userId flag.shift principals ∧
    (Allowed db.overrides.rows channelId member.userId flag.shift principals ∨
      has (catalogMask (loadMember db member).memberRoles) (permissions flag) = true)

section Scopes

/-- A fold of a single bit is the fold of that bit. -/
theorem foldScopeBit_twoPow (base : Mask) (tiers : Tiers Mask) {index : Nat} (inside : index < 32) :
    foldScopeBit base (BitVec.twoPow 32 index) tiers =
      (tiers.bit index).grants (base.getLsbD index) := by
  have atIndex : ∀ mask : Mask, (mask &&& BitVec.twoPow 32 index == BitVec.twoPow 32 index) =
      mask.getLsbD index := by
    intro mask
    rw [BitVec.and_twoPow, Bool.eq_iff_iff, beq_iff_eq]
    cases mask.getLsbD index with
    | false =>
      refine iff_of_false (fun zero => ?_) Bool.false_ne_true
      have bitEq := congrArg (BitVec.getLsbD · index) zero
      simp [inside] at bitEq
    | true => simp
  rw [foldScopeBit, atIndex]
  simp [Tiers.grants, Tiers.bit, inside]

variable (db : Database) (channelId : ChannelId) (workspaceId : WorkspaceId) (userId : UserId)
  (role : WorkspaceRole) (preloadedRoleUuids : Option (List RoleId))

end Scopes

/-- A member with a custom role that may mention everyone. -/
def herald : Database where
  workspaces := .empty
  categories := .empty
  channels := .empty
  overrides := .empty
  workspaceMembers := .single ⟨⟨1⟩, ⟨1⟩, .member⟩
  roles :=
    ⟨[{ id := ⟨1⟩, workspaceId := ⟨1⟩, name := "herald", position := 1
        permissions := toStoragePermissions (permissions .mentionEveryone) }], by decide⟩
  memberRoles := .single ⟨⟨1⟩, ⟨1⟩, ⟨1⟩⟩
  memberRoleRole := fun _ present =>
    ⟨_, List.mem_singleton_self _, by rw [List.mem_singleton.mp present]⟩
  memberRoleMember := fun _ present =>
    ⟨⟨⟨1⟩, ⟨1⟩, .member⟩, List.mem_singleton_self _, by
      obtain rfl := List.mem_singleton.mp present
      exact ⟨rfl, rfl⟩⟩

end Bongtalk.Channels.Permission
