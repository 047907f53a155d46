import Bongtalk.Channels.Permission.MentionScopes
import Bongtalk.Messages.Mentions.Extractor

/-!
# Gates on extracted mentions

A mention its author may not make is dropped silently; one that would reach too many
needs a confirmation.
-/

namespace Bongtalk.Messages.Mentions

open Channels.Permission Common Prisma

def gateEveryoneMention (mentions : Mentions) (hasMentionEveryone : Bool) : Mentions :=
  if mentions.everyone && !hasMentionEveryone then { mentions with everyone := false } else mentions

def gateHereMention (mentions : Mentions) (hasMentionChannel : Bool) : Mentions :=
  if mentions.here && !hasMentionChannel then { mentions with here := false } else mentions

def gateChannelMention (mentions : Mentions) (hasMentionChannel : Bool) : Mentions :=
  if mentions.channel && !hasMentionChannel then { mentions with channel := false } else mentions

def gateRoleMention (mentions : Mentions) (allowedRoleIds : List RoleId) : Mentions :=
  { mentions with roles := mentions.roles.filter allowedRoleIds.contains }

/-- `EVERYONE_CONFIRM_THRESHOLD`. -/
def everyoneConfirmThreshold : Nat :=
  6

/-- `BULK_MENTION_CONFIRM_THRESHOLD`. -/
def bulkMentionConfirmThreshold : Nat :=
  50

/-- `MAX_ROLE_MENTIONS_PER_MSG`. -/
def maxRoleMentionsPerMsg : Nat :=
  10

/-- Refuse an unconfirmed mention of a large workspace. -/
def enforceBulkMentionThreshold (db : Database) (workspaceId : WorkspaceId) (gated : Mentions) :
    Except Failure Unit :=
  let memberCount := (db.workspaceMembers.findMany (·.workspaceId == workspaceId)).length
  if gated.everyone && everyoneConfirmThreshold ≤ memberCount then
    failWith .bulkMentionConfirmRequired "large @everyone mention requires confirmation"
  else if (gated.here || gated.channel) && bulkMentionConfirmThreshold ≤ memberCount then
    failWith .bulkMentionConfirmRequired "large @channel/@here mention requires confirmation"
  else .ok ()

/-- The roles that the author may mention: the mentionable ones, and with the permission of
`@everyone` the others too. -/
def resolveAllowedRoleMentions (db : Database) (extractedRoles : List ExtractedRoleMention)
    (channelId : ChannelId) (workspaceId : Option WorkspaceId) (authorId : UserId)
    (actorRole : Option WorkspaceRole) (actorMemberRoleUuids : Option (List RoleId)) :
    List RoleId :=
  let mentionable := (extractedRoles.filter (·.mentionable)).map (·.id)
  let restricted := (extractedRoles.filter fun role => !role.mentionable).map (·.id)
  if restricted = [] then mentionable
  else
    match workspaceId, actorRole with
    | some workspaceId, some role =>
      if resolveMentionEveryone db channelId (some workspaceId) authorId role
          actorMemberRoleUuids then
        mentionable ++ restricted
      else mentionable
    | _, _ => mentionable

section Gates

variable (mentions : Mentions) (allowed : Bool)

/-- A gate only takes its scope mention away. -/
theorem gateEveryoneMention_eq :
    gateEveryoneMention mentions allowed =
      { mentions with everyone := mentions.everyone && allowed } := by
  rcases mentions with ⟨users, channels, everyone, here, channel, roles⟩
  cases everyone <;> cases allowed <;> rfl

theorem gateHereMention_eq :
    gateHereMention mentions allowed = { mentions with here := mentions.here && allowed } := by
  rcases mentions with ⟨users, channels, everyone, here, channel, roles⟩
  cases here <;> cases allowed <;> rfl

theorem gateChannelMention_eq :
    gateChannelMention mentions allowed =
      { mentions with channel := mentions.channel && allowed } := by
  rcases mentions with ⟨users, channels, everyone, here, channel, roles⟩
  cases channel <;> cases allowed <;> rfl

end Gates

end Bongtalk.Messages.Mentions
