import Bongtalk.Channels.Permission.BatchVisibility
import Bongtalk.Messages.Mentions.Gate
import Bongtalk.Notifications.MentionGate

/-!
# The fan-out of mentions in a send

A send notifies the users its text names and the members its scope mentions reach, after the
gate of mention notifications. Each of them gets one row of the outbox with a
snippet of the text.
-/

namespace Bongtalk.Messages

open Library Channels.Permission Notifications Prisma Shared

inductive PresenceStatus where
  | online
  | idle
  | dnd
  | offline
deriving DecidableEq, Repr

/-- The presence service: the status of each user, or a rejected lookup. -/
abbrev Presence := UserId → Option PresenceStatus

/-- A `mention.received` row of the outbox. -/
structure MentionReceived where
  targetUserId : UserId
  workspaceId : Option WorkspaceId
  channelId : ChannelId
  messageId : MessageId
  actorId : UserId
  snippet : List Char
  createdAt : DateTime
  everyone : Bool
  here : Bool
  role : Bool
  keyword : Bool := false
deriving DecidableEq, Repr

/-- The first 140 units of a text with its blanks collapsed. -/
def buildSnippet (content : String) : List Char :=
  let collapsed := unwords (words content.toList)
  if 140 < utf16Length collapsed then takeUnits 140 collapsed ++ ['…'] else collapsed

/-- `workspaceMember.findMany` by workspace. -/
def memberIdsOf (db : Database) (workspaceId : WorkspaceId) : List UserId :=
  (db.workspaceMembers.findMany (·.workspaceId == workspaceId)).map (·.userId)

/-- Whether a status counts as present for `@here`. -/
def isPresent (status : Option PresenceStatus) : Bool :=
  status == some .online || status == some .idle

/-- The members a scope mention reaches. `@here` alone reaches those who are present, and
everybody when all lookups are rejected. -/
def resolveBroadMentionRecipients (db : Database) (presence : Option Presence)
    (workspaceId : Option WorkspaceId) (mentions : Mentions) : List UserId :=
  match workspaceId with
  | none => []
  | some workspaceId =>
    if mentions.everyone || mentions.channel then memberIdsOf db workspaceId
    else if mentions.here then
      match presence with
      | none => memberIdsOf db workspaceId
      | some status =>
        if (memberIdsOf db workspaceId).all (status · == none) then memberIdsOf db workspaceId
        else (memberIdsOf db workspaceId).filter fun userId => isPresent (status userId)
    else []

/-- The members of the mentioned roles who see the channel, on the path without a queue. -/
def resolveRoleMentionRecipients (db : Database) (workspaceId : Option WorkspaceId)
    (channelId : ChannelId) (gatedRoleIds : List RoleId) : List UserId :=
  match workspaceId with
  | none => []
  | some workspaceId =>
    let memberIds := ((db.memberRoles.findMany fun row =>
      row.workspaceId == workspaceId && gatedRoleIds.contains row.roleId).map (·.userId)).eraseDups
    if (db.channels.findUnique channelId).any (·.isPrivate) then
      filterPrivateChannelVisibleUsers db channelId workspaceId memberIds
    else memberIds

/-- Role members are left to the queue when there is one. -/
def roleRecipientSet (mentionBroadcast : Bool) (db : Database) (workspaceId : Option WorkspaceId)
    (channelId : ChannelId) (gatedRoleIds : List RoleId) : List UserId :=
  if mentionBroadcast && !gatedRoleIds.isEmpty then []
  else resolveRoleMentionRecipients db workspaceId channelId gatedRoleIds

/-- What the fan-out of one message works on. -/
structure FanoutInput where
  workspaceId : Option WorkspaceId
  mentions : Mentions
  message : Message
  now : DateTime

namespace FanoutInput

variable (input : FanoutInput) (db : Database) (presence : Option Presence)
variable (mentionBroadcast : Bool)

def roleRecipients : List UserId :=
  roleRecipientSet mentionBroadcast db input.workspaceId input.message.channelId
    input.mentions.roles

/-- `dedupedMentionUserIds`. -/
def candidates : List UserId :=
  ((input.mentions.users ++
      resolveBroadMentionRecipients db presence input.workspaceId input.mentions ++
      input.roleRecipients db mentionBroadcast).filter (· ≠ input.message.authorId)).eraseDups

/-- Users mentioned by name or by a role count as mentioned directly. -/
def kindFor (userId : UserId) : MentionKind :=
  if userId ∈ input.mentions.users ∨ userId ∈ input.roleRecipients db mentionBroadcast then .direct
  else .broad

def context : MentionContext where
  channelId := input.message.channelId
  workspaceId := input.workspaceId
  authorId := input.message.authorId
  parentMessageId := input.message.parentMessageId
  now := input.now

/-- The candidates the gate lets through. -/
def recipients (tables : NotificationTables) (zoneClock : ZoneClock) : List UserId :=
  filterNotifiable tables zoneClock input.context (input.candidates db presence mentionBroadcast)
    (input.kindFor db mentionBroadcast)

/-- The row a recipient gets. -/
def row (userId : UserId) : MentionReceived where
  targetUserId := userId
  workspaceId := input.workspaceId
  channelId := input.message.channelId
  messageId := input.message.id
  actorId := input.message.authorId
  snippet := buildSnippet input.message.content
  createdAt := input.message.createdAt
  everyone := input.mentions.everyone
  here := input.mentions.here
  role := (input.roleRecipients db mentionBroadcast).contains userId &&
    !input.mentions.users.contains userId

/-- The rows a send records. -/
def rows (tables : NotificationTables) (zoneClock : ZoneClock) : List MentionReceived :=
  (input.recipients db presence mentionBroadcast tables zoneClock).map
    (input.row db mentionBroadcast)

end FanoutInput

variable {workspaceId : WorkspaceId} {userId : UserId}

variable {db : Database}

theorem mem_memberIdsOf :
    userId ∈ memberIdsOf db workspaceId ↔ ∃ member, db.findMember workspaceId userId = some member := by
  simp only [memberIdsOf, List.mem_map, Table.mem_findMany, beq_iff_eq, Database.findMember,
    Table.findUnique_eq_some_iff, Prod.mk.injEq]
  constructor
  · rintro ⟨member, ⟨present, here⟩, rfl⟩
    exact ⟨member, present, here, rfl⟩
  · rintro ⟨member, present, here, rfl⟩
    exact ⟨member, ⟨present, here⟩, rfl⟩

/-- Whether a scope mention reaches a member of the workspace: `@everyone` and `@channel` do,
`@here` does when the member is present or presence is out of order. -/
def BroadReaches (db : Database) (presence : Option Presence) (workspaceId : WorkspaceId)
    (mentions : Mentions) (userId : UserId) : Prop :=
  mentions.everyone = true ∨ mentions.channel = true ∨
    (mentions.here = true ∧
      ∀ status, presence = some status →
        isPresent (status userId) = true ∨
          ∀ member ∈ db.workspaceMembers, member.workspaceId = workspaceId →
            status member.userId = none)

/-- The broad recipients are the members of the workspace a scope mention reaches. -/
theorem mem_resolveBroadMentionRecipients {presence : Option Presence} {mentions : Mentions} :
    userId ∈ resolveBroadMentionRecipients db presence (some workspaceId) mentions ↔
      (∃ member, db.findMember workspaceId userId = some member) ∧
        BroadReaches db presence workspaceId mentions userId := by
  rw [← mem_memberIdsOf]
  simp only [resolveBroadMentionRecipients, BroadReaches]
  by_cases all : (mentions.everyone || mentions.channel) = true
  · rw [if_pos all]
    rcases Bool.or_eq_true_iff.mp all with everyone | channel
    · simp [everyone]
    · simp [channel]
  · obtain ⟨noEveryone, noChannel⟩ := Bool.or_eq_false_iff.mp (Bool.not_eq_true _ ▸ all)
    rw [if_neg all]
    simp only [noEveryone, noChannel, Bool.false_eq_true, false_or]
    by_cases here : mentions.here = true
    · simp only [here, if_true, true_and]
      cases presence with
      | none => simp
      | some status =>
        have rejected : (memberIdsOf db workspaceId).all (status · == none) = true ↔
            ∀ member ∈ db.workspaceMembers, member.workspaceId = workspaceId →
              status member.userId = none := by
          simp [memberIdsOf, Table.mem_def, Table.findMany, imp_iff_not_or]
        simp only [Option.some.injEq, forall_eq', ← rejected]
        by_cases down : (memberIdsOf db workspaceId).all (status · == none) = true
        · rw [if_pos down]
          exact ⟨fun isMember => ⟨isMember, .inr down⟩, And.left⟩
        · rw [if_neg down, List.mem_filter]
          exact and_congr_right fun _ => (or_iff_left down).symm
    · simp [here]

/-- The role recipients are the holders of the mentioned roles, on a private channel those among
them whom the filter shows. -/
theorem mem_resolveRoleMentionRecipients {channel : Channel}
    (found : db.channels.findUnique channel.id = some channel) {gatedRoleIds : List RoleId} :
    userId ∈ resolveRoleMentionRecipients db (some workspaceId) channel.id gatedRoleIds ↔
      (∃ row ∈ db.memberRoles, row.workspaceId = workspaceId ∧ row.roleId ∈ gatedRoleIds ∧
        row.userId = userId) ∧
      (channel.isPrivate = true → ∃ member, db.findMember workspaceId userId = some member ∧
        (member.role = .owner ∨
          ReadAllowed db.overrides.rows channel.id userId (loadMember db member).principals)) := by
  have holders : userId ∈ ((db.memberRoles.findMany fun row =>
      row.workspaceId == workspaceId && gatedRoleIds.contains row.roleId).map
        (·.userId)).eraseDups ↔
      ∃ row ∈ db.memberRoles, row.workspaceId = workspaceId ∧ row.roleId ∈ gatedRoleIds ∧
        row.userId = userId := by
    simp [and_assoc]
  simp only [resolveRoleMentionRecipients, found, Option.any_some]
  by_cases isPrivate : channel.isPrivate = true
  · rw [if_pos isPrivate, mem_filterPrivateChannelVisibleUsers, holders]
    simp only [isPrivate, forall_const]
  · rw [if_neg isPrivate, holders]
    simp [isPrivate]

/-- A send reaches them itself when there is no queue for them. -/
theorem mem_roleRecipientSet {mentionBroadcast : Bool} {channel : Channel}
    (found : db.channels.findUnique channel.id = some channel) {gatedRoleIds : List RoleId} :
    userId ∈ roleRecipientSet mentionBroadcast db (some workspaceId) channel.id gatedRoleIds ↔
      mentionBroadcast = false ∧
        (∃ row ∈ db.memberRoles, row.workspaceId = workspaceId ∧ row.roleId ∈ gatedRoleIds ∧
          row.userId = userId) ∧
        (channel.isPrivate = true → ∃ member, db.findMember workspaceId userId = some member ∧
          (member.role = .owner ∨
            ReadAllowed db.overrides.rows channel.id userId (loadMember db member).principals)) := by
  unfold roleRecipientSet
  split
  next queued =>
    simp only [Bool.and_eq_true] at queued
    simp [queued.1]
  next direct =>
    rw [mem_resolveRoleMentionRecipients found]
    by_cases noRoles : gatedRoleIds = []
    · simp [noRoles]
    have noQueue : mentionBroadcast = false := by simpa [noRoles] using direct
    simp only [noQueue, true_and]

/-- Whom a send notifies: whoever is named or reached by a role, if the gate lets direct mentions
through, and whoever is reached by a scope, if it lets broad ones through. -/
theorem FanoutInput.mem_recipients {input : FanoutInput} {presence : Option Presence}
    {mentionBroadcast : Bool} {tables : NotificationTables} {zoneClock : ZoneClock} :
    userId ∈ input.recipients db presence mentionBroadcast tables zoneClock ↔
      userId ≠ input.message.authorId ∧
        ((userId ∈ input.mentions.users ∨ userId ∈ input.roleRecipients db mentionBroadcast) ∧
            isNotifiable tables input.context userId zoneClock .direct = true ∨
          userId ∈ resolveBroadMentionRecipients db presence input.workspaceId input.mentions ∧
            isNotifiable tables input.context userId zoneClock .broad = true) := by
  rw [recipients, mem_filterNotifiable, candidates, List.mem_eraseDups, List.mem_filter,
    List.mem_append, List.mem_append, decide_eq_true_eq, kindFor]
  by_cases direct : userId ∈ input.mentions.users ∨ userId ∈ input.roleRecipients db mentionBroadcast
  · -- A direct mention passes wherever a broad one would.
    have broadToo : isNotifiable tables input.context userId zoneClock .broad = true →
        isNotifiable tables input.context userId zoneClock .direct = true :=
      isNotifiable_direct_of_broad
    rw [if_pos direct]
    constructor
    · rintro ⟨⟨-, other⟩, notifiable⟩
      exact ⟨other, .inl ⟨direct, notifiable⟩⟩
    · rintro ⟨other, ⟨-, notifiable⟩ | ⟨-, notifiable⟩⟩
      · exact ⟨⟨direct.imp_left .inl, other⟩, notifiable⟩
      · exact ⟨⟨direct.imp_left .inl, other⟩, broadToo notifiable⟩
  · obtain ⟨unnamed, noRole⟩ := not_or.mp direct
    rw [if_neg direct]
    simp only [unnamed, noRole, false_or, or_false, false_and]
    exact ⟨fun held => ⟨held.1.2, held.1.1, held.2⟩, fun held => ⟨⟨held.2.1, held.1⟩, held.2.2⟩⟩

end Bongtalk.Messages
