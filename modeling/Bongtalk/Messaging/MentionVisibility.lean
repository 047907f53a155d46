import Bongtalk.Messaging.System

/-!
# Who reads the snippet of a mention

The rows a send records carry a snippet of the message. Whom the send notifies depends on the
text, the scope mentions and the gate, and none of these looks at who reads the
channel; only the members of a mentioned role go through a filter.
-/

namespace Bongtalk.Messaging

open Library Channels.Permission Messages Messages.Mentions
open Notifications Prisma

variable {World : Type}

/-- The `mention.received` rows recorded between two stores. -/
def recordedRows (before after : Store World) : List MentionReceived :=
  after.outbox.drop before.outbox.length

/-- The text names the user by its username. -/
def NamedByUsername (tables : NotificationTables) (text : List Char) (userId : UserId) : Prop :=
  ∃ user ∈ tables.users, user.id = userId ∧ user.username.toList ∈ mentionedUsernames text

/-- A scope mention, of the text or asked for by the client and permitted to the author, reaches
the user: `@here` alone asks for presence, while presence works. -/
def ReachedByScope (db : Database) (presence : Option Presence) (workspaceId : WorkspaceId)
    (args : SendArgs) (userId : UserId) : Prop :=
  let text := args.content.toList
  ((hasEveryone text = true ∨ args.mentionsHint.everyone = true) ∧ args.hasMentionEveryone = true) ∨
    ((hasChannelScope text = true ∨ args.mentionsHint.channel = true) ∧
      args.hasMentionChannel = true) ∨
    (((hasHere text = true ∨ args.mentionsHint.here = true) ∧ args.hasMentionChannel = true) ∧
      ∀ status, presence = some status →
        isPresent (status userId) = true ∨
          ∀ member ∈ db.workspaceMembers, member.workspaceId = workspaceId →
            status member.userId = none)

section Recipients

variable (runtime : Runtime World) (call : SendCall) (store : Store World) (args : SendArgs)
variable (channel : Channel) (member : WorkspaceMember)

/-- A mentioned role reaches the member in the send itself: there is no queue, and on a private
channel the filter shows the member. -/
def ReachedByRole : Prop :=
  runtime.mentionBroadcast = false ∧
    (∃ row ∈ store.db.memberRoles, row.workspaceId = member.workspaceId ∧
      row.roleId ∈ (gatedMentions runtime store args).roles ∧ row.userId = member.userId) ∧
    (channel.isPrivate = true → member.role = .owner ∨
      ReadAllowed store.db.overrides.rows channel.id member.userId
        (loadMember store.db member).principals)

/-- The presence a send asks, after the services outside have judged its text. -/
def sendPresence : Option Presence :=
  runtime.presence.map (· (runtime.enforce store.world args (gatedMentions runtime store args)).2)

/-- What the gate of mention notifications knows about a send. -/
def sendContext : MentionContext where
  channelId := args.channelId
  workspaceId := args.workspaceId
  authorId := args.authorId
  parentMessageId := args.parentMessageId
  now := call.now

/-- A member other than the author is mentioned, and the gate consents. -/
def IsNotified : Prop :=
  member.userId ≠ args.authorId ∧
    ((NamedByUsername store.tables args.content.toList member.userId ∨
          ReachedByRole runtime store args channel member) ∧
        isNotifiable store.tables (sendContext call args) member.userId runtime.zoneClock .direct =
          true ∨
      ReachedByScope store.db (sendPresence runtime store args) member.workspaceId args
          member.userId ∧
        isNotifiable store.tables (sendContext call args) member.userId runtime.zoneClock .broad =
          true)

end Recipients

section Send

variable {runtime : Runtime World} {call : SendCall} {store after : Store World} {args : SendArgs}
variable {message : Message} {channel : Channel} {workspaceId : WorkspaceId}

/-- The mentions that survive the gates: the users of the text, and the scopes that are asked for
and permitted. -/
theorem gatedMentions_of_workspace (runtime : Runtime World) (store : Store World)
    (inWorkspace : args.workspaceId = some workspaceId) :
    let text := args.content.toList
    let mentions := gatedMentions runtime store args
    mentions.users = (extractMentions store.db store.tables (some workspaceId) text).users ∧
      mentions.everyone =
        ((hasEveryone text || args.mentionsHint.everyone) && args.hasMentionEveryone) ∧
      mentions.here = ((hasHere text || args.mentionsHint.here) && args.hasMentionChannel) ∧
      mentions.channel =
        ((hasChannelScope text || args.mentionsHint.channel) && args.hasMentionChannel) := by
  simp only [gatedMentions, gateRoleMention, broadGated, gateEveryoneMention_eq,
    gateHereMention_eq, gateChannelMention_eq, inWorkspace, reduceCtorEq, if_false,
    extractMentions, and_self]

theorem broadReaches_gatedMentions (inWorkspace : args.workspaceId = some workspaceId)
    {presence : Option Presence} {userId : UserId} :
    BroadReaches store.db presence workspaceId (gatedMentions runtime store args) userId ↔
      ReachedByScope store.db presence workspaceId args userId := by
  obtain ⟨-, everyone, here, channel⟩ :=
    gatedMentions_of_workspace runtime store inWorkspace
  simp only [BroadReaches, ReachedByScope, everyone, here, channel, Bool.and_eq_true,
    Bool.or_eq_true]

/-- The users a send notifies are the members it mentions with the consent of the gate. -/
theorem mem_syncNotifiedUserIds (inWorkspace : args.workspaceId = some workspaceId)
    (found : store.db.channels.findUnique args.channelId = some channel) {userId : UserId}
    {contentPlain : String} {world : World}
    (enforced : runtime.enforce store.world args (gatedMentions runtime store args) =
      (.ok contentPlain, world)) :
    userId ∈ syncNotifiedUserIds runtime call { store with world := world } args
        (gatedMentions runtime store args)
        (args.row call store (gatedMentions runtime store args) contentPlain).message ↔
      ∃ member, store.db.findMember workspaceId userId = some member ∧
        IsNotified runtime call store args channel member := by
  obtain ⟨users, -, -, -⟩ :=
    gatedMentions_of_workspace runtime store inWorkspace
  obtain ⟨-, channelId⟩ := Table.findUnique_eq_some_iff.mp found
  have foundChannel : store.db.channels.findUnique channel.id = some channel := by
    rw [channelId]
    exact found
  have presence : sendPresence runtime store args = runtime.presence.map (· world) := by
    rw [sendPresence, enforced]
  rw [syncNotifiedUserIds, FanoutInput.mem_recipients]
  change userId ≠ args.authorId ∧
    ((userId ∈ (gatedMentions runtime store args).users ∨
        userId ∈ roleRecipientSet runtime.mentionBroadcast store.db args.workspaceId args.channelId
          (gatedMentions runtime store args).roles) ∧
      isNotifiable store.tables (sendContext call args) userId runtime.zoneClock .direct = true ∨
    userId ∈ resolveBroadMentionRecipients store.db (runtime.presence.map (· world))
        args.workspaceId (gatedMentions runtime store args) ∧
      isNotifiable store.tables (sendContext call args) userId runtime.zoneClock .broad = true) ↔ _
  rw [users, inWorkspace, mem_users_extractMentions, ← channelId,
    mem_roleRecipientSet foundChannel, mem_resolveBroadMentionRecipients,
    broadReaches_gatedMentions inWorkspace, ← presence]
  cases isMember : store.db.findMember workspaceId userId with
  | none =>
    -- Only members hold roles.
    have noRole : ¬∃ row ∈ store.db.memberRoles, row.workspaceId = workspaceId ∧
        row.roleId ∈ (gatedMentions runtime store args).roles ∧ row.userId = userId := by
      rintro ⟨row, present, rfl, -, rfl⟩
      obtain ⟨member, memberMem, sameWorkspace, sameUser⟩ :=
        store.db.memberRoleMember row present
      have absent := Table.findUnique_eq_none_iff.mp isMember member memberMem
      exact absent (Prod.ext sameWorkspace sameUser)
    simp [noRole]
  | some member =>
    obtain ⟨rfl, rfl⟩ : member.workspaceId = workspaceId ∧ member.userId = userId := by
      simpa using (Table.findUnique_eq_some_iff.mp isMember).2
    simp only [Option.some.injEq, exists_eq', and_true, true_and, exists_eq_left']
    rfl

/-- Every recorded row goes to a reader of the channel exactly when every member who is notified
reads it. -/
theorem send_notifies_readers_iff
    (sent : send runtime call store args = (.ok ⟨message, false⟩, after))
    (inWorkspace : args.workspaceId = some workspaceId)
    (found : store.db.channels.findUnique args.channelId = some channel)
    (here : channel.workspaceId = some workspaceId) :
    (∀ row ∈ recordedRows store after, canRead store.db channel row.targetUserId = true) ↔
      ∀ member ∈ store.db.workspaceMembers, member.workspaceId = workspaceId →
        IsNotified runtime call store args channel member → Reads store.db channel member := by
  obtain ⟨world, contentPlain, messages, idemCache, -, enforced, -, rfl, rfl⟩ :=
    created_of_send sent
  have recorded : ∀ userId, (∃ row ∈ recordedRows store
        { Store.created runtime call { store with world := world } args
            (gatedMentions runtime store args)
            (args.row call store (gatedMentions runtime store args) contentPlain).message
            messages with
          idemCache := idemCache }, row.targetUserId = userId) ↔
      ∃ member, store.db.findMember workspaceId userId = some member ∧
        IsNotified runtime call store args channel member := by
    intro userId
    rw [← mem_syncNotifiedUserIds inWorkspace found enforced, recordedRows, Store.created,
      List.drop_left, mentionRows, FanoutInput.rows]
    constructor
    · rintro ⟨row, rowMem, rfl⟩
      obtain ⟨userId, recipient, rfl⟩ := List.mem_map.mp rowMem
      exact recipient
    · exact fun recipient => ⟨_, List.mem_map_of_mem recipient, rfl⟩
  constructor
  · intro readers member present inHere notified
    have foundMember : store.db.findMember workspaceId member.userId = some member :=
      Table.findUnique_eq_some_iff.mpr ⟨present, by rw [inHere]⟩
    obtain ⟨row, rowMem, target⟩ := (recorded member.userId).mpr ⟨member, foundMember, notified⟩
    obtain ⟨reader, foundReader, reads⟩ := (canRead_iff here).mp (readers row rowMem)
    rw [target, foundMember] at foundReader
    cases foundReader
    exact reads
  · intro condition row rowMem
    obtain ⟨member, foundMember, notified⟩ := (recorded row.targetUserId).mp ⟨row, rowMem, rfl⟩
    obtain ⟨present, sameKey⟩ := Table.findUnique_eq_some_iff.mp foundMember
    exact (canRead_iff here).mpr ⟨member, foundMember,
      condition member present (Prod.mk.inj sameKey).1 notified⟩

end Send

/-- A private channel of a workspace with its owner and bob, under given override rows. -/
def boardStore (overrides : OverrideTable) : Store Unit :=
  let members : WorkspaceMemberTable := ⟨[⟨⟨1⟩, ⟨1⟩, .owner⟩, ⟨⟨1⟩, ⟨2⟩, .member⟩], by decide⟩
  let users : Table User User.id := ⟨[⟨⟨2⟩, "bob", .auto, none, none⟩], by decide⟩
  let channel : Channel :=
    { id := ⟨1⟩, workspaceId := some ⟨1⟩, name := "board", position := 0, isPrivate := true,
      createdAt := 0 }
  initialStore (.withoutRoles members ⟨[channel], by decide⟩ overrides)
    (.plain users fun first firstMem second secondMem _ => by
      rw [List.mem_singleton.mp firstMem, List.mem_singleton.mp secondMem]) ()

/-- The owner mentions bob in a private channel bob does not see: bob gets the snippet. -/
theorem send_notifies_without_read :
    ¬∀ (World : Type) (runtime : Runtime World) (call : SendCall) (store after : Store World)
        (args : SendArgs) (message : Message) (channel : Channel) (workspaceId : WorkspaceId),
      send runtime call store args = (.ok ⟨message, false⟩, after) →
      args.workspaceId = some workspaceId →
      store.db.channels.findUnique args.channelId = some channel →
      channel.workspaceId = some workspaceId →
      ∀ row ∈ recordedRows store after, canRead store.db channel row.targetUserId = true := by
  intro readers
  let args : SendArgs :=
    { workspaceId := some ⟨1⟩, channelId := ⟨1⟩, authorId := ⟨1⟩, content := "@bob salaries" }
  let call : SendCall := { now := 2, createdAt := 2 }
  let store := boardStore .empty
  let channel : Channel :=
    { id := ⟨1⟩, workspaceId := some ⟨1⟩, name := "board", position := 0, isPrivate := true,
      createdAt := 0 }
  let message : Message :=
    { id := ⟨0⟩, channelId := ⟨1⟩, authorId := ⟨1⟩, content := "@bob salaries",
      contentPlain := "@bob salaries", mentions := { users := [⟨2⟩] }, createdAt := 2 }
  have sent : send quietRuntime call store args =
      (.ok ⟨message, false⟩, (send quietRuntime call store args).2) := Prod.ext (by decide) rfl
  have reads := readers Unit quietRuntime call store _ args message channel ⟨1⟩ sent rfl rfl rfl
  revert reads
  decide

/-- With a row that allows bob to read the channel, the same message notifies a reader. -/
theorem send_notifies_reader :
    let store := boardStore ⟨[⟨⟨1⟩, .user ⟨2⟩, .read, .none⟩], by decide⟩
    let args : SendArgs :=
      { workspaceId := some ⟨1⟩, channelId := ⟨1⟩, authorId := ⟨1⟩, content := "@bob salaries" }
    let channel : Channel :=
      { id := ⟨1⟩, workspaceId := some ⟨1⟩, name := "board", position := 0, isPrivate := true,
        createdAt := 0 }
    ∀ row ∈ recordedRows store (send quietRuntime { now := 2, createdAt := 2 } store args).2,
      canRead store.db channel row.targetUserId = true := by
  intro store args channel
  let message : Message :=
    { id := ⟨0⟩, channelId := ⟨1⟩, authorId := ⟨1⟩, content := "@bob salaries",
      contentPlain := "@bob salaries", mentions := { users := [⟨2⟩] }, createdAt := 2 }
  have sent : send quietRuntime { now := 2, createdAt := 2 } store args =
      (.ok ⟨message, false⟩, (send quietRuntime { now := 2, createdAt := 2 } store args).2) :=
    Prod.ext (by decide) rfl
  have reads : ∀ member ∈ store.db.workspaceMembers.rows, member.userId ≠ args.authorId →
      Reads store.db channel member := by decide
  exact (send_notifies_readers_iff sent rfl (show _ = some channel from rfl) rfl).mpr
    fun member present _ notified => reads member present notified.1

end Bongtalk.Messaging
