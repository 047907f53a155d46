import Bongtalk.Messages.Edits
import Bongtalk.Messages.Send

/-!
# Editing a message

An edit extracts and gates the mentions of its text as a send does, and writes them with the text
in one transaction. The transaction also notifies the users that the edit adds to the mentions,
after gates of its own.
-/

namespace Bongtalk.Messages

open Common Messages.Mentions Notifications Prisma

structure UpdateArgs where
  workspaceId : Option WorkspaceId
  channelId : ChannelId
  msgId : MessageId
  actorId : UserId
  content : String
  expectedVersion : Nat
  hasMentionEveryone : Bool := false
  hasMentionChannel : Bool := false
  bulkMentionConfirmed : Bool := false
  actorRole : Option WorkspaceRole := none
  actorMemberRoleUuids : Option (List RoleId) := none
deriving DecidableEq, Repr

/-- What differs from call to call: the clock, the id of the new history row, and what presence
answers when the old mentions are resolved again. -/
structure UpdateCall where
  editedAt : DateTime
  historyId : EditHistoryId
  presenceAgain : Option Presence

/-- What an edit runs on: what a send does, with other rules for the text. -/
structure EditRuntime (World : Type) extends Runtime World where
  /-- The parser with its size limits and the moderation rules, which count no edit as spam. -/
  enforceEdit : World → UpdateArgs → Mentions → Except Failure String × World

namespace UpdateArgs

variable (args : UpdateArgs)

/-- The new text as a send of the editor, confirmed and without a hint of the client. -/
def asSend (parentMessageId : Option MessageId) : SendArgs where
  workspaceId := args.workspaceId
  channelId := args.channelId
  authorId := args.actorId
  content := args.content
  parentMessageId := parentMessageId
  hasMentionEveryone := args.hasMentionEveryone
  hasMentionChannel := args.hasMentionChannel
  bulkMentionConfirmed := true
  actorRole := args.actorRole
  actorMemberRoleUuids := args.actorMemberRoleUuids

/-- The mention the gates of an edit are asked about. -/
def context (editedAt : DateTime) (parentMessageId : Option MessageId) : MentionContext where
  channelId := args.channelId
  workspaceId := args.workspaceId
  authorId := args.actorId
  parentMessageId := parentMessageId
  now := editedAt

def edit (call : UpdateCall) (mentions : Mentions) (contentPlain : String) : EditArgs where
  channelId := args.channelId
  msgId := args.msgId
  expectedVersion := args.expectedVersion
  content := args.content
  contentPlain := contentPlain
  mentions := mentions
  editedAt := call.editedAt
  historyId := call.historyId

/-- The row of the message in its channel. -/
def before (messages : MessageTable) : Option Message :=
  (messages.findUnique args.msgId).filter (·.channelId == args.channelId)

/-- The row the edit overwrites: live and at the expected version. -/
def target (messages : MessageTable) : Option Message :=
  (args.before messages).filter fun message =>
    message.deletedAt == none && message.version == args.expectedVersion

end UpdateArgs

section Fanout

variable (db : Database) (presence presenceAgain : Option Presence) (tables : NotificationTables)
variable (zoneClock : ZoneClock) (args : UpdateArgs) (mentions : Mentions)

/-- Whom the edit adds to the mentioned users; `dedupedMentionUserIds`. The old mentions are
resolved as of now. -/
def newlyMentioned (prevMentions : Mentions) : List UserId :=
  let candidates := (mentions.users ++
    resolveBroadMentionRecipients db presence args.workspaceId mentions).filter (· ≠ args.actorId)
  let previouslyNotified := prevMentions.users ++
    resolveBroadMentionRecipients db presenceAgain args.workspaceId prevMentions
  (candidates.filter fun userId => !previouslyNotified.contains userId).eraseDups

/-- An edit counts the users it names as mentioned directly. -/
def editKindFor (userId : UserId) : MentionKind :=
  if userId ∈ mentions.users then .direct else .broad

/-- The gates of an edit: mutes, do-not-disturb, thread subscriptions and levels. -/
def passesEditGates (mention : MentionContext) (userId : UserId) (kind : MentionKind) : Bool :=
  !isMuted tables mention userId && !isDnd tables mention userId zoneClock &&
    !isThreadOff tables mention userId &&
    shouldNotifyMention
      (inputsFor tables mention.channelId mention.workspaceId mention.now userId) kind

/-- Whom an edit of a message notifies. -/
def editRecipients (editedAt : DateTime) (stored : Message) : List UserId :=
  (newlyMentioned db presence presenceAgain args mentions stored.mentions).filter fun userId =>
    passesEditGates tables zoneClock (args.context editedAt stored.parentMessageId) userId
      (editKindFor mentions userId)

/-- The row a recipient of an edit gets, dated by the edit. -/
def editRow (editedAt : DateTime) (userId : UserId) : MentionReceived where
  targetUserId := userId
  workspaceId := args.workspaceId
  channelId := args.channelId
  messageId := args.msgId
  actorId := args.actorId
  snippet := buildSnippet args.content
  createdAt := editedAt
  everyone := mentions.everyone
  here := mentions.here
  role := false

end Fanout

section Update

variable {World : Type} (runtime : EditRuntime World) (call : UpdateCall) (store : Store World)
variable (args : UpdateArgs)

/-- The mentions of the new text, extracted and gated as in a send. -/
def updatedMentions : Mentions :=
  gatedMentions runtime.toRuntime store (args.asSend none)

/-- Refuse a scope mention the message did not have, unconfirmed, in a large workspace. -/
def checkAddedBroad : Except Failure Unit :=
  let broad := broadGated store (args.asSend none)
  match args.workspaceId with
  | some workspaceId =>
    if (broad.everyone || broad.here || broad.channel) && !args.bulkMentionConfirmed then
      let previous := ((args.before store.messages).map (·.mentions)).getD {}
      let added := { broad with
        everyone := broad.everyone && !previous.everyone
        here := broad.here && !previous.here
        channel := broad.channel && !previous.channel }
      if added.everyone || added.here || added.channel then
        enforceBulkMentionThreshold store.db workspaceId added
      else .ok ()
    else .ok ()
  | none => .ok ()

/-- The checks before the transaction; they return the plain form of the text. -/
def prepareUpdate : Except Failure String × World :=
  let mentions := updatedMentions runtime store args
  if maxRoleMentionsPerMsg < mentions.roles.length then
    (failWith .messageContentInvalid "message mentions too many roles (max 10)", store.world)
  else
    match runtime.enforceEdit store.world args mentions with
    | (.error failure, world) => (.error failure, world)
    | (.ok contentPlain, world) => ((checkAddedBroad store args).map fun _ => contentPlain, world)

/-- The store after the transaction of an edit. -/
def Store.updated (mentions : Mentions) (contentPlain : String) (stored : Message) : Store World :=
  { store with
    messages := store.messages.updateOne args.msgId
      (Message.edit · args.content contentPlain mentions call.editedAt) fun _ => rfl
    outbox := store.outbox ++
      (editRecipients store.db (runtime.presence.map (· store.world)) call.presenceAgain
        store.tables runtime.zoneClock args mentions call.editedAt stored).map
          (editRow args mentions call.editedAt) }

/-- `MessagesService.update`: the answer and the store afterwards. -/
def MessagesService.update : Except Failure Message × Store World :=
  let mentions := updatedMentions runtime store args
  match prepareUpdate runtime store args with
  | (.error failure, world) => (.error failure, { store with world := world })
  | (.ok contentPlain, world) =>
    let store := { store with world := world }
    match compareAndSet store.messages (args.edit call mentions contentPlain)
        (args.before store.messages) with
    | .error failure => (.error failure, store)
    | .ok stored =>
      (.ok (stored.edit args.content contentPlain mentions call.editedAt),
        store.updated runtime call args mentions contentPlain stored)

/-- The edit passes its checks and finds its row. -/
structure UpdateArgs.Passes : Prop where
  fewRoles : (updatedMentions runtime store args).roles.length ≤ maxRoleMentionsPerMsg
  enforced : ∃ contentPlain,
    (runtime.enforceEdit store.world args (updatedMentions runtime store args)).1 = .ok contentPlain
  confirmed : checkAddedBroad store args = .ok ()
  found : (args.target store.messages).isSome = true

end Update

section Specs

variable {World : Type} {runtime : EditRuntime World} {call : UpdateCall} {store : Store World}
variable {args : UpdateArgs}

/-- The gates of a send are the block and the gates of an edit. -/
theorem isNotifiable_eq (tables : NotificationTables) (zoneClock : ZoneClock)
    (mention : MentionContext) (userId : UserId) (kind : MentionKind) :
    isNotifiable tables mention userId zoneClock kind =
      (!isBlocked tables mention userId &&
        passesEditGates tables zoneClock mention userId kind) := by
  simp only [isNotifiable, passesEditGates, Bool.and_assoc]

theorem mem_newlyMentioned {db : Database} {presence presenceAgain : Option Presence}
    {mentions prevMentions : Mentions} {userId : UserId} :
    userId ∈ newlyMentioned db presence presenceAgain args mentions prevMentions ↔
      ((userId ∈ mentions.users ∨
          userId ∈ resolveBroadMentionRecipients db presence args.workspaceId mentions) ∧
        userId ≠ args.actorId) ∧
      ¬(userId ∈ prevMentions.users ∨
        userId ∈ resolveBroadMentionRecipients db presenceAgain args.workspaceId prevMentions) := by
  simp only [newlyMentioned, List.mem_eraseDups, List.mem_filter, List.mem_append,
    decide_eq_true_eq, Bool.not_eq_true', List.contains_eq_mem, decide_eq_false_iff_not]

/-- The compare-and-set finds the row of the edit. -/
theorem compareAndSet_eq_ok_iff {messages : MessageTable} {mentions : Mentions}
    {contentPlain : String} {read : Option Message} {stored : Message} :
    compareAndSet messages (args.edit call mentions contentPlain) read = .ok stored ↔
      args.target messages = some stored := by
  unfold compareAndSet
  split
  next row found =>
    have sameRow : args.target messages = some row := found
    simp [sameRow]
  next missing =>
    have noRow : args.target messages = none := missing
    refine iff_of_false ?_ (by simp [noRow])
    split
    · exact failWith_ne_ok
    split
    · exact failWith_ne_ok
    · exact failWith_ne_ok

/-- What an edit can do: refuse, or overwrite its row. -/
theorem update_cases (runtime : EditRuntime World) (call : UpdateCall) (store : Store World)
    (args : UpdateArgs) :
    let mentions := updatedMentions runtime store args
    (¬args.Passes runtime store ∧ ∃ failure world,
        MessagesService.update runtime call store args =
          (.error failure, { store with world := world })) ∨
      args.Passes runtime store ∧ ∃ contentPlain world stored,
        (runtime.enforceEdit store.world args mentions).2 = world ∧
        args.target store.messages = some stored ∧
        MessagesService.update runtime call store args =
          (.ok (stored.edit args.content contentPlain mentions call.editedAt),
            Store.updated runtime call { store with world := world } args mentions contentPlain
              stored) := by
  intro mentions
  unfold MessagesService.update prepareUpdate
  dsimp only
  split
  next failure world refused =>
    refine .inl ⟨fun passes => ?_, failure, world, rfl⟩
    obtain ⟨contentPlain, enforced⟩ := passes.enforced
    rw [if_neg (Nat.not_lt.mpr passes.fewRoles)] at refused
    split at refused
    next enforcedError => simp [enforcedError] at enforced
    next => simp [passes.confirmed, Except.map] at refused
  next contentPlain world prepared =>
    have fewRoles : mentions.roles.length ≤ maxRoleMentionsPerMsg := by
      by_contra many
      rw [if_pos (Nat.lt_of_not_le many)] at prepared
      exact failWith_ne_ok (congrArg Prod.fst prepared)
    rw [if_neg (Nat.not_lt.mpr fewRoles)] at prepared
    split at prepared
    next => simp at prepared
    next plain after enforced =>
      obtain ⟨checked, rfl⟩ := Prod.mk.inj prepared
      obtain ⟨⟨⟩, confirmed, rfl⟩ := map_eq_ok checked
      split
      next failure missing =>
        refine .inl ⟨fun passes => ?_, failure, after, rfl⟩
        obtain ⟨stored, found⟩ := Option.isSome_iff_exists.mp passes.found
        rw [compareAndSet_eq_ok_iff.mpr found] at missing
        cases missing
      next stored matched =>
        have found := compareAndSet_eq_ok_iff.mp matched
        refine .inr ⟨⟨fewRoles, ⟨plain, congrArg Prod.fst enforced⟩, confirmed, ?_⟩, plain, after,
          stored, congrArg Prod.snd enforced, found, rfl⟩
        rw [found, Option.isSome_some]

/-- A text never mentions a user twice. -/
theorem nodup_users_gatedMentions (runtime : Runtime World) (store : Store World)
    (args : SendArgs) : (gatedMentions runtime store args).users.Nodup := by
  have extracted : (gatedMentions runtime store args).users =
      (extractMentions store.db store.tables args.workspaceId args.content.toList).users := by
    simp only [gatedMentions, gateRoleMention, broadGated, gateEveryoneMention_eq,
      gateHereMention_eq, gateChannelMention_eq]
  rw [extracted]
  unfold extractMentions
  split
  · exact List.nodup_nil
  · exact store.tables.users.keysNodup.sublist (List.filter_sublist.map _)

/-- A message may mention fifty users and ten roles. -/
def WithinCaps (mentions : Mentions) : Prop :=
  mentions.users.length ≤ 50 ∧ mentions.roles.length ≤ maxRoleMentionsPerMsg

/-- The two caps end the checks of a send on its mentions. -/
theorem checkCaps_eq_ok_iff {mentions : Mentions} :
    (if 50 < mentions.users.length then
        failWith .messageContentInvalid "message mentions too many users (max 50)"
      else if maxRoleMentionsPerMsg < mentions.roles.length then
        failWith .messageContentInvalid "message mentions too many roles (max 10)"
      else (.ok () : Except Failure Unit)) = .ok () ↔ WithinCaps mentions := by
  split
  next many => exact iff_of_false failWith_ne_ok fun caps => absurd caps.1 (Nat.not_le.mpr many)
  next fewUsers =>
    split
    next many => exact iff_of_false failWith_ne_ok fun caps => absurd caps.2 (Nat.not_le.mpr many)
    next fewRoles => exact iff_of_true rfl ⟨Nat.le_of_not_lt fewUsers, Nat.le_of_not_lt fewRoles⟩

theorem withinCaps_of_checkMentions {runtime : Runtime World} {args : SendArgs}
    (checked : checkMentions runtime store args = .ok ()) :
    WithinCaps (gatedMentions runtime store args) := by
  unfold checkMentions at checked
  dsimp only at checked
  split at checked
  · split at checked
    · obtain ⟨⟨⟩, -, checked⟩ := bind_eq_ok.mp checked
      exact checkCaps_eq_ok_iff.mp checked
    · exact checkCaps_eq_ok_iff.mp checked
  · exact checkCaps_eq_ok_iff.mp checked

/-- Of a confirmed send they are all there is. -/
theorem checkMentions_asSend_iff {runtime : Runtime World} {parentMessageId : Option MessageId} :
    checkMentions runtime store (args.asSend parentMessageId) = .ok () ↔
      WithinCaps (gatedMentions runtime store (args.asSend none)) := by
  refine ⟨withinCaps_of_checkMentions, fun caps => ?_⟩
  unfold checkMentions
  dsimp only
  split
  · rw [if_neg (by simp [UpdateArgs.asSend])]
    exact checkCaps_eq_ok_iff.mpr caps
  · exact checkCaps_eq_ok_iff.mpr caps

end Specs

end Bongtalk.Messages
