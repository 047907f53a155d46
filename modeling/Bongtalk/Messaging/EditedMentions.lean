import Bongtalk.Messages.Update
import Bongtalk.Messaging.MentionVisibility

/-!
# The mentions of an edit

An edit notifies of its mentions past gates of its own, which leave out the block, and it checks
one of the two caps of a send. Where neither makes a difference it notifies only whom a send would
notify, and stores only what a send would store.
-/

namespace Bongtalk.Messaging

open Library Common Messages Messages.Mentions Notifications List
open Prisma

variable {World : Type}

section SendGate

variable (runtime : EditRuntime World) (call : UpdateCall) (store : Store World)
variable (args : UpdateArgs)

/-- What a call of `send` looks like that is made at the time of the edit. -/
def sendCallAt (editedAt : DateTime) : SendCall where
  now := editedAt
  createdAt := editedAt

/-- A send of the new text by the editor, in the thread of the message, passes the checks on
mentions and records a row for the user. -/
def SendNotifies (parentMessageId : Option MessageId) (userId : UserId) : Prop :=
  let sendArgs := args.asSend parentMessageId
  let sendCall := sendCallAt call.editedAt
  let mentions := gatedMentions runtime.toRuntime store sendArgs
  checkMentions runtime.toRuntime store sendArgs = .ok () ∧
    ∃ row ∈ mentionRows runtime.toRuntime sendCall store sendArgs mentions
      (sendArgs.row sendCall store mentions "").message, row.targetUserId = userId

/-- The message the edit overwrites hangs in this thread. -/
def editedThread : Option MessageId :=
  (args.target store.messages).bind (·.parentMessageId)

/-- The mentions the message had before. -/
def mentionsBefore : Mentions :=
  ((args.target store.messages).map (·.mentions)).getD {}

/-- The presence an edit asks, after the services outside have judged its text. -/
def editPresence : Option Presence :=
  runtime.presence.map
    (· (runtime.enforceEdit store.world args (updatedMentions runtime store args)).2)

/-- Each row of the edit is for a user whom a send in its place notifies. -/
def ObeysSendGate : Prop :=
  let after := (MessagesService.update runtime call store args).2
  ∀ row ∈ recordedRows store after,
    SendNotifies runtime call { store with world := after.world } args (editedThread store args)
      row.targetUserId

/-- Whoever is newly mentioned, and not silenced by a mute, do-not-disturb, a thread or a level,
is in no block with the editor; and when there is such a user the text names at most fifty. -/
def NewcomersUnblocked : Prop :=
  let mentions := updatedMentions runtime store args
  let mention := args.context call.editedAt (editedThread store args)
  ∀ userId ∈ newlyMentioned store.db (editPresence runtime store args) call.presenceAgain args
      mentions (mentionsBefore store args),
    passesEditGates store.tables runtime.zoneClock mention userId
        (editKindFor mentions userId) = true →
      isBlocked store.tables mention userId = false ∧ mentions.users.length ≤ 50

end SendGate

section Refinement

variable {runtime : EditRuntime World} {call : UpdateCall} {store : Store World}
variable {args : UpdateArgs}

variable {parentMessageId : Option MessageId}

/-- Whom a send notifies, on the terms of the edit. -/
theorem sendNotifies_iff {userId : UserId} :
    SendNotifies runtime call store args parentMessageId userId ↔
      let mentions := updatedMentions runtime store args
      let mention := args.context call.editedAt parentMessageId
      let input := fanoutInput (sendCallAt call.editedAt) (args.asSend parentMessageId) mentions
        ((args.asSend parentMessageId).row (sendCallAt call.editedAt) store mentions "").message
      WithinCaps mentions ∧ userId ≠ args.actorId ∧
        ((userId ∈ mentions.users ∨
              userId ∈ input.roleRecipients store.db runtime.mentionBroadcast) ∧
            isNotifiable store.tables mention userId runtime.zoneClock .direct = true ∨
          userId ∈ resolveBroadMentionRecipients store.db
              (runtime.presence.map (· store.world)) args.workspaceId mentions ∧
            isNotifiable store.tables mention userId runtime.zoneClock .broad = true) := by
  simp only [SendNotifies, checkMentions_asSend_iff]
  refine and_congr_right fun _ => ?_
  constructor
  · rintro ⟨row, rowMem, rfl⟩
    obtain ⟨recipient, recipientMem, rfl⟩ := mem_map.mp rowMem
    exact FanoutInput.mem_recipients.mp recipientMem
  · intro notified
    exact ⟨_, mem_map_of_mem (FanoutInput.mem_recipients.mpr notified), rfl⟩

/-- These are the users of the rows a send records that creates its message. -/
theorem exists_recordedRows_send_iff {message : Message} {after : Store World}
    (sent : send runtime.toRuntime (sendCallAt call.editedAt) store (args.asSend parentMessageId) =
      (.ok ⟨message, false⟩, after)) (userId : UserId) :
    (∃ row ∈ recordedRows store after, row.targetUserId = userId) ↔
      SendNotifies runtime call { store with world := after.world } args parentMessageId
        userId := by
  obtain ⟨world, contentPlain, messages, idemCache, valid, -, -, rfl, rfl⟩ := created_of_send sent
  obtain ⟨⟨⟩, -, valid⟩ := bind_eq_ok.mp valid
  obtain ⟨⟨⟩, -, checked⟩ := bind_eq_ok.mp valid
  rw [recordedRows, Store.created, drop_left]
  exact (and_iff_right checked).symm

/-- Of the newly mentioned users past the gates of an edit, a send notifies those who are in no
block with the editor, as long as the caps hold. -/
theorem sendNotifies_iff_unblocked (store : Store World) {presenceAgain : Option Presence}
    {prevMentions : Mentions} {userId : UserId}
    (fewRoles : (updatedMentions runtime store args).roles.length ≤ maxRoleMentionsPerMsg)
    (newcomer : userId ∈ newlyMentioned store.db (runtime.presence.map (· store.world))
      presenceAgain args (updatedMentions runtime store args) prevMentions)
    (passes : passesEditGates store.tables runtime.zoneClock (args.context call.editedAt
      parentMessageId) userId (editKindFor (updatedMentions runtime store args) userId) = true) :
    SendNotifies runtime call store args parentMessageId userId ↔
      isBlocked store.tables (args.context call.editedAt parentMessageId) userId = false ∧
        (updatedMentions runtime store args).users.length ≤ 50 := by
  rw [sendNotifies_iff]
  simp only [isNotifiable_eq, Bool.and_eq_true, Bool.not_eq_true']
  constructor
  · rintro ⟨caps, -, ⟨-, free, -⟩ | ⟨-, free, -⟩⟩
    · exact ⟨free, caps.1⟩
    · exact ⟨free, caps.1⟩
  · rintro ⟨free, fewUsers⟩
    obtain ⟨⟨mentioned, other⟩, -⟩ := mem_newlyMentioned.mp newcomer
    refine ⟨⟨fewUsers, fewRoles⟩, other, ?_⟩
    by_cases named : userId ∈ (updatedMentions runtime store args).users
    · rw [editKindFor, if_pos named] at passes
      exact .inl ⟨.inl named, free, passes⟩
    · rw [editKindFor, if_neg named] at passes
      exact .inr ⟨mentioned.resolve_left named, free, passes⟩

/-- An edit that passes records a row for each newly mentioned user past its gates. -/
theorem recordedRows_update (call : UpdateCall) (passed : args.Passes runtime store) :
    let after := (MessagesService.update runtime call store args).2
    let mentions := updatedMentions runtime store args
    after.world = (runtime.enforceEdit store.world args mentions).2 ∧
      recordedRows store after =
        ((newlyMentioned store.db (editPresence runtime store args) call.presenceAgain args
          mentions (mentionsBefore store args)).filter fun userId =>
            passesEditGates store.tables runtime.zoneClock
              (args.context call.editedAt (editedThread store args)) userId
              (editKindFor mentions userId)).map (editRow args mentions call.editedAt) := by
  intro after mentions
  obtain ⟨refused, -⟩ | ⟨-, contentPlain, world, stored, isWorld, found, updated⟩ :=
    update_cases runtime call store args
  · exact absurd passed refused
  · have isAfter : after = Store.updated runtime call { store with world := world } args mentions
        contentPlain stored := congrArg Prod.snd updated
    refine ⟨by rw [isAfter, isWorld]; rfl, ?_⟩
    rw [recordedRows, isAfter, Store.updated, drop_left, editRecipients]
    simp only [editPresence, mentionsBefore, editedThread, found, Option.map_some,
      Option.getD_some, Option.bind_some, isWorld]

/-- A refused edit records nothing. -/
theorem recordedRows_refused (call : UpdateCall) (refused : ¬args.Passes runtime store) :
    recordedRows store (MessagesService.update runtime call store args).2 = [] := by
  obtain ⟨-, failure, world, updated⟩ | ⟨passed, -⟩ := update_cases runtime call store args
  · rw [updated, recordedRows, drop_length]
  · exact absurd passed refused

end Refinement

/-- An edit obeys the gate of a send exactly when, if it passes its checks, the users it newly
mentions and does not silence are in no block with the editor and the text names at most fifty. -/
theorem edit_obeys_send_gate_iff (runtime : EditRuntime World) (call : UpdateCall)
    (store : Store World) (args : UpdateArgs) :
    ObeysSendGate runtime call store args ↔
      (args.Passes runtime store → NewcomersUnblocked runtime call store args) := by
  by_cases passed : args.Passes runtime store
  · obtain ⟨isWorld, recorded⟩ := recordedRows_update call passed
    simp only [ObeysSendGate, recorded, isWorld, forall_mem_map, mem_filter, and_imp,
      passed, forall_const, NewcomersUnblocked]
    refine forall₃_congr fun userId newcomer passes => ?_
    exact sendNotifies_iff_unblocked { store with
      world := (runtime.enforceEdit store.world args (updatedMentions runtime store args)).2 }
      passed.fewRoles newcomer passes
  · refine iff_of_true ?_ fun passes => absurd passes passed
    intro row rowMem
    have empty := recordedRows_refused call passed
    exact absurd (empty ▸ rowMem) (not_mem_nil)

/-- Services that let every text pass. -/
def quietEdits : EditRuntime Unit where
  toRuntime := quietRuntime
  enforceEdit := fun world args _ => (.ok args.content, world)

/-- The board with a message of its owner, whom bob has blocked. -/
def blockedBoard : Store Unit :=
  let board := boardStore .empty
  { board with
    tables := { board.tables with friendships := ⟨[⟨⟨2⟩, ⟨1⟩, .blocked⟩], nodup_singleton _⟩ }
    messages := .single { id := ⟨0⟩, channelId := ⟨1⟩, authorId := ⟨1⟩, content := "salaries"
                          createdAt := 1 } rfl
    nextMessageId := 1 }

/-- The owner names bob in an edit: bob hears of it, as of no send. -/
theorem edit_notifies_past_block :
    ¬∀ (World : Type) (runtime : EditRuntime World) (call : UpdateCall) (store : Store World)
      (args : UpdateArgs), ObeysSendGate runtime call store args := by
  intro always
  let args : UpdateArgs :=
    { workspaceId := some ⟨1⟩, channelId := ⟨1⟩, msgId := ⟨0⟩, actorId := ⟨1⟩
      content := "@bob salaries", expectedVersion := 0 }
  have obeys := always Unit quietEdits ⟨2, ⟨1⟩, none⟩ blockedBoard args
  revert obeys
  unfold ObeysSendGate SendNotifies
  decide

section Caps

variable (runtime : EditRuntime World)

/-- A call that writes mentions, or one that changes whom a text can mention. -/
inductive MessageCall where
  | send (call : SendCall) (args : SendArgs)
  | update (call : UpdateCall) (args : UpdateArgs)
  | elsewhere (db : Database) (tables : NotificationTables)

def MessageCall.after (store : Store World) : MessageCall → Store World
  | .send call args => (Messages.send runtime.toRuntime call store args).2
  | .update call args => (MessagesService.update runtime call store args).2
  | .elsewhere db tables => { store with db := db, tables := tables }

def MessageStep (store : Store World) (call : MessageCall) (next : Store World) : Prop :=
  next = call.after runtime store

/-- Mentions of at most fifty users and ten roles. -/
def Capped (mentions : Mentions) : Prop :=
  mentions.users.toFinset.card ≤ 50 ∧ mentions.roles.toFinset.card ≤ maxRoleMentionsPerMsg

/-- Every stored message keeps to the caps. -/
def MentionsCapped (messages : MessageTable) : Prop :=
  ∀ message ∈ messages, Capped message.mentions

/-- An edit that passes its checks names at most fifty users. -/
def NamesFewUsers (store : Store World) : MessageCall → Prop
  | .update _ args =>
    args.Passes runtime store → (updatedMentions runtime store args).users.length ≤ 50
  | _ => True

variable {runtime} {store : Store World}

theorem capped_of_withinCaps {mentions : Mentions} (caps : WithinCaps mentions) :
    Capped mentions :=
  ⟨(toFinset_card_le _).trans caps.1, (toFinset_card_le _).trans caps.2⟩

/-- A write of one row within the caps keeps them. -/
theorem mentionsCapped_updateOne {messages : MessageTable} {id : MessageId}
    {change : Message → Message} (keeps : ∀ message, (change message).identity = message.identity)
    (within : ∀ message ∈ messages, message.id = id → Capped (change message).mentions)
    (capped : MentionsCapped messages) : MentionsCapped (messages.updateOne id change keeps) := by
  intro message present
  obtain ⟨old, oldMem, rfl⟩ := MessageTable.mem_rewrite.mp present
  split
  next same => exact within old oldMem same
  next => exact capped old oldMem

theorem mentionsCapped_sendMessage {messages next : MessageTable} {row : SendRow}
    (caps : Capped row.mentions) (sent : sendMessage messages row = .ok next)
    (capped : MentionsCapped messages) : MentionsCapped next := by
  refine sendMessage_writes (fun before after => MentionsCapped before → MentionsCapped after)
    ?_ ?_ ?_ sent capped
  · exact fun first second start => second (first start)
  · intro before after new created isNew start message present
    have rows := (MessageTable.create_eq_ok_iff.mp created).2.2.2
    rw [MessageTable.mem_def, Table.mem_def, rows] at present
    rcases mem_cons.mp present with rfl | old
    · rcases isNew with rfl | ⟨parentId, id, rfl⟩
      · exact caps
      · exact ⟨Nat.zero_le _, Nat.zero_le _⟩
    · exact start message old
  · intro before parentId start
    refine mentionsCapped_updateOne (identity_addReply row.createdAt) (fun root present _ => ?_)
      start
    have sameMentions : (root.addReply row.createdAt).mentions = root.mentions := by
      unfold Message.addReply
      split <;> rfl
    rw [sameMentions]
    exact start root present

/-- A send keeps to the caps. -/
theorem mentionsCapped_send (call : SendCall) (args : SendArgs)
    (capped : MentionsCapped store.messages) :
    MentionsCapped (Messages.send runtime.toRuntime call store args).2.messages := by
  have outcome := send_outcome runtime.toRuntime call store args
  generalize Messages.send runtime.toRuntime call store args = answered at outcome ⊢
  cases outcome with
  | refused | cached => exact capped
  | @replayed world _ existing _ _ _ _ =>
    obtain ⟨idemCache, written, -⟩ :=
      writeIdemCache_eq call { store with world := world } args existing.id
    rw [written]
    exact capped
  | @created world contentPlain messages _ valid _ sent =>
    obtain ⟨idemCache, written, -⟩ := writeIdemCache_eq call
      (Store.created runtime.toRuntime call { store with world := world } args
        (gatedMentions runtime.toRuntime store args)
        (args.row call store (gatedMentions runtime.toRuntime store args) contentPlain).message
        messages) args ⟨store.nextMessageId⟩
    obtain ⟨⟨⟩, -, valid⟩ := bind_eq_ok.mp valid
    obtain ⟨⟨⟩, parentValid, checked⟩ := bind_eq_ok.mp valid
    rw [written]
    have sentOnce : sendMessage store.messages (args.row call store
        (gatedMentions runtime.toRuntime store args) contentPlain) = .ok messages :=
      bind_eq_ok.mpr ⟨(), parentValid, sent⟩
    exact mentionsCapped_sendMessage (capped_of_withinCaps (withinCaps_of_checkMentions checked))
      sentOnce capped

/-- An edit does exactly when it names few users. -/
theorem mentionsCapped_update_iff (call : UpdateCall) (args : UpdateArgs)
    (capped : MentionsCapped store.messages) :
    MentionsCapped (MessagesService.update runtime call store args).2.messages ↔
      NamesFewUsers runtime store (.update call args) := by
  obtain ⟨refused, failure, world, updated⟩ | ⟨passed, contentPlain, world, stored, -, found,
    updated⟩ := update_cases runtime call store args
  · rw [updated]
    exact iff_of_true capped fun passes => absurd passes refused
  · have distinct := nodup_users_gatedMentions runtime.toRuntime store (args.asSend none)
    have users : (updatedMentions runtime store args).users.toFinset.card =
      (updatedMentions runtime store args).users.length := toFinset_card_of_nodup distinct
    rw [updated, NamesFewUsers, ← users]
    constructor
    · intro kept _
      obtain ⟨inChannel, -⟩ := Option.filter_eq_some_iff.mp found
      obtain ⟨present, sameId⟩ := MessageTable.findUnique_eq_some_iff.mp
        (Option.filter_eq_some_iff.mp inChannel).1
      have written : stored.edit args.content contentPlain (updatedMentions runtime store args)
          call.editedAt ∈ store.messages.updateOne args.msgId (Message.edit · args.content
            contentPlain (updatedMentions runtime store args) call.editedAt) fun _ => rfl :=
        mem_map.mpr ⟨stored, present, if_pos sameId⟩
      exact (kept _ written).1
    · intro few
      refine mentionsCapped_updateOne ?_ ?_ capped
      · exact fun _ => rfl
      · exact fun _ _ _ => ⟨few passed, (toFinset_card_le _).trans passed.fewRoles⟩

/-- What other calls change of the rest makes no difference. -/
theorem mentionsCapped_step_iff {next : Store World} {call : MessageCall}
    (step : MessageStep runtime store call next) (capped : MentionsCapped store.messages) :
    MentionsCapped next.messages ↔ NamesFewUsers runtime store call := by
  obtain rfl := step
  cases call with
  | send call args => exact iff_of_true (mentionsCapped_send call args capped) trivial
  | update call args => exact mentionsCapped_update_iff call args capped
  | elsewhere db tables => exact iff_of_true capped trivial

end Caps

/-- Over any run of sends and edits the stored messages keep to the caps throughout exactly when
each edit that passes its checks names at most fifty users. -/
theorem mention_caps_iff (runtime : EditRuntime World) {start finish : Store World}
    {calls : List MessageCall} (capped : MentionsCapped start.messages) :
    Steps (Lawful (MessageStep runtime) fun store => MentionsCapped store.messages) start calls
        finish ↔
      Steps (Guarded (MessageStep runtime) (NamesFewUsers runtime)) start calls finish := by
  refine Steps.lawful_iff_guarded (fun _ => True) ?_ ?_ trivial capped
  · exact fun _ _ => trivial
  · exact fun step _ lawful => mentionsCapped_step_iff step lawful

/-- The owner names bob in an edit. -/
def namesBob : MessageCall :=
  .update ⟨2, ⟨1⟩, none⟩
    { workspaceId := some ⟨1⟩, channelId := ⟨1⟩, msgId := ⟨0⟩, actorId := ⟨1⟩
      content := "@bob salaries", expectedVersion := 0 }

/-- An edit that names one user keeps to the caps. -/
theorem board_keeps_caps : ∃ finish,
    Steps (Lawful (MessageStep quietEdits) fun store => MentionsCapped store.messages) blockedBoard
      [namesBob] finish := by
  refine ⟨_, (mention_caps_iff quietEdits ?_).mpr (.step .refl ⟨rfl, fun _ => ?_⟩)⟩
  · intro message present
    rw [Table.mem_single.mp present]
    exact ⟨Nat.zero_le _, Nat.zero_le _⟩
  · decide

/-- A name of two letters. -/
def memberName (index : Nat) : List Char :=
  [Char.ofNat (97 + index / 26), Char.ofNat (97 + index % 26)]

def crowdUser (index : Nat) : User :=
  ⟨⟨index⟩, String.ofList (memberName index), .auto, none, none⟩

/-- A channel of fifty-one members with a message. -/
def crowdStore : Store Unit :=
  let members : WorkspaceMemberTable :=
    ⟨(List.range 51).map fun index => ⟨⟨1⟩, ⟨index⟩, .member⟩, by decide +kernel⟩
  let users : Table User User.id := ⟨(List.range 51).map crowdUser, by decide +kernel⟩
  let tables : NotificationTables := .plain users (by
    change ∀ first ∈ (List.range 51).map crowdUser, ∀ second ∈ (List.range 51).map crowdUser,
      first.username = second.username → first = second
    decide +kernel)
  { initialStore (.withoutRoles members .empty .empty) tables () with
    messages := .single { id := ⟨0⟩, channelId := ⟨1⟩, authorId := ⟨0⟩, content := "hello"
                          createdAt := 1 } rfl
    nextMessageId := 1 }

/-- The edit that names everybody. -/
def namesCrowd : UpdateArgs where
  workspaceId := some ⟨1⟩
  channelId := ⟨1⟩
  msgId := ⟨0⟩
  actorId := ⟨0⟩
  content := String.ofList ((List.range 51).flatMap fun index => '@' :: memberName index ++ [' '])
  expectedVersion := 0

/-- An edit stores more mentions than any send may. -/
theorem edit_past_cap :
    ¬∀ (World : Type) (runtime : EditRuntime World) (start finish : Store World)
      (calls : List MessageCall), MentionsCapped start.messages →
        Steps (MessageStep runtime) start calls finish → MentionsCapped finish.messages := by
  intro always
  have capped : MentionsCapped crowdStore.messages := by
    intro message present
    rw [Table.mem_single.mp present]
    exact ⟨Nat.zero_le _, Nat.zero_le _⟩
  let call : MessageCall := .update ⟨2, ⟨1⟩, none⟩ namesCrowd
  have stepped : MessageStep quietEdits crowdStore call (call.after quietEdits crowdStore) :=
    Eq.refl _
  have kept := always Unit quietEdits crowdStore _ [call] capped (Steps.singleton_iff.mpr stepped)
  have few : NamesFewUsers quietEdits crowdStore call :=
    (mentionsCapped_step_iff stepped capped).mp kept
  have many : (updatedMentions quietEdits crowdStore namesCrowd).users.length = 51 := by
    decide +kernel
  have passes : namesCrowd.Passes quietEdits crowdStore :=
    { fewRoles := by decide +kernel
      enforced := ⟨_, rfl⟩
      confirmed := by decide +kernel
      found := by decide +kernel }
  exact absurd (few passes) (by rw [many]; decide)

end Bongtalk.Messaging
