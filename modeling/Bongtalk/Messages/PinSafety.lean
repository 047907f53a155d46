import Bongtalk.Messages.Pins

/-!
# Safety of pins

A pin reads that its message is live before it counts and writes. The lock keeps other pins
of the channel out until it commits, but no delete.
-/

namespace Bongtalk.Messages

open Library EventLoop Common Prisma MessageTable List

variable {messages next : MessageTable} {channelId : ChannelId}

/-- The pinned messages of a channel, deleted or not. -/
def pins (messages : MessageTable) (channelId : ChannelId) : Nat :=
  messages.table.rows.countP fun message =>
    message.channelId == channelId && message.pinnedAt.isSome

structure PinSafe (messages : MessageTable) : Prop where
  live : ∀ message ∈ messages, message.pinnedAt ≠ none → message.deletedAt = none
  noSystem : ∀ message ∈ messages, message.pinnedAt ≠ none → message.type.isSystem = false
  capped : ∀ channelId, pins messages channelId ≤ hardPinCap

theorem livePins_eq_pins
    (live : ∀ message ∈ messages, message.pinnedAt ≠ none → message.deletedAt = none) :
    livePins messages channelId = pins messages channelId := by
  apply countP_congr
  intro message present
  by_cases pinned : message.pinnedAt = none
  · simp [pinned]
  · simp [live message present pinned]

/-- Every row stays in its channel and keeps its type. -/
def Persist (messages next : MessageTable) : Prop :=
  ∀ message ∈ messages, ∃ later ∈ next, later.id = message.id ∧
    later.channelId = message.channelId ∧ later.type = message.type

/-- A write that pins nothing: what is pinned after it was pinned before, in the same state of
deletion. -/
structure Calm (messages next : MessageTable) : Prop where
  persist : Persist messages next
  pinned : ∀ message ∈ next, message.pinnedAt ≠ none → ∃ old ∈ messages,
    old.pinnedAt ≠ none ∧ old.type = message.type ∧ old.deletedAt = message.deletedAt
  fewerPins : ∀ channelId, pins next channelId ≤ pins messages channelId
  fewerLive : ∀ channelId, livePins next channelId ≤ livePins messages channelId

theorem Persist.trans {last : MessageTable} (first : Persist messages next)
    (second : Persist next last) : Persist messages last := by
  intro message present
  obtain ⟨middle, middleMem, sameId, sameChannel, sameType⟩ := first message present
  obtain ⟨later, laterMem, id, channel, type⟩ := second middle middleMem
  exact ⟨later, laterMem, id.trans sameId, channel.trans sameChannel, type.trans sameType⟩

theorem Calm.refl (messages : MessageTable) : Calm messages messages where
  persist := fun message present => ⟨message, present, rfl, rfl, rfl⟩
  pinned := fun message present isPinned => ⟨message, present, isPinned, rfl, rfl⟩
  fewerPins := fun _ => le_refl _
  fewerLive := fun _ => le_refl _

theorem Calm.trans {last : MessageTable} (first : Calm messages next) (second : Calm next last) :
    Calm messages last where
  persist := first.persist.trans second.persist
  pinned := by
    intro message present isPinned
    obtain ⟨middle, middleMem, middlePinned, sameType, sameDeleted⟩ :=
      second.pinned message present isPinned
    obtain ⟨old, oldMem, oldPinned, type, deleted⟩ := first.pinned middle middleMem middlePinned
    exact ⟨old, oldMem, oldPinned, type.trans sameType, deleted.trans sameDeleted⟩
  fewerPins := fun channelId => (second.fewerPins channelId).trans (first.fewerPins channelId)
  fewerLive := fun channelId => (second.fewerLive channelId).trans (first.fewerLive channelId)

/-- A calm write keeps pins safe. -/
theorem Calm.pinSafe (calm : Calm messages next) (safe : PinSafe messages) : PinSafe next where
  live := by
    intro message present isPinned
    obtain ⟨old, oldMem, oldPinned, -, deleted⟩ := calm.pinned message present isPinned
    rw [← deleted]
    exact safe.live old oldMem oldPinned
  noSystem := by
    intro message present isPinned
    obtain ⟨old, oldMem, oldPinned, type, -⟩ := calm.pinned message present isPinned
    rw [← type]
    exact safe.noSystem old oldMem oldPinned
  capped := fun channelId => (calm.fewerPins channelId).trans (safe.capped channelId)

theorem persist_rewrite {change : Message → Message}
    {keeps : ∀ message, (change message).identity = message.identity}
    (stays : ∀ message, (change message).channelId = message.channelId ∧
      (change message).type = message.type) : Persist messages (messages.rewrite change keeps) := by
  intro message present
  exact ⟨change message, mem_rewrite.mpr ⟨message, present, rfl⟩,
    congrArg Prod.fst (keeps message), (stays message).1, (stays message).2⟩

theorem persist_create {row : Message} (created : messages.create row = .ok next) :
    Persist messages next :=
  fun message present => ⟨message, (mem_create created).mpr (.inr present), rfl, rfl, rfl⟩

/-- A rewrite is calm if it moves no row, and a row it leaves pinned was pinned and keeps its
state of deletion. -/
theorem calm_rewrite {change : Message → Message}
    {keeps : ∀ message, (change message).identity = message.identity}
    (stays : ∀ message, (change message).channelId = message.channelId ∧
      (change message).type = message.type)
    (unpins : ∀ message, (change message).pinnedAt ≠ none →
      message.pinnedAt ≠ none ∧ message.deletedAt = (change message).deletedAt) :
    Calm messages (messages.rewrite change keeps) where
  persist := persist_rewrite stays
  pinned := by
    intro row rowMem isPinned
    obtain ⟨message, present, rfl⟩ := mem_rewrite.mp rowMem
    obtain ⟨wasPinned, sameDeleted⟩ := unpins message isPinned
    exact ⟨message, present, wasPinned, (stays message).2.symm, sameDeleted⟩
  fewerPins := by
    intro channelId
    change (messages.table.rows.map change).countP _ ≤ _
    rw [countP_map]
    apply countP_mono_left
    intro message _ counted
    simp only [Function.comp_apply, (stays message).1, Bool.and_eq_true,
      Option.isSome_iff_ne_none] at counted ⊢
    exact ⟨counted.1, (unpins message counted.2).1⟩
  fewerLive := by
    intro channelId
    change (messages.table.rows.map change).countP _ ≤ _
    rw [countP_map]
    apply countP_mono_left
    intro message _ counted
    simp only [Function.comp_apply, (stays message).1, Bool.and_eq_true,
      Option.isSome_iff_ne_none] at counted ⊢
    obtain ⟨wasPinned, sameDeleted⟩ := unpins message counted.1.2
    rw [sameDeleted]
    exact ⟨⟨counted.1.1, wasPinned⟩, counted.2⟩

theorem calm_updateOne {id : MessageId} {change : Message → Message}
    {keeps : ∀ message, (change message).identity = message.identity}
    (stays : ∀ message, (change message).channelId = message.channelId ∧
      (change message).type = message.type)
    (unpins : ∀ message, (change message).pinnedAt ≠ none →
      message.pinnedAt ≠ none ∧ message.deletedAt = (change message).deletedAt) :
    Calm messages (messages.updateOne id change keeps) := by
  apply calm_rewrite
  · intro message
    split
    · exact stays message
    · exact ⟨rfl, rfl⟩
  · intro message isPinned
    split at isPinned
    next target => simpa only [if_pos target] using unpins message isPinned
    next other => simpa only [if_neg other, and_true] using isPinned

theorem calm_create {row : Message} (created : messages.create row = .ok next)
    (unpinned : row.pinnedAt = none) : Calm messages next where
  persist := persist_create created
  pinned := by
    intro message present isPinned
    rcases (mem_create created).mp present with rfl | old
    · exact absurd unpinned isPinned
    · exact ⟨message, old, isPinned, rfl, rfl⟩
  fewerPins := by
    intro channelId
    rw [pins, (create_eq_ok_iff.mp created).2.2.2, countP_cons, unpinned]
    simp [pins]
  fewerLive := by
    intro channelId
    rw [livePins, (create_eq_ok_iff.mp created).2.2.2, countP_cons, unpinned]
    simp [livePins]

theorem calm_addReply (id : MessageId) (createdAt : DateTime) :
    Calm messages (messages.updateOne id (Message.addReply · createdAt)
      (identity_addReply createdAt)) := by
  apply calm_updateOne
  · intro message
    unfold Message.addReply
    split <;> exact ⟨rfl, rfl⟩
  · intro message isPinned
    have samePinned : (message.addReply createdAt).pinnedAt = message.pinnedAt := by
      unfold Message.addReply
      split <;> rfl
    exact ⟨samePinned ▸ isPinned, (deletedAt_addReply createdAt message).symm⟩

theorem calm_dropReply (id : MessageId) :
    Calm messages (messages.updateOne id Message.dropReply identity_dropReply) := by
  apply calm_updateOne
  · intro message
    unfold Message.dropReply
    split <;> exact ⟨rfl, rfl⟩
  · intro message isPinned
    have samePinned : message.dropReply.pinnedAt = message.pinnedAt := by
      unfold Message.dropReply
      split <;> rfl
    exact ⟨samePinned ▸ isPinned, (deletedAt_dropReply message).symm⟩

theorem calm_sendMessage {row : SendRow} (sent : sendMessage messages row = .ok next) :
    Calm messages next := by
  refine sendMessage_writes Calm Calm.trans ?_ ?_ sent
  · rintro messages next new created (rfl | ⟨parentId, id, rfl⟩)
    · exact calm_create created rfl
    · exact calm_create created rfl
  · exact fun _ parentId => calm_addReply parentId row.createdAt

theorem calm_softDelete {msgId : MessageId} {deletedAt : DateTime} :
    Calm messages (softDelete messages channelId msgId deletedAt) := by
  refine softDelete_writes Calm Calm.refl Calm.trans ?_ ?_ messages channelId
  · exact fun _ => calm_updateOne (fun _ => ⟨rfl, rfl⟩) fun _ isPinned => absurd rfl isPinned
  · exact fun _ parentId => calm_dropReply parentId

theorem calm_bulkUpdate {targetIds : List MessageId} {deletedAt : DateTime} :
    Calm messages (bulkUpdate messages channelId targetIds deletedAt) := by
  apply calm_rewrite
  · intro message
    split <;> exact ⟨rfl, rfl⟩
  · intro message isPinned
    split at isPinned
    next => exact absurd rfl isPinned
    next kept => simpa only [if_neg kept, and_true] using isPinned

theorem calm_unpin {msgId : MessageId}
    (unpinned : updateInChannel messages channelId msgId none = .ok next) :
    Calm messages next := by
  unfold updateInChannel at unpinned
  split at unpinned
  · cases unpinned
  cases unpinned
  exact calm_updateOne (fun _ => ⟨rfl, rfl⟩) fun _ isPinned => absurd rfl isPinned

/-- The lock a transaction holds. -/
def PinTask.holds : PinTask → Option ChannelId
  | .pinFind args | .pinCount args | .pinUpdate args => some args.channelId
  | _ => none

/-- The message of a pin is in its channel and no system message. -/
def Pinnable (messages : MessageTable) (args : PinArgs) : Prop :=
  ∃ target ∈ messages, target.id = args.msgId ∧ target.channelId = args.channelId ∧
    target.type.isSystem = false

/-- What a pin has checked so far still holds. -/
def PinTask.Ready (messages : MessageTable) : PinTask → Prop
  | .pinCount args => Pinnable messages args
  | .pinUpdate args => Pinnable messages args ∧ livePins messages args.channelId < hardPinCap
  | _ => True

/-- What the pending transactions rely on. -/
structure PinsHeld (state : State PinState PinTask) : Prop where
  exclusive : Exclusive PinTask.holds state.shared.locked state.tasks
  ready : ∀ task ∈ state.tasks, task.Ready state.shared.messages

/-- A pin commits on a message that is live, or is rolled back since the id of its system
message is taken. -/
def UpdatesLive (state : State PinState PinTask) :
    Label PinTask PinInput → Prop
  | .resume _ (.pinUpdate args) _ =>
    (∃ message ∈ state.shared.messages, message.id = args.systemMessageId) ∨
      ∀ target ∈ state.shared.messages, target.id = args.msgId → target.deletedAt = none
  | _ => True

theorem Pinnable.persists {args : PinArgs} (persist : Persist messages next)
    (pinnable : Pinnable messages args) : Pinnable next args := by
  obtain ⟨target, present, sameId, inChannel, noSystem⟩ := pinnable
  obtain ⟨later, laterMem, id, channel, type⟩ := persist target present
  exact ⟨later, laterMem, id.trans sameId, channel.trans inChannel, by rw [type, noSystem]⟩

theorem PinTask.Ready.persists {task : PinTask} (persist : Persist messages next)
    (fewerLive : ∀ channelId, task.holds = some channelId →
      livePins next channelId ≤ livePins messages channelId)
    (ready : task.Ready messages) : task.Ready next := by
  cases task with
  | pinCount args => exact Pinnable.persists persist ready
  | pinUpdate args =>
    exact ⟨ready.1.persists persist, (fewerLive args.channelId rfl).trans_lt ready.2⟩
  | _ => trivial

theorem PinTask.Ready.calm {task : PinTask} (calm : Calm messages next)
    (ready : task.Ready messages) : task.Ready next :=
  ready.persists calm.persist fun channelId _ => calm.fewerLive channelId

theorem pinnable_of_pinTarget {args : PinArgs} {target : Message}
    (found : pinTarget messages args = .ok target) : Pinnable messages args := by
  unfold pinTarget at found
  split at found
  · cases found
  next target foundTarget =>
    obtain ⟨isFound, inChannel⟩ := Option.filter_eq_some_iff.mp foundTarget
    obtain ⟨present, sameId⟩ := findUnique_eq_some_iff.mp isFound
    simp only [Bool.and_eq_true, beq_iff_eq] at inChannel
    split at found
    · cases found
    next noSystem => exact ⟨target, present, sameId, inChannel.1, by simpa using noSystem⟩

theorem below_of_checkPinCap {count : Nat} (checked : checkPinCap messages channelId = .ok count) :
    livePins messages channelId < hardPinCap := by
  unfold checkPinCap at checked
  split at checked
  · cases checked
  · omega

/-- Pinning a row changes a count by that row alone. -/
theorem countP_setPinned {target : Message} (present : target ∈ messages)
    (pinnedAt : Option DateTime)
    (keeps : ∀ message : Message, (message.setPinned pinnedAt).identity = message.identity)
    (counted : Message → Bool) :
    (messages.updateOne target.id (Message.setPinned · pinnedAt) keeps).table.rows.countP counted +
        (if counted target then 1 else 0) =
      messages.table.rows.countP counted + (if counted (target.setPinned pinnedAt) then 1 else 0) :=
  Table.countP_map_at messages.table.keysNodup present _ counted

/-- A pin that commits updates its row and adds the system message. -/
theorem pinUpdate_eq_ok {args : PinArgs} (pinned : pinUpdate messages args = .ok next) :
    ∃ target ∈ messages, target.id = args.msgId ∧ target.channelId = args.channelId ∧
      ∃ updated : MessageTable, updated = messages.updateOne target.id
          (Message.setPinned · (some args.pinnedAt)) (fun _ => rfl) ∧
        updated.create args.systemMessage = .ok next := by
  obtain ⟨updated, updatedEq, created⟩ := bind_eq_ok.mp pinned
  unfold updateInChannel at updatedEq
  split at updatedEq
  · cases updatedEq
  next target found =>
    obtain ⟨isFound, inChannel⟩ := Option.filter_eq_some_iff.mp found
    obtain ⟨present, sameId⟩ := findUnique_eq_some_iff.mp isFound
    cases updatedEq
    refine ⟨target, present, sameId, by simpa using inChannel, _, rfl, ?_⟩
    rw [sameId]
    exact created

section PinUpdate

variable {args : PinArgs}

section

variable (pinned : pinUpdate messages args = .ok next)

include pinned

theorem persist_pinUpdate :
    Persist messages next := by
  obtain ⟨target, -, -, -, updated, rfl, created⟩ := pinUpdate_eq_ok pinned
  refine Persist.trans (persist_rewrite ?_) (persist_create created)
  intro message
  split <;> exact ⟨rfl, rfl⟩

/-- The pins of the other channels stay as they are, and its own channel gets one at most. -/
theorem pins_pinUpdate (channelId : ChannelId) :
    pins next channelId ≤ pins messages channelId + if channelId = args.channelId then 1 else 0 := by
  obtain ⟨target, present, -, inChannel, updated, rfl, created⟩ := pinUpdate_eq_ok pinned
  have afterCreate := (calm_create created rfl).fewerPins channelId
  have afterUpdate := countP_setPinned present (some args.pinnedAt) (fun _ => rfl)
    fun message => message.channelId == channelId && message.pinnedAt.isSome
  have counts : (target.setPinned (some args.pinnedAt)).channelId = target.channelId := rfl
  simp only [pins] at afterCreate ⊢
  by_cases same : channelId = args.channelId
  · rw [if_pos same]
    have atMostOne : (if (target.setPinned (some args.pinnedAt)).channelId == channelId &&
        (target.setPinned (some args.pinnedAt)).pinnedAt.isSome then 1 else 0) ≤ 1 := by
      split <;> omega
    omega
  · have other : (target.channelId == channelId) = false := by
      rw [inChannel]
      simpa using fun equal => same equal.symm
    rw [if_neg same]
    simp only [counts, other, Bool.false_and, Bool.false_eq_true, if_false] at afterUpdate
    omega

theorem livePins_pinUpdate (other : channelId ≠ args.channelId) :
    livePins next channelId ≤ livePins messages channelId := by
  obtain ⟨target, present, -, inChannel, updated, rfl, created⟩ := pinUpdate_eq_ok pinned
  have afterCreate := (calm_create created rfl).fewerLive channelId
  have afterUpdate := countP_setPinned present (some args.pinnedAt) (fun _ => rfl) fun message =>
    message.channelId == channelId && message.pinnedAt.isSome && message.deletedAt == none
  have counts : (target.setPinned (some args.pinnedAt)).channelId = target.channelId := rfl
  have elsewhere : (target.channelId == channelId) = false := by
    rw [inChannel]
    simpa using fun equal => other equal.symm
  simp only [counts, elsewhere, Bool.false_and, Bool.false_eq_true, if_false] at afterUpdate
  simp only [livePins] at afterCreate ⊢
  omega

end

/-- A pin that has checked its message and the cap keeps pins safe exactly when the message is
still live. -/
theorem pinSafe_pinUpdate_iff (safe : PinSafe messages)
    (ready : (PinTask.pinUpdate args).Ready messages)
    (pinned : pinUpdate messages args = .ok next) :
    PinSafe next ↔ ∀ target ∈ messages, target.id = args.msgId → target.deletedAt = none := by
  obtain ⟨⟨checked, checkedMem, checkedId, -, noSystem⟩, below⟩ := ready
  have capped := pins_pinUpdate pinned
  obtain ⟨target, present, sameId, -, updated, rfl, created⟩ := pinUpdate_eq_ok pinned
  obtain rfl := Table.eq_of_key_eq checkedMem present (checkedId.trans sameId.symm)
  constructor
  · intro safeNext other otherMem otherId
    obtain rfl := Table.eq_of_key_eq otherMem present (otherId.trans sameId.symm)
    have written : other.setPinned (some args.pinnedAt) ∈ next :=
      (mem_create created).mpr (.inr (mem_rewrite.mpr ⟨other, present, if_pos rfl⟩))
    exact safeNext.live (other.setPinned (some args.pinnedAt)) written nofun
  · intro live
    have targetLive := live checked present sameId
    have origin : ∀ message ∈ next, message.pinnedAt ≠ none → ∃ old ∈ messages,
        (old.pinnedAt ≠ none ∨ old = checked) ∧ old.type = message.type ∧
          old.deletedAt = message.deletedAt := by
      intro message messageMem isPinned
      rcases (mem_create created).mp messageMem with rfl | inUpdated
      · exact absurd rfl isPinned
      obtain ⟨old, oldMem, rfl⟩ := mem_rewrite.mp inUpdated
      by_cases same : old.id = checked.id
      · rw [if_pos same]
        exact ⟨old, oldMem, .inr (Table.eq_of_key_eq oldMem present same), rfl, rfl⟩
      · simp only [if_neg same] at isPinned ⊢
        exact ⟨old, oldMem, .inl isPinned, rfl, rfl⟩
    refine ⟨?_, ?_, ?_⟩
    · intro message messageMem isPinned
      obtain ⟨old, oldMem, wasPinned | rfl, -, sameDeleted⟩ := origin message messageMem isPinned
      · rw [← sameDeleted]
        exact safe.live old oldMem wasPinned
      · rw [← sameDeleted]
        exact targetLive
    · intro message messageMem isPinned
      obtain ⟨old, oldMem, wasPinned | rfl, sameType, -⟩ := origin message messageMem isPinned
      · rw [← sameType]
        exact safe.noSystem old oldMem wasPinned
      · rw [← sameType]
        exact noSystem
    · intro channelId
      have here := capped channelId
      by_cases same : channelId = args.channelId
      · rw [livePins_eq_pins safe.live, ← same] at below
        rw [if_pos same] at here
        omega
      · have before := safe.capped channelId
        rw [if_neg same] at here
        omega

/-- The system message of a pin takes a new id. -/
theorem fresh_of_pinUpdate (pinned : pinUpdate messages args = .ok next) :
    ∀ message ∈ messages, message.id ≠ args.systemMessageId := by
  obtain ⟨target, -, -, -, updated, rfl, created⟩ := pinUpdate_eq_ok pinned
  have fresh := (create_eq_ok_iff.mp created).1
  intro message present
  have kept := fresh _ (mem_rewrite.mpr ⟨message, present, rfl⟩)
  split at kept
  · exact kept
  · exact kept

theorem pinUpdate_ok (pinnable : Pinnable messages args)
    (fresh : ∀ message ∈ messages, message.id ≠ args.systemMessageId) :
    ∃ next, pinUpdate messages args = .ok next := by
  obtain ⟨target, present, sameId, inChannel, -⟩ := pinnable
  have found : (messages.findUnique args.msgId).filter (·.channelId == args.channelId) =
      some target := by
    rw [Option.filter_eq_some_iff]
    exact ⟨findUnique_eq_some_iff.mpr ⟨present, sameId⟩, by simpa using inChannel⟩
  simp only [pinUpdate, updateInChannel, found]
  apply exists_create
  · intro message messageMem
    obtain ⟨old, oldMem, rfl⟩ := mem_rewrite.mp messageMem
    split
    · exact fresh old oldMem
    · exact fresh old oldMem
  · exact keyTaken_eq_false_iff.mpr fun _ _ _ _ => rfl
  · rfl

end PinUpdate

section Steps

variable {shared : PinState} {before after : List PinTask} {task : PinTask}

section

variable (held : PinsHeld ⟨shared, before ++ task :: after⟩)

include held

theorem ready_of_mem :
    task.Ready shared.messages :=
  held.ready task (mem_pending.mpr (.inl rfl))

/-- A transaction that writes nothing and goes on with its lock. -/
theorem PinsHeld.continue {new : PinTask} (same : new.holds = task.holds)
    (ready : new.Ready shared.messages) :
    PinsHeld ⟨shared, before ++ [new] ++ after⟩ where
  exclusive := held.exclusive.resume_held same
  ready := by
    intro other otherMem
    rcases mem_resumed.mp otherMem with waits | isNew
    · exact held.ready other (mem_pending.mpr (.inr waits))
    obtain rfl := mem_singleton.mp isNew
    exact ready

/-- A transaction without the lock that ends in a calm write. -/
theorem PinsHeld.finish (calm : Calm shared.messages next) :
    PinsHeld ⟨{ shared with messages := next }, before ++ [] ++ after⟩ where
  exclusive := held.exclusive.resume_free nofun
  ready := by
    intro other otherMem
    rcases mem_resumed.mp otherMem with waits | isNew
    · exact (held.ready other (mem_pending.mpr (.inr waits))).calm calm
    · cases isNew

/-- A transaction that ends and gives its lock back. Its write may pin in its own channel, where
no other transaction has counted. -/
theorem PinsHeld.unlock (holds : task.holds = some channelId)
    (persist : Persist shared.messages next)
    (elsewhere : ∀ other, other ≠ channelId → livePins next other ≤ livePins shared.messages
      other) :
    PinsHeld ⟨{ shared with messages := next }.unlock channelId, before ++ [] ++ after⟩ where
  exclusive := held.exclusive.release holds
  ready := by
    intro other otherMem
    rcases mem_resumed.mp otherMem with waits | isNew
    · have wasReady := held.ready other (mem_pending.mpr (.inr waits))
      refine wasReady.persists persist fun otherChannel otherHolds => elsewhere otherChannel ?_
      rintro rfl
      exact held.exclusive.ne_of_waits holds waits otherHolds
    · cases isNew

theorem PinsHeld.abort (holds : task.holds = some channelId) :
    PinsHeld ⟨shared.unlock channelId, before ++ [] ++ after⟩ :=
  held.unlock holds (Calm.refl shared.messages).persist fun _ _ => le_refl _

theorem pinsHeld_resume :
    PinsHeld ⟨(task.resume shared).1, before ++ (task.resume shared).2 ++ after⟩ := by
  have ready := ready_of_mem held
  cases task with
  | pinLock args =>
    simp only [PinTask.resume]
    split
    next => exact held.continue rfl trivial
    next free =>
      refine ⟨held.exclusive.acquire free rfl, ?_⟩
      intro other otherMem
      rcases mem_resumed.mp otherMem with waits | isNew
      · exact held.ready other (mem_pending.mpr (.inr waits))
      obtain rfl := mem_singleton.mp isNew
      trivial
  | pinFind args =>
    simp only [PinTask.resume]
    split
    next => exact held.abort rfl
    next target found =>
      split
      next => exact held.abort rfl
      next => exact held.continue rfl (pinnable_of_pinTarget found)
  | pinCount args =>
    simp only [PinTask.resume]
    split
    next => exact held.abort rfl
    next checked => exact held.continue rfl ⟨ready, below_of_checkPinCap checked⟩
  | pinUpdate args =>
    simp only [PinTask.resume]
    split
    next => exact held.abort rfl
    next messages pinned =>
      exact held.unlock rfl (persist_pinUpdate pinned) fun other => livePins_pinUpdate pinned
  | unpinFind channelId msgId =>
    simp only [PinTask.resume]
    split
    next => exact held.finish (Calm.refl _)
    next =>
      split
      next => exact held.continue rfl trivial
      next => exact held.finish (Calm.refl _)
  | unpinUpdate channelId msgId =>
    simp only [PinTask.resume]
    split
    next => exact held.finish (Calm.refl _)
    next messages unpinned => exact held.finish (calm_unpin unpinned)
  | softDelete channelId msgId deletedAt => exact held.finish calm_softDelete
  | bulkFind args =>
    simp only [PinTask.resume]
    split
    next => exact held.finish (Calm.refl _)
    next =>
      split
      next => exact held.finish (Calm.refl _)
      next => exact held.continue rfl trivial
  | bulkUpdate channelId targetIds deletedAt => exact held.finish calm_bulkUpdate

/-- Only the commit of a pin can make pins unsafe. -/
theorem pinSafe_resume_iff (safe : PinSafe shared.messages) :
    PinSafe (task.resume shared).1.messages ↔
      UpdatesLive ⟨shared, before ++ task :: after⟩ (.resume before task after) := by
  have ready := ready_of_mem held
  cases task with
  | pinLock args | pinCount args =>
    refine iff_of_true ?_ trivial
    simp only [PinTask.resume]
    split <;> exact safe
  | pinFind args | unpinFind channelId msgId | bulkFind args =>
    refine iff_of_true ?_ trivial
    simp only [PinTask.resume]
    split
    next => exact safe
    next => split <;> exact safe
  | pinUpdate args =>
    simp only [PinTask.resume, UpdatesLive]
    by_cases taken : ∃ message ∈ shared.messages, message.id = args.systemMessageId
    · refine iff_of_true ?_ (.inl taken)
      split
      next => exact safe
      next messages pinned =>
        obtain ⟨message, present, sameId⟩ := taken
        exact absurd sameId (fresh_of_pinUpdate pinned message present)
    · rw [or_iff_right taken]
      obtain ⟨messages, pinned⟩ := pinUpdate_ok ready.1 fun message present sameId =>
        taken ⟨message, present, sameId⟩
      rw [pinned]
      exact pinSafe_pinUpdate_iff safe ready pinned
  | unpinUpdate channelId msgId =>
    refine iff_of_true ?_ trivial
    simp only [PinTask.resume]
    split
    next => exact safe
    next messages unpinned => exact (calm_unpin unpinned).pinSafe safe
  | softDelete channelId msgId deletedAt => exact iff_of_true (calm_softDelete.pinSafe safe) trivial
  | bulkUpdate channelId targetIds deletedAt =>
    exact iff_of_true (calm_bulkUpdate.pinSafe safe) trivial

end

/-- Requests and new messages pin nothing. -/
theorem calm_accept (input : PinInput) : Calm shared.messages (input.after shared).messages := by
  cases input with
  | send row =>
    cases sent : sendMessage shared.messages row with
    | error _ => simpa [PinInput.after, sent, Except.toOption] using Calm.refl shared.messages
    | ok next => simpa [PinInput.after, sent, Except.toOption] using calm_sendMessage sent
  | _ => exact Calm.refl shared.messages

theorem pinsHeld_accept {tasks : List PinTask} (held : PinsHeld ⟨shared, tasks⟩)
    (input : PinInput) : PinsHeld ⟨input.after shared, tasks ++ input.starts⟩ := by
  have sameLocks : (input.after shared).locked = shared.locked := by cases input <;> rfl
  have starts : ∀ new ∈ input.starts, new.holds = none ∧
      new.Ready (input.after shared).messages := by
    intro new newMem
    cases input with
    | send row => cases newMem
    | _ =>
      obtain rfl := mem_singleton.mp newMem
      exact ⟨rfl, trivial⟩
  refine ⟨?_, ?_⟩
  · change Exclusive _ (input.after shared).locked _
    rw [sameLocks]
    exact held.exclusive.accept fun new newMem => (starts new newMem).1
  · intro other otherMem
    rcases mem_append.mp otherMem with waits | isNew
    · exact (held.ready other waits).calm (calm_accept input)
    · exact (starts other isNew).2

end Steps

/-- In any interleaving that starts safe, pins stay safe exactly when every pin commits on a
message that is live at that moment. -/
theorem pins_safe_iff (messages : MessageTable) (safe : PinSafe messages)
    (labels : List (Label PinTask PinInput))
    (finish : State PinState PinTask) :
    Steps (Lawful (Step pinLoop) fun state => PinSafe state.shared.messages)
        ⟨{ messages := messages }, []⟩ labels finish ↔
      Steps (Guarded (Step pinLoop) UpdatesLive) ⟨{ messages := messages }, []⟩ labels
        finish := by
  refine Steps.lawful_iff_guarded PinsHeld ?_ ?_ ?_ safe
  · intro state label next step held
    cases step with
    | resume before task after => exact pinsHeld_resume held
    | accept accepted =>
      obtain ⟨rfl, rfl⟩ := accepted
      exact pinsHeld_accept held _
  · intro state label next step held law
    cases step with
    | resume before task after => exact pinSafe_resume_iff held law
    | accept accepted =>
      obtain ⟨rfl, rfl⟩ := accepted
      exact iff_of_true ((calm_accept _).pinSafe law) trivial
  · refine ⟨⟨Pairwise.nil, ?_⟩, ?_⟩
    · exact nofun
    · exact nofun

/-- Message 1 of channel 1. -/
def firstMessage : SendRow :=
  { id := ⟨1⟩, channelId := ⟨1⟩, authorId := ⟨1⟩, content := "hello", createdAt := 1 }

def firstPin : PinArgs :=
  { channelId := ⟨1⟩, msgId := ⟨1⟩, actorId := ⟨1⟩, pinnedAt := 3, systemMessageId := ⟨2⟩,
    content := "pinned", contentPlain := "pinned", createdAt := 3 }

/-- The message is there, and a pin of it has come in. -/
def pinAsked : State PinState PinTask :=
  ⟨(PinInput.send firstMessage).after { messages := .empty }, [.pinLock firstPin]⟩

theorem pinSafe_empty : PinSafe MessageTable.empty where
  live := fun _ present => nomatch present
  noSystem := fun _ present => nomatch present
  capped := fun _ => Nat.zero_le _

/-- The state a channel without messages starts in. -/
def noMessages : State PinState PinTask :=
  ⟨{ messages := MessageTable.empty }, []⟩

theorem steps_pinAsked : Steps (Guarded (Step pinLoop) UpdatesLive) noMessages
    [.accept (.send firstMessage), .accept (.pin firstPin)] pinAsked := by
  have sent : Step pinLoop noMessages (.accept (.send firstMessage))
      ⟨pinAsked.shared, []⟩ := .accept ⟨rfl, rfl⟩
  have asked : Step pinLoop ⟨pinAsked.shared, []⟩ (.accept (.pin firstPin)) pinAsked :=
    .accept ⟨rfl, rfl⟩
  exact (Steps.refl.step ⟨sent, trivial⟩).step ⟨asked, trivial⟩

/-- A pin that meets no delete commits safely. -/
theorem first_pin_safe : ∃ labels, Steps
    (Lawful (Step pinLoop) fun state => PinSafe state.shared.messages)
    noMessages labels (pinLoop.runFirst 4 pinAsked) := by
  have live : ∀ target ∈ (pinLoop.runFirst 3 pinAsked).shared.messages.table.rows,
      target.id = firstPin.msgId → target.deletedAt = none := by
    decide +kernel
  obtain ⟨labels, steps⟩ := exists_guarded_runFirst 4 steps_pinAsked
    ⟨trivial, trivial, trivial, .inr live, trivial⟩
  exact ⟨labels, (pins_safe_iff .empty pinSafe_empty _ _).mpr steps⟩

/-- A message deleted between the read and the write of a pin ends up pinned. -/
theorem deleted_message_pinned : ∃ labels finish,
    Steps (Step pinLoop) noMessages labels finish ∧ ¬PinSafe finish.shared.messages := by
  obtain ⟨labels, steps⟩ := pinLoop.exists_steps_played
    (fun state input => (input.after state, input.starts)) (fun _ _ => true) noMessages
    (fun _ _ _ => ⟨rfl, rfl⟩) .refl
    [.accept (.send firstMessage), .accept (.pin firstPin), .run 0, .run 0, .run 0,
      .accept (.softDelete ⟨1⟩ ⟨1⟩ 2), .run 1, .run 0] rfl
  refine ⟨labels, _, steps, fun safe => ?_⟩
  have isLive := safe.live _ (.tail _ (.head _)) nofun
  cases isLive

end Bongtalk.Messages
