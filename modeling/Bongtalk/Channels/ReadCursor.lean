import Bongtalk.Channels.ReadState
import Bongtalk.Library.Register

/-!
# Read cursors only take maxima

An acknowledgement joins the position of its message into the cursor. So the order of
acknowledgements and their repetition do not matter, and no cursor moves back.
-/

namespace Bongtalk.Channels

open Library EventLoop Prisma Messages

variable {Scope : Type}

section Upserts

variable [DecidableEq Scope] {states : ReadStateTable Scope} {userId otherUser : UserId} {scope otherScope : Scope}

/-- The cursor after an upsert of a row. -/
theorem storedCursor_upsert (row : ReadState Scope) :
    storedCursor (states.upsert row) userId scope =
      if row.key = (userId, scope) then row.cursor else storedCursor states userId scope := by
  rw [storedCursor, Table.findUnique_upsert]
  split <;> rfl

/-- A guarded upsert leaves the cursors of others alone. -/
theorem storedCursor_advance_other (cursor : ReadCursor)
    (other : (userId, scope) ≠ (otherUser, otherScope)) :
    storedCursor (advance states userId scope cursor) otherUser otherScope =
      storedCursor states otherUser otherScope := by
  have kept : storedCursor (states.upsert { userId, scope, cursor := some cursor }) otherUser
      otherScope = storedCursor states otherUser otherScope := by
    rw [storedCursor_upsert]
    exact if_neg other
  unfold advance
  split
  · exact kept
  split
  · exact kept
  · rfl

/-- A guarded upsert takes the maximum. -/
theorem cursorOf_advance (cursor : ReadCursor) :
    cursorOf (advance states userId scope cursor) userId scope =
      cursorOf states userId scope ⊔ cursor.position := by
  have written : cursorOf (states.upsert { userId, scope, cursor := some cursor }) userId scope =
      cursor.position := by
    rw [cursorOf, storedCursor_upsert]
    exact congrArg placeOf (if_pos rfl)
  unfold advance
  cases found : states.findUnique (userId, scope) with
  | none =>
    have before : cursorOf states userId scope = ⊥ := by
      rw [cursorOf, storedCursor, found]
      rfl
    rw [before, bot_sup_eq]
    exact written
  | some stored =>
    have before : cursorOf states userId scope = placeOf stored.cursor := by
      rw [cursorOf, storedCursor, found]
      rfl
    dsimp only
    rw [before]
    cases cursorEq : stored.cursor with
    | none =>
      rw [Option.all_none, if_pos rfl, written]
      exact (bot_sup_eq _).symm
    | some old =>
      rw [Option.all_some]
      by_cases smaller : old.position < cursor.position
      · rw [if_pos (decide_eq_true smaller), written]
        exact (sup_eq_right.mpr (WithBot.coe_le_coe.mpr smaller.le)).symm
      · rw [if_neg (by simpa using smaller), before, cursorEq]
        exact (sup_eq_left.mpr (WithBot.coe_le_coe.mpr (not_lt.mp smaller))).symm

/-- A replay pointer moves no cursor. -/
theorem storedCursor_touch :
    storedCursor (touch states userId scope) otherUser otherScope =
      storedCursor states otherUser otherScope := by
  unfold touch
  split
  next missing =>
    rw [storedCursor_upsert]
    split
    next same =>
      cases same
      rw [storedCursor, missing]
      rfl
    next => rfl
  next => rfl

end Upserts

/-- The columns of a message that say where it is; nothing writes them again. -/
def place (message : Message) : MessageId × ChannelId × Option MessageId × Bool × DateTime :=
  (message.id, message.channelId, message.parentMessageId, message.isBroadcast, message.createdAt)

/-- Messages stay in their place. -/
def StayPut (messages next : MessageTable) : Prop :=
  ∀ message ∈ messages, ∃ later ∈ next, place later = place message

theorem StayPut.refl (messages : MessageTable) : StayPut messages messages :=
  fun message present => ⟨message, present, rfl⟩

theorem StayPut.trans {first second third : MessageTable} (before : StayPut first second)
    (after : StayPut second third) : StayPut first third := by
  intro message present
  obtain ⟨middle, middleMem, middlePlace⟩ := before message present
  obtain ⟨later, laterMem, laterPlace⟩ := after middle middleMem
  exact ⟨later, laterMem, laterPlace.trans middlePlace⟩

theorem stayPut_updateOne {messages : MessageTable} {id : MessageId} {change : Message → Message}
    {keeps : ∀ message, (change message).identity = message.identity}
    (samePlace : ∀ message, place (change message) = place message) :
    StayPut messages (messages.updateOne id change keeps) := by
  intro message present
  refine ⟨_, MessageTable.mem_rewrite.mpr ⟨message, present, rfl⟩, ?_⟩
  split
  · exact samePlace message
  · rfl

theorem stayPut_sendMessage {messages next : MessageTable} {row : SendRow}
    (sent : sendMessage messages row = .ok next) : StayPut messages next := by
  refine sendMessage_writes StayPut StayPut.trans ?_ ?_ sent
  · intro messages next new created _ message present
    exact ⟨message, (mem_create created).mpr (.inr present), rfl⟩
  · intro messages parentId
    apply stayPut_updateOne
    intro message
    unfold Message.addReply
    split <;> rfl

theorem stayPut_softDelete {messages : MessageTable} {channelId : ChannelId} {msgId : MessageId}
    {deletedAt : DateTime} : StayPut messages (softDelete messages channelId msgId deletedAt) := by
  refine softDelete_writes StayPut StayPut.refl StayPut.trans ?_ ?_ messages channelId
  · exact fun _ => stayPut_updateOne fun _ => rfl
  · intro messages parentId
    apply stayPut_updateOne
    intro message
    unfold Message.dropReply
    split <;> rfl

/-- A message of the scope, there where it was found. -/
def Found (belongs : Scope → Message → Bool) (messages : MessageTable) (scope : Scope)
    (message : Message) : Prop :=
  belongs scope message = true ∧ ∃ row ∈ messages, place row = place message

theorem Found.stayPut {belongs : Scope → Message → Bool} {messages next : MessageTable}
    {scope : Scope} {message : Message}
    (stays : StayPut messages next) (found : Found belongs messages scope message) :
    Found belongs next scope message := by
  obtain ⟨inScope, row, rowMem, samePlace⟩ := found
  obtain ⟨later, laterMem, laterPlace⟩ := stays row rowMem
  exact ⟨inScope, later, laterMem, laterPlace.trans samePlace⟩

section Runs

variable [DecidableEq Scope] {belongs : Scope → Message → Bool} {what : String}

/-- The message a step acknowledges for a user. -/
def acknowledges (userId : UserId) (scope : Scope) :
    Label (AckTask Scope) (AckInput Scope) → Option Message
  | .resume _ (.upsert args message) _ =>
    if (args.userId, args.scope) = (userId, scope) then some message else none
  | _ => none

/-- The messages a run acknowledges for a user. -/
def acknowledged (userId : UserId) (scope : Scope)
    (labels : List (Label (AckTask Scope) (AckInput Scope))) : Finset Message :=
  offered (acknowledges userId scope) labels

variable {state next : State (AckState Scope) (AckTask Scope)} {label : Label
  (AckTask Scope) (AckInput Scope)}

/-- Every step joins what it acknowledges into the cursor. -/
theorem cursorOf_step (step : Step (ackLoop belongs what) state label next)
    (userId : UserId) (scope : Scope) :
    cursorOf next.shared.states userId scope = cursorOf state.shared.states userId scope ⊔
      (acknowledges userId scope label).elim ⊥ fun message =>
        ((cursorAt message).position : WithBot Position) := by
  cases step with
  | resume before task after =>
    cases task with
    | find args =>
      have none : acknowledges userId scope (.resume before (.find args) after) = none := rfl
      rw [none, Option.elim_none, sup_bot_eq]
      simp only [ackLoop, AckTask.resume]
      split <;> rfl
    | upsert args message =>
      simp only [ackLoop, AckTask.resume, acknowledges]
      by_cases same : (args.userId, args.scope) = (userId, scope)
      · rw [if_pos same]
        cases same
        exact cursorOf_advance (cursorAt message)
      · rw [if_neg same, Option.elim_none, sup_bot_eq]
        exact congrArg placeOf (storedCursor_advance_other _ same)
  | @accept shared tasks input _ _ accepted =>
    obtain ⟨rfl, rfl⟩ := accepted
    have none : acknowledges userId scope
        (.accept input : Label (AckTask Scope) (AckInput Scope)) = none := rfl
    rw [none, Option.elim_none, sup_bot_eq]
    cases input with
    | replay otherUser otherScope => exact congrArg placeOf storedCursor_touch
    | _ => rfl

theorem stayPut_step (step : Step (ackLoop belongs what) state label next) :
    StayPut state.shared.messages next.shared.messages := by
  cases step with
  | @resume shared before task after =>
    have same : (task.resume belongs what shared).1.messages = shared.messages := by
      cases task with
      | find args =>
        simp only [AckTask.resume]
        split <;> rfl
      | upsert args message => rfl
    change StayPut shared.messages (task.resume belongs what shared).1.messages
    rw [same]
    exact StayPut.refl _
  | @accept shared tasks input next spawned accepted =>
    obtain ⟨rfl, rfl⟩ := accepted
    cases input with
    | send row =>
      cases sent : sendMessage shared.messages row with
      | error _ =>
        simpa [AckInput.after, sent, Except.toOption] using StayPut.refl shared.messages
      | ok next => simpa [AckInput.after, sent, Except.toOption] using stayPut_sendMessage sent
    | softDelete channelId msgId deletedAt => exact stayPut_softDelete
    | _ => exact StayPut.refl shared.messages

/-- The pending acknowledgements have found their messages. -/
def PendingFound (belongs : Scope → Message → Bool)
    (state : State (AckState Scope) (AckTask Scope)) : Prop :=
  ∀ args message, AckTask.upsert args message ∈ state.tasks →
    Found belongs state.shared.messages args.scope message

theorem pendingFound_step (step : Step (ackLoop belongs what) state label next)
    (pending : PendingFound belongs state) : PendingFound belongs next := by
  have stays := stayPut_step step
  intro args message isPending
  suffices earlier : AckTask.upsert args message ∈ state.tasks ∨
      Found belongs state.shared.messages args.scope message by
    rcases earlier with waits | found
    · exact (pending args message waits).stayPut stays
    · exact found.stayPut stays
  cases step with
  | resume before task after =>
    rcases mem_resumed.mp isPending with waits | isNew
    · exact .inl (mem_pending.mpr (.inr waits))
    cases task with
    | find findArgs =>
      simp only [ackLoop, AckTask.resume] at isNew
      split at isNew
      next => cases isNew
      next target found =>
        cases List.mem_singleton.mp isNew
        unfold ackTarget at found
        split at found
        next => cases found
        next row rowFound =>
          obtain rfl := Except.ok.inj found
          obtain ⟨inTable, inScope⟩ := Option.filter_eq_some_iff.mp rowFound
          exact .inr ⟨(Bool.and_eq_true_iff.mp inScope).1, row,
            (MessageTable.findUnique_eq_some_iff.mp inTable).1, rfl⟩
    | upsert _ _ => cases isNew
  | @accept shared tasks input _ _ accepted =>
    obtain ⟨-, rfl⟩ := accepted
    rcases List.mem_append.mp isPending with waits | isNew
    · exact .inl waits
    cases input with
    | ack ackArgs => cases List.mem_singleton.mp isNew
    | _ => cases isNew

/-- What a run acknowledges are messages of the scope. -/
theorem found_of_acknowledged {start finish : State (AckState Scope) (AckTask Scope)}
    {labels : List (Label (AckTask Scope) (AckInput Scope))}
    (steps : Steps (Step (ackLoop belongs what)) start labels finish)
    (idle : start.tasks = []) (userId : UserId) (scope : Scope) {message : Message}
    (isAcknowledged : message ∈ acknowledged userId scope labels) :
    Found belongs finish.shared.messages scope message := by
  suffices all : PendingFound belongs finish ∧ ∀ message ∈ acknowledged userId scope labels,
      Found belongs finish.shared.messages scope message from all.2 message isAcknowledged
  clear isAcknowledged
  induction steps with
  | refl =>
    refine ⟨fun args message waits => ?_, fun message isAcknowledged => ?_⟩
    · rw [idle] at waits
      cases waits
    · simp [acknowledged, offered] at isAcknowledged
  | step _ transition ih =>
    obtain ⟨pending, before⟩ := ih
    have stays := stayPut_step transition
    refine ⟨pendingFound_step transition pending, fun message isAcknowledged => ?_⟩
    obtain ⟨label, labelMem, acknowledges⟩ := mem_offered.mp isAcknowledged
    rcases List.mem_append.mp labelMem with earlier | last
    · exact (before message (mem_offered.mpr ⟨label, earlier, acknowledges⟩)).stayPut stays
    obtain rfl := List.mem_singleton.mp last
    cases transition with
    | resume tasksBefore task tasksAfter =>
      cases task with
      | find args => cases acknowledges
      | upsert args target =>
        simp only [Channels.acknowledges] at acknowledges
        split at acknowledges
        next same =>
          obtain rfl := Option.some.inj acknowledges
          obtain ⟨rfl, rfl⟩ := Prod.mk.inj same
          exact (pending args target (mem_pending.mpr (.inl rfl))).stayPut stays
        next => cases acknowledges
    | accept _ => cases acknowledges

end Runs

/-- Acknowledging keeps maxima: in any run the cursor of a user becomes the maximum of what it
was and of the messages acknowledged, which are messages of the scope; it does not move back;
and any other run that acknowledges the same messages ends at the same cursor. -/
def KeepsMaximum [DecidableEq Scope] (belongs : Scope → Message → Bool)
    (loop : EventLoop (AckState Scope) (AckTask Scope) (AckInput Scope)) : Prop :=
  ∀ start labels finish, Steps (Step loop) start labels finish →
    ∀ (userId : UserId) (scope : Scope),
      cursorOf finish.shared.states userId scope = cursorOf start.shared.states userId scope ⊔
          (acknowledged userId scope labels).sup
            (fun message => ((cursorAt message).position : WithBot Position)) ∧
        cursorOf start.shared.states userId scope ≤ cursorOf finish.shared.states userId scope ∧
        (start.tasks = [] → ∀ message ∈ acknowledged userId scope labels,
          Found belongs finish.shared.messages scope message) ∧
        ∀ otherLabels otherFinish, Steps (Step loop) start otherLabels otherFinish →
          acknowledged userId scope otherLabels = acknowledged userId scope labels →
          cursorOf otherFinish.shared.states userId scope =
            cursorOf finish.shared.states userId scope

theorem keepsMaximum_ackLoop [DecidableEq Scope] (belongs : Scope → Message → Bool)
    (what : String) : KeepsMaximum belongs (ackLoop belongs what) := by
  have maximum : ∀ {start finish labels}, Steps (Step (ackLoop belongs what)) start labels
      finish → ∀ (userId : UserId) (scope : Scope),
      cursorOf finish.shared.states userId scope = cursorOf start.shared.states userId scope ⊔
        (acknowledged userId scope labels).sup
          (fun message => ((cursorAt message).position : WithBot Position)) := by
    intro start finish labels steps userId scope
    refine Steps.register_eq_sup (fun state => cursorOf state.shared.states userId scope)
      (acknowledges userId scope) _ ?_ steps
    exact fun step => cursorOf_step step userId scope
  intro start labels finish steps userId scope
  have ends := maximum steps userId scope
  refine ⟨ends, ?_, ?_, ?_⟩
  · rw [ends]
    exact le_sup_left
  · intro idle message isAcknowledged
    exact found_of_acknowledged steps idle userId scope isAcknowledged
  · intro otherLabels otherFinish otherSteps same
    rw [maximum otherSteps userId scope, same, ends]

/-- The cursors of channels and of threads only take maxima. -/
theorem read_cursors_join : KeepsMaximum ofChannel ackRead ∧ KeepsMaximum ofThread ackThread :=
  ⟨keepsMaximum_ackLoop ofChannel _, keepsMaximum_ackLoop ofThread _⟩

/-- Two messages with one time, acknowledged by user 2 in the wrong order. -/
def twins : AckState ChannelId :=
  { messages := [SendRow.mk ⟨1⟩ ⟨1⟩ ⟨1⟩ "one" "" {} none none none 5,
      SendRow.mk ⟨2⟩ ⟨1⟩ ⟨1⟩ "two" "" {} none none none 5].foldl
        (fun messages row => (sendMessage messages row).toOption.getD messages) .empty }

def twinsAsked : State (AckState ChannelId) (AckTask ChannelId) :=
  ⟨twins, [.find ⟨⟨2⟩, ⟨1⟩, ⟨2⟩⟩, .find ⟨⟨2⟩, ⟨1⟩, ⟨1⟩⟩]⟩

example : storedCursor (ackRead.runFirst 4 twinsAsked).shared.states ⟨2⟩ ⟨1⟩ =
    some { createdAt := 5, messageId := ⟨2⟩ } := by
  decide +kernel

theorem twins_join : ∃ labels,
    Steps (Step ackRead) twinsAsked labels (ackRead.runFirst 4 twinsAsked) ∧
      cursorOf (ackRead.runFirst 4 twinsAsked).shared.states ⟨2⟩ ⟨1⟩ =
        cursorOf twins.states ⟨2⟩ ⟨1⟩ ⊔ (acknowledged ⟨2⟩ ⟨1⟩ labels).sup
          fun message => ((cursorAt message).position : WithBot Position) := by
  obtain ⟨labels, steps⟩ := exists_steps_runFirst 4
    (Steps.refl : Steps (Step ackRead) twinsAsked [] twinsAsked)
  exact ⟨labels, steps, (read_cursors_join.1 twinsAsked labels _ steps ⟨2⟩ ⟨1⟩).1⟩

end Bongtalk.Channels
