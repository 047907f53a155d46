import Bongtalk.Messaging.System

/-!
# Repeating a send

A send with an idempotency key that is repeated finds the message it created, by the cache or by
the unique index. The index is only reached after the checks of a new message, which
judge the request by the state it is repeated in.
-/

namespace Bongtalk.Messaging

open Library Common Messages Prisma

variable {World : Type}

/-- What stays true of a request whose message was created. -/
structure Accepted (args : SendArgs) (id : MessageId) (store : Store World) : Prop where
  consistent : Consistent store
  below : id.value < store.nextMessageId
  identity : ∀ message ∈ store.messages, message.id = id →
    message.authorId = args.authorId ∧ message.idempotencyKey = args.idempotencyKey
  known : ∀ attachmentId ∈ args.attachmentIds, attachmentId.value < store.nextAttachmentId
  linked : ∀ row ∈ store.attachments, row.id ∈ args.attachmentIds → row.messageId ≠ none

/-- A created message is accepted. -/
theorem accepted_of_send {runtime : Runtime World} {call : SendCall} {store after : Store World}
    {args : SendArgs} {message : Message} (consistent : Consistent store)
    (sent : send runtime call store args = (.ok ⟨message, false⟩, after)) :
    Accepted args message.id after := by
  have frame := frame_send runtime call consistent args
  rw [sent] at frame
  obtain ⟨world, contentPlain, messages, idemCache, valid, -, created, rfl, rfl⟩ :=
    created_of_send sent
  obtain ⟨_, checkedAttachments, _⟩ := bind_eq_ok.mp valid
  constructor
  · exact frame.consistent consistent
  · exact Nat.lt_add_of_pos_right (by omega)
  · intro row present same
    have sameId : row.id = ⟨store.nextMessageId⟩ := same
    rcases identity_of_sent created row present with
      ⟨old, oldMem, sameIdentity⟩ | sameIdentity | copied
    · have below := consistent.messageIds old oldMem
      rw [← id_eq_of_identity sameIdentity, sameId] at below
      exact absurd below (Nat.lt_irrefl _)
    · exact ⟨authorId_eq_of_identity sameIdentity, idempotencyKey_eq_of_identity sameIdentity⟩
    · rw [sameId, MessageId.mk.injEq] at copied
      omega
  · intro attachmentId named
    obtain ⟨row, present, rfl, -⟩ := linkable_of_checkAttachments checkedAttachments named
    exact consistent.attachmentIds row present
  · intro row present named
    obtain ⟨old, oldMem, same, -, links⟩ := mem_linkAttachments present
    rw [← same] at named
    obtain ⟨checkedRow, checkedMem, checkedId, linkable⟩ :=
      linkable_of_checkAttachments checkedAttachments named
    obtain rfl := Table.eq_of_key_eq checkedMem oldMem checkedId
    exact links linkable

/-- Whatever happens later, an accepted request stays accepted. -/
theorem accepted_of_step {runtime : Runtime World} {args : SendArgs} {id : MessageId}
    {event : StoreEvent} {before after : Store World}
    (step : StoreStep runtime before event after) (accepted : Accepted args id before) :
    Accepted args id after := by
  have frame := frame_of_step step accepted.consistent
  constructor
  · exact frame.consistent accepted.consistent
  · exact Nat.lt_of_lt_of_le accepted.below frame.nextMessage
  · intro message present same
    obtain ⟨old, oldMem, oldId, sameIdentity⟩ :=
      frame.identity_of_old accepted.below present same
    rw [authorId_eq_of_identity sameIdentity, idempotencyKey_eq_of_identity sameIdentity]
    exact accepted.identity old oldMem oldId
  · intro attachmentId named
    exact Nat.lt_of_lt_of_le (accepted.known attachmentId named) frame.nextAttachment
  · intro row present named
    rcases frame.attachments row present with ⟨old, oldMem, same, keeps⟩ | ⟨fresh, -⟩
    · exact keeps (accepted.linked old oldMem (same ▸ named))
    have known := accepted.known row.id named
    omega

section Retry

variable {runtime : Runtime World} {retry : SendCall} {args : SendArgs} {key : IdempotencyKey}
variable {later : Store World} {row : Message}

/-- The cache answers a repeated request with its own message or not at all. -/
theorem cachedMessage_eq_some_iff (keyed : args.idempotencyKey = some key)
    (present : row ∈ later.messages) :
    cachedMessage later args retry = some row ↔
      retry.readCache = true ∧ later.idemCache args.authorId key = some row.id := by
  unfold cachedMessage
  split
  next reads =>
    rw [keyed, Option.bind_some, reads]
    simp only [true_and]
    constructor
    · intro found
      obtain ⟨id, entry, foundRow⟩ := Option.bind_eq_some_iff.mp found
      rw [entry, (MessageTable.findUnique_eq_some_iff.mp foundRow).2]
    · intro entry
      rw [entry, Option.bind_some]
      exact MessageTable.findUnique_eq_some_iff.mpr ⟨present, rfl⟩
  next reads => simp [reads]

theorem eq_of_cachedMessage (accepted : Accepted args row.id later)
    (keyed : args.idempotencyKey = some key) (present : row ∈ later.messages) {other : Message}
    (found : cachedMessage later args retry = some other) : other = row := by
  unfold cachedMessage at found
  split at found
  next =>
    rw [keyed, Option.bind_some] at found
    obtain ⟨id, entry, foundRow⟩ := Option.bind_eq_some_iff.mp found
    obtain ⟨otherMem, otherId⟩ := MessageTable.findUnique_eq_some_iff.mp foundRow
    obtain ⟨authorEq, keyEq⟩ :=
      (accepted.consistent.cached args.authorId key id entry).2 other otherMem otherId
    obtain ⟨rowAuthor, rowKey⟩ := accepted.identity row present rfl
    exact later.messages.keysUnique other otherMem row present (authorEq.trans rowAuthor.symm)
      (keyEq.trans (keyed.symm.trans rowKey.symm)) (by simp [keyEq])
  next => cases found

/-- The checks a repeated request passes again: it names no attachments, its parent is still
live, and its mentions and its text are admitted in the present state. -/
structure PassesAgain (runtime : Runtime World) (args : SendArgs) (store : Store World) : Prop where
  noAttachments : args.attachmentIds = []
  parent : ParentIsLive store.messages args.channelId args.parentMessageId
  mentions : checkMentions runtime store args = .ok ()
  enforced : ∃ contentPlain,
    (runtime.enforce store.world args (gatedMentions runtime store args)).1 = .ok contentPlain

variable (accepted : Accepted args row.id later)

include accepted

/-- The checks of the database come down to three of a repeated request. -/
theorem validate_of_accepted :
    validate runtime later args = .ok () ↔
      args.attachmentIds = [] ∧ ParentIsLive later.messages args.channelId args.parentMessageId ∧
        checkMentions runtime later args = .ok () := by
  have attachments := attachmentIds_eq_nil_of_linked accepted.linked
  rw [← attachments, ← validateParent_eq_ok_iff]
  simp only [validate, bind_eq_ok]
  constructor
  · rintro ⟨⟨⟩, checked, ⟨⟩, parent, mentions⟩
    exact ⟨checked, parent, mentions⟩
  · rintro ⟨checked, parent, mentions⟩
    exact ⟨(), checked, (), parent, mentions⟩

/-- A repeated request that passes the checks again is caught by the unique index and answered
with the stored message. -/
theorem send_of_passesAgain (keyed : args.idempotencyKey = some key)
    (present : row ∈ later.messages) (missed : cachedMessage later args retry = none)
    (passes : PassesAgain runtime args later) :
    (send runtime retry later args).1 = replayStored args row := by
  obtain ⟨rowAuthor, rowKey⟩ := accepted.identity row present rfl
  obtain ⟨contentPlain, enforced⟩ := passes.enforced
  have valid : validate runtime later args = .ok () :=
    (validate_of_accepted accepted).mpr ⟨passes.noAttachments, passes.parent, passes.mentions⟩
  have known : later.messages.findByKey args.authorId key = some row :=
    MessageTable.findByKey_eq_some_iff.mpr ⟨present, rowAuthor, rowKey.trans keyed⟩
  have taken : ∀ sendRow : SendRow, sendRow.authorId = args.authorId →
      sendRow.idempotencyKey = args.idempotencyKey →
      later.messages.keyTaken sendRow.message = true := by
    intro sendRow author sameKey
    rw [MessageTable.keyTaken, List.any_eq_true]
    refine ⟨row, present, ?_⟩
    simp [SendRow.message, author, sameKey, rowAuthor, rowKey, keyed]
  unfold send
  rw [missed]
  simp only [valid]
  generalize runtime.enforce later.world args (gatedMentions runtime later args) = answer at enforced
  rcases answer with ⟨answer, world⟩
  obtain rfl : answer = .ok contentPlain := enforced
  dsimp only
  rw [sendTransaction_of_keyTaken passes.parent (taken _ rfl rfl)]
  dsimp only
  rw [keyed, Option.bind_some, known]
  dsimp only
  cases replayStored args row <;> rfl

/-- A repeated request that the cache does not answer and the checks refuse is not answered. -/
theorem send_of_not_passesAgain (missed : cachedMessage later args retry = none)
    (refused : ¬PassesAgain runtime args later) {result : SendResult} :
    (send runtime retry later args).1 ≠ .ok result := by
  intro answered
  unfold send at answered
  rw [missed] at answered
  dsimp only at answered
  split at answered
  next => cases answered
  next valid =>
    obtain ⟨noAttachments, parent, mentions⟩ := (validate_of_accepted accepted).mp valid
    split at answered
    next => cases answered
    next contentPlain world enforced =>
      exact refused ⟨noAttachments, parent, mentions, contentPlain, by rw [enforced]⟩

/-- The answer to a repeated request. -/
theorem send_of_accepted (keyed : args.idempotencyKey = some key) (present : row ∈ later.messages) :
    (send runtime retry later args).1 = .ok ⟨row, true⟩ ↔
      row.content = args.content ∧
        ((retry.readCache = true ∧ later.idemCache args.authorId key = some row.id) ∨
          PassesAgain runtime args later) := by
  have replayed : replayStored args row = .ok ⟨row, true⟩ ↔ row.content = args.content := by
    rw [replayStored_eq_ok_iff]
    exact and_iff_left rfl
  rw [← cachedMessage_eq_some_iff keyed present]
  cases cached : cachedMessage later args retry with
  | some other =>
    obtain rfl := eq_of_cachedMessage accepted keyed present cached
    have answer : (send runtime retry later args).1 = replayStored args other := by
      rw [send, cached]
    rw [answer, replayed]
    simp
  | none =>
    simp only [reduceCtorEq, false_or]
    by_cases passes : PassesAgain runtime args later
    · rw [send_of_passesAgain accepted keyed present cached passes, replayed]
      exact (and_iff_left passes).symm
    · exact iff_of_false (send_of_not_passesAgain accepted cached passes) fun held =>
        passes held.2

end Retry

/-- However long after, whatever happened in between: a repeated send returns the message it created
exactly when that message still has the content of the request, and the cache answers or the
checks of a new message pass again. -/
theorem send_replays_iff {runtime : Runtime World} {db : Database} {tables : NotificationTables}
    {world : World} {earlierEvents laterEvents : List StoreEvent}
    {start accepted later : Store World} {call retry : SendCall} {args : SendArgs}
    {key : IdempotencyKey} {message row : Message}
    (reached : Steps (StoreStep runtime) (initialStore db tables world) earlierEvents start)
    (keyed : args.idempotencyKey = some key)
    (sent : send runtime call start args = (.ok ⟨message, false⟩, accepted))
    (steps : Steps (StoreStep runtime) accepted laterEvents later)
    (present : row ∈ later.messages) (same : row.id = message.id) :
    (send runtime retry later args).1 = .ok ⟨row, true⟩ ↔
      row.content = args.content ∧
        ((retry.readCache = true ∧ later.idemCache args.authorId key = some row.id) ∨
          PassesAgain runtime args later) := by
  have consistent := consistent_of_steps reached (consistent_initialStore db tables world)
  have acceptedNow := accepted_of_send consistent sent
  have acceptedLater : Accepted args message.id later :=
    steps.preserves (Accepted args message.id) accepted_of_step acceptedNow
  rw [← same] at acceptedLater
  exact send_of_accepted acceptedLater keyed present

theorem nodup_boardId : ([⟨1⟩] : List ChannelId).Nodup :=
  List.nodup_singleton _

theorem usernames_unique_empty {first : User} :
    first ∈ (.empty : Table User User.id) → ∀ second ∈ (.empty : Table User User.id),
      first.username = second.username → first = second :=
  fun present => absurd present List.not_mem_nil

/-- One member and one channel, and an upload of that member. -/
def uploadedStore : Store Unit :=
  let channel : Channel :=
    { id := ⟨1⟩, workspaceId := some ⟨1⟩, name := "board", position := 0, createdAt := 0 }
  let attachment : Attachment :=
    { id := ⟨0⟩, channelId := ⟨1⟩, uploaderId := ⟨1⟩, finalizedAt := some 1 }
  { initialStore
      (.withoutRoles ⟨[⟨⟨1⟩, ⟨1⟩, .member⟩], by decide⟩ ⟨[channel], nodup_boardId⟩ .empty)
      (.plain .empty @usernames_unique_empty) () with
    attachments := ⟨[attachment], by decide⟩
    nextAttachmentId := 1 }

/-- A request with a key and one attachment, repeated while the cache is out of reach: the
attachment is linked by now, so the check refuses what it accepted before. -/
theorem send_refuses_linked_attachment :
    ¬∀ (World : Type) (runtime : Runtime World) (db : Database) (tables : NotificationTables)
        (world : World) (earlierEvents laterEvents : List StoreEvent)
        (start accepted later : Store World) (call retry : SendCall) (args : SendArgs)
        (key : IdempotencyKey) (message row : Message),
      Steps (StoreStep runtime) (initialStore db tables world) earlierEvents start →
      args.idempotencyKey = some key →
      send runtime call start args = (.ok ⟨message, false⟩, accepted) →
      Steps (StoreStep runtime) accepted laterEvents later →
      row ∈ later.messages → row.id = message.id →
      (send runtime retry later args).1 = .ok ⟨row, true⟩ := by
  intro replays
  let args : SendArgs :=
    { workspaceId := some ⟨1⟩, channelId := ⟨1⟩, authorId := ⟨1⟩, content := "report",
      idempotencyKey := some ⟨7⟩, attachmentIds := [⟨0⟩] }
  let call : SendCall := { now := 2, createdAt := 2 }
  let retry : SendCall := { readCache := false, now := 3, createdAt := 3 }
  let message : Message :=
    { id := ⟨0⟩, channelId := ⟨1⟩, authorId := ⟨1⟩, content := "report", contentPlain := "report",
      idempotencyKey := some ⟨7⟩, createdAt := 2 }
  let accepted := (send quietRuntime call uploadedStore args).2
  have sent : send quietRuntime call uploadedStore args = (.ok ⟨message, false⟩, accepted) :=
    Prod.ext (by decide) rfl
  have present : message ∈ accepted.messages.table.rows := by decide
  have replayed := replays Unit quietRuntime uploadedStore.db uploadedStore.tables () [.upload] []
    uploadedStore accepted accepted call retry args ⟨7⟩ message message
    (.step .refl (.upload rfl rfl)) rfl sent .refl present rfl
  revert replayed
  decide

/-- Without attachments the same request is replayed after an edit elsewhere and the expiry of its
cache entry. -/
theorem send_replays_after_expiry :
    let args : SendArgs :=
      { workspaceId := some ⟨1⟩, channelId := ⟨1⟩, authorId := ⟨1⟩, content := "report",
        idempotencyKey := some ⟨7⟩ }
    let message : Message :=
      { id := ⟨0⟩, channelId := ⟨1⟩, authorId := ⟨1⟩, content := "report",
        contentPlain := "report", idempotencyKey := some ⟨7⟩, createdAt := 2 }
    let accepted := (send quietRuntime { now := 2, createdAt := 2 } uploadedStore args).2
    (send quietRuntime { now := 3, createdAt := 3 } (expireEntry accepted ⟨1⟩ ⟨7⟩) args).1 =
      .ok ⟨message, true⟩ := by
  intro args message accepted
  have reached : Steps (StoreStep quietRuntime)
      (initialStore uploadedStore.db uploadedStore.tables ()) [.upload] uploadedStore :=
    .step .refl (.upload rfl rfl)
  have keyed : args.idempotencyKey = some ⟨7⟩ := rfl
  have sent : send quietRuntime { now := 2, createdAt := 2 } uploadedStore args =
      (.ok ⟨message, false⟩, accepted) := Prod.ext (by decide) rfl
  have steps : Steps (StoreStep quietRuntime) accepted [.expire ⟨1⟩ ⟨7⟩]
      (expireEntry accepted ⟨1⟩ ⟨7⟩) := .step .refl (.expire ⟨1⟩ ⟨7⟩)
  have present : message ∈ (expireEntry accepted ⟨1⟩ ⟨7⟩).messages.table.rows := by decide
  refine (send_replays_iff reached keyed sent steps present rfl).mpr ⟨rfl, .inr ?_⟩
  exact ⟨rfl, nofun, by decide, "report", rfl⟩

end Bongtalk.Messaging
