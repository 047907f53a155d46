import Bongtalk.Web.OptimisticSends

/-!
# Exactly one row for each send

Which inputs keep the law, one by one, and what that says of whole runs.
-/

namespace Bongtalk.Web

open Library Prisma SendClient MessageListCache List

variable {state : SendClient} {clientNonce : ClientNonce}

namespace SendClient

/-- A send has no row before it is submitted. -/
theorem Sound.countP_eq_zero (sound : state.Sound) (isNew : clientNonce ∉ state.sends) :
    state.shownIds.countP (state.renders clientNonce) = 0 := by
  refine List.countP_eq_zero.mpr fun id present isRendered => isNew ?_
  rcases renders_iff.mp isRendered with rfl | ⟨messageId, confirmed, -⟩
  · exact (sound.shown _ present).optimistic
  · exact (sound.sent clientNonce messageId confirmed).1

theorem oneRowEach_submit_iff (sound : state.Sound) (law : state.OneRowEach) {authorId : RowAuthor}
    {content : String} {createdAt : DateTime} :
    (state.take (.submit clientNonce authorId content createdAt)).OneRowEach ↔
      ∃ cache, state.cache = some cache ∧
        (clientNonce ∈ state.sends → .optimistic clientNonce ∈ cache.first.items.map Row.id) := by
  have counts : (state.take (.submit clientNonce authorId content createdAt)).OneRowEach ↔
      ∀ sent ∈ state.sends.insert clientNonce, ((state.cache.map fun cache =>
        cache.onMutate clientNonce authorId content createdAt).elim []
          ids).countP (state.renders sent) = 1 := Iff.rfl
  rw [counts]
  cases isLoaded : state.cache with
  | none =>
    refine iff_of_false (fun law => ?_) (by simp)
    exact absurd (law clientNonce mem_insert_self) (by simp)
  | some cache =>
    have shown : state.shownIds = cache.ids := by
      rw [shownIds, isLoaded]
      rfl
    rw [Option.map_some, Option.elim_some, ids_onMutate]
    have exact_ : (∃ loaded, some cache = some loaded ∧ (clientNonce ∈ state.sends →
        .optimistic clientNonce ∈ loaded.first.items.map Row.id)) ↔
        (clientNonce ∈ state.sends →
          .optimistic clientNonce ∈ cache.first.items.map Row.id) := by simp
    rw [exact_]
    split
    next held =>
      refine iff_of_true (fun sent isSent => ?_) fun _ => held
      have known := sound.shown (.optimistic clientNonce) (by
        rw [shown, ids_eq]
        exact mem_append_left _ held)
      rw [insert_of_mem known.optimistic] at isSent
      rw [← shown]
      exact law sent isSent
    next notHeld =>
      have after (sent : ClientNonce) :
          (RowId.optimistic clientNonce :: cache.ids).countP (state.renders sent) =
            state.shownIds.countP (state.renders sent) + if clientNonce = sent then 1 else 0 := by
        rw [countP_cons, shown]
        simp only [renders_optimistic_iff]
      constructor
      · intro all isSent
        have once := all clientNonce mem_insert_self
        rw [after, law clientNonce isSent, if_pos rfl] at once
        exact absurd once (by decide)
      · intro isNew sent isSent
        have fresh : clientNonce ∉ state.sends := fun isSent => notHeld (isNew isSent)
        rw [after]
        rcases mem_insert_iff.mp isSent with rfl | earlier
        · rw [sound.countP_eq_zero fresh, if_pos rfl]
        have different : clientNonce ≠ sent := by
          rintro rfl
          exact fresh earlier
        rw [law sent earlier, if_neg different]

variable {message : Row}

theorem OneRowEach.store (sound : state.Sound) (law : state.OneRowEach)
    {clientNonce : Option ClientNonce} (permitted : state.Permits (.store clientNonce message)) :
    (state.take (.store clientNonce message)).OneRowEach := by
  refine law.of_counts rfl fun sent _ => countP_congr fun id present => ?_
  have isOther : id ≠ .message ⟨state.nextMessageId⟩ := by
    rintro rfl
    exact absurd (sound.shown _ present).message (Nat.lt_irrefl _)
  rw [renders_iff, renders_iff]
  apply or_congr_right
  cases clientNonce with
  | none => exact Iff.rfl
  | some stored =>
    by_cases same : sent = stored
    · obtain rfl := same
      have isNew : (state.take (.store (some sent) message)).confirmed sent =
          some ⟨state.nextMessageId⟩ := Function.update_self _ _ _
      rw [isNew, (permitted sent rfl).2]
      refine iff_of_false ?_ (by simp)
      rintro ⟨messageId, stored, same⟩
      exact isOther (Option.some.inj stored ▸ same)
    · have kept : (state.take (.store (some stored) message)).confirmed sent =
          state.confirmed sent := Function.update_of_ne same _ _
      rw [kept]

/-- The row of a send and that of its message render the same. -/
theorem Sound.renders_swap (sound : state.Sound) {clientNonce sent : ClientNonce}
    {messageId : MessageId} (confirmed : state.confirmed clientNonce = some messageId)
    (same : message.id = .message messageId) (id : RowId) :
    state.renders sent (if id = .optimistic clientNonce then message.id else id) =
      state.renders sent id := by
  split
  next isRow =>
    rw [isRow, same, Bool.eq_iff_iff, renders_message_iff, renders_optimistic_iff]
    constructor
    · exact sound.ofOne clientNonce sent messageId confirmed
    · rintro rfl
      exact confirmed
  · rfl

theorem OneRowEach.respond (sound : state.Sound) (law : state.OneRowEach)
    (permitted : state.Permits (.respond clientNonce message)) :
    (state.take (.respond clientNonce message)).OneRowEach := by
  obtain ⟨messageId, confirmed, same⟩ := permitted
  refine law.updateCache_of_counts fun cache _ sent _ => ?_
  rw [ids_confirmOptimistic]
  exact countP_map_of_same fun id _ => sound.renders_swap confirmed same id

/-- A change of the rows of messages of others. -/
theorem OneRowEach.deleted (law : state.OneRowEach) {messageId : MessageId} {version : Option Nat}
    (other : state.OfOther messageId) : (state.take (.deleted messageId version)).OneRowEach := by
  refine law.updateCache_of_counts fun cache _ sent _ => ?_
  have kept (ids : List RowId) : ids.countP (state.renders sent) =
      (ids.filter fun id => id ≠ .message messageId).countP (state.renders sent) := by
    rw [countP_filter]
    refine countP_congr fun id _ => ?_
    rw [Bool.and_eq_true, decide_eq_true_eq]
    refine (and_iff_left_of_imp ?_).symm
    rintro isRendered rfl
    rw [renders_of_other other] at isRendered
    cases isRendered
  rw [kept, kept cache.ids, filter_ids_deleted]

theorem OneRowEach.broadcast (law : state.OneRowEach)
    (permitted : state.Permits (.broadcast message)) :
    (state.take (.broadcast message)).OneRowEach := by
  obtain ⟨⟨messageId, same, -⟩, other⟩ := permitted
  refine law.updateCache_of_counts fun cache _ sent _ => ?_
  rw [MessageListCache.broadcast]
  split
  · rfl
  rw [ids_withFirst, ids_eq, map_cons, cons_append, countP_cons_of_neg]
  rw [same, renders_of_other (other messageId same)]
  exact Bool.false_ne_true

/-- What collapses is an optimistic row. -/
theorem optimistic_of_collapses {row message : Row} (collapses : row.collapsesInto message = true) :
    ∃ clientNonce, row.id = .optimistic clientNonce := by
  rw [Row.collapsesInto] at collapses
  split at collapses
  next clientNonce same => exact ⟨clientNonce, same⟩
  · cases collapses

/-- A message in front of the rows it does not collapse: each send keeps one row exactly when the
message collapses the row of its own send and no other. -/
theorem oneRowEach_prepended_iff (law : state.OneRowEach) {cache : MessageListCache}
    (isLoaded : state.cache = some cache) (stored : state.HasStored message.id) :
    (∀ sent ∈ state.sends, (cache.withFirst (message :: cache.first.items.filter fun row =>
        !row.collapsesInto message)).ids.countP (state.renders sent) = 1) ↔
      ∀ clientNonce ∈ state.sends,
        (∃ row ∈ cache.first.items, row.id = .optimistic clientNonce ∧
            row.collapsesInto message = true) ↔
          ∃ messageId, state.confirmed clientNonce = some messageId ∧
            message.id = .message messageId := by
  refine forall₂_congr fun sent isSent => ?_
  have before : cache.ids.countP (state.renders sent) = 1 := by
    have once := law sent isSent
    rwa [shownIds, isLoaded] at once
  have split (rows : List Row) : (rows.map Row.id).countP (state.renders sent) =
      ((rows.filter fun row => row.collapsesInto message).map Row.id).countP (state.renders sent) +
        ((rows.filter fun row => !row.collapsesInto message).map Row.id).countP
          (state.renders sent) := by
    rw [← countP_append, ← map_append]
    exact ((filter_append_perm _ rows).symm.map Row.id).countP_eq _
  have collapsed : 0 < ((cache.first.items.filter fun row => row.collapsesInto message).map
        Row.id).countP (state.renders sent) ↔
      ∃ row ∈ cache.first.items, row.id = .optimistic sent ∧ row.collapsesInto message = true := by
    rw [countP_pos_iff]
    constructor
    · rintro ⟨id, present, isRendered⟩
      obtain ⟨row, isCollapsed, rfl⟩ := mem_map.mp present
      obtain ⟨rowMem, collapses⟩ := mem_filter.mp isCollapsed
      obtain ⟨clientNonce, same⟩ := optimistic_of_collapses collapses
      rw [same, renders_optimistic_iff] at isRendered
      exact ⟨row, rowMem, isRendered ▸ same, collapses⟩
    · rintro ⟨row, rowMem, same, collapses⟩
      refine ⟨row.id, mem_map_of_mem (mem_filter.mpr ⟨rowMem, collapses⟩), ?_⟩
      rw [same, renders_optimistic_iff]
  have isOwn : state.renders sent message.id = true ↔
      ∃ messageId, state.confirmed sent = some messageId ∧ message.id = .message messageId := by
    rw [renders_iff]
    refine or_iff_right fun isRow => ?_
    obtain ⟨messageId, same, -⟩ := stored
    rw [same] at isRow
    cases isRow
  rw [ids_eq, countP_append, split] at before
  rw [ids_withFirst, map_cons, cons_append, countP_cons, countP_append, ← collapsed, ← isOwn]
  split
  next own =>
    rw [iff_true_right own]
    omega
  next foreign =>
    rw [iff_false_right foreign]
    omega

theorem oneRowEach_created_iff (sound : state.Sound) (law : state.OneRowEach)
    {nonce : Option ClientNonce} (permitted : state.Permits (.created message nonce)) :
    (state.take (.created message nonce)).OneRowEach ↔
      state.KeepsOneRow (.created message nonce) := by
  cases isLoaded : state.cache with
  | none =>
    refine iff_of_true (law.updateCache_of_counts fun cache isSome => ?_) fun cache isSome => ?_
    · rw [isLoaded] at isSome
      cases isSome
    · rw [isLoaded] at isSome
      cases isSome
  | some cache =>
    have guard : state.KeepsOneRow (.created message nonce) ↔
        message.id ∈ cache.first.items.map Row.id ∨
          (∃ sent ∈ nonce, .optimistic sent ∈ cache.first.items.map Row.id) ∨
          ∀ clientNonce ∈ state.sends,
            (∃ row ∈ cache.first.items, row.id = .optimistic clientNonce ∧
                row.collapsesInto message = true) ↔
              ∃ messageId, state.confirmed clientNonce = some messageId ∧
                message.id = .message messageId := by
      rw [KeepsOneRow, isLoaded]
      exact ⟨fun all => all cache rfl, fun holds other same => Option.some.inj same ▸ holds⟩
    have shown : state.shownIds = cache.ids := by
      rw [shownIds, isLoaded]
      rfl
    have next : (state.take (.created message nonce)).OneRowEach ↔ ∀ sent ∈ state.sends,
        (cache.created message nonce).ids.countP (state.renders sent) = 1 := by
      rw [take, updateCache, isLoaded]
      exact Iff.rfl
    have effect : CreatedEffect cache message nonce (cache.created message nonce) :=
      createdEffect_created
    rw [next, guard]
    generalize cache.created message nonce = after at effect
    cases effect with
    | same held =>
      rw [← shown]
      exact iff_of_true law (.inl held)
    | swapped fresh echoed held =>
      next clientNonce =>
      refine iff_of_true (fun sent isSent => ?_) (.inr (.inl ⟨clientNonce, echoed, held⟩))
      have known := sound.shown (.optimistic clientNonce) (by
        rw [shown, ids_eq]
        exact mem_append_left _ held)
      obtain ⟨messageId, confirmed, same⟩ := permitted.2 clientNonce echoed known.optimistic
      have swapped : (cache.first.items.map fun row =>
          if row.id = .optimistic clientNonce then message else row).map Row.id =
          (cache.first.items.map Row.id).map fun id =>
            if id = .optimistic clientNonce then message.id else id := by
        rw [map_map, map_map]
        exact map_congr_left fun row _ => apply_ite Row.id _ _ _
      rw [ids_withFirst, countP_append, swapped,
        countP_map_of_same fun id _ => sound.renders_swap confirmed same id,
        ← countP_append, ← ids_eq, ← shown]
      exact law sent isSent
    | prepended fresh unmatched =>
      rw [oneRowEach_prepended_iff law isLoaded permitted.1, or_iff_right fresh, or_iff_right]
      rintro ⟨sent, echoed, held⟩
      exact unmatched sent echoed held

/-- Of rows from the server, one renders a send exactly when the message of the send is there. -/
theorem countP_served_eq_one_iff {rows : List Row} (served : state.Served rows)
    {clientNonce : ClientNonce} :
    (rows.map Row.id).countP (state.renders clientNonce) = 1 ↔
      ∃ messageId, state.confirmed clientNonce = some messageId ∧
        .message messageId ∈ rows.map Row.id := by
  constructor
  · intro once
    obtain ⟨id, present, isRendered⟩ := countP_pos_iff.mp (once ▸ Nat.one_pos)
    rcases renders_iff.mp isRendered with rfl | ⟨messageId, confirmed, rfl⟩
    · obtain ⟨row, rowMem, same⟩ := mem_map.mp present
      obtain ⟨messageId, stored, -⟩ := served.stored row rowMem
      cases stored.symm.trans same
    · exact ⟨messageId, confirmed, present⟩
  · rintro ⟨messageId, confirmed, present⟩
    rw [← count_eq_one_of_mem served.once present, List.count]
    refine countP_congr fun id idMem => ?_
    obtain ⟨row, rowMem, rfl⟩ := mem_map.mp idMem
    obtain ⟨other, same, -⟩ := served.stored row rowMem
    rw [same, renders_message_iff, confirmed, beq_iff_eq]
    constructor
    · rintro ⟨⟩
      rfl
    · rintro ⟨⟩
      rfl

theorem oneRowEach_refetched_iff (sound : state.Sound) (permitted : state.Permits .refetched) :
    (state.take .refetched).OneRowEach ↔ state.KeepsOneRow .refetched := by
  obtain ⟨⟨pages, wanted, hasMore⟩, isRefetch, complete⟩ := permitted
  have served := sound.fetched _ isRefetch
  have started := sound.started _ isRefetch
  have guard : state.KeepsOneRow .refetched ↔ ∀ clientNonce ∈ state.sends,
      ∃ messageId, state.confirmed clientNonce = some messageId ∧
        .message messageId ∈ (Refetch.rows ⟨pages, wanted, hasMore⟩).map Row.id := by
    rw [KeepsOneRow, isRefetch]
    exact ⟨fun all => all _ rfl, fun holds other same => Option.some.inj same ▸ holds⟩
  rw [guard]
  cases pages with
  | nil =>
    rw [started rfl] at complete
    cases complete
  | cons first rest =>
    have next : state.take .refetched =
        { state with cache := some ⟨first, rest⟩, refetch := none } := by
      rw [take, isRefetch]
    rw [next]
    exact forall₂_congr fun clientNonce _ => countP_served_eq_one_iff served

/-- One input keeps a row for each send exactly when the guard allows it. -/
theorem oneRowEach_take_iff (sound : state.Sound) (law : state.OneRowEach) {input : SendInput}
    (permitted : state.Permits input) :
    (state.take input).OneRowEach ↔ state.KeepsOneRow input := by
  cases input with
  | submit clientNonce authorId content createdAt => exact oneRowEach_submit_iff sound law
  | created message nonce => exact oneRowEach_created_iff sound law permitted
  | refetched => exact oneRowEach_refetched_iff sound permitted
  | store clientNonce message => exact iff_of_true (law.store sound permitted) trivial
  | respond clientNonce message => exact iff_of_true (law.respond sound permitted) trivial
  | deleted messageId version => exact iff_of_true (law.deleted permitted) trivial
  | broadcast message => exact iff_of_true (law.broadcast permitted) trivial
  | fail clientNonce delegated =>
    refine iff_of_true ?_ trivial
    cases delegated with
    | true => exact law
    | false => exact law.updateCache fun _ => ids_markOptimistic
  | timeout clientNonce =>
    exact iff_of_true (law.updateCache fun _ => ids_applyTimeoutFailure) trivial
  | updated messageId content version =>
    exact iff_of_true (law.updateCache fun _ => ids_updated) trivial
  | replied messageId replyCount =>
    exact iff_of_true (law.updateCache fun _ => ids_replied) trivial
  | edit messageId content version | remove messageId | invalidate | readPage =>
    exact iff_of_true law trivial

end SendClient

/-- A client that has sent nothing yet, with or without a list. -/
structure Opening where
  cache : Option MessageListCache := none
  log : List Row := []
  nextMessageId : Nat := 0
  shown : ∀ id ∈ cache.elim [] ids,
    ∃ messageId, id = .message messageId ∧ messageId.value < nextMessageId
  stored : ∀ row ∈ log, ∃ messageId, row.id = .message messageId ∧ messageId.value < nextMessageId
  newestFirst : log.Pairwise fun newer older => older.id.position < newer.id.position

def Opening.client (opening : Opening) : SendClient where
  cache := opening.cache
  log := opening.log
  nextMessageId := opening.nextMessageId

theorem Opening.sound (opening : Opening) : opening.client.Sound where
  shown := fun id present => .inl (opening.shown id present)
  log := ⟨opening.stored, opening.newestFirst⟩
  fetched := fun _ none_ => by cases none_
  started := fun _ none_ => by cases none_
  sent := fun _ _ none_ => by cases none_
  ofOne := fun _ _ _ none_ => by cases none_

/-- The row that an event on the list is about. -/
def SendInput.about : SendInput → Option RowId
  | created message _ => some message.id
  | broadcast message => some message.id
  | updated messageId _ _ => some (.message messageId)
  | deleted messageId _ => some (.message messageId)
  | replied messageId _ => some (.message messageId)
  | _ => none

/-- After the step each send has one row. An optimistic row that is gone has been replaced by that
of the message of its send, and not by an event about another message. -/
structure RendersExactly (state : SendClient) (input : SendInput) (next : SendClient) : Prop where
  taken : state.Takes input next
  oneRow : next.OneRowEach
  replaced : ∀ clientNonce ∈ state.sends, .optimistic clientNonce ∈ state.shownIds →
    .optimistic clientNonce ∈ next.shownIds ∨ ∃ messageId,
      next.confirmed clientNonce = some messageId ∧ .message messageId ∈ next.shownIds
  kept : ∀ id ∈ input.about, ∀ clientNonce ∈ state.sends,
    (∀ messageId, state.confirmed clientNonce = some messageId → id ≠ .message messageId) →
      .optimistic clientNonce ∈ state.shownIds → .optimistic clientNonce ∈ next.shownIds

section Replacement

variable {input : SendInput}

namespace SendClient

theorem mem_sends_take (isSent : clientNonce ∈ state.sends) :
    clientNonce ∈ (state.take input).sends := by
  cases input with
  | submit => exact mem_insert_of_mem isSent
  | fail sent delegated => cases delegated <;> exact isSent
  | refetched =>
    rw [take]
    split <;> exact isSent
  | _ => exact isSent

/-- The one row of a send. -/
theorem OneRowEach.cases_row (law : state.OneRowEach) (isSent : clientNonce ∈ state.sends) :
    .optimistic clientNonce ∈ state.shownIds ∨
      ∃ messageId, state.confirmed clientNonce = some messageId ∧
        .message messageId ∈ state.shownIds := by
  obtain ⟨id, present, isRendered⟩ := countP_pos_iff.mp (law clientNonce isSent ▸ Nat.one_pos)
  rcases renders_iff.mp isRendered with rfl | ⟨messageId, confirmed, rfl⟩
  · exact .inl present
  · exact .inr ⟨messageId, confirmed, present⟩

/-- A send is not rendered by its message beside the optimistic row. -/
theorem OneRowEach.not_both (law : state.OneRowEach) (isSent : clientNonce ∈ state.sends)
    (isRow : .optimistic clientNonce ∈ state.shownIds) {messageId : MessageId}
    (confirmed : state.confirmed clientNonce = some messageId) :
    .message messageId ∉ state.shownIds := by
  intro present
  have once := law clientNonce isSent
  rw [countP_eq_length_filter, length_eq_one_iff] at once
  obtain ⟨only, isOnly⟩ := once
  have first : RowId.optimistic clientNonce ∈ [only] :=
    isOnly ▸ mem_filter.mpr ⟨isRow, renders_optimistic_iff.mpr rfl⟩
  have second : RowId.message messageId ∈ [only] :=
    isOnly ▸ mem_filter.mpr ⟨present, renders_message_iff.mpr confirmed⟩
  cases (mem_singleton.mp first).trans (mem_singleton.mp second).symm

/-- An event brings no row but the one it is about, and confirms no send. -/
theorem event_brings {id : RowId} (isAbout : id ∈ input.about) :
    (state.take input).confirmed = state.confirmed ∧
      ∀ other ∈ (state.take input).shownIds, other = id ∨ other ∈ state.shownIds := by
  have brings {change : MessageListCache → MessageListCache}
      (mem : ∀ {cache other}, other ∈ (change cache).ids → other = id ∨ other ∈ cache.ids) :
      (state.updateCache change).confirmed = state.confirmed ∧
        ∀ other ∈ (state.updateCache change).shownIds, other = id ∨ other ∈ state.shownIds := by
    refine ⟨rfl, fun other => ?_⟩
    rw [shownIds, shownIds, updateCache]
    cases state.cache with
    | none => exact .inr
    | some cache => exact mem
  cases input with
  | created message nonce =>
    cases isAbout
    exact brings mem_ids_created
  | broadcast message =>
    cases isAbout
    exact brings mem_ids_broadcast
  | updated messageId content version =>
    exact brings fun present => .inr (ids_updated ▸ present)
  | deleted messageId version =>
    exact brings fun present => .inr (sublist_rows_deleted.subset present)
  | replied messageId replyCount =>
    exact brings fun present => .inr (ids_replied ▸ present)
  | _ => cases isAbout

end SendClient

theorem rendersExactly_of_lawful {next : SendClient} (taken : state.Takes input next)
    (before : state.OneRowEach) (law : next.OneRowEach) : RendersExactly state input next where
  taken := taken
  oneRow := law
  replaced := by
    intro clientNonce isSent _
    obtain ⟨-, rfl⟩ := taken
    exact law.cases_row (mem_sends_take isSent)
  kept := by
    intro id isAbout clientNonce isSent isOther isRow
    obtain ⟨-, rfl⟩ := taken
    obtain ⟨sameConfirmed, brought⟩ := event_brings isAbout
    rcases law.cases_row (mem_sends_take isSent) with isKept | ⟨messageId, confirmed, present⟩
    · exact isKept
    rw [sameConfirmed] at confirmed
    rcases brought _ present with same | earlier
    · exact absurd same.symm (isOther messageId confirmed)
    · exact absurd earlier (before.not_both isSent isRow confirmed)

end Replacement

/-- Along a run each send is rendered by exactly one row, which only its own message replaces,
exactly when sends meet a loaded list and find their row again, a new message that finds neither
itself nor its nonce collapses the row of its own send and no other, and a refetch ends when it
has read the messages of all sends. -/
theorem optimistic_rows_exact_iff (opening : Opening) {inputs : List SendInput}
    {finish : SendClient} :
    Steps RendersExactly opening.client inputs finish ↔
      Steps (Guarded Takes KeepsOneRow) opening.client inputs finish := by
  have initially : opening.client.OneRowEach := forall_mem_nil _
  have lawful : Steps (Lawful Takes OneRowEach) opening.client inputs finish ↔
      Steps (Guarded Takes KeepsOneRow) opening.client inputs finish := by
    refine Steps.lawful_iff_guarded Sound
      (fun taken sound => sound_takes sound taken) ?_ opening.sound initially
    rintro state input next ⟨permitted, rfl⟩ sound law
    exact oneRowEach_take_iff sound law permitted
  rw [← lawful]
  constructor
  · exact fun steps => steps.mono fun exact_ => ⟨exact_.taken, exact_.oneRow⟩
  · have follows {state : SendClient} {input : SendInput} {next : SendClient}
        (taken : state.Takes input next) (before : state.OneRowEach) (law : next.OneRowEach) :
        RendersExactly state input next := rendersExactly_of_lawful taken before law
    exact Steps.of_lawful RendersExactly follows initially

def emptyOpening : Opening where
  cache := some ⟨⟨[], none⟩, []⟩
  shown := forall_mem_nil _
  stored := forall_mem_nil _
  newestFirst := .nil

def hello (clientNonce : Nat) (authorId : RowAuthor) : SendInput :=
  .submit ⟨clientNonce⟩ authorId "hello" 0

def helloMessage : Row where
  id := .message ⟨0⟩
  authorId := .user ⟨0⟩
  content := some "hello"

/-- An echo without its nonce comes beside the row of its send. While the client has no user, such
an echo removes the row of another send with the same text. A refetch drops the row of a send that
has no message yet. -/
theorem sends_without_their_row :
    (∃ inputs finish, Steps Takes emptyOpening.client inputs finish ∧
      finish.shownIds = [.message ⟨0⟩, .optimistic ⟨0⟩] ∧
      finish.confirmed ⟨0⟩ = some ⟨0⟩ ∧ ¬finish.OneRowEach) ∧
    (∃ inputs finish, Steps Takes emptyOpening.client inputs finish ∧
      finish.sends = [⟨1⟩, ⟨0⟩] ∧ finish.shownIds = [.message ⟨0⟩] ∧
      finish.confirmed ⟨1⟩ = none ∧ ¬finish.OneRowEach) ∧
    ∃ inputs finish, Steps Takes emptyOpening.client inputs finish ∧
      finish.sends = [⟨0⟩] ∧ finish.shownIds = [] ∧ ¬finish.OneRowEach := by
  have run (inputs : List SendInput) (allowed : Steps.AllAllowed take
      Permits emptyOpening.client inputs) :
      Steps Takes emptyOpening.client inputs (inputs.foldl take emptyOpening.client) :=
    Steps.of_allAllowed (fun _ _ permitted => ⟨permitted, rfl⟩) allowed
  have isStored {state : SendClient} (stored : 0 < state.nextMessageId) :
      state.Permits (.created helloMessage none) :=
    ⟨⟨⟨0⟩, rfl, stored⟩, fun _ none_ => (by cases none_)⟩
  have mayStore {state : SendClient} (sent : ⟨0⟩ ∈ state.sends)
      (unconfirmed : state.confirmed ⟨0⟩ = none) :
      state.Permits (.store (some ⟨0⟩) helloMessage) := by
    rintro sent ⟨⟩
    exact ⟨sent, unconfirmed⟩
  have echoed := run [hello 0 (.user ⟨0⟩), .store (some ⟨0⟩) helloMessage,
      .created helloMessage none]
    ⟨trivial, mayStore (by decide) rfl, isStored (by decide), trivial⟩
  have collapsed := run [hello 0 .optimistic, hello 1 .optimistic,
      .store (some ⟨0⟩) helloMessage, .created helloMessage none]
    ⟨trivial, trivial, mayStore (by decide) rfl, isStored (by decide), trivial⟩
  have refetched := run [hello 0 (.user ⟨0⟩), .invalidate, .readPage, .refetched]
    ⟨trivial, trivial, ⟨_, rfl, rfl⟩, ⟨_, rfl, rfl⟩, trivial⟩
  refine ⟨⟨_, _, echoed, by decide, rfl, fun law => ?_⟩,
    ⟨_, _, collapsed, by decide, by decide, rfl, fun law => ?_⟩,
    _, _, refetched, by decide, by decide, fun law => ?_⟩
  · exact absurd (law ⟨0⟩ (by decide)) (by decide)
  · exact absurd (law ⟨1⟩ (by decide)) (by decide)
  · exact absurd (law ⟨0⟩ (by decide)) (by decide)

end Bongtalk.Web
