import Bongtalk.Web.ChannelSync

/-!
# Convergence of a channel

Once a channel is synced and its events are through, its list should be a window of the list of the
server, from the newest row on. Each step says what the list must be like for that.
-/

namespace Bongtalk.Web

open Library EventLoop Prisma Row MessageListCache ChannelEvent List Option

/-- The channel is synced and not marked, and each event has been delivered or lost. -/
structure Settled (state : ChannelSync) : Prop where
  synced : state.sync.state = .synced
  untruncated : state.sync.truncated = false
  quiet : state.outstanding = []

abbrev ShownRow := DateTime × RowId × Option String

/-- A row with its content, at its place. -/
def Row.shown (row : Row) : ShownRow :=
  (row.createdAt, row.id, row.content)

/-- The server has the row, and with the given content. -/
def Row.ServedWith (content : Option String) (row served : Row) : Prop :=
  (row.createdAt, row.id, content) = served.shown

def Row.Current (row served : Row) : Prop :=
  row.ServedWith row.content served

/-- A window from the newest row on. It is the whole list if there is nothing older to load. -/
def Window (hasOlder : Bool) (visible window : List Row) : Prop :=
  ∃ older, visible = window ++ older ∧ (hasOlder = false → older = [])

/-- The rows stand for a window, row by row. -/
def Lists (hasOlder : Bool) (visible : List Row) (Agrees : Row → Row → Prop) (rows : List Row) :
    Prop :=
  ∃ window, Window hasOlder visible window ∧ Forall₂ Agrees rows window

namespace ChannelSync

variable (state : ChannelSync)

/-- The list that the server answers. -/
def visible : List Row :=
  state.table.listed.map MessageDto.row

/-- The cached list is the window from its oldest row to the newest one. -/
def ListsCurrent : Prop :=
  ∀ cache ∈ state.cache, Lists state.hasOlder state.visible Current cache.rows

def Converged : Prop :=
  Settled state → state.ListsCurrent

end ChannelSync

section Steps

variable (hasOlder : Bool) (visible : List Row) (cache : MessageListCache)

/-- A message that is not in the list is the newest one, as it comes, and the list is current
behind it. -/
def BringsNewest (message : MessageDto) : Prop :=
  if cache.first.holds (.message message.id) then Lists hasOlder visible Current cache.rows
  else ∃ newest older, visible = newest :: older ∧ message.row.Current newest ∧
    Lists hasOlder older Current cache.rows

/-- The content that comes is the one that the server has, and the other rows are current. -/
def BringsContent (messageId : MessageId) (content : Option String) : Prop :=
  Lists hasOlder visible (fun row =>
    row.ServedWith (if row.id = .message messageId then content else row.content)) cache.rows

/-- What an event must find. A deletion finds a thread root with replies where the server keeps
a placeholder, and else the other rows are current. -/
def ChannelEvent.Brings : ChannelEvent → Prop
  | created message _ =>
    if message.parentMessageId.isSome then Lists hasOlder visible Current cache.rows
    else BringsNewest hasOlder visible cache message
  | broadcast message => BringsNewest hasOlder visible cache message
  | updated messageId content _ => BringsContent hasOlder visible cache messageId (some content)
  | deleted messageId _ =>
    if (cache.rows.find? fun row => row.id = .message messageId).any isThreadRootWithReplies then
      BringsContent hasOlder visible cache messageId none
    else Lists hasOlder visible Current (cache.rows.filter fun row => row.id ≠ .message messageId)
  | replied _ _ | other => Lists hasOlder visible Current cache.rows

/-- What a fetch adds is what the list lacks, and the rows that it has are current. -/
def BringsMissing (fetched : List MessageDto) : Prop :=
  if cache.additions fetched = [] then Lists hasOlder visible Current cache.rows
  else ∃ window, Window hasOlder visible window ∧
    ((cache.rows ++ cache.additions fetched).map shown).Perm (window.map shown)

end Steps

/-- A merge brings what is missing, and a loaded page is still the newest one. Any other task finds
a current list. -/
def SyncTask.Finds (state : ChannelSync) : SyncTask → Prop
  | .merge messages _ => ∀ cache ∈ state.cache,
      BringsMissing state.hasOlder state.visible cache messages
  | .loaded page =>
    Lists page.hasMore state.visible Current (page.items.map MessageDto.row)
  | _ => state.ListsCurrent

/-- An event that is delivered brings the change. Any other input finds a current list; a commit
leaves an event to be delivered. -/
def SyncInput.Finds (state : ChannelSync) : SyncInput → Prop
  | .commit _ _ => True
  | .deliver envelope => ∀ cache ∈ state.cache,
      envelope.event.Brings state.hasOlder state.visible cache
  | _ => state.ListsCurrent

/-- Each step after which the channel is settled finds the list as it must be. -/
def FindsList (state : State ChannelSync SyncTask) : Label SyncTask SyncInput → Prop
  | .resume _ task _ => Settled (task.resume state.shared).1 → task.Finds state.shared
  | .accept input => Settled (input.take state.shared).1 → input.Finds state.shared

section Windows

variable {hasOlder : Bool} {visible rows : List Row} {Agrees Others : Row → Row → Prop} {row : Row}

theorem lists_congr (same : ∀ row served, Agrees row served ↔ Others row served) :
    Lists hasOlder visible Agrees rows ↔ Lists hasOlder visible Others rows := by
  have equal : Agrees = Others := funext fun row => funext fun served => propext (same row served)
  rw [equal]

theorem lists_map {change : Row → Row} : Lists hasOlder visible Agrees (rows.map change) ↔
    Lists hasOlder visible (fun row => Agrees (change row)) rows := by
  rw [Lists, Lists]
  simp only [forall₂_map_left_iff]

/-- A list of a row and others: the row is the newest one, and the others are behind it. -/
theorem lists_cons : Lists hasOlder visible Agrees (row :: rows) ↔
    ∃ newest older, visible = newest :: older ∧ Agrees row newest ∧
      Lists hasOlder older Agrees rows := by
  constructor
  · rintro ⟨window, ⟨behind, rfl, complete⟩, agree⟩
    cases agree with
    | cons agrees rest => exact ⟨_, _, rfl, agrees, _, ⟨behind, rfl, complete⟩, rest⟩
  · rintro ⟨newest, older, rfl, agrees, window, ⟨behind, rfl, complete⟩, rest⟩
    exact ⟨newest :: window, ⟨behind, rfl, complete⟩, .cons agrees rest⟩

theorem forall₂_current_iff {window : List Row} :
    Forall₂ Current rows window ↔ rows.map shown = window.map shown := by
  rw [← forall₂_eq_eq_eq, forall₂_map_left_iff, forall₂_map_right_iff]
  rfl

end Windows

section Dispatch

variable {hasOlder : Bool} {visible : List Row} {cache : MessageListCache} {message : MessageDto}
  {messageId : MessageId}

/-- A list of messages in one page. -/
structure MessageListCache.Served (cache : MessageListCache) : Prop where
  onePage : cache.rest = []
  messages : ∀ id ∈ cache.rows.map Row.id, ∃ messageId, id = .message messageId

namespace MessageListCache

section

variable (served : cache.Served)

include served

theorem Served.rows_eq : cache.rows = cache.first.items := by
  rw [rows, laterRows, served.onePage, flatMap_nil, append_nil]

theorem Served.withFirst_rows (items : List Row) : (cache.withFirst items).rows = items := by
  rw [rows_withFirst, laterRows, served.onePage, flatMap_nil, append_nil]

theorem Served.withFirst {items : List Row}
    (messages : ∀ row ∈ items, ∃ messageId, row.id = .message messageId) :
    (cache.withFirst items).Served where
  onePage := served.onePage
  messages := by
    rw [served.withFirst_rows]
    exact forall_mem_map.mpr messages

theorem Served.not_collapsesInto {row other : Row} (present : row ∈ cache.first.items) :
    row.collapsesInto other = false := by
  rw [← served.rows_eq] at present
  obtain ⟨messageId, isMessage⟩ := served.messages row.id (mem_map_of_mem present)
  rw [collapsesInto, isMessage]

theorem Served.not_holds_optimistic (clientNonce : ClientNonce) :
    .optimistic clientNonce ∉ cache.first.items.map Row.id := by
  rw [← served.rows_eq]
  intro held
  obtain ⟨messageId, isMessage⟩ := served.messages _ held
  cases isMessage

/-- A new message comes to the front. -/
theorem Served.created (row : Row) (nonce : Option ClientNonce) :
    cache.created row nonce =
      if cache.first.holds row.id then cache else cache.withFirst (row :: cache.first.items) := by
  rw [MessageListCache.created]
  have unmatched : (nonce.filter fun nonce => cache.first.holds (.optimistic nonce)) = none := by
    rw [filter_eq_none_iff]
    intro clientNonce _ held
    exact served.not_holds_optimistic clientNonce (Page.holds_iff.mp held)
  rw [unmatched]
  have kept : (cache.first.items.filter fun other => !other.collapsesInto row) =
      cache.first.items :=
    filter_eq_self.mpr fun other present => by
      rw [served.not_collapsesInto present, Bool.not_false]
  rw [kept]

end

end MessageListCache

/-- A page after a deletion: a thread root with replies is marked, anything else is removed. -/
theorem items_deleted_eq (page : Page) (messageId : MessageId) (version : Option Nat) :
    (page.deleted messageId version).items =
      if (page.items.find? fun row => row.id = .message messageId).any isThreadRootWithReplies then
        page.items.map (patchAt messageId fun row => row.markDeleted version)
      else page.items.filter fun row => row.id ≠ .message messageId := by
  rw [Page.deleted]
  cases found : page.items.find? fun row => row.id = .message messageId with
  | none =>
    have others : ∀ row ∈ page.items, row.id ≠ .message messageId := fun row present =>
      of_decide_eq_false (eq_false_of_ne_true (List.find?_eq_none.mp found row present))
    have unmarked : page.items.map (patchAt messageId fun row => row.markDeleted version) =
        page.items :=
      (map_congr_left fun row present => patchAt_of_ne (others row present)).trans (map_id' _)
    have kept : (page.items.filter fun row => row.id ≠ .message messageId) = page.items :=
      filter_eq_self.mpr fun row present => decide_eq_true (others row present)
    rw [any_none, if_neg Bool.false_ne_true, kept]
    exact unmarked
  | some target =>
    rw [any_some]
    dsimp only
    split <;> rfl

theorem MessageListCache.Served.rows_deleted (served : cache.Served) (version : Option Nat) :
    (cache.deleted messageId version).rows = (cache.first.deleted messageId version).items := by
  rw [deleted, rows_mapPages, served.onePage, flatMap_singleton]

theorem lists_prepended_iff (served : cache.Served) (row : Row) (sameId : row.id = message.row.id)
    (sameShown : row.shown = message.row.shown) :
    Lists hasOlder visible Current (if cache.first.holds row.id then cache
        else cache.withFirst (row :: cache.first.items)).rows ↔
      BringsNewest hasOlder visible cache message := by
  have current (other : Row) : row.Current other ↔ message.row.Current other := by
    change row.shown = other.shown ↔ message.row.shown = other.shown
    rw [sameShown]
  have sameHeld : cache.first.holds row.id = cache.first.holds (.message message.id) :=
    congrArg cache.first.holds sameId
  rw [BringsNewest, sameHeld]
  split
  · rfl
  rw [served.withFirst_rows, lists_cons, served.rows_eq]
  simp only [current]

/-- Rows whose content is exchanged for one message. -/
theorem lists_patched_iff {change : Row → Row} {content : Option String}
    (shown : ∀ row : Row, (change row).shown = (row.createdAt, row.id, content)) :
    Lists hasOlder visible Current (cache.rows.map (patchAt messageId change)) ↔
      BringsContent hasOlder visible cache messageId content := by
  rw [lists_map, BringsContent]
  refine lists_congr fun row other => ?_
  change (row.patchAt messageId change).shown = other.shown ↔ _ = other.shown
  by_cases same : row.id = .message messageId
  · rw [patchAt_of_eq same, shown, if_pos same]
  rw [patchAt_of_ne same, if_neg same]
  rfl

/-- An event leaves a current list exactly when it finds what it must. -/
theorem lists_dispatch_iff (served : cache.Served) (event : ChannelEvent) :
    Lists hasOlder visible Current (event.dispatch cache).rows ↔
      event.Brings hasOlder visible cache := by
  cases event with
  | created message nonce =>
    rw [dispatch, Brings]
    split
    · rfl
    rw [served.created]
    exact lists_prepended_iff served message.payload rfl rfl
  | broadcast message =>
    exact lists_prepended_iff served { message.payload with isBroadcast := true } rfl rfl
  | updated messageId content version =>
    rw [dispatch, MessageListCache.updated, rows_mapItems]
    exact lists_patched_iff fun _ => rfl
  | deleted messageId version =>
    rw [dispatch, served.rows_deleted, items_deleted_eq, ← served.rows_eq, Brings]
    split
    · exact lists_patched_iff fun _ => rfl
    · rfl
  | replied rootMessageId replyCount =>
    rw [dispatch, MessageListCache.replied, rows_mapItems, lists_map]
    refine lists_congr fun row other => ?_
    rw [patchAt]
    split <;> rfl
  | other => rfl

namespace MessageListCache.Served

section

variable (served : cache.Served)

include served

theorem of_subset {next : MessageListCache} (onePage : next.rest = [])
    (ids : next.rows.map Row.id ⊆ cache.rows.map Row.id) : next.Served where
  onePage := onePage
  messages := fun id present => served.messages id (ids present)

theorem prepended {row : Row} (messageId : MessageId) (sameId : row.id = .message messageId) :
    (cache.withFirst (row :: cache.first.items)).Served := by
  refine served.withFirst (forall_mem_cons.mpr ⟨⟨messageId, sameId⟩, fun other present => ?_⟩)
  rw [← served.rows_eq] at present
  exact served.messages other.id (mem_map_of_mem present)

theorem patched {change : Row → Row} (keepsId : ∀ row, (change row).id = row.id) :
    (cache.mapItems (patchAt messageId change)).Served := by
  apply served.of_subset (map_eq_nil_iff.mpr served.onePage)
  rw [rows_mapItems, map_id_patchAt keepsId]
  exact List.Subset.refl _

theorem dispatch (event : ChannelEvent) : (event.dispatch cache).Served := by
  cases event with
  | created message nonce =>
    rw [ChannelEvent.dispatch]
    split
    · exact served
    rw [served.created]
    split
    · exact served
    · exact served.prepended message.id rfl
  | broadcast message =>
    rw [ChannelEvent.dispatch, MessageListCache.broadcast]
    split
    · exact served
    · exact served.prepended message.id rfl
  | updated messageId content version => exact served.patched (id_merge content version)
  | deleted messageId version =>
    exact served.of_subset (map_eq_nil_iff.mpr served.onePage) sublist_rows_deleted.subset
  | replied rootMessageId replyCount => exact served.patched fun _ => rfl
  | other => exact served

theorem mergeGapMessages (fetched : List MessageDto) : (cache.mergeGapMessages fetched).Served := by
  rw [MessageListCache.mergeGapMessages]
  split
  · exact served
  refine served.withFirst fun row present => ?_
  rcases mem_append.mp ((mem_insertionSort _).mp present) with held | added
  · rw [← served.rows_eq] at held
    exact served.messages row.id (mem_map_of_mem held)
  · obtain ⟨message, -, rfl⟩ := mem_map.mp added
    exact ⟨message.id, rfl⟩

end

end MessageListCache.Served

end Dispatch

section Order

variable {hasOlder : Bool} {visible window : List Row} {cache : MessageListCache}

/-- Rows in the order of the list, no two at one place. -/
def NewestFirst (rows : List Row) : Prop :=
  rows.Pairwise fun newer older => older.order < newer.order

theorem NewestFirst.ofWindow (newestFirst : NewestFirst visible)
    (isWindow : Window hasOlder visible window) : NewestFirst window := by
  obtain ⟨older, rfl, -⟩ := isWindow
  exact (pairwise_append.mp newestFirst).1

/-- The place is part of what is shown. -/
def placeOf (shown : ShownRow) : ListOrder :=
  toLex (shown.1, shown.2.1.position)

/-- At each place there is one row. -/
theorem NewestFirst.eq_of_placeOf (newestFirst : NewestFirst window)
    {first second : ShownRow} (firstMem : first ∈ window.map shown)
    (secondMem : second ∈ window.map shown) (same : placeOf first = placeOf second) :
    first = second := by
  have once : ((window.map shown).map placeOf).Nodup := by
    rw [List.map_map, List.Nodup, List.pairwise_map]
    exact newestFirst.imp fun less => (ne_of_lt less).symm
  exact List.inj_on_of_nodup_map once firstMem secondMem same

/-- Sorting gives a window exactly when its rows are there. -/
theorem NewestFirst.shown_insertionSort_iff (newestFirst : NewestFirst window) (rows : List Row) :
    (rows.insertionSort fun newer older => older.order ≤ newer.order).map shown =
        window.map shown ↔ (rows.map shown).Perm (window.map shown) := by
  have sorted := (perm_insertionSort (fun newer older : Row => older.order ≤ newer.order)
    rows).map shown
  constructor
  · intro same
    rw [← same]
    exact sorted.symm
  · intro present
    have permuted := sorted.trans present
    have once (first second : ShownRow) (firstMem : first ∈ (rows.insertionSort _).map shown)
        (secondMem : second ∈ window.map shown) (notAfter : placeOf second ≤ placeOf first)
        (notBefore : placeOf first ≤ placeOf second) : first = second :=
      newestFirst.eq_of_placeOf (permuted.subset firstMem) secondMem
        (le_antisymm notBefore notAfter)
    refine Perm.eq_of_pairwise once ?_ ?_ permuted
    · rw [pairwise_map]
      exact pairwise_insertionSort _ rows
    · rw [pairwise_map]
      exact newestFirst.imp le_of_lt

/-- A merge leaves a current list exactly when it brings what is missing. -/
theorem lists_mergeGapMessages_iff (served : cache.Served) (newestFirst : NewestFirst visible)
    (fetched : List MessageDto) :
    Lists hasOlder visible Current (cache.mergeGapMessages fetched).rows ↔
      BringsMissing hasOlder visible cache fetched := by
  rw [mergeGapMessages, BringsMissing]
  split
  · rfl
  rw [served.withFirst_rows, ← served.rows_eq]
  refine exists_congr fun window => and_congr_right fun isWindow => ?_
  rw [forall₂_current_iff]
  exact (newestFirst.ofWindow isWindow).shown_insertionSort_iff _

end Order

section Server

variable {table : MessageTable}

/-- The messages in the order of the list, no two at one place. -/
def Ordered (table : MessageTable) : Prop :=
  Pairwise (fun newer older => older.order < newer.order) table

section

variable (ordered : Ordered table)

include ordered

theorem Ordered.newestFirst :
    NewestFirst (table.listed.map MessageDto.row) := by
  rw [NewestFirst, pairwise_map]
  exact Pairwise.sublist filter_sublist ordered

theorem Ordered.insert (message : MessageDto) :
    Ordered (table.insert message) := by
  refine pairwise_append.mpr ⟨ordered.sublist filter_sublist, ?_, ?_⟩
  · refine pairwise_cons.mpr ⟨fun other present => ?_, ordered.sublist filter_sublist⟩
    exact of_decide_eq_true (mem_filter.mp present).2
  · intro newer newerMem older olderMem
    have above : message.order < newer.order :=
      of_decide_eq_true (mem_filter.mp newerMem).2
    rcases mem_cons.mp olderMem with rfl | behind
    · exact above
    · exact lt_trans (of_decide_eq_true (mem_filter.mp behind).2) above

variable {change : MessageDto → MessageDto}

theorem Ordered.map (sameOrder : ∀ message, (change message).order = message.order) :
    Ordered (List.map change table) := by
  refine pairwise_map.mpr (Pairwise.imp (fun {newer older} less => ?_) ordered)
  rw [sameOrder, sameOrder]
  exact less

theorem Ordered.patch (messageId : MessageId)
    (sameOrder : ∀ message, (change message).order = message.order) :
    Ordered (table.patch messageId change) := by
  refine ordered.map fun message => ?_
  split
  · exact sameOrder message
  · rfl

theorem Ordered.countReplies (root : Option MessageId) (change : Nat → Nat) :
    Ordered (table.countReplies root change) := by
  refine ordered.map fun message => ?_
  split <;> rfl

theorem Ordered.apply (commit : Commit) :
    Ordered (commit.apply table) := by
  cases commit with
  | post message nonce => exact (ordered.insert message).countReplies _ _
  | edit messageId content => exact ordered.patch messageId fun _ => rfl
  | delete messageId =>
    have marked : Ordered (table.patch messageId fun message =>
        { message with content := none, deleted := true }) :=
      ordered.patch messageId fun _ => rfl
    exact marked.countReplies ((table.find messageId).bind MessageDto.repliesTo) (· - 1)
  | other => exact ordered

end

theorem events_ne_nil (commit : Commit) (table : MessageTable) : commit.events table ≠ [] := by
  cases commit with
  | post message nonce =>
    rw [Commit.events]
    split <;> exact cons_ne_nil _ _
  | edit messageId content | delete messageId | other => exact cons_ne_nil _ _

end Server

namespace ChannelSync

variable {state next : ChannelSync}

/-- What emitting changes. -/
structure Emits (state next : ChannelSync) : Prop where
  table : next.table = state.table
  cache : next.cache = state.cache
  outstanding : state.outstanding.length ≤ next.outstanding.length

theorem emits_foldl (redisUp : Bool) (events : List ChannelEvent) (state : ChannelSync) :
    Emits state (events.foldl (fun state event => state.emit redisUp event) state) := by
  induction events generalizing state with
  | nil => exact ⟨rfl, rfl, Nat.le_refl _⟩
  | cons event events ih =>
    have rest := ih (state.emit redisUp event)
    refine ⟨rest.table, rest.cache, Nat.le_trans ?_ rest.outstanding⟩
    exact (sublist_append_left _ _).length_le

/-- A commit leaves an event to be delivered. -/
theorem outstanding_commit (commit : Commit) (redisUp : Bool) :
    (state.commit commit redisUp).outstanding ≠ [] := by
  rw [ChannelSync.commit]
  cases isEvents : commit.events state.table with
  | nil => exact absurd isEvents (events_ne_nil commit state.table)
  | cons event events =>
    have emitted := (emits_foldl redisUp events
      (emit { state with table := commit.apply state.table } redisUp event)).outstanding
    refine ne_nil_of_length_pos (Nat.lt_of_lt_of_le ?_ emitted)
    rw [emit, length_append]
    exact Nat.succ_pos _

/-- The server's list is in order, and the cached one is of its messages. -/
structure Sound (state : ChannelSync) : Prop where
  ordered : Ordered state.table
  served : ∀ cache ∈ state.cache, cache.Served

theorem Sound.of_same (sound : state.Sound) (table : next.table = state.table)
    (cache : next.cache = state.cache) : next.Sound where
  ordered := table ▸ sound.ordered
  served := cache ▸ sound.served

variable {change : MessageListCache → MessageListCache}

theorem Sound.updateCache (sound : state.Sound)
    (served : ∀ {cache}, cache.Served → (change cache).Served) (table : next.table = state.table)
    (cache : next.cache = state.cache.map change) : next.Sound where
  ordered := table ▸ sound.ordered
  served := by
    rw [cache]
    intro changed isChanged
    obtain ⟨before, isBefore, rfl⟩ := map_eq_some_iff.mp isChanged
    exact served (sound.served before isBefore)

theorem served_loaded (page : ListPage) (cursor : Option MessageCursor) :
    Served ⟨⟨page.items.map MessageDto.row, cursor⟩, []⟩ where
  onePage := rfl
  messages := by
    intro id present
    rw [rows, laterRows, List.flatMap_nil, List.append_nil, List.map_map] at present
    obtain ⟨message, -, rfl⟩ := List.mem_map.mp present
    exact ⟨message.id, rfl⟩

theorem Sound.resume (sound : state.Sound) (task : SyncTask) : (task.resume state).1.Sound := by
  cases task with
  | syncChannelOnce =>
    rw [SyncTask.resume]
    split
    · exact sound.of_same rfl rfl
    · exact sound
  | fetchPage fetch | loadPage =>
    rw [SyncTask.resume]
    split
    · exact sound
    · exact sound.of_same rfl rfl
  | merge messages truncated =>
    exact sound.updateCache (fun served => served.mergeGapMessages messages) rfl rfl
  | loaded page =>
    refine ⟨sound.ordered, fun cache isLoaded => ?_⟩
    cases isLoaded
    exact served_loaded page page.prevCursor

theorem Sound.take (sound : state.Sound) (input : SyncInput) : (input.take state).1.Sound := by
  cases input with
  | commit commit redisUp =>
    have emitted := emits_foldl redisUp (commit.events state.table)
      { state with table := commit.apply state.table }
    exact ⟨emitted.table ▸ sound.ordered.apply commit, emitted.cache ▸ sound.served⟩
  | deliver envelope =>
    exact sound.updateCache (fun served => served.dispatch envelope.event) rfl rfl
  | _ => exact sound.of_same rfl rfl

theorem listsCurrent_of_same (table : next.table = state.table) (cache : next.cache = state.cache)
    (hasOlder : next.hasOlder = state.hasOlder) : next.ListsCurrent ↔ state.ListsCurrent := by
  rw [ListsCurrent, ListsCurrent, visible, visible, table, cache, hasOlder]

/-- The list after a change of the cache. -/
theorem listsCurrent_updateCache (table : next.table = state.table)
    (cache : next.cache = state.cache.map change) (hasOlder : next.hasOlder = state.hasOlder) :
    next.ListsCurrent ↔
      ∀ cache ∈ state.cache, Lists state.hasOlder state.visible Current (change cache).rows := by
  rw [ListsCurrent, visible, table, cache, hasOlder, ← visible]
  constructor
  · exact fun current before isBefore =>
      current (change before) (map_eq_some_iff.mpr ⟨before, isBefore, rfl⟩)
  · intro current changed isChanged
    obtain ⟨before, isBefore, rfl⟩ := map_eq_some_iff.mp isChanged
    exact current before isBefore

theorem listsCurrent_resume_iff (sound : state.Sound) (task : SyncTask) :
    (task.resume state).1.ListsCurrent ↔ task.Finds state := by
  cases task with
  | syncChannelOnce =>
    rw [SyncTask.resume]
    split
    · exact listsCurrent_of_same rfl rfl rfl
    · rfl
  | fetchPage fetch | loadPage =>
    rw [SyncTask.resume]
    split
    · rfl
    · exact listsCurrent_of_same rfl rfl rfl
  | merge messages truncated =>
    have merged : ((SyncTask.merge messages truncated).resume state).1.ListsCurrent ↔
        ∀ cache ∈ state.cache, Lists state.hasOlder state.visible Current
          (cache.mergeGapMessages messages).rows :=
      listsCurrent_updateCache rfl rfl rfl
    exact merged.trans (forall₂_congr fun cache isLoaded =>
      lists_mergeGapMessages_iff (sound.served cache isLoaded) sound.ordered.newestFirst messages)
  | loaded page =>
    have rows (cursor : Option MessageCursor) : MessageListCache.rows
        ⟨⟨page.items.map MessageDto.row, cursor⟩, []⟩ = page.items.map MessageDto.row :=
      append_nil _
    constructor
    · intro current
      have listed := current _ rfl
      rw [rows] at listed
      exact listed
    · intro found cache isLoaded
      cases isLoaded
      rw [rows]
      exact found

theorem converged_take_iff (sound : state.Sound) (input : SyncInput) :
    (input.take state).1.Converged ↔ (Settled (input.take state).1 → input.Finds state) := by
  cases input with
  | commit commit redisUp =>
    have unsettled : ¬ Settled (state.commit commit redisUp) := fun settled =>
      outstanding_commit commit redisUp settled.quiet
    exact iff_of_true (fun settled => absurd settled unsettled) fun _ => trivial
  | deliver envelope =>
    have delivered : (state.deliver envelope).1.ListsCurrent ↔ ∀ cache ∈ state.cache,
        Lists state.hasOlder state.visible Current (envelope.event.dispatch cache).rows :=
      listsCurrent_updateCache rfl rfl rfl
    exact imp_congr_right fun _ => delivered.trans (forall₂_congr fun cache isLoaded =>
      lists_dispatch_iff (sound.served cache isLoaded) envelope.event)
  | _ => exact imp_congr_right fun _ => listsCurrent_of_same rfl rfl rfl

end ChannelSync

instance (state : ChannelSync) : DecidablePred (SyncInput.Allowed state)
  | .commit (.post message _) _ =>
    inferInstanceAs (Decidable (∀ other ∈ state.table, other.id ≠ message.id))
  | .commit (.edit messageId _) _ | .commit (.delete messageId) _ =>
    inferInstanceAs
      (Decidable (∃ message ∈ state.table, message.id = messageId ∧ message.deleted = false))
  | .deliver envelope => inferInstanceAs (Decidable (envelope ∈ state.emitted))
  | .lose envelope => inferInstanceAs (Decidable (envelope ∈ state.outstanding))
  | .load => inferInstanceAs (Decidable (state.cache = none ∧ state.loading = false))
  | .retry => inferInstanceAs (Decidable (state.sync.retryTimer = true))
  | .commit .other _ | .connect | .disconnect | .channelJoined _ | .replayComplete
  | .replayTruncated _ | .setRest _ | .setRoute _ => .isTrue trivial

def permitted (state : State ChannelSync SyncTask) : Label SyncTask SyncInput → Bool
  | .accept input => decide (input.Allowed state.shared)
  | .resume _ _ _ => true

/-- A message of the first user. -/
def messageOf (id : Nat) (content : String) (parentMessageId : Option MessageId)
    (isBroadcast : Bool) : MessageDto where
  id := ⟨id⟩
  authorId := ⟨0⟩
  content := some content
  createdAt := id
  parentMessageId := parentMessageId
  isBroadcast := isBroadcast

/-- A channel with one message is loaded, and synced after a reconnect. -/
def loadAndReconnect : List (Move SyncInput) :=
  [.accept (.commit (.post (messageOf 1 "first" none false) none) true),
    .accept (.deliver ⟨0, some 1, .created (messageOf 1 "first" none false) none⟩),
    .accept .load, .run 0, .run 0, .accept (.channelJoined (some 1)),
    .accept .connect, .accept .replayComplete]

/-- The events of a reply that goes to the channel too are lost, and the next message tells of it. -/
def loseBroadcast : List (Move SyncInput) :=
  loadAndReconnect ++
    [.accept (.commit (.post (messageOf 2 "reply" (some ⟨1⟩) false) none) true),
      .accept (.commit (.post (messageOf 3 "reply" (some ⟨1⟩) true) none) true),
      .accept (.lose ⟨1, some 2, .created (messageOf 2 "reply" (some ⟨1⟩) false) none⟩),
      .accept (.lose ⟨2, some 3, .replied ⟨1⟩ 1⟩),
      .accept (.lose ⟨3, some 4, .broadcast (messageOf 3 "reply" (some ⟨1⟩) true)⟩),
      .accept (.commit (.post (messageOf 4 "last" none false) none) true),
      .accept (.deliver ⟨4, some 5, .created (messageOf 4 "last" none false) none⟩),
      .run 0, .run 0, .run 0]

/-- The event of an edit is lost, and the next message tells of it. -/
def loseEdit : List (Move SyncInput) :=
  loadAndReconnect ++
    [.accept (.commit (.edit ⟨1⟩ "edited") true),
      .accept (.lose ⟨1, some 2, .updated ⟨1⟩ "edited" 1⟩),
      .accept (.commit (.post (messageOf 2 "last" none false) none) true),
      .accept (.deliver ⟨2, some 3, .created (messageOf 2 "last" none false) none⟩),
      .run 0, .run 0, .run 0]

/-- The cached list and the list of the server. -/
def shownLists (state : ChannelSync) : List ShownRow × List ShownRow :=
  (state.cache.elim [] fun cache => cache.rows.map shown, state.visible.map shown)

theorem ChannelSync.Converged.isPrefix {state : ChannelSync} (converged : state.Converged)
    (settled : Settled state) : (shownLists state).1 <+: (shownLists state).2 := by
  have current := converged settled
  rw [shownLists]
  cases isCache : state.cache with
  | none => exact nil_prefix
  | some cache =>
    obtain ⟨window, ⟨older, isVisible, -⟩, agree⟩ := current cache isCache
    rw [elim_some, isVisible, forall₂_current_iff.mp agree, map_append]
    exact prefix_append _ _

/-- A script into a settled state with two given lists. -/
theorem exists_settled_of_play (moves : List (Move SyncInput))
    (lists : List ShownRow × List ShownRow)
    (played : ∃ finish ∈ syncLoop.play (fun state input => input.take state) permitted ⟨{}, []⟩ moves,
      (finish.shared.sync.state = .synced ∧ finish.shared.sync.truncated = false ∧
        finish.shared.outstanding = []) ∧ decide (shownLists finish.shared = lists)) :
    ∃ labels finish, Steps (Step syncLoop) ⟨{}, []⟩ labels finish ∧ Settled finish.shared ∧
      shownLists finish.shared = lists := by
  have accepts (state : State ChannelSync SyncTask) (input : SyncInput)
      (passed : permitted state (.accept input) = true) : syncLoop.Accepts state.shared input
        (input.take state.shared).1 (input.take state.shared).2 :=
    ⟨of_decide_eq_true passed, rfl, rfl⟩
  obtain ⟨labels, finish, steps, ⟨synced, untruncated, quiet⟩, same⟩ :=
    exists_run_of_play accepts (fun _ _ _ => trivial)
      (fun steps : Steps (Guarded (Step syncLoop) fun _ _ => True) _ _ _ => steps.mono And.left)
      moves played
  exact ⟨labels, finish, steps, ⟨synced, untruncated, quiet⟩, of_decide_eq_true same⟩

/-- The cached list lacks the broadcast row. -/
def broadcastMissing : List ShownRow × List ShownRow :=
  ([(4, .message ⟨4⟩, some "last"), (1, .message ⟨1⟩, some "first")],
    [(4, .message ⟨4⟩, some "last"), (3, .message ⟨3⟩, some "reply"),
      (1, .message ⟨1⟩, some "first")])

/-- The cached list has the content from before the edit. -/
def editMissing : List ShownRow × List ShownRow :=
  ([(2, .message ⟨2⟩, some "last"), (1, .message ⟨1⟩, some "first")],
    [(2, .message ⟨2⟩, some "last"), (1, .message ⟨1⟩, some "edited")])

end Bongtalk.Web
