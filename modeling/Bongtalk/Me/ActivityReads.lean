import Bongtalk.Me.ActivityFeed

/-!
# Marking activities read

All unread activities of the first page are marked at once. One activity is marked by its key.
-/

namespace Bongtalk.Me

open Library Common Messages Prisma InboxState List

section Marks

variable {state : InboxState} {userId : UserId} {now : DateTime}

theorem findUnique_upsertRead (key other : List Char) :
    (state.upsertRead userId now key).activityReads.findUnique (userId, other) =
      if key = other then some ⟨userId, key, now⟩
      else state.activityReads.findUnique (userId, other) := by
  refine (Table.findUnique_upsert _).trans (if_congr ?_ rfl rfl)
  exact ⟨fun same => (Prod.mk.inj same).2, congrArg (Prod.mk userId)⟩

theorem readAtOf_upsertRead (key : List Char) :
    (state.upsertRead userId now key).readAtOf userId key = some now := by
  rw [readAtOf, findUnique_upsertRead, if_pos rfl]
  rfl

/-- A mark makes its own key read, and no other. -/
theorem isUnread_upsertRead (key other : List Char) :
    (state.upsertRead userId now key).isUnread userId other =
      (state.isUnread userId other && other != key) := by
  rw [isUnread, findUnique_upsertRead]
  by_cases same : key = other
  · simp [same]
  rw [if_neg same, bne_iff_ne.mpr fun equal => same equal.symm, Bool.and_true]
  rfl

/-- The state after some marks. -/
def markKeys (state : InboxState) (userId : UserId) (now : DateTime) (keys : List (List Char)) :
    InboxState :=
  keys.foldl (fun marked key => marked.upsertRead userId now key) state

/-- Marks change nothing but the read state. -/
theorem markKeys_eq (keys : List (List Char)) : markKeys state userId now keys =
    { state with activityReads := (markKeys state userId now keys).activityReads } := by
  induction keys generalizing state with
  | nil => rfl
  | cons key rest ih =>
    rw [markKeys, foldl_cons, ← markKeys, ih]
    rfl

theorem countedKeys_markKeys (keys : List (List Char)) (kind : ActivityKind) :
    (markKeys state userId now keys).countedKeys userId kind = state.countedKeys userId kind := by
  rw [markKeys_eq]
  cases kind <;> rfl

theorem isUnread_markKeys (keys : List (List Char)) (other : List Char) :
    (markKeys state userId now keys).isUnread userId other =
      (state.isUnread userId other && !keys.contains other) := by
  induction keys generalizing state with
  | nil => simp [markKeys]
  | cons key rest ih =>
    rw [markKeys, foldl_cons, ← markKeys, ih, isUnread_upsertRead,
      contains_cons, Bool.not_or, Bool.and_assoc]
    rfl

end Marks

section MarkAll

variable {κ : Type} [LinearOrder κ] {collation : Collation κ} {getTime : List Char → Option Int}
variable {state : InboxState} {userId : UserId} {now : DateTime} {filter : ActivityFilter}

/-- The keys of the unread activities among some. -/
def unreadKeys (state : InboxState) (userId : UserId) (rows : List Activity) : List (List Char) :=
  (rows.filter fun activity => state.isUnread userId activity.activityKey).map Activity.activityKey

/-- The unread activities among the 50 newest are marked. -/
theorem markAllRead_eq : state.markAllRead userId collation getTime now filter =
    let keys := unreadKeys state userId ((state.feedRows collation userId filter none).take 50)
    .ok (markKeys state userId now keys, keys.length) := by
  have starts : activityCursor getTime none = .ok none := rfl
  have keys : ∀ rows : List Activity,
      ((rows.map (state.toActivityRow userId)).filter (·.readAt.isNone)).map
        ActivityRow.activityKey = unreadKeys state userId rows := by
    intro rows
    have unread : ((·.readAt.isNone) ∘ state.toActivityRow userId) = fun activity : Activity =>
        state.isUnread userId activity.activityKey := by
      funext activity
      simp only [Function.comp_apply, toActivityRow, readAtOf, isUnread, Option.isNone_map]
    rw [filter_map, unread, map_map]
    rfl
  rw [markAllRead, page_eq starts, pageOf_take]
  simp only [bind, Except.bind, keys]
  rfl

/-- After all is marked, the counts of the kinds of the filter are zero. -/
def ClearsCounts (collation : Collation κ) (getTime : List Char → Option Int) (state : InboxState)
    (userId : UserId) (now : DateTime) (filter : ActivityFilter) : Prop :=
  ∃ next count, state.markAllRead userId collation getTime now filter = .ok (next, count) ∧
    ∀ kind, filter.includes kind = true → (next.unreadCounts userId).of kind = 0

/-- A count is zero after marks on all keys that it counts. -/
theorem countOf_markKeys_eq_zero {keys : List (List Char)} {kind : ActivityKind} :
    (markKeys state userId now keys).countOf userId kind = 0 ↔
      ∀ activity ∈ state.activitiesOf userId kind,
        state.isUnread userId activity.activityKey = true → activity.activityKey ∈ keys := by
  rw [countOf, countP_eq_zero, countedKeys_markKeys, ← keys_activitiesOf, forall_mem_map]
  refine forall₂_congr fun activity _ => ?_
  rw [isUnread_markKeys, Bool.and_eq_true, not_and, Bool.not_eq_true', Bool.not_eq_false,
    contains_iff_mem]

/-- The kinds of a filter are cleared when every unread activity is among the 50 newest. -/
theorem clearsCounts_iff (stored : StoredInbox getTime state) :
    ClearsCounts collation getTime state userId now filter ↔
      ∀ activity ∈ state.feedRows collation userId filter none,
        state.isUnread userId activity.activityKey = true →
          activity ∈ (state.feedRows collation userId filter none).take 50 := by
  have everyOne := perm_feed collation state userId filter
  have distinct : ((state.feedRows collation userId filter none).map Activity.activityKey).Nodup :=
    (everyOne.map _).nodup_iff.mpr (nodup_combined stored filter)
  -- A key of the first page is the key of one activity only.
  have marked : ∀ activity ∈ state.feedRows collation userId filter none,
      state.isUnread userId activity.activityKey = true →
      (activity.activityKey ∈ unreadKeys state userId
          ((state.feedRows collation userId filter none).take 50) ↔
        activity ∈ (state.feedRows collation userId filter none).take 50) := by
    intro activity listed unread
    simp only [unreadKeys, mem_map, mem_filter]
    constructor
    · rintro ⟨other, ⟨otherFirst, -⟩, same⟩
      have sameActivity :=
        inj_on_of_nodup_map distinct (mem_of_mem_take otherFirst) listed same
      exact sameActivity ▸ otherFirst
    · intro isFirst
      exact ⟨activity, ⟨isFirst, unread⟩, rfl⟩
  simp only [ClearsCounts, markAllRead_eq, Except.ok.injEq, Prod.mk.injEq, of_unreadCounts]
  constructor
  · rintro ⟨next, count, ⟨rfl, -⟩, cleared⟩ activity listed unread
    obtain ⟨isIncluded, ofKind⟩ := mem_combined.mp (everyOne.mem_iff.mp listed)
    exact (marked activity listed unread).mp
      (countOf_markKeys_eq_zero.mp (cleared _ isIncluded) activity ofKind unread)
  · intro first
    refine ⟨_, _, ⟨rfl, rfl⟩, fun kind isIncluded => countOf_markKeys_eq_zero.mpr ?_⟩
    intro activity ofKind unread
    obtain rfl := kind_of_mem_activitiesOf ofKind
    have listed := everyOne.mem_iff.mpr (mem_combined.mpr ⟨isIncluded, ofKind⟩)
    exact (marked activity listed unread).mpr (first activity listed unread)

end MarkAll

/-- The kind by which a key is looked up. -/
def lookupKind (text : List Char) : ActivityKind :=
  if text = ActivityKind.text .friendRequest then .friendRequest
  else if text = ActivityKind.text .direct then .direct
  else if text = ActivityKind.text .reaction then .reaction
  else if text = ActivityKind.text .mention then .mention
  else .reply

/-- The key of the activity that a key is looked up as. -/
def lookupKey (key : List Char) : Option (List Char) :=
  (keyParts key).bind fun (kind, id) =>
    if isValidId id then (uuid id).map (activityKey (lookupKind kind)) else none

section Keys

variable {getTime : List Char → Option Int} {state : InboxState} {userId : UserId} {now : DateTime}

theorem lookupKind_text (kind : ActivityKind) : lookupKind kind.text = kind := by
  cases kind <;> decide

theorem keyParts_activityKey (kind : ActivityKind) (id : Nat) :
    keyParts (activityKey kind id) = some (kind.text, uuidText id) := by
  have kindSome : kind.text.isEmpty = false := by cases kind <;> rfl
  have rest : (activityKey kind id).dropWhile (· ≠ ':') = ':' :: uuidText id := by
    cases kind <;> rfl
  have idSome : (uuidText id).isEmpty = false := by
    rw [isEmpty_eq_false_iff, ← length_pos_iff, length_uuidText]
    decide
  simp only [keyParts, rest, takeWhile_activityKey, kindSome, idSome, Bool.or_self,
    Bool.false_eq_true, if_false]

/-- A key of the feed is looked up as itself. -/
theorem lookupKey_activityKey {kind : ActivityKind} {id : Nat} (fits : id < 2 ^ 128) :
    lookupKey (activityKey kind id) = some (activityKey kind id) := by
  simp only [lookupKey, keyParts_activityKey, Option.bind_some, isValidId_uuidText, if_true,
    uuid_uuidText fits, Option.map_some, lookupKind_text]

/-- Rows of a table by id are rows of a query by key. -/
theorem any_id_iff {ρ κ : Type} {key : ρ → κ} (table : Table ρ key) (idOf : ρ → Nat)
    {condition other : ρ → Bool} (kind : ActivityKind) {id : Nat} (fits : id < 2 ^ 128)
    (rowsFit : ∀ row ∈ table, idOf row < 2 ^ 128) (same : ∀ row, condition row = other row) :
    (table.rows.any fun row => idOf row == id && condition row) = true ↔
      activityKey kind id ∈ (table.findMany other).map fun row => activityKey kind (idOf row) := by
  simp only [any_eq_true, Bool.and_eq_true, beq_iff_eq, mem_map, Table.mem_findMany, same]
  constructor
  · rintro ⟨row, present, rfl, holds⟩
    exact ⟨row, ⟨present, holds⟩, rfl⟩
  · rintro ⟨row, ⟨present, holds⟩, sameKey⟩
    exact ⟨row, present, (activityKey_inj (rowsFit row present) fits sameKey).2, holds⟩

/-- A lookup finds an id when the counts have its key. -/
theorem activityExists_iff (stored : StoredInbox getTime state) (text : List Char) {id : Nat}
    (fits : id < 2 ^ 128) : state.activityExists userId text id = true ↔
      activityKey (lookupKind text) id ∈ state.countedKeys userId (lookupKind text) := by
  have messagesFit : ∀ message ∈ state.messages.table, message.id.value < 2 ^ 128 :=
    fun message present => (stored.messages message present).1
  unfold activityExists lookupKind
  split
  · exact any_id_iff state.friendships (·.id.value) .friendRequest fits
      (fun friendship present => (stored.friendships friendship present).1) fun _ => rfl
  split
  · exact any_id_iff state.messages.table (·.id.value) .direct fits messagesFit fun _ => rfl
  split
  · refine any_id_iff state.reactions (·.id.value) .reaction fits
      (fun reaction present => (stored.reactions reaction present).1) fun reaction => ?_
    simp only [decide_showsChannel]
  split
  · refine any_id_iff state.messages.table (·.id.value) .mention fits messagesFit fun message => ?_
    rw [Bool.and_comm, decide_showsChannel]
  · refine any_id_iff state.messages.table (·.id.value) .reply fits messagesFit fun message => ?_
    rw [Bool.and_comm, decide_showsChannel]

/-- The keys of the feed are those of its kinds. -/
theorem mem_keys_combined (stored : StoredInbox getTime state) {kind : ActivityKind} {id : Nat}
    (fits : id < 2 ^ 128) : activityKey kind id ∈ state.countedKeys userId kind ↔
      activityKey kind id ∈ (state.combined userId .all).map Activity.activityKey := by
  rw [← keys_activitiesOf, mem_map, mem_map]
  constructor
  · rintro ⟨activity, ofKind, same⟩
    obtain rfl := kind_of_mem_activitiesOf ofKind
    exact ⟨activity, mem_combined.mpr ⟨rfl, ofKind⟩, same⟩
  · rintro ⟨activity, listed, same⟩
    obtain ⟨-, ofKind⟩ := mem_combined.mp listed
    obtain ⟨⟨otherId, otherFits, otherKey⟩, -⟩ := activity_stored stored ofKind
    rw [otherKey] at same
    obtain ⟨rfl, -⟩ := activityKey_inj otherFits fits same
    exact ⟨activity, ofKind, otherKey.trans same⟩

/-- A mark succeeds when the key is looked up as one of the feed. -/
theorem markRead_ok_iff (stored : StoredInbox getTime state) (key : List Char) :
    (∃ next, state.markRead userId now key = .ok next) ↔
      ∃ found, lookupKey key = some found ∧
        found ∈ (state.combined userId .all).map Activity.activityKey := by
  rw [markRead, lookupKey]
  cases keyParts key with
  | none => simp [failWith]
  | some parts =>
    obtain ⟨kind, id⟩ := parts
    have belongs : (∃ next, (if state.activityKeyBelongsTo userId kind id then
          Except.ok (state.upsertRead userId now key)
        else failWith .forbidden "activity does not belong to caller") = Except.ok next) ↔
        state.activityKeyBelongsTo userId kind id = true := by
      split
      next isOwn => simp [isOwn]
      next notOwn => simp [notOwn, failWith]
    apply belongs.trans
    rw [activityKeyBelongsTo, Bool.and_eq_true, Option.any_eq_true, Option.bind_some]
    by_cases valid : isValidId id = true
    · simp only [valid, true_and, if_true, Option.map_eq_some_iff]
      constructor
      · rintro ⟨value, read, exists_⟩
        have fits := uuid_lt valid read
        exact ⟨_, ⟨value, read, rfl⟩,
          (mem_keys_combined stored fits).mp ((activityExists_iff stored kind fits).mp exists_)⟩
      · rintro ⟨_, ⟨value, read, rfl⟩, listed⟩
        have fits := uuid_lt valid read
        exact ⟨value, read,
          (activityExists_iff stored kind fits).mpr ((mem_keys_combined stored fits).mpr listed)⟩
    · simp [valid]

/-- A mark that succeeds is a row of its key. -/
theorem markRead_eq_ok {key : List Char} {next : InboxState}
    (marked : state.markRead userId now key = .ok next) :
    next = state.upsertRead userId now key := by
  unfold markRead at marked
  split at marked
  · cases marked
  split at marked
  · exact (Except.ok.inj marked).symm
  · cases marked

end Keys

section Exactness

variable {κ : Type} [LinearOrder κ] (collation : Collation κ) (getTime : List Char → Option Int)
  (state : InboxState) (userId : UserId) (now : DateTime) (key : List Char)

/-- The feed lists a row of the key at some page, in a read state that a test accepts. -/
def ListsRow (accepts : Option (List Char) → Prop) : Prop :=
  ∃ limit pages, Keyset.Walk (activityPage collation getTime state userId .all limit) none pages ∧
    ∃ row ∈ pages.flatten, row.activityKey = key ∧ accepts row.readAt

/-- A key can be marked when the feed lists it, and the feed reports its activity as read then. -/
structure MarksListed : Prop where
  succeeds : (∃ next, state.markRead userId now key = .ok next) ↔
    ListsRow collation getTime state userId key fun _ => True
  reports : ∀ next, state.markRead userId now key = .ok next →
    ListsRow collation getTime next userId key fun readAt => readAt.isSome = true

variable {collation getTime state userId now key}

theorem listsRow_iff (stored : StoredInbox getTime state) {accepts : Option (List Char) → Prop} :
    ListsRow collation getTime state userId key accepts ↔
      key ∈ (state.combined userId .all).map Activity.activityKey ∧
        accepts ((state.readAtOf userId key).map toISOString) := by
  have everyOne := perm_feed collation state userId .all
  constructor
  · rintro ⟨limit, pages, walk, row, rowMem, rfl, accepted⟩
    rw [flatten_activityPage stored walk] at rowMem
    obtain ⟨activity, listed, rfl⟩ := mem_map.mp rowMem
    exact ⟨mem_map_of_mem (everyOne.mem_iff.mp listed), accepted⟩
  · rintro ⟨isKey, accepted⟩
    obtain ⟨activity, listed, rfl⟩ := mem_map.mp isKey
    have walked : ∃ pages,
        Keyset.Walk (activityPage collation getTime state userId .all 0) none pages :=
      exists_activityWalk stored
    obtain ⟨pages, walk⟩ := walked
    refine ⟨0, pages, walk, state.toActivityRow userId activity, ?_, rfl, accepted⟩
    rw [flatten_activityPage stored walk]
    exact mem_map_of_mem (everyOne.mem_iff.mpr listed)

/-- A key is marked as the feed lists it unless it is another spelling of a key of the feed. -/
theorem marksListed_iff (stored : StoredInbox getTime state) :
    MarksListed collation getTime state userId now key ↔
      ∀ found, lookupKey key = some found →
        found ∈ (state.combined userId .all).map Activity.activityKey → found = key := by
  have ownLookup : key ∈ (state.combined userId .all).map Activity.activityKey →
      lookupKey key = some key := by
    intro isKey
    obtain ⟨activity, listed, rfl⟩ := mem_map.mp isKey
    obtain ⟨⟨id, fits, keyEq⟩, -⟩ :=
      activity_stored stored (mem_combined.mp listed).2
    rw [keyEq]
    exact lookupKey_activityKey fits
  constructor
  · intro marks found lookup isKey
    have listed := marks.succeeds.mp ((markRead_ok_iff stored key).mpr ⟨found, lookup, isKey⟩)
    have own := ownLookup ((listsRow_iff stored).mp listed).1
    exact Option.some.inj (lookup.symm.trans own)
  · intro oneSpelling
    have isKey_of_ok : (∃ next, state.markRead userId now key = .ok next) →
        key ∈ (state.combined userId .all).map Activity.activityKey := by
      intro succeeded
      obtain ⟨found, lookup, isKey⟩ := (markRead_ok_iff stored key).mp succeeded
      exact oneSpelling found lookup isKey ▸ isKey
    refine ⟨⟨fun succeeded => ?_, fun listed => ?_⟩, fun next marked => ?_⟩
    · exact (listsRow_iff stored).mpr ⟨isKey_of_ok succeeded, trivial⟩
    · have isKey := ((listsRow_iff stored).mp listed).1
      exact (markRead_ok_iff stored key).mpr ⟨key, ownLookup isKey, isKey⟩
    · have isKey := isKey_of_ok ⟨next, marked⟩
      obtain rfl := markRead_eq_ok marked
      have storedNext : StoredInbox getTime (state.upsertRead userId now key) :=
        ⟨stored.messages, stored.reactions, stored.friendships⟩
      refine (listsRow_iff storedNext).mpr ⟨isKey, ?_⟩
      rw [readAtOf_upsertRead]
      rfl

end Exactness

/-- 51 users have reacted to a message of user 2. -/
def reactedRows : List MessageReaction :=
  (List.range 51).map fun index =>
    { id := ⟨index⟩, messageId := ⟨6⟩, userId := ⟨index + 10⟩, emoji := "+1", createdAt := 1000 }

def reactedExample : InboxState :=
  { ofMessages
      (.withoutRoles (.single ⟨⟨1⟩, ⟨2⟩, .member⟩)
        (.single { id := ⟨1⟩, workspaceId := some ⟨1⟩, name := "wall", position := 0
                   createdAt := 0 })
        .empty)
      .empty
      (.single
        { id := ⟨6⟩, channelId := ⟨1⟩, authorId := ⟨2⟩, content := "news", createdAt := 1000 }
        rfl) with
    reactions := { rows := reactedRows, keysNodup := by decide } }

/-- The key of reaction 10 with a capital. -/
def capitalKey : List Char :=
  "reaction:00000000-0000-0000-0000-00000000000A".toList

theorem reactedExample_stored : StoredInbox oneSecond reactedExample where
  messages := by
    intro message present
    rw [Table.mem_single.mp present]
    exact ⟨by decide, by decide +kernel⟩
  reactions := by
    have fit : ∀ row ∈ reactedRows, row.id.value < 2 ^ 128 ∧
        oneSecond (toISOString row.createdAt) = some (row.createdAt : Int) := by
      decide +kernel
    exact fit
  friendships := by
    intro friendship present
    cases present

end Bongtalk.Me
