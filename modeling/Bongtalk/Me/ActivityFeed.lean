import Bongtalk.Library.Keyset
import Bongtalk.Me.MeActivity

/-!
# Walks through the feed

A client that follows the cursors of the feed sees every activity once, and as many unread ones of
each kind as the counts say. The state does not change on the way.
-/

namespace Bongtalk.Me

open Library Messages Prisma InboxState List Option Table Keyset

/-- A row as the database has it: an id of 128 bits, and a time that `new Date` reads in its text. -/
def IsStored (getTime : List Char → Option Int) (id : Nat) (createdAt : DateTime) : Prop :=
  id < 2 ^ 128 ∧ getTime (toISOString createdAt) = some (createdAt : Int)

/-- The rows of an inbox are stored. -/
structure StoredInbox (getTime : List Char → Option Int) (state : InboxState) : Prop where
  messages : ∀ message ∈ state.messages, IsStored getTime message.id.value message.createdAt
  reactions : ∀ reaction ∈ state.reactions, IsStored getTime reaction.id.value reaction.createdAt
  friendships : ∀ friendship ∈ state.friendships,
    IsStored getTime friendship.id.value friendship.createdAt

section Keys

variable (kind : ActivityKind) (id instant : Nat)

/-- The separator of a key comes after the kind. -/
theorem takeWhile_activityKey : (activityKey kind id).takeWhile (· ≠ ':') = kind.text := by
  cases kind <;> rfl

theorem ActivityKind.text_injective : Function.Injective ActivityKind.text := by
  intro first second same
  cases first <;> cases second <;> first | rfl | (revert same; decide)

theorem activityKey_inj {kind other : ActivityKind} {id otherId : Nat} (fits : id < 2 ^ 128)
    (otherFits : otherId < 2 ^ 128) (same : activityKey kind id = activityKey other otherId) :
    kind = other ∧ id = otherId := by
  have sameKind : kind = other := by
    apply ActivityKind.text_injective
    rw [← takeWhile_activityKey kind id, same, takeWhile_activityKey]
  subst sameKind
  have sameText : uuidText id = uuidText otherId :=
    (List.cons.inj (append_cancel_left same)).2
  have sameId := uuid_uuidText fits
  rw [sameText, uuid_uuidText otherFits] at sameId
  exact ⟨rfl, (Option.some.inj sameId).symm⟩

/-- Rows with distinct ids have distinct keys. -/
theorem nodup_activityKeys {ρ : Type} {rows : List ρ} {id : ρ → Nat}
    (distinct : (rows.map id).Nodup) (fits : ∀ row ∈ rows, id row < 2 ^ 128) :
    (rows.map fun row => activityKey kind (id row)).Nodup := by
  have keys : rows.map (fun row => activityKey kind (id row)) =
      (rows.map id).map (activityKey kind) := by
    rw [List.map_map]
    rfl
  rw [keys]
  apply distinct.map_on
  intro first firstMem second secondMem same
  obtain ⟨firstRow, firstRowMem, rfl⟩ := List.mem_map.mp firstMem
  obtain ⟨secondRow, secondRowMem, rfl⟩ := List.mem_map.mp secondMem
  exact (activityKey_inj (fits _ firstRowMem) (fits _ secondRowMem) same).2

theorem bar_not_mem_activityKey : '|' ∉ activityKey kind id := by
  have digits : ∀ digit : Fin 16, Json.hexDigit digit ≠ '|' := by decide
  have inId : ∀ char ∈ uuidText id, char ≠ '|' :=
    forall_mem_uuidText (by decide) (fun digit small => digits ⟨digit, small⟩) id
  rw [activityKey, mem_append, mem_cons]
  rintro (inKind | isColon | inText)
  · revert inKind
    cases kind <;> decide
  · cases isColon
  · exact inId _ inText rfl

theorem bar_not_mem_toISOString : '|' ∉ toISOString instant := by
  have inDecimal : ∀ width value, '|' ∉ decimal width value := by
    intro width value isIn
    have isDigit := isDigit_decimal '|' isIn
    revert isDigit
    decide
  rw [toISOString]
  split <;> simp [inDecimal]

theorem toISOString_ne_nil : toISOString instant ≠ [] := by
  rw [toISOString]
  split <;> simp

/-- A cursor is split where it was put together. -/
theorem splitOn_cursor :
    (toISOString instant ++ '|' :: activityKey kind id).splitOn '|' =
      [toISOString instant, activityKey kind id] := by
  have joined : toISOString instant ++ '|' :: activityKey kind id =
      ['|'].intercalate [toISOString instant, activityKey kind id] := by
    simp [List.intercalate]
  rw [joined]
  apply splitOn_intercalate
  · intro part partMem
    rcases mem_pair.mp partMem with rfl | rfl
    · exact bar_not_mem_toISOString instant
    · exact bar_not_mem_activityKey kind id
  · exact cons_ne_nil _ _

end Keys

section Rows

variable {getTime : List Char → Option Int} {state : InboxState} {userId : UserId}

/-- An activity has its key from its kind and an id of 128 bits, and its time from a row. -/
theorem activity_stored (stored : StoredInbox getTime state) {kind : ActivityKind} {activity : Activity}
    (listed : activity ∈ state.activitiesOf userId kind) :
    (∃ id < 2 ^ 128, activity.activityKey = activityKey kind id) ∧
      getTime (toISOString activity.createdAt) = some (activity.createdAt : Int) := by
  cases kind with
  | mention =>
    obtain ⟨message, present, -, rfl⟩ := mem_mentions.mp listed
    exact ⟨⟨_, (stored.messages message present).1, rfl⟩, (stored.messages message present).2⟩
  | reply =>
    obtain ⟨message, present, -, rfl⟩ := mem_replies.mp listed
    exact ⟨⟨_, (stored.messages message present).1, rfl⟩, (stored.messages message present).2⟩
  | reaction =>
    obtain ⟨reaction, present, _, -, rfl⟩ := mem_reactionActivities.mp listed
    exact ⟨⟨_, (stored.reactions reaction present).1, rfl⟩, (stored.reactions reaction present).2⟩
  | direct =>
    obtain ⟨message, present, -, rfl⟩ := mem_directs.mp listed
    exact ⟨⟨_, (stored.messages message present).1, rfl⟩, (stored.messages message present).2⟩
  | friendRequest =>
    obtain ⟨friendship, present, -, _, -, rfl⟩ := mem_friendRequests.mp listed
    exact ⟨⟨_, (stored.friendships friendship present).1, rfl⟩,
      (stored.friendships friendship present).2⟩

/-- Rows that a lookup keeps, read through what it finds. -/
theorem map_filterMap_eq_map_filter {α β γ : Type} {rows : List α} {find : α → Option β}
    {found : β → γ} {kept : α → Bool} {read : α → γ}
    (keeps : ∀ row ∈ rows, (find row).isSome = kept row)
    (reads : ∀ row ∈ rows, ∀ value, find row = some value → found value = read row) :
    (rows.filterMap find).map found = (rows.filter kept).map read := by
  induction rows with
  | nil => rfl
  | cons row rest ih =>
    have restEq := ih (fun other otherMem => keeps other (.tail _ otherMem))
      (fun other otherMem => reads other (.tail _ otherMem))
    have isKept := keeps row mem_cons_self
    cases foundEq : find row with
    | none =>
      rw [foundEq] at isKept
      rw [filterMap_cons_none foundEq, filter_cons_of_neg (by simp [← isKept]), restEq]
    | some value =>
      rw [foundEq] at isKept
      rw [filterMap_cons_some foundEq, filter_cons_of_pos (by simp [← isKept]),
        map_cons, map_cons, restEq, reads row mem_cons_self value foundEq]

/-- The counts look at the keys of the feed. -/
theorem keys_activitiesOf (state : InboxState) (userId : UserId) (kind : ActivityKind) :
    (state.activitiesOf userId kind).map Activity.activityKey = state.countedKeys userId kind := by
  cases kind with
  | mention =>
    simp only [activitiesOf, mentions, countedKeys,
      countedMentions, any_visibleAccess, List.map_map]
    rfl
  | reply =>
    simp only [activitiesOf, replies, countedKeys, any_visibleAccess, List.map_map]
    rfl
  | reaction =>
    apply map_filterMap_eq_map_filter
    · intro reaction _
      simp only [any_visibleAccess, Option.isSome_map, Option.isSome_filter]
    · intro reaction _ activity found
      obtain ⟨message, -, rfl⟩ := Option.map_eq_some_iff.mp found
      rfl
  | direct =>
    simp only [activitiesOf, directs, countedKeys, List.map_map]
    rfl
  | friendRequest =>
    -- The foreign key lets no friendship without its requester be.
    have requesters : ∀ friendship ∈ state.friendships.findMany (isPendingRequest userId),
        ((state.users.findUnique friendship.requesterId).map
          (friendRequestActivity friendship)).isSome = true := by
      intro friendship listed
      obtain ⟨user, present, same⟩ :=
        state.friendshipRequester friendship (Table.mem_findMany.mp listed).1
      rw [← same, Table.findUnique_of_mem present]
      rfl
    have reads : ∀ friendship ∈ state.friendships.findMany (isPendingRequest userId),
        ∀ activity, (state.users.findUnique friendship.requesterId).map
            (friendRequestActivity friendship) = some activity →
          activity.activityKey = activityKey .friendRequest friendship.id.value := by
      intro friendship _ activity found
      obtain ⟨user, -, rfl⟩ := Option.map_eq_some_iff.mp found
      rfl
    have kept := map_filterMap_eq_map_filter requesters reads
    rw [List.filter_eq_self.mpr fun _ _ => rfl] at kept
    exact kept

/-- The rows of a table keep their distinct keys in a query. -/
theorem nodup_findMany {ρ κ : Type} {key : ρ → κ} (table : Table ρ key) {value : κ → Nat}
    (injective : Function.Injective value) (condition : ρ → Bool) :
    ((table.findMany condition).map fun row => value (key row)).Nodup := by
  have distinct : (table.rows.map fun row => value (key row)).Nodup := by
    have mapped := table.keysNodup.map injective
    rwa [List.map_map] at mapped
  exact distinct.sublist (List.filter_sublist.map _)

theorem MessageId.value_injective : Function.Injective MessageId.value := by
  rintro ⟨first⟩ ⟨second⟩ rfl
  rfl

variable (stored : StoredInbox getTime state)

include stored

theorem nodup_messageKeys (kind : ActivityKind) (condition : Message → Bool) :
    ((state.messages.table.findMany condition).map fun message =>
      activityKey kind message.id.value).Nodup :=
  nodup_activityKeys kind (nodup_findMany state.messages.table MessageId.value_injective condition)
    fun message found => (stored.messages message (mem_findMany.mp found).1).1

theorem nodup_countedKeys (kind : ActivityKind) : (state.countedKeys userId kind).Nodup := by
  cases kind with
  | mention => exact nodup_messageKeys stored .mention _
  | reply => exact nodup_messageKeys stored .reply _
  | direct => exact nodup_messageKeys stored .direct _
  | reaction =>
    refine nodup_activityKeys .reaction (nodup_findMany state.reactions ?_ _) ?_
    · rintro ⟨first⟩ ⟨second⟩ rfl
      rfl
    · exact fun reaction found => (stored.reactions reaction (mem_findMany.mp found).1).1
  | friendRequest =>
    refine nodup_activityKeys .friendRequest (nodup_findMany state.friendships ?_ _) ?_
    · rintro ⟨first⟩ ⟨second⟩ rfl
      rfl
    · exact fun friendship found =>
        (stored.friendships friendship (mem_findMany.mp found).1).1

/-- The rows of a kind, which are all activities of the kind or none. -/
theorem nodup_included (filter : ActivityFilter) (kind : ActivityKind) :
    ((included filter kind (state.activitiesOf userId kind)).map Activity.activityKey).Nodup := by
  rw [included]
  split
  · rw [keys_activitiesOf]
    exact nodup_countedKeys stored kind
  · exact nodup_nil

/-- No two activities of a feed have one key. -/
theorem nodup_combined (filter : ActivityFilter) :
    ((state.combined userId filter).map Activity.activityKey).Nodup := by
  rw [combined, map_flatMap, nodup_flatMap]
  refine ⟨fun kind _ => nodup_included stored filter kind, ?_⟩
  have kindsDistinct : ActivityKind.all.Nodup := by decide
  refine kindsDistinct.imp fun {first second} different => ?_
  intro key inFirst inSecond
  obtain ⟨one, oneMem, rfl⟩ := mem_map.mp inFirst
  obtain ⟨other, otherMem, same⟩ := mem_map.mp inSecond
  obtain ⟨⟨oneId, oneFits, oneKey⟩, -⟩ :=
    activity_stored stored (mem_included.mp oneMem).2
  obtain ⟨⟨otherId, otherFits, otherKey⟩, -⟩ :=
    activity_stored stored (mem_included.mp otherMem).2
  rw [oneKey, otherKey] at same
  exact different (activityKey_inj otherFits oneFits same).1.symm

end Rows

section Order

variable {κ : Type} [LinearOrder κ] (collation : Collation κ)
variable {getTime : List Char → Option Int} {state : InboxState} {userId : UserId}

theorem perm_feedRows (filter : ActivityFilter) (cursor : Option (Int × List Char)) :
    (state.feedRows collation userId filter cursor).Perm
      ((state.combined userId filter).filter (isBehind collation cursor)) :=
  mergeSort_perm _ _

/-- Without a cursor the feed has every activity. -/
theorem perm_feed (state : InboxState) (userId : UserId) (filter : ActivityFilter) :
    (state.feedRows collation userId filter none).Perm (state.combined userId filter) := by
  have all : (state.combined userId filter).filter (isBehind collation none) =
      state.combined userId filter :=
    filter_eq_self.mpr fun _ _ => rfl
  have permuted : (state.feedRows collation userId filter none).Perm
      ((state.combined userId filter).filter (isBehind collation none)) :=
    perm_feedRows collation filter none
  rwa [all] at permuted

/-- The feed is in strictly descending order. -/
theorem descending_feedRows (stored : StoredInbox getTime state) (filter : ActivityFilter)
    (cursor : Option (Int × List Char)) :
    Descending (feedKey collation) (state.feedRows collation userId filter cursor) := by
  have ordered : (state.feedRows collation userId filter cursor).Pairwise fun first second =>
      feedKey collation second ≤ feedKey collation first := by
    rw [feedRows]
    refine (pairwise_mergeSort ?_ ?_ _).imp fun below => of_decide_eq_true below
    · intro first second third upper lower
      exact decide_eq_true ((of_decide_eq_true lower).trans (of_decide_eq_true upper))
    · intro first second
      simpa using le_total (feedKey collation second) (feedKey collation first)
  have distinct : (state.feedRows collation userId filter cursor).Pairwise fun first second =>
      first.activityKey ≠ second.activityKey := by
    rw [← pairwise_map]
    apply ((perm_feedRows collation filter cursor).map _).nodup_iff.mpr
    exact (nodup_combined stored filter).sublist (filter_sublist.map Activity.activityKey)
  refine (ordered.and distinct).imp fun {first second} below => lt_of_le_of_ne below.1 ?_
  intro same
  have sameKey : collation.key second.activityKey = collation.key first.activityKey :=
    congrArg (fun place => (ofLex place).2) same
  exact below.2 (collation.injective sameKey).symm

/-- The rows behind a cursor are rows of the feed, in its order. -/
theorem feedRows_eq_filter (stored : StoredInbox getTime state) (filter : ActivityFilter)
    (cursor : Option (Int × List Char)) :
    state.feedRows collation userId filter cursor =
      (state.feedRows collation userId filter none).filter (isBehind collation cursor) := by
  apply Descending.eq_of_perm (descending_feedRows collation stored filter cursor)
    ((descending_feedRows collation stored filter none).filter _)
  exact (perm_feedRows collation filter cursor).trans
    ((perm_feed collation state userId filter).filter _).symm

end Order

section Pages

variable {κ : Type} [LinearOrder κ] (collation : Collation κ) (getTime : List Char → Option Int)
  (state : InboxState) (userId : UserId) (filter : ActivityFilter) (limit : Int)

/-- A client asks for a page, and goes on at `nextCursor`. -/
def activityPage (start : Option (List Char)) :
    Option (Page (Option (List Char)) ActivityRow) :=
  (state.page collation getTime userId filter start limit).toOption.map fun page =>
    { items := page.items, next := page.nextCursor.map some }

/-- What a client has still to see. -/
def remainingRows (start : Option (List Char)) : List ActivityRow :=
  match activityCursor getTime start with
  | .ok position =>
    (state.feedRows collation userId filter position).map (state.toActivityRow userId)
  | .error _ => []

/-- A start that a request does not refuse. -/
def IsStart (start : Option (List Char)) : Prop :=
  ∃ position, activityCursor getTime start = .ok position

variable {collation getTime state userId filter limit}

theorem cappedLimit_pos (limit : Int) : 0 < cappedLimit limit := by
  rw [cappedLimit]
  split <;> omega

variable {last activity : Activity} {start : Option (List Char)}

theorem isBehind_activity :
    isBehind collation (some ((last.createdAt : Int), last.activityKey)) activity =
      decide (feedKey collation activity < feedKey collation last) := by
  rw [isBehind, all_some, decide_eq_decide, feedKey, feedKey, Prod.Lex.toLex_lt_toLex]

/-- The cursor of an activity stands for its place. -/
theorem activityCursor_nextCursor (stored : StoredInbox getTime state) {kind : ActivityKind}
    (listed : activity ∈ state.activitiesOf userId kind) :
    activityCursor getTime (some (toISOString activity.createdAt ++ '|' :: activity.activityKey)) =
      .ok (some ((activity.createdAt : Int), activity.activityKey)) := by
  obtain ⟨⟨id, -, keyEq⟩, read⟩ := activity_stored stored listed
  have keySome : (activityKey kind id).isEmpty = false := by
    cases kind <;> rfl
  have timeSome : (toISOString activity.createdAt).isEmpty = false :=
    isEmpty_eq_false_iff.mpr (toISOString_ne_nil _)
  rw [activityCursor, map_some, keyEq, splitOn_cursor]
  simp only [keySome, timeSome, Bool.or_self, Bool.false_eq_true, if_false, read]

variable {position : Option (Int × List Char)}

theorem page_eq (starts : activityCursor getTime start = .ok position) :
    state.page collation getTime userId filter start limit =
      .ok (state.pageOf userId (cappedLimit limit)
        ((state.feedRows collation userId filter position).take (cappedLimit limit + 1))) := by
  rw [InboxState.page, starts]
  rfl

/-- A page over one row more than it shows. -/
theorem pageOf_take (capped : Nat) (rows : List Activity) :
    state.pageOf userId capped (rows.take (capped + 1)) =
      { items := (rows.take capped).map (state.toActivityRow userId)
        nextCursor := if capped < rows.length then
            (rows.take capped).getLast?.map fun last =>
              toISOString last.createdAt ++ '|' :: last.activityKey
          else none } := by
  rw [pageOf]
  simp only [lt_length_take_succ, slice_take_succ, List.getLast?_map, Option.map_map,
    Function.comp_def, toActivityRow]

/-- A page has the first of the remaining rows. -/
theorem activityPage_eq (starts : activityCursor getTime start = .ok position) :
    activityPage collation getTime state userId filter limit start =
      let rows := state.feedRows collation userId filter position
      some
        { items := (rows.take (cappedLimit limit)).map (state.toActivityRow userId)
          next := if cappedLimit limit < rows.length then
              (rows.take (cappedLimit limit)).getLast?.map fun last =>
                some (toISOString last.createdAt ++ '|' :: last.activityKey)
            else none } := by
  rw [activityPage, page_eq starts, pageOf_take]
  simp only [Except.toOption, Option.map_some, Option.some.injEq]
  split
  · rw [Option.map_map]
    rfl
  · rfl

/-- What is behind an activity is behind everything that the activity is behind. -/
theorem isBehind_trans {last activity : Activity}
    (lastBehind : isBehind collation position last = true)
    (behindLast : isBehind collation (some ((last.createdAt : Int), last.activityKey)) activity =
      true) : isBehind collation position activity = true := by
  cases position with
  | none => rfl
  | some position =>
    obtain ⟨time, key⟩ := position
    have below : ∀ other : Activity, isBehind collation (some (time, key)) other = true ↔
        feedKey collation other < toLex (time, collation.key key) := by
      intro other
      rw [isBehind, all_some, decide_eq_true_eq, feedKey, Prod.Lex.toLex_lt_toLex]
    rw [isBehind_activity, decide_eq_true_eq] at behindLast
    exact (below activity).mpr (behindLast.trans ((below last).mp lastBehind))

/-- The rows behind the last row of a page are those that the page has left. -/
theorem feedRows_nextCursor (stored : StoredInbox getTime state) {last : Activity}
    (isLast : ((state.feedRows collation userId filter position).take (cappedLimit limit)).getLast?
      = some last) :
    state.feedRows collation userId filter (some ((last.createdAt : Int), last.activityKey)) =
      (state.feedRows collation userId filter position).drop (cappedLimit limit) := by
  set rows := state.feedRows collation userId filter position with rowsEq
  have whole : [] ++ rows.take (cappedLimit limit) ++ rows.drop (cappedLimit limit) = rows := by
    rw [List.nil_append, List.take_append_drop]
  have descending : Descending (feedKey collation) rows :=
    descending_feedRows collation stored filter position
  have rest := filter_below_last (whole.symm ▸ descending) isLast
  rw [whole] at rest
  have lastMem : last ∈ rows := List.mem_of_mem_take (List.mem_of_getLast? isLast)
  rw [rowsEq, feedRows_eq_filter collation stored, List.mem_filter] at lastMem
  -- What is behind the last row is behind the cursor of the page as well.
  have behindBoth : ∀ activity : Activity,
      (isBehind collation position activity &&
          isBehind collation (some ((last.createdAt : Int), last.activityKey)) activity) =
        isBehind collation (some ((last.createdAt : Int), last.activityKey)) activity := by
    intro activity
    rw [Bool.and_eq_right_iff_imp]
    exact isBehind_trans lastMem.2
  rw [← rest, rowsEq, feedRows_eq_filter collation stored filter position, List.filter_filter,
    feedRows_eq_filter collation stored]
  congr 1
  funext activity
  rw [← isBehind_activity, Bool.and_comm, behindBoth]

/-- A page serves the rows that a client has still to see. -/
theorem serves_activityPage (stored : StoredInbox getTime state) (start : Option (List Char))
    (starts : IsStart getTime start) :
    ∃ page, activityPage collation getTime state userId filter limit start = some page ∧
      Serves id (cappedLimit limit) (IsStart getTime)
        (remainingRows collation getTime state userId filter) start page := by
  obtain ⟨position, starts⟩ := starts
  have remaining : remainingRows collation getTime state userId filter start =
      (state.feedRows collation userId filter position).map (state.toActivityRow userId) := by
    rw [remainingRows, starts]
  refine ⟨_, activityPage_eq starts, .of_take (cappedLimit_pos limit) remaining rfl
    (fun short => if_neg short) fun last isLast longer => ?_⟩
  have lastMem := mem_of_mem_take (mem_of_getLast? isLast)
  have inFeed := mem_filter.mp ((perm_feedRows collation filter position).mem_iff.mp lastMem)
  have nextStarts : activityCursor getTime
      (some (toISOString last.createdAt ++ '|' :: last.activityKey)) =
      .ok (some ((last.createdAt : Int), last.activityKey)) :=
    activityCursor_nextCursor stored (mem_combined.mp inFeed.1).2
  refine ⟨_, by rw [if_pos longer, isLast, map_some], ⟨_, nextStarts⟩, ?_⟩
  rw [remainingRows, nextStarts]
  exact congrArg _ (feedRows_nextCursor stored isLast)

end Pages

section Counts

variable {state : InboxState} {userId : UserId}

/-- The activities of a kind in a feed. -/
theorem filter_kind_combined {filter : ActivityFilter} {kind : ActivityKind}
    (isIncluded : filter.includes kind = true) :
    (state.combined userId filter).filter (·.kind == kind) = state.activitiesOf userId kind := by
  have ofKind : ∀ other, (included filter other (state.activitiesOf userId other)).filter
      (·.kind == kind) = if other = kind then state.activitiesOf userId kind else [] := by
    intro other
    split
    next same =>
      subst same
      rw [included, if_pos isIncluded]
      apply filter_eq_self.mpr
      intro activity listed
      exact beq_iff_eq.mpr (kind_of_mem_activitiesOf listed)
    next different =>
      apply filter_eq_nil_iff.mpr
      intro activity listed isKind
      have otherKind :=
        kind_of_mem_activitiesOf (mem_included.mp listed).2
      exact different (otherKind.symm.trans (beq_iff_eq.mp isKind))
  rw [combined, filter_flatMap]
  simp only [ofKind, ActivityKind.all, flatMap_cons, flatMap_nil]
  cases kind <;> simp

/-- The unread rows of a kind are as many as the counts say. -/
theorem countP_unread {filter : ActivityFilter} {kind : ActivityKind}
    (isIncluded : filter.includes kind = true) {rows : List Activity}
    (same : rows.Perm (state.combined userId filter)) :
    (rows.map (state.toActivityRow userId)).countP
        (fun row => row.kind == kind && row.readAt.isNone) = state.countOf userId kind := by
  have unread : ∀ activity : Activity,
      ((state.readAtOf userId activity.activityKey).map toISOString).isNone =
        state.isUnread userId activity.activityKey := by
    intro activity
    rw [readAtOf, isUnread, isNone_map, isNone_map]
  rw [countP_map, same.countP_eq, countOf, ← keys_activitiesOf, countP_map,
    ← filter_kind_combined isIncluded, countP_filter]
  refine countP_congr fun activity _ => ?_
  simp only [Function.comp_apply, toActivityRow, unread, Bool.and_comm]

end Counts

section Walks

variable {κ : Type} [LinearOrder κ] {collation : Collation κ} {getTime : List Char → Option Int}
variable {state : InboxState} {userId : UserId} {filter : ActivityFilter} {limit : Int}

theorem exists_activityWalk (stored : StoredInbox getTime state) :
    ∃ pages, Walk (activityPage collation getTime state userId filter limit) none pages :=
  exists_walk (cappedLimit_pos limit) (serves_activityPage stored) ⟨none, rfl⟩

/-- The pages of a walk are the feed. -/
theorem flatten_activityPage (stored : StoredInbox getTime state) {pages : List (List ActivityRow)}
    (walk : Walk (activityPage collation getTime state userId filter limit) none pages) :
    pages.flatten =
      (state.feedRows collation userId filter none).map (state.toActivityRow userId) := by
  have flat := walk.flatten_eq (serves_activityPage stored) ⟨none, rfl⟩
  rwa [List.map_id] at flat

end Walks

/-- A mention and a request of one time. -/
def feedExample : InboxState :=
  { ofMessages
      (.withoutRoles (.single ⟨⟨1⟩, ⟨2⟩, .member⟩)
        (.single { id := ⟨1⟩, workspaceId := some ⟨1⟩, name := "feed", position := 0
                   createdAt := 0 })
        .empty)
      (.single { id := ⟨1⟩, username := "one" })
      (.single
        { id := ⟨4⟩, channelId := ⟨1⟩, authorId := ⟨1⟩, content := "@two", createdAt := 1000
          mentions := { users := [⟨2⟩] } } rfl) with
    friendships := .single { id := ⟨5⟩, requesterId := ⟨1⟩, addresseeId := ⟨2⟩, createdAt := 1000 }
    friendshipRequester := by
      intro friendship present
      rw [mem_single.mp present]
      exact ⟨_, mem_single.mpr rfl, rfl⟩ }

/-- A reader of the one time of the example. -/
def oneSecond (text : List Char) : Option Int :=
  if text = "1970-01-01T00:00:01.000Z".toList then some 1000 else none

theorem feedExample_stored : StoredInbox oneSecond feedExample where
  messages := by
    intro message present
    rw [mem_single.mp present]
    exact ⟨by decide, by decide +kernel⟩
  reactions := by
    intro reaction present
    cases present
  friendships := by
    intro friendship present
    rw [mem_single.mp present]
    exact ⟨by decide, by decide +kernel⟩

/-- Texts in the order of their characters. -/
def characterOrder : Collation (List Char) where
  key := id
  injective := Function.injective_id

end Bongtalk.Me
