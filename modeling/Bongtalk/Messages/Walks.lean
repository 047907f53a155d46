import Bongtalk.Messages.Pages

/-!
# Walks through a channel

A client that follows the cursors of the pages to the end reads every row once. The rows do not
change on the way.
-/

namespace Bongtalk.Messages

open Library Common Prisma Keyset List

/-- Rows as the database has them: ids of 128 bits, times within the years that have four digits,
and texts of times that it reads as they were. -/
structure Stored (timestamp : List Char → Option Int) (messages : MessageTable) : Prop where
  ids : ∀ row ∈ messages, row.id.value < 2 ^ 128
  times : ∀ row ∈ messages, row.createdAt < endOfTime
  reads : ∀ row ∈ messages,
    timestamp (toISOString row.createdAt) = some ((row.createdAt : Int) * 1000)

/-- The position of the cursor that a client starts from, if it has one. -/
def startOf (timestamp : List Char → Option Int) (start : Option (List Char)) :
    Except Failure (Option Position) :=
  match given start with
  | none => .ok none
  | some raw => do
    let payload ← decodeCursor raw
    let position ← payload.position timestamp
    .ok (some position)

section Requests

variable (timestamp : List Char → Option Int) (messages : MessageTable) (request : ListMessagesArgs)

/-- A client asks for the rows before a cursor, and goes on at `nextCursor`. -/
def olderPage (start : Option (List Char)) : Option (Page (Option (List Char)) Message) :=
  (list timestamp messages
      { request with before := start, after := none, around := none }).toOption.map fun page =>
    { items := page.items, next := if page.hasMore then some page.nextCursor else none }

/-- A client asks for the rows after a cursor, and goes on at `prevCursor`. -/
def newerPage (start : Option (List Char)) : Option (Page (Option (List Char)) Message) :=
  (list timestamp messages
      { request with before := none, after := start, around := none }).toOption.map fun page =>
    { items := page.items, next := if page.hasMore then some page.prevCursor else none }

end Requests

variable {timestamp : List Char → Option Int} {messages : MessageTable} {request : ListMessagesArgs}

theorem position_cursorFor (stored : Stored timestamp messages) {row : Message}
    (present : row ∈ messages) :
    CursorPayload.position timestamp
      { id := uuidText row.id.value, createdAt := toISOString row.createdAt } =
      .ok row.position := by
  rw [CursorPayload.position, stored.reads row present, uuid_uuidText (stored.ids row present)]
  rfl

/-- A cursor that a page gives is where its row is. -/
theorem startOf_cursorFor (stored : Stored timestamp messages) {row : Message}
    (present : row ∈ messages) :
    startOf timestamp (some (cursorFor row)) = .ok (some row.position) := by
  have decoded := decodeCursor_cursorFor (stored.times row present)
  have nonempty : cursorFor row ≠ [] := by
    intro empty
    rw [empty] at decoded
    cases decoded
  have isGiven : given (some (cursorFor row)) = some (cursorFor row) :=
    Option.filter_some_pos (decide_eq_true nonempty)
  rw [startOf, isGiven]
  exact bind_eq_ok.mpr ⟨_, decoded, bind_eq_ok.mpr ⟨_, position_cursorFor stored present, rfl⟩⟩

section Starts

variable {start : Option (List Char)}

/-- A start without a cursor is the newest row. -/
theorem startOf_eq_none (starts : startOf timestamp start = .ok none) : given start = none := by
  unfold startOf at starts
  split at starts
  next nothing => exact nothing
  next raw _ =>
    obtain ⟨payload, -, read⟩ := bind_eq_ok.mp starts
    obtain ⟨position, -, same⟩ := bind_eq_ok.mp read
    cases same

theorem startOf_eq_some {position : Position}
    (starts : startOf timestamp start = .ok (some position)) :
    ∃ raw payload, given start = some raw ∧ decodeCursor raw = .ok payload ∧
      payload.position timestamp = .ok position := by
  unfold startOf at starts
  split at starts
  next => cases starts
  next raw isGiven =>
    obtain ⟨payload, decoded, read⟩ := bind_eq_ok.mp starts
    obtain ⟨found, foundEq, same⟩ := bind_eq_ok.mp read
    cases same
    exact ⟨raw, payload, isGiven, decoded, foundEq⟩

/-- A page before a start, from the rows of its query. -/
theorem list_before_eq {cursor : Option CursorPayload} {fetched : List Message}
    (decoded : (given start).mapM decodeCursor = .ok cursor)
    (fetches : rawList timestamp messages (request.rawArgs .before cursor false (request.limit + 1))
      = .ok fetched) :
    list timestamp messages { request with before := start, after := none, around := none } =
      .ok (messagePage (fetched.take request.limit) (decide (request.limit < fetched.length))) := by
  have one : ¬ 1 < [(given start).isSome, (given none).isSome, false].countP id := by
    cases (given start).isSome <;> decide
  have same : (given start).orElse (fun _ => given none) = given start := by
    cases given start <;> rfl
  refine (if_neg one).trans (bind_eq_ok.mpr ⟨cursor, ?_, bind_eq_ok.mpr ⟨fetched, fetches, rfl⟩⟩)
  rwa [same]

/-- A page after a cursor, from the rows of its query. -/
theorem list_after_eq {raw : List Char} {cursor : CursorPayload} {fetched : List Message}
    (isGiven : given start = some raw) (decoded : decodeCursor raw = .ok cursor)
    (fetches : rawList timestamp messages (request.rawArgs .after (some cursor) false (request.limit
      + 1)) = .ok fetched) :
    list timestamp messages { request with before := none, after := start, around := none } =
      .ok (messagePage
        (if request.limit < fetched.length then fetched.drop 1 else fetched.take request.limit)
        (decide (request.limit < fetched.length))) := by
  have one : ¬ 1 < [(given none).isSome, (given start).isSome, false].countP id := by
    cases (given start).isSome <;> decide
  have page : listPage timestamp messages
      { request with before := none, after := start, around := none } none (some raw) =
      .ok (messagePage
        (if request.limit < fetched.length then fetched.drop 1 else fetched.take request.limit)
        (decide (request.limit < fetched.length))) := by
    refine bind_eq_ok.mpr ⟨some cursor, bind_eq_ok.mpr ⟨cursor, decoded, rfl⟩,
      bind_eq_ok.mpr ⟨fetched, fetches, ?_⟩⟩
    simp
  apply (if_neg one).trans
  rw [isGiven]
  exact page

end Starts

section Older

/-- The rows before a start. -/
def olderRows (messages : MessageTable) (request : ListMessagesArgs) (bound : Option Position) :
    List Message :=
  (timeline messages request).filter fun row => bound.all (row.position < ·)

variable {bound : Option Position} {limit : Nat} {start : Option (List Char)}

/-- The page before a start. -/
theorem list_before (starts : startOf timestamp start = .ok bound) :
    list timestamp messages { request with before := start, after := none, around := none } =
      .ok (messagePage ((olderRows messages request bound).take request.limit)
        (decide (request.limit < (olderRows messages request bound).length))) := by
  have fetched : ∃ cursor, (given start).mapM decodeCursor = .ok cursor ∧
      rawList timestamp messages (request.rawArgs .before cursor false (request.limit + 1)) =
        .ok ((olderRows messages request bound).take (request.limit + 1)) := by
    cases bound with
    | none =>
      rw [startOf_eq_none starts]
      refine ⟨none, rfl, (rawList_newest false _).trans ?_⟩
      rw [olderRows]
      exact congrArg (fun rows => Except.ok (List.take _ rows))
        (filter_eq_self.mpr fun _ _ => rfl).symm
    | some position =>
      obtain ⟨raw, payload, isGiven, decoded, reads⟩ := startOf_eq_some starts
      rw [isGiven]
      refine ⟨some payload, bind_eq_ok.mpr ⟨payload, decoded, rfl⟩, ?_⟩
      exact rawList_before reads false _
  obtain ⟨cursor, decoded, fetches⟩ := fetched
  rw [list_before_eq decoded fetches, take_take, Nat.min_eq_left (Nat.le_succ _)]
  simp only [lt_length_take_succ]

/-- The rows before the last one of a page are the rows behind the page. -/
theorem olderRows_last {last : Message}
    (isLast : ((olderRows messages request bound).take limit).getLast? = some last) :
    olderRows messages request (some last.position) =
      (olderRows messages request bound).drop limit :=
  behind_last (descending_timeline messages request) isLast

/-- The rows that a walk from a start has to read, the newest first. -/
def olderFrom (timestamp : List Char → Option Int) (messages : MessageTable)
    (request : ListMessagesArgs) (start : Option (List Char)) : List Message :=
  match startOf timestamp start with
  | .ok bound => olderRows messages request bound
  | .error _ => []

theorem olderFrom_eq (starts : startOf timestamp start = .ok bound) :
    olderFrom timestamp messages request start = olderRows messages request bound := by
  rw [olderFrom, starts]

/-- A page before a start leaves the rows before its last one. -/
theorem serves_older (stored : Stored timestamp messages) (positive : 1 ≤ request.limit)
    (start : Option (List Char)) (valid : ∃ bound, startOf timestamp start = .ok bound) :
    ∃ page, olderPage timestamp messages request start = some page ∧
      Serves id request.limit (fun start => ∃ bound, startOf timestamp start = .ok bound)
        (olderFrom timestamp messages request) start page := by
  obtain ⟨bound, starts⟩ := valid
  refine ⟨_, congrArg (fun answer => (Except.toOption answer).map _) (list_before starts),
    .of_take positive ((olderFrom_eq starts).trans (map_id _).symm) (map_id _).symm
      (fun short => by simp [messagePage, short]) fun last isLast longer => ?_⟩
  have present : last ∈ messages :=
    (mem_timeline.mp (mem_of_mem_filter (mem_of_mem_take (mem_of_getLast? isLast)))).1
  have nextStarts := startOf_cursorFor stored present
  refine ⟨some (cursorFor last), by simp [messagePage, longer, isLast], ⟨_, nextStarts⟩, ?_⟩
  rw [olderFrom_eq nextStarts, olderRows_last isLast, map_id]

end Older

section Newer

/-- The rows after a position. -/
def newerRows (messages : MessageTable) (request : ListMessagesArgs) (position : Position) :
    List Message :=
  (timeline messages request).filter fun row => position < row.position

/-- Without the row too many, the first ones of a list are left. -/
theorem newer_items (rows : List Message) (limit : Nat) :
    (if limit < ((rows.take (limit + 1)).reverse).length then
        (rows.take (limit + 1)).reverse.drop 1
      else (rows.take (limit + 1)).reverse.take limit) = (rows.take limit).reverse := by
  rw [length_reverse]
  by_cases longer : limit < rows.length
  · rw [if_pos (lt_length_take_succ.mpr longer), drop_reverse, length_take, take_take]
    congr 2
    omega
  · have oneMore : rows.take (limit + 1) = rows := take_of_length_le (by omega)
    have all : rows.take limit = rows := take_of_length_le (by omega)
    have allReversed : rows.reverse.take limit = rows.reverse :=
      take_of_length_le (by rw [length_reverse]; omega)
    rw [if_neg (mt lt_length_take_succ.mp longer), oneMore, all, allReversed]

variable {position : Position} {start : Option (List Char)}

/-- The page after a cursor. -/
theorem list_after (starts : startOf timestamp start = .ok (some position)) :
    list timestamp messages { request with before := none, after := start, around := none } =
      .ok (messagePage ((newerRows messages request position).reverse.take request.limit).reverse
        (decide (request.limit < (newerRows messages request position).length))) := by
  obtain ⟨raw, payload, isGiven, decoded, reads⟩ := startOf_eq_some starts
  have fetches : rawList timestamp messages
      (request.rawArgs .after (some payload) false (request.limit + 1)) =
      .ok ((newerRows messages request position).reverse.take (request.limit + 1)).reverse :=
    rawList_after reads false _
  rw [list_after_eq isGiven decoded fetches, newer_items]
  simp only [length_reverse, lt_length_take_succ]

/-- The rows up to a position. -/
def upTo (messages : MessageTable) (request : ListMessagesArgs) (position : Position) :
    List Message :=
  (timeline messages request).filter fun row => row.position ≤ position

/-- The rows after a position are the first ones of the timeline. -/
theorem newerRows_append_upTo (messages : MessageTable) (request : ListMessagesArgs)
    (position : Position) :
    newerRows messages request position ++ upTo messages request position =
      timeline messages request := by
  have upward : ∀ first second : Message, second.position < first.position →
      decide (position < second.position) = true → decide (position < first.position) = true := by
    intro first second below above
    exact decide_eq_true ((of_decide_eq_true above).trans below)
  have split := split_upward (descending_timeline messages request) upward
  have others : (timeline messages request).filter (fun row => !decide (position < row.position)) =
      upTo messages request position := by
    apply filter_congr
    intro row _
    rw [← decide_not]
    exact decide_eq_decide.mpr not_lt
  rw [others] at split
  exact split

/-- The rows after the first one of a page are the rows in front of the page. -/
theorem newerRows_first {position : Position} {limit : Nat} {first : Message}
    (isFirst : ((newerRows messages request position).reverse.take limit).reverse.head? =
      some first) :
    newerRows messages request first.position =
      ((newerRows messages request position).reverse.drop limit).reverse := by
  have split := newerRows_append_upTo messages request position
  have parts : ((newerRows messages request position).reverse.drop limit).reverse ++
      ((newerRows messages request position).reverse.take limit).reverse =
        newerRows messages request position := by
    rw [← reverse_append, take_append_drop, reverse_reverse]
  rw [← parts] at split
  have descending := descending_timeline messages request
  rw [← split] at descending
  have above := filter_above_first descending isFirst
  rw [split] at above
  exact above

/-- The rows that a walk from a cursor has to read, the oldest first. -/
def newerFrom (timestamp : List Char → Option Int) (messages : MessageTable)
    (request : ListMessagesArgs) (start : Option (List Char)) : List Message :=
  match startOf timestamp start with
  | .ok (some position) => (newerRows messages request position).reverse
  | _ => []

theorem newerFrom_eq (starts : startOf timestamp start = .ok (some position)) :
    newerFrom timestamp messages request start = (newerRows messages request position).reverse := by
  rw [newerFrom, starts]

/-- A page after a cursor, turned around, leaves the rows after its first one. -/
theorem serves_newer (stored : Stored timestamp messages) (positive : 1 ≤ request.limit)
    (start : Option (List Char))
    (valid : ∃ position, startOf timestamp start = .ok (some position)) :
    ∃ page, newerPage timestamp messages request start = some page ∧
      Serves List.reverse request.limit
        (fun start => ∃ position, startOf timestamp start = .ok (some position))
        (newerFrom timestamp messages request) start page := by
  obtain ⟨position, starts⟩ := valid
  have length : (newerRows messages request position).reverse.length =
      (newerRows messages request position).length :=
    length_reverse
  refine ⟨_, congrArg (fun answer => (Except.toOption answer).map _) (list_after starts),
    .of_take positive ((newerFrom_eq starts).trans (map_id _).symm) ?_ (fun short => ?_)
      fun first isLast longer => ?_⟩
  · exact (reverse_reverse _).trans (map_id _).symm
  · simp [messagePage, length ▸ short]
  have isFirst : ((newerRows messages request position).reverse.take
      request.limit).reverse.head? = some first := head?_reverse.trans isLast
  have present : first ∈ messages :=
    (mem_timeline.mp (mem_of_mem_filter (mem_reverse.mp (mem_of_mem_take
      (mem_of_getLast? isLast))))).1
  have nextStarts := startOf_cursorFor stored present
  refine ⟨some (cursorFor first), ?_, ⟨_, nextStarts⟩, ?_⟩
  · simp [messagePage, length ▸ longer, isFirst]
  · rw [newerFrom_eq nextStarts, newerRows_first isFirst, reverse_reverse, map_id]

end Newer

/-- Rows that have ids of their own are put behind each other. -/
theorem foldl_setById (byId rows : List Message)
    (distinct : (byId ++ rows).Pairwise fun first second => first.id ≠ second.id) :
    rows.foldl setById byId = byId ++ rows := by
  induction rows generalizing byId with
  | nil => rw [foldl_nil, append_nil]
  | cons row rest ih =>
    have fresh : byId.any (·.id == row.id) = false := by
      apply any_eq_false.mpr
      intro old oldMem
      have apart := (pairwise_append.mp distinct).2.2 old oldMem row mem_cons_self
      simpa using apart
    rw [append_cons] at distinct
    rw [foldl_cons, setById, fresh, if_neg Bool.false_ne_true, ih _ distinct, ← append_cons]

/-- The rows next to a position, on both sides. -/
theorem stretch_around (messages : MessageTable) (request : ListMessagesArgs)
    (position : Position) (half : Nat) :
    ∃ newer older, newer ++ (((newerRows messages request position).reverse.take half).reverse ++
      (upTo messages request position).take (half + 1)) ++ older = timeline messages request := by
  refine ⟨((newerRows messages request position).reverse.drop half).reverse,
    (upTo messages request position).drop (half + 1), ?_⟩
  rw [← newerRows_append_upTo messages request position, ← append_assoc, ← reverse_append,
    take_append_drop, reverse_reverse, append_assoc, take_append_drop]

/-- The merge of both queries. -/
theorem newestFirst_around (messages : MessageTable) (request : ListMessagesArgs)
    (position : Position) (half : Nat) :
    newestFirst (((upTo messages request position).take (half + 1) ++
        ((newerRows messages request position).reverse.take half).reverse).foldl setById []) =
      ((newerRows messages request position).reverse.take half).reverse ++
        (upTo messages request position).take (half + 1) := by
  obtain ⟨newer, older, stretch⟩ := stretch_around messages request position half
  have part : (((newerRows messages request position).reverse.take half).reverse ++
      (upTo messages request position).take (half + 1)).Sublist (timeline messages request) := by
    rw [← stretch, append_assoc]
    exact (sublist_append_left _ _).trans (sublist_append_right _ _)
  have distinct := (distinct_newestFirst _).sublist part
  have turned := perm_append_comm.pairwise distinct fun apart => apart.symm
  rw [foldl_setById [] (_ ++ _) turned, nil_append]
  exact newestFirst_eq ((descending_timeline messages request).sublist part) perm_append_comm

/-- The rows around an anchor are a stretch of the timeline; it is empty only if there is nothing
to show. -/
theorem list_around (stored : Stored timestamp messages) (positive : 1 ≤ request.limit)
    {id : MessageId} {page : MessagePage}
    (listed : list timestamp messages
      { request with before := none, after := none, around := some id } = .ok page) :
    page = messagePage page.items false ∧ (page.items = [] → timeline messages request = []) ∧
      ∃ newer older, newer ++ page.items ++ older = timeline messages request := by
  change listAround timestamp messages _ id = .ok page at listed
  unfold listAround at listed
  split at listed
  next => cases listed
  next anchor found =>
    have present : anchor ∈ messages := mem_of_find?_eq_some found
    have reads := position_cursorFor stored present
    have halfPositive : 1 ≤ (request.limit + 1) / 2 := by omega
    generalize (request.limit + 1) / 2 = half at listed halfPositive
    have fetchedBefore : rawList timestamp messages (request.rawArgs .before _ true (half + 1)) =
        .ok ((upTo messages request anchor.position).take (half + 1)) :=
      rawList_before reads true _
    have fetchedAfter : rawList timestamp messages (request.rawArgs .after _ false half) =
        .ok ((newerRows messages request anchor.position).reverse.take half).reverse :=
      rawList_after reads false _
    obtain ⟨beforeItems, beforeEq, listed⟩ := bind_eq_ok.mp listed
    obtain ⟨afterItems, afterEq, listed⟩ := bind_eq_ok.mp listed
    cases fetchedBefore.symm.trans beforeEq
    cases fetchedAfter.symm.trans afterEq
    cases listed
    rw [newestFirst_around messages request anchor.position half]
    refine ⟨rfl, ?_, stretch_around messages request anchor.position half⟩
    intro nothing
    obtain ⟨noneNewer, noneUpTo⟩ := append_eq_nil_iff.mp nothing
    rw [← newerRows_append_upTo messages request anchor.position]
    rw [reverse_eq_nil_iff, take_eq_nil_iff, reverse_eq_nil_iff] at noneNewer
    rw [take_eq_nil_iff] at noneUpTo
    rw [noneNewer.resolve_left (by omega), noneUpTo.resolve_left (by omega)]
    rfl

/-- A root or a broadcast copy that is live, or has replies, or is asked for although deleted, and
that is not too old for the reader. -/
def ListMessagesArgs.Visible (request : ListMessagesArgs) (row : Message) : Prop :=
  row.channelId = request.channelId ∧ (row.parentMessageId = none ∨ row.isBroadcast = true) ∧
    (request.includeDeleted = true ∨ row.deletedAt = none ∨ 0 < row.replyCount) ∧
    ∀ visibleFrom, request.visibleFrom = some visibleFrom → visibleFrom ≤ row.createdAt

theorem mem_timeline_iff {row : Message} :
    row ∈ timeline messages request ↔ row ∈ messages ∧ request.Visible row := by
  rw [mem_timeline]
  simp only [RawListArgs.shows, ListMessagesArgs.rawArgs, ListMessagesArgs.Visible,
    Bool.and_eq_true, Bool.or_eq_true, beq_iff_eq, decide_eq_true_eq, Option.all_eq_true,
    and_assoc, or_assoc]

/-- The visible rows at some positions, each of them once, the newest first. -/
structure Complete (messages : MessageTable) (request : ListMessagesArgs)
    (Within : Position → Prop) (rows : List Message) : Prop where
  ordered : rows.Pairwise fun first second => second.position < first.position
  mem_iff : ∀ row, row ∈ rows ↔ (row ∈ messages ∧ request.Visible row) ∧ Within row.position

theorem complete_filter {Within : Position → Prop} {within : Message → Bool}
    (same : ∀ row, within row = true ↔ Within row.position) :
    Complete messages request Within ((timeline messages request).filter within) where
  ordered := (descending_timeline messages request).filter within
  mem_iff := by
    intro row
    rw [mem_filter, mem_timeline_iff, same]

theorem older_complete (stored : Stored timestamp messages) (positive : 1 ≤ request.limit)
    {start : Option (List Char)} {bound : Option Position}
    (starts : startOf timestamp start = .ok bound) {pages : List (List Message)}
    (walk : Walk (olderPage timestamp messages request) start pages) :
    pages.flatten = olderRows messages request bound := by
  have read := walk.flatten_eq (serves_older stored positive) ⟨bound, starts⟩
  rwa [map_id, olderFrom_eq starts] at read

theorem newer_complete (stored : Stored timestamp messages) (positive : 1 ≤ request.limit)
    {start : Option (List Char)} {position : Position}
    (starts : startOf timestamp start = .ok (some position)) {pages : List (List Message)}
    (walk : Walk (newerPage timestamp messages request) start pages) :
    pages.reverse.flatten = newerRows messages request position := by
  have read := walk.flatten_eq (serves_newer stored positive) ⟨position, starts⟩
  rw [newerFrom_eq starts] at read
  have turned := congrArg List.reverse read
  rwa [reverse_flatten, map_map, reverse_reverse, Function.Involutive.comp_self
    reverse_involutive, map_id] at turned

/-- Where a walk starts that goes on from the rows around an anchor, if there are any. -/
theorem starts_around (stored : Stored timestamp messages) (positive : 1 ≤ request.limit)
    {id : MessageId} {page : MessagePage}
    (listed : list timestamp messages
      { request with before := none, after := none, around := some id } = .ok page)
    (nonempty : page.items ≠ []) :
    ∃ first last, startOf timestamp page.prevCursor = .ok (some first) ∧
      startOf timestamp page.nextCursor = .ok (some last) ∧
      newerRows messages request first ++ page.items ++ olderRows messages request (some last) =
        timeline messages request := by
  obtain ⟨pageEq, -, newer, older, stretch⟩ := list_around stored positive listed
  obtain ⟨first, isFirst⟩ : ∃ first, page.items.head? = some first :=
    ⟨_, List.head?_eq_some_head nonempty⟩
  obtain ⟨last, isLast⟩ : ∃ last, page.items.getLast? = some last :=
    ⟨_, List.getLast?_eq_some_getLast nonempty⟩
  have present : ∀ row ∈ page.items, row ∈ messages := by
    intro row rowMem
    have inTimeline : row ∈ timeline messages request := by
      rw [← stretch]
      exact mem_append_left _ (mem_append_right _ rowMem)
    exact (mem_timeline.mp inTimeline).1
  have descending := descending_timeline messages request
  rw [← stretch] at descending
  have above := filter_above_first descending isFirst
  have below := filter_below_last descending isLast
  refine ⟨first.position, last.position, ?_, ?_, ?_⟩
  · rw [pageEq, messagePage, isFirst]
    exact startOf_cursorFor stored (present first (mem_of_head? isFirst))
  · rw [pageEq, messagePage, isLast]
    exact startOf_cursorFor stored (present last (mem_of_getLast? isLast))
  · rw [stretch] at above below
    have newerEq : newerRows messages request first.position = newer := above
    have olderEq : olderRows messages request (some last.position) = older := below
    rw [newerEq, olderEq, stretch]

/-- Without rows, there is nothing newer than nothing. -/
theorem newerPage_nothing (timestamp : List Char → Option Int)
    (nothing : timeline messages request = []) :
    newerPage timestamp messages request none = some { items := [], next := none } := by
  have noRows : olderRows messages request none = [] := by
    rw [olderRows, nothing]
    rfl
  have answer : list timestamp messages
      { request with before := none, after := none, around := none } =
      .ok (messagePage ((olderRows messages request none).take request.limit)
        (decide (request.limit < (olderRows messages request none).length))) :=
    list_before rfl
  have noMore : decide (request.limit < 0) = false := decide_eq_false (Nat.not_lt_zero _)
  rw [noRows, take_nil, length_nil, noMore] at answer
  rw [newerPage, answer]
  rfl

/-- The walks in both directions from the rows around an anchor. -/
theorem around_complete (stored : Stored timestamp messages) (positive : 1 ≤ request.limit)
    {id : MessageId} {page : MessagePage}
    (listed : list timestamp messages
      { request with before := none, after := none, around := some id } = .ok page)
    {newer older : List (List Message)}
    (newerWalk : Walk (newerPage timestamp messages request) page.prevCursor newer)
    (olderWalk : Walk (olderPage timestamp messages request) page.nextCursor older) :
    newer.reverse.flatten ++ page.items ++ older.flatten = timeline messages request := by
  by_cases empty : page.items = []
  · obtain ⟨pageEq, noRows, -⟩ := list_around stored positive listed
    have nothing := noRows empty
    have fetched := newerPage_nothing timestamp nothing
    rw [pageEq, empty] at newerWalk olderWalk
    have olderRead : older.flatten = olderRows messages request none :=
      older_complete stored positive rfl olderWalk
    rw [empty, olderRead, olderRows, nothing]
    cases newerWalk with
    | last found ends =>
      cases fetched.symm.trans found
      rfl
    | more found goesOn _ =>
      cases fetched.symm.trans found
      cases goesOn
  · obtain ⟨first, last, prevStarts, nextStarts, stretch⟩ :=
      starts_around stored positive listed empty
    rw [newer_complete stored positive prevStarts newerWalk,
      older_complete stored positive nextStarts olderWalk, stretch]

theorem exists_walks_around (stored : Stored timestamp messages) (positive : 1 ≤ request.limit)
    {id : MessageId} {page : MessagePage}
    (listed : list timestamp messages
      { request with before := none, after := none, around := some id } = .ok page) :
    ∃ newer older, Walk (newerPage timestamp messages request) page.prevCursor newer ∧
      Walk (olderPage timestamp messages request) page.nextCursor older := by
  by_cases empty : page.items = []
  · obtain ⟨pageEq, noRows, -⟩ := list_around stored positive listed
    obtain ⟨older, olderWalk⟩ : ∃ older,
        Walk (olderPage timestamp messages request) none older :=
      exists_walk positive (serves_older stored positive) ⟨none, rfl⟩
    rw [pageEq, empty]
    exact ⟨_, older, .last (newerPage_nothing timestamp (noRows empty)) rfl, olderWalk⟩
  · obtain ⟨first, last, prevStarts, nextStarts, -⟩ := starts_around stored positive listed empty
    obtain ⟨newer, newerWalk⟩ :=
      exists_walk positive (serves_newer stored positive) ⟨first, prevStarts⟩
    obtain ⟨older, olderWalk⟩ :=
      exists_walk positive (serves_older stored positive) ⟨some last, nextStarts⟩
    exact ⟨newer, older, newerWalk, olderWalk⟩

/-- From every start a client gets to the end, and has then read every visible row that is on
its way once, in the order of the channel. -/
theorem walks_complete (stored : Stored timestamp messages) (positive : 1 ≤ request.limit) :
    (∀ start bound, startOf timestamp start = .ok bound →
      (∃ pages, Walk (olderPage timestamp messages request) start pages) ∧
        ∀ pages, Walk (olderPage timestamp messages request) start pages →
          Complete messages request (fun position => ∀ cursor ∈ bound, position < cursor)
            pages.flatten) ∧
    (∀ start cursor, startOf timestamp start = .ok (some cursor) →
      (∃ pages, Walk (newerPage timestamp messages request) start pages) ∧
        ∀ pages, Walk (newerPage timestamp messages request) start pages →
          Complete messages request (fun position => cursor < position) pages.reverse.flatten) ∧
    ∀ id page, list timestamp messages
        { request with before := none, after := none, around := some id } = .ok page →
      (∃ newer older, Walk (newerPage timestamp messages request) page.prevCursor newer ∧
        Walk (olderPage timestamp messages request) page.nextCursor older) ∧
        ∀ newer older, Walk (newerPage timestamp messages request) page.prevCursor newer →
          Walk (olderPage timestamp messages request) page.nextCursor older →
            Complete messages request (fun _ => True)
              (newer.reverse.flatten ++ page.items ++ older.flatten) := by
  refine ⟨fun start bound starts => ⟨?_, fun pages walk => ?_⟩,
    fun start cursor starts => ⟨?_, fun pages walk => ?_⟩,
    fun id page listed => ⟨exists_walks_around stored positive listed,
      fun newer older newerWalk olderWalk => ?_⟩⟩
  · exact exists_walk positive (serves_older stored positive) ⟨bound, starts⟩
  · rw [older_complete stored positive starts walk]
    apply complete_filter
    intro row
    rw [Option.all_eq_true]
    simp only [decide_eq_true_eq, Option.mem_def]
  · exact exists_walk positive (serves_newer stored positive) ⟨cursor, starts⟩
  · rw [newer_complete stored positive starts walk]
    exact complete_filter fun row => decide_eq_true_iff
  · rw [around_complete stored positive listed newerWalk olderWalk]
    have all : Complete messages request (fun _ => True)
        ((timeline messages request).filter fun _ => true) :=
      complete_filter fun row => ⟨fun _ => trivial, fun _ => rfl⟩
    rwa [filter_true] at all

/-- Two roots of one time, of which one is deleted, a reply and a broadcast copy. -/
def lobbyRows : List Message :=
  [{ id := ⟨4⟩, channelId := ⟨7⟩, authorId := ⟨1⟩, content := "copy",
      parentMessageId := some ⟨1⟩, isBroadcast := true, createdAt := 3000 },
    { id := ⟨3⟩, channelId := ⟨7⟩, authorId := ⟨1⟩, content := "reply",
      parentMessageId := some ⟨1⟩, createdAt := 2000 },
    { id := ⟨2⟩, channelId := ⟨7⟩, authorId := ⟨1⟩, content := "gone", replyCount := 1,
      deletedAt := some 2500, createdAt := 1000 },
    { id := ⟨1⟩, channelId := ⟨7⟩, authorId := ⟨1⟩, content := "root", replyCount := 1,
      createdAt := 1000 }]

def lobby : MessageTable where
  table := { rows := lobbyRows, keysNodup := by decide }
  keysUnique := by
    have noKeys : ∀ row ∈ lobbyRows, row.idempotencyKey = none := by decide
    intro first firstMem second _ _ _ keyed
    exact absurd (noKeys first firstMem) keyed
  parents := by
    have oneParent : ∀ row ∈ lobbyRows, ∀ parentId ∈ row.parentMessageId,
        ∃ parent ∈ lobbyRows, parent.id = parentId := by
      decide
    exact oneParent

/-- What the database reads in the times of the rows. -/
def lobbyTimestamp (text : List Char) : Option Int :=
  if text = "1970-01-01T00:00:01.000Z".toList then some 1000000
  else if text = "1970-01-01T00:00:02.000Z".toList then some 2000000
  else if text = "1970-01-01T00:00:03.000Z".toList then some 3000000
  else none

theorem lobby_stored : Stored lobbyTimestamp lobby where
  ids := by
    have small : ∀ row ∈ lobbyRows, row.id.value < 2 ^ 128 := by decide +kernel
    exact small
  times := by
    have early : ∀ row ∈ lobbyRows, row.createdAt < endOfTime := by decide +kernel
    exact early
  reads := by
    have same : ∀ row ∈ lobbyRows,
        lobbyTimestamp (toISOString row.createdAt) = some ((row.createdAt : Int) * 1000) := by
      decide +kernel
    exact same

def lobbyRequest : ListMessagesArgs :=
  { channelId := ⟨7⟩, limit := 1 }

theorem lobby_walks_complete :
    (∃ pages, Walk (olderPage lobbyTimestamp lobby lobbyRequest) none pages) ∧
      ∀ pages, Walk (olderPage lobbyTimestamp lobby lobbyRequest) none pages →
        Complete lobby lobbyRequest
          (fun position => ∀ cursor ∈ (none : Option Position), position < cursor)
          pages.flatten :=
  (walks_complete lobby_stored (by decide)).1 none none rfl

end Bongtalk.Messages
