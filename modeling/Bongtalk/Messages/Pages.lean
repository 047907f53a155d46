import Bongtalk.Library.Keyset
import Bongtalk.Messages.CursorCodec
import Bongtalk.Messages.List

/-!
# Pages of a channel

A client reads a channel page by page: older rows with `before`, newer rows with `after`, and the
rows around one of them. A page holds cursors of its first and its last row.
-/

namespace Bongtalk.Messages

open Library Common Prisma List Table

variable {timestamp : List Char → Option Int} {messages : MessageTable}

structure ListMessagesArgs where
  channelId : ChannelId
  before : Option (List Char) := none
  after : Option (List Char) := none
  around : Option MessageId := none
  limit : Nat
  includeDeleted : Bool := false
  visibleFrom : Option DateTime := none

/-- What `list` answers. -/
structure MessagePage where
  items : List Message
  hasMore : Bool
  prevCursor : Option (List Char)
  nextCursor : Option (List Char)

/-- The arguments of the queries that a request makes. -/
def ListMessagesArgs.rawArgs (args : ListMessagesArgs) (direction : Direction)
    (cursor : Option CursorPayload) (inclusive : Bool) (limit : Nat) : RawListArgs where
  channelId := args.channelId
  direction := direction
  cursor := cursor
  inclusive := inclusive
  limit := limit
  includeDeleted := args.includeDeleted
  visibleFrom := args.visibleFrom

/-- A page of rows, with the cursors of its ends. -/
def messagePage (items : List Message) (hasMore : Bool) : MessagePage where
  items := items
  hasMore := hasMore
  prevCursor := items.head?.map cursorFor
  nextCursor := items.getLast?.map cursorFor

/-- `message.findFirst` of the row in the middle, if the reader may see its time. -/
def findAnchor (messages : MessageTable) (args : ListMessagesArgs) (id : MessageId) :
    Option Message :=
  messages.table.rows.find? fun message =>
    message.id == id && message.channelId == args.channelId &&
      args.visibleFrom.all fun visibleFrom => visibleFrom ≤ message.createdAt

/-- `byId.set(row.id, row)`. -/
def setById (byId : List Message) (row : Message) : List Message :=
  if byId.any (·.id == row.id) then byId.map fun old => if old.id = row.id then row else old
  else byId ++ [row]

/-- The part of `list` for `around`. The order of `localeCompare` on ids is that of the
database. -/
def listAround (timestamp : List Char → Option Int) (messages : MessageTable)
    (args : ListMessagesArgs) (id : MessageId) : Except Failure MessagePage :=
  match findAnchor messages args id with
  | none => failWith .messageNotFound "anchor message not found"
  | some anchor => do
    let half := (args.limit + 1) / 2
    let cursor : CursorPayload :=
      { createdAt := toISOString anchor.createdAt, id := uuidText anchor.id.value }
    let beforeItems ←
      rawList timestamp messages (args.rawArgs .before (some cursor) true (half + 1))
    let afterItems ← rawList timestamp messages (args.rawArgs .after (some cursor) false half)
    let byId := (beforeItems ++ afterItems).foldl setById []
    .ok (messagePage (newestFirst byId) false)

/-- The part of `list` for `before`, `after` and neither: one row more than asked for tells whether
there are more. -/
def listPage (timestamp : List Char → Option Int) (messages : MessageTable)
    (args : ListMessagesArgs) (before after : Option (List Char)) : Except Failure MessagePage := do
  let direction : Direction := if after.isSome then .after else .before
  let cursor ← (before.orElse fun _ => after).mapM decodeCursor
  let fetched ← rawList timestamp messages (args.rawArgs direction cursor false (args.limit + 1))
  let hasMore := decide (args.limit < fetched.length)
  -- The row too many is the oldest one, or the newest one of newer rows.
  let items :=
    if direction = .after ∧ hasMore = true then fetched.drop 1 else fetched.take args.limit
  .ok (messagePage items hasMore)

/-- An empty text counts as none. -/
def given (text : Option (List Char)) : Option (List Char) :=
  text.filter (· ≠ [])

/-- `list`. -/
def list (timestamp : List Char → Option Int) (messages : MessageTable)
    (args : ListMessagesArgs) : Except Failure MessagePage :=
  let before := given args.before
  let after := given args.after
  let directions := [before.isSome, after.isSome, args.around.isSome].countP id
  if 1 < directions then
    failWith .validationFailed "before / after / around are mutually exclusive"
  else
    match args.around with
    | some id => listAround timestamp messages args id
    | none => listPage timestamp messages args before after

section Timeline

/-- The rows that a request may show, the newest first. -/
def timeline (messages : MessageTable) (request : ListMessagesArgs) : List Message :=
  newestFirst (messages.table.findMany (request.rawArgs .before none false 0).shows)

variable {request : ListMessagesArgs}

theorem mem_timeline {row : Message} : row ∈ timeline messages request ↔
    row ∈ messages ∧ (request.rawArgs .before none false 0).shows row = true := by
  rw [timeline, newestFirst, mem_insertionSort]
  exact mem_findMany

variable (condition : Message → Bool) {first second : Message}

/-- The id is a part of the position. -/
theorem id_of_position (same : first.position = second.position) : first.id = second.id :=
  congrArg (fun position : Position => MessageId.mk (ofLex position).2) same

theorem eq_of_position (firstMem : first ∈ messages) (secondMem : second ∈ messages)
    (same : first.position = second.position) : first = second :=
  eq_of_key_eq firstMem secondMem (id_of_position same)

/-- Rows with positions of their own have one order. -/
theorem newestFirst_eq {rows sorted : List Message}
    (descending : Keyset.Descending Message.position sorted) (permuted : rows.Perm sorted) :
    newestFirst rows = sorted := by
  have ordered : (newestFirst rows).Pairwise fun first second => second.position ≤ first.position :=
    pairwise_insertionSort _ _
  have back : sorted.Perm (newestFirst rows) :=
    permuted.symm.trans (perm_insertionSort _ _).symm
  have distinct : (newestFirst rows).Pairwise
      fun first second => second.position ≠ first.position :=
    back.pairwise (descending.imp ne_of_lt) fun apart => apart.symm
  have strictly : Keyset.Descending Message.position (newestFirst rows) := by
    apply (ordered.and distinct).imp
    intro first second both
    exact lt_of_le_of_ne both.1 both.2
  exact strictly.eq_of_perm descending back.symm

theorem distinct_newestFirst :
    (newestFirst (messages.table.findMany condition)).Pairwise
      fun first second => first.id ≠ second.id := by
  have selected : (messages.table.findMany condition).Pairwise
      fun first second => first.id ≠ second.id :=
    pairwise_map.mp (messages.table.keysNodup.sublist (filter_sublist.map Message.id))
  exact (perm_insertionSort _ _).symm.pairwise selected fun apart => apart.symm

/-- No two rows have the same position. -/
theorem descending_newestFirst :
    Keyset.Descending Message.position (newestFirst (messages.table.findMany condition)) := by
  have ordered : (newestFirst (messages.table.findMany condition)).Pairwise
      fun first second => second.position ≤ first.position :=
    pairwise_insertionSort _ _
  apply (ordered.and (distinct_newestFirst condition)).imp
  intro first second both
  exact lt_of_le_of_ne both.1 fun same => both.2 (id_of_position same).symm

/-- The newest of the rows that meet a condition. -/
theorem newest_eq_some_iff {condition : Message → Bool} {message : Message} :
    (newestFirst (messages.table.findMany condition)).head? = some message ↔
      (message ∈ messages ∧ condition message = true) ∧
      ∀ other ∈ messages, condition other = true → other.position ≤ message.position := by
  have members : ∀ other, other ∈ newestFirst (messages.table.findMany condition) ↔
      other ∈ messages ∧ condition other = true := by
    intro other
    rw [newestFirst, mem_insertionSort]
    exact mem_findMany
  have descending : Keyset.Descending Message.position
      (newestFirst (messages.table.findMany condition)) := descending_newestFirst condition
  constructor
  · intro isHead
    obtain ⟨rest, sorted⟩ := List.head?_eq_some_iff.mp isHead
    rw [sorted] at members descending
    refine ⟨(members message).mp mem_cons_self, fun other present meets => ?_⟩
    rcases mem_cons.mp ((members other).mpr ⟨present, meets⟩) with rfl | inRest
    · exact le_rfl
    · exact (rel_of_pairwise_cons descending inRest).le
  · rintro ⟨listed, latest⟩
    have inSorted := (members message).mpr listed
    cases sorted : newestFirst (messages.table.findMany condition) with
    | nil =>
      rw [sorted] at inSorted
      cases inSorted
    | cons first rest =>
      rw [sorted] at inSorted members descending
      obtain ⟨present, meets⟩ := (members first).mp mem_cons_self
      rcases mem_cons.mp inSorted with rfl | inRest
      · rfl
      have above := rel_of_pairwise_cons descending inRest
      exact absurd (latest first present meets) (not_le.mpr above)

theorem newest_eq_none_iff {condition : Message → Bool} :
    (newestFirst (messages.table.findMany condition)).head? = none ↔
      ∀ message ∈ messages, condition message ≠ true := by
  rw [List.head?_eq_none_iff, eq_nil_iff_forall_not_mem]
  refine forall_congr' fun message => ?_
  rw [newestFirst, mem_insertionSort, mem_findMany, not_and]
  rfl

/-- Oldest first is newest first turned around. -/
theorem oldestFirst_eq :
    oldestFirst (messages.table.findMany condition) =
      (newestFirst (messages.table.findMany condition)).reverse := by
  have ascending : (newestFirst (messages.table.findMany condition)).reverse.Pairwise
      fun first second => first.position ≤ second.position :=
    pairwise_reverse.mpr ((descending_newestFirst condition).imp le_of_lt)
  have sorted : (oldestFirst (messages.table.findMany condition)).Pairwise
      fun first second => first.position ≤ second.position :=
    pairwise_insertionSort _ _
  have permuted : (oldestFirst (messages.table.findMany condition)).Perm
      (newestFirst (messages.table.findMany condition)).reverse :=
    (perm_insertionSort _ _).trans ((perm_insertionSort _ _).symm.trans (reverse_perm _).symm)
  apply Perm.eq_of_pairwise _ sorted ascending permuted
  intro first second firstMem secondMem below above
  have firstRow := (mem_findMany.mp ((mem_insertionSort _).mp firstMem)).1
  have secondRow :=
    (mem_findMany.mp ((mem_insertionSort _).mp (mem_reverse.mp secondMem))).1
  exact eq_of_position firstRow secondRow (le_antisymm below above)

theorem descending_timeline (messages : MessageTable) (request : ListMessagesArgs) :
    Keyset.Descending Message.position (timeline messages request) :=
  descending_newestFirst _

/-- A query selects from the timeline. -/
theorem newestFirst_findMany :
    newestFirst (messages.table.findMany fun row =>
        (request.rawArgs .before none false 0).shows row && condition row) =
      (timeline messages request).filter condition := by
  apply newestFirst_eq ((descending_timeline messages request).filter condition)
  refine Perm.trans ?_ ((perm_insertionSort _ _).symm.filter condition)
  rw [Table.findMany, Table.findMany, filter_filter]
  exact Perm.of_eq (filter_congr fun row _ => Bool.and_comm _ _)

theorem rawList_newest (inclusive : Bool) (limit : Nat) :
    rawList timestamp messages (request.rawArgs .before none inclusive limit) =
      .ok ((timeline messages request).take limit) := by
  have everything : newestFirst (messages.table.findMany fun row =>
      (request.rawArgs .before none false 0).shows row && true) = timeline messages request :=
    (newestFirst_findMany fun _ => true).trans (filter_true _)
  rw [← everything]
  rfl

section Cursor

variable {payload : CursorPayload} {position : Position}

theorem rawList_before (reads : payload.position timestamp = .ok position) (inclusive : Bool)
    (limit : Nat) :
    rawList timestamp messages (request.rawArgs .before (some payload) inclusive limit) =
      .ok (((timeline messages request).filter fun row =>
        comparison .before inclusive row.position position).take limit) := by
  rw [← newestFirst_findMany, rawList, RawListArgs.cursorSql]
  dsimp only [ListMessagesArgs.rawArgs]
  rw [reads]
  rfl

theorem rawList_after (reads : payload.position timestamp = .ok position) (inclusive : Bool)
    (limit : Nat) :
    rawList timestamp messages (request.rawArgs .after (some payload) inclusive limit) =
      .ok (((timeline messages request).filter fun row =>
        comparison .after inclusive row.position position).reverse.take limit).reverse := by
  rw [← newestFirst_findMany, ← oldestFirst_eq, rawList, RawListArgs.cursorSql]
  dsimp only [ListMessagesArgs.rawArgs]
  rw [reads]
  rfl

end Cursor

end Timeline

section Visible

variable {first second : MessageTable} {request : ListMessagesArgs}

/-- A row of the channel that is not older than what the reader may see. -/
def ListMessagesArgs.MaySee (request : ListMessagesArgs) (row : Message) : Prop :=
  row.channelId = request.channelId ∧
    ∀ visibleFrom, request.visibleFrom = some visibleFrom → visibleFrom ≤ row.createdAt

variable {row : Message} {direction : Direction} {cursor : Option CursorPayload} {inclusive : Bool}
  {limit : Nat} {rows byId : List Message}

theorem ListMessagesArgs.maySee_iff :
    request.MaySee row ↔ row.channelId = request.channelId ∧
      (request.visibleFrom.all fun visibleFrom => visibleFrom ≤ row.createdAt) = true := by
  rw [ListMessagesArgs.MaySee]
  cases request.visibleFrom <;> simp

theorem maySee_of_shows
    (shown : (request.rawArgs direction cursor inclusive limit).shows row = true) :
    request.MaySee row := by
  simp only [RawListArgs.shows, ListMessagesArgs.rawArgs, Bool.and_eq_true, beq_iff_eq] at shown
  exact ListMessagesArgs.maySee_iff.mpr ⟨shown.1.1.1, shown.2⟩

theorem rawList_maySee {direction : Direction} {cursor : Option CursorPayload}
    {inclusive : Bool} {limit : Nat} {rows : List Message}
    (answered : rawList timestamp messages (request.rawArgs direction cursor inclusive limit) =
      .ok rows) : ∀ row ∈ rows, row ∈ messages ∧ request.MaySee row := by
  intro row rowMem
  obtain ⟨present, shown⟩ := mem_of_rawList answered rowMem
  exact ⟨present, maySee_of_shows shown⟩

theorem mem_of_mem_setById {added row : Message} (listed : row ∈ setById byId added) :
    row ∈ byId ∨ row = added := by
  unfold setById at listed
  split at listed
  · obtain ⟨old, oldMem, rfl⟩ := mem_map.mp listed
    split
    · exact .inr rfl
    · exact .inl oldMem
  · rcases mem_append.mp listed with before | new
    · exact .inl before
    · exact .inr (mem_singleton.mp new)

theorem mem_of_mem_foldl_setById (listed : row ∈ rows.foldl setById byId) :
    row ∈ byId ∨ row ∈ rows := by
  induction rows generalizing byId with
  | nil => exact .inl listed
  | cons first rest ih =>
    rcases ih listed with before | inRest
    · rcases mem_of_mem_setById before with old | same
      · exact .inl old
      · exact .inr (same ▸ mem_cons_self)
    · exact .inr (mem_cons_of_mem first inRest)

/-- Whatever a request asks for, a page has rows that the reader may see. -/
theorem list_maySee {page : MessagePage} (answered : list timestamp messages request = .ok page) :
    ∀ row ∈ page.items, row ∈ messages ∧ request.MaySee row := by
  unfold list at answered
  dsimp only at answered
  split at answered
  · exact absurd answered failWith_ne_ok
  split at answered
  next id _ =>
    unfold listAround at answered
    split at answered
    · exact absurd answered failWith_ne_ok
    obtain ⟨beforeItems, beforeEq, answered⟩ := bind_eq_ok.mp answered
    obtain ⟨afterItems, afterEq, answered⟩ := bind_eq_ok.mp answered
    cases answered
    intro row rowMem
    rcases mem_of_mem_foldl_setById ((mem_insertionSort _).mp rowMem) with nothing | inBoth
    · cases nothing
    rcases mem_append.mp inBoth with isBefore | isAfter
    · exact rawList_maySee beforeEq row isBefore
    · exact rawList_maySee afterEq row isAfter
  · obtain ⟨cursor, -, answered⟩ := bind_eq_ok.mp answered
    obtain ⟨fetched, fetchedEq, answered⟩ := bind_eq_ok.mp answered
    cases answered
    intro row rowMem
    have fetchedMem : ∀ (newer : Prop) [Decidable newer],
        row ∈ (if newer then fetched.drop 1 else fetched.take request.limit) →
          row ∈ fetched := by
      intro newer _ listed
      split at listed
      · exact mem_of_mem_drop listed
      · exact mem_of_mem_take listed
    exact rawList_maySee fetchedEq row (fetchedMem _ rowMem)

section Alike

variable (alike : ∀ row, request.MaySee row → (row ∈ first ↔ row ∈ second))

include alike

theorem newestFirst_alike {condition : Message → Bool}
    (sees : ∀ row, condition row = true → request.MaySee row) :
    newestFirst (first.table.findMany condition) =
      newestFirst (second.table.findMany condition) := by
  apply newestFirst_eq (descending_newestFirst condition)
  refine Perm.trans ?_ (perm_insertionSort _ _).symm
  have rowsNodup : ∀ messages : MessageTable, (messages.table.findMany condition).Nodup :=
    fun messages => (Nodup.of_map _ messages.table.keysNodup).filter _
  refine (perm_ext_iff_of_nodup (rowsNodup first) (rowsNodup second)).mpr fun row => ?_
  rw [mem_findMany, mem_findMany]
  exact and_congr_left fun meets => alike row (sees row meets)

theorem rawList_alike (direction : Direction) (cursor : Option CursorPayload) (inclusive : Bool)
    (limit : Nat) :
    rawList timestamp first (request.rawArgs direction cursor inclusive limit) =
      rawList timestamp second (request.rawArgs direction cursor inclusive limit) := by
  have sorted : ∀ cursorSql : Message → Bool, ∀ order : Direction,
      orderBy order (first.table.findMany fun message =>
          (request.rawArgs direction cursor inclusive limit).shows message && cursorSql message) =
        orderBy order (second.table.findMany fun message =>
          (request.rawArgs direction cursor inclusive limit).shows message &&
            cursorSql message) := by
    intro cursorSql order
    have sees : ∀ row : Message, ((request.rawArgs direction cursor inclusive limit).shows row &&
        cursorSql row) = true → request.MaySee row :=
      fun row meets => maySee_of_shows (Bool.and_eq_true_iff.mp meets).1
    have newest := newestFirst_alike alike sees
    cases order with
    | before => exact newest
    | after =>
      rw [orderBy, oldestFirst_eq, oldestFirst_eq, newest]
  rw [rawList, rawList]
  congr 1
  funext cursorSql
  dsimp only
  rw [sorted]

theorem findAnchor_alike (id : MessageId) :
    findAnchor first request id = findAnchor second request id := by
  have found : ∀ messages : MessageTable, ∀ row, findAnchor messages request id = some row ↔
      row ∈ messages ∧ row.id = id ∧ request.MaySee row := by
    intro messages row
    rw [ListMessagesArgs.maySee_iff]
    constructor
    · intro isFound
      have meets := List.find?_some isFound
      simp only [Bool.and_eq_true, beq_iff_eq] at meets
      exact ⟨mem_of_find?_eq_some isFound, meets.1.1, meets.1.2, meets.2⟩
    · rintro ⟨present, sameId, ofChannel, sees⟩
      have isSome : (findAnchor messages request id).isSome = true := by
        rw [findAnchor, List.find?_isSome]
        exact ⟨row, present, by simp [sameId, ofChannel, sees]⟩
      obtain ⟨other, otherEq⟩ := Option.isSome_iff_exists.mp isSome
      have meets := List.find?_some otherEq
      simp only [Bool.and_eq_true, beq_iff_eq] at meets
      have same : other = row := eq_of_key_eq (mem_of_find?_eq_some otherEq) present
        (meets.1.1.trans sameId.symm)
      exact same ▸ otherEq
  refine Option.ext fun row => ?_
  rw [found, found]
  exact and_congr_left fun sees => alike row sees.2

/-- A reader cannot tell apart tables that are alike in the rows it may see. -/
theorem list_alike : list timestamp first request = list timestamp second request := by
  have around : ∀ id, listAround timestamp first request id =
      listAround timestamp second request id := by
    intro id
    rw [listAround, listAround, findAnchor_alike alike]
    cases findAnchor second request id with
    | none => rfl
    | some anchor =>
      dsimp only
      simp only [rawList_alike alike]
  unfold list
  simp only [around, listPage, rawList_alike alike]

end Alike

end Visible

end Bongtalk.Messages
