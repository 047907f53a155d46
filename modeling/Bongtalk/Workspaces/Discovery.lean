import Mathlib.Data.List.ProdSigma
import Mathlib.Data.Prod.Lex
import Bongtalk.Library.Keyset
import Bongtalk.Workspaces.Entry

/-!
# Discovery

The public workspaces are listed by size. The query joins the members of a workspace with the
messages of its channels and counts the rows of the join.
-/

namespace Bongtalk.Workspaces

open Library Keyset List OrderDual Prisma Shared

inductive WorkspaceCategory where
  | programming
  | gaming
  | music
  | entertainment
  | science
  | tech
  | education
  | other
deriving DecidableEq, Repr

def WorkspaceCategory.text : WorkspaceCategory → String
  | programming => "PROGRAMMING"
  | gaming => "GAMING"
  | music => "MUSIC"
  | entertainment => "ENTERTAINMENT"
  | science => "SCIENCE"
  | tech => "TECH"
  | education => "EDUCATION"
  | other => "OTHER"

/-- What a card shows of a workspace. -/
structure WorkspaceCard where
  id : WorkspaceId
  name : String
  slug : String
  description : Option String := none
  iconUrl : Option String := none
  category : Option WorkspaceCategory
  joinMode : WorkspaceJoinMode := .isPrivate
deriving DecidableEq, Repr

structure DiscoveredWorkspace extends WorkspaceCard where
  visibility : WorkspaceVisibility
  deletedAt : Option DateTime := none
deriving DecidableEq, Repr

structure ChannelMessage where
  channelId : ChannelId
  createdAt : DateTime
  deletedAt : Option DateTime := none
deriving DecidableEq, Repr

structure DiscoverStore where
  workspaces : Table DiscoveredWorkspace fun workspace => workspace.id
  members : List WorkspaceMember := []
  channels : List Channel := []
  messages : List ChannelMessage := []

/-- The parts of `{memberCount}|{id}`. -/
structure DiscoverCursor where
  memberCount : Nat
  id : WorkspaceId
deriving DecidableEq, Repr

structure DiscoveryWorkspace extends WorkspaceCard where
  memberCount : Nat
  lastActivityAt : Option DateTime
deriving DecidableEq, Repr

structure DiscoverOptions where
  category : Option (List Char) := none
  q : Option (List Char) := none
  limit : Int

/-- `WHERE`, with the operator `ILIKE` of the database. -/
def DiscoverOptions.shows (ilike : String → List Char → Bool) (opts : DiscoverOptions)
    (workspace : DiscoveredWorkspace) : Bool :=
  let q := trim (takeUnits 200 (opts.q.getD []))
  let cat := trim (opts.category.getD [])
  workspace.deletedAt == none && workspace.visibility == .isPublic &&
    workspace.category.any (fun category => cat == [] || category.text.toList == cat) &&
    (q == [] || ilike workspace.name ('%' :: q ++ ['%']) ||
      workspace.description.any (ilike · ('%' :: q ++ ['%'])))

def DiscoverOptions.capped (opts : DiscoverOptions) : Nat :=
  (max 1 (min 50 opts.limit)).toNat

/-- The rows of a `LEFT JOIN`: one of nulls where there are none. -/
def leftJoined {ρ : Type} (rows : List ρ) : List (Option ρ) :=
  if rows.isEmpty then [none] else rows.map some

namespace DiscoverStore

variable (store : DiscoverStore) (workspaceId : WorkspaceId)

def membersOf : List WorkspaceMember :=
  store.members.filter (·.workspaceId == workspaceId)

def channelsOf : List Channel :=
  store.channels.filter fun channel =>
    channel.workspaceId == some workspaceId && channel.deletedAt == none

def messagesIn (channelId : ChannelId) : List ChannelMessage :=
  store.messages.filter fun message => message.channelId == channelId && message.deletedAt == none

/-- The channels of a workspace with their messages. -/
def messagesOf : List (Option ChannelMessage) :=
  (leftJoined (store.channelsOf workspaceId)).flatMap fun channel =>
    leftJoined (channel.elim [] fun channel => store.messagesIn channel.id)

/-- The group of a workspace. -/
def joined : List (Option WorkspaceMember × Option ChannelMessage) :=
  leftJoined (store.membersOf workspaceId) ×ˢ store.messagesOf workspaceId

/-- `COUNT(wm.*)`. -/
def memberCount : Nat :=
  (store.joined workspaceId).countP (·.1.isSome)

def lastActivityAt : Option DateTime :=
  ((store.joined workspaceId).filterMap (·.2.map ChannelMessage.createdAt)).max?

def item (workspace : DiscoveredWorkspace) : DiscoveryWorkspace where
  toWorkspaceCard := workspace.toWorkspaceCard
  memberCount := store.memberCount workspace.id
  lastActivityAt := store.lastActivityAt workspace.id

/-- `HAVING`. -/
def having (cursor : Option DiscoverCursor) (workspace : DiscoveredWorkspace) : Bool :=
  cursor.all fun cursor => decide (store.memberCount workspace.id < cursor.memberCount) ||
    store.memberCount workspace.id == cursor.memberCount &&
      decide (cursor.id.value < workspace.id.value)

/-- A place by size and then by id, the first one being the greatest. -/
def place (size : Nat) (id : WorkspaceId) : Nat ×ₗ Natᵒᵈ :=
  toLex (size, toDual id.value)

def position (workspace : DiscoveredWorkspace) : Nat ×ₗ Natᵒᵈ :=
  place (store.memberCount workspace.id) workspace.id

variable (ilike : String → List Char → Bool) (opts : DiscoverOptions)

/-- `discover` without its cache: the items of a page, and `nextCursor`. -/
def discover (cursor : Option DiscoverCursor) :
    Option (Page (Option DiscoverCursor) DiscoveryWorkspace) :=
  let rows := (ordered store.position ((store.workspaces.findMany (opts.shows ilike)).filter
    (store.having cursor))).take (opts.capped + 1)
  let hasMore := opts.capped < rows.length
  let items := (if hasMore then rows.take opts.capped else rows).map store.item
  some {
    items := items
    next := if hasMore then items.getLast?.map fun last => some ⟨last.memberCount, last.id⟩
      else none }

/-- The items are the workspaces of the filter, each of them once and with the number of its
members, by size and then by id. -/
def ListsAll (items : List DiscoveryWorkspace) : Prop :=
  ∃ rows : List DiscoveredWorkspace,
    (∀ row, row ∈ rows ↔ row ∈ store.workspaces ∧ opts.shows ilike row = true) ∧
    Descending (fun row => place (store.membersOf row.id).length row.id) rows ∧
    items.map (fun item => (item.id, item.memberCount)) =
      rows.map fun row => (row.id, (store.membersOf row.id).length)

/-- The join has a row for each member: there are none, or there is no second channel or message. -/
def CountsOnce : Prop :=
  store.membersOf workspaceId = [] ∨ (store.channelsOf workspaceId).length ≤ 1 ∧
    ∀ channel ∈ store.channelsOf workspaceId, (store.messagesIn channel.id).length ≤ 1

variable {store workspaceId ilike opts}

theorem length_leftJoined {ρ : Type} (rows : List ρ) :
    (leftJoined rows).length = max 1 rows.length := by
  cases rows <;> simp [leftJoined]

theorem length_messagesOf_eq_one_iff : (store.messagesOf workspaceId).length = 1 ↔
    (store.channelsOf workspaceId).length ≤ 1 ∧
      ∀ channel ∈ store.channelsOf workspaceId, (store.messagesIn channel.id).length ≤ 1 := by
  rw [messagesOf, length_flatMap]
  simp only [length_leftJoined]
  match store.channelsOf workspaceId with
  | [] => simp [leftJoined]
  | [channel] => simp [leftJoined]
  | first :: second :: rest =>
    refine iff_of_false ?_ fun few => by simp at few
    simp [leftJoined]
    omega

theorem memberCount_eq : store.memberCount workspaceId =
    (store.membersOf workspaceId).length * (store.messagesOf workspaceId).length := by
  have counted (rows : List (Option WorkspaceMember)) (others : List (Option ChannelMessage)) :
      (rows ×ˢ others).countP (·.1.isSome) = rows.countP Option.isSome * others.length := by
    induction rows with
    | nil => simp
    | cons row rest ih =>
      cases row <;> simp [product_cons, countP_map, ih, Function.comp_def, Nat.add_mul, Nat.add_comm]
  rw [memberCount, joined, counted, leftJoined]
  cases store.membersOf workspaceId <;> simp [countP_map, Function.comp_def]

theorem memberCount_eq_length_iff : store.memberCount workspaceId =
    (store.membersOf workspaceId).length ↔ store.CountsOnce workspaceId := by
  rw [memberCount_eq, CountsOnce, ← length_messagesOf_eq_one_iff, ← length_eq_zero_iff]
  by_cases none : (store.membersOf workspaceId).length = 0
  · simp [none]
  · rw [Nat.mul_eq_left none, or_iff_right none]

theorem having_eq (cursor : Option DiscoverCursor) (row : DiscoveredWorkspace) :
    store.having cursor row =
      (cursor.map fun cursor => place cursor.memberCount cursor.id).all (store.position row < ·) := by
  cases cursor with
  | none => rfl
  | some cursor =>
    rw [Bool.eq_iff_iff]
    simp [having, position, place, Prod.Lex.toLex_lt_toLex]

variable (store ilike opts) in
/-- The workspaces of the filter in the order of the query. -/
def listing : List DiscoveredWorkspace :=
  ordered store.position (store.workspaces.findMany (opts.shows ilike))

theorem mem_listing {row : DiscoveredWorkspace} : row ∈ store.listing ilike opts ↔
    row ∈ store.workspaces ∧ opts.shows ilike row = true :=
  mem_ordered.trans Table.mem_findMany

theorem distinct_listing : (store.workspaces.findMany (opts.shows ilike)).Pairwise
    fun first second => store.position first ≠ store.position second := by
  have distinct : (store.workspaces.findMany (opts.shows ilike)).Pairwise
      fun first second => first.id ≠ second.id :=
    pairwise_map.mp (store.workspaces.keysNodup.sublist (filter_sublist.map _))
  refine distinct.imp fun apart same => apart ?_
  exact congrArg (fun place : Nat ×ₗ Natᵒᵈ => WorkspaceId.mk (ofDual (ofLex place).2)) same

variable (store ilike opts) in
/-- The items that a walk from a cursor has to list. -/
def remaining (cursor : Option DiscoverCursor) : List DiscoveryWorkspace :=
  (behind store.position (store.listing ilike opts)
    (cursor.map fun cursor => place cursor.memberCount cursor.id)).map store.item

theorem capped_pos : 0 < opts.capped := by
  rw [DiscoverOptions.capped]
  omega

/-- A page leaves what is behind its last workspace. -/
theorem serves_discover (cursor : Option DiscoverCursor) (_ : True) :
    ∃ page, store.discover ilike opts cursor = some page ∧
      Serves id opts.capped (fun _ => True) (store.remaining ilike opts) cursor page := by
  have selected : ordered store.position ((store.workspaces.findMany (opts.shows ilike)).filter
      (store.having cursor)) = behind store.position (store.listing ilike opts)
        (cursor.map fun cursor => place cursor.memberCount cursor.id) := by
    rw [ordered_filter distinct_listing, funext (having_eq cursor)]
    rfl
  refine ⟨_, rfl, ?_⟩
  simp only [selected, lt_length_take_succ, slice_take_succ, getLast?_map, Option.map_map]
  refine .of_take capped_pos rfl rfl (fun short => if_neg short) fun last isLast longer => ?_
  refine ⟨_, by rw [if_pos longer, isLast, Option.map_some], trivial, ?_⟩
  exact congrArg (map store.item) (behind_last (descending_ordered distinct_listing) isLast)

/-- The list of all the pages is right when the sizes are. -/
theorem listsAll_listing_iff : store.ListsAll ilike opts ((store.listing ilike opts).map store.item) ↔
    ∀ row ∈ store.listing ilike opts, store.memberCount row.id = (store.membersOf row.id).length := by
  constructor
  · rintro ⟨rows, -, -, same⟩ row listed
    have shown : (row.id, store.memberCount row.id) ∈
        rows.map fun row => (row.id, (store.membersOf row.id).length) := by
      rw [← same, map_map]
      exact mem_map_of_mem listed
    obtain ⟨other, -, isRow⟩ := mem_map.mp shown
    obtain ⟨sameId, size⟩ := Prod.mk.inj isRow
    rw [← size, sameId]
  · intro sizes
    refine ⟨store.listing ilike opts, fun row => mem_listing, ?_, ?_⟩
    · have descending : Descending store.position (store.listing ilike opts) :=
        descending_ordered distinct_listing
      refine descending.imp_of_mem fun firstMem secondMem below => ?_
      rwa [position, position, sizes _ firstMem, sizes _ secondMem] at below
    · rw [map_map]
      exact map_congr_left fun row listed => congrArg (Prod.mk row.id) (sizes row listed)

/-- A walk through the pages comes to an end, and each workspace of the filter is in one page, in the
order of what the join counts. -/
theorem discover_walks (store : DiscoverStore) (ilike : String → List Char → Bool)
    (opts : DiscoverOptions) :
    (∃ pages, Walk (store.discover ilike opts) none pages) ∧
      ∀ pages, Walk (store.discover ilike opts) none pages →
        ∃ rows, (∀ row, row ∈ rows ↔ row ∈ store.workspaces ∧ opts.shows ilike row = true) ∧
          Descending store.position rows ∧ pages.flatten = rows.map store.item := by
  refine ⟨exists_walk capped_pos serves_discover trivial, fun pages walk => ?_⟩
  refine ⟨store.listing ilike opts, fun row => mem_listing, descending_ordered distinct_listing, ?_⟩
  have read := walk.flatten_eq serves_discover trivial
  rwa [map_id, remaining, Option.map_none, behind_none] at read

/-- A walk through the pages lists each workspace once and with its size exactly when the join
counts each member once. -/
theorem discover_lists_all_iff (store : DiscoverStore) (ilike : String → List Char → Bool)
    (opts : DiscoverOptions) :
    ((∃ pages, Walk (store.discover ilike opts) none pages) ∧
      ∀ pages, Walk (store.discover ilike opts) none pages →
        store.ListsAll ilike opts pages.flatten) ↔
    ∀ row ∈ store.workspaces, opts.shows ilike row = true → store.CountsOnce row.id := by
  have flat {pages : List (List DiscoveryWorkspace)}
      (walk : Walk (store.discover ilike opts) none pages) :
      pages.flatten = (store.listing ilike opts).map store.item := by
    have read := walk.flatten_eq serves_discover trivial
    rwa [map_id, remaining, Option.map_none, behind_none] at read
  have sizes : store.ListsAll ilike opts ((store.listing ilike opts).map store.item) ↔
      ∀ row ∈ store.workspaces, opts.shows ilike row = true → store.CountsOnce row.id := by
    simp only [listsAll_listing_iff, mem_listing, memberCount_eq_length_iff, and_imp]
  rw [← sizes]
  constructor
  · rintro ⟨⟨pages, walk⟩, all⟩
    exact flat walk ▸ all pages walk
  · intro all
    exact ⟨exists_walk capped_pos serves_discover trivial,
      fun pages walk => (flat walk).symm ▸ all⟩

end DiscoverStore

/-- A workspace with one member and two channels has two members in the list. -/
theorem one_member_counted_twice :
    let store : DiscoverStore := {
      workspaces := ⟨[⟨⟨⟨1⟩, "board", "board", none, none, some .other, .isPublic⟩, .isPublic,
        none⟩], by decide⟩
      members := [⟨⟨1⟩, ⟨1⟩, .owner⟩]
      channels := [⟨1⟩, ⟨2⟩].map fun id =>
        { id := id, workspaceId := some ⟨1⟩, name := "notes", position := 0, createdAt := 0 } }
    ∃ pages, Walk (store.discover (fun _ _ => false) { limit := 20 }) none pages ∧
      ¬store.ListsAll (fun _ _ => false) { limit := 20 } pages.flatten := by
  intro store
  refine ⟨_, .last rfl (by decide), ?_⟩
  rintro ⟨rows, -, -, same⟩
  have shown : (⟨1⟩, 2) ∈ rows.map fun row => (row.id, (store.membersOf row.id).length) := by
    rw [← same]
    decide
  obtain ⟨row, -, isRow⟩ := mem_map.mp shown
  have few : (store.membersOf row.id).length ≤ 1 := length_filter_le _ _
  rw [(Prod.mk.inj isRow).2] at few
  exact absurd few (by decide)

end Bongtalk.Workspaces
