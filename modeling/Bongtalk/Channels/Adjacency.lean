import Bongtalk.Channels.PositionRange
import Bongtalk.Library.Neighbours

/-!
# Moves next to a channel

A move that names one neighbour puts the channel a stride away from it, whatever lies between.
-/

namespace Bongtalk.Channels

open Library Library.Neighbours Common Prisma ChannelsService PositionRequest
open FractionalPosition

/-- On which side of its neighbour a channel is to go. -/
inductive Side where
  | after
  | before
deriving DecidableEq, Repr

namespace Side

/-- The request that names one neighbour only. -/
def request (side : Side) (anchorId : ChannelId) (categoryId : Option (Option CategoryId)) :
    MoveChannelRequest :=
  match side with
  | after => { afterId := some anchorId, categoryId := categoryId }
  | before => { beforeId := some anchorId, categoryId := categoryId }

/-- `POSITION_STRIDE`, in units of the last decimal place. -/
def stride : Int :=
  10 ^ 19

/-- A stride away from the neighbour. -/
def target (side : Side) (position : Decimal) : Decimal :=
  match side with
  | after => position + stride
  | before => position - stride

def anchors (side : Side) (position : Decimal) : Anchors :=
  match side with
  | after => ⟨some position, none⟩
  | before => ⟨none, some position⟩

/-- The neighbours as they are to be listed. -/
def inOrder {α : Type} (side : Side) (anchor moved : α) : α × α :=
  match side with
  | after => (anchor, moved)
  | before => (moved, anchor)

end Side

section Statement

/-- A live channel of a category. -/
def LiveUnder (db : Database) (workspaceId : WorkspaceId) (categoryId : Option CategoryId)
    (row : Channel) : Prop :=
  LiveIn db workspaceId row ∧ row.categoryId = categoryId

/-- The channels that the sidebar lists under a category. -/
def listedUnder (db : Database) (workspaceId : WorkspaceId) (categoryId : Option CategoryId) :
    List Channel :=
  db.channels.findMany fun row => row.workspaceId == some workspaceId && row.deletedAt == none &&
    row.type != .direct && row.categoryId == categoryId

variable (db : Database) (workspaceId : WorkspaceId) (categoryId : Option CategoryId) (side : Side)

/-- The channel is listed right next to its neighbour, at a position of its own. -/
def Adjacent (anchorId channelId : ChannelId) : Prop :=
  ∃ anchor moved, db.channels.findUnique anchorId = some anchor ∧
    db.channels.findUnique channelId = some moved ∧
    Follows Channel.position (listedUnder db workspaceId categoryId)
      (side.inOrder anchor moved).1 (side.inOrder anchor moved).2 ∧
    ∀ row, LiveUnder db workspaceId categoryId row → row.id ≠ channelId →
      row.position ≠ moved.position

/-- No other channel lies in the stride between the neighbour and the new position, its ends
included, and both are channels that the sidebar lists. -/
structure StrideClear (anchor current : Channel) : Prop where
  other : anchor.id ≠ current.id
  anchorListed : anchor.type ≠ .direct
  currentListed : current.type ≠ .direct
  free : ∀ row, LiveUnder db workspaceId categoryId row → row.id ≠ current.id → row.id ≠ anchor.id →
    row.position ≠ side.target anchor.position
  clear : ∀ row, LiveUnder db workspaceId categoryId row → row.id ≠ current.id →
    row.id ≠ anchor.id → row.type ≠ .direct →
      row.position < min anchor.position (side.target anchor.position) ∨
        max anchor.position (side.target anchor.position) < row.position

end Statement

section Moves

variable {db next : Database} {workspaceId : WorkspaceId} {side : Side}
  {anchorId channelId : ChannelId} {categoryId : Option (Option CategoryId)}
  {anchor current : Channel} {event : ChannelEvent}

theorem findLive_eq_some_iff {id : ChannelId} {row : Channel} :
    findLive db workspaceId id = some row ↔ LiveIn db workspaceId row ∧ row.id = id := by
  rw [findLive, findInWorkspace, Option.filter_eq_some_iff, Option.filter_eq_some_iff,
    Table.findUnique_eq_some_iff, beq_iff_eq, beq_iff_eq, LiveIn]
  tauto

/-- The position that a column takes is a stride away. -/
theorem position_of_side {start position : Decimal}
    (computed : (side.anchors start).position = .ok position)
    (fits : positionFits position = true) :
    position = side.target start := by
  cases side with
  | after =>
    cases computed
    rw [← Anchors.ofColumn_stride, ofColumn_add] at fits ⊢
    rw [positionFits_toColumn] at fits
    rw [toPrecision_ofColumn fits, toColumn_ofColumn]
    rfl
  | before =>
    cases computed
    rw [← Anchors.ofColumn_stride, ofColumn_sub] at fits ⊢
    rw [positionFits_toColumn] at fits
    rw [toPrecision_ofColumn fits, toColumn_ofColumn]
    rfl

/-- What a move next to one neighbour writes. -/
theorem next_of_move
    (ok : handle db workspaceId (.move channelId (side.request anchorId categoryId)) =
      .ok (next, event))
    (isCurrent : findLive db workspaceId channelId = some current)
    (isAnchor : findLive db workspaceId anchorId = some anchor) :
    next = writeChannel db { current with
      position := side.target anchor.position
      categoryId := categoryId.getD current.categoryId } := by
  obtain ⟨position, computed, fits, moved⟩ := writeTo_eq_ok.mp ok
  obtain ⟨anchors, found, isPosition⟩ := bind_eq_ok.mp computed
  have sameCategory : (side.request anchorId categoryId).categoryId = categoryId := by
    cases side <;> rfl
  have isAnchors : anchors = side.anchors anchor.position := by
    rw [moveAnchors, isCurrent] at found
    dsimp only at found
    split at found
    · exact absurd found failWith_ne_ok
    cases side with
    | after | before =>
      simp only [Side.request, Option.bind_some, isAnchor, Option.bind_none] at found
      exact (Except.ok.inj found).symm
  rw [ChannelsService.move, isCurrent, sameCategory] at moved
  dsimp only at moved
  split at moved
  · exact absurd moved failWith_ne_ok
  cases moved
  rw [isAnchors] at isPosition
  rw [position_of_side isPosition fits]

variable {category : Option CategoryId}

theorem mem_listedUnder {row : Channel} :
    row ∈ listedUnder db workspaceId category ↔
      LiveUnder db workspaceId category row ∧ row.type ≠ .direct := by
  rw [listedUnder, Table.mem_findMany, LiveUnder, LiveIn]
  simp only [Bool.and_eq_true, beq_iff_eq, bne_iff_ne]
  tauto

theorem nodup_listedUnder : (listedUnder db workspaceId category).Nodup :=
  (db.channels.keysNodup.of_map _).filter _

/-- What is a live channel of the category after a channel has been written there. -/
theorem liveUnder_writeChannel {moved row : Channel} (present : current ∈ db.channels)
    (same : moved.id = current.id)
    (live : moved.workspaceId = some workspaceId ∧ moved.deletedAt = none)
    (under : moved.categoryId = category) :
    LiveUnder (writeChannel db moved) workspaceId category row ↔
      row = moved ∨ LiveUnder db workspaceId category row ∧ row.id ≠ current.id := by
  constructor
  · rintro ⟨⟨written, here, notDeleted⟩, inCategory⟩
    obtain ⟨old, oldMem, rfl⟩ := List.mem_map.mp written
    by_cases isMoved : old.id = moved.id
    · rw [if_pos isMoved]
      exact .inl rfl
    · rw [if_neg isMoved] at here notDeleted inCategory ⊢
      exact .inr ⟨⟨⟨oldMem, here, notDeleted⟩, inCategory⟩, same ▸ isMoved⟩
  · rintro (rfl | ⟨⟨⟨rowMem, here, notDeleted⟩, inCategory⟩, other⟩)
    · exact ⟨⟨List.mem_map.mpr ⟨current, present, if_pos same.symm⟩, live⟩, under⟩
    · refine ⟨⟨List.mem_map.mpr ⟨row, rowMem, if_neg ?_⟩, here, notDeleted⟩, inCategory⟩
      rw [same]
      exact other

theorem Side.target_ne (start : Decimal) : side.target start ≠ start := by
  cases side with
  | after => exact (lt_add_of_pos_right start (show (0 : Int) < 10 ^ 19 by decide)).ne'
  | before => exact (sub_lt_self start (show (0 : Int) < 10 ^ 19 by decide)).ne

/-- The neighbours are in order, and what is not between them is before or behind both. -/
theorem Side.follows_iff {rows : List Channel} (nodup : rows.Nodup) {first moved : Channel}
    (isTarget : moved.position = side.target first.position) :
    Follows Channel.position rows (side.inOrder first moved).1 (side.inOrder first moved).2 ↔
      first ∈ rows ∧ moved ∈ rows ∧ ∀ row ∈ rows, row ≠ first → row ≠ moved →
        row.position < min first.position moved.position ∨
          max first.position moved.position < row.position := by
  cases side with
  | after =>
    have below : first.position < moved.position := by
      rw [isTarget]
      exact lt_add_of_pos_right _ (by decide)
    rw [inOrder, Neighbours.follows_iff nodup below, min_eq_left below.le, max_eq_right below.le]
  | before =>
    have below : moved.position < first.position := by
      rw [isTarget]
      exact sub_lt_self _ (by decide)
    rw [inOrder, Neighbours.follows_iff nodup below, min_eq_right below.le, max_eq_left below.le,
      and_left_comm]
    refine and_congr_right fun _ => and_congr_right fun _ => forall₂_congr fun row _ => ?_
    exact ⟨fun apart isFirst isMoved => apart isMoved isFirst,
      fun apart isMoved isFirst => apart isFirst isMoved⟩

section Written

variable {category : Option CategoryId} {moved : Channel}
  (underNext : ∀ row, LiveUnder next workspaceId category row ↔
    row = moved ∨ LiveUnder db workspaceId category row ∧ row.id ≠ current.id)
  (sameId : moved.id = current.id)

include underNext

theorem findUnique_anchor (anchorUnder : LiveUnder db workspaceId category anchor)
    (other : anchor.id ≠ current.id) : next.channels.findUnique anchor.id = some anchor :=
  Table.findUnique_eq_some_iff.mpr
    ⟨((underNext anchor).mpr (.inr ⟨anchorUnder, other⟩)).1.1, rfl⟩

include sameId

theorem findUnique_moved : next.channels.findUnique current.id = some moved :=
  Table.findUnique_eq_some_iff.mpr ⟨((underNext moved).mpr (.inl rfl)).1.1, sameId⟩

variable (sameType : moved.type = current.type)
  (isTarget : moved.position = side.target anchor.position)
  (anchorUnder : LiveUnder db workspaceId category anchor)

include sameType isTarget anchorUnder

/-- What is listed right next to its neighbour has nothing of the stride between them. -/
theorem strideClear_of_adjacent
    (adjacent : Adjacent next workspaceId category side anchor.id current.id) :
    StrideClear db workspaceId category side anchor current := by
  obtain ⟨first, second, isFirst, isSecond, follows, free⟩ := adjacent
  have isMoved := findUnique_moved underNext sameId
  cases isMoved.symm.trans isSecond
  have other : anchor.id ≠ current.id := by
    intro same
    rw [same, isMoved] at isFirst
    cases isFirst
    exact follows.ne nodup_listedUnder (by cases side <;> rfl)
  have stillAnchor := findUnique_anchor underNext anchorUnder other
  cases stillAnchor.symm.trans isFirst
  obtain ⟨anchorIn, movedIn, apart⟩ := (side.follows_iff nodup_listedUnder isTarget).mp follows
  refine ⟨other, (mem_listedUnder.mp anchorIn).2, ?_, ?_, ?_⟩
  · rw [← sameType]
    exact (mem_listedUnder.mp movedIn).2
  · intro row under notCurrent _
    rw [← isTarget]
    exact free row ((underNext row).mpr (.inr ⟨under, notCurrent⟩)) notCurrent
  · intro row under notCurrent notAnchor listed
    rw [← isTarget]
    apply apart row (mem_listedUnder.mpr ⟨(underNext row).mpr (.inr ⟨under, notCurrent⟩), listed⟩)
    · exact fun same => notAnchor (congrArg Channel.id same)
    · exact fun same => notCurrent ((congrArg Channel.id same).trans sameId)

theorem adjacent_of_strideClear
    (strideClear : StrideClear db workspaceId category side anchor current) :
    Adjacent next workspaceId category side anchor.id current.id := by
  obtain ⟨other, anchorListed, currentListed, free, clear⟩ := strideClear
  have sameRow : ∀ row, LiveUnder db workspaceId category row → row.id = anchor.id →
      row = anchor := fun row under sameKey =>
    Table.eq_of_key_eq under.1.1 anchorUnder.1.1 sameKey
  refine ⟨anchor, moved, findUnique_anchor underNext anchorUnder other,
    findUnique_moved underNext sameId, ?_, ?_⟩
  · refine (side.follows_iff nodup_listedUnder isTarget).mpr ⟨?_, ?_, ?_⟩
    · exact mem_listedUnder.mpr ⟨(underNext anchor).mpr (.inr ⟨anchorUnder, other⟩), anchorListed⟩
    · exact mem_listedUnder.mpr ⟨(underNext moved).mpr (.inl rfl), sameType ▸ currentListed⟩
    · intro row rowIn notAnchor notMoved
      obtain ⟨under, listed⟩ := mem_listedUnder.mp rowIn
      obtain ⟨under, notCurrent⟩ := ((underNext row).mp under).resolve_left notMoved
      rw [isTarget]
      exact clear row under notCurrent (fun same => notAnchor (sameRow row under same)) listed
  · intro row under notCurrent
    obtain rfl | ⟨under, -⟩ := (underNext row).mp under
    · exact absurd sameId notCurrent
    rw [isTarget]
    by_cases same : row.id = anchor.id
    · rw [sameRow row under same]
      exact (side.target_ne anchor.position).symm
    · exact free row under notCurrent same

end Written

/-- A move that names one neighbour in its category puts the channel next to it, at a position of
its own, exactly when no other channel lies in the stride between. -/
theorem move_adjacent_iff
    (ok : handle db workspaceId (.move channelId (side.request anchorId categoryId)) =
      .ok (next, event))
    (isCurrent : findLive db workspaceId channelId = some current)
    (isAnchor : findLive db workspaceId anchorId = some anchor)
    (inCategory : anchor.categoryId = categoryId.getD current.categoryId) :
    Adjacent next workspaceId (categoryId.getD current.categoryId) side anchorId channelId ↔
      StrideClear db workspaceId (categoryId.getD current.categoryId) side anchor current := by
  obtain ⟨⟨currentMem, currentHere, currentLive⟩, rfl⟩ := findLive_eq_some_iff.mp isCurrent
  obtain ⟨anchorLive, rfl⟩ := findLive_eq_some_iff.mp isAnchor
  have written := next_of_move ok isCurrent isAnchor
  generalize categoryEq : categoryId.getD current.categoryId = category at *
  generalize movedEq : { current with
    position := side.target anchor.position, categoryId := category } = moved at written
  have sameId : moved.id = current.id := movedEq ▸ rfl
  have sameType : moved.type = current.type := movedEq ▸ rfl
  have isTarget : moved.position = side.target anchor.position := movedEq ▸ rfl
  have underNext : ∀ row, LiveUnder next workspaceId category row ↔
      row = moved ∨ LiveUnder db workspaceId category row ∧ row.id ≠ current.id := by
    intro row
    rw [written]
    exact liveUnder_writeChannel currentMem sameId (movedEq ▸ ⟨currentHere, currentLive⟩)
      (movedEq ▸ rfl)
  have anchorUnder : LiveUnder db workspaceId category anchor := ⟨anchorLive, inCategory⟩
  exact ⟨strideClear_of_adjacent underNext sameId sameType isTarget anchorUnder,
    adjacent_of_strideClear underNext sameId sameType isTarget anchorUnder⟩

end Moves

/-- A channel that is as many strides from zero as its number. -/
def strideChannel (number : Nat) : Channel where
  id := ⟨number⟩
  workspaceId := some ⟨1⟩
  name := "general"
  position := (number * 10 ^ 19 : Int)
  createdAt := number

/-- Three channels, each created behind the others. -/
def threeStrides : Database :=
  .withoutRoles .empty
    { rows := [strideChannel 1, strideChannel 2, strideChannel 3], keysNodup := by decide }
    .empty

theorem findLive_threeStrides {number : Nat} (listed : number = 1 ∨ number = 2 ∨ number = 3) :
    findLive threeStrides ⟨1⟩ ⟨number⟩ = some (strideChannel number) := by
  obtain rfl | rfl | rfl := listed <;> rfl

/-- Each of the other two may be moved behind the first. -/
theorem exists_moved {number : Nat} (listed : number = 2 ∨ number = 3) : ∃ next event,
    handle threeStrides ⟨1⟩ (.move ⟨number⟩ (Side.after.request ⟨1⟩ none)) = .ok (next, event) := by
  have taken : (handle threeStrides ⟨1⟩
      (.move ⟨number⟩ (Side.after.request ⟨1⟩ none))).toOption.any (fun _ => true) = true := by
    obtain rfl | rfl := listed <;> decide +kernel
  obtain ⟨⟨next, event⟩, ok, -⟩ := exists_ok taken
  exact ⟨next, event, ok⟩

/-- The second channel stays right behind the first. -/
theorem second_stays_behind_first : ∃ next event,
    handle threeStrides ⟨1⟩ (.move ⟨2⟩ (Side.after.request ⟨1⟩ none)) = .ok (next, event) ∧
      Adjacent next ⟨1⟩ none .after ⟨1⟩ ⟨2⟩ := by
  obtain ⟨next, event, ok⟩ := exists_moved (.inl rfl)
  refine ⟨next, event, ok, ?_⟩
  have isCurrent := findLive_threeStrides (.inr (.inl rfl))
  have isAnchor := findLive_threeStrides (.inl rfl)
  have isThird : ∀ row, LiveUnder threeStrides ⟨1⟩ none row → row.id ≠ (strideChannel 2).id →
      row.id ≠ (strideChannel 1).id → row = strideChannel 3 := by
    rintro row ⟨⟨rowMem, -⟩, -⟩ notCurrent notAnchor
    have rowMem : row ∈ [strideChannel 1, strideChannel 2, strideChannel 3] := rowMem
    simp only [List.mem_cons, List.not_mem_nil, or_false] at rowMem
    obtain rfl | rfl | rfl := rowMem
    · exact absurd rfl notAnchor
    · exact absurd rfl notCurrent
    · rfl
  refine (move_adjacent_iff ok isCurrent isAnchor rfl).mpr ⟨by decide, by decide, by decide, ?_, ?_⟩
  · intro row under notCurrent notAnchor
    rw [isThird row under notCurrent notAnchor]
    decide
  · intro row under notCurrent notAnchor _
    rw [isThird row under notCurrent notAnchor]
    exact .inr (by decide)

/-- The third channel, moved right behind the first, gets the position of the second. -/
theorem third_lands_on_second :
    ¬∀ (db next : Database) (workspaceId : WorkspaceId) (side : Side)
      (anchorId channelId : ChannelId) (categoryId : Option (Option CategoryId))
      (anchor current : Channel) (event : ChannelEvent),
      handle db workspaceId (.move channelId (side.request anchorId categoryId)) =
        .ok (next, event) →
      findLive db workspaceId channelId = some current →
      findLive db workspaceId anchorId = some anchor →
      anchor.categoryId = categoryId.getD current.categoryId →
      Adjacent next workspaceId (categoryId.getD current.categoryId) side anchorId channelId := by
  intro always
  obtain ⟨next, event, ok⟩ := exists_moved (.inr rfl)
  have isCurrent := findLive_threeStrides (.inr (.inr rfl))
  have isAnchor := findLive_threeStrides (.inl rfl)
  obtain ⟨first, moved, -, isMoved, -, free⟩ :=
    always threeStrides next ⟨1⟩ .after ⟨1⟩ ⟨3⟩ none (strideChannel 1) (strideChannel 3) event ok
      isCurrent isAnchor rfl
  obtain rfl := next_of_move ok isCurrent isAnchor
  obtain ⟨⟨currentMem, -⟩, -⟩ := findLive_eq_some_iff.mp isCurrent
  have secondLive := findLive_eq_some_iff.mp (findLive_threeStrides (.inr (.inl rfl)))
  have movedPosition : moved.position = (strideChannel 2).position := by
    cases isMoved
    rfl
  refine free (strideChannel 2) ?_ (by decide) movedPosition.symm
  refine (liveUnder_writeChannel currentMem ?_ ?_ ?_).mpr (.inr ⟨⟨secondLive.1, rfl⟩, by decide⟩)
  · rfl
  · exact ⟨rfl, rfl⟩
  · rfl

end Bongtalk.Channels
