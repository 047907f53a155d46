import Mathlib.Data.Rat.Floor
import Bongtalk.Channels.Reorder
import Bongtalk.Library.Rounding
import Bongtalk.Library.System

/-!
# Positions of channels

A position is a decimal of the database with ten places after the point. New ones are computed in
decimals of twenty significant digits: between two neighbours, or a stride past the last one.
-/

namespace Bongtalk.Channels

open Library.Numbering Library.Rounding Common Prisma ChannelsService

namespace FractionalPosition

/-- A result to the precision of `Prisma.Decimal`. -/
def toPrecision (number : Rat) : Rat :=
  toSignificant 20 number

/-- `MIN_GAP` -/
def minGap : Rat :=
  1 / 10 ^ 9

/-- `POSITION_STRIDE` -/
def positionStride : Rat :=
  10 ^ 9

def calcBetween : Option Rat → Option Rat → Except Failure Rat
  | none, none => .ok positionStride
  | none, some next => .ok (toPrecision (next - positionStride))
  | some prev, none => .ok (toPrecision (prev + positionStride))
  | some prev, some next =>
    if toPrecision (next - prev) ≤ minGap then
      failWith .channelPositionInvalid
        "position gap exhausted — clients should request a normalize pass"
    else .ok (toPrecision (toPrecision (prev + next) / 2))

end FractionalPosition

open FractionalPosition

/-- The value of a column. -/
def ofColumn (position : Decimal) : Rat :=
  position / 10 ^ 10

/-- What a column makes of a value. -/
def toColumn (value : Rat) : Decimal :=
  roundHalfUp (value * 10 ^ 10)

/-- The neighbours of a new position. -/
structure Anchors where
  prev : Option Decimal
  next : Option Decimal
deriving DecidableEq, Repr

/-- The position computed from its neighbours, as it goes to the column. -/
def Anchors.position (anchors : Anchors) : Except Failure Decimal :=
  (calcBetween (anchors.prev.map ofColumn) (anchors.next.map ofColumn)).map toColumn

section Arithmetic

variable {position : Int}

theorem positionFits_iff :
    positionFits position = true ↔ -10 ^ 20 < position ∧ position < 10 ^ 20 := by
  rw [positionFits, decide_eq_true_eq]
  omega

theorem ofColumn_neg (position : Int) : ofColumn (-position) = -ofColumn position := by
  rw [ofColumn, ofColumn, Int.cast_neg, neg_div]

theorem toColumn_neg (value : Rat) : toColumn (-value) = -toColumn value := by
  rw [toColumn, neg_mul, roundHalfUp_neg, toColumn]

theorem toColumn_ofColumn (position : Int) : toColumn (ofColumn position) = position := by
  rw [toColumn, ofColumn, div_mul_cancel₀ _ (by norm_num), roundHalfUp_intCast]

/-- What fits the column has no more than twenty digits. -/
theorem toPrecision_ofColumn (fits : positionFits position = true) :
    toPrecision (ofColumn position) = ofColumn position := by
  obtain ⟨above, below⟩ := positionFits_iff.mp fits
  have lower : ((-10 ^ 20 : Int) : Rat) < position := Int.cast_lt.mpr above
  have upper : (position : Rat) < ((10 ^ 20 : Int) : Rat) := Int.cast_lt.mpr below
  push_cast at lower upper
  have multiple : ofColumn position = position * 10 ^ (-10 : Int) := by
    rw [ofColumn, zpow_neg, div_eq_mul_inv]
    norm_cast
  apply toSignificant_eq_self multiple
  · rw [ofColumn, abs_lt]
    norm_num
    constructor
    · linarith
    · linarith

/-- What is out of the range of the column stays so when it is rounded. -/
theorem le_toColumn_toPrecision (large : 10 ^ 20 ≤ position) :
    (10 ^ 20 : Int) ≤ toColumn (toPrecision (ofColumn position)) := by
  have castLarge : ((10 ^ 20 : Int) : Rat) ≤ position := Int.cast_le.mpr large
  push_cast at castLarge
  have value : (10 : Rat) ^ (10 : Int) ≤ ofColumn position := by
    rw [ofColumn, le_div_iff₀ (by norm_num)]
    norm_num
    linarith
  have rounded : (10 : Rat) ^ (10 : Int) ≤ toPrecision (ofColumn position) :=
    le_toSignificant (by norm_num) value
  apply le_roundHalfUp
  push_cast
  norm_num at rounded
  linarith

/-- A sum that the column can hold is what the column gets, and another one is refused. -/
theorem positionFits_toColumn :
    positionFits (toColumn (toPrecision (ofColumn position))) = positionFits position := by
  by_cases fits : positionFits position = true
  · rw [toPrecision_ofColumn fits, toColumn_ofColumn]
  rw [Bool.eq_false_of_not_eq_true fits, Bool.eq_false_iff]
  intro stillFits
  rw [positionFits_iff] at fits
  obtain ⟨above, below⟩ := positionFits_iff.mp stillFits
  by_cases large : 10 ^ 20 ≤ position
  · have still := le_toColumn_toPrecision large
    omega
  · have still := le_toColumn_toPrecision (show (10 ^ 20 : Int) ≤ -position by omega)
    rw [ofColumn_neg, toPrecision, toSignificant_neg, toColumn_neg] at still
    rw [toPrecision] at above
    omega

theorem ofColumn_add (first second : Int) :
    ofColumn first + ofColumn second = ofColumn (first + second) := by
  rw [ofColumn, ofColumn, ofColumn, Int.cast_add, add_div]

theorem ofColumn_sub (first second : Int) :
    ofColumn first - ofColumn second = ofColumn (first - second) := by
  rw [ofColumn, ofColumn, ofColumn, Int.cast_sub, sub_div]

/-- Two positions with more than the smallest gap between them have nine units to choose from. -/
theorem gap_of_minGap_lt {gap : Int} (above : minGap < toPrecision (ofColumn gap)) : 10 < gap := by
  by_cases fits : positionFits gap = true
  · rw [toPrecision_ofColumn fits, minGap, ofColumn, div_lt_div_iff₀ (by norm_num) (by norm_num)]
      at above
    have cast : ((10 : Int) : Rat) < gap := by
      push_cast
      linarith
    exact Int.cast_lt.mp cast
  · by_contra small
    have large : (10 ^ 20 : Int) ≤ -gap := by
      rw [positionFits_iff] at fits
      omega
    have castLarge : ((10 ^ 20 : Int) : Rat) ≤ ((-gap : Int) : Rat) := Int.cast_le.mpr large
    have value : (10 : Rat) ^ (10 : Int) ≤ ofColumn (-gap) := by
      rw [ofColumn, le_div_iff₀ (by norm_num)]
      push_cast at castLarge ⊢
      norm_num
      linarith
    have rounded : (10 : Rat) ^ (10 : Int) ≤ toPrecision (ofColumn (-gap)) :=
      le_toSignificant (by norm_num) value
    rw [ofColumn_neg, toPrecision, toSignificant_neg] at rounded
    rw [toPrecision, minGap] at above
    norm_num at rounded above
    linarith

/-- The rounded midpoint of two positions lies between them. -/
theorem midpoint_between {prev next : Int} (prevFits : positionFits prev = true)
    (nextFits : positionFits next = true) (gap : prev + 10 < next) :
    prev < toColumn (toPrecision (toPrecision (ofColumn prev + ofColumn next) / 2)) ∧
      toColumn (toPrecision (toPrecision (ofColumn prev + ofColumn next) / 2)) < next := by
  obtain ⟨prevAbove, -⟩ := positionFits_iff.mp prevFits
  obtain ⟨-, nextBelow⟩ := positionFits_iff.mp nextFits
  have castGap : ((prev + 11 : Int) : Rat) ≤ next := Int.cast_le.mpr (by omega)
  have castAbove : ((-10 ^ 20 + 1 : Int) : Rat) ≤ prev := Int.cast_le.mpr (by omega)
  have castBelow : (next : Rat) ≤ ((10 ^ 20 - 1 : Int) : Rat) := Int.cast_le.mpr (by omega)
  push_cast at castGap castAbove castBelow
  generalize sumIs : toPrecision (ofColumn prev + ofColumn next) = sum
  generalize halfIs : toPrecision (sum / 2) = half
  generalize columnIs : toColumn half = column
  -- Each rounding moves the value by at most half a unit of its last place.
  have sumNear : |ofColumn prev + ofColumn next - sum| ≤ 10 ^ ((11 : Int) - (20 : Nat)) / 2 := by
    rw [← sumIs]
    apply abs_sub_toSignificant_le
    rw [ofColumn, ofColumn, abs_lt]
    norm_num
    constructor
    · linarith
    · linarith
  rw [ofColumn, ofColumn, abs_le] at sumNear
  norm_num at sumNear
  have halfNear : |sum / 2 - half| ≤ 10 ^ ((10 : Int) - (20 : Nat)) / 2 := by
    rw [← halfIs]
    apply abs_sub_toSignificant_le
    rw [abs_lt]
    norm_num
    constructor
    · linarith
    · linarith
  rw [abs_le] at halfNear
  norm_num at halfNear
  have columnNear := abs_sub_roundHalfUp_le (half * 10 ^ 10)
  rw [← toColumn, columnIs, abs_le] at columnNear
  norm_num at columnNear
  constructor
  · have castBetween : (prev : Rat) < column := by linarith
    exact Int.cast_lt.mp castBetween
  · have castBetween : (column : Rat) < next := by linarith
    exact Int.cast_lt.mp castBetween

end Arithmetic

structure MoveChannelRequest where
  afterId : Option ChannelId := none
  beforeId : Option ChannelId := none
  categoryId : Option (Option CategoryId) := none

section Requests

variable (db : Database) (workspaceId : WorkspaceId)

/-- The last position among the live channels of a category, but for some of them. -/
def lastPosition (categoryId : Option CategoryId) (counts : Channel → Bool) : Option Decimal :=
  ((db.channels.findMany fun row =>
    row.workspaceId == some workspaceId && row.categoryId == categoryId &&
      row.deletedAt == none && counts row).map Channel.position).max?

/-- A new channel comes after the others of its category. -/
def createAnchors (categoryId : Option CategoryId) : Except Failure Anchors :=
  if categoryId.any fun id => !categoryIsLive db workspaceId id then
    failWith .categoryNotFound "category not found"
  else .ok ⟨lastPosition db workspaceId categoryId fun _ => true, none⟩

/-- A channel is moved next to the listed ones, or to the end. -/
def moveAnchors (channelId : ChannelId) (input : MoveChannelRequest) : Except Failure Anchors :=
  match findLive db workspaceId channelId with
  | none => failWith .channelNotFound "channel not found"
  | some current =>
    let nextCategoryId := input.categoryId.getD current.categoryId
    if nextCategoryId.any fun id => !categoryIsLive db workspaceId id then
      failWith .categoryNotFound "category not found"
    else
      let after := input.afterId.bind (findLive db workspaceId)
      let before := input.beforeId.bind (findLive db workspaceId)
      if after.isNone && before.isNone then
        .ok ⟨lastPosition db workspaceId nextCategoryId fun row => row.id != channelId, none⟩
      else .ok ⟨after.map Channel.position, before.map Channel.position⟩

end Requests

/-- The calls that write positions. -/
inductive PositionRequest where
  | create (actorId : UserId) (newId : ChannelId) (createdAt : DateTime)
      (input : CreateChannelRequest)
  | move (channelId : ChannelId) (input : MoveChannelRequest)
  | reorder (items : List ReorderItem)

namespace PositionRequest

variable (db : Database) (workspaceId : WorkspaceId)

/-- The neighbours of the position that a call computes; a reorder has none. -/
def anchors : PositionRequest → Option (Except Failure Anchors)
  | create _ _ _ input => some (createAnchors db workspaceId input.categoryId)
  | move channelId input => some (moveAnchors db workspaceId channelId input)
  | reorder _ => none

/-- A computed position goes to the column, which may refuse it. -/
def writeTo {α : Type} (anchors : Except Failure Anchors)
    (write : Decimal → Except Failure α) : Except Failure α := do
  let position ← anchors >>= Anchors.position
  if positionFits position then write position else .error .valueOutOfRange

def handle : PositionRequest → Except Failure (Database × ChannelEvent)
  | create actorId newId createdAt input =>
    writeTo (createAnchors db workspaceId input.categoryId) fun position =>
      ChannelsService.create db workspaceId actorId newId position createdAt input
  | move channelId input =>
    writeTo (moveAnchors db workspaceId channelId input) fun position =>
      ChannelsService.move db workspaceId channelId position input.categoryId
  | reorder items => reorderChannels db workspaceId items

/-- The items up to the first one whose category is not there. -/
def reachedItems : List ReorderItem → List ReorderItem
  | [] => []
  | item :: rest =>
    if item.2.any fun id => (db.categories.findUnique id).isNone then [item]
    else item :: reachedItems rest

/-- The positions that a call sends to the database. -/
def written (request : PositionRequest) : List Decimal :=
  match request with
  | reorder items =>
    (numbered Prod.snd (fun _ => 0) (reachedItems db (applicableItems db workspaceId items))).map
      fun placement => renormalizeStride * placement.2
  | create _ _ _ input =>
    (createAnchors db workspaceId input.categoryId >>= Anchors.position).toOption.toList
  | move channelId input =>
    (moveAnchors db workspaceId channelId input >>= Anchors.position).toOption.toList

end PositionRequest

/-- Every channel is at a position that its column can hold. -/
def PositionsFit (db : Database) : Prop :=
  ∀ row ∈ db.channels, positionFits row.position = true

namespace Anchors

/-- The neighbours are at positions of the column. -/
def Fit (anchors : Anchors) : Prop :=
  (∀ prev ∈ anchors.prev, positionFits prev = true) ∧
    ∀ next ∈ anchors.next, positionFits next = true

/-- A position past one end keeps a stride away from the limit of the column. -/
def HasRoom (anchors : Anchors) : Prop :=
  match anchors.prev, anchors.next with
  | some prev, none => prev < (9 * 10 ^ 19 : Int)
  | none, some next => (-9 * 10 ^ 19 : Int) < next
  | none, none => True
  | some _, some _ => True

theorem hasRoom_append_iff {prev : Int} : HasRoom ⟨some prev, none⟩ ↔ prev < 9 * 10 ^ 19 :=
  Iff.rfl

theorem hasRoom_prepend_iff {next : Int} : HasRoom ⟨none, some next⟩ ↔ -9 * 10 ^ 19 < next :=
  Iff.rfl

theorem ofColumn_stride : ofColumn (10 ^ 19 : Int) = positionStride := by
  rw [ofColumn, positionStride]
  norm_num

variable {anchors : Anchors} {position : Decimal}

theorem between_of_ok {prev next : Int} (fit : Fit ⟨some prev, some next⟩)
    (ok : Anchors.position ⟨some prev, some next⟩ = .ok position) :
    prev < position ∧ position < next := by
  rw [Anchors.position, Option.map_some, Option.map_some, calcBetween] at ok
  split at ok
  · cases ok
  next enough =>
    cases ok
    rw [ofColumn_sub, not_le] at enough
    have gap := gap_of_minGap_lt enough
    exact midpoint_between (fit.1 prev rfl) (fit.2 next rfl) (by omega)

/-- The column takes a computed position exactly when its neighbours leave room for it. -/
theorem positionFits_iff_hasRoom (fit : anchors.Fit) (ok : anchors.position = .ok position) :
    positionFits position = true ↔ anchors.HasRoom := by
  rcases anchors with ⟨_ | prev, _ | next⟩
  · cases ok
    have firstPosition : toColumn positionStride = (10 ^ 19 : Int) := by
      rw [← ofColumn_stride, toColumn_ofColumn]
    rw [firstPosition]
    exact ⟨fun _ => trivial, fun _ => by decide⟩
  · cases ok
    rw [← ofColumn_stride, ofColumn_sub, positionFits_toColumn, positionFits_iff,
      hasRoom_prepend_iff]
    have below := (positionFits_iff.mp (fit.2 next rfl)).2
    omega
  · cases ok
    rw [← ofColumn_stride, ofColumn_add, positionFits_toColumn, positionFits_iff,
      hasRoom_append_iff]
    have above := (positionFits_iff.mp (fit.1 prev rfl)).1
    omega
  · obtain ⟨above, below⟩ := between_of_ok fit ok
    have prevAbove := (positionFits_iff.mp (fit.1 prev rfl)).1
    have nextBelow := (positionFits_iff.mp (fit.2 next rfl)).2
    refine ⟨fun _ => trivial, fun _ => positionFits_iff.mpr ⟨?_, ?_⟩⟩
    · exact prevAbove.trans above
    · exact below.trans nextBelow

end Anchors

end Bongtalk.Channels
