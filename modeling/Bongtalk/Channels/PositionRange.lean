import Bongtalk.Channels.Positioning

/-!
# Positions within the range of their column

Calls that create, move and reorder channels come one after another. The column takes every
position they compute as long as they leave room for it.
-/

namespace Bongtalk.Channels

open Library Library.Numbering Common Prisma ChannelsService PositionRequest List Option Anchors

variable {db : Database} {workspaceId : WorkspaceId}

section Neighbours

variable (fit : PositionsFit db)

include fit

theorem lastPosition_fits {categoryId : Option CategoryId} {counts : Channel → Bool} :
    ∀ last ∈ lastPosition db workspaceId categoryId counts, positionFits last = true := by
  intro last found
  obtain ⟨row, rowMem, rfl⟩ := mem_map.mp (List.max?_mem found)
  exact fit row (Table.mem_findMany.mp rowMem).1

theorem createAnchors_fit {categoryId : Option CategoryId} {anchors : Anchors}
    (ok : createAnchors db workspaceId categoryId = .ok anchors) :
    anchors.Fit := by
  rw [createAnchors] at ok
  split at ok
  · exact absurd ok failWith_ne_ok
  cases ok
  exact ⟨lastPosition_fits fit, fun _ impossible => absurd impossible (not_mem_none _)⟩

theorem fits_of_findLive {wanted : Option ChannelId} :
    ∀ position ∈ (wanted.bind (findLive db workspaceId)).map Channel.position,
      positionFits position = true := by
  intro position found
  obtain ⟨row, rowFound, rfl⟩ := map_eq_some_iff.mp found
  obtain ⟨id, -, live⟩ := bind_eq_some_iff.mp rowFound
  have inWorkspace := (filter_eq_some_iff.mp live).1
  exact fit row (Table.mem_of_findUnique (filter_eq_some_iff.mp inWorkspace).1).1

theorem moveAnchors_fit {channelId : ChannelId} {input : MoveChannelRequest} {anchors : Anchors}
    (ok : moveAnchors db workspaceId channelId input = .ok anchors) : anchors.Fit := by
  rw [moveAnchors] at ok
  split at ok
  · exact absurd ok failWith_ne_ok
  dsimp only at ok
  split at ok
  · exact absurd ok failWith_ne_ok
  split at ok
  · cases ok
    exact ⟨lastPosition_fits fit, fun _ impossible => absurd impossible (not_mem_none _)⟩
  · cases ok
    exact ⟨fits_of_findLive fit, fits_of_findLive fit⟩

end Neighbours

section Writes

variable {next : Database} {event : ChannelEvent}

theorem writeTo_eq_ok {α : Type} {anchors : Except Failure Anchors}
    {write : Decimal → Except Failure α} {result : α} :
    writeTo anchors write = .ok result ↔ ∃ position, anchors >>= Anchors.position = .ok position ∧
      positionFits position = true ∧ write position = .ok result := by
  rw [writeTo, bind_eq_ok]
  refine exists_congr fun position => and_congr_right fun _ => ?_
  split
  next fits => exact ⟨fun ok => ⟨fits, ok⟩, And.right⟩
  next refused =>
    constructor
    · intro impossible
      cases impossible
    · exact fun ok => absurd ok.1 refused

/-- A created channel is at the position it was given, and the others stay where they are. -/
theorem fits_create {actorId : UserId} {newId : ChannelId} {position : Decimal}
    {createdAt : DateTime} {input : CreateChannelRequest} (fit : PositionsFit db)
    (fits : positionFits position = true)
    (ok : ChannelsService.create db workspaceId actorId newId position createdAt input =
      .ok (next, event)) : PositionsFit next := by
  rw [ChannelsService.create] at ok
  dsimp only at ok
  split at ok
  · exact absurd ok failWith_ne_ok
  split at ok
  · exact absurd ok failWith_ne_ok
  split at ok
  · cases ok
  next inserted =>
    cases ok
    intro row rowMem
    obtain rfl | old := (Table.mem_insert? inserted).mp rowMem
    · exact fits
    · exact fit row old

theorem eq_or_mem_of_writeChannel {updated row : Channel}
    (rowMem : row ∈ (writeChannel db updated).channels) : row = updated ∨ row ∈ db.channels := by
  obtain ⟨old, oldMem, rfl⟩ := mem_map.mp rowMem
  split
  · exact .inl rfl
  · exact .inr oldMem

theorem fits_move {channelId : ChannelId} {position : Decimal}
    {categoryId : Option (Option CategoryId)} (fit : PositionsFit db)
    (fits : positionFits position = true)
    (ok : ChannelsService.move db workspaceId channelId position categoryId = .ok (next, event)) :
    PositionsFit next := by
  rw [ChannelsService.move] at ok
  split at ok
  · exact absurd ok failWith_ne_ok
  dsimp only at ok
  split at ok
  · exact absurd ok failWith_ne_ok
  cases ok
  intro row rowMem
  obtain rfl | old := eq_or_mem_of_writeChannel rowMem
  · exact fits
  · exact fit row old

theorem fits_renormalize {counts : Option CategoryId → Nat} {items : List ReorderItem}
    (fit : PositionsFit db) (done : renormalize db counts items = .ok next) :
    PositionsFit next := by
  induction items generalizing db counts with
  | nil =>
    cases done
    exact fit
  | cons item rest ih =>
    rcases item with ⟨id, categoryId⟩
    rw [renormalize] at done
    obtain ⟨written, write, renormalized⟩ := bind_eq_ok.mp done
    obtain ⟨fits, -, placed⟩ := updatePlace_eq_ok write
    refine ih (fun row rowMem => ?_) renormalized
    rw [Table.mem_def, placed] at rowMem
    obtain ⟨old, oldMem, rfl⟩ := mem_map.mp rowMem
    split
    · exact fits
    · exact fit old oldMem

/-- What the column holds stays within its range. -/
theorem fits_handle {request : PositionRequest} (fit : PositionsFit db)
    (ok : request.handle db workspaceId = .ok (next, event)) : PositionsFit next := by
  cases request with
  | create actorId newId createdAt input =>
    obtain ⟨position, -, fits, created⟩ := writeTo_eq_ok.mp ok
    exact fits_create fit fits created
  | move channelId input =>
    obtain ⟨position, -, fits, moved⟩ := writeTo_eq_ok.mp ok
    exact fits_move fit fits moved
  | reorder items =>
    rw [handle, reorderChannels] at ok
    dsimp only at ok
    split at ok
    · exact absurd ok failWith_ne_ok
    obtain ⟨written, renormalized, same⟩ := bind_eq_ok.mp ok
    cases same
    exact fits_renormalize fit renormalized

end Writes

theorem positionFits_stride_iff {number : Nat} :
    positionFits (renormalizeStride * number) = true ↔ number < 10 ^ 7 := by
  have stride : renormalizeStride * number = (10000000000000 * number : Int) := rfl
  rw [stride, positionFits_iff]
  omega

theorem reachedItems_congr {next : Database} (same : next.categories = db.categories)
    (items : List ReorderItem) : reachedItems next items = reachedItems db items := by
  induction items with
  | nil => rfl
  | cons item rest ih =>
    rw [reachedItems, reachedItems, ih, same]

/-- The column comes first, then the foreign key. -/
theorem updatePlace_cases (id : ChannelId) (categoryId : Option CategoryId) (position : Decimal) :
    (positionFits position = false ∧
        updatePlace db id categoryId position = .error .valueOutOfRange) ∨
      (positionFits position = true ∧
        (categoryId.any fun id => (db.categories.findUnique id).isNone) = true ∧
        updatePlace db id categoryId position = .error .foreignKeyViolation) ∨
      (positionFits position = true ∧
        (categoryId.any fun id => (db.categories.findUnique id).isNone) = false ∧
        ∃ next, updatePlace db id categoryId position = .ok next) := by
  rw [updatePlace]
  cases fits : positionFits position with
  | false => exact .inl ⟨rfl, rfl⟩
  | true =>
    cases (categoryId.any fun id => (db.categories.findUnique id).isNone) with
    | true => exact .inr (.inl ⟨rfl, rfl, rfl⟩)
    | false => exact .inr (.inr ⟨rfl, rfl, _, rfl⟩)

/-- A reorder fails at the column exactly when one of the positions it gets to is too large. -/
theorem renormalize_refused_iff {counts : Option CategoryId → Nat} {items : List ReorderItem} :
    renormalize db counts items = .error .valueOutOfRange ↔
      ∃ placement ∈ numbered Prod.snd counts (reachedItems db items),
        positionFits (renormalizeStride * placement.2) = false := by
  induction items generalizing db counts with
  | nil => simp [renormalize, reachedItems, numbered]
  | cons item rest ih =>
    rcases item with ⟨id, categoryId⟩
    rw [renormalize, reachedItems]
    obtain ⟨outside, refused⟩ | ⟨fits, missing, refused⟩ | ⟨fits, there, next, write⟩ :=
      @updatePlace_cases db id categoryId (renormalizeStride * (counts categoryId + 1 : Nat))
    · rw [refused]
      refine ⟨fun _ => ⟨((id, categoryId), counts categoryId + 1), ?_, outside⟩, fun _ => rfl⟩
      split
      · exact .head _
      · exact .head _
    · rw [refused, if_pos missing, numbered, numbered]
      constructor
      · intro impossible
        cases impossible
      · rintro ⟨placement, placementMem, outside⟩
        rw [mem_singleton.mp placementMem, fits] at outside
        cases outside
    · rw [write, if_neg (by rw [there]; decide), numbered]
      apply ih.trans
      rw [reachedItems_congr (updatePlace_eq_ok write).2.1]
      constructor
      · rintro ⟨placement, placementMem, outside⟩
        exact ⟨placement, .tail _ placementMem, outside⟩
      · rintro ⟨placement, placementMem, outside⟩
        rcases mem_cons.mp placementMem with rfl | later
        · rw [fits] at outside
          cases outside
        · exact ⟨placement, later, outside⟩

theorem writeTo_refused_iff {α : Type} {anchors : Except Failure Anchors}
    {write : Decimal → Except Failure α}
    (computes : anchors >>= Anchors.position ≠ .error .valueOutOfRange)
    (accepts : ∀ position, write position ≠ .error .valueOutOfRange) :
    writeTo anchors write = .error .valueOutOfRange ↔
      ∃ position, anchors >>= Anchors.position = .ok position ∧ positionFits position = false := by
  rw [writeTo]
  cases computed : anchors >>= Anchors.position with
  | error failure =>
    rw [computed] at computes
    constructor
    · intro refused
      obtain rfl : failure = .valueOutOfRange := Except.error.inj refused
      exact absurd rfl computes
    · rintro ⟨position, impossible, -⟩
      cases impossible
  | ok position =>
    have sent : (∃ other, Except.ok position = (Except.ok other : Except Failure Decimal) ∧
        positionFits other = false) ↔ positionFits position = false := by
      simp
    rw [sent]
    change (if positionFits position = true then write position
      else .error .valueOutOfRange) = _ ↔ _
    cases positionFits position with
    | false => exact ⟨fun _ => rfl, fun _ => rfl⟩
    | true =>
      constructor
      · exact fun refused => absurd refused (accepts position)
      · intro impossible
        cases impossible

theorem position_ne_refused (anchors : Anchors) :
    anchors.position ≠ .error .valueOutOfRange := by
  rcases anchors with ⟨_ | prev, _ | next⟩
  · intro impossible
    cases impossible
  · intro impossible
    cases impossible
  · intro impossible
    cases impossible
  · rw [position, map_some, map_some, FractionalPosition.calcBetween]
    split
    · intro impossible
      cases impossible
    · intro impossible
      cases impossible

theorem createAnchors_position_ne_refused (categoryId : Option CategoryId) :
    createAnchors db workspaceId categoryId >>= position ≠ .error .valueOutOfRange := by
  rw [createAnchors]
  split
  · intro impossible
    cases impossible
  · exact position_ne_refused _

theorem moveAnchors_position_ne_refused (channelId : ChannelId) (input : MoveChannelRequest) :
    moveAnchors db workspaceId channelId input >>= position ≠
      .error .valueOutOfRange := by
  rw [moveAnchors]
  split
  · intro impossible
    cases impossible
  · dsimp only
    split
    · intro impossible
      cases impossible
    · split
      · exact position_ne_refused _
      · exact position_ne_refused _

theorem create_ne_refused (actorId : UserId) (newId : ChannelId) (position : Decimal)
    (createdAt : DateTime) (input : CreateChannelRequest) :
    ChannelsService.create db workspaceId actorId newId position createdAt input ≠
      .error .valueOutOfRange := by
  rw [ChannelsService.create]
  dsimp only
  split
  · intro impossible
    cases impossible
  · split
    · intro impossible
      cases impossible
    · split
      · intro impossible
        cases impossible
      · intro impossible
        cases impossible

theorem move_ne_refused (channelId : ChannelId) (position : Decimal)
    (categoryId : Option (Option CategoryId)) :
    ChannelsService.move db workspaceId channelId position categoryId ≠
      .error .valueOutOfRange := by
  rw [ChannelsService.move]
  split
  · intro impossible
    cases impossible
  · dsimp only
    split
    · intro impossible
      cases impossible
    · intro impossible
      cases impossible

theorem mem_toOption_toList {α : Type} {result : Except Failure α} {value : α} :
    value ∈ result.toOption.toList ↔ result = .ok value := by
  cases result with
  | error failure => simp [Except.toOption]
  | ok other => simp [Except.toOption, eq_comm]

/-- The database refuses a call for its range exactly when it refuses one of the positions. -/
theorem handle_refused_iff (request : PositionRequest) :
    request.handle db workspaceId = .error .valueOutOfRange ↔
      ∃ position ∈ request.written db workspaceId, positionFits position = false := by
  cases request with
  | create actorId newId createdAt input =>
    simp only [handle, written, mem_toOption_toList]
    exact writeTo_refused_iff (createAnchors_position_ne_refused _)
      fun position => create_ne_refused _ _ position _ _
  | move channelId input =>
    simp only [handle, written, mem_toOption_toList]
    exact writeTo_refused_iff (moveAnchors_position_ne_refused _ _)
      fun position => move_ne_refused _ position _
  | reorder items =>
    rw [handle, written, reorderChannels]
    dsimp only
    split
    next nothing =>
      rw [applicableItems, nothing]
      constructor
      · intro impossible
        cases impossible
      · rintro ⟨position, impossible, -⟩
        exact absurd impossible List.not_mem_nil
    · simp only [List.mem_map, exists_exists_and_eq_and]
      rw [← renormalize_refused_iff, applicableItems]
      cases renormalize db (fun _ => 0)
          (items.filter fun item => (findLive db workspaceId item.1).isSome) with
      | error failure =>
        constructor
        · intro refused
          rw [Except.error.inj refused]
        · intro refused
          rw [Except.error.inj refused]
          rfl
      | ok next =>
        constructor
        · intro impossible
          cases impossible
        · intro impossible
          cases impossible

/-- The column takes every position of the call, and a position between two neighbours is strictly
between them. -/
structure InRange (db : Database) (workspaceId : WorkspaceId) (request : PositionRequest) :
    Prop where
  representable : ∀ position ∈ request.written db workspaceId, positionFits position = true
  between : ∀ prev next, request.anchors db workspaceId = some (.ok ⟨some prev, some next⟩) →
    ∀ position ∈ request.written db workspaceId, prev < position ∧ position < next

/-- The neighbours of a new position are far enough from the ends of the range, and a reorder lists
fewer than ten million channels of a category. -/
def HasRoom (db : Database) (workspaceId : WorkspaceId) (request : PositionRequest) : Prop :=
  match request with
  | .reorder items =>
    let reached := reachedItems db (applicableItems db workspaceId items)
    ∀ item ∈ reached, reached.countP (·.2 = item.2) < 10 ^ 7
  | .create _ _ _ input =>
    ∀ anchors, createAnchors db workspaceId input.categoryId = .ok anchors → anchors.HasRoom
  | .move channelId input =>
    ∀ anchors, moveAnchors db workspaceId channelId input = .ok anchors → anchors.HasRoom

/-- A call either commits or changes nothing. -/
def PositionStep (db : Database) (call : WorkspaceId × PositionRequest) (next : Database) : Prop :=
  match call.2.handle db call.1 with
  | .ok (written, _) => next = written
  | .error _ => next = db

theorem fits_step {call : WorkspaceId × PositionRequest} {next : Database}
    (transition : PositionStep db call next) (fit : PositionsFit db) : PositionsFit next := by
  rw [PositionStep] at transition
  split at transition
  next handled =>
    rw [transition]
    exact fits_handle fit handled
  next =>
    rw [transition]
    exact fit

/-- The computed position of a call that has one. -/
theorem computed_iff_hasRoom {anchors : Except Failure Anchors}
    (fit : ∀ chosen, anchors = .ok chosen → chosen.Fit) :
    (∀ position ∈ (anchors >>= Anchors.position).toOption.toList, positionFits position = true) ↔
      ∀ chosen, anchors = .ok chosen → chosen.HasRoom := by
  cases anchors with
  | error failure =>
    refine ⟨fun _ chosen impossible => ?_, fun _ position impossible => ?_⟩
    · cases impossible
    · exact absurd impossible not_mem_nil
  | ok chosen =>
    have chosenFit := fit chosen rfl
    have same : (Except.ok chosen >>= Anchors.position) = chosen.position := rfl
    simp only [same, mem_toOption_toList, Except.ok.injEq, forall_eq']
    constructor
    · intro fits
      cases computed : chosen.position with
      | ok position =>
        exact (positionFits_iff_hasRoom chosenFit computed).mp (fits position computed)
      | error failure =>
        -- Only a gap that is used up makes the computation fail.
        rcases chosen with ⟨_ | prev, _ | next⟩
        · trivial
        · cases computed
        · cases computed
        · trivial
    · intro room position computed
      exact (positionFits_iff_hasRoom chosenFit computed).mpr room

theorem between_of_mem {anchors : Except Failure Anchors}
    (fit : ∀ chosen, anchors = .ok chosen → chosen.Fit) {prev next : Decimal}
    (both : anchors = .ok ⟨some prev, some next⟩) {position : Decimal}
    (sent : position ∈ (anchors >>= Anchors.position).toOption.toList) :
    prev < position ∧ position < next := by
  rw [mem_toOption_toList, both] at sent
  exact between_of_ok (fit _ both) sent

/-- A call stays in range exactly when there is room for its positions. -/
theorem inRange_iff_hasRoom (fit : PositionsFit db) (request : PositionRequest) :
    InRange db workspaceId request ↔ HasRoom db workspaceId request := by
  cases request with
  | create actorId newId createdAt input =>
    have anchorsFit := fun chosen => @createAnchors_fit db workspaceId fit input.categoryId chosen
    refine Iff.trans ⟨InRange.representable, fun representable => ⟨representable, ?_⟩⟩
      (computed_iff_hasRoom anchorsFit)
    intro prev next both position sent
    exact between_of_mem anchorsFit (Option.some.inj both) sent
  | move channelId input =>
    have anchorsFit := fun chosen => @moveAnchors_fit db workspaceId fit channelId input chosen
    refine Iff.trans ⟨InRange.representable, fun representable => ⟨representable, ?_⟩⟩
      (computed_iff_hasRoom anchorsFit)
    intro prev next both position sent
    exact between_of_mem anchorsFit (Option.some.inj both) sent
  | reorder items =>
    have counted := @forall_numbered_lt_iff _ _ _ Prod.snd (fun _ => 0)
      (reachedItems db (applicableItems db workspaceId items)) (10 ^ 7)
    simp only [Nat.zero_add] at counted
    rw [HasRoom, ← counted]
    constructor
    · intro inRange placement placementMem
      exact positionFits_stride_iff.mp (inRange.representable _ (mem_map_of_mem placementMem))
    · intro below
      refine ⟨fun position sent => ?_, fun prev next impossible => ?_⟩
      · obtain ⟨placement, placementMem, rfl⟩ := mem_map.mp sent
        exact positionFits_stride_iff.mpr (below placement placementMem)
      · cases impossible

/-- In a sequence of calls all positions stay in range exactly when each call finds room. -/
theorem positions_in_range_iff {start finish : Database} (fit : PositionsFit start)
    (calls : List (WorkspaceId × PositionRequest)) :
    Steps (Guarded PositionStep fun db call => InRange db call.1 call.2) start calls finish ↔
      Steps (Guarded PositionStep fun db call => HasRoom db call.1 call.2) start calls finish := by
  constructor
  · exact Steps.guarded_mono PositionsFit fits_step
      (fun invariant => (inRange_iff_hasRoom invariant _).mp) fit
  · exact Steps.guarded_mono PositionsFit fits_step
      (fun invariant => (inRange_iff_hasRoom invariant _).mpr) fit

theorem exists_positionStep (db : Database) (call : WorkspaceId × PositionRequest) :
    ∃ next, PositionStep db call next := by
  unfold PositionStep
  split
  next written _ _ => exact ⟨written, rfl⟩
  next => exact ⟨db, rfl⟩

/-- A call for a new channel outside the categories. -/
def createGeneral : PositionRequest :=
  .create ⟨1⟩ ⟨2⟩ 2 { name := "general" }

/-- The first channel of a workspace. -/
theorem first_position_in_range : ∃ finish,
    Steps (Guarded PositionStep fun db call => InRange db call.1 call.2)
      (.withoutRoles .empty .empty .empty) [(⟨1⟩, createGeneral)] finish := by
  obtain ⟨finish, transition⟩ :=
    exists_positionStep (.withoutRoles .empty .empty .empty) (⟨1⟩, createGeneral)
  refine ⟨finish, (positions_in_range_iff ?_ _).mpr (.step .refl ⟨transition, ?_⟩)⟩
  · exact forall_mem_nil _
  · intro anchors ok
    cases ok
    trivial

/-- A channel at the ninth stride, where the ninth channel of a category is created. -/
def nineStrides : Database :=
  .withoutRoles .empty
    { rows := [{ id := ⟨1⟩, workspaceId := some ⟨1⟩, name := "ninth"
                 position := (9 * 10 ^ 19 : Int), createdAt := 1 }]
      keysNodup := nodup_singleton _ }
    .empty

theorem positionsFit_nineStrides : PositionsFit nineStrides :=
  forall_mem_singleton.mpr (positionFits_iff.mpr ⟨by norm_num, by norm_num⟩)

theorem not_hasRoom_nineStrides : ¬HasRoom nineStrides ⟨1⟩ createGeneral := fun room =>
  lt_irrefl _ (hasRoom_append_iff.mp (room ⟨some (9 * 10 ^ 19 : Int), none⟩ rfl))

/-- The database refuses the tenth channel of a category. -/
theorem tenth_channel_refused :
    createGeneral.handle nineStrides ⟨1⟩ = .error .valueOutOfRange ∧
      ¬∀ (start finish : Database) (calls : List (WorkspaceId × PositionRequest)),
        PositionsFit start → Steps PositionStep start calls finish →
          Steps (Guarded PositionStep fun db call => InRange db call.1 call.2) start calls
            finish := by
  constructor
  · have outside := mt (computed_iff_hasRoom fun _ =>
      createAnchors_fit positionsFit_nineStrides).mp not_hasRoom_nineStrides
    simp only [not_forall, Bool.not_eq_true] at outside
    obtain ⟨position, sent, refused⟩ := outside
    exact (handle_refused_iff createGeneral).mpr ⟨position, sent, refused⟩
  · intro always
    obtain ⟨finish, transition⟩ := exists_positionStep nineStrides (⟨1⟩, createGeneral)
    have within := always nineStrides finish [(⟨1⟩, createGeneral)] positionsFit_nineStrides
      (Steps.singleton_iff.mpr transition)
    have inRange := (Steps.singleton_iff.mp within).2
    exact not_hasRoom_nineStrides ((inRange_iff_hasRoom positionsFit_nineStrides _).mp inRange)

end Bongtalk.Channels
