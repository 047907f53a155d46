import Bongtalk.Channels.ChannelsService
import Bongtalk.Library.Numbering

/-!
# Reordering channels

A request lists some of the channels of a workspace in their new order. The listed ones get the
positions 1000, 2000 and so on in their categories, and the others keep theirs.
-/

namespace Bongtalk.Channels

open Library Library.Numbering Common Prisma ChannelsService List

variable {next : Database} {event : ChannelEvent}

abbrev ReorderItem := ChannelId × Option CategoryId

section Placements

variable (db : Database) (workspaceId : WorkspaceId) (items : List ReorderItem)

/-- The items of live channels of the workspace. -/
def applicableItems : List ReorderItem :=
  items.filter fun item => (findLive db workspaceId item.1).isSome

/-- The order a request asks for. The last item of a channel counts. -/
def requestedItems : List ReorderItem :=
  keepLast Prod.fst (applicableItems db workspaceId items)

/-- The items, each with its number in its category. -/
def placements : List (ReorderItem × Nat) :=
  numbered Prod.snd (fun _ => 0) (applicableItems db workspaceId items)

def lastPlacements : List (ReorderItem × Nat) :=
  keepLast (Prod.fst ∘ Prod.fst) (placements db workspaceId items)

theorem map_fst_lastPlacements :
    (lastPlacements db workspaceId items).map Prod.fst = requestedItems db workspaceId items := by
  rw [lastPlacements, map_keepLast, placements, map_fst_numbered, requestedItems]

end Placements

/-- A live channel of the workspace. -/
def LiveIn (db : Database) (workspaceId : WorkspaceId) (row : Channel) : Prop :=
  row ∈ db.channels ∧ row.workspaceId = some workspaceId ∧ row.deletedAt = none

theorem isSome_findLive_iff {db : Database} {workspaceId : WorkspaceId} {id : ChannelId} :
    (findLive db workspaceId id).isSome = true ↔ ∃ row, LiveIn db workspaceId row ∧ row.id = id := by
  simp only [findLive, findInWorkspace, Option.isSome_iff_exists, Option.filter_eq_some_iff,
    Table.findUnique_eq_some_iff, beq_iff_eq, LiveIn]
  constructor
  · rintro ⟨row, ⟨⟨present, idEq⟩, inWorkspace⟩, live⟩
    exact ⟨row, ⟨present, inWorkspace, live⟩, idEq⟩
  · rintro ⟨row, ⟨present, inWorkspace, live⟩, idEq⟩
    exact ⟨row, ⟨⟨present, idEq⟩, inWorkspace⟩, live⟩

/-- The write of an item with its number. -/
def writePlacement (placement : ReorderItem × Nat) : Channel → Channel :=
  ChannelsService.place placement.1.2 (renormalizeStride * placement.2)

/-- An accepted write changes the one row. -/
theorem updatePlace_eq_ok {db next : Database} {id : ChannelId} {categoryId : Option CategoryId}
    {position : Decimal} (ok : updatePlace db id categoryId position = .ok next) :
    positionFits position = true ∧ next.categories = db.categories ∧
      next.channels.rows = db.channels.rows.map fun row =>
        if row.id = id then ChannelsService.place categoryId position row else row := by
  rw [updatePlace] at ok
  split at ok
  · cases ok
  next taken =>
    rw [Bool.not_eq_true, Bool.not_eq_false'] at taken
    split at ok
    · cases ok
    cases ok
    exact ⟨taken, rfl, rfl⟩

/-- Each row ends where the last item of its channel puts it. -/
theorem rows_renormalize {db next : Database} {counts : Option CategoryId → Nat}
    {items : List ReorderItem} (done : renormalize db counts items = .ok next) :
    next.channels.rows = db.channels.rows.map
        (settle (Prod.fst ∘ Prod.fst) Channel.id writePlacement (numbered Prod.snd counts items)) ∧
      next.categories = db.categories := by
  induction items generalizing db counts with
  | nil =>
    cases done
    exact ⟨(map_id _).symm, rfl⟩
  | cons item rest ih =>
    rcases item with ⟨id, categoryId⟩
    rw [renormalize] at done
    obtain ⟨written, write, renormalized⟩ := bind_eq_ok.mp done
    obtain ⟨rows, categories⟩ := ih renormalized
    obtain ⟨-, sameCategories, placed⟩ := updatePlace_eq_ok write
    refine ⟨?_, categories.trans sameCategories⟩
    rw [rows, placed]
    exact map_map

section Reordered

variable {db : Database} {workspaceId : WorkspaceId} {items : List ReorderItem}

/-- The row of a channel after the request. -/
def reordered (db : Database) (workspaceId : WorkspaceId) (items : List ReorderItem) :
    Channel → Channel :=
  settle (Prod.fst ∘ Prod.fst) Channel.id writePlacement (placements db workspaceId items)

theorem reorderChannels_eq_ok (ok : reorderChannels db workspaceId items = .ok (next, event)) :
    next.channels.rows = db.channels.rows.map (reordered db workspaceId items) ∧
      next.categories = db.categories := by
  rw [reorderChannels] at ok
  split at ok
  · exact absurd ok failWith_ne_ok
  obtain ⟨written, renormalized, same⟩ := bind_eq_ok.mp ok
  cases same
  exact rows_renormalize renormalized

/-- A request changes nothing but the place of a channel. -/
theorem part_reordered {β : Type} (part : Channel → β)
    (keeps : ∀ categoryId position row,
      part (ChannelsService.place categoryId position row) = part row) (row : Channel) :
    part (reordered db workspaceId items row) = part row := by
  apply settle_keeps part
  exact fun placement row => keeps _ _ row

theorem id_reordered (row : Channel) : (reordered db workspaceId items row).id = row.id :=
  part_reordered Channel.id (fun _ _ _ => rfl) row

variable {row : Channel}

theorem liveIn_next_iff (ok : reorderChannels db workspaceId items = .ok (next, event)) :
    LiveIn next workspaceId row ↔
      ∃ old, LiveIn db workspaceId old ∧ reordered db workspaceId items old = row := by
  have sameWorkspace (old : Channel) :
      (reordered db workspaceId items old).workspaceId = old.workspaceId :=
    part_reordered Channel.workspaceId (fun _ _ _ => rfl) old
  have sameDeletion (old : Channel) :
      (reordered db workspaceId items old).deletedAt = old.deletedAt :=
    part_reordered Channel.deletedAt (fun _ _ _ => rfl) old
  simp only [LiveIn, Table.mem_def, (reorderChannels_eq_ok ok).1, mem_map]
  constructor
  · rintro ⟨⟨old, present, rfl⟩, inWorkspace, live⟩
    exact ⟨old, ⟨present, sameWorkspace old ▸ inWorkspace, sameDeletion old ▸ live⟩, rfl⟩
  · rintro ⟨old, ⟨present, inWorkspace, live⟩, rfl⟩
    exact ⟨⟨old, present, rfl⟩, (sameWorkspace old).trans inWorkspace, (sameDeletion old).trans live⟩

/-- A channel that the request lists. -/
def Listed (db : Database) (workspaceId : WorkspaceId) (items : List ReorderItem)
    (row : Channel) : Prop :=
  row.id ∈ (requestedItems db workspaceId items).map Prod.fst

theorem listed_iff : Listed db workspaceId items row ↔
    ∃ placement ∈ lastPlacements db workspaceId items, placement.1.1 = row.id := by
  rw [Listed, ← map_fst_lastPlacements, map_map, mem_map]
  rfl

theorem reordered_of_placement {placement : ReorderItem × Nat}
    (last : placement ∈ lastPlacements db workspaceId items) (same : placement.1.1 = row.id) :
    reordered db workspaceId items row = writePlacement placement row := by
  apply settle_of_mem_keepLast
  · exact fun _ _ => rfl
  · exact fun _ _ _ => rfl
  · exact last
  · exact same.symm

theorem reordered_of_unlisted (unlisted : ¬Listed db workspaceId items row) :
    reordered db workspaceId items row = row := by
  refine settle_of_not_mem fun isListed => unlisted (listed_iff.mpr ?_)
  exact mem_map.mp (mem_map_keepLast.mpr isListed)

/-- An item is about a live channel. -/
theorem live_of_placement {placement : ReorderItem × Nat}
    (last : placement ∈ lastPlacements db workspaceId items) :
    ∃ row, LiveIn db workspaceId row ∧ row.id = placement.1.1 := by
  have requested : placement.1 ∈ requestedItems db workspaceId items := by
    rw [← map_fst_lastPlacements]
    exact mem_map_of_mem last
  have applicable := (keepLast_sublist _ _).subset requested
  exact isSome_findLive_iff.mp (mem_filter.mp applicable).2

/-- In a category the numbers go up in the order of the request. -/
theorem pairwise_lastPlacements (category : Option CategoryId) :
    ((lastPlacements db workspaceId items).filter (·.1.2 = category)).Pairwise
      fun first second => first.2 < second.2 := by
  have ordered := (pairwise_numbered Prod.snd (fun _ => 0)
    (applicableItems db workspaceId items)).sublist (keepLast_sublist (Prod.fst ∘ Prod.fst) _)
  refine pairwise_filter.mpr (ordered.imp fun above firstIn secondIn => above ?_)
  rw [decide_eq_true_eq] at firstIn secondIn
  exact firstIn.trans secondIn.symm

theorem nodup_channels_lastPlacements :
    ((lastPlacements db workspaceId items).map (Prod.fst ∘ Prod.fst)).Nodup :=
  nodup_map_keepLast (Prod.fst ∘ Prod.fst) (placements db workspaceId items)

variable {first second : ReorderItem × Nat}

theorem eq_of_same_channel (firstMem : first ∈ lastPlacements db workspaceId items)
    (secondMem : second ∈ lastPlacements db workspaceId items)
    (sameChannel : first.1.1 = second.1.1) : first = second :=
  inj_on_of_nodup_map nodup_channels_lastPlacements firstMem secondMem sameChannel

theorem eq_of_same_number (firstMem : first ∈ lastPlacements db workspaceId items)
    (secondMem : second ∈ lastPlacements db workspaceId items)
    (sameCategory : first.1.2 = second.1.2) (sameNumber : first.2 = second.2) : first = second := by
  have firstIn : first ∈ (lastPlacements db workspaceId items).filter (·.1.2 = second.1.2) :=
    mem_filter.mpr ⟨firstMem, decide_eq_true sameCategory⟩
  have secondIn : second ∈ (lastPlacements db workspaceId items).filter (·.1.2 = second.1.2) :=
    mem_filter.mpr ⟨secondMem, decide_eq_true rfl⟩
  have numbersNodup : (((lastPlacements db workspaceId items).filter
      (·.1.2 = second.1.2)).map Prod.snd).Nodup :=
    pairwise_map.mpr ((pairwise_lastPlacements second.1.2).imp Nat.ne_of_lt)
  exact inj_on_of_nodup_map numbersNodup firstIn secondIn sameNumber

theorem renormalizeStride_mul_le_iff {first second : Nat} :
    renormalizeStride * (first : Int) ≤ renormalizeStride * (second : Int) ↔ first ≤ second := by
  have strictlyPositive : (0 : Int) < renormalizeStride := by decide
  exact (Int.mul_le_mul_left strictlyPositive).trans Int.ofNat_le

end Reordered

section Faithful

variable (db : Database) (workspaceId : WorkspaceId) (items : List ReorderItem)

/-- Sorted by position, each category shows the listed channels in the order of the request; no two
live channels of a category share a position; and the categories are live ones of the workspace. -/
structure Faithful (next : Database) : Prop where
  inOrder : ∀ (category : Option CategoryId) (listing : List Channel), listing.Nodup →
    (∀ row, row ∈ listing ↔ LiveIn next workspaceId row ∧ row.categoryId = category) →
    listing.Pairwise (fun first second => first.position ≤ second.position) →
    (listing.map (·.id)).filter (· ∈ (requestedItems db workspaceId items).map Prod.fst) =
      ((requestedItems db workspaceId items).filter (·.2 = category)).map Prod.fst
  distinct : ∀ first second, LiveIn next workspaceId first → LiveIn next workspaceId second →
    first.categoryId = second.categoryId → first.position = second.position → first = second
  categories : ∀ item ∈ applicableItems db workspaceId items, ∀ categoryId,
    item.2 = some categoryId → categoryIsLive next workspaceId categoryId = true

/-- The channels that a request leaves out are at places of their own, none of them at a multiple of
the stride that a listed channel of the category gets, and the request names live categories of
the workspace. -/
structure ReorderSafe : Prop where
  categories : ∀ item ∈ applicableItems db workspaceId items, ∀ categoryId,
    item.2 = some categoryId → categoryIsLive db workspaceId categoryId = true
  unlisted : ∀ first second, LiveIn db workspaceId first → LiveIn db workspaceId second →
    ¬Listed db workspaceId items first → ¬Listed db workspaceId items second →
    first.categoryId = second.categoryId → first.position = second.position → first = second
  apart : ∀ row, LiveIn db workspaceId row → ¬Listed db workspaceId items row →
    ∀ placement ∈ lastPlacements db workspaceId items, row.categoryId = placement.1.2 →
      row.position ≠ renormalizeStride * placement.2

end Faithful

section Faithful

variable {db : Database} {workspaceId : WorkspaceId} {items : List ReorderItem}

/-- A live channel that the request lists stands at the number of its last item. -/
theorem placed_of_listed (ok : reorderChannels db workspaceId items = .ok (next, event))
    {row : Channel} (live : LiveIn next workspaceId row)
    (isListed : Listed db workspaceId items row) :
    ∃ placement ∈ lastPlacements db workspaceId items, placement.1 = (row.id, row.categoryId) ∧
      row.position = renormalizeStride * placement.2 := by
  obtain ⟨old, -, rfl⟩ := (liveIn_next_iff ok).mp live
  obtain ⟨placement, last, same⟩ := listed_iff.mp isListed
  have atPlace : reordered db workspaceId items old = writePlacement placement old :=
    reordered_of_placement last (same.trans (id_reordered old))
  rw [atPlace] at same ⊢
  exact ⟨placement, last, Prod.ext same rfl, rfl⟩

/-- Each last item has its channel in the category it names. -/
theorem live_next_of_placement (ok : reorderChannels db workspaceId items = .ok (next, event))
    {placement : ReorderItem × Nat} (last : placement ∈ lastPlacements db workspaceId items) :
    ∃ row, LiveIn next workspaceId row ∧ Listed db workspaceId items row ∧
      placement.1 = (row.id, row.categoryId) := by
  obtain ⟨old, live, same⟩ := live_of_placement last
  have keepsId : (reordered db workspaceId items old).id = placement.1.1 :=
    (id_reordered old).trans same
  refine ⟨reordered db workspaceId items old, (liveIn_next_iff ok).mpr ⟨old, live, rfl⟩,
    listed_iff.mpr ⟨placement, last, keepsId.symm⟩, Prod.ext keepsId.symm ?_⟩
  rw [reordered_of_placement last same.symm]
  rfl

/-- In a category, the last item of one channel does not come after that of another. -/
def NotAfter (db : Database) (workspaceId : WorkspaceId) (items : List ReorderItem)
    (category : Option CategoryId) (first second : ChannelId) : Prop :=
  ∃ before ∈ lastPlacements db workspaceId items,
    ∃ after ∈ lastPlacements db workspaceId items,
      before.1 = (first, category) ∧ after.1 = (second, category) ∧ before.2 ≤ after.2

theorem NotAfter.antisymm {category : Option CategoryId} {first second : ChannelId}
    (forth : NotAfter db workspaceId items category first second)
    (back : NotAfter db workspaceId items category second first) : first = second := by
  obtain ⟨before, beforeMem, after, afterMem, isFirst, isSecond, le⟩ := forth
  obtain ⟨again, againMem, earlier, earlierMem, isSecondAgain, isFirstAgain, ge⟩ := back
  obtain rfl := eq_of_same_channel againMem afterMem
    (congrArg Prod.fst (isSecondAgain.trans isSecond.symm))
  obtain rfl := eq_of_same_channel earlierMem beforeMem
    (congrArg Prod.fst (isFirstAgain.trans isFirst.symm))
  have sameCategory : earlier.1.2 = again.1.2 := by
    rw [isFirst, isSecond]
  have oneEntry := eq_of_same_number earlierMem againMem sameCategory (Nat.le_antisymm le ge)
  exact congrArg Prod.fst (isFirst.symm.trans ((congrArg Prod.fst oneEntry).trans isSecond))

section

variable (ok : reorderChannels db workspaceId items = .ok (next, event))

include ok

/-- The listed channels come in the order of the request, whatever the others do. -/
theorem inOrder_of_ok {category : Option CategoryId} {listing : List Channel}
    (nodup : listing.Nodup)
    (complete : ∀ row, row ∈ listing ↔ LiveIn next workspaceId row ∧ row.categoryId = category)
    (sorted : listing.Pairwise fun first second => first.position ≤ second.position) :
    (listing.map (·.id)).filter (· ∈ (requestedItems db workspaceId items).map Prod.fst) =
      ((requestedItems db workspaceId items).filter (·.2 = category)).map Prod.fst := by
  have target : ((requestedItems db workspaceId items).filter (·.2 = category)).map Prod.fst =
      ((lastPlacements db workspaceId items).filter (·.1.2 = category)).map
        (Prod.fst ∘ Prod.fst) := by
    rw [← map_fst_lastPlacements, filter_map, map_map]
    rfl
  have placed : ∀ row ∈ listing, row.id ∈ (requestedItems db workspaceId items).map Prod.fst →
      ∃ placement ∈ lastPlacements db workspaceId items, placement.1 = (row.id, category) ∧
        row.position = renormalizeStride * placement.2 := by
    intro row rowMem isListed
    obtain ⟨live, rfl⟩ := (complete row).mp rowMem
    exact placed_of_listed ok live isListed
  rw [target]
  -- Both sides are in order by the numbers of the last items, and have the same members.
  refine @List.Perm.eq_of_pairwise _ (NotAfter db workspaceId items category) _ _
    (fun _ _ _ _ => NotAfter.antisymm) ?_ ?_ ?_
  · rw [pairwise_filter, pairwise_map]
    refine sorted.imp_of_mem fun {first second} firstMem secondMem le firstListed secondListed => ?_
    obtain ⟨before, beforeMem, isFirst, firstAt⟩ :=
      placed first firstMem (of_decide_eq_true firstListed)
    obtain ⟨after, afterMem, isSecond, secondAt⟩ :=
      placed second secondMem (of_decide_eq_true secondListed)
    refine ⟨before, beforeMem, after, afterMem, isFirst, isSecond, ?_⟩
    rw [firstAt, secondAt] at le
    exact renormalizeStride_mul_le_iff.mp le
  · rw [pairwise_map]
    refine (pairwise_lastPlacements category).imp_of_mem fun {before after} beforeMem afterMem
      above => ?_
    obtain ⟨beforeLast, beforeIn⟩ := mem_filter.mp beforeMem
    obtain ⟨afterLast, afterIn⟩ := mem_filter.mp afterMem
    exact ⟨before, beforeLast, after, afterLast, Prod.ext rfl (of_decide_eq_true beforeIn),
      Prod.ext rfl (of_decide_eq_true afterIn), above.le⟩
  · refine (perm_ext_iff_of_nodup ?_ ?_).mpr fun id => ?_
    · refine Nodup.filter _ (nodup.map_on fun first firstMem second secondMem same => ?_)
      exact Table.eq_of_key_eq ((complete first).mp firstMem).1.1
        ((complete second).mp secondMem).1.1 same
    · exact nodup_channels_lastPlacements.sublist (filter_sublist.map _)
    · simp only [mem_filter, mem_map, decide_eq_true_eq]
      constructor
      · rintro ⟨⟨row, rowMem, rfl⟩, isListed⟩
        obtain ⟨placement, last, same, -⟩ := placed row rowMem (mem_map.mpr isListed)
        exact ⟨placement, ⟨last, congrArg Prod.snd same⟩, congrArg Prod.fst same⟩
      · rintro ⟨placement, ⟨last, inCategory⟩, rfl⟩
        obtain ⟨row, live, isListed, same⟩ := live_next_of_placement ok last
        refine ⟨⟨row, (complete row).mpr ⟨live, ?_⟩, ?_⟩, ?_⟩
        · exact (congrArg Prod.snd same).symm.trans inCategory
        · exact (congrArg Prod.fst same).symm
        · rw [Function.comp_apply, congrArg Prod.fst same]
          exact mem_map.mp isListed

omit ok in
theorem reordered_eq_iff {first second : Channel} (firstLive : LiveIn db workspaceId first)
    (secondLive : LiveIn db workspaceId second) :
    reordered db workspaceId items first = reordered db workspaceId items second ↔
      first = second := by
  refine ⟨fun same => ?_, congrArg _⟩
  apply Table.eq_of_key_eq firstLive.1 secondLive.1
  calc first.id = (reordered db workspaceId items first).id := (id_reordered first).symm
    _ = (reordered db workspaceId items second).id := congrArg Channel.id same
    _ = second.id := id_reordered second

omit ok in
/-- A channel at its number, beside one that the request leaves out. -/
theorem apart_of_unlisted (safe : ReorderSafe db workspaceId items) {listed other : Channel}
    {placement : ReorderItem × Nat} (last : placement ∈ lastPlacements db workspaceId items)
    (same : placement.1.1 = listed.id) (otherLive : LiveIn db workspaceId other)
    (unlisted : ¬Listed db workspaceId items other)
    (sameCategory : (reordered db workspaceId items listed).categoryId = other.categoryId) :
    (reordered db workspaceId items listed).position ≠ other.position := by
  rw [reordered_of_placement last same] at sameCategory ⊢
  exact (safe.apart other otherLive unlisted placement last sameCategory.symm).symm

theorem distinct_of_safe (safe : ReorderSafe db workspaceId items) {first second : Channel}
    (firstLive : LiveIn next workspaceId first) (secondLive : LiveIn next workspaceId second)
    (sameCategory : first.categoryId = second.categoryId)
    (samePosition : first.position = second.position) : first = second := by
  obtain ⟨before, beforeLive, rfl⟩ := (liveIn_next_iff ok).mp firstLive
  obtain ⟨other, otherLive, rfl⟩ := (liveIn_next_iff ok).mp secondLive
  by_cases beforeListed : Listed db workspaceId items before
  · obtain ⟨placement, last, same⟩ := listed_iff.mp beforeListed
    by_cases otherListed : Listed db workspaceId items other
    · obtain ⟨otherPlacement, otherLast, otherSame⟩ := listed_iff.mp otherListed
      have oneEntry : placement = otherPlacement := by
        rw [reordered_of_placement last same, reordered_of_placement otherLast otherSame]
          at sameCategory samePosition
        refine eq_of_same_number last otherLast sameCategory (Nat.le_antisymm ?_ ?_)
        · exact renormalizeStride_mul_le_iff.mp samePosition.le
        · exact renormalizeStride_mul_le_iff.mp samePosition.ge
      subst oneEntry
      rw [Table.eq_of_key_eq beforeLive.1 otherLive.1 (same.symm.trans otherSame)]
    · rw [reordered_of_unlisted otherListed] at sameCategory samePosition
      exact absurd samePosition
        (apart_of_unlisted safe last same otherLive otherListed sameCategory)
  · by_cases otherListed : Listed db workspaceId items other
    · obtain ⟨placement, last, same⟩ := listed_iff.mp otherListed
      rw [reordered_of_unlisted beforeListed] at sameCategory samePosition
      exact absurd samePosition.symm
        (apart_of_unlisted safe last same beforeLive beforeListed sameCategory.symm)
    · rw [reordered_of_unlisted beforeListed, reordered_of_unlisted otherListed]
        at sameCategory samePosition ⊢
      exact safe.unlisted before other beforeLive otherLive beforeListed otherListed sameCategory
        samePosition

theorem categoryIsLive_next (categoryId : CategoryId) :
    categoryIsLive next workspaceId categoryId = categoryIsLive db workspaceId categoryId := by
  rw [categoryIsLive, categoryIsLive, (reorderChannels_eq_ok ok).2]

end

/-- A request that commits is faithful exactly when the channels it leaves out stay clear of the
places it gives, and it names categories that are there to be used. -/
theorem reorder_faithful_iff (ok : reorderChannels db workspaceId items = .ok (next, event)) :
    Faithful db workspaceId items next ↔ ReorderSafe db workspaceId items := by
  have sameLive := categoryIsLive_next ok
  constructor
  · intro faithful
    refine ⟨?_, ?_, ?_⟩
    · intro item applicable categoryId named
      rw [← sameLive]
      exact faithful.categories item applicable categoryId named
    · intro first second firstLive secondLive firstUnlisted secondUnlisted
      have kept := faithful.distinct _ _ ((liveIn_next_iff ok).mpr ⟨first, firstLive, rfl⟩)
        ((liveIn_next_iff ok).mpr ⟨second, secondLive, rfl⟩)
      rwa [reordered_of_unlisted firstUnlisted, reordered_of_unlisted secondUnlisted] at kept
    · intro row live unlisted placement last sameCategory samePosition
      obtain ⟨old, oldLive, sameId⟩ := live_of_placement last
      have isListed : Listed db workspaceId items old := listed_iff.mpr ⟨placement, last, sameId.symm⟩
      have kept := faithful.distinct _ _ ((liveIn_next_iff ok).mpr ⟨row, live, rfl⟩)
        ((liveIn_next_iff ok).mpr ⟨old, oldLive, rfl⟩)
      have sameRow : row = old := by
        refine (reordered_eq_iff live oldLive).mp (kept ?_ ?_)
        · rw [reordered_of_unlisted unlisted, reordered_of_placement last sameId.symm]
          exact sameCategory
        · rw [reordered_of_unlisted unlisted, reordered_of_placement last sameId.symm]
          exact samePosition
      exact unlisted (sameRow ▸ isListed)
  · intro safe
    refine ⟨?_, ?_, ?_⟩
    · exact fun category listing => inOrder_of_ok ok
    · exact fun first second => distinct_of_safe ok safe
    · intro item applicable categoryId named
      rw [sameLive]
      exact safe.categories item applicable categoryId named

end Faithful

/-- Two channels outside the categories, as a request over both leaves them. -/
def twoReordered : Database :=
  .withoutRoles .empty
    { rows :=
        [{ id := ⟨1⟩, workspaceId := some ⟨1⟩, name := "first", position := renormalizeStride
           createdAt := 1 },
         { id := ⟨2⟩, workspaceId := some ⟨1⟩, name := "second", position := renormalizeStride * 2
           createdAt := 2 }]
      keysNodup := by decide }
    .empty

theorem twoReordered_safe : ReorderSafe twoReordered ⟨1⟩ [(⟨2⟩, none), (⟨1⟩, none)] := by
  have bothListed : ∀ row ∈ twoReordered.channels.rows,
      Listed twoReordered ⟨1⟩ [(⟨2⟩, none), (⟨1⟩, none)] row := by
    unfold Listed
    decide
  refine ⟨?_, ?_, ?_⟩
  · intro item applicable categoryId named
    have outside : ∀ item ∈ applicableItems twoReordered ⟨1⟩ [(⟨2⟩, none), (⟨1⟩, none)],
        item.2 = none := by decide
    rw [outside item applicable] at named
    cases named
  · exact fun first second live _ unlisted => absurd (bothListed first live.1) unlisted
  · exact fun row live unlisted => absurd (bothListed row live.1) unlisted

/-- A request over both of them swaps them. -/
theorem reorder_swaps : ∃ next event,
    reorderChannels twoReordered ⟨1⟩ [(⟨2⟩, none), (⟨1⟩, none)] = .ok (next, event) ∧
      Faithful twoReordered ⟨1⟩ [(⟨2⟩, none), (⟨1⟩, none)] next :=
  ⟨_, _, rfl, (reorder_faithful_iff rfl).mpr twoReordered_safe⟩

/-- A request over the second one alone puts it where the first one is. -/
theorem reorder_collides :
    (∃ next event, reorderChannels twoReordered ⟨1⟩ [(⟨2⟩, none)] = .ok (next, event) ∧
      next.channels.rows.map (·.position) = [renormalizeStride, renormalizeStride]) ∧
      ¬∀ (db next : Database) (workspaceId : WorkspaceId) (items : List ReorderItem)
        (event : ChannelEvent), reorderChannels db workspaceId items = .ok (next, event) →
          Faithful db workspaceId items next := by
  refine ⟨⟨_, _, rfl, by decide⟩, fun always => ?_⟩
  have faithful := always twoReordered _ ⟨1⟩ [(⟨2⟩, none)] _ rfl
  have same := faithful.distinct
    { id := ⟨1⟩, workspaceId := some ⟨1⟩, name := "first", position := renormalizeStride
      createdAt := 1 }
    { id := ⟨2⟩, workspaceId := some ⟨1⟩, name := "second", position := renormalizeStride * 1
      createdAt := 2 }
    ⟨.head _, rfl, rfl⟩ ⟨.tail _ (.head _), rfl, rfl⟩ rfl (by decide)
  cases same

end Bongtalk.Channels
