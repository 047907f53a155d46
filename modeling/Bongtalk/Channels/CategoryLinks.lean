import Bongtalk.Channels.Categories

/-!
# Channels of deleted categories

Deleting a category frees the channels that are in it at that moment. A channel that is created
in the category afterwards, or put into it by a reorder, stays with a category that is gone, and
no list shows it.
-/

namespace Bongtalk.Channels

open Library EventLoop Common Prisma ChannelsService CategoriesService List Table

variable {db : Database} {workspaceId : WorkspaceId}

/-- Every live channel is outside of categories or in a live category of its workspace. -/
def CategoriesLive (db : Database) : Prop :=
  ∀ channel ∈ db.channels, channel.deletedAt = none →
    ∀ categoryId, channel.categoryId = some categoryId →
      ∃ category ∈ db.categories, category.id = categoryId ∧
        channel.workspaceId = some category.workspaceId ∧ category.deletedAt = none

/-- No channel is deleted, and whoever has a channel listed still has it listed. -/
def KeepsChannels (before after : Database) : Prop :=
  ∀ channel ∈ before.channels, ∃ kept ∈ after.channels, kept.id = channel.id ∧
    kept.deletedAt = channel.deletedAt ∧ ∀ workspaceId callerId,
      (listByWorkspace before workspaceId callerId).Lists channel →
        (listByWorkspace after workspaceId callerId).Lists kept

/-- A step after which every live channel is in a live category, and which keeps all channels if it
deletes a category. -/
def KeepsCategories (before : EventLoop.State Database CategoryTask)
    (label : Label CategoryTask (WorkspaceId × CategoryRequest))
    (after : EventLoop.State Database CategoryTask) : Prop :=
  Step categoryLoop before label after ∧ CategoriesLive after.shared ∧
    ∀ waiting workspaceId categoryId now later,
      label = .resume waiting (.removeCategory workspaceId categoryId now) later →
        KeepsChannels before.shared after.shared

/-- The condition on a transaction: a channel is created while its category is live, and a reorder
that commits names live categories of the workspace only. -/
def NamesLiveCategories (db : Database) : CategoryTask → Prop
  | .createChannel workspaceId actorId newId position createdAt input =>
    (insertChannel db workspaceId actorId newId position createdAt input).isOk = true →
      ∀ categoryId, input.categoryId = some categoryId →
        categoryIsLive db workspaceId categoryId = true
  | .reorderChannels workspaceId items =>
    (reorderChannels db workspaceId items).isOk = true →
      ∀ item ∈ requestedItems db workspaceId items, ∀ categoryId, item.2 = some categoryId →
        categoryIsLive db workspaceId categoryId = true
  | _ => True

section Lists

variable {callerId : Option UserId} {channels : List Channel} {channel : Channel}

/-- Whether a caller sees a channel of the workspace. -/
def ShownTo (db : Database) (workspaceId : WorkspaceId) (callerId : Option UserId)
    (channelId : ChannelId) (isPrivate : Bool) : Prop :=
  ∀ userId, callerId = some userId → isPrivate = false ∨
    (db.findMember workspaceId userId).map (·.role) = some .owner ∨
    channelId ∈ overrideHits db [channelId] userId workspaceId (db.findMember workspaceId userId)

theorem mem_overrideHits_iff {privateIds : List ChannelId} {userId : UserId}
    {memberRow : Option WorkspaceMember} {channelId : ChannelId} :
    channelId ∈ overrideHits db privateIds userId workspaceId memberRow ↔
      channelId ∈ privateIds ∧
        channelId ∈ overrideHits db [channelId] userId workspaceId memberRow := by
  simp only [overrideHits, mem_map, mem_findMany, Bool.and_eq_true,
    contains_eq_mem, decide_eq_true_eq, mem_singleton]
  constructor
  · rintro ⟨row, ⟨present, ⟨isListed, allows⟩, found⟩, rfl⟩
    exact ⟨isListed, row, ⟨present, ⟨rfl, allows⟩, found⟩, rfl⟩
  · rintro ⟨isListed, row, ⟨present, ⟨-, allows⟩, found⟩, rfl⟩
    exact ⟨row, ⟨present, ⟨isListed, allows⟩, found⟩, rfl⟩

theorem mem_visibleChannels_iff :
    channel ∈ visibleChannels db workspaceId callerId channels ↔
      channel ∈ channels ∧ ShownTo db workspaceId callerId channel.id channel.isPrivate := by
  cases callerId with
  | none => simp [visibleChannels, ShownTo]
  | some userId =>
    simp only [visibleChannels, ShownTo, Option.some.injEq, forall_eq']
    by_cases owner : (db.findMember workspaceId userId).map (·.role) = some .owner
    · rw [if_pos owner]
      exact ⟨fun present => ⟨present, .inr (.inl owner)⟩, And.left⟩
    · rw [if_neg owner, mem_filter, Bool.or_eq_true, Bool.not_eq_true',
        contains_eq_mem, decide_eq_true_eq]
      refine and_congr_right fun present => ?_
      rw [mem_overrideHits_iff]
      constructor
      · rintro (isPublic | ⟨-, hit⟩)
        · exact .inl isPublic
        · exact .inr (.inr hit)
      · rintro (isPublic | isOwner | hit)
        · exact .inl isPublic
        · exact absurd isOwner owner
        · by_cases isPublic : channel.isPrivate = false
          · exact .inl isPublic
          rw [Bool.not_eq_false] at isPublic
          exact .inr ⟨mem_map.mpr ⟨channel, mem_filter.mpr ⟨present, isPublic⟩, rfl⟩, hit⟩

/-- A channel of the workspace is listed when it is listable and its caller sees it. -/
theorem lists_iff :
    (listByWorkspace db workspaceId callerId).Lists channel ↔
      (channel ∈ db.channels ∧ channel.workspaceId = some workspaceId) ∧
        Listable db workspaceId channel ∧
          ShownTo db workspaceId callerId channel.id channel.isPrivate := by
  simp only [ChannelListing.Lists, listByWorkspace, mem_map, exists_exists_and_eq_and,
    mem_filter, mem_insertionSort, mem_findMany, mem_visibleChannels_iff,
    Listable, Bool.and_eq_true, beq_iff_eq, bne_iff_ne, ne_eq]
  constructor
  · rintro (⟨⟨⟨present, ⟨here, live⟩, notDirect⟩, shown⟩, uncategorized⟩ |
      ⟨category, ⟨categoryMem, categoryHere, categoryLive⟩,
        ⟨⟨present, ⟨here, live⟩, notDirect⟩, shown⟩, under⟩)
    · exact ⟨⟨present, here⟩, ⟨live, notDirect, .inl uncategorized⟩, shown⟩
    · exact ⟨⟨present, here⟩,
        ⟨live, notDirect, .inr ⟨category, categoryMem, under, categoryHere, categoryLive⟩⟩, shown⟩
  · rintro ⟨⟨present, here⟩, ⟨live, notDirect, uncategorized |
      ⟨category, categoryMem, under, categoryHere, categoryLive⟩⟩, shown⟩
    · exact .inl ⟨⟨⟨present, ⟨here, live⟩, notDirect⟩, shown⟩, uncategorized⟩
    · exact .inr ⟨category, ⟨categoryMem, categoryHere, categoryLive⟩,
        ⟨⟨present, ⟨here, live⟩, notDirect⟩, shown⟩, under⟩

end Lists

section Writes

variable {next : Database}

variable {categoryId : CategoryId}

theorem categoryIsLive_iff :
    categoryIsLive db workspaceId categoryId = true ↔ ∃ category ∈ db.categories,
      category.id = categoryId ∧ category.workspaceId = workspaceId ∧ category.deletedAt = none := by
  rw [categoryIsLive, Option.any_eq_true]
  constructor
  · rintro ⟨category, found, isLive⟩
    obtain ⟨present, idEq⟩ := mem_of_findUnique found
    rw [Bool.and_eq_true, beq_iff_eq, beq_iff_eq] at isLive
    exact ⟨category, present, idEq, isLive⟩
  · rintro ⟨category, present, idEq, here, live⟩
    refine ⟨category, findUnique_eq_some_iff.mpr ⟨present, idEq⟩, ?_⟩
    rw [Bool.and_eq_true, beq_iff_eq, beq_iff_eq]
    exact ⟨here, live⟩

/-- The law, in terms of the check of the calls. -/
theorem categoriesLive_iff :
    CategoriesLive db ↔ ∀ channel ∈ db.channels, channel.deletedAt = none →
      ∀ categoryId, channel.categoryId = some categoryId → ∃ workspaceId,
        channel.workspaceId = some workspaceId ∧
          categoryIsLive db workspaceId categoryId = true := by
  simp only [CategoriesLive, categoryIsLive_iff]
  constructor
  · intro live channel present notDeleted categoryId under
    obtain ⟨category, categoryMem, idEq, here, categoryLive⟩ :=
      live channel present notDeleted categoryId under
    exact ⟨category.workspaceId, here, category, categoryMem, idEq, rfl, categoryLive⟩
  · intro live channel present notDeleted categoryId under
    obtain ⟨_, here, category, categoryMem, idEq, rfl, categoryLive⟩ :=
      live channel present notDeleted categoryId under
    exact ⟨category, categoryMem, idEq, here, categoryLive⟩

theorem categoryIsLive_congr (same : next.categories = db.categories) (categoryId : CategoryId) :
    categoryIsLive next workspaceId categoryId = categoryIsLive db workspaceId categoryId := by
  rw [categoryIsLive, categoryIsLive, same]

section

variable (live : CategoriesLive db)

include live

variable {position : Decimal} {createdAt : DateTime} {event : ChannelEvent}

/-- A new category is no reason for a channel to lose its own. -/
theorem categoriesLive_create {newId : CategoryId} {input : CreateCategoryRequest}
    (ok : CategoriesService.create db workspaceId newId position createdAt input = .ok next) :
    CategoriesLive next := by
  unfold CategoriesService.create at ok
  dsimp only at ok
  split at ok
  · cases ok
  split at ok
  · exact absurd ok failWith_ne_ok
  split at ok
  · cases ok
  next categories inserted =>
    cases ok
    intro channel present notDeleted categoryId under
    obtain ⟨category, categoryMem, rest⟩ := live channel present notDeleted categoryId under
    exact ⟨category, (mem_insert? inserted).mpr (.inr categoryMem), rest⟩

/-- A new channel is as good as its category. -/
theorem categoriesLive_insertChannel {actorId : UserId} {newId : ChannelId}
    {input : CreateChannelRequest}
    (ok : insertChannel db workspaceId actorId newId position createdAt input = .ok next) :
    CategoriesLive next ↔ ∀ categoryId, input.categoryId = some categoryId →
      categoryIsLive db workspaceId categoryId = true := by
  unfold insertChannel at ok
  dsimp only at ok
  split at ok
  · cases ok
  split at ok
  · exact absurd ok failWith_ne_ok
  split at ok
  · cases ok
  next channels inserted =>
    cases ok
    rw [categoriesLive_iff] at live ⊢
    constructor
    · intro nextLive categoryId named
      obtain ⟨_, here, isLive⟩ :=
        nextLive _ ((mem_insert? inserted).mpr (.inl rfl)) rfl categoryId named
      cases here
      exact isLive
    · intro named channel present notDeleted categoryId under
      rcases (mem_insert? inserted).mp present with rfl | old
      · exact ⟨workspaceId, rfl, named categoryId under⟩
      · exact live channel old notDeleted categoryId under

/-- A moved channel goes to a live category, or stays in its own. -/
theorem categoriesLive_move {channelId : ChannelId} {input : MoveChannelRequest}
    (ok : PositionRequest.handle db workspaceId (.move channelId input) = .ok (next, event)) :
    CategoriesLive next := by
  obtain ⟨position, -, written⟩ := bind_eq_ok.mp ok
  split at written
  · unfold ChannelsService.move at written
    split at written
    · exact absurd written failWith_ne_ok
    next current found =>
      dsimp only at written
      split at written
      · exact absurd written failWith_ne_ok
      next named =>
        cases written
        obtain ⟨foundHere, -⟩ := Option.filter_eq_some_iff.mp found
        obtain ⟨-, here⟩ := Option.filter_eq_some_iff.mp foundHere
        rw [categoriesLive_iff] at live ⊢
        intro channel present notDeleted categoryId under
        obtain ⟨old, oldMem, rfl⟩ := mem_map.mp present
        by_cases same : old.id = current.id
        · rw [if_pos same] at under ⊢
          rw [Bool.not_eq_true, Option.any_eq_false] at named
          have isLive := named categoryId under
          rw [Bool.not_eq_false'] at isLive
          exact ⟨workspaceId, beq_iff_eq.mp here, isLive⟩
        · rw [if_neg same] at notDeleted under ⊢
          exact live old oldMem notDeleted categoryId under
  · cases written

/-- A reorder is as good as the categories that it names last. -/
theorem categoriesLive_reorder {items : List ReorderItem}
    (ok : reorderChannels db workspaceId items = .ok (next, event)) :
    CategoriesLive next ↔ ∀ item ∈ requestedItems db workspaceId items, ∀ categoryId,
      item.2 = some categoryId → categoryIsLive db workspaceId categoryId = true := by
  obtain ⟨rows, categories⟩ := reorderChannels_eq_ok ok
  rw [categoriesLive_iff] at live ⊢
  constructor
  · intro nextLive item itemMem categoryId named
    rw [← map_fst_lastPlacements] at itemMem
    obtain ⟨placement, last, rfl⟩ := mem_map.mp itemMem
    obtain ⟨row, ⟨present, here, notDeleted⟩, -, place⟩ := live_next_of_placement ok last
    rw [place] at named
    obtain ⟨_, sameWorkspace, isLive⟩ := nextLive row present notDeleted categoryId named
    cases here.symm.trans sameWorkspace
    rwa [categoryIsLive_congr categories] at isLive
  · intro named channel present notDeleted categoryId under
    rw [mem_def, rows] at present
    obtain ⟨old, oldMem, rfl⟩ := mem_map.mp present
    by_cases isListed : Listed db workspaceId items old
    · obtain ⟨placement, last, same⟩ := listed_iff.mp isListed
      rw [reordered_of_placement last same] at under ⊢
      obtain ⟨row, ⟨rowMem, here, -⟩, rowId⟩ := live_of_placement last
      obtain rfl := eq_of_key_eq oldMem rowMem (same.symm.trans rowId.symm)
      refine ⟨workspaceId, here, ?_⟩
      rw [categoryIsLive_congr categories]
      refine named placement.1 ?_ categoryId under
      rw [← map_fst_lastPlacements]
      exact mem_map.mpr ⟨placement, last, rfl⟩
    · rw [reordered_of_unlisted isListed] at notDeleted under ⊢
      obtain ⟨inWorkspace, here, isLive⟩ := live old oldMem notDeleted categoryId under
      exact ⟨inWorkspace, here, by rwa [categoryIsLive_congr categories]⟩

end

/-- A channel that does not leave a live category is not in it. -/
theorem ne_of_stays (isLive : categoryIsLive db workspaceId categoryId = true) {channel : Channel}
    (stays : ¬(channel.workspaceId = some workspaceId ∧ channel.categoryId = some categoryId))
    {category : Category} (present : category ∈ db.categories)
    (here : channel.workspaceId = some category.workspaceId)
    (under : channel.categoryId = some category.id) : category.id ≠ categoryId := by
  rintro rfl
  obtain ⟨removed, removedMem, removedId, removedHere, -⟩ := categoryIsLive_iff.mp isLive
  obtain rfl := eq_of_key_eq removedMem present removedId
  exact stays ⟨here.trans (congrArg some removedHere), under⟩

/-- Deleting a category frees its channels; a channel of another category keeps it. -/
theorem categoriesLive_remove (live : CategoriesLive db) {now : DateTime}
    (ok : remove db workspaceId categoryId now = .ok next) :
    CategoriesLive next := by
  unfold remove at ok
  split at ok
  next isLive =>
    cases ok
    intro channel present notDeleted other under
    obtain ⟨old, oldMem, rfl⟩ := mem_map.mp present
    unfold leave at notDeleted under ⊢
    by_cases leaves : old.workspaceId = some workspaceId ∧ old.categoryId = some categoryId
    · rw [if_pos leaves] at under
      cases under
    · rw [if_neg leaves] at notDeleted under ⊢
      obtain ⟨category, categoryMem, rfl, here, categoryLive⟩ :=
        live old oldMem notDeleted other under
      have stays := ne_of_stays isLive leaves categoryMem here under
      exact ⟨category, mem_map.mpr ⟨category, categoryMem, if_neg stays⟩, rfl, here, categoryLive⟩
  next => exact absurd ok failWith_ne_ok

theorem KeepsChannels.refl (db : Database) : KeepsChannels db db :=
  fun channel present => ⟨channel, present, rfl, rfl, fun _ _ lists => lists⟩

/-- Deleting a category takes no channel away and none from a list. -/
theorem keepsChannels_remove {now : DateTime}
    (ok : remove db workspaceId categoryId now = .ok next) :
    KeepsChannels db next := by
  unfold remove at ok
  split at ok
  next isLive =>
    cases ok
    intro channel present
    have kept := mem_map_of_mem (f := leave workspaceId categoryId) present
    refine ⟨_, kept, ?_⟩
    unfold leave at kept ⊢
    by_cases leaves : channel.workspaceId = some workspaceId ∧ channel.categoryId = some categoryId
    · rw [if_pos leaves] at kept ⊢
      refine ⟨rfl, rfl, fun listing callerId lists => ?_⟩
      obtain ⟨⟨-, here⟩, ⟨notDeleted, notDirect, -⟩, shown⟩ := lists_iff.mp lists
      exact lists_iff.mpr ⟨⟨kept, here⟩, ⟨notDeleted, notDirect, .inl rfl⟩, shown⟩
    · rw [if_neg leaves] at kept ⊢
      refine ⟨rfl, rfl, fun listing callerId lists => ?_⟩
      obtain ⟨⟨-, here⟩, ⟨notDeleted, notDirect, place⟩, shown⟩ := lists_iff.mp lists
      refine lists_iff.mpr ⟨⟨kept, here⟩, ⟨notDeleted, notDirect, ?_⟩, shown⟩
      rcases place with outside | ⟨category, categoryMem, under, rfl, categoryLive⟩
      · exact .inl outside
      have stays := ne_of_stays isLive leaves categoryMem here under
      exact .inr ⟨category, mem_map.mpr ⟨category, categoryMem, if_neg stays⟩, under,
        rfl, categoryLive⟩
  next => exact absurd ok failWith_ne_ok

end Writes

theorem exists_of_map_fst {result : Except Failure (Database × ChannelEvent)} {next : Database}
    (ok : result.map Prod.fst = .ok next) : ∃ event, result = .ok (next, event) := by
  rcases result with failure | ⟨written, event⟩
  · cases ok
  cases ok
  exact ⟨event, rfl⟩

theorem isOk_map_fst (result : Except Failure (Database × ChannelEvent)) :
    (result.map Prod.fst).isOk = result.isOk := by
  cases result <;> rfl

/-- The condition says which tasks keep the law. -/
theorem categoriesLive_resume_iff {db : Database} (live : CategoriesLive db) (task : CategoryTask) :
    CategoriesLive (task.resume db).1 ↔ NamesLiveCategories db task := by
  cases task with
  | findLastCategory | findCategory | findLastChannel => exact iff_of_true live trivial
  | createCategory =>
    exact iff_of_true (law_conclude live fun _ ok => categoriesLive_create live ok) trivial
  | removeCategory =>
    exact iff_of_true (law_conclude live fun _ ok => categoriesLive_remove live ok) trivial
  | createChannel =>
    exact law_conclude_iff live fun _ ok => categoriesLive_insertChannel live ok
  | move workspaceId channelId input =>
    refine iff_of_true (law_conclude live fun next ok => ?_) trivial
    obtain ⟨event, handled⟩ := exists_of_map_fst ok
    exact categoriesLive_move live handled
  | reorderChannels workspaceId items =>
    have exact : ∀ next, (reorderChannels db workspaceId items).map Prod.fst = .ok next →
        (CategoriesLive next ↔ ∀ item ∈ requestedItems db workspaceId items, ∀ categoryId,
          item.2 = some categoryId → categoryIsLive db workspaceId categoryId = true) := by
      intro next ok
      obtain ⟨event, reordered⟩ := exists_of_map_fst ok
      exact categoriesLive_reorder live reordered
    apply (law_conclude_iff live exact).trans
    rw [isOk_map_fst]
    rfl

theorem keepsChannels_resume (db : Database) (workspaceId : WorkspaceId) (categoryId : CategoryId)
    (now : DateTime) :
    KeepsChannels db ((CategoryTask.removeCategory workspaceId categoryId now).resume db).1 := by
  simp only [CategoryTask.resume]
  cases removed : remove db workspaceId categoryId now with
  | error failure => exact .refl db
  | ok next => exact keepsChannels_remove removed

variable {start : Database}

/-- Every live channel stays in a live category in the runs in which channels are created while
their category is there and reorders name live categories of the workspace. -/
theorem channels_in_live_categories_iff (live : CategoriesLive start)
    (labels : List (Label CategoryTask (WorkspaceId × CategoryRequest)))
    (finish : EventLoop.State Database CategoryTask) :
    Steps KeepsCategories ⟨start, []⟩ labels finish ↔
      Steps (Guarded (Step categoryLoop) (OnResume NamesLiveCategories)) ⟨start, []⟩ labels
        finish := by
  refine Steps.congr_within (fun state => CategoriesLive state.shared) ?_ ?_ live
  · exact fun transition _ => transition.2.1
  · intro state label next liveNow
    constructor
    · rintro ⟨transition, liveNext, -⟩
      refine ⟨transition, ?_⟩
      cases transition with
      | resume before task after => exact (categoriesLive_resume_iff liveNow task).mp liveNext
      | accept accepted => trivial
    · rintro ⟨transition, guarded⟩
      refine ⟨transition, ?_⟩
      cases transition with
      | resume before task after =>
        refine ⟨(categoriesLive_resume_iff liveNow task).mpr guarded, ?_⟩
        intro waiting workspaceId categoryId now later same
        cases same
        exact keepsChannels_resume _ workspaceId categoryId now
      | accept accepted =>
        obtain ⟨rfl, -⟩ := accepted
        refine ⟨liveNow, fun _ _ _ _ _ impossible => ?_⟩
        cases impossible

/-- A workspace with a channel outside of categories and one category. -/
def oneCategory : Database :=
  { Database.withoutRoles .empty
      ⟨[{ id := ⟨1⟩, workspaceId := some ⟨1⟩, name := "general", position := 0, createdAt := 0 }],
        by decide⟩ .empty with
    categories := ⟨[{ id := ⟨1⟩, workspaceId := ⟨1⟩, name := "team", position := 0, createdAt := 0 }],
      by decide⟩ }

theorem categoriesLive_oneCategory : CategoriesLive oneCategory := by
  intro channel present _ categoryId under
  obtain rfl := mem_singleton.mp present
  cases under

/-- A check that is enough for the condition. -/
def allowsNames (db : Database) : CategoryTask → Bool
  | .createChannel workspaceId _ _ _ _ input =>
    input.categoryId.all (categoryIsLive db workspaceId)
  | .reorderChannels _ _ => false
  | _ => true

theorem namesLiveCategories_of_allowsNames (db : Database) (task : CategoryTask)
    (allowed : allowsNames db task = true) : NamesLiveCategories db task := by
  cases task with
  | createChannel workspaceId actorId newId position createdAt input =>
    intro _ categoryId named
    rw [allowsNames, named] at allowed
    exact allowed
  | reorderChannels => cases allowed
  | _ => trivial

def acceptCall (db : Database) (call : WorkspaceId × CategoryRequest) :
    Database × List CategoryTask :=
  (db, [call.2.starts call.1])

theorem categoryLoop_accepts (db : Database) (call : WorkspaceId × CategoryRequest) :
    categoryLoop.Accepts db call (acceptCall db call).1 (acceptCall db call).2 :=
  ⟨rfl, rfl⟩

def createInCategory : WorkspaceId × CategoryRequest :=
  (⟨1⟩, .createChannel ⟨1⟩ ⟨2⟩ 1 { name := "random", categoryId := some ⟨1⟩ })

def removeOneCategory : WorkspaceId × CategoryRequest :=
  (⟨1⟩, .removeCategory ⟨1⟩ 2)

/-- A channel is created in the category, and freed when the category goes. -/
theorem channel_freed : ∃ labels finish,
    Steps KeepsCategories ⟨oneCategory, []⟩ labels finish ∧
      finish.shared.channels.rows.map (·.categoryId) = [none, none] := by
  exact exists_onResume_of_play ⟨oneCategory, []⟩ categoryLoop_accepts
    namesLiveCategories_of_allowsNames
    (channels_in_live_categories_iff categoriesLive_oneCategory _ _).mpr
    [.accept createInCategory, .run 0, .run 0, .run 0, .accept removeOneCategory, .run 0]
    (by decide +kernel)

/-- The category goes between the check and the transaction of a new channel, which ends in a
category that is deleted. -/
theorem channel_created_in_deleted_category : CategoriesLive oneCategory ∧ ∃ labels finish,
    Steps (Step categoryLoop) ⟨oneCategory, []⟩ labels finish ∧ ¬CategoriesLive finish.shared := by
  refine ⟨categoriesLive_oneCategory, ?_⟩
  obtain ⟨labels, finish, steps, channel, present, notDeleted, under, gone, here⟩ :=
    exists_steps_of_play ⟨oneCategory, []⟩ categoryLoop_accepts
      [.accept createInCategory, .run 0, .run 0, .accept removeOneCategory, .run 1, .run 0]
      (P := fun finish => ∃ channel ∈ finish.shared.channels.rows, channel.deletedAt = none ∧
        channel.categoryId = some ⟨1⟩ ∧ categoryIsLive finish.shared ⟨1⟩ ⟨1⟩ = false ∧
          channel.workspaceId = some ⟨1⟩) (by decide +kernel)
  refine ⟨labels, finish, steps, fun live => ?_⟩
  obtain ⟨_, sameWorkspace, isLive⟩ :=
    categoriesLive_iff.mp live channel present notDeleted ⟨1⟩ under
  obtain rfl := Option.some.inj (here.symm.trans sameWorkspace)
  rw [gone] at isLive
  cases isLive

end Bongtalk.Channels
