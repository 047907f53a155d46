import Bongtalk.Channels.Permission.BatchVisibility

/-!
# The channel list of a workspace

The sidebar decides on its own which private channels it lists: any matching row
with a nonzero allow mask will do, and denials are not looked at.
-/

namespace Bongtalk.Channels

open Library Auth Channels.Permission Prisma List

/-- A category with the channels listed under it. -/
structure CategoryListing where
  category : Category
  channels : List Channel

/-- The answer of `listByWorkspace`, each channel with its whole row. -/
structure ChannelListing where
  categories : List CategoryListing
  uncategorized : List Channel

/-- A channel is listed under a category or outside of them. -/
def ChannelListing.Lists (listing : ChannelListing) (channel : Channel) : Prop :=
  channel ∈ listing.uncategorized ∨ ∃ entry ∈ listing.categories, channel ∈ entry.channels

/-- `orderBy: [{ categoryId: 'asc' }, { position: 'asc' }]`, nulls last. -/
def channelOrder (first second : Channel) : Bool :=
  match first.categoryId, second.categoryId with
  | some firstCategory, some secondCategory =>
    firstCategory.value < secondCategory.value ||
      (firstCategory == secondCategory && first.position ≤ second.position)
  | some _, none => true
  | none, some _ => false
  | none, none => first.position ≤ second.position

/-- The private channels on which some row allows the caller anything. -/
def overrideHits (db : Database) (privateIds : List ChannelId) (callerId : UserId)
    (workspaceId : WorkspaceId) (memberRow : Option WorkspaceMember) : List ChannelId :=
  let roles := match memberRow with
    | some member => rolePrincipals member.role (db.roleIdsOf workspaceId callerId)
    | none => []
  (db.overrides.findMany fun row =>
    privateIds.contains row.channelId && decide (0 < row.allowMask.value) &&
      matchesPrincipal callerId roles row.principal).map (·.channelId)

/-- The channels a caller sees; without a caller every channel is listed. -/
def visibleChannels (db : Database) (workspaceId : WorkspaceId) (callerId : Option UserId)
    (channels : List Channel) : List Channel :=
  match callerId with
  | none => channels
  | some callerId =>
    let memberRow := db.findMember workspaceId callerId
    let privateIds := (channels.filter (·.isPrivate)).map (·.id)
    if memberRow.map (·.role) = some .owner then channels
    else
      let hits := overrideHits db privateIds callerId workspaceId memberRow
      channels.filter fun channel => !channel.isPrivate || hits.contains channel.id

def listByWorkspace (db : Database) (workspaceId : WorkspaceId) (callerId : Option UserId) :
    ChannelListing :=
  let categories := (db.categories.findMany fun row =>
    row.workspaceId == workspaceId && row.deletedAt == none).insertionSort
      fun first second => first.position ≤ second.position
  let channels := (db.channels.findMany fun row =>
    row.workspaceId == some workspaceId && row.deletedAt == none && row.type != .direct).insertionSort
      fun first second => channelOrder first second = true
  let visible := visibleChannels db workspaceId callerId channels
  { categories := categories.map fun category =>
      ⟨category, visible.filter (·.categoryId == some category.id)⟩
    uncategorized := visible.filter (·.categoryId == none) }

/-- A channel the list is about: live, not a direct channel, and outside of categories or in a
live category of the workspace. -/
def Listable (db : Database) (workspaceId : WorkspaceId) (channel : Channel) : Prop :=
  channel.deletedAt = none ∧ channel.type ≠ .direct ∧
    (channel.categoryId = none ∨ ∃ category ∈ db.categories,
      channel.categoryId = some category.id ∧ category.workspaceId = workspaceId ∧
        category.deletedAt = none)

/-- Some row of the caller on the channel allows anything at all. -/
def AnythingAllowed (overrides : List ChannelPermissionOverride) (channelId : ChannelId)
    (userId : UserId) (roles : List Principal) : Prop :=
  ∃ row ∈ overrides, row.channelId = channelId ∧ 0 < row.allowMask.value ∧
    (row.principal = .user userId ∨ row.principal ∈ roles)

variable {workspaceId : WorkspaceId} {callerId : UserId} {member : WorkspaceMember}

theorem mem_overrideHits {db : Database} {privateIds : List ChannelId}
    (found : db.findMember workspaceId callerId = some member) {channelId : ChannelId} :
    channelId ∈ overrideHits db privateIds callerId workspaceId (some member) ↔
      channelId ∈ privateIds ∧ AnythingAllowed db.overrides.rows channelId callerId
        (loadMember db member).principals := by
  obtain ⟨-, keyed⟩ := Table.mem_of_findUnique found
  cases keyed
  simp only [overrideHits, matchesPrincipal, principals_loadMember, AnythingAllowed, mem_map,
    Table.mem_findMany, Table.mem_def, Bool.and_eq_true, Bool.or_eq_true, beq_iff_eq,
    contains_eq_mem, decide_eq_true_eq]
  constructor
  · rintro ⟨row, ⟨present, ⟨isListed, allows⟩, own | ⟨-, held⟩⟩, rfl⟩
    · exact ⟨isListed, row, present, rfl, allows, .inl own⟩
    · exact ⟨isListed, row, present, rfl, allows, .inr held⟩
  · rintro ⟨isListed, row, present, rfl, allows, own | held⟩
    · exact ⟨row, ⟨present, ⟨isListed, allows⟩, .inl own⟩, rfl⟩
    · exact ⟨row, ⟨present, ⟨isListed, allows⟩, .inr ⟨isRole_of_mem_rolePrincipals held, held⟩⟩,
        rfl⟩

/-- Among the queried channels a member is shown a private one as the owner, or when some row
allows it anything. -/
theorem mem_visibleChannels {db : Database}
    (found : db.findMember workspaceId callerId = some member) {channels : List Channel}
    {channel : Channel} (isPrivate : channel.isPrivate = true) :
    channel ∈ visibleChannels db workspaceId (some callerId) channels ↔
      channel ∈ channels ∧ (member.role = .owner ∨
        AnythingAllowed db.overrides.rows channel.id callerId
          (loadMember db member).principals) := by
  simp only [visibleChannels, found, Option.map_some, Option.some.injEq]
  split
  next owner => simp [owner]
  next notOwner =>
    simp only [mem_filter, isPrivate, Bool.not_true, Bool.false_or, contains_eq_mem,
      decide_eq_true_eq, mem_overrideHits found, notOwner, false_or]
    refine and_congr_right fun queried => and_iff_right ?_
    exact mem_map.mpr ⟨channel, mem_filter.mpr ⟨queried, isPrivate⟩, rfl⟩

/-- A private channel of the workspace is listed for a member when it is listable and shown. -/
theorem listByWorkspace_lists_iff {db : Database}
    (found : db.findMember workspaceId callerId = some member) {channel : Channel}
    (present : channel ∈ db.channels) (here : channel.workspaceId = some workspaceId)
    (isPrivate : channel.isPrivate = true) :
    (listByWorkspace db workspaceId (some callerId)).Lists channel ↔
      Listable db workspaceId channel ∧ (member.role = .owner ∨
        AnythingAllowed db.overrides.rows channel.id callerId
          (loadMember db member).principals) := by
  simp only [ChannelListing.Lists, listByWorkspace, mem_map, exists_exists_and_eq_and,
    mem_filter, mem_insertionSort, Table.mem_findMany, mem_visibleChannels found isPrivate,
    present, here, Listable, Bool.and_eq_true, beq_iff_eq, bne_iff_ne, ne_eq, true_and]
  constructor
  · rintro (⟨⟨⟨live, notDirect⟩, shown⟩, uncategorized⟩ |
      ⟨category, ⟨categoryMem, categoryHere, categoryLive⟩, ⟨⟨live, notDirect⟩, shown⟩, under⟩)
    · exact ⟨⟨live, notDirect, .inl uncategorized⟩, shown⟩
    · exact ⟨⟨live, notDirect, .inr ⟨category, categoryMem, under, categoryHere, categoryLive⟩⟩,
        shown⟩
  · rintro ⟨⟨live, notDirect, uncategorized |
      ⟨category, categoryMem, under, categoryHere, categoryLive⟩⟩, shown⟩
    · exact .inl ⟨⟨⟨live, notDirect⟩, shown⟩, uncategorized⟩
    · exact .inr ⟨category, ⟨categoryMem, categoryHere, categoryLive⟩,
        ⟨⟨live, notDirect⟩, shown⟩, under⟩

/-- The list shows a private channel exactly to its readers when no row grants less than `READ`
and no denial is passed over. A channel outside the list must not be readable at all. -/
theorem listByWorkspace_exact_iff {db : Database} {workspaceId : WorkspaceId} {callerId : UserId}
    {member : WorkspaceMember} (found : db.findMember workspaceId callerId = some member)
    {channel : Channel} (present : channel ∈ db.channels)
    (here : channel.workspaceId = some workspaceId) (isPrivate : channel.isPrivate = true) :
    let principals := (loadMember db member).principals
    let Allowed := ReadAllowed db.overrides.rows channel.id callerId principals
    let Denied := ReadDenied db.overrides.rows channel.id callerId principals
    let OwnerReads := member.role = .owner ∧ RolesRead (loadMember db member)
    ((listByWorkspace db workspaceId (some callerId)).Lists channel ↔
        hasPermission (computeEffectiveForMember db.overrides.rows none channel callerId
          (loadMember db member)) Permission.read = true) ↔
      (Listable db workspaceId channel →
          (member.role = .owner ∨
            AnythingAllowed db.overrides.rows channel.id callerId principals) →
        (Allowed ∨ OwnerReads) ∧ ¬Denied) ∧
      (¬Listable db workspaceId channel → Allowed ∨ OwnerReads → Denied) := by
  intro principals Allowed Denied OwnerReads
  have reads : hasPermission (computeEffectiveForMember db.overrides.rows none channel callerId
      (loadMember db member)) Permission.read = true ↔ ¬Denied ∧ (Allowed ∨ OwnerReads) := by
    rw [computeEffectiveForMember_read]
    simp only [isPrivate, Bool.true_eq_false, false_or]
    rfl
  -- A row that allows `READ` allows something, so only the other direction can fail.
  have shownOfReads : Allowed ∨ OwnerReads → member.role = .owner ∨
      AnythingAllowed db.overrides.rows channel.id callerId principals := by
    have anything : ∀ row ∈ db.overrides.rows, row.channelId = channel.id →
        row.allowMask.value.testBit 0 = true →
        (row.principal = .user callerId ∨ row.principal ∈ principals) →
        AnythingAllowed db.overrides.rows channel.id callerId principals := by
      intro row rowMem channelEq allows principalOf
      refine ⟨row, rowMem, channelEq, Nat.pos_of_ne_zero ?_, principalOf⟩
      intro zero
      simp [zero] at allows
    rintro ((⟨row, rowMem, channelEq, own, allows⟩ | ⟨row, rowMem, channelEq, held, allows⟩) |
      ownerReads)
    · exact .inr (anything row rowMem channelEq allows (.inl own))
    · exact .inr (anything row rowMem channelEq allows (.inr held))
    · exact .inl ownerReads.1
  rw [listByWorkspace_lists_iff found present here isPrivate, reads]
  by_cases listable : Listable db workspaceId channel
  · simp only [listable, true_and, forall_const, not_true_eq_false, false_implies, and_true]
    exact ⟨fun exact_ shown => (exact_.mp shown).symm,
      fun condition => ⟨fun shown => (condition shown).symm, fun granted => shownOfReads granted.2⟩⟩
  · simp only [listable, false_and, false_iff, not_and, forall_const, not_false_eq_true,
      false_implies, true_and]
    exact ⟨fun unread granted => not_not.mp fun undenied => unread undenied granted,
      fun denied undenied granted => undenied (denied granted)⟩

/-- A member whose row allows only the slow mode bypass is shown a channel it cannot read. -/
theorem listByWorkspace_reveals_without_read :
    ¬∀ (db : Database) (workspaceId : WorkspaceId) (callerId : UserId) (member : WorkspaceMember)
        (channel : Channel), db.findMember workspaceId callerId = some member →
      channel ∈ db.channels → channel.workspaceId = some workspaceId → channel.isPrivate = true →
      ((listByWorkspace db workspaceId (some callerId)).Lists channel ↔
        hasPermission (computeEffectiveForMember db.overrides.rows none channel callerId
          (loadMember db member)) Permission.read = true) := by
  intro exact_
  let channel : Channel :=
    { id := ⟨1⟩, workspaceId := some ⟨1⟩, name := "board", position := 0, isPrivate := true,
      createdAt := 0 }
  let db : Database := .withoutRoles ⟨[⟨⟨1⟩, ⟨2⟩, .member⟩], by decide⟩ ⟨[channel], by decide⟩
    ⟨[⟨⟨1⟩, .user ⟨2⟩, ⟨Permission.bypassSlowmode.toNat, by decide⟩, .none⟩], by decide⟩
  have listed : (listByWorkspace db ⟨1⟩ (some ⟨2⟩)).Lists channel := by
    refine .inl ?_
    decide
  have reads := (exact_ db ⟨1⟩ ⟨2⟩ ⟨⟨1⟩, ⟨2⟩, .member⟩ channel (by decide)
    mem_cons_self rfl rfl).mp listed
  revert reads
  decide

/-- A member whose only row allows `READ` is shown the channel and reads it. -/
theorem listByWorkspace_exact_on_grant :
    let channel : Channel :=
      { id := ⟨1⟩, workspaceId := some ⟨1⟩, name := "board", position := 0, isPrivate := true,
        createdAt := 0 }
    let db : Database := .withoutRoles ⟨[⟨⟨1⟩, ⟨2⟩, .member⟩], by decide⟩ ⟨[channel], by decide⟩
      ⟨[⟨⟨1⟩, .user ⟨2⟩, .read, .none⟩], by decide⟩
    (listByWorkspace db ⟨1⟩ (some ⟨2⟩)).Lists channel ↔
      hasPermission (computeEffectiveForMember db.overrides.rows none channel ⟨2⟩
        (loadMember db ⟨⟨1⟩, ⟨2⟩, .member⟩)) Permission.read = true := by
  intro channel db
  have listable : Listable db ⟨1⟩ channel := ⟨rfl, by decide, .inl rfl⟩
  refine (listByWorkspace_exact_iff (by decide) mem_cons_self rfl rfl).mpr
    ⟨fun _ _ => ?_, fun excluded => absurd listable excluded⟩
  decide

end Bongtalk.Channels
