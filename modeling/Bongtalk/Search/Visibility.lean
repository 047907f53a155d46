import Bongtalk.Search.SearchService

/-!
# Search sees what the member reads

The batched computation gives every searchable channel the mask that the check of a single
channel computes. What a search returns comes from the channels whose mask holds `READ`.
-/

namespace Bongtalk.Search

open Library Auth Channels.Permission Common Messages List
open Prisma Workspaces.Roles

/-- A channel that the member reads and a search may look into. -/
def Readable (db : Database) (workspaceId : WorkspaceId) (userId : UserId)
    (channelId : ChannelId) : Prop :=
  ∃ channel ∈ db.channels, channel.id = channelId ∧ channel.workspaceId = some workspaceId ∧
    channel.deletedAt = none ∧ channel.archivedAt = none ∧
    ∃ member, db.findMember workspaceId userId = some member ∧
      hasPermission (computeEffectiveForMember db.overrides.rows none channel userId
        (loadMember db member)) Permission.read = true

section Masks

/-- The union of the held roles is the mask that the resolver makes of them. -/
theorem enforcementBase_eq (member : MemberWithRoles) :
    enforcementBase member = computeEnforcementBase member := by
  rcases member with ⟨role, memberRoles⟩
  cases memberRoles with
  | nil => rfl
  | cons first rest =>
    simp only [enforcementBase, computeEnforcementBase, map_cons, length_cons,
      Nat.add_eq_zero_iff, one_ne_zero, and_false, if_false,
      resolveChannelPermissions_no_overwrites]
    simp [resolveWorkspacePermissions, Masks.unionFrom, foldl_map]

variable {db : Database} (rows : List ChannelPermissionOverride) {channel : Channel}

/-- What the loop over some rows adds to an accumulator. -/
theorem foldl_addOverride (acc : Tiers Mask) :
    rows.foldl addOverride acc =
      { groupAllow := Masks.orFrom acc.groupAllow (fun row => number row.allowMask)
          (rows.filter (·.principal.isRole))
        groupDeny := Masks.orFrom acc.groupDeny (fun row => number row.denyMask)
          (rows.filter (·.principal.isRole))
        ownAllow := Masks.orFrom acc.ownAllow (fun row => number row.allowMask)
          (rows.filter (·.principal.isUser))
        ownDeny := Masks.orFrom acc.ownDeny (fun row => number row.denyMask)
          (rows.filter (·.principal.isUser)) } := by
  induction rows generalizing acc with
  | nil => rfl
  | cons row rows ih =>
    rw [foldl_cons, ih]
    by_cases own : row.principal.isUser = true
    · simp [addOverride, Principal.isRole, own]
    · simp [addOverride, Principal.isRole, own]

/-- The accumulator of a channel holds the tiers of its own rows. -/
theorem getD_byChannel (channelId : ChannelId) :
    (byChannel rows channelId).getD noMasks =
      overrideTiers (rows.filter fun row => row.channelId == channelId) := by
  rw [byChannel, getD_groupRows, foldl_addOverride]
  rfl

variable {workspaceId : WorkspaceId}

/-- Of a searchable channel the one query loads the rows that the query of its own would load. -/
theorem filter_searchOverrides (present : channel ∈ db.channels)
    (searchable : isSearchable workspaceId channel = true) (userId : UserId)
    (roles : List Principal) :
    ((searchOverrides db workspaceId userId roles).filter fun row =>
        row.channelId == channel.id) =
      matchingOverrides db.overrides.rows channel.id userId roles := by
  rw [searchOverrides, Table.findMany, filter_filter]
  refine filter_congr fun row _ => ?_
  by_cases same : row.channelId = channel.id
  · have found := Table.findUnique_of_mem present
    simp [same, found, searchable]
  · have other : (row.channelId == channel.id) = false := beq_false_of_ne same
    simp only [other, Bool.false_and]

/-- The batched mask of a searchable channel is its effective mask. -/
theorem searchMask_eq (present : channel ∈ db.channels)
    (searchable : isSearchable workspaceId channel = true) (userId : UserId)
    (member : MemberWithRoles) :
    searchMask member (searchOverrides db workspaceId userId member.principals) channel =
      computeEffectiveForMember db.overrides.rows none channel userId member := by
  simp only [searchMask, getD_byChannel, filter_searchOverrides present searchable,
    enforcementBase_eq, computeEffectiveForMember, MemberWithRoles.principals]

/-- The visible channels are the readable ones. -/
theorem mem_visibleChannelIds {userId : UserId} {channelId : ChannelId} :
    channelId ∈ visibleChannelIds db workspaceId userId ↔
      Readable db workspaceId userId channelId := by
  unfold visibleChannelIds Readable
  cases found : db.findMember workspaceId userId with
  | none => simp
  | some member =>
    simp only [mem_map, mem_filter, Table.mem_findMany, Option.some.injEq, exists_eq_left']
    constructor
    · rintro ⟨channel, ⟨⟨present, searchable⟩, reads⟩, rfl⟩
      rw [searchMask_eq present searchable] at reads
      simp only [isSearchable, Bool.and_eq_true, beq_iff_eq] at searchable
      exact ⟨channel, present, rfl, searchable.1.1, searchable.1.2, searchable.2, reads⟩
    · rintro ⟨channel, present, rfl, here, live, open_, reads⟩
      have searchable : isSearchable workspaceId channel = true := by
        simp [isSearchable, here, live, open_]
      refine ⟨channel, ⟨⟨present, searchable⟩, ?_⟩, rfl⟩
      rw [searchMask_eq present searchable]
      exact reads

end Masks

section Results

variable {Rank : Type} {texts : SearchText Rank}

variable {tables : SearchTables} {visibleIds : List ChannelId}

variable {channelId : ChannelId}

/-- A name is looked up with `id: { in: … }`, so it stands for a visible channel. -/
theorem mem_of_resolveVisibleChannelByName {name : String} {workspaceId : WorkspaceId}
    (resolved : resolveVisibleChannelByName texts tables visibleIds name workspaceId = some
      channelId) :
    channelId ∈ visibleIds := by
  unfold resolveVisibleChannelByName at resolved
  split at resolved
  · cases resolved
  obtain ⟨channel, first, rfl⟩ := Option.map_eq_some_iff.mp resolved
  have listed := Table.mem_findMany.mp (mem_of_mem_head? first)
  simp only [Bool.and_eq_true, contains_eq_mem, decide_eq_true_eq] at listed
  exact listed.2.1.2

variable {args : SearchArgs}

/-- Narrowing leaves visible channels only. -/
theorem mem_of_narrowChannels {parsed : ParsedSearchQuery}
    (left : channelId ∈ narrowChannels texts tables args parsed visibleIds) :
    channelId ∈ visibleIds := by
  have ofChannel : channelId ∈ narrowToChannel args visibleIds → channelId ∈ visibleIds := by
    intro narrowed
    unfold narrowToChannel at narrowed
    split at narrowed
    · exact narrowed
    · exact mem_of_mem_filter narrowed
  apply ofChannel
  unfold narrowChannels at left
  split at left
  · exact left
  · exact mem_of_resolveVisibleChannelByName (Option.mem_toList.mp left)

variable {db : Database} {workspaceId : WorkspaceId} {row : SearchResultRow Rank}
  {messageId : MessageId}

/-- A page holds rows of the given channels only. -/
theorem channelId_of_mem_assemblePage {q : String} {fetched : List (FetchedRow Rank)}
    (listed : row ∈ (assemblePage texts args q visibleIds fetched).results) :
    row.channelId ∈ visibleIds := by
  obtain ⟨source, taken, rfl⟩ := mem_map.mp listed
  have kept := (mem_filter.mp (mem_of_mem_take taken)).2
  rw [contains_eq_mem, decide_eq_true_eq] at kept
  exact kept

variable [LinearOrder Rank]

/-- The results of a search lie in visible channels. -/
theorem channelId_of_search {page : SearchPage (SearchResultRow Rank)}
    (found : search texts db tables args = .ok page) (listed : row ∈ page.results) :
    row.channelId ∈ visibleChannelIds db args.workspaceId args.userId := by
  unfold search at found
  dsimp only at found
  split at found
  · cases found
    cases listed
  · obtain ⟨cursor, -, found⟩ := bind_eq_ok.mp found
    split at found
    · cases found
      cases listed
    · split at found
      · cases found
        cases listed
      · cases found
        exact mem_of_narrowChannels (channelId_of_mem_assemblePage listed)

/-- What a result shows around itself is of channels that the member reads. -/
structure ContextReadable (texts : SearchText Rank) (db : Database) (tables : SearchTables)
    (workspaceId : WorkspaceId) (userId : UserId) (row : SearchContextRow Rank) : Prop where
  neighbors : ∀ neighbor, row.contextBefore = some neighbor ∨ row.contextAfter = some neighbor →
    ∀ messageId, neighbor.messageId = some messageId →
      ∃ message ∈ tables.messages, message.id = messageId ∧
        Readable db workspaceId userId message.channelId
  root : ∀ excerpt, row.threadRootExcerpt = some excerpt →
    ∃ root ∈ tables.messages, Readable db workspaceId userId root.channelId ∧
      excerpt = texts.contextText root.contentPlain

variable {page : SearchPage (SearchContextRow Rank)}

/-- The results of a search with context lie in visible channels. -/
theorem channelId_of_searchWithContext {db again : Database} {tables later : SearchTables}
    (found : searchWithContext texts db again tables later args = .ok page)
    {row : SearchContextRow Rank} (listed : row ∈ page.results) :
    row.channelId ∈ visibleChannelIds db args.workspaceId args.userId := by
  obtain ⟨base, searched, found⟩ := bind_eq_ok.mp found
  cases found
  obtain ⟨result, resultMem, rfl⟩ := mem_map.mp listed
  exact channelId_of_search searched resultMem

omit [LinearOrder Rank] in
/-- A neighbour that shows a message shows one of a visible channel. -/
theorem visible_of_neighborMessage {pivot : Position} {direction : Direction}
    {neighbor : SearchContextMessageRow}
    (shown : neighborMessage texts tables channelId pivot direction visibleIds = some neighbor)
    (identified : neighbor.messageId = some messageId) :
    ∃ message ∈ tables.messages, message.id = messageId ∧ message.channelId ∈ visibleIds := by
  unfold neighborMessage at shown
  split at shown
  · cases shown
    cases identified
  · next visible =>
      obtain ⟨message, first, rfl⟩ := Option.map_eq_some_iff.mp shown
      have listed := Table.mem_findMany.mp (mem_orderBy.mp (mem_of_mem_head? first))
      have here : message.channelId = channelId := by
        have condition := listed.2
        simp only [isNeighbor, Bool.and_eq_true, beq_iff_eq] at condition
        exact condition.1.1
      refine ⟨message, listed.1, Option.some.inj identified, ?_⟩
      rw [here]
      simpa using visible

omit [LinearOrder Rank] in
/-- An excerpt of a root is one of a message of a visible channel. -/
theorem visible_of_threadRootExcerpt {excerpt : String}
    (shown : (threadRootExcerpt texts tables messageId visibleIds).2 = some excerpt) :
    ∃ root ∈ tables.messages, root.channelId ∈ visibleIds ∧
      excerpt = texts.contextText root.contentPlain := by
  unfold threadRootExcerpt at shown
  split at shown
  · cases shown
  split at shown
  · cases shown
  next root found =>
    split at shown
    · cases shown
    next visible =>
      cases shown
      simp only [Bool.or_eq_true, Bool.not_eq_true', contains_eq_mem,
        decide_eq_false_iff_not, not_or, not_not] at visible
      exact ⟨root, (Table.mem_of_findUnique found).1, visible.2, rfl⟩

/-- What the results of a search with context show around them is readable when they are shown. -/
theorem contextReadable_of_searchWithContext {db again : Database} {tables later : SearchTables}
    (found : searchWithContext texts db again tables later args = .ok page)
    {row : SearchContextRow Rank} (listed : row ∈ page.results) :
    ContextReadable texts again later args.workspaceId args.userId row := by
  obtain ⟨base, -, found⟩ := bind_eq_ok.mp found
  cases found
  obtain ⟨result, -, rfl⟩ := mem_map.mp listed
  constructor
  · intro neighbor shown messageId identified
    have one : ∃ message ∈ later.messages, message.id = messageId ∧
        message.channelId ∈ visibleChannelIds again args.workspaceId args.userId := by
      rcases shown with before | after
      · exact visible_of_neighborMessage before identified
      · exact visible_of_neighborMessage after identified
    obtain ⟨message, present, idEq, visible⟩ := one
    exact ⟨message, present, idEq, mem_visibleChannelIds.mp visible⟩
  · intro excerpt shown
    obtain ⟨root, present, visible, excerptEq⟩ := visible_of_threadRootExcerpt shown
    exact ⟨root, present, mem_visibleChannelIds.mp visible, excerptEq⟩

omit [LinearOrder Rank] in
/-- The suggested channels are visible. -/
theorem channelId_of_suggest {userId : UserId} {input : String} {limit : Option Nat}
    {entry : ChannelId × String}
    (listed : entry ∈ (suggest texts db tables workspaceId userId input limit).channels) :
    entry.1 ∈ visibleChannelIds db workspaceId userId := by
  unfold suggest at listed
  dsimp only at listed
  split at listed
  · cases listed
  obtain ⟨channel, taken, rfl⟩ := mem_map.mp listed
  have selected := Table.mem_findMany.mp ((mem_insertionSort _).mp (mem_of_mem_take taken))
  simp only [Bool.and_eq_true, contains_eq_mem, decide_eq_true_eq] at selected
  exact selected.2.1.1

end Results

/-- The channels of a search are those that the member reads, and whatever a search returns,
shows around its results or suggests lies in them. -/
theorem search_sees_what_the_member_reads {Rank : Type} [LinearOrder Rank]
    (texts : SearchText Rank) (db : Database) (workspaceId : WorkspaceId) (userId : UserId) :
    (∀ channelId, channelId ∈ visibleChannelIds db workspaceId userId ↔
        Readable db workspaceId userId channelId) ∧
      (∀ tables args page, args.workspaceId = workspaceId → args.userId = userId →
        search texts db tables args = .ok page →
          ∀ row ∈ page.results, Readable db workspaceId userId row.channelId) ∧
      (∀ again tables later args page, args.workspaceId = workspaceId → args.userId = userId →
        searchWithContext texts db again tables later args = .ok page →
          ∀ row ∈ page.results, Readable db workspaceId userId row.channelId ∧
            ContextReadable texts again later workspaceId userId row) ∧
      (∀ tables input limit,
        ∀ entry ∈ (suggest texts db tables workspaceId userId input limit).channels,
          Readable db workspaceId userId entry.1) := by
  refine ⟨fun channelId => mem_visibleChannelIds, ?_, ?_, ?_⟩
  · rintro tables args page rfl rfl found row listed
    exact mem_visibleChannelIds.mp (channelId_of_search found listed)
  · rintro again tables later args page rfl rfl found row listed
    exact ⟨mem_visibleChannelIds.mp (channelId_of_searchWithContext found listed),
      contextReadable_of_searchWithContext found listed⟩
  · intro tables input limit entry listed
    exact mem_visibleChannelIds.mp (channelId_of_suggest listed)

end Bongtalk.Search
