import Bongtalk.Channels.DirectMessages.Effects

/-!
# The members of a group

A live group always has members, not too many of them, and one of them owns it. The last member
takes the group along, and an owner who leaves is followed by whoever has been there the longest.
-/

namespace Bongtalk.Channels.DirectMessages

open Library Auth Common Prisma DmState List

/-- The active members of a channel, as a set. -/
def DmState.audience (state : DmState) (channelId : ChannelId) : Finset UserId :=
  (state.activeMembers channelId).toFinset

/-- A row is that of a member, or that of somebody who has left. -/
def DmMember.Settled (row : DmMember) : Prop :=
  row.Belongs ∨ row.allowMask = .none ∧ row.leftAt.isSome = true

/-- What holds of a group with its active members. -/
structure ChannelLaw (channel : DmChannel) (audience : Finset UserId) : Prop where
  peopled : channel.deletedAt = none → 1 ≤ audience.card
  capped : channel.deletedAt = none → audience.card ≤ groupDmMaxTotal
  owned : channel.deletedAt = none → ∃ ownerId ∈ audience, channel.ownerId = some ownerId
  deleted : channel.deletedAt.isSome = true ↔ audience = ∅

structure GroupLaw (state : DmState) : Prop where
  settled : ∀ row ∈ state.members, row.Settled
  groups : ∀ channel ∈ state.channels, channel.isGroup = true →
    ChannelLaw channel (state.audience channel.id)

/-- The rank of a row in the succession; a missing time of joining is the last of all. -/
def seniority (row : DmMember) : WithTop DateTime ×ₗ DateTime :=
  toLex (row.joinedAt, row.createdAt)

/-- The comparison of the code is the order of joining, and then that of the rows. -/
theorem succession_le_iff (first second : DmMember) :
    succession first second ≤ 0 ↔ seniority first ≤ seniority second := by
  unfold succession seniority
  rw [Prod.Lex.toLex_le_toLex]
  cases first.joinedAt with
  | none =>
    cases second.joinedAt with
    | none =>
      simp only [WithTop.none_eq_top, lt_irrefl, true_and, false_or]
      exact sub_nonpos.trans Int.ofNat_le
    | some secondJoined =>
      simp only [WithTop.none_eq_top, WithTop.some_eq_coe, not_top_lt, WithTop.top_ne_coe,
        false_and, or_false, iff_false]
      omega
  | some firstJoined =>
    cases second.joinedAt with
    | none =>
      simp only [WithTop.none_eq_top, WithTop.some_eq_coe, WithTop.coe_lt_top, true_or, iff_true]
      omega
    | some secondJoined =>
      simp only [WithTop.some_eq_coe, WithTop.coe_lt_coe, WithTop.coe_inj]
      split
      next different =>
        have strict : firstJoined ≤ secondJoined ↔ firstJoined < secondJoined :=
          ⟨fun within => lt_of_le_of_ne within different, le_of_lt⟩
        rw [sub_nonpos, Int.ofNat_le, strict]
        simp [different]
      next same =>
        obtain rfl := not_not.mp same
        simp only [lt_irrefl, true_and, false_or]
        exact sub_nonpos.trans Int.ofNat_le

namespace DmMember.Settled

variable {row : DmMember}

theorem active_iff (settled : row.Settled) : row.active = true ↔ row.leftAt = none := by
  rcases settled with belongs | ⟨-, left⟩
  · simp [belongs.active, belongs.present]
  obtain ⟨leftAt, leftEq⟩ := Option.isSome_iff_exists.mp left
  simp [active, leftEq]

theorem mask_eq_zero_iff (settled : row.Settled) :
    row.allowMask.value = 0 ↔ row.leftAt.isSome = true := by
  rcases settled with belongs | ⟨mask, left⟩
  · have held := dmAllowMask_pos.ne'
    simp [belongs.allow, belongs.present, held]
  · simp [mask, left, OverrideMask.none]

theorem reads_iff (settled : row.Settled) : row.reads = true ↔ row.leftAt = none := by
  rcases settled with belongs | ⟨mask, left⟩
  · simp [belongs.reads, belongs.present]
  obtain ⟨leftAt, leftEq⟩ := Option.isSome_iff_exists.mp left
  simp [reads, mask, leftEq, number, OverrideMask.none, hasPermission, Permission.read]

end DmMember.Settled

section Audience

variable {state next : DmState}

variable {channelId : ChannelId}

theorem mem_audience {userId : UserId} :
    userId ∈ state.audience channelId ↔
      ∃ row ∈ state.members, row.channelId = channelId ∧ row.userId = userId ∧
        row.active = true := by
  rw [audience, mem_toFinset, mem_activeMembers]

theorem card_audience (state : DmState) (channelId : ChannelId) :
    (state.audience channelId).card = (state.activeMembers channelId).length :=
  toFinset_card_of_nodup (state.nodup_activeMembers channelId)

theorem audience_eq_empty_iff : state.audience channelId = ∅ ↔ state.activeRows channelId = [] := by
  rw [audience, toFinset_eq_empty_iff, activeMembers, map_eq_nil_iff]

theorem audience_opens {channel : DmChannel} {userIds : List UserId} {row : UserId → DmMember}
    (opens : Opens state channel userIds row next) (channelId : ChannelId) :
    next.audience channelId =
      if channelId = channel.id then userIds.toFinset else state.audience channelId := by
  ext userId
  rw [mem_audience]
  split
  next opened =>
    subst opened
    rw [mem_toFinset]
    constructor
    · rintro ⟨other, otherMem, sameChannel, sameUser, -⟩
      rcases (opens.members other).mp otherMem with ⟨newId, named, rfl⟩ | before
      · rwa [← sameUser, (opens.rows newId).2.1]
      obtain ⟨old, oldMem, idEq⟩ := state.memberChannel other before
      exact absurd (idEq.trans sameChannel) (opens.fresh old oldMem)
    · intro named
      obtain ⟨ofChannel, ofUser, belongs, -⟩ := opens.rows userId
      exact ⟨row userId, (opens.members _).mpr (.inl ⟨userId, named, rfl⟩), ofChannel, ofUser,
        belongs.active⟩
  next elsewhere =>
    rw [mem_audience]
    constructor
    · rintro ⟨other, otherMem, sameChannel, rest⟩
      rcases (opens.members other).mp otherMem with ⟨newId, -, rfl⟩ | before
      · exact absurd (sameChannel.symm.trans (opens.rows newId).1) elsewhere
      · exact ⟨other, before, sameChannel, rest⟩
    · rintro ⟨other, before, rest⟩
      exact ⟨other, (opens.members other).mpr (.inr before), rest⟩

theorem audience_joins {now : DateTime} {createdAt : UserId → DateTime} {userIds : List UserId}
    (joins : Joins state channelId now createdAt userIds next) (nodup : userIds.Nodup)
    (other : ChannelId) :
    next.audience other =
      if other = channelId then state.audience other ∪ userIds.toFinset
      else state.audience other := by
  ext userId
  rw [mem_audience, joins.members]
  simp only [mem_joinMembers _ _ _ _ nodup]
  split
  next joinedChannel =>
    subst joinedChannel
    rw [Finset.mem_union, mem_toFinset, mem_audience]
    constructor
    · rintro ⟨row, ⟨newId, named, rfl⟩ | ⟨before, -⟩, sameChannel, sameUser, active⟩
      · rw [(joined_key _ _ _ _ newId).2] at sameUser
        exact .inr (sameUser ▸ named)
      · exact .inl ⟨row, before, sameChannel, sameUser, active⟩
    · intro member
      by_cases named : userId ∈ userIds
      · obtain ⟨ofChannel, ofUser⟩ := joined_key state.members other now createdAt userId
        exact ⟨_, .inl ⟨userId, named, rfl⟩, ofChannel, ofUser,
          (joined_belongs _ _ _ _ userId).active⟩
      · obtain ⟨row, before, sameChannel, sameUser, active⟩ := member.resolve_right named
        refine ⟨row, .inr ⟨before, ?_⟩, sameChannel, sameUser, active⟩
        exact fun again => named (sameUser ▸ again.2)
  next elsewhere =>
    rw [mem_audience]
    constructor
    · rintro ⟨row, ⟨newId, -, rfl⟩ | ⟨before, -⟩, sameChannel, rest⟩
      · exact absurd (sameChannel.symm.trans (joined_key _ _ _ _ newId).1) elsewhere
      · exact ⟨row, before, sameChannel, rest⟩
    · rintro ⟨row, before, sameChannel, rest⟩
      refine ⟨row, .inr ⟨before, ?_⟩, sameChannel, rest⟩
      exact fun again => elsewhere (sameChannel.symm.trans again.1)

theorem audience_softLeave (channelId other : ChannelId) (leaverId : UserId) (now : DateTime) :
    (state.softLeave channelId leaverId now).audience other =
      if other = channelId then (state.audience other).erase leaverId
      else state.audience other := by
  ext userId
  have members : userId ∈ (state.softLeave channelId leaverId now).audience other ↔
      userId ∈ state.audience other ∧ ¬(other = channelId ∧ userId = leaverId) := by
    rw [mem_audience, mem_audience]
    simp only [mem_softLeave]
    constructor
    · rintro ⟨row, ⟨old, oldMem, rfl⟩, sameChannel, sameUser, active⟩
      by_cases leaves : old.channelId = channelId ∧ old.userId = leaverId
      · rw [if_pos leaves] at active
        simp [DmMember.softLeave, DmMember.active] at active
      · rw [if_neg leaves] at sameChannel sameUser active
        refine ⟨⟨old, oldMem, sameChannel, sameUser, active⟩, ?_⟩
        rintro ⟨rfl, rfl⟩
        exact leaves ⟨sameChannel, sameUser⟩
    · rintro ⟨⟨old, oldMem, sameChannel, sameUser, active⟩, stays⟩
      refine ⟨old, ⟨old, oldMem, if_neg ?_⟩, sameChannel, sameUser, active⟩
      rintro ⟨leftChannel, leftUser⟩
      exact stays ⟨sameChannel.symm.trans leftChannel, sameUser.symm.trans leftUser⟩
  rw [members]
  split
  next left => simp [left, and_comm]
  next elsewhere => simp [elsewhere]

theorem audience_hides (hides : Hides state next) (channelId : ChannelId) :
    next.audience channelId = state.audience channelId := by
  obtain ⟨-, hiddenAt, rows⟩ := hides
  ext userId
  rw [mem_audience, mem_audience]
  constructor
  · rintro ⟨row, rowMem, rest⟩
    obtain ⟨old, oldMem, rfl⟩ := (rows row).mp rowMem
    exact ⟨old, oldMem, rest⟩
  · rintro ⟨old, oldMem, rest⟩
    exact ⟨_, (rows _).mpr ⟨old, oldMem, rfl⟩, rest⟩

end Audience

section Settled

variable {state next : DmState} (settled : ∀ row ∈ state.members, row.Settled)

include settled

theorem settled_opens {channel : DmChannel} {userIds : List UserId} {row : UserId → DmMember}
    (opens : Opens state channel userIds row next) : ∀ row ∈ next.members, row.Settled := by
  intro other otherMem
  rcases (opens.members other).mp otherMem with ⟨userId, -, rfl⟩ | before
  · exact .inl (opens.rows userId).2.2.1
  · exact settled other before

theorem settled_joins {channelId : ChannelId} {now : DateTime} {createdAt : UserId → DateTime}
    {userIds : List UserId} (joins : Joins state channelId now createdAt userIds next)
    (nodup : userIds.Nodup) : ∀ row ∈ next.members, row.Settled := by
  intro other otherMem
  rw [joins.members, mem_joinMembers _ _ _ _ nodup] at otherMem
  rcases otherMem with ⟨userId, -, rfl⟩ | ⟨before, -⟩
  · exact .inl (joined_belongs _ _ _ _ userId)
  · exact settled other before

theorem settled_softLeave (channelId : ChannelId) (userId : UserId) (now : DateTime) :
    ∀ row ∈ (state.softLeave channelId userId now).members, row.Settled := by
  intro row rowMem
  obtain ⟨old, oldMem, rfl⟩ := mem_softLeave.mp rowMem
  split
  · exact .inr ⟨rfl, rfl⟩
  · exact settled old oldMem

theorem settled_hides (hides : Hides state next) : ∀ row ∈ next.members, row.Settled := by
  intro row rowMem
  obtain ⟨hiddenAt, rows⟩ := hides.members
  obtain ⟨old, oldMem, rfl⟩ := (rows row).mp rowMem
  rcases settled old oldMem with ⟨allow, deny, present⟩ | left
  · exact .inl ⟨allow, deny, present⟩
  · exact .inr left

end Settled

/-- A live group with an owner among its members is as it should be. -/
theorem ChannelLaw.of_owned {channel : DmChannel} {audience : Finset UserId}
    (live : channel.deletedAt = none) (capped : audience.card ≤ groupDmMaxTotal) {ownerId : UserId}
    (member : ownerId ∈ audience) (owner : channel.ownerId = some ownerId) :
    ChannelLaw channel audience where
  peopled _ := Finset.card_pos.mpr ⟨ownerId, member⟩
  capped _ := capped
  owned _ := ⟨ownerId, member, owner⟩
  deleted := by
    rw [live]
    simpa using Finset.ne_empty_of_mem member

theorem ChannelLaw.of_empty {channel : DmChannel} {audience : Finset UserId} {now : DateTime}
    (deleted : channel.deletedAt = some now) (nobody : audience = ∅) :
    ChannelLaw channel audience := by
  have notLive : channel.deletedAt ≠ none := by
    rw [deleted]
    exact Option.some_ne_none now
  exact
    { peopled := fun live => absurd live notLive
      capped := fun live => absurd live notLive
      owned := fun live => absurd live notLive
      deleted := by simp [deleted, nobody] }

/-- The first of the remaining rows is one of them, and none of them comes before it. -/
theorem first_of_succession {rows rest : List DmMember} {heir : DmMember}
    (sorted : sortWith succession rows = heir :: rest) :
    heir ∈ rows ∧ ∀ other ∈ rows, seniority heir ≤ seniority other := by
  rw [sortWith_eq_sortBy succession_le_iff] at sorted
  exact least_of_sortBy sorted

namespace GroupLaw

variable {directory : Directory} {state next : DmState}

theorem empty : GroupLaw .empty where
  settled _ rowMem := absurd rowMem not_mem_nil
  groups _ channelMem := absurd channelMem not_mem_nil

/-- A call that changes one channel and its members has to keep the law there only. -/
theorem of_one (law : GroupLaw state) (channelId : ChannelId)
    (settled : ∀ row ∈ next.members, row.Settled)
    (channels : ∀ channel ∈ next.channels, channel.id ≠ channelId → channel ∈ state.channels)
    (elsewhere : ∀ other, other ≠ channelId → next.audience other = state.audience other)
    (here : ∀ channel ∈ next.channels, channel.id = channelId → channel.isGroup = true →
      ChannelLaw channel (next.audience channelId)) : GroupLaw next where
  settled := settled
  groups channel channelMem group := by
    by_cases same : channel.id = channelId
    · rw [same]
      exact here channel channelMem same group
    · rw [elsewhere channel.id same]
      exact law.groups channel (channels channel channelMem same) group

theorem opens (law : GroupLaw state) {channel : DmChannel} {userIds : List UserId}
    {row : UserId → DmMember} (opened : Opens state channel userIds row next)
    (lawful : channel.isGroup = true → ChannelLaw channel userIds.toFinset) : GroupLaw next := by
  apply law.of_one channel.id (settled_opens law.settled opened)
  · intro other otherMem elsewhere
    rcases (opened.channels other).mp otherMem with rfl | before
    · exact absurd rfl elsewhere
    · exact before
  · intro other elsewhere
    rw [audience_opens opened, if_neg elsewhere]
  · intro other otherMem same group
    rw [audience_opens opened, if_pos rfl]
    rcases (opened.channels other).mp otherMem with rfl | before
    · exact lawful group
    · exact absurd same (opened.fresh other before)

/-- The channel that a call has found is the only one with its id. -/
theorem found_unique {channelId : ChannelId} {found channel : DmChannel}
    (foundEq : state.findDirect channelId = some found) (channelMem : channel ∈ state.channels)
    (same : channel.id = channelId) : channel = found := by
  obtain ⟨foundMem, foundId, -, -⟩ := findDirect_eq_some foundEq
  exact Table.eq_of_key_eq channelMem foundMem (same.trans foundId.symm)

section

variable (law : GroupLaw state)

include law

theorem addParticipants {call : AddParticipants} {result : AddResult}
    (ok : state.addParticipants directory call = .ok (next, result)) : GroupLaw next := by
  obtain ⟨⟨found, foundEq, group, owner⟩, withinCap, joins, -⟩ := addParticipants_eq_ok ok
  have nodup := state.nodup_newParticipants call
  obtain ⟨foundMem, foundId, -, live⟩ := findDirect_eq_some foundEq
  have before := law.groups found foundMem group
  rw [foundId] at before
  apply law.of_one call.channelId (settled_joins law.settled joins nodup)
  · intro channel channelMem _
    rwa [joins.channels] at channelMem
  · intro other elsewhere
    rw [audience_joins joins nodup, if_neg elsewhere]
  · intro channel channelMem same _
    rw [joins.channels] at channelMem
    obtain rfl := found_unique foundEq channelMem same
    rw [audience_joins joins nodup, if_pos rfl]
    have capped : (state.audience call.channelId ∪
        (state.newParticipants call).toFinset).card ≤ groupDmMaxTotal := by
      by_cases noneNew : state.newParticipants call = []
      · rw [noneNew]
        simpa using before.capped live
      · calc
          _ ≤ (state.audience call.channelId).card + (state.newParticipants call).toFinset.card :=
            Finset.card_union_le _ _
          _ = (state.activeMembers call.channelId).length + (state.newParticipants call).length := by
            rw [card_audience, toFinset_card_of_nodup nodup]
          _ ≤ groupDmMaxTotal := withinCap noneNew
    obtain ⟨ownerId, member, owner⟩ := before.owned live
    exact .of_owned live capped (Finset.mem_union_left _ member) owner

variable {channelId : ChannelId} {found : DmChannel} {userId : UserId} {now : DateTime}

/-- Somebody leaves, and the group is as it should be with the others. -/
theorem softLeave (foundEq : state.findDirect channelId = some found)
    (here : ChannelLaw found ((state.audience channelId).erase userId)) :
    GroupLaw (state.softLeave channelId userId now) := by
  apply law.of_one channelId (settled_softLeave law.settled _ _ _)
  · exact fun channel channelMem _ => channelMem
  · intro other elsewhere
    rw [audience_softLeave, if_neg elsewhere]
  · intro channel channelMem same _
    obtain rfl := found_unique foundEq channelMem same
    rwa [audience_softLeave, if_pos rfl]

/-- Somebody leaves, and the row of the group is changed to what it should be with the others. -/
theorem softLeave_updateChannel (foundEq : state.findDirect channelId = some found)
    {change : DmChannel → DmChannel} {keeps : ∀ row, (change row).id = row.id}
    (here : ChannelLaw (change found) ((state.audience channelId).erase userId)) :
    GroupLaw ((state.softLeave channelId userId now).updateChannel channelId change keeps) := by
  refine law.of_one channelId (settled_softLeave law.settled channelId userId now) ?_ ?_ ?_
  · intro channel channelMem different
    rcases mem_updateChannel.mp channelMem with ⟨old, -, same, rfl⟩ | ⟨unchanged, -⟩
    · exact absurd ((keeps old).trans same) different
    · exact unchanged
  · intro other elsewhere
    exact (audience_softLeave channelId other userId now).trans (if_neg elsewhere)
  · intro channel channelMem same _
    rcases mem_updateChannel.mp channelMem with ⟨old, oldMem, oldId, rfl⟩ | ⟨-, different⟩
    · obtain rfl := found_unique foundEq oldMem oldId
      exact ((audience_softLeave channelId channelId userId now).trans (if_pos rfl)).symm ▸ here
    · exact absurd same different

theorem kickParticipant {call : KickParticipant} (ok : state.kickParticipant call = .ok next) :
    GroupLaw next := by
  obtain ⟨⟨found, foundEq, group, owner⟩, notOwner, -, rfl⟩ := kickParticipant_eq_ok ok
  obtain ⟨foundMem, foundId, -, live⟩ := findDirect_eq_some foundEq
  have before := law.groups found foundMem group
  rw [foundId] at before
  obtain ⟨ownerId, member, isOwner⟩ := before.owned live
  cases isOwner.symm.trans owner
  apply law.softLeave foundEq
  exact .of_owned live (Finset.card_erase_le.trans (before.capped live))
    (Finset.mem_erase.mpr ⟨notOwner.symm, member⟩) owner

theorem leaveGroup {call : LeaveGroup} {result : LeaveResult}
    (ok : state.leaveGroup call = .ok (next, result)) : GroupLaw next := by
  obtain ⟨found, foundEq, group, -, effect⟩ := leaveGroup_eq_ok ok
  obtain ⟨foundMem, foundId, -, live⟩ := findDirect_eq_some foundEq
  have before := law.groups found foundMem group
  rw [foundId] at before
  have others : (state.softLeave call.channelId call.meId call.now).audience call.channelId =
      (state.audience call.channelId).erase call.meId := by
    rw [audience_softLeave, if_pos rfl]
  have capped : ((state.audience call.channelId).erase call.meId).card ≤ groupDmMaxTotal :=
    Finset.card_erase_le.trans (before.capped live)
  rcases effect with ⟨nobody, rfl, -⟩ | ⟨heir, rest, sorted, ⟨-, rfl, -⟩ | ⟨notOwner, rfl, -⟩⟩
  · refine law.softLeave_updateChannel foundEq (.of_empty rfl ?_)
    rw [← others]
    exact audience_eq_empty_iff.mpr nobody
  · -- The heir is an active member that is left.
    obtain ⟨heirMem, ofChannel, active⟩ := mem_activeRows.mp (first_of_succession sorted).1
    have heirMember : heir.userId ∈ (state.audience call.channelId).erase call.meId := by
      rw [← others]
      exact mem_audience.mpr ⟨heir, heirMem, ofChannel, rfl, active⟩
    exact law.softLeave_updateChannel foundEq (.of_owned live capped heirMember rfl)
  · -- The owner stays, since the one who leaves is another member.
    obtain ⟨ownerId, member, isOwner⟩ := before.owned live
    have stays : ownerId ≠ call.meId := fun same => notOwner (same ▸ isOwner)
    exact law.softLeave foundEq
      (.of_owned live capped (Finset.mem_erase.mpr ⟨stays, member⟩) isOwner)

theorem createGroupDm {call : CreateGroupDm} {result : GroupDmResult}
    (ok : state.createGroupDm directory call = .ok (next, result)) : GroupLaw next := by
  obtain ⟨wellFormed, ⟨existing, -, rfl, -⟩ | ⟨-, opened, -⟩⟩ := createGroupDm_eq_ok ok
  · exact law
  · refine law.opens opened fun _ => ?_
    have capped : call.allMembers.toFinset.card ≤ groupDmMaxTotal :=
      (toFinset_card_le _).trans wellFormed.atMost
    have member : call.meId ∈ call.allMembers.toFinset :=
      mem_toFinset.mpr mem_cons_self
    exact .of_owned rfl capped member rfl

theorem createOrGetGlobal {call : CreateOrGetGlobal} {result : CreateResult}
    (ok : state.createOrGetGlobal directory call = .ok (next, result)) :
    GroupLaw next := by
  obtain ⟨-, ⟨existing, -, rfl, -⟩ | ⟨-, opened, -⟩⟩ := createOrGetGlobal_eq_ok ok
  · exact law
  · refine law.opens opened fun group => ?_
    have pair : call.channel.isGroup = false := isGroup_of_channelName rfl
    exact absurd group (pair ▸ Bool.false_ne_true)

theorem hides (hides : Hides state next) : GroupLaw next where
  settled := settled_hides law.settled hides
  groups channel channelMem group := by
    rw [audience_hides hides]
    exact law.groups channel (hides.channels ▸ channelMem) group

theorem step {label : Directory × DmCall} (step : DmStep state label next) :
    GroupLaw next := by
  rcases label with ⟨directory, call⟩
  cases call with
  | createGroupDm call =>
    obtain ⟨result, ok⟩ := map_fst_eq_ok step
    exact law.createGroupDm ok
  | createOrGetGlobal call =>
    obtain ⟨result, ok⟩ := map_fst_eq_ok step
    exact law.createOrGetGlobal ok
  | addParticipants call =>
    obtain ⟨result, ok⟩ := map_fst_eq_ok step
    exact law.addParticipants ok
  | kickParticipant call => exact law.kickParticipant step
  | leaveGroup call =>
    obtain ⟨result, ok⟩ := map_fst_eq_ok step
    exact law.leaveGroup ok
  | setVisibility call => exact law.hides (setVisibility_eq_ok step).1
  | send message => exact law.hides (send_eq_ok step)

end

theorem run {calls : List (Directory × DmCall)} (run : Steps DmStep .empty calls state) :
    GroupLaw state :=
  run.preserves GroupLaw (fun transition law => law.step transition) .empty

end GroupLaw

/-- Three users who are friends with one another. -/
def threeFriends : Directory where
  users := ⟨[⟨⟨1⟩, "ada", .everyone, none⟩, ⟨⟨2⟩, "bea", .everyone, none⟩,
    ⟨⟨3⟩, "cem", .everyone, none⟩], by decide⟩
  friendships := ⟨[⟨⟨1⟩, ⟨2⟩, .accepted⟩, ⟨⟨1⟩, ⟨3⟩, .accepted⟩, ⟨⟨2⟩, ⟨3⟩, .accepted⟩], by decide⟩

def openGroup : CreateGroupDm where
  workspaceId := none
  meId := ⟨1⟩
  memberIds := [⟨2⟩, ⟨3⟩]
  newId := ⟨100⟩
  now := 5
  createdAt := 5
  rowCreatedAt userId := 5 + userId.value

def leaveOpened : LeaveGroup where
  meId := ⟨1⟩
  channelId := ⟨100⟩
  now := 6

end Bongtalk.Channels.DirectMessages
