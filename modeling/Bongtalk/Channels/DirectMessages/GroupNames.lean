import Bongtalk.Channels.DirectMessages.GroupMembership

/-!
# Groups found by their names

The name of a group says who was in it when it was opened, and a later request for the same people
finds the group by it. Joining and leaving do not change the name.
-/

namespace Bongtalk.Channels.DirectMessages

open Library Common Prisma List

/-- An id is read back from its text. -/
theorem idText_injective {first second : UserId} (same : idText first = idText second) :
    first = second := by
  have values := congrArg (fun text => Nat.ofDigitChars 10 text 0) same
  simp only [idText, Nat.ofDigitChars_ten_toDigits] at values
  cases first
  cases second
  exact congrArg UserId.mk values

theorem colon_notMem_idText (userId : UserId) : ':' ∉ idText userId := by
  intro colon
  have digit := Nat.isDigit_of_mem_toDigits (by decide) (by decide) colon
  exact absurd digit (by decide)

variable {userIds : List UserId} {call : CreateGroupDm} {group : DmChannel}

/-- The sorted ids are read back from a name. -/
theorem splitOn_toList_slug (kind : String) (some : userIds ≠ []) :
    ((slug kind userIds).toList.drop kind.toList.length).splitOn ':' =
      (userIds.map idText).insertionSort (· ≤ ·) := by
  rw [toList_slug, drop_left]
  apply splitOn_intercalate ':'
  · intro text textMem
    obtain ⟨userId, -, rfl⟩ := mem_map.mp ((mem_insertionSort _).mp textMem)
    exact colon_notMem_idText userId
  · intro none
    have length := congrArg List.length none
    rw [length_insertionSort, length_map] at length
    exact some (eq_nil_of_length_eq_zero length)

theorem mem_iff_idText_mem {userId : UserId} :
    userId ∈ userIds ↔ idText userId ∈ (userIds.map idText).insertionSort (· ≤ ·) := by
  rw [mem_insertionSort, mem_map]
  constructor
  · exact fun member => ⟨userId, member, rfl⟩
  · rintro ⟨other, member, same⟩
    exact idText_injective same ▸ member

/-- Two groups with one name have been opened for the same people. -/
theorem mem_iff_of_slug_eq {kind : String} {first second : List UserId} (firstSome : first ≠ [])
    (secondSome : second ≠ []) (same : slug kind first = slug kind second) (userId : UserId) :
    userId ∈ first ↔ userId ∈ second := by
  have sameTexts := splitOn_toList_slug kind firstSome
  rw [same, splitOn_toList_slug kind secondSome] at sameTexts
  rw [mem_iff_idText_mem, ← sameTexts, ← mem_iff_idText_mem]

/-- The members whose rows let them read, outside of a workspace. -/
def DmState.Reads (state : DmState) (channelId : ChannelId) (userId : UserId) : Prop :=
  ∃ row ∈ state.members, row.channelId = channelId ∧ row.userId = userId ∧ row.reads = true

/-- Every group is named for users who have had a row in it ever since. -/
def NamedForFounders (state : DmState) : Prop :=
  ∀ channel ∈ state.channels, channel.isGroup = true →
    ∃ founders, founders ≠ [] ∧ channel.name = groupChannelName founders ∧
      ∀ userId ∈ founders, ∃ row ∈ state.members, row.channelId = channel.id ∧ row.userId = userId

/-- In the group with the name that a call asks for, if there is one, exactly those whom the call
asks for have not left: no founder is gone, and whoever has come later is. -/
def DmState.StillTogether (state : DmState) (call : CreateGroupDm) : Prop :=
  ∀ group, state.findByName call.workspaceId (groupChannelName call.allMembers) = some group →
    ∀ row ∈ state.members, row.channelId = group.id →
      (row.leftAt = none ↔ row.userId ∈ call.allMembers)

theorem namedForFounders_step {state next : DmState} {label : Directory × DmCall}
    (step : DmStep state label next) (named : NamedForFounders state) : NamedForFounders next := by
  intro channel channelMem group
  rcases step.effect.channel_cases channelMem with
    ⟨old, oldMem, same⟩ | ⟨call, -, rfl, opens⟩ | ⟨call, -, rfl, -⟩
  · simp only [DmChannel.identity, Prod.mk.injEq] at same
    obtain ⟨sameId, -, sameName, -, -⟩ := same
    rw [DmChannel.isGroup, ← sameName] at group
    obtain ⟨founders, some, name, rows⟩ := named old oldMem group
    refine ⟨founders, some, sameName ▸ name, fun userId founder => ?_⟩
    obtain ⟨row, rowMem, ofChannel, ofUser⟩ := rows userId founder
    obtain ⟨after, afterMem, afterChannel, afterUser⟩ := step.effect.keeps_row rowMem
    exact ⟨after, afterMem, (afterChannel.trans ofChannel).trans sameId, afterUser.trans ofUser⟩
  · refine ⟨call.allMembers, cons_ne_nil _ _, rfl, fun userId founder => ?_⟩
    exact ⟨call.row userId, (opens.members _).mpr (.inl ⟨userId, founder, rfl⟩), rfl, rfl⟩
  · have pair : call.channel.isGroup = false := isGroup_of_channelName rfl
    exact absurd group (pair ▸ Bool.false_ne_true)

variable {state : DmState}

theorem namedForFounders_run {calls : List (Directory × DmCall)}
    (run : Steps DmStep .empty calls state) : NamedForFounders state :=
  run.preserves NamedForFounders (fun step => namedForFounders_step step)
    fun _ channelMem => absurd channelMem not_mem_nil

section Rows

variable {state : DmState} (settled : ∀ row ∈ state.members, row.Settled)

include settled

/-- The one row of a user says whether the user is an active member. -/
theorem mem_audience_iff_of_row {row : DmMember} (rowMem : row ∈ state.members) :
    row.userId ∈ state.audience row.channelId ↔ row.leftAt = none := by
  rw [← (settled row rowMem).active_iff, mem_audience]
  constructor
  · rintro ⟨other, otherMem, sameChannel, sameUser, active⟩
    have same : other = row :=
      Table.eq_of_key_eq otherMem rowMem (Prod.ext sameChannel sameUser)
    exact same ▸ active
  · exact fun active => ⟨row, rowMem, rfl, rfl, active⟩

/-- The active members are those who read. -/
theorem reads_iff_mem_audience {channelId : ChannelId} {userId : UserId} :
    state.Reads channelId userId ↔ userId ∈ state.audience channelId := by
  rw [mem_audience, DmState.Reads]
  refine exists_congr fun row => and_congr_right fun rowMem => ?_
  rw [(settled row rowMem).reads_iff, (settled row rowMem).active_iff]

end Rows

/-- Whoever is asked for with the name of a group has a row in it. -/
theorem founder_row (named : NamedForFounders state)
    (found : state.findByName call.workspaceId (groupChannelName call.allMembers) = some group)
    {userId : UserId} (asked : userId ∈ call.allMembers) :
    ∃ row ∈ state.members, row.channelId = group.id ∧ row.userId = userId := by
  obtain ⟨groupMem, -, groupName, -⟩ := DmState.findByName_eq_some found
  obtain ⟨founders, some, name, rows⟩ :=
    named group groupMem (isGroup_of_groupChannelName groupName)
  apply rows userId
  exact (mem_iff_of_slug_eq some (cons_ne_nil _ _) (name.symm.trans groupName) userId).mpr asked

/-- A group that a request finds by its name has the requested members exactly when those who were
in it at first are still together. -/
theorem audience_found_iff (law : GroupLaw state) (named : NamedForFounders state)
    (found : state.findByName call.workspaceId (groupChannelName call.allMembers) = some group) :
    (∀ userId, userId ∈ state.audience group.id ↔ userId ∈ call.allMembers) ↔
      state.StillTogether call := by
  constructor
  · intro requested other otherFound row rowMem ofGroup
    cases found.symm.trans otherFound
    rw [← mem_audience_iff_of_row law.settled rowMem, ofGroup]
    exact requested row.userId
  · intro together userId
    have rows := together group found
    constructor
    · intro member
      obtain ⟨row, rowMem, ofGroup, rfl, active⟩ := mem_audience.mp member
      exact (rows row rowMem ofGroup).mp ((law.settled row rowMem).active_iff.mp active)
    · intro asked
      obtain ⟨row, rowMem, ofGroup, rfl⟩ := founder_row named found asked
      rw [← ofGroup, mem_audience_iff_of_row law.settled rowMem]
      exact (rows row rowMem ofGroup).mpr asked

/-- The group is opened, one of its members is made to leave, and asks for it again. -/
def askAgain : CreateGroupDm where
  workspaceId := none
  meId := ⟨2⟩
  memberIds := [⟨1⟩, ⟨3⟩]
  newId := ⟨101⟩
  now := 7
  createdAt := 7
  rowCreatedAt _ := 7

def kickSecond : KickParticipant where
  meId := ⟨1⟩
  channelId := ⟨100⟩
  targetUserId := ⟨2⟩
  now := 6

end Bongtalk.Channels.DirectMessages
