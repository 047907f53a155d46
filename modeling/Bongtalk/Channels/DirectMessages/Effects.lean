import Bongtalk.Channels.DirectMessages.DirectMessagesService

/-!
# What the calls on direct messages do

A call that succeeds opens a channel, lets members in, lets a member out, or changes what somebody
hides. Each of these is described by the rows that are there afterwards.
-/

namespace Bongtalk.Channels.DirectMessages

open Library Common Messages Prisma DmState List

/-- A new direct message with its members. -/
structure Opens (state : DmState) (channel : DmChannel) (userIds : List UserId)
    (row : UserId → DmMember) (next : DmState) : Prop where
  fresh : ∀ old ∈ state.channels, old.id ≠ channel.id
  channels : ∀ other, other ∈ next.channels ↔ other = channel ∨ other ∈ state.channels
  members : ∀ other, other ∈ next.members ↔
    (∃ userId ∈ userIds, other = row userId) ∨ other ∈ state.members
  rows : ∀ userId, (row userId).channelId = channel.id ∧ (row userId).userId = userId ∧
    (row userId).Belongs ∧ (row userId).hiddenAt = none
  messages : next.messages = state.messages

/-- Some users come into a group, or come back. -/
structure Joins (state : DmState) (channelId : ChannelId) (now : DateTime)
    (createdAt : UserId → DateTime) (userIds : List UserId) (next : DmState) : Prop where
  channels : next.channels = state.channels
  members : next.members = joinMembers channelId now createdAt state.members userIds
  messages : next.messages = state.messages

/-- Nothing of a member row changes but since when it is hidden. -/
structure Hides (state next : DmState) : Prop where
  channels : next.channels = state.channels
  members : ∃ hiddenAt : DmMember → Option DateTime, ∀ row,
    row ∈ next.members ↔ ∃ old ∈ state.members, { old with hiddenAt := hiddenAt old } = row

/-- The columns of a channel that no call writes again. -/
def DmChannel.identity (channel : DmChannel) :
    ChannelId × Option WorkspaceId × String × ChannelType × DateTime :=
  (channel.id, channel.workspaceId, channel.name, channel.type, channel.createdAt)

/-- One member leaves a group, which may pass to another owner or be deleted. -/
structure Leaves (state : DmState) (channelId : ChannelId) (userId : UserId) (next : DmState) :
    Prop where
  group : ∃ channel, state.findDirect channelId = some channel ∧ channel.isGroup = true
  members : ∃ now, next.members = (state.softLeave channelId userId now).members
  channels : ∀ channel ∈ next.channels, channel ∈ state.channels ∨
    channel.id = channelId ∧ ∃ old ∈ state.channels, old.identity = channel.identity
  messages : next.messages = state.messages

variable {directory : Directory} {state next : DmState}

/-- A call whose state is kept has answered something. -/
theorem map_fst_eq_ok {Result : Type} {answer : Except Failure (DmState × Result)}
    (ok : answer.map Prod.fst = .ok next) : ∃ result, answer = .ok (next, result) := by
  obtain ⟨⟨after, result⟩, answered, rfl⟩ := map_eq_ok ok
  exact ⟨result, answered⟩

variable {channel : DmChannel}

theorem openChannel_eq_ok {userIds : List UserId} {row : UserId → DmMember}
    (rows : ∀ userId, (row userId).channelId = channel.id ∧ (row userId).userId = userId ∧ (row
      userId).Belongs ∧ (row userId).hiddenAt = none)
    (opened : state.openChannel channel (userIds.map row) = .ok next) :
    Opens state channel userIds row next := by
  obtain ⟨middle, created, filled⟩ := bind_eq_ok.mp opened
  obtain ⟨fresh, channels, noRows, noMessages⟩ := createChannel_eq_ok created
  obtain ⟨members, sameChannels, sameMessages⟩ := createMembers_eq_ok filled
  refine ⟨fresh, ?_, ?_, rows, sameMessages.trans noMessages⟩
  · intro other
    rw [sameChannels]
    exact channels other
  · intro other
    rw [members, noRows, mem_map]
    simp only [eq_comm (a := other)]

theorem findGroup_eq_ok {channelId : ChannelId} (found : state.findGroup channelId = .ok channel) :
    state.findDirect channelId = some channel ∧ channel.isGroup = true := by
  unfold findGroup at found
  split at found
  · exact absurd found failWith_ne_ok
  next row foundRow =>
    split at found
    next group =>
      cases found
      exact ⟨foundRow, group⟩
    · exact absurd found failWith_ne_ok

/-- A group is asked for by one user with two to nineteen others. -/
structure CreateGroupDm.WellFormed (call : CreateGroupDm) : Prop where
  nodup : call.allMembers.Nodup
  atLeast : 3 ≤ call.allMembers.length
  atMost : call.allMembers.length ≤ groupDmMaxTotal

theorem createGroupDm_eq_ok {call : CreateGroupDm} {result : GroupDmResult}
    (ok : state.createGroupDm directory call = .ok (next, result)) :
    call.WellFormed ∧
      ((∃ existing, state.findByName call.workspaceId (groupChannelName call.allMembers) =
            some existing ∧
          next = state ∧ result = ⟨existing.id, false, call.allMembers⟩) ∨
        state.findByName call.workspaceId (groupChannelName call.allMembers) = none ∧
          Opens state call.channel call.allMembers call.row next ∧
          result = ⟨call.newId, true, call.allMembers⟩) := by
  unfold createGroupDm at ok
  simp only [check_bind_eq_ok, failIf_eq_ok, decide_eq_false_iff_not, Bool.not_eq_false',
    decide_eq_true_eq, contains_eq_mem] at ok
  obtain ⟨enough, few, notMe, nodup, -, ok⟩ := ok
  have wellFormed : call.WellFormed :=
    { nodup := nodup_cons.mpr ⟨notMe, nodup⟩
      atLeast := by
        rw [CreateGroupDm.allMembers, length_cons]
        omega
      atMost := by
        rw [CreateGroupDm.allMembers, length_cons]
        simp only [groupDmMaxTotal] at few ⊢
        omega }
  refine ⟨wellFormed, ?_⟩
  split at ok
  next existing found =>
    cases ok
    exact .inl ⟨existing, found, rfl, rfl⟩
  next absent =>
    obtain ⟨opened, openedEq, done⟩ := bind_eq_ok.mp ok
    cases done
    exact .inr ⟨absent, openChannel_eq_ok (fun _ => ⟨rfl, rfl, ⟨rfl, rfl, rfl⟩, rfl⟩) openedEq, rfl⟩

theorem createOrGetGlobal_eq_ok {call : CreateOrGetGlobal} {result : CreateResult}
    (ok : state.createOrGetGlobal directory call = .ok (next, result)) :
    directory.assertMayOpen call.meId call.otherUserId = .ok () ∧
      ((∃ existing, state.findByName none (channelName call.meId call.otherUserId) =
            some existing ∧ next = state ∧ result = ⟨existing.id, false⟩) ∨
        state.findByName none (channelName call.meId call.otherUserId) = none ∧
          Opens state call.channel call.allMembers call.row next ∧
          result = ⟨call.newId, true⟩) := by
  unfold createOrGetGlobal at ok
  obtain ⟨mayOpen, ok⟩ := check_bind_eq_ok.mp ok
  refine ⟨mayOpen, ?_⟩
  unfold createOrGetWorkspaceless at ok
  split at ok
  next existing found =>
    cases ok
    exact .inl ⟨existing, found, rfl, rfl⟩
  next absent =>
    obtain ⟨opened, openedEq, done⟩ := bind_eq_ok.mp ok
    cases done
    exact .inr ⟨absent, openChannel_eq_ok (fun _ => ⟨rfl, rfl, ⟨rfl, rfl, rfl⟩, rfl⟩) openedEq, rfl⟩

/-- A live group with its owner. -/
def DmState.IsGroupOf (state : DmState) (channelId : ChannelId) (ownerId : UserId) : Prop :=
  ∃ channel, state.findDirect channelId = some channel ∧ channel.isGroup = true ∧
    channel.ownerId = some ownerId

theorem addParticipants_eq_ok {call : AddParticipants} {result : AddResult}
    (ok : state.addParticipants directory call = .ok (next, result)) :
    state.IsGroupOf call.channelId call.meId ∧
      (state.newParticipants call ≠ [] →
        (state.activeMembers call.channelId).length + (state.newParticipants call).length ≤
          groupDmMaxTotal) ∧
      Joins state call.channelId call.now call.rowCreatedAt (state.newParticipants call) next ∧
      result = ⟨call.channelId, state.newParticipants call⟩ := by
  unfold addParticipants at ok
  obtain ⟨channel, found, ok⟩ := bind_eq_ok.mp ok
  obtain ⟨foundDirect, group⟩ := findGroup_eq_ok found
  simp only [check_bind_eq_ok, failIf_eq_ok, bne_eq_false_iff_eq] at ok
  obtain ⟨-, owner, ok⟩ := ok
  refine ⟨⟨channel, foundDirect, group, owner⟩, ?_⟩
  split at ok
  next noneNew =>
    cases ok
    rw [noneNew]
    exact ⟨fun some => absurd rfl some, ⟨rfl, rfl, rfl⟩, rfl⟩
  next someNew =>
    simp only [check_bind_eq_ok, failIf_eq_ok, decide_eq_false_iff_not, not_lt] at ok
    obtain ⟨withinCap, -, ok⟩ := ok
    obtain ⟨joined, joinedEq, done⟩ := bind_eq_ok.mp ok
    cases done
    obtain ⟨members, channels, messages⟩ := upsertMembers_eq_ok joinedEq
    exact ⟨fun _ => withinCap, ⟨channels, members, messages⟩, rfl⟩

theorem kickParticipant_eq_ok {call : KickParticipant}
    (ok : state.kickParticipant call = .ok next) :
    state.IsGroupOf call.channelId call.meId ∧ call.targetUserId ≠ call.meId ∧
      call.targetUserId ∈ state.activeMembers call.channelId ∧
      next = state.softLeave call.channelId call.targetUserId call.now := by
  unfold kickParticipant at ok
  split at ok
  · exact absurd ok failWith_ne_ok
  next channel found =>
    simp only [check_bind_eq_ok, failIf_eq_ok, bne_eq_false_iff_eq, beq_eq_false_iff_ne,
      Bool.or_eq_false_iff, Bool.not_eq_false', contains_eq_mem, decide_eq_true_eq] at ok
    obtain ⟨⟨-, group⟩, owner, notMe, active, done⟩ := ok
    exact ⟨⟨channel, found, group, owner⟩, notMe, active, (Except.ok.inj done).symm⟩

theorem leaveGroup_eq_ok {call : LeaveGroup} {result : LeaveResult}
    (ok : state.leaveGroup call = .ok (next, result)) :
    ∃ channel, state.findDirect call.channelId = some channel ∧ channel.isGroup = true ∧
      call.meId ∈ state.activeMembers call.channelId ∧
      let left := state.softLeave call.channelId call.meId call.now
      (left.activeRows call.channelId = [] ∧
          next = left.updateChannel call.channelId
            (fun row => { row with deletedAt := some call.now }) (fun _ => rfl) ∧
          result = ⟨call.channelId, true, none⟩) ∨
        ∃ heir rest, sortWith succession (left.activeRows call.channelId) = heir :: rest ∧
          ((channel.ownerId = some call.meId ∧
              next = left.updateChannel call.channelId
                (fun row => { row with ownerId := some heir.userId }) (fun _ => rfl) ∧
              result = ⟨call.channelId, false, some heir.userId⟩) ∨
            channel.ownerId ≠ some call.meId ∧ next = left ∧
              result = ⟨call.channelId, false, none⟩) := by
  unfold leaveGroup at ok
  obtain ⟨channel, found, ok⟩ := bind_eq_ok.mp ok
  obtain ⟨foundDirect, group⟩ := findGroup_eq_ok found
  simp only [check_bind_eq_ok, failIf_eq_ok, Bool.not_eq_false', contains_eq_mem,
    decide_eq_true_eq] at ok
  obtain ⟨active, ok⟩ := ok
  refine ⟨channel, foundDirect, group, active, ?_⟩
  split at ok
  next nobody =>
    cases ok
    have length := congrArg List.length nobody
    rw [sortWith, length_insertionSort] at length
    exact .inl ⟨eq_nil_of_length_eq_zero length, rfl, rfl⟩
  next heir rest sorted =>
    refine .inr ⟨heir, rest, sorted, ?_⟩
    split at ok
    next owned =>
      cases ok
      exact .inl ⟨owned, rfl, rfl⟩
    next notOwned =>
      cases ok
      exact .inr ⟨notOwned, rfl, rfl⟩

/-- Writing since when rows are hidden changes nothing else. -/
theorem hides_updateMembers (state : DmState) (condition : DmMember → Bool)
    (hiddenAt : Option DateTime) :
    Hides state
      (state.updateMembers condition (fun row => { row with hiddenAt := hiddenAt }) fun _ => rfl) where
  channels := rfl
  members := by
    refine ⟨fun old => if condition old then hiddenAt else old.hiddenAt, fun row => ?_⟩
    rw [mem_updateMembers]
    refine exists_congr fun old => and_congr_right fun _ => ?_
    dsimp only
    split <;> rfl

theorem setVisibility_eq_ok {call : SetVisibility} (ok : state.setVisibility call = .ok next) :
    Hides state next ∧ next.messages = state.messages := by
  unfold setVisibility at ok
  split at ok
  · exact absurd ok failWith_ne_ok
  next =>
    obtain ⟨-, done⟩ := check_bind_eq_ok.mp ok
    cases done
    exact ⟨hides_updateMembers _ _ _, rfl⟩

theorem send_eq_ok {message : Message} (ok : state.send message = .ok next) : Hides state next := by
  unfold send at ok
  obtain ⟨sent, created, done⟩ := bind_eq_ok.mp ok
  cases done
  obtain ⟨-, sameChannels, sameMembers⟩ := createMessage_eq_ok created
  obtain ⟨channels, hiddenAt, rows⟩ := hides_updateMembers sent
    (fun row => row.channelId == message.channelId && row.userId != message.authorId) none
  refine ⟨channels.trans sameChannels, hiddenAt, fun row => ?_⟩
  rw [rows, sameMembers]

theorem leaves_of_kickParticipant {call : KickParticipant}
    (ok : state.kickParticipant call = .ok next) :
    Leaves state call.channelId call.targetUserId next := by
  obtain ⟨⟨channel, found, group, -⟩, -, -, rfl⟩ := kickParticipant_eq_ok ok
  exact ⟨⟨channel, found, group⟩, ⟨call.now, rfl⟩, fun _ channelMem => .inl channelMem, rfl⟩

theorem leaves_of_leaveGroup {call : LeaveGroup} {result : LeaveResult}
    (ok : state.leaveGroup call = .ok (next, result)) :
    Leaves state call.channelId call.meId next := by
  obtain ⟨found, foundEq, group, -, effect⟩ := leaveGroup_eq_ok ok
  have updated : ∀ {change : DmChannel → DmChannel} {keeps : ∀ row, (change row).id = row.id},
      (∀ row, (change row).identity = row.identity) →
      ∀ channel ∈ ((state.softLeave call.channelId call.meId call.now).updateChannel
        call.channelId change keeps).channels, channel ∈ state.channels ∨
        channel.id = call.channelId ∧ ∃ old ∈ state.channels, old.identity = channel.identity := by
    intro change keeps sameIdentity channel channelMem
    rcases mem_updateChannel.mp channelMem with ⟨old, oldMem, oldId, rfl⟩ | ⟨before, -⟩
    · exact .inr ⟨(keeps old).trans oldId, old, oldMem, (sameIdentity old).symm⟩
    · exact .inl before
  rcases effect with ⟨-, rfl, -⟩ | ⟨heir, rest, -, ⟨-, rfl, -⟩ | ⟨-, rfl, -⟩⟩
  · exact ⟨⟨found, foundEq, group⟩, ⟨call.now, rfl⟩, updated fun _ => rfl, rfl⟩
  · exact ⟨⟨found, foundEq, group⟩, ⟨call.now, rfl⟩, updated fun _ => rfl, rfl⟩
  · exact ⟨⟨found, foundEq, group⟩, ⟨call.now, rfl⟩, fun _ channelMem => .inl channelMem, rfl⟩

/-- All that a step can do. -/
inductive DmEffect (state next : DmState) : Prop where
  | stays (same : next = state)
  | opensGroup (call : CreateGroupDm) (wellFormed : call.WellFormed)
      (opens : Opens state call.channel call.allMembers call.row next)
  | opensPair (call : CreateOrGetGlobal) (different : call.meId ≠ call.otherUserId)
      (opens : Opens state call.channel call.allMembers call.row next)
  | joins (call : AddParticipants) (group : state.IsGroupOf call.channelId call.meId)
      (joins : Joins state call.channelId call.now call.rowCreatedAt (state.newParticipants call)
        next)
  | leaves (channelId : ChannelId) (userId : UserId) (leaves : Leaves state channelId userId next)
  | hides (hides : Hides state next)

theorem DmStep.effect {label : Directory × DmCall} (step : DmStep state label next) :
    DmEffect state next := by
  rcases label with ⟨directory, call⟩
  cases call with
  | createGroupDm call =>
    obtain ⟨result, ok⟩ := map_fst_eq_ok step
    obtain ⟨wellFormed, ⟨existing, -, same, -⟩ | ⟨-, opens, -⟩⟩ := createGroupDm_eq_ok ok
    · exact .stays same
    · exact .opensGroup call wellFormed opens
  | createOrGetGlobal call =>
    obtain ⟨result, ok⟩ := map_fst_eq_ok step
    obtain ⟨mayOpen, ⟨existing, -, same, -⟩ | ⟨-, opens, -⟩⟩ := createOrGetGlobal_eq_ok ok
    · exact .stays same
    · have canDm := (assertMayOpen_eq_ok_iff.mp mayOpen).1
      exact .opensPair call (assertCanDm_eq_ok_iff.mp canDm).1 opens
  | addParticipants call =>
    obtain ⟨result, ok⟩ := map_fst_eq_ok step
    obtain ⟨group, -, joins, -⟩ := addParticipants_eq_ok ok
    exact .joins call group joins
  | kickParticipant call => exact .leaves _ _ (leaves_of_kickParticipant step)
  | leaveGroup call =>
    obtain ⟨result, ok⟩ := map_fst_eq_ok step
    exact .leaves _ _ (leaves_of_leaveGroup ok)
  | setVisibility call => exact .hides (setVisibility_eq_ok step).1
  | send message => exact .hides (send_eq_ok step)

/-- No row is ever taken away. -/
theorem DmEffect.keeps_row (effect : DmEffect state next) {row : DmMember}
    (rowMem : row ∈ state.members) :
    ∃ after ∈ next.members, after.channelId = row.channelId ∧ after.userId = row.userId := by
  cases effect with
  | stays same => exact ⟨row, same ▸ rowMem, rfl, rfl⟩
  | opensGroup call wellFormed opens | opensPair call different opens =>
    exact ⟨row, (opens.members row).mpr (.inr rowMem), rfl, rfl⟩
  | joins call group joins =>
    have nodup := state.nodup_newParticipants call
    rw [joins.members]
    by_cases again : row.channelId = call.channelId ∧ row.userId ∈ state.newParticipants call
    · obtain ⟨ofChannel, ofUser⟩ := joined_key state.members call.channelId call.now
        call.rowCreatedAt row.userId
      exact ⟨_, (mem_joinMembers _ _ _ _ nodup).mpr (.inl ⟨row.userId, again.2, rfl⟩),
        ofChannel.trans again.1.symm, ofUser⟩
    · exact ⟨row, (mem_joinMembers _ _ _ _ nodup).mpr (.inr ⟨rowMem, again⟩), rfl, rfl⟩
  | leaves channelId userId leaves =>
    obtain ⟨now, members⟩ := leaves.members
    rw [members]
    refine ⟨_, mem_softLeave.mpr ⟨row, rowMem, rfl⟩, ?_⟩
    split <;> exact ⟨rfl, rfl⟩
  | hides hides =>
    obtain ⟨hiddenAt, rows⟩ := hides.members
    exact ⟨_, (rows _).mpr ⟨row, rowMem, rfl⟩, rfl, rfl⟩

/-- A channel is there with the same identity before a step that has not opened it. -/
theorem DmEffect.channel_cases (effect : DmEffect state next)
    (channelMem : channel ∈ next.channels) :
    (∃ old ∈ state.channels, old.identity = channel.identity) ∨
      (∃ call : CreateGroupDm, call.WellFormed ∧ channel = call.channel ∧
        Opens state call.channel call.allMembers call.row next) ∨
      ∃ call : CreateOrGetGlobal, call.meId ≠ call.otherUserId ∧ channel = call.channel ∧
        Opens state call.channel call.allMembers call.row next := by
  cases effect with
  | stays same => exact .inl ⟨channel, same ▸ channelMem, rfl⟩
  | opensGroup call wellFormed opens =>
    rcases (opens.channels channel).mp channelMem with rfl | before
    · exact .inr (.inl ⟨call, wellFormed, rfl, opens⟩)
    · exact .inl ⟨channel, before, rfl⟩
  | opensPair call different opens =>
    rcases (opens.channels channel).mp channelMem with rfl | before
    · exact .inr (.inr ⟨call, different, rfl, opens⟩)
    · exact .inl ⟨channel, before, rfl⟩
  | joins call group joins => exact .inl ⟨channel, joins.channels ▸ channelMem, rfl⟩
  | leaves channelId userId leaves =>
    rcases leaves.channels channel channelMem with before | ⟨-, old, oldMem, same⟩
    · exact .inl ⟨channel, before, rfl⟩
    · exact .inl ⟨old, oldMem, same⟩
  | hides hides => exact .inl ⟨channel, hides.channels ▸ channelMem, rfl⟩

end Bongtalk.Channels.DirectMessages
