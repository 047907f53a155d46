import Bongtalk.Me.MeActivity
import Bongtalk.Me.MeMentions
import Bongtalk.Me.Saved.MessageVisible

/-!
# Who sees a message in the inbox

A message whose channel the user may not read has no place in the inbox, and one that the user may
read has its place there. The queries of the inbox ask the masks in another way than the effective
mask of the channel does.
-/

namespace Bongtalk.Me

open Library Channels.Permission Common.Acl Messages Prisma InboxState Option

/-- The queries that give a snippet of a message, or save it. -/
inductive SnippetQuery where
  | recent
  | activity (kind : ActivityKind)
  | saved
deriving DecidableEq, Repr

section Rows

variable {overrides : List ChannelPermissionOverride} {channelId : ChannelId} {userId : UserId}
  {roles : List Principal}

theorem mem_matchingOverrides (areRoles : ∀ principal ∈ roles, principal.isRole = true)
    {row : ChannelPermissionOverride} :
    row ∈ matchingOverrides overrides channelId userId roles ↔
      row ∈ overrides ∧ row.channelId = channelId ∧
        (row.principal = .user userId ∨ row.principal ∈ roles) := by
  simp only [matchingOverrides, matchesPrincipal, List.mem_filter, Bool.and_eq_true, beq_iff_eq,
    Bool.or_eq_true, List.contains_eq_mem, decide_eq_true_eq]
  exact and_congr_right fun _ => and_congr_right fun _ => or_congr_right
    ⟨And.right, fun listed => ⟨areRoles _ listed, listed⟩⟩

/-- The bit of the rows of a user: one allows `READ`, none denies it. -/
theorem positive_overrideBit_matching (areRoles : ∀ principal ∈ roles, principal.isRole = true) :
    positive (overrideBit (matchingOverrides overrides channelId userId roles)) = true ↔
      ReadAllowed overrides channelId userId roles ∧
        ¬UserDeniesRead overrides channelId userId ∧ ¬RoleDeniesRead overrides channelId roles := by
  rw [positive_overrideBit]
  simp only [mem_matchingOverrides areRoles, ReadAllowed, UserAllowsRead, RoleAllowsRead,
    UserDeniesRead, RoleDeniesRead]
  constructor
  · rintro ⟨⟨row, ⟨present, here, isMatch⟩, allows⟩, undenied⟩
    refine ⟨isMatch.imp (fun own => ⟨row, present, here, own, allows⟩)
      (fun role => ⟨row, present, here, role, allows⟩), ?_, ?_⟩
    · rintro ⟨other, otherMem, otherHere, own, denies⟩
      rw [undenied other ⟨otherMem, otherHere, .inl own⟩] at denies
      cases denies
    · rintro ⟨other, otherMem, otherHere, role, denies⟩
      rw [undenied other ⟨otherMem, otherHere, .inr role⟩] at denies
      cases denies
  · rintro ⟨allowed, ownUndenied, roleUndenied⟩
    constructor
    · obtain ⟨row, present, here, own, allows⟩ | ⟨row, present, here, role, allows⟩ := allowed
      · exact ⟨row, ⟨present, here, .inl own⟩, allows⟩
      · exact ⟨row, ⟨present, here, .inr role⟩, allows⟩
    · rintro row ⟨present, here, own | role⟩
      · exact Bool.eq_false_iff.mpr fun denies => ownUndenied ⟨row, present, here, own, denies⟩
      · exact Bool.eq_false_iff.mpr fun denies => roleUndenied ⟨row, present, here, role, denies⟩

end Rows

/-- A row of a role denies `READ`, and the user's own row overrules it. -/
def OverrulesRoles (db : Database) (channel : Channel) (userId : UserId) (roles : List Principal) :
    Prop :=
  UserAllowsRead db.overrides.rows channel.id userId ∧
    ¬UserDeniesRead db.overrides.rows channel.id userId ∧
    RoleDeniesRead db.overrides.rows channel.id roles

instance (db : Database) (channel : Channel) (userId : UserId) (roles : List Principal) :
    Decidable (OverrulesRoles db channel userId roles) :=
  inferInstanceAs (Decidable (_ ∧ _))

section Queries

variable (state : InboxState) (userId : UserId) (message : Message)

/-- A query without its limit gives a snippet of the message, or the message may be saved. -/
def MayReturn : SnippetQuery → Prop
  | .recent => ∃ access, (message, access) ∈ state.recentRows userId
  | .activity kind => ∃ filter, ∃ activity ∈ state.combined userId filter,
      activity.kind = kind ∧ activity.messageId = .message message.id
  | .saved => state.assertMessageVisible userId message.id = .ok ()

/-- The conditions of a query beside the masks. -/
def Entitled (channel : Channel) : SnippetQuery → Prop
  | .recent | .activity .mention =>
    state.isLiveMention userId message = true ∧ (state.memberOf userId channel).isSome
  | .activity .reply =>
    state.isLiveReply userId message = true ∧ (state.memberOf userId channel).isSome
  | .activity .reaction =>
    (∃ reaction ∈ state.reactions, state.reactedMessage userId reaction = some message) ∧
      (state.memberOf userId channel).isSome
  | .activity .direct => state.isLiveDirect userId message = true
  | .activity .friendRequest => False
  | .saved => message.deletedAt = none

/-- A query may return the message to those whom its other conditions let see it and who have
`READ` in their effective mask. -/
def AgreesWithFold (query : SnippetQuery) : Prop :=
  MayReturn state userId message query ↔
    ∃ channel, state.liveChannel message.channelId = some channel ∧
      Entitled state userId message channel query ∧ canRead state.db channel userId = true

/-- What a query itself asks of the masks. -/
def Shows (channel : Channel) : SnippetQuery → Prop
  | .activity .direct => state.hasOwnAllow userId channel.id = true
  | .saved => state.isSavable userId channel = true
  | _ => ∀ member, state.memberOf userId channel = some member →
      Access.isVisible ⟨channel, member, overrideBit (state.matchingRows userId channel member)⟩ =
        true

/-- The rows of a channel by which a query and the effective mask come to the same. -/
def MasksAgree (channel : Channel) : SnippetQuery → Prop
  | .activity .direct =>
    (UserAllowsRead state.db.overrides.rows channel.id userId →
      (channel.workspaceId.isSome → (state.memberOf userId channel).isSome) ∧
        ¬UserDeniesRead state.db.overrides.rows channel.id userId) ∧
    ∀ member, state.memberOf userId channel = some member → Reads state.db channel member →
      UserAllowsRead state.db.overrides.rows channel.id userId
  | .saved =>
    (∀ member, state.memberOf userId channel = some member →
      if channel.isPrivate = false ∨ (member.role = .owner ∧ channel.type ≠ .direct) then
        Reads state.db channel member
      else
        ¬OverrulesRoles state.db channel userId (loadMember state.db member).principals ∧
          (member.role = .owner → Reads state.db channel member →
            ReadAllowed state.db.overrides.rows channel.id userId
              (loadMember state.db member).principals)) ∧
    (channel.workspaceId.isSome → state.memberOf userId channel = none →
      UserAllowsRead state.db.overrides.rows channel.id userId →
        UserDeniesRead state.db.overrides.rows channel.id userId)
  | _ => ∀ member, state.memberOf userId channel = some member →
      if channel.isPrivate = false ∨ member.role = .owner then Reads state.db channel member
      else ¬OverrulesRoles state.db channel userId (loadMember state.db member).principals

end Queries

section Masks

variable {state : InboxState} {userId : UserId} {channel : Channel} {member : WorkspaceMember}

theorem areRoles_principals (member : MemberWithRoles) :
    ∀ principal ∈ member.principals, principal.isRole = true :=
  fun _ listed => isRole_of_mem_rolePrincipals listed

/-- The joined member reads the channel when its effective mask holds `READ`. -/
theorem canRead_of_member (joined : state.memberOf userId channel = some member) :
    canRead state.db channel userId = true ↔ Reads state.db channel member := by
  obtain ⟨workspaceId, here, found⟩ := bind_eq_some_iff.mp joined
  simp only [canRead_iff here, found, Option.some.injEq, exists_eq_left']

theorem canRead_of_stranger (stranger : state.memberOf userId channel = none)
    (inWorkspace : channel.workspaceId.isSome = true) :
    canRead state.db channel userId = false := by
  obtain ⟨workspaceId, here⟩ := isSome_iff_exists.mp inWorkspace
  rw [memberOf, here, bind_some] at stranger
  rw [Bool.eq_false_iff, ne_eq, canRead_iff here, stranger]
  simp

section

variable (joined : state.memberOf userId channel = some member)

include joined

/-- The bit of a member. -/
theorem positive_memberBit :
    positive (overrideBit (state.matchingRows userId channel member)) = true ↔
      ReadAllowed state.db.overrides.rows channel.id userId (loadMember state.db member).principals ∧
        ¬UserDeniesRead state.db.overrides.rows channel.id userId ∧
        ¬RoleDeniesRead state.db.overrides.rows channel.id
          (loadMember state.db member).principals := by
  obtain ⟨-, rfl, -⟩ := memberOf_eq_some_iff.mp joined
  rw [matchingRows, ← principals_loadMember]
  exact positive_overrideBit_matching (areRoles_principals _)

/-- The bit comes to `READ` of a member unless the user's own row overrules a role, or the roles
of the member read where no row allows it. -/
theorem bit_agrees_iff :
    (positive (overrideBit (state.matchingRows userId channel member)) = true ↔
        Reads state.db channel member) ↔
      ¬OverrulesRoles state.db channel userId (loadMember state.db member).principals ∧
        (Reads state.db channel member →
          ReadAllowed state.db.overrides.rows channel.id userId
            (loadMember state.db member).principals) := by
  obtain ⟨-, rfl, -⟩ := memberOf_eq_some_iff.mp joined
  rw [positive_memberBit joined]
  by_cases allowed : ReadAllowed state.db.overrides.rows channel.id member.userId
      (loadMember state.db member).principals
  · simp only [allowed, Reads, OverrulesRoles, ReadDenied]
    tauto
  · have notOwn : ¬UserAllowsRead state.db.overrides.rows channel.id member.userId :=
      fun own => allowed (.inl own)
    simp only [allowed, notOwn, OverrulesRoles]
    tauto

/-- In a private channel those who are not its owner read it by a row only. -/
theorem readAllowed_of_closed (isPrivate : ¬channel.isPrivate = false)
    (notOwner : ¬member.role = .owner) (reads : Reads state.db channel member) :
    ReadAllowed state.db.overrides.rows channel.id userId
      (loadMember state.db member).principals := by
  obtain ⟨-, rfl, -⟩ := memberOf_eq_some_iff.mp joined
  exact reads.2.resolve_right fun past => (not_or.mpr ⟨isPrivate, notOwner⟩) past.1

/-- What a member may save in a channel that is not open to it without a row. -/
theorem isSavable_of_closed
    (closed : ¬(channel.isPrivate = false ∨ (member.role = .owner ∧ channel.type ≠ .direct))) :
    state.isSavable userId channel = true ↔
      positive (overrideBit (state.matchingRows userId channel member)) = true := by
  obtain ⟨isPrivate, notOwner⟩ := not_or.mp closed
  simp only [Bool.not_eq_false] at isPrivate
  simp only [isSavable, savedRows, matchingRows, joined,
    isPrivate, any_some, Bool.not_true, Bool.false_and, Bool.false_or, Bool.or_eq_true,
    Bool.and_eq_true, beq_iff_eq, bne_iff_ne, notOwner, false_or]

end

/-- A user who is no member of the workspace may save what its own row allows. -/
theorem isSavable_of_stranger (stranger : state.memberOf userId channel = none) :
    state.isSavable userId channel = true ↔
      UserAllowsRead state.db.overrides.rows channel.id userId ∧
        ¬UserDeniesRead state.db.overrides.rows channel.id userId := by
  simp only [isSavable, savedRows, stranger, isSome_none,
    Bool.and_false, any_none, Bool.false_and, Bool.or_self, Bool.false_or]
  rw [positive_overrideBit_matching (List.forall_mem_nil _)]
  simp [ReadAllowed, RoleAllowsRead, RoleDeniesRead]

/-- The join of the direct messages. -/
theorem hasOwnAllow_iff : state.hasOwnAllow userId channel.id = true ↔
    UserAllowsRead state.db.overrides.rows channel.id userId := by
  simp only [hasOwnAllow, List.any_eq_true, Bool.and_eq_true, beq_iff_eq, and_assoc, UserAllowsRead]

section

variable (joined : state.memberOf userId channel = some member)

include joined

/-- The channels that the shared predicate shows. -/
theorem isVisible_agrees_iff :
    (Access.isVisible ⟨channel, member, overrideBit (state.matchingRows userId channel member)⟩ =
          true ↔ Reads state.db channel member) ↔
      if channel.isPrivate = false ∨ member.role = .owner then Reads state.db channel member
      else ¬OverrulesRoles state.db channel userId (loadMember state.db member).principals := by
  have visible : Access.isVisible
        ⟨channel, member, overrideBit (state.matchingRows userId channel member)⟩ = true ↔
      (channel.isPrivate = false ∨ member.role = .owner) ∨
        positive (overrideBit (state.matchingRows userId channel member)) = true := by
    simp only [Access.isVisible, Bool.or_eq_true, Bool.not_eq_true', beq_iff_eq]
  rw [visible]
  split
  next isOpen => simp only [isOpen, true_or, true_iff]
  next closed =>
    obtain ⟨isPrivate, notOwner⟩ := not_or.mp closed
    rw [or_iff_right closed, bit_agrees_iff joined]
    exact and_iff_left (readAllowed_of_closed joined isPrivate notOwner)

/-- What a member may save. -/
theorem isSavable_agrees_iff :
    (state.isSavable userId channel = true ↔ Reads state.db channel member) ↔
      if channel.isPrivate = false ∨ (member.role = .owner ∧ channel.type ≠ .direct) then
        Reads state.db channel member
      else
        ¬OverrulesRoles state.db channel userId (loadMember state.db member).principals ∧
          (member.role = .owner → Reads state.db channel member →
            ReadAllowed state.db.overrides.rows channel.id userId
              (loadMember state.db member).principals) := by
  split
  next isOpen =>
    have savable : state.isSavable userId channel = true := by
      simp only [isSavable, joined, isSome_some, Bool.and_true, any_some,
        Bool.or_eq_true, Bool.not_eq_true', Bool.and_eq_true, beq_iff_eq, bne_iff_ne]
      exact .inl isOpen
    simp only [savable, true_iff]
  next closed =>
    rw [isSavable_of_closed joined closed, bit_agrees_iff joined]
    refine and_congr_right fun _ => ⟨fun allowed _ => allowed, fun allowed reads => ?_⟩
    by_cases owner : member.role = .owner
    · exact allowed owner reads
    · exact readAllowed_of_closed joined (fun isPublic => closed (.inl isPublic)) owner reads

/-- The join of the direct messages shows a member what its own row allows. -/
theorem hasOwnAllow_agrees_iff :
    (UserAllowsRead state.db.overrides.rows channel.id userId ↔ Reads state.db channel member) ↔
      (UserAllowsRead state.db.overrides.rows channel.id userId →
        ¬UserDeniesRead state.db.overrides.rows channel.id userId) ∧
      (Reads state.db channel member →
        UserAllowsRead state.db.overrides.rows channel.id userId) := by
  obtain ⟨-, rfl, -⟩ := memberOf_eq_some_iff.mp joined
  have readsOfOwn : UserAllowsRead state.db.overrides.rows channel.id member.userId →
      (Reads state.db channel member ↔
        ¬UserDeniesRead state.db.overrides.rows channel.id member.userId) := by
    intro own
    simp only [Reads, ReadDenied, ReadAllowed, own, not_true_eq_false, and_false, or_false,
      true_or, and_true]
  constructor
  · intro same
    exact ⟨fun own => (readsOfOwn own).mp (same.mp own), same.mpr⟩
  · rintro ⟨undenied, allowed⟩
    exact ⟨fun own => (readsOfOwn own).mpr (undenied own), allowed⟩

/-- The queries that ask for a membership. -/
theorem shared_agrees_iff :
    (Shows state userId channel .recent ↔ canRead state.db channel userId = true) ↔
      MasksAgree state userId channel .recent := by
  rw [canRead_of_member joined]
  simp only [Shows, MasksAgree, joined, Option.some.injEq, forall_eq']
  exact isVisible_agrees_iff joined

end

theorem direct_agrees_iff :
    (Shows state userId channel (.activity .direct) ↔ canRead state.db channel userId = true) ↔
      MasksAgree state userId channel (.activity .direct) := by
  simp only [Shows, MasksAgree, hasOwnAllow_iff]
  cases joined : state.memberOf userId channel with
  | some member =>
    rw [canRead_of_member joined, hasOwnAllow_agrees_iff joined]
    simp only [isSome_some, implies_true, true_and, Option.some.injEq, forall_eq']
  | none =>
    simp only [reduceCtorEq, IsEmpty.forall_iff, implies_true, and_true, isSome_none,
      Bool.false_eq_true, imp_false, Bool.not_eq_true]
    cases inWorkspace : channel.workspaceId with
    | none =>
      rw [canRead_direct_iff inWorkspace]
      simp only [isSome_none, true_and]
      tauto
    | some workspaceId =>
      have unread := canRead_of_stranger joined (by rw [inWorkspace]; rfl)
      simp only [unread, isSome_some, Bool.false_eq_true, iff_false]
      tauto

theorem saved_agrees_iff :
    (Shows state userId channel .saved ↔ canRead state.db channel userId = true) ↔
      MasksAgree state userId channel .saved := by
  simp only [Shows, MasksAgree]
  cases joined : state.memberOf userId channel with
  | some member =>
    rw [canRead_of_member joined, isSavable_agrees_iff joined]
    simp only [Option.some.injEq, forall_eq', reduceCtorEq, IsEmpty.forall_iff, implies_true,
      and_true]
  | none =>
    rw [isSavable_of_stranger joined]
    simp only [reduceCtorEq, IsEmpty.forall_iff, implies_true, true_and, true_implies]
    cases inWorkspace : channel.workspaceId with
    | none =>
      rw [canRead_direct_iff inWorkspace]
      simp
    | some workspaceId =>
      have unread := canRead_of_stranger joined (by rw [inWorkspace]; rfl)
      simp only [unread, isSome_some, Bool.false_eq_true, iff_false]
      tauto

/-- What a query asks of the masks comes to `READ` in the effective mask under a condition on the
rows. -/
theorem shows_agrees_iff {message : Message} {query : SnippetQuery}
    (entitled : Entitled state userId message channel query) :
    (Shows state userId channel query ↔ canRead state.db channel userId = true) ↔
      MasksAgree state userId channel query := by
  cases query with
  | recent =>
    obtain ⟨member, joined⟩ := isSome_iff_exists.mp entitled.2
    exact shared_agrees_iff joined
  | saved => exact saved_agrees_iff
  | activity kind =>
    cases kind with
    | direct => exact direct_agrees_iff
    | friendRequest => exact entitled.elim
    | mention | reply | reaction =>
      obtain ⟨member, joined⟩ := isSome_iff_exists.mp entitled.2
      exact shared_agrees_iff joined

end Masks

section Returned

variable {state : InboxState} {userId : UserId} {message : Message}

/-- The channel that the shared predicate lets pass, beside another condition. -/
theorem and_showsChannel_iff {holds : Prop} : holds ∧ state.ShowsChannel userId message.channelId ↔
    ∃ channel, state.liveChannel message.channelId = some channel ∧
      (holds ∧ (state.memberOf userId channel).isSome) ∧ Shows state userId channel .recent := by
  simp only [ShowsChannel, any_eq_true, access_eq_some_iff, Shows, isSome_iff_exists]
  constructor
  · rintro ⟨isHeld, _, ⟨channel, live, member, joined, rfl⟩, visible⟩
    refine ⟨channel, live, ⟨isHeld, member, joined⟩, fun other otherJoined => ?_⟩
    cases joined.symm.trans otherJoined
    exact visible
  · rintro ⟨channel, live, ⟨isHeld, member, joined⟩, visible⟩
    exact ⟨isHeld, _, ⟨channel, live, member, joined, rfl⟩, visible member joined⟩

theorem mayReturn_recent : MayReturn state userId message .recent ↔
    message ∈ state.messages ∧ state.isLiveMention userId message = true ∧
      state.ShowsChannel userId message.channelId := by
  simp only [MayReturn, mem_recentRows, ShowsChannel, any_eq_true]
  constructor
  · rintro ⟨access, present, mentioned, joined, visible⟩
    exact ⟨present, mentioned, access, joined, visible⟩
  · rintro ⟨present, mentioned, access, joined, visible⟩
    exact ⟨access, present, mentioned, joined, visible⟩

/-- A feed shows a message as an activity of a kind when the CTE of the kind has it. -/
theorem mayReturn_activity {kind : ActivityKind} :
    MayReturn state userId message (.activity kind) ↔
      ∃ activity ∈ state.activitiesOf userId kind, activity.messageId = .message message.id := by
  simp only [MayReturn, mem_combined]
  constructor
  · rintro ⟨filter, activity, ⟨-, listed⟩, rfl, about⟩
    exact ⟨activity, listed, about⟩
  · rintro ⟨activity, listed, about⟩
    obtain rfl := kind_of_mem_activitiesOf listed
    exact ⟨.all, activity, ⟨rfl, listed⟩, rfl, about⟩

/-- Messages of one id are one message. -/
theorem message_eq_of_id {other : Message} (present : message ∈ state.messages)
    (otherPresent : other ∈ state.messages) (same : other.id = message.id) : other = message :=
  Table.eq_of_key_eq otherPresent present same

/-- The activities of a kind that has one for each message of a condition. -/
theorem exists_messageActivity (kind : ActivityKind) (keyword : Message → Bool)
    (condition : Message → Prop) (present : message ∈ state.messages) :
    (∃ activity, (∃ other ∈ state.messages, condition other ∧
        state.messageActivity kind (keyword other) other = activity) ∧
      activity.messageId = .message message.id) ↔ condition message := by
  constructor
  · rintro ⟨_, ⟨other, otherPresent, holds, rfl⟩, about⟩
    rwa [← message_eq_of_id present otherPresent (SubjectId.message.inj about)]
  · intro holds
    exact ⟨_, ⟨message, present, holds, rfl⟩, rfl⟩

theorem mem_of_reactedMessage {reaction : MessageReaction}
    (found : state.reactedMessage userId reaction = some message) :
    message ∈ state.messages ∧ message.id = reaction.messageId :=
  MessageTable.findUnique_eq_some_iff.mp (filter_eq_some_iff.mp found).1

variable (present : message ∈ state.messages)

include present

theorem mayReturn_mention :
    MayReturn state userId message (.activity .mention) ↔
      state.isLiveMention userId message = true ∧
        state.ShowsChannel userId message.channelId := by
  simp only [mayReturn_activity, activitiesOf, mem_mentions]
  exact exists_messageActivity .mention (state.hasKeywordRecord userId) (fun _ => _ ∧ _) present

/-- The reactions to a message of the caller. -/
theorem exists_reactionActivity :
    (∃ activity ∈ state.reactionActivities userId, activity.messageId = .message message.id) ↔
      (∃ reaction ∈ state.reactions, state.reactedMessage userId reaction = some message) ∧
        state.ShowsChannel userId message.channelId := by
  simp only [mem_reactionActivities]
  constructor
  · rintro ⟨_, ⟨reaction, reacted, other, ⟨found, visible⟩, rfl⟩, about⟩
    obtain ⟨otherPresent, -⟩ := mem_of_reactedMessage found
    obtain rfl := message_eq_of_id present otherPresent (SubjectId.message.inj about)
    exact ⟨⟨reaction, reacted, found⟩, visible⟩
  · rintro ⟨⟨reaction, reacted, found⟩, visible⟩
    exact ⟨_, ⟨reaction, reacted, message, ⟨found, visible⟩, rfl⟩, rfl⟩

/-- A query returns a message to those who fulfil its other conditions and whom its own question
about the masks lets pass. -/
theorem mayReturn_iff {query : SnippetQuery} :
    MayReturn state userId message query ↔
      ∃ channel, state.liveChannel message.channelId = some channel ∧
        Entitled state userId message channel query ∧ Shows state userId channel query := by
  cases query with
  | recent =>
    rw [mayReturn_recent, and_showsChannel_iff]
    exact and_iff_right present
  | saved =>
    simp only [MayReturn, assertMessageVisible_eq_ok_iff, savedSource_eq_some_iff]
    constructor
    · rintro ⟨other, channel, ⟨⟨otherPresent, same⟩, undeleted, live⟩, savable⟩
      obtain rfl := message_eq_of_id present otherPresent same
      exact ⟨channel, live, undeleted, savable⟩
    · rintro ⟨channel, live, undeleted, savable⟩
      exact ⟨message, channel, ⟨⟨present, rfl⟩, undeleted, live⟩, savable⟩
  | activity kind =>
    rw [mayReturn_activity]
    cases kind with
    | mention =>
      rw [← mayReturn_activity, mayReturn_mention present]
      exact and_showsChannel_iff
    | reply =>
      simp only [activitiesOf, mem_replies]
      rw [exists_messageActivity .reply (fun _ => false) (fun _ => _ ∧ _) present]
      exact and_showsChannel_iff
    | reaction =>
      rw [activitiesOf, exists_reactionActivity present]
      exact and_showsChannel_iff
    | direct =>
      simp only [activitiesOf, mem_directs]
      rw [exists_messageActivity .direct (fun _ => false) (fun _ => _ ∧ _) present]
      constructor
      · rintro ⟨isDirect, allowed⟩
        obtain ⟨channel, live, -⟩ := (any_eq_true _ _).mp (Bool.and_eq_true_iff.mp isDirect).2
        have sameId := (liveChannel_eq_some_iff.mp live).2.1
        refine ⟨channel, live, isDirect, ?_⟩
        rwa [Shows, sameId]
      · rintro ⟨channel, live, isDirect, allowed⟩
        have sameId := (liveChannel_eq_some_iff.mp live).2.1
        refine ⟨isDirect, ?_⟩
        rwa [Shows, sameId] at allowed
    | friendRequest =>
      simp only [activitiesOf, mem_friendRequests]
      constructor
      · rintro ⟨_, ⟨friendship, -, -, user, -, rfl⟩, about⟩
        cases about
      · rintro ⟨channel, -, entitled, -⟩
        exact entitled.elim

end Returned

/-- A query agrees with the effective mask for a user who fulfils its other conditions exactly
when the rows of the channel come to the same in both. -/
theorem inbox_agrees_iff (state : InboxState) (userId : UserId) (message : Message)
    (present : message ∈ state.messages) (query : SnippetQuery) :
    AgreesWithFold state userId message query ↔
      ∀ channel, state.liveChannel message.channelId = some channel →
        Entitled state userId message channel query → MasksAgree state userId channel query := by
  rw [AgreesWithFold, mayReturn_iff present]
  constructor
  · intro agrees channel live entitled
    refine (shows_agrees_iff entitled).mp ⟨fun shown => ?_, fun reads => ?_⟩
    · obtain ⟨other, otherLive, -, reads⟩ := agrees.mp ⟨channel, live, entitled, shown⟩
      obtain rfl := Option.some.inj (live.symm.trans otherLive)
      exact reads
    · obtain ⟨other, otherLive, -, shown⟩ := agrees.mpr ⟨channel, live, entitled, reads⟩
      obtain rfl := Option.some.inj (live.symm.trans otherLive)
      exact shown
  · intro agree
    refine exists_congr fun channel => and_congr_right fun live => and_congr_right fun entitled => ?_
    exact (shows_agrees_iff entitled).mpr (agree channel live entitled)

/-- User 1 mentions user 2, a member of the workspace. -/
def accessMention : Message :=
  { id := ⟨1⟩, channelId := ⟨1⟩, authorId := ⟨1⟩, content := "@two", createdAt := 1
    mentions := { users := [⟨2⟩] } }

def accessExample (isPrivate : Bool) (overrides : OverrideTable) : InboxState :=
  .ofMessages
    (.withoutRoles (.single ⟨⟨1⟩, ⟨2⟩, .member⟩)
      (.single { id := ⟨1⟩, workspaceId := some ⟨1⟩, name := "plan", position := 0
                 isPrivate := isPrivate, createdAt := 0 })
      overrides)
    .empty (.single accessMention rfl)

/-- In a public channel without rows a member reads what the inbox shows. -/
theorem recent_agrees_without_rows :
    AgreesWithFold (accessExample false .empty) ⟨2⟩ accessMention .recent := by
  refine (inbox_agrees_iff _ _ _ (Table.mem_single.mpr rfl) _).mpr ?_
  intro channel live _ member joined
  cases live
  cases joined
  decide

/-- The inbox shows a member what its own row denies, and hides from a member what its own row
allows against a row of its role. -/
theorem recent_differs_from_fold :
    let denied := accessExample false (.single ⟨⟨1⟩, .user ⟨2⟩, .none, .read⟩)
    let overruled := accessExample true
      ((Table.single ⟨⟨1⟩, .systemRole .member, .none, .read⟩).upsert
        ⟨⟨1⟩, .user ⟨2⟩, .read, .none⟩)
    (MayReturn denied ⟨2⟩ accessMention .recent ∧ ¬AgreesWithFold denied ⟨2⟩ accessMention .recent) ∧
      (¬MayReturn overruled ⟨2⟩ accessMention .recent ∧
        ¬AgreesWithFold overruled ⟨2⟩ accessMention .recent) ∧
      ¬∀ (state : InboxState) (userId : UserId), ∀ message ∈ state.messages, ∀ query,
        AgreesWithFold state userId message query := by
  intro denied overruled
  have deniedShown : MayReturn denied ⟨2⟩ accessMention .recent :=
    mayReturn_recent.mpr ⟨Table.mem_single.mpr rfl, by decide, by decide⟩
  have leaks : ¬AgreesWithFold denied ⟨2⟩ accessMention .recent := by
    intro agrees
    obtain ⟨channel, live, -, reads⟩ := agrees.mp deniedShown
    cases live
    revert reads
    decide
  have hidden : ¬MayReturn overruled ⟨2⟩ accessMention .recent := by
    intro shown
    have visible := (mayReturn_recent.mp shown).2.2
    revert visible
    decide
  have hides : ¬AgreesWithFold overruled ⟨2⟩ accessMention .recent := fun agrees =>
    hidden (agrees.mpr ⟨_, rfl, ⟨by decide, by decide⟩, by decide⟩)
  exact ⟨⟨deniedShown, leaks⟩, ⟨hidden, hides⟩, fun always =>
    leaks (always denied ⟨2⟩ accessMention (Table.mem_single.mpr rfl) .recent)⟩

end Bongtalk.Me
