import Bongtalk.Channels.UnreadCounts
import Bongtalk.Prisma.Notifications

/-!
# Notification badges

For each workspace of a user, how many messages it has not read and how many of them mention it.
The badges leave muted channels out, and the totals of the rail leave archived ones out.
-/

namespace Bongtalk.Me

open Library Channels Channels.Permission Common.Acl Messages Prisma List

structure BadgeState where
  db : Database
  acks : AckState ChannelId
  tables : NotificationTables

open BadgeState

structure NotificationBadge where
  workspaceId : WorkspaceId
  mentionCount : Nat
  unreadCount : Nat
deriving DecidableEq, Repr

structure UnreadWorkspaceTotal where
  workspaceId : WorkspaceId
  unreadCount : Nat
  hasMention : Bool
  mentionCount : Nat
deriving DecidableEq, Repr

/-- The time of a mute, which without one is for ever. -/
def isActiveUntil (now : DateTime) (mutedUntil : Option DateTime) : Bool :=
  mutedUntil.all (now < ·)

def isActiveServerMute (userId : UserId) (now : DateTime) (pref : ServerNotificationPref) : Bool :=
  pref.userId == userId && pref.isMuted && isActiveUntil now pref.muteUntil

def isActiveChannelMute (userId : UserId) (now : DateTime) (mute : UserChannelMute) : Bool :=
  mute.userId == userId && mute.isMuted && isActiveUntil now mute.mutedUntil

namespace BadgeState

variable (state : BadgeState) (userId : UserId) (now : DateTime)

/-- `my_memberships`, in the order of the workspaces. -/
def memberships : List WorkspaceMember :=
  (state.db.workspaceMembers.findMany (·.userId == userId)).mergeSort
    fun first second => first.workspaceId.value ≤ second.workspaceId.value

def isServerMuted (workspaceId : WorkspaceId) : Bool :=
  state.tables.serverNotificationPrefs.rows.any fun pref =>
    isActiveServerMute userId now pref && pref.workspaceId == workspaceId

def isChannelMuted (channelId : ChannelId) : Bool :=
  state.tables.userChannelMutes.rows.any fun mute =>
    isActiveChannelMute userId now mute && mute.channelId == channelId

/-- The predicate of the queries on a channel of a membership. -/
def isReadable (member : WorkspaceMember) (channel : Channel) : Bool :=
  readBitVisibleSql (overrideRefs state.db.overrides.rows channel userId
    (rolePrincipals member.role (state.db.roleIdsOf member.workspaceId userId)))

/-- `visible_channels` of the badges in a workspace. -/
def badgeChannels (member : WorkspaceMember) : List Channel :=
  state.db.channels.findMany fun channel =>
    channel.workspaceId == some member.workspaceId && channel.deletedAt == none &&
      !state.isServerMuted userId now member.workspaceId &&
      !state.isChannelMuted userId now channel.id && state.isReadable userId member channel

/-- The unread messages of others in a channel. -/
def badgeRows (channelId : ChannelId) : List Message :=
  (unreadChannelRows state.acks userId channelId).filter (·.authorId != userId)

def badgeOf (member : WorkspaceMember) : NotificationBadge where
  workspaceId := member.workspaceId
  mentionCount := ((state.badgeChannels userId now member).map fun channel =>
    mentionCount userId (state.badgeRows userId channel.id)).sum
  unreadCount := ((state.badgeChannels userId now member).map fun channel =>
    (state.badgeRows userId channel.id).length).sum

def badges : List NotificationBadge :=
  (state.memberships userId).map (state.badgeOf userId now)

/-- `visible_channels` of the totals in a workspace. -/
def totalChannels (member : WorkspaceMember) : List Channel :=
  state.db.channels.findMany fun channel =>
    channel.workspaceId == some member.workspaceId && channel.deletedAt == none &&
      channel.archivedAt == none && state.isReadable userId member channel

def totalOf (member : WorkspaceMember) : UnreadWorkspaceTotal :=
  let rows := fun channel : Channel => unreadChannelRows state.acks userId channel.id
  { workspaceId := member.workspaceId
    unreadCount := ((state.totalChannels userId member).map fun channel =>
      (rows channel).length).sum
    hasMention := (state.totalChannels userId member).any fun channel =>
      (rows channel).any fun message => mentionMatchSql message.mentions userId
    mentionCount := ((state.totalChannels userId member).map fun channel =>
      mentionCount userId (rows channel)).sum }

def summarizeWorkspaceTotals : List UnreadWorkspaceTotal :=
  (state.memberships userId).map (state.totalOf userId)

/-- The row of a mute is written. -/
def muteChannel (mute : UserChannelMute) : BadgeState :=
  { state with
    tables := { state.tables with userChannelMutes := state.tables.userChannelMutes.upsert mute } }

end BadgeState

/-- A sum over a list is the sum over both parts of it. -/
theorem sum_filter_add {α : Type} (rows : List α) (size : α → Nat) (kept : α → Bool) :
    ((rows.filter kept).map size).sum + ((rows.filter (fun row => !kept row)).map size).sum =
      (rows.map size).sum := by
  have parts := (filter_append_perm kept rows).map size
  rw [map_append] at parts
  rw [← parts.sum_nat, sum_append_nat]

/-- The one row of a key among rows with distinct keys. -/
theorem sum_filter_key {α κ : Type} [DecidableEq κ] {rows : List α} {key : α → κ}
    (distinct : (rows.map key).Nodup) (size : κ → Nat) (wanted : κ) :
    ((rows.filter (key · == wanted)).map fun row => size (key row)).sum =
      if wanted ∈ rows.map key then size wanted else 0 := by
  induction rows with
  | nil => rfl
  | cons row rest ih =>
    obtain ⟨fresh, restDistinct⟩ := nodup_cons.mp distinct
    have restSum := ih restDistinct
    by_cases same : key row = wanted
    · rw [same] at fresh
      rw [if_neg fresh] at restSum
      rw [filter_cons_of_pos (by simpa using same), map_cons, sum_cons, restSum,
        map_cons, same, if_pos mem_cons_self, Nat.add_zero]
    · rw [filter_cons_of_neg (by simpa using same), restSum, map_cons]
      simp only [mem_cons, Ne.symm same, false_or]

section Members

variable {state : BadgeState} {userId : UserId} {now : DateTime} {member : WorkspaceMember}

/-- The live channels of a workspace that a member reads, by the predicate of the queries. -/
def readableChannels (state : BadgeState) (userId : UserId) (member : WorkspaceMember) :
    List Channel :=
  state.db.channels.findMany fun channel =>
    channel.workspaceId == some member.workspaceId && channel.deletedAt == none &&
      state.isReadable userId member channel

theorem badgeChannels_eq : state.badgeChannels userId now member =
    (readableChannels state userId member).filter fun channel =>
      !state.isServerMuted userId now member.workspaceId &&
        !state.isChannelMuted userId now channel.id := by
  rw [readableChannels, Table.findMany, filter_filter]
  refine congrArg (state.db.channels.rows.filter ·) (funext fun channel => ?_)
  grind

theorem totalChannels_eq : state.totalChannels userId member =
    (readableChannels state userId member).filter (·.archivedAt == none) := by
  rw [readableChannels, Table.findMany, filter_filter]
  refine congrArg (state.db.channels.rows.filter ·) (funext fun channel => ?_)
  grind

/-- What a channel adds to the badge of a workspace: mentions and unread messages. -/
def contributionOf (state : BadgeState) (userId : UserId) (now : DateTime)
    (member : WorkspaceMember) (channelId : ChannelId) : Nat × Nat :=
  if channelId ∈ (state.badgeChannels userId now member).map Channel.id then
    (mentionCount userId (state.badgeRows userId channelId), (state.badgeRows userId channelId).length)
  else (0, 0)

variable {mute : UserChannelMute}

variable (active : isActiveChannelMute userId now mute = true)

include active

/-- An active mute mutes its channel and no other. -/
theorem isChannelMuted_muteChannel (channelId : ChannelId) :
    (state.muteChannel mute).isChannelMuted userId now channelId =
      (state.isChannelMuted userId now channelId || channelId == mute.channelId) := by
  have own : mute.userId = userId := by
    rw [isActiveChannelMute, Bool.and_eq_true, Bool.and_eq_true, beq_iff_eq] at active
    exact active.1.1
  rw [Bool.eq_iff_iff, Bool.or_eq_true, beq_iff_eq]
  simp only [isChannelMuted, any_eq_true, Bool.and_eq_true, beq_iff_eq]
  constructor
  · rintro ⟨other, otherMem, isActive, rfl⟩
    rcases Table.mem_upsert.mp otherMem with rfl | ⟨stored, -⟩
    · exact .inr rfl
    · exact .inl ⟨other, stored, isActive, rfl⟩
  · rintro (⟨other, stored, isActive, rfl⟩ | rfl)
    · by_cases same : other.channelId = mute.channelId
      · exact ⟨mute, Table.mem_upsert.mpr (.inl rfl), active, same.symm⟩
      exact ⟨other, Table.mem_upsert.mpr (.inr ⟨stored, fun sameKey =>
        same (Prod.mk.inj sameKey).2⟩), isActive, rfl⟩
    · exact ⟨mute, Table.mem_upsert.mpr (.inl rfl), active, rfl⟩

theorem badgeChannels_muteChannel :
    (state.muteChannel mute).badgeChannels userId now member =
      (state.badgeChannels userId now member).filter fun channel =>
        !(channel.id == mute.channelId) := by
  have sameReadable : readableChannels (state.muteChannel mute) userId member =
      readableChannels state userId member := rfl
  have sameServers : (state.muteChannel mute).isServerMuted userId now member.workspaceId =
      state.isServerMuted userId now member.workspaceId := rfl
  rw [badgeChannels_eq, badgeChannels_eq, filter_filter, sameReadable, sameServers]
  refine congrArg ((readableChannels state userId member).filter ·) (funext fun channel => ?_)
  rw [isChannelMuted_muteChannel active, Bool.not_or]
  grind

/-- A sum over the counted channels falls by what the muted one has. -/
theorem sum_muteChannel (size : ChannelId → Nat) :
    ((state.badgeChannels userId now member).map fun channel => size channel.id).sum =
      (((state.muteChannel mute).badgeChannels userId now member).map fun channel =>
        size channel.id).sum +
      if mute.channelId ∈ (state.badgeChannels userId now member).map Channel.id then
        size mute.channelId
      else 0 := by
  have distinct : ((state.badgeChannels userId now member).map Channel.id).Nodup :=
    state.db.channels.keysNodup.sublist (filter_sublist.map _)
  rw [badgeChannels_muteChannel active, ← sum_filter_key distinct size mute.channelId, Nat.add_comm,
    sum_filter_add]

end Members

section Agreement

variable (state : BadgeState) (userId : UserId) (now : DateTime)

/-- No mute of the user is active, and no unread message is its own. -/
structure IsPlain : Prop where
  servers : ∀ pref ∈ state.tables.serverNotificationPrefs,
    isActiveServerMute userId now pref = false
  channels : ∀ mute ∈ state.tables.userChannelMutes, isActiveChannelMute userId now mute = false
  authors : ∀ channelId, ∀ message ∈ unreadChannelRows state.acks userId channelId,
    message.authorId ≠ userId

/-- The badges show what the totals of the rail show. -/
def BadgesAreTotals : Prop :=
  (state.badges userId now).map (fun badge =>
      (badge.workspaceId, badge.mentionCount, badge.unreadCount)) =
    (state.summarizeWorkspaceTotals userId).map fun total =>
      (total.workspaceId, total.mentionCount, total.unreadCount)

/-- Muting a channel takes away what the channel adds to the badge of its workspace. -/
def MutesRemoveContribution : Prop :=
  ∀ mute, isActiveChannelMute userId now mute = true →
    (state.muteChannel mute).memberships userId = state.memberships userId ∧
      ∀ member ∈ state.memberships userId,
        let before := state.badgeOf userId now member
        let muted := (state.muteChannel mute).badgeOf userId now member
        let removed := contributionOf state userId now member mute.channelId
        before.mentionCount = muted.mentionCount + removed.1 ∧
          before.unreadCount = muted.unreadCount + removed.2

/-- No archived channel that the user reads has an unread message. -/
def ArchivedAreRead : Prop :=
  ∀ member ∈ state.memberships userId, ∀ channel ∈ readableChannels state userId member,
    channel.archivedAt ≠ none → unreadChannelRows state.acks userId channel.id = []

variable {state userId now}

section

variable (plain : IsPlain state userId now)

include plain

theorem badgeRows_of_plain (channelId : ChannelId) :
    state.badgeRows userId channelId = unreadChannelRows state.acks userId channelId := by
  apply filter_eq_self.mpr
  intro message unread
  exact bne_iff_ne.mpr (plain.authors channelId message unread)

theorem badgeChannels_of_plain (member : WorkspaceMember) :
    state.badgeChannels userId now member = readableChannels state userId member := by
  rw [badgeChannels_eq]
  apply filter_eq_self.mpr
  intro channel _
  have noServer : state.isServerMuted userId now member.workspaceId = false := by
    rw [isServerMuted, any_eq_false]
    intro pref prefMem
    rw [plain.servers pref prefMem]
    exact Bool.false_ne_true
  have noChannel : state.isChannelMuted userId now channel.id = false := by
    rw [isChannelMuted, any_eq_false]
    intro mute muteMem
    rw [plain.channels mute muteMem]
    exact Bool.false_ne_true
  rw [noServer, noChannel]
  rfl

/-- The badge of a workspace is its total when the archived channels add nothing. -/
theorem badgeOf_eq_totalOf_iff (member : WorkspaceMember) :
    ((state.badgeOf userId now member).mentionCount = (state.totalOf userId member).mentionCount ∧
        (state.badgeOf userId now member).unreadCount = (state.totalOf userId member).unreadCount) ↔
      ∀ channel ∈ readableChannels state userId member, channel.archivedAt ≠ none →
        unreadChannelRows state.acks userId channel.id = [] := by
  have archived : ∀ size : Channel → Nat,
      ((readableChannels state userId member).map size).sum =
          ((state.totalChannels userId member).map size).sum ↔
        ∀ channel ∈ readableChannels state userId member, channel.archivedAt ≠ none →
          size channel = 0 := by
    intro size
    rw [totalChannels_eq, ← sum_filter_add _ size (·.archivedAt == none), Nat.add_eq_left,
      List.sum_eq_zero_iff_forall_eq_nat]
    simp only [List.forall_mem_map, List.mem_filter, Bool.not_eq_true', beq_eq_false_iff_ne,
      and_imp]
  simp only [badgeOf, totalOf, badgeChannels_of_plain plain,
    badgeRows_of_plain plain, archived, List.length_eq_zero_iff]
  constructor
  · exact And.right
  · intro unread
    refine ⟨fun channel readable isArchived => ?_, unread⟩
    rw [unread channel readable isArchived]
    rfl

theorem badgesAreTotals_iff :
    BadgesAreTotals state userId now ↔ ArchivedAreRead state userId := by
  rw [BadgesAreTotals, badges, summarizeWorkspaceTotals, map_map, map_map, map_inj_left]
  refine forall₂_congr fun member _ => ?_
  rw [← badgeOf_eq_totalOf_iff plain member, Function.comp_apply, Function.comp_apply,
    Prod.mk.injEq, Prod.mk.injEq]
  exact and_iff_right rfl

end

theorem mutesRemoveContribution : MutesRemoveContribution state userId now := by
  intro mute active
  refine ⟨rfl, fun member _ => ?_⟩
  dsimp only
  rw [contributionOf, apply_ite Prod.fst, apply_ite Prod.snd]
  exact ⟨sum_muteChannel active fun channelId =>
      mentionCount userId (state.badgeRows userId channelId),
    sum_muteChannel active fun channelId => (state.badgeRows userId channelId).length⟩

/-- Without mutes and messages of its own a user has the totals as badges exactly when no archived
channel has an unread message. Every mute removes what its channel adds. -/
theorem badges_are_totals_iff (state : BadgeState) (userId : UserId) (now : DateTime) :
    ((IsPlain state userId now → BadgesAreTotals state userId now) ∧
        MutesRemoveContribution state userId now) ↔
      (IsPlain state userId now → ArchivedAreRead state userId) := by
  rw [and_iff_left mutesRemoveContribution]
  exact forall_congr' badgesAreTotals_iff

end Agreement

/-- An archived channel of a workspace of user 2 with a message that it has not read. -/
def archivedExample : BadgeState where
  db := .withoutRoles (.single ⟨⟨1⟩, ⟨2⟩, .member⟩)
    (.single { id := ⟨1⟩, workspaceId := some ⟨1⟩, name := "old", position := 0
               archivedAt := some 5, createdAt := 0 })
    .empty
  acks :=
    { messages := .single
        { id := ⟨7⟩, channelId := ⟨1⟩, authorId := ⟨1⟩, content := "late", createdAt := 1 } rfl }
  tables := .empty

/-- The badge counts the message of the archived channel, and the total does not. -/
theorem archived_in_badge :
    IsPlain archivedExample ⟨2⟩ 10 ∧ archivedExample.badges ⟨2⟩ 10 = [⟨⟨1⟩, 0, 1⟩] ∧
      archivedExample.summarizeWorkspaceTotals ⟨2⟩ = [⟨⟨1⟩, 0, false, 0⟩] ∧
      ¬∀ (state : BadgeState) (userId : UserId) (now : DateTime),
        (IsPlain state userId now → BadgesAreTotals state userId now) ∧
          MutesRemoveContribution state userId now := by
  have plain : IsPlain archivedExample ⟨2⟩ 10 := by
    refine ⟨fun pref prefMem => ?_, fun mute muteMem => ?_, fun channelId message unread => ?_⟩
    · cases prefMem
    · cases muteMem
    · have present := (mem_unreadRows _ _ _).mp (mem_filter.mp unread).1
      rw [Table.mem_single.mp present.1]
      decide
  have badge : archivedExample.badges ⟨2⟩ 10 = [⟨⟨1⟩, 0, 1⟩] := by decide +kernel
  have total : archivedExample.summarizeWorkspaceTotals ⟨2⟩ = [⟨⟨1⟩, 0, false, 0⟩] := by
    decide +kernel
  refine ⟨plain, badge, total, fun always => ?_⟩
  have same := (always archivedExample ⟨2⟩ 10).1 plain
  rw [BadgesAreTotals, badge, total] at same
  revert same
  decide

end Bongtalk.Me
