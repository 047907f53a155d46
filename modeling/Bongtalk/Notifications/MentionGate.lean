import Bongtalk.Prisma.Notifications

/-!
# The gate of mention notifications

Every path that notifies of a mention asks one gate which candidates hear of it. The gate looks at
blocks, mutes, do-not-disturb, thread subscriptions and levels, and never at the permissions on the
channel. A schedule of do-not-disturb is read in the user's time zone, and of the levels that are
set for a channel, a server or globally the narrowest counts.
-/

namespace Bongtalk.Notifications

open Library Prisma

/-- A weekday from Sunday on and a minute of that day. -/
structure DayMinute where
  day : Nat
  minute : Nat
deriving DecidableEq, Repr

/-- `getUTCDay` and the UTC minute of the day; the epoch began on a Thursday. -/
def utcDayMinute (at_ : DateTime) : DayMinute where
  day := (at_ / 86400000 + 4) % 7
  minute := at_ / 60000 % 1440

/-- What `Intl.DateTimeFormat` makes of a time in a named zone; nothing where it throws. -/
abbrev ZoneClock := String → DateTime → Option DayMinute

/-- `DndScheduleService.localDayMinute`; an unknown zone falls back to UTC. -/
def localDayMinute (zoneClock : ZoneClock) (at_ : DateTime) (timezone : Option String) :
    DayMinute :=
  match timezone with
  | none => utcDayMinute at_
  | some zone =>
    if zone = "" then utcDayMinute at_ else (zoneClock zone at_).getD (utcDayMinute at_)

/-- Whether a window covers a point of the week: a window past midnight starts on its own day
and ends on the next one. -/
def DndEntry.covers (entry : DndEntry) (now : DayMinute) : Bool :=
  if entry.startMin < entry.endMin then
    entry.day == now.day && decide (entry.startMin ≤ now.minute) && decide (now.minute < entry.endMin)
  else if entry.endMin < entry.startMin then
    (entry.day == now.day && decide (entry.startMin ≤ now.minute)) ||
      (entry.day == (now.day + 6) % 7 && decide (now.minute < entry.endMin))
  else false

/-- `DndScheduleService.isActive`. -/
def isActive (zoneClock : ZoneClock) (at_ : DateTime) (schedule : Option DndSchedule)
    (timezone : Option String) : Bool :=
  match schedule with
  | none => false
  | some schedule => schedule.days.any (DndEntry.covers · (localDayMinute zoneClock at_ timezone))

/-- `isDndSuppressed` on a user row joined with its settings. -/
def isDndSuppressed (zoneClock : ZoneClock) (user : User) (dndUntil : Option DateTime)
    (at_ : DateTime) : Bool :=
  user.presencePreference == .dnd || dndUntil.any (fun until_ => decide (at_ < until_)) ||
    isActive zoneClock at_ user.dndSchedule user.timezone

/-- How a recipient was mentioned: by name, or by a mention of the whole channel. -/
inductive MentionKind where
  | direct
  | broad
deriving DecidableEq, Repr

structure ResolvedNotifInputs where
  channelLevel : Option NotifLevel := none
  serverLevel : Option NotifLevel := none
  globalLevel : Option NotifLevel := none
  serverMuted : Bool := false
  channelMuted : Bool := false
  suppressEveryone : Bool := false

/-- The narrowest level that is set, or `MENTIONS`. -/
def resolveEffectiveLevel (inputs : ResolvedNotifInputs) : NotifLevel :=
  ((inputs.channelLevel.or inputs.serverLevel).or inputs.globalLevel).getD .mentions

def shouldNotifyMention (inputs : ResolvedNotifInputs) (kind : MentionKind) : Bool :=
  if inputs.serverMuted || inputs.channelMuted then false
  else
    match resolveEffectiveLevel inputs with
    | .nothing => false
    | .all => true
    | .mentions => kind == .direct || (kind == .broad && !inputs.suppressEveryone)

/-- A mute without an end lasts. -/
def isMuteActive (isMuted : Bool) (muteUntil : Option DateTime) (now : DateTime) : Bool :=
  isMuted && muteUntil.all fun until_ => decide (now < until_)

/-- What the gate of `NotifLevelService.buildGate` knows about one candidate. -/
def inputsFor (tables : NotificationTables) (channelId : ChannelId)
    (workspaceId : Option WorkspaceId) (now : DateTime) (userId : UserId) : ResolvedNotifInputs :=
  let channel := tables.userChannelMutes.findUnique (userId, channelId)
  let server := workspaceId.bind fun workspaceId =>
    tables.serverNotificationPrefs.findUnique (userId, workspaceId)
  { channelLevel := channel.bind (·.level)
    serverLevel := server.map (·.level)
    globalLevel := (tables.userSettings.findUnique userId).map (·.notifTrigger)
    serverMuted := server.any fun row => isMuteActive row.isMuted row.muteUntil now
    channelMuted := channel.any fun row => isMuteActive row.isMuted row.mutedUntil now
    suppressEveryone := server.any (·.suppressEveryone) }

/-- Whoever hears of a broad mention hears of a direct one. -/
theorem shouldNotifyMention_direct_of_broad {inputs : ResolvedNotifInputs}
    (broad : shouldNotifyMention inputs .broad = true) :
    shouldNotifyMention inputs .direct = true := by
  unfold shouldNotifyMention at broad ⊢
  by_cases muted : (inputs.serverMuted || inputs.channelMuted) = true
  · simp [muted] at broad
  simp only [muted, Bool.false_eq_true, if_false] at broad ⊢
  cases level : resolveEffectiveLevel inputs with
  | nothing => simp [level] at broad
  | all => rfl
  | mentions => rfl

/-- The mention a gate is asked about. -/
structure MentionContext where
  channelId : ChannelId
  workspaceId : Option WorkspaceId
  authorId : UserId
  parentMessageId : Option MessageId
  now : DateTime

section Gates

variable (tables : NotificationTables) (mention : MentionContext) (userId : UserId)

/-- A block between the author and the candidate, in either direction. -/
def isBlocked : Bool :=
  tables.friendships.rows.any fun row =>
    row.status == .blocked &&
      ((row.requesterId == mention.authorId && row.addresseeId == userId) ||
        (row.requesterId == userId && row.addresseeId == mention.authorId))

/-- An active mute of the channel. -/
def isMuted : Bool :=
  tables.userChannelMutes.rows.any fun row =>
    row.channelId == mention.channelId && row.userId == userId &&
      isMuteActive row.isMuted row.mutedUntil mention.now

def isDnd (zoneClock : ZoneClock) : Bool :=
  tables.users.rows.any fun row =>
    row.id == userId &&
      isDndSuppressed zoneClock row
        ((tables.userSettings.findUnique row.id).bind (·.dndUntil)) mention.now

/-- For a reply: the candidate switched the thread off. -/
def isThreadOff : Bool :=
  mention.parentMessageId.any fun parentId =>
    tables.threadSubscriptions.rows.any fun row =>
      row.threadParentId == parentId && row.userId == userId && row.notificationLevel == .off

/-- All five gates let the candidate through. -/
def isNotifiable (zoneClock : ZoneClock) (kind : MentionKind) : Bool :=
  !isBlocked tables mention userId && !isMuted tables mention userId &&
    !isDnd tables mention userId zoneClock && !isThreadOff tables mention userId &&
    shouldNotifyMention
      (inputsFor tables mention.channelId mention.workspaceId mention.now userId) kind

end Gates

/-- `MentionGateService.filterNotifiable`. -/
def filterNotifiable (tables : NotificationTables) (zoneClock : ZoneClock)
    (mention : MentionContext) (candidateUserIds : List UserId) (kindFor : UserId → MentionKind) :
    List UserId :=
  candidateUserIds.eraseDups.filter fun userId =>
    isNotifiable tables mention userId zoneClock (kindFor userId)

variable {tables : NotificationTables} {zoneClock : ZoneClock} {mention : MentionContext}

variable {userId : UserId}

@[simp]
theorem mem_filterNotifiable {candidateUserIds : List UserId} {kindFor : UserId → MentionKind} :
    userId ∈ filterNotifiable tables zoneClock mention candidateUserIds kindFor ↔
      userId ∈ candidateUserIds ∧
        isNotifiable tables mention userId zoneClock (kindFor userId) = true := by
  rw [filterNotifiable, List.mem_filter, List.mem_eraseDups]

theorem filterNotifiable_nodup (candidateUserIds : List UserId) (kindFor : UserId → MentionKind) :
    (filterNotifiable tables zoneClock mention candidateUserIds kindFor).Nodup :=
  (nodup_eraseDups candidateUserIds).filter _

/-- Whoever is notified of a broad mention is notified of a direct one. -/
theorem isNotifiable_direct_of_broad
    (broad : isNotifiable tables mention userId zoneClock .broad = true) :
    isNotifiable tables mention userId zoneClock .direct = true := by
  simp only [isNotifiable, Bool.and_eq_true] at broad ⊢
  exact ⟨broad.1, shouldNotifyMention_direct_of_broad broad.2⟩

end Bongtalk.Notifications
