import Bongtalk.Realtime.Presence.Absence

/-!
# Invisible users

Two worlds part when a user who stays connected in one of them is disconnected in the other. From
then on the requests of this user happen in the first world only, and everything else in both. An
invisible user should make no difference to what others are shown.
-/

namespace Bongtalk.Realtime.Presence

open Library Prisma BroadcastPhase Function

variable {config : GatewayConfig} {userId : UserId} {world : PresenceWorld}

def PresenceEvent.isFrom (userId : UserId) : PresenceEvent → Bool
  | .request other _ _ => other == userId
  | _ => false

/-- The same step in both worlds, unless it is a request of the user. -/
def Mirrored (config : GatewayConfig) (userId : UserId) (worlds : PresenceWorld × PresenceWorld)
    (event : PresenceEvent) (next : PresenceWorld × PresenceWorld) : Prop :=
  next = (worlds.1.next config event,
    if event.isFrom userId then worlds.2 else worlds.2.next config event)

/-- The first world runs through all events, the second through those of the others. -/
theorem steps_mirrored_iff {config : GatewayConfig} {userId : UserId}
    {worlds finish : PresenceWorld × PresenceWorld} {events : List PresenceEvent} :
    Steps (Mirrored config userId) worlds events finish ↔
      finish = (events.foldl (·.next config ·) worlds.1,
        (events.filter fun event => !event.isFrom userId).foldl (·.next config ·) worlds.2) := by
  constructor
  · intro steps
    induction steps with
    | refl => rfl
    | @step labels current event next prior transition ih =>
      rw [transition, ih, List.foldl_append, List.filter_append, List.foldl_append]
      cases isOwn : event.isFrom userId <;> simp [isOwn]
  · rintro rfl
    induction events using List.reverseRecOn with
    | nil => exact .refl
    | append_singleton events event ih =>
      refine .step ih ?_
      rw [List.foldl_append, List.filter_append, List.foldl_append]
      unfold Mirrored
      cases isOwn : event.isFrom userId <;> simp [isOwn]

/-- What an update shows to others, and when. -/
def WritePhase.shownToOthers (userId : UserId) :
    WritePhase → Option (List (UserId × PresenceStatus) × Nat)
  | updated shown updatedAt =>
    if shown.any fun row => decide (row.1 ≠ userId) then
      some (shown.filter fun row => row.1 ≠ userId, updatedAt)
    else none
  | _ => none

/-- The answer to a query. -/
def QueryPhase.answered : QueryPhase → Option (List UserId ⊕ List PresenceEntry)
  | members userIds => some (.inl userIds)
  | bulk entries => some (.inr entries)
  | _ => none

/-- Whether a broadcast has begun, and what it says. -/
def BroadcastPhase.sentOut : BroadcastPhase → Option (Option WorkspacePresenceUpdatedPayload)
  | absent => none
  | sent payload => some (some payload)
  | _ => some none

/-- Others see the same in both worlds. -/
structure SeenAlike (userId : UserId) (worlds : PresenceWorld × PresenceWorld) : Prop where
  updates : ∀ other number, (worlds.2.writes other number).shownToOthers userId =
    (worlds.1.writes other number).shownToOthers userId
  queries : ∀ viewer number, viewer ≠ userId →
    (worlds.2.queries viewer number).answered = (worlds.1.queries viewer number).answered
  broadcasts : ∀ workspaceId number, (worlds.2.broadcasts workspaceId number).sentOut =
    (worlds.1.broadcasts workspaceId number).sentOut

/-- The calls of the throttler that others have made. -/
def othersCalls (userId : UserId) (pending : List ScheduleCall) : List ScheduleCall :=
  pending.filter fun call => call.userId ≠ userId

/-- What is read of a user looks as if there were no session and no activity. -/
def StatusKeys.LooksGone (now : Nat) (keys : StatusKeys) : Prop :=
  (keys.sessions.getD 0 = 0 ∨ keys.preference.getD .auto = .invisible) ∧
    ∀ lastMs, keys.lastMs = some (some lastMs) → lastMs = now

/-- The condition on a step. An update about the user reaches nobody else. A query of another user
has not found the user in a set with a session, and what it has read for an entry looks as if there
were no session and no activity. A broadcast has not found the user either, and begins when others
have waited for the window of the throttler. -/
def PresenceEvent.Fits (config : GatewayConfig) (userId : UserId) (world : PresenceWorld) :
    PresenceEvent → Prop
  | .advance other number viewers => other = userId → ∀ real updatedAt,
      world.writes other number = .emit real updatedAt → ∀ viewer ∈ viewers, viewer = userId
  | .answer viewer number => viewer ≠ userId →
      (∀ set workspaceId rows, world.queries viewer number = .removing set workspaceId rows →
        userId ∉ rows.alive) ∧
      ∀ rows, world.queries viewer number = .replying rows →
        ∀ keys, (userId, keys) ∈ rows → keys.LooksGone world.redis.now
  | .flush workspaceId number => world.broadcasts workspaceId number = .absent →
      isDue config world.redis.now (world.pending workspaceId) = true →
        isDue config world.redis.now (othersCalls userId (world.pending workspaceId)) = true
  | .send workspaceId number => ∀ dnd online,
      world.broadcasts workspaceId number = .emit dnd online →
        userId ∉ dnd ∧ userId ∉ online.map Prod.fst
  | _ => True

/-- A query in both worlds. -/
inductive QueryPhase.Alike (userId : UserId) : QueryPhase → QueryPhase → Prop where
  | absent : Alike userId .absent .absent
  | smembers (set : WorkspaceSet) (workspaceId : WorkspaceId) :
      Alike userId (.smembers set workspaceId) (.smembers set workspaceId)
  | counting (set : WorkspaceSet) (workspaceId : WorkspaceId) (rows : StatusRows) :
      Alike userId (.counting set workspaceId rows)
        (.counting set workspaceId (rows.without userId))
  | removing (set : WorkspaceSet) (workspaceId : WorkspaceId) (rows : StatusRows) :
      Alike userId (.removing set workspaceId rows)
        (.removing set workspaceId (rows.without userId))
  | reading {rows others : StatusRows} (rowsAlike : List.Forall₂ (RowAlike userId) rows others) :
      Alike userId (.reading rows) (.reading others)
  | replying {rows others : StatusRows} (rowsAlike : List.Forall₂ (RowAlike userId) rows others) :
      Alike userId (.replying rows) (.replying others)
  | members (userIds others : List UserId) : Alike userId (.members userIds) (.members others)
  | bulk (entries others : List PresenceEntry) : Alike userId (.bulk entries) (.bulk others)

/-- A broadcast in both worlds. -/
inductive BroadcastPhase.Alike (userId : UserId) : BroadcastPhase → BroadcastPhase → Prop where
  | absent : Alike userId .absent .absent
  | onlineMembers : Alike userId .onlineMembers .onlineMembers
  | dndMembers (online : List UserId) :
      Alike userId (.dndMembers online) (.dndMembers (online.filter fun member => member ≠ userId))
  | counting (online dnd : StatusRows) :
      Alike userId (.counting online dnd) (.counting (online.without userId) (dnd.without userId))
  | removing (online dnd : StatusRows) :
      Alike userId (.removing online dnd) (.removing (online.without userId) (dnd.without userId))
  | idle (dnd : List UserId) (online : StatusRows) :
      Alike userId (.idle dnd online)
        (.idle (dnd.filter fun member => member ≠ userId) (online.without userId))
  | emit (dnd : List UserId) (online : StatusRows) :
      Alike userId (.emit dnd online)
        (.emit (dnd.filter fun member => member ≠ userId) (online.without userId))
  | sent (payload other : WorkspacePresenceUpdatedPayload) : Alike userId (.sent payload) (.sent other)

/-- Two worlds after they have parted. -/
structure WorldsAlike (userId : UserId) (worlds : PresenceWorld × PresenceWorld) : Prop where
  redis : RedisAlike userId worlds.1.redis worlds.2.redis
  stored : ∀ other, other ≠ userId → worlds.2.stored other = worlds.1.stored other
  pending : ∀ workspaceId,
    worlds.2.pending workspaceId = othersCalls userId (worlds.1.pending workspaceId)
  writes : ∀ other, other ≠ userId → worlds.2.writes other = worlds.1.writes other
  gone : ∀ number, worlds.2.writes userId number = .absent
  queries : ∀ viewer number,
    QueryPhase.Alike userId (worlds.1.queries viewer number) (worlds.2.queries viewer number)
  broadcasts : ∀ workspaceId number, Alike userId
    (worlds.1.broadcasts workspaceId number) (worlds.2.broadcasts workspaceId number)

section Phases

variable {redis offline : PresenceState}

section

variable (alike : RedisAlike userId redis offline)

include alike

variable {phase phaseOffline : QueryPhase}

theorem QueryPhase.Alike.next {viewer : UserId}
    (phases : QueryPhase.Alike userId phase phaseOffline) :
    QueryPhase.Alike userId (phase.next config viewer redis)
      (phaseOffline.next config viewer offline) := by
  cases phases with
  | absent => exact .absent
  | smembers set workspaceId =>
    have counting : QueryPhase.Alike userId _ _ :=
      .counting set workspaceId (.unread (redis.workspaceSets set workspaceId))
    rw [without_unread, ← alike.sets] at counting
    exact counting
  | counting set workspaceId rows =>
    have removing : QueryPhase.Alike userId _ _ :=
      .removing set workspaceId (rows.countAll redis)
    rw [without_countAll alike] at removing
    exact removing
  | removing set workspaceId rows | members userIds others => exact .members _ _
  | reading rowsAlike => exact .replying (rowsAlike_readAll alike rowsAlike)
  | replying rowsAlike | bulk entries others => exact .bulk _ _

theorem QueryPhase.Alike.readKey (other : UserId) (key : StatusKey)
    (phases : QueryPhase.Alike userId phase phaseOffline) :
    QueryPhase.Alike userId (phase.readKey redis other key)
      (phaseOffline.readKey offline other key) := by
  cases phases with
  | counting set workspaceId rows =>
    have counting : QueryPhase.Alike userId _ _ :=
      .counting set workspaceId (rows.readOne redis other .sessions)
    rw [without_readOne alike] at counting
    exact counting
  | reading rowsAlike => exact .reading (rowsAlike_readOne alike other key rowsAlike)
  | absent => exact .absent
  | smembers set workspaceId => exact .smembers set workspaceId
  | removing set workspaceId rows => exact .removing set workspaceId rows
  | replying rowsAlike => exact .replying rowsAlike
  | members userIds others => exact .members _ _
  | bulk entries others => exact .bulk _ _

/-- The lazy removal of a query. -/
theorem QueryPhase.Alike.write (phases : QueryPhase.Alike userId phase phaseOffline) :
    RedisAlike userId (phase.write redis) (phaseOffline.write offline) := by
  cases phases with
  | removing set workspaceId rows =>
    exact alike.removeFrom fun _ differs => mem_toRemove_without rows differs
  | _ => exact alike

end

variable {phase phaseOffline : BroadcastPhase}

variable (alike : RedisAlike userId redis offline)

include alike

theorem BroadcastPhase.Alike.next {workspaceId : WorkspaceId}
    (phases : Alike userId phase phaseOffline) :
    Alike userId (phase.next config workspaceId redis)
      (phaseOffline.next config workspaceId offline) := by
  cases phases with
  | absent => exact .absent
  | onlineMembers =>
    have dndMembers : Alike userId _ _ :=
      .dndMembers (redis.workspaceSets .users workspaceId)
    rw [← alike.sets] at dndMembers
    exact dndMembers
  | dndMembers online =>
    have counting : Alike userId _ _ :=
      .counting (.unread online) (.unread (redis.workspaceSets .dnd workspaceId))
    rw [without_unread, without_unread, ← alike.sets] at counting
    exact counting
  | counting online dnd =>
    have removing : Alike userId _ _ :=
      .removing (online.countAll redis) (dnd.countAll redis)
    rw [without_countAll alike, without_countAll alike] at removing
    exact removing
  | removing online dnd =>
    have idle : Alike userId _ _ :=
      .idle dnd.alive (.unread online.alive)
    rw [without_unread, ← alive_without, ← alive_without] at idle
    exact idle
  | idle dnd online =>
    have emit : Alike userId _ _ :=
      .emit dnd (online.readAll redis)
    rw [without_readAll alike] at emit
    exact emit
  | emit dnd online | sent payload other => exact .sent _ _

theorem BroadcastPhase.Alike.readKey (set : WorkspaceSet) (other : UserId) (key : StatusKey)
    (phases : Alike userId phase phaseOffline) :
    Alike userId (phase.readKey redis set other key)
      (phaseOffline.readKey offline set other key) := by
  cases phases with
  | counting online dnd =>
    cases set with
    | users =>
      have counting : Alike userId _ _ :=
        .counting (online.readOne redis other .sessions) dnd
      rw [without_readOne alike] at counting
      exact counting
    | dnd =>
      have counting : Alike userId _ _ :=
        .counting online (dnd.readOne redis other .sessions)
      rw [without_readOne alike] at counting
      exact counting
  | idle dnd online =>
    have idle : Alike userId _ _ :=
      .idle dnd (online.readOne redis other key)
    rw [without_readOne alike] at idle
    exact idle
  | absent => exact .absent
  | onlineMembers => exact .onlineMembers
  | dndMembers online => exact .dndMembers online
  | removing online dnd => exact .removing online dnd
  | emit dnd online => exact .emit dnd online
  | sent payload other => exact .sent _ _

theorem BroadcastPhase.Alike.write {workspaceId : WorkspaceId}
    (phases : Alike userId phase phaseOffline) :
    RedisAlike userId (phase.write workspaceId redis) (phaseOffline.write workspaceId offline) := by
  cases phases with
  | removing online dnd =>
    exact (alike.removeFrom fun _ differs => mem_toRemove_without online differs).removeFrom
      fun _ differs => mem_toRemove_without dnd differs
  | _ => exact alike

end Phases

namespace WorldsAlike

variable {offline : PresenceWorld}

/-- The user writes in the one world. -/
theorem writeOwn (alike : WorldsAlike userId (world, offline)) (phase : WritePhase) :
    WorldsAlike userId (phase.write config userId world, offline) := by
  obtain ⟨redis, stored, pending, writes, gone, queries, broadcasts⟩ := alike
  cases phase with
  | register sessionId workspaceIds preference nowMs =>
    exact ⟨redis.registerOwn sessionId workspaceIds preference nowMs, stored, pending, writes, gone,
      queries, broadcasts⟩
  | touch workspaceIds nowMs wasIdle =>
    exact ⟨redis.touchOwn nowMs, stored, pending, writes, gone, queries, broadcasts⟩
  | storePreference workspaceIds preference =>
    exact ⟨redis, update_own stored preference, pending, writes, gone, queries, broadcasts⟩
  | setPreference workspaceIds preference =>
    exact ⟨redis.writePreferenceOwn preference, stored, pending, writes, gone, queries, broadcasts⟩
  | applySets workspaceIds preference online =>
    exact ⟨redis.applySetsOwn workspaceIds preference online, stored, pending, writes, gone, queries,
      broadcasts⟩
  | unregister sessionId =>
    exact ⟨redis.unregisterOwn sessionId, stored, pending, writes, gone, queries, broadcasts⟩
  | finalizeRemove workspaceIds =>
    exact ⟨redis.finalizeOwn workspaceIds, stored, pending, writes, gone, queries, broadcasts⟩
  | schedule workspaceIds =>
    refine ⟨redis, stored, fun workspaceId => ?_, writes, gone, queries, broadcasts⟩
    rw [pending workspaceId]
    dsimp only [WritePhase.write]
    split
    · simp [othersCalls]
    · rfl
  | _ => exact ⟨redis, stored, pending, writes, gone, queries, broadcasts⟩

variable {other : UserId} (differs : other ≠ userId)

include differs

section

variable (alike : WorldsAlike userId (world, offline))

include alike

/-- Another user writes in both worlds. -/
theorem write (phase : WritePhase) :
    WorldsAlike userId (phase.write config other world, phase.write config other offline) := by
  obtain ⟨redis, stored, pending, writes, gone, queries, broadcasts⟩ := alike
  cases phase with
  | register sessionId workspaceIds preference nowMs =>
    exact ⟨redis.register differs sessionId workspaceIds preference nowMs, stored, pending, writes,
      gone, queries, broadcasts⟩
  | touch workspaceIds nowMs wasIdle =>
    exact ⟨redis.touch differs nowMs, stored, pending, writes, gone, queries, broadcasts⟩
  | storePreference workspaceIds preference =>
    exact ⟨redis, update_alike stored other rfl, pending, writes, gone, queries, broadcasts⟩
  | setPreference workspaceIds preference =>
    exact ⟨redis.writePreference preference, stored, pending, writes, gone, queries, broadcasts⟩
  | applySets workspaceIds preference online =>
    exact ⟨redis.applySets differs workspaceIds preference online, stored, pending, writes, gone,
      queries, broadcasts⟩
  | unregister sessionId =>
    exact ⟨redis.unregister differs sessionId, stored, pending, writes, gone, queries, broadcasts⟩
  | finalizeRemove workspaceIds =>
    exact ⟨redis.finalizeOffline differs workspaceIds, stored, pending, writes, gone, queries,
      broadcasts⟩
  | schedule workspaceIds =>
    refine ⟨redis, stored, fun workspaceId => ?_, writes, gone, queries, broadcasts⟩
    dsimp only [WritePhase.write]
    split
    · rw [pending workspaceId, redis.now]
      simp [othersCalls, differs]
    · exact pending workspaceId
  | _ => exact ⟨redis, stored, pending, writes, gone, queries, broadcasts⟩

/-- What another user does next is the same in both worlds. -/
theorem next_write (viewers : List UserId) (phase : WritePhase) :
    phase.next config other offline viewers = phase.next config other world viewers := by
  have redis : RedisAlike userId world.redis offline.redis := alike.redis
  have now : offline.redis.now = world.redis.now := redis.now
  have stored : offline.stored other = world.stored other := alike.stored other differs
  cases phase with
  | findPreference sessionId workspaceIds => simp only [WritePhase.next, stored]
  | clearSubscriptions sessionId workspaceIds preference => simp only [WritePhase.next, now]
  | lastActivity workspaceIds =>
    have isIdle : offline.redis.isIdle config.toPresenceConfig =
        world.redis.isIdle config.toPresenceConfig := by
      funext lastMs
      unfold PresenceState.isIdle
      rw [now]
    simp only [WritePhase.next, now, isIdle, redis.lastActivityMs differs]
  | hasActiveSession workspaceIds preference | finalizeCount workspaceIds armedGraceEpoch =>
    simp only [WritePhase.next, redis.sessionCount differs]
  | finalizeEpoch workspaceIds armedGraceEpoch =>
    simp only [WritePhase.next, redis.currentGraceEpoch differs]
  | effectiveStatus keys => simp only [WritePhase.next, readAll_others redis differs, now]
  | _ => rfl

theorem readKey_write (key : StatusKey) (phase : WritePhase) :
    phase.readKey other offline key = phase.readKey other world key := by
  cases phase with
  | effectiveStatus keys => simp only [WritePhase.readKey, read_others alike.redis differs]
  | _ => rfl

theorem setWrite (number : Nat) (phase : WritePhase) :
    WorldsAlike userId
      (world.setWrite other number phase, offline.setWrite other number phase) := by
  refine { alike with writes := ?_, gone := fun own => ?_ }
  · exact update_alike alike.writes other (by rw [alike.writes other differs])
  · exact (congrFun (update_of_ne differs.symm _ _) own).trans (alike.gone own)

end

end WorldsAlike

section Changes

/-- One entry of two families changes. -/
theorem related_update {α β : Type} [DecidableEq α] (Related : α → β → β → Prop)
    {family familyOffline : α → Nat → β}
    (related : ∀ owner number, Related owner (family owner number) (familyOffline owner number))
    (owner : α) {value valueOffline : β} (changed : Related owner value valueOffline)
    (number : Nat) : ∀ other index, Related other
      (update family owner (update (family owner) number value) other index)
      (update familyOffline owner
        (update (familyOffline owner) number valueOffline) other index) := by
  intro other index
  by_cases sameOwner : other = owner
  · subst sameOwner
    rw [update_self, update_self]
    by_cases sameNumber : index = number
    · subst sameNumber
      rw [update_self, update_self]
      exact changed
    · rw [update_of_ne sameNumber, update_of_ne sameNumber]
      exact related other index
  · rw [update_of_ne sameOwner, update_of_ne sameOwner]
    exact related other index

/-- The changed entry. -/
theorem update_entry {α β : Type} [DecidableEq α] (family : α → Nat → β) (owner : α) (number : Nat)
    (value : β) :
    update family owner (update (family owner) number value) owner number =
      value := by
  rw [update_self, update_self]

/-- Nothing changes when the entry stays. -/
theorem update_entry_self {α β : Type} [DecidableEq α] (family : α → Nat → β) (owner : α)
    (number : Nat) :
    update family owner (update (family owner) number (family owner number)) =
      family := by
  rw [update_eq_self, update_eq_self]

variable {offline : PresenceWorld}

section

variable (alike : WorldsAlike userId (world, offline))

include alike

theorem WorldsAlike.setWriteOwn (number : Nat) (phase : WritePhase) :
    WorldsAlike userId (world.setWrite userId number phase, offline) :=
  { alike with writes := update_own alike.writes _ }

theorem WorldsAlike.setQuery (viewer : UserId) (number : Nat) {phase phaseOffline : QueryPhase}
    (phases : QueryPhase.Alike userId phase phaseOffline) :
    WorldsAlike userId
      (world.setQuery viewer number phase, offline.setQuery viewer number phaseOffline) :=
  { alike with queries := related_update (fun _ => QueryPhase.Alike userId) alike.queries viewer phases number }

theorem WorldsAlike.setBroadcast (workspaceId : WorkspaceId) (number : Nat)
    {phase phaseOffline : BroadcastPhase}
    (phases : Alike userId phase phaseOffline) :
    WorldsAlike userId (world.setBroadcast workspaceId number phase,
      offline.setBroadcast workspaceId number phaseOffline) :=
  { alike with broadcasts :=
      related_update (fun _ => Alike userId) alike.broadcasts workspaceId phases number }

theorem WorldsAlike.setRedis {redis redisOffline : PresenceState}
    (redisAlike : RedisAlike userId redis redisOffline) :
    WorldsAlike userId ({ world with redis := redis }, { offline with redis := redisOffline }) :=
  { alike with redis := redisAlike }

end

variable (seen : SeenAlike userId (world, offline))

include seen

/-- The requests of the user are not there in the other world. -/
theorem seen_setWriteOwn_iff {number : Nat} (gone : offline.writes userId number = .absent)
    {phase : WritePhase} :
    SeenAlike userId (world.setWrite userId number phase, offline) ↔
      phase.shownToOthers userId = none := by
  constructor
  · intro seenNext
    have shown := seenNext.updates userId number
    dsimp only [PresenceWorld.setWrite] at shown
    rw [update_entry, gone] at shown
    exact shown.symm
  · intro unshown
    have changed : (offline.writes userId number).shownToOthers userId =
        phase.shownToOthers userId := by
      rw [gone, unshown]
      rfl
    have updates := related_update
      (fun (_ : UserId) (phase phaseOffline : WritePhase) =>
        phaseOffline.shownToOthers userId = phase.shownToOthers userId)
      seen.updates userId changed number
    rw [update_entry_self] at updates
    exact { seen with updates := updates }

theorem SeenAlike.setWrite (other : UserId) (number : Nat) (phase : WritePhase) :
    SeenAlike userId (world.setWrite other number phase, offline.setWrite other number phase) :=
  { seen with
    updates := related_update
      (fun (_ : UserId) (phase phaseOffline : WritePhase) =>
        phaseOffline.shownToOthers userId = phase.shownToOthers userId)
      seen.updates other rfl number }

theorem seen_setQuery_iff {viewer : UserId} {number : Nat} {phase phaseOffline : QueryPhase} :
    SeenAlike userId
        (world.setQuery viewer number phase, offline.setQuery viewer number phaseOffline) ↔
      (viewer ≠ userId → phaseOffline.answered = phase.answered) := by
  constructor
  · intro seenNext differs
    have answered := seenNext.queries viewer number differs
    dsimp only [PresenceWorld.setQuery] at answered
    rwa [update_entry, update_entry] at answered
  · intro changed
    exact { seen with
      queries := related_update
        (fun (viewer : UserId) (phase phaseOffline : QueryPhase) =>
          viewer ≠ userId → phaseOffline.answered = phase.answered) seen.queries viewer changed number }

theorem seen_setBroadcast_iff {workspaceId : WorkspaceId} {number : Nat}
    {phase phaseOffline : BroadcastPhase} :
    SeenAlike userId (world.setBroadcast workspaceId number phase,
        offline.setBroadcast workspaceId number phaseOffline) ↔
      phaseOffline.sentOut = phase.sentOut := by
  constructor
  · intro seenNext
    have sentOut := seenNext.broadcasts workspaceId number
    dsimp only [PresenceWorld.setBroadcast] at sentOut
    rwa [update_entry, update_entry] at sentOut
  · intro changed
    exact { seen with
      broadcasts := related_update
        (fun (_ : WorkspaceId) (phase phaseOffline : BroadcastPhase) =>
          phaseOffline.sentOut = phase.sentOut) seen.broadcasts workspaceId changed number }

end Changes

end Bongtalk.Realtime.Presence
