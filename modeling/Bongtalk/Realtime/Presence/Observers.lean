import Bongtalk.Realtime.Presence.PresenceService

/-!
# What others see of a user

Users connect, are active, change their preference and disconnect; others ask for the members of a
workspace who are online or do not want to be disturbed, ask for the status of single users, and are
sent broadcasts about workspaces and updates about users whom they follow. All of these run round
trip by round trip, in any order.
-/

namespace Bongtalk.Realtime.Presence

open Prisma Function

structure GatewayConfig extends PresenceConfig where
  /-- `PRESENCE_UPDATE_THROTTLE_MS` -/
  windowMs : Nat := 2000

/-- `maskPresenceForViewer` -/
def maskPresenceForViewer (status : PresenceStatus) (isSelf : Bool) : PresenceStatus :=
  if status = .invisible ∧ isSelf = false then .offline else status

structure PresenceEntry where
  userId : UserId
  status : PresenceStatus
  updatedAt : Nat
deriving DecidableEq, Repr

/-- A round trip of `effectiveStatusWithActivity`. -/
inductive StatusKey where
  | sessions
  | preference
  | lastActivity
deriving DecidableEq, Repr

/-- What has been read of a user so far. -/
structure StatusKeys where
  sessions : Option Nat := none
  preference : Option PresencePreference := none
  lastMs : Option (Option Nat) := none
deriving DecidableEq, Repr

namespace StatusKeys

variable (redis : PresenceState) (userId : UserId)

def read (key : StatusKey) (keys : StatusKeys) : StatusKeys :=
  match key with
  | .sessions => { keys with sessions := keys.sessions.or (some (redis.sessionCount userId)) }
  | .preference => { keys with preference := keys.preference.or (some (redis.preferenceOf userId)) }
  | .lastActivity => { keys with lastMs := keys.lastMs.or (some (redis.lastActivityMs userId)) }

/-- The round trips that are left. -/
def readAll (keys : StatusKeys) : StatusKeys :=
  ((keys.read redis userId .sessions).read redis userId .preference).read redis userId .lastActivity

/-- The status, once everything is read. -/
def status (config : PresenceConfig) (now : Nat) (keys : StatusKeys) : PresenceStatus :=
  if keys.sessions.getD 0 = 0 then .offline
  else match keys.preference.getD .auto with
    | .invisible => .invisible
    | .dnd => .dnd
    | .auto =>
      if (keys.lastMs.getD none).any fun lastMs =>
        decide (config.idleTimeoutSec * 1000 ≤ now - lastMs) then .idle else .online

def isAlive (keys : StatusKeys) : Bool :=
  decide (keys.sessions.getD 0 ≠ 0)

end StatusKeys

/-- Users with what has been read of them. -/
abbrev StatusRows := List (UserId × StatusKeys)

namespace StatusRows

/-- Nothing has been read yet. -/
def unread (userIds : List UserId) : StatusRows :=
  userIds.map fun userId => (userId, {})

/-- The round trip for one of the users. -/
def readOne (redis : PresenceState) (userId : UserId) (key : StatusKey) (rows : StatusRows) :
    StatusRows :=
  rows.map fun row => if row.1 = userId then (row.1, row.2.read redis row.1 key) else row

/-- The counts that are left. -/
def countAll (redis : PresenceState) (rows : StatusRows) : StatusRows :=
  rows.map fun row => (row.1, row.2.read redis row.1 .sessions)

def readAll (redis : PresenceState) (rows : StatusRows) : StatusRows :=
  rows.map fun row => (row.1, row.2.readAll redis row.1)

def alive (rows : StatusRows) : List UserId :=
  (rows.filter fun row => row.2.isAlive).map Prod.fst

def toRemove (rows : StatusRows) : List UserId :=
  (rows.filter fun row => !row.2.isAlive).map Prod.fst

/-- `idleIn`, once everything is read. -/
def idle (config : PresenceConfig) (now : Nat) (rows : StatusRows) : List UserId :=
  (rows.filter fun row => row.2.status config now == .idle).map Prod.fst

/-- `bulkFor`, once everything is read, without what does not leave the server. -/
def entries (config : PresenceConfig) (now : Nat) (viewer : UserId) (rows : StatusRows) :
    List PresenceEntry :=
  rows.map fun row =>
    ⟨row.1, maskPresenceForViewer (row.2.status config now) (row.1 == viewer),
      (row.2.lastMs.getD none).getD now⟩

end StatusRows

/-- A request of a user about their own presence, named by its next round trip. -/
inductive WritePhase where
  | absent
  | findPreference (sessionId : PresenceSessionId) (workspaceIds : List WorkspaceId)
  | clearSubscriptions (sessionId : PresenceSessionId) (workspaceIds : List WorkspaceId)
      (preference : PresencePreference)
  | register (sessionId : PresenceSessionId) (workspaceIds : List WorkspaceId)
      (preference : PresencePreference) (nowMs : Nat)
  | lastActivity (workspaceIds : List WorkspaceId)
  | touch (workspaceIds : List WorkspaceId) (nowMs : Nat) (wasIdle : Bool)
  | storePreference (workspaceIds : List WorkspaceId) (preference : PresencePreference)
  | setPreference (workspaceIds : List WorkspaceId) (preference : PresencePreference)
  | hasActiveSession (workspaceIds : List WorkspaceId) (preference : PresencePreference)
  | applySets (workspaceIds : List WorkspaceId) (preference : PresencePreference) (online : Bool)
  | unregister (sessionId : PresenceSessionId)
  | finalizeCount (workspaceIds : List WorkspaceId) (armedGraceEpoch : Nat)
  | finalizeEpoch (workspaceIds : List WorkspaceId) (armedGraceEpoch : Nat)
  | finalizeRemove (workspaceIds : List WorkspaceId)
  | schedule (workspaceIds : List WorkspaceId)
  | subscribersOf
  | effectiveStatus (keys : StatusKeys)
  | emit (real : PresenceStatus) (updatedAt : Nat)
  | updated (shown : List (UserId × PresenceStatus)) (updatedAt : Nat)
  | finished
deriving DecidableEq, Repr

/-- A query of a viewer: `onlineIn`, `dndIn` or `bulkFor`. -/
inductive QueryPhase where
  | absent
  | smembers (set : WorkspaceSet) (workspaceId : WorkspaceId)
  | counting (set : WorkspaceSet) (workspaceId : WorkspaceId) (rows : StatusRows)
  | removing (set : WorkspaceSet) (workspaceId : WorkspaceId) (rows : StatusRows)
  | reading (rows : StatusRows)
  | replying (rows : StatusRows)
  | members (userIds : List UserId)
  | bulk (entries : List PresenceEntry)

structure WorkspacePresenceUpdatedPayload where
  onlineUserIds : List UserId
  dndUserIds : List UserId
  idleUserIds : List UserId
deriving DecidableEq, Repr

/-- A broadcast to a workspace. -/
inductive BroadcastPhase where
  | absent
  | onlineMembers
  | dndMembers (online : List UserId)
  | counting (online dnd : StatusRows)
  | removing (online dnd : StatusRows)
  | idle (dnd : List UserId) (online : StatusRows)
  | emit (dnd : List UserId) (online : StatusRows)
  | sent (payload : WorkspacePresenceUpdatedPayload)

/-- A call of the throttler. -/
structure ScheduleCall where
  scheduledAt : Nat
  userId : UserId
deriving DecidableEq, Repr

structure PresenceWorld where
  redis : PresenceState := {}
  /-- `User.presencePreference` -/
  stored : UserId → PresencePreference := fun _ => .auto
  /-- The calls of the throttler since the last flush. The first decides when the next one is. -/
  pending : WorkspaceId → List ScheduleCall := fun _ => []
  writes : UserId → Nat → WritePhase := fun _ _ => .absent
  queries : UserId → Nat → QueryPhase := fun _ _ => .absent
  broadcasts : WorkspaceId → Nat → BroadcastPhase := fun _ _ => .absent

namespace PresenceState

/-- `set` of the preference key. -/
def writePreference (config : PresenceConfig) (state : PresenceState) (userId : UserId)
    (preference : PresencePreference) : PresenceState :=
  { state with
    preference := update state.preference userId (some ⟨preference, state.now + config.ttl * 2⟩) }

/-- The transaction of `setPreferenceForUser`. -/
def applySets (state : PresenceState) (userId : UserId) (workspaceIds : List WorkspaceId)
    (preference : PresencePreference) (online : Bool) : PresenceState :=
  let joined := if online then state.addTo .users workspaceIds userId else state
  match preference with
  | .invisible =>
    (state.removeFrom .users workspaceIds [userId]).removeFrom .dnd workspaceIds [userId]
  | .dnd => joined.addTo .dnd workspaceIds userId
  | .auto => joined.removeFrom .dnd workspaceIds [userId]

end PresenceState

section Writes

variable (config : GatewayConfig) (userId : UserId) (world : PresenceWorld)

/-- What a round trip of a request changes. -/
def WritePhase.write : WritePhase → PresenceWorld
  | register sessionId workspaceIds preference nowMs =>
    { world with
      redis := world.redis.register config.toPresenceConfig
        ⟨sessionId, userId, workspaceIds, preference⟩ nowMs }
  | touch _ nowMs _ =>
    { world with redis := world.redis.touch config.toPresenceConfig userId nowMs }
  | storePreference _ preference =>
    { world with stored := update world.stored userId preference }
  | setPreference _ preference =>
    { world with
      redis := world.redis.writePreference config.toPresenceConfig userId preference }
  | applySets workspaceIds preference online =>
    { world with redis := world.redis.applySets userId workspaceIds preference online }
  | unregister sessionId => { world with redis := world.redis.unregister sessionId userId }
  | finalizeRemove workspaceIds =>
    { world with redis := world.redis.finalizeOffline userId workspaceIds }
  | schedule workspaceIds =>
    { world with pending := fun workspaceId =>
        if workspaceId ∈ workspaceIds then
          world.pending workspaceId ++ [⟨world.redis.now, userId⟩]
        else world.pending workspaceId }
  | _ => world

/-- What a request does next; `viewers` are those who follow the user and still may. -/
def WritePhase.next (viewers : List UserId) : WritePhase → WritePhase
  | findPreference sessionId workspaceIds =>
    clearSubscriptions sessionId workspaceIds (world.stored userId)
  | clearSubscriptions sessionId workspaceIds preference =>
    register sessionId workspaceIds preference world.redis.now
  | register _ workspaceIds _ _ => schedule workspaceIds
  | lastActivity workspaceIds =>
    touch workspaceIds world.redis.now
      ((world.redis.lastActivityMs userId).any (world.redis.isIdle config.toPresenceConfig))
  | touch workspaceIds _ wasIdle => if wasIdle then schedule workspaceIds else finished
  | storePreference workspaceIds preference => setPreference workspaceIds preference
  | setPreference workspaceIds preference =>
    if workspaceIds = [] then schedule [] else hasActiveSession workspaceIds preference
  | hasActiveSession workspaceIds preference =>
    applySets workspaceIds preference (decide (world.redis.sessionCount userId ≠ 0))
  | applySets workspaceIds _ _ => schedule workspaceIds
  | unregister _ => finished
  | finalizeCount workspaceIds armedGraceEpoch =>
    if world.redis.sessionCount userId ≠ 0 then finished
    else finalizeEpoch workspaceIds armedGraceEpoch
  | finalizeEpoch workspaceIds armedGraceEpoch =>
    if world.redis.currentGraceEpoch userId ≠ armedGraceEpoch then finished
    else finalizeRemove workspaceIds
  | finalizeRemove workspaceIds => if workspaceIds = [] then finished else schedule workspaceIds
  | schedule _ => subscribersOf
  | subscribersOf => effectiveStatus {}
  | effectiveStatus keys =>
    emit ((keys.readAll world.redis userId).status config.toPresenceConfig world.redis.now)
      world.redis.now
  | emit real updatedAt =>
    updated (viewers.map fun viewer => (viewer, maskPresenceForViewer real (viewer == userId)))
      updatedAt
  | phase => phase

/-- One of the three round trips of `effectiveStatus`. -/
def WritePhase.readKey (key : StatusKey) : WritePhase → WritePhase
  | effectiveStatus keys => effectiveStatus (keys.read world.redis userId key)
  | phase => phase

end Writes

section Queries

variable (config : GatewayConfig) (viewer : UserId) (redis : PresenceState)

/-- The lazy removal of users without a session. -/
def QueryPhase.write : QueryPhase → PresenceState
  | removing set workspaceId rows => redis.removeFrom set [workspaceId] rows.toRemove
  | _ => redis

def QueryPhase.next : QueryPhase → QueryPhase
  | smembers set workspaceId =>
    counting set workspaceId (.unread (redis.workspaceSets set workspaceId))
  | counting set workspaceId rows => removing set workspaceId (rows.countAll redis)
  | removing _ _ rows => members rows.alive
  | reading rows => replying (rows.readAll redis)
  | replying rows => bulk (rows.entries config.toPresenceConfig redis.now viewer)
  | phase => phase

def QueryPhase.readKey (userId : UserId) (key : StatusKey) : QueryPhase → QueryPhase
  | counting set workspaceId rows => counting set workspaceId (rows.readOne redis userId .sessions)
  | reading rows => reading (rows.readOne redis userId key)
  | phase => phase

end Queries

section Broadcasts

variable (config : GatewayConfig) (workspaceId : WorkspaceId) (redis : PresenceState)

def BroadcastPhase.write : BroadcastPhase → PresenceState
  | removing online dnd =>
    (redis.removeFrom .users [workspaceId] online.toRemove).removeFrom .dnd [workspaceId]
      dnd.toRemove
  | _ => redis

def BroadcastPhase.next : BroadcastPhase → BroadcastPhase
  | onlineMembers => dndMembers (redis.workspaceSets .users workspaceId)
  | dndMembers online => counting (.unread online) (.unread (redis.workspaceSets .dnd workspaceId))
  | counting online dnd => removing (online.countAll redis) (dnd.countAll redis)
  | removing online dnd => idle dnd.alive (.unread online.alive)
  | idle dnd online => emit dnd (online.readAll redis)
  | emit dnd online =>
    sent ⟨online.map Prod.fst, dnd, online.idle config.toPresenceConfig redis.now⟩
  | phase => phase

def BroadcastPhase.readKey (set : WorkspaceSet) (userId : UserId) (key : StatusKey) :
    BroadcastPhase → BroadcastPhase
  | counting online dnd =>
    match set with
    | .users => counting (online.readOne redis userId .sessions) dnd
    | .dnd => counting online (dnd.readOne redis userId .sessions)
  | idle dnd online => idle dnd (online.readOne redis userId key)
  | phase => phase

end Broadcasts

/-- The window of the throttler is over for the first call, as it is when it is for any. -/
def isDue (config : GatewayConfig) (now : Nat) (pending : List ScheduleCall) : Bool :=
  pending.any fun call => decide (call.scheduledAt + config.windowMs ≤ now)

/-- A request of a user about their own presence. -/
inductive WriteRequest where
  | connect (sessionId : PresenceSessionId) (workspaceIds : List WorkspaceId)
  | activity (workspaceIds : List WorkspaceId)
  | setPreference (workspaceIds : List WorkspaceId) (preference : PresencePreference)
  | disconnect (sessionId : PresenceSessionId)
  | graceTimer (workspaceIds : List WorkspaceId) (armedGraceEpoch : Nat)
deriving DecidableEq, Repr

def WriteRequest.begin : WriteRequest → WritePhase
  | connect sessionId workspaceIds => .findPreference sessionId workspaceIds
  | activity workspaceIds => .lastActivity workspaceIds
  | setPreference workspaceIds preference => .storePreference workspaceIds preference
  | disconnect sessionId => .unregister sessionId
  | graceTimer workspaceIds armedGraceEpoch => .finalizeCount workspaceIds armedGraceEpoch

inductive Query where
  | members (set : WorkspaceSet) (workspaceId : WorkspaceId)
  | bulkFor (userIds : List UserId)
deriving DecidableEq, Repr

def Query.begin : Query → QueryPhase
  | members set workspaceId => .smembers set workspaceId
  | bulkFor userIds => .reading (.unread userIds.eraseDups)

inductive PresenceEvent where
  | tick (elapsed : Nat)
  | request (userId : UserId) (number : Nat) (request : WriteRequest)
  | advance (userId : UserId) (number : Nat) (viewers : List UserId)
  | readOwn (userId : UserId) (number : Nat) (key : StatusKey)
  | query (viewer : UserId) (number : Nat) (query : Query)
  | answer (viewer : UserId) (number : Nat)
  | readFor (viewer : UserId) (number : Nat) (userId : UserId) (key : StatusKey)
  | flush (workspaceId : WorkspaceId) (number : Nat)
  | send (workspaceId : WorkspaceId) (number : Nat)
  | readIn (workspaceId : WorkspaceId) (number : Nat) (set : WorkspaceSet) (userId : UserId)
      (key : StatusKey)
deriving DecidableEq, Repr

namespace PresenceWorld

variable (world : PresenceWorld)

def setWrite (userId : UserId) (number : Nat) (phase : WritePhase) : PresenceWorld :=
  { world with
    writes := update world.writes userId (update (world.writes userId) number phase) }

def setQuery (viewer : UserId) (number : Nat) (phase : QueryPhase) : PresenceWorld :=
  { world with
    queries := update world.queries viewer (update (world.queries viewer) number phase) }

def setBroadcast (workspaceId : WorkspaceId) (number : Nat) (phase : BroadcastPhase) :
    PresenceWorld :=
  { world with
    broadcasts := update world.broadcasts workspaceId
      (update (world.broadcasts workspaceId) number phase) }

/-- What happens next; a request, a query or a broadcast that is not there has no next step. -/
def next (config : GatewayConfig) : PresenceEvent → PresenceWorld
  | .tick elapsed => { world with redis := world.redis.tick elapsed }
  | .request userId number request =>
    if world.writes userId number = .absent then world.setWrite userId number request.begin
    else world
  | .advance userId number viewers =>
    let phase := world.writes userId number
    (phase.write config userId world).setWrite userId number
      (phase.next config userId world viewers)
  | .readOwn userId number key =>
    world.setWrite userId number ((world.writes userId number).readKey userId world key)
  | .query viewer number query =>
    match world.queries viewer number with
    | .absent => world.setQuery viewer number query.begin
    | _ => world
  | .answer viewer number =>
    let phase := world.queries viewer number
    { world with redis := phase.write world.redis }.setQuery viewer number
      (phase.next config viewer world.redis)
  | .readFor viewer number userId key =>
    world.setQuery viewer number ((world.queries viewer number).readKey world.redis userId key)
  | .flush workspaceId number =>
    match world.broadcasts workspaceId number with
    | .absent =>
      if isDue config world.redis.now (world.pending workspaceId) then
        { world with pending := update world.pending workspaceId [] }.setBroadcast
          workspaceId number .onlineMembers
      else world
    | _ => world
  | .send workspaceId number =>
    let phase := world.broadcasts workspaceId number
    { world with redis := phase.write workspaceId world.redis }.setBroadcast workspaceId number
      (phase.next config workspaceId world.redis)
  | .readIn workspaceId number set userId key =>
    world.setBroadcast workspaceId number
      ((world.broadcasts workspaceId number).readKey world.redis set userId key)

end PresenceWorld

end Bongtalk.Realtime.Presence
