import Bongtalk.Library.EventLoop
import Bongtalk.Library.Expiry
import Bongtalk.Prisma.Notifications

/-!
# Presence

Every connection is a session. Redis keeps a hash for each session, the set of the sessions of each
user, the preference, the last activity and the grace epoch of each user, each key with a time to
live of its own, and for each workspace the set of its users who are online and the set of those
who do not want to be disturbed. A task runs up to its next round trip.
-/

namespace Bongtalk.Realtime.Presence

open Library Prisma Function

structure PresenceSessionId where
  value : Nat
deriving DecidableEq, Repr

inductive PresenceStatus where
  | online
  | idle
  | dnd
  | offline
  | invisible
deriving DecidableEq, Repr

/-- The environment of the service, in seconds. -/
structure PresenceConfig where
  ttlSec : Nat := 120
  ttlPositive : 0 < ttlSec := by decide
  idleTimeoutSec : Nat := 600

/-- The time to live of a session, in milliseconds. -/
def PresenceConfig.ttl (config : PresenceConfig) : Nat :=
  config.ttlSec * 1000

/-- The hash of a session. A heartbeat that comes late writes one without a user. -/
structure SessionHash where
  userId : Option UserId := none
  connectedAt : Option Nat := none
  lastSeenAt : Nat
deriving DecidableEq, Repr

/-- A set of users of a workspace. -/
inductive WorkspaceSet where
  | users
  | dnd
deriving DecidableEq, Repr

/-- A session that has registered as visible and has been alive since. -/
structure Connection where
  sessionId : PresenceSessionId
  userId : UserId
  workspaceIds : List WorkspaceId
deriving DecidableEq, Repr

inductive PresenceAnswer where
  | registered
  | touched (wasIdle : Bool)
  | heartbeat (alive : Bool)
  | unregistered (lastSessionGone : Bool)
  | finalized (goneFrom : List WorkspaceId)
  | members (set : WorkspaceSet) (workspaceId : WorkspaceId) (userIds : List UserId)
deriving DecidableEq, Repr

structure PresenceState where
  now : Nat := 0
  sessions : PresenceSessionId → Option (Expiring SessionHash) := fun _ => none
  userSessions : UserId → Option (Expiring (List PresenceSessionId)) := fun _ => none
  preference : UserId → Option (Expiring PresencePreference) := fun _ => none
  lastActivity : UserId → Option (Expiring Nat) := fun _ => none
  graceEpoch : UserId → Option (Expiring Nat) := fun _ => none
  /-- `presence:workspace:{wsId}:users` and `:dnd`. -/
  workspaceSets : WorkspaceSet → WorkspaceId → List UserId := fun _ _ => []
  /-- The connections by what has been registered, unregistered and kept alive. -/
  connections : List Connection := []
  answers : List PresenceAnswer := []

structure RegisterArgs where
  sessionId : PresenceSessionId
  userId : UserId
  workspaceIds : List WorkspaceId
  preference : PresencePreference := .auto
deriving DecidableEq, Repr

/-- What runs between two awaits. -/
inductive PresenceTask where
  | register (args : RegisterArgs) (nowMs : Nat)
  | lastActivity (userId : UserId)
  | touch (userId : UserId) (nowMs : Nat) (wasIdle : Bool)
  | heartbeatExists (sessionId : PresenceSessionId)
  | heartbeatWrite (sessionId : PresenceSessionId) (nowMs : Nat)
  | unregister (sessionId : PresenceSessionId) (userId : UserId)
  | remaining (userId : UserId)
  | finalizeCount (userId : UserId) (workspaceIds : List WorkspaceId) (armedGraceEpoch : Option Nat)
  | finalizeEpoch (userId : UserId) (workspaceIds : List WorkspaceId) (armedGraceEpoch : Nat)
  | finalizeRemove (userId : UserId) (workspaceIds : List WorkspaceId)
  | listMembers (set : WorkspaceSet) (workspaceId : WorkspaceId)
  /-- The counts of the pipeline, one user after the other. -/
  | countSessions (set : WorkspaceSet) (workspaceId : WorkspaceId) (userId : UserId)
      (rest alive toRemove : List UserId)
  | removeGone (set : WorkspaceSet) (workspaceId : WorkspaceId) (alive toRemove : List UserId)
deriving DecidableEq, Repr

inductive PresenceInput where
  | tick (elapsed : Nat)
  | register (args : RegisterArgs)
  | touchActivity (userId : UserId)
  | heartbeat (sessionId : PresenceSessionId)
  | unregister (sessionId : PresenceSessionId) (userId : UserId)
  | finalizeOffline (userId : UserId) (workspaceIds : List WorkspaceId)
      (armedGraceEpoch : Option Nat)
  | onlineIn (workspaceId : WorkspaceId)
  | dndIn (workspaceId : WorkspaceId)
deriving DecidableEq, Repr

namespace PresenceState

variable (config : PresenceConfig) (state : PresenceState)

/-- `scard` of the sessions of a user. -/
def sessionCount (userId : UserId) : Nat :=
  (Expiring.members state.now (state.userSessions userId)).length

def preferenceOf (userId : UserId) : PresencePreference :=
  (Expiring.read state.now (state.preference userId)).getD .auto

def lastActivityMs (userId : UserId) : Option Nat :=
  Expiring.read state.now (state.lastActivity userId)

def currentGraceEpoch (userId : UserId) : Nat :=
  (Expiring.read state.now (state.graceEpoch userId)).getD 0

/-- Whether the last activity is too long ago. -/
def isIdle (lastMs : Nat) : Bool :=
  decide (config.idleTimeoutSec * 1000 ≤ state.now - lastMs)

/-- `effectiveStatus`, with its three reads in this state. -/
def effectiveStatus (userId : UserId) : PresenceStatus :=
  if state.sessionCount userId = 0 then .offline
  else match state.preferenceOf userId with
    | .invisible => .invisible
    | .dnd => .dnd
    | .auto => if (state.lastActivityMs userId).any (state.isIdle config) then .idle else .online

/-- What `onlineIn` answers when all its reads are in this state. -/
def onlineIn (workspaceId : WorkspaceId) : List UserId :=
  (state.workspaceSets .users workspaceId).filter fun userId => state.sessionCount userId ≠ 0

def answer (answer : PresenceAnswer) : PresenceState :=
  { state with answers := state.answers ++ [answer] }

/-- Change the same set of some workspaces. -/
def changeSets (set : WorkspaceSet) (workspaceIds : List WorkspaceId)
    (change : List UserId → List UserId) : PresenceState :=
  { state with workspaceSets := fun other workspaceId =>
      if other = set ∧ workspaceId ∈ workspaceIds then change (state.workspaceSets other workspaceId)
      else state.workspaceSets other workspaceId }

/-- `sadd`. -/
def addTo (set : WorkspaceSet) (workspaceIds : List WorkspaceId) (userId : UserId) :
    PresenceState :=
  state.changeSets set workspaceIds (List.insert userId)

/-- `srem`. -/
def removeFrom (set : WorkspaceSet) (workspaceIds : List WorkspaceId) (gone : List UserId) :
    PresenceState :=
  state.changeSets set workspaceIds (List.filter fun userId => userId ∉ gone)

/-- The sets of a user who registers. -/
def applyPreference (args : RegisterArgs) : PresenceState :=
  match args.preference with
  | .invisible => (state.removeFrom .users args.workspaceIds [args.userId]).removeFrom .dnd
      args.workspaceIds [args.userId]
  | .dnd => (state.addTo .users args.workspaceIds args.userId).addTo .dnd args.workspaceIds
      args.userId
  | .auto => (state.addTo .users args.workspaceIds args.userId).removeFrom .dnd args.workspaceIds
      [args.userId]

/-- The connection of a session ends. -/
def disconnected (sessionId : PresenceSessionId) : List Connection :=
  state.connections.filter fun connection => connection.sessionId ≠ sessionId

/-- A session connects that registers as visible. -/
def connected (args : RegisterArgs) : List Connection :=
  match args.preference with
  | .invisible => state.disconnected args.sessionId
  | _ => ⟨args.sessionId, args.userId, args.workspaceIds⟩ :: state.disconnected args.sessionId

/-- The keys of the session and of its user after `register`. -/
def withSession (args : RegisterArgs) (nowMs : Nat) : PresenceState :=
  { state with
    sessions := update state.sessions args.sessionId
      (some ⟨⟨args.userId, some nowMs, nowMs⟩, state.now + config.ttl⟩)
    userSessions := update state.userSessions args.userId
      (some ⟨(Expiring.members state.now (state.userSessions args.userId)).insert args.sessionId,
        state.now + config.ttl * 2⟩)
    lastActivity := update state.lastActivity args.userId (some ⟨nowMs, state.now + config.ttl * 2⟩)
    preference := update state.preference args.userId
      (some ⟨args.preference, state.now + config.ttl * 2⟩)
    graceEpoch := update state.graceEpoch args.userId
      (some ⟨state.currentGraceEpoch args.userId + 1, state.now + config.ttl * 2⟩)
    connections := state.connected args }

/-- The transaction of `register`. -/
def register (args : RegisterArgs) (nowMs : Nat) : PresenceState :=
  (state.withSession config args nowMs).applyPreference args

/-- The write of `touchActivity`. -/
def touch (userId : UserId) (nowMs : Nat) : PresenceState :=
  { state with
    lastActivity := update state.lastActivity userId (some ⟨nowMs, state.now + config.ttl * 2⟩) }

/-- The transaction of a heartbeat. -/
def beat (sessionId : PresenceSessionId) (nowMs : Nat) : PresenceState :=
  { state with
    sessions := update state.sessions sessionId
      (some ⟨{ (Expiring.read state.now (state.sessions sessionId)).getD ⟨none, none, nowMs⟩ with
        lastSeenAt := nowMs }, state.now + config.ttl⟩) }

/-- The transaction of `unregister`. -/
def unregister (sessionId : PresenceSessionId) (userId : UserId) : PresenceState :=
  { state with
    sessions := update state.sessions sessionId none
    userSessions := update state.userSessions userId
      ((state.userSessions userId).map fun set =>
        { set with value := set.value.filter fun member => member ≠ sessionId })
    connections := state.disconnected sessionId }

/-- The transaction of `finalizeOffline`. -/
def finalizeOffline (userId : UserId) (workspaceIds : List WorkspaceId) : PresenceState :=
  { (state.removeFrom .users workspaceIds [userId]).removeFrom .dnd workspaceIds [userId] with
    lastActivity := update state.lastActivity userId none }

/-- Time passes, and the sessions end whose hash expires. -/
def tick (elapsed : Nat) : PresenceState :=
  { state with
    now := state.now + elapsed
    connections := state.connections.filter fun connection =>
      (Expiring.read (state.now + elapsed) (state.sessions connection.sessionId)).isSome }

end PresenceState

/-- After the counts: those who are gone are removed, if there are any. -/
def counted (set : WorkspaceSet) (workspaceId : WorkspaceId) (state : PresenceState)
    (alive toRemove : List UserId) : List UserId → PresenceState × List PresenceTask
  | [] => if toRemove = [] then (state.answer (.members set workspaceId alive), [])
      else (state, [.removeGone set workspaceId alive toRemove])
  | userId :: rest => (state, [.countSessions set workspaceId userId rest alive toRemove])

/-- A task up to its next await. -/
def PresenceTask.resume (config : PresenceConfig) (state : PresenceState) :
    PresenceTask → PresenceState × List PresenceTask
  | register args nowMs => ((state.register config args nowMs).answer .registered, [])
  | lastActivity userId =>
    (state, [.touch userId state.now ((state.lastActivityMs userId).any (state.isIdle config))])
  | touch userId nowMs wasIdle =>
    ((state.touch config userId nowMs).answer (.touched wasIdle), [])
  | heartbeatExists sessionId =>
    if (Expiring.read state.now (state.sessions sessionId)).isSome then
      (state, [.heartbeatWrite sessionId state.now])
    else (state.answer (.heartbeat false), [])
  | heartbeatWrite sessionId nowMs =>
    ((state.beat config sessionId nowMs).answer (.heartbeat true), [])
  | unregister sessionId userId => (state.unregister sessionId userId, [.remaining userId])
  | remaining userId =>
    (state.answer (.unregistered (decide (state.sessionCount userId = 0))), [])
  | finalizeCount userId workspaceIds armedGraceEpoch =>
    if state.sessionCount userId ≠ 0 then (state.answer (.finalized []), [])
    else match armedGraceEpoch with
      | none => (state, [.finalizeRemove userId workspaceIds])
      | some armed => (state, [.finalizeEpoch userId workspaceIds armed])
  | finalizeEpoch userId workspaceIds armedGraceEpoch =>
    if state.currentGraceEpoch userId ≠ armedGraceEpoch then (state.answer (.finalized []), [])
    else (state, [.finalizeRemove userId workspaceIds])
  | finalizeRemove userId workspaceIds =>
    ((state.finalizeOffline userId workspaceIds).answer (.finalized workspaceIds), [])
  | listMembers set workspaceId =>
    counted set workspaceId state [] [] (state.workspaceSets set workspaceId)
  | countSessions set workspaceId userId rest alive toRemove =>
    if state.sessionCount userId ≠ 0 then
      counted set workspaceId state (alive ++ [userId]) toRemove rest
    else counted set workspaceId state alive (toRemove ++ [userId]) rest
  | removeGone set workspaceId alive toRemove =>
    ((state.removeFrom set [workspaceId] toRemove).answer (.members set workspaceId alive), [])

def PresenceInput.accepted (state : PresenceState) :
    PresenceInput → PresenceState × List PresenceTask
  | tick elapsed => (state.tick elapsed, [])
  | register args => (state, [.register args state.now])
  | touchActivity userId => (state, [.lastActivity userId])
  | heartbeat sessionId => (state, [.heartbeatExists sessionId])
  | unregister sessionId userId => (state, [.unregister sessionId userId])
  | finalizeOffline userId workspaceIds armedGraceEpoch =>
    (state, [.finalizeCount userId workspaceIds armedGraceEpoch])
  | onlineIn workspaceId => (state, [.listMembers .users workspaceId])
  | dndIn workspaceId => (state, [.listMembers .dnd workspaceId])

def presenceLoop (config : PresenceConfig) :
    EventLoop PresenceState PresenceTask PresenceInput where
  resume state task := task.resume config state
  Accepts state input next spawned := input.accepted state = (next, spawned)

end Bongtalk.Realtime.Presence
