import Bongtalk.Realtime.Presence.PresenceService

/-!
# Presence of connected users

A user with a connection is not offline, and is online in the workspaces of the connection. What
counts is the set of the sessions of the user, which only a registration keeps alive.
-/

namespace Bongtalk.Realtime.Presence

open Library EventLoop Prisma PresenceState Expiring List

variable {config : PresenceConfig} {state next : PresenceState} {userId : UserId}
  {workspaceIds : List WorkspaceId}

/-- The user of each connection is there for the others. -/
def ConnectedPresent (config : PresenceConfig) (state : PresenceState) : Prop :=
  ∀ connection ∈ state.connections,
    state.effectiveStatus config connection.userId ≠ .offline ∧
      ∀ workspaceId ∈ connection.workspaceIds, connection.userId ∈ state.onlineIn workspaceId

/-- No connection of the user is to one of the workspaces. -/
def Apart (connections : List Connection) (userId : UserId) (workspaceIds : List WorkspaceId) :
    Prop :=
  ∀ connection ∈ connections, connection.userId = userId →
    ∀ workspaceId ∈ connection.workspaceIds, workspaceId ∉ workspaceIds

/-- A registration as invisible, a removal behind the counts of a read and one at the end of the
grace period meet no connection. -/
def SparesConnected (state : PresenceState) : PresenceTask → Prop
  | .register args _ => args.preference = .invisible →
      Apart (state.disconnected args.sessionId) args.userId args.workspaceIds
  | .finalizeRemove userId workspaceIds => Apart state.connections userId workspaceIds
  | .removeGone .users workspaceId _ toRemove =>
    ∀ userId ∈ toRemove, Apart state.connections userId [workspaceId]
  | _ => True

/-- Where a session outlasts a stretch of time, so does the set of the sessions of its user. -/
def SetOutlasts (state : PresenceState) (elapsed : Nat) : Prop :=
  ∀ connection ∈ state.connections,
    (Expiring.read (state.now + elapsed) (state.sessions connection.sessionId)).isSome = true →
      (Expiring.read (state.now + elapsed) (state.userSessions connection.userId)).isSome = true

def StaysPresent (state : State PresenceState PresenceTask) :
    Label PresenceTask PresenceInput → Prop
  | .resume _ task _ => SparesConnected state.shared task
  | .accept (.tick elapsed) => SetOutlasts state.shared elapsed
  | .accept _ => True

/-- The session of each connection is among those of its user. -/
def Joined (state : PresenceState) : Prop :=
  ∀ connection ∈ state.connections,
    connection.sessionId ∈ members state.now (state.userSessions connection.userId)

theorem effectiveStatus_eq_offline_iff :
    state.effectiveStatus config userId = .offline ↔ state.sessionCount userId = 0 := by
  rw [effectiveStatus]
  split
  next none_ => exact iff_of_true rfl none_
  next some_ =>
    refine iff_of_false ?_ some_
    split
    · simp
    · simp
    · split <;> simp

theorem mem_onlineIn_iff {workspaceId : WorkspaceId} : userId ∈ state.onlineIn workspaceId ↔
    userId ∈ state.workspaceSets .users workspaceId ∧ state.sessionCount userId ≠ 0 := by
  rw [onlineIn, mem_filter, decide_eq_true_eq]

theorem sessionCount_ne_zero_iff : state.sessionCount userId ≠ 0 ↔
    members state.now (state.userSessions userId) ≠ [] := by
  rw [sessionCount, Ne, length_eq_zero_iff]

/-- What counts are the sessions of a user and the sets of the workspaces. -/
theorem connectedPresent_iff : ConnectedPresent config state ↔
    ∀ connection ∈ state.connections, state.sessionCount connection.userId ≠ 0 ∧
      ∀ workspaceId ∈ connection.workspaceIds,
        connection.userId ∈ state.workspaceSets .users workspaceId := by
  refine forall₂_congr fun connection _ => ?_
  rw [Ne, effectiveStatus_eq_offline_iff]
  constructor
  · rintro ⟨isThere, online⟩
    exact ⟨isThere, fun workspaceId named => (mem_onlineIn_iff.mp (online workspaceId named)).1⟩
  · rintro ⟨isThere, among⟩
    exact ⟨isThere, fun workspaceId named =>
      mem_onlineIn_iff.mpr ⟨among workspaceId named, isThere⟩⟩

theorem Joined.sessionCount_ne_zero (joined : Joined state) {connection : Connection}
    (connected : connection ∈ state.connections) :
    state.sessionCount connection.userId ≠ 0 :=
  sessionCount_ne_zero_iff.mpr (ne_nil_of_mem (joined connection connected))

/-- With the sessions joined, the sets of the workspaces decide. -/
theorem Joined.connectedPresent_iff (joined : Joined state) : ConnectedPresent config state ↔
    ∀ connection ∈ state.connections, ∀ workspaceId ∈ connection.workspaceIds,
      connection.userId ∈ state.workspaceSets .users workspaceId := by
  rw [Presence.connectedPresent_iff]
  exact forall₂_congr fun connection connected =>
    and_iff_right (joined.sessionCount_ne_zero connected)

section Sets

variable {set other : WorkspaceSet} {workspaceId : WorkspaceId} {member : UserId}
  {gone : List UserId}

@[simp]
theorem mem_addTo : member ∈ (state.addTo set workspaceIds userId).workspaceSets other workspaceId ↔
    member ∈ state.workspaceSets other workspaceId ∨
      (other = set ∧ workspaceId ∈ workspaceIds) ∧ member = userId := by
  rw [addTo, changeSets]
  dsimp only
  split
  next changed =>
    rw [mem_insert_iff, or_comm]
    exact or_congr_right (and_iff_right changed).symm
  next kept => exact ⟨.inl, fun among => among.elim id fun added => absurd added.1 kept⟩

@[simp]
theorem mem_removeFrom :
    member ∈ (state.removeFrom set workspaceIds gone).workspaceSets other workspaceId ↔
      member ∈ state.workspaceSets other workspaceId ∧
        ¬((other = set ∧ workspaceId ∈ workspaceIds) ∧ member ∈ gone) := by
  rw [removeFrom, changeSets]
  dsimp only
  split
  next changed =>
    rw [mem_filter, decide_eq_true_eq]
    exact and_congr_right fun _ => not_congr (and_iff_right changed).symm
  next kept => exact ⟨fun among => ⟨among, fun removed => kept removed.1⟩, And.left⟩

theorem applyPreference_same {args : RegisterArgs} :
    (state.applyPreference args).now = state.now ∧
      (state.applyPreference args).userSessions = state.userSessions ∧
      (state.applyPreference args).connections = state.connections := by
  rw [applyPreference]
  split <;> exact ⟨rfl, rfl, rfl⟩

/-- Who is online after a registration. -/
theorem mem_applyPreference_users {args : RegisterArgs} :
    member ∈ (state.applyPreference args).workspaceSets .users workspaceId ↔
      if args.preference = .invisible then member ∈ state.workspaceSets .users workspaceId ∧
        ¬(workspaceId ∈ args.workspaceIds ∧ member = args.userId)
      else member ∈ state.workspaceSets .users workspaceId ∨
        workspaceId ∈ args.workspaceIds ∧ member = args.userId := by
  rw [applyPreference]
  split
  next isInvisible => simp [isInvisible]
  next isDnd => simp [isDnd]
  next isAuto => simp [isAuto]

end Sets

section Writes

theorem Joined.of_same (joined : Joined state) (now : next.now = state.now)
    (userSessions : next.userSessions = state.userSessions)
    (connections : next.connections = state.connections) : Joined next := by
  intro connection connected
  rw [now, userSessions]
  exact joined connection (connections ▸ connected)

variable {connection : Connection}

theorem mem_disconnected {sessionId : PresenceSessionId} :
    connection ∈ state.disconnected sessionId ↔
      connection ∈ state.connections ∧ connection.sessionId ≠ sessionId := by
  rw [disconnected, mem_filter, decide_eq_true_eq]

variable {args : RegisterArgs}

/-- Of the connections after a registration, one may be new. -/
theorem mem_connected :
    connection ∈ state.connected args ↔
      args.preference ≠ .invisible ∧ connection = ⟨args.sessionId, args.userId, args.workspaceIds⟩ ∨
        connection ∈ state.disconnected args.sessionId := by
  rw [connected]
  split
  next isInvisible => simp [isInvisible]
  next isVisible =>
    rw [mem_cons]
    exact or_congr_left (and_iff_right isVisible).symm

/-- A registration joins its session and keeps the others. -/
theorem joined_register (joined : Joined state) {nowMs : Nat} :
    Joined (state.register config args nowMs) := by
  have before : Joined (state.withSession config args nowMs) := by
    have alive : state.now < state.now + config.ttl * 2 := by
      have positive := config.ttlPositive
      rw [PresenceConfig.ttl]
      omega
    have isMember {sessionId : PresenceSessionId} (isIn : sessionId = args.sessionId ∨
        sessionId ∈ members state.now (state.userSessions args.userId)) :
        sessionId ∈ members state.now
          ((state.withSession config args nowMs).userSessions args.userId) := by
      refine mem_members_iff.mpr ⟨_, _, Function.update_self _ _ _, alive, ?_⟩
      exact mem_insert_iff.mpr isIn
    intro connection connected
    rcases mem_connected.mp connected with ⟨-, rfl⟩ | earlier
    · exact isMember (.inl rfl)
    have isJoined := joined connection (mem_disconnected.mp earlier).1
    by_cases sameUser : connection.userId = args.userId
    · rw [sameUser] at isJoined ⊢
      exact isMember (.inr isJoined)
    · have sameSet : (state.withSession config args nowMs).userSessions connection.userId =
          state.userSessions connection.userId := Function.update_of_ne sameUser _ _
      rw [sameSet]
      exact isJoined
  exact before.of_same applyPreference_same.1 applyPreference_same.2.1 applyPreference_same.2.2

/-- A registration keeps the connections present exactly when it is not invisible beside one. -/
theorem connectedPresent_register_iff (joined : Joined state) (law : ConnectedPresent config state)
    {nowMs : Nat} :
    ConnectedPresent config (state.register config args nowMs) ↔
      (args.preference = .invisible →
        Apart (state.disconnected args.sessionId) args.userId args.workspaceIds) := by
  have among := joined.connectedPresent_iff.mp law
  have sameConnections : (state.register config args nowMs).connections = state.connected args :=
    applyPreference_same.2.2
  have users {member : UserId} {workspaceId : WorkspaceId} :
      member ∈ (state.register config args nowMs).workspaceSets .users workspaceId ↔
        if args.preference = .invisible then member ∈ state.workspaceSets .users workspaceId ∧
          ¬(workspaceId ∈ args.workspaceIds ∧ member = args.userId)
        else member ∈ state.workspaceSets .users workspaceId ∨
          workspaceId ∈ args.workspaceIds ∧ member = args.userId := mem_applyPreference_users
  rw [(joined_register joined).connectedPresent_iff, sameConnections]
  constructor
  · intro after isInvisible connection connected sameUser workspaceId named isArg
    have stays := after connection (mem_connected.mpr (.inr connected)) workspaceId named
    rw [users, if_pos isInvisible] at stays
    exact stays.2 ⟨isArg, sameUser⟩
  · intro apart connection connected workspaceId named
    rw [users]
    rcases mem_connected.mp connected with ⟨isVisible, rfl⟩ | earlier
    · rw [if_neg isVisible]
      exact .inr ⟨named, rfl⟩
    · have wasAmong := among connection (mem_disconnected.mp earlier).1 workspaceId named
      split
      next isInvisible =>
        refine ⟨wasAmong, fun removed => ?_⟩
        exact apart isInvisible connection earlier removed.2 workspaceId named removed.1
      next => exact .inl wasAmong

/-- Users may be removed from the set of a workspace exactly when they have no connection to it. -/
theorem connectedPresent_remove_iff (joined : Joined state) (law : ConnectedPresent config state)
    (joinedNext : Joined next) (connections : next.connections = state.connections)
    {gone : List UserId} (users : ∀ {member workspaceId},
      member ∈ next.workspaceSets .users workspaceId ↔
        member ∈ state.workspaceSets .users workspaceId ∧
          ¬(workspaceId ∈ workspaceIds ∧ member ∈ gone)) :
    ConnectedPresent config next ↔
      ∀ userId ∈ gone, Apart state.connections userId workspaceIds := by
  have among := joined.connectedPresent_iff.mp law
  rw [joinedNext.connectedPresent_iff, connections]
  constructor
  · rintro after userId isGone connection connected rfl workspaceId named removed
    exact (users.mp (after connection connected workspaceId named)).2 ⟨removed, isGone⟩
  · intro apart connection connected workspaceId named
    refine users.mpr ⟨among connection connected workspaceId named, fun removed => ?_⟩
    exact apart _ removed.2 connection connected rfl workspaceId named removed.1

theorem connectedPresent_of_same (law : ConnectedPresent config state) (now : next.now = state.now)
    (userSessions : next.userSessions = state.userSessions)
    (connections : next.connections = state.connections)
    (workspaceSets : next.workspaceSets .users = state.workspaceSets .users) :
    ConnectedPresent config next := by
  rw [connectedPresent_iff, connections, workspaceSets]
  intro connection connected
  have before := connectedPresent_iff.mp law connection connected
  rw [sessionCount, now, userSessions]
  exact before

theorem joined_unregister (joined : Joined state) {sessionId : PresenceSessionId} :
    Joined (state.unregister sessionId userId) := by
  intro connection connected
  obtain ⟨earlier, isOther⟩ := mem_disconnected.mp connected
  have isJoined := joined connection earlier
  by_cases sameUser : connection.userId = userId
  · obtain ⟨stored, expiresAt, isStored, alive, present⟩ := mem_members_iff.mp isJoined
    have left : (state.unregister sessionId userId).userSessions connection.userId =
        some ⟨stored.filter fun member => member ≠ sessionId, expiresAt⟩ := by
      rw [sameUser] at isStored ⊢
      apply (Function.update_self _ _ _).trans
      rw [isStored, Option.map_some]
    refine mem_members_iff.mpr ⟨_, _, left, alive, ?_⟩
    exact mem_filter.mpr ⟨present, decide_eq_true isOther⟩
  · have sameSet : (state.unregister sessionId userId).userSessions connection.userId =
        state.userSessions connection.userId := Function.update_of_ne sameUser _ _
    rw [sameSet]
    exact isJoined

variable {elapsed : Nat}

theorem mem_tick_iff :
    connection ∈ (state.tick elapsed).connections ↔ connection ∈ state.connections ∧
      (Expiring.read (state.now + elapsed) (state.sessions connection.sessionId)).isSome = true :=
  mem_filter

/-- Where a set that has members outlasts a stretch of time, it keeps them. -/
theorem Joined.outlasts (joined : Joined state) (connected : connection ∈ state.connections)
    (outlasts : (Expiring.read (state.now + elapsed) (state.userSessions connection.userId)).isSome
      = true) :
    connection.sessionId ∈ members (state.now + elapsed)
      (state.userSessions connection.userId) := by
  obtain ⟨stored, expiresAt, isStored, -, present⟩ :=
    mem_members_iff.mp (joined connection connected)
  obtain ⟨found, isRead⟩ := Option.isSome_iff_exists.mp outlasts
  obtain ⟨foundExpiresAt, isFound, alive⟩ := read_eq_some_iff.mp isRead
  cases isStored.symm.trans isFound
  exact mem_members_iff.mpr ⟨stored, expiresAt, isStored, alive, present⟩

/-- Where the users are present after a stretch of time, their sets have outlasted it. -/
theorem setOutlasts_of_tick (law : ConnectedPresent config (state.tick elapsed)) :
    SetOutlasts state elapsed := by
  intro connection connected alive
  have isThere := (connectedPresent_iff.mp law connection (mem_tick_iff.mpr ⟨connected, alive⟩)).1
  by_contra expired
  apply sessionCount_ne_zero_iff.mp isThere
  rw [members]
  exact congrArg (Option.getD · []) (Option.not_isSome_iff_eq_none.mp expired)

theorem joined_tick (joined : Joined state) (outlasts : SetOutlasts state elapsed) :
    Joined (state.tick elapsed) := by
  intro connection connected
  obtain ⟨earlier, alive⟩ := mem_tick_iff.mp connected
  exact joined.outlasts earlier (outlasts connection earlier alive)

/-- Time may pass exactly as long as the sets of the sessions outlast it. -/
theorem connectedPresent_tick_iff (joined : Joined state) (law : ConnectedPresent config state) :
    ConnectedPresent config (state.tick elapsed) ↔ SetOutlasts state elapsed := by
  refine ⟨setOutlasts_of_tick, fun outlasts => ?_⟩
  refine (joined_tick joined outlasts).connectedPresent_iff.mpr fun connection connected => ?_
  exact joined.connectedPresent_iff.mp law connection (mem_tick_iff.mp connected).1

end Writes

/-- What `Joined` and the law do not look at. -/
structure SamePresence (state next : PresenceState) : Prop where
  now : next.now = state.now
  userSessions : next.userSessions = state.userSessions
  connections : next.connections = state.connections
  users : next.workspaceSets .users = state.workspaceSets .users

theorem SamePresence.refl : SamePresence state state :=
  ⟨rfl, rfl, rfl, rfl⟩

theorem samePresence_counted {set : WorkspaceSet} {workspaceId : WorkspaceId}
    {alive toRemove rest : List UserId} :
    SamePresence state (counted set workspaceId state alive toRemove rest).1 := by
  cases rest with
  | nil =>
    rw [counted]
    split <;> exact ⟨rfl, rfl, rfl, rfl⟩
  | cons userId rest => exact .refl

/-- What a task comes to, for the connections. -/
inductive TaskEffect (config : PresenceConfig) (state : PresenceState) :
    PresenceTask → PresenceState → Prop where
  | same {task : PresenceTask} {next : PresenceState} (same : SamePresence state next)
      (spares : SparesConnected state task) : TaskEffect config state task next
  | register (args : RegisterArgs) (nowMs : Nat) {next : PresenceState}
      (same : SamePresence (state.register config args nowMs) next) :
      TaskEffect config state (.register args nowMs) next
  | unregister (sessionId : PresenceSessionId) (userId : UserId) :
      TaskEffect config state (.unregister sessionId userId) (state.unregister sessionId userId)
  | finalizeRemove (userId : UserId) (workspaceIds : List WorkspaceId) {next : PresenceState}
      (same : SamePresence (state.finalizeOffline userId workspaceIds) next) :
      TaskEffect config state (.finalizeRemove userId workspaceIds) next
  | removeGone (workspaceId : WorkspaceId) (alive toRemove : List UserId) {next : PresenceState}
      (same : SamePresence (state.removeFrom .users [workspaceId] toRemove) next) :
      TaskEffect config state (.removeGone .users workspaceId alive toRemove) next

theorem taskEffect_resume (task : PresenceTask) :
    TaskEffect config state task (task.resume config state).1 := by
  cases task with
  | register args nowMs => exact .register args nowMs ⟨rfl, rfl, rfl, rfl⟩
  | unregister sessionId userId => exact .unregister sessionId userId
  | finalizeRemove userId workspaceIds =>
    exact .finalizeRemove userId workspaceIds ⟨rfl, rfl, rfl, rfl⟩
  | removeGone set workspaceId alive toRemove =>
    cases set with
    | users => exact .removeGone workspaceId alive toRemove ⟨rfl, rfl, rfl, rfl⟩
    | dnd =>
      have users : (state.removeFrom .dnd [workspaceId] toRemove).workspaceSets .users =
          state.workspaceSets .users := by
        funext other
        simp [removeFrom, changeSets]
      exact .same ⟨rfl, rfl, rfl, users⟩ trivial
  | heartbeatExists sessionId | finalizeEpoch userId workspaceIds armedGraceEpoch =>
    unfold PresenceTask.resume
    dsimp only
    split <;> exact .same ⟨rfl, rfl, rfl, rfl⟩ trivial
  | finalizeCount userId workspaceIds armedGraceEpoch =>
    unfold PresenceTask.resume
    dsimp only
    split
    · exact .same ⟨rfl, rfl, rfl, rfl⟩ trivial
    · split <;> exact .same .refl trivial
  | listMembers set workspaceId => exact .same samePresence_counted trivial
  | countSessions set workspaceId userId rest alive toRemove =>
    unfold PresenceTask.resume
    dsimp only
    split <;> exact .same samePresence_counted trivial
  | _ => exact .same ⟨rfl, rfl, rfl, rfl⟩ trivial

theorem SamePresence.joined (same : SamePresence state next) (joined : Joined state) :
    Joined next :=
  joined.of_same same.now same.userSessions same.connections

theorem SamePresence.connectedPresent_iff (same : SamePresence state next) :
    ConnectedPresent config next ↔ ConnectedPresent config state :=
  ⟨fun law => connectedPresent_of_same law same.now.symm same.userSessions.symm
      same.connections.symm same.users.symm,
    fun law => connectedPresent_of_same law same.now same.userSessions same.connections same.users⟩

theorem joined_finalizeOffline (joined : Joined state) {userId : UserId}
    {workspaceIds : List WorkspaceId} : Joined (state.finalizeOffline userId workspaceIds) :=
  joined.of_same rfl rfl rfl

theorem joined_removeFrom (joined : Joined state) {set : WorkspaceSet}
    {workspaceIds : List WorkspaceId} {gone : List UserId} :
    Joined (state.removeFrom set workspaceIds gone) :=
  joined.of_same rfl rfl rfl

/-- A task keeps the sessions joined. -/
theorem TaskEffect.joined {task : PresenceTask} (effect : TaskEffect config state task next)
    (joined : Joined state) : Joined next := by
  cases effect with
  | same same _ => exact same.joined joined
  | register args nowMs same => exact same.joined (joined_register joined)
  | unregister sessionId userId => exact joined_unregister joined
  | finalizeRemove userId workspaceIds same => exact same.joined (joined_finalizeOffline joined)
  | removeGone workspaceId alive toRemove same => exact same.joined (joined_removeFrom joined)

/-- A task keeps the law exactly when it spares the connections. -/
theorem TaskEffect.connectedPresent_iff {task : PresenceTask}
    (effect : TaskEffect config state task next) (joined : Joined state)
    (law : ConnectedPresent config state) :
    ConnectedPresent config next ↔ SparesConnected state task := by
  cases effect with
  | same same spares => exact iff_of_true (same.connectedPresent_iff.mpr law) spares
  | register args nowMs same =>
    exact same.connectedPresent_iff.trans (connectedPresent_register_iff joined law)
  | unregister sessionId userId =>
    refine iff_of_true ?_ trivial
    refine (joined_unregister joined).connectedPresent_iff.mpr fun connection connected => ?_
    exact joined.connectedPresent_iff.mp law connection (mem_disconnected.mp connected).1
  | finalizeRemove userId workspaceIds same =>
    have users {member : UserId} {workspaceId : WorkspaceId} :
        member ∈ (state.finalizeOffline userId workspaceIds).workspaceSets .users workspaceId ↔
          member ∈ state.workspaceSets .users workspaceId ∧
            ¬(workspaceId ∈ workspaceIds ∧ member ∈ [userId]) := by
      simp [finalizeOffline]
    apply same.connectedPresent_iff.trans
    exact (connectedPresent_remove_iff joined law (joined_finalizeOffline joined) rfl users).trans
      forall_mem_singleton
  | removeGone workspaceId alive toRemove same =>
    apply same.connectedPresent_iff.trans
    exact connectedPresent_remove_iff joined law (joined_removeFrom joined) rfl (by simp)

/-- An input leaves the state alone, unless it is the time that passes. -/
theorem accepted_cases (input : PresenceInput) :
    (∃ elapsed, input = .tick elapsed) ∨
      (input.accepted state).1 = state ∧ ∀ elapsed, input ≠ .tick elapsed := by
  cases input with
  | tick elapsed => exact .inl ⟨elapsed, rfl⟩
  | _ => exact .inr ⟨rfl, by simp⟩

/-- The users of all connections are present along a run exactly when no set of sessions expires
before a session of it does, no removal of a finalisation or behind a read of the online users
meets a connection, and no registration as invisible is beside one. -/
theorem connected_present_iff (config : PresenceConfig)
    {labels : List (Label PresenceTask PresenceInput)}
    {finish : State PresenceState PresenceTask} :
    Steps (Lawful (Step (presenceLoop config)) fun state => ConnectedPresent config state.shared)
        ⟨{}, []⟩ labels finish ↔
      Steps (Guarded (Step (presenceLoop config)) StaysPresent) ⟨{}, []⟩ labels finish := by
  have joined : Joined ({} : PresenceState) := forall_mem_nil _
  have law : ConnectedPresent config ({} : PresenceState) := forall_mem_nil _
  refine Steps.lawful_iff_guarded_within (fun state => Joined state.shared) ?_ ?_ joined law
  · intro state label next transition joined law
    cases transition with
    | resume before task after => exact (taskEffect_resume task).joined joined
    | accept accepted =>
      next tasks input after spawned =>
      obtain rfl : (input.accepted _).1 = after := congrArg Prod.fst accepted
      rcases accepted_cases input with ⟨elapsed, rfl⟩ | ⟨same, -⟩
      · exact joined_tick joined (setOutlasts_of_tick law)
      rw [same]
      exact joined
  · intro state label next transition joined law
    cases transition with
    | resume before task after => exact (taskEffect_resume task).connectedPresent_iff joined law
    | accept accepted =>
      next tasks input after spawned =>
      obtain rfl : (input.accepted _).1 = after := congrArg Prod.fst accepted
      rcases accepted_cases input with ⟨elapsed, rfl⟩ | ⟨same, isOther⟩
      · exact connectedPresent_tick_iff joined law
      rw [same]
      refine iff_of_true law ?_
      cases input with
      | tick elapsed => exact absurd rfl (isOther elapsed)
      | _ => trivial

def firstRegister (preference : PresencePreference) : RegisterArgs where
  sessionId := ⟨0⟩
  userId := ⟨0⟩
  workspaceIds := [⟨0⟩]
  preference := preference

/-- A minute later, a heartbeat. -/
def minuteBeat : List (Move PresenceInput) :=
  [.accept (.tick 60000), .accept (.heartbeat ⟨0⟩), .run 0, .run 0]

theorem accepts_presence (config : PresenceConfig) (state : PresenceState) (input : PresenceInput) :
    (presenceLoop config).Accepts state input (input.accepted state).1 (input.accepted state).2 :=
  rfl

/-- A session that sends a heartbeat every minute is offline after four minutes, with its connection
and its hash alive, and a read of the online users removes the user for good. A read that counted
before the registration removes a user who has just connected. -/
theorem beating_session_offline :
    (∃ labels finish, Steps (Step (presenceLoop {})) ⟨{}, []⟩ labels finish ∧
      finish.shared.connections = [⟨⟨0⟩, ⟨0⟩, [⟨0⟩]⟩] ∧
      Expiring.read finish.shared.now (finish.shared.sessions ⟨0⟩) =
        some ⟨some ⟨0⟩, some 0, 240000⟩ ∧
      finish.shared.effectiveStatus {} ⟨0⟩ = .offline ∧
      finish.shared.workspaceSets .users ⟨0⟩ = [] ∧ ¬ConnectedPresent {} finish.shared) ∧
    ∃ labels finish, Steps (Step (presenceLoop {})) ⟨{}, []⟩ labels finish ∧
      finish.shared.connections = [⟨⟨0⟩, ⟨0⟩, [⟨0⟩]⟩] ∧
      finish.shared.effectiveStatus {} ⟨0⟩ = .online ∧ finish.shared.onlineIn ⟨0⟩ = [] ∧
      ¬ConnectedPresent {} finish.shared := by
  constructor
  · obtain ⟨labels, finish, steps, connections, hash, isOffline, removed⟩ :=
      exists_steps_of_play ⟨{}, []⟩ (accepts_presence {})
        ([.accept (.register (firstRegister .auto)), .run 0] ++ minuteBeat ++ minuteBeat ++
          minuteBeat ++ minuteBeat ++ [.accept (.onlineIn ⟨0⟩), .run 0, .run 0, .run 0])
        (P := fun finish => finish.shared.connections = [⟨⟨0⟩, ⟨0⟩, [⟨0⟩]⟩] ∧
          Expiring.read finish.shared.now (finish.shared.sessions ⟨0⟩) =
            some ⟨some ⟨0⟩, some 0, 240000⟩ ∧
          finish.shared.effectiveStatus {} ⟨0⟩ = .offline ∧
          finish.shared.workspaceSets .users ⟨0⟩ = []) (by decide +kernel)
    refine ⟨labels, finish, steps, connections, hash, isOffline, removed, fun law => ?_⟩
    have first := law ⟨⟨0⟩, ⟨0⟩, [⟨0⟩]⟩ (by rw [connections]; exact mem_singleton_self _)
    exact first.1 isOffline
  · obtain ⟨labels, finish, steps, connections, isOnline, missing⟩ :=
      exists_steps_of_play ⟨{}, []⟩ (accepts_presence {})
        [.accept (.register (firstRegister .auto)), .run 0, .accept (.unregister ⟨0⟩ ⟨0⟩), .run 0,
          .run 0, .accept (.onlineIn ⟨0⟩), .run 0, .run 0,
          .accept (.register (firstRegister .auto)), .run 1, .run 0]
        (P := fun finish => finish.shared.connections = [⟨⟨0⟩, ⟨0⟩, [⟨0⟩]⟩] ∧
          PresenceState.effectiveStatus {} finish.shared ⟨0⟩ = .online ∧
          finish.shared.onlineIn ⟨0⟩ = []) (by decide +kernel)
    refine ⟨labels, finish, steps, connections, isOnline, missing, fun law => ?_⟩
    have first := law ⟨⟨0⟩, ⟨0⟩, [⟨0⟩]⟩ (by rw [connections]; exact mem_singleton_self _)
    have present := first.2 ⟨0⟩ (mem_singleton_self _)
    rw [missing] at present
    cases present

end Bongtalk.Realtime.Presence
