import Bongtalk.Realtime.Gateway

/-!
# What the gateway knows about its sockets

The state of a socket lists the channels it joined, except while a refresh works on the socket. This
holds along every run in which no two refreshes work on one socket at a time.
-/

namespace Bongtalk.Realtime

open Library Library.EventLoop Prisma Socket Task List Table

/-- A refresh is in the middle of its work on a socket, with its snapshot of channels. -/
def Task.WorksOn (id : SocketId) (snapshot : List ChannelId) : Task → Prop
  | .refreshLeave socketId run => socketId = id ∧ run.fresh.channelIds = snapshot
  | .refreshLeaving socketId _ run => socketId = id ∧ run.fresh.channelIds = snapshot
  | _ => False

/-- Two tasks do not work on the same socket with different snapshots. -/
def Task.Agrees (first second : Task) : Prop :=
  ∀ id snapshot other, first.WorksOn id snapshot → second.WorksOn id other → snapshot = other

/-- What the steps of its handshake leave on a socket. -/
def Socket.Sound (socket : Socket) : Prop :=
  match socket.handshake with
  | .reading => socket.rooms = []
  | .joining _ => socket.rooms = []
  | .joined found => .user socket.userId ∈ socket.rooms ∧
      ∀ channelId, .channel channelId ∈ socket.rooms → channelId ∈ found.channelIds
  | .ready _ => .user socket.userId ∈ socket.rooms

structure Tracked (server : Server) (tasks : List Task) : Prop where
  sound : ∀ socket ∈ server.sockets, socket.Sound
  below : ∀ socket ∈ server.sockets, socket.id.value < server.nextSocketId
  working : ∀ task ∈ tasks, ∀ id snapshot, task.WorksOn id snapshot →
    id.value < server.nextSocketId ∧
      ∀ socket ∈ server.sockets, socket.id = id → socket.state.isSome = true
  agree : tasks.Pairwise Agrees
  tracked : ∀ socket ∈ server.sockets, ∀ state, socket.state = some state →
    ∀ channelId, .channel channelId ∈ socket.rooms → channelId ∈ state.channelIds ∨
      ∃ task ∈ tasks, ∃ snapshot, task.WorksOn socket.id snapshot ∧ channelId ∈ snapshot
  settled : ∀ id toLeave run, .refreshLeaving id toLeave run ∈ tasks →
    ∀ socket ∈ server.sockets, socket.id = id → ∀ channelId, .channel channelId ∈ socket.rooms →
      channelId ∈ run.fresh.channelIds ∨ channelId ∈ toLeave

/-- A refresh starts its work on a socket only when no other one is at it with another snapshot. -/
def Agreeing (_ : GatewayState) : GatewayLabel → Prop
  | .resume before (.refreshSockets run) after =>
    ∀ id, run.socketIds.head? = some id → ∀ other ∈ before ++ after,
      ∀ snapshot, other.WorksOn id snapshot → snapshot = run.fresh.channelIds
  | _ => True

theorem Task.Agrees.symm {first second : Task} (agree : first.Agrees second) :
    second.Agrees first :=
  fun id snapshot other secondWorks firstWorks =>
    (agree id other snapshot firstWorks secondWorks).symm

section Sockets

variable {server : Server} {id : SocketId} {change : Socket → Socket}
variable (keeps : ∀ socket, (change socket).id = socket.id)

variable {keeps} in
theorem mem_modify {socket : Socket} : socket ∈ (server.modify id change keeps).sockets ↔
    ∃ old ∈ server.sockets, (if old.id = id then change old else old) = socket := by
  simp only [Server.modify, mem_rewrite]

/-- A socket has a user room from its join on. -/
theorem Socket.Sound.user_mem {socket : Socket} (sound : socket.Sound) {channelId : ChannelId}
    (joined : .channel channelId ∈ socket.rooms) : .user socket.userId ∈ socket.rooms := by
  unfold Sound at sound
  split at sound
  next => simp [sound] at joined
  next => simp [sound] at joined
  next => exact sound.1
  next => exact sound

/-- Channel rooms come and go with refreshes, the others stay. -/
theorem mem_rooms_joinFresh {fresh : JoinedRooms} {socket : Socket} {room : Room} :
    room ∈ (socket.joinFresh fresh).rooms ↔ room ∈ socket.rooms ∨
      ∃ state, socket.state = some state ∧ ∃ channelId ∈ fresh.channelIds,
        channelId ∉ state.channelIds ∧ room = .channel channelId := by
  unfold joinFresh
  split
  next noState => simp [noState]
  next state hasState =>
    simp only [hasState, mem_append, mem_map, mem_filter, Option.some.injEq,
      exists_eq_left', Bool.not_eq_true', contains_eq_mem, decide_eq_false_iff_not, and_assoc,
      eq_comm (a := room)]

theorem mem_rooms_leave {left : ChannelId} {socket : Socket} {room : Room} :
    room ∈ (socket.leave left).rooms ↔ room ∈ socket.rooms ∧ room ≠ .channel left := by
  simp [leave]

theorem mem_toLeave {fresh : JoinedRooms} {socket : Socket} {channelId : ChannelId} :
    channelId ∈ socket.toLeave fresh ↔ ∃ state, socket.state = some state ∧
      channelId ∈ state.channelIds ∧ channelId ∉ fresh.channelIds := by
  unfold toLeave
  split
  next noState => simp [noState]
  next state hasState => simp [hasState]

@[simp]
theorem state_joinFresh {fresh : JoinedRooms} {socket : Socket} :
    (socket.joinFresh fresh).state = socket.state := by
  unfold joinFresh
  split <;> rfl

@[simp]
theorem userId_joinFresh {fresh : JoinedRooms} {socket : Socket} :
    (socket.joinFresh fresh).userId = socket.userId := by
  unfold joinFresh
  split <;> rfl

@[simp]
theorem rooms_setState {fresh : JoinedRooms} {socket : Socket} :
    (socket.setState fresh).rooms = socket.rooms := by
  unfold setState
  split <;> rfl

@[simp]
theorem userId_setState {fresh : JoinedRooms} {socket : Socket} :
    (socket.setState fresh).userId = socket.userId := by
  unfold setState
  split <;> rfl

theorem state_setState {fresh : JoinedRooms} {socket : Socket} :
    (socket.setState fresh).state = socket.state.map fun _ => fresh := by
  unfold setState
  split
  next noState => simp [noState]
  next state hasState =>
    rw [hasState]
    rfl

theorem Socket.Sound.joinFresh {fresh : JoinedRooms} {socket : Socket} (sound : socket.Sound) :
    (socket.joinFresh fresh).Sound := by
  rcases socket with ⟨id, userId, rooms, handshake⟩
  cases handshake with
  | ready state => exact mem_append_left _ sound
  | _ => exact sound

theorem Socket.Sound.leave {channelId : ChannelId} {socket : Socket} (sound : socket.Sound) :
    (socket.leave channelId).Sound := by
  rcases socket with ⟨id, userId, rooms, handshake⟩
  cases handshake with
  | reading | joining found => exact filter_eq_nil_iff.mpr (by simp [show rooms = [] from sound])
  | joined found =>
    refine ⟨mem_rooms_leave.mpr ⟨sound.1, nofun⟩, fun other joined => ?_⟩
    exact sound.2 other (mem_rooms_leave.mp joined).1
  | ready state => exact mem_rooms_leave.mpr ⟨sound, nofun⟩

theorem Socket.Sound.setState {fresh : JoinedRooms} {socket : Socket} (sound : socket.Sound) :
    (socket.setState fresh).Sound := by
  rcases socket with ⟨id, userId, rooms, handshake⟩
  cases handshake with
  | ready state => exact sound
  | _ => exact sound

end Sockets

section Steps

variable {server next : Server} {before after spawned tasks : List Task} {task : Task}

/-- A task in no middle of any work. -/
def Task.Idle (task : Task) : Prop :=
  ∀ id snapshot, ¬task.WorksOn id snapshot

/-- Removing sockets and changing idle tasks leaves the tracking alone. -/
theorem Tracked.of_kept {remaining : List Task} (tracked : Tracked server tasks)
    (kept : ∀ socket ∈ next.sockets, socket ∈ server.sockets)
    (nextSocketId : next.nextSocketId = server.nextSocketId)
    (waited : ∀ pending ∈ remaining, ¬pending.Idle → pending ∈ tasks)
    (waits : ∀ pending ∈ tasks, ¬pending.Idle → pending ∈ remaining)
    (agree : remaining.Pairwise Agrees) : Tracked next remaining where
  sound := fun socket present => tracked.sound socket (kept socket present)
  below := by
    intro socket present
    rw [nextSocketId]
    exact tracked.below socket (kept socket present)
  working := by
    intro pending pendingMem id snapshot works
    have wasPending := waited pending pendingMem fun idle => idle id snapshot works
    obtain ⟨below, ready⟩ := tracked.working pending wasPending id snapshot works
    rw [nextSocketId]
    exact ⟨below, fun socket present => ready socket (kept socket present)⟩
  agree := agree
  tracked := by
    intro socket present state hasState channelId joined
    apply (tracked.tracked socket (kept socket present) state hasState channelId joined).imp_right
    rintro ⟨holder, holderMem, snapshot, works, held⟩
    exact ⟨holder, waits holder holderMem fun idle => idle _ _ works, snapshot, works, held⟩
  settled := by
    intro id toLeave run pendingMem socket present
    have working : ¬Idle (.refreshLeaving id toLeave run) := fun idle => idle id _ ⟨rfl, rfl⟩
    exact tracked.settled id toLeave run (waited _ pendingMem working) socket (kept socket present)

theorem pairwise_agrees_of_idle (idle : ∀ new ∈ spawned, new.Idle) :
    spawned.Pairwise Agrees :=
  pairwise_of_forall_mem_list fun first firstMem _ _ id snapshot _ works =>
    absurd works (idle first firstMem id snapshot)

/-- A step that at most removes sockets, and neither runs nor leaves work on any. -/
theorem Tracked.of_idle (tracked : Tracked server (before ++ task :: after))
    (kept : ∀ socket ∈ next.sockets, socket ∈ server.sockets)
    (nextSocketId : next.nextSocketId = server.nextSocketId) (idle : task.Idle)
    (spawnedIdle : ∀ new ∈ spawned, new.Idle) : Tracked next (before ++ spawned ++ after) := by
  apply tracked.of_kept kept nextSocketId
  · intro pending pendingMem working
    rcases mem_resumed.mp pendingMem with waiting | new
    · exact mem_pending.mpr (.inr waiting)
    · exact absurd (spawnedIdle pending new) working
  · intro pending pendingMem working
    rcases mem_pending.mp pendingMem with rfl | waiting
    · exact absurd idle working
    · exact mem_resumed.mpr (.inl waiting)
  · exact pairwise_resumed Agrees.symm tracked.agree (pairwise_agrees_of_idle spawnedIdle)
      fun waiting _ new newMem id _ snapshot _ works => absurd works (spawnedIdle new newMem id snapshot)

/-- An input that at most removes sockets. -/
theorem Tracked.of_input (tracked : Tracked server tasks)
    (kept : ∀ socket ∈ next.sockets, socket ∈ server.sockets)
    (nextSocketId : next.nextSocketId = server.nextSocketId)
    (spawnedIdle : ∀ new ∈ spawned, new.Idle) : Tracked next (tasks ++ spawned) := by
  apply tracked.of_kept kept nextSocketId
  · intro pending pendingMem working
    rcases mem_append.mp pendingMem with waiting | new
    · exact waiting
    · exact absurd (spawnedIdle pending new) working
  · exact fun pending pendingMem _ => mem_append_left _ pendingMem
  · exact pairwise_append.mpr ⟨tracked.agree, pairwise_agrees_of_idle spawnedIdle,
      fun waiting _ new newMem id _ snapshot _ works => absurd works (spawnedIdle new newMem id snapshot)⟩

/-- A new socket is in no room, and nobody works on it. -/
theorem Tracked.connect (tracked : Tracked server tasks) {userId : UserId}
    {sockets : Table Socket Socket.id}
    (inserted : server.sockets.insert? ⟨⟨server.nextSocketId⟩, userId, [], .reading⟩ =
      some sockets) :
    Tracked { server with sockets := sockets, nextSocketId := server.nextSocketId + 1 } tasks where
  sound := by
    intro socket present
    rcases (mem_insert? inserted).mp present with rfl | old
    · rfl
    · exact tracked.sound socket old
  below := by
    intro socket present
    rcases (mem_insert? inserted).mp present with rfl | old
    · exact Nat.lt_succ_self _
    · exact Nat.lt_succ_of_lt (tracked.below socket old)
  working := by
    intro task pending id snapshot works
    obtain ⟨below, ready⟩ := tracked.working task pending id snapshot works
    refine ⟨Nat.lt_succ_of_lt below, fun socket present same => ?_⟩
    rcases (mem_insert? inserted).mp present with rfl | old
    · rw [← same] at below
      exact absurd below (Nat.lt_irrefl _)
    · exact ready socket old same
  agree := tracked.agree
  tracked := by
    intro socket present state hasState channelId joined
    rcases (mem_insert? inserted).mp present with rfl | old
    · cases joined
    · exact tracked.tracked socket old state hasState channelId joined
  settled := by
    intro id toLeave run pending socket present same channelId joined
    rcases (mem_insert? inserted).mp present with rfl | old
    · cases joined
    · exact tracked.settled id toLeave run pending socket old same channelId joined

/-- `next` has the sockets of `server`, but for a change to one of them. -/
def Touched (server next : Server) (id : SocketId) (change : Socket → Socket) : Prop :=
  ∀ socket ∈ next.sockets, (socket ∈ server.sockets ∧ socket.id ≠ id) ∨
    ∃ old ∈ server.sockets, old.id = id ∧ change old = socket

theorem touched_modify {id : SocketId} {change : Socket → Socket}
    (keeps : ∀ socket, (change socket).id = socket.id) :
    Touched server (server.modify id change keeps) id change := by
  intro socket present
  obtain ⟨old, oldMem, rfl⟩ := mem_modify.mp present
  by_cases same : old.id = id
  · rw [if_pos same]
    exact .inr ⟨old, oldMem, same, rfl⟩
  · rw [if_neg same]
    exact .inl ⟨oldMem, same⟩

theorem touched_self {id : SocketId} : Touched server server id fun socket => socket := by
  intro socket present
  by_cases same : socket.id = id
  · exact .inr ⟨socket, present, same, rfl⟩
  · exact .inl ⟨present, same⟩

/-- A step of a handshake, on whose socket nobody works yet. -/
theorem Tracked.handshake (tracked : Tracked server tasks) {socket : Socket}
    (present : socket ∈ server.sockets) (noState : socket.state = none) {change : Socket → Socket}
    {keeps : ∀ socket, (change socket).id = socket.id} (sound : (change socket).Sound)
    (listed : ∀ state, (change socket).state = some state →
      ∀ channelId, .channel channelId ∈ (change socket).rooms → channelId ∈ state.channelIds) :
    Tracked (server.modify socket.id change keeps) tasks := by
  have idle : ∀ task ∈ tasks, ∀ snapshot, ¬task.WorksOn socket.id snapshot := by
    intro task pending snapshot works
    have ready := (tracked.working task pending socket.id snapshot works).2 socket present rfl
    simp [noState] at ready
  -- Every socket is an old one, or the one that went on.
  have cases_ : ∀ other ∈ (server.modify socket.id change keeps).sockets,
      other ∈ server.sockets ∨ other = change socket := by
    intro other otherMem
    rcases touched_modify keeps other otherMem with ⟨old, -⟩ | ⟨old, oldMem, same, rfl⟩
    · exact .inl old
    rw [eq_of_key_eq oldMem present same]
    exact .inr rfl
  constructor
  · intro other otherMem
    rcases cases_ other otherMem with old | rfl
    · exact tracked.sound other old
    · exact sound
  · intro other otherMem
    rcases cases_ other otherMem with old | rfl
    · exact tracked.below other old
    rw [keeps]
    exact tracked.below socket present
  · intro task pending id snapshot works
    obtain ⟨below, ready⟩ := tracked.working task pending id snapshot works
    refine ⟨below, fun other otherMem same => ?_⟩
    rcases cases_ other otherMem with old | rfl
    · exact ready other old same
    rw [keeps] at same
    exact absurd (same ▸ works) (idle task pending snapshot)
  · exact tracked.agree
  · intro other otherMem state hasState channelId joined
    rcases cases_ other otherMem with old | rfl
    · exact tracked.tracked other old state hasState channelId joined
    · exact .inl (listed state hasState channelId joined)
  · intro id toLeave run pending other otherMem same channelId joined
    rcases cases_ other otherMem with old | rfl
    · exact tracked.settled id toLeave run pending other old same channelId joined
    rw [keeps] at same
    exact absurd ⟨same.symm, rfl⟩ (idle _ pending _)

section Refresh

variable {id : SocketId} {run : RefreshRun} {snapshot : List ChannelId}

/-- A task that works on at most one socket, with a snapshot. -/
def Task.Only (id : SocketId) (snapshot : List ChannelId) (task : Task) : Prop :=
  ∀ other held, task.WorksOn other held → other = id ∧ held = snapshot

section

variable (tracked : Tracked server (before ++ task :: after))

include tracked

/-- Whoever else works on the socket of a working task has the same snapshot. -/
theorem Tracked.agreed (works : task.WorksOn id snapshot) :
    ∀ other ∈ before ++ after, ∀ held, other.WorksOn id held → held = snapshot :=
  fun _ waiting held otherWorks =>
    apart_of_pending Agrees.symm tracked.agree waiting id held snapshot otherWorks works

/-- A task that changes one socket, on which others work with its snapshot at most, and leaves one
task behind. -/
theorem Tracked.work {new : Task} {change : Socket → Socket}
    (touched : Touched server next id change)
    (nextSocketId : next.nextSocketId = server.nextSocketId)
    (keeps : ∀ socket, (change socket).id = socket.id)
    (agreed : ∀ other ∈ before ++ after, ∀ held, other.WorksOn id held → held = snapshot)
    (ran : task.Only id snapshot) (left : new.Only id snapshot)
    (known : id.value < server.nextSocketId ∧ ∀ socket ∈ server.sockets, socket.id = id →
      socket.state.isSome = true) (sound : ∀ socket, socket.Sound → (change socket).Sound)
    (ready : ∀ socket, (change socket).state.isSome = socket.state.isSome)
    (entered : ∀ socket channelId, .channel channelId ∈ (change socket).rooms → .channel channelId ∈
      socket.rooms ∨ channelId ∈ snapshot)
    (listed : ∀ socket ∈ server.sockets, socket.id = id → ∀ state, (change socket).state = some
      state → ∀ channelId, .channel channelId ∈ (change socket).rooms → channelId ∈ state.channelIds
      ∨ new.WorksOn id snapshot ∧ channelId ∈ snapshot)
    (settled : ∀ toLeave run, new = .refreshLeaving id toLeave run → ∀ socket ∈ server.sockets,
      socket.id = id → ∀ channelId, .channel channelId ∈ (change socket).rooms → channelId ∈
      run.fresh.channelIds ∨ channelId ∈ toLeave) :
    Tracked next (before ++ [new] ++ after) := by
  constructor
  · intro socket present
    rcases touched socket present with ⟨old, -⟩ | ⟨old, oldMem, -, rfl⟩
    · exact tracked.sound socket old
    · exact sound old (tracked.sound old oldMem)
  · intro socket present
    rw [nextSocketId]
    rcases touched socket present with ⟨old, -⟩ | ⟨old, oldMem, -, rfl⟩
    · exact tracked.below socket old
    rw [keeps]
    exact tracked.below old oldMem
  · intro pending pendingMem other held works
    have worked : other.value < server.nextSocketId ∧
        ∀ socket ∈ server.sockets, socket.id = other → socket.state.isSome = true := by
      rcases mem_resumed.mp pendingMem with waiting | isNew
      · exact tracked.working pending (mem_pending.mpr (.inr waiting)) other held works
      obtain rfl := mem_singleton.mp isNew
      obtain ⟨rfl, -⟩ := left other held works
      exact known
    rw [nextSocketId]
    refine ⟨worked.1, fun socket present same => ?_⟩
    rcases touched socket present with ⟨old, -⟩ | ⟨old, oldMem, -, rfl⟩
    · exact worked.2 socket old same
    rw [keeps] at same
    rw [ready]
    exact worked.2 old oldMem same
  · apply pairwise_resumed Agrees.symm tracked.agree (pairwise_singleton _ _)
    intro waiting waits candidate isNew other held newHeld works newWorks
    obtain rfl := mem_singleton.mp isNew
    obtain ⟨rfl, rfl⟩ := left other newHeld newWorks
    exact agreed waiting waits held works
  · intro socket present state hasState channelId joined
    rcases touched socket present with ⟨old, elsewhere⟩ | ⟨old, oldMem, same, rfl⟩
    · apply (tracked.tracked socket old state hasState channelId joined).imp_right
      rintro ⟨holder, holderMem, held, works, isHeld⟩
      rcases mem_pending.mp holderMem with rfl | waiting
      · exact absurd (ran _ _ works).1 elsewhere
      · exact ⟨holder, mem_resumed.mpr (.inl waiting), held, works, isHeld⟩
    · refine (listed old oldMem same state hasState channelId joined).imp_right fun holds => ?_
      rw [keeps, same]
      exact ⟨new, mem_left, snapshot, holds⟩
  · intro other toLeave run pending socket present same channelId joined
    rcases mem_resumed.mp pending with waiting | isNew
    · have wasPending : .refreshLeaving other toLeave run ∈ before ++ task :: after :=
        mem_pending.mpr (.inr waiting)
      rcases touched socket present with ⟨old, -⟩ | ⟨old, oldMem, isWorked, rfl⟩
      · exact tracked.settled other toLeave run wasPending socket old same channelId joined
      rw [keeps, isWorked] at same
      rcases entered old channelId joined with oldJoined | inSnapshot
      · exact tracked.settled other toLeave run wasPending old oldMem (isWorked.trans same)
          channelId oldJoined
      · rw [agreed _ waiting run.fresh.channelIds ⟨same.symm, rfl⟩]
        exact .inl inSnapshot
    · have isNew := mem_singleton.mp isNew
      obtain ⟨rfl, -⟩ := left other run.fresh.channelIds (isNew ▸ ⟨rfl, rfl⟩)
      rcases touched socket present with ⟨-, elsewhere⟩ | ⟨old, oldMem, isWorked, rfl⟩
      · exact absurd same elsewhere
      · exact settled toLeave run isNew.symm old oldMem isWorked channelId joined

/-- What the state of a socket at work does not list is in the snapshot. -/
theorem Tracked.listed_or_held
    (agreed : ∀ other ∈ before ++ after, ∀ held, other.WorksOn id held → held = snapshot)
    (ran : task.Only id snapshot) {socket : Socket} (present : socket ∈ server.sockets)
    (same : socket.id = id) {state : JoinedRooms} (hasState : socket.state = some state)
    {channelId : ChannelId} (joined : .channel channelId ∈ socket.rooms) :
    channelId ∈ state.channelIds ∨ channelId ∈ snapshot := by
  apply (tracked.tracked socket present state hasState channelId joined).imp_right
  rintro ⟨holder, holderMem, held, works, isHeld⟩
  rw [same] at works
  rcases mem_pending.mp holderMem with rfl | waiting
  · exact (ran id held works).2 ▸ isHeld
  · exact agreed holder waiting held works ▸ isHeld

end

/-- A socket joins what is new to it. -/
theorem Tracked.start {rest : RefreshRun}
    (tracked : Tracked server (before ++ .refreshSockets run :: after))
    (sameFresh : rest.fresh = run.fresh)
    (ready : ((server.sockets.findUnique id).bind Socket.state).isSome = true)
    (agreed : ∀ other ∈ before ++ after, ∀ held, other.WorksOn id held →
      held = run.fresh.channelIds) :
    Tracked (server.modify id (joinFresh run.fresh) (id_joinFresh run.fresh))
      (before ++ [.refreshLeave id rest] ++ after) := by
  obtain ⟨state, found⟩ := Option.isSome_iff_exists.mp ready
  obtain ⟨worked, foundSocket, workedState⟩ := Option.bind_eq_some_iff.mp found
  obtain ⟨workedMem, rfl⟩ := findUnique_eq_some_iff.mp foundSocket
  have ran : Only worked.id run.fresh.channelIds (.refreshSockets run) :=
    fun _ _ works => works.elim
  refine tracked.work (touched_modify (id_joinFresh run.fresh)) rfl (id_joinFresh run.fresh) agreed ran ?_ ?_
    (fun _ sound => sound.joinFresh) (fun _ => by rw [state_joinFresh]) ?_ ?_
    nofun
  · rintro other held ⟨rfl, rfl⟩
    exact ⟨rfl, by rw [sameFresh]⟩
  · refine ⟨tracked.below worked workedMem, fun socket present same => ?_⟩
    rw [eq_of_key_eq present workedMem same, workedState]
    rfl
  · intro socket channelId joined
    refine (mem_rooms_joinFresh.mp joined).imp_right ?_
    rintro ⟨_, _, added, isFresh, _, addedEq⟩
    exact Room.channel.inj addedEq ▸ isFresh
  · intro socket present same socketState hasState channelId joined
    rw [state_joinFresh] at hasState
    have held : channelId ∈ socketState.channelIds ∨ channelId ∈ run.fresh.channelIds := by
      rcases mem_rooms_joinFresh.mp joined with oldJoined | ⟨_, _, added, isFresh, _, addedEq⟩
      · exact tracked.listed_or_held agreed ran present same hasState oldJoined
      · exact .inr (Room.channel.inj addedEq ▸ isFresh)
    exact held.imp_right fun isFresh => ⟨⟨rfl, by rw [sameFresh]⟩, isFresh⟩

/-- The channels it leaves are those of its rooms that are not in the snapshot. -/
theorem Tracked.leave (tracked : Tracked server (before ++ .refreshLeave id run :: after)) :
    Tracked server (before ++ [.refreshLeaving id
      ((server.sockets.findUnique id).elim [] (Socket.toLeave run.fresh)) run] ++ after) := by
  have works : WorksOn id run.fresh.channelIds (.refreshLeave id run) := ⟨rfl, rfl⟩
  have agreed := tracked.agreed works
  have ran : Only id run.fresh.channelIds (.refreshLeave id run) :=
    fun _ _ works => ⟨works.1.symm, works.2.symm⟩
  have known := tracked.working _ (mem_pending.mpr (.inl rfl)) id _ works
  refine tracked.work touched_self rfl (fun _ => rfl) agreed ran
    (fun _ _ works => ⟨works.1.symm, works.2.symm⟩) known (fun _ sound => sound) (fun _ => rfl)
    (fun _ _ joined => .inl joined) ?_ ?_
  · intro socket present same state hasState channelId joined
    apply (tracked.listed_or_held agreed ran present same hasState joined).imp_right
    exact fun held => ⟨⟨rfl, rfl⟩, held⟩
  · intro toLeave otherRun sameTask socket present same channelId joined
    obtain ⟨-, rfl, rfl⟩ := refreshLeaving.inj sameTask
    obtain ⟨state, hasState⟩ := Option.isSome_iff_exists.mp (known.2 socket present same)
    by_cases isFresh : channelId ∈ run.fresh.channelIds
    · exact .inl isFresh
    have listed := (tracked.listed_or_held agreed ran present same hasState joined).resolve_right
      isFresh
    rw [findUnique_eq_some_iff.mpr ⟨present, same⟩]
    exact .inr (mem_toLeave.mpr ⟨state, hasState, listed, isFresh⟩)

/-- It leaves one of them. -/
theorem Tracked.leaving {left : ChannelId} {toLeave : List ChannelId}
    (tracked : Tracked server (before ++ .refreshLeaving id (left :: toLeave) run :: after)) :
    Tracked (server.modify id (Socket.leave left) (Socket.id_leave left))
      (before ++ [.refreshLeaving id toLeave run] ++ after) := by
  have works : WorksOn id run.fresh.channelIds (.refreshLeaving id (left :: toLeave) run) :=
    ⟨rfl, rfl⟩
  have agreed := tracked.agreed works
  have ran : Only id run.fresh.channelIds (.refreshLeaving id (left :: toLeave) run) :=
    fun _ _ works => ⟨works.1.symm, works.2.symm⟩
  refine tracked.work (touched_modify (Socket.id_leave left)) rfl (Socket.id_leave left) agreed ran
    (fun _ _ works => ⟨works.1.symm, works.2.symm⟩)
    (tracked.working _ (mem_pending.mpr (.inl rfl)) id _ works) (fun _ sound => sound.leave)
    (fun _ => rfl) (fun _ _ joined => .inl (mem_rooms_leave.mp joined).1) ?_ ?_
  · intro socket present same state hasState channelId joined
    refine (tracked.listed_or_held agreed ran present same hasState
      (mem_rooms_leave.mp joined).1).imp_right ?_
    exact fun held => ⟨⟨rfl, rfl⟩, held⟩
  · intro rest otherRun sameTask socket present same channelId joined
    obtain ⟨-, rfl, rfl⟩ := refreshLeaving.inj sameTask
    obtain ⟨oldJoined, stays⟩ := mem_rooms_leave.mp joined
    refine (tracked.settled id _ run (mem_pending.mpr (.inl rfl)) socket present same channelId
      oldJoined).imp_right fun listed => (mem_cons.mp listed).resolve_left ?_
    rintro rfl
    exact stays rfl

/-- When all are left, its state becomes the snapshot. -/
theorem Tracked.set (tracked : Tracked server (before ++ .refreshLeaving id [] run :: after)) :
    Tracked (server.modify id (setState run.fresh) (id_setState run.fresh))
      (before ++ [.refreshSockets run] ++ after) := by
  have works : WorksOn id run.fresh.channelIds (.refreshLeaving id [] run) := ⟨rfl, rfl⟩
  refine tracked.work (touched_modify (id_setState run.fresh)) rfl (id_setState run.fresh) (tracked.agreed works)
    (fun _ _ works => ⟨works.1.symm, works.2.symm⟩) (fun _ _ works => works.elim)
    (tracked.working _ (mem_pending.mpr (.inl rfl)) id _ works) (fun _ sound => sound.setState)
    (fun _ => by rw [state_setState, Option.isSome_map]) ?_ ?_ nofun
  · intro socket channelId joined
    rw [rooms_setState] at joined
    exact .inl joined
  · intro socket present same state hasState channelId joined
    rw [rooms_setState] at joined
    rw [state_setState] at hasState
    obtain ⟨_, _, rfl⟩ := Option.map_eq_some_iff.mp hasState
    exact .inl ((tracked.settled id [] run (mem_pending.mpr (.inl rfl)) socket present same channelId
      joined).resolve_right not_mem_nil)

end Refresh

/-- Only the tasks of a refresh that is at a socket work. -/
theorem Tracked.resume (tracked : Tracked server (before ++ task :: after))
    (agreeing : Agreeing ⟨server, before ++ task :: after⟩ (.resume before task after)) :
    Tracked (resume server task).1 (before ++ (resume server task).2 ++ after) := by
  cases task with
  | dispatch event =>
    refine tracked.of_idle (fun _ present => present) rfl (fun _ _ works => works) ?_
    exact forall_mem_singleton.mpr fun _ _ works => works
  | handle event actions =>
    have idle : Idle (.handle event actions) := fun _ _ works => works
    have rest : ∀ rest, ∀ new ∈ [Task.handle event rest], new.Idle := fun _ =>
      forall_mem_singleton.mpr fun _ _ works => works
    rcases actions with _ | ⟨room | room | workspaceId | userId | userId, actions⟩
    case nil => exact tracked.of_idle (fun _ present => present) rfl idle (forall_mem_nil _)
    case cons.append => exact tracked.of_idle (fun _ present => present) rfl idle (rest actions)
    case cons.emit => exact tracked.of_idle (fun _ present => present) rfl idle (rest actions)
    all_goals
      refine tracked.of_idle (fun _ present => present) rfl idle ?_
      exact forall_mem_cons.mpr ⟨fun _ _ works => works, rest actions⟩
  | refreshUsers userIds =>
    have idle : Idle (.refreshUsers userIds) := fun _ _ works => works
    rcases userIds with _ | ⟨userId, userIds⟩
    · exact tracked.of_idle (fun _ present => present) rfl idle (forall_mem_nil _)
    simp only [Realtime.resume]
    split <;> exact tracked.of_idle (fun _ present => present) rfl idle
      (forall_mem_singleton.mpr fun _ _ works => works)
  | refreshRead userId socketIds userIds =>
    exact tracked.of_idle (fun _ present => present) rfl (fun _ _ works => works)
      (forall_mem_singleton.mpr fun _ _ works => works)
  | refreshSockets run =>
    have idle : Idle (.refreshSockets run) := fun _ _ works => works
    simp only [Realtime.resume]
    split
    next =>
      exact tracked.of_idle (fun _ present => present) rfl idle
        (forall_mem_singleton.mpr fun _ _ works => works)
    next socketId socketIds toDo =>
      split
      next ready => exact tracked.start rfl ready (agreeing socketId (by rw [toDo]; rfl))
      next =>
        exact tracked.of_idle (fun _ present => present) rfl idle
          (forall_mem_singleton.mpr fun _ _ works => works)
  | refreshLeave socketId run => exact tracked.leave
  | refreshLeaving socketId toLeave run =>
    cases toLeave with
    | nil => exact tracked.set
    | cons left toLeave => exact tracked.leaving
  | kick userId =>
    exact tracked.of_idle (fun _ present => (mem_deleteMany.mp present).1) rfl
      (fun _ _ works => works) (forall_mem_nil _)
  | replay socketId lastEventId channelIds =>
    have idle : Idle (.replay socketId lastEventId channelIds) := fun _ _ works => works
    cases channelIds with
    | nil => exact tracked.of_idle (fun _ present => present) rfl idle (forall_mem_nil _)
    | cons channelId channelIds =>
      exact tracked.of_idle (fun _ present => present) rfl idle
        (forall_mem_singleton.mpr fun _ _ works => works)

/-- An input starts no work. -/
theorem Tracked.accept {input : Input} (tracked : Tracked server tasks)
    (accepted : Accepts server input next spawned) : Tracked next (tasks ++ spawned) := by
  cases accepted with
  | connect userId inserted =>
    rw [append_nil]
    exact tracked.connect inserted
  | connectRead present reading =>
    rw [append_nil]
    refine tracked.handshake present (by simp [Socket.state, reading]) ?_ nofun
    have sound := tracked.sound _ present
    unfold Sound at sound
    rw [reading] at sound
    exact sound
  | connectJoin present joining =>
    rw [append_nil]
    refine tracked.handshake present (by simp [Socket.state, joining]) ?_ nofun
    have sound := tracked.sound _ present
    unfold Sound at sound
    simp only [joining] at sound
    simp [Sound, Socket.join, sound, JoinedRooms.rooms]
  | connectReady lastEventId present joined =>
    have sound := tracked.sound _ present
    unfold Sound at sound
    simp only [joined] at sound
    refine Tracked.of_input ?_ (fun _ present => present) rfl ?_
    · refine tracked.handshake present (by simp [Socket.state, joined]) sound.1 ?_
      rintro state hasState channelId inRoom
      cases hasState
      exact sound.2 channelId inRoom
    · intro new newMem
      obtain ⟨_, -, rfl⟩ := mem_map.mp newMem
      exact fun _ _ works => works
  | disconnect socketId =>
    exact tracked.of_input (fun _ present => (mem_deleteMany.mp present).1) rfl
      fun _ new => nomatch new
  | write written =>
    refine tracked.of_input (fun _ present => present) rfl ?_
    intro new newMem
    obtain ⟨event, -, rfl⟩ := mem_map.mp newMem
    exact fun _ _ works => works
  | redispatch recorded =>
    exact tracked.of_input (fun _ present => present) rfl
      (forall_mem_singleton.mpr fun _ _ works => works)
  | trim remains => exact tracked.of_input (fun _ present => present) rfl fun _ new => nomatch new

end Steps

theorem tracked_of_step {state next : GatewayState} {label : GatewayLabel}
    (step : Step gateway state label next) (agreeing : Agreeing state label)
    (tracked : Tracked state.shared state.tasks) : Tracked next.shared next.tasks := by
  cases step with
  | resume before task after => exact tracked.resume agreeing
  | accept accepted => exact tracked.accept accepted

theorem tracked_start (db : Database) : Tracked (startServer db).shared (startServer db).tasks where
  sound := fun _ present => nomatch present
  below := fun _ present => nomatch present
  working := fun _ pending => nomatch pending
  agree := .nil
  tracked := fun _ present => nomatch present
  settled := fun _ _ _ pending => nomatch pending

end Bongtalk.Realtime
