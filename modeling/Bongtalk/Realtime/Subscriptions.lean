import Bongtalk.Realtime.Tracking

/-!
# Which channel rooms sockets stay in

When nothing is pending, every channel room of a socket is to be one whose channel its user reads.
A room is admitted by other rows than those that `READ` is folded from, and refreshes come
with some writes only, so this takes conditions on the run: what a socket is admitted to is readable,
and whatever withdraws `READ` brings a refresh along, or finds one that is still to come.
-/

namespace Bongtalk.Realtime

open Library Library.EventLoop Auth Channels Channels.Permission List Table
open Prisma

/-- The effective mask of the channel contains `READ` for the user. -/
def CanReadChannel (db : Database) (channelId : ChannelId) (userId : UserId) : Prop :=
  ∃ channel ∈ db.channels, channel.id = channelId ∧ canRead db channel userId = true

/-- A socket and the channel of a room it is in. -/
structure Subscription where
  socket : Socket
  channelId : ChannelId

/-- The sockets of a server subscribe to the channels of their rooms. -/
def Subscribed (server : Server) (subscription : Subscription) : Prop :=
  subscription.socket ∈ server.sockets ∧ .channel subscription.channelId ∈ subscription.socket.rooms

def Readable (server : Server) (subscription : Subscription) : Prop :=
  CanReadChannel server.db subscription.channelId subscription.socket.userId

/-- An action that refreshes or disconnects a socket. -/
def Action.Reaches (socket : Socket) : Action → Prop
  | .append _ => False
  | .emit _ => False
  | .refreshWorkspace workspaceId => .workspace workspaceId ∈ socket.rooms
  | .refreshUser userId => userId = socket.userId
  | .kickLater userId => userId = socket.userId

/-- A refresh that has still to get to a socket. -/
def RefreshRun.ComesBy (socket : Socket) (run : RefreshRun) : Prop :=
  socket.id ∈ run.socketIds ∨ socket.userId ∈ run.userIds

/-- A task that leads to a refresh of a socket, or to its end. -/
def Task.ComesBy (socket : Socket) : Task → Prop
  | .dispatch event => ∃ action ∈ event.envelope.actions, action.Reaches socket
  | .handle _ actions => ∃ action ∈ actions, action.Reaches socket
  | .refreshUsers userIds => socket.userId ∈ userIds
  | .refreshRead _ socketIds userIds => socket.id ∈ socketIds ∨ socket.userId ∈ userIds
  | .refreshSockets run => run.ComesBy socket
  | .refreshLeave _ run => run.ComesBy socket
  | .refreshLeaving _ _ run => run.ComesBy socket
  | .kick userId => userId = socket.userId
  | .replay _ _ _ => False

/-- A refresh at work on a socket that makes it leave a channel. -/
def Task.Drops (id : SocketId) (channelId : ChannelId) : Task → Prop
  | .refreshLeave socketId run => socketId = id ∧ channelId ∉ run.fresh.channelIds
  | .refreshLeaving socketId toLeave _ => socketId = id ∧ channelId ∈ toLeave
  | _ => False

/-- What reconsiders a subscription. -/
def Task.Covers (task : Task) (subscription : Subscription) : Prop :=
  task.ComesBy subscription.socket ∨ task.Drops subscription.socket.id subscription.channelId

/-- A subscription that is fine or that a pending task reconsiders. -/
def Settled (server : Server) (tasks : List Task) (subscription : Subscription) : Prop :=
  Readable server subscription ∨ ∃ task ∈ tasks, task.Covers subscription

/-- The steps that keep subscriptions in line with what users read. -/
def KeepsUp (state : GatewayState) : GatewayLabel → Prop
  -- A socket with a state gets the rooms of the snapshot; one without is passed over.
  | .resume before (.refreshSockets run) after =>
    ∀ socket ∈ state.shared.sockets, run.socketIds.head? = some socket.id →
      ∀ channelId, (if socket.state.isSome then channelId ∈ run.fresh.channelIds
          else .channel channelId ∈ socket.rooms) →
        Settled state.shared (before ++ after) ⟨socket, channelId⟩
  -- Sockets without a state do not count for the users of a workspace.
  | .resume before (.handle _ (.refreshWorkspace workspaceId :: _)) after =>
    ∀ socket ∈ state.shared.sockets, .workspace workspaceId ∈ socket.rooms →
      socket.state = none → ∀ channelId, .channel channelId ∈ socket.rooms →
        Settled state.shared (before ++ after) ⟨socket, channelId⟩
  | .accept (.connectJoin id) =>
    ∀ socket ∈ state.shared.sockets, socket.id = id →
      ∀ found, socket.handshake = .joining found → ∀ channelId ∈ found.channelIds,
        Settled state.shared state.tasks ⟨socket.join found, channelId⟩
  | .accept (.write next envelopes) =>
    ∀ subscription, Subscribed state.shared subscription → Readable state.shared subscription →
      Settled { state.shared with db := next }
        (state.tasks ++ (state.shared.record envelopes).map .dispatch) subscription
  | _ => True

/-- Every subscription is settled. -/
def Reconciled (server : Server) (tasks : List Task) : Prop :=
  Covered Subscribed Readable Task.Covers server tasks

section Cover

variable {server next : Server} {before after spawned tasks : List Task} {task : Task}

/-- What covers a subscription covers it when its socket has more workspace rooms. -/
theorem Task.Covers.of_socket {socket changed : Socket} {channelId : ChannelId}
    (covers : task.Covers ⟨socket, channelId⟩) (id : changed.id = socket.id)
    (userId : changed.userId = socket.userId)
    (workspaces : ∀ workspaceId, .workspace workspaceId ∈ socket.rooms →
      .workspace workspaceId ∈ changed.rooms) : task.Covers ⟨changed, channelId⟩ := by
  have reaches : ∀ action : Action, action.Reaches socket → action.Reaches changed := by
    intro action reached
    cases action with
    | append room | emit room => exact reached
    | refreshWorkspace workspaceId => exact workspaces workspaceId reached
    | refreshUser other | kickLater other => exact reached.trans userId.symm
  rcases covers with comesBy | drops
  · left
    cases task with
    | dispatch event => exact comesBy.imp fun action reached => ⟨reached.1, reaches action reached.2⟩
    | handle event actions =>
      exact comesBy.imp fun action reached => ⟨reached.1, reaches action reached.2⟩
    | kick other => exact Eq.trans comesBy userId.symm
    | _ => simpa only [ComesBy, RefreshRun.ComesBy, id, userId] using comesBy
  · right
    rw [← id] at drops
    exact drops

/-- A step that leaves sockets and database alone passes on what it covered. -/
theorem Reconciled.of_same (reconciled : Reconciled server (before ++ task :: after))
    (sockets : next.sockets = server.sockets) (db : next.db = server.db)
    (passesOn : ∀ subscription, Subscribed server subscription → task.Covers subscription →
      Settled server (before ++ after) subscription ∨ ∃ new ∈ spawned, new.Covers subscription) :
    Reconciled next (before ++ spawned ++ after) := by
  refine Covered.resume reconciled fun subscription subscribed => ?_
  have subscribedBefore : Subscribed server subscription := by
    rw [Subscribed, ← sockets]
    exact subscribed
  have staysReadable : Readable server subscription → Readable next subscription := by
    rw [Readable, Readable, db]
    exact fun readable => readable
  by_cases covers : task.Covers subscription
  · rcases passesOn subscription subscribedBefore covers with (readable | ⟨pending, waits, covered⟩) |
      ⟨new, newMem, covered⟩
    · exact .inl (.inl (staysReadable readable))
    · exact .inl (.inr ⟨pending, mem_resumed.mpr (.inl waits), covered⟩)
    · exact .inl (.inr ⟨new, mem_resumed.mpr (.inr newMem), covered⟩)
  · exact .inr ⟨subscription, subscribedBefore, staysReadable, fun _ _ covered => covered,
      fun covered => absurd covered covers⟩

/-- A step that changes one socket. -/
theorem Reconciled.of_touched {id : SocketId} {change : Socket → Socket}
    (reconciled : Reconciled server (before ++ task :: after))
    (touched : Touched server next id change) (db : next.db = server.db)
    (elsewhere : ∀ subscription, Subscribed server subscription → subscription.socket.id ≠ id →
      task.Covers subscription → ∃ new ∈ spawned, new.Covers subscription)
    (here : ∀ socket ∈ server.sockets, socket.id = id → ∀ channelId,
      .channel channelId ∈ (change socket).rooms →
        Settled next (before ++ spawned ++ after) ⟨change socket, channelId⟩ ∨
          (.channel channelId ∈ socket.rooms ∧ (change socket).id = socket.id ∧
            (change socket).userId = socket.userId ∧
            (∀ workspaceId, .workspace workspaceId ∈ socket.rooms →
              .workspace workspaceId ∈ (change socket).rooms) ∧
            (task.Covers ⟨socket, channelId⟩ →
              ∃ new ∈ spawned, new.Covers ⟨change socket, channelId⟩))) :
    Reconciled next (before ++ spawned ++ after) := by
  apply Covered.resume reconciled
  rintro ⟨socket, channelId⟩ ⟨present, joined⟩
  rcases touched socket present with ⟨old, other⟩ | ⟨old, oldMem, same, rfl⟩
  · refine .inr ⟨⟨socket, channelId⟩, ⟨old, joined⟩, ?_, fun _ _ covered => covered, fun covers => ?_⟩
    · rw [Readable, Readable, db]
      exact fun readable => readable
    · exact .inr (elsewhere _ ⟨old, joined⟩ other covers)
  · rcases here old oldMem same channelId joined with settled | ⟨oldJoined, id, userId, workspaces, passes⟩
    · exact .inl settled
    refine .inr ⟨⟨old, channelId⟩, ⟨oldMem, oldJoined⟩, ?_, ?_, fun covers => .inr (passes covers)⟩
    · rw [Readable, Readable, db, userId]
      exact fun readable => readable
    · exact fun _ _ covers => covers.of_socket id userId workspaces

section Run

variable {id : SocketId} {run : RefreshRun}

/-- The users a workspace refresh finds are those with a ready socket in its room. -/
theorem mem_usersIn {workspaceId : WorkspaceId} {userId : UserId} :
    userId ∈ server.usersIn workspaceId ↔ ∃ socket ∈ server.sockets,
      .workspace workspaceId ∈ socket.rooms ∧ socket.state.isSome = true ∧
        socket.userId = userId := by
  simp only [Server.usersIn, Server.fetchSockets, mem_eraseDups, mem_map, mem_filter,
    mem_findMany, contains_eq_mem, decide_eq_true_eq, and_assoc]

/-- A subscribed socket is found in the room of its user. -/
theorem mem_fetchSockets_user (tracked : Tracked server tasks) {subscription : Subscription}
    (subscribed : Subscribed server subscription) :
    subscription.socket ∈ server.fetchSockets (.user subscription.socket.userId) := by
  have inRoom := (tracked.sound _ subscribed.1).user_mem subscribed.2
  exact mem_findMany.mpr ⟨subscribed.1, by simpa using inRoom⟩

theorem Reconciled.handle {event : OutboxEvent} {actions : List Action}
    (reconciled : Reconciled server (before ++ .handle event actions :: after))
    (keepsUp : KeepsUp ⟨server, before ++ .handle event actions :: after⟩
      (.resume before (.handle event actions) after)) :
    Reconciled (resume server (.handle event actions)).1
      (before ++ (resume server (.handle event actions)).2 ++ after) := by
  rcases actions with _ | ⟨action, rest⟩
  · apply reconciled.of_same rfl rfl
    rintro subscription - (⟨action, listed, -⟩ | drops)
    · cases listed
    · exact drops.elim
  · -- What the action itself reaches is refreshed next, and the rest waits.
    have passesOn : ∀ {spawned : List Task}, .handle event rest ∈ spawned →
        (∀ subscription, Subscribed server subscription → action.Reaches subscription.socket →
          Settled server (before ++ after) subscription ∨
            ∃ new ∈ spawned, new.Covers subscription) →
        ∀ subscription, Subscribed server subscription →
          (Task.handle event (action :: rest)).Covers subscription →
            Settled server (before ++ after) subscription ∨
              ∃ new ∈ spawned, new.Covers subscription := by
      rintro spawned restMem ofAction subscription subscribed (⟨other, listed, reached⟩ | drops)
      · rcases mem_cons.mp listed with rfl | listed
        · exact ofAction subscription subscribed reached
        · exact .inr ⟨_, restMem, .inl ⟨other, listed, reached⟩⟩
      · exact drops.elim
    cases action with
    | append room | emit room =>
      exact reconciled.of_same rfl rfl (passesOn (mem_singleton_self _)
        fun _ _ reached => reached.elim)
    | refreshWorkspace workspaceId =>
      refine reconciled.of_same rfl rfl (passesOn (mem_cons_of_mem _ mem_cons_self) ?_)
      intro subscription subscribed reached
      by_cases ready : subscription.socket.state.isSome = true
      · refine .inr ⟨_, mem_cons_self, .inl ?_⟩
        exact mem_usersIn.mpr ⟨_, subscribed.1, reached, ready, rfl⟩
      · exact .inl (keepsUp _ subscribed.1 reached (Option.not_isSome_iff_eq_none.mp ready) _
          subscribed.2)
    | refreshUser userId =>
      refine reconciled.of_same rfl rfl (passesOn (mem_cons_of_mem _ mem_cons_self) ?_)
      intro subscription subscribed reached
      exact .inr ⟨_, mem_cons_self, .inl (mem_singleton.mpr (Eq.symm reached))⟩
    | kickLater userId =>
      refine reconciled.of_same rfl rfl (passesOn (mem_cons_of_mem _ mem_cons_self) ?_)
      intro subscription subscribed reached
      exact .inr ⟨_, mem_cons_self, .inl reached⟩

theorem Reconciled.refreshUsers {userIds : List UserId}
    (tracked : Tracked server (before ++ .refreshUsers userIds :: after))
    (reconciled : Reconciled server (before ++ .refreshUsers userIds :: after)) :
    Reconciled (resume server (.refreshUsers userIds)).1
      (before ++ (resume server (.refreshUsers userIds)).2 ++ after) := by
  rcases userIds with _ | ⟨userId, userIds⟩
  · apply reconciled.of_same rfl rfl
    rintro subscription - (listed | drops)
    · cases listed
    · exact drops.elim
  · simp only [resume]
    split
    next noSockets =>
      apply reconciled.of_same rfl rfl
      rintro subscription subscribed (listed | drops)
      · rcases mem_cons.mp listed with rfl | listed
        · have found := mem_fetchSockets_user tracked subscribed
          rw [map_eq_nil_iff.mp noSockets] at found
          cases found
        · exact .inr ⟨_, mem_singleton_self _, .inl listed⟩
      · exact drops.elim
    next =>
      apply reconciled.of_same rfl rfl
      rintro subscription subscribed (listed | drops)
      · refine .inr ⟨_, mem_singleton_self _, .inl ?_⟩
        rcases mem_cons.mp listed with rfl | listed
        · exact .inl (mem_map_of_mem (mem_fetchSockets_user tracked subscribed))
        · exact .inr listed
      · exact drops.elim

theorem Reconciled.refreshSockets
    (reconciled : Reconciled server (before ++ .refreshSockets run :: after))
    (keepsUp : KeepsUp ⟨server, before ++ .refreshSockets run :: after⟩
      (.resume before (.refreshSockets run) after)) :
    Reconciled (resume server (.refreshSockets run)).1
      (before ++ (resume server (.refreshSockets run)).2 ++ after) := by
  simp only [resume]
  split
  next allDone =>
    apply reconciled.of_same rfl rfl
    rintro subscription - ((listed | listed) | drops)
    · rw [allDone] at listed
      cases listed
    · exact .inr ⟨_, mem_singleton_self _, .inl listed⟩
    · exact drops.elim
  next socketId socketIds toDo =>
    have isHead : ∀ socket : Socket, socket.id = socketId → run.socketIds.head? = some socket.id := by
      rintro socket rfl
      rw [toDo]
      rfl
    -- The sockets that are still to do are those but this one.
    have comesBy : ∀ socket : Socket, socket.id ≠ socketId → run.ComesBy socket →
        ({ run with socketIds := socketIds } : RefreshRun).ComesBy socket := by
      intro socket other listed
      rw [RefreshRun.ComesBy, toDo] at listed
      exact listed.imp_left fun listed => (mem_cons.mp listed).resolve_left other
    split
    next ready =>
      apply reconciled.of_touched (touched_modify (Socket.id_joinFresh run.fresh)) rfl
      · rintro subscription - other (comes | drops)
        · exact ⟨_, mem_singleton_self _, .inl (comesBy _ other comes)⟩
        · exact drops.elim
      · intro socket present same channelId joined
        left
        by_cases isFresh : channelId ∈ run.fresh.channelIds
        · rw [← same, findUnique_of_mem present] at ready
          rcases keepsUp socket present (isHead socket same) channelId
              ((if_pos ready).mpr isFresh) with readable | ⟨pending, waits, covers⟩
          · left
            rw [Readable, userId_joinFresh]
            exact readable
          · refine .inr ⟨pending, mem_resumed.mpr (.inl waits), ?_⟩
            apply covers.of_socket (Socket.id_joinFresh _ _) userId_joinFresh
            exact fun workspaceId inRoom => mem_rooms_joinFresh.mpr (.inl inRoom)
        · refine .inr ⟨_, mem_left, .inr ⟨?_, isFresh⟩⟩
          rw [Socket.id_joinFresh, same]
    next notReady =>
      apply reconciled.of_same rfl rfl
      rintro subscription subscribed (comes | drops)
      · by_cases same : subscription.socket.id = socketId
        · rw [← same, findUnique_of_mem subscribed.1] at notReady
          exact .inl (keepsUp _ subscribed.1 (isHead _ same) _ ((if_neg notReady).mpr subscribed.2))
        · exact .inr ⟨_, mem_singleton_self _, .inl (comesBy _ same comes)⟩
      · exact drops.elim

theorem Reconciled.refreshLeave (tracked : Tracked server (before ++ .refreshLeave id run :: after))
    (reconciled : Reconciled server (before ++ .refreshLeave id run :: after)) :
    Reconciled (resume server (.refreshLeave id run)).1
      (before ++ (resume server (.refreshLeave id run)).2 ++ after) := by
  apply reconciled.of_same rfl rfl
  rintro subscription subscribed (comes | ⟨same, stale⟩)
  · exact .inr ⟨_, mem_singleton_self _, .inl comes⟩
  · -- What the socket is to leave is in its state, since that lists all its channels.
    refine .inr ⟨_, mem_singleton_self _, .inr ⟨same, ?_⟩⟩
    exact (tracked.leave.settled id _ run mem_left _ subscribed.1 same.symm _
      subscribed.2).resolve_left stale

theorem Reconciled.refreshLeaving {toLeave : List ChannelId}
    (reconciled : Reconciled server (before ++ .refreshLeaving id toLeave run :: after)) :
    Reconciled (resume server (.refreshLeaving id toLeave run)).1
      (before ++ (resume server (.refreshLeaving id toLeave run)).2 ++ after) := by
  cases toLeave with
  | nil =>
    apply reconciled.of_touched (touched_modify (Socket.id_setState run.fresh)) rfl
    · rintro subscription - - (comes | ⟨-, listed⟩)
      · exact ⟨_, mem_singleton_self _, .inl comes⟩
      · cases listed
    · intro socket present same channelId joined
      rw [rooms_setState] at joined ⊢
      refine .inr ⟨joined, Socket.id_setState _ _, userId_setState, fun _ inRoom => inRoom, ?_⟩
      rintro (comes | ⟨-, listed⟩)
      · refine ⟨_, mem_singleton_self _, .inl ?_⟩
        simpa only [Task.ComesBy, RefreshRun.ComesBy, Socket.id_setState, userId_setState]
          using comes
      · cases listed
  | cons left toLeave =>
    apply reconciled.of_touched (touched_modify (Socket.id_leave left)) rfl
    · rintro subscription - other (comes | ⟨same, -⟩)
      · exact ⟨_, mem_singleton_self _, .inl comes⟩
      · exact absurd same.symm other
    · intro socket present same channelId joined
      obtain ⟨oldJoined, stays⟩ := mem_rooms_leave.mp joined
      refine .inr ⟨oldJoined, rfl, rfl, ?_, ?_⟩
      · exact fun workspaceId inRoom => mem_rooms_leave.mpr ⟨inRoom, nofun⟩
      · rintro (comes | ⟨isWorked, listed⟩)
        · exact ⟨_, mem_singleton_self _, .inl comes⟩
        · refine ⟨_, mem_singleton_self _, .inr ⟨isWorked, ?_⟩⟩
          apply (mem_cons.mp listed).resolve_left
          rintro rfl
          exact stays rfl

theorem Reconciled.kick {userId : UserId}
    (tracked : Tracked server (before ++ .kick userId :: after))
    (reconciled : Reconciled server (before ++ .kick userId :: after)) :
    Reconciled (resume server (.kick userId)).1
      (before ++ (resume server (.kick userId)).2 ++ after) := by
  apply Covered.resume reconciled
  rintro ⟨socket, channelId⟩ ⟨present, joined⟩
  obtain ⟨oldMem, notKicked⟩ := mem_deleteMany.mp present
  refine .inr ⟨⟨socket, channelId⟩, ⟨oldMem, joined⟩, fun readable => readable,
    fun _ _ covers => covers, ?_⟩
  rintro (rfl | drops)
  · have inRoom := (tracked.sound socket oldMem).user_mem joined
    simp [inRoom] at notKicked
  · exact drops.elim

/-- Every pending task passes on what it covered, or settles it. -/
theorem Reconciled.resume (tracked : Tracked server (before ++ task :: after))
    (reconciled : Reconciled server (before ++ task :: after))
    (keepsUp : KeepsUp ⟨server, before ++ task :: after⟩ (.resume before task after)) :
    Reconciled (resume server task).1 (before ++ (resume server task).2 ++ after) := by
  cases task with
  | dispatch event | refreshRead userId socketIds userIds =>
    apply reconciled.of_same rfl rfl
    rintro subscription - (comes | drops)
    · exact .inr ⟨_, mem_singleton_self _, .inl comes⟩
    · exact drops.elim
  | handle event actions => exact reconciled.handle keepsUp
  | refreshUsers userIds => exact reconciled.refreshUsers tracked
  | refreshSockets run => exact reconciled.refreshSockets keepsUp
  | refreshLeave socketId run => exact reconciled.refreshLeave tracked
  | refreshLeaving socketId toLeave run => exact reconciled.refreshLeaving
  | kick userId => exact reconciled.kick tracked
  | replay socketId lastEventId channelIds =>
    cases channelIds <;> refine reconciled.of_same rfl rfl ?_ <;>
      rintro subscription - (comes | drops)
    all_goals first | exact comes.elim | exact drops.elim

/-- An input that leaves the database alone, and the rooms of all sockets it keeps. -/
theorem Reconciled.of_rooms (reconciled : Reconciled server tasks) (db : next.db = server.db)
    (kept : ∀ socket ∈ next.sockets, socket.rooms = [] ∨ ∃ old ∈ server.sockets,
      old.id = socket.id ∧ old.userId = socket.userId ∧ old.rooms = socket.rooms) :
    Reconciled next (tasks ++ spawned) := by
  apply Covered.accept reconciled
  rintro ⟨socket, channelId⟩ ⟨present, joined⟩
  rcases kept socket present with noRooms | ⟨old, oldMem, id, userId, rooms⟩
  · have inRoom : .channel channelId ∈ socket.rooms := joined
    rw [noRooms] at inRoom
    cases inRoom
  · refine .inr ⟨⟨old, channelId⟩, ⟨oldMem, ?_⟩, ?_, ?_⟩
    · simpa only [rooms] using joined
    · rw [Readable, Readable, db, userId]
      exact fun readable => readable
    · exact fun _ _ covers => covers.of_socket id.symm userId.symm fun _ inRoom => rooms ▸ inRoom

theorem Reconciled.connectJoin (tracked : Tracked server tasks) (reconciled : Reconciled server tasks)
    {socket : Socket} {found : JoinedRooms} (present : socket ∈ server.sockets)
    (joining : socket.handshake = .joining found)
    (keepsUp : KeepsUp ⟨server, tasks⟩ (.accept (.connectJoin socket.id))) :
    Reconciled (server.modify socket.id (Socket.join found) fun _ => rfl) (tasks ++ []) := by
  apply Covered.accept reconciled
  rintro ⟨other, channelId⟩ ⟨otherMem, joined⟩
  have touched : Touched server (server.modify socket.id (Socket.join found) fun _ => rfl) socket.id
      (Socket.join found) := touched_modify _
  rcases touched other otherMem with ⟨old, -⟩ | ⟨old, oldMem, same, rfl⟩
  · exact .inr ⟨⟨other, channelId⟩, ⟨old, joined⟩, fun readable => readable,
      fun _ _ covers => covers⟩
  · -- Nothing but what was found is joined.
    obtain rfl := eq_of_key_eq oldMem present same
    have noRooms : old.rooms = [] := by
      have sound := tracked.sound old oldMem
      unfold Socket.Sound at sound
      simpa only [joining] using sound
    have listed : channelId ∈ found.channelIds := by
      simpa [Socket.join, noRooms, JoinedRooms.rooms] using joined
    refine .inl ((keepsUp old oldMem rfl found joining channelId listed).imp_right ?_)
    rintro ⟨pending, pendingMem, covers⟩
    exact ⟨pending, mem_append_left _ pendingMem, covers⟩

/-- A write settles what it makes unreadable. -/
theorem Reconciled.write {db : Database} {envelopes : List Envelope}
    (reconciled : Reconciled server tasks)
    (keepsUp : KeepsUp ⟨server, tasks⟩ (.accept (.write db envelopes))) :
    Reconciled { server with db := db, outbox := server.outbox ++ server.record envelopes }
      (tasks ++ (server.record envelopes).map .dispatch) := by
  refine Covered.accept reconciled fun subscription subscribed => ?_
  by_cases readable : Readable server subscription
  · exact .inl (keepsUp subscription subscribed readable)
  exact .inr ⟨subscription, subscribed, fun before => absurd before readable,
    fun _ _ covers => covers⟩

/-- Inputs keep subscriptions settled. -/
theorem Reconciled.accept {input : Input} (tracked : Tracked server tasks)
    (reconciled : Reconciled server tasks) (accepted : Accepts server input next spawned)
    (keepsUp : KeepsUp ⟨server, tasks⟩ (.accept input)) : Reconciled next (tasks ++ spawned) := by
  -- A handshake step that joins nothing changes no rooms.
  have sameRooms : ∀ {id : SocketId} {change : Socket → Socket}
      (keeps : ∀ socket, (change socket).id = socket.id),
      (∀ socket, (change socket).userId = socket.userId ∧ (change socket).rooms = socket.rooms) →
        Reconciled (server.modify id change keeps) (tasks ++ spawned) := by
    intro id change keeps same
    refine reconciled.of_rooms rfl fun socket present => .inr ?_
    rcases touched_modify keeps socket present with ⟨old, -⟩ | ⟨old, oldMem, -, rfl⟩
    · exact ⟨socket, old, rfl, rfl, rfl⟩
    · exact ⟨old, oldMem, (keeps old).symm, (same old).1.symm, (same old).2.symm⟩
  cases accepted with
  | connect userId inserted =>
    refine reconciled.of_rooms rfl fun socket present => ?_
    rcases (mem_insert? inserted).mp present with rfl | old
    · exact .inl rfl
    · exact .inr ⟨socket, old, rfl, rfl, rfl⟩
  | connectRead present reading | connectReady lastEventId present joined =>
    exact sameRooms _ fun _ => ⟨rfl, rfl⟩
  | connectJoin present joining => exact reconciled.connectJoin tracked present joining keepsUp
  | disconnect socketId =>
    refine reconciled.of_rooms rfl fun socket present => .inr ?_
    exact ⟨socket, (mem_deleteMany.mp present).1, rfl, rfl, rfl⟩
  | write written => exact reconciled.write keepsUp
  | redispatch recorded | trim remains =>
    exact reconciled.of_rooms rfl fun socket present => .inr ⟨socket, present, rfl, rfl, rfl⟩

end Run

end Cover

/-- A step that keeps up, and starts no refresh on a socket at which another one is with another
snapshot. -/
def InStep (state : GatewayState) (label : GatewayLabel) : Prop :=
  Agreeing state label ∧ KeepsUp state label

theorem reconciled_of_step {state next : GatewayState} {label : GatewayLabel}
    (step : Guarded (Step gateway) InStep state label next)
    (tracked : Tracked state.shared state.tasks) (reconciled : Reconciled state.shared state.tasks) :
    Reconciled next.shared next.tasks := by
  obtain ⟨step, -, keepsUp⟩ := step
  cases step with
  | resume before task after => exact reconciled.resume tracked keepsUp
  | accept accepted => exact reconciled.accept tracked accepted keepsUp

/-- In every state of a run in step, each subscription is readable or about to be reconsidered. -/
theorem reconciled_of_steps {db : Database} {labels : List GatewayLabel} {state : GatewayState}
    (steps : Steps (Guarded (Step gateway) InStep) (startServer db) labels state) :
    Tracked state.shared state.tasks ∧ Reconciled state.shared state.tasks := by
  refine steps.preserves (fun state => Tracked state.shared state.tasks ∧
    Reconciled state.shared state.tasks) ?_ ⟨tracked_start db, ?_⟩
  · rintro state label next step ⟨tracked, reconciled⟩
    exact ⟨tracked_of_step step.1 step.2.1 tracked, reconciled_of_step step tracked reconciled⟩
  · rintro subscription ⟨present, -⟩
    cases present

/-- Once a run in step has nothing pending, every channel room is one that its socket's user reads. -/
theorem rooms_readable_of_steps {db : Database} {labels : List GatewayLabel} {state : GatewayState}
    (steps : Steps (Guarded (Step gateway) InStep) (startServer db) labels state)
    (quiet : state.tasks = []) :
    ∀ socket ∈ state.shared.sockets, ∀ channelId, .channel channelId ∈ socket.rooms →
      CanReadChannel state.shared.db channelId socket.userId := by
  intro socket present channelId joined
  obtain ⟨-, reconciled⟩ := reconciled_of_steps steps
  rw [quiet] at reconciled
  have subscribed : Subscribed state.shared ⟨socket, channelId⟩ := ⟨present, joined⟩
  exact Covered.met reconciled subscribed

/-- Bob connects and is in the room of a channel he reads. -/
theorem bob_reads_the_lounge :
    CanReadChannel (bobsServer (bobsSnapshot.rooms ⟨2⟩) (.ready bobsSnapshot)).shared.db ⟨1⟩ ⟨2⟩ := by
  have reads : CanReadChannel loungeDatabase ⟨1⟩ ⟨2⟩ := ⟨lounge, mem_singleton_self _, rfl, by decide⟩
  refine rooms_readable_of_steps (bob_connects ?_ ?_ ?_ ?_) rfl (bobsSocket _ _)
    (mem_singleton_self _) ⟨1⟩ (by decide)
  · exact ⟨trivial, trivial⟩
  · exact ⟨trivial, trivial⟩
  · refine ⟨trivial, fun socket present _ found joining channelId listed => .inl ?_⟩
    obtain rfl := mem_singleton.mp present
    cases joining
    obtain rfl := mem_singleton.mp listed
    exact reads
  · exact ⟨trivial, trivial⟩

/-- The event of a denial that the owner writes for bob. -/
def denial : ChannelEvent :=
  { type := .permissionChanged, workspaceId := some ⟨1⟩, channelId := some ⟨1⟩ }

theorem isWithinChannelOverrideBits_read : isWithinChannelOverrideBits 1 = true := by
  decide

def denialDatabase : Database :=
  { loungeDatabase with
    overrides := loungeDatabase.overrides.upsert
      { channelId := ⟨1⟩, principal := .user ⟨2⟩,
        denyMask := ⟨1, isWithinChannelOverrideBits_read⟩ } }

def denialServer : GatewayState where
  shared :=
    { (bobsServer (bobsSnapshot.rooms ⟨2⟩) (.ready bobsSnapshot)).shared with
      db := denialDatabase
      outbox := [⟨⟨0⟩, .channel denial⟩] }
  tasks := [.dispatch ⟨⟨0⟩, .channel denial⟩]

/-- Bob may no longer read the lounge. The refresh that comes with it leaves him in its room. -/
theorem rooms_unreadable_after_denial :
    ¬∀ (db : Database) (labels : List GatewayLabel) (state : GatewayState),
      Steps (Step gateway) (startServer db) labels state → state.tasks = [] →
      ∀ socket ∈ state.shared.sockets, ∀ channelId, .channel channelId ∈ socket.rooms →
        CanReadChannel state.shared.db channelId socket.userId := by
  intro readable
  have connects : Steps (Guarded (Step gateway) fun _ _ => True) (startServer loungeDatabase) _
      (bobsServer (bobsSnapshot.rooms ⟨2⟩) (.ready bobsSnapshot)) :=
    bob_connects trivial trivial trivial trivial
  have denies : Step gateway (bobsServer (bobsSnapshot.rooms ⟨2⟩) (.ready bobsSnapshot))
      (.accept (.write denialDatabase [.channel denial])) denialServer :=
    .accept (.write (.addChannelMemberOverride ⟨1⟩ ⟨1⟩ ⟨2⟩ .none ⟨1, by decide⟩ rfl))
  obtain ⟨labels, steps⟩ := exists_steps_runFirst 12
    ((connects.mono fun step => step.1).step denies)
  have quiet : (gateway.runFirst 12 denialServer).tasks = [] := by decide +kernel
  have present : bobsSocket (bobsSnapshot.rooms ⟨2⟩) (.ready bobsSnapshot) ∈
      (gateway.runFirst 12 denialServer).shared.sockets.rows := by decide +kernel
  obtain ⟨channel, channelMem, -, reads⟩ := readable _ _ _ steps quiet _ present ⟨1⟩ (by decide)
  rw [db_runFirst] at channelMem reads
  obtain rfl : channel = lounge := mem_singleton.mp channelMem
  have denied : canRead denialDatabase lounge ⟨2⟩ = false := by decide +kernel
  exact absurd reads (ne_true_of_eq_false denied)

end Bongtalk.Realtime
