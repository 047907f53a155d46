import Bongtalk.Library.EventLoop
import Bongtalk.Realtime.Projection

/-!
# The realtime gateway

Sockets connect in three steps, between which anything can happen, and every refresh of a user reads
the database once and then works on the user's sockets one by one, with awaits in between. The
database changes at any time.
-/

namespace Bongtalk.Realtime

open Library Library.EventLoop Auth Channels Prisma

structure SocketId where
  value : Nat
deriving DecidableEq, Repr

structure EventId where
  value : Nat
deriving DecidableEq, Repr

structure OutboxEvent where
  id : EventId
  envelope : Envelope
deriving DecidableEq, Repr

/-- An entry of `replay:channel:{channelId}`. -/
structure ReplayEntry where
  channelId : ChannelId
  event : OutboxEvent
deriving DecidableEq, Repr

/-- `handleConnection` before its query, before the join, before it sets the socket's state, and
after. -/
inductive Handshake where
  | reading
  | joining (found : JoinedRooms)
  | joined (found : JoinedRooms)
  | ready (state : JoinedRooms)
deriving DecidableEq, Repr

structure Socket where
  id : SocketId
  userId : UserId
  rooms : List Room
  handshake : Handshake
deriving DecidableEq, Repr

/-- `data.state`. -/
def Socket.state (socket : Socket) : Option JoinedRooms :=
  match socket.handshake with
  | .ready state => some state
  | _ => none

/-- What a socket received, with the database as it was then. -/
structure Delivery where
  envelope : Envelope
  room : Room
  userId : UserId
  db : Database

structure Server where
  db : Database
  sockets : Table Socket Socket.id
  /-- Sockets get fresh ids from here on. -/
  nextSocketId : Nat
  outbox : List OutboxEvent
  /-- The replay streams of channels; those of workspaces are never read. -/
  replay : List ReplayEntry
  /-- What has been delivered so far. -/
  deliveries : List Delivery

/-- A refresh of one user: the snapshot it has read, the sockets that are still to do, and the users
that come after. -/
structure RefreshRun where
  userId : UserId
  fresh : JoinedRooms
  socketIds : List SocketId
  userIds : List UserId
deriving DecidableEq, Repr

/-- The pending continuations. -/
inductive Task where
  /-- An event of the outbox, not dispatched yet. -/
  | dispatch (event : OutboxEvent)
  | handle (event : OutboxEvent) (actions : List Action)
  | refreshUsers (userIds : List UserId)
  /-- The sockets of a user are fetched, the query is under way. -/
  | refreshRead (userId : UserId) (socketIds : List SocketId) (userIds : List UserId)
  | refreshSockets (run : RefreshRun)
  /-- A socket has joined what is new to it, and next leaves what is not in the snapshot. -/
  | refreshLeave (socketId : SocketId) (run : RefreshRun)
  | refreshLeaving (socketId : SocketId) (toLeave : List ChannelId) (run : RefreshRun)
  | kick (userId : UserId)
  /-- The channels of a connection whose missed events are still to come. -/
  | replay (socketId : SocketId) (lastEventId : EventId) (channelIds : List ChannelId)
deriving DecidableEq, Repr

section Server

variable (server : Server)

/-- `io.in(room).fetchSockets()`. -/
def Server.fetchSockets (room : Room) : List Socket :=
  server.sockets.findMany fun socket => socket.rooms.contains room

/-- Change one socket. -/
def Server.modify (id : SocketId) (change : Socket → Socket)
    (keeps : ∀ socket, (change socket).id = socket.id) : Server :=
  { server with
    sockets := server.sockets.rewrite
      (fun socket => if socket.id = id then change socket else socket)
      fun socket => by
        split
        next => exact keeps socket
        next => rfl }

/-- The outbox rows of some envelopes, under new ids. -/
def Server.record (envelopes : List Envelope) : List OutboxEvent :=
  envelopes.mapIdx fun index envelope => ⟨⟨server.outbox.length + index⟩, envelope⟩

/-- `replay.append(scope, id, event)`. -/
def Server.append (event : OutboxEvent) (room : Room) : Server :=
  { server with
    replay := server.replay ++
      match room with
      | .channel channelId => [⟨channelId, event⟩]
      | _ => [] }

/-- `io.to(room).emit(type, envelope)`. -/
def Server.emit (envelope : Envelope) (room : Room) : Server :=
  { server with
    deliveries := server.deliveries ++ (server.fetchSockets room).map fun socket =>
      { envelope := envelope, room := room, userId := socket.userId, db := server.db } }

/-- `replay.rangeAfter('channel', channelId, lastEventId)`; nothing when the window has passed. -/
def Server.rangeAfter (channelId : ChannelId) (lastEventId : EventId) : List OutboxEvent :=
  let stream := (server.replay.filter (·.channelId == channelId)).map (·.event)
  (stream.dropWhile (·.id != lastEventId)).tail

/-- `client.emit(ev.type, ev.payload)` for some events of a channel. -/
def Server.emitTo (socketId : SocketId) (channelId : ChannelId) (events : List OutboxEvent) :
    Server :=
  { server with
    deliveries := server.deliveries ++ (server.sockets.findUnique socketId).elim [] fun socket =>
      events.map fun event =>
        { envelope := event.envelope, room := .channel channelId, userId := socket.userId,
          db := server.db } }

/-- The users with a ready socket in a workspace room, each once. -/
def Server.usersIn (workspaceId : WorkspaceId) : List UserId :=
  ((server.fetchSockets (.workspace workspaceId)).filter fun socket => socket.state.isSome).map
    (·.userId) |>.eraseDups

/-- `in(room).disconnectSockets(true)`. -/
def Server.disconnectSockets (room : Room) : Server :=
  { server with sockets := server.sockets.deleteMany fun socket => socket.rooms.contains room }

end Server

/-- Join the rooms of the snapshot that are not in the state. -/
def Socket.joinFresh (fresh : JoinedRooms) (socket : Socket) : Socket :=
  match socket.state with
  | none => socket
  | some state =>
    { socket with
      rooms := socket.rooms ++
        (fresh.channelIds.filter fun id => !state.channelIds.contains id).map .channel }

/-- `toLeave`: the channels of the state that are not in the snapshot. -/
def Socket.toLeave (fresh : JoinedRooms) (socket : Socket) : List ChannelId :=
  match socket.state with
  | none => []
  | some state => state.channelIds.filter fun id => !fresh.channelIds.contains id

/-- `s.leave(rooms.channel(id))`. -/
def Socket.leave (channelId : ChannelId) (socket : Socket) : Socket :=
  { socket with rooms := socket.rooms.filter fun room => room != .channel channelId }

/-- `data.state.channelIds = fresh.channelIds`. -/
def Socket.setState (fresh : JoinedRooms) (socket : Socket) : Socket :=
  match socket.state with
  | none => socket
  | some _ => { socket with handshake := .ready fresh }

theorem Socket.id_joinFresh (fresh : JoinedRooms) (socket : Socket) :
    (socket.joinFresh fresh).id = socket.id := by
  unfold joinFresh
  split <;> rfl

theorem Socket.id_leave (channelId : ChannelId) (socket : Socket) :
    (socket.leave channelId).id = socket.id :=
  rfl

theorem Socket.id_setState (fresh : JoinedRooms) (socket : Socket) :
    (socket.setState fresh).id = socket.id := by
  unfold setState
  split <;> rfl

/-- What a task does up to its next await. -/
def resume (server : Server) : Task → Server × List Task
  | .dispatch event => (server, [.handle event event.envelope.actions])
  | .handle _ [] => (server, [])
  | .handle event (.append room :: rest) => (server.append event room, [.handle event rest])
  | .handle event (.emit room :: rest) => (server.emit event.envelope room, [.handle event rest])
  | .handle event (.refreshWorkspace workspaceId :: rest) =>
    (server, [.refreshUsers (server.usersIn workspaceId), .handle event rest])
  | .handle event (.refreshUser userId :: rest) =>
    (server, [.refreshUsers [userId], .handle event rest])
  | .handle event (.kickLater userId :: rest) => (server, [.kick userId, .handle event rest])
  | .refreshUsers [] => (server, [])
  | .refreshUsers (userId :: userIds) =>
    let socketIds := (server.fetchSockets (.user userId)).map (·.id)
    if socketIds = [] then (server, [.refreshUsers userIds])
    else (server, [.refreshRead userId socketIds userIds])
  | .refreshRead userId socketIds userIds =>
    (server, [.refreshSockets ⟨userId, roomsForUser server.db userId, socketIds, userIds⟩])
  | .refreshSockets run =>
    match run.socketIds with
    | [] => (server, [.refreshUsers run.userIds])
    | socketId :: socketIds =>
      let rest := { run with socketIds := socketIds }
      if ((server.sockets.findUnique socketId).bind Socket.state).isSome then
        (server.modify socketId (Socket.joinFresh run.fresh) (Socket.id_joinFresh run.fresh),
          [.refreshLeave socketId rest])
      else (server, [.refreshSockets rest])
  | .refreshLeave socketId run =>
    let toLeave := (server.sockets.findUnique socketId).elim [] (Socket.toLeave run.fresh)
    (server, [.refreshLeaving socketId toLeave run])
  | .refreshLeaving socketId (channelId :: toLeave) run =>
    (server.modify socketId (Socket.leave channelId) (Socket.id_leave channelId),
      [.refreshLeaving socketId toLeave run])
  | .refreshLeaving socketId [] run =>
    (server.modify socketId (Socket.setState run.fresh) (Socket.id_setState run.fresh),
      [.refreshSockets run])
  | .kick userId => (server.disconnectSockets (.user userId), [])
  | .replay _ _ [] => (server, [])
  | .replay socketId lastEventId (channelId :: channelIds) =>
    (server.emitTo socketId channelId (server.rangeAfter channelId lastEventId),
      [.replay socketId lastEventId channelIds])

/-- The writes that decide over subscriptions, each with the events it records. -/
inductive Writes : Database → Database → List Envelope → Prop where
  | create {db next event} (workspaceId : WorkspaceId) (actorId : UserId) (newId : ChannelId)
      (position : Decimal) (createdAt : DateTime) (input : CreateChannelRequest)
      (ok : ChannelsService.create db workspaceId actorId newId position createdAt input =
        .ok (next, event)) :
      Writes db next [.channel event]
  | update {db next event} (workspaceId : WorkspaceId) (channelId : ChannelId)
      (input : UpdateChannelRequest)
      (ok : ChannelsService.update db workspaceId channelId input = .ok (next, event)) :
      Writes db next [.channel event]
  | softDelete {db next event} (workspaceId : WorkspaceId) (channelId : ChannelId) (now : DateTime)
      (ok : ChannelsService.softDelete db workspaceId channelId now = .ok (next, event)) :
      Writes db next [.channel event]
  | restore {db next event} (workspaceId : WorkspaceId) (channelId : ChannelId)
      (ok : ChannelsService.restore db workspaceId channelId = .ok (next, event)) :
      Writes db next [.channel event]
  | archive {db next event} (workspaceId : WorkspaceId) (channelId : ChannelId) (now : DateTime)
      (ok : ChannelsService.archive db workspaceId channelId now = .ok (next, event)) :
      Writes db next [.channel event]
  | unarchive {db next event} (workspaceId : WorkspaceId) (channelId : ChannelId)
      (ok : ChannelsService.unarchive db workspaceId channelId = .ok (next, event)) :
      Writes db next [.channel event]
  | move {db next event} (workspaceId : WorkspaceId) (channelId : ChannelId) (position : Decimal)
      (categoryId : Option (Option CategoryId))
      (ok : ChannelsService.move db workspaceId channelId position categoryId = .ok (next, event)) :
      Writes db next [.channel event]
  | reorderChannels {db next event} (workspaceId : WorkspaceId)
      (items : List (ChannelId × Option CategoryId))
      (ok : ChannelsService.reorderChannels db workspaceId items = .ok (next, event)) :
      Writes db next [.channel event]
  | addChannelMemberOverride {db next event} (workspaceId : WorkspaceId) (channelId : ChannelId)
      (targetUserId : UserId) (allowMask denyMask : OverrideMask)
      (ok : ChannelsService.addChannelMemberOverride db workspaceId channelId targetUserId allowMask
        denyMask = .ok (next, event)) :
      Writes db next [.channel event]
  | addChannelRoleOverride {db next event} (workspaceId : WorkspaceId) (channelId : ChannelId)
      (role : WorkspaceRole) (allowMask denyMask : OverrideMask)
      (ok : ChannelsService.addChannelRoleOverride db workspaceId channelId role allowMask denyMask =
        .ok (next, event)) :
      Writes db next [.channel event]
  | removeChannelOverride {db next event} (workspaceId : WorkspaceId) (channelId : ChannelId)
      (principal : Principal)
      (ok : ChannelsService.removeChannelOverride db workspaceId channelId principal =
        .ok (next, event)) :
      Writes db next [.channel event]
  | joinChannel {db next event} (workspaceId : WorkspaceId) (channelId : ChannelId)
      (userId : UserId)
      (ok : ChannelsService.joinChannel db workspaceId channelId userId = .ok (next, event)) :
      Writes db next [.channel event]
  | leaveChannel {db next event} (workspaceId : WorkspaceId) (channelId : ChannelId)
      (userId : UserId)
      (ok : ChannelsService.leaveChannel db workspaceId channelId userId = .ok (next, event)) :
      Writes db next [.channel event]
  | joinWorkspace {db next} (member : WorkspaceMember) (inserted : db.insertMember? member = some next) :
      Writes db next [.member ⟨.joined, member.workspaceId, member.userId⟩]
  /-- The member leaves or is removed; its override rows stay. -/
  | leaveWorkspace {db} (type : MemberEventType) (departs : type ∈ [.left, .removed, .kicked, .banned])
      (workspaceId : WorkspaceId) (userId : UserId)
      (isMember : (db.findMember workspaceId userId).isSome) :
      Writes db (db.deleteMember workspaceId userId) [.member ⟨type, workspaceId, userId⟩]
  /-- Role rows, assignments and the roles of members change; rows of deleted roles go. -/
  | changeRoles {db next envelopes}
      (channels : next.channels = db.channels) (workspaces : next.workspaces = db.workspaces)
      (members : ∀ workspaceId userId, (next.findMember workspaceId userId).isSome =
        (db.findMember workspaceId userId).isSome)
      (overrides : ∀ row ∈ next.overrides, row ∈ db.overrides)
      (ofUsers : ∀ row ∈ db.overrides, row.principal.isUser = true → row ∈ next.overrides)
      (events : ∀ envelope ∈ envelopes, ∃ workspaceId userId,
        envelope = .member ⟨.roleChanged, workspaceId, userId⟩) :
      Writes db next envelopes

/-- What comes from outside: connections, writes with their events, events that the outbox
dispatches once more, and what replay streams lose. -/
inductive Input where
  | connect (userId : UserId)
  | connectRead (socketId : SocketId)
  | connectJoin (socketId : SocketId)
  | connectReady (socketId : SocketId) (lastEventId : Option EventId)
  | disconnect (socketId : SocketId)
  | write (next : Database) (envelopes : List Envelope)
  | redispatch (event : OutboxEvent)
  | trim (replay : List ReplayEntry)

/-- The steps of a handshake, on the socket that is at them. -/
def Socket.read (db : Database) (socket : Socket) : Socket :=
  { socket with handshake := .joining (roomsForUser db socket.userId) }

def Socket.join (found : JoinedRooms) (socket : Socket) : Socket :=
  { socket with rooms := socket.rooms ++ found.rooms socket.userId, handshake := .joined found }

def Socket.ready (found : JoinedRooms) (socket : Socket) : Socket :=
  { socket with handshake := .ready found }

inductive Accepts : Server → Input → Server → List Task → Prop where
  | connect {server sockets} (userId : UserId)
      (inserted : server.sockets.insert? ⟨⟨server.nextSocketId⟩, userId, [], .reading⟩ =
        some sockets) :
      Accepts server (.connect userId)
        { server with sockets := sockets, nextSocketId := server.nextSocketId + 1 } []
  | connectRead {server socket} (present : socket ∈ server.sockets)
      (reading : socket.handshake = .reading) :
      Accepts server (.connectRead socket.id)
        (server.modify socket.id (Socket.read server.db) fun _ => rfl) []
  | connectJoin {server socket found} (present : socket ∈ server.sockets)
      (joining : socket.handshake = .joining found) :
      Accepts server (.connectJoin socket.id)
        (server.modify socket.id (Socket.join found) fun _ => rfl) []
  | connectReady {server socket found} (lastEventId : Option EventId)
      (present : socket ∈ server.sockets) (joined : socket.handshake = .joined found) :
      Accepts server (.connectReady socket.id lastEventId)
        (server.modify socket.id (Socket.ready found) fun _ => rfl)
        (lastEventId.toList.map fun lastEventId => .replay socket.id lastEventId found.channelIds)
  | disconnect {server} (socketId : SocketId) :
      Accepts server (.disconnect socketId)
        { server with sockets := server.sockets.deleteMany fun socket => socket.id == socketId } []
  | write {server next envelopes} (written : Writes server.db next envelopes) :
      Accepts server (.write next envelopes)
        { server with db := next, outbox := server.outbox ++ server.record envelopes }
        ((server.record envelopes).map .dispatch)
  | redispatch {server event} (recorded : event ∈ server.outbox) :
      Accepts server (.redispatch event) server [.dispatch event]
  | trim {server replay} (remains : replay.Sublist server.replay) :
      Accepts server (.trim replay) { server with replay := replay } []

/-- The gateway as an event loop. -/
def gateway : EventLoop Server Task Input where
  resume := resume
  Accepts := Accepts

/-- No task writes to the database. -/
theorem db_resume (server : Server) (task : Task) : (resume server task).1.db = server.db := by
  cases task with
  | handle event actions =>
    rcases actions with _ | ⟨room | room | workspaceId | userId | userId, rest⟩ <;> rfl
  | refreshUsers userIds =>
    cases userIds with
    | nil => rfl
    | cons userId userIds =>
      simp only [resume]
      split <;> rfl
  | refreshSockets run =>
    simp only [resume]
    split
    next => rfl
    next => split <;> rfl
  | refreshLeaving socketId toLeave run => cases toLeave <;> rfl
  | replay socketId lastEventId channelIds => cases channelIds <;> rfl
  | _ => rfl

theorem db_runFirst (count : Nat) (state : EventLoop.State Server Task) :
    (gateway.runFirst count state).shared.db = state.shared.db := by
  induction count generalizing state with
  | zero => rfl
  | succ count ih =>
    rcases state with ⟨server, tasks⟩
    cases tasks with
    | nil => rfl
    | cons task rest => exact (ih _).trans (db_resume server task)

/-- A server without connections. -/
def startServer (db : Database) : EventLoop.State Server Task where
  shared := ⟨db, .empty, 0, [], [], []⟩
  tasks := []

abbrev GatewayState := EventLoop.State Server Task

abbrev GatewayLabel := EventLoop.Label Task Input

/-- A public channel of a workspace with an owner and a member, bob. -/
def lounge : Channel :=
  { id := ⟨1⟩, workspaceId := some ⟨1⟩, name := "lounge", position := 0, createdAt := 0 }

theorem nodup_loungeMembers :
    (([⟨⟨1⟩, ⟨1⟩, .owner⟩, ⟨⟨1⟩, ⟨2⟩, .member⟩] : List WorkspaceMember).map fun row =>
      (row.workspaceId, row.userId)).Nodup := by
  decide

def loungeDatabase : Database :=
  { Database.withoutRoles ⟨[⟨⟨1⟩, ⟨1⟩, .owner⟩, ⟨⟨1⟩, ⟨2⟩, .member⟩], nodup_loungeMembers⟩
      ⟨[lounge], by decide⟩ .empty with
    workspaces := ⟨[⟨⟨1⟩, none⟩], by decide⟩ }

def bobsSocket (rooms : List Room) (handshake : Handshake) : Socket :=
  ⟨⟨0⟩, ⟨2⟩, rooms, handshake⟩

/-- What a snapshot of bob's rooms says. -/
def bobsSnapshot : JoinedRooms :=
  ⟨[⟨1⟩], [⟨1⟩]⟩

def bobsServer (rooms : List Room) (handshake : Handshake) : GatewayState where
  shared := ⟨loungeDatabase, ⟨[bobsSocket rooms handshake], List.nodup_singleton _⟩, 1, [], [], []⟩
  tasks := []

/-- Bob connects, in a system that lets him. -/
theorem bob_connects {Guard : GatewayState → GatewayLabel → Prop}
    (connect : Guard (startServer loungeDatabase) (.accept (.connect ⟨2⟩)))
    (read : Guard (bobsServer [] .reading) (.accept (.connectRead ⟨0⟩)))
    (join : Guard (bobsServer [] (.joining bobsSnapshot)) (.accept (.connectJoin ⟨0⟩)))
    (ready : Guard (bobsServer (bobsSnapshot.rooms ⟨2⟩) (.joined bobsSnapshot))
      (.accept (.connectReady ⟨0⟩ none))) :
    Steps (Guarded (Step gateway) Guard) (startServer loungeDatabase)
      [.accept (.connect ⟨2⟩), .accept (.connectRead ⟨0⟩), .accept (.connectJoin ⟨0⟩),
        .accept (.connectReady ⟨0⟩ none)]
      (bobsServer (bobsSnapshot.rooms ⟨2⟩) (.ready bobsSnapshot)) := by
  have present : ∀ {rooms handshake}, bobsSocket rooms handshake ∈
      (bobsServer rooms handshake).shared.sockets := List.mem_singleton_self _
  have connected : Step gateway (startServer loungeDatabase) (.accept (.connect ⟨2⟩))
      (bobsServer [] .reading) := .accept (.connect ⟨2⟩ rfl)
  have hasRead : Step gateway (bobsServer [] .reading) (.accept (.connectRead ⟨0⟩))
      (bobsServer [] (.joining bobsSnapshot)) := .accept (.connectRead present rfl)
  have joined : Step gateway (bobsServer [] (.joining bobsSnapshot)) (.accept (.connectJoin ⟨0⟩))
      (bobsServer (bobsSnapshot.rooms ⟨2⟩) (.joined bobsSnapshot)) :=
    .accept (.connectJoin present rfl)
  have isReady : Step gateway (bobsServer (bobsSnapshot.rooms ⟨2⟩) (.joined bobsSnapshot))
      (.accept (.connectReady ⟨0⟩ none)) (bobsServer (bobsSnapshot.rooms ⟨2⟩) (.ready bobsSnapshot)) :=
    .accept (.connectReady none present rfl)
  exact .step (.step (.step (.step .refl ⟨connected, connect⟩) ⟨hasRead, read⟩) ⟨joined, join⟩)
    ⟨isReady, ready⟩

end Bongtalk.Realtime
