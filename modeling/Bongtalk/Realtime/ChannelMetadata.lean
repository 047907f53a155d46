import Bongtalk.Realtime.Gateway

/-!
# Who learns of private channels

A channel event goes to the room of its channel and, but for changes of permission, to the room of
the workspace, which every member is in. An event that shows the row of a private channel therefore
reaches sockets of users who do not read the channel, unless all who are in the room do.
-/

namespace Bongtalk.Realtime

open Library Library.EventLoop Channels Channels.Permission List
open Prisma

/-- The socket's user reads every private channel whose row the event shows. -/
def Delivery.Allowed (delivery : Delivery) : Prop :=
  ∀ event, delivery.envelope = .channel event → ∀ channel ∈ delivery.db.channels,
    channel.id ∈ disclosed event → channel.isPrivate = true →
      canRead delivery.db channel delivery.userId = true

/-- The rows of the database let a user into a private channel: it is a member whom a row allows
to read or who owns the workspace, and nothing denies it. -/
def LetsIn (db : Database) (channel : Channel) (userId : UserId) : Prop :=
  match channel.workspaceId with
  | none => UserAllowsRead db.overrides.rows channel.id userId ∧
      ¬UserDeniesRead db.overrides.rows channel.id userId
  | some workspaceId => ∃ member ∈ db.workspaceMembers, member.workspaceId = workspaceId ∧
      member.userId = userId ∧ Reads db channel member

/-- The rows let a user into every private channel that an event shows. -/
def MayLearn (db : Database) (envelope : Envelope) (userId : UserId) : Prop :=
  match envelope with
  | .member _ => True
  | .channel event => ∀ channel ∈ db.channels, channel.id ∈ disclosed event →
      channel.isPrivate = true → LetsIn db channel userId

/-- An event is sent to a room only when everybody in the room may learn what it shows, and again to
a socket that comes back only when its user may. -/
def Discreet (state : GatewayState) : GatewayLabel → Prop
  | .resume _ (.handle event (.emit room :: _)) _ =>
    ∀ socket ∈ state.shared.sockets, room ∈ socket.rooms →
      MayLearn state.shared.db event.envelope socket.userId
  | .resume _ (.replay socketId lastEventId (channelId :: _)) _ =>
    ∀ socket ∈ state.shared.sockets, socket.id = socketId →
      ∀ event ∈ state.shared.rangeAfter channelId lastEventId,
        MayLearn state.shared.db event.envelope socket.userId
  | _ => True

theorem letsIn_iff {db : Database} {channel : Channel} {userId : UserId} :
    LetsIn db channel userId ↔ canRead db channel userId = true := by
  unfold LetsIn
  split
  next direct => exact (canRead_direct_iff direct).symm
  next workspaceId here =>
    rw [canRead_iff here]
    constructor
    · rintro ⟨member, present, rfl, rfl, reads⟩
      exact ⟨member, Table.findUnique_of_mem present, reads⟩
    · rintro ⟨member, found, reads⟩
      obtain ⟨present, same⟩ := Table.findUnique_eq_some_iff.mp found
      obtain ⟨sameWorkspace, sameUser⟩ := Prod.mk.inj same
      exact ⟨member, present, sameWorkspace, sameUser, reads⟩

theorem mayLearn_iff {delivery : Delivery} :
    MayLearn delivery.db delivery.envelope delivery.userId ↔ delivery.Allowed := by
  rcases delivery with ⟨event | event, room, userId, db⟩
  · simp only [MayLearn, Delivery.Allowed, Envelope.channel.injEq, forall_eq', letsIn_iff]
  · simp only [MayLearn, Delivery.Allowed, reduceCtorEq, false_implies, implies_true]

section Sends

variable {server : Server} {task : Task}

/-- What a task delivers before its next await. -/
def Task.sends (server : Server) : Task → List Delivery
  | .handle event (.emit room :: _) =>
    (server.fetchSockets room).map fun socket => ⟨event.envelope, room, socket.userId, server.db⟩
  | .replay socketId lastEventId (channelId :: _) =>
    (server.sockets.findUnique socketId).elim [] fun socket =>
      (server.rangeAfter channelId lastEventId).map fun event =>
        ⟨event.envelope, .channel channelId, socket.userId, server.db⟩
  | _ => []

/-- The deliveries of a step; inputs deliver nothing. -/
def sends (state : GatewayState) : GatewayLabel → List Delivery
  | .resume _ task _ => task.sends state.shared
  | .accept _ => []

theorem deliveries_resume (server : Server) (task : Task) :
    (resume server task).1.deliveries = server.deliveries ++ task.sends server := by
  cases task with
  | handle event actions =>
    rcases actions with _ | ⟨room | room | workspaceId | userId | userId, rest⟩
    case cons.emit => rfl
    all_goals exact (append_nil _).symm
  | refreshUsers userIds =>
    cases userIds with
    | nil => exact (append_nil _).symm
    | cons userId userIds =>
      simp only [resume]
      split <;> exact (append_nil _).symm
  | refreshSockets run =>
    simp only [resume]
    split
    next => exact (append_nil _).symm
    next => split <;> exact (append_nil _).symm
  | refreshLeaving socketId toLeave run => cases toLeave <;> exact (append_nil _).symm
  | replay socketId lastEventId channelIds =>
    cases channelIds with
    | nil => exact (append_nil _).symm
    | cons channelId channelIds => rfl
  | _ => exact (append_nil _).symm

theorem deliveries_of_step {state next : GatewayState} {label : GatewayLabel}
    (step : Step gateway state label next) :
    next.shared.deliveries = state.shared.deliveries ++ sends state label := by
  cases step with
  | resume before task after => exact deliveries_resume _ task
  | accept accepted => cases accepted <;> exact (append_nil _).symm

/-- A step is discreet exactly when it delivers to users who may learn of it. -/
theorem forall_sends_iff {state : GatewayState} {label : GatewayLabel} :
    (∀ delivery ∈ sends state label, delivery.Allowed) ↔ Discreet state label := by
  simp only [← mayLearn_iff]
  cases label with
  | accept input => simp [sends, Discreet]
  | resume before task after =>
    cases task with
    | handle event actions =>
      rcases actions with _ | ⟨room | room | workspaceId | userId | userId, rest⟩
      case cons.emit =>
        simp only [sends, Task.sends, Discreet, forall_mem_map, Server.fetchSockets,
          Table.mem_findMany, contains_eq_mem, decide_eq_true_eq, and_imp]
      all_goals simp [sends, Task.sends, Discreet]
    | replay socketId lastEventId channelIds =>
      cases channelIds with
      | nil => simp [sends, Task.sends, Discreet]
      | cons channelId channelIds =>
        simp only [sends, Task.sends, Discreet]
        cases found : state.shared.sockets.findUnique socketId with
        | none =>
          have absent := Table.findUnique_eq_none_iff.mp found
          simp only [Option.elim_none, not_mem_nil, false_implies, implies_true, true_iff]
          exact fun socket present same => absurd same (absent socket present)
        | some socket =>
          obtain ⟨present, same⟩ := Table.findUnique_eq_some_iff.mp found
          simp only [Option.elim_some, forall_mem_map]
          constructor
          · intro allowed other otherMem otherSame
            obtain rfl := Table.eq_of_key_eq otherMem present (otherSame.trans same.symm)
            exact allowed
          · exact fun allowed => allowed socket present same
    | _ => simp [sends, Task.sends, Discreet]

end Sends

/-- The owner creates a private channel. -/
def salaries : Channel :=
  { id := ⟨2⟩, workspaceId := some ⟨1⟩, name := "salaries", topic := none, position := 1
    isPrivate := true, createdAt := 1 }

def salariesRequest : CreateChannelRequest :=
  { name := "salaries", isPrivate := some true }

def salariesDatabase : Database :=
  { loungeDatabase with
    channels := ⟨[salaries, lounge], by decide⟩
    overrides := ⟨[{ channelId := ⟨2⟩, principal := .user ⟨1⟩, allowMask := .creator }], by decide⟩ }

def salariesEvent : OutboxEvent where
  id := ⟨0⟩
  envelope := .channel { type := .created, workspaceId := some ⟨1⟩, channel := some salaries }

def salariesServer : GatewayState where
  shared :=
    { (bobsServer (bobsSnapshot.rooms ⟨2⟩) (.ready bobsSnapshot)).shared with
      db := salariesDatabase
      outbox := [salariesEvent] }
  tasks := [.dispatch salariesEvent]

end Bongtalk.Realtime
