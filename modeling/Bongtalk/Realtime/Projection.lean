import Bongtalk.Channels.ChannelsService

/-!
# From recorded events to sockets

A socket joins the room of its user, the rooms of the user's workspaces and the rooms of the
channels the user is admitted to. Admission looks at memberships, at `isPrivate` and at the user's
own override rows; it computes no effective mask. Every event of the outbox is turned into actions
on sockets, which run one after the other: the event goes to rooms, sockets are refreshed, and users
who left are disconnected.
-/

namespace Bongtalk.Realtime

open Channels Prisma

inductive Room where
  | user (id : UserId)
  | workspace (id : WorkspaceId)
  | channel (id : ChannelId)
deriving DecidableEq, Repr

/-- `MAX_JOINED_CHANNELS`. -/
def maxJoinedChannels : Nat :=
  50

/-- What `roomsForUser` returns besides the room names. -/
structure JoinedRooms where
  workspaceIds : List WorkspaceId
  channelIds : List ChannelId
deriving DecidableEq, Repr

/-- The room names of a user. -/
def JoinedRooms.rooms (found : JoinedRooms) (userId : UserId) : List Room :=
  .user userId :: found.workspaceIds.map .workspace ++ found.channelIds.map .channel

/-- A channel to join; the channels of override rows come first. -/
structure CandidateChannel where
  id : ChannelId
  createdAt : DateTime
  priority : Bool
deriving DecidableEq, Repr

/-- Priority first, then newest first, then by decreasing id. -/
def CandidateChannel.ranksBefore (first second : CandidateChannel) : Bool :=
  if first.priority != second.priority then first.priority
  else
    second.createdAt < first.createdAt ||
      (first.createdAt == second.createdAt && second.id.value ≤ first.id.value)

/-- The candidates without those whose channel was seen before. -/
def unseen (seen : List ChannelId) : List CandidateChannel → List CandidateChannel
  | [] => []
  | candidate :: rest =>
    if seen.contains candidate.id then unseen seen rest
    else candidate :: unseen (candidate.id :: seen) rest

section Admission

variable (db : Database) (userId : UserId)

/-- The memberships of a user in workspaces that are not deleted. -/
def liveMemberships : List WorkspaceMember :=
  db.workspaceMembers.findMany fun row =>
    row.userId == userId &&
      (db.workspaces.findUnique row.workspaceId).any fun workspace => workspace.deletedAt == none

/-- The live public channels of a workspace. -/
def publicChannels (workspaceId : WorkspaceId) : List Channel :=
  db.channels.findMany fun row =>
    row.workspaceId == some workspaceId && row.deletedAt == none && row.isPrivate == false

/-- The live channels on which an own override row of the user allows anything. -/
def overrideChannels : List Channel :=
  (db.overrides.findMany fun row =>
    row.principal == .user userId && decide (0 < row.allowMask.value)).filterMap fun row =>
      (db.channels.findUnique row.channelId).filter (·.deletedAt == none)

/-- The channels a user may join, ranked. -/
def rankedChannels : List CandidateChannel :=
  let ofWorkspaces := ((liveMemberships db userId).flatMap fun member =>
    publicChannels db member.workspaceId).map fun channel =>
      (⟨channel.id, channel.createdAt, false⟩ : CandidateChannel)
  let ofOverrides := (overrideChannels db userId).map fun channel =>
    (⟨channel.id, channel.createdAt, true⟩ : CandidateChannel)
  (unseen [] (ofWorkspaces ++ ofOverrides)).insertionSort fun first second =>
    first.ranksBefore second

/-- `RoomManagerService.roomsForUser`. -/
def roomsForUser : JoinedRooms where
  workspaceIds := (liveMemberships db userId).map (·.workspaceId)
  channelIds := ((rankedChannels db userId).take maxJoinedChannels).map (·.id)

end Admission

inductive MemberEventType where
  | joined
  | left
  | removed
  | kicked
  | banned
  | roleChanged
deriving DecidableEq, Repr

/-- A `workspace.*` event about a member. -/
structure MemberEvent where
  type : MemberEventType
  workspaceId : WorkspaceId
  userId : UserId
deriving DecidableEq, Repr

inductive Envelope where
  | channel (event : ChannelEvent)
  | member (event : MemberEvent)
deriving DecidableEq, Repr

/-- What a handler awaits in turn. -/
inductive Action where
  /-- Add the event to the replay stream of a room. -/
  | append (room : Room)
  | emit (room : Room)
  | refreshWorkspace (workspaceId : WorkspaceId)
  | refreshUser (userId : UserId)
  /-- The timer that disconnects a user. -/
  | kickLater (userId : UserId)
deriving DecidableEq, Repr

def emitAndBuffer (room : Room) : List Action :=
  [.append room, .emit room]

/-- `onChannelEvent`. -/
def onChannelEvent (event : ChannelEvent) : List Action :=
  match event.workspaceId with
  | none => []
  | some workspaceId =>
    if event.type = .created ∨ event.type = .deleted then
      emitAndBuffer (.workspace workspaceId) ++ [.refreshWorkspace workspaceId]
    else
      let channelId := event.channelId.or (event.channel.map (·.id))
      channelId.toList.flatMap (fun id => emitAndBuffer (.channel id)) ++
        (if event.type ≠ .permissionChanged then emitAndBuffer (.workspace workspaceId)
          else []) ++
        (if event.type = .updated then [.refreshWorkspace workspaceId] else []) ++
        (if event.type = .permissionChanged then [.refreshWorkspace workspaceId] else [])

/-- `onWorkspaceEvent`, as far as it concerns members. -/
def onWorkspaceEvent (event : MemberEvent) : List Action :=
  emitAndBuffer (.workspace event.workspaceId) ++ [.emit (.user event.userId)] ++
    (if event.type = .joined then [.refreshUser event.userId] else []) ++
    (if event.type ∈ [.removed, .left, .kicked, .banned] then [.kickLater event.userId] else [])

def Envelope.actions : Envelope → List Action
  | .channel event => onChannelEvent event
  | .member event => onWorkspaceEvent event

/-- The channels whose rows an event shows: the row it carries, the positions it lists, and the
channel it reports as deleted. -/
def disclosed (event : ChannelEvent) : List ChannelId :=
  event.channel.toList.map (·.id) ++ event.channels.map (·.id) ++
    if event.type = .deleted then event.channelId.toList else []

end Bongtalk.Realtime
