import Bongtalk.Channels.DirectMessages.Gates
import Bongtalk.Channels.DirectMessages.Rows
import Bongtalk.Library.Ranking
import Bongtalk.Library.System
import Mathlib.Data.Char
import Mathlib.Data.List.Lex

/-!
# Direct messages

A pair has one direct message and a set of three or more has one group, found again by a name made
of the ids. Members of a group come and go, but its name stays.
-/

namespace Bongtalk.Channels.DirectMessages

open Library Common Messages Prisma

/-- `GROUP_DM_MAX_TOTAL`. -/
def groupDmMaxTotal : Nat := 20

/-- An id as text. The text of a UUID has no colon either. -/
def idText (userId : UserId) : List Char :=
  Nat.toDigits 10 userId.value

/-- The kind of a direct message, and the sorted ids of its members. -/
def slug (kind : String) (userIds : List UserId) : String :=
  String.ofList (kind.toList ++ [':'].intercalate ((userIds.map idText).insertionSort (· ≤ ·)))

theorem toList_slug (kind : String) (userIds : List UserId) :
    (slug kind userIds).toList =
      kind.toList ++ [':'].intercalate ((userIds.map idText).insertionSort (· ≤ ·)) :=
  String.toList_ofList

def channelName (first second : UserId) : String :=
  slug "dm:" [first, second]

def groupChannelName (memberIds : List UserId) : String :=
  slug "gdm:" memberIds

/-- Groups are told from pairs by their names. -/
theorem isGroup_of_groupChannelName {channel : DmChannel} {memberIds : List UserId}
    (named : channel.name = groupChannelName memberIds) : channel.isGroup = true := by
  rw [DmChannel.isGroup, named, groupChannelName, toList_slug, List.isPrefixOf_iff_prefix]
  exact List.prefix_append _ _

theorem isGroup_of_channelName {channel : DmChannel} {first second : UserId}
    (named : channel.name = channelName first second) : channel.isGroup = false := by
  rw [DmChannel.isGroup, named, channelName, toList_slug]
  rfl

def groupCapMessage : String :=
  s!"group DM cap exceeded (max {groupDmMaxTotal} total)"

structure CreateGroupDm where
  workspaceId : Option WorkspaceId
  meId : UserId
  memberIds : List UserId
  newId : ChannelId
  now : DateTime
  /-- `createdAt` of the channel. -/
  createdAt : DateTime
  /-- `createdAt` of the member rows, which are written one after the other. -/
  rowCreatedAt : UserId → DateTime

namespace CreateGroupDm

def allMembers (call : CreateGroupDm) : List UserId :=
  call.meId :: call.memberIds

def channel (call : CreateGroupDm) : DmChannel where
  id := call.newId
  workspaceId := call.workspaceId
  name := groupChannelName call.allMembers
  type := .direct
  isPrivate := true
  position := 0
  createdAt := call.createdAt
  ownerId := some call.meId

def row (call : CreateGroupDm) (userId : UserId) : DmMember where
  channelId := call.newId
  userId := userId
  allowMask := dmAllowMask
  visibleFrom := some call.now
  joinedAt := some call.now
  createdAt := call.rowCreatedAt userId

end CreateGroupDm

structure CreateOrGetGlobal where
  meId : UserId
  otherUserId : UserId
  newId : ChannelId
  createdAt : DateTime
  /-- `visibleFrom` and `createdAt` of the member rows. -/
  visibleFrom : UserId → DateTime
  rowCreatedAt : UserId → DateTime

namespace CreateOrGetGlobal

def allMembers (call : CreateOrGetGlobal) : List UserId :=
  [call.meId, call.otherUserId]

def channel (call : CreateOrGetGlobal) : DmChannel where
  id := call.newId
  workspaceId := none
  name := channelName call.meId call.otherUserId
  type := .direct
  isPrivate := true
  position := 0
  createdAt := call.createdAt

/-- The row of a pair has no time of joining. -/
def row (call : CreateOrGetGlobal) (userId : UserId) : DmMember where
  channelId := call.newId
  userId := userId
  allowMask := dmAllowMask
  visibleFrom := some (call.visibleFrom userId)
  createdAt := call.rowCreatedAt userId

end CreateOrGetGlobal

structure AddParticipants where
  meId : UserId
  channelId : ChannelId
  userIds : List UserId
  now : DateTime
  rowCreatedAt : UserId → DateTime

structure KickParticipant where
  meId : UserId
  channelId : ChannelId
  targetUserId : UserId
  now : DateTime
deriving DecidableEq, Repr

structure LeaveGroup where
  meId : UserId
  channelId : ChannelId
  now : DateTime
deriving DecidableEq, Repr

structure SetVisibility where
  meId : UserId
  channelId : ChannelId
  /-- When to hide from; a call that shows the direct message has no time. -/
  hiddenAt : Option DateTime
deriving DecidableEq, Repr

structure GroupDmResult where
  channelId : ChannelId
  created : Bool
  memberIds : List UserId
deriving DecidableEq, Repr

structure CreateResult where
  channelId : ChannelId
  created : Bool
deriving DecidableEq, Repr

structure AddResult where
  channelId : ChannelId
  addedUserIds : List UserId
deriving DecidableEq, Repr

structure LeaveResult where
  channelId : ChannelId
  deleted : Bool
  newOwnerId : Option UserId
deriving DecidableEq, Repr

/-- The order of succession: who joined first, and then whose row is the oldest. A row without a
time of joining comes last. -/
def succession (first second : DmMember) : Int :=
  match first.joinedAt, second.joinedAt with
  | none, none => (first.createdAt : Int) - second.createdAt
  | none, some _ => 1
  | some _, none => -1
  | some firstJoined, some secondJoined =>
    if firstJoined ≠ secondJoined then (firstJoined : Int) - secondJoined
    else (first.createdAt : Int) - second.createdAt

namespace DmState

variable (directory : Directory) (state : DmState)

/-- A group that is not deleted. -/
def findGroup (channelId : ChannelId) : Except Failure DmChannel :=
  match state.findDirect channelId with
  | none => failWith .channelNotFound "group DM not found"
  | some channel =>
    if channel.isGroup then .ok channel else failWith .channelNotFound "group DM not found"

/-- Who may be in a new group: members of its workspace, or those with whom the caller may open a
direct message. -/
def assertMayGather (call : CreateGroupDm) : Except Failure Unit :=
  match call.workspaceId with
  | some workspaceId =>
    failIf (call.allMembers.any fun userId => !directory.workspaceMembers.rows.any fun row =>
        row.workspaceId == workspaceId && row.userId == userId)
      .workspaceNotMember "all members must belong to the workspace"
  | none => call.memberIds.forM fun memberId => directory.assertMayOpen call.meId memberId

/-- The transaction that opens a direct message. -/
def openChannel (channel : DmChannel) (rows : List DmMember) : Except Failure DmState := do
  let opened ← state.createChannel channel
  opened.createMembers rows

def createGroupDm (call : CreateGroupDm) : Except Failure (DmState × GroupDmResult) := do
  failIf (call.memberIds.length < 2) .validationFailed "group DM requires at least 2 other members"
  failIf (groupDmMaxTotal - 1 < call.memberIds.length) .dmGroupCapExceeded groupCapMessage
  failIf (call.memberIds.contains call.meId) .validationFailed "memberIds must not include yourself"
  failIf (!decide call.memberIds.Nodup) .validationFailed "memberIds must be unique"
  assertMayGather directory call
  match state.findByName call.workspaceId (groupChannelName call.allMembers) with
  | some existing => .ok (state, ⟨existing.id, false, call.allMembers⟩)
  | none => do
    let next ← state.openChannel call.channel (call.allMembers.map call.row)
    .ok (next, ⟨call.newId, true, call.allMembers⟩)

def createOrGetWorkspaceless (call : CreateOrGetGlobal) : Except Failure (DmState × CreateResult) :=
  match state.findByName none (channelName call.meId call.otherUserId) with
  | some existing => .ok (state, ⟨existing.id, false⟩)
  | none => do
    let next ← state.openChannel call.channel (call.allMembers.map call.row)
    .ok (next, ⟨call.newId, true⟩)

def createOrGetGlobal (call : CreateOrGetGlobal) : Except Failure (DmState × CreateResult) := do
  directory.assertMayOpen call.meId call.otherUserId
  state.createOrGetWorkspaceless call

/-- Whom a call asks for and who is not an active member. -/
def newParticipants (call : AddParticipants) : List UserId :=
  call.userIds.eraseDups.filter fun userId => !(state.activeMembers call.channelId).contains userId

theorem nodup_newParticipants (call : AddParticipants) : (state.newParticipants call).Nodup :=
  (nodup_eraseDups call.userIds).filter _

def addParticipants (call : AddParticipants) : Except Failure (DmState × AddResult) := do
  let channel ← state.findGroup call.channelId
  failIf channel.ownerId.isNone .forbidden "group has no owner; cannot add members"
  failIf (channel.ownerId != some call.meId) .forbidden "only the group owner can add members"
  let newUserIds := state.newParticipants call
  if newUserIds = [] then .ok (state, ⟨call.channelId, []⟩)
  else do
    failIf (groupDmMaxTotal < (state.activeMembers call.channelId).length + newUserIds.length)
      .dmGroupCapExceeded groupCapMessage
    newUserIds.forM fun target => directory.assertMayOpen call.meId target
    let next ← state.upsertMembers call.channelId call.now call.rowCreatedAt newUserIds
      (state.nodup_newParticipants call)
    .ok (next, ⟨call.channelId, newUserIds⟩)

def kickParticipant (call : KickParticipant) : Except Failure DmState :=
  match state.findDirect call.channelId with
  | none => failWith .channelNotFound "group DM not found"
  | some channel => do
    failIf (channel.ownerId.isNone || !channel.isGroup) .forbidden "cannot kick from a 1:1 DM"
    failIf (channel.ownerId != some call.meId) .forbidden "only the group owner can remove members"
    failIf (call.targetUserId == call.meId) .forbidden "owner cannot kick themselves; use leave"
    failIf (!(state.activeMembers call.channelId).contains call.targetUserId) .channelNotMember
      "target is not a member of this group"
    .ok (state.softLeave call.channelId call.targetUserId call.now)

/-- The last member takes the group along, and an owner leaves it to the first in line. -/
def leaveGroup (call : LeaveGroup) : Except Failure (DmState × LeaveResult) := do
  let channel ← state.findGroup call.channelId
  failIf (!(state.activeMembers call.channelId).contains call.meId) .channelNotFound
    "group DM not found"
  let left := state.softLeave call.channelId call.meId call.now
  -- Sorting drops nobody, so no heir means that nobody is left.
  match sortWith succession (left.activeRows call.channelId) with
  | [] =>
    .ok (left.updateChannel call.channelId (fun row => { row with deletedAt := some call.now })
      fun _ => rfl, ⟨call.channelId, true, none⟩)
  | heir :: _ =>
    if channel.ownerId = some call.meId then
      .ok (left.updateChannel call.channelId (fun row => { row with ownerId := some heir.userId })
        fun _ => rfl, ⟨call.channelId, false, some heir.userId⟩)
    else .ok (left, ⟨call.channelId, false, none⟩)

def setVisibility (call : SetVisibility) : Except Failure DmState :=
  match state.findDirect call.channelId with
  | none => failWith .channelNotFound "DM not found"
  | some _ => do
    failIf (!(state.activeMembers call.channelId).contains call.meId) .channelNotFound
      "DM not found"
    .ok (state.updateMembers
      (fun row => row.channelId == call.channelId && row.userId == call.meId && row.active)
      (fun row => { row with hiddenAt := call.hiddenAt }) fun _ => rfl)

/-- The transaction of `MessagesService.send`: everyone but the author has the direct message back
in the list. Who may send is left out. -/
def send (message : Message) : Except Failure DmState := do
  let sent ← state.createMessage message
  .ok (sent.updateMembers
    (fun row => row.channelId == message.channelId && row.userId != message.authorId)
    (fun row => { row with hiddenAt := none }) fun _ => rfl)

end DmState

/-- A call that changes direct messages. -/
inductive DmCall where
  | createGroupDm (call : CreateGroupDm)
  | createOrGetGlobal (call : CreateOrGetGlobal)
  | addParticipants (call : AddParticipants)
  | kickParticipant (call : KickParticipant)
  | leaveGroup (call : LeaveGroup)
  | setVisibility (call : SetVisibility)
  | send (message : Message)

def DmCall.run (directory : Directory) (state : DmState) : DmCall → Except Failure DmState
  | .createGroupDm call => (state.createGroupDm directory call).map Prod.fst
  | .createOrGetGlobal call => (state.createOrGetGlobal directory call).map Prod.fst
  | .addParticipants call => (state.addParticipants directory call).map Prod.fst
  | .kickParticipant call => state.kickParticipant call
  | .leaveGroup call => (state.leaveGroup call).map Prod.fst
  | .setVisibility call => state.setVisibility call
  | .send message => state.send message

/-- A call that succeeds, with what the gates read at the time. A call that fails changes
nothing. -/
def DmStep (state : DmState) (label : Directory × DmCall) (next : DmState) : Prop :=
  label.2.run label.1 state = .ok next

/-- The calls, one after the other, from a database without direct messages. -/
def runAll (calls : List (Directory × DmCall)) : Except Failure DmState :=
  calls.foldlM (fun state (label : Directory × DmCall) => label.2.run label.1 state) .empty

theorem steps_of_runAll {calls : List (Directory × DmCall)} {state : DmState}
    (ran : runAll calls = .ok state) : Steps DmStep .empty calls state :=
  Steps.of_foldlM (fun taken => taken) ran

end Bongtalk.Channels.DirectMessages
