import Bongtalk.Channels.Sidebar

/-!
# Writes to channels

Every call checks its request, writes in one transaction and records one event with it. The
events say what changed; some carry the whole row of the channel.
-/

namespace Bongtalk.Channels

open Auth Common Prisma

inductive ChannelEventType where
  | created
  | updated
  | deleted
  | restored
  | archived
  | unarchived
  | moved
  | reordered
  | permissionChanged
  | memberAdded
  | memberRemoved
deriving DecidableEq, Repr

/-- An entry of `channel.reordered`. -/
structure ChannelPosition where
  id : ChannelId
  categoryId : Option CategoryId
  position : Decimal
deriving DecidableEq, Repr

/-- A `channel.*` event; `channel` is the row an event carries. -/
structure ChannelEvent where
  type : ChannelEventType
  workspaceId : Option WorkspaceId
  channelId : Option ChannelId := none
  channel : Option Channel := none
  channels : List ChannelPosition := []
deriving DecidableEq, Repr

structure CreateChannelRequest where
  name : String
  type : ChannelType := .text
  topic : Option String := none
  description : Option String := none
  categoryId : Option CategoryId := none
  isPrivate : Option Bool := none

/-- An absent field leaves its column alone; a column that may be null can be set to it. -/
structure UpdateChannelRequest where
  name : Option String := none
  topic : Option (Option String) := none
  description : Option (Option String) := none
  categoryId : Option (Option CategoryId) := none
  slowmodeSeconds : Option Int := none
  memberCanPin : Option Bool := none
  fileUploadEnabled : Option Bool := none
  maxFileSizeBytes : Option (Option Int) := none
  isPrivate : Option Bool := none
  confirmName : Option String := none

/-- The row an update writes. -/
def UpdateChannelRequest.apply (input : UpdateChannelRequest) (row : Channel) : Channel :=
  { row with
    name := input.name.getD row.name
    topic := input.topic.getD row.topic
    description := input.description.getD row.description
    categoryId := input.categoryId.getD row.categoryId
    slowmodeSeconds := input.slowmodeSeconds.getD row.slowmodeSeconds
    memberCanPin := input.memberCanPin.getD row.memberCanPin
    fileUploadEnabled := input.fileUploadEnabled.getD row.fileUploadEnabled
    maxFileSizeBytes := input.maxFileSizeBytes.getD row.maxFileSizeBytes
    isPrivate := input.isPrivate.getD row.isPrivate }

namespace ChannelsService

section Lookups

variable (db : Database) (workspaceId : WorkspaceId)

def categoryIsLive (categoryId : CategoryId) : Bool :=
  (db.categories.findUnique categoryId).any fun row =>
    row.workspaceId == workspaceId && row.deletedAt == none

/-- The unique key `(workspaceId, name)` of channels. -/
def nameTaken (channelId : ChannelId) (name : String) : Bool :=
  db.channels.rows.any fun row =>
    row.workspaceId == some workspaceId && row.name == name && row.id != channelId

/-- `channel.findFirst({ where: { id, workspaceId } })`. -/
def findInWorkspace (channelId : ChannelId) : Option Channel :=
  (db.channels.findUnique channelId).filter (·.workspaceId == some workspaceId)

/-- `channel.findFirst({ where: { id, workspaceId, deletedAt: null } })`. -/
def findLive (channelId : ChannelId) : Option Channel :=
  (findInWorkspace db workspaceId channelId).filter (·.deletedAt == none)

end Lookups

/-- Write the row of a channel. -/
def writeChannel (db : Database) (updated : Channel) : Database :=
  { db with
    channels := db.channels.rewrite (fun row => if row.id = updated.id then updated else row)
      fun row => by
        split
        next same => exact same.symm
        next => rfl }

section Calls

variable (db : Database) (workspaceId : WorkspaceId)

/-- Create a channel under the generated id, at a position computed from its neighbours. The
creator of a private channel gets a row of its own on it. -/
def create (actorId : UserId) (newId : ChannelId) (position : Decimal) (createdAt : DateTime)
    (input : CreateChannelRequest) : Except Failure (Database × ChannelEvent) :=
  let channel : Channel :=
    { id := newId
      workspaceId := some workspaceId
      categoryId := input.categoryId
      name := input.name
      type := input.type
      topic := input.topic
      description := input.description
      position := position
      isPrivate := input.isPrivate.getD false
      createdAt := createdAt }
  if input.categoryId.any fun categoryId => !categoryIsLive db workspaceId categoryId then
    failWith .categoryNotFound "category not found"
  else if nameTaken db workspaceId newId input.name then
    failWith .channelNameTaken ("channel \"" ++ input.name ++ "\" already exists")
  else
    match db.channels.insert? channel with
    | none => .error .uniqueViolation
    | some channels =>
      let seed : ChannelPermissionOverride :=
        { channelId := newId, principal := .user actorId, allowMask := .creator }
      let overrides :=
        if channel.isPrivate then (db.overrides.insertMissing [seed]).1 else db.overrides
      .ok ({ db with channels := channels, overrides := overrides },
        { type := .created, workspaceId := some workspaceId, channel := some channel })

/-- Change a channel; opening a private one asks for its name. -/
def update (channelId : ChannelId) (input : UpdateChannelRequest) :
    Except Failure (Database × ChannelEvent) :=
  if (input.categoryId.bind id).any fun categoryId => !categoryIsLive db workspaceId categoryId then
    failWith .categoryNotFound "category not found"
  else
    match db.channels.findUnique channelId with
    | none => failWith .channelNotFound "channel not found"
    | some before =>
      let updated := input.apply before
      if before.isPrivate && !updated.isPrivate && input.confirmName != some before.name then
        failWith .channelConfirmRequired
          "confirmName must match the channel name to switch a private channel to public"
      else if nameTaken db workspaceId channelId updated.name then
        failWith .channelNameTaken "channel name already taken"
      else
        .ok (writeChannel db updated,
          { type := .updated, workspaceId := some workspaceId, channel := some updated })

def softDelete (channelId : ChannelId) (now : DateTime) :
    Except Failure (Database × ChannelEvent) :=
  match findInWorkspace db workspaceId channelId with
  | none => failWith .channelNotFound "channel not found"
  | some target =>
    if target.isDefault then
      failWith .defaultChannelProtected "기본 채널은 삭제/보관할 수 없습니다. 먼저 다른 채널을 기본으로 지정하세요."
    else
      .ok (writeChannel db { target with deletedAt := some now },
        { type := .deleted, workspaceId := some workspaceId, channelId := some channelId })

def restore (channelId : ChannelId) : Except Failure (Database × ChannelEvent) :=
  match findInWorkspace db workspaceId channelId with
  | none => failWith .channelNotFound "channel not found"
  | some current =>
    if current.deletedAt = none then failWith .channelNotFound "channel is not deleted"
    else
      let restored := { current with deletedAt := none }
      .ok (writeChannel db restored,
        { type := .restored, workspaceId := some workspaceId, channelId := some channelId
          channel := some restored })

def archive (channelId : ChannelId) (now : DateTime) : Except Failure (Database × ChannelEvent) :=
  match findInWorkspace db workspaceId channelId with
  | none => failWith .channelNotFound "channel not found"
  | some before =>
    if before.isDefault then
      failWith .defaultChannelProtected "기본 채널은 삭제/보관할 수 없습니다. 먼저 다른 채널을 기본으로 지정하세요."
    else
      .ok (writeChannel db { before with archivedAt := some now },
        { type := .archived, workspaceId := some workspaceId, channelId := some channelId })

def unarchive (channelId : ChannelId) : Except Failure (Database × ChannelEvent) :=
  match db.channels.findUnique channelId with
  | none => failWith .channelNotFound "channel not found"
  | some before =>
    .ok (writeChannel db { before with archivedAt := none },
      { type := .unarchived, workspaceId := some workspaceId, channelId := some channelId })

/-- Move a channel to a position computed from its anchors. -/
def move (channelId : ChannelId) (position : Decimal) (categoryId : Option (Option CategoryId)) :
    Except Failure (Database × ChannelEvent) :=
  match findLive db workspaceId channelId with
  | none => failWith .channelNotFound "channel not found"
  | some current =>
    let nextCategoryId := categoryId.getD current.categoryId
    if nextCategoryId.any fun id => !categoryIsLive db workspaceId id then
      failWith .categoryNotFound "category not found"
    else
      let moved := { current with position := position, categoryId := nextCategoryId }
      .ok (writeChannel db moved,
        { type := .moved, workspaceId := some workspaceId, channel := some moved })

/-- `RENORMALIZE_STRIDE`, in units of the last decimal place. -/
def renormalizeStride : Decimal :=
  1000 * 10 ^ 10

/-- What a `Decimal(20, 10)` column can hold. -/
def positionFits (position : Decimal) : Bool :=
  position.natAbs < 10 ^ 20

/-- The columns that a move writes. -/
def place (categoryId : Option CategoryId) (position : Decimal) (row : Channel) : Channel :=
  { row with position := position, categoryId := categoryId }

/-- `channel.update` of a category and a position, which the column and the foreign key check. -/
def updatePlace (db : Database) (id : ChannelId) (categoryId : Option CategoryId)
    (position : Decimal) : Except Failure Database :=
  if !positionFits position then .error .valueOutOfRange
  else if categoryId.any fun id => (db.categories.findUnique id).isNone then
    .error .foreignKeyViolation
  else
    .ok { db with
      channels := db.channels.rewrite
        (fun row => if row.id = id then place categoryId position row else row)
        fun row => by split <;> rfl }

/-- Spread the listed channels of each category at equal distances. -/
def renormalize (db : Database) (seqByCategory : Option CategoryId → Nat) :
    List (ChannelId × Option CategoryId) → Except Failure Database
  | [] => .ok db
  | (id, categoryId) :: rest => do
    let n := seqByCategory categoryId + 1
    let next ← updatePlace db id categoryId (renormalizeStride * n)
    renormalize next (Function.update seqByCategory categoryId n) rest

/-- Reorder the live channels among the listed ones. The event lists every channel of the
workspace, private ones included. -/
def reorderChannels (items : List (ChannelId × Option CategoryId)) :
    Except Failure (Database × ChannelEvent) :=
  let applicable := items.filter fun item => (findLive db workspaceId item.1).isSome
  if applicable = [] then failWith .channelNotFound "no reorderable channels in this workspace"
  else do
    let next ← renormalize db (fun _ => 0) applicable
    let channels := (next.channels.findMany fun row =>
      row.workspaceId == some workspaceId && row.deletedAt == none && row.type != .direct
        ).insertionSort fun first second => channelOrder first second
    .ok (next,
      { type := .reordered, workspaceId := some workspaceId
        channels := channels.map fun row => ⟨row.id, row.categoryId, row.position⟩ })

/-- Upsert the row of a member on a channel. -/
def addChannelMemberOverride (channelId : ChannelId) (targetUserId : UserId)
    (allowMask denyMask : OverrideMask) : Except Failure (Database × ChannelEvent) :=
  if db.findMember workspaceId targetUserId = none then
    failWith .workspaceTargetNotMember "target user is not a member of this workspace"
  else if findLive db workspaceId channelId = none then
    failWith .channelNotFound "channel not found in workspace"
  else
    .ok ({ db with
        overrides := db.overrides.upsert ⟨channelId, .user targetUserId, allowMask, denyMask⟩ },
      { type := .permissionChanged, workspaceId := some workspaceId, channelId := some channelId })

/-- Upsert the row of a system role on a channel. -/
def addChannelRoleOverride (channelId : ChannelId) (role : WorkspaceRole)
    (allowMask denyMask : OverrideMask) : Except Failure (Database × ChannelEvent) :=
  if findLive db workspaceId channelId = none then
    failWith .channelNotFound "channel not found in workspace"
  else
    .ok ({ db with
        overrides := db.overrides.upsert ⟨channelId, .systemRole role, allowMask, denyMask⟩ },
      { type := .permissionChanged, workspaceId := some workspaceId, channelId := some channelId })

/-- Delete the row of a principal on a channel. -/
def removeChannelOverride (channelId : ChannelId) (principal : Principal) :
    Except Failure (Database × ChannelEvent) :=
  if findLive db workspaceId channelId = none then
    failWith .channelNotFound "channel not found in workspace"
  else if db.overrides.findUnique (channelId, principal) = none then
    failWith .channelOverrideNotFound "permission override not found in channel"
  else
    .ok ({ db with
        overrides := db.overrides.deleteMany fun row =>
          row.channelId == channelId && row.principal == principal },
      { type := .permissionChanged, workspaceId := some workspaceId, channelId := some channelId })

/-- Mark a user as a member of a public channel, with a row that allows nothing. -/
def joinChannel (channelId : ChannelId) (userId : UserId) :
    Except Failure (Database × ChannelEvent) :=
  match findLive db workspaceId channelId with
  | none => failWith .channelNotFound "channel not found in workspace"
  | some channel =>
    if channel.isPrivate then
      failWith .channelPrivateInviteOnly
        "private channels are invite-only — ask an admin to add you"
    else
      .ok ({ db with
          overrides := (db.overrides.insertMissing
            [{ channelId := channelId, principal := .user userId }]).1 },
        { type := .memberAdded, workspaceId := some workspaceId, channelId := some channelId })

/-- Delete the caller's own row on a channel. -/
def leaveChannel (channelId : ChannelId) (userId : UserId) :
    Except Failure (Database × ChannelEvent) :=
  if findLive db workspaceId channelId = none then
    failWith .channelNotFound "channel not found in workspace"
  else if db.overrides.findUnique (channelId, .user userId) = none then
    failWith .channelNotMember "you are not a member of this channel"
  else
    .ok ({ db with
        overrides := db.overrides.deleteMany fun row =>
          row.channelId == channelId && row.principal == .user userId },
      { type := .memberRemoved, workspaceId := some workspaceId, channelId := some channelId })

end Calls

end ChannelsService

end Bongtalk.Channels
