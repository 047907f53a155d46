import Bongtalk.Channels.Positioning
import Bongtalk.Library.EventLoop

/-!
# Categories

Categories group the channels of a workspace. A category is deleted by marking it, and its channels
leave it in the same transaction. Channels get into a category by three calls, which look at
it in different ways: a new channel before its transaction, a moved one in it, and reordered ones
not at all.
-/

namespace Bongtalk.Channels

open Library EventLoop Common Prisma

structure CreateCategoryRequest where
  name : String
  description : Option String := none

namespace CategoriesService

section Calls

variable (db : Database) (workspaceId : WorkspaceId)

/-- The unique key `(workspaceId, name)` of the categories that are not deleted. -/
def nameTaken (name : String) : Bool :=
  db.categories.rows.any fun row =>
    row.workspaceId == workspaceId && row.name == name && row.deletedAt == none

/-- A new category comes last. -/
def createAnchors : Anchors :=
  ⟨((db.categories.findMany fun row => row.workspaceId == workspaceId && row.deletedAt == none).map
    Category.position).max?, none⟩

def create (newId : CategoryId) (position : Decimal) (createdAt : DateTime)
    (input : CreateCategoryRequest) : Except Failure Database :=
  let category : Category :=
    { id := newId
      workspaceId := workspaceId
      name := input.name
      description := input.description
      position := position
      createdAt := createdAt }
  if !ChannelsService.positionFits position then .error .valueOutOfRange
  else if nameTaken db workspaceId input.name then
    failWith .categoryNameTaken ("category \"" ++ input.name ++ "\" already exists")
  else
    match db.categories.insert? category with
    | none => .error .uniqueViolation
    | some categories => .ok { db with categories := categories }

/-- What a channel of the workspace keeps when a category goes. -/
def leave (categoryId : CategoryId) (row : Channel) : Channel :=
  if row.workspaceId = some workspaceId ∧ row.categoryId = some categoryId then
    { row with categoryId := none }
  else row

theorem id_leave (categoryId : CategoryId) (row : Channel) :
    (leave workspaceId categoryId row).id = row.id := by
  unfold leave
  split <;> rfl

/-- Delete a category: its channels leave it, and its row is marked. -/
def remove (categoryId : CategoryId) (now : DateTime) : Except Failure Database :=
  if ChannelsService.categoryIsLive db workspaceId categoryId then
    .ok { db with
      channels := db.channels.rewrite (leave workspaceId categoryId) (id_leave workspaceId categoryId)
      categories := db.categories.update categoryId
        (fun row => { row with deletedAt := some now }) fun _ => rfl }
  else failWith .categoryNotFound "category not found"

end Calls

end CategoriesService

/-- The transaction that creates a channel, with the category that was checked before. -/
def ChannelsService.insertChannel (db : Database) (workspaceId : WorkspaceId) (actorId : UserId)
    (newId : ChannelId) (position : Decimal) (createdAt : DateTime) (input : CreateChannelRequest) :
    Except Failure Database :=
  let channel : Channel :=
    { id := newId
      workspaceId := some workspaceId
      categoryId := input.categoryId
      name := input.name
      type := input.type
      topic := input.topic
      description := input.description
      position := position
      isPrivate := input.isPrivate.getD false
      createdAt := createdAt }
  if !positionFits position then .error .valueOutOfRange
  else if nameTaken db workspaceId newId input.name then
    failWith .channelNameTaken ("channel \"" ++ input.name ++ "\" already exists")
  else
    match db.channels.insert? channel with
    | none => .error .uniqueViolation
    | some channels =>
      let seed : ChannelPermissionOverride :=
        { channelId := newId, principal := .user actorId, allowMask := .creator }
      let overrides :=
        if channel.isPrivate then (db.overrides.insertMissing [seed]).1 else db.overrides
      .ok { db with channels := channels, overrides := overrides }

/-- The calls that create and delete categories and put channels into them. -/
inductive CategoryRequest where
  | createCategory (newId : CategoryId) (createdAt : DateTime) (input : CreateCategoryRequest)
  | removeCategory (categoryId : CategoryId) (now : DateTime)
  | createChannel (actorId : UserId) (newId : ChannelId) (createdAt : DateTime)
      (input : CreateChannelRequest)
  | move (channelId : ChannelId) (input : MoveChannelRequest)
  | reorderChannels (items : List ReorderItem)

/-- A call, named by its next statement or transaction, with what it has read. -/
inductive CategoryTask where
  | findLastCategory (workspaceId : WorkspaceId) (newId : CategoryId) (createdAt : DateTime)
      (input : CreateCategoryRequest)
  | createCategory (workspaceId : WorkspaceId) (newId : CategoryId) (position : Decimal)
      (createdAt : DateTime) (input : CreateCategoryRequest)
  | removeCategory (workspaceId : WorkspaceId) (categoryId : CategoryId) (now : DateTime)
  | findCategory (workspaceId : WorkspaceId) (actorId : UserId) (newId : ChannelId)
      (createdAt : DateTime) (input : CreateChannelRequest)
  | findLastChannel (workspaceId : WorkspaceId) (actorId : UserId) (newId : ChannelId)
      (createdAt : DateTime) (input : CreateChannelRequest)
  | createChannel (workspaceId : WorkspaceId) (actorId : UserId) (newId : ChannelId)
      (position : Decimal) (createdAt : DateTime) (input : CreateChannelRequest)
  | move (workspaceId : WorkspaceId) (channelId : ChannelId) (input : MoveChannelRequest)
  | reorderChannels (workspaceId : WorkspaceId) (items : List ReorderItem)

def CategoryRequest.starts (workspaceId : WorkspaceId) : CategoryRequest → CategoryTask
  | createCategory newId createdAt input => .findLastCategory workspaceId newId createdAt input
  | removeCategory categoryId now => .removeCategory workspaceId categoryId now
  | createChannel actorId newId createdAt input =>
    .findCategory workspaceId actorId newId createdAt input
  | move channelId input => .move workspaceId channelId input
  | reorderChannels items => .reorderChannels workspaceId items

/-- One statement or transaction of a call. -/
def CategoryTask.resume (db : Database) : CategoryTask → Database × List CategoryTask
  | .findLastCategory workspaceId newId createdAt input =>
    proceed db do
      let position ← (CategoriesService.createAnchors db workspaceId).position
      .ok (.createCategory workspaceId newId position createdAt input)
  | .createCategory workspaceId newId position createdAt input =>
    conclude db (CategoriesService.create db workspaceId newId position createdAt input)
  | .removeCategory workspaceId categoryId now =>
    conclude db (CategoriesService.remove db workspaceId categoryId now)
  | .findCategory workspaceId actorId newId createdAt input =>
    proceed db do
      failIf (input.categoryId.any fun id => !ChannelsService.categoryIsLive db workspaceId id)
        .categoryNotFound "category not found"
      .ok (.findLastChannel workspaceId actorId newId createdAt input)
  | .findLastChannel workspaceId actorId newId createdAt input =>
    proceed db do
      let last := lastPosition db workspaceId input.categoryId fun _ => true
      let position ← (⟨last, none⟩ : Anchors).position
      .ok (.createChannel workspaceId actorId newId position createdAt input)
  | .createChannel workspaceId actorId newId position createdAt input =>
    conclude db
      (ChannelsService.insertChannel db workspaceId actorId newId position createdAt input)
  | .move workspaceId channelId input =>
    conclude db ((PositionRequest.handle db workspaceId (.move channelId input)).map Prod.fst)
  | .reorderChannels workspaceId items =>
    conclude db ((ChannelsService.reorderChannels db workspaceId items).map Prod.fst)

def categoryLoop : EventLoop Database CategoryTask (WorkspaceId × CategoryRequest) where
  resume := CategoryTask.resume
  Accepts db call next spawned := next = db ∧ spawned = [call.2.starts call.1]

/-- A call that is not interrupted creates what its statements create. -/
theorem ChannelsService.create_eq_insertChannel (db : Database) (workspaceId : WorkspaceId)
    (actorId : UserId) (newId : ChannelId) {position : Decimal} (createdAt : DateTime)
    {input : CreateChannelRequest} (fits : positionFits position = true)
    (live : (input.categoryId.any fun id => !categoryIsLive db workspaceId id) = false) :
    (create db workspaceId actorId newId position createdAt input).map Prod.fst =
      insertChannel db workspaceId actorId newId position createdAt input := by
  simp only [create, insertChannel, live, fits, Bool.not_true, Bool.false_eq_true, if_false]
  split
  · rfl
  generalize db.channels.insert? _ = inserted
  cases inserted <;> rfl

end Bongtalk.Channels
