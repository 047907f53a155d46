import Bongtalk.Common.DomainError
import Bongtalk.Library.EventLoop
import Bongtalk.Prisma.Notifications

/-!
# Friends

One row tells how two users stand to each other: a request, a friendship or a block. It is directed,
and it is looked up without its direction. A call decides on the row that it has read, and then
updates or deletes it by id.
-/

namespace Bongtalk.Friends

open Library EventLoop Common Prisma List Table

structure FriendshipId where
  value : Nat
deriving DecidableEq, Repr

structure FriendshipRow where
  id : FriendshipId
  requesterId : UserId
  addresseeId : UserId
  status : FriendshipStatus := .pending
deriving DecidableEq, Repr

namespace FriendshipRow

/-- From one user to the other. -/
def IsFrom (row : FriendshipRow) (requesterId addresseeId : UserId) : Prop :=
  row.requesterId = requesterId ∧ row.addresseeId = addresseeId

instance (row : FriendshipRow) (requesterId addresseeId : UserId) :
    Decidable (row.IsFrom requesterId addresseeId) :=
  inferInstanceAs (Decidable (_ ∧ _))

/-- Between two users, in either direction. -/
def IsBetween (row : FriendshipRow) (first second : UserId) : Prop :=
  row.IsFrom first second ∨ row.IsFrom second first

instance (row : FriendshipRow) (first second : UserId) : Decidable (row.IsBetween first second) :=
  inferInstanceAs (Decidable (_ ∨ _))

end FriendshipRow

/-- The rows, with the ids that are still to come. -/
structure FriendshipTable where
  table : Table FriendshipRow FriendshipRow.id
  nextId : Nat
  idsBelow : ∀ row ∈ table, row.id.value < nextId
  /-- `@@unique([requesterId, addresseeId])` -/
  directionsUnique : ∀ first ∈ table, ∀ second ∈ table,
    first.IsFrom second.requesterId second.addresseeId → first = second

namespace FriendshipTable

instance : Membership FriendshipRow FriendshipTable where
  mem friendships row := row ∈ friendships.table

theorem mem_def {friendships : FriendshipTable} {row : FriendshipRow} :
    row ∈ friendships ↔ row ∈ friendships.table.rows :=
  Iff.rfl

def empty : FriendshipTable where
  table := .empty
  nextId := 0
  idsBelow := by simp [Table.empty, Table.mem_def]
  directionsUnique := by simp [Table.empty, Table.mem_def]

variable (friendships : FriendshipTable)

def findUnique (id : FriendshipId) : Option FriendshipRow :=
  friendships.table.findUnique id

/-- `findRow`: a row between two users. -/
def findRow (userA userB : UserId) : Option FriendshipRow :=
  friendships.table.rows.find? fun row => row.IsBetween userA userB

/-- `friendship.create`, which the unique index may refuse. -/
def create? (requesterId addresseeId : UserId) (status : FriendshipStatus) :
    Option FriendshipTable :=
  if repeated : ∃ old ∈ friendships.table.rows, old.IsFrom requesterId addresseeId then none
  else some {
    table :=
      { rows := ⟨⟨friendships.nextId⟩, requesterId, addresseeId, status⟩ :: friendships.table.rows
        keysNodup := by
          refine nodup_cons.mpr ⟨fun taken => ?_, friendships.table.keysNodup⟩
          obtain ⟨old, present, same⟩ := mem_map.mp taken
          have below := friendships.idsBelow old present
          rw [same] at below
          exact Nat.lt_irrefl _ below }
    nextId := friendships.nextId + 1
    idsBelow := by
      intro old present
      rcases mem_cons.mp present with rfl | isOld
      · exact Nat.lt_succ_self _
      · exact (friendships.idsBelow old isOld).trans (Nat.lt_succ_self _)
    directionsUnique := by
      intro first firstMem second secondMem same
      rcases mem_cons.mp firstMem with rfl | firstOld <;>
        rcases mem_cons.mp secondMem with rfl | secondOld
      · rfl
      · exact absurd ⟨second, secondOld, same.1.symm, same.2.symm⟩ repeated
      · exact absurd ⟨first, firstOld, same⟩ repeated
      · exact friendships.directionsUnique first firstOld second secondOld same }

/-- `friendship.update({ where: { id } })` on a row that is there. -/
def setStatus (id : FriendshipId) (status : FriendshipStatus) : FriendshipTable where
  table := friendships.table.rewrite
    (fun row => if row.id = id then { row with status := status } else row)
    fun row => by split <;> rfl
  nextId := friendships.nextId
  idsBelow := by
    intro row present
    obtain ⟨old, oldMem, rfl⟩ := mem_map.mp present
    split <;> exact friendships.idsBelow old oldMem
  directionsUnique := by
    intro first firstMem second secondMem same
    obtain ⟨oldFirst, oldFirstMem, rfl⟩ := mem_map.mp firstMem
    obtain ⟨oldSecond, oldSecondMem, rfl⟩ := mem_map.mp secondMem
    have sameOld : oldFirst.IsFrom oldSecond.requesterId oldSecond.addresseeId := by
      split at same <;> split at same <;> exact same
    rw [friendships.directionsUnique oldFirst oldFirstMem oldSecond oldSecondMem sameOld]

/-- `friendship.delete({ where: { id } })` -/
def delete (id : FriendshipId) : FriendshipTable where
  table := friendships.table.deleteMany fun row => row.id = id
  nextId := friendships.nextId
  idsBelow := fun row present => friendships.idsBelow row (mem_deleteMany.mp present).1
  directionsUnique := fun first firstMem second secondMem same =>
    friendships.directionsUnique first (mem_deleteMany.mp firstMem).1 second
      (mem_deleteMany.mp secondMem).1 same

variable {friendships} {row : FriendshipRow} {id : FriendshipId} {status : FriendshipStatus}

variable {requesterId addresseeId : UserId}

theorem mem_create? {next : FriendshipTable}
    (created : friendships.create? requesterId addresseeId status = some next) :
    row ∈ next ↔
      row = ⟨⟨friendships.nextId⟩, requesterId, addresseeId, status⟩ ∨ row ∈ friendships := by
  unfold create? at created
  split at created
  · cases created
  cases created
  exact mem_cons

theorem nextId_create? {next : FriendshipTable}
    (created : friendships.create? requesterId addresseeId status = some next) :
    next.nextId = friendships.nextId + 1 := by
  unfold create? at created
  split at created
  · cases created
  cases created
  rfl

theorem create?_eq_none_iff :
    friendships.create? requesterId addresseeId status = none ↔
      ∃ row ∈ friendships, row.IsFrom requesterId addresseeId := by
  unfold create?
  split
  next repeated => exact iff_of_true rfl repeated
  next fresh => exact iff_of_false (Option.some_ne_none _) fresh

theorem mem_setStatus : row ∈ friendships.setStatus id status ↔
    ∃ old ∈ friendships, (if old.id = id then { old with status := status } else old) = row :=
  mem_map

theorem mem_delete : row ∈ friendships.delete id ↔ row ∈ friendships ∧ row.id ≠ id := by
  refine mem_deleteMany.trans (and_congr_right fun _ => ?_)
  exact decide_eq_false_iff_not

theorem mem_of_findRow {userA userB : UserId} (found : friendships.findRow userA userB = some row) :
    row ∈ friendships ∧ row.IsBetween userA userB := by
  have between := List.find?_some found
  exact ⟨mem_of_find?_eq_some found, of_decide_eq_true between⟩

theorem findUnique_eq_some_iff : friendships.findUnique id = some row ↔
    row ∈ friendships ∧ row.id = id :=
  Table.findUnique_eq_some_iff

end FriendshipTable

/-- Who may send a user friend requests. -/
inductive AllowFriendRequests where
  | everyone
  | mutualWorkspace
  | nobody
deriving DecidableEq, Repr

inductive FriendEvent where
  | requestReceived (friendshipId : FriendshipId) (requesterId addresseeId : UserId)
      (requesterUsername : String)
  | requestAccepted (friendshipId : FriendshipId) (requesterId addresseeId : UserId)
  | unblocked (friendshipId : FriendshipId) (targetUserId unblockedUserId : UserId)
deriving DecidableEq, Repr

/-- The blocks that have returned, and the calls that ask to undo them. -/
inductive BlockEvent where
  | blocked (meId targetUserId : UserId)
  | unblockCalled (meId targetUserId : UserId)
deriving DecidableEq, Repr

def friendCap : Nat := 1000

structure FriendState where
  users : Table User User.id
  db : Database
  /-- `UserSettings.allowFriendRequests`, where there is a row. -/
  allowFriendRequests : UserId → Option AllowFriendRequests := fun _ => none
  friendships : FriendshipTable := .empty
  outbox : List FriendEvent := []
  history : List BlockEvent := []

namespace FriendState

variable (state : FriendState)

/-- Another user is in a live workspace of a user. -/
def shareWorkspace (meId targetId : UserId) : Bool :=
  state.db.workspaceMembers.rows.any fun mine =>
    mine.userId = meId &&
      state.db.workspaces.rows.any (fun workspace =>
        workspace.id = mine.workspaceId && workspace.deletedAt == none) &&
      state.db.workspaceMembers.rows.any fun theirs =>
        theirs.workspaceId = mine.workspaceId && theirs.userId = targetId

def acceptedCount (meId : UserId) : Nat :=
  state.friendships.table.rows.countP fun row =>
    row.status == .accepted && (row.requesterId == meId || row.addresseeId == meId)

/-- `friendship.create`, with the foreign key of the addressee. -/
def create (requesterId addresseeId : UserId) (status : FriendshipStatus) :
    Except Failure FriendshipTable :=
  if (state.users.findUnique addresseeId).isNone then .error .foreignKeyViolation
  else
    match state.friendships.create? requesterId addresseeId status with
    | none => .error .uniqueViolation
    | some friendships => .ok friendships

/-- The transaction of `requestByUsername`. -/
def request (meId : UserId) (target : User) : Except Failure FriendState :=
  if friendCap ≤ state.acceptedCount meId then
    failWith .friendCapReached "friend cap 1000 reached"
  else
    (state.create meId target.id .pending).map fun friendships =>
      { state with
        friendships := friendships
        outbox := state.outbox ++
          [.requestReceived ⟨state.friendships.nextId⟩ meId target.id target.username] }

/-- The transaction of `accept`. -/
def accept (id : FriendshipId) : Except Failure FriendState :=
  match state.friendships.findUnique id with
  | none => .error .recordNotFound
  | some row => .ok { state with
      friendships := state.friendships.setStatus id .accepted
      outbox := state.outbox ++ [.requestAccepted id row.requesterId row.addresseeId] }

/-- The delete of `reject` and `remove`. -/
def deleteRow (id : FriendshipId) : Except Failure FriendState :=
  match state.friendships.findUnique id with
  | none => .error .recordNotFound
  | some _ => .ok { state with friendships := state.friendships.delete id }

/-- `block` updates a row. -/
def blockRow (meId targetUserId : UserId) (id : FriendshipId) : Except Failure FriendState :=
  match state.friendships.findUnique id with
  | none => .error .recordNotFound
  | some _ => .ok { state with
      friendships := state.friendships.setStatus id .blocked
      history := state.history ++ [.blocked meId targetUserId] }

/-- `block` creates a row. -/
def createBlock (meId targetUserId : UserId) : Except Failure FriendState :=
  (state.create meId targetUserId .blocked).map fun friendships =>
    { state with
      friendships := friendships
      history := state.history ++ [.blocked meId targetUserId] }

/-- `block` takes the place of a row of the other side, in one transaction. -/
def flip (meId targetUserId : UserId) (id : FriendshipId) : Except Failure FriendState :=
  match state.friendships.findUnique id with
  | none => .error .recordNotFound
  | some _ =>
    { state with friendships := state.friendships.delete id }.createBlock meId targetUserId

/-- The transaction of `unblock`. -/
def unblock (meId targetUserId : UserId) (id : FriendshipId) : Except Failure FriendState :=
  (state.deleteRow id).map fun next =>
    { next with outbox := next.outbox ++ [.unblocked id meId targetUserId] }

end FriendState

/-- A call, named by its next statement, with what it has read. -/
inductive FriendTask where
  | findTarget (meId : UserId) (targetUsername : String)
  | findExisting (meId : UserId) (target : User)
  | findSettings (meId : UserId) (target : User)
  | findSharedWorkspace (meId : UserId) (target : User)
  | request (meId : UserId) (target : User)
  /-- After a lost race. -/
  | readRequest (meId targetId : UserId)
  | findForAccept (meId : UserId) (friendshipId : FriendshipId)
  /-- The transaction of `accept`, and that of a request that meets one from the other side. -/
  | accept (id : FriendshipId)
  | findForReject (meId : UserId) (friendshipId : FriendshipId)
  | findForRemove (meId : UserId) (friendshipId : FriendshipId)
  | delete (id : FriendshipId)
  | findForBlock (meId targetUserId : UserId)
  | blockRow (meId targetUserId : UserId) (id : FriendshipId)
  | createBlock (meId targetUserId : UserId)
  | flip (meId targetUserId : UserId) (id : FriendshipId)
  /-- After a flip that the unique index has refused. -/
  | findCurrent (meId targetUserId : UserId)
  | findForUnblock (meId targetUserId : UserId)
  | unblock (meId targetUserId : UserId) (id : FriendshipId)

namespace FriendTask

/-- `requestByUsername` on the target. -/
def checkTarget (meId : UserId) (found : Option User) : Except Failure FriendTask :=
  match found with
  | none => failWith .friendTargetNotFound "user not found"
  | some target =>
    if target.id = meId then failWith .friendCannotSelf "cannot friend yourself"
    else .ok (.findExisting meId target)

/-- `requestByUsername` on the row between the two users. -/
def checkExisting (meId : UserId) (target : User) (existing : Option FriendshipRow) :
    Except Failure FriendTask :=
  match existing with
  | none => .ok (.findSettings meId target)
  | some row =>
    match row.status with
    | .blocked => failWith .friendBlocked "blocked"
    | .accepted => failWith .friendAlready "already friends"
    | .pending =>
      if row.addresseeId = meId then .ok (.accept row.id)
      else failWith .friendRequestDuplicate "already requested"

/-- The policy of the target. -/
def checkPolicy (meId : UserId) (target : User) (policy : Option AllowFriendRequests) :
    Except Failure FriendTask :=
  match policy.getD .everyone with
  | .everyone => .ok (.request meId target)
  | .nobody => failWith .friendRequestBlocked "friend requests are not accepted"
  | .mutualWorkspace => .ok (.findSharedWorkspace meId target)

def checkAccept (meId : UserId) (found : Option FriendshipRow) : Except Failure FriendTask :=
  match found with
  | none => failWith .friendNotFound "friendship not found"
  | some row =>
    if row.addresseeId ≠ meId ∨ row.status ≠ .pending then
      failWith .friendInvalidState "cannot accept"
    else .ok (.accept row.id)

/-- `reject`, which is done when there is no row. -/
def checkReject (meId : UserId) (found : Option FriendshipRow) :
    Except Failure (Option FriendTask) :=
  match found with
  | none => .ok none
  | some row =>
    if row.addresseeId ≠ meId ∨ row.status ≠ .pending then
      failWith .friendInvalidState "cannot reject"
    else .ok (some (.delete row.id))

/-- `remove`, which is done when there is no row. -/
def checkRemove (meId : UserId) (found : Option FriendshipRow) :
    Except Failure (Option FriendTask) :=
  match found with
  | none => .ok none
  | some row =>
    if row.requesterId ≠ meId ∧ row.addresseeId ≠ meId then
      failWith .friendNotFound "not a participant"
    else if row.status ≠ .accepted then failWith .friendInvalidState "not accepted"
    else .ok (some (.delete row.id))

def checkBlock (state : FriendState) (meId targetUserId : UserId) : Except Failure FriendTask :=
  if meId = targetUserId then failWith .friendCannotSelf "cannot block yourself"
  else
    match state.friendships.findRow meId targetUserId with
    | none => .ok (.createBlock meId targetUserId)
    | some existing =>
      if existing.requesterId = meId then .ok (.blockRow meId targetUserId existing.id)
      else .ok (.flip meId targetUserId existing.id)

/-- `unblock`, which is done when the caller owns no block. -/
def checkUnblock (meId targetUserId : UserId) (existing : Option FriendshipRow) :
    Option FriendTask :=
  existing.bind fun row =>
    if row.status ≠ .blocked ∨ row.requesterId ≠ meId then none
    else some (.unblock meId targetUserId row.id)

/-- A call that reads, and may be done. -/
def proceedOrDone (state : FriendState) (next : Except Failure (Option FriendTask)) :
    FriendState × List FriendTask :=
  (state, (next.toOption.bind id).toList)

theorem mem_proceedOrDone {state : FriendState} {next : Except Failure (Option FriendTask)}
    {new : FriendTask} : new ∈ (proceedOrDone state next).2 ↔ next = .ok (some new) := by
  cases next with
  | error failure | ok task => simp [proceedOrDone, Except.toOption]

/-- One statement of a call, or one transaction. -/
def resume (state : FriendState) : FriendTask → FriendState × List FriendTask
  | .findTarget meId targetUsername =>
    proceed state
      (checkTarget meId (state.users.rows.find? fun user => user.username = targetUsername))
  | .findExisting meId target =>
    proceed state (checkExisting meId target (state.friendships.findRow meId target.id))
  | .findSettings meId target =>
    proceed state (checkPolicy meId target (state.allowFriendRequests target.id))
  | .findSharedWorkspace meId target =>
    proceed state <|
      if state.shareWorkspace meId target.id then .ok (.request meId target)
      else failWith .friendRequestBlocked "friend requests require a mutual workspace"
  | .request meId target =>
    match state.request meId target with
    | .ok next => (next, [])
    | .error .uniqueViolation => (state, [.readRequest meId target.id])
    | .error _ => (state, [])
  | .readRequest _ _ => (state, [])
  | .findForAccept meId friendshipId =>
    proceed state (checkAccept meId (state.friendships.findUnique friendshipId))
  | .accept id => conclude state (state.accept id)
  | .findForReject meId friendshipId =>
    proceedOrDone state (checkReject meId (state.friendships.findUnique friendshipId))
  | .findForRemove meId friendshipId =>
    proceedOrDone state (checkRemove meId (state.friendships.findUnique friendshipId))
  | .delete id => conclude state (state.deleteRow id)
  | .findForBlock meId targetUserId => proceed state (checkBlock state meId targetUserId)
  | .blockRow meId targetUserId id => conclude state (state.blockRow meId targetUserId id)
  | .createBlock meId targetUserId => conclude state (state.createBlock meId targetUserId)
  | .flip meId targetUserId id =>
    match state.flip meId targetUserId id with
    | .ok next => (next, [])
    | .error .uniqueViolation => (state, [.findCurrent meId targetUserId])
    | .error _ => (state, [])
  | .findCurrent meId targetUserId =>
    proceed state <|
      match state.friendships.findRow meId targetUserId with
      | some current => .ok (.blockRow meId targetUserId current.id)
      | none => .error Failure.uniqueViolation
  | .findForUnblock meId targetUserId =>
    proceedOrDone state
      (.ok (checkUnblock meId targetUserId (state.friendships.findRow meId targetUserId)))
  | .unblock meId targetUserId id => conclude state (state.unblock meId targetUserId id)

end FriendTask

/-- The calls of the routes, and what may change besides. -/
inductive FriendInput where
  | requestByUsername (meId : UserId) (targetUsername : String)
  | accept (meId : UserId) (friendshipId : FriendshipId)
  | reject (meId : UserId) (friendshipId : FriendshipId)
  | remove (meId : UserId) (friendshipId : FriendshipId)
  | block (meId targetUserId : UserId)
  | unblock (meId targetUserId : UserId)
  | settings (allowFriendRequests : UserId → Option AllowFriendRequests) (db : Database)

def FriendInput.accepted (state : FriendState) : FriendInput → FriendState × List FriendTask
  | .requestByUsername meId targetUsername => (state, [.findTarget meId targetUsername])
  | .accept meId friendshipId => (state, [.findForAccept meId friendshipId])
  | .reject meId friendshipId => (state, [.findForReject meId friendshipId])
  | .remove meId friendshipId => (state, [.findForRemove meId friendshipId])
  | .block meId targetUserId => (state, [.findForBlock meId targetUserId])
  | .unblock meId targetUserId =>
    ({ state with history := state.history ++ [.unblockCalled meId targetUserId] },
      [.findForUnblock meId targetUserId])
  | .settings allowFriendRequests db =>
    ({ state with allowFriendRequests := allowFriendRequests, db := db }, [])

/-- The rows and the calls that are under way. -/
def friendLoop : EventLoop FriendState FriendTask FriendInput where
  resume state task := task.resume state
  Accepts state input next spawned := (next, spawned) = input.accepted state

end Bongtalk.Friends
