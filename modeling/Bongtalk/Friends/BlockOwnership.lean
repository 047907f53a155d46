import Bongtalk.Friends.FriendsService
import Bongtalk.Library.History

/-!
# Ownership of blocks

Two users have at most one row, and a block that has returned stays until its owner asks to undo
it. A write may meet a row that has changed since it was read, and a block by the one user takes
the place of a block by the other.
-/

namespace Bongtalk.Friends

open Library EventLoop Common Prisma FriendshipTable FriendState List

variable {id : FriendshipId} {meId targetUserId : UserId} {state : FriendState}

/-- No two rows are between the same two users. -/
def FriendshipTable.OneRow (friendships : FriendshipTable) : Prop :=
  ∀ first ∈ friendships, ∀ second ∈ friendships,
    first.IsBetween second.requesterId second.addresseeId → first = second

/-- A block has returned, and its owner has not asked to undo it since. -/
def Stands (history : List BlockEvent) (blocker target : UserId) : Prop :=
  Standing (· = BlockEvent.blocked blocker target) (· = BlockEvent.unblockCalled blocker target)
    history

/-- The blocks of a history are there. -/
def BlocksKept (history : List BlockEvent) (friendships : FriendshipTable) : Prop :=
  ∀ blocker target, Stands history blocker target →
    ∃ row ∈ friendships, row.IsFrom blocker target ∧ row.status = .blocked

structure BlocksOwned (state : FriendState) : Prop where
  oneRow : state.friendships.OneRow
  kept : BlocksKept state.history state.friendships

/-- The row with the id, if there is one, is no block that stands. -/
def Spares (state : FriendState) (id : FriendshipId) : Prop :=
  ∀ row ∈ state.friendships, row.id = id → ¬Stands state.history row.requesterId row.addresseeId

/-- No row leads back from the one user to the other. -/
def NoneFacing (friendships : FriendshipTable) (meId targetUserId : UserId) : Prop :=
  ∀ row ∈ friendships, ¬row.IsFrom targetUserId meId

/-- What a write meets: an update or a delete, no block that stands; a new row, none in the other
direction; a block by update, a row of the caller. -/
def RespectsBlocks (state : FriendState) : FriendTask → Prop
  | .request meId target =>
    state.acceptedCount meId < friendCap → (state.users.findUnique target.id).isSome = true →
      NoneFacing state.friendships meId target.id
  | .createBlock meId targetUserId =>
    (state.users.findUnique targetUserId).isSome = true →
      NoneFacing state.friendships meId targetUserId
  | .accept id | .delete id | .unblock _ _ id => Spares state id
  | .flip _ targetUserId id => (state.users.findUnique targetUserId).isSome = true → Spares state id
  | .blockRow meId _ id => ∀ row ∈ state.friendships, row.id = id → row.requesterId = meId
  | _ => True

/-- What a call has read of the rows. The users of a row never change. -/
def HasRead (state : FriendState) : FriendTask → Prop
  | .findExisting meId target | .findSettings meId target | .findSharedWorkspace meId target
  | .request meId target => meId ≠ target.id
  | .createBlock meId targetUserId => meId ≠ targetUserId
  | .flip meId targetUserId id =>
    meId ≠ targetUserId ∧ id.value < state.friendships.nextId ∧
      ∀ row ∈ state.friendships, row.id = id → row.IsFrom targetUserId meId
  | .blockRow meId targetUserId id =>
    id.value < state.friendships.nextId ∧
      ∀ row ∈ state.friendships, row.id = id → row.IsBetween meId targetUserId
  | _ => True

namespace FriendshipTable

variable {friendships next : FriendshipTable} {status : FriendshipStatus}

/-- A later table: the rows that are new have new ids, and the others their users. -/
def Precedes (friendships next : FriendshipTable) : Prop :=
  friendships.nextId ≤ next.nextId ∧ ∀ row ∈ next, friendships.nextId ≤ row.id.value ∨
    ∃ old ∈ friendships, old.id = row.id ∧ row.IsFrom old.requesterId old.addresseeId

theorem Precedes.refl : friendships.Precedes friendships :=
  ⟨le_rfl, fun row present => .inr ⟨row, present, rfl, rfl, rfl⟩⟩

theorem precedes_setStatus : friendships.Precedes (friendships.setStatus id status) := by
  refine ⟨le_rfl, fun row present => ?_⟩
  obtain ⟨old, oldMem, rfl⟩ := mem_setStatus.mp present
  exact .inr ⟨old, oldMem, by split <;> rfl, by split <;> exact ⟨rfl, rfl⟩⟩

theorem precedes_delete : friendships.Precedes (friendships.delete id) :=
  ⟨le_rfl, fun row present => .inr ⟨row, (mem_delete.mp present).1, rfl, rfl, rfl⟩⟩

theorem precedes_create {requesterId addresseeId : UserId}
    (created : friendships.create? requesterId addresseeId status = some next) :
    friendships.Precedes next := by
  refine ⟨(nextId_create? created).symm ▸ Nat.le_succ _, fun row present => ?_⟩
  rcases (mem_create? created).mp present with rfl | isOld
  · exact .inl le_rfl
  · exact .inr ⟨row, isOld, rfl, rfl, rfl⟩

theorem Precedes.trans {last : FriendshipTable} (first : friendships.Precedes next)
    (second : next.Precedes last) : friendships.Precedes last := by
  refine ⟨first.1.trans second.1, fun row present => ?_⟩
  rcases second.2 row present with isNew | ⟨old, oldMem, sameId, sameUsers⟩
  · exact .inl (first.1.trans isNew)
  rcases first.2 old oldMem with isNew | ⟨older, olderMem, olderId, olderUsers⟩
  · exact .inl (sameId ▸ isNew)
  refine .inr ⟨older, olderMem, olderId.trans sameId, ?_⟩
  exact ⟨sameUsers.1.trans olderUsers.1, sameUsers.2.trans olderUsers.2⟩

/-- What is known of the users of a row stays known. -/
theorem Precedes.keeps (Known : UserId → UserId → Prop) (later : friendships.Precedes next)
    (below : id.value < friendships.nextId)
    (known : ∀ row ∈ friendships, row.id = id → Known row.requesterId row.addresseeId) :
    ∀ row ∈ next, row.id = id → Known row.requesterId row.addresseeId := by
  intro row present isRow
  rcases later.2 row present with isNew | ⟨old, oldMem, sameId, sameUsers⟩
  · exact absurd (isRow ▸ isNew) (Nat.not_le.mpr below)
  rw [sameUsers.1, sameUsers.2]
  exact known old oldMem (sameId.trans isRow)

theorem oneRow_setStatus (oneRow : friendships.OneRow) :
    (friendships.setStatus id status).OneRow := by
  intro first firstMem second secondMem between
  obtain ⟨oldFirst, oldFirstMem, rfl⟩ := mem_setStatus.mp firstMem
  obtain ⟨oldSecond, oldSecondMem, rfl⟩ := mem_setStatus.mp secondMem
  have betweenOld : oldFirst.IsBetween oldSecond.requesterId oldSecond.addresseeId := by
    split at between <;> split at between <;> exact between
  rw [oneRow oldFirst oldFirstMem oldSecond oldSecondMem betweenOld]

theorem oneRow_delete (oneRow : friendships.OneRow) : (friendships.delete id).OneRow :=
  fun first firstMem second secondMem between =>
    oneRow first (mem_delete.mp firstMem).1 second (mem_delete.mp secondMem).1 between

/-- A new row is the only one of its users exactly when none leads back. -/
theorem oneRow_create_iff (oneRow : friendships.OneRow) {requesterId addresseeId : UserId}
    (created : friendships.create? requesterId addresseeId status = some next) :
    next.OneRow ↔ NoneFacing friendships requesterId addresseeId := by
  have newMem : (⟨⟨friendships.nextId⟩, requesterId, addresseeId, status⟩ : FriendshipRow) ∈ next :=
    (mem_create? created).mpr (.inl rfl)
  have noneFrom : ∀ row ∈ friendships, ¬row.IsFrom requesterId addresseeId := by
    intro row present isFrom
    rw [create?_eq_none_iff.mpr ⟨row, present, isFrom⟩] at created
    cases created
  constructor
  · intro after row present facing
    have same := after row ((mem_create? created).mpr (.inr present)) _ newMem (.inr facing)
    have below := friendships.idsBelow row present
    rw [same] at below
    exact Nat.lt_irrefl _ below
  · intro noneFacing
    have apart : ∀ row ∈ friendships, ¬row.IsBetween requesterId addresseeId :=
      fun row present between => between.elim (noneFrom row present) (noneFacing row present)
    intro first firstMem second secondMem between
    rcases (mem_create? created).mp firstMem with rfl | firstOld
    · rcases (mem_create? created).mp secondMem with rfl | secondOld
      · rfl
      refine absurd ?_ (apart second secondOld)
      exact between.imp (fun same => ⟨same.1.symm, same.2.symm⟩)
        fun same => ⟨same.2.symm, same.1.symm⟩
    · rcases (mem_create? created).mp secondMem with rfl | secondOld
      · exact absurd between (apart first firstOld)
      · exact oneRow first firstOld second secondOld between

end FriendshipTable

section Kept

variable {history : List BlockEvent} {friendships next : FriendshipTable} {blocker target : UserId}

theorem stands_blocked_iff : Stands (history ++ [.blocked meId targetUserId]) blocker target ↔
    (meId = blocker ∧ targetUserId = target) ∨ Stands history blocker target := by
  rw [Stands, standing_append_singleton_iff, BlockEvent.blocked.injEq]
  simp only [reduceCtorEq, not_false_eq_true, true_and, Stands]

theorem Stands.of_unblockCalled
    (stands : Stands (history ++ [.unblockCalled meId targetUserId]) blocker target) :
    Stands history blocker target := by
  rcases standing_append_singleton_iff.mp stands with isBlock | ⟨-, before⟩
  · cases isBlock
  · exact before

/-- An update to another status undoes a block exactly when it meets one that stands. -/
theorem kept_setStatus_iff {status : FriendshipStatus} (isOther : status ≠ .blocked)
    (kept : BlocksKept history friendships) :
    BlocksKept history (friendships.setStatus id status) ↔
      ∀ row ∈ friendships, row.id = id → ¬Stands history row.requesterId row.addresseeId := by
  constructor
  · intro after row present isRow stands
    obtain ⟨new, newMem, isFrom, blocked⟩ := after _ _ stands
    obtain ⟨old, oldMem, rfl⟩ := mem_setStatus.mp newMem
    split at blocked
    · exact isOther blocked
    next notRow =>
      rw [if_neg notRow] at isFrom
      exact notRow ((friendships.directionsUnique old oldMem row present isFrom) ▸ isRow)
  · intro spares blocker target stands
    obtain ⟨row, present, isFrom, blocked⟩ := kept blocker target stands
    refine ⟨row, mem_setStatus.mpr ⟨row, present, if_neg fun isRow => ?_⟩, isFrom, blocked⟩
    apply spares row present isRow
    rw [isFrom.1, isFrom.2]
    exact stands

variable (kept : BlocksKept history friendships)

include kept

/-- The same for a delete. -/
theorem kept_delete_iff :
    BlocksKept history (friendships.delete id) ↔
      ∀ row ∈ friendships, row.id = id → ¬Stands history row.requesterId row.addresseeId := by
  constructor
  · intro after row present isRow stands
    obtain ⟨left, leftMem, isFrom, -⟩ := after _ _ stands
    obtain ⟨leftOld, notRow⟩ := mem_delete.mp leftMem
    exact notRow ((friendships.directionsUnique left leftOld row present isFrom) ▸ isRow)
  · intro spares blocker target stands
    obtain ⟨row, present, isFrom, blocked⟩ := kept blocker target stands
    refine ⟨row, mem_delete.mpr ⟨present, fun isRow => ?_⟩, isFrom, blocked⟩
    apply spares row present isRow
    rw [isFrom.1, isFrom.2]
    exact stands

omit kept in
/-- A row that becomes a block is one of the caller exactly when the caller is its requester. -/
theorem kept_blockRow_iff (oneRow : friendships.OneRow) (kept : BlocksKept history friendships)
    {row : FriendshipRow} (present : row ∈ friendships) (isRow : row.id = id)
    (between : row.IsBetween meId targetUserId) :
    BlocksKept (history ++ [.blocked meId targetUserId]) (friendships.setStatus id .blocked) ↔
      row.requesterId = meId := by
  constructor
  · intro after
    obtain ⟨new, newMem, isFrom, -⟩ := after meId targetUserId
      (stands_blocked_iff.mpr (.inl ⟨rfl, rfl⟩))
    obtain ⟨old, oldMem, rfl⟩ := mem_setStatus.mp newMem
    have isFromOld : old.IsFrom meId targetUserId := by
      split at isFrom <;> exact isFrom
    have betweenOld : row.IsBetween old.requesterId old.addresseeId := by
      rw [isFromOld.1, isFromOld.2]
      exact between
    rw [oneRow row present old oldMem betweenOld, isFromOld.1]
  · intro isOwn blocker target stands
    rcases stands_blocked_iff.mp stands with ⟨rfl, rfl⟩ | before
    · refine ⟨_, mem_setStatus.mpr ⟨row, present, if_pos isRow⟩, ?_, rfl⟩
      rcases between with isFrom | facing
      · exact isFrom
      · exact ⟨isOwn, facing.2.trans (isOwn.symm.trans facing.1)⟩
    · obtain ⟨old, oldMem, isFrom, blocked⟩ := kept blocker target before
      refine ⟨_, mem_setStatus.mpr ⟨old, oldMem, rfl⟩, ?_, ?_⟩
      · split <;> exact isFrom
      · split
        · rfl
        · exact blocked

theorem kept_create {status : FriendshipStatus}
    (created : friendships.create? meId targetUserId status = some next) :
    BlocksKept history next := by
  intro blocker target stands
  obtain ⟨row, present, owned⟩ := kept blocker target stands
  exact ⟨row, (mem_create? created).mpr (.inr present), owned⟩

theorem kept_createBlock (created : friendships.create? meId targetUserId .blocked = some next) :
    BlocksKept (history ++ [.blocked meId targetUserId]) next := by
  intro blocker target stands
  rcases stands_blocked_iff.mp stands with ⟨rfl, rfl⟩ | before
  · exact ⟨_, (mem_create? created).mpr (.inl rfl), ⟨rfl, rfl⟩, rfl⟩
  · exact kept_create kept created blocker target before

end Kept

/-- A write that succeeds decides, and one that fails changes nothing. -/
theorem blocksOwned_conclude_iff {written : Except Failure FriendState} {Allowed : Prop}
    (owned : BlocksOwned state)
    (succeeds : ∀ next, written = .ok next → (BlocksOwned next ↔ Allowed))
    (fails : ∀ failure, written = .error failure → Allowed) :
    BlocksOwned (written.toOption.getD state) ↔ Allowed := by
  cases result : written with
  | error failure => exact iff_of_true owned (fails failure result)
  | ok next => exact succeeds next result

theorem spares_of_missing (missing : state.friendships.findUnique id = none) : Spares state id :=
  fun row present isRow => absurd isRow (Table.findUnique_eq_none_iff.mp missing row present)

section

variable (owned : BlocksOwned state)

include owned

theorem blocksOwned_accept_iff :
    BlocksOwned ((state.accept id).toOption.getD state) ↔ Spares state id := by
  rw [accept]
  split
  next missing => exact iff_of_true owned (spares_of_missing missing)
  next row found =>
    have isOther : FriendshipStatus.accepted ≠ .blocked := by decide
    refine Iff.trans ⟨fun after => after.kept, fun kept => ?_⟩
      (kept_setStatus_iff isOther owned.kept)
    exact ⟨oneRow_setStatus owned.oneRow, kept⟩

theorem blocksOwned_deleteRow_iff :
    BlocksOwned ((state.deleteRow id).toOption.getD state) ↔ Spares state id := by
  rw [deleteRow]
  split
  next missing => exact iff_of_true owned (spares_of_missing missing)
  next row found =>
    refine Iff.trans ⟨fun after => after.kept, fun kept => ?_⟩ (kept_delete_iff owned.kept)
    exact ⟨oneRow_delete owned.oneRow, kept⟩

/-- The record of an unblock changes no row. -/
theorem blocksOwned_unblock_iff :
    BlocksOwned ((state.unblock meId targetUserId id).toOption.getD state) ↔ Spares state id := by
  rw [← blocksOwned_deleteRow_iff owned, unblock]
  cases state.deleteRow id with
  | error failure => rfl
  | ok next => exact ⟨fun after => ⟨after.oneRow, after.kept⟩, fun after => ⟨after.oneRow, after.kept⟩⟩

theorem blocksOwned_blockRow_iff (read : HasRead state (.blockRow meId targetUserId id)) :
    BlocksOwned ((state.blockRow meId targetUserId id).toOption.getD state) ↔
      ∀ row ∈ state.friendships, row.id = id → row.requesterId = meId := by
  rw [blockRow]
  split
  next missing =>
    refine iff_of_true owned fun row present isRow => ?_
    exact absurd isRow (Table.findUnique_eq_none_iff.mp missing row present)
  next row found =>
    obtain ⟨present, isRow⟩ := findUnique_eq_some_iff.mp found
    have isOwn := kept_blockRow_iff owned.oneRow owned.kept present isRow (read.2 row present isRow)
    constructor
    · intro after other otherMem isOther
      obtain rfl := Table.eq_of_key_eq otherMem present (isOther.trans isRow.symm)
      exact isOwn.mp after.kept
    · intro allOwn
      exact ⟨oneRow_setStatus owned.oneRow, isOwn.mpr (allOwn row present isRow)⟩

end

/-- What `friendship.create` needs. -/
theorem create_eq_ok_iff {status : FriendshipStatus} {friendships : FriendshipTable} :
    state.create meId targetUserId status = .ok friendships ↔
      (state.users.findUnique targetUserId).isSome = true ∧
        state.friendships.create? meId targetUserId status = some friendships := by
  rw [create]
  split
  next missing =>
    refine ⟨fun ok => (by cases ok), fun known => ?_⟩
    rw [Option.isNone_iff_eq_none] at missing
    rw [missing] at known
    cases known.1
  next known =>
    rw [Bool.not_eq_true, Option.isNone_eq_false_iff] at known
    split
    next refused => simp [refused]
    next created => simp [created, known]

/-- A row that leads to another user keeps the rows that lead back out. -/
theorem noneFacing_of_isFrom (oneRow : state.friendships.OneRow) (isOther : meId ≠ targetUserId)
    {row : FriendshipRow} (present : row ∈ state.friendships) (isFrom : row.IsFrom meId targetUserId) :
    NoneFacing state.friendships meId targetUserId := by
  intro back backMem facing
  have between : back.IsBetween row.requesterId row.addresseeId := by
    rw [isFrom.1, isFrom.2]
    exact .inr facing
  rw [oneRow back backMem row present between] at facing
  exact isOther (isFrom.1.symm.trans facing.1)

theorem noneFacing_of_create_error (oneRow : state.friendships.OneRow)
    (isOther : meId ≠ targetUserId) {status : FriendshipStatus} {failure : Failure}
    (failed : state.create meId targetUserId status = .error failure)
    (known : (state.users.findUnique targetUserId).isSome = true) :
    NoneFacing state.friendships meId targetUserId := by
  cases created : state.friendships.create? meId targetUserId status with
  | none =>
    obtain ⟨row, present, isFrom⟩ := create?_eq_none_iff.mp created
    exact noneFacing_of_isFrom oneRow isOther present isFrom
  | some friendships =>
    rw [create_eq_ok_iff.mpr ⟨known, created⟩] at failed
    cases failed

theorem blocksOwned_createBlock_iff (owned : BlocksOwned state) (isOther : meId ≠ targetUserId) :
    BlocksOwned ((state.createBlock meId targetUserId).toOption.getD state) ↔
      ((state.users.findUnique targetUserId).isSome = true →
        NoneFacing state.friendships meId targetUserId) := by
  refine blocksOwned_conclude_iff owned (fun next succeeded => ?_) fun failure failed known => ?_
  · obtain ⟨friendships, ok, rfl⟩ := map_eq_ok succeeded
    obtain ⟨known, created⟩ := create_eq_ok_iff.mp ok
    constructor
    · exact fun after _ => (oneRow_create_iff owned.oneRow created).mp after.oneRow
    · intro noneFacing
      exact ⟨(oneRow_create_iff owned.oneRow created).mpr (noneFacing known),
        kept_createBlock owned.kept created⟩
  · cases ok : state.create meId targetUserId .blocked with
    | error error => exact noneFacing_of_create_error owned.oneRow isOther ok known
    | ok friendships =>
      rw [createBlock, ok] at failed
      cases failed

theorem blocksOwned_request_iff (owned : BlocksOwned state) {target : User}
    (isOther : meId ≠ target.id) :
    BlocksOwned ((state.request meId target).toOption.getD state) ↔
      (state.acceptedCount meId < friendCap →
        (state.users.findUnique target.id).isSome = true →
          NoneFacing state.friendships meId target.id) := by
  rw [request]
  split
  next full => exact iff_of_true owned fun below => absurd full (Nat.not_le.mpr below)
  next below =>
    refine blocksOwned_conclude_iff owned (fun next succeeded => ?_) fun failure failed _ known => ?_
    · obtain ⟨friendships, ok, rfl⟩ := map_eq_ok succeeded
      obtain ⟨known, created⟩ := create_eq_ok_iff.mp ok
      constructor
      · intro after _ _
        exact (oneRow_create_iff owned.oneRow created).mp after.oneRow
      · intro noneFacing
        have facing := noneFacing (Nat.not_le.mp below) known
        exact ⟨(oneRow_create_iff owned.oneRow created).mpr facing, kept_create owned.kept created⟩
    · cases ok : state.create meId target.id .pending with
      | error error => exact noneFacing_of_create_error owned.oneRow isOther ok known
      | ok friendships =>
        rw [ok] at failed
        cases failed

/-- A block that takes the place of another row undoes a block exactly when that row is one. -/
theorem blocksOwned_flip_iff (owned : BlocksOwned state)
    (read : HasRead state (.flip meId targetUserId id)) :
    BlocksOwned ((state.flip meId targetUserId id).toOption.getD state) ↔
      ((state.users.findUnique targetUserId).isSome = true → Spares state id) := by
  obtain ⟨isOther, -, allFacing⟩ := read
  rw [FriendState.flip]
  split
  next missing => exact iff_of_true owned fun _ => spares_of_missing missing
  next row found =>
    obtain ⟨present, isRow⟩ := findUnique_eq_some_iff.mp found
    have facing := allFacing row present isRow
    have noneBack {back : FriendshipRow} (backMem : back ∈ state.friendships.delete id)
        (isFrom : back.IsFrom row.requesterId row.addresseeId) : False := by
      obtain ⟨backOld, notRow⟩ := mem_delete.mp backMem
      have same := state.friendships.directionsUnique back backOld row present isFrom
      exact notRow (same ▸ isRow)
    refine blocksOwned_conclude_iff owned (fun next succeeded => ?_) fun failure failed known => ?_
    · obtain ⟨friendships, ok, rfl⟩ := map_eq_ok succeeded
      obtain ⟨known, created⟩ := create_eq_ok_iff.mp ok
      constructor
      · intro after _ other otherMem isSame stands
        obtain rfl := Table.eq_of_key_eq otherMem present (isSame.trans isRow.symm)
        obtain ⟨new, newMem, isFrom, -⟩ := after.kept _ _ (stands_blocked_iff.mpr (.inr stands))
        rcases (mem_create? created).mp newMem with rfl | isOld
        · exact isOther (isFrom.1.trans facing.1)
        · exact noneBack isOld isFrom
      · intro spares
        have keptBefore := (kept_delete_iff owned.kept).mpr (spares known)
        refine ⟨(oneRow_create_iff (oneRow_delete owned.oneRow)
          created).mpr fun back backMem isBack => ?_, kept_createBlock keptBefore created⟩
        exact noneBack backMem ⟨isBack.1.trans facing.1.symm, isBack.2.trans facing.2.symm⟩
    · -- A flip that the unique index refuses has met two rows.
      cases created : (state.friendships.delete id).create? meId targetUserId .blocked with
      | none =>
        obtain ⟨own, ownMem, isFrom⟩ := create?_eq_none_iff.mp created
        have noneFacing := noneFacing_of_isFrom owned.oneRow isOther (mem_delete.mp ownMem).1 isFrom
        exact absurd facing (noneFacing row present)
      | some friendships =>
        have ok : FriendState.create { state with friendships := state.friendships.delete id }
            meId targetUserId .blocked = .ok friendships :=
          create_eq_ok_iff.mpr ⟨known, created⟩
        rw [FriendState.createBlock, ok] at failed
        cases failed

section Run

variable {next : FriendState} {task : FriendTask}

theorem shared_request (meId : UserId) (target : User) :
    (FriendTask.resume state (.request meId target)).1 =
      (state.request meId target).toOption.getD state := by
  rw [FriendTask.resume]
  split
  next succeeded => rw [succeeded]; rfl
  next failed => rw [failed]; rfl
  next failed => rw [failed]; rfl

theorem shared_flip (meId targetUserId : UserId) (id : FriendshipId) :
    (FriendTask.resume state (.flip meId targetUserId id)).1 =
      (state.flip meId targetUserId id).toOption.getD state := by
  rw [FriendTask.resume]
  split
  next succeeded => rw [succeeded]; rfl
  next failed => rw [failed]; rfl
  next failed => rw [failed]; rfl

theorem blocksOwned_resume_iff (read : HasRead state task) (owned : BlocksOwned state) :
    BlocksOwned (task.resume state).1 ↔ RespectsBlocks state task := by
  cases task with
  | request meId target =>
    rw [shared_request]
    exact blocksOwned_request_iff owned read
  | accept id => exact blocksOwned_accept_iff owned
  | delete id => exact blocksOwned_deleteRow_iff owned
  | blockRow meId targetUserId id => exact blocksOwned_blockRow_iff owned read
  | createBlock meId targetUserId => exact blocksOwned_createBlock_iff owned read
  | flip meId targetUserId id =>
    rw [shared_flip]
    exact blocksOwned_flip_iff owned read
  | unblock meId targetUserId id => exact blocksOwned_unblock_iff owned
  | _ => exact iff_of_true owned trivial

/-- Every step leads to a later table. -/
theorem precedes_conclude {written : Except Failure FriendState}
    (later : ∀ next, written = .ok next → state.friendships.Precedes next.friendships) :
    state.friendships.Precedes (written.toOption.getD state).friendships := by
  cases result : written with
  | error failure => exact .refl
  | ok next => exact later next result

theorem precedes_createBlock {meId targetUserId : UserId}
    (succeeded : state.createBlock meId targetUserId = .ok next) :
    state.friendships.Precedes next.friendships := by
  obtain ⟨friendships, ok, rfl⟩ := map_eq_ok succeeded
  exact precedes_create (create_eq_ok_iff.mp ok).2

theorem precedes_deleteRow {id : FriendshipId} (succeeded : state.deleteRow id = .ok next) :
    state.friendships.Precedes next.friendships := by
  rw [deleteRow] at succeeded
  split at succeeded
  · cases succeeded
  cases succeeded
  exact precedes_delete

theorem precedes_resume (state : FriendState) (task : FriendTask) :
    state.friendships.Precedes (task.resume state).1.friendships := by
  cases task with
  | request meId target =>
    rw [shared_request]
    refine precedes_conclude fun next succeeded => ?_
    rw [FriendState.request] at succeeded
    split at succeeded
    · cases succeeded
    obtain ⟨friendships, ok, rfl⟩ := map_eq_ok succeeded
    exact precedes_create (create_eq_ok_iff.mp ok).2
  | accept id =>
    refine precedes_conclude fun next succeeded => ?_
    rw [FriendState.accept] at succeeded
    split at succeeded
    · cases succeeded
    cases succeeded
    exact precedes_setStatus
  | delete id => exact precedes_conclude fun next => precedes_deleteRow
  | blockRow meId targetUserId id =>
    refine precedes_conclude fun next succeeded => ?_
    rw [FriendState.blockRow] at succeeded
    split at succeeded
    · cases succeeded
    cases succeeded
    exact precedes_setStatus
  | createBlock meId targetUserId => exact precedes_conclude fun next => precedes_createBlock
  | flip meId targetUserId id =>
    rw [shared_flip]
    refine precedes_conclude fun next succeeded => ?_
    rw [FriendState.flip] at succeeded
    split at succeeded
    · cases succeeded
    · exact precedes_delete.trans (precedes_createBlock succeeded)
  | unblock meId targetUserId id =>
    refine precedes_conclude fun next succeeded => ?_
    obtain ⟨deleted, ok, rfl⟩ := map_eq_ok succeeded
    have later : state.friendships.Precedes deleted.friendships := precedes_deleteRow ok
    exact later
  | _ => exact .refl

theorem HasRead.of_precedes (read : HasRead state task)
    (later : state.friendships.Precedes next.friendships) : HasRead next task := by
  cases task with
  | flip meId targetUserId id =>
    obtain ⟨isOther, below, facing⟩ := read
    refine ⟨isOther, below.trans_le later.1, ?_⟩
    exact later.keeps (fun first second => first = targetUserId ∧ second = meId) below facing
  | blockRow meId targetUserId id =>
    obtain ⟨below, between⟩ := read
    exact ⟨below.trans_le later.1, later.keeps (fun first second =>
      (first = meId ∧ second = targetUserId) ∨ first = targetUserId ∧ second = meId) below
      between⟩
  | _ => exact read

open FriendTask in
/-- What a call reads leaves it with what it needs to know. -/
theorem hasRead_spawned (read : HasRead state task) :
    ∀ new ∈ (task.resume state).2, HasRead state new := by
  intro new spawned
  cases task with
  | findTarget meId targetUsername =>
    have checked := mem_proceed.mp spawned
    unfold checkTarget at checked
    split at checked
    · cases checked
    split at checked
    · cases checked
    next isOther =>
      cases checked
      exact fun same => isOther same.symm
  | findExisting meId target =>
    have checked := mem_proceed.mp spawned
    unfold checkExisting at checked
    split at checked
    · cases checked
      exact read
    · split at checked
      · cases checked
      · cases checked
      · split at checked
        · cases checked
          trivial
        · cases checked
  | findSettings meId target =>
    have checked := mem_proceed.mp spawned
    unfold checkPolicy at checked
    split at checked
    · cases checked
      exact read
    · cases checked
    · cases checked
      exact read
  | findSharedWorkspace meId target =>
    have checked := mem_proceed.mp spawned
    split at checked
    · cases checked
      exact read
    · cases checked
  | request meId target | flip meId targetUserId id =>
    rw [FriendTask.resume] at spawned
    split at spawned
    · cases spawned
    · obtain rfl := mem_singleton.mp spawned
      trivial
    · cases spawned
  | findForAccept meId friendshipId =>
    have checked := mem_proceed.mp spawned
    unfold checkAccept at checked
    split at checked
    · cases checked
    split at checked
    · cases checked
    cases checked
    trivial
  | findForReject meId friendshipId =>
    have checked := mem_proceedOrDone.mp spawned
    unfold checkReject at checked
    split at checked
    · cases checked
    split at checked
    · cases checked
    cases checked
    trivial
  | findForRemove meId friendshipId =>
    have checked := mem_proceedOrDone.mp spawned
    unfold checkRemove at checked
    split at checked
    · cases checked
    split at checked
    · cases checked
    split at checked
    · cases checked
    cases checked
    trivial
  | findForBlock meId targetUserId =>
    have checked := mem_proceed.mp spawned
    unfold checkBlock at checked
    split at checked
    · cases checked
    next isOther =>
      split at checked
      · cases checked
        exact isOther
      next existing found =>
        obtain ⟨present, between⟩ := mem_of_findRow found
        have below := state.friendships.idsBelow existing present
        have onlyRow : ∀ row ∈ state.friendships, row.id = existing.id → row = existing :=
          fun row rowMem same => Table.eq_of_key_eq rowMem present same
        split at checked
        · cases checked
          exact ⟨below, fun row rowMem same => (onlyRow row rowMem same) ▸ between⟩
        next notOwn =>
          cases checked
          refine ⟨isOther, below, fun row rowMem same => ?_⟩
          rw [onlyRow row rowMem same]
          exact between.resolve_left fun isFrom => notOwn isFrom.1
  | findCurrent meId targetUserId =>
    have checked := mem_proceed.mp spawned
    split at checked
    next current found =>
      cases checked
      obtain ⟨present, between⟩ := mem_of_findRow found
      refine ⟨state.friendships.idsBelow current present, fun row rowMem same => ?_⟩
      rw [Table.eq_of_key_eq rowMem present same]
      exact between
    · cases checked
  | findForUnblock meId targetUserId =>
    have checked := Except.ok.inj (mem_proceedOrDone.mp spawned)
    obtain ⟨row, -, isUnblock⟩ := Option.bind_eq_some_iff.mp checked
    split at isUnblock
    · cases isUnblock
    cases isUnblock
    trivial
  | readRequest meId targetId | accept id | delete id | blockRow meId targetUserId id
  | createBlock meId targetUserId | unblock meId targetUserId id => cases spawned

theorem keeps_resume_friends (read : HasRead state task) :
    Keeps (fun _ => True) HasRead state (task.resume state).1 (task.resume state).2 :=
  ⟨trivial, fun _ waits => waits.of_precedes (precedes_resume state task),
    fun new spawned => (hasRead_spawned read new spawned).of_precedes (precedes_resume state task)⟩

theorem keeps_accept_friends {input : FriendInput} {spawned : List FriendTask}
    (accepted : friendLoop.Accepts state input next spawned) :
    Keeps (fun _ => True) HasRead state next spawned := by
  obtain ⟨rfl, rfl⟩ := Prod.mk.inj accepted
  have later : state.friendships.Precedes (input.accepted state).1.friendships := by
    cases input <;> exact .refl
  refine ⟨trivial, fun _ waits => waits.of_precedes later, ?_⟩
  cases input with
  | settings allowFriendRequests db => exact forall_mem_nil _
  | _ => exact forall_mem_singleton.mpr trivial

/-- An unblock that is called frees its block, and the other inputs write nothing. -/
theorem blocksOwned_accept {input : FriendInput} {spawned : List FriendTask}
    (accepted : friendLoop.Accepts state input next spawned) (owned : BlocksOwned state) :
    BlocksOwned next := by
  obtain ⟨rfl, -⟩ := Prod.mk.inj accepted
  cases input with
  | unblock meId targetUserId =>
    exact ⟨owned.oneRow, fun blocker target stands =>
      owned.kept blocker target stands.of_unblockCalled⟩
  | _ => exact ⟨owned.oneRow, owned.kept⟩

/-- Blocks are owned by the blocker along a run exactly when no write of the run overrides one, and
no row is created beside another. -/
theorem blocks_owned_iff {start : FriendState} (fresh : start.history = [])
    (oneRow : start.friendships.OneRow) {labels : List (Label FriendTask FriendInput)}
    {finish : State FriendState FriendTask} :
    Steps (Lawful (Step friendLoop) fun state => BlocksOwned state.shared) ⟨start, []⟩ labels
        finish ↔
      Steps (Guarded (Step friendLoop) (OnResume RespectsBlocks)) ⟨start, []⟩ labels finish := by
  have owned : BlocksOwned start := by
    refine ⟨oneRow, fun blocker target stands => ?_⟩
    rw [fresh] at stands
    exact absurd stands not_standing_nil
  exact lawful_iff_guarded (fun _ read => keeps_resume_friends read)
    (fun accepted _ => keeps_accept_friends accepted)
    (fun _ read owned => blocksOwned_resume_iff read owned)
    (fun accepted owned => blocksOwned_accept accepted owned) trivial owned

end Run

/-- Two users without a row. -/
def twoUsers : FriendState where
  users := { rows := [⟨⟨1⟩, "alice", .auto, none, none⟩, ⟨⟨2⟩, "bob", .auto, none, none⟩]
             keysNodup := by decide }
  db := .withoutRoles .empty .empty .empty

theorem oneRow_empty : FriendshipTable.empty.OneRow :=
  fun _ firstMem => absurd firstMem not_mem_nil

/-- A check of what a write meets, for users who have not been blocked yet. -/
def meetsNoBlock (state : FriendState) : FriendTask → Bool
  | .request meId target =>
    state.friendships.table.rows.all fun row => decide ¬row.IsFrom target.id meId
  | .createBlock meId targetUserId =>
    state.friendships.table.rows.all fun row => decide ¬row.IsFrom targetUserId meId
  | .accept id | .delete id | .unblock _ _ id | .flip _ _ id =>
    state.friendships.table.rows.all fun row => decide
      (row.id = id → BlockEvent.blocked row.requesterId row.addresseeId ∉ state.history)
  | .blockRow meId _ id =>
    state.friendships.table.rows.all fun row => decide (row.id = id → row.requesterId = meId)
  | _ => true

theorem spares_of_meetsNoBlock {state : FriendState} {id : FriendshipId}
    (passes : (state.friendships.table.rows.all fun row => decide (row.id = id →
      BlockEvent.blocked row.requesterId row.addresseeId ∉ state.history)) = true) :
    Spares state id := by
  rintro row present isRow ⟨earlier, entry, later, split, rfl, -⟩
  apply of_decide_eq_true (all_eq_true.mp passes row present) isRow
  rw [split]
  exact mem_append_right _ mem_cons_self

theorem respectsBlocks_of_meetsNoBlock (state : FriendState) (task : FriendTask)
    (passes : meetsNoBlock state task = true) : RespectsBlocks state task := by
  cases task with
  | request meId target =>
    exact fun _ _ row present => of_decide_eq_true (all_eq_true.mp passes row present)
  | createBlock meId targetUserId =>
    exact fun _ row present => of_decide_eq_true (all_eq_true.mp passes row present)
  | blockRow meId targetUserId id =>
    exact fun row present => of_decide_eq_true (all_eq_true.mp passes row present)
  | accept id | delete id | unblock meId targetUserId id => exact spares_of_meetsNoBlock passes
  | flip meId targetUserId id => exact fun _ => spares_of_meetsNoBlock passes
  | _ => trivial

theorem accepts_friends (state : FriendState) (input : FriendInput) :
    friendLoop.Accepts state input (input.accepted state).1 (input.accepted state).2 :=
  rfl

/-- Two users become friends, the one blocks the other, and a request of the other is refused. -/
theorem friends_then_block : ∃ labels finish,
    Steps (Lawful (Step friendLoop) fun state => BlocksOwned state.shared) ⟨twoUsers, []⟩ labels
        finish ∧
      finish.shared.friendships.table.rows = [⟨⟨0⟩, ⟨1⟩, ⟨2⟩, .blocked⟩] ∧
        finish.shared.history = [.blocked ⟨1⟩ ⟨2⟩] := by
  exact exists_onResume_of_play ⟨twoUsers, []⟩ accepts_friends respectsBlocks_of_meetsNoBlock
    (blocks_owned_iff rfl oneRow_empty).mpr
    [.accept (.requestByUsername ⟨1⟩ "bob"), .run 0, .run 0, .run 0, .run 0,
      .accept (.accept ⟨2⟩ ⟨0⟩), .run 0, .run 0, .accept (.block ⟨1⟩ ⟨2⟩), .run 0, .run 0,
      .accept (.requestByUsername ⟨2⟩ "alice"), .run 0, .run 0] (by decide +kernel)

/-- The block of the second user takes the place of that of the first, which is gone. Two requests
that cross leave two rows. -/
theorem block_of_other_removes_block :
    (∃ labels finish, Steps (Step friendLoop) ⟨twoUsers, []⟩ labels finish ∧
      finish.shared.history = [.blocked ⟨1⟩ ⟨2⟩, .blocked ⟨2⟩ ⟨1⟩] ∧
        finish.shared.friendships.table.rows = [⟨⟨1⟩, ⟨2⟩, ⟨1⟩, .blocked⟩] ∧
        ¬BlocksKept finish.shared.history finish.shared.friendships) ∧
    ∃ labels finish, Steps (Step friendLoop) ⟨twoUsers, []⟩ labels finish ∧
      finish.shared.friendships.table.rows =
        [⟨⟨1⟩, ⟨2⟩, ⟨1⟩, .pending⟩, ⟨⟨0⟩, ⟨1⟩, ⟨2⟩, .pending⟩] ∧
        ¬finish.shared.friendships.OneRow := by
  constructor
  · obtain ⟨labels, finish, steps, history, rows⟩ :=
      exists_steps_of_play ⟨twoUsers, []⟩ accepts_friends
        [.accept (.block ⟨1⟩ ⟨2⟩), .run 0, .run 0, .accept (.block ⟨2⟩ ⟨1⟩), .run 0, .run 0]
        (P := fun finish => finish.shared.history = [.blocked ⟨1⟩ ⟨2⟩, .blocked ⟨2⟩ ⟨1⟩] ∧
          finish.shared.friendships.table.rows = [⟨⟨1⟩, ⟨2⟩, ⟨1⟩, .blocked⟩]) (by decide +kernel)
    refine ⟨labels, finish, steps, history, rows, fun kept => ?_⟩
    have stands : Stands finish.shared.history ⟨1⟩ ⟨2⟩ :=
      ⟨[], _, _, history, rfl, by simp⟩
    obtain ⟨row, present, isFrom, -⟩ := kept ⟨1⟩ ⟨2⟩ stands
    rw [mem_def, rows, mem_singleton] at present
    subst present
    exact absurd isFrom (by decide)
  · obtain ⟨labels, finish, steps, bothRows⟩ :=
      exists_steps_of_play ⟨twoUsers, []⟩ accepts_friends
        [.accept (.requestByUsername ⟨1⟩ "bob"), .run 0, .run 0,
          .accept (.requestByUsername ⟨2⟩ "alice"), .run 1, .run 1, .run 0, .run 0, .run 0, .run 0]
        (P := fun finish => finish.shared.friendships.table.rows =
          [⟨⟨1⟩, ⟨2⟩, ⟨1⟩, .pending⟩, ⟨⟨0⟩, ⟨1⟩, ⟨2⟩, .pending⟩]) (by decide +kernel)
    refine ⟨labels, finish, steps, bothRows, fun oneRow => ?_⟩
    have same := oneRow ⟨⟨1⟩, ⟨2⟩, ⟨1⟩, .pending⟩
      (by rw [mem_def, bothRows]; exact .head _) ⟨⟨0⟩, ⟨1⟩, ⟨2⟩, .pending⟩
      (by rw [mem_def, bothRows]; exact .tail _ (.head _)) (by decide)
    cases same

end Bongtalk.Friends
