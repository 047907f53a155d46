import Bongtalk.Channels.ReadState
import Bongtalk.Messages.List

/-!
# Mark-all-read and its undo

Reading all channels of a workspace keeps a snapshot of the cursors it moved, in the database
and in Redis, from which it can be undone. Statements read what is committed when they
start; an upsert works on the row as it is then, and holds its lock until the commit.
-/

namespace Bongtalk.Channels

open Library Common Prisma Messages

/-- The `SnapshotCursor` of each channel. -/
abbrev Snapshot := List (ChannelId × Option ReadCursor)

/-- `SNAPSHOT_TTL_MS`. -/
def snapshotTtlMs : Nat := 5 * 60 * 1000

/-- A row of `MarkAllReadSnapshot`, and what Redis keeps under its key. -/
structure MarkAllReadSnapshot where
  id : SnapshotId
  userId : UserId
  workspaceId : WorkspaceId
  snapshot : Snapshot
  expiresAt : DateTime
deriving DecidableEq, Repr

abbrev SnapshotTable := Table MarkAllReadSnapshot MarkAllReadSnapshot.id

inductive SnapshotStore where
  | redis
  | database
deriving DecidableEq, Repr

structure MarkAllReadArgs where
  userId : UserId
  workspaceId : WorkspaceId
  /-- The id from `randomUUID`. -/
  snapshotId : SnapshotId
  /-- The channels of the workspace that the user may read. -/
  visible : List ChannelId
  /-- Whether Redis takes its copy. -/
  cached : Bool := true
deriving DecidableEq, Repr

/-- A row of `latest`, joined with `prior`. -/
structure Target where
  channelId : ChannelId
  latest : Message
  previous : Option ReadCursor

/-- The latest live root or broadcast copy of a channel. -/
def latestRoot (messages : MessageTable) (channelId : ChannelId) : Option Message :=
  (newestFirst (messages.table.findMany fun message =>
    message.channelId == channelId && message.deletedAt == none &&
      (message.parentMessageId == none || message.isBroadcast))).head?

/-- What the statement of `advanceAllVisible` reads. -/
def targets (state : AckState ChannelId) (args : MarkAllReadArgs) : List Target :=
  args.visible.dedup.filterMap fun channelId =>
    (latestRoot state.messages channelId).map fun latest =>
      { channelId, latest, previous := storedCursor state.states args.userId channelId }

/-- Whether the guarded upsert writes a row. -/
def advances (states : ReadStateTable ChannelId) (userId : UserId) (target : Target) : Bool :=
  (storedCursor states userId target.channelId).all fun old =>
    old.position < (cursorAt target.latest).position

/-- The rows that the upsert returns. -/
def advanced (states : ReadStateTable ChannelId) (userId : UserId) (targets : List Target) :
    List Target :=
  targets.filter (advances states userId)

/-- The upserts. -/
def advanceAll (states : ReadStateTable ChannelId) (userId : UserId) (targets : List Target) :
    ReadStateTable ChannelId :=
  targets.foldl (fun states target =>
    advance states userId target.channelId (cursorAt target.latest)) states

/-- The snapshot: the cursors that `prior` has of the channels that were advanced. -/
def snapshotOf (advanced : List Target) : Snapshot :=
  advanced.map fun target => (target.channelId, target.previous)

/-- The cursors that the upserts overwrite. -/
def overwrittenBy (states : ReadStateTable ChannelId) (userId : UserId) (advanced : List Target) :
    Snapshot :=
  advanced.map fun target => (target.channelId, storedCursor states userId target.channelId)

section Undo

/-- What comes of the call of the claim script: an answer, a call that does not get through,
or an answer that gets lost. -/
inductive RedisReply where
  | answers
  | unreachable
  | lost
deriving DecidableEq, Repr

structure UndoArgs where
  userId : UserId
  workspaceId : WorkspaceId
  snapshotId : SnapshotId
  reply : RedisReply := .answers
  /-- Whether the delete of the row succeeds after the claim. -/
  deletes : Bool := true
  /-- Whether the transaction of the restore commits. -/
  commits : Bool := true
deriving DecidableEq, Repr

inductive ClaimResult where
  | missing
  | mismatch
  | claimed (snapshot : Snapshot)

/-- `SNAPSHOT_CLAIM_LUA`, which Redis runs in one piece. -/
def snapshotClaim (redis : SnapshotTable) (now : DateTime) (args : UndoArgs) :
    SnapshotTable × ClaimResult :=
  match (redis.findUnique args.snapshotId).filter (now < ·.expiresAt) with
  | none => (redis, .missing)
  | some copy =>
    if copy.userId = args.userId ∧ copy.workspaceId = args.workspaceId then
      (redis.deleteMany (·.id == args.snapshotId), .claimed copy.snapshot)
    else (redis, .mismatch)

variable {now : DateTime} {args : UndoArgs}

theorem mem_of_snapshotClaim {redis : SnapshotTable} {copy : MarkAllReadSnapshot}
    (present : copy ∈ (snapshotClaim redis now args).1) :
    copy ∈ redis := by
  unfold snapshotClaim at present
  split at present
  · exact present
  split at present
  · exact (Table.mem_deleteMany.mp present).1
  · exact present

/-- The script hands out the copy of its caller, and deletes it. -/
theorem snapshotClaim_claimed {redis next : SnapshotTable} {snapshot : Snapshot}
    (claimed : snapshotClaim redis now args = (next, .claimed snapshot)) :
    (∃ copy ∈ redis, copy.id = args.snapshotId ∧ copy.userId = args.userId ∧
        copy.snapshot = snapshot) ∧
      ∀ copy ∈ next, copy ∈ redis ∧ copy.id ≠ args.snapshotId := by
  unfold snapshotClaim at claimed
  split at claimed
  · cases claimed
  next copy found =>
    split at claimed
    next owner =>
      obtain ⟨rfl, sameSnapshot⟩ := Prod.mk.inj claimed
      cases sameSnapshot
      obtain ⟨isFound, -⟩ := Option.filter_eq_some_iff.mp found
      obtain ⟨present, sameId⟩ := Table.findUnique_eq_some_iff.mp isFound
      refine ⟨⟨copy, present, sameId, owner.1, rfl⟩, fun other kept => ?_⟩
      simpa using Table.mem_deleteMany.mp kept
    · cases claimed

/-- The rows of a snapshot that belong to the caller. -/
def UndoArgs.owns (args : UndoArgs) (row : MarkAllReadSnapshot) : Bool :=
  row.id == args.snapshotId && row.userId == args.userId && row.workspaceId == args.workspaceId

def snapshotNotFound : Failure :=
  .domain ⟨.notFound, "mark-all-read snapshot not found or expired"⟩

/-- `DELETE … RETURNING` of the row, unless it has expired. -/
def deleteReturning (snapshots : SnapshotTable) (now : DateTime) (args : UndoArgs) :
    Except Failure (SnapshotTable × Snapshot) :=
  match (snapshots.findUnique args.snapshotId).filter fun row =>
      args.owns row && decide (now < row.expiresAt) with
  | none => .error snapshotNotFound
  | some row => .ok (snapshots.deleteMany (·.id == args.snapshotId), row.snapshot)

/-- The statement hands out the row of its caller, and deletes it. -/
theorem deleteReturning_eq_ok {snapshots next : SnapshotTable} {snapshot : Snapshot}
    (deleted : deleteReturning snapshots now args = .ok (next, snapshot)) :
    (∃ row ∈ snapshots, row.id = args.snapshotId ∧ row.userId = args.userId ∧
        row.snapshot = snapshot) ∧
      ∀ row ∈ next, row ∈ snapshots ∧ row.id ≠ args.snapshotId := by
  unfold deleteReturning at deleted
  split at deleted
  · cases deleted
  next row found =>
    cases deleted
    obtain ⟨isFound, owned⟩ := Option.filter_eq_some_iff.mp found
    obtain ⟨present, sameId⟩ := Table.findUnique_eq_some_iff.mp isFound
    simp only [UndoArgs.owns, Bool.and_eq_true, beq_iff_eq] at owned
    refine ⟨⟨row, present, sameId, owned.1.1.2, rfl⟩, fun other kept => ?_⟩
    simpa using Table.mem_deleteMany.mp kept

theorem deleteReturning_eq_error {snapshots : SnapshotTable} {failure : Failure}
    (refused : deleteReturning snapshots now args = .error failure) :
    failure = snapshotNotFound := by
  unfold deleteReturning at refused
  split at refused
  · exact (Except.error.inj refused).symm
  · cases refused

/-- `restoreCursorsSetBased`, an upsert without a guard. -/
def restoreCursors (states : ReadStateTable ChannelId) (userId : UserId) (entries : Snapshot) :
    ReadStateTable ChannelId :=
  entries.foldl (fun states entry =>
    states.upsert { userId := userId, scope := entry.1, cursor := entry.2 }) states

end Undo

structure UnreadArgs where
  userId : UserId
  channelId : ChannelId
  messageId : MessageId
deriving DecidableEq, Repr

def unreadTarget (messages : MessageTable) (args : UnreadArgs) : Except Failure Message :=
  match (messages.findUnique args.messageId).filter fun message =>
      message.channelId == args.channelId && message.deletedAt == none with
  | none => failWith .messageNotFound "messageId does not belong to this channel"
  | some target => .ok target

/-- The live message before another one. -/
def messageBefore (messages : MessageTable) (target : Message) : Option Message :=
  (newestFirst (messages.table.findMany fun message =>
    message.channelId == target.channelId && message.deletedAt == none &&
      decide (message.position < target.position))).head?

/-- A mark-all-read that took effect, with the cursors it overwrote and with what the user had
acknowledged then. -/
structure Mark where
  snapshotId : SnapshotId
  userId : UserId
  snapshot : Snapshot
  overwritten : Snapshot
  acknowledged : List (UserId × ChannelId × ReadCursor)
deriving DecidableEq, Repr

/-- An undo that took effect, with the cursors of the channels after it. -/
structure Undone where
  snapshotId : SnapshotId
  userId : UserId
  cursors : Snapshot
deriving DecidableEq, Repr

/-- What has happened so far. -/
structure History where
  issued : List SnapshotId := []
  /-- What the users have acknowledged and not marked unread again since. -/
  acknowledged : List (UserId × ChannelId × ReadCursor) := []
  marks : List Mark := []
  /-- What the calls of undo got: a snapshot, from one of its stores, or an error. -/
  answers : List (SnapshotId × Except Failure SnapshotStore) := []
  undos : List Undone := []

def History.acknowledge (history : History) : AckTask ChannelId → History
  | .find _ => history
  | .upsert args message =>
    { history with
        acknowledged := (args.userId, args.scope, cursorAt message) :: history.acknowledged }

/-- The user has moved the cursors of these channels back. -/
def History.takeBack (history : History) (userId : UserId) (channelIds : List ChannelId) :
    History :=
  { history with
      acknowledged := history.acknowledged.filter fun acknowledged =>
        !decide (acknowledged.1 = userId ∧ acknowledged.2.1 ∈ channelIds) }

def History.answer (history : History) (snapshotId : SnapshotId)
    (result : Except Failure SnapshotStore) : History :=
  { history with answers := (snapshotId, result) :: history.answers }

structure CursorState where
  acks : AckState ChannelId
  snapshots : SnapshotTable := .empty
  redis : SnapshotTable := .empty
  now : DateTime := 0
  history : History := {}

/-- The snapshots that a store has. -/
def CursorState.store (state : CursorState) : SnapshotStore → SnapshotTable
  | .redis => state.redis
  | .database => state.snapshots

/-- The cursors that are stored for some channels. -/
def CursorState.cursors (state : CursorState) (userId : UserId) (channelIds : List ChannelId) :
    Snapshot :=
  channelIds.map fun channelId => (channelId, storedCursor state.acks.states userId channelId)

def CursorState.setStates (state : CursorState) (states : ReadStateTable ChannelId) :
    CursorState :=
  { state with acks := { state.acks with states := states } }

/-- A call, named by its next statement. -/
inductive CursorTask where
  | ack (task : AckTask ChannelId)
  | unreadFind (args : UnreadArgs)
  | unreadBefore (args : UnreadArgs) (target : Message)
  | setBackward (args : UnreadArgs) (cursor : Option ReadCursor)
  | advance (args : MarkAllReadArgs)
  | persist (args : MarkAllReadArgs) (targets : List Target)
  | cache (row : MarkAllReadSnapshot) (cached : Bool)
  | claim (args : UndoArgs)
  | consume (args : UndoArgs) (snapshot : Snapshot)
  | load (args : UndoArgs)
  | restore (args : UndoArgs) (snapshot : Snapshot)

open CursorTask

/-- The row of `persistSnapshotDb`. -/
def snapshotRow (state : CursorState) (args : MarkAllReadArgs) (targets : List Target) :
    MarkAllReadSnapshot :=
  { id := args.snapshotId
    userId := args.userId
    workspaceId := args.workspaceId
    snapshot := snapshotOf (advanced state.acks.states args.userId targets)
    expiresAt := state.now + snapshotTtlMs }

/-- What is remembered of a mark-all-read. -/
def markOf (state : CursorState) (args : MarkAllReadArgs) (targets : List Target) : Mark :=
  { snapshotId := args.snapshotId
    userId := args.userId
    snapshot := (snapshotRow state args targets).snapshot
    overwritten := overwrittenBy state.acks.states args.userId
      (advanced state.acks.states args.userId targets)
    acknowledged := state.history.acknowledged }

/-- The upserts and the insert of the snapshot, up to the commit. -/
def commitMark (state : CursorState) (args : MarkAllReadArgs) (targets : List Target) :
    Option CursorState :=
  (state.snapshots.insert? (snapshotRow state args targets)).map fun snapshots =>
    { state.setStates (advanceAll state.acks.states args.userId
          (advanced state.acks.states args.userId targets)) with
      snapshots := snapshots
      history :=
        { state.history with marks := markOf state args targets :: state.history.marks } }

theorem commitMark_eq_some {state next : CursorState} {args : MarkAllReadArgs}
    {targets : List Target} (committed : commitMark state args targets = some next) :
    ∃ snapshots, state.snapshots.insert? (snapshotRow state args targets) = some snapshots ∧
      next = { state.setStates (advanceAll state.acks.states args.userId
            (advanced state.acks.states args.userId targets)) with
        snapshots := snapshots
        history :=
          { state.history with marks := markOf state args targets :: state.history.marks } } := by
  obtain ⟨snapshots, inserted, rfl⟩ := Option.map_eq_some_iff.mp committed
  exact ⟨snapshots, inserted, rfl⟩

/-- The transaction of an undo. -/
def commitUndo (state : CursorState) (args : UndoArgs) (snapshot : Snapshot) : CursorState :=
  let channelIds := snapshot.map (·.1)
  let restored := state.setStates (restoreCursors state.acks.states args.userId snapshot)
  let undone : Undone :=
    { snapshotId := args.snapshotId
      userId := args.userId
      cursors := restored.cursors args.userId channelIds }
  { restored with
      history :=
        { state.history.takeBack args.userId channelIds with
            undos := undone :: state.history.undos } }

def CursorTask.resume (state : CursorState) : CursorTask → CursorState × List CursorTask
  | .ack task =>
    ({ state with
        acks := (ackRead.resume state.acks task).1
        history := state.history.acknowledge task },
      (ackRead.resume state.acks task).2.map .ack)
  | .unreadFind args =>
    match unreadTarget state.acks.messages args with
    | .error _ => (state, [])
    | .ok target => (state, [.unreadBefore args target])
  | .unreadBefore args target =>
    (state, [.setBackward args ((messageBefore state.acks.messages target).map cursorAt)])
  | .setBackward args cursor =>
    ({ state.setStates (restoreCursors state.acks.states args.userId [(args.channelId, cursor)])
        with history := state.history.takeBack args.userId [args.channelId] }, [])
  | .advance args => (state, [.persist args (targets state.acks args)])
  | .persist args targets =>
    -- An id that is taken rolls the transaction back.
    match commitMark state args targets with
    | none => (state, [])
    | some next => (next, [.cache (snapshotRow state args targets) args.cached])
  | .cache row cached =>
    -- The call returns the id whether or not Redis has the copy.
    if cached then
      ({ state with
          redis := state.redis.upsert { row with expiresAt := state.now + snapshotTtlMs } }, [])
    else (state, [])
  | .claim args =>
    match args.reply, snapshotClaim state.redis state.now args with
    | .unreachable, _ => (state, [.load args])
    | .lost, (redis, _) => ({ state with redis := redis }, [.load args])
    | .answers, (_, .missing) => (state, [.load args])
    | .answers, (_, .mismatch) =>
      ({ state with history := state.history.answer args.snapshotId (.error snapshotNotFound) }, [])
    | .answers, (redis, .claimed snapshot) =>
      ({ state with
          redis := redis
          history := state.history.answer args.snapshotId (.ok .redis) },
        [.consume args snapshot])
  | .consume args snapshot =>
    -- A delete that fails is ignored.
    if args.deletes then
      ({ state with snapshots := state.snapshots.deleteMany args.owns }, [.restore args snapshot])
    else (state, [.restore args snapshot])
  | .load args =>
    match deleteReturning state.snapshots state.now args with
    | .error failure =>
      ({ state with history := state.history.answer args.snapshotId (.error failure) }, [])
    | .ok (snapshots, snapshot) =>
      ({ state with
          snapshots := snapshots
          history := state.history.answer args.snapshotId (.ok .database) },
        [.restore args snapshot])
  | .restore args snapshot =>
    if snapshot = [] ∨ args.commits = false then (state, [])
    else (commitUndo state args snapshot, [])

/-- How a call goes on that moves no cursor and gets no snapshot. -/
inductive CursorTask.Passes : CursorTask → CursorTask → Prop where
  | unreadBefore {args : UnreadArgs} {target : Message} :
      Passes (.unreadFind args) (.unreadBefore args target)
  | setBackward {args : UnreadArgs} {target : Message} {cursor : Option ReadCursor} :
      Passes (.unreadBefore args target) (.setBackward args cursor)
  | load {args : UndoArgs} : Passes (.claim args) (.load args)
  | restore {args : UndoArgs} {snapshot : Snapshot} :
      Passes (.consume args snapshot) (.restore args snapshot)

/-- What a step of a call does. -/
inductive CursorTask.Effect (shared : CursorState) :
    CursorTask → CursorState → List CursorTask → Prop where
  | ack (task : AckTask ChannelId) :
      Effect shared (.ack task)
        { shared with
          acks := (ackRead.resume shared.acks task).1
          history := shared.history.acknowledge task }
        ((ackRead.resume shared.acks task).2.map .ack)
  | ends {task : CursorTask} : Effect shared task shared []
  | passes {task new : CursorTask} {snapshots redis : SnapshotTable} (passes : task.Passes new)
      (fewer : ∀ store, ∀ row ∈ { shared with snapshots := snapshots, redis := redis }.store store,
        row ∈ shared.store store) :
      Effect shared task { shared with snapshots := snapshots, redis := redis } [new]
  | moveBack {args : UnreadArgs} {cursor : Option ReadCursor} :
      Effect shared (.setBackward args cursor)
        { shared.setStates
            (restoreCursors shared.acks.states args.userId [(args.channelId, cursor)]) with
          history := shared.history.takeBack args.userId [args.channelId] } []
  | advance {args : MarkAllReadArgs} :
      Effect shared (.advance args) shared [.persist args (targets shared.acks args)]
  | persist {args : MarkAllReadArgs} {targets : List Target} {next : CursorState}
      (committed : commitMark shared args targets = some next) :
      Effect shared (.persist args targets) next
        [.cache (snapshotRow shared args targets) args.cached]
  | cache {row : MarkAllReadSnapshot} {cached : Bool} :
      Effect shared (.cache row cached)
        { shared with
          redis := shared.redis.upsert { row with expiresAt := shared.now + snapshotTtlMs } } []
  | refuse {task : CursorTask} {snapshotId : SnapshotId} :
      Effect shared task
        { shared with history := shared.history.answer snapshotId (.error snapshotNotFound) } []
  | handOut {task new : CursorTask} {args : UndoArgs} {snapshot : Snapshot}
      {snapshots redis : SnapshotTable} (store : SnapshotStore)
      (goesOn : new = .consume args snapshot ∨ new = .restore args snapshot)
      (present : ∃ row ∈ shared.store store, row.id = args.snapshotId ∧
        row.userId = args.userId ∧ row.snapshot = snapshot)
      (fewer : ∀ other, ∀ row ∈ { shared with snapshots := snapshots, redis := redis }.store other,
        row ∈ shared.store other ∧ (row.id, other) ≠ (args.snapshotId, store)) :
      Effect shared task
        { shared with
          snapshots := snapshots
          redis := redis
          history := shared.history.answer args.snapshotId (.ok store) } [new]
  | restore {args : UndoArgs} {snapshot : Snapshot} :
      Effect shared (.restore args snapshot) (commitUndo shared args snapshot) []

theorem CursorTask.effect_resume (shared : CursorState) (task : CursorTask) :
    task.Effect shared (task.resume shared).1 (task.resume shared).2 := by
  cases task with
  | ack ackTask => exact .ack ackTask
  | unreadFind args =>
    simp only [resume]
    split
    · exact .ends
    · exact .passes .unreadBefore fun _ _ => id
  | unreadBefore args target => exact .passes .setBackward fun _ _ => id
  | setBackward args cursor => exact .moveBack
  | advance args => exact .advance
  | persist args targets =>
    simp only [resume]
    split
    · exact .ends
    next committed => exact .persist committed
  | cache row cached =>
    simp only [resume]
    split
    · exact .cache
    · exact .ends
  | claim args =>
    simp only [resume]
    split
    · exact .passes .load fun _ _ => id
    next claimEq =>
      refine .passes .load fun store row present => ?_
      cases store with
      | redis =>
        have isLeft : row ∈ (snapshotClaim shared.redis shared.now args).1 := by
          rw [claimEq]
          exact present
        exact mem_of_snapshotClaim isLeft
      | database => exact present
    · exact .passes .load fun _ _ => id
    · exact .refuse
    next claimed =>
      obtain ⟨present, fewer⟩ := snapshotClaim_claimed claimed
      refine .handOut .redis (.inl rfl) present fun other row rowMem => ?_
      cases other with
      | redis =>
        exact (fewer row rowMem).imp_right fun different same => different (Prod.mk.inj same).1
      | database => exact ⟨rowMem, fun same => nomatch (Prod.mk.inj same).2⟩
  | consume args snapshot =>
    simp only [resume]
    split
    · refine .passes .restore fun store row present => ?_
      cases store with
      | redis => exact present
      | database => exact (Table.mem_deleteMany.mp present).1
    · exact .passes .restore fun _ _ => id
  | load args =>
    simp only [resume]
    split
    next refused =>
      obtain rfl := deleteReturning_eq_error refused
      exact .refuse
    next deleted =>
      obtain ⟨present, fewer⟩ := deleteReturning_eq_ok deleted
      refine .handOut .database (.inr rfl) present fun other row rowMem => ?_
      cases other with
      | redis => exact ⟨rowMem, fun same => nomatch (Prod.mk.inj same).2⟩
      | database =>
        exact (fewer row rowMem).imp_right fun different same => different (Prod.mk.inj same).1
  | restore args snapshot =>
    simp only [resume]
    split
    · exact .ends
    · exact .restore

/-- A call, a message that comes or goes, a copy that leaves Redis, or the clock. -/
inductive CursorInput where
  | acks (input : AckInput ChannelId)
  | markUnread (args : UnreadArgs)
  | markAllRead (args : MarkAllReadArgs)
  | undoMarkAllRead (args : UndoArgs)
  | evict (snapshotId : SnapshotId)
  | tick (elapsed : Nat)

def CursorInput.starts : CursorInput → List CursorTask
  | .acks input => input.starts.map .ack
  | .markUnread args => [.unreadFind args]
  | .markAllRead args => [.advance args]
  | .undoMarkAllRead args => [.claim args]
  | .evict _ | .tick _ => []

def CursorInput.after (state : CursorState) : CursorInput → CursorState
  | .acks input => { state with acks := input.after state.acks }
  | .markAllRead args =>
    { state with
        history := { state.history with issued := args.snapshotId :: state.history.issued } }
  | .evict snapshotId => { state with redis := state.redis.deleteMany (·.id == snapshotId) }
  | .tick elapsed => { state with now := state.now + elapsed }
  | _ => state

/-- `randomUUID` does not repeat an id. -/
def CursorInput.IsFresh (state : CursorState) : CursorInput → Prop
  | .markAllRead args => args.snapshotId ∉ state.history.issued
  | _ => True

instance (state : CursorState) : (input : CursorInput) → Decidable (input.IsFresh state)
  | .markAllRead _ => inferInstanceAs (Decidable (_ ∉ _))
  | .acks _ | .markUnread _ | .undoMarkAllRead _ | .evict _ | .tick _ => isTrue trivial

def cursorLoop : EventLoop CursorState CursorTask CursorInput where
  resume := CursorTask.resume
  Accepts state input next spawned :=
    input.IsFresh state ∧ next = input.after state ∧ spawned = input.starts

/-- Any messages and any read cursors, before the first mark-all-read. -/
def CursorState.initial (acks : AckState ChannelId) (now : DateTime) :
    EventLoop.State CursorState CursorTask :=
  ⟨{ acks := acks, now := now }, []⟩

/-- A script whose snapshots have new ids is a run. -/
theorem exists_steps_cursor (start : EventLoop.State CursorState CursorTask)
    (moves : List (EventLoop.Move CursorInput)) {finish : EventLoop.State CursorState CursorTask}
    (played : cursorLoop.play (fun state input => (input.after state, input.starts))
      (fun
        | state, .accept input => decide (input.IsFresh state.shared)
        | _, .resume _ _ _ => true) start moves = some finish) :
    ∃ labels, Steps (EventLoop.Step cursorLoop) start labels finish :=
  cursorLoop.exists_steps_played _ _ start
    (fun _ _ fresh => ⟨of_decide_eq_true fresh, rfl, rfl⟩) .refl moves played

end Bongtalk.Channels
