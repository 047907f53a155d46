import Bongtalk.Library.History
import Bongtalk.Messages.Edits

/-!
# The history of edits

The compare-and-set lets no edit be lost. What goes into the history is the row as it was read
before, which is the row that is overwritten only if the two reads saw the same version.
-/

namespace Bongtalk.Messages

open Library EventLoop Prisma EditTask MessageTable List

/-- The committed edits of a message, in order. -/
def editsOf (edits : List Edit) (messageId : MessageId) : List Edit :=
  edits.filter (·.messageId == messageId)

/-- What an entry keeps of the message before the edit, with the time of the edit. -/
def EditHistoryRow.snapshot (row : EditHistoryRow) : Nat × String × DateTime :=
  (row.version, row.contentPlain, row.editedAt)

def Edit.snapshot (edit : Edit) : Nat × String × DateTime :=
  (edit.version, edit.contentPlain, edit.editedAt)

/-- Every edit was made at the version its client expected, and the edits of a message count its
version up one by one. -/
structure NoLostEdit (state : EditState) : Prop where
  expected : ∀ edit ∈ state.edits, edit.expectedVersion = edit.version
  versions : ∀ message ∈ state.messages,
    (editsOf state.edits message.id).map (·.version) = List.range message.version

/-- The history of a message is what its latest edits overwrote. -/
def ExactHistory (state : EditState) : Prop :=
  ∀ message ∈ state.messages,
    (historyOf state.history message.id).map (·.snapshot) =
        ((editsOf state.edits message.id).rtake editHistoryCap).map (·.snapshot) ∧
      (historyOf state.history message.id).map (·.version) =
        (List.range message.version).rtake editHistoryCap

/-- The lock a transaction holds. -/
def EditTask.holds : EditTask → Option MessageId
  | .createHistory args _ | .countHistory args _ | .findOldest args _ _ | .commit args _ _ =>
    some args.msgId
  | _ => none

/-- The row is as the update has matched it. -/
def Matched (messages : MessageTable) (args : EditArgs) : Prop :=
  ∃ stored ∈ messages, stored.id = args.msgId ∧ stored.version = args.expectedVersion

/-- A row as it was read at some time: an older version, or the text of today. -/
def Seen (messages : MessageTable) (args : EditArgs) (before : Message) : Prop :=
  ∃ stored ∈ messages, stored.id = args.msgId ∧
    (before.version < stored.version ∨
      before.version = stored.version ∧ before.contentPlain = stored.contentPlain)

/-- What a transaction has read so far still holds. -/
def EditTask.Ready (state : EditState) : EditTask → Prop
  | .compareAndSet args before => ∀ row, before = some row → Seen state.messages args row
  | .createHistory args before =>
    Matched state.messages args ∧ ∀ row, before = some row → Seen state.messages args row
  | .countHistory args before => Matched state.messages args ∧ Seen state.messages args before
  | .findOldest args before excess =>
    Matched state.messages args ∧ Seen state.messages args before ∧
      excess = (historyOf state.history args.msgId).length + 1 - editHistoryCap
  | .commit args before doomed =>
    Matched state.messages args ∧ Seen state.messages args before ∧
      doomed = ((byVersion (historyOf state.history args.msgId ++ [args.historyRow before])).take
        ((historyOf state.history args.msgId).length + 1 - editHistoryCap)).map (·.id)
  | _ => True

/-- Edits and entries are about messages that are there. -/
structure Known (state : EditState) : Prop where
  edits : ∀ edit ∈ state.edits, ∃ message ∈ state.messages, message.id = edit.messageId
  history : ∀ row ∈ state.history, ∃ message ∈ state.messages, message.id = row.messageId

structure EditsHeld (state : State EditState EditTask) : Prop where
  exclusive : Exclusive holds state.shared.locked state.tasks
  ready : ∀ task ∈ state.tasks, task.Ready state.shared
  known : Known state.shared
  noLostEdit : NoLostEdit state.shared

section Writes

variable {state next : EditState} {messages later : MessageTable}

/-- Rows stay, at their version with their text or at a later version. -/
def Grows (messages later : MessageTable) : Prop :=
  ∀ message ∈ messages, ∃ row ∈ later, row.id = message.id ∧
    (message.version < row.version ∨
      message.version = row.version ∧ message.contentPlain = row.contentPlain)

/-- The row of a message stays at its version, with its entries. -/
structure Keeps (state next : EditState) (messageId : MessageId) : Prop where
  row : ∀ message ∈ state.messages, message.id = messageId →
    ∃ row ∈ next.messages, row.id = messageId ∧ row.version = message.version
  history : historyOf next.history messageId = historyOf state.history messageId

theorem Seen.grows {args : EditArgs} {before : Message} (grows : Grows messages later)
    (seen : Seen messages args before) : Seen later args before := by
  obtain ⟨stored, present, sameId, old⟩ := seen
  obtain ⟨row, rowMem, rowId, newer⟩ := grows stored present
  refine ⟨row, rowMem, rowId.trans sameId, ?_⟩
  rcases old with older | ⟨sameVersion, sameText⟩
  · rcases newer with newer | ⟨rowVersion, -⟩
    · exact .inl (older.trans newer)
    · exact .inl (rowVersion ▸ older)
  · rcases newer with newer | ⟨rowVersion, rowText⟩
    · exact .inl (sameVersion ▸ newer)
    · exact .inr ⟨sameVersion.trans rowVersion, sameText.trans rowText⟩

theorem Matched.keeps {args : EditArgs} (keeps : Keeps state next args.msgId)
    (matched : Matched state.messages args) : Matched next.messages args := by
  obtain ⟨stored, present, sameId, version⟩ := matched
  obtain ⟨row, rowMem, rowId, rowVersion⟩ := keeps.row stored present sameId
  exact ⟨row, rowMem, rowId, rowVersion.trans version⟩

/-- A write that leaves a locked message alone leaves its transaction ready. -/
theorem EditTask.Ready.keeps {task : EditTask} (grows : Grows state.messages next.messages)
    (keeps : ∀ messageId, task.holds = some messageId → Keeps state next messageId)
    (ready : task.Ready state) : task.Ready next := by
  cases task with
  | compareAndSet args before => exact fun row read => (ready row read).grows grows
  | createHistory args before =>
    exact ⟨ready.1.keeps (keeps _ rfl), fun row read => (ready.2 row read).grows grows⟩
  | countHistory args before => exact ⟨ready.1.keeps (keeps _ rfl), ready.2.grows grows⟩
  | findOldest args before excess =>
    obtain ⟨matched, seen, counted⟩ := ready
    exact ⟨matched.keeps (keeps _ rfl), seen.grows grows, by rw [(keeps _ rfl).history, counted]⟩
  | commit args before doomed =>
    obtain ⟨matched, seen, chosen⟩ := ready
    refine ⟨matched.keeps (keeps _ rfl), seen.grows grows, ?_⟩
    rw [(keeps _ rfl).history, chosen]
  | _ => trivial

/-- A write of messages that touches no version and no text. -/
structure Textless (messages later : MessageTable) : Prop where
  rows : ∀ message ∈ messages, ∃ row ∈ later, row.id = message.id ∧
    row.version = message.version ∧ row.contentPlain = message.contentPlain
  origin : ∀ row ∈ later,
    (∃ message ∈ messages, message.id = row.id ∧ message.version = row.version) ∨
      row.version = 0 ∧ ∀ message ∈ messages, message.id ≠ row.id

theorem Textless.refl (messages : MessageTable) : Textless messages messages where
  rows := fun message present => ⟨message, present, rfl, rfl, rfl⟩
  origin := fun row present => .inl ⟨row, present, rfl, rfl⟩

theorem Textless.trans {last : MessageTable} (first : Textless messages later)
    (second : Textless later last) : Textless messages last where
  rows := by
    intro message present
    obtain ⟨middle, middleMem, sameId, sameVersion, sameText⟩ := first.rows message present
    obtain ⟨row, rowMem, rowId, rowVersion, rowText⟩ := second.rows middle middleMem
    exact ⟨row, rowMem, rowId.trans sameId, rowVersion.trans sameVersion, rowText.trans sameText⟩
  origin := by
    intro row rowMem
    rcases second.origin row rowMem with ⟨middle, middleMem, sameId, sameVersion⟩ | ⟨zero, fresh⟩
    · rcases first.origin middle middleMem with ⟨message, present, id, version⟩ | ⟨zero, fresh⟩
      · exact .inl ⟨message, present, id.trans sameId, version.trans sameVersion⟩
      exact .inr ⟨sameVersion ▸ zero, fun message present same =>
        fresh message present (same.trans sameId.symm)⟩
    · refine .inr ⟨zero, fun message present same => ?_⟩
      obtain ⟨middle, middleMem, middleId, -, -⟩ := first.rows message present
      exact fresh middle middleMem (middleId.trans same)

theorem textless_updateOne {id : MessageId} {change : Message → Message}
    {keeps : ∀ message, (change message).identity = message.identity}
    (sameText : ∀ message, (change message).version = message.version ∧
      (change message).contentPlain = message.contentPlain) :
    Textless messages (messages.updateOne id change keeps) where
  rows := by
    intro message present
    refine ⟨_, mem_rewrite.mpr ⟨message, present, rfl⟩, ?_⟩
    split
    · exact ⟨congrArg Prod.fst (keeps message), sameText message⟩
    · exact ⟨rfl, rfl, rfl⟩
  origin := by
    intro row rowMem
    obtain ⟨message, present, rfl⟩ := mem_rewrite.mp rowMem
    refine .inl ⟨message, present, ?_⟩
    split
    · exact ⟨(congrArg Prod.fst (keeps message)).symm, (sameText message).1.symm⟩
    · exact ⟨rfl, rfl⟩

theorem textless_create {row : Message} (created : messages.create row = .ok later)
    (new : row.version = 0) : Textless messages later where
  rows := fun message present =>
    ⟨message, (mem_create created).mpr (.inr present), rfl, rfl, rfl⟩
  origin := by
    intro message present
    rcases (mem_create created).mp present with rfl | old
    · exact .inr ⟨new, (create_eq_ok_iff.mp created).1⟩
    · exact .inl ⟨message, old, rfl, rfl⟩

theorem textless_addReply (id : MessageId) (createdAt : DateTime) :
    Textless messages (messages.updateOne id (Message.addReply · createdAt)
      (identity_addReply createdAt)) := by
  apply textless_updateOne
  intro message
  unfold Message.addReply
  split <;> exact ⟨rfl, rfl⟩

theorem textless_dropReply (id : MessageId) :
    Textless messages (messages.updateOne id Message.dropReply identity_dropReply) := by
  apply textless_updateOne
  intro message
  unfold Message.dropReply
  split <;> exact ⟨rfl, rfl⟩

theorem textless_sendMessage {row : SendRow} (sent : sendMessage messages row = .ok later) :
    Textless messages later := by
  refine sendMessage_writes Textless Textless.trans ?_ ?_ sent
  · rintro messages next new created (rfl | ⟨parentId, id, rfl⟩)
    · exact textless_create created rfl
    · exact textless_create created rfl
  · exact fun _ parentId => textless_addReply parentId row.createdAt

theorem textless_softDelete {channelId : ChannelId} {msgId : MessageId} {deletedAt : DateTime} :
    Textless messages (softDelete messages channelId msgId deletedAt) := by
  refine softDelete_writes Textless Textless.refl Textless.trans ?_ ?_ messages channelId
  · exact fun _ => textless_updateOne fun _ => ⟨rfl, rfl⟩
  · exact fun _ parentId => textless_dropReply parentId

end Writes

section Commit

variable {state next : EditState} {args : EditArgs} {before : Message} {doomed : List EditHistoryId}

/-- The entries a commit chooses from: those of the message with the new one. -/
def entries (state : EditState) (args : EditArgs) (before : Message) : List EditHistoryRow :=
  historyOf state.history args.msgId ++ [args.historyRow before]

theorem mem_historyOf {history : Table EditHistoryRow EditHistoryRow.id} {messageId : MessageId}
    {row : EditHistoryRow} :
    row ∈ historyOf history messageId ↔ row ∈ history ∧ row.messageId = messageId := by
  simp [historyOf, Table.mem_def]

section

variable (committed : state.commit args before doomed = some next)

include committed

theorem commit_eq_some :
    (∀ old ∈ state.history, old.id ≠ args.historyId) ∧
      next.messages = state.messages.updateOne args.msgId
        (Message.edit · args.content args.contentPlain args.mentions args.editedAt)
        (fun _ => rfl) ∧
      next.history.rows = (args.historyRow before :: state.history.rows).filter
        (fun row => decide (row.id ∉ doomed)) ∧
      next.locked = state.locked ∧
      next.edits =
        state.edits ++ ((state.messages.findUnique args.msgId).map args.edit).toList := by
  obtain ⟨inserted, insertedEq, rfl⟩ := Option.map_eq_some_iff.mp committed
  obtain ⟨fresh, rows⟩ := Table.insert?_eq_some_iff.mp insertedEq
  refine ⟨fresh, rfl, ?_, rfl, rfl⟩
  simp only [Table.deleteMany, rows, decide_not]

/-- The entries of the message lose the doomed ones. -/
theorem historyOf_commit :
    historyOf next.history args.msgId =
      (entries state args before).filter fun row => decide (row.id ∉ doomed) := by
  obtain ⟨-, -, rows, -, -⟩ := commit_eq_some committed
  have own : (args.historyRow before).messageId == args.msgId := by simp [EditArgs.historyRow]
  rw [historyOf, rows, filter_comm, filter_cons, if_pos own, entries, historyOf,
    ← reverse_cons, filter_reverse]

/-- The entries of other messages stay. -/
theorem historyOf_commit_other
    (chosen : ∀ id ∈ doomed, ∃ row ∈ entries state args before, row.id = id) {other : MessageId}
    (different : other ≠ args.msgId) :
    historyOf next.history other = historyOf state.history other := by
  obtain ⟨fresh, -, rows, -, -⟩ := commit_eq_some committed
  have foreign : ((args.historyRow before).messageId == other) = false := by
    simpa [EditArgs.historyRow] using fun same : args.msgId = other => different same.symm
  rw [historyOf, rows, filter_comm, filter_cons, if_neg (by simp [foreign]), historyOf]
  congr 1
  apply filter_eq_self.mpr
  intro row rowMem
  obtain ⟨present, about⟩ := mem_filter.mp rowMem
  have aboutOther : row.messageId = other := by simpa using about
  simp only [decide_eq_true_eq]
  intro isDoomed
  obtain ⟨own, ownMem, sameId⟩ := chosen row.id isDoomed
  rcases mem_append.mp ownMem with old | new
  · obtain ⟨ownPresent, aboutOwn⟩ := mem_historyOf.mp old
    obtain rfl := Table.eq_of_key_eq ownPresent present sameId
    exact different (aboutOther.symm.trans aboutOwn)
  · obtain rfl := mem_singleton.mp new
    exact fresh row present sameId.symm

/-- The ids of the entries are different. -/
theorem nodup_entries : ((entries state args before).map (·.id)).Nodup := by
  obtain ⟨fresh, -, -, -, -⟩ := commit_eq_some committed
  have old : ((historyOf state.history args.msgId).map (·.id)).Nodup := by
    rw [historyOf, map_reverse, nodup_reverse]
    exact state.history.keysNodup.sublist (filter_sublist.map _)
  rw [entries, map_append, nodup_append]
  refine ⟨old, nodup_singleton _, ?_⟩
  intro id idMem newId newMem same
  obtain ⟨row, rowMem, rfl⟩ := mem_map.mp idMem
  obtain rfl := mem_singleton.mp newMem
  exact fresh row (mem_historyOf.mp rowMem).1 same

theorem editsOf_commit {stored : Message} (present : stored ∈ state.messages)
    (sameId : stored.id = args.msgId) (messageId : MessageId) :
    editsOf next.edits messageId =
      editsOf state.edits messageId ++ if messageId = args.msgId then [args.edit stored] else [] := by
  obtain ⟨-, -, -, -, edits⟩ := commit_eq_some committed
  rw [edits, findUnique_eq_some_iff.mpr ⟨present, sameId⟩, editsOf, filter_append]
  congr 1
  by_cases same : messageId = args.msgId
  · simp [EditArgs.edit, same]
  have different : (args.msgId == messageId) = false := by
    simpa using fun equal => same equal.symm
  simp [EditArgs.edit, same, different]

/-- After a commit the row of the message is one version on, and the others are as they were. -/
theorem mem_commit {row : Message} :
    row ∈ next.messages ↔ ∃ message ∈ state.messages, (if message.id = args.msgId then
      message.edit args.content args.contentPlain args.mentions args.editedAt else message) = row := by
  obtain ⟨-, messages, -, -, -⟩ := commit_eq_some committed
  rw [messages]
  exact mem_rewrite

theorem grows_commit :
    Grows state.messages next.messages := by
  intro message present
  refine ⟨_, (mem_commit committed).mpr ⟨message, present, rfl⟩, ?_⟩
  split
  · exact ⟨rfl, .inl (Nat.lt_succ_self message.version)⟩
  · exact ⟨rfl, .inr ⟨rfl, rfl⟩⟩

theorem keeps_commit (chosen : ∀ id ∈ doomed, ∃ row ∈ entries state args before, row.id = id)
    {other : MessageId} (different : other ≠ args.msgId) : Keeps state next other where
  row := by
    intro message present sameId
    have kept : message.id ≠ args.msgId := sameId ▸ different
    exact ⟨message, (mem_commit committed).mpr ⟨message, present, if_neg kept⟩, sameId, rfl⟩
  history := historyOf_commit_other committed chosen different

theorem known_commit (matched : Matched state.messages args) (known : Known state) :
    Known next := by
  have stays : ∀ messageId, (∃ message ∈ state.messages, message.id = messageId) →
      ∃ message ∈ next.messages, message.id = messageId := by
    rintro messageId ⟨message, present, rfl⟩
    obtain ⟨row, rowMem, rowId, -⟩ := grows_commit committed message present
    exact ⟨row, rowMem, rowId⟩
  obtain ⟨stored, present, sameId, -⟩ := matched
  obtain ⟨-, -, rows, -, edits⟩ := commit_eq_some committed
  constructor
  · intro edit editMem
    rw [edits, findUnique_eq_some_iff.mpr ⟨present, sameId⟩] at editMem
    rcases mem_append.mp editMem with old | new
    · exact stays _ (known.edits edit old)
    obtain rfl := mem_singleton.mp new
    exact stays _ ⟨stored, present, sameId⟩
  · intro row rowMem
    rw [Table.mem_def, rows] at rowMem
    rcases mem_cons.mp (mem_of_mem_filter rowMem) with rfl | old
    · exact stays _ ⟨stored, present, sameId⟩
    · exact stays _ (known.history row old)

/-- A commit at the matched version loses no edit. -/
theorem noLostEdit_commit (matched : Matched state.messages args) (noLost : NoLostEdit state) :
    NoLostEdit next := by
  obtain ⟨stored, present, sameId, version⟩ := matched
  obtain ⟨-, -, -, -, edits⟩ := commit_eq_some committed
  constructor
  · intro edit editMem
    rw [edits, findUnique_eq_some_iff.mpr ⟨present, sameId⟩] at editMem
    rcases mem_append.mp editMem with old | new
    · exact noLost.expected edit old
    obtain rfl := mem_singleton.mp new
    exact version.symm
  · intro row rowMem
    obtain ⟨message, messageMem, rfl⟩ := (mem_commit committed).mp rowMem
    have versions := noLost.versions message messageMem
    rw [editsOf_commit committed present sameId, map_append]
    by_cases same : message.id = args.msgId
    · obtain rfl := Table.eq_of_key_eq messageMem present (same.trans sameId.symm)
      simp only [if_pos same, Message.edit]
      rw [versions, range_succ]
      rfl
    · simp only [if_neg same, map_nil, append_nil]
      exact versions

/-- Entries in the order of their versions lose the first ones. -/
theorem historyOf_commit_sorted
    (sorted : (entries state args before).Pairwise fun first second => first.version ≤
      second.version) {excess : Nat}
    (chosen : doomed = ((byVersion (entries state args before)).take excess).map (·.id)) :
    historyOf next.history args.msgId = (entries state args before).drop excess := by
  have inOrder : byVersion (entries state args before) = entries state args before :=
    Pairwise.insertionSort_eq sorted
  rw [historyOf_commit committed, chosen, inOrder]
  exact filter_notMem_take (nodup_entries committed) excess

end

/-- The doomed entries are among those of the message. -/
theorem chosen_of_ready (ready : (commit args before doomed).Ready state) :
    ∀ id ∈ doomed, ∃ row ∈ entries state args before, row.id = id := by
  obtain ⟨-, -, rfl⟩ := ready
  intro id idMem
  obtain ⟨row, rowMem, sameId⟩ := mem_map.mp idMem
  exact ⟨row, (mem_insertionSort _).mp (mem_of_mem_take rowMem), sameId⟩

variable (committed : state.commit args before doomed = some next)

include committed

/-- The history stays exact when the read before saw the version that is overwritten. -/
theorem exactHistory_own (ready : (commit args before doomed).Ready state)
    (noLost : NoLostEdit state) (exact : ExactHistory state)
    (current : before.version = args.expectedVersion) {stored : Message}
    (present : stored ∈ state.messages) (sameId : stored.id = args.msgId)
    (version : stored.version = args.expectedVersion) :
    (historyOf next.history args.msgId).map (·.snapshot) =
        ((editsOf next.edits args.msgId).rtake editHistoryCap).map (·.snapshot) ∧
      (historyOf next.history args.msgId).map (·.version) =
        (List.range (stored.version + 1)).rtake editHistoryCap := by
  obtain ⟨-, ⟨seen, seenMem, seenId, old⟩, chosen⟩ := ready
  obtain rfl := Table.eq_of_key_eq seenMem present (seenId.trans sameId.symm)
  obtain ⟨snapshots, versions⟩ := exact seen present
  have counted := noLost.versions seen present
  rw [sameId] at snapshots versions counted
  have sameText : before.contentPlain = seen.contentPlain := by
    rcases old with older | ⟨-, sameText⟩
    · omega
    · exact sameText
  have sameSnapshot : (args.historyRow before).snapshot = (args.edit seen).snapshot := by
    simp [EditHistoryRow.snapshot, EditArgs.historyRow, Edit.snapshot, EditArgs.edit, sameText,
      current, version]
  have sorted : (entries state args before).Pairwise fun first second =>
      first.version ≤ second.version := by
    have among : ∀ row ∈ historyOf state.history args.msgId, row.version < seen.version := by
      intro row rowMem
      have inRange : row.version ∈ (List.range seen.version).rtake editHistoryCap :=
        versions ▸ mem_map_of_mem rowMem
      exact mem_range.mp (mem_of_mem_drop inRange)
    refine pairwise_append.mpr ⟨?_, pairwise_singleton _ _, ?_⟩
    · have ordered : ((List.range seen.version).rtake editHistoryCap).Pairwise (· ≤ ·) :=
        pairwise_le_range.sublist (drop_sublist _ _)
      rw [← versions] at ordered
      exact pairwise_map.mp ordered
    · intro row rowMem new newMem
      obtain rfl := mem_singleton.mp newMem
      have below := among row rowMem
      change row.version ≤ before.version
      omega
  have kept := historyOf_commit_sorted committed sorted chosen
  constructor
  · have length : (historyOf state.history args.msgId).length =
        (((editsOf state.edits args.msgId).map (·.snapshot)).rtake editHistoryCap).length := by
      rw [← length_map, snapshots]
      simp [List.rtake, map_drop]
    have taken : ((editsOf state.edits args.msgId).rtake editHistoryCap).map (·.snapshot) =
        ((editsOf state.edits args.msgId).map (·.snapshot)).rtake editHistoryCap := by
      simp [List.rtake, map_drop]
    rw [kept, map_drop, entries, map_append, snapshots, taken, length,
      map_singleton, sameSnapshot, drop_rtake_concat, editsOf_commit committed present sameId,
      if_pos rfl]
    simp [List.rtake, map_drop]
  · have length : (historyOf state.history args.msgId).length =
        ((List.range seen.version).rtake editHistoryCap).length := by
      rw [← versions, length_map]
    have newVersion : (args.historyRow before).version = seen.version := current.trans version.symm
    rw [kept, map_drop, entries, map_append, versions, length, map_singleton,
      newVersion, drop_rtake_concat, range_succ]

/-- The history stays exact only then: otherwise the version that is overwritten is missing. -/
theorem current_of_exactHistory (exact : ExactHistory state) (exactNext : ExactHistory next)
    {stored : Message} (present : stored ∈ state.messages) (sameId : stored.id = args.msgId)
    (version : stored.version = args.expectedVersion) :
    before.version = args.expectedVersion := by
  have versions := (exact stored present).2
  have row : stored.edit args.content args.contentPlain args.mentions args.editedAt ∈
      next.messages := (mem_commit committed).mpr ⟨stored, present, if_pos sameId⟩
  have versionsNext := (exactNext _ row).2
  change (historyOf next.history stored.id).map (·.version) =
    (List.range (stored.version + 1)).rtake editHistoryCap at versionsNext
  rw [sameId] at versions versionsNext
  have latest : stored.version ∈ (historyOf next.history args.msgId).map (·.version) := by
    rw [versionsNext, range_succ, editHistoryCap, rtake_concat_succ]
    exact mem_append_right _ (mem_singleton_self _)
  obtain ⟨entry, entryMem, entryVersion⟩ := mem_map.mp latest
  rw [historyOf_commit committed] at entryMem
  rcases mem_append.mp (mem_of_mem_filter entryMem) with old | new
  · have inRange : entry.version ∈ (List.range stored.version).rtake editHistoryCap :=
      versions ▸ mem_map_of_mem old
    have below := mem_range.mp (mem_of_mem_drop inRange)
    omega
  · obtain rfl := mem_singleton.mp new
    exact entryVersion.trans version

theorem exactHistory_commit_iff (ready : (commit args before doomed).Ready state)
    (noLost : NoLostEdit state) (exact : ExactHistory state) :
    ExactHistory next ↔ before.version = args.expectedVersion := by
  obtain ⟨stored, present, sameId, version⟩ := ready.1
  constructor
  · intro exactNext
    exact current_of_exactHistory committed exact exactNext present sameId version
  · intro current row rowMem
    obtain ⟨message, messageMem, rfl⟩ := (mem_commit committed).mp rowMem
    by_cases same : message.id = args.msgId
    · obtain rfl := Table.eq_of_key_eq messageMem present (same.trans sameId.symm)
      have own := exactHistory_own committed ready noLost exact current present sameId version
      rw [if_pos same]
      change (historyOf next.history message.id).map (·.snapshot) =
          ((editsOf next.edits message.id).rtake editHistoryCap).map (·.snapshot) ∧
        (historyOf next.history message.id).map (·.version) =
          (List.range (message.version + 1)).rtake editHistoryCap
      rw [same]
      exact own
    · rw [if_neg same, historyOf_commit_other committed (chosen_of_ready ready) same,
        editsOf_commit committed present sameId, if_neg same, append_nil]
      exact exact message messageMem

end Commit

section Sends

variable {state : EditState} {later : MessageTable}

/-- The state after a write of messages that touches no version and no text. -/
abbrev EditState.withMessages (state : EditState) (later : MessageTable) : EditState :=
  { state with messages := later }

theorem Textless.grows {messages : MessageTable} (textless : Textless messages later) :
    Grows messages later := by
  intro message present
  obtain ⟨row, rowMem, sameId, sameVersion, sameText⟩ := textless.rows message present
  exact ⟨row, rowMem, sameId, .inr ⟨sameVersion.symm, sameText.symm⟩⟩

section

variable (textless : Textless state.messages later)

include textless

theorem Textless.keeps (messageId : MessageId) :
    Keeps state (state.withMessages later) messageId where
  row := by
    intro message present sameId
    obtain ⟨row, rowMem, rowId, sameVersion, -⟩ := textless.rows message present
    exact ⟨row, rowMem, rowId.trans sameId, sameVersion⟩
  history := rfl

theorem Textless.known (known : Known state) : Known (state.withMessages later) where
  edits := by
    intro edit editMem
    obtain ⟨message, present, sameId⟩ := known.edits edit editMem
    obtain ⟨row, rowMem, rowId, -⟩ := textless.rows message present
    exact ⟨row, rowMem, rowId.trans sameId⟩
  history := by
    intro entry entryMem
    obtain ⟨message, present, sameId⟩ := known.history entry entryMem
    obtain ⟨row, rowMem, rowId, -⟩ := textless.rows message present
    exact ⟨row, rowMem, rowId.trans sameId⟩

omit textless in
/-- A new message has no edits and no entries. -/
theorem Known.none_of_fresh (known : Known state) {messageId : MessageId}
    (fresh : ∀ message ∈ state.messages, message.id ≠ messageId) :
    editsOf state.edits messageId = [] ∧ historyOf state.history messageId = [] := by
  constructor
  · refine filter_eq_nil_iff.mpr fun edit editMem about => ?_
    obtain ⟨message, present, sameId⟩ := known.edits edit editMem
    exact fresh message present (sameId.trans (by simpa using about))
  · refine eq_nil_iff_forall_not_mem.mpr fun row rowMem => ?_
    obtain ⟨present, about⟩ := mem_historyOf.mp rowMem
    obtain ⟨message, messageMem, sameId⟩ := known.history row present
    exact fresh message messageMem (sameId.trans about)

theorem Textless.noLostEdit (known : Known state) (noLost : NoLostEdit state) :
    NoLostEdit (state.withMessages later) where
  expected := noLost.expected
  versions := by
    intro row rowMem
    rcases textless.origin row rowMem with ⟨message, present, sameId, sameVersion⟩ | ⟨zero, fresh⟩
    · have versions := noLost.versions message present
      rwa [sameId, sameVersion] at versions
    · rw [(known.none_of_fresh fresh).1, zero]
      rfl

theorem Textless.exactHistory (known : Known state) (exact : ExactHistory state) :
    ExactHistory (state.withMessages later) := by
  intro row rowMem
  rcases textless.origin row rowMem with ⟨message, present, sameId, sameVersion⟩ | ⟨zero, fresh⟩
  · have old := exact message present
    rwa [sameId, sameVersion] at old
  · obtain ⟨noEdits, noEntries⟩ := known.none_of_fresh fresh
    rw [noEdits, noEntries, zero]
    exact ⟨rfl, rfl⟩

end

theorem textless_after (input : EditInput) :
    Textless state.messages (input.after state).messages := by
  cases input with
  | send row =>
    cases sent : sendMessage state.messages row with
    | error _ => simpa [EditInput.after, sent, Except.toOption] using Textless.refl state.messages
    | ok next => simpa [EditInput.after, sent, Except.toOption] using textless_sendMessage sent
  | _ => exact Textless.refl state.messages

theorem after_eq (input : EditInput) :
    input.after state = state.withMessages (input.after state).messages := by
  cases input <;> rfl

end Sends

section Steps

variable {state next : EditState} {before after : List EditTask} {task : EditTask}

/-- What the other transactions see of a step: rows grow, and nothing happens to a message they
have locked. -/
theorem ready_others (held : EditsHeld ⟨state, before ++ task :: after⟩)
    (grows : Grows state.messages next.messages)
    (keeps : ∀ messageId, task.holds ≠ some messageId → Keeps state next messageId)
    {waiting : EditTask} (waits : waiting ∈ before ++ after) : waiting.Ready next := by
  apply (held.ready waiting (mem_pending.mpr (.inr waits))).keeps grows
  intro messageId waitingHolds
  apply keeps
  intro taskHolds
  exact held.exclusive.ne_of_waits taskHolds waits waitingHolds

theorem Keeps.refl (state : EditState) (messageId : MessageId) : Keeps state state messageId where
  row := fun message present sameId => ⟨message, present, sameId, rfl⟩
  history := rfl

theorem Grows.refl (messages : MessageTable) : Grows messages messages :=
  fun message present => ⟨message, present, rfl, .inr ⟨rfl, rfl⟩⟩

section

variable (held : EditsHeld ⟨state, before ++ task :: after⟩)

include held

/-- A transaction that goes on without a write. -/
theorem EditsHeld.continue {new : EditTask} (same : new.holds = task.holds)
    (ready : new.Ready state) :
    EditsHeld ⟨state, before ++ [new] ++ after⟩ where
  exclusive := held.exclusive.resume_held same
  ready := by
    intro other otherMem
    rcases mem_resumed.mp otherMem with waits | isNew
    · exact held.ready other (mem_pending.mpr (.inr waits))
    obtain rfl := mem_singleton.mp isNew
    exact ready
  known := held.known
  noLostEdit := held.noLostEdit

/-- A transaction that ends without the lock, and without a write of versions. -/
theorem EditsHeld.finish {later : MessageTable} (textless : Textless state.messages later) :
    EditsHeld ⟨state.withMessages later, before ++ [] ++ after⟩ where
  exclusive := held.exclusive.resume_free fun _ new => nomatch new
  ready := by
    intro other otherMem
    rcases mem_resumed.mp otherMem with waits | isNew
    · exact ready_others held textless.grows (fun messageId _ => textless.keeps messageId) waits
    · cases isNew
  known := textless.known held.known
  noLostEdit := textless.noLostEdit held.known held.noLostEdit

/-- A transaction that ends, gives its lock back and may have written its message. -/
theorem EditsHeld.unlock {messageId : MessageId} (holds : task.holds = some messageId)
    (grows : Grows state.messages next.messages)
    (keeps : ∀ other, other ≠ messageId → Keeps state next other)
    (locked : next.locked = state.locked) (known : Known next) (noLost : NoLostEdit next) :
    EditsHeld ⟨next.unlock messageId, before ++ [] ++ after⟩ where
  exclusive := by
    change Exclusive _ (next.locked.erase messageId) _
    rw [locked]
    exact held.exclusive.release holds
  ready := by
    intro other otherMem
    rcases mem_resumed.mp otherMem with waits | isNew
    · have ready : other.Ready next := by
        refine ready_others held grows (fun otherId different => keeps otherId ?_) waits
        rintro rfl
        exact different holds
      cases other <;> exact ready
    · cases isNew
  known := ⟨known.edits, known.history⟩
  noLostEdit := ⟨noLost.expected, noLost.versions⟩

theorem EditsHeld.abort {messageId : MessageId} (holds : task.holds = some messageId) :
    EditsHeld ⟨state.unlock messageId, before ++ [] ++ after⟩ :=
  held.unlock holds (Grows.refl _) (fun other _ => Keeps.refl state other) rfl held.known
    held.noLostEdit

end

theorem findInChannel_eq_some {messages : MessageTable} {args : EditArgs} {row : Message}
    (found : findInChannel messages args = some row) : row ∈ messages ∧ row.id = args.msgId :=
  findUnique_eq_some_iff.mp (Option.filter_eq_some_iff.mp found).1

theorem matched_of_compareAndSet {messages : MessageTable} {args : EditArgs}
    {read : Option Message} {stored : Message}
    (succeeded : compareAndSet messages args read = .ok stored) : Matched messages args := by
  unfold compareAndSet at succeeded
  split at succeeded
  next row found =>
    obtain ⟨inChannel, isMatched⟩ := Option.filter_eq_some_iff.mp found
    obtain ⟨present, sameId⟩ := findInChannel_eq_some inChannel
    simp only [Bool.and_eq_true, beq_iff_eq] at isMatched
    exact ⟨row, present, sameId, isMatched.2⟩
  next =>
    split at succeeded
    · cases succeeded
    split at succeeded
    · cases succeeded
    · cases succeeded

theorem editsHeld_resume (held : EditsHeld ⟨state, before ++ task :: after⟩) :
    EditsHeld ⟨(task.resume state).1, before ++ (task.resume state).2 ++ after⟩ := by
  have ready : task.Ready state := held.ready task (mem_pending.mpr (.inl rfl))
  cases task with
  | findBefore args =>
    refine held.continue rfl fun row found => ?_
    obtain ⟨present, sameId⟩ := findInChannel_eq_some found
    exact ⟨row, present, sameId, .inr ⟨rfl, rfl⟩⟩
  | compareAndSet args read =>
    simp only [EditTask.resume]
    split
    next => exact held.finish (Textless.refl _)
    next stored succeeded =>
      split
      next => exact held.continue rfl ready
      next free =>
        refine ⟨held.exclusive.acquire free rfl, ?_, ⟨held.known.edits, held.known.history⟩,
          ⟨held.noLostEdit.expected, held.noLostEdit.versions⟩⟩
        intro other otherMem
        rcases mem_resumed.mp otherMem with waits | isNew
        · have waiting := held.ready other (mem_pending.mpr (.inr waits))
          cases other <;> exact waiting
        · obtain rfl := mem_singleton.mp isNew
          exact ⟨matched_of_compareAndSet succeeded, ready⟩
  | createHistory args read =>
    cases read with
    | none => exact held.abort rfl
    | some row => exact held.continue rfl ⟨ready.1, ready.2 row rfl⟩
  | countHistory args row =>
    simp only [EditTask.resume]
    split
    next => exact held.continue rfl ⟨ready.1, ready.2, rfl⟩
    next below =>
      refine held.continue rfl ⟨ready.1, ready.2, ?_⟩
      have none : (historyOf state.history args.msgId).length + 1 - editHistoryCap = 0 := by
        omega
      rw [none]
      rfl
  | findOldest args row excess =>
    obtain ⟨matched, seen, rfl⟩ := ready
    exact held.continue rfl ⟨matched, seen, rfl⟩
  | commit args row doomed =>
    simp only [EditTask.resume]
    cases committed : state.commit args row doomed with
    | none => exact held.abort rfl
    | some next =>
      have chosen := chosen_of_ready ready
      exact held.unlock rfl (grows_commit committed)
        (fun other different => keeps_commit committed chosen different)
        (commit_eq_some committed).2.2.2.1 (known_commit committed ready.1 held.known)
        (noLostEdit_commit committed ready.1 held.noLostEdit)
  | softDelete channelId msgId deletedAt =>
    simp only [EditTask.resume]
    split
    next => exact held.continue rfl trivial
    next => exact held.finish textless_softDelete

/-- An edit that commits has read the version it expects, before its compare-and-set; an edit
whose entry has an id that is taken is rolled back. -/
def ReadsCurrent (state : State EditState EditTask) :
    Label EditTask EditInput → Prop
  | .resume _ (.commit args before _) _ =>
    (∃ row ∈ state.shared.history, row.id = args.historyId) ∨ before.version = args.expectedVersion
  | _ => True

theorem exactHistory_resume_iff (held : EditsHeld ⟨state, before ++ task :: after⟩)
    (exact : ExactHistory state) :
    ExactHistory (task.resume state).1 ↔
      ReadsCurrent ⟨state, before ++ task :: after⟩ (.resume before task after) := by
  have ready : task.Ready state := held.ready task (mem_pending.mpr (.inl rfl))
  cases task with
  | findBefore args | findOldest args row excess => exact iff_of_true exact trivial
  | compareAndSet args read =>
    refine iff_of_true ?_ trivial
    simp only [EditTask.resume]
    split
    next => exact exact
    next => split <;> exact exact
  | createHistory args read =>
    refine iff_of_true ?_ trivial
    cases read <;> exact exact
  | countHistory args row =>
    refine iff_of_true ?_ trivial
    simp only [EditTask.resume]
    split <;> exact exact
  | commit args row doomed =>
    simp only [EditTask.resume, ReadsCurrent]
    cases committed : state.commit args row doomed with
    | none =>
      refine iff_of_true exact (.inl ?_)
      obtain ⟨old, present, sameId⟩ :=
        Table.insert?_eq_none_iff.mp (Option.map_eq_none_iff.mp committed)
      exact ⟨old, present, sameId⟩
    | some next =>
      have fresh := (commit_eq_some committed).1
      have untaken : ¬∃ old ∈ state.history, old.id = args.historyId := by
        rintro ⟨old, present, sameId⟩
        exact fresh old present sameId
      have kept : ExactHistory next ↔ row.version = args.expectedVersion :=
        exactHistory_commit_iff committed ready held.noLostEdit exact
      rw [or_iff_right untaken]
      exact kept
  | softDelete channelId msgId deletedAt =>
    refine iff_of_true ?_ trivial
    simp only [EditTask.resume]
    split
    next => exact exact
    next => exact textless_softDelete.exactHistory held.known exact

theorem editsHeld_accept {tasks : List EditTask} (held : EditsHeld ⟨state, tasks⟩)
    (input : EditInput) : EditsHeld ⟨input.after state, tasks ++ input.starts⟩ := by
  have starts : ∀ new ∈ input.starts, new.holds = none ∧ ∀ state, new.Ready state := by
    intro new newMem
    cases input with
    | send row => cases newMem
    | _ =>
      obtain rfl := mem_singleton.mp newMem
      exact ⟨rfl, fun _ => trivial⟩
  have textless : Textless state.messages _ := textless_after input
  rw [after_eq input]
  refine ⟨held.exclusive.accept fun new newMem => (starts new newMem).1, ?_,
    textless.known held.known, textless.noLostEdit held.known held.noLostEdit⟩
  intro other otherMem
  rcases mem_append.mp otherMem with waits | isNew
  · exact (held.ready other waits).keeps textless.grows fun messageId _ => textless.keeps messageId
  · exact (starts other isNew).2 _

theorem editsHeld_step {start finish : State EditState EditTask}
    {label : Label EditTask EditInput} (step : Step editLoop start label finish)
    (held : EditsHeld start) : EditsHeld finish := by
  cases step with
  | resume before task after => exact editsHeld_resume held
  | accept accepted =>
    obtain ⟨rfl, rfl⟩ := accepted
    exact editsHeld_accept held _

end Steps

/-- No messages and no requests. -/
def noEdits : State EditState EditTask :=
  ⟨{ messages := MessageTable.empty }, []⟩

theorem editsHeld_noEdits : EditsHeld noEdits where
  exclusive := ⟨Pairwise.nil, fun _ pending => nomatch pending⟩
  ready := fun _ pending => nomatch pending
  known :=
    { edits := fun _ made => (nomatch made)
      history := fun _ made => (nomatch made) }
  noLostEdit :=
    { expected := fun _ made => (nomatch made)
      versions := fun _ present => (nomatch present) }

/-- In every interleaving no edit is lost, and the history is exact all along exactly when every
edit that commits had read the version it expects before its compare-and-set. -/
theorem edits_kept (labels : List (Label EditTask EditInput)) (finish : State EditState EditTask) :
    (Steps (Step editLoop) noEdits labels finish → NoLostEdit finish.shared) ∧
      (Steps (Lawful (Step editLoop) fun state => ExactHistory state.shared) noEdits labels finish ↔
        Steps (Guarded (Step editLoop) ReadsCurrent) noEdits labels finish) := by
  constructor
  · intro steps
    exact (steps.preserves EditsHeld editsHeld_step editsHeld_noEdits).noLostEdit
  · refine Steps.lawful_iff_guarded EditsHeld editsHeld_step ?_ editsHeld_noEdits ?_
    · intro state label next step held exact
      cases step with
      | resume before task after => exact exactHistory_resume_iff held exact
      | accept accepted =>
        obtain ⟨rfl, rfl⟩ := accepted
        refine iff_of_true ?_ trivial
        rw [after_eq]
        exact (textless_after _).exactHistory held.known exact
    · exact fun message present => nomatch present

/-- A message and an edit of it. -/
def draft : SendRow :=
  { id := ⟨1⟩, channelId := ⟨1⟩, authorId := ⟨1⟩, content := "one", contentPlain := "one",
    createdAt := 1 }

def firstEdit : EditArgs :=
  { channelId := ⟨1⟩, msgId := ⟨1⟩, expectedVersion := 0, content := "two", contentPlain := "two",
    editedAt := 2, historyId := ⟨1⟩ }

/-- The next edit of the same client, sent before the first one is answered. -/
def secondEdit : EditArgs :=
  { channelId := ⟨1⟩, msgId := ⟨1⟩, expectedVersion := 1, content := "three",
    contentPlain := "three", editedAt := 3, historyId := ⟨2⟩ }

def draftSent : EditState :=
  (EditInput.send draft).after { messages := .empty }

/-- Both edits have come in. -/
def editsAsked : State EditState EditTask :=
  ⟨draftSent, [.findBefore firstEdit, .findBefore secondEdit]⟩

theorem steps_editsAsked : Steps (Step editLoop) noEdits
    [.accept (.send draft), .accept (.update firstEdit), .accept (.update secondEdit)]
    editsAsked := by
  have sent : Step editLoop noEdits (.accept (.send draft)) ⟨draftSent, []⟩ :=
    .accept ⟨rfl, rfl⟩
  have first : Step editLoop ⟨draftSent, []⟩ (.accept (.update firstEdit))
      ⟨draftSent, [.findBefore firstEdit]⟩ := .accept ⟨rfl, rfl⟩
  have second : Step editLoop ⟨draftSent, [.findBefore firstEdit]⟩
      (.accept (.update secondEdit)) editsAsked := .accept ⟨rfl, rfl⟩
  exact ((Steps.refl.step sent).step first).step second

/-- One edit after the other. -/
theorem edits_in_turn : NoLostEdit (editLoop.runFirst 10 editsAsked).shared ∧
    (editLoop.runFirst 10 editsAsked).shared.edits.length = 2 := by
  obtain ⟨labels, steps⟩ := exists_steps_runFirst 10 steps_editsAsked
  exact ⟨(edits_kept labels _).1 steps, by decide +kernel⟩

/-- An edit that reads the row before another one commits and compares after it keeps the
wrong version: version 0 is in the history twice, and version 1 is missing. -/
theorem history_of_early_read : ∃ labels finish,
    Steps (Step editLoop) noEdits labels finish ∧ finish.tasks = [] ∧
      ¬ExactHistory finish.shared := by
  obtain ⟨labels, steps⟩ := editLoop.exists_steps_played
    (fun state input => (input.after state, input.starts)) (fun _ _ => true) editsAsked
    (fun _ _ _ => ⟨rfl, rfl⟩) steps_editsAsked (.run 1 :: List.replicate 9 (.run 0)) rfl
  refine ⟨labels, _, steps, by decide +kernel, fun exact => ?_⟩
  exact absurd (exact _ (.head _)).2 (by decide +kernel)

end Bongtalk.Messages
