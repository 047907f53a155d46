import Bongtalk.Queue.ReminderFire

/-!
# Saved messages that are deleted

A deletion marks the rows that are there when it runs. A `save` looks at the message first and
inserts its row later, without looking again.
-/

namespace Bongtalk.Me

open Library EventLoop Messages Prisma

/-- The saved rows of deleted messages are marked, and neither a list nor a reminder shows more
of such a message than the placeholder. -/
structure HidesDeleted (state : SavedState) : Prop where
  marked : ∀ row ∈ state.saved, ∀ message ∈ state.messages, message.id = row.messageId →
    message.deletedAt ≠ none → row.messageDeletedAt ≠ none
  listed : ∀ casts args response, state.list casts args = .ok response →
    ∀ item ∈ response.items, ∀ message ∈ state.messages, message.id = item.messageId →
      message.deletedAt ≠ none → item.excerpt = deletedPlaceholder
  reminded : ∀ savedMessageId userId payload,
    Queue.notification state savedMessageId userId = some payload →
      ∀ message ∈ state.messages, message.id = payload.messageId →
        message.deletedAt ≠ none → payload.messagePreview = deletedPlaceholder

/-- The message of a save that inserts its row is not deleted. -/
def InsertsLive (state : SavedState) : SavedTask → Prop
  | .create args => state.saved.Taken args.row ∨
      ∀ message ∈ state.messages, message.id = args.messageId → message.deletedAt = none
  | _ => True

section Marks

variable {state next : SavedState}

/-- What is shown follows the marks. -/
theorem hidesDeleted_iff : HidesDeleted state ↔
    ∀ row ∈ state.saved, ∀ message ∈ state.messages, message.id = row.messageId →
      message.deletedAt ≠ none → row.messageDeletedAt ≠ none := by
  constructor
  · exact HidesDeleted.marked
  · intro marked
    refine ⟨marked, ?_, ?_⟩
    · intro casts args response listed item shown message present same deleted
      obtain ⟨row, rowMem, -, joined, joinedEq, rfl⟩ := SavedState.exists_of_mem_list listed shown
      obtain ⟨rfl, -⟩ := SavedState.join_eq_some_iff.mp joinedEq
      have isMarked := marked joined.row rowMem message present same deleted
      exact if_pos (Option.isSome_iff_ne_none.mpr isMarked)
    · intro savedMessageId userId payload notified message present same deleted
      obtain ⟨fireRow, fires, rfl⟩ := Option.map_eq_some_iff.mp notified
      obtain ⟨row, found, rfl⟩ := Option.map_eq_some_iff.mp (Option.filter_eq_some_iff.mp fires).1
      have rowMem := (Table.mem_of_findUnique (Option.filter_eq_some_iff.mp found).1).1
      have isMarked := marked row rowMem message present same deleted
      refine if_pos (Bool.or_eq_true_iff.mpr (.inl ?_))
      exact Option.isSome_iff_ne_none.mpr isMarked

/-- A step hides what is deleted if each row and each deleted message of the next state goes back
to earlier ones, unless the row is marked. -/
theorem HidesDeleted.of_writes (hides : HidesDeleted state)
    (rows : ∀ row ∈ next.saved, ∀ message ∈ next.messages, message.id = row.messageId →
      message.deletedAt ≠ none → row.messageDeletedAt ≠ none ∨
        ∃ old ∈ state.saved, (old.messageDeletedAt ≠ none → row.messageDeletedAt ≠ none) ∧
          ∃ earlier ∈ state.messages, earlier.id = old.messageId ∧ earlier.deletedAt ≠ none) :
    HidesDeleted next := by
  refine hidesDeleted_iff.mpr fun row rowMem message present same deleted => ?_
  rcases rows row rowMem message present same deleted with marked | goesBack
  · exact marked
  obtain ⟨old, oldMem, keeps, earlier, earlierMem, earlierSame, earlierDeleted⟩ := goesBack
  exact keeps (hides.marked old oldMem earlier earlierMem earlierSame earlierDeleted)

/-- Writes that delete some messages, and leave the others as they were. -/
def DeletesOnly (messageIds : List MessageId) (messages next : MessageTable) : Prop :=
  ∀ message ∈ next, message.deletedAt ≠ none →
    message.id ∈ messageIds ∨ ∃ old ∈ messages, old.id = message.id ∧ old.deletedAt ≠ none

variable {messageIds : List MessageId} (messages : MessageTable) (channelId : ChannelId)

theorem DeletesOnly.trans {first second third : MessageTable}
    (before : DeletesOnly messageIds first second) (after : DeletesOnly messageIds second third) :
    DeletesOnly messageIds first third := by
  intro message present deleted
  rcases after message present deleted with among | ⟨old, oldMem, same, oldDeleted⟩
  · exact .inl among
  rw [← same]
  exact before old oldMem oldDeleted

theorem deletesOnly_softDelete (msgId : MessageId) (deletedAt : DateTime) :
    DeletesOnly [msgId] messages (softDelete messages channelId msgId deletedAt) := by
  refine softDelete_writes (DeletesOnly [msgId]) ?_ DeletesOnly.trans ?_ ?_ messages channelId
  · exact fun messages message present deleted => .inr ⟨message, present, rfl, deleted⟩
  · intro messages message present deleted
    obtain ⟨old, oldMem, rfl⟩ := MessageTable.mem_rewrite.mp present
    split at deleted
    next isTarget =>
      rw [if_pos isTarget]
      exact .inl (List.mem_singleton.mpr isTarget)
    next other =>
      rw [if_neg other]
      exact .inr ⟨old, oldMem, rfl, deleted⟩
  · intro messages parentId message present deleted
    obtain ⟨old, oldMem, rfl⟩ := MessageTable.mem_rewrite.mp present
    refine .inr ⟨old, oldMem, ?_, ?_⟩
    · split
      · exact (congrArg Prod.fst (identity_dropReply old)).symm
      · rfl
    · split at deleted
      · rwa [deletedAt_dropReply] at deleted
      · exact deleted

theorem deletesOnly_bulkUpdate (targetIds : List MessageId) (deletedAt : DateTime) :
    DeletesOnly targetIds messages (bulkUpdate messages channelId targetIds deletedAt) := by
  intro message present deleted
  obtain ⟨old, oldMem, rfl⟩ := MessageTable.mem_rewrite.mp present
  split at deleted
  next isTarget =>
    rw [if_pos isTarget]
    exact .inl isTarget.1
  next other =>
    rw [if_neg other]
    exact .inr ⟨old, oldMem, rfl, deleted⟩

variable (hides : HidesDeleted state)

include hides

/-- A transaction that deletes messages marks the rows for them. -/
theorem HidesDeleted.delete {deletedAt : DateTime}
    (deletes : DeletesOnly messageIds state.messages next.messages)
    (marks : next.saved = state.saved.markDeleted messageIds deletedAt) : HidesDeleted next := by
  refine hides.of_writes fun row rowMem message present same deleted => ?_
  rw [marks] at rowMem
  obtain ⟨old, oldMem, sameMessage, keeps⟩ := SavedTable.exists_of_mem_markDeleted rowMem
  rcases deletes message present deleted with among | ⟨earlier, earlierMem, earlierSame, gone⟩
  · exact .inl (keeps (.inr (same ▸ among)))
  refine .inr ⟨old, oldMem, fun marked => keeps (.inl marked), earlier, earlierMem, ?_, gone⟩
  rw [earlierSame, same, sameMessage]

theorem HidesDeleted.of_same (saved : next.saved = state.saved)
    (messages : next.messages = state.messages) : HidesDeleted next := by
  rw [hidesDeleted_iff, saved, messages]
  exact hides.marked

/-- An insert keeps the law exactly when the message is not deleted. -/
theorem hidesDeleted_create (args : SaveArgs) :
    HidesDeleted ((SavedTask.create args).resume state).1 ↔ InsertsLive state (.create args) := by
  rw [SavedTask.resume, InsertsLive]
  rcases SavedState.create_cases args.row with
    ⟨taken, created⟩ | ⟨-, absent, created⟩ | ⟨free, created⟩
  · rw [created]
    exact iff_of_true hides (.inl taken)
  · rw [created]
    refine iff_of_true (hides.of_same rfl rfl) (.inr fun message present same => ?_)
    exact absurd same (absent message present)
  · rw [created, or_iff_right free, hidesDeleted_iff]
    constructor
    · intro marked message present same
      by_contra deleted
      have inserted : args.row ∈ state.saved.insert args.row free :=
        (SavedTable.mem_insert free).mpr (.inl rfl)
      exact marked args.row inserted message present same deleted rfl
    · intro live row rowMem message present same deleted
      rcases (SavedTable.mem_insert free).mp rowMem with rfl | oldMem
      · exact absurd (live message present same) deleted
      · exact hides.marked row oldMem message present same deleted

/-- A step keeps the law exactly when it inserts no row for a deleted message. -/
theorem hidesDeleted_resume (task : SavedTask) :
    HidesDeleted (task.resume state).1 ↔ InsertsLive state task := by
  cases task with
  | create args => exact hidesDeleted_create hides args
  | softDelete channelId msgId deletedAt =>
    refine iff_of_true ?_ trivial
    rw [SavedTask.resume, SavedState.softDelete]
    split
    · exact hides.delete (deletesOnly_softDelete state.messages channelId msgId deletedAt) rfl
    · exact hides
  | bulkUpdate channelId targetIds deletedAt =>
    refine iff_of_true ?_ trivial
    exact hides.delete (deletesOnly_bulkUpdate state.messages channelId targetIds deletedAt) rfl
  | findUnique args | assertVisible args | count args | findAgain args =>
    refine iff_of_true ?_ trivial
    rw [SavedTask.resume]
    split <;> exact hides.of_same rfl rfl
  | bulkFind args =>
    refine iff_of_true ?_ trivial
    rw [SavedTask.resume]
    split
    · exact hides.of_same rfl rfl
    · split <;> exact hides

end Marks

/-- What is deleted stays hidden in every state, along the runs in which no save inserts its row
after the message was deleted. -/
theorem deleted_stays_hidden_iff (start : SavedState) (initially : HidesDeleted start)
    (labels : List (Label SavedTask SavedInput))
    (finish : State SavedState SavedTask) :
    Steps (Lawful (Step savedLoop) fun state => HidesDeleted state.shared)
        ⟨start, []⟩ labels finish ↔
      Steps (Guarded (Step savedLoop) (OnResume InsertsLive)) ⟨start, []⟩ labels finish := by
  have free {state next : SavedState} {spawned : List SavedTask} :
      Keeps (fun _ => True) (fun _ _ => True) state next spawned :=
    ⟨trivial, fun _ _ => trivial, fun _ _ => trivial⟩
  have keeps {state : SavedState} {task : SavedTask} (_ : True) (_ : True)
      (hides : HidesDeleted state) :
      HidesDeleted (savedLoop.resume state task).1 ↔ InsertsLive state task :=
    hidesDeleted_resume hides task
  refine lawful_iff_guarded (fun _ _ => free) (fun _ _ => free) keeps ?_ trivial initially
  rintro state input next spawned ⟨rfl, rfl⟩ hides
  exact hides

/-- A public channel with one message, and nothing saved. -/
def savedExample : SavedState where
  db := .withoutRoles (.single ⟨⟨1⟩, ⟨2⟩, .member⟩)
    (.single { id := ⟨1⟩, workspaceId := some ⟨1⟩, name := "hall", position := 0, createdAt := 0 })
    .empty
  messages := .single {
    id := ⟨1⟩
    channelId := ⟨1⟩
    authorId := ⟨3⟩
    content := "the key is under the mat"
    contentPlain := "the key is under the mat"
    createdAt := 1 } rfl

theorem hidesDeleted_savedExample : HidesDeleted savedExample := by
  refine hidesDeleted_iff.mpr fun row present => ?_
  cases present

def saveExample : SaveArgs := ⟨⟨2⟩, ⟨1⟩, ⟨1⟩, 5⟩

/-- The message is saved, and then deleted. -/
def saveThenDelete : List (Move SavedInput) :=
  [.accept (.save saveExample), .run 0, .run 0, .run 0, .run 0,
    .accept (.softDelete ⟨1⟩ ⟨1⟩ 9), .run 0]

/-- The message is deleted between the check of a save and its insert. -/
def deleteUnderSave : List (Move SavedInput) :=
  [.accept (.save saveExample), .run 0, .run 0, .run 0,
    .accept (.softDelete ⟨1⟩ ⟨1⟩ 9), .run 1, .run 0]

/-- The excerpts of the first page in progress. -/
def excerpts (state : SavedState) : List String :=
  match state.list ⟨fun _ => none, fun _ => none⟩ ⟨⟨2⟩, .inProgress, 20, none, false, 10⟩ with
  | .error _ => []
  | .ok response => response.items.map (·.excerpt)

instance (state : SavedState) (task : SavedTask) : Decidable (InsertsLive state task) :=
  match task with
  | .create _ => inferInstanceAs (Decidable (_ ∨ ∀ message ∈ state.messages.table.rows, _))
  | .findUnique _ | .assertVisible _ | .count _ | .findAgain _ | .softDelete _ _ _ | .bulkFind _
  | .bulkUpdate _ _ _ => .isTrue trivial

/-- A script, whose inserts are of live messages if need be. -/
def passes (guarded : Bool) (state : State SavedState SavedTask) :
    Label SavedTask SavedInput → Bool
  | .resume _ task _ => !guarded || decide (InsertsLive state.shared task)
  | .accept _ => true

def playSaved (guarded : Bool) (moves : List (Move SavedInput)) :
    Option (State SavedState SavedTask) :=
  savedLoop.play (fun state input => (state, input.starts)) (passes guarded)
    ⟨savedExample, []⟩ moves

theorem exists_run_of_playSaved (guarded : Bool) {P : State SavedState SavedTask → Prop}
    (moves : List (Move SavedInput)) (played : ∃ finish ∈ playSaved guarded moves, P finish) :
    ∃ labels finish, Steps (Guarded (Step savedLoop) fun state label =>
        guarded = true → OnResume InsertsLive state label) ⟨savedExample, []⟩ labels finish ∧
      P finish := by
  have accepts (state : State SavedState SavedTask) (input : SavedInput)
      (_ : passes guarded state (.accept input) = true) :
      savedLoop.Accepts state.shared input state.shared input.starts :=
    ⟨rfl, rfl⟩
  refine exists_run_of_play accepts (fun state label passed isGuarded => ?_) id moves played
  cases label with
  | resume before task after => simpa [passes, isGuarded, OnResume] using passed
  | accept input => trivial

/-- A saved message that is deleted is listed with the placeholder. -/
theorem deleted_after_save_hidden : ∃ labels finish,
    Steps (Lawful (Step savedLoop) fun state => HidesDeleted state.shared)
        ⟨savedExample, []⟩ labels finish ∧
      excerpts finish.shared = [deletedPlaceholder] := by
  obtain ⟨labels, finish, steps, hidden⟩ := exists_run_of_playSaved true saveThenDelete
    (P := fun finish => excerpts finish.shared = [deletedPlaceholder]) (by decide +kernel)
  have guarded := steps.mono fun step => And.imp_right (fun inserts => inserts rfl) step
  exact ⟨labels, finish,
    (deleted_stays_hidden_iff savedExample hidesDeleted_savedExample labels finish).mpr guarded, hidden⟩

/-- A message that is deleted under a save is listed with its text. -/
theorem deleted_under_save_shown : HidesDeleted savedExample ∧ ∃ labels finish,
    Steps (Step savedLoop) ⟨savedExample, []⟩ labels finish ∧
      excerpts finish.shared = ["the key is under the mat"] ∧ ¬HidesDeleted finish.shared := by
  refine ⟨hidesDeleted_savedExample, ?_⟩
  obtain ⟨labels, finish, steps, texts, row, rowMem, message, messageMem, same, deleted, noMark⟩ :=
    exists_run_of_playSaved false deleteUnderSave
      (P := fun finish => excerpts finish.shared = ["the key is under the mat"] ∧
        ∃ row ∈ finish.shared.saved.table.rows,
          ∃ message ∈ finish.shared.messages.table.rows, message.id = row.messageId ∧
            message.deletedAt ≠ none ∧ row.messageDeletedAt = none) (by decide +kernel)
  refine ⟨labels, finish, steps.mono And.left, texts, fun hides => ?_⟩
  exact hides.marked row rowMem message messageMem same deleted noMark

end Bongtalk.Me
