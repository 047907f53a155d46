import Bongtalk.Queue.Reminders

/-!
# The steps of a reminder

The row and the job are written one behind the other, and a run of the job marks whatever the
row holds. The steps are in order as long as the job that reads the row is the one for its
reminder, and no call falls between the statements of a run.
-/

namespace Bongtalk.Queue

open Library EventLoop Common Me Messages Prisma ReminderState

/-- A row as `save` creates it. -/
def ReminderState.saved (now : DateTime) (args : SaveArgs) (message : Message)
    (channelName : String) (channelDeleted : Bool) : ReminderState where
  now := now
  savedMessageId := args.savedMessageId
  row := some args.row
  message := message
  channelName := channelName
  channelDeleted := channelDeleted

/-- A setting that is still to fire. -/
structure Owed (state : ReminderState) (setting : Setting) : Prop where
  isSet : state.setting = some setting
  uncompleted : setting.onCompleted = false
  unfired : state.row.any (·.reminderFiredAt.isNone) = true

/-- The job is going to read the row, or has read the setting and is going to mark it. -/
def Reaches (setting : Setting) : JobSlot ReminderRun → Prop
  | some (.delayed _) | some (.active (.read _)) => True
  | some (.active (.mark _ _ read)) => read = some setting
  | some (.active (.emit _ _)) | some (.active .ending) | some .finished | none => False

/-- A call that is going to add the job, or to delete the row. -/
def ReminderTask.Settles : ReminderTask → Prop
  | .scheduleRemove _ _ | .scheduleAdd _ _ | .unsaveCancel | .deleteRow => True
  | .findOwned _ | .update _ | .cancel _ | .readBack _ | .snoozeUntil _ _ | .findSaved => False

instance (state : ReminderState) (setting : Setting) : Decidable (Owed state setting) :=
  decidable_of_iff (state.setting = some setting ∧ setting.onCompleted = false ∧
      state.row.any (·.reminderFiredAt.isNone) = true)
    ⟨fun ⟨isSet, uncompleted, unfired⟩ => ⟨isSet, uncompleted, unfired⟩,
      fun owed => ⟨owed.isSet, owed.uncompleted, owed.unfired⟩⟩

instance (setting : Setting) : DecidablePred (Reaches setting)
  | some (.delayed _) | some (.active (.read _)) => .isTrue trivial
  | some (.active (.mark _ _ read)) => inferInstanceAs (Decidable (read = some setting))
  | some (.active (.emit _ _)) | some (.active .ending) | some .finished | none => .isFalse id

instance : DecidablePred ReminderTask.Settles
  | .scheduleRemove _ _ | .scheduleAdd _ _ | .unsaveCancel | .deleteRow => .isTrue trivial
  | .findOwned _ | .update _ | .cancel _ | .readBack _ | .snoozeUntil _ _ | .findSaved =>
    .isFalse id

/-- The steps in turn. A job that is added finds the id free, or one that still reaches the
reminder of the row. A cancel takes away no job that a later reminder needs. A run of the job that
is going to fire reads the reminder that it was added for, or one whose time has come, and no
other reminder is set until it marks the row. -/
def InTurn (state : State ReminderState ReminderTask) :
    Label ReminderTask ReminderInput → Prop
  | .resume before (.scheduleAdd _ _) after => state.shared.job ≠ none →
      ∀ setting ∈ state.shared.setting, Owed state.shared setting →
        Reaches setting state.shared.job ∨ ∃ waiting ∈ before ++ after, waiting.Settles
  | .resume before (.cancel _) after => state.shared.job.remove ≠ state.shared.job →
      ∀ setting ∈ state.shared.setting, Owed state.shared setting →
        ∃ waiting ∈ before ++ after, waiting.Settles
  | .accept (.process (.read _)) => ∀ row ∈ state.shared.row, row.reminderFiredAt = none →
      row.status ≠ .completed → ∃ setting ∈ state.shared.setting,
        state.shared.jobFor = some setting ∨ setting.time ≤ state.shared.now
  | .accept (.process (.mark _ _ read)) =>
    state.shared.setting = read ∨ state.shared.setting = none
  | _ => True

instance (state : State ReminderState ReminderTask) : DecidablePred (InTurn state)
  | .resume before (.scheduleAdd _ _) after =>
    inferInstanceAs (Decidable (_ → ∀ setting ∈ state.shared.setting, Owed _ setting →
      Reaches setting _ ∨ ∃ waiting ∈ before ++ after, waiting.Settles))
  | .resume before (.cancel _) after =>
    inferInstanceAs (Decidable (_ → ∀ setting ∈ state.shared.setting, Owed _ setting →
      ∃ waiting ∈ before ++ after, waiting.Settles))
  | .accept (.process (.read _)) =>
    inferInstanceAs (Decidable (∀ row ∈ state.shared.row, _ → _ →
      ∃ setting ∈ state.shared.setting, _ ∨ _))
  | .accept (.process (.mark _ _ read)) =>
    inferInstanceAs (Decidable (state.shared.setting = read ∨ _))
  | .resume _ (.findOwned _) _ | .resume _ (.update _) _ | .resume _ (.scheduleRemove _ _) _
  | .resume _ (.readBack _) _ | .resume _ (.snoozeUntil _ _) _ | .resume _ .findSaved _
  | .resume _ .unsaveCancel _ | .resume _ .deleteRow _ | .accept (.update _) | .accept (.snooze _)
  | .accept .unsave | .accept .startJob | .accept (.process (.emit _ _))
  | .accept (.process .ending) | .accept (.tick _) => .isTrue trivial

/-- A run that has read the row, with the setting that it has read. -/
def HasRead (read : Option Setting) (run : ReminderRun) : Prop :=
  (∃ now row, run = .mark now row read) ∨ ∃ row, run = .emit row read

/-- The invariant of the shared state. -/
structure Sound (state : ReminderState) : Prop where
  held : state.row.bind (·.reminderAt) = state.setting.map (·.time)
  /-- A message is not completed without losing its reminder or setting another. -/
  uncompleted : ∀ setting ∈ state.setting, setting.onCompleted = false →
    ∀ row ∈ state.row, row.status ≠ .completed
  numbered : ∀ setting ∈ state.setting, setting.version ≤ state.version
  fires : ∀ fire ∈ state.fires, ∃ setting, fire.setting = some setting ∧
    setting.version ≤ state.version ∧ setting.time ≤ fire.firedAt
  once : (state.fires.map (·.setting)).Nodup
  /-- What the row holds has not fired as long as the row is not marked. -/
  unmarked : ∀ setting ∈ state.setting, ∀ row ∈ state.row, row.reminderFiredAt = none →
    some setting ∉ state.fires.map (·.setting) ∧
      ∀ read, state.job ≠ some (.active (.emit read (some setting)))
  /-- It has fired, or is just about to, when the row is marked. -/
  marked : ∀ setting ∈ state.setting, ∀ row ∈ state.row, row.reminderFiredAt ≠ none →
    some setting ∈ state.fires.map (·.setting) ∨
      ∃ read, state.job = some (.active (.emit read (some setting)))
  running : ∀ run read, state.job = some (.active run) → HasRead read run →
    ∃ setting, read = some setting ∧ setting.version ≤ state.version ∧
      setting.time ≤ state.now ∧ read ∉ state.fires.map (·.setting)
  /-- The job does not run before the time that it was added for. -/
  due : ∀ setting ∈ state.jobFor,
    (∀ due, state.job = some (.delayed due) → setting.time ≤ due) ∧
      ∀ started, state.job = some (.active (.read started)) → setting.time ≤ state.now

section Steps

variable {state : ReminderState}

variable {row : SavedMessage}

theorem fires_join {message : Option Message} {channelName : Option String} :
    (FireRow.join row message channelName).fires = true ↔
      row.reminderFiredAt = none ∧ row.status ≠ .completed := by
  simp only [FireRow.fires, FireRow.join, Bool.and_eq_true, Option.isNone_iff_eq_none, bne_iff_ne]

theorem sound_saved (now : DateTime) (args : SaveArgs) (message : Message) (channelName : String)
    (channelDeleted : Bool) : Sound (.saved now args message channelName channelDeleted) where
  held := rfl
  uncompleted := by simp [saved]
  numbered := by simp [saved]
  fires := by simp [saved]
  once := List.nodup_nil
  unmarked := by simp [saved]
  marked := by simp [saved]
  running := by simp [saved]
  due := by simp [saved]

section

variable (sound : Sound state)

include sound

/-- What the calls answer does not matter. -/
theorem Sound.with_answers (answers : List SavedMessageDto) (unsaved : List SaveToggleResponse)
    (refused : List Failure) :
    Sound { state with answers := answers, unsaved := unsaved, refused := refused } :=
  ⟨sound.held, sound.uncompleted, sound.numbered, sound.fires, sound.once, sound.unmarked,
    sound.marked, sound.running, sound.due⟩

/-- The queue changes, but no run that has read the row. -/
theorem Sound.with_job {job : JobSlot ReminderRun} {jobFor : Option Setting}
    (runs : ∀ run read, HasRead read run → (job = some (.active run) ↔ state.job = some (.active
      run)))
    (due : ∀ setting ∈ jobFor, (∀ due, job = some (.delayed due) → setting.time ≤ due) ∧ ∀ started,
      job = some (.active (.read started)) → setting.time ≤ state.now) :
    Sound { state with job := job, jobFor := jobFor } := by
  have emits (row : FireRow) (read : Option Setting) :
      job = some (.active (.emit row read)) ↔ state.job = some (.active (.emit row read)) :=
    runs _ read (.inr ⟨row, rfl⟩)
  refine ⟨sound.held, sound.uncompleted, sound.numbered, sound.fires, sound.once, ?_, ?_, ?_, due⟩
  · intro setting isSet row rowMem unmarked
    obtain ⟨unfired, notEmitting⟩ := sound.unmarked setting isSet row rowMem unmarked
    exact ⟨unfired, fun read emitting => notEmitting read ((emits read _).mp emitting)⟩
  · intro setting isSet row rowMem marked
    apply (sound.marked setting isSet row rowMem marked).imp_right
    exact fun ⟨read, emitting⟩ => ⟨read, (emits read _).mpr emitting⟩
  · exact fun run read isActive hasRead =>
      sound.running run read ((runs run read hasRead).mp isActive) hasRead

theorem Sound.remove : Sound { state with job := state.job.remove } := by
  refine sound.with_job (fun run read _ => ⟨JobSlot.eq_active_of_remove, fun isActive => ?_⟩) ?_
  · rw [isActive, JobSlot.remove_active]
  · intro setting isFor
    refine ⟨fun due waits => ?_, fun started isActive => ?_⟩
    · match job : state.job with
      | some (.delayed _) | some .finished | some (.active _) | none =>
        rw [job] at waits
        cases waits
    · exact (sound.due setting isFor).2 started (JobSlot.eq_active_of_remove isActive)

/-- The job is added with a delay that ends at the time of the setting or later. -/
theorem Sound.scheduleAdd {call : UpdateCall} (setting : Setting) (begun : call.now ≤ state.now) :
    Sound (state.scheduleAdd call setting) := by
  rw [ReminderState.scheduleAdd]
  match job : state.job with
  | some taken =>
    rw [JobSlot.add_some, if_neg (Option.some_ne_none _), ← job]
    exact sound
  | none =>
    rw [JobSlot.add_none, if_pos rfl]
    refine sound.with_job (fun run read _ => ?_) (fun other isFor => ⟨fun due waits => ?_, ?_⟩)
    · rw [job]
      exact iff_of_false (by simp) (by simp)
    · cases isFor
      cases waits
      calc setting.time ≤ call.now + (setting.time - call.now) := le_add_tsub
        _ ≤ state.now + (setting.time - call.now) := Nat.add_le_add_right begun _
    · intro started isActive
      cases isActive

theorem Sound.start :
    Sound { state with job := state.job.start state.now (.read state.now) } := by
  match job : state.job with
  | some (.delayed due) =>
    rw [JobSlot.start]
    split
    next reached =>
      refine sound.with_job (fun run read hasRead => ?_) (fun setting isFor => ⟨?_, ?_⟩)
      · rw [job]
        refine iff_of_false (fun isActive => ?_) (by simp)
        cases isActive
        rcases hasRead with ⟨_, _, same⟩ | ⟨_, same⟩ <;> cases same
      · intro due waits
        cases waits
      · exact fun _ _ => ((sound.due setting isFor).1 due job).trans reached
    next early =>
      rw [← job]
      exact sound
  | some (.active run) =>
    rw [JobSlot.start, ← job]
    · exact sound
    · intro due same
      cases same
  | some .finished =>
    rw [JobSlot.start, ← job]
    · exact sound
    · intro due same
      cases same
  | none =>
    rw [JobSlot.start, ← job]
    · exact sound
    · intro due same
      cases same

theorem Sound.tick (elapsed : Nat) :
    Sound { state with now := state.now + elapsed } := by
  have later : state.now ≤ state.now + elapsed := Nat.le_add_right _ _
  refine ⟨sound.held, sound.uncompleted, sound.numbered, sound.fires, sound.once, sound.unmarked,
    sound.marked, ?_, fun setting isFor => ?_⟩
  · intro run read isActive hasRead
    obtain ⟨setting, same, numbered, reached, unfired⟩ := sound.running run read isActive hasRead
    exact ⟨setting, same, numbered, reached.trans later, unfired⟩
  · obtain ⟨waits, reads⟩ := sound.due setting isFor
    exact ⟨waits, fun started isActive => (reads started isActive).trans later⟩

/-- A write that leaves the reminder of the row alone. -/
theorem Sound.with_row {row : Option SavedMessage}
    (reminder : row.bind (·.reminderAt) = state.row.bind (·.reminderAt))
    (same : ∀ next ∈ row, ∃ old ∈ state.row, next.reminderFiredAt = old.reminderFiredAt ∧
      (old.status ≠ .completed → next.status ≠ .completed)) :
    Sound { state with row := row } := by
  refine ⟨reminder.trans sound.held, ?_, sound.numbered, sound.fires, sound.once, ?_, ?_,
    sound.running, sound.due⟩
  · intro setting isSet uncompleted next isRow
    obtain ⟨old, isOld, -, status⟩ := same next isRow
    exact status (sound.uncompleted setting isSet uncompleted old isOld)
  · intro setting isSet next isRow unmarked
    obtain ⟨old, isOld, firedAt, -⟩ := same next isRow
    exact sound.unmarked setting isSet old isOld (firedAt ▸ unmarked)
  · intro setting isSet next isRow marked
    obtain ⟨old, isOld, firedAt, -⟩ := same next isRow
    exact sound.marked setting isSet old isOld (firedAt ▸ marked)

/-- A write that leaves the row without a reminder, or the user without the row. -/
theorem Sound.clear {row : Option SavedMessage} (cleared : row.bind (·.reminderAt) = none) :
    Sound { state with row := row, setting := none } where
  held := cleared
  uncompleted := by simp
  numbered := by simp
  fires := sound.fires
  once := sound.once
  unmarked := by simp
  marked := by simp
  running := sound.running
  due := sound.due

end

theorem ne_nextSetting {setting : Setting} (numbered : setting.version ≤ state.version)
    (time : DateTime) (row : SavedMessage) : some setting ≠ some (state.nextSetting time row) := by
  intro same
  cases same
  exact absurd numbered (Nat.not_succ_le_self state.version)

variable (sound : Sound state)

include sound

/-- A write that sets a reminder. No run has read this setting yet. -/
theorem Sound.set {time : DateTime} (isSet : row.reminderAt = some time)
    (unmarked : row.reminderFiredAt = none) :
    Sound { state with
      row := some row
      setting := some (state.nextSetting time row)
      version := (state.nextSetting time row).version } where
  held := isSet
  uncompleted := by
    intro setting same uncompleted other isRow
    cases same
    cases isRow
    simpa [nextSetting] using uncompleted
  numbered := by
    intro setting same
    cases same
    exact le_refl _
  fires := by
    intro fire fired
    obtain ⟨setting, same, numbered, notBefore⟩ := sound.fires fire fired
    exact ⟨setting, same, numbered.trans (Nat.le_succ _), notBefore⟩
  once := sound.once
  unmarked := by
    intro setting same _ _ _
    cases same
    refine ⟨fun fired => ?_, fun read emitting => ?_⟩
    · obtain ⟨fire, fireMem, sameSetting⟩ := List.mem_map.mp fired
      obtain ⟨earlier, isEarlier, numbered, -⟩ := sound.fires fire fireMem
      exact ne_nextSetting numbered time row (isEarlier.symm.trans sameSetting)
    · obtain ⟨earlier, isEarlier, numbered, -⟩ :=
        sound.running _ _ emitting (.inr ⟨read, rfl⟩)
      exact ne_nextSetting numbered time row isEarlier.symm
  marked := by
    intro setting _ other isRow marked
    cases isRow
    exact absurd unmarked marked
  running := by
    intro run read isActive hasRead
    obtain ⟨setting, same, numbered, reached, unfired⟩ := sound.running run read isActive hasRead
    exact ⟨setting, same, numbered.trans (Nat.le_succ _), reached, unfired⟩
  due := sound.due

theorem Sound.update (call : UpdateCall) (isRow : state.row = some row) :
    Sound (state.update call row).1 := by
  rw [ReminderState.update]
  rcases reminder : call.patch.reminder with _ | _ | time
  · have updated := UpdatePatch.apply_of_none reminder row
    refine sound.with_row ?_ fun next isNext => ⟨row, isRow, ?_⟩
    · rw [isRow, updated]
      rfl
    · cases isNext
      rw [updated]
      refine ⟨rfl, fun uncompleted => ?_⟩
      have notCompleting := UpdatePatch.status_ne_of_reminder reminder
      cases status : call.patch.status with
      | none => exact uncompleted
      | some status' =>
        rintro rfl
        exact notCompleting status
  · exact sound.clear (UpdatePatch.apply_of_some reminder row).1
  · obtain ⟨isSet, unmarked⟩ := UpdatePatch.apply_of_some reminder row
    exact sound.set isSet unmarked

/-- Each statement of a call keeps the invariant. -/
theorem Sound.resume {task : ReminderTask}
    (begun : ∀ call setting, task = .scheduleAdd call setting → call.now ≤ state.now) :
    Sound (task.resume state).1 := by
  cases task with
  | findOwned call =>
    rw [ReminderTask.resume]
    split
    · exact sound.with_answers _ _ _
    · exact sound
  | update call =>
    rw [ReminderTask.resume]
    split
    next => exact sound.with_answers _ _ _
    next row isRow => exact sound.update call isRow
  | scheduleRemove call setting | cancel call | unsaveCancel => exact sound.remove
  | scheduleAdd call setting => exact sound.scheduleAdd setting (begun call setting rfl)
  | readBack call =>
    rw [ReminderTask.resume]
    split
    · exact sound.with_answers _ _ _
    split
    · exact sound.with_answers _ _ _
    · exact sound
  | snoozeUntil time dto =>
    have written : Sound { state with
        row := state.row.map fun row => { row with snoozedUntil := some time } } := by
      refine sound.with_row ?_ fun next isNext => ?_
      · cases state.row <;> rfl
      · obtain ⟨row, isRow, rfl⟩ := Option.map_eq_some_iff.mp isNext
        exact ⟨row, isRow, rfl, id⟩
    exact written.with_answers _ _ _
  | findSaved => exact sound
  | deleteRow =>
    have cleared : Sound { state with row := none, setting := none } := sound.clear rfl
    exact cleared.with_answers _ _ _

/-- A run ends that has nothing to tell. -/
theorem Sound.leave {job : JobSlot ReminderRun}
    (ended : job = some (.active .ending) ∨ job = some .finished)
    (silent : ∀ row read, state.job ≠ some (.active (.emit row read))) :
    Sound { state with job := job } where
  held := sound.held
  uncompleted := sound.uncompleted
  numbered := sound.numbered
  fires := sound.fires
  once := sound.once
  unmarked := by
    intro setting isSet row isRow unmarked
    refine ⟨(sound.unmarked setting isSet row isRow unmarked).1, fun read emitting => ?_⟩
    rcases ended with rfl | rfl <;> cases emitting
  marked := by
    intro setting isSet row isRow marked
    refine (sound.marked setting isSet row isRow marked).imp_right fun ⟨read, emitting⟩ => ?_
    exact absurd emitting (silent read _)
  running := by
    intro run read isActive hasRead
    rcases ended with rfl | rfl
    · cases isActive
      rcases hasRead with ⟨_, _, same⟩ | ⟨_, same⟩ <;> cases same
    · cases isActive
  due := by rcases ended with rfl | rfl <;> simp

/-- A run reads a reminder that is to fire and whose time has come. -/
theorem Sound.read {started : DateTime} {read : FireRow}
    (isActive : state.job = some (.active (.read started))) (isRow : state.row = some row)
    (unmarked : row.reminderFiredAt = none) {setting : Setting}
    (isSet : state.setting = some setting)
    (ready : state.jobFor = some setting ∨ setting.time ≤ state.now) :
    Sound { state with job := some (.active (.mark started read state.setting)) } where
  held := sound.held
  uncompleted := sound.uncompleted
  numbered := sound.numbered
  fires := sound.fires
  once := sound.once
  unmarked := by
    intro other same row isRow unmarked
    refine ⟨(sound.unmarked other same row isRow unmarked).1, fun read emitting => ?_⟩
    cases emitting
  marked := by
    intro other same row isRow marked
    refine (sound.marked other same row isRow marked).imp_right fun ⟨read, emitting⟩ => ?_
    rw [isActive] at emitting
    cases emitting
  running := by
    intro run other runs hasRead
    cases runs
    have same : state.setting = other := by
      rcases hasRead with ⟨_, _, same⟩ | ⟨_, same⟩
      · exact (ReminderRun.mark.inj same).2.2
      · cases same
    refine ⟨setting, same.symm.trans isSet, sound.numbered setting isSet, ?_, ?_⟩
    · rcases ready with isFor | reached
      · exact (sound.due setting isFor).2 started isActive
      · exact reached
    · rw [← same, isSet]
      exact (sound.unmarked setting isSet row isRow unmarked).1
  due := by simp

/-- A run marks the row of the reminder that it has read. -/
theorem Sound.mark {started : DateTime} {row : FireRow} {read : Option Setting}
    (isActive : state.job = some (.active (.mark started row read)))
    (unchanged : state.setting = read ∨ state.setting = none) :
    Sound (state.process (.mark started row read)) where
  held := by
    refine Eq.trans ?_ sound.held
    rw [process]
    cases state.row <;> rfl
  uncompleted := by
    intro setting isSet uncompleted next isNext
    obtain ⟨old, isOld, rfl⟩ := Option.map_eq_some_iff.mp isNext
    exact sound.uncompleted setting isSet uncompleted old isOld
  numbered := sound.numbered
  fires := sound.fires
  once := sound.once
  unmarked := by
    intro setting _ next isNext unmarked
    obtain ⟨old, -, rfl⟩ := Option.map_eq_some_iff.mp isNext
    cases unmarked
  marked := by
    intro setting isSet _ _ _
    have isSet : state.setting = some setting := isSet
    rcases unchanged with same | cleared
    · exact .inr ⟨row, by rw [← isSet, same]; rfl⟩
    rw [cleared] at isSet
    cases isSet
  running := by
    intro run other runs hasRead
    cases runs
    have same : read = other := by
      rcases hasRead with ⟨_, _, same⟩ | ⟨_, same⟩
      · cases same
      · exact (ReminderRun.emit.inj same).2
    exact same ▸ sound.running _ read isActive (.inl ⟨started, row, rfl⟩)
  due := by simp [process]

/-- A run tells the user of the reminder that it has read. -/
theorem Sound.emit {row : FireRow} {read : Option Setting}
    (isActive : state.job = some (.active (.emit row read))) :
    Sound (state.process (.emit row read)) := by
  obtain ⟨setting, rfl, numbered, reached, unfired⟩ :=
    sound.running _ read isActive (.inr ⟨row, rfl⟩)
  exact {
    held := sound.held
    uncompleted := sound.uncompleted
    numbered := sound.numbered
    fires := List.forall_mem_cons.mpr ⟨⟨setting, rfl, numbered, reached⟩, sound.fires⟩
    once := List.nodup_cons.mpr ⟨unfired, sound.once⟩
    unmarked := by
      intro other isSet saved isRow unmarked
      obtain ⟨otherUnfired, notEmitting⟩ := sound.unmarked other isSet saved isRow unmarked
      refine ⟨fun fired => ?_, fun _ emitting => by cases emitting⟩
      rcases List.mem_cons.mp fired with same | firedBefore
      · exact notEmitting row (same ▸ isActive)
      · exact otherUnfired firedBefore
    marked := by
      intro other isSet saved isRow marked
      rcases sound.marked other isSet saved isRow marked with fired | ⟨_, emitting⟩
      · exact .inl (List.mem_cons_of_mem _ fired)
      have same := Job.active.inj (Option.some.inj (isActive.symm.trans emitting))
      rw [(ReminderRun.emit.inj same).2]
      exact .inl List.mem_cons_self
    running := by
      intro run other runs hasRead
      cases runs
      rcases hasRead with ⟨_, _, same⟩ | ⟨_, same⟩ <;> cases same
    due := by simp [process] }

/-- So does each statement of a run in order. -/
theorem Sound.process {run : ReminderRun} {tasks : List ReminderTask}
    (isActive : state.job = some (.active run))
    (inOrder : InTurn ⟨state, tasks⟩ (.accept (.process run))) : Sound (state.process run) := by
  have silent {next : ReminderRun} (isNext : state.job = some (.active next))
      (notEmit : ∀ row read, next ≠ .emit row read) (row : FireRow) (read : Option Setting) :
      state.job ≠ some (.active (.emit row read)) := by
    rw [isNext]
    exact fun same => notEmit row read (Job.active.inj (Option.some.inj same))
  cases run with
  | read started =>
    have leaves : Sound { state with job := some (.active .ending) } :=
      sound.leave (.inl rfl) (silent isActive (by simp))
    rw [ReminderState.process]
    split
    · exact leaves
    next row isRow =>
      dsimp only
      split
      next fires =>
        obtain ⟨unmarked, uncompleted⟩ := fires_join.mp fires
        obtain ⟨setting, isSet, ready⟩ := inOrder row isRow unmarked uncompleted
        exact sound.read isActive isRow unmarked isSet ready
      · exact leaves
  | mark started row read => exact sound.mark isActive inOrder
  | emit row read => exact sound.emit isActive
  | ending => exact sound.leave (.inr rfl) (silent isActive (by simp))

end Steps

end Bongtalk.Queue
