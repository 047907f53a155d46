import Bongtalk.Queue.ReminderSteps

/-!
# Reminders fire as they are set

Along runs whose steps are in order, each reminder fires once and in time.
-/

namespace Bongtalk.Queue

open Library EventLoop Me Messages Prisma ReminderState

/-- The job waits for its time, or runs. -/
def InProgress (job : JobSlot ReminderRun) : Prop :=
  job ≠ none ∧ job ≠ some .finished

/-- What fires was set, for a time that has come, and fires once. When the calls are through and no
job is in progress, the reminder that the row holds has fired, unless the message was completed
when it was set. -/
structure FiresAsSet (state : State ReminderState ReminderTask) : Prop where
  held : state.shared.row.bind (·.reminderAt) = state.shared.setting.map (·.time)
  notBefore : ∀ fire ∈ state.shared.fires, ∃ setting, fire.setting = some setting ∧
    setting.time ≤ fire.firedAt
  once : (state.shared.fires.map (·.setting)).Nodup
  delivered : state.tasks = [] → ¬InProgress state.shared.job → ∀ setting,
    state.shared.setting = some setting → setting.onCompleted = false →
      some setting ∈ state.shared.fires.map (·.setting)

/-! A reminder that is still to fire is covered by the job, or by a call that sees to it. -/

section Coverage

variable {state next : ReminderState} {before after spawned tasks : List ReminderTask}
  {task : ReminderTask}

/-- The reminder that the row holds is not lost. -/
abbrev ReminderCovered (state : ReminderState) (tasks : List ReminderTask) : Prop :=
  Covered Owed (fun state setting => Reaches setting state.job) (fun task _ => task.Settles)
    state tasks

/-- A statement that changes neither what is owed nor whom the job reaches. -/
theorem covered_of_same (covered : ReminderCovered state (before ++ task :: after))
    (owed : ∀ setting, Owed next setting → Owed state setting)
    (reaches : ∀ setting, Owed next setting → Reaches setting state.job →
      Reaches setting next.job) (unsettled : ¬task.Settles) :
    ReminderCovered next (before ++ spawned ++ after) :=
  covered.resume fun setting owes => .inr ⟨setting, owed setting owes, reaches setting owes,
    fun _ _ settles => settles, fun settles => absurd settles unsettled⟩

/-- A statement that leaves a call which sees to the reminder. -/
theorem covered_of_settles (covered : ReminderCovered state (before ++ task :: after))
    (settles : ∃ new ∈ spawned, new.Settles) :
    ReminderCovered next (before ++ spawned ++ after) := by
  obtain ⟨new, isNew, newSettles⟩ := settles
  exact covered.resume fun setting _ =>
    .inl (.inr ⟨new, mem_resumed.mpr (.inr isNew), newSettles⟩)

theorem covered_of_unset (unset : next.setting = none) : ReminderCovered next tasks := by
  intro setting owes
  have isSet := owes.isSet
  rw [unset] at isSet
  cases isSet

variable {setting : Setting}

/-- Only the state of the queue has changed. -/
theorem Owed.of_same (owes : Owed next setting) (settings : next.setting = state.setting)
    (rows : next.row = state.row) :
    Owed state setting :=
  ⟨settings ▸ owes.isSet, owes.uncompleted, rows ▸ owes.unfired⟩

variable {call : UpdateCall}

theorem covered_update {row : SavedMessage} (isRow : state.row = some row)
    (covered : ReminderCovered state (before ++ .update call :: after)) :
    ReminderCovered (state.update call row).1 (before ++ (state.update call row).2 ++ after) := by
  rw [ReminderState.update]
  rcases reminder : call.patch.reminder with _ | _ | time
  · refine covered_of_same covered (fun setting owes => ⟨owes.isSet, owes.uncompleted, ?_⟩)
      (fun _ _ => id) id
    have unfired := owes.unfired
    rw [UpdatePatch.apply_of_none reminder] at unfired
    rw [isRow]
    exact unfired
  · exact covered_of_unset rfl
  · exact covered_of_settles covered ⟨_, List.mem_singleton_self _, trivial⟩

/-- A job that is added reaches the reminder of the row, unless the id is taken. -/
theorem covered_scheduleAdd
    (inOrder : InTurn ⟨state, before ++ .scheduleAdd call setting :: after⟩ (.resume before
      (.scheduleAdd call setting) after)) :
    ReminderCovered (state.scheduleAdd call setting) (before ++ [.readBack call] ++ after) := by
  intro other owes
  have owed : Owed state other := owes.of_same rfl rfl
  rw [scheduleAdd]
  cases job : state.job with
  | none => exact .inl trivial
  | some taken =>
    have isTaken : state.job ≠ none := by simp [job]
    rw [JobSlot.add_some]
    rcases inOrder isTaken other owed.isSet owed with reaches | ⟨waiting, waits, settles⟩
    · exact .inl (job ▸ reaches)
    · exact .inr ⟨waiting, mem_resumed.mpr (.inl waits), settles⟩

theorem covered_cancel (covered : ReminderCovered state (before ++ .cancel call :: after))
    (inOrder : InTurn ⟨state, before ++ .cancel call :: after⟩ (.resume before (.cancel call)
      after)) :
    ReminderCovered { state with job := state.job.remove }
      (before ++ [.readBack call] ++ after) := by
  by_cases kept : state.job.remove = state.job
  · exact covered_of_same covered (fun _ owes => owes.of_same rfl rfl)
      (fun _ _ reaches => by rwa [kept]) id
  · intro setting owes
    have owed : Owed state setting := owes.of_same rfl rfl
    obtain ⟨waiting, waits, settles⟩ := inOrder kept setting owed.isSet owed
    exact .inr ⟨waiting, mem_resumed.mpr (.inl waits), settles⟩

theorem covered_resume (covered : ReminderCovered state (before ++ task :: after))
    (inOrder : InTurn ⟨state, before ++ task :: after⟩ (.resume before task after)) :
    ReminderCovered (task.resume state).1 (before ++ (task.resume state).2 ++ after) := by
  have same {next : ReminderState} {spawned : List ReminderTask} (rows : next.row = state.row)
      (settings : next.setting = state.setting) (jobs : next.job = state.job)
      (unsettled : ¬task.Settles) : ReminderCovered next (before ++ spawned ++ after) :=
    covered_of_same covered (fun _ owes => owes.of_same settings rows)
      (fun _ _ reaches => by rwa [jobs]) unsettled
  cases task with
  | findOwned call =>
    rw [ReminderTask.resume]
    split <;> exact same rfl rfl rfl id
  | update call =>
    rw [ReminderTask.resume]
    split
    next => exact same rfl rfl rfl id
    next row isRow => exact covered_update isRow covered
  | scheduleRemove call setting =>
    exact covered_of_settles covered ⟨_, List.mem_singleton_self _, trivial⟩
  | scheduleAdd call setting => exact covered_scheduleAdd inOrder
  | cancel call => exact covered_cancel covered inOrder
  | readBack call =>
    rw [ReminderTask.resume]
    split
    · exact same rfl rfl rfl id
    · split <;> exact same rfl rfl rfl id
  | snoozeUntil time dto =>
    refine covered_of_same covered (fun setting owes => ⟨owes.isSet, owes.uncompleted, ?_⟩)
      (fun _ _ => id) id
    have unfired := owes.unfired
    rw [ReminderTask.resume, Option.any_map] at unfired
    exact unfired
  | findSaved => exact same rfl rfl rfl id
  | unsaveCancel => exact covered_of_settles covered ⟨_, List.mem_singleton_self _, trivial⟩
  | deleteRow => exact covered_of_unset rfl

/-- An input that changes neither what is owed nor whom the job reaches. -/
theorem covered_accept_of_same (covered : ReminderCovered state tasks)
    (owed : ∀ setting, Owed next setting → Owed state setting)
    (reaches : ∀ setting, Owed next setting → Reaches setting state.job →
      Reaches setting next.job) : ReminderCovered next (tasks ++ spawned) :=
  covered.accept fun setting owes => .inr ⟨setting, owed setting owes, reaches setting owes,
    fun _ _ settles => settles⟩

theorem reaches_start {now : DateTime} (reaches : Reaches setting state.job) :
    Reaches setting (state.job.start now (.read now)) := by
  match job : state.job with
  | some (.delayed due) =>
    rw [JobSlot.start]
    split <;> trivial
  | some (.active _) | some .finished | none =>
    rw [job] at reaches
    exact reaches

theorem process_read (started : DateTime) :
    (state.process (.read started)).row = state.row ∧
      (state.process (.read started)).setting = state.setting := by
  rw [process]
  split
  · exact ⟨rfl, rfl⟩
  dsimp only
  split <;> exact ⟨rfl, rfl⟩

/-- A run that reads a reminder which is owed goes on to mark it. -/
theorem reaches_read (sound : Sound state) (owes : Owed state setting) (started : DateTime) :
    Reaches setting (state.process (.read started)).job := by
  obtain ⟨row, isRow, unmarked⟩ := Option.any_eq_true _ _ |>.mp owes.unfired
  have uncompleted := sound.uncompleted setting owes.isSet owes.uncompleted row isRow
  rw [process, isRow]
  dsimp only
  rw [if_pos (fires_join.mpr ⟨Option.isNone_iff_eq_none.mp unmarked, uncompleted⟩)]
  exact owes.isSet

theorem covered_process (sound : Sound state) {run : ReminderRun}
    (isActive : state.job = some (.active run)) (covered : ReminderCovered state tasks) :
    ReminderCovered (state.process run) (tasks ++ []) := by
  cases run with
  | read started =>
    obtain ⟨rows, settings⟩ := @process_read state started
    exact covered_accept_of_same covered (fun _ owes => owes.of_same settings rows)
      fun _ owes _ => reaches_read sound (owes.of_same settings rows) started
  | mark started row read =>
    intro setting owes
    obtain ⟨next, isNext, unmarked⟩ := Option.any_eq_true _ _ |>.mp owes.unfired
    obtain ⟨old, -, rfl⟩ := Option.map_eq_some_iff.mp isNext
    cases unmarked
  | emit row read | ending =>
    refine covered_accept_of_same covered (fun _ owes => owes.of_same rfl rfl)
      (fun _ _ reaches => ?_)
    rw [isActive] at reaches
    cases reaches

end Coverage

/-- The call of a task. -/
def ReminderTask.call? : ReminderTask → Option UpdateCall
  | .findOwned call | .update call | .scheduleRemove call _ | .scheduleAdd call _ | .cancel call
  | .readBack call => some call
  | .snoozeUntil _ _ | .findSaved | .unsaveCancel | .deleteRow => none

/-- The call of the task has begun by now. -/
def Begun (state : ReminderState) (task : ReminderTask) : Prop :=
  ∀ call ∈ task.call?, call.now ≤ state.now

variable {state : ReminderState}

/-- A statement leaves tasks of its own call. -/
theorem begun_resume {task : ReminderTask} :
    (task.resume state).1.now = state.now ∧
      ∀ new ∈ (task.resume state).2, ∀ call ∈ new.call?, call ∈ task.call? := by
  cases task with
  | findOwned call | readBack call =>
    rw [ReminderTask.resume]
    repeat' split
    all_goals simp [ReminderTask.call?, notFound, refuse]
  | update call =>
    rw [ReminderTask.resume]
    split
    · simp [refuse]
    rw [ReminderState.update]
    dsimp only
    split <;> simp [ReminderTask.call?]
  | findSaved =>
    rw [ReminderTask.resume]
    split <;> simp [ReminderTask.call?]
  | scheduleRemove call setting | scheduleAdd call setting | cancel call | snoozeUntil time dto
  | unsaveCancel | deleteRow =>
    simp [ReminderTask.resume, ReminderTask.call?, ReminderState.scheduleAdd]

/-- The invariant behind the law. -/
structure ReminderSound (state : State ReminderState ReminderTask) : Prop where
  shared : Sound state.shared
  begun : ∀ task ∈ state.tasks, Begun state.shared task
  covered : ReminderCovered state.shared state.tasks

theorem inProgress_of_reaches {setting : Setting} {job : JobSlot ReminderRun}
    (reaches : Reaches setting job) : InProgress job := by
  match job with
  | some (.delayed _) | some (.active _) => simp [InProgress]
  | some .finished | none => cases reaches

theorem ReminderSound.firesAsSet {state : State ReminderState ReminderTask}
    (sound : ReminderSound state) : FiresAsSet state where
  held := sound.shared.held
  notBefore := by
    intro fire fired
    obtain ⟨setting, same, -, reached⟩ := sound.shared.fires fire fired
    exact ⟨setting, same, reached⟩
  once := sound.shared.once
  delivered := by
    intro through ended setting isSet uncompleted
    have held := sound.shared.held
    rw [isSet] at held
    obtain ⟨row, isRow, -⟩ := Option.bind_eq_some_iff.mp held
    by_cases unmarked : row.reminderFiredAt = none
    · have owed : Owed state.shared setting := ⟨isSet, uncompleted, by simp [isRow, unmarked]⟩
      rcases sound.covered setting owed with reaches | ⟨task, pending, -⟩
      · exact absurd (inProgress_of_reaches reaches) ended
      rw [through] at pending
      cases pending
    · rcases sound.shared.marked setting isSet row isRow unmarked with fired | ⟨read, emitting⟩
      · exact fired
      · exact absurd (by simp [InProgress, emitting]) ended

theorem now_process (run : ReminderRun) : (state.process run).now = state.now := by
  cases run with
  | read started =>
    rw [process]
    split
    · rfl
    dsimp only
    split <;> rfl
  | mark started row read | emit row read | ending => rfl

/-- Time goes on, and a call starts with the time at which it comes in. -/
theorem begun_starts {input : ReminderInput} :
    state.now ≤ (input.after state).now ∧
      ∀ new ∈ input.starts state, ∀ call ∈ new.call?, call.now = state.now := by
  cases input with
  | update patch | snooze snoozeMinutes | unsave | startJob =>
    simp [ReminderInput.after, ReminderInput.starts, ReminderTask.call?]
  | process run =>
    rw [ReminderInput.after, now_process]
    simp [ReminderInput.starts]
  | tick elapsed => simp [ReminderInput.after, ReminderInput.starts]

section Runs

variable {shared : ReminderState} {tasks before after : List ReminderTask}

theorem ReminderSound.resume {task : ReminderTask}
    (sound : ReminderSound ⟨shared, before ++ task :: after⟩)
    (inOrder : InTurn ⟨shared, before ++ task :: after⟩ (.resume before task after)) :
    ReminderSound ⟨(task.resume shared).1, before ++ (task.resume shared).2 ++ after⟩ := by
  obtain ⟨sameNow, calls⟩ := @begun_resume shared task
  have begunTask := sound.begun task (mem_pending.mpr (.inl rfl))
  refine ⟨sound.shared.resume fun call setting same => ?_, fun other pending call isCall => ?_,
    covered_resume sound.covered inOrder⟩
  · subst same
    exact begunTask call rfl
  · change call.now ≤ (task.resume shared).1.now
    rw [sameNow]
    rcases mem_resumed.mp pending with waits | isNew
    · exact sound.begun other (mem_pending.mpr (.inr waits)) call isCall
    · exact begunTask call (calls other isNew call isCall)

theorem ReminderSound.accept {input : ReminderInput} (sound : ReminderSound ⟨shared, tasks⟩)
    (allowed : input.Allowed shared) (inOrder : InTurn ⟨shared, tasks⟩ (.accept input)) :
    ReminderSound ⟨input.after shared, tasks ++ input.starts shared⟩ := by
  have same {spawned : List ReminderTask} : ReminderCovered shared (tasks ++ spawned) :=
    covered_accept_of_same sound.covered (fun _ owes => owes) (fun _ _ reaches => reaches)
  have begun : ∀ task ∈ tasks ++ input.starts shared, Begun (input.after shared) task := by
    obtain ⟨later, starts⟩ := @begun_starts shared input
    intro task pending call isCall
    rcases List.mem_append.mp pending with waits | isNew
    · exact (sound.begun task waits call isCall).trans later
    · exact (starts task isNew call isCall).le.trans later
  cases input with
  | update patch | snooze snoozeMinutes | unsave => exact ⟨sound.shared, begun, same⟩
  | startJob =>
    refine ⟨sound.shared.start, begun, ?_⟩
    exact covered_accept_of_same sound.covered (fun _ owes => owes.of_same rfl rfl)
      fun _ _ reaches => reaches_start reaches
  | process run =>
    exact ⟨sound.shared.process allowed inOrder, begun,
      covered_process sound.shared allowed sound.covered⟩
  | tick elapsed =>
    refine ⟨sound.shared.tick elapsed, begun, ?_⟩
    exact covered_accept_of_same sound.covered (fun _ owes => owes.of_same rfl rfl)
      (fun _ _ reaches => reaches)

end Runs

/-- Reminders fire as they are set along the runs whose steps are in order. -/
theorem reminders_fire_as_set (now : DateTime) (args : SaveArgs) (message : Message)
    (channelName : String) (channelDeleted : Bool)
    {labels : List (Label ReminderTask ReminderInput)}
    {finish : State ReminderState ReminderTask}
    (steps : Steps (Guarded (Step reminderLoop) InTurn)
      ⟨.saved now args message channelName channelDeleted, []⟩ labels finish) :
    FiresAsSet finish := by
  suffices sound : ReminderSound finish from sound.firesAsSet
  refine steps.preserves ReminderSound ?_
    ⟨sound_saved now args message channelName channelDeleted, List.forall_mem_nil _,
      covered_of_unset rfl⟩
  rintro state label next ⟨transition, inOrder⟩ sound
  cases transition with
  | resume before task after => exact sound.resume inOrder
  | accept accepted =>
    obtain ⟨allowed, rfl, rfl⟩ := accepted
    exact sound.accept allowed inOrder

def remindedMessage : Message where
  id := ⟨1⟩
  channelId := ⟨1⟩
  authorId := ⟨3⟩
  content := "water the plants"
  contentPlain := "water the plants"
  createdAt := 0

def remindedArgs : SaveArgs := ⟨⟨2⟩, ⟨1⟩, ⟨1⟩, 0⟩

def reminded : ReminderState :=
  .saved 0 remindedArgs remindedMessage "home" false

def remindedRow : FireRow :=
  .join remindedArgs.row (some remindedMessage) (some "home")

/-- A reminder is set for the time 100, which comes. -/
def setAndWait : List (Move ReminderInput) :=
  [.accept (.update { reminderAt := some (some 100) }), .run 0, .run 0, .run 0, .run 0, .run 0,
    .accept (.tick 100)]

/-- The job runs, up to some statement, for the first setting. -/
def runJob (count : Nat) : List (Move ReminderInput) :=
  [.accept .startJob, .accept (.process (.read 100)),
    .accept (.process (.mark 100 remindedRow (some ⟨1, 100, false⟩))),
    .accept (.process (.emit remindedRow (some ⟨1, 100, false⟩))),
    .accept (.process .ending)].take count

/-- The user snoozes while the reminder is firing. -/
def snoozeWhileFiring : List (Move ReminderInput) :=
  setAndWait ++ runJob 2 ++ [.accept (.snooze 10), .run 0, .run 0,
    .accept (.process (.mark 100 remindedRow (some ⟨1, 100, false⟩))), .run 0, .run 0, .run 0, .run 0,
    .accept (.process (.emit remindedRow (some ⟨1, 100, false⟩))), .accept (.process .ending),
    .accept (.tick 600000)]

/-- The user puts the reminder off, and the job starts before it is removed. -/
def postponeTooLate : List (Move ReminderInput) :=
  setAndWait ++ [.accept (.update { reminderAt := some (some 5000) }), .run 0, .run 0,
    .accept .startJob, .accept (.process (.read 100)),
    .accept (.process (.mark 100 remindedRow (some ⟨2, 5000, false⟩))),
    .accept (.process (.emit remindedRow (some ⟨2, 5000, false⟩)))]

/-- A script of inputs that can happen, and of steps in order if need be. -/
def admits (inOrder : Bool) (state : State ReminderState ReminderTask)
    (label : Label ReminderTask ReminderInput) : Bool :=
  (match label with
    | .accept input => decide (input.Allowed state.shared)
    | .resume _ _ _ => true) &&
  (!inOrder || decide (InTurn state label))

def playReminder (inOrder : Bool) (moves : List (Move ReminderInput)) :
    Option (State ReminderState ReminderTask) :=
  reminderLoop.play (fun state input => (input.after state, input.starts state)) (admits inOrder)
    ⟨reminded, []⟩ moves

theorem exists_run_of_playReminder (inOrder : Bool) {P : State ReminderState ReminderTask → Prop}
    (moves : List (Move ReminderInput)) (played : ∃ finish ∈ playReminder inOrder moves, P finish) :
    ∃ labels finish,
      Steps (Guarded (Step reminderLoop) fun state label => inOrder = true → InTurn state label)
        ⟨reminded, []⟩ labels finish ∧ P finish := by
  have accepts (state : State ReminderState ReminderTask) (input : ReminderInput)
      (passed : admits inOrder state (.accept input) = true) :
      reminderLoop.Accepts state.shared input (input.after state.shared)
        (input.starts state.shared) := by
    rw [admits, Bool.and_eq_true, decide_eq_true_iff] at passed
    exact ⟨passed.1, rfl, rfl⟩
  refine exists_run_of_play accepts (fun state label passed ordered => ?_) id moves played
  simpa [ordered] using (Bool.and_eq_true_iff.mp passed).2

/-- A reminder that is set fires. -/
theorem set_reminder_fires : ∃ labels finish,
    Steps (Guarded (Step reminderLoop) InTurn) ⟨reminded, []⟩ labels finish ∧
      FiresAsSet finish ∧ finish.shared.fires.map (·.setting) = [some ⟨1, 100, false⟩] := by
  obtain ⟨labels, finish, steps, fires⟩ :=
    exists_run_of_playReminder true (setAndWait ++ runJob 5)
      (P := fun finish => finish.shared.fires.map (·.setting) = [some ⟨1, 100, false⟩])
      (by decide +kernel)
  have inOrder := steps.mono fun step => And.imp_right (fun ordered => ordered rfl) step
  exact ⟨labels, finish, inOrder, reminders_fire_as_set 0 remindedArgs remindedMessage "home" false
    inOrder, fires⟩

/-- A snooze is lost behind the firing that it answers, and a reminder that is put off fires before
its time. -/
theorem snooze_lost_and_early_fire :
    (∃ labels finish, Steps (Step reminderLoop) ⟨reminded, []⟩ labels finish ∧
      finish.shared.now = 600100 ∧ finish.shared.setting = some ⟨2, 600100, false⟩ ∧
        ¬FiresAsSet finish) ∧
    ∃ labels finish, Steps (Step reminderLoop) ⟨reminded, []⟩ labels finish ∧
      finish.shared.now = 100 ∧
        finish.shared.fires.map (·.setting) = [some ⟨2, 5000, false⟩] ∧ ¬FiresAsSet finish := by
  constructor
  · obtain ⟨labels, finish, steps, now, isSet, through, ended, fires⟩ :=
      exists_run_of_playReminder false snoozeWhileFiring
        (P := fun finish => finish.shared.now = 600100 ∧
          finish.shared.setting = some ⟨2, 600100, false⟩ ∧ finish.tasks = [] ∧
          finish.shared.job = some .finished ∧
          finish.shared.fires.map (·.setting) = [some ⟨1, 100, false⟩]) (by decide +kernel)
    refine ⟨labels, finish, steps.mono And.left, now, isSet, fun law => ?_⟩
    have delivered := law.delivered through (by simp [InProgress, ended]) _ isSet rfl
    rw [fires] at delivered
    simp at delivered
  · obtain ⟨labels, finish, steps, now, fires, firedAt⟩ :=
      exists_run_of_playReminder false postponeTooLate
        (P := fun finish => finish.shared.now = 100 ∧
          finish.shared.fires.map (·.setting) = [some ⟨2, 5000, false⟩] ∧
          ∀ fire ∈ finish.shared.fires, fire.firedAt = 100) (by decide +kernel)
    refine ⟨labels, finish, steps.mono And.left, now, fires, fun law => ?_⟩
    have isFirst : some ⟨2, 5000, false⟩ ∈ finish.shared.fires.map (·.setting) := by
      rw [fires]
      exact List.mem_singleton_self _
    obtain ⟨fire, fireMem, same⟩ := List.mem_map.mp isFirst
    obtain ⟨setting, isRead, reached⟩ := law.notBefore fire fireMem
    obtain rfl := Option.some.inj (same.symm.trans isRead)
    rw [firedAt fire fireMem] at reached
    exact absurd reached (by decide)

end Bongtalk.Queue
