import Bongtalk.Library.JobSlot
import Bongtalk.Queue.ReminderFire

/-!
# Reminders of saved messages

A saved row holds the time of its reminder, and a job under the id of the row fires it. Calls
write the row first and the queue behind it; a run of the job reads the row, marks it as fired
whatever it holds by then, and tells the user.
-/

namespace Bongtalk.Queue

open Library Common Me Messages Prisma

/-- A time that is set for the reminder, and whether the message was completed by then. Later
settings have greater versions. -/
structure Setting where
  version : Nat
  time : DateTime
  onCompleted : Bool
deriving DecidableEq, Repr

/-- The statement that a run of `ReminderProcessor.process` has reached, with what it has read. -/
inductive ReminderRun where
  | read (now : DateTime)
  | mark (now : DateTime) (row : FireRow) (setting : Option Setting)
  | emit (row : FireRow) (setting : Option Setting)
  | ending
deriving DecidableEq, Repr

/-- What a run tells the user, and the setting that it has read. -/
structure Fire where
  setting : Option Setting
  firedAt : DateTime
  fire : ReminderFirePayload
  updated : SavedUpdatedPayload
deriving DecidableEq, Repr

/-- One message that a user has saved. -/
structure ReminderState where
  now : DateTime
  savedMessageId : SavedMessageId
  row : Option SavedMessage
  message : Message
  channelName : String
  channelDeleted : Bool := false
  job : JobSlot ReminderRun := none
  answers : List SavedMessageDto := []
  unsaved : List SaveToggleResponse := []
  refused : List Failure := []
  fires : List Fire := []
  /-- The setting that the row holds. No code reads this or what follows. -/
  setting : Option Setting := none
  version : Nat := 0
  /-- The setting that the job was added for. -/
  jobFor : Option Setting := none

/-- The body of `update`; a field that is absent is left alone. -/
structure UpdatePatch where
  status : Option SaveStatus := none
  reminderAt : Option (Option DateTime) := none
  note : Option (Option String) := none
deriving DecidableEq, Repr

/-- What a patch writes as the reminder, if anything. A message that is completed loses it, unless
the patch names one. -/
def UpdatePatch.reminder (patch : UpdatePatch) : Option (Option DateTime) :=
  match patch.reminderAt with
  | some reminderAt => some reminderAt
  | none => if patch.status = some .completed then some none else none

def UpdatePatch.apply (patch : UpdatePatch) (row : SavedMessage) : SavedMessage :=
  let row := { row with
    status := patch.status.getD row.status
    note := patch.note.getD row.note }
  match patch.reminder with
  | none => row
  | some reminderAt =>
    { row with reminderAt := reminderAt, reminderFiredAt := none, snoozedUntil := none }

variable {patch : UpdatePatch}

theorem UpdatePatch.status_ne_of_reminder (reminder : patch.reminder = none) :
    patch.status ≠ some .completed := by
  intro completing
  rw [UpdatePatch.reminder] at reminder
  split at reminder
  · cases reminder
  rw [if_pos completing] at reminder
  cases reminder

/-- A patch without a reminder leaves the columns of the reminder alone. -/
theorem UpdatePatch.apply_of_none (reminder : patch.reminder = none) (row : SavedMessage) :
    patch.apply row =
      { row with status := patch.status.getD row.status, note := patch.note.getD row.note } := by
  rw [UpdatePatch.apply, reminder]

theorem UpdatePatch.apply_of_some {reminderAt : Option DateTime}
    (reminder : patch.reminder = some reminderAt) (row : SavedMessage) :
    (patch.apply row).reminderAt = reminderAt ∧ (patch.apply row).reminderFiredAt = none := by
  rw [UpdatePatch.apply, reminder]
  exact ⟨rfl, rfl⟩

/-- A call of `update`, or of `snooze` with the time until which it is put off. -/
structure UpdateCall where
  patch : UpdatePatch
  now : DateTime
  snoozedUntil : Option DateTime := none
deriving DecidableEq, Repr

/-- A statement of `update` with what `schedule` and `cancel` do behind it, of the rest of
`snooze`, or of `unsave`. -/
inductive ReminderTask where
  | findOwned (call : UpdateCall)
  | update (call : UpdateCall)
  | scheduleRemove (call : UpdateCall) (setting : Setting)
  | scheduleAdd (call : UpdateCall) (setting : Setting)
  | cancel (call : UpdateCall)
  | readBack (call : UpdateCall)
  | snoozeUntil (time : DateTime) (dto : SavedMessageDto)
  | findSaved
  | unsaveCancel
  | deleteRow
deriving DecidableEq, Repr

namespace ReminderState

variable (state : ReminderState)

def refuse (failure : Failure) : ReminderState :=
  { state with refused := state.refused ++ [failure] }

def notFound : ReminderState :=
  state.refuse (.domain ⟨.savedNotFound, "saved message not found"⟩)

/-- The setting that a write of a time makes of a row. -/
def nextSetting (time : DateTime) (row : SavedMessage) : Setting :=
  ⟨state.version + 1, time, row.status == .completed⟩

/-- `savedMessage.update`, and the next statement. -/
def update (call : UpdateCall) (row : SavedMessage) : ReminderState × List ReminderTask :=
  let updated := call.patch.apply row
  match call.patch.reminder with
  | none => ({ state with row := some updated }, [.readBack call])
  | some none => ({ state with row := some updated, setting := none }, [.cancel call])
  | some (some time) =>
    let setting := state.nextSetting time updated
    ({ state with row := some updated, setting := some setting, version := setting.version },
      [.scheduleRemove call setting])

/-- The answer for a row. That of a channel that is deleted shows neither text nor name. -/
def dtoOf (row : SavedMessage) : SavedMessageDto :=
  let dto := toDto ⟨row, state.message, state.channelName⟩
  if state.channelDeleted then
    { dto with
      excerpt := if row.messageDeletedAt.isSome then deletedPlaceholder else ""
      channelName := "" }
  else dto

/-- `queue.add` of the job for a setting, whose delay counts from the time of the call. -/
def scheduleAdd (call : UpdateCall) (setting : Setting) : ReminderState :=
  { state with
    job := state.job.add (state.now + (setting.time - call.now))
    jobFor := if state.job = none then some setting else state.jobFor }

/-- One statement of a run of the processor. -/
def process : ReminderRun → ReminderState
  | .read now =>
    match state.row with
    | none => { state with job := some (.active .ending) }
    | some row =>
      let read : FireRow := .join row (some state.message) (some state.channelName)
      if read.fires then { state with job := some (.active (.mark now read state.setting)) }
      else { state with job := some (.active .ending) }
  | .mark now read setting =>
    { state with
      row := state.row.map fun row =>
        { row with reminderFiredAt := some now, snoozedUntil := none }
      job := some (.active (.emit read setting)) }
  | .emit read setting =>
    { state with
      fires := ⟨setting, state.now, read.firePayload state.savedMessageId,
        read.updatedPayload state.savedMessageId⟩ :: state.fires
      job := some (.active .ending) }
  | .ending => { state with job := some .finished }

end ReminderState

/-- One statement of a call. -/
def ReminderTask.resume (state : ReminderState) :
    ReminderTask → ReminderState × List ReminderTask
  | .findOwned call =>
    match state.row with
    | none => (state.notFound, [])
    | some _ => (state, [.update call])
  | .update call =>
    match state.row with
    | none => (state.refuse .recordNotFound, [])
    | some row => state.update call row
  | .scheduleRemove call setting =>
    ({ state with job := state.job.remove }, [.scheduleAdd call setting])
  | .scheduleAdd call setting => (state.scheduleAdd call setting, [.readBack call])
  | .cancel call => ({ state with job := state.job.remove }, [.readBack call])
  | .readBack call =>
    match state.row with
    | none => (state.notFound, [])
    | some row =>
      match call.snoozedUntil with
      | none => ({ state with answers := state.answers ++ [state.dtoOf row] }, [])
      | some time => (state, [.snoozeUntil time (state.dtoOf row)])
  | .snoozeUntil time dto =>
    ({ state with
        row := state.row.map fun row => { row with snoozedUntil := some time }
        answers := state.answers ++ [{ dto with snoozedUntil := some (toISOString time) }] }, [])
  | .findSaved => (state, if state.row.isSome then [.unsaveCancel] else [.deleteRow])
  | .unsaveCancel => ({ state with job := state.job.remove }, [.deleteRow])
  | .deleteRow =>
    ({ state with
        row := none, setting := none
        unsaved := state.unsaved ++ [⟨false, none, none⟩] }, [])

inductive ReminderInput where
  | update (patch : UpdatePatch)
  | snooze (snoozeMinutes : Nat)
  | unsave
  /-- A worker takes the job up. -/
  | startJob
  | process (run : ReminderRun)
  | tick (elapsed : Nat)
deriving DecidableEq, Repr

/-- A statement of the processor is one that its run has reached. -/
def ReminderInput.Allowed (state : ReminderState) : ReminderInput → Prop
  | .process run => state.job = some (.active run)
  | .update _ | .snooze _ | .unsave | .startJob | .tick _ => True

instance (state : ReminderState) : DecidablePred (ReminderInput.Allowed state)
  | .process run => inferInstanceAs (Decidable (state.job = some (.active run)))
  | .update _ | .snooze _ | .unsave | .startJob | .tick _ => .isTrue trivial

def ReminderInput.after (state : ReminderState) : ReminderInput → ReminderState
  | .update _ | .snooze _ | .unsave => state
  | .startJob => { state with job := state.job.start state.now (.read state.now) }
  | .process run => state.process run
  | .tick elapsed => { state with now := state.now + elapsed }

/-- The first statement of a call. -/
def ReminderInput.starts (state : ReminderState) : ReminderInput → List ReminderTask
  | .update patch => [.findOwned ⟨patch, state.now, none⟩]
  | .snooze snoozeMinutes =>
    let target := state.now + snoozeMinutes * 60000
    [.findOwned ⟨{ reminderAt := some (some target) }, state.now, some target⟩]
  | .unsave => [.findSaved]
  | .startJob | .process _ | .tick _ => []

def reminderLoop : EventLoop ReminderState ReminderTask ReminderInput where
  resume := ReminderTask.resume
  Accepts state input next spawned :=
    input.Allowed state ∧ next = input.after state ∧ spawned = input.starts state

end Bongtalk.Queue
