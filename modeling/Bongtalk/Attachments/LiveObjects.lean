import Bongtalk.Attachments.Consistency

/-!
# The sweep and live attachments

The sweep deletes by what it has selected earlier. An attachment may have been linked since, and a
session may have become an attachment, and neither is read again before it is deleted.
-/

namespace Bongtalk.Attachments

open Library EventLoop Table UploadState

/-- There is an object under a key. -/
def HasStored (state : UploadState) (key : StorageKey) : Prop :=
  ∃ object ∈ state.objects, object.key = key

/-- No sweep has deleted an attachment of a message, and each of them has its object. -/
structure LiveObjects (state : UploadState) : Prop where
  rows : state.sweptLinked = []
  stored : ∀ row ∈ state.attachments, row.messageId ≠ none → HasStored state row.storageKey

/-- No attachment of a message is stored under the key. -/
def Unlinked (state : UploadState) (key : StorageKey) : Prop :=
  ∀ row ∈ state.attachments, row.messageId ≠ none → row.storageKey ≠ key

/-- A delete meets nothing that is linked by now, and what is linked still has its object. -/
def SparesLinked (state : UploadState) : UploadTask → Prop
  | .deleteBadObject _ session => state.storageUp = true → Unlinked state session.storageKey
  | .deleteOrphanObject _ orphan _ => state.storageUp = true → Unlinked state orphan.storageKey
  | .deleteExpiredObject _ session _ => state.storageUp = true → Unlinked state session.storageKey
  | .deleteOrphan _ orphan _ => ∀ row ∈ state.attachments, row.id = orphan.id → row.messageId = none
  | .close call session _ => state.isOpen session.id = true → call.body.messageId ≠ none →
      HasStored state session.storageKey
  | .createMessage request => request.others.toBool = true → ∀ row ∈ state.attachments,
      linksOf request.args row = true → HasStored state row.storageKey
  | _ => True

section Writes

variable {state next : UploadState}

theorem liveObjects_iff_of_same (attachments : next.attachments = state.attachments)
    (objects : next.objects = state.objects) (sweptLinked : next.sweptLinked = state.sweptLinked) :
    LiveObjects next ↔ LiveObjects state := by
  have hasStored (key : StorageKey) : HasStored next key ↔ HasStored state key := by
    rw [HasStored, HasStored, objects]
  constructor
  · intro live
    refine ⟨sweptLinked ▸ live.rows, fun row present linked => ?_⟩
    exact (hasStored _).mp (live.stored row (attachments.symm ▸ present) linked)
  · intro live
    refine ⟨sweptLinked.symm ▸ live.rows, fun row present linked => ?_⟩
    exact (hasStored _).mpr (live.stored row (attachments ▸ present) linked)

theorem liveObjects_iff_of_sameTables (same : SameTables state next) :
    LiveObjects next ↔ LiveObjects state := by
  rw [← same]
  exact liveObjects_iff_of_same rfl rfl rfl

variable (live : LiveObjects state)

include live

/-- An object may go exactly when no attachment of a message needs it. -/
theorem liveObjects_deleteObject_iff {key : StorageKey} :
    LiveObjects (state.deleteObject key) ↔ Unlinked state key := by
  constructor
  · rintro after row present linked rfl
    obtain ⟨object, objectMem, sameKey⟩ := after.stored row present linked
    have kept := (mem_deleteMany.mp objectMem).2
    exact of_decide_eq_false kept sameKey
  · intro unlinked
    refine ⟨live.rows, fun row present linked => ?_⟩
    obtain ⟨object, objectMem, sameKey⟩ := live.stored row present linked
    refine ⟨object, mem_deleteMany.mpr ⟨objectMem, decide_eq_false ?_⟩, sameKey⟩
    rw [sameKey]
    exact unlinked row present linked

/-- A row may go exactly when it is not linked. -/
theorem liveObjects_deleteAttachment_iff {id : Messages.AttachmentId} :
    LiveObjects (state.deleteAttachment id) ↔
      ∀ row ∈ state.attachments, row.id = id → row.messageId = none := by
  have swept : (state.deleteAttachment id).sweptLinked = [] ↔
      ∀ row ∈ state.attachments, row.id = id → row.messageId = none := by
    simp [deleteAttachment, live.rows, Table.findMany, mem_def]
  refine Iff.trans ⟨LiveObjects.rows, fun rows => ⟨rows, fun row present => ?_⟩⟩ swept
  exact live.stored row (mem_deleteMany.mp present).1

theorem liveObjects_block {id : Messages.AttachmentId} :
    LiveObjects (state.block id) := by
  refine ⟨live.rows, fun row present linked => ?_⟩
  obtain ⟨earlier, earlierMem, status, rfl⟩ := mem_block present
  exact live.stored earlier earlierMem linked

/-- A new attachment of a message needs its object. -/
theorem liveObjects_close_iff {call : CompleteCall} {session : UploadSession}
    (ok : state.closeSession call session = .ok next) :
    LiveObjects next ↔ (call.body.messageId ≠ none → HasStored state session.storageKey) := by
  obtain ⟨-, attachments, inserted, rfl⟩ := closeSession_eq_ok ok
  constructor
  · intro after linked
    exact after.stored _ ((mem_insert? inserted).mpr (.inl rfl)) linked
  · intro hasStored
    refine ⟨live.rows, fun row present linked => ?_⟩
    rcases (mem_insert? inserted).mp present with rfl | isOld
    · exact hasStored linked
    · exact live.stored row isOld linked

/-- So does an attachment that a send links. -/
theorem liveObjects_send_iff (consistent : Consistent state) {args : Messages.SendArgs} :
    LiveObjects (state.sendMessage args) ↔
      ∀ row ∈ state.attachments, linksOf args row = true →
        HasStored state row.storageKey := by
  have sent : Sent state args (state.sendMessage args) := consistent.sent
  have others := sent.others
  generalize state.sendMessage args = next at sent others
  have hasStored (key : StorageKey) : HasStored next key ↔ HasStored state key := by
    rw [others]
    exact Iff.rfl
  constructor
  · intro after row present links
    have linked : (state.linkedRow args row).messageId ≠ none := by
      rw [linkedRow, if_pos links]
      exact Option.some_ne_none _
    have stored := after.stored _ (sent.mem_attachments.mpr ⟨row, present, rfl⟩) linked
    rwa [hasStored, linkedRow_storageKey] at stored
  · intro stored
    refine ⟨by rw [others]; exact live.rows, fun row present linked => ?_⟩
    obtain ⟨earlier, earlierMem, rfl⟩ := sent.mem_attachments.mp present
    rw [hasStored, linkedRow_storageKey]
    by_cases links : linksOf args earlier = true
    · exact stored earlier earlierMem links
    rw [linkedRow, if_neg links] at linked
    exact live.stored earlier earlierMem linked

end Writes

section Run

variable {state : UploadState} {toLowerCase : String → String}

/-- A task that deletes an object does so while the storage answers. -/
theorem liveObjects_ite_iff (live : LiveObjects state) {key : StorageKey}
    {tasks others : List UploadTask} : LiveObjects (if state.storageUp = true then
        (state.deleteObject key, tasks) else (state, others)).1 ↔
      (state.storageUp = true → Unlinked state key) := by
  split
  next up => exact (liveObjects_deleteObject_iff live).trans (imp_iff_right up).symm
  next down => exact iff_of_true live fun up => absurd up down

theorem liveObjects_resume_iff (consistent : Consistent state) {task : UploadTask}
    (read : HasRead state task) (live : LiveObjects state) :
    LiveObjects (task.resume toLowerCase state).1 ↔ SparesLinked state task := by
  have kept : Resumed state task (task.resume toLowerCase state) := resumed consistent read
  cases task with
  | deleteBadObject call session =>
    rw [UploadTask.resume]
    split
    next up => exact (liveObjects_deleteObject_iff live).trans (imp_iff_right up).symm
    next down =>
      apply iff_of_true ((liveObjects_iff_of_sameTables sameTables_answer).mpr live)
      exact fun up => absurd up down
  | deleteOrphanObject sweep orphan rest | deleteExpiredObject sweep session rest =>
    rw [UploadTask.resume]
    exact liveObjects_ite_iff live
  | deleteOrphan sweep orphan rest =>
    rw [UploadTask.resume]
    split
    next missing =>
      refine iff_of_true live fun row present sameId => ?_
      exact absurd sameId (findUnique_eq_none_iff.mp missing row present)
    next => exact liveObjects_deleteAttachment_iff live
  | close call session rest =>
    rw [UploadTask.resume]
    split
    next failure refused =>
      apply iff_of_true ((liveObjects_iff_of_sameTables sameTables_answer).mpr live)
      intro isOpen
      obtain ⟨next, committed⟩ := consistent.closeSession_eq_ok_iff.mpr isOpen
      rw [refused] at committed
      cases committed
    next closed ok =>
      apply (liveObjects_iff_of_sameTables sameTables_nextSession).trans
      apply (liveObjects_close_iff live ok).trans
      exact (imp_iff_right (closeSession_eq_ok ok).1).symm
  | createMessage request =>
    rw [UploadTask.resume]
    split
    next passed =>
      exact (liveObjects_send_iff live consistent).trans (imp_iff_right passed).symm
    next refused => exact iff_of_true live fun passed => absurd passed refused
  | blockOrphan sweep orphan rest =>
    rw [UploadTask.resume]
    split
    · exact iff_of_true live trivial
    · exact iff_of_true (liveObjects_block live) trivial
  | deleteBadSession call session | deleteExpired sweep session rest =>
    rw [UploadTask.resume]
    split <;> exact iff_of_true { live with } trivial
  | _ =>
    obtain ⟨middle, effect, same⟩ := kept.effect
    cases effect
    exact iff_of_true ((liveObjects_iff_of_sameTables same).mpr live) trivial

/-- Objects stay where they are. -/
theorem hasStored_accepted {input : UploadInput} {key : StorageKey} (stored : HasStored state key) :
    HasStored (input.accepted state).1 key := by
  cases input with
  | upload object =>
    obtain ⟨old, oldMem, rfl⟩ := stored
    by_cases same : old.key = object.key
    · exact ⟨object, mem_upsert.mpr (.inl rfl), same.symm⟩
    · exact ⟨old, mem_upsert.mpr (.inr ⟨oldMem, same⟩), rfl⟩
  | createSession uploaderId channelId sizeBytes mimeType path ttl =>
    rw [UploadInput.accepted]
    split <;> exact stored
  | complete uploaderId routeChannelId body =>
    obtain ⟨same, -⟩ := beginComplete_spec { state with nextCallId := state.nextCallId + 1 }
      ⟨⟨state.nextCallId⟩, uploaderId, routeChannelId, body, state.now, []⟩
    rw [UploadInput.accepted, ← same]
    exact stored
  | _ => exact stored

theorem liveObjects_accepted {input : UploadInput} (live : LiveObjects state) :
    LiveObjects (input.accepted state).1 := by
  have untouched : Untouched state (input.accepted state).1 := untouched_accepted
  refine ⟨untouched.sweptLinked.trans live.rows, fun row present linked => ?_⟩
  exact hasStored_accepted (live.stored row (untouched.attachments ▸ present) linked)

/-- The sweep spares live attachments along a run exactly when nothing is deleted that has been
linked since it was selected, and nothing is linked whose object has gone. -/
theorem live_objects_iff (toLowerCase : String → String)
    {labels : List (Label UploadTask UploadInput)} {finish : State UploadState UploadTask} :
    Steps (Lawful (Step (uploadLoop toLowerCase)) fun state => LiveObjects state.shared)
        ⟨{}, []⟩ labels finish ↔
      Steps (Guarded (Step (uploadLoop toLowerCase)) (OnResume SparesLinked)) ⟨{}, []⟩ labels
        finish := by
  have live : LiveObjects {} := ⟨rfl, fun row present => by cases present⟩
  refine lawful_iff_guarded (fun consistent read => (resumed consistent read).keeps consistent)
    (fun accepted consistent => ?_)
    (fun consistent read live => liveObjects_resume_iff consistent read live)
    (fun accepted live => ?_) consistent_empty live
  · obtain ⟨rfl, rfl⟩ := Prod.mk.inj accepted
    exact keeps_accepted consistent
  · obtain ⟨rfl, rfl⟩ := Prod.mk.inj accepted
    exact liveObjects_accepted live

end Run

/-- A day later than anything before it. -/
def nextDay : UploadInput :=
  .tick (attachmentGcUnlinkedGrace + 1)

/-- A sweep has selected an attachment which is then linked by a send: the sweep deletes its object
and its row. A sweep has selected an expired session which a late transaction of `complete` then
turns into an attachment: the sweep deletes its object. -/
theorem linked_attachment_swept :
    (∃ labels finish, Steps (Step (uploadLoop id)) ⟨{}, []⟩ labels finish ∧
      finish.shared.links = [(⟨0⟩, ⟨0⟩)] ∧ finish.shared.sweptLinked = [⟨0⟩] ∧
      ¬LiveObjects finish.shared) ∧
    ∃ labels finish, Steps (Step (uploadLoop id)) ⟨{}, []⟩ labels finish ∧
      (∃ row ∈ finish.shared.attachments, row.messageId = some ⟨0⟩) ∧
      finish.shared.objects.rows = [] ∧ ¬LiveObjects finish.shared := by
  constructor
  · obtain ⟨labels, finish, steps, links, swept⟩ :=
      exists_steps_of_play ⟨{}, []⟩ (accepts_upload id)
        (uploadMoves ⟨1⟩ 0 ++
          [.accept (.complete ⟨1⟩ ⟨0⟩ { targetChannelId := some ⟨0⟩, sessions := [⟨0⟩] }),
            .run 0, .run 0, .run 0, .run 0, .accept nextDay, .accept .sweep, .run 0,
            .accept (.send ⟨{ plainSend.args with attachmentIds := [⟨0⟩] },
              of_decide_eq_true rfl, .ok ()⟩),
            .run 1, .run 1, .run 0, .run 0])
        (P := fun finish => finish.shared.links = [(⟨0⟩, ⟨0⟩)] ∧
          finish.shared.sweptLinked = [⟨0⟩]) (by decide +kernel)
    refine ⟨labels, finish, steps, links, swept, fun live => ?_⟩
    have rows := live.rows
    rw [swept] at rows
    cases rows
  · obtain ⟨labels, finish, steps, ⟨row, present, linked⟩, noObjects⟩ :=
      exists_steps_of_play ⟨{}, []⟩ (accepts_upload id)
        ([.accept (.send plainSend), .run 0] ++ uploadMoves ⟨1⟩ 0 ++
          [.accept (.complete ⟨1⟩ ⟨0⟩ { messageId := some ⟨0⟩, sessions := [⟨0⟩] }),
            .run 0, .run 0, .run 0, .run 0, .run 0, .accept nextDay, .accept .sweep,
            .run 1, .run 1, .run 0, .run 0])
        (P := fun finish => (∃ row ∈ finish.shared.attachments.rows, row.messageId = some ⟨0⟩) ∧
          finish.shared.objects.rows = []) (by decide +kernel)
    refine ⟨labels, finish, steps, ⟨row, present, linked⟩, noObjects, fun live => ?_⟩
    obtain ⟨object, objectMem, -⟩ := live.stored row present (linked ▸ Option.some_ne_none _)
    rw [mem_def, noObjects] at objectMem
    cases objectMem

end Bongtalk.Attachments
