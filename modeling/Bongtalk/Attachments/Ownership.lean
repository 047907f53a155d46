import Bongtalk.Attachments.Consistency

/-!
# Ownership of attachments

An attachment of a message is one of its author and of its channel, and a message has a limited
number of them. A send checks both. Completing an upload to a message that is there does not ask
who has sent it, and counts its attachments before it adds them one by one.
-/

namespace Bongtalk.Attachments

open Library EventLoop Prisma UploadState List Table

structure AttachmentsOwned (state : UploadState) : Prop where
  ofAuthor : ∀ row ∈ state.attachments, ∀ messageId, row.messageId = some messageId →
    ∃ message ∈ state.messages, message.id = messageId ∧ message.authorId = row.uploaderId ∧
      message.channelId = row.channelId
  once : ∀ first ∈ state.links, ∀ second ∈ state.links, first.1 = second.1 → first.2 = second.2
  capped : ∀ messageId, state.linkedCount messageId ≤ attachmentMaxPerMessage

/-- An attachment may be added to a message: the uploader is its author, and it has room. -/
def MayAdd (state : UploadState) (uploaderId : UserId) (messageId : MessageId) : Prop :=
  (∀ message ∈ state.messages, message.id = messageId → message.authorId = uploaderId) ∧
    state.linkedCount messageId < attachmentMaxPerMessage

/-- A transaction of `complete` that finds its session open adds to a message only what may be
added. -/
def AddsOwn (state : UploadState) : UploadTask → Prop
  | .close call session _ => state.isOpen session.id = true →
      ∀ messageId, call.body.messageId = some messageId → MayAdd state call.uploaderId messageId
  | _ => True

section Owned

variable {state next : UploadState}

/-- What writes none of it keeps it. -/
theorem AttachmentsOwned.of_same (owned : AttachmentsOwned state)
    (messages : ∀ message ∈ state.messages, ∃ later ∈ next.messages, later.id = message.id ∧
      later.channelId = message.channelId ∧ later.authorId = message.authorId)
    (attachments : next.attachments = state.attachments) (links : next.links = state.links) :
    AttachmentsOwned next where
  ofAuthor := by
    intro row present messageId linked
    obtain ⟨message, messageMem, sameId, author, channel⟩ :=
      owned.ofAuthor row (attachments ▸ present) messageId linked
    obtain ⟨later, laterMem, laterId, laterChannel, laterAuthor⟩ := messages message messageMem
    exact ⟨later, laterMem, laterId.trans sameId, laterAuthor.trans author,
      laterChannel.trans channel⟩
  once := links.symm ▸ owned.once
  capped := by
    intro messageId
    rw [linkedCount, attachments]
    exact owned.capped messageId

theorem AttachmentsOwned.of_sameTables (same : SameTables state next) :
    AttachmentsOwned next ↔ AttachmentsOwned state := by
  rw [← same]
  exact ⟨fun owned => { owned with }, fun owned => { owned with }⟩

theorem AttachmentsOwned.deleteAttachment (owned : AttachmentsOwned state)
    {id : Messages.AttachmentId} : AttachmentsOwned (state.deleteAttachment id) where
  ofAuthor row present := owned.ofAuthor row (mem_deleteMany.mp present).1
  once := owned.once
  capped messageId := filter_sublist.countP_le.trans (owned.capped messageId)

theorem AttachmentsOwned.block (owned : AttachmentsOwned state) {id : Messages.AttachmentId} :
    AttachmentsOwned (state.block id) where
  ofAuthor := by
    intro row present messageId linked
    obtain ⟨earlier, earlierMem, status, rfl⟩ := mem_block present
    exact owned.ofAuthor earlier earlierMem messageId linked
  once := owned.once
  capped := by
    intro messageId
    have sameCount : (state.block id).linkedCount messageId = state.linkedCount messageId := by
      refine (countP_map ..).trans (countP_congr fun row _ => ?_)
      simp only [Function.comp_apply]
      split <;> exact Iff.rfl
    exact sameCount ▸ owned.capped messageId

variable {args : Messages.SendArgs}

/-- The new message gets no more than the send asks for. -/
theorem Sent.linkedCount_new (sent : Sent state args next) (consistent : Consistent state) :
    next.linkedCount ⟨state.nextMessageId⟩ ≤ args.attachmentIds.length := by
  have linked : next.linkedCount ⟨state.nextMessageId⟩ =
      (state.attachments.findMany (linksOf args)).length := by
    rw [linkedCount, sent.attachments_rows, countP_map, Table.findMany, ← countP_eq_length_filter]
    refine countP_congr fun row present => ?_
    rw [Function.comp_apply, decide_eq_true_eq, linkedRow]
    split
    next links => exact iff_of_true rfl links
    next keeps =>
      refine iff_of_false (fun isNew => ?_) keeps
      obtain ⟨message, messageMem, sameId⟩ := consistent.ofMessage row present _ isNew
      have below := consistent.messageBelow message messageMem
      rw [sameId] at below
      exact Nat.lt_irrefl _ below
  have nodup : ((state.attachments.findMany (linksOf args)).map fun row =>
      row.id).Nodup :=
    state.attachments.keysNodup.sublist (filter_sublist.map _)
  have named : ((state.attachments.findMany (linksOf args)).map fun row => row.id) ⊆
      args.attachmentIds := by
    intro id isLinked
    obtain ⟨row, found, rfl⟩ := mem_map.mp isLinked
    exact (linksOf_iff.mp (mem_findMany.mp found).2).1
  have atMost := (subperm_of_subset nodup named).length_le
  rwa [length_map, ← linked] at atMost

/-- The other messages keep theirs. -/
theorem Sent.linkedCount_of_ne (sent : Sent state args next) {messageId : MessageId}
    (other : messageId ≠ ⟨state.nextMessageId⟩) :
    next.linkedCount messageId = state.linkedCount messageId := by
  rw [linkedCount, sent.attachments_rows, countP_map]
  refine countP_congr fun row _ => ?_
  rw [Function.comp_apply, decide_eq_true_eq, decide_eq_true_eq, linkedRow]
  split
  next links =>
    refine iff_of_false (fun isNew => other (Option.some.inj isNew).symm) fun linked => ?_
    rw [(linksOf_iff.mp links).2.1] at linked
    cases linked
  next keeps => exact Iff.rfl

/-- A send links what its author has uploaded to the channel, and no more than it may. -/
theorem AttachmentsOwned.send (owned : AttachmentsOwned state) (consistent : Consistent state)
    (atMost : args.attachmentIds.length ≤ attachmentMaxPerMessage) :
    AttachmentsOwned (state.sendMessage args) := by
  have sent : Sent state args (state.sendMessage args) := consistent.sent
  refine ⟨?_, consistent.send.linkedOnce, ?_⟩
  · intro row present messageId linked
    obtain ⟨earlier, earlierMem, rfl⟩ := sent.mem_attachments.mp present
    rw [linkedRow] at linked ⊢
    split at linked
    next links =>
      obtain ⟨-, -, uploader, channel⟩ := linksOf_iff.mp links
      rw [if_pos links]
      exact ⟨_, sent.mem_messages.mpr (.inl rfl), Option.some.inj linked, uploader.symm,
        channel.symm⟩
    next keeps =>
      rw [if_neg keeps]
      obtain ⟨message, messageMem, owner⟩ := owned.ofAuthor earlier earlierMem messageId linked
      exact ⟨message, sent.mem_messages.mpr (.inr messageMem), owner⟩
  · intro messageId
    by_cases isNew : messageId = ⟨state.nextMessageId⟩
    · rw [isNew]
      exact (sent.linkedCount_new consistent).trans atMost
    · rw [sent.linkedCount_of_ne isNew]
      exact owned.capped messageId

/-- The count of the message of a call goes up by one. -/
theorem linkedCount_insert {call : CompleteCall} {session : UploadSession}
    {attachments : Table AttachmentRow fun row => row.id}
    (inserted : state.attachments.insert? (state.completedRow call session) = some attachments)
    (messageId : MessageId) :
    (attachments.rows.countP fun row => row.messageId = some messageId) =
      state.linkedCount messageId + if call.body.messageId = some messageId then 1 else 0 := by
  rw [(Table.insert?_eq_some_iff.mp inserted).2, countP_cons, linkedCount]
  by_cases named : call.body.messageId = some messageId <;>
    simp [completedRow, named]

/-- A transaction of `complete` keeps to the law exactly when it adds what may be added. -/
theorem attachmentsOwned_close_iff (owned : AttachmentsOwned state) (consistent : Consistent state)
    {call : CompleteCall} {session : UploadSession} (hasMessage : call.HasMessage state)
    (ok : state.closeSession call session = .ok next) :
    AttachmentsOwned next ↔ ∀ messageId, call.body.messageId = some messageId →
      MayAdd state call.uploaderId messageId := by
  have linkedOnce := (consistent.close hasMessage ok).linkedOnce
  obtain ⟨-, attachments, inserted, rfl⟩ := closeSession_eq_ok ok
  constructor
  · intro after messageId named
    constructor
    · intro message present sameId
      have newRow : state.completedRow call session ∈ attachments :=
        (mem_insert? inserted).mpr (.inl rfl)
      obtain ⟨found, foundMem, foundId, author, -⟩ := after.ofAuthor _ newRow messageId named
      obtain rfl := eq_of_key_eq present foundMem (sameId.trans foundId.symm)
      exact author
    · have counted := linkedCount_insert inserted messageId
      rw [if_pos named] at counted
      have capped := after.capped messageId
      rw [linkedCount, counted] at capped
      exact capped
  · intro mayAdd
    refine ⟨fun row present messageId linked => ?_, linkedOnce, fun messageId => ?_⟩
    · rcases (mem_insert? inserted).mp present with rfl | isOld
      · obtain ⟨message, messageMem, sameId, channel⟩ := hasMessage messageId linked
        exact ⟨message, messageMem, sameId, (mayAdd messageId linked).1 message messageMem sameId,
          channel⟩
      · exact owned.ofAuthor row isOld messageId linked
    · rw [linkedCount, linkedCount_insert inserted messageId]
      split
      next named => exact (mayAdd messageId named).2
      next other => exact owned.capped messageId

/-- The other writes keep to the law. -/
theorem Effect.attachmentsOwned {task : UploadTask} (effect : Effect state task next)
    (notClose : ∀ call session rest, task ≠ .close call session rest)
    (owned : AttachmentsOwned state) (consistent : Consistent state) : AttachmentsOwned next := by
  cases effect with
  | close hasMessage closed => exact absurd rfl (notClose _ _ _)
  | @createMessage request => exact owned.send consistent request.atMost
  | blockOrphan => exact owned.block
  | deleteOrphan => exact owned.deleteAttachment
  | _ => exact { owned with }

theorem attachmentsOwned_resume_iff {toLowerCase : String → String} {task : UploadTask}
    (consistent : Consistent state) (read : HasRead state task) (owned : AttachmentsOwned state) :
    AttachmentsOwned (task.resume toLowerCase state).1 ↔ AddsOwn state task := by
  have others (notClose : ∀ call session rest, task ≠ .close call session rest) :
      AttachmentsOwned (task.resume toLowerCase state).1 := by
    have kept : Resumed state task (task.resume toLowerCase state) := resumed consistent read
    obtain ⟨middle, effect, same⟩ := kept.effect
    exact (AttachmentsOwned.of_sameTables same).mpr
      (effect.attachmentsOwned notClose owned consistent)
  cases task with
  | close call session rest =>
    rw [UploadTask.resume]
    cases ok : state.closeSession call session with
    | error failure =>
      apply iff_of_true ((AttachmentsOwned.of_sameTables sameTables_answer).mpr owned)
      intro isOpen
      obtain ⟨next, committed⟩ := consistent.closeSession_eq_ok_iff.mpr isOpen
      rw [ok] at committed
      cases committed
    | ok closed =>
      have isOpen := (closeSession_eq_ok ok).1
      apply (AttachmentsOwned.of_sameTables sameTables_nextSession).trans
      apply (attachmentsOwned_close_iff owned consistent read ok).trans
      exact ⟨fun mayAdd _ => mayAdd, fun mayAdd => mayAdd isOpen⟩
  | _ => exact iff_of_true (others (by simp)) trivial

theorem attachmentsOwned_accepted {input : UploadInput} (owned : AttachmentsOwned state) :
    AttachmentsOwned (input.accepted state).1 :=
  have untouched : Untouched state (input.accepted state).1 := untouched_accepted
  owned.of_same untouched.precedes.messages untouched.attachments untouched.links

end Owned

theorem attachmentsOwned_empty : AttachmentsOwned {} := by
  constructor <;> simp [mem_def, Table.empty, linkedCount]

/-- Attachments are owned along a run exactly when each transaction of `complete` that commits for a
message is by its author and finds room. -/
theorem attachments_owned_iff (toLowerCase : String → String)
    {labels : List (Label UploadTask UploadInput)} {finish : State UploadState UploadTask} :
    Steps (Lawful (Step (uploadLoop toLowerCase)) fun state => AttachmentsOwned state.shared)
        ⟨{}, []⟩ labels finish ↔
      Steps (Guarded (Step (uploadLoop toLowerCase)) (OnResume AddsOwn)) ⟨{}, []⟩ labels
        finish := by
  refine lawful_iff_guarded (fun consistent read => (resumed consistent read).keeps consistent)
    (fun accepted consistent => ?_) attachmentsOwned_resume_iff (fun accepted owned => ?_)
    consistent_empty attachmentsOwned_empty
  · obtain ⟨rfl, rfl⟩ := Prod.mk.inj accepted
    exact keeps_accepted consistent
  · obtain ⟨rfl, rfl⟩ := Prod.mk.inj accepted
    exact attachmentsOwned_accepted owned

/-- A file of the second user comes to the message of the first. Two calls of the first user that
count at the same time bring twelve attachments to one message. -/
theorem attachment_of_other_linked :
    (∃ labels finish, Steps (Step (uploadLoop id)) ⟨{}, []⟩ labels finish ∧
      (∃ row ∈ finish.shared.attachments, row.uploaderId = ⟨2⟩ ∧ row.messageId = some ⟨0⟩) ∧
      finish.shared.messages.rows = [⟨⟨0⟩, ⟨0⟩, ⟨1⟩, none⟩] ∧
      ¬AttachmentsOwned finish.shared) ∧
    ∃ labels finish, Steps (Step (uploadLoop id)) ⟨{}, []⟩ labels finish ∧
      finish.shared.linkedCount ⟨0⟩ = 12 ∧ ¬AttachmentsOwned finish.shared := by
  constructor
  · obtain ⟨labels, finish, steps, ⟨row, present, uploader, linked⟩, messages⟩ :=
      exists_steps_of_play ⟨{}, []⟩ (accepts_upload id)
        ([.accept (.send plainSend), .run 0] ++ uploadMoves ⟨2⟩ 0 ++
          [.accept (.complete ⟨2⟩ ⟨0⟩ { messageId := some ⟨0⟩, sessions := [⟨0⟩] })] ++
          List.replicate 6 (.run 0))
        (P := fun finish => (∃ row ∈ finish.shared.attachments.rows, row.uploaderId = ⟨2⟩ ∧
            row.messageId = some ⟨0⟩) ∧
          finish.shared.messages.rows = [⟨⟨0⟩, ⟨0⟩, ⟨1⟩, none⟩]) (by decide +kernel)
    refine ⟨labels, finish, steps, ⟨row, present, uploader, linked⟩, messages, fun owned => ?_⟩
    obtain ⟨message, messageMem, -, author, -⟩ := owned.ofAuthor row present ⟨0⟩ linked
    rw [mem_def, messages, mem_singleton] at messageMem
    rw [messageMem, uploader] at author
    cases author
  · obtain ⟨labels, finish, steps, count⟩ :=
      exists_steps_of_play ⟨{}, []⟩ (accepts_upload id)
        ([.accept (.send plainSend), .run 0] ++ (List.range 12).flatMap (uploadMoves ⟨1⟩) ++
          [.accept (.complete ⟨1⟩ ⟨0⟩
            { messageId := some ⟨0⟩, sessions := (List.range 6).map SessionId.mk }),
          .accept (.complete ⟨1⟩ ⟨0⟩
            { messageId := some ⟨0⟩, sessions := (List.range' 6 6).map SessionId.mk }),
          .run 0, .run 1, .run 0, .run 1, .run 0, .run 1] ++ List.replicate 36 (.run 0))
        (P := fun finish => finish.shared.linkedCount ⟨0⟩ = 12) (by decide +kernel)
    refine ⟨labels, finish, steps, count, fun owned => ?_⟩
    have capped := owned.capped ⟨0⟩
    rw [count] at capped
    exact absurd capped (by decide)

end Bongtalk.Attachments
