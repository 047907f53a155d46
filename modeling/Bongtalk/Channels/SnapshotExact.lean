import Bongtalk.Channels.MarkAllRead
import Bongtalk.Channels.ReadCursor

/-!
# What an undo brings back

The snapshot has the cursors that the statement of a mark-all-read saw when it started. Its
upserts overwrite the cursors that are there when they run, which an acknowledgement may have
moved since.
-/

namespace Bongtalk.Channels

open Library EventLoop Prisma Messages List

variable {userId : UserId} {shared next : CursorState}

/-- A snapshot has the cursors that were overwritten, no cursor of it is behind what the user had
acknowledged then, and an undo brings these cursors back. -/
structure UndoExact (history : History) : Prop where
  marks : ∀ mark ∈ history.marks, mark.snapshot = mark.overwritten
  acknowledged : ∀ mark ∈ history.marks, ∀ entry ∈ mark.snapshot, ∀ cursor,
    (mark.userId, entry.1, cursor) ∈ mark.acknowledged →
      (cursor.position : WithBot Position) ≤ placeOf entry.2
  undos : ∀ undo ∈ history.undos, ∃ mark ∈ history.marks, mark.snapshotId = undo.snapshotId ∧
    mark.userId = undo.userId ∧ undo.cursors = mark.overwritten

/-- A mark-all-read commits while the cursors that it overwrites are the ones its statement saw,
or is rolled back since its id is taken. -/
def PriorCurrent (state : State CursorState CursorTask) :
    Label CursorTask CursorInput → Prop
  | .resume _ (.persist args targets) _ =>
    (∃ row ∈ state.shared.snapshots, row.id = args.snapshotId) ∨
      ∀ target ∈ advanced state.shared.acks.states args.userId targets,
        target.previous = storedCursor state.shared.acks.states args.userId target.channelId
  | _ => True

section Cursors

variable {states : ReadStateTable ChannelId} {otherUser : UserId}
  {channelId otherChannel : ChannelId}

/-- A guarded upsert moves no cursor back. -/
theorem cursorOf_le_advance (cursor : ReadCursor) :
    cursorOf states otherUser otherChannel ≤
      cursorOf (advance states userId channelId cursor) otherUser otherChannel := by
  by_cases same : (userId, channelId) = (otherUser, otherChannel)
  · cases same
    rw [cursorOf_advance]
    exact le_sup_left
  · exact (congrArg placeOf (storedCursor_advance_other cursor same)).ge

theorem cursorOf_le_advanceAll (targets : List Target) :
    cursorOf states otherUser otherChannel ≤
      cursorOf (advanceAll states userId targets) otherUser otherChannel := by
  induction targets generalizing states with
  | nil => exact le_refl _
  | cons target rest ih =>
    exact (cursorOf_le_advance (cursorAt target.latest)).trans ih

/-- A restore leaves the other cursors alone. -/
theorem storedCursor_restoreCursors_other {entries : Snapshot}
    (other : ¬(otherUser = userId ∧ otherChannel ∈ entries.map Prod.fst)) :
    storedCursor (restoreCursors states userId entries) otherUser otherChannel =
      storedCursor states otherUser otherChannel := by
  induction entries generalizing states with
  | nil => rfl
  | cons entry rest ih =>
    rw [map_cons, mem_cons] at other
    rw [restoreCursors, foldl_cons]
    refine (ih fun inRest => other ⟨inRest.1, .inr inRest.2⟩).trans ?_
    rw [storedCursor_upsert]
    refine if_neg fun same => ?_
    obtain ⟨sameUser, sameChannel⟩ := Prod.mk.inj same
    exact other ⟨sameUser.symm, .inl sameChannel.symm⟩

/-- A restore brings back each cursor of the snapshot. -/
theorem storedCursor_restoreCursors {entries : Snapshot}
    (distinct : (entries.map Prod.fst).Nodup) {entry : ChannelId × Option ReadCursor}
    (entryMem : entry ∈ entries) :
    storedCursor (restoreCursors states userId entries) userId entry.1 = entry.2 := by
  induction entries generalizing states with
  | nil => cases entryMem
  | cons first rest ih =>
    obtain ⟨firstFresh, restDistinct⟩ := nodup_cons.mp distinct
    rcases mem_cons.mp entryMem with rfl | inRest
    · refine (storedCursor_restoreCursors_other fun again => firstFresh again.2).trans ?_
      rw [storedCursor_upsert]
      exact if_pos rfl
    · exact ih restDistinct inRest

end Cursors

section Copies

/-- The mark-all-read that a copy comes from. -/
def Marked (marks : List Mark) (snapshotId : SnapshotId) (userId : UserId) (snapshot : Snapshot) :
    Prop :=
  ∃ mark ∈ marks, mark.snapshotId = snapshotId ∧ mark.userId = userId ∧ mark.snapshot = snapshot

/-- What a call carries comes from a mark-all-read; before the commit it has one target at most
for each channel. -/
def CursorTask.Carries (marks : List Mark) : CursorTask → Prop
  | .persist _ targets => (targets.map Target.channelId).Nodup
  | .cache row _ => Marked marks row.id row.userId row.snapshot
  | .consume args snapshot | .restore args snapshot =>
    Marked marks args.snapshotId args.userId snapshot
  | _ => True

structure Kept (shared : CursorState) (tasks : List CursorTask) : Prop where
  acknowledged : ∀ userId channelId cursor,
    (userId, channelId, cursor) ∈ shared.history.acknowledged →
      (cursor.position : WithBot Position) ≤ cursorOf shared.acks.states userId channelId
  copies : ∀ store, ∀ row ∈ shared.store store,
    Marked shared.history.marks row.id row.userId row.snapshot
  carries : ∀ task ∈ tasks, task.Carries shared.history.marks
  distinct : ∀ mark ∈ shared.history.marks, (mark.snapshot.map Prod.fst).Nodup

theorem Marked.mono {marks more : List Mark} (grown : ∀ mark ∈ marks, mark ∈ more)
    {snapshotId : SnapshotId} {snapshot : Snapshot}
    (marked : Marked marks snapshotId userId snapshot) :
    Marked more snapshotId userId snapshot := by
  obtain ⟨mark, markMem, same⟩ := marked
  exact ⟨mark, grown mark markMem, same⟩

theorem CursorTask.Carries.mono {marks more : List Mark} (grown : ∀ mark ∈ marks, mark ∈ more)
    {task : CursorTask} (carries : task.Carries marks) : task.Carries more := by
  cases task with
  | persist => exact carries
  | cache | consume | restore => exact Marked.mono grown carries
  | _ => trivial

variable {before after spawned : List CursorTask} {task : CursorTask}

/-- A step that marks nothing keeps the copies if it makes none. -/
theorem Kept.resume (kept : Kept shared (before ++ task :: after))
    (marks : next.history.marks = shared.history.marks)
    (acknowledged : ∀ userId channelId cursor,
      (userId, channelId, cursor) ∈ next.history.acknowledged →
        (cursor.position : WithBot Position) ≤ cursorOf next.acks.states userId channelId)
    (copies : ∀ store, ∀ row ∈ next.store store, row ∈ shared.store store ∨
      Marked shared.history.marks row.id row.userId row.snapshot)
    (carries : ∀ new ∈ spawned, new.Carries shared.history.marks) :
    Kept next (before ++ spawned ++ after) where
  acknowledged := acknowledged
  copies := by
    intro store row present
    rw [marks]
    rcases copies store row present with old | marked
    · exact kept.copies store row old
    · exact marked
  carries := by
    intro other otherMem
    rw [marks]
    rcases mem_resumed.mp otherMem with waits | isNew
    · exact kept.carries other (mem_pending.mpr (.inr waits))
    · exact carries other isNew
  distinct := by
    rw [marks]
    exact kept.distinct

/-- A step that moves no cursor. -/
theorem Kept.resume_same (kept : Kept shared (before ++ task :: after))
    (acks : next.acks = shared.acks) (marks : next.history.marks = shared.history.marks)
    (acknowledged : next.history.acknowledged = shared.history.acknowledged)
    (copies : ∀ store, ∀ row ∈ next.store store, row ∈ shared.store store ∨
      Marked shared.history.marks row.id row.userId row.snapshot)
    (carries : ∀ new ∈ spawned, new.Carries shared.history.marks) :
    Kept next (before ++ spawned ++ after) := by
  refine kept.resume marks ?_ copies carries
  rw [acks, acknowledged]
  exact kept.acknowledged

/-- Cursors that move back take the acknowledgements back. -/
theorem acknowledged_takeBack {tasks : List CursorTask} (kept : Kept shared tasks)
    {entries : Snapshot} {otherUser : UserId} {channelId : ChannelId} {cursor : ReadCursor}
    (isAcknowledged : (otherUser, channelId, cursor) ∈ (shared.history.takeBack userId (entries.map
      Prod.fst)).acknowledged) :
    (cursor.position : WithBot Position) ≤
      cursorOf (restoreCursors shared.acks.states userId entries) otherUser channelId := by
  obtain ⟨old, notBack⟩ := mem_filter.mp isAcknowledged
  have same : storedCursor (restoreCursors shared.acks.states userId entries) otherUser channelId =
      storedCursor shared.acks.states otherUser channelId :=
    storedCursor_restoreCursors_other
      (by simpa only [Bool.not_eq_true', decide_eq_false_iff_not] using notBack)
  rw [cursorOf, same]
  exact kept.acknowledged otherUser channelId cursor old

theorem nodup_targets (state : AckState ChannelId) (args : MarkAllReadArgs) :
    ((targets state args).map Target.channelId).Nodup := by
  have channels : ∀ channelIds : List ChannelId, ((channelIds.filterMap fun channelId =>
      (latestRoot state.messages channelId).map fun latest =>
        ({ channelId, latest, previous := storedCursor state.states args.userId channelId } :
          Target)).map Target.channelId).Sublist channelIds := by
    intro channelIds
    induction channelIds with
    | nil => exact Sublist.refl _
    | cons channelId rest ih =>
      rw [filterMap_cons]
      cases latestRoot state.messages channelId with
      | none => exact ih.cons channelId
      | some latest => exact ih.cons_cons channelId
  exact (nodup_dedup args.visible).sublist (channels _)

/-- The snapshot of a mark-all-read has each channel once. -/
theorem nodup_snapshotOf {states : ReadStateTable ChannelId} {targets : List Target}
    (distinct : (targets.map Target.channelId).Nodup) :
    ((snapshotOf (advanced states userId targets)).map Prod.fst).Nodup := by
  rw [snapshotOf, map_map]
  exact distinct.sublist (filter_sublist.map Target.channelId)

theorem kept_persist {args : MarkAllReadArgs} {targets : List Target}
    (kept : Kept shared (before ++ .persist args targets :: after))
    (committed : commitMark shared args targets = some next) :
    Kept next (before ++ [.cache (snapshotRow shared args targets) args.cached] ++ after) := by
  obtain ⟨snapshots, inserted, rfl⟩ := commitMark_eq_some committed
  have grown : ∀ mark ∈ shared.history.marks,
      mark ∈ markOf shared args targets :: shared.history.marks :=
    fun _ => mem_cons_of_mem _
  have new : Marked (markOf shared args targets :: shared.history.marks) args.snapshotId args.userId
      (snapshotRow shared args targets).snapshot :=
    ⟨markOf shared args targets, mem_cons_self, rfl, rfl, rfl⟩
  refine ⟨fun userId channelId cursor isAcknowledged => ?_, fun store row present => ?_, ?_, ?_⟩
  · exact (kept.acknowledged userId channelId cursor isAcknowledged).trans
      (cursorOf_le_advanceAll _)
  · cases store with
    | redis => exact (kept.copies .redis row present).mono grown
    | database =>
      rcases (Table.mem_insert? inserted).mp present with rfl | old
      · exact new
      · exact (kept.copies .database row old).mono grown
  · intro other otherMem
    rcases mem_resumed.mp otherMem with waits | isNew
    · exact (kept.carries other (mem_pending.mpr (.inr waits))).mono grown
    obtain rfl := mem_singleton.mp isNew
    exact new
  · have carried : (targets.map Target.channelId).Nodup :=
      kept.carries _ (mem_pending.mpr (.inl rfl))
    exact forall_mem_cons.mpr ⟨nodup_snapshotOf carried, kept.distinct⟩

theorem kept_ack {ackTask : AckTask ChannelId}
    (kept : Kept shared (before ++ .ack ackTask :: after)) :
    Kept ((CursorTask.ack ackTask).resume shared).1
      (before ++ ((CursorTask.ack ackTask).resume shared).2 ++ after) := by
  have idle : ∀ new ∈ ((CursorTask.ack ackTask).resume shared).2,
      new.Carries shared.history.marks := by
    intro new newMem
    obtain ⟨_, -, rfl⟩ := mem_map.mp newMem
    trivial
  cases ackTask with
  | find args =>
    refine kept.resume_same ?_ rfl rfl (fun _ _ => .inl) idle
    change (AckTask.resume ofChannel _ shared.acks (.find args)).1 = shared.acks
    rw [AckTask.resume]
    split <;> rfl
  | upsert args message =>
    refine kept.resume rfl (fun userId channelId cursor isAcknowledged => ?_) (fun _ _ => .inl) idle
    rcases mem_cons.mp isAcknowledged with same | old
    · obtain ⟨rfl, rfl, rfl⟩ : userId = args.userId ∧ channelId = args.scope ∧
          cursor = cursorAt message := by
        simpa using same
      have joined : cursorOf (advance shared.acks.states args.userId args.scope (cursorAt message))
          args.userId args.scope = _ := cursorOf_advance (cursorAt message)
      exact le_sup_right.trans joined.ge
    · exact (kept.acknowledged userId channelId cursor old).trans
        (cursorOf_le_advance (cursorAt message))

theorem kept_of_effect (kept : Kept shared (before ++ task :: after))
    (effect : task.Effect shared next spawned) : Kept next (before ++ spawned ++ after) := by
  have carried := kept.carries task (mem_pending.mpr (.inl rfl))
  cases effect with
  | ack ackTask => exact kept_ack kept
  | ends | refuse => exact kept.resume_same rfl rfl rfl (fun _ _ => .inl) fun _ new => nomatch new
  | passes passes fewer =>
    refine kept.resume_same rfl rfl rfl (fun store row present => .inl (fewer store row present))
      fun new newMem => ?_
    obtain rfl := mem_singleton.mp newMem
    cases passes with
    | restore => exact carried
    | _ => trivial
  | moveBack | restore =>
    refine kept.resume rfl (fun userId channelId cursor isAcknowledged => ?_) (fun _ _ => .inl)
      fun _ new => nomatch new
    exact acknowledged_takeBack kept isAcknowledged
  | advance =>
    refine kept.resume_same rfl rfl rfl (fun _ _ => .inl) fun new newMem => ?_
    obtain rfl := mem_singleton.mp newMem
    exact nodup_targets shared.acks _
  | persist committed => exact kept_persist kept committed
  | cache =>
    refine kept.resume_same rfl rfl rfl (fun store other present => ?_) fun _ new => nomatch new
    cases store with
    | database => exact .inl present
    | redis =>
      rcases Table.mem_upsert.mp present with rfl | ⟨old, -⟩
      · exact .inr carried
      · exact .inl old
  | handOut store goesOn present fewer =>
    refine kept.resume_same rfl rfl rfl
      (fun other row rowMem => .inl (fewer other row rowMem).1) fun new newMem => ?_
    obtain ⟨copy, copyMem, sameId, sameUser, sameSnapshot⟩ := present
    have marked := kept.copies store copy copyMem
    rw [sameId, sameUser, sameSnapshot] at marked
    obtain rfl := mem_singleton.mp newMem
    rcases goesOn with rfl | rfl
    · exact marked
    · exact marked

theorem kept_accept {tasks : List CursorTask} {input : CursorInput} (kept : Kept shared tasks) :
    Kept (input.after shared) (tasks ++ input.starts) := by
  have cursors : ∀ userId channelId, storedCursor (input.after shared).acks.states userId channelId =
      storedCursor shared.acks.states userId channelId := by
    intro userId channelId
    cases input with
    | acks input =>
      cases input with
      | replay otherUser otherChannel => exact storedCursor_touch
      | _ => rfl
    | _ => rfl
  have idle : ∀ new ∈ input.starts, new.Carries shared.history.marks := by
    cases input with
    | acks input =>
      intro new newMem
      obtain ⟨_, -, rfl⟩ := mem_map.mp newMem
      trivial
    | _ => simp [CursorInput.starts, CursorTask.Carries]
  have marks : (input.after shared).history.marks = shared.history.marks := by
    cases input <;> rfl
  have acknowledged : (input.after shared).history.acknowledged = shared.history.acknowledged := by
    cases input <;> rfl
  refine ⟨fun userId channelId cursor isAcknowledged => ?_, fun store row present => ?_, ?_, ?_⟩
  · rw [acknowledged] at isAcknowledged
    rw [cursorOf, cursors]
    exact kept.acknowledged userId channelId cursor isAcknowledged
  · rw [marks]
    apply kept.copies store row
    cases store with
    | database => cases input <;> exact present
    | redis =>
      cases input with
      | evict snapshotId => exact (Table.mem_deleteMany.mp present).1
      | _ => exact present
  · intro other otherMem
    rw [marks]
    rcases mem_append.mp otherMem with waits | isNew
    · exact kept.carries other waits
    · exact idle other isNew
  · rw [marks]
    exact kept.distinct

end Copies

theorem UndoExact.same {history later : History} (exact : UndoExact history)
    (marks : later.marks = history.marks) (undos : later.undos = history.undos) :
    UndoExact later := by
  refine ⟨?_, ?_, ?_⟩
  · rw [marks]
    exact exact.marks
  · rw [marks]
    exact exact.acknowledged
  · rw [marks, undos]
    exact exact.undos

/-- What is overwritten is at least what the user had acknowledged. So a mark-all-read is exact
when its statement saw the cursors that it overwrites. -/
theorem undoExact_persist_iff {tasks : List CursorTask} {args : MarkAllReadArgs}
    {targets : List Target} (kept : Kept shared tasks) (exact : UndoExact shared.history)
    (committed : commitMark shared args targets = some next) :
    UndoExact next.history ↔
      ∀ target ∈ advanced shared.acks.states args.userId targets,
        target.previous = storedCursor shared.acks.states args.userId target.channelId := by
  obtain ⟨snapshots, -, rfl⟩ := commitMark_eq_some committed
  constructor
  · intro exactNext target targetMem
    have same : snapshotOf (advanced shared.acks.states args.userId targets) =
        overwrittenBy shared.acks.states args.userId
          (advanced shared.acks.states args.userId targets) :=
      exactNext.marks _ mem_cons_self
    exact (Prod.mk.inj (map_inj_left.mp same target targetMem)).2
  · intro current
    have same : (markOf shared args targets).snapshot = (markOf shared args targets).overwritten :=
      map_congr_left fun target targetMem => Prod.ext rfl (current target targetMem)
    refine ⟨forall_mem_cons.mpr ⟨same, exact.marks⟩,
      forall_mem_cons.mpr ⟨?_, exact.acknowledged⟩, fun undo undoMem => ?_⟩
    · intro entry entryMem cursor isAcknowledged
      rw [same] at entryMem
      obtain ⟨target, -, rfl⟩ := mem_map.mp entryMem
      exact kept.acknowledged args.userId target.channelId cursor isAcknowledged
    · obtain ⟨mark, markMem, comesFrom⟩ := exact.undos undo undoMem
      exact ⟨mark, mem_cons_of_mem _ markMem, comesFrom⟩

/-- An undo brings back the cursors of its snapshot. -/
theorem undoExact_restore {before after : List CursorTask} {args : UndoArgs} {snapshot : Snapshot}
    (kept : Kept shared (before ++ .restore args snapshot :: after))
    (exact : UndoExact shared.history) : UndoExact (commitUndo shared args snapshot).history := by
  obtain ⟨mark, markMem, sameId, sameUser, sameSnapshot⟩ :
      Marked shared.history.marks args.snapshotId args.userId snapshot :=
    kept.carries _ (mem_pending.mpr (.inl rfl))
  have distinct : (snapshot.map Prod.fst).Nodup := by
    rw [← sameSnapshot]
    exact kept.distinct mark markMem
  have restored : (snapshot.map Prod.fst).map (fun channelId => (channelId, storedCursor
      (restoreCursors shared.acks.states args.userId snapshot) args.userId channelId)) =
      snapshot := by
    rw [map_map]
    calc
      _ = snapshot.map id := by
        refine map_congr_left fun entry entryMem => ?_
        exact Prod.ext rfl (storedCursor_restoreCursors distinct entryMem)
      _ = snapshot := map_id snapshot
  refine ⟨exact.marks, exact.acknowledged, forall_mem_cons.mpr ⟨?_, exact.undos⟩⟩
  exact ⟨mark, markMem, sameId, sameUser,
    restored.trans (sameSnapshot.symm.trans (exact.marks mark markMem))⟩

theorem undoExact_resume_iff {before after : List CursorTask} {task : CursorTask}
    (kept : Kept shared (before ++ task :: after)) (exact : UndoExact shared.history) :
    UndoExact (task.resume shared).1.history ↔
      PriorCurrent ⟨shared, before ++ task :: after⟩ (.resume before task after) := by
  cases task with
  | persist args targets =>
    simp only [CursorTask.resume, PriorCurrent]
    cases committed : commitMark shared args targets with
    | none =>
      refine iff_of_true exact (.inl ?_)
      exact Table.insert?_eq_none_iff.mp (Option.map_eq_none_iff.mp committed)
    | some next =>
      rw [undoExact_persist_iff kept exact committed]
      obtain ⟨snapshots, inserted, -⟩ := commitMark_eq_some committed
      refine (or_iff_right ?_).symm
      rintro ⟨row, present, sameId⟩
      exact (Table.insert?_eq_some_iff.mp inserted).1 row present sameId
  | restore args snapshot =>
    refine iff_of_true ?_ trivial
    simp only [CursorTask.resume]
    split
    · exact exact
    · exact undoExact_restore kept exact
  | ack ackTask =>
    refine iff_of_true (exact.same ?_ ?_) trivial
    · cases ackTask <;> rfl
    · cases ackTask <;> rfl
  | claim args | load args | consume args | cache row | unreadFind args =>
    refine iff_of_true ?_ trivial
    simp only [CursorTask.resume]
    split <;> exact exact.same rfl rfl
  | unreadBefore | setBackward | advance => exact iff_of_true (exact.same rfl rfl) trivial

/-- Every undo of a run is exact, and brings no cursor behind what the user had acknowledged when
the mark-all-read took effect, exactly when each mark-all-read of the run overwrites the
cursors that its statement saw. -/
theorem undo_exact_iff (acks : AckState ChannelId) (now : DateTime)
    (labels : List (Label CursorTask CursorInput))
    (finish : State CursorState CursorTask) :
    Steps (Lawful (Step cursorLoop) fun state => UndoExact state.shared.history)
        (CursorState.initial acks now) labels finish ↔
      Steps (Guarded (Step cursorLoop) PriorCurrent) (CursorState.initial acks now) labels
        finish := by
  refine Steps.lawful_iff_guarded (fun state => Kept state.shared state.tasks) ?_ ?_ ?_ ?_
  · intro state label next step kept
    cases step with
    | resume before task after => exact kept_of_effect kept (task.effect_resume _)
    | accept accepted =>
      obtain ⟨-, rfl, rfl⟩ := accepted
      exact kept_accept kept
  · intro state label next step kept exact
    cases step with
    | resume before task after => exact undoExact_resume_iff kept exact
    | @accept shared tasks input _ _ accepted =>
      obtain ⟨-, rfl, rfl⟩ := accepted
      refine iff_of_true (exact.same ?_ ?_) trivial
      · cases input <;> rfl
      · cases input <;> rfl
  · refine ⟨fun _ _ _ isAcknowledged => (nomatch isAcknowledged), fun store row present => ?_,
      fun _ pending => (nomatch pending), fun _ isMark => (nomatch isMark)⟩
    cases store <;> cases present
  · exact ⟨fun _ isMark => (nomatch isMark), fun _ isMark => (nomatch isMark),
      fun _ isUndo => (nomatch isUndo)⟩

/-- Channel 1 of workspace 1 with two messages, which user 2 has not read. -/
def twoUnread : AckState ChannelId :=
  { messages := [SendRow.mk ⟨1⟩ ⟨1⟩ ⟨1⟩ "one" "" {} none none none 1,
      SendRow.mk ⟨2⟩ ⟨1⟩ ⟨1⟩ "two" "" {} none none none 2].foldl
        (fun messages row => (sendMessage messages row).toOption.getD messages) .empty }

def readBoth : MarkAllReadArgs :=
  { userId := ⟨2⟩, workspaceId := ⟨1⟩, snapshotId := ⟨1⟩, visible := [⟨1⟩] }

def undoBoth : UndoArgs :=
  { userId := ⟨2⟩, workspaceId := ⟨1⟩, snapshotId := ⟨1⟩ }

/-- User 2 acknowledges the first message. -/
def readFirst : AckArgs ChannelId :=
  { userId := ⟨2⟩, scope := ⟨1⟩, lastReadMessageId := ⟨1⟩ }

/-- An undo brings back a cursor from before the acknowledgement that the mark-all-read
overwrote. -/
theorem undo_behind_acknowledgement : ∃ labels finish,
    Steps (Step cursorLoop) (CursorState.initial twoUnread 2) labels finish ∧
      finish.tasks.length = 0 ∧ storedCursor finish.shared.acks.states ⟨2⟩ ⟨1⟩ = none ∧
      finish.shared.history.marks.map Mark.overwritten =
        [[(⟨1⟩, some { createdAt := 1, messageId := ⟨1⟩ })]] ∧
      ¬UndoExact finish.shared.history := by
  -- The statement of the mark-all-read starts before the acknowledgement commits.
  obtain ⟨labels, steps⟩ := exists_steps_cursor (CursorState.initial twoUnread 2)
    [.accept (.acks (.ack readFirst)), .run 0, .accept (.markAllRead readBoth), .run 1, .run 0,
      .run 0, .run 0, .accept (.undoMarkAllRead undoBoth), .run 0, .run 0, .run 0] rfl
  refine ⟨labels, _, steps, by decide +kernel, by decide +kernel, by decide +kernel,
    fun exact => ?_⟩
  exact absurd (exact.marks _ (.head _)) (by decide +kernel)

end Bongtalk.Channels
