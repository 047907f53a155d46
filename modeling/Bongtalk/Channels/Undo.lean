import Bongtalk.Channels.MarkAllRead

/-!
# One undo for each snapshot

Each of the two stores hands out its copy of a snapshot once. A call that takes the copy of
Redis deletes the row of the database afterwards, so another call may take the row before that,
or when the delete fails, or when Redis was out of reach for the first call.
-/

namespace Bongtalk.Channels

open Library EventLoop Prisma Messages CursorTask List

variable {shared next : CursorState}

/-- The snapshots that calls got, and from where. -/
def History.handed (history : History) : List (SnapshotId × SnapshotStore) :=
  history.answers.filterMap fun answer => answer.2.toOption.map (answer.1, ·)

/-- One call at most gets a snapshot and one at most restores it; the others learn that it is
gone. -/
structure UndoneOnce (state : State CursorState CursorTask) : Prop where
  handed : (state.shared.history.handed.map Prod.fst).Nodup
  undone : (state.shared.history.undos.map Undone.snapshotId).Nodup
  refused : ∀ snapshotId failure, (snapshotId, .error failure) ∈ state.shared.history.answers →
    failure = snapshotNotFound

/-- The copy that a step of a call takes. -/
def CursorTask.takes (shared : CursorState) : CursorTask → Option (SnapshotId × SnapshotStore)
  | .claim args =>
    match args.reply, (snapshotClaim shared.redis shared.now args).2 with
    | .answers, .claimed _ => some (args.snapshotId, .redis)
    | _, _ => none
  | .load args =>
    match deleteReturning shared.snapshots shared.now args with
    | .ok _ => some (args.snapshotId, .database)
    | .error _ => none
  | _ => none

def SnapshotStore.other : SnapshotStore → SnapshotStore
  | .redis => .database
  | .database => .redis

/-- A call takes a copy only while no call has got the copy of the other store. -/
def OtherCopyKept (state : State CursorState CursorTask) :
    Label CursorTask CursorInput → Prop
  | .resume _ task _ => ∀ snapshotId store, task.takes state.shared = some (snapshotId, store) →
      (snapshotId, store.other) ∉ state.shared.history.handed
  | .accept _ => True

/-- The id of the snapshot that a mark-all-read is about to store. -/
def CursorTask.marks : CursorTask → Option SnapshotId
  | .advance args | .persist args _ => some args.snapshotId
  | .cache row _ => some row.id
  | _ => none

/-- The copies that a mark-all-read has yet to store. -/
def CursorTask.fills : CursorTask → List (SnapshotId × SnapshotStore)
  | .advance args | .persist args _ =>
    [(args.snapshotId, .database), (args.snapshotId, .redis)]
  | .cache row _ => [(row.id, .redis)]
  | _ => []

/-- A copy that a store still has was not handed out from it, and a copy that is yet to come is
neither there nor handed out. -/
structure Apart (shared : CursorState) (tasks : List CursorTask) : Prop where
  exclusive : Exclusive marks shared.history.issued tasks
  copies : ∀ store, ∀ row ∈ shared.store store, row.id ∈ shared.history.issued ∧
    (row.id, store) ∉ shared.history.handed
  handed : ∀ entry ∈ shared.history.handed, entry.1 ∈ shared.history.issued
  unused : ∀ task ∈ tasks, ∀ entry ∈ task.fills, entry ∉ shared.history.handed ∧
    ∀ row ∈ shared.store entry.2, row.id ≠ entry.1

theorem CursorTask.marks_of_fills {task : CursorTask} {entry : SnapshotId × SnapshotStore}
    (fills : entry ∈ task.fills) : task.marks = some entry.1 := by
  cases task with
  | advance args | persist args _ =>
    simp only [CursorTask.fills, mem_cons, not_mem_nil, or_false] at fills
    rcases fills with rfl | rfl <;> rfl
  | cache row _ =>
    obtain rfl := mem_singleton.mp fills
    rfl
  | _ => cases fills

theorem CursorTask.fills_of_marks_eq_none {task : CursorTask} (idle : task.marks = none) :
    task.fills = [] := by
  cases task with
  | advance | persist | cache => cases idle
  | _ => rfl

/-- A step that stores no copy and hands none out. -/
structure Keeps (shared next : CursorState) : Prop where
  copies : ∀ store, ∀ row ∈ next.store store, row ∈ shared.store store
  handed : next.history.handed = shared.history.handed
  issued : next.history.issued = shared.history.issued

theorem Keeps.refl (shared : CursorState) : Keeps shared shared :=
  ⟨fun _ _ => id, rfl, rfl⟩

theorem Apart.keeps {tasks newTasks : List CursorTask} (apart : Apart shared tasks)
    (keeps : Keeps shared next)
    (exclusive : Exclusive marks shared.history.issued newTasks)
    (fills : ∀ task ∈ newTasks, ∀ entry ∈ task.fills, ∃ old ∈ tasks, entry ∈ old.fills) :
    Apart next newTasks where
  exclusive := by
    rw [keeps.issued]
    exact exclusive
  copies := by
    intro store row present
    rw [keeps.issued, keeps.handed]
    exact apart.copies store row (keeps.copies store row present)
  handed := by
    rw [keeps.issued, keeps.handed]
    exact apart.handed
  unused := by
    intro task pending entry entryMem
    obtain ⟨old, oldMem, oldFills⟩ := fills task pending entry entryMem
    obtain ⟨notHanded, absent⟩ := apart.unused old oldMem entry oldFills
    rw [keeps.handed]
    exact ⟨notHanded, fun row present => absent row (keeps.copies entry.2 row present)⟩

theorem apart_initial (acks : AckState ChannelId) (now : DateTime) :
    Apart (CursorState.initial acks now).shared (CursorState.initial acks now).tasks where
  exclusive := ⟨Pairwise.nil, fun _ pending => nomatch pending⟩
  copies := by
    intro store row present
    cases store <;> cases present
  handed := fun _ isHanded => nomatch isHanded
  unused := fun _ pending => nomatch pending

section Resume

variable {before after spawned : List CursorTask} {task new : CursorTask}

variable (apart : Apart shared (before ++ task :: after))

include apart

/-- A call that goes on without a copy to store. -/
theorem Apart.resume_keeps (keeps : Keeps shared next) (idle : ∀ new ∈ spawned, new.marks = none) :
    Apart next (before ++ spawned ++ after) := by
  refine apart.keeps keeps (apart.exclusive.resume_free idle) fun other otherMem entry fills => ?_
  rcases mem_resumed.mp otherMem with waits | isNew
  · exact ⟨other, mem_pending.mpr (.inr waits), fills⟩
  rw [fills_of_marks_eq_none (idle other isNew)] at fills
  cases fills

/-- A mark-all-read stores one of its copies. -/
theorem Apart.resume_fills {entry : SnapshotId × SnapshotStore} (fills : entry ∈ task.fills)
    (copies : ∀ store, ∀ row ∈ next.store store, (row.id, store) = entry ∨ row ∈ shared.store store)
    (handed : next.history.handed = shared.history.handed)
    (issued : next.history.issued = shared.history.issued)
    (exclusive : Exclusive marks shared.history.issued (before ++ spawned ++
      after)) (rest : ∀ new ∈ spawned, ∀ other ∈ new.fills, other ∈ task.fills ∧ other ≠ entry) :
    Apart next (before ++ spawned ++ after) where
  exclusive := by
    rw [issued]
    exact exclusive
  copies := by
    intro store row present
    rw [issued, handed]
    rcases copies store row present with rfl | old
    · exact ⟨apart.exclusive.locked task (mem_pending.mpr (.inl rfl)) row.id
          (marks_of_fills fills),
        (apart.unused task (mem_pending.mpr (.inl rfl)) _ fills).1⟩
    · exact apart.copies store row old
  handed := by
    rw [issued, handed]
    exact apart.handed
  unused := by
    intro other otherMem otherEntry otherFills
    -- No task that waits stores this snapshot, and the call has this copy behind it.
    obtain ⟨⟨notHanded, absent⟩, different⟩ : (otherEntry ∉ shared.history.handed ∧
        ∀ row ∈ shared.store otherEntry.2, row.id ≠ otherEntry.1) ∧ otherEntry ≠ entry := by
      rcases mem_resumed.mp otherMem with waits | isNew
      · refine ⟨apart.unused other (mem_pending.mpr (.inr waits)) otherEntry otherFills, ?_⟩
        rintro rfl
        exact apart.exclusive.ne_of_waits (marks_of_fills fills) waits (marks_of_fills otherFills)
      · obtain ⟨ofTask, different⟩ := rest other isNew otherEntry otherFills
        exact ⟨apart.unused task (mem_pending.mpr (.inl rfl)) otherEntry ofTask, different⟩
    rw [handed]
    refine ⟨notHanded, fun row present same => ?_⟩
    rcases copies otherEntry.2 row present with stored | old
    · exact different (stored ▸ Prod.ext same.symm rfl)
    · exact absent row old same

/-- A store hands out its copy of a snapshot. -/
theorem Apart.resume_handsOut {snapshotId : SnapshotId} (store : SnapshotStore)
    (present : ∃ row ∈ shared.store store, row.id = snapshotId)
    (copies : ∀ other, ∀ row ∈ next.store other, row ∈ shared.store other ∧ (row.id, other) ≠
      (snapshotId, store))
    (handed : next.history.handed = (snapshotId, store) :: shared.history.handed)
    (issued : next.history.issued = shared.history.issued)
    (idle : ∀ new ∈ spawned, new.marks = none) :
    Apart next (before ++ spawned ++ after) where
  exclusive := by
    rw [issued]
    exact apart.exclusive.resume_free idle
  copies := by
    intro other row rowMem
    obtain ⟨old, different⟩ := copies other row rowMem
    obtain ⟨isIssued, notHanded⟩ := apart.copies other row old
    rw [issued, handed, mem_cons, not_or]
    exact ⟨isIssued, different, notHanded⟩
  handed := by
    obtain ⟨row, rowMem, rfl⟩ := present
    rw [issued, handed]
    exact forall_mem_cons.mpr ⟨(apart.copies store row rowMem).1, apart.handed⟩
  unused := by
    intro other otherMem entry fills
    rcases mem_resumed.mp otherMem with waits | isNew
    · obtain ⟨notHanded, absent⟩ :=
        apart.unused other (mem_pending.mpr (.inr waits)) entry fills
      rw [handed, mem_cons, not_or]
      refine ⟨⟨?_, notHanded⟩, fun row rowMem => absent row (copies entry.2 row rowMem).1⟩
      rintro rfl
      obtain ⟨row, rowMem, same⟩ := present
      exact absent row rowMem same
    · rw [fills_of_marks_eq_none (idle other isNew)] at fills
      cases fills

theorem apart_of_effect (effect : task.Effect shared next spawned) :
    Apart next (before ++ spawned ++ after) := by
  cases effect with
  | ack ackTask =>
    refine apart.resume_keeps ⟨fun _ _ => id, ?_, ?_⟩ fun new newMem => ?_
    · cases ackTask <;> rfl
    · cases ackTask <;> rfl
    · obtain ⟨task, -, rfl⟩ := mem_map.mp newMem
      rfl
  | ends => exact apart.resume_keeps (.refl _) fun _ new => nomatch new
  | passes passes fewer =>
    refine apart.resume_keeps ⟨fewer, rfl, rfl⟩ fun new newMem => ?_
    obtain rfl := mem_singleton.mp newMem
    cases passes <;> rfl
  | moveBack | refuse | restore =>
    exact apart.resume_keeps ⟨fun _ _ => id, rfl, rfl⟩ fun _ new => nomatch new
  | advance =>
    refine apart.keeps (.refl _) (apart.exclusive.resume_held rfl) fun other otherMem entry fills => ?_
    rcases mem_resumed.mp otherMem with waits | isNew
    · exact ⟨other, mem_pending.mpr (.inr waits), fills⟩
    obtain rfl := mem_singleton.mp isNew
    exact ⟨_, mem_pending.mpr (.inl rfl), fills⟩
  | persist committed =>
    obtain ⟨snapshots, inserted, rfl⟩ := commitMark_eq_some committed
    refine apart.resume_fills (mem_cons_self) ?_ rfl rfl (apart.exclusive.resume_held rfl) ?_
    · intro store row present
      cases store with
      | redis => exact .inr present
      | database =>
        rcases (Table.mem_insert? inserted).mp present with rfl | old
        · exact .inl rfl
        · exact .inr old
    · simp [fills, snapshotRow]
  | cache =>
    refine apart.resume_fills (mem_singleton_self _) ?_ rfl rfl
      (apart.exclusive.resume_free fun _ new => nomatch new) fun _ new => nomatch new
    intro store other present
    cases store with
    | redis =>
      rcases Table.mem_upsert.mp present with rfl | ⟨old, -⟩
      · exact .inl rfl
      · exact .inr old
    | database => exact .inr present
  | handOut store goesOn present fewer =>
    obtain ⟨copy, copyMem, sameId, -⟩ := present
    refine apart.resume_handsOut store ⟨copy, copyMem, sameId⟩ fewer rfl rfl fun new newMem => ?_
    obtain rfl := mem_singleton.mp newMem
    rcases goesOn with rfl | rfl <;> rfl

end Resume

theorem apart_accept {tasks : List CursorTask} {input : CursorInput} (apart : Apart shared tasks)
    (fresh : input.IsFresh shared) : Apart (input.after shared) (tasks ++ input.starts) := by
  have calm {next : CursorState} {starts : List CursorTask} (keeps : Keeps shared next)
      (idle : ∀ new ∈ starts, new.marks = none) : Apart next (tasks ++ starts) := by
    refine apart.keeps keeps (apart.exclusive.accept idle) fun other otherMem entry fills => ?_
    rcases mem_append.mp otherMem with waits | isNew
    · exact ⟨other, waits, fills⟩
    rw [fills_of_marks_eq_none (idle other isNew)] at fills
    cases fills
  cases input with
  | acks input =>
    refine calm ⟨fun _ _ => id, rfl, rfl⟩ fun new newMem => ?_
    obtain ⟨task, -, rfl⟩ := mem_map.mp newMem
    rfl
  | markUnread args | undoMarkAllRead args =>
    exact calm (.refl _) (by simp [CursorInput.starts, marks])
  | evict snapshotId =>
    refine calm ⟨fun store row present => ?_, rfl, rfl⟩ fun _ new => nomatch new
    cases store with
    | redis => exact (Table.mem_deleteMany.mp present).1
    | database => exact present
  | tick elapsed =>
    exact calm ⟨fun _ _ => id, rfl, rfl⟩ fun _ new => nomatch new
  | markAllRead args =>
    have copies : ∀ store, ∀ row ∈ (CursorInput.after shared (.markAllRead args)).store store,
        row ∈ shared.store store := by
      intro store row present
      cases store <;> exact present
    refine ⟨apart.exclusive.accept_held fresh rfl, ?_, ?_, ?_⟩
    · intro store row present
      obtain ⟨issued, notHanded⟩ := apart.copies store row (copies store row present)
      exact ⟨mem_cons_of_mem _ issued, notHanded⟩
    · exact fun entry entryMem => mem_cons_of_mem _ (apart.handed entry entryMem)
    · intro other otherMem entry fills
      rcases mem_append.mp otherMem with waits | isNew
      · obtain ⟨notHanded, absent⟩ := apart.unused other waits entry fills
        exact ⟨notHanded, fun row present => absent row (copies entry.2 row present)⟩
      · obtain rfl := mem_singleton.mp isNew
        have sameId : args.snapshotId = entry.1 :=
          Option.some.inj (marks_of_fills fills)
        refine ⟨fun isHanded => fresh (sameId ▸ apart.handed entry isHanded), ?_⟩
        intro row present same
        exact fresh (sameId.trans same.symm ▸
          (apart.copies entry.2 row (copies entry.2 row present)).1)

section Calls

/-- The snapshot that a call has got and not restored yet. -/
def CursorTask.restores (snapshotId : SnapshotId) : CursorTask → Bool
  | .consume args _ | .restore args _ => args.snapshotId == snapshotId
  | _ => false

/-- The calls that restore a snapshot, or will, are among those that got it; the other calls got
the error. -/
structure Answered (shared : CursorState) (tasks : List CursorTask) : Prop where
  restores : ∀ snapshotId,
    (shared.history.undos.map Undone.snapshotId).count snapshotId +
        tasks.countP (CursorTask.restores snapshotId) ≤
      (shared.history.handed.map Prod.fst).count snapshotId
  refused : ∀ snapshotId failure, (snapshotId, .error failure) ∈ shared.history.answers →
    failure = snapshotNotFound

variable {task : CursorTask}

variable {before after spawned : List CursorTask}

/-- A step accounts for the calls that it leaves. -/
theorem Answered.resume (answered : Answered shared (before ++ task :: after))
    (accounts : ∀ snapshotId, (next.history.undos.map Undone.snapshotId).count snapshotId +
      spawned.countP (CursorTask.restores snapshotId) + (shared.history.handed.map Prod.fst).count
      snapshotId ≤ (shared.history.undos.map Undone.snapshotId).count snapshotId + [task].countP
      (CursorTask.restores snapshotId) + (next.history.handed.map Prod.fst).count snapshotId)
    (refused : ∀ snapshotId failure, (snapshotId, .error failure) ∈ next.history.answers →
      (snapshotId, .error failure) ∈ shared.history.answers ∨ failure = snapshotNotFound) :
    Answered next (before ++ spawned ++ after) where
  restores := by
    intro snapshotId
    have earlier := answered.restores snapshotId
    have account := accounts snapshotId
    simp only [countP_append, countP_cons, countP_nil] at earlier account ⊢
    omega
  refused := by
    intro snapshotId failure isAnswer
    rcases refused snapshotId failure isAnswer with old | isNew
    · exact answered.refused snapshotId failure old
    · exact isNew

/-- A step that answers no call and restores nothing. -/
theorem Answered.resume_same (answered : Answered shared (before ++ task :: after))
    (answers : next.history.answers = shared.history.answers)
    (undos : next.history.undos = shared.history.undos)
    (fewer : ∀ snapshotId, spawned.countP (CursorTask.restores snapshotId) ≤ [task].countP
      (CursorTask.restores snapshotId)) :
    Answered next (before ++ spawned ++ after) := by
  refine answered.resume (fun snapshotId => ?_) fun snapshotId failure isAnswer => ?_
  · have few := fewer snapshotId
    rw [undos, History.handed, History.handed, answers]
    omega
  · rw [answers] at isAnswer
    exact .inl isAnswer

/-- A call gets a snapshot and goes on to restore it. -/
theorem Answered.resume_handsOut {before after : List CursorTask} {task new : CursorTask}
    {snapshotId : SnapshotId} {store : SnapshotStore}
    (answered : Answered shared (before ++ task :: after))
    (history : next.history = shared.history.answer snapshotId (.ok store))
    (restores : ∀ other, new.restores other = (snapshotId == other)) :
    Answered next (before ++ [new] ++ after) := by
  refine answered.resume (fun other => ?_) fun other failure isAnswer => ?_
  · have handed : next.history.handed.map Prod.fst =
        snapshotId :: shared.history.handed.map Prod.fst := by
      rw [history]
      rfl
    have undos : next.history.undos = shared.history.undos := by
      rw [history]
      rfl
    rw [handed, undos, count_cons, countP_singleton, restores]
    omega
  · rw [history] at isAnswer
    rcases mem_cons.mp isAnswer with same | old
    · cases (Prod.mk.inj same).2
    · exact .inl old

theorem answered_of_effect (answered : Answered shared (before ++ task :: after))
    (effect : task.Effect shared next spawned) : Answered next (before ++ spawned ++ after) := by
  cases effect with
  | ack ackTask =>
    refine answered.resume_same ?_ ?_ fun snapshotId => ?_
    · cases ackTask <;> rfl
    · cases ackTask <;> rfl
    · have none : ((ackRead.resume shared.acks ackTask).2.map CursorTask.ack).countP
          (restores snapshotId) = 0 := by
        rw [countP_map]
        exact countP_eq_zero.mpr fun _ _ => Bool.false_ne_true
      exact none.trans_le (Nat.zero_le _)
  | passes passes fewer =>
    refine answered.resume_same rfl rfl fun snapshotId => ?_
    cases passes with
    | restore => exact le_refl _
    | _ => exact Nat.zero_le _
  | persist committed =>
    obtain ⟨snapshots, -, rfl⟩ := commitMark_eq_some committed
    exact answered.resume_same rfl rfl fun _ => Nat.zero_le _
  | refuse =>
    refine answered.resume (fun snapshotId => ?_) fun snapshotId failure isAnswer => ?_
    · exact Nat.add_le_add_right (Nat.le_add_right _ _) _
    · rcases mem_cons.mp isAnswer with same | old
      · exact .inr (Except.error.inj (Prod.mk.inj same).2)
      · exact .inl old
  | handOut store goesOn =>
    refine answered.resume_handsOut rfl fun _ => ?_
    rcases goesOn with rfl | rfl <;> rfl
  | @restore args =>
    refine answered.resume (fun snapshotId => ?_) fun snapshotId failure isAnswer => .inl isAnswer
    change (args.snapshotId :: shared.history.undos.map Undone.snapshotId).count snapshotId + 0 +
        (shared.history.handed.map Prod.fst).count snapshotId ≤ _ + _ +
          (shared.history.handed.map Prod.fst).count snapshotId
    rw [count_cons, countP_singleton, restores]
    omega
  | ends | moveBack | advance | cache =>
    exact answered.resume_same rfl rfl fun _ => Nat.zero_le _

variable {tasks : List CursorTask}

theorem answered_accept {input : CursorInput} (answered : Answered shared tasks) :
    Answered (input.after shared) (tasks ++ input.starts) := by
  have none : ∀ snapshotId, input.starts.countP (restores snapshotId) = 0 := by
    intro snapshotId
    cases input with
    | acks input =>
      rw [CursorInput.starts, countP_map]
      exact countP_eq_zero.mpr fun _ _ => Bool.false_ne_true
    | _ => rfl
  have sameHistory : (input.after shared).history.answers = shared.history.answers ∧
      (input.after shared).history.undos = shared.history.undos := by
    cases input <;> exact ⟨rfl, rfl⟩
  refine ⟨fun snapshotId => ?_, ?_⟩
  · rw [countP_append, none, sameHistory.2, History.handed, sameHistory.1]
    exact answered.restores snapshotId
  · rw [sameHistory.1]
    exact answered.refused

theorem handed_resume (task : CursorTask) :
    (task.resume shared).1.history.handed =
      (task.takes shared).toList ++ shared.history.handed := by
  cases task with
  | ack ackTask => cases ackTask <;> rfl
  | persist args targets =>
    simp only [CursorTask.resume]
    cases committed : commitMark shared args targets with
    | none => rfl
    | some next =>
      obtain ⟨snapshots, -, rfl⟩ := commitMark_eq_some committed
      rfl
  | claim args =>
    simp only [CursorTask.resume, CursorTask.takes]
    rcases snapshotClaim shared.redis shared.now args with ⟨redis, result⟩
    cases args.reply <;> cases result <;> rfl
  | load args =>
    simp only [CursorTask.resume, CursorTask.takes]
    cases deleteReturning shared.snapshots shared.now args <;> rfl
  | unreadFind | cache | consume | restore =>
    simp only [CursorTask.resume, CursorTask.takes]
    split <;> rfl
  | _ => rfl

/-- What a call takes was there. -/
theorem present_of_takes {snapshotId : SnapshotId} {store : SnapshotStore}
    (takes : task.takes shared = some (snapshotId, store)) :
    ∃ row ∈ shared.store store, row.id = snapshotId := by
  cases task with
  | claim args =>
    simp only [CursorTask.takes] at takes
    split at takes
    next snapshot _ claimed =>
      cases takes
      obtain ⟨⟨copy, present, sameId, -⟩, -⟩ :=
        snapshotClaim_claimed (Prod.ext rfl claimed)
      exact ⟨copy, present, sameId⟩
    next => cases takes
  | load args =>
    simp only [CursorTask.takes] at takes
    split at takes
    next taken deleted =>
      cases takes
      obtain ⟨⟨row, present, sameId, -⟩, -⟩ := deleteReturning_eq_ok deleted
      exact ⟨row, present, sameId⟩
    next => cases takes
  | _ => cases takes

/-- A call that gets a snapshot for the first time: no call has it from either store. -/
theorem nodup_handed_iff (apart : Apart shared tasks)
    (once : (shared.history.handed.map Prod.fst).Nodup) :
    ((task.takes shared).toList ++ shared.history.handed |>.map Prod.fst).Nodup ↔
      ∀ snapshotId store, task.takes shared = some (snapshotId, store) →
        (snapshotId, store.other) ∉ shared.history.handed := by
  cases takes : task.takes shared with
  | none => exact iff_of_true once nofun
  | some entry =>
    have isTaken : task.takes shared = some (entry.1, entry.2) := takes
    obtain ⟨row, present, rowId⟩ := present_of_takes isTaken
    have notHanded := (apart.copies entry.2 row present).2
    rw [rowId] at notHanded
    simp only [Option.toList_some, cons_append, nil_append, map_cons, nodup_cons, Option.some.injEq]
    constructor
    · rintro ⟨fresh, -⟩ snapshotId store rfl isHanded
      exact fresh (mem_map.mpr ⟨_, isHanded, rfl⟩)
    · intro kept
      refine ⟨fun isHanded => ?_, once⟩
      obtain ⟨⟨snapshotId, store⟩, handedMem, same⟩ := mem_map.mp isHanded
      obtain rfl : snapshotId = entry.1 := same
      have sameOrOther : store = entry.2 ∨ store = entry.2.other := by
        cases store <;> cases entry.2 <;> simp [SnapshotStore.other]
      rcases sameOrOther with rfl | rfl
      · exact notHanded handedMem
      · exact kept _ _ rfl handedMem

/-- The restores and the answers follow from what was handed out. -/
theorem undoneOnce_iff (answered : Answered shared tasks) :
    UndoneOnce ⟨shared, tasks⟩ ↔ (shared.history.handed.map Prod.fst).Nodup := by
  refine ⟨UndoneOnce.handed, fun handed => ⟨handed, ?_, answered.refused⟩⟩
  rw [nodup_iff_count_le_one] at handed ⊢
  intro snapshotId
  have restored := answered.restores snapshotId
  have given := handed snapshotId
  dsimp only at given ⊢
  omega

end Calls

/-- A call that gets no snapshot moves no cursor; and at every state of a run each snapshot has
gone to one call at most, which restored it, exactly when no call of the run takes a copy
after the other copy was taken. -/
theorem undone_once_iff (acks : AckState ChannelId) (now : DateTime)
    (labels : List (Label CursorTask CursorInput))
    (finish : State CursorState CursorTask) :
    (∀ shared args, ((claim args).resume shared).1.acks = shared.acks ∧
        ((load args).resume shared).1.acks = shared.acks) ∧
      (Steps (Lawful (Step cursorLoop) UndoneOnce) (CursorState.initial acks now) labels finish ↔
        Steps (Guarded (Step cursorLoop) OtherCopyKept) (CursorState.initial acks now) labels
          finish) := by
  constructor
  · intro shared args
    constructor
    · simp only [CursorTask.resume]
      split <;> rfl
    · simp only [CursorTask.resume]
      split <;> rfl
  · refine Steps.lawful_iff_guarded
      (fun state => Apart state.shared state.tasks ∧ Answered state.shared state.tasks) ?_ ?_ ?_ ?_
    · rintro state label next step ⟨apart, answered⟩
      cases step with
      | resume before task after =>
        exact ⟨apart_of_effect apart (task.effect_resume _),
          answered_of_effect answered (task.effect_resume _)⟩
      | accept accepted =>
        obtain ⟨fresh, rfl, rfl⟩ := accepted
        exact ⟨apart_accept apart fresh, answered_accept answered⟩
    · rintro state label next step ⟨apart, answered⟩ once
      cases step with
      | resume before task after =>
        refine (undoneOnce_iff (answered_of_effect answered (task.effect_resume _))).trans ?_
        rw [handed_resume]
        exact nodup_handed_iff apart once.handed
      | @accept shared tasks input _ _ accepted =>
        obtain ⟨-, rfl, rfl⟩ := accepted
        refine iff_of_true ((undoneOnce_iff (answered_accept answered)).mpr ?_) trivial
        have same : (input.after shared).history.handed = shared.history.handed := by
          cases input <;> rfl
        rw [same]
        exact once.handed
    · exact ⟨apart_initial acks now, fun _ => le_refl _, fun _ _ isAnswer => (by cases isAnswer)⟩
    · exact ⟨nodup_nil, nodup_nil, fun _ _ isAnswer => (by cases isAnswer)⟩

/-- Channel 1 of workspace 1 with one message, which user 2 has not read. -/
def oneUnread : AckState ChannelId :=
  { messages := (sendMessage .empty
      { id := ⟨1⟩, channelId := ⟨1⟩, authorId := ⟨1⟩, content := "hello", createdAt := 1 }).toOption.getD
        .empty }

def readAll : MarkAllReadArgs :=
  { userId := ⟨2⟩, workspaceId := ⟨1⟩, snapshotId := ⟨1⟩, visible := [⟨1⟩] }

def undoAll : UndoArgs :=
  { userId := ⟨2⟩, workspaceId := ⟨1⟩, snapshotId := ⟨1⟩ }

/-- Two calls at the same time both restore the cursors. -/
theorem snapshot_undone_twice : ∃ labels finish,
    Steps (Step cursorLoop) (CursorState.initial oneUnread 2) labels finish ∧
      finish.tasks.length = 0 ∧ finish.shared.history.undos.map Undone.snapshotId = [⟨1⟩, ⟨1⟩] ∧
      ¬UndoneOnce finish := by
  -- The second call finds no copy in Redis and takes the row, before the first one deletes it.
  obtain ⟨labels, steps⟩ := exists_steps_cursor (CursorState.initial oneUnread 2)
    [.accept (.markAllRead readAll), .run 0, .run 0, .run 0, .accept (.undoMarkAllRead undoAll),
      .accept (.undoMarkAllRead undoAll), .run 0, .run 1, .run 1, .run 0, .run 0, .run 0] rfl
  refine ⟨labels, _, steps, by decide +kernel, by decide +kernel, fun once => ?_⟩
  exact absurd once.handed (by decide +kernel)

end Bongtalk.Channels
