import Bongtalk.Attachments.UploadService

/-!
# Objects that cannot be deleted

A sweep takes the oldest rows again and again. A row whose object cannot be deleted stays among
them, until a batch has no others and the sweep stops.
-/

namespace Bongtalk.Attachments

open List

section Batches

variable {ρ : Type} (fails : ρ → Bool) (recheck : ρ → ρ)

/-- What is left of a row when its object has been asked to be deleted. -/
def sweepRow (row : ρ) : Option ρ :=
  if fails row then some (recheck row) else none

/-- What is left of the rows after a batch. -/
def sweepBatch (rows : List ρ) : List ρ :=
  (rows.take attachmentGcBatchSize).filterMap (sweepRow fails recheck) ++
    rows.drop attachmentGcBatchSize

/-- A loop of `sweep`, over the rows of its selector in their order. -/
def sweepBatches (rows : List ρ) : List ρ :=
  if rows.length < attachmentGcBatchSize then sweepBatch fails recheck rows
  else if (sweepBatch fails recheck rows).length = rows.length then sweepBatch fails recheck rows
  else sweepBatches (sweepBatch fails recheck rows)
termination_by rows.length
decreasing_by
  next progressed =>
    refine Nat.lt_of_le_of_ne ?_ progressed
    conv => rhs; rw [← take_append_drop attachmentGcBatchSize rows]
    rw [sweepBatch, length_append, length_append]
    exact Nat.add_le_add_right (length_filterMap_le _ _) _

/-- No row that can be deleted has a whole batch of others before it. -/
def Reached (rows : List ρ) : Prop :=
  ∀ front row rest, rows = front ++ row :: rest → fails row = false →
    front.countP fails < attachmentGcBatchSize

variable {fails recheck} {batch later rows : List ρ}

theorem filterMap_sweepRow (rows : List ρ) :
    rows.filterMap (sweepRow fails recheck) = (rows.filter fails).map recheck := by
  induction rows with
  | nil => rfl
  | cons row rest ih =>
    cases stays : fails row with
    | true | false => simp [sweepRow, stays, ih]

theorem left_fail (keeps : ∀ row, fails (recheck row) = fails row) (rows : List ρ) :
    (rows.filterMap (sweepRow fails recheck)).countP fails = rows.countP fails ∧
      ∀ row ∈ rows.filterMap (sweepRow fails recheck), fails row = true := by
  rw [filterMap_sweepRow]
  have allFail : ∀ row ∈ (rows.filter fails).map recheck, fails row = true := by
    intro row present
    obtain ⟨old, oldMem, rfl⟩ := mem_map.mp present
    exact (keeps old).trans (mem_filter.mp oldMem).2
  refine ⟨?_, allFail⟩
  rw [countP_eq_length.mpr allFail, length_map, countP_eq_length_filter]

/-- What stands behind a batch has the rows of the batch before it as well. -/
theorem reached_append_iff (within : Reached fails batch) : Reached fails (batch ++ later) ↔
    ∀ front row rest, later = front ++ row :: rest → fails row = false →
      batch.countP fails + front.countP fails < attachmentGcBatchSize := by
  constructor
  · rintro reached front row rest rfl goes
    have counted := reached (batch ++ front) row rest (append_assoc _ _ _).symm goes
    rwa [countP_append] at counted
  · intro behind front row rest split goes
    rcases append_eq_append_iff.mp split with ⟨more, rfl, laterEq⟩ | ⟨more, batchEq, split⟩
    · rw [countP_append]
      exact behind more row rest laterEq goes
    cases more with
    | nil =>
      rw [append_nil] at batchEq
      exact batchEq ▸ behind [] row rest split.symm goes
    | cons first more =>
      obtain ⟨rfl, -⟩ := cons.inj split
      exact within front row more batchEq goes

theorem reached_of_short (short : rows.length ≤ attachmentGcBatchSize) :
    Reached fails rows := by
  rintro front row rest rfl -
  apply Nat.lt_of_le_of_lt countP_le_length
  rw [length_append, length_cons] at short
  omega

/-- A loop deletes all that can be deleted exactly when no batch of others stands before it. -/
theorem sweepBatches_iff (keeps : ∀ row, fails (recheck row) = fails row) (rows : List ρ) :
    (∀ row ∈ sweepBatches fails recheck rows, fails row = true) ↔ Reached fails rows := by
  fun_induction sweepBatches fails recheck rows with
  | case1 rows short =>
    refine iff_of_true ?_ (reached_of_short short.le)
    rw [sweepBatch, drop_eq_nil_of_le short.le, append_nil]
    exact (left_fail keeps _).2
  | case2 rows full noneLeft =>
    obtain ⟨counted, leftFail⟩ := left_fail keeps (rows.take attachmentGcBatchSize)
    conv => rhs; rw [← take_append_drop attachmentGcBatchSize rows]
    rw [reached_append_iff (reached_of_short (length_take_le _ _)), ← counted,
      countP_eq_length.mpr leftFail, sweepBatch, forall_mem_append]
    have kept : ((rows.take attachmentGcBatchSize).filterMap (sweepRow fails recheck)).length =
        attachmentGcBatchSize := by
      have whole := congrArg length (take_append_drop attachmentGcBatchSize rows)
      rw [sweepBatch, length_append] at noneLeft
      rw [length_append, length_take, Nat.min_eq_left (Nat.le_of_not_lt full)] at whole
      omega
    rw [kept]
    constructor
    · rintro ⟨-, later⟩ front row rest split goes
      have stays := later row (split ▸ mem_append_right _ mem_cons_self)
      rw [goes] at stays
      cases stays
    · intro behind
      refine ⟨leftFail, fun row present => ?_⟩
      obtain ⟨front, rest, split⟩ := append_of_mem present
      by_contra goes
      exact Nat.not_lt.mpr (Nat.le_add_right _ _)
        (behind front row rest split (Bool.eq_false_iff.mpr goes))
  | case3 rows full progressed ih =>
    obtain ⟨counted, leftFail⟩ := left_fail keeps (rows.take attachmentGcBatchSize)
    conv => rhs; rw [← take_append_drop attachmentGcBatchSize rows]
    rw [ih, sweepBatch, reached_append_iff, reached_append_iff (reached_of_short
      (length_take_le _ _)), counted]
    rintro front row rest split goes
    have stays := leftFail row (split ▸ mem_append_right _ mem_cons_self)
    rw [goes] at stays
    cases stays

end Batches

section Rows

/-- The check of the bytes of an orphan, and the status it leaves. -/
def recheckOrphan (toLowerCase : String → String) (getObjectRange : StorageKey → Option Bytes)
    (orphan : AttachmentRow) : AttachmentRow :=
  match MagicSupportedMime.ofMime (toLowerCase (orphan.storedMimeType.getD orphan.mime)) with
  | none => orphan
  | some kind =>
    if (getObjectRange orphan.storageKey).any fun head => matchesMagic head kind then orphan
    else { orphan with processingStatus := .blocked }

variable (fails : StorageKey → Bool) (toLowerCase : String → String)
  (getObjectRange : StorageKey → Option Bytes)

def sweepOrphans : List AttachmentRow → List AttachmentRow :=
  sweepBatches (fails ·.storageKey) (recheckOrphan toLowerCase getObjectRange)

def sweepExpired : List UploadSession → List UploadSession :=
  sweepBatches (fails ·.storageKey) id

theorem recheckOrphan_storageKey (orphan : AttachmentRow) :
    (recheckOrphan toLowerCase getObjectRange orphan).storageKey = orphan.storageKey := by
  unfold recheckOrphan
  split
  · rfl
  · split <;> rfl

/-- A sweep deletes all that can be deleted exactly when none of it has a whole batch before it that
cannot. -/
theorem sweep_isolates_iff (orphans : List AttachmentRow) (sessions : List UploadSession) :
    ((∀ orphan ∈ sweepOrphans fails toLowerCase getObjectRange orphans,
        fails orphan.storageKey = true) ∧
      ∀ session ∈ sweepExpired fails sessions, fails session.storageKey = true) ↔
    Reached (fails ·.storageKey) orphans ∧ Reached (fails ·.storageKey) sessions := by
  refine and_congr (sweepBatches_iff (fun orphan => ?_) orphans) (sweepBatches_iff (fun _ => rfl) _)
  rw [recheckOrphan_storageKey]

end Rows

/-- An expired session. -/
def expired (id : Nat) : UploadSession where
  id := ⟨id⟩
  uploaderId := ⟨1⟩
  channelId := ⟨1⟩
  sizeBytes := 1
  mimeType := "image/png"
  storageKey := ⟨⟨id⟩, ""⟩
  expiresAt := id
  ownKey := rfl

/-- The session behind a batch of others stays. -/
theorem session_behind_batch_stays :
    let fails (key : StorageKey) : Bool := decide (key.sessionId.value < attachmentGcBatchSize)
    ¬∀ session ∈ sweepExpired fails ((range (attachmentGcBatchSize + 1)).map expired),
      fails session.storageKey = true := by
  intro fails swept
  have reached := (sweepBatches_iff (fun _ => rfl) _).mp swept
  rw [range_succ, map_append] at reached
  have counted := reached _ _ [] rfl (by decide)
  rw [countP_eq_length.mpr, length_map, length_range] at counted
  · exact Nat.lt_irrefl _ counted
  · intro session present
    obtain ⟨id, below, rfl⟩ := mem_map.mp present
    exact decide_eq_true (mem_range.mp below)

end Bongtalk.Attachments
