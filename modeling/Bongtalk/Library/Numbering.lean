import Mathlib.Logic.Function.Basic
/-!
# Numbers within groups

Entries come in a row, and each gets the next number of its group. An entry may come again under
the same key; the last one counts.
-/

namespace Library.Numbering

open List Function

universe u v w

variable {α : Type u} {γ : Type v} {κ : Type w}

section Numbers

variable [DecidableEq γ] {group : α → γ} {counts : γ → Nat} {entries : List α}

/-- Each entry with the next number of its group, where each group has got some before. -/
def numbered (group : α → γ) (counts : γ → Nat) : List α → List (α × Nat)
  | [] => []
  | entry :: rest =>
    let number := counts (group entry) + 1
    (entry, number) :: numbered group (update counts (group entry) number) rest

theorem map_fst_numbered (group : α → γ) (counts : γ → Nat) (entries : List α) :
    (numbered group counts entries).map Prod.fst = entries := by
  induction entries generalizing counts with
  | nil => rfl
  | cons entry rest ih => rw [numbered, map_cons, ih]

theorem lt_of_mem_numbered {numberedEntry : α × Nat}
    (listed : numberedEntry ∈ numbered group counts entries) :
    counts (group numberedEntry.1) < numberedEntry.2 := by
  induction entries generalizing counts with
  | nil => cases listed
  | cons entry rest ih =>
    rcases mem_cons.mp listed with rfl | later
    · exact Nat.lt_succ_self _
    have above := ih later
    rw [update_apply] at above
    split at above
    next same =>
      rw [same]
      omega
    next => exact above

/-- Within a group the numbers go up. -/
theorem pairwise_numbered (group : α → γ) (counts : γ → Nat) (entries : List α) :
    (numbered group counts entries).Pairwise fun first second =>
      group first.1 = group second.1 → first.2 < second.2 := by
  induction entries generalizing counts with
  | nil => exact .nil
  | cons entry rest ih =>
    refine .cons (fun later laterMem same => ?_) (ih _)
    have above := lt_of_mem_numbered laterMem
    rwa [← same, update_self] at above

/-- The numbers of a group end where its entries do. -/
theorem forall_numbered_lt_iff {bound : Nat} :
    (∀ numberedEntry ∈ numbered group counts entries, numberedEntry.2 < bound) ↔
      ∀ entry ∈ entries, counts (group entry) + entries.countP (group · = group entry) < bound := by
  induction entries generalizing counts with
  | nil => simp [numbered]
  | cons entry rest ih =>
    -- The entry adds one to its own group, as the update of the counts does.
    have total (other : α) :
        counts (group other) + (entry :: rest).countP (group · = group other) =
          update counts (group entry) (counts (group entry) + 1) (group other) +
            rest.countP (group · = group other) := by
      rw [countP_cons, update_apply]
      by_cases same : group other = group entry
      · rw [if_pos same, if_pos (decide_eq_true same.symm), same]
        omega
      · rw [if_neg same, if_neg (by simpa using Ne.symm same)]
        omega
    rw [numbered, forall_mem_cons, forall_mem_cons, ih]
    simp only [total, update_self]
    constructor
    · rintro ⟨first, others⟩
      refine ⟨?_, others⟩
      by_cases again : ∃ other ∈ rest, group other = group entry
      · obtain ⟨other, otherMem, same⟩ := again
        have bounded := others other otherMem
        rwa [same, update_self] at bounded
      · have none : rest.countP (group · = group entry) = 0 := by
          rw [countP_eq_zero]
          exact fun other otherMem same => again ⟨other, otherMem, of_decide_eq_true same⟩
        rw [none]
        exact first
    · rintro ⟨first, others⟩
      exact ⟨by omega, others⟩

end Numbers

section Keys

variable [DecidableEq κ] {key : α → κ} {entries : List α}

/-- The entries whose key does not come again. -/
def keepLast (key : α → κ) : List α → List α
  | [] => []
  | entry :: rest =>
    if key entry ∈ rest.map key then keepLast key rest else entry :: keepLast key rest

theorem keepLast_sublist (key : α → κ) (entries : List α) :
    (keepLast key entries).Sublist entries := by
  induction entries with
  | nil => exact .slnil
  | cons entry rest ih =>
    rw [keepLast]
    split
    · exact ih.cons entry
    · exact ih.cons_cons entry

theorem mem_map_keepLast {wanted : κ} :
    wanted ∈ (keepLast key entries).map key ↔ wanted ∈ entries.map key := by
  induction entries with
  | nil => rfl
  | cons entry rest ih =>
    rw [keepLast, map_cons, mem_cons]
    split
    next again =>
      rw [ih]
      refine ⟨.inr, ?_⟩
      rintro (rfl | listed)
      · exact again
      · exact listed
    next => rw [map_cons, mem_cons, ih]

theorem nodup_map_keepLast (key : α → κ) (entries : List α) :
    ((keepLast key entries).map key).Nodup := by
  induction entries with
  | nil => exact .nil
  | cons entry rest ih =>
    rw [keepLast]
    split
    · exact ih
    next once =>
      rw [map_cons]
      exact nodup_cons.mpr ⟨fun again => once (mem_map_keepLast.mp again), ih⟩

/-- Keeping the last entries depends on the keys alone. -/
theorem map_keepLast {β : Type*} (key : α → κ) (image : β → α) (entries : List β) :
    (keepLast (key ∘ image) entries).map image = keepLast key (entries.map image) := by
  induction entries with
  | nil => rfl
  | cons entry rest ih =>
    rw [map_cons, keepLast, keepLast, ← ih, map_map, comp_apply]
    split
    · rfl
    · rfl

variable {Row : Type*}

/-- Each entry in turn changes the row if the row has its key. -/
def settle (key : α → κ) (rowKey : Row → κ) (write : α → Row → Row) : List α → Row → Row
  | [], row => row
  | entry :: rest, row =>
    settle key rowKey write rest (if rowKey row = key entry then write entry row else row)

variable {rowKey : Row → κ} {write : α → Row → Row}

/-- What no write changes stays. -/
theorem settle_keeps {β : Type*} (part : Row → β)
    (keeps : ∀ entry row, part (write entry row) = part row) (entries : List α) (row : Row) :
    part (settle key rowKey write entries row) = part row := by
  induction entries generalizing row with
  | nil => rfl
  | cons entry rest ih =>
    rw [settle, ih]
    split
    · exact keeps entry row
    · rfl

theorem settle_of_not_mem {row : Row} (unlisted : rowKey row ∉ entries.map key) :
    settle key rowKey write entries row = row := by
  induction entries with
  | nil => rfl
  | cons entry rest ih =>
    rw [map_cons, mem_cons, not_or] at unlisted
    rw [settle, if_neg unlisted.1]
    exact ih unlisted.2

/-- A row ends as the last entry of its key has it. -/
theorem settle_of_mem_keepLast (keeps : ∀ entry row, rowKey (write entry row) = rowKey row)
    (overwrites : ∀ first second row, write second (write first row) = write second row)
    {entry : α} (last : entry ∈ keepLast key entries) {row : Row} (same : rowKey row = key entry) :
    settle key rowKey write entries row = write entry row := by
  induction entries generalizing row with
  | nil => cases last
  | cons first rest ih =>
    rw [keepLast] at last
    rw [settle]
    split at last
    · split
      · rw [ih last ((keeps first row).trans same), overwrites]
      · exact ih last same
    next once =>
      rcases mem_cons.mp last with rfl | later
      · rw [if_pos same]
        exact settle_of_not_mem (by rwa [keeps, same])
      · have listed : key entry ∈ rest.map key :=
          mem_map_keepLast.mp (mem_map_of_mem later)
        have other : rowKey row ≠ key first := by
          rintro isFirst
          exact once (isFirst ▸ same ▸ listed)
        rw [if_neg other]
        exact ih later same

end Keys

end Library.Numbering
