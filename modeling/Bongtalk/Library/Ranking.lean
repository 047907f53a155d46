import Mathlib.Data.List.Sort
import Mathlib.Data.Prod.Lex
import Mathlib.Order.WithBot
/-!
# Ranked entries

Entries in the order of a key, and the pages that hold the first of them. An entry is on a page
exactly when fewer entries than the page holds come before it.
-/

namespace Library

open List

universe u v

variable {α : Type u} {κ : Type v}

/-- Sort by a comparison function, which answers above zero when its second argument comes first.
Entries of which neither comes first stay in their order. -/
def sortWith (compare : α → α → Int) (entries : List α) : List α :=
  entries.insertionSort fun first second => compare first second ≤ 0

section Ordered

variable [LinearOrder κ]

/-- The entries in the order of a key. -/
def sortBy (key : α → κ) (entries : List α) : List α :=
  entries.insertionSort fun first second => key first ≤ key second

/-- The first entries in the order of a key. -/
def page (key : α → κ) (limit : Nat) (entries : List α) : List α :=
  (sortBy key entries).take limit

variable {key : α → κ}

variable {entries : List α}

@[simp]
theorem mem_sortBy {entry : α} :
    entry ∈ sortBy key entries ↔ entry ∈ entries :=
  mem_insertionSort _

/-- A comparison function that follows a key sorts by the key. -/
theorem sortWith_eq_sortBy {compare : α → α → Int}
    (follows : ∀ first second, compare first second ≤ 0 ↔ key first ≤ key second)
    (entries : List α) :
    sortWith compare entries = sortBy key entries := by
  unfold sortWith sortBy
  simp only [follows]

theorem pairwise_sortBy (key : α → κ) (entries : List α) :
    (sortBy key entries).Pairwise fun first second => key first ≤ key second := by
  have total : Std.Total fun first second : α => key first ≤ key second :=
    ⟨fun first second => le_total (key first) (key second)⟩
  have transitive : IsTrans α fun first second : α => key first ≤ key second :=
    ⟨fun _ _ _ => le_trans⟩
  exact pairwise_insertionSort _ entries

/-- The first of the sorted entries comes before all of them. -/
theorem least_of_sortBy {first : α} {rest : List α} (sorted : sortBy key entries = first :: rest) :
    first ∈ entries ∧ ∀ other ∈ entries, key first ≤ key other := by
  have members : ∀ other, other ∈ first :: rest ↔ other ∈ entries := by
    intro other
    rw [← sorted, mem_sortBy]
  have ordered := pairwise_sortBy key entries
  rw [sorted] at ordered
  refine ⟨(members first).mp mem_cons_self, fun other otherMem => ?_⟩
  rcases mem_cons.mp ((members other).mpr otherMem) with rfl | inRest
  · exact le_rfl
  · exact rel_of_pairwise_cons ordered inRest

/-- Among sorted entries, one that shares its key with no other is within the first few exactly
when fewer than these come before it. -/
theorem mem_take_iff_of_pairwise {sorted : List α} {entry : α}
    (ordered : sorted.Pairwise fun first second => key first ≤ key second)
    (alone : ∀ other ∈ sorted, key other = key entry → other = entry) (limit : Nat) :
    entry ∈ sorted.take limit ↔
      entry ∈ sorted ∧ sorted.countP (fun other => decide (key other < key entry)) < limit := by
  induction sorted generalizing limit with
  | nil => simp
  | cons head rest ih =>
    obtain ⟨headFirst, restOrdered⟩ := pairwise_cons.mp ordered
    have restIff := ih restOrdered fun other inRest =>
      alone other (mem_cons_of_mem head inRest)
    cases limit with
    | zero => simp
    | succ limit =>
      rw [take_succ_cons, mem_cons, mem_cons, restIff limit]
      rcases lt_trichotomy (key head) (key entry) with before | same | behind
      · have different : entry ≠ head := by
          rintro rfl
          exact lt_irrefl _ before
        rw [countP_cons_of_pos (by simpa using before)]
        simp [different]
      · obtain rfl := alone head mem_cons_self same
        have nothingBefore : (head :: rest).countP
            (fun other => decide (key other < key head)) = 0 := by
          rw [countP_eq_zero]
          intro other otherMem
          rcases mem_cons.mp otherMem with rfl | inRest
          · simp
          · simpa using headFirst other inRest
        rw [nothingBefore]
        simp
      · -- All that follows the head is behind the entry as well.
        have absent : entry ∉ rest := by
          intro inRest
          exact absurd (headFirst entry inRest) (not_le.mpr behind)
        have different : entry ≠ head := by
          rintro rfl
          exact lt_irrefl _ behind
        simp [absent, different]

/-- An entry that shares its key with no other is on the page exactly when fewer entries than the
page holds come before it. -/
theorem mem_page_iff {entry : α} {limit : Nat}
    (alone : ∀ other ∈ entries, key other = key entry → other = entry) :
    entry ∈ page key limit entries ↔
      entry ∈ entries ∧ entries.countP (fun other => decide (key other < key entry)) < limit := by
  have sortedAlone : ∀ other ∈ sortBy key entries, key other = key entry → other = entry :=
    fun other otherMem => alone other (mem_sortBy.mp otherMem)
  have counted := (perm_insertionSort (fun first second => key first ≤ key second)
    entries).countP_eq fun other => decide (key other < key entry)
  rw [page, mem_take_iff_of_pairwise (pairwise_sortBy key entries) sortedAlone, mem_sortBy]
  rw [sortBy, counted]

/-- The first of a list and of some of its entries in another order are the same exactly when those
of the list are among them, and in that order before all that come later. -/
theorem take_eq_take_iff {μ : Type*} [LinearOrder μ] {order : α → μ} {chosen sorted : List α}
    (ordered : chosen.Pairwise fun first second => order first < order second)
    (ranked : sorted.Pairwise fun first second => key first < key second) (within : chosen ⊆ sorted)
    (limit : Nat) :
    chosen.take limit = sorted.take limit ↔ ∀ entry ∈ sorted,
      sorted.countP (fun other => decide (key other < key entry)) < limit →
        entry ∈ chosen ∧ ∀ later ∈ chosen, key entry < key later → order entry < order later := by
  induction limit generalizing chosen sorted with
  | zero => simp
  | succ limit ih =>
    cases sorted with
    | nil => simp [subset_nil.mp within]
    | cons head rest =>
      obtain ⟨headFirst, restRanked⟩ := pairwise_cons.mp ranked
      have counted {entry : α} (entryMem : entry ∈ rest) :
          (head :: rest).countP (fun other => decide (key other < key entry)) =
            rest.countP (fun other => decide (key other < key entry)) + 1 :=
        countP_cons_of_pos (decide_eq_true (headFirst entry entryMem))
      have leads : (head :: rest).countP (fun other => decide (key other < key head)) = 0 := by
        refine countP_eq_zero.mpr (forall_mem_cons.mpr ⟨by simp, fun other otherMem => ?_⟩)
        simpa using (headFirst other otherMem).le
      cases chosen with
      | nil =>
        refine iff_of_false nofun fun among => ?_
        exact absurd (among head mem_cons_self (by rw [leads]; omega)).1 not_mem_nil
      | cons first others =>
        obtain ⟨firstFirst, othersOrdered⟩ := pairwise_cons.mp ordered
        rw [take_succ_cons, take_succ_cons, cons.injEq]
        by_cases same : first = head
        · subst same
          have apart {entry : α} (entryMem : entry ∈ rest) : entry ≠ first := by
            rintro rfl
            exact lt_irrefl _ (headFirst entry entryMem)
          have othersWithin : others ⊆ rest := fun other otherMem =>
            (mem_cons.mp (within (mem_cons_of_mem _ otherMem))).resolve_left fun isFirst =>
              lt_irrefl _ (isFirst ▸ firstFirst other otherMem)
          rw [and_iff_right rfl, ih othersOrdered restRanked othersWithin, forall_mem_cons]
          have atHead : first ∈ first :: others ∧ ∀ later ∈ first :: others, key first < key later →
              order first < order later := by
            refine ⟨mem_cons_self, forall_mem_cons.mpr ⟨fun before => ?_, ?_⟩⟩
            · exact absurd before (lt_irrefl _)
            · exact fun later isLater _ => firstFirst later isLater
          rw [and_iff_right fun _ => atHead]
          refine forall₂_congr fun entry entryMem => ?_
          rw [counted entryMem, Nat.add_lt_add_iff_right, mem_cons, or_iff_right (apart entryMem),
            forall_mem_cons]
          have notBefore : key entry < key first → order entry < order first := fun before =>
            absurd before (headFirst entry entryMem).not_gt
          rw [and_iff_right notBefore]
        · refine iff_of_false (fun both => same both.1) fun among => ?_
          obtain ⟨headMem, before⟩ := among head mem_cons_self (by rw [leads]; omega)
          have headLater := (mem_cons.mp headMem).resolve_left fun isFirst => same isFirst.symm
          have firstLater := (mem_cons.mp (within mem_cons_self)).resolve_left same
          exact lt_asymm (firstFirst head headLater)
            (before first mem_cons_self (headFirst first firstLater))

end Ordered

/-- Lists without repetition that hold the same entries of a kind hold as many of them. -/
theorem countP_eq_of_mem_iff {first second : List α} {counted : α → Bool} (firstNodup : first.Nodup)
    (secondNodup : second.Nodup)
    (same : ∀ entry, counted entry = true → (entry ∈ first ↔ entry ∈ second)) :
    first.countP counted = second.countP counted := by
  rw [countP_eq_length_filter, countP_eq_length_filter]
  refine ((perm_ext_iff_of_nodup (firstNodup.filter _) (secondNodup.filter _)).mpr ?_).length_eq
  intro entry
  rw [mem_filter, mem_filter]
  exact and_congr_left (same entry)

end Library
