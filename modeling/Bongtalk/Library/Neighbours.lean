import Mathlib.Data.List.Sort
/-!
# Neighbours in a list

Rows are listed by a key, and rows with one key come in any order. Two rows are neighbours when they
are so however the rows are listed.
-/

namespace Library.Neighbours

open List

universe u v

variable {ρ : Type u} {κ : Type v} [LinearOrder κ]

/-- An order in which the rows may be listed. -/
structure Listing (key : ρ → κ) (rows listing : List ρ) : Prop where
  permuted : listing.Perm rows
  sorted : listing.Pairwise fun first second => key first ≤ key second

/-- However the rows are listed, the second row comes right behind the first. -/
def Follows (key : ρ → κ) (rows : List ρ) (first second : ρ) : Prop :=
  ∀ listing, Listing key rows listing → ∃ front back, listing = front ++ first :: second :: back

variable {key : ρ → κ} {rows listing front middle back : List ρ} {first second row : ρ}

theorem exists_listing (key : ρ → κ) (rows : List ρ) : ∃ listing, Listing key rows listing :=
  ⟨rows.insertionSort fun first second => key first ≤ key second,
    perm_insertionSort _ _, pairwise_insertionSort _ _⟩

/-- Two rows with one key may change places. -/
theorem Listing.swap (listed : Listing key rows (front ++ first :: (middle ++ second :: back)))
    (same : key first = key second) :
    Listing key rows (front ++ second :: (middle ++ first :: back)) where
  permuted := by
    have swapped : (second :: (middle ++ first :: back)).Perm
        (first :: (middle ++ second :: back)) := by
      apply (perm_middle.cons second).trans
      exact (Perm.swap first second _).trans (perm_middle.symm.cons first)
    exact (swapped.append_left front).trans listed.permuted
  sorted := by
    have keys : (front ++ second :: (middle ++ first :: back)).map key =
        (front ++ first :: (middle ++ second :: back)).map key := by
      simp only [map_append, map_cons, same]
    have sorted := pairwise_map.mpr listed.sorted
    rw [← keys] at sorted
    exact pairwise_map.mp sorted

/-- A row is at one place of a list only. -/
theorem split_unique {others behind : List ρ} (nodup : (front ++ row :: back).Nodup)
    (same : front ++ row :: back = others ++ row :: behind) : front = others ∧ back = behind := by
  have apart := nodup_middle.mp nodup
  obtain ⟨absent, -⟩ := nodup_cons.mp apart
  rw [mem_append, not_or] at absent
  obtain ⟨sameFront, -, sameBack⟩ := (append_cons_inj_of_notMem absent.1 absent.2).mp same
  exact ⟨sameFront, sameBack⟩

/-- What comes right before a row is one row only. -/
theorem last_unique {others behind : List ρ} {before other : ρ}
    (nodup : (front ++ before :: row :: back).Nodup)
    (same : front ++ before :: row :: back = others ++ other :: row :: behind) : before = other := by
  rw [append_cons, append_cons others other (row :: behind)] at same
  rw [append_cons] at nodup
  have fronts := (split_unique nodup same).1
  exact singleton_inj.mp (append_inj_right' fronts rfl)

/-- In a list without repetitions, no row comes right behind itself. -/
theorem Follows.ne (follows : Follows key rows first second) (nodup : rows.Nodup) :
    first ≠ second := by
  rintro rfl
  obtain ⟨listing, listed⟩ := exists_listing key rows
  obtain ⟨front, back, rfl⟩ := follows listing listed
  have nodupListing := listed.permuted.nodup_iff.mpr nodup
  have nodupRest := (nodup_append.mp nodupListing).2.1
  exact (nodup_cons.mp nodupRest).1 mem_cons_self

/-- A row that is next to neighbours neither comes between them nor shares a key with them. -/
theorem Follows.lt_or_lt (follows : Follows key rows first second) (nodup : rows.Nodup)
    (present : row ∈ rows) (notFirst : row ≠ first) (notSecond : row ≠ second) :
    key row < key first ∨ key second < key row := by
  obtain ⟨listing, listed⟩ := exists_listing key rows
  obtain ⟨front, back, rfl⟩ := follows listing listed
  obtain ⟨-, behind, across⟩ := pairwise_append.mp listed.sorted
  obtain inFront | inRest := mem_append.mp (listed.permuted.mem_iff.mpr present)
  · refine .inl (lt_of_le_of_ne (across row inFront first mem_cons_self) fun same => ?_)
    -- In the place of the first row, it comes right before the second.
    obtain ⟨before, between, rfl⟩ := append_of_mem inFront
    rw [append_assoc, cons_append] at listed
    have swapped := listed.swap same
    obtain ⟨front, back, again⟩ := follows _ swapped
    have nodupSwapped := swapped.permuted.nodup_iff.mpr nodup
    rw [← cons_append, ← append_assoc] at again nodupSwapped
    exact notFirst (last_unique nodupSwapped again)
  · obtain rfl | inRest := mem_cons.mp inRest
    · exact absurd rfl notFirst
    obtain rfl | inBack := mem_cons.mp inRest
    · exact absurd rfl notSecond
    have secondLast := (pairwise_cons.mp (pairwise_cons.mp behind).2).1
    refine .inr (lt_of_le_of_ne (secondLast row inBack) fun same => ?_)
    -- In the place of the second row, it comes right behind the first.
    obtain ⟨between, after, rfl⟩ := append_of_mem inBack
    rw [append_cons] at listed
    have swapped := listed.swap same
    obtain ⟨front, back, again⟩ := follows _ swapped
    have nodupSwapped := swapped.permuted.nodup_iff.mpr nodup
    rw [append_assoc, singleton_append] at again nodupSwapped
    have tails := (split_unique nodupSwapped again).2
    exact notSecond (List.cons.inj tails).1

/-- Two rows are neighbours when every other row comes before both or after both. -/
theorem follows_iff (nodup : rows.Nodup) (below : key first < key second) :
    Follows key rows first second ↔ first ∈ rows ∧ second ∈ rows ∧
      ∀ row ∈ rows, row ≠ first → row ≠ second → key row < key first ∨ key second < key row := by
  constructor
  · intro follows
    obtain ⟨listing, listed⟩ := exists_listing key rows
    obtain ⟨front, back, isListing⟩ := follows listing listed
    refine ⟨listed.permuted.mem_iff.mp ?_, listed.permuted.mem_iff.mp ?_, ?_⟩
    · simp [isListing]
    · simp [isListing]
    · exact fun row present => follows.lt_or_lt nodup present
  · rintro ⟨firstMem, secondMem, apart⟩ listing listed
    obtain ⟨front, rest, rfl⟩ := append_of_mem (listed.permuted.mem_iff.mpr firstMem)
    obtain ⟨-, behind, across⟩ := pairwise_append.mp listed.sorted
    obtain ⟨firstLast, restSorted⟩ := pairwise_cons.mp behind
    have notSame : second ≠ first := fun same => below.ne (congrArg key same).symm
    have inRest : second ∈ rest := by
      obtain inFront | inRest := mem_append.mp (listed.permuted.mem_iff.mpr secondMem)
      · have before := across second inFront first mem_cons_self
        exact absurd below before.not_gt
      · exact (mem_cons.mp inRest).resolve_left notSame
    cases rest with
    | nil => cases inRest
    | cons next back =>
      by_cases isSecond : next = second
      · exact ⟨front, back, by rw [isSecond]⟩
      have nextMem : next ∈ rows := listed.permuted.mem_iff.mp (by simp)
      have isFirst : next ≠ first := by
        rintro rfl
        have nodupListing := listed.permuted.nodup_iff.mpr nodup
        exact (nodup_cons.mp (nodup_append.mp nodupListing).2.1).1 mem_cons_self
      have inBack := (mem_cons.mp inRest).resolve_left (Ne.symm isSecond)
      have beforeSecond := (pairwise_cons.mp restSorted).1 second inBack
      obtain before | after := apart next nextMem isFirst isSecond
      · exact absurd before (firstLast next mem_cons_self).not_gt
      · exact absurd after beforeSecond.not_gt

end Library.Neighbours
