import Mathlib.Data.List.Sort
/-!
# Pages by key

Rows have keys from a linear order, the greatest first. A page is a stretch of the rows; the
next one is asked for by the key of a row at its end. Rows with one key would be cut apart, so
no two rows share one.
-/

namespace Library

open List

universe u v w

namespace Keyset

section Stretches

variable {ρ : Type u} {κ : Type v} [LinearOrder κ]

/-- The greatest key is first, and no key comes twice. -/
def Descending (key : ρ → κ) (rows : List ρ) : Prop :=
  rows.Pairwise fun first second => key second < key first

variable {key : ρ → κ}

theorem Descending.filter {rows : List ρ} (descending : Descending key rows) (kept : ρ → Bool) :
    Descending key (rows.filter kept) :=
  Pairwise.filter kept descending

/-- The order of the rows is the only one. -/
theorem Descending.eq_of_perm {rows others : List ρ} (descending : Descending key rows)
    (alsoDescending : Descending key others) (permuted : rows.Perm others) : rows = others := by
  apply Perm.eq_of_pairwise _ descending alsoDescending permuted
  intro first second _ _ below above
  exact absurd (below.trans above) (lt_irrefl _)

/-- What holds of a row and of every row above it holds of the first rows. -/
theorem split_upward {rows : List ρ} (descending : Descending key rows) {upper : ρ → Bool}
    (upward : ∀ first second, key second < key first → upper second = true → upper first = true) :
    rows.filter upper ++ rows.filter (fun row => !upper row) = rows := by
  induction rows with
  | nil => rfl
  | cons row rest ih =>
    obtain ⟨greatest, restDescending⟩ := pairwise_cons.mp descending
    cases isUpper : upper row with
    | true =>
      rw [filter_cons_of_pos isUpper, filter_cons_of_neg (by rw [isUpper]; decide),
        cons_append, ih restDescending]
    | false =>
      -- Nothing behind a row that is not upper is.
      have noneUpper : ∀ other ∈ row :: rest, upper other = false := by
        intro other otherMem
        cases mem_cons.mp otherMem with
        | inl same => exact same ▸ isUpper
        | inr inRest =>
          apply Bool.eq_false_iff.mpr
          intro otherUpper
          rw [upward row other (greatest other inRest) otherUpper] at isUpper
          cases isUpper
      have nothing : (row :: rest).filter upper = [] := by
        apply filter_eq_nil_iff.mpr
        intro other otherMem
        rw [noneUpper other otherMem]
        exact Bool.false_ne_true
      have everything : (row :: rest).filter (fun row => !upper row) = row :: rest := by
        apply filter_eq_self.mpr
        intro other otherMem
        rw [noneUpper other otherMem]
        rfl
      rw [nothing, everything, nil_append]

variable {newer items older : List ρ}

/-- What is below the last row of a stretch is what is behind it. -/
theorem filter_below_last (descending : Descending key (newer ++ items ++ older)) {last : ρ}
    (isLast : items.getLast? = some last) :
    (newer ++ items ++ older).filter (fun row => key row < key last) = older := by
  obtain ⟨front, rfl⟩ := List.getLast?_eq_some_iff.mp isLast
  have apart : Descending key (newer ++ front ++ last :: older) := by
    simpa only [append_assoc, cons_append, nil_append] using descending
  obtain ⟨-, tail, across⟩ := pairwise_append.mp apart
  obtain ⟨below, -⟩ := pairwise_cons.mp tail
  have noneInFront : (newer ++ front).filter (fun row => key row < key last) = [] := by
    apply filter_eq_nil_iff.mpr
    intro row rowMem
    simpa using (across row rowMem last mem_cons_self).le
  have allBehind : older.filter (fun row => key row < key last) = older := by
    apply filter_eq_self.mpr
    intro row rowMem
    simpa using below row rowMem
  rw [← append_assoc, filter_append, filter_append, noneInFront, allBehind,
    nil_append, filter_cons_of_neg (by simp), filter_nil, nil_append]

/-- What is above the first row of a stretch is what is in front of it. -/
theorem filter_above_first (descending : Descending key (newer ++ items ++ older)) {first : ρ}
    (isFirst : items.head? = some first) :
    (newer ++ items ++ older).filter (fun row => key first < key row) = newer := by
  obtain ⟨back, rfl⟩ := List.head?_eq_some_iff.mp isFirst
  have apart : Descending key (newer ++ first :: (back ++ older)) := by
    simpa only [append_assoc, cons_append, nil_append] using descending
  obtain ⟨-, tail, across⟩ := pairwise_append.mp apart
  obtain ⟨below, -⟩ := pairwise_cons.mp tail
  have allInFront : newer.filter (fun row => key first < key row) = newer := by
    apply filter_eq_self.mpr
    intro row rowMem
    simpa using across row rowMem first mem_cons_self
  have noneBehind : (back ++ older).filter (fun row => key first < key row) = [] := by
    apply filter_eq_nil_iff.mpr
    intro row rowMem
    simpa using (below row rowMem).le
  rw [append_assoc, cons_append, filter_append, allInFront,
    filter_cons_of_neg (by simp), noneBehind, append_nil]

end Stretches

section Ordered

variable {ρ : Type u} {κ : Type v} [LinearOrder κ] {key : ρ → κ} {rows : List ρ}

/-- The rows in their order. -/
def ordered (key : ρ → κ) (rows : List ρ) : List ρ :=
  rows.insertionSort fun first second => key second ≤ key first

theorem mem_ordered {row : ρ} : row ∈ ordered key rows ↔ row ∈ rows :=
  mem_insertionSort _

theorem ordered_perm (key : ρ → κ) (rows : List ρ) : (ordered key rows).Perm rows :=
  perm_insertionSort _ _

/-- Rows with keys of their own are in one strict order. -/
theorem descending_ordered (distinct : rows.Pairwise fun first second => key first ≠ key second) :
    Descending key (ordered key rows) := by
  have sorted : (ordered key rows).Pairwise fun first second => key second ≤ key first :=
    pairwise_insertionSort _ _
  have apart := (ordered_perm key rows).symm.pairwise distinct fun apart => apart.symm
  exact (sorted.and apart).imp fun both => lt_of_le_of_ne both.1 both.2.symm

/-- The order of some of the rows is that of all of them. -/
theorem ordered_filter (distinct : rows.Pairwise fun first second => key first ≠ key second)
    (kept : ρ → Bool) : ordered key (rows.filter kept) = (ordered key rows).filter kept := by
  refine (descending_ordered (distinct.filter kept)).eq_of_perm
    ((descending_ordered distinct).filter kept) ?_
  exact (ordered_perm key _).trans ((ordered_perm key rows).symm.filter kept)

/-- The rows behind a key, or all of them. -/
def behind (key : ρ → κ) (rows : List ρ) (bound : Option κ) : List ρ :=
  rows.filter fun row => bound.all (key row < ·)

theorem behind_none (key : ρ → κ) (rows : List ρ) : behind key rows none = rows :=
  filter_eq_self.mpr fun _ _ => rfl

/-- The rows behind a key are the last ones. -/
theorem exists_before (descending : Descending key rows) (bound : Option κ) :
    ∃ before, before ++ behind key rows bound = rows := by
  have upward : ∀ first second : ρ, key second < key first →
      (!bound.all (key second < ·)) = true → (!bound.all (key first < ·)) = true := by
    intro first second below notBehind
    cases bound with
    | none => cases notBehind
    | some position =>
      simp only [Option.all_some, Bool.not_eq_true', decide_eq_false_iff_not, not_lt] at *
      exact notBehind.trans below.le
  have split := split_upward descending upward
  simp only [Bool.not_not] at split
  exact ⟨_, split⟩

/-- The rows behind the last one of a page are the rows behind the page. -/
theorem behind_last (descending : Descending key rows) {bound : Option κ} {limit : Nat} {last : ρ}
    (isLast : ((behind key rows bound).take limit).getLast? = some last) :
    behind key rows (some (key last)) = (behind key rows bound).drop limit := by
  obtain ⟨before, split⟩ := exists_before descending bound
  rw [← take_append_drop limit (behind key rows bound), ← append_assoc] at split
  rw [← split] at descending
  have below := filter_below_last descending isLast
  rw [split] at below
  exact below

end Ordered

section Walks

variable {σ : Type u} {ρ : Type w}

/-- What a request answers: rows, and where the next request starts if there are more. -/
structure Page (σ : Type u) (ρ : Type w) where
  items : List ρ
  next : Option σ

/-- The pages of requests each of which starts where the one before says, to the end. -/
inductive Walk (fetch : σ → Option (Page σ ρ)) : σ → List (List ρ) → Prop
  | last {start : σ} {page : Page σ ρ} : fetch start = some page → page.next = none →
      Walk fetch start [page.items]
  | more {start next : σ} {page : Page σ ρ} {pages : List (List ρ)} : fetch start = some page →
      page.next = some next → Walk fetch next pages → Walk fetch start (page.items :: pages)

/-- From a start, a page has so many of the remaining rows, once it is `read`, and leaves the
others to the next request. -/
structure Serves (read : List ρ → List ρ) (limit : Nat) (Valid : σ → Prop)
    (remaining : σ → List ρ) (start : σ) (page : Page σ ρ) : Prop where
  items : read page.items = (remaining start).take limit
  done : page.next = none → (remaining start).length ≤ limit
  more : ∀ next, page.next = some next →
    limit < (remaining start).length ∧ Valid next ∧ remaining next = (remaining start).drop limit

variable {fetch : σ → Option (Page σ ρ)} {read : List ρ → List ρ} {limit : Nat}
  {Valid : σ → Prop} {remaining : σ → List ρ}

section Slices

variable {τ : Type v} {rows : List τ}

/-- One row more than a page shows tells whether there are more. -/
theorem lt_length_take_succ : limit < (rows.take (limit + 1)).length ↔ limit < rows.length := by
  rw [length_take]
  omega

theorem slice_take_succ :
    (if limit < rows.length then (rows.take (limit + 1)).take limit else rows.take (limit + 1)) =
      rows.take limit := by
  split
  next => rw [take_take, Nat.min_eq_left (Nat.le_succ _)]
  next short =>
    have all := Nat.not_lt.mp short
    rw [take_of_length_le all, take_of_length_le (all.trans (Nat.le_succ _))]

/-- A page of the first rows, which goes on behind the last one of them if there are more. -/
theorem Serves.of_take {item : τ → ρ} {start : σ} {page : Page σ ρ} (positive : 0 < limit)
    (all : remaining start = rows.map item) (items : read page.items = (rows.take limit).map item)
    (ends : ¬limit < rows.length → page.next = none)
    (goesOn : ∀ last, (rows.take limit).getLast? = some last → limit < rows.length →
      ∃ next, page.next = some next ∧ Valid next ∧ remaining next = (rows.drop limit).map item) :
    Serves read limit Valid remaining start page := by
  have more (longer : limit < rows.length) : ∃ next, page.next = some next ∧ Valid next ∧
      remaining next = (rows.drop limit).map item := by
    have nonempty : rows.take limit ≠ [] := by
      rw [← length_pos_iff, length_take]
      omega
    exact goesOn _ (getLast?_eq_some_getLast nonempty) longer
  constructor
  · rw [items, all, map_take]
  · intro isLast
    rw [all, length_map]
    by_contra longer
    obtain ⟨next, isNext, -⟩ := more (Nat.lt_of_not_le longer)
    rw [isLast] at isNext
    cases isNext
  · intro next isNext
    by_cases longer : limit < rows.length
    · obtain ⟨other, isOther, valid, left⟩ := more longer
      cases isNext.symm.trans isOther
      rw [all, length_map, left, map_drop]
      exact ⟨longer, valid, rfl⟩
    · rw [ends longer] at isNext
      cases isNext

end Slices

/-- A walk ends, since every page but the last one leaves fewer rows. -/
theorem exists_walk (positive : 0 < limit)
    (serves : ∀ start, Valid start →
      ∃ page, fetch start = some page ∧ Serves read limit Valid remaining start page)
    {start : σ} (valid : Valid start) : ∃ pages, Walk fetch start pages := by
  induction length : (remaining start).length using Nat.strongRecOn generalizing start with
  | ind size ih =>
    obtain ⟨page, fetched, served⟩ := serves start valid
    cases nextEq : page.next with
    | none => exact ⟨_, .last fetched nextEq⟩
    | some next =>
      obtain ⟨longer, validNext, rest⟩ := served.more next nextEq
      have shorter : (remaining next).length < size := by
        rw [rest, length_drop]
        omega
      obtain ⟨pages, walk⟩ := ih _ shorter validNext rfl
      exact ⟨_, .more fetched nextEq walk⟩

/-- A walk reads the remaining rows, each of them once. -/
theorem Walk.flatten_eq (serves : ∀ start, Valid start →
      ∃ page, fetch start = some page ∧ Serves read limit Valid remaining start page)
    {start : σ} (valid : Valid start) {pages : List (List ρ)} (walk : Walk fetch start pages) :
    (pages.map read).flatten = remaining start := by
  induction walk with
  | last fetched ends =>
    obtain ⟨page, alsoFetched, served⟩ := serves _ valid
    cases fetched.symm.trans alsoFetched
    rw [map_cons, map_nil, flatten_cons, flatten_nil, append_nil,
      served.items, take_of_length_le (served.done ends)]
  | more fetched goesOn _ ih =>
    obtain ⟨page, alsoFetched, served⟩ := serves _ valid
    cases fetched.symm.trans alsoFetched
    obtain ⟨-, validNext, rest⟩ := served.more _ goesOn
    rw [map_cons, flatten_cons, ih validNext, served.items, rest, take_append_drop]

end Walks

end Keyset

end Library
