import Mathlib.Data.List.Induction
/-!
# Accumulating rows by a key

One pass over the rows keeps an accumulator for each key that it has met. What it
holds for a key is what a pass over the rows of that key alone would give.
-/

namespace Library

universe u v w

variable {ρ : Type u} {κ : Type v} {σ : Type w} [DecidableEq κ]

/-- Fold a row into the accumulator of its key. -/
def groupRow (key : ρ → κ) (step : σ → ρ → σ) (start : σ) (groups : κ → Option σ) (row : ρ) :
    κ → Option σ :=
  Function.update groups (key row) (some (step ((groups (key row)).getD start) row))

/-- The accumulators of all keys after one pass over the rows. -/
def groupRows (key : ρ → κ) (step : σ → ρ → σ) (start : σ) (rows : List ρ) : κ → Option σ :=
  rows.foldl (groupRow key step start) fun _ => none

/-- A pass over the rows folds into the accumulator of a key the rows of that key. -/
theorem getD_foldl_groupRow (key : ρ → κ) (step : σ → ρ → σ) (start : σ) (groups : κ → Option σ)
    (rows : List ρ) (wanted : κ) :
    (rows.foldl (groupRow key step start) groups wanted).getD start =
      (rows.filter fun row => key row == wanted).foldl step ((groups wanted).getD start) := by
  induction rows using List.reverseRecOn with
  | nil => rfl
  | append_singleton rows row ih =>
    rw [List.foldl_append, List.filter_append, List.foldl_append, ← ih]
    change (groupRow key step start (rows.foldl (groupRow key step start) groups) row
      wanted).getD start = _
    by_cases same : key row = wanted
    · subst same
      simp [groupRow]
    · simp [groupRow, same, Function.update_of_ne (Ne.symm same)]

/-- The accumulator of a key is the fold of the rows of that key. -/
theorem getD_groupRows (key : ρ → κ) (step : σ → ρ → σ) (start : σ) (rows : List ρ) (wanted : κ) :
    (groupRows key step start rows wanted).getD start =
      (rows.filter fun row => key row == wanted).foldl step start :=
  getD_foldl_groupRow key step start (fun _ => none) rows wanted

end Library
