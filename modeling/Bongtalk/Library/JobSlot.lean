import Mathlib.Logic.Basic

/-!
# Jobs under an id

A queue holds one job at most under an id. A job waits for its time, runs, and stays behind when
it has finished. One that runs cannot be removed, and none is added while the id is taken.
-/

namespace Library

universe u

/-- A job, with the progress of its run. -/
inductive Job (Run : Type u) where
  | delayed (due : Nat)
  | active (run : Run)
  | finished
deriving DecidableEq, Repr

/-- What a queue holds under an id. -/
abbrev JobSlot (Run : Type u) := Option (Job Run)

namespace JobSlot

variable {Run : Type u}

def remove : JobSlot Run → JobSlot Run
  | some (.active run) => some (.active run)
  | _ => none

def add (due : Nat) : JobSlot Run → JobSlot Run
  | none => some (.delayed due)
  | some job => some job

/-- A job that waits begins to run at its time. -/
def start (now : Nat) (run : Run) : JobSlot Run → JobSlot Run
  | some (.delayed due) => if due ≤ now then some (.active run) else some (.delayed due)
  | slot => slot

@[simp] theorem remove_none : remove (none : JobSlot Run) = none := rfl

@[simp] theorem remove_delayed (due : Nat) :
    remove (some (.delayed due) : JobSlot Run) = none := rfl

@[simp] theorem remove_active (run : Run) : remove (some (.active run)) = some (.active run) := rfl

@[simp] theorem remove_finished : remove (some .finished : JobSlot Run) = none := rfl

@[simp] theorem add_none (due : Nat) :
    add due (none : JobSlot Run) = some (.delayed due) := rfl

@[simp] theorem add_some (due : Nat) (job : Job Run) : add due (some job) = some job := rfl

variable {slot : JobSlot Run}

/-- A run that is there after a removal, an addition or a start was there before. -/
theorem eq_active_of_remove {run : Run} (left : slot.remove = some (.active run)) :
    slot = some (.active run) := by
  match slot with
  | some (.active other) => exact left
  | some (.delayed _) | some .finished | none => cases left

theorem eq_active_of_add {due : Nat} {run : Run} (added : slot.add due = some (.active run)) :
    slot = some (.active run) := by
  match slot with
  | some _ => exact added
  | none => cases added

theorem eq_active_of_start {now : Nat} {first run : Run}
    (started : slot.start now first = some (.active run)) (other : run ≠ first) :
    slot = some (.active run) := by
  match slot with
  | some (.delayed due) =>
    rw [start] at started
    split at started
    · exact absurd (Job.active.inj (Option.some.inj started)).symm other
    · exact started
  | some (.active _) | some .finished | none => exact started

end JobSlot

end Library
