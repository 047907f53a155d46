import Mathlib.Data.List.Perm.Subperm
import Mathlib.Data.List.Range
/-!
# Values with a time to live

A value that has expired reads as a missing one. A set that has expired reads as the empty set, and
what is added to it comes alone. A counter is created by the first hit that finds none, and its end
is set by a command of its own; one whose end is not set is there for good. The hits that one
counter has counted are its window, which is noted beside the count.
-/

namespace Library

open Option

universe u

structure Expiring (α : Type u) where
  value : α
  expiresAt : Nat
deriving DecidableEq, Repr

namespace Expiring

variable {α : Type u} {now : Nat} {entry : Option (Expiring α)}

/-- What a read finds. -/
def read (now : Nat) (entry : Option (Expiring α)) : Option α :=
  (entry.filter fun entry => decide (now < entry.expiresAt)).map value

theorem read_eq_some_iff {found : α} :
    read now entry = some found ↔ ∃ expiresAt, entry = some ⟨found, expiresAt⟩ ∧ now < expiresAt := by
  constructor
  · intro isRead
    obtain ⟨held, filtered, rfl⟩ := map_eq_some_iff.mp isRead
    obtain ⟨isHeld, alive⟩ := mem_filter_iff.mp filtered
    exact ⟨held.expiresAt, isHeld, of_decide_eq_true alive⟩
  · rintro ⟨expiresAt, rfl, alive⟩
    rw [read, filter_some, if_pos (decide_eq_true alive), map_some]

theorem read_some {value : α} {expiresAt : Nat} (alive : now < expiresAt) :
    read now (some ⟨value, expiresAt⟩) = some value :=
  read_eq_some_iff.mpr ⟨expiresAt, rfl, alive⟩

section Sets

variable {set : Option (Expiring (List α))} {member : α}

/-- The members of a set; a missing set has none. -/
def members (now : Nat) (set : Option (Expiring (List α))) : List α :=
  (read now set).getD []

theorem mem_members_iff : member ∈ members now set ↔
    ∃ stored expiresAt, set = some ⟨stored, expiresAt⟩ ∧ now < expiresAt ∧ member ∈ stored := by
  rw [members]
  cases isRead : read now set with
  | none =>
    apply iff_of_false List.not_mem_nil
    rintro ⟨stored, expiresAt, rfl, alive, -⟩
    rw [read_some alive] at isRead
    cases isRead
  | some stored =>
    obtain ⟨expiresAt, rfl, alive⟩ := read_eq_some_iff.mp isRead
    constructor
    · exact fun present => ⟨stored, expiresAt, rfl, alive, present⟩
    · rintro ⟨other, otherExpiresAt, same, -, present⟩
      cases same
      exact present

end Sets

end Expiring

/-- The hits that one counter counts. The first of them has come at `openedAt` and allows the window
to last for `length`. -/
structure Window where
  number : Nat
  openedAt : Nat
  length : Nat
deriving DecidableEq, Repr

/-- When the window has to be over. -/
def Window.deadline (window : Window) : Nat :=
  window.openedAt + window.length

structure WindowCounter where
  count : Nat
  expiresAt : Option Nat
  window : Window
deriving DecidableEq, Repr

namespace WindowCounter

variable {now later : Nat} {opening : Window} {entry : Option WindowCounter}
  {counter : WindowCounter}

/-- The counter is not over. -/
def Alive (now : Nat) (counter : WindowCounter) : Prop :=
  ∀ expiresAt, counter.expiresAt = some expiresAt → now < expiresAt

instance : Decidable (Alive now counter) :=
  decidable_of_iff (counter.expiresAt.all (now < ·) = true) (by simp [Alive, all_eq_true])

/-- What a command finds under a key. -/
def read (now : Nat) (entry : Option WindowCounter) : Option WindowCounter :=
  entry.filter fun counter => decide (counter.Alive now)

/-- Counts a hit. -/
def incr (now : Nat) (opening : Window) (entry : Option WindowCounter) : WindowCounter :=
  match read now entry with
  | none => ⟨1, none, opening⟩
  | some counter => { counter with count := counter.count + 1 }

/-- Sets the end of the counter that is there. -/
def expire (now duration : Nat) (entry : Option WindowCounter) : Option WindowCounter :=
  (read now entry).map fun counter => { counter with expiresAt := some (now + duration) }

/-- The time that is left: -2 without a counter and -1 without an end. -/
def ttl (rounded : Nat → Nat) (now : Nat) (entry : Option WindowCounter) : Int :=
  match read now entry with
  | none => -2
  | some counter =>
    match counter.expiresAt with
    | none => -1
    | some expiresAt => rounded (expiresAt - now)

theorem read_eq_some_iff : read now entry = some counter ↔ entry = some counter ∧ counter.Alive now := by
  rw [read, filter_eq_some_iff, decide_eq_true_iff]

/-- A counter without an end is found at any time. -/
theorem alive_of_endless (endless : counter.expiresAt = none) : counter.Alive now := by
  intro expiresAt isEnd
  rw [endless] at isEnd
  cases isEnd

theorem Alive.of_le (alive : counter.Alive later) (before : now ≤ later) : counter.Alive now :=
  fun expiresAt isEnd => before.trans_lt (alive expiresAt isEnd)

/-- What is found later was found before. -/
theorem read_of_le (found : read later entry = some counter) (before : now ≤ later) :
    read now entry = some counter := by
  obtain ⟨held, alive⟩ := read_eq_some_iff.mp found
  exact read_eq_some_iff.mpr ⟨held, alive.of_le before⟩

theorem incr_of_missing (missing : read now entry = none) : incr now opening entry = ⟨1, none, opening⟩ := by
  rw [incr, missing]

theorem incr_of_found (found : read now entry = some counter) :
    incr now opening entry = { counter with count := counter.count + 1 } := by
  rw [incr, found]

theorem expire_of_found {duration : Nat} (found : read now entry = some counter) :
    expire now duration entry = some { counter with expiresAt := some (now + duration) } := by
  rw [expire, found, map_some]

/-- The next hit at a time is admitted when the counter is over by then, or has room. -/
theorem incr_count_le_iff {limit : Nat} :
    (incr now opening entry).count ≤ limit ↔
      0 < limit ∧ ∀ counter, read now entry = some counter → counter.count < limit := by
  cases found : read now entry with
  | none => simp [incr, found, Nat.succ_le_iff]
  | some counter =>
    rw [incr_of_found found]
    constructor
    · intro admitted
      refine ⟨(Nat.succ_pos counter.count).trans_le admitted, ?_⟩
      rintro _ ⟨⟩
      exact admitted
    · exact fun room => room.2 counter rfl

end WindowCounter

/-- Different numbers from one up to a bound are no more than the bound. -/
theorem length_le_of_nodup {numbers : List Nat} {bound : Nat} (distinct : numbers.Nodup)
    (positive : ∀ number ∈ numbers, 0 < number) (bounded : ∀ number ∈ numbers, number ≤ bound) :
    numbers.length ≤ bound := by
  have within : numbers ⊆ List.range' 1 bound := by
    intro number listed
    have := positive number listed
    have := bounded number listed
    rw [List.mem_range'_1]
    omega
  simpa using (List.subperm_of_subset distinct within).length_le

end Library
