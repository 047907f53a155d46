import Bongtalk.Notifications.MentionGate

/-!
# Quiet hours

A window of a schedule is a stretch of the week, which begins again after the last minute of
Saturday. A window past midnight belongs to the day on which it begins.
-/

namespace Bongtalk.Notifications

open Prisma

/-- The points of a circle that a stretch covers from its start on. -/
def CircularInterval (around start length point : Nat) : Prop :=
  ∃ offset < length, point = (start + offset) % around

/-- The minutes of a day and of a week. -/
def dayMinutes : Nat := 1440

def weekMinutes : Nat := 10080

def DayMinute.ofWeek (now : DayMinute) : Nat :=
  now.day * dayMinutes + now.minute

/-- A point of a week. -/
def DayMinute.Valid (now : DayMinute) : Prop :=
  now.day < 7 ∧ now.minute < dayMinutes

/-- What `DndScheduleService.validate` asks of an entry. -/
def DndEntry.Valid (entry : DndEntry) : Prop :=
  entry.day ≤ 6 ∧ entry.startMin ≤ 1439 ∧ entry.endMin ≤ 1439

/-- How far the end of the window is behind its start on the clock. -/
def windowLength (entry : DndEntry) : Nat :=
  (((entry.endMin : Int) - entry.startMin) % dayMinutes).toNat

/-- The minutes of the week that the window covers. -/
def InWindow (entry : DndEntry) : Nat → Prop :=
  CircularInterval weekMinutes (entry.day * dayMinutes + entry.startMin) (windowLength entry)

section Schedules

variable {entry : DndEntry} {now : DayMinute}

theorem mem_circularInterval_iff {around start length point : Nat} (fits : length ≤ around)
    (inside : point < around) (starts : start < around) :
    CircularInterval around start length point ↔
      start ≤ point ∧ point < start + length ∨ point + around < start + length := by
  constructor
  · rintro ⟨offset, short, rfl⟩
    by_cases wraps : start + offset < around
    · rw [Nat.mod_eq_of_lt wraps]
      omega
    · rw [Nat.mod_eq_sub_mod (by omega), Nat.mod_eq_of_lt (by omega)]
      omega
  · rintro (⟨behind, before⟩ | before)
    · refine ⟨point - start, by omega, ?_⟩
      rw [Nat.add_sub_cancel' behind, Nat.mod_eq_of_lt inside]
    · refine ⟨point + around - start, by omega, ?_⟩
      rw [Nat.add_sub_cancel' (by omega), Nat.add_mod_right, Nat.mod_eq_of_lt inside]

/-- A window that does not pass midnight, or passes it, or is empty. -/
theorem windowLength_eq (valid : DndEntry.Valid entry) :
    windowLength entry = if entry.startMin ≤ entry.endMin then entry.endMin - entry.startMin
      else entry.endMin + dayMinutes - entry.startMin := by
  obtain ⟨-, startFits, endFits⟩ := valid
  unfold windowLength dayMinutes
  split <;> omega

theorem covers_iff (valid : DndEntry.Valid entry) (validNow : now.Valid) :
    DndEntry.covers entry now = true ↔ InWindow entry now.ofWeek := by
  have length := windowLength_eq valid
  obtain ⟨dayFits, startFits, endFits⟩ := valid
  obtain ⟨today, minuteFits⟩ := validNow
  unfold dayMinutes at length minuteFits
  unfold InWindow DayMinute.ofWeek dayMinutes weekMinutes
  rw [mem_circularInterval_iff (by split at length <;> omega) (by omega) (by omega)]
  unfold DndEntry.covers
  by_cases sameDay : entry.startMin < entry.endMin
  · rw [if_pos sameDay]
    rw [if_pos sameDay.le] at length
    simp only [Bool.and_eq_true, beq_iff_eq, decide_eq_true_eq]
    omega
  · rw [if_neg sameDay]
    by_cases overnight : entry.endMin < entry.startMin
    · rw [if_pos overnight]
      rw [if_neg (by omega)] at length
      simp only [Bool.or_eq_true, Bool.and_eq_true, beq_iff_eq, decide_eq_true_eq]
      omega
    · rw [if_neg overnight]
      rw [if_pos (by omega)] at length
      exact iff_of_false Bool.false_ne_true (by omega)

end Schedules

/-- The schedules that `DndScheduleService.validate` lets through. -/
def ValidSchedule (schedule : DndSchedule) : Prop :=
  ∀ entry ∈ schedule.days, DndEntry.Valid entry

theorem utcDayMinute_valid (at_ : DateTime) : (utcDayMinute at_).Valid :=
  ⟨Nat.mod_lt _ (by decide), Nat.mod_lt _ (by decide)⟩

theorem localDayMinute_valid {zoneClock : ZoneClock}
    (regular : ∀ zone at_ now, zoneClock zone at_ = some now → now.Valid) (at_ : DateTime)
    (timezone : Option String) : (localDayMinute zoneClock at_ timezone).Valid := by
  unfold localDayMinute
  split
  · exact utcDayMinute_valid at_
  next zone =>
    split
    · exact utcDayMinute_valid at_
    cases clock : zoneClock zone at_ with
    | none => exact utcDayMinute_valid at_
    | some now => exact regular zone at_ now clock

/-- A schedule is active exactly while the minute of the week lies in the window of one of its
entries. -/
theorem isActive_iff_window {zoneClock : ZoneClock}
    (regular : ∀ zone at_ now, zoneClock zone at_ = some now → now.Valid) (at_ : DateTime)
    {schedule : DndSchedule} (valid : ValidSchedule schedule) (timezone : Option String) :
    isActive zoneClock at_ (some schedule) timezone = true ↔
      ∃ entry ∈ schedule.days,
        InWindow entry (localDayMinute zoneClock at_ timezone).ofWeek := by
  simp only [isActive, List.any_eq_true]
  refine exists_congr fun entry => and_congr_right fun member => ?_
  exact covers_iff (valid entry member) (localDayMinute_valid regular at_ timezone)

/-- From Saturday at 23:00 to Sunday at 07:00. -/
def weekendNight : DndSchedule where
  days := [⟨6, 1380, 420⟩]

/-- A clock that knows the zone of Korea. -/
def seoulClock : ZoneClock := fun zone at_ =>
  if zone = "Asia/Seoul" then some (utcDayMinute (at_ + 32400000)) else none

/-- The schedule is active on a Sunday at 03:00 in Korea, which is Saturday at 18:00 UTC. -/
theorem weekendNight_active :
    isActive seoulClock 237600000 (some weekendNight) (some "Asia/Seoul") = true := by
  have regular : ∀ zone at_ now, seoulClock zone at_ = some now → now.Valid := by
    intro zone at_ now ticked
    unfold seoulClock at ticked
    split at ticked
    · exact Option.some.inj ticked ▸ utcDayMinute_valid _
    · cases ticked
  have valid : ValidSchedule weekendNight :=
    List.forall_mem_singleton.mpr ⟨by decide, by decide, by decide⟩
  exact (isActive_iff_window regular 237600000 valid (some "Asia/Seoul")).mpr
    ⟨⟨6, 1380, 420⟩, List.mem_cons_self, 240, by decide, by decide⟩

end Bongtalk.Notifications
