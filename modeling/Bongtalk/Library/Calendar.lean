import Mathlib.Algebra.Group.Nat.Defs

/-!
# Calendar

Days of the Gregorian calendar, and instants as they are written in UTC. An instant is its number
of milliseconds since 1970.
-/

namespace Library

section Digits

def decimalDigit (value : Nat) : Char :=
  Char.ofNat (0x30 + value)

/-- So many decimal digits, with zeros in front. -/
def decimal : Nat → Nat → List Char
  | 0, _ => []
  | width + 1, value => decimal width (value / 10) ++ [decimalDigit (value % 10)]

/-- The number that digits write, behind what is read so far. -/
def ofDecimal (read : Nat) : List Char → Nat
  | [] => read
  | char :: rest => ofDecimal (10 * read + (char.toNat - 0x30)) rest

/-- A number of so many digits, and what follows. -/
def readDecimal (width : Nat) (text : List Char) : Option (Nat × List Char) :=
  let digits := text.take width
  if digits.length = width ∧ digits.all Char.isDigit = true then
    some (ofDecimal 0 digits, text.drop width)
  else none

theorem decimalDigit_spec {value : Nat} (small : value < 10) :
    (decimalDigit value).isDigit = true ∧ (decimalDigit value).toNat - 0x30 = value := by
  have table : ∀ value : Fin 10,
      (decimalDigit value).isDigit = true ∧ (decimalDigit value).toNat - 0x30 = value.val := by
    decide
  exact table ⟨value, small⟩

theorem length_decimal (width value : Nat) : (decimal width value).length = width := by
  induction width generalizing value with
  | zero => rfl
  | succ width ih =>
    rw [decimal, List.length_append, ih, List.length_singleton]

variable {width value : Nat}

theorem isDigit_decimal : ∀ char ∈ decimal width value, char.isDigit = true := by
  induction width generalizing value with
  | zero => exact nofun
  | succ width ih =>
    intro char charMem
    cases List.mem_append.mp charMem with
    | inl inFront => exact ih char inFront
    | inr isLast =>
      rw [List.mem_singleton.mp isLast]
      exact (decimalDigit_spec (Nat.mod_lt value (by decide))).1

theorem ofDecimal_append (read : Nat) (text : List Char) (last : Char) :
    ofDecimal read (text ++ [last]) = 10 * ofDecimal read text + (last.toNat - 0x30) := by
  induction text generalizing read with
  | nil => rfl
  | cons char rest ih => exact ih _

theorem ofDecimal_decimal (fits : value < 10 ^ width) :
    ofDecimal 0 (decimal width value) = value := by
  induction width generalizing value with
  | zero => exact (Nat.lt_one_iff.mp fits).symm
  | succ width ih =>
    have front : value / 10 < 10 ^ width := by
      rw [Nat.pow_succ] at fits
      exact Nat.div_lt_of_lt_mul (by omega)
    rw [decimal, ofDecimal_append, ih front, (decimalDigit_spec (Nat.mod_lt value (by decide))).2]
    omega

/-- A number is read back, whatever follows. -/
theorem readDecimal_decimal (fits : value < 10 ^ width) (rest : List Char) :
    readDecimal width (decimal width value ++ rest) = some (value, rest) := by
  have length := length_decimal width value
  have taken : (decimal width value ++ rest).take width = decimal width value :=
    List.take_left' length
  have left : (decimal width value ++ rest).drop width = rest := List.drop_left' length
  rw [readDecimal, taken, left, if_pos ⟨length, List.all_eq_true.mpr isDigit_decimal⟩, ofDecimal_decimal fits]

end Digits

structure Date where
  year : Nat
  month : Nat
  day : Nat
deriving DecidableEq, Repr

/-- The date so many days after 1 January 1970. Years start in March here, so that the leap day is
the last one of a year, of four years, of a century and of four centuries. -/
def dateOfDays (days : Nat) : Date :=
  let sinceMarch := days + 719468
  let inCycle := sinceMarch % 146097
  let centuries := min (inCycle / 36524) 3
  let inCentury := inCycle - 36524 * centuries
  let inFour := inCentury % 1461
  let years := min (inFour / 365) 3
  let inYear := inFour - 365 * years
  let months := (5 * inYear + 2) / 153
  let year := 400 * (sinceMarch / 146097) + 100 * centuries + 4 * (inCentury / 1461) + years
  { year := if months < 10 then year else year + 1
    month := if months < 10 then months + 3 else months - 9
    day := inYear - (153 * months + 2) / 5 + 1 }

example : dateOfDays 0 = ⟨1970, 1, 1⟩ := by decide

theorem month_bounds (days : Nat) :
    1 ≤ (dateOfDays days).month ∧ (dateOfDays days).month ≤ 12 := by
  unfold dateOfDays
  dsimp only
  split <;> omega

theorem day_bounds (days : Nat) : 1 ≤ (dateOfDays days).day ∧ (dateOfDays days).day ≤ 31 := by
  unfold dateOfDays
  dsimp only
  omega

/-- The days before the year 10000. -/
theorem year_lt {days : Nat} (early : days < 2932897) : (dateOfDays days).year < 10000 := by
  unfold dateOfDays
  dsimp only
  split <;> omega

/-- The days from 1 January 1970 to a date, which may be past the end of its month. -/
def daysOfDate (date : Date) : Int :=
  let year : Int := if date.month ≤ 2 then (date.year : Int) - 1 else date.year
  let sinceMarch := (153 * ((date.month + 9) % 12) + 2) / 5
  365 * year + year / 4 - year / 100 + year / 400 + sinceMarch + date.day - 719469

example : daysOfDate ⟨2024, 2, 29⟩ = 19782 := by decide

/-- The days of whole years: every fourth has a leap day, but of the centuries only every fourth. -/
theorem days_of_years {cycles centuries fours years : Nat} (fewCenturies : centuries ≤ 3)
    (fewFours : fours ≤ 24) (fewYears : years ≤ 3) {year : Int}
    (isYear : year = (400 * cycles + 100 * centuries + 4 * fours + years : Nat)) :
    365 * year + year / 4 - year / 100 + year / 400 =
      (146097 * cycles + 36524 * centuries + 1461 * fours + 365 * years : Nat) := by
  have byFour : year / 4 = (100 * cycles + 25 * centuries + fours : Nat) := by omega
  have byHundred : year / 100 = (4 * cycles + centuries : Nat) := by omega
  have byFourHundred : year / 400 = (cycles : Nat) := by omega
  rw [byFour, byHundred, byFourHundred]
  omega

/-- A day of a year that starts in March. -/
theorem daysOfDate_mk {year inYear : Nat} (short : inYear ≤ 365) :
    daysOfDate
        { year := if (5 * inYear + 2) / 153 < 10 then year else year + 1
          month := if (5 * inYear + 2) / 153 < 10 then (5 * inYear + 2) / 153 + 3
            else (5 * inYear + 2) / 153 - 9
          day := inYear - (153 * ((5 * inYear + 2) / 153) + 2) / 5 + 1 } =
      365 * (year : Int) + (year : Int) / 4 - (year : Int) / 100 + (year : Int) / 400 + inYear -
        719468 := by
  have few : (5 * inYear + 2) / 153 ≤ 11 := by omega
  have before : (153 * ((5 * inYear + 2) / 153) + 2) / 5 ≤ inYear := by omega
  revert few before
  generalize (5 * inYear + 2) / 153 = months
  intro few before
  unfold daysOfDate
  dsimp only
  by_cases early : months < 10
  · have month : (months + 3 + 9) % 12 = months := by omega
    have notYet : ¬months + 3 ≤ 2 := by omega
    rw [if_pos early, if_pos early, if_neg notYet, month]
    omega
  · have month : (months - 9 + 9) % 12 = months := by omega
    have nextYear : months - 9 ≤ 2 := by omega
    have same : ((year + 1 : Nat) : Int) - 1 = year := by omega
    rw [if_neg early, if_neg early, if_pos nextYear, month, same]
    omega

/-- The day of a date is read back. -/
theorem daysOfDate_dateOfDays (days : Nat) : daysOfDate (dateOfDays days) = days := by
  unfold dateOfDays
  dsimp only
  rw [daysOfDate_mk (by omega), days_of_years (by omega) (by omega) (by omega) rfl]
  omega

/-- The instant in UTC. A year that does not have four digits gets a sign and six. -/
def toISOString (instant : Nat) : List Char :=
  let date := dateOfDays (instant / 86400000)
  let time := instant % 86400000
  (if date.year < 10000 then decimal 4 date.year else '+' :: decimal 6 date.year) ++
    ('-' :: decimal 2 date.month ++ ('-' :: decimal 2 date.day ++
      ('T' :: decimal 2 (time / 3600000) ++ (':' :: decimal 2 (time / 60000 % 60) ++
        (':' :: decimal 2 (time / 1000 % 60) ++ ('.' :: decimal 3 (time % 1000) ++ ['Z']))))))

end Library
