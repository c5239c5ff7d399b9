import Recurrence.Calendar.Basic
import Recurrence.Text.Numeral
/-!
# Dates — the days of the calendar, numbered

A date is a valid triple of year, month and day; the years run from -262143 to 262142.  `Date.number` counts the days
from 1 January of the year 1, which has number 1, and `Date.ofNumber?` finds the date of a number, so that days are
added and compared as numbers: `ofNumber?_eq_some_iff` says that the two undo each other, `number_lt_iff` that the
order of the numbers is that of year, month and day.

The numbering goes on where the calendar ends: `Calendar.dayNumber` numbers the days of all years, in their order
(`dayNumber_lt_iff`) and without a gap (`exists_isDay_dayNumber`).
-/
namespace Recurrence
namespace Calendar

def firstYear : Int := -262143

def lastYear : Int := 262142

/-- The days from 1 January of the year 1 up to `year`; negative for the years before. -/
def daysBeforeYear (year : Int) : Int :=
  365 * (year - 1) + (year - 1) / 4 - (year - 1) / 100 + (year - 1) / 400

/-- The days of a year before its month `month`. -/
def daysBeforeMonth (year : Int) : Nat → Nat
  | 0 => 0
  | 1 => 0
  | month + 2 => daysBeforeMonth year (month + 1) + lengthOfMonth year (month + 1)

/-- The year in which day number `n` lies.  The mean length of a year gives it up to one. -/
def yearOfNumber (n : Int) : Int :=
  let guess := 400 * n / 146097 + 1
  if n ≤ daysBeforeYear guess then guess - 1
  else if daysBeforeYear (guess + 1) < n then guess + 1
  else guess

/-- The month in which day `n` of a year falls, looked for from `month` on through `more` further months. -/
def monthFrom (year : Int) (n : Nat) : (more month : Nat) → Nat
  | 0, month => month
  | more + 1, month => if n ≤ daysBeforeMonth year (month + 1) then month else monthFrom year n more (month + 1)

/-- The month in which day `n` of a year falls, the first day being 1. -/
def monthOfDay (year : Int) (n : Nat) : Nat := monthFrom year n 11 1

/-- What makes a triple a date. -/
def IsDate (year : Int) (month day : Nat) : Prop :=
  firstYear ≤ year ∧ year ≤ lastYear ∧ 1 ≤ month ∧ month ≤ 12 ∧ 1 ≤ day ∧ day ≤ lengthOfMonth year month

instance (year : Int) (month day : Nat) : Decidable (IsDate year month day) :=
  inferInstanceAs (Decidable (_ ∧ _))

/-- What makes a triple a day, in whatever year. -/
def IsDay (year : Int) (month day : Nat) : Prop :=
  1 ≤ month ∧ month ≤ 12 ∧ 1 ≤ day ∧ day ≤ lengthOfMonth year month

/-- The number of a day, in whatever year. -/
def dayNumber (year : Int) (month day : Nat) : Int := daysBeforeYear year + daysBeforeMonth year month + day

/-- The number of the first day of the calendar. -/
def firstNumber : Int := dayNumber firstYear 1 1

/-- The number of the last day of the calendar. -/
def lastNumber : Int := dayNumber lastYear 12 31

theorem isDate_iff {year : Int} {month day : Nat} :
    IsDate year month day ↔ firstYear ≤ year ∧ year ≤ lastYear ∧ IsDay year month day := Iff.rfl

theorem daysBeforeYear_succ (year : Int) : daysBeforeYear (year + 1) = daysBeforeYear year + lengthOfYear year := by
  unfold daysBeforeYear lengthOfYear leapDays
  by_cases h : HasLeapDay year
  · rw [if_pos h]
    unfold HasLeapDay at h
    omega
  · rw [if_neg h]
    unfold HasLeapDay at h
    omega

theorem daysBeforeYear_mono {a b : Int} (h : a ≤ b) : daysBeforeYear a ≤ daysBeforeYear b := by
  unfold daysBeforeYear; omega

theorem daysBeforeMonth_succ {month : Nat} (h : 1 ≤ month) (year : Int) :
    daysBeforeMonth year (month + 1) = daysBeforeMonth year month + lengthOfMonth year month := by
  cases month with
  | zero => omega
  | succ m => rfl

theorem daysBeforeMonth_mono (year : Int) {a b : Nat} (h : a ≤ b) :
    daysBeforeMonth year a ≤ daysBeforeMonth year b := by
  induction h with
  | refl => exact Nat.le_refl _
  | @step b _ ih =>
    cases b with
    | zero => exact ih
    | succ b => rw [daysBeforeMonth_succ (by omega)]; omega

/-- The twelve months make up the year. -/
theorem daysBeforeMonth_thirteen (year : Int) : daysBeforeMonth year 13 = lengthOfYear year := by
  show 0 + 31 + (28 + leapDays year) + 31 + 30 + 31 + 30 + 31 + 31 + 30 + 31 + 30 + 31 = 365 + leapDays year
  omega

/-- **A day number lies in the year that `yearOfNumber` names.** -/
theorem yearOfNumber_bounds (n : Int) :
    daysBeforeYear (yearOfNumber n) < n ∧ n ≤ daysBeforeYear (yearOfNumber n + 1) := by
  have low : daysBeforeYear (400 * n / 146097 + 1 - 1) < n := by unfold daysBeforeYear; omega
  have high : n ≤ daysBeforeYear (400 * n / 146097 + 1 + 1 + 1) := by unfold daysBeforeYear; omega
  unfold yearOfNumber
  simp only
  split
  · rename_i h
    exact ⟨low, by rw [Int.sub_add_cancel]; exact h⟩
  · split
    · exact ⟨by assumption, high⟩
    · omega

/-- Only one year holds a day number. -/
theorem yearOfNumber_unique {n year : Int} (low : daysBeforeYear year < n) (high : n ≤ daysBeforeYear (year + 1)) :
    yearOfNumber n = year := by
  obtain ⟨l, h⟩ := yearOfNumber_bounds n
  rcases Int.lt_trichotomy (yearOfNumber n) year with lt | eq | gt
  · have := daysBeforeYear_mono (show yearOfNumber n + 1 ≤ year by omega); omega
  · exact eq
  · have := daysBeforeYear_mono (show year + 1 ≤ yearOfNumber n by omega); omega

theorem monthFrom_bounds (year : Int) (n more month : Nat) (low : daysBeforeMonth year month < n)
    (high : n ≤ daysBeforeMonth year (month + more + 1)) :
    month ≤ monthFrom year n more month ∧ monthFrom year n more month ≤ month + more ∧
      daysBeforeMonth year (monthFrom year n more month) < n ∧
        n ≤ daysBeforeMonth year (monthFrom year n more month + 1) := by
  induction more generalizing month with
  | zero => exact ⟨Nat.le_refl _, Nat.le_refl _, low, high⟩
  | succ more ih =>
    unfold monthFrom
    split
    · exact ⟨Nat.le_refl _, by omega, low, by assumption⟩
    · have := ih (month + 1) (by omega) (by rw [show month + 1 + more = month + (more + 1) by omega]; exact high)
      omega

/-- **A day of a year lies in the month that `monthOfDay` names.** -/
theorem monthOfDay_bounds (year : Int) {n : Nat} (low : 1 ≤ n) (high : n ≤ lengthOfYear year) :
    1 ≤ monthOfDay year n ∧ monthOfDay year n ≤ 12 ∧ daysBeforeMonth year (monthOfDay year n) < n ∧
      n ≤ daysBeforeMonth year (monthOfDay year n + 1) :=
  monthFrom_bounds year n 11 1 low (by rw [daysBeforeMonth_thirteen]; exact high)

/-- Only one month holds a day of a year. -/
theorem monthOfDay_unique (year : Int) {n month : Nat} (lowest : 1 ≤ month) (highest : month ≤ 12)
    (low : daysBeforeMonth year month < n) (high : n ≤ daysBeforeMonth year (month + 1)) :
    monthOfDay year n = month := by
  have top := daysBeforeMonth_mono year (show month + 1 ≤ 13 by omega)
  rw [daysBeforeMonth_thirteen] at top
  obtain ⟨_, _, l, h⟩ := monthOfDay_bounds (n := n) year (by omega) (by omega)
  rcases Nat.lt_trichotomy (monthOfDay year n) month with lt | eq | gt
  · have := daysBeforeMonth_mono year (show monthOfDay year n + 1 ≤ month by omega); omega
  · exact eq
  · have := daysBeforeMonth_mono year (show month + 1 ≤ monthOfDay year n by omega); omega

/-! ## The calendar without end -/

theorem IsDay.le_mostDays {year : Int} {month day : Nat} (h : IsDay year month day) : day ≤ mostDays month :=
  Nat.le_trans h.2.2.2 (lengthOfMonth_le_mostDays h.1 h.2.1 year)

theorem IsDay.le_thirtyOne {year : Int} {month day : Nat} (h : IsDay year month day) : day ≤ 31 :=
  Nat.le_trans h.le_mostDays (mostDays_le month)

/-- A day lies within its month. -/
theorem IsDay.bounds {year : Int} {month day : Nat} (h : IsDay year month day) :
    1 ≤ day ∧ daysBeforeMonth year month + day ≤ daysBeforeMonth year (month + 1) := by
  obtain ⟨hm, -, hd, hd'⟩ := h
  rw [daysBeforeMonth_succ hm]
  omega

/-- A day lies within its year. -/
theorem dayNumber_bounds {year : Int} {month day : Nat} (h : IsDay year month day) :
    daysBeforeYear year < dayNumber year month day ∧ dayNumber year month day ≤ daysBeforeYear (year + 1) := by
  have hmonth := daysBeforeMonth_mono year (show month + 1 ≤ 13 by have := h.2.1; omega)
  rw [daysBeforeMonth_thirteen] at hmonth
  have := h.bounds
  rw [daysBeforeYear_succ]
  unfold dayNumber
  omega

/-- **Days are numbered in the order of year, month and day**, in all years. -/
theorem dayNumber_lt_iff {y y' : Int} {m m' d d' : Nat} (h : IsDay y m d) (h' : IsDay y' m' d') :
    dayNumber y m d < dayNumber y' m' d' ↔ y < y' ∨ y = y' ∧ (m < m' ∨ m = m' ∧ d < d') := by
  have hy := dayNumber_bounds h
  have hy' := dayNumber_bounds h'
  rcases Int.lt_trichotomy y y' with lt | eq | gt
  · have := daysBeforeYear_mono (show y + 1 ≤ y' by omega); omega
  · have hd := h.bounds
    have hd' := h'.bounds
    unfold dayNumber
    rw [eq] at hd ⊢
    rcases Nat.lt_trichotomy m m' with mlt | meq | mgt
    · have := daysBeforeMonth_mono y' (show m + 1 ≤ m' by omega); omega
    · rw [meq]; omega
    · have := daysBeforeMonth_mono y' (show m' + 1 ≤ m by omega); omega
  · have := daysBeforeYear_mono (show y' + 1 ≤ y by omega); omega

/-- The `n`-th day of a year lies in the month that `monthOfDay` names. -/
theorem isDay_monthOfDay (year : Int) {n : Nat} (low : 1 ≤ n) (high : n ≤ lengthOfYear year) :
    IsDay year (monthOfDay year n) (n - daysBeforeMonth year (monthOfDay year n)) ∧
      dayNumber year (monthOfDay year n) (n - daysBeforeMonth year (monthOfDay year n)) =
        daysBeforeYear year + n := by
  obtain ⟨lowest, highest, l, u⟩ := monthOfDay_bounds year low high
  rw [daysBeforeMonth_succ lowest] at u
  unfold dayNumber
  exact ⟨⟨lowest, highest, by omega, by omega⟩, by omega⟩

/-- **Every number is that of a day.** -/
theorem exists_isDay_dayNumber (n : Int) : ∃ year month day, IsDay year month day ∧ dayNumber year month day = n := by
  obtain ⟨l, u⟩ := yearOfNumber_bounds n
  rw [daysBeforeYear_succ] at u
  obtain ⟨hday, hnumber⟩ := isDay_monthOfDay (yearOfNumber n) (n := (n - daysBeforeYear (yearOfNumber n)).toNat)
    (by omega) (by omega)
  exact ⟨_, _, _, hday, by omega⟩

end Calendar

open Calendar

structure Date where
  year : Int
  month : Nat
  day : Nat
  valid : IsDate year month day
deriving DecidableEq, Repr

namespace Date

/-- The date of a triple, if it is one. -/
def ofYmd? (year : Int) (month day : Nat) : Option Date :=
  if h : IsDate year month day then some ⟨year, month, day, h⟩ else none

/-- The number of a date: 1 January of the year 1 has number 1. -/
def number (d : Date) : Int := daysBeforeYear d.year + daysBeforeMonth d.year d.month + d.day

/-- The date with a given number, if the calendar reaches that far. -/
def ofNumber? (n : Int) : Option Date :=
  let year := yearOfNumber n
  let ofYear := (n - daysBeforeYear year).toNat
  let month := monthOfDay year ofYear
  ofYmd? year month (ofYear - daysBeforeMonth year month)

/-- The date `days` days later. -/
def plusDays? (d : Date) (days : Nat) : Option Date := ofNumber? (d.number + days)

/-- The weekday: the year 1 began on a Monday. -/
def weekday (d : Date) : Weekday :=
  (Weekday.all[(d.number % 7).toNat]?).getD .sunday

instance : LT Date := ⟨fun a b => a.number < b.number⟩

instance : LE Date := ⟨fun a b => a.number ≤ b.number⟩

instance (a b : Date) : Decidable (a < b) := inferInstanceAs (Decidable (a.number < b.number))

instance (a b : Date) : Decidable (a ≤ b) := inferInstanceAs (Decidable (a.number ≤ b.number))

/-- The earlier of two dates. -/
instance : Min Date := ⟨fun a b => if a ≤ b then a else b⟩

/-- A year in four digits or more; one outside 0 to 9999 has its sign. -/
def yearText (year : Int) : Text :=
  if 0 ≤ year ∧ year ≤ 9999 then Text.padded 4 year.toNat
  else (if year < 0 then '-' else '+') :: Text.padded 4 year.natAbs

/-- Year, month and day with hyphens between. -/
def text (d : Date) : Text :=
  yearText d.year ++ '-' :: Text.padded 2 d.month ++ '-' :: Text.padded 2 d.day

theorem lt_def (a b : Date) : a < b ↔ a.number < b.number := Iff.rfl

theorem le_def (a b : Date) : a ≤ b ↔ a.number ≤ b.number := Iff.rfl

theorem ofYmd?_eq_some_iff {year : Int} {month day : Nat} {d : Date} :
    ofYmd? year month day = some d ↔ d.year = year ∧ d.month = month ∧ d.day = day := by
  unfold ofYmd?
  split
  · rename_i h
    rw [Option.some.injEq]
    exact ⟨fun e => e ▸ ⟨rfl, rfl, rfl⟩, fun ⟨hy, hm, hd⟩ => by cases d; simp_all⟩
  · rename_i h
    exact ⟨nofun, fun ⟨hy, hm, hd⟩ => absurd (hy ▸ hm ▸ hd ▸ d.valid) h⟩

/-- A date is a day of a year within the calendar. -/
theorem isDay (d : Date) : IsDay d.year d.month d.day := (isDate_iff.1 d.valid).2.2

/-- **Days are numbered in the order of year, month and day.** -/
theorem number_lt_iff (a b : Date) :
    a.number < b.number ↔
      a.year < b.year ∨ a.year = b.year ∧ (a.month < b.month ∨ a.month = b.month ∧ a.day < b.day) :=
  dayNumber_lt_iff a.isDay b.isDay

/-- The date of the number of a day is that day, where the calendar has it. -/
theorem ofNumber?_dayNumber {year : Int} {month day : Nat} (h : IsDay year month day) :
    ofNumber? (dayNumber year month day) = ofYmd? year month day := by
  obtain ⟨l, u⟩ := dayNumber_bounds h
  have hyear := yearOfNumber_unique l u
  have hday : (dayNumber year month day - daysBeforeYear year).toNat = daysBeforeMonth year month + day := by
    unfold dayNumber; omega
  have hb := h.bounds
  have hmonth := monthOfDay_unique (n := daysBeforeMonth year month + day) year h.1 h.2.1 (by omega) hb.2
  simp only [ofNumber?, hyear, hday, hmonth, Nat.add_sub_cancel_left]

/-- **The date of a number is the one that has it.** -/
theorem ofNumber?_eq_some_iff {n : Int} {d : Date} : ofNumber? n = some d ↔ d.number = n := by
  constructor
  · intro h
    obtain ⟨year, month, day, hday, rfl⟩ := exists_isDay_dayNumber n
    rw [ofNumber?_dayNumber hday] at h
    obtain ⟨rfl, rfl, rfl⟩ := ofYmd?_eq_some_iff.1 h
    rfl
  · rintro rfl
    exact (ofNumber?_dayNumber d.isDay).trans (ofYmd?_eq_some_iff.2 ⟨rfl, rfl, rfl⟩)

theorem number_inj {a b : Date} (h : a.number = b.number) : a = b :=
  Option.some.inj ((ofNumber?_eq_some_iff.2 rfl).symm.trans (ofNumber?_eq_some_iff.2 h.symm))

end Date
end Recurrence
