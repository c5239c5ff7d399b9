import Recurrence.Calendar.Date
import Recurrence.Calendar.Table
/-!
# Shifts — so many days, weeks, months or years later

Days and weeks are added as day numbers.  Months and years keep the day of the month: counted from the first day of
the month so many months later, a day that the month lacks spills into the month after it.  Months are counted in 32
bits; years that are too many for that are out of the calendar's range.
-/
namespace Recurrence
namespace Calendar

/-- Why the calendar has no answer. -/
inductive Refusal where
  | noSuchDay
  | noSuchMonth
  | outOfRange
deriving DecidableEq, Repr

/-- The number of a month: January of the year 0 has number 0. -/
def monthNumber (year : Int) (month : Nat) : Int := 12 * year + month - 1

/-- The year of the month with number `n`. -/
def yearOfMonth (n : Int) : Int := n / 12

/-- Which month of its year the month with number `n` is, January being 1. -/
def monthOfYear (n : Int) : Nat := (n % 12).toNat + 1

/-- The length of the month with number `n`. -/
def monthLength (n : Int) : Nat := daysInMonth (yearOfMonth n) (monthOfYear n)

theorem yearOfMonth_monthNumber {month : Nat} (lowest : 1 ≤ month) (highest : month ≤ 12) (year : Int) :
    yearOfMonth (monthNumber year month) = year := by
  unfold yearOfMonth monthNumber; omega

theorem monthOfYear_monthNumber {month : Nat} (lowest : 1 ≤ month) (highest : month ≤ 12) (year : Int) :
    monthOfYear (monthNumber year month) = month := by
  unfold monthOfYear monthNumber; omega

theorem monthLength_eq_lengthOfMonth (n : Int) : monthLength n = lengthOfMonth (yearOfMonth n) (monthOfYear n) :=
  daysInMonth_eq (by unfold monthOfYear; omega) (by unfold monthOfYear; omega) _

theorem le_monthLength (n : Int) : 28 ≤ monthLength n := by
  rw [monthLength_eq_lengthOfMonth]
  exact le_lengthOfMonth (by unfold monthOfYear; omega) (by unfold monthOfYear; omega) _

theorem monthLength_eq {n : Int} (h : n % 12 ≠ 1 ∧ n % 12 ≠ 3 ∧ n % 12 ≠ 5 ∧ n % 12 ≠ 8 ∧ n % 12 ≠ 10) :
    monthLength n = 31 := by
  unfold monthLength daysInMonth monthOfYear
  simp only [List.mem_cons, List.not_mem_nil, or_false]
  rw [if_neg (by omega), if_neg (by omega)]

/-- Of two neighbouring months one has 31 days. -/
theorem monthLength_or_succ (n : Int) : monthLength n = 31 ∨ monthLength (n + 1) = 31 := by
  by_cases h : n % 12 ≠ 1 ∧ n % 12 ≠ 3 ∧ n % 12 ≠ 5 ∧ n % 12 ≠ 8 ∧ n % 12 ≠ 10
  · exact .inl (monthLength_eq h)
  · exact .inr (monthLength_eq (by omega))

/-- Counts of months stay below this bound, the 32nd power of two. -/
def countBound : Nat := 4294967296

/-- So many years as months, where the count of these holds. -/
def monthsOfYears? (years : Nat) : Option Nat := if years * 12 < countBound then some (years * 12) else none

theorem monthsOfYears?_eq_some_iff {years months : Nat} :
    monthsOfYears? years = some months ↔ years * 12 = months ∧ months < countBound := by
  unfold monthsOfYears?
  split
  · rw [Option.some.injEq]
    omega
  · simp only [reduceCtorEq, false_iff]
    omega

end Calendar

open Calendar

namespace Date

/-- The number of the month in which a date lies. -/
def monthNumber (d : Date) : Int := Calendar.monthNumber d.year d.month

/-- The first day of the month with number `n`. -/
def firstOfMonth? (n : Int) : Option Date := ofYmd? (yearOfMonth n) (monthOfYear n) 1

/-- The same day `months` months later, counted on from the first day of that month. -/
def plusMonths? (d : Date) (months : Nat) : Option Date :=
  (firstOfMonth? (d.monthNumber + months)).bind fun first => first.plusDays? (d.day - 1)

/-- The date `quantity` units later. -/
def plus? (d : Date) (quantity : Nat) : TimeUnit → Option Date
  | .day => d.plusDays? quantity
  | .week => d.plusDays? (quantity * 7)
  | .month => d.plusMonths? quantity
  | .year => (monthsOfYears? quantity).bind d.plusMonths?

/-- The date `quantity` units later, or the refusal when the calendar does not reach that far. -/
def plus (d : Date) (quantity : Nat) (unit : TimeUnit) : Except Refusal Date :=
  (d.plus? quantity unit).elim (.error .outOfRange) .ok

end Date
end Recurrence
