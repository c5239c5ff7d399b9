import Recurrence.Calendar.Basic
/-!
# Tables — the lengths of months as they are looked up

A search for a coming day looks up how long a month is, and first how long it is at most.  The lengths looked up are
those of the calendar (`Calendar.daysInMonth_eq`), and the greatest ones are the greatest (`Calendar.longestMonth_eq`).
-/
namespace Recurrence
namespace Calendar

/-- Whether a year is a leap year. -/
def isLeapYear (year : Int) : Bool :=
  (decide (year % 4 = 0) && decide (year % 100 ≠ 0)) || decide (year % 400 = 0)

/-- The length of a month, January being 1.  A number that names no month gets the common length, 31. -/
def daysInMonth (year : Int) (month : Nat) : Nat :=
  if month = 2 then (if isLeapYear year then 29 else 28)
  else if month ∈ [4, 6, 9, 11] then 30
  else 31

/-- The greatest lengths of the months over all years, from January on. -/
def longestMonths : List Nat := [31, 29, 31, 30, 31, 30, 31, 31, 30, 31, 30, 31]

/-- The greatest length of a month over all years, January being 1. -/
def longestMonth (month : Nat) : Nat := (longestMonths[month - 1]?).getD 31

theorem isLeapYear_iff (year : Int) : isLeapYear year = true ↔ HasLeapDay year := by
  simp only [isLeapYear, HasLeapDay, Bool.or_eq_true, Bool.and_eq_true, decide_eq_true_eq]
  omega

/-- **The length looked up is that of the month.** -/
theorem daysInMonth_eq {month : Nat} (lowest : 1 ≤ month) (highest : month ≤ 12) (year : Int) :
    daysInMonth year month = lengthOfMonth year month := by
  rw [lengthOfMonth_eq lowest highest, daysInMonth]
  by_cases hmonth : month = 2
  · rw [if_pos hmonth, if_pos hmonth, leapDays]
    simp only [isLeapYear_iff]
    split <;> rfl
  · rw [if_neg hmonth, if_neg hmonth, mostDays, if_neg hmonth]

/-- **The greatest lengths looked up are the greatest**: those of a leap year. -/
theorem longestMonth_eq (month : Nat) : longestMonth month = mostDays month := by
  by_cases h : month < 13
  · have hall : ∀ m < 13, longestMonth m = mostDays m := by decide
    exact hall month h
  · have hnone : longestMonths[month - 1]? = none := List.getElem?_eq_none (show 12 ≤ month - 1 by omega)
    simp only [longestMonth, mostDays, hnone, Option.getD_none, List.mem_cons, List.not_mem_nil, or_false]
    rw [if_neg (by omega), if_neg (by omega)]

theorem le_longestMonth_iff {month day : Nat} : day ≤ longestMonth month ↔ day ≤ mostDays month := by
  rw [longestMonth_eq]

theorem daysInMonth_of_isLeapYear {year : Int} (h : isLeapYear year = true) (month : Nat) :
    daysInMonth year month = longestMonth month := by
  rw [longestMonth_eq, daysInMonth, if_pos h]
  rfl

end Calendar
end Recurrence
