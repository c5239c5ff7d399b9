/-!
# The calendar's names and lengths

Weekdays, months and units of time, and how long the months and years of the Gregorian calendar are.  The calendar
reaches back before its introduction and has a year 0.
-/
namespace Recurrence

inductive TimeUnit where
  | day | week | month | year
deriving DecidableEq, Repr

inductive Weekday where
  | sunday | monday | tuesday | wednesday | thursday | friday | saturday
deriving DecidableEq, Repr

inductive Month where
  | january | february | march | april | may | june | july | august | september | october | november | december
deriving DecidableEq, Repr

namespace Weekday

def all : List Weekday := [sunday, monday, tuesday, wednesday, thursday, friday, saturday]

/-- Days after Sunday. -/
def index : Weekday → Nat
  | sunday => 0 | monday => 1 | tuesday => 2 | wednesday => 3 | thursday => 4 | friday => 5 | saturday => 6

theorem getElem?_all_index (d : Weekday) : all[d.index]? = some d := by cases d <;> rfl

theorem index_lt (d : Weekday) : d.index < 7 := by cases d <;> decide

end Weekday

namespace Month

def all : List Month :=
  [january, february, march, april, may, june, july, august, september, october, november, december]

/-- Months after January. -/
def index : Month → Nat
  | january => 0 | february => 1 | march => 2 | april => 3 | may => 4 | june => 5
  | july => 6 | august => 7 | september => 8 | october => 9 | november => 10 | december => 11

theorem index_lt (m : Month) : m.index < 12 := by cases m <;> decide

end Month

namespace Calendar

/-! ## Lengths -/

/-- Every fourth year has a leap day, but of the full centuries only every fourth. -/
def HasLeapDay (year : Int) : Prop := year % 4 = 0 ∧ (year % 100 = 0 → year % 400 = 0)

instance (year : Int) : Decidable (HasLeapDay year) := inferInstanceAs (Decidable (_ ∧ _))

/-- The days that a year has beyond those of a common one. -/
def leapDays (year : Int) : Nat := if HasLeapDay year then 1 else 0

/-- The lengths of the months in a common year, from January on. -/
def commonLengths : List Nat := [31, 28, 31, 30, 31, 30, 31, 31, 30, 31, 30, 31]

/-- The length of a month, January being 1; the leap day is in February.  What is no month has no days. -/
def lengthOfMonth (year : Int) : (month : Nat) → Nat
  | 0 => 0
  | month + 1 => commonLengths.getD month 0 + if month + 1 = 2 then leapDays year else 0

def lengthOfYear (year : Int) : Nat := 365 + leapDays year

/-- How many days a month has at most, January being 1. -/
def mostDays (month : Nat) : Nat := if month = 2 then 29 else if month ∈ [4, 6, 9, 11] then 30 else 31

theorem leapDays_le (year : Int) : leapDays year ≤ 1 := by
  unfold leapDays
  split <;> decide

theorem mostDays_le (month : Nat) : mostDays month ≤ 31 := by
  unfold mostDays
  split
  · decide
  · split <;> decide

theorem le_mostDays (month : Nat) : 29 ≤ mostDays month := by
  unfold mostDays
  split
  · decide
  · split <;> decide

section Months

variable {month : Nat} (lowest : 1 ≤ month) (highest : month ≤ 12) (year : Int)
include lowest highest

/-- February is the one month whose length depends on the year. -/
theorem lengthOfMonth_eq : lengthOfMonth year month = if month = 2 then 28 + leapDays year else mostDays month := by
  have hall : ∀ m < 12, commonLengths.getD m 0 = if m + 1 = 2 then 28 else mostDays (m + 1) := by decide
  obtain ⟨m, rfl⟩ : ∃ m, month = m + 1 := ⟨month - 1, by omega⟩
  rw [lengthOfMonth, hall m (by omega)]
  split <;> rfl

theorem le_lengthOfMonth : 28 ≤ lengthOfMonth year month := by
  have := le_mostDays month
  rw [lengthOfMonth_eq lowest highest]
  split <;> omega

theorem lengthOfMonth_le_mostDays : lengthOfMonth year month ≤ mostDays month := by
  have := leapDays_le year
  rw [lengthOfMonth_eq lowest highest]
  split
  · rename_i hmonth
    rw [hmonth, mostDays, if_pos rfl]
    omega
  · exact Nat.le_refl _

/-- Every month is at its longest in a leap year. -/
theorem lengthOfMonth_eq_mostDays {year : Int} (h : HasLeapDay year) : lengthOfMonth year month = mostDays month := by
  rw [lengthOfMonth_eq lowest highest, leapDays, if_pos h]
  split
  · rename_i hmonth
    rw [hmonth]
    rfl
  · rfl

end Months

end Calendar
end Recurrence
