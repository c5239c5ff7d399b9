import Recurrence.Calendar.Shift
/-!
# Coming days — the next date of a kind, never today

The next date with a given weekday, with a given day of the month, or with a given month and day.  A month or a year
that lacks the day is passed over, for as long as it takes: of two neighbouring months one has 31 days, and no year that
400 divides is a common one, so that the search ends.
-/
namespace Recurrence

open Calendar

namespace Calendar

/-- The first number from `n` on that `p` accepts; `left` falls with every number that is passed over. -/
def firstFrom (p : Int → Bool) (left : Int → Nat) (falls : ∀ n, p n = false → left (n + 1) < left n) (n : Int) : Int :=
  if p n then n else firstFrom p left falls (n + 1)
termination_by left n
decreasing_by exact falls n (by simp_all)

/-- The first month from that with number `n` on that has day `day`. -/
def monthWith (day : Nat) (h : day ≤ 31) (n : Int) : Int :=
  firstFrom (fun n => decide (day ≤ monthLength n)) (fun n => 31 - monthLength n)
    (fun n hn => by
      have := monthLength_or_succ n
      simp only [decide_eq_false_iff_not] at hn
      omega) n

theorem mod_ne_of_lt_longestMonth {year : Int} {month : Nat} (h : daysInMonth year month < longestMonth month) :
    year % 400 ≠ 0 := by
  intro hmod
  have hleap : isLeapYear year = true := by simp [isLeapYear, hmod]
  rw [daysInMonth_of_isLeapYear hleap] at h
  exact Nat.lt_irrefl _ h

/-- The first year from `year` on in which month `month` has day `day`. -/
def yearWith (month day : Nat) (h : day ≤ longestMonth month) (year : Int) : Int :=
  firstFrom (fun year => decide (day ≤ daysInMonth year month)) (fun year => (-year % 400).toNat)
    (fun year hy => by
      simp only [decide_eq_false_iff_not] at hy
      have := mod_ne_of_lt_longestMonth (show daysInMonth year month < longestMonth month by omega)
      omega) year

end Calendar

namespace Date

/-- The first date after `today` that falls on `weekday`. -/
def nextWeekday (today : Date) (weekday : Weekday) : Except Refusal Date :=
  match (weekday.index + 7 - today.weekday.index) % 7 with
  | 0 => today.plus 7 .day
  | distance => today.plus distance .day

/-- The first month in which day `day` lies after today: this one or, where the day is over, the next. -/
def monthAhead (today : Date) (day : Nat) : Int :=
  if day ≤ today.day then today.monthNumber + 1 else today.monthNumber

theorem monthAhead_le_iff {today : Date} {day : Nat} {n : Int} :
    today.monthAhead day ≤ n ↔ today.monthNumber < n ∨ today.monthNumber = n ∧ today.day < day := by
  unfold monthAhead
  split <;> omega

/-- The first date after `today` that is day `day` of its month. -/
def nextDay (today : Date) (day : Nat) : Except Refusal Date :=
  if h : day < 1 ∨ 31 < day then .error .noSuchDay
  else
    let month := monthWith day (by omega) (today.monthAhead day)
    (ofYmd? (yearOfMonth month) (monthOfYear month) day).elim (.error .outOfRange) .ok

/-- The first year in which day `day` of month `month` lies after today: this one or, where the day is over, the
next. -/
def yearAhead (today : Date) (month day : Nat) : Int :=
  if month < today.month ∨ today.month = month ∧ day ≤ today.day then today.year + 1 else today.year

theorem yearAhead_le_iff {today : Date} {month day : Nat} {year : Int} :
    today.yearAhead month day ≤ year ↔
      today.year < year ∨ today.year = year ∧ (today.month < month ∨ today.month = month ∧ today.day < day) := by
  unfold yearAhead
  split <;> omega

/-- The first date after `today` that is day `day` of the month `monthIndex` months after January. -/
def nextMonthDay (today : Date) (monthIndex day : Nat) : Except Refusal Date :=
  if 12 ≤ monthIndex then .error .noSuchMonth
  else if h : day < 1 ∨ longestMonth (monthIndex + 1) < day then .error .noSuchDay
  else
    let year := yearWith (monthIndex + 1) day (by omega) (today.yearAhead (monthIndex + 1) day)
    (ofYmd? year (monthIndex + 1) day).elim (.error .outOfRange) .ok

end Date
end Recurrence
