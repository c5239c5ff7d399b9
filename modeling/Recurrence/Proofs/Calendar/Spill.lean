import Recurrence.Proofs.Calendar.Reach
/-!
# Spill-over — so many months or years later

A shift by months keeps the day of the month; the days by which the month is too short for it are counted on from the
first of the month after.  The calendar refuses a shift just when the month that it leads to lies after the last year,
for a day never spills from the last month of a year into the next (`Date.spilled_plus`).
-/
namespace Recurrence

open Calendar

namespace Calendar

/-- Month `m'` of year `y'` comes `k` months after month `m` of year `y`. -/
def MonthsLater (k : Nat) (y : Int) (m : Nat) (y' : Int) (m' : Nat) : Prop :=
  1 ≤ m' ∧ m' ≤ 12 ∧ 12 * y' + m' = 12 * y + m + k

theorem monthsLater_of_monthNumber {k : Nat} {y : Int} {m : Nat} {n : Int} (h : n = monthNumber y m + k) :
    MonthsLater k y m (yearOfMonth n) (monthOfYear n) := by
  unfold monthNumber at h
  unfold MonthsLater yearOfMonth monthOfYear
  omega

theorem monthsLater_succ (n : Int) :
    MonthsLater 1 (yearOfMonth n) (monthOfYear n) (yearOfMonth (n + 1)) (monthOfYear (n + 1)) := by
  unfold MonthsLater yearOfMonth monthOfYear
  omega

theorem yearOfMonth_succ {n : Int} (h : monthLength n < 31) : yearOfMonth (n + 1) = yearOfMonth n := by
  by_cases hlast : n % 12 = 11
  · rw [monthLength_eq (by omega)] at h
    exact absurd h (Nat.lt_irrefl 31)
  · unfold yearOfMonth
    omega

end Calendar

namespace Date

/-! ## Days counted on from the first of a month -/

theorem numberInMonth_eq (n : Int) (day : Nat) : numberInMonth n day = numberInMonth n 1 + (day - 1) := by
  unfold numberInMonth dayNumber
  omega

/-- Months follow one another without a gap. -/
theorem numberInMonth_succ (n : Int) : numberInMonth (n + 1) 1 = numberInMonth n 1 + monthLength n := by
  rw [monthLength_eq_lengthOfMonth]
  unfold numberInMonth dayNumber
  by_cases hlast : n % 12 = 11
  · have hyear : yearOfMonth (n + 1) = yearOfMonth n + 1 := by unfold yearOfMonth; omega
    have hmonth : monthOfYear (n + 1) = 1 := by unfold monthOfYear; omega
    have hmonth' : monthOfYear n = 12 := by unfold monthOfYear; omega
    have hwhole := daysBeforeMonth_thirteen (yearOfMonth n)
    rw [daysBeforeMonth_succ (by omega)] at hwhole
    rw [hyear, hmonth, hmonth', daysBeforeYear_succ, ← hwhole, daysBeforeMonth]
    omega
  · have hyear : yearOfMonth (n + 1) = yearOfMonth n := by unfold yearOfMonth; omega
    have hmonth : monthOfYear (n + 1) = monthOfYear n + 1 := by unfold monthOfYear; omega
    rw [hyear, hmonth, daysBeforeMonth_succ (by unfold monthOfYear; omega)]
    omega

/-- The day that a month is too short for lies in the month after it. -/
theorem numberInMonth_spilled {n : Int} {day : Nat} (hlong : monthLength n < day) :
    numberInMonth n 1 + (day - 1) = numberInMonth (n + 1) (day - monthLength n) := by
  rw [numberInMonth_eq (n + 1), numberInMonth_succ]
  omega

theorem isDay_spilled {n : Int} {day : Nat} (hlong : monthLength n < day) (h : day ≤ 31) :
    IsDay (yearOfMonth (n + 1)) (monthOfYear (n + 1)) (day - monthLength n) := by
  have hshort := le_monthLength n
  have hnext := le_monthLength (n + 1)
  rw [isDay_month_iff]
  omega

theorem exists_reach {year : Int} {month day : Nat} (h : IsDay year month day) (hfirst : firstYear ≤ year)
    (hlast : year ≤ lastYear) :
    ∃ e : Date, reach (dayNumber year month day) = .ok e ∧ e.year = year ∧ e.month = month ∧ e.day = day := by
  have hvalid : IsDate year month day := isDate_iff.2 ⟨hfirst, hlast, h⟩
  refine ⟨⟨year, month, day, hvalid⟩, ?_, rfl, rfl, rfl⟩
  rw [← ofYmd?_elim h, ofYmd?, dif_pos hvalid]
  rfl

/-! ## The rule -/

/-- **The spill-over rule**: what comes `k` months after a date. -/
inductive Spilled (d : Date) (k : Nat) : Except Refusal Date → Prop
  | outOfRange {y : Int} {m : Nat} : MonthsLater k d.year d.month y m → lastYear < y →
      Spilled d k (.error .outOfRange)
  | kept {y : Int} {m : Nat} {e : Date} : MonthsLater k d.year d.month y m → y ≤ lastYear →
      d.day ≤ daysInMonth y m → e.year = y → e.month = m → e.day = d.day → Spilled d k (.ok e)
  | spilt {y y' : Int} {m m' : Nat} {e : Date} : MonthsLater k d.year d.month y m → y ≤ lastYear →
      daysInMonth y m < d.day → MonthsLater 1 y m y' m' → e.year = y' → e.month = m' →
      e.day = d.day - daysInMonth y m → Spilled d k (.ok e)

theorem spilled_reach (d : Date) (k : Nat) :
    Spilled d k (reach (numberInMonth (d.monthNumber + k) 1 + (d.day - 1))) := by
  have hlater := monthsLater_of_monthNumber (k := k) (y := d.year) (m := d.month) rfl
  have hfrom := firstNumber_le_numberInMonth (d := d) (n := d.monthNumber + k) (by omega)
  have hfirst : firstYear ≤ yearOfMonth (d.monthNumber + k) := by
    obtain ⟨hyear, -, hm, -⟩ := d.valid
    unfold yearOfMonth monthNumber Calendar.monthNumber
    omega
  have hday := d.isDay.2.2.1
  have hmost := d.isDay.le_thirtyOne
  rw [← monthNumber] at hlater
  generalize d.monthNumber + (k : Int) = n at hlater hfrom hfirst ⊢
  by_cases hlast : lastYear < yearOfMonth n
  · have hbeyond := lastNumber_lt_numberInMonth hlast
    have hreach := (reach_eq_error_iff (n := numberInMonth n 1 + (d.day - 1)) (by omega)).2 ⟨rfl, by omega⟩
    rw [hreach]
    exact .outOfRange hlater hlast
  · by_cases hfits : d.day ≤ monthLength n
    · obtain ⟨e, hreach, hy, hm, hd⟩ := exists_reach (isDay_month_iff.2 ⟨hday, hfits⟩) hfirst (by omega)
      rw [← numberInMonth_eq, numberInMonth, hreach]
      exact .kept hlater (by omega) hfits hy hm hd
    · -- a month too short for the day is not the last of its year, so the calendar has the month after it
      have hlong : monthLength n < d.day := by omega
      have hyear := yearOfMonth_succ (n := n) (by omega)
      obtain ⟨e, hreach, hy, hm, hd⟩ := exists_reach (isDay_spilled hlong hmost) (by omega) (by omega)
      rw [numberInMonth_spilled hlong, numberInMonth, hreach]
      exact .spilt hlater (by omega) hlong (monthsLater_succ n) hy hm hd

/-- **Shifts by months and by years follow the spill-over rule**, a year being twelve months, however many they are. -/
theorem spilled_plus (d : Date) (quantity : Nat) :
    Spilled d quantity (d.plus quantity .month) ∧ Spilled d (12 * quantity) (d.plus quantity .year) := by
  rw [plus_eq_reach, plus_eq_reach, shifted, shifted]
  have hyears := d.spilled_reach (12 * quantity)
  rw [show ((12 * quantity : Nat) : Int) = 12 * quantity by omega] at hyears
  exact ⟨d.spilled_reach quantity, hyears⟩

example : (⟨2024, 10, 31, by decide⟩ : Date).plus 4 .month = .ok ⟨2025, 3, 3, by decide⟩ := by decide +kernel

end Date
end Recurrence
