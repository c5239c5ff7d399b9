import Recurrence.Proofs.Calendar.Later
/-!
# Reach — what the calendar answers, and where it ends

On a calendar without end, a shift leads to a day and every coming day that is asked for comes.  The calendar answers
with the date of that day, and refuses only because it ends before it: a shift answers for the day that is so many
units later (`Date.plus_eq_reach`), and the coming days are the least days of their kind after today
(`Date.exists_nextWeekday_eq_reach`, `Date.exists_nextDay_eq_reach`, `Date.exists_nextMonthDay_eq_reach`).
-/
namespace Recurrence

open Calendar

namespace Date

/-- The date with a given number, or the refusal when the calendar does not reach that far. -/
def reach (n : Int) : Except Refusal Date := (ofNumber? n).elim (.error .outOfRange) .ok

/-! ## Where the calendar ends -/

theorem ofYmd?_eq_none_iff {year : Int} {month day : Nat} (h : IsDay year month day) :
    ofYmd? year month day = none ↔ year < firstYear ∨ lastYear < year := by
  unfold ofYmd?
  split
  · rename_i hd
    obtain ⟨hfirst, hlast, -⟩ := isDate_iff.1 hd
    constructor
    · intro hnone
      cases hnone
    · intro hout
      omega
  · rename_i hd
    have hout : ¬ (firstYear ≤ year ∧ year ≤ lastYear) := by
      rintro ⟨hfirst, hlast⟩
      exact hd (isDate_iff.2 ⟨hfirst, hlast, h⟩)
    exact ⟨fun _ => by omega, fun _ => rfl⟩

theorem firstNumber_eq : firstNumber = daysBeforeYear firstYear + 1 := by decide

theorem lastNumber_eq : lastNumber = daysBeforeYear (lastYear + 1) := by decide

/-- **The calendar has the dates of the numbers from its first to its last**, and no others. -/
theorem ofNumber?_eq_none_iff {n : Int} : ofNumber? n = none ↔ n < firstNumber ∨ lastNumber < n := by
  obtain ⟨year, month, day, hday, rfl⟩ := exists_isDay_dayNumber n
  obtain ⟨l, u⟩ := dayNumber_bounds hday
  rw [ofNumber?_dayNumber hday, ofYmd?_eq_none_iff hday, firstNumber_eq, lastNumber_eq]
  constructor
  · rintro (h | h)
    · have := daysBeforeYear_mono (show year + 1 ≤ firstYear by omega)
      omega
    · have := daysBeforeYear_mono (show lastYear + 1 ≤ year by omega)
      omega
  · intro h
    by_contra hin
    have := daysBeforeYear_mono (show firstYear ≤ year by omega)
    have := daysBeforeYear_mono (show year + 1 ≤ lastYear + 1 by omega)
    omega

theorem number_bounds (d : Date) : firstNumber ≤ d.number ∧ d.number ≤ lastNumber := by
  have hd : ofNumber? d.number = some d := ofNumber?_eq_some_iff.2 rfl
  have hn : ¬ (d.number < firstNumber ∨ lastNumber < d.number) := by
    rw [← ofNumber?_eq_none_iff, hd]
    exact Option.some_ne_none d
  omega

theorem firstNumber_le (d : Date) : firstNumber ≤ d.number := d.number_bounds.1

theorem le_lastNumber (d : Date) : d.number ≤ lastNumber := d.number_bounds.2

theorem reach_eq_ok_iff {n : Int} {d : Date} : reach n = .ok d ↔ d.number = n := by
  rw [← ofNumber?_eq_some_iff, reach]
  cases ofNumber? n <;> simp

/-- A day from the first of the calendar on is refused when it lies after the last, and for no other reason. -/
theorem reach_eq_error_iff {n : Int} (h : firstNumber ≤ n) {refusal : Refusal} :
    reach n = .error refusal ↔ refusal = .outOfRange ∧ lastNumber < n := by
  unfold reach
  cases hn : ofNumber? n with
  | none =>
    have := ofNumber?_eq_none_iff.1 hn
    simp only [Option.elim_none, Except.error.injEq]
    exact ⟨fun hr => ⟨hr.symm, by omega⟩, fun hr => hr.1.symm⟩
  | some d =>
    have hin : ¬ (n < firstNumber ∨ lastNumber < n) := by
      rw [← ofNumber?_eq_none_iff, hn]
      exact Option.some_ne_none d
    simp only [Option.elim_some]
    constructor
    · intro hok
      cases hok
    · rintro ⟨-, hlast⟩
      exact absurd (.inr hlast) hin

theorem ofYmd?_elim {year : Int} {month day : Nat} (h : IsDay year month day) :
    (ofYmd? year month day).elim (.error .outOfRange) .ok = reach (dayNumber year month day) := by
  rw [reach, ofNumber?_dayNumber h]

/-! ## Months of the calendar without end -/

/-- The number of a day of the month with number `n`. -/
def numberInMonth (n : Int) (day : Nat) : Int := dayNumber (yearOfMonth n) (monthOfYear n) day

theorem isDay_month_iff {n : Int} {day : Nat} :
    IsDay (yearOfMonth n) (monthOfYear n) day ↔ 1 ≤ day ∧ day ≤ monthLength n := by
  rw [monthLength_eq_lengthOfMonth]
  unfold IsDay monthOfYear
  omega

theorem isDay_monthNumber {year : Int} {month day : Nat} (h : IsDay year month day) :
    IsDay (yearOfMonth (Calendar.monthNumber year month)) (monthOfYear (Calendar.monthNumber year month)) day := by
  rw [yearOfMonth_monthNumber h.1 h.2.1, monthOfYear_monthNumber h.1 h.2.1]
  exact h

theorem numberInMonth_monthNumber {year : Int} {month day : Nat} (h : IsDay year month day) :
    numberInMonth (Calendar.monthNumber year month) day = dayNumber year month day := by
  rw [numberInMonth, yearOfMonth_monthNumber h.1 h.2.1, monthOfYear_monthNumber h.1 h.2.1]

theorem numberInMonth_self (d : Date) : numberInMonth d.monthNumber d.day = d.number :=
  numberInMonth_monthNumber d.isDay

/-- Days come in the order of their months, and in a month in that of their places in it. -/
theorem numberInMonth_lt_iff {m n : Int} {a b : Nat} (ha : IsDay (yearOfMonth m) (monthOfYear m) a)
    (hb : IsDay (yearOfMonth n) (monthOfYear n) b) :
    numberInMonth m a < numberInMonth n b ↔ m < n ∨ m = n ∧ a < b := by
  rw [numberInMonth, numberInMonth, dayNumber_lt_iff ha hb]
  unfold yearOfMonth monthOfYear
  omega

theorem numberInMonth_mono {m n : Int} {day : Nat} (hm : IsDay (yearOfMonth m) (monthOfYear m) day)
    (hn : IsDay (yearOfMonth n) (monthOfYear n) day) (h : m ≤ n) : numberInMonth m day ≤ numberInMonth n day := by
  rw [← Int.not_lt, numberInMonth_lt_iff hn hm]
  omega

/-! ## Shifts -/

/-- The number of the day that is `quantity` units later, on a calendar without end. -/
def shifted (d : Date) (quantity : Nat) : TimeUnit → Int
  | .day => d.number + quantity
  | .week => d.number + 7 * quantity
  | .month => numberInMonth (d.monthNumber + quantity) 1 + (d.day - 1)
  | .year => numberInMonth (d.monthNumber + 12 * quantity) 1 + (d.day - 1)

theorem isDay_first (n : Int) : IsDay (yearOfMonth n) (monthOfYear n) 1 := by
  have := le_monthLength n
  rw [isDay_month_iff]
  omega

/-- No month from that of a date on begins before the calendar. -/
theorem firstNumber_le_numberInMonth {d : Date} {n : Int} (h : d.monthNumber ≤ n) :
    firstNumber ≤ numberInMonth n 1 := by
  obtain ⟨hyear, -, hm, hm', -⟩ := d.valid
  have hn : firstYear ≤ yearOfMonth n := by
    unfold monthNumber Calendar.monthNumber at h
    unfold yearOfMonth
    omega
  have := daysBeforeYear_mono hn
  have := (dayNumber_bounds (isDay_first n)).1
  rw [firstNumber_eq, numberInMonth]
  omega

theorem plusMonths?_eq (d : Date) (months : Nat) :
    d.plusMonths? months = ofNumber? (numberInMonth (d.monthNumber + months) 1 + (d.day - 1)) := by
  have hday := d.isDay.2.2.1
  unfold plusMonths? firstOfMonth?
  rw [← ofNumber?_dayNumber (isDay_first _), ← numberInMonth]
  cases hf : ofNumber? (numberInMonth (d.monthNumber + months) 1) with
  | some first =>
    have hnumber := ofNumber?_eq_some_iff.1 hf
    rw [Option.bind_some, plusDays?, hnumber, show ((d.day - 1 : Nat) : Int) = d.day - 1 by omega]
  | none =>
    have hlate := ofNumber?_eq_none_iff.1 hf
    have := firstNumber_le_numberInMonth (d := d) (n := d.monthNumber + months) (by omega)
    have hnone : ofNumber? (numberInMonth (d.monthNumber + months) 1 + (d.day - 1)) = none :=
      ofNumber?_eq_none_iff.2 (by omega)
    rw [Option.bind_none, hnone]

/-- Months after the last year of the calendar begin after its last day. -/
theorem lastNumber_lt_numberInMonth {n : Int} (h : lastYear < yearOfMonth n) : lastNumber < numberInMonth n 1 := by
  have := daysBeforeYear_mono (show lastYear + 1 ≤ yearOfMonth n by omega)
  have := (dayNumber_bounds (isDay_first n)).1
  rw [lastNumber_eq, numberInMonth]
  omega

theorem plusYears?_eq (d : Date) (years : Nat) :
    (monthsOfYears? years).bind d.plusMonths? =
      ofNumber? (numberInMonth (d.monthNumber + 12 * years) 1 + (d.day - 1)) := by
  unfold monthsOfYears?
  split
  · rw [Option.bind_some, plusMonths?_eq, show ((years * 12 : Nat) : Int) = 12 * years by omega]
  · -- more months than the count holds lead beyond the calendar from wherever in it
    rename_i hcount
    have hlate : lastYear < yearOfMonth (d.monthNumber + 12 * years) := by
      obtain ⟨hyear, -, hm, -⟩ := d.valid
      unfold firstYear at hyear
      unfold countBound at hcount
      unfold lastYear yearOfMonth monthNumber Calendar.monthNumber
      omega
    have := lastNumber_lt_numberInMonth hlate
    have := d.isDay.2.2.1
    rw [Option.bind_none, ofNumber?_eq_none_iff.2 (by omega)]

/-- **A shift leads to the day so many units later**, where the calendar reaches that far. -/
theorem plus_eq_reach (d : Date) (quantity : Nat) (unit : TimeUnit) :
    d.plus quantity unit = reach (d.shifted quantity unit) := by
  unfold plus reach
  congr 1
  cases unit with
  | day => rfl
  | week =>
    rw [plus?, plusDays?, shifted]
    congr 1
    omega
  | month => exact plusMonths?_eq d quantity
  | year => exact plusYears?_eq d quantity

theorem firstNumber_le_shifted (d : Date) (quantity : Nat) (unit : TimeUnit) :
    firstNumber ≤ d.shifted quantity unit := by
  have := d.firstNumber_le
  have := d.isDay.2.2.1
  cases unit with
  | day => rw [shifted]; omega
  | week => rw [shifted]; omega
  | month =>
    have := firstNumber_le_numberInMonth (d := d) (n := d.monthNumber + quantity) (by omega)
    rw [shifted]
    omega
  | year =>
    have := firstNumber_le_numberInMonth (d := d) (n := d.monthNumber + 12 * quantity) (by omega)
    rw [shifted]
    omega

/-! ## Coming days -/

theorem index_weekday (d : Date) : (d.weekday.index : Int) = d.number % 7 := by
  have hall : ∀ i < 7, ((Weekday.all[i]?).getD .sunday).index = i := by decide
  rw [weekday, hall _ (by omega)]
  omega

theorem weekday_eq_iff (d : Date) (weekday : Weekday) : d.weekday = weekday ↔ d.number % 7 = weekday.index := by
  rw [← index_weekday]
  constructor
  · rintro rfl
    rfl
  · intro h
    have hindex : d.weekday.index = weekday.index := by omega
    have hself := Weekday.getElem?_all_index d.weekday
    rw [hindex, Weekday.getElem?_all_index] at hself
    exact (Option.some.inj hself).symm

/-- **The next weekday is the least day after today that falls on it.** -/
theorem exists_nextWeekday_eq_reach (today : Date) (weekday : Weekday) :
    ∃ n, IsLeast {n | today.number < n ∧ n % 7 = weekday.index} n ∧ today.nextWeekday weekday = reach n := by
  have htoday := index_weekday today
  have hlt := weekday.index_lt
  unfold nextWeekday
  generalize hd : (weekday.index + 7 - today.weekday.index) % 7 = distance
  cases distance with
  | zero =>
    refine ⟨today.number + 7, ⟨⟨by omega, by omega⟩, ?_⟩, plus_eq_reach today 7 .day⟩
    rintro n ⟨h1, h2⟩
    omega
  | succ d =>
    refine ⟨today.number + (d + 1 : Nat), ⟨⟨by omega, by omega⟩, ?_⟩, plus_eq_reach today (d + 1) .day⟩
    rintro n ⟨h1, h2⟩
    omega

variable {today : Date} {day : Nat}

/-- A day is after today just when its month is one from the first month ahead on. -/
theorem number_lt_numberInMonth_iff {n : Int} (hday : IsDay (yearOfMonth n) (monthOfYear n) day) :
    today.number < numberInMonth n day ↔ today.monthAhead day ≤ n := by
  have hself := isDay_monthNumber today.isDay
  rw [monthAhead_le_iff, ← numberInMonth_self, monthNumber, numberInMonth_lt_iff hself hday]

/-- **The next day with a given place in its month is the least such day after today.** -/
theorem exists_nextDay_eq_reach (today : Date) {day : Nat} (h : 1 ≤ day ∧ day ≤ 31) :
    ∃ n, IsLeast {n | today.number < n ∧ ∃ year month, IsDay year month day ∧ dayNumber year month day = n} n ∧
      today.nextDay day = reach n := by
  obtain ⟨⟨hahead, hle⟩, hleast⟩ := isLeast_monthWith h.2 (today.monthAhead day)
  have hnext : today.nextDay day = (ofYmd? (yearOfMonth (monthWith day h.2 (today.monthAhead day)))
      (monthOfYear (monthWith day h.2 (today.monthAhead day))) day).elim (.error .outOfRange) .ok := by
    rw [nextDay, dif_neg (by omega)]
  generalize monthWith day h.2 (today.monthAhead day) = month at hahead hle hleast hnext
  have hday : IsDay (yearOfMonth month) (monthOfYear month) day := isDay_month_iff.2 ⟨h.1, hle⟩
  refine ⟨numberInMonth month day, ⟨?_, ?_⟩, hnext.trans (ofYmd?_elim hday)⟩
  · exact ⟨(number_lt_numberInMonth_iff hday).2 hahead, _, _, hday, rfl⟩
  · rintro n ⟨hlt, year, m, hd, rfl⟩
    rw [← numberInMonth_monthNumber hd] at hlt ⊢
    have hd' := isDay_monthNumber hd
    have hmonth := hleast ⟨(number_lt_numberInMonth_iff hd').1 hlt, (isDay_month_iff.1 hd').2⟩
    exact numberInMonth_mono hday hd' hmonth

theorem nextDay_eq_noSuchDay (today : Date) {day : Nat} (h : day < 1 ∨ 31 < day) :
    today.nextDay day = .error .noSuchDay := by
  rw [nextDay, dif_pos h]

variable {month : Nat}

theorem number_lt_dayNumber_iff {year : Int} (hday : IsDay year month day) :
    today.number < dayNumber year month day ↔ today.yearAhead month day ≤ year := by
  rw [yearAhead_le_iff]
  exact dayNumber_lt_iff today.isDay hday

/-- **The next day with a given place in a given month is the least such day after today.** -/
theorem exists_nextMonthDay_eq_reach (today : Date) {monthIndex day : Nat} (hm : monthIndex < 12)
    (h : 1 ≤ day ∧ day ≤ mostDays (monthIndex + 1)) :
    ∃ n, IsLeast {n | today.number < n ∧
        ∃ year, IsDay year (monthIndex + 1) day ∧ dayNumber year (monthIndex + 1) day = n} n ∧
      today.nextMonthDay monthIndex day = reach n := by
  have hmost := le_longestMonth_iff.2 h.2
  have hlength (year : Int) : daysInMonth year (monthIndex + 1) = lengthOfMonth year (monthIndex + 1) :=
    daysInMonth_eq (by omega) (by omega) year
  obtain ⟨⟨hahead, hle⟩, hleast⟩ := isLeast_yearWith hmost (today.yearAhead (monthIndex + 1) day)
  have hnext : today.nextMonthDay monthIndex day =
      (ofYmd? (yearWith (monthIndex + 1) day hmost (today.yearAhead (monthIndex + 1) day)) (monthIndex + 1) day).elim
        (.error .outOfRange) .ok := by
    rw [nextMonthDay, if_neg (by omega), dif_neg (by omega)]
  generalize yearWith (monthIndex + 1) day hmost (today.yearAhead (monthIndex + 1) day) = year
    at hahead hle hleast hnext
  simp only [hlength] at hle hleast
  have hday : IsDay year (monthIndex + 1) day := ⟨by omega, by omega, h.1, hle⟩
  refine ⟨dayNumber year (monthIndex + 1) day, ⟨?_, ?_⟩, hnext.trans (ofYmd?_elim hday)⟩
  · exact ⟨(number_lt_dayNumber_iff hday).2 hahead, _, hday, rfl⟩
  · rintro n ⟨hlt, y, hd, rfl⟩
    have hyear : year ≤ y := hleast ⟨(number_lt_dayNumber_iff hd).1 hlt, hd.2.2.2⟩
    rw [← Int.not_lt, dayNumber_lt_iff hd hday]
    omega

theorem nextMonthDay_eq_noSuchDay (today : Date) {monthIndex day : Nat} (hm : monthIndex < 12)
    (h : day < 1 ∨ mostDays (monthIndex + 1) < day) : today.nextMonthDay monthIndex day = .error .noSuchDay := by
  rw [← longestMonth_eq] at h
  rw [nextMonthDay, if_neg (by omega), dif_pos h]

end Date
end Recurrence
