import Recurrence.Proofs.Calendar.Reach
/-!
# Nearest dates — the least of a kind after today

The nearest date of a kind is the least one after today; where the calendar ends before it, there is none and the
answer is a refusal (`Date.Nearest`).  The next weekday is the nearest such date, within a week
(`Date.nearest_nextWeekday`).  The next day with a given place in its month is the nearest such date, and the
search for it passes over one month at most, which is too short for it (`Date.nearest_nextDay`).  The next day with a
given place in a given month is the nearest such date too; the search passes over seven years at most, those between
two leap years around a full century (`Date.nearest_nextMonthDay`).
-/
namespace Recurrence

open Calendar

namespace Calendar

/-! ## How far a search goes -/

/-- A search that must find something within `k` rounds passes over at most `k` numbers, none of which it wants. -/
theorem exists_passed {p : Int → Prop} {n m : Int} (hm : IsLeast {m | n ≤ m ∧ p m} m) {k i : Nat} (hi : i ≤ k)
    (hp : p (n + i)) : ∃ passed : Nat, passed ≤ k ∧ m = n + passed ∧ ∀ j < passed, ¬ p (n + j) := by
  obtain ⟨⟨hle, -⟩, hleast⟩ := hm
  have hbound : m ≤ n + i := hleast ⟨by omega, hp⟩
  refine ⟨(m - n).toNat, by omega, by omega, ?_⟩
  intro j hj hpj
  have : m ≤ n + j := hleast ⟨by omega, hpj⟩
  omega

theorem exists_passed_months {day : Nat} (h : day ≤ 31) (n : Int) :
    ∃ passed : Nat, passed ≤ 1 ∧ monthWith day h n = n + passed ∧ ∀ j < passed, monthLength (n + j) < day := by
  have hleast := isLeast_monthWith h n
  rcases monthLength_or_succ n with hl | hl
  · simpa only [Nat.not_le] using exists_passed hleast (k := 1) (i := 0) (by omega) (by simp [hl, h])
  · simpa only [Nat.not_le] using exists_passed hleast (k := 1) (i := 1) (by omega) (by simp [hl, h])

/-- **The table of greatest lengths holds how long a month is at most**, over all years. -/
theorem isGreatest_longestMonth {month : Nat} (lowest : 1 ≤ month) (highest : month ≤ 12) :
    IsGreatest {n | ∃ year, lengthOfMonth year month = n} (longestMonth month) := by
  rw [longestMonth_eq]
  refine ⟨⟨0, lengthOfMonth_eq_mostDays lowest highest (by decide)⟩, ?_⟩
  rintro _ ⟨year, rfl⟩
  exact lengthOfMonth_le_mostDays lowest highest year

/-- Of eight years in a row one is a leap year. -/
theorem exists_isLeapYear (year : Int) : ∃ i : Nat, i ≤ 7 ∧ isLeapYear (year + i) = true := by
  simp only [isLeapYear, Bool.or_eq_true, Bool.and_eq_true, decide_eq_true_eq]
  -- the first multiple of four, or the one after it when that is a full century
  by_cases hc : (year + -year % 4) % 100 = 0
  · exact ⟨(-year % 4 + 4).toNat, by omega, by omega⟩
  · exact ⟨(-year % 4).toNat, by omega, by omega⟩

theorem exists_passed_years {month day : Nat} (h : day ≤ longestMonth month) (year : Int) :
    ∃ passed : Nat, passed ≤ 7 ∧ yearWith month day h year = year + passed ∧
      ∀ j < passed, daysInMonth (year + j) month < day := by
  obtain ⟨i, hi, hleap⟩ := exists_isLeapYear year
  have hlong : day ≤ daysInMonth (year + i) month := by
    rw [daysInMonth_of_isLeapYear hleap]
    exact h
  simpa only [Nat.not_le] using exists_passed (isLeast_yearWith h year) hi hlong

theorem dayNumber_inj {y y' : Int} {m m' d d' : Nat} (h : IsDay y m d) (h' : IsDay y' m' d')
    (heq : dayNumber y m d = dayNumber y' m' d') : y = y' ∧ m = m' ∧ d = d' := by
  have hlt := dayNumber_lt_iff h h'
  have hgt := dayNumber_lt_iff h' h
  rw [heq] at hlt hgt
  have hirrefl := Int.lt_irrefl (dayNumber y' m' d')
  rw [hlt] at hirrefl
  rw [hlt] at hgt
  omega

end Calendar

namespace Date

/-! ## Nearest dates -/

/-- **The nearest date of a kind after today**, or the refusal where the calendar has none. -/
inductive Nearest (today : Date) (p : Date → Prop) : Except Refusal Date → Prop
  | found {d : Date} : IsLeast {d | today < d ∧ p d} d → Nearest today p (.ok d)
  | beyond : (∀ d, today < d → ¬ p d) → Nearest today p (.error .outOfRange)

variable {today : Date} {p : Date → Prop}

/-- What the calendar answers for the least day of a kind is the nearest date of that kind. -/
theorem nearest_reach {s : Set Int} {n : Int} (hleast : IsLeast s n) (hlt : today.number < n)
    (hs : ∀ d : Date, d.number ∈ s ↔ today < d ∧ p d) : Nearest today p (reach n) := by
  unfold reach
  cases hn : ofNumber? n with
  | some d =>
    obtain rfl := ofNumber?_eq_some_iff.1 hn
    refine .found ⟨(hs d).1 hleast.1, ?_⟩
    intro e he
    exact hleast.2 ((hs e).2 he)
  | none =>
    refine .beyond fun e hlater hp => ?_
    have hle : n ≤ e.number := hleast.2 ((hs e).2 ⟨hlater, hp⟩)
    have hfirst := today.firstNumber_le
    have hlast := e.le_lastNumber
    rcases ofNumber?_eq_none_iff.1 hn with hout | hout
    · omega
    · omega

theorem Nearest.ne_noSuchDay {result : Except Refusal Date} (h : Nearest today p result) :
    result ≠ .error .noSuchDay := by
  rintro rfl
  cases h

theorem le_week_of_isLeast {weekday : Weekday} {n : Int}
    (h : IsLeast {n | today.number < n ∧ n % 7 = weekday.index} n) : n ≤ today.number + 7 := by
  have hindex := weekday.index_lt
  -- the remainder is how many days after tomorrow the weekday comes
  have hle : n ≤ today.number + 1 + (weekday.index - (today.number + 1)) % 7 := by
    apply h.2
    constructor
    · omega
    · omega
  omega

/-- **The next weekday is the nearest such date.**  It is at most a week away, just a week when today falls on it, and
refused when it lies after the last day of the calendar. -/
theorem nearest_nextWeekday (today : Date) (weekday : Weekday) :
    Nearest today (fun d => d.weekday = weekday) (today.nextWeekday weekday) ∧
      ∃ n, IsLeast {n | today.number < n ∧ n % 7 = weekday.index} n ∧ n ≤ today.number + 7 ∧
        (n = today.number + 7 ↔ today.weekday = weekday) ∧
        (∀ d, today.nextWeekday weekday = .ok d ↔ d.number = n) ∧
        ∀ refusal, today.nextWeekday weekday = .error refusal ↔ refusal = .outOfRange ∧ lastNumber < n := by
  obtain ⟨n, hleast, hreach⟩ := today.exists_nextWeekday_eq_reach weekday
  obtain ⟨hlater, hfalls⟩ := hleast.1
  have hweek := le_week_of_isLeast hleast
  have hfirst := today.firstNumber_le
  rw [hreach]
  refine ⟨?_, n, hleast, hweek, ?_, fun d => reach_eq_ok_iff, fun refusal => reach_eq_error_iff (by omega)⟩
  · refine nearest_reach hleast hlater fun d => ?_
    rw [weekday_eq_iff]
    exact Iff.rfl
  · rw [weekday_eq_iff]
    omega

example : (⟨2024, 1, 1, by decide⟩ : Date).nextWeekday .monday = .ok ⟨2024, 1, 8, by decide⟩ := by decide +kernel

variable {day : Nat}

theorem number_mem_days_iff (d : Date) :
    d.number ∈ {n | today.number < n ∧ ∃ year month, IsDay year month day ∧ dayNumber year month day = n} ↔
      today < d ∧ d.day = day := by
  constructor
  · rintro ⟨hlt, year, month, hday, hnumber⟩
    obtain ⟨-, -, hd⟩ := dayNumber_inj hday d.isDay hnumber
    exact ⟨hlt, hd.symm⟩
  · rintro ⟨hlt, rfl⟩
    exact ⟨hlt, d.year, d.month, d.isDay, rfl⟩

/-- **The next day with a given place in its month is the nearest such date**, and only a place that no month has is
refused for itself.  The search ends after one month that is too short at most. -/
theorem nearest_nextDay (today : Date) (day : Nat) :
    (today.nextDay day = .error .noSuchDay ↔ day < 1 ∨ 31 < day) ∧
      ∀ h : 1 ≤ day ∧ day ≤ 31,
        (∃ passed : Nat, passed ≤ 1 ∧ monthWith day h.2 (today.monthAhead day) = today.monthAhead day + passed ∧
          ∀ j < passed, monthLength (today.monthAhead day + j) < day) ∧
        Nearest today (fun d => d.day = day) (today.nextDay day) := by
  have hnearest : 1 ≤ day ∧ day ≤ 31 → Nearest today (fun d => d.day = day) (today.nextDay day) := by
    intro h
    obtain ⟨n, hleast, hreach⟩ := today.exists_nextDay_eq_reach h
    rw [hreach]
    exact nearest_reach hleast hleast.1.1 number_mem_days_iff
  refine ⟨⟨fun hnone => ?_, today.nextDay_eq_noSuchDay⟩, fun h => ?_⟩
  · by_contra hbounds
    exact (hnearest (by omega)).ne_noSuchDay hnone
  · exact ⟨exists_passed_months h.2 _, hnearest h⟩

/-- Thirty days into a January that no leap day follows. -/
def lateJanuary : Date := ⟨2023, 1, 30, by decide⟩

theorem nearest_nextDay_lateJanuary :
    ∃ h : 1 ≤ 29 ∧ 29 ≤ 31,
      (∃ passed : Nat, passed ≤ 1 ∧
        monthWith 29 h.2 (lateJanuary.monthAhead 29) = lateJanuary.monthAhead 29 + passed ∧
          ∀ j < passed, monthLength (lateJanuary.monthAhead 29 + j) < 29) ∧
      Nearest lateJanuary (fun d => d.day = 29) (lateJanuary.nextDay 29) ∧
      lateJanuary.nextDay 29 = .ok ⟨2023, 3, 29, by decide⟩ := by
  have hbounds : 1 ≤ 29 ∧ 29 ≤ 31 := by decide
  obtain ⟨hpassed, hnearest⟩ := (nearest_nextDay lateJanuary 29).2 hbounds
  exact ⟨hbounds, hpassed, hnearest, by decide +kernel⟩

theorem number_mem_monthDays_iff {month : Nat} (d : Date) :
    d.number ∈ {n | today.number < n ∧ ∃ year, IsDay year month day ∧ dayNumber year month day = n} ↔
      today < d ∧ d.month = month ∧ d.day = day := by
  constructor
  · rintro ⟨hlt, year, hday, hnumber⟩
    obtain ⟨-, hm, hd⟩ := dayNumber_inj hday d.isDay hnumber
    exact ⟨hlt, hm.symm, hd.symm⟩
  · rintro ⟨hlt, rfl, rfl⟩
    exact ⟨hlt, d.year, d.isDay, rfl⟩

/-- **The next day with a given place in a given month is the nearest such date**, once there is such a month and it has
such a day in some year.  The search ends after seven years at most. -/
theorem nearest_nextMonthDay (today : Date) (monthIndex day : Nat) :
    (12 ≤ monthIndex → today.nextMonthDay monthIndex day = .error .noSuchMonth) ∧
      (monthIndex < 12 → day < 1 ∨ mostDays (monthIndex + 1) < day →
        today.nextMonthDay monthIndex day = .error .noSuchDay) ∧
      (monthIndex < 12 → ∀ h : 1 ≤ day ∧ day ≤ mostDays (monthIndex + 1),
        (∃ passed : Nat, passed ≤ 7 ∧
          yearWith (monthIndex + 1) day (le_longestMonth_iff.2 h.2) (today.yearAhead (monthIndex + 1) day) =
            today.yearAhead (monthIndex + 1) day + passed ∧
          ∀ j < passed, daysInMonth (today.yearAhead (monthIndex + 1) day + j) (monthIndex + 1) < day) ∧
        Nearest today (fun d => d.month = monthIndex + 1 ∧ d.day = day) (today.nextMonthDay monthIndex day)) := by
  refine ⟨fun hm => ?_, today.nextMonthDay_eq_noSuchDay, fun hm h =>
    ⟨exists_passed_years (le_longestMonth_iff.2 h.2) _, ?_⟩⟩
  · rw [nextMonthDay, if_pos hm]
  · obtain ⟨n, hleast, hreach⟩ := today.exists_nextMonthDay_eq_reach hm h
    rw [hreach]
    exact nearest_reach hleast hleast.1.1 number_mem_monthDays_iff

/-- The first day of a year after which the next leap year is the eighth. -/
def beforeCentury : Date := ⟨2097, 1, 1, by decide⟩

theorem nearest_nextMonthDay_beforeCentury :
    1 < 12 ∧ ∃ h : 1 ≤ 29 ∧ 29 ≤ mostDays 2,
      (∃ passed : Nat, passed ≤ 7 ∧
        yearWith 2 29 (le_longestMonth_iff.2 h.2) (beforeCentury.yearAhead 2 29) =
            beforeCentury.yearAhead 2 29 + passed ∧
          ∀ j < passed, daysInMonth (beforeCentury.yearAhead 2 29 + j) 2 < 29) ∧
      Nearest beforeCentury (fun d => d.month = 2 ∧ d.day = 29) (beforeCentury.nextMonthDay 1 29) ∧
      beforeCentury.nextMonthDay 1 29 = .ok ⟨2104, 2, 29, by decide⟩ := by
  have hbounds : 1 ≤ 29 ∧ 29 ≤ mostDays 2 := by decide
  obtain ⟨hpassed, hnearest⟩ := (nearest_nextMonthDay beforeCentury 1 29).2.2 (by decide) hbounds
  exact ⟨by decide, hbounds, hpassed, hnearest, by decide +kernel⟩

end Date
end Recurrence
