import Mathlib.Order.Bounds.Basic
import Recurrence.Calendar.Coming
/-!
# Later dates — what the calendar finds lies after today

A shift by at least one unit leads to a later date (`Date.lt_of_plus`), also where a day that the month lacks spills
into the month after it; and the next weekday, day of the month or day of the year is never today
(`Date.lt_of_nextWeekday`, `Date.lt_of_nextDay`, `Date.lt_of_nextMonthDay`).  The month or year in which
one of the last two lies is searched for, and the search finds the least (`Calendar.isLeast_firstFrom`).
-/
namespace Recurrence

open Calendar

theorem eq_some_of_elim {α ε : Type} {x : Option α} {e : ε} {a : α}
    (h : x.elim (.error e) .ok = (.ok a : Except ε α)) : x = some a := by
  cases x with
  | none => cases h
  | some b => exact congrArg some (Except.ok.inj h)

namespace Date

theorem lt_of_lt_of_le {a b c : Date} (hab : a < b) (hbc : b ≤ c) : a < c := Int.lt_of_lt_of_le hab hbc

instance : Std.IsLinearOrder Date where
  le_refl d := Int.le_refl d.number
  le_trans _ _ _ hab hbc := Int.le_trans hab hbc
  le_antisymm _ _ hab hba := number_inj (Int.le_antisymm hab hba)
  le_total a b := Int.le_total a.number b.number

instance : Std.LawfulOrderMin Date where
  min_eq_or a b := by
    show (if a ≤ b then a else b) = a ∨ (if a ≤ b then a else b) = b
    split
    · exact .inl rfl
    · exact .inr rfl
  le_min_iff a b c := by
    show a ≤ (if b ≤ c then b else c) ↔ a ≤ b ∧ a ≤ c
    simp only [le_def]
    split
    · omega
    · omega

/-- **Dates come in the order of their months**, and in a month in that of their days. -/
theorem lt_iff_month (a b : Date) :
    a < b ↔ a.monthNumber < b.monthNumber ∨ a.monthNumber = b.monthNumber ∧ a.day < b.day := by
  obtain ⟨-, -, ha, ha', -⟩ := a.valid
  obtain ⟨-, -, hb, hb', -⟩ := b.valid
  unfold monthNumber Calendar.monthNumber
  rw [lt_def, number_lt_iff]
  omega

theorem monthNumber_of_ofYmd? {n : Int} {day : Nat} {d : Date}
    (h : ofYmd? (yearOfMonth n) (monthOfYear n) day = some d) : d.monthNumber = n ∧ d.day = day := by
  obtain ⟨hy, hm, hd⟩ := ofYmd?_eq_some_iff.1 h
  refine ⟨?_, hd⟩
  rw [monthNumber, hy, hm]
  unfold Calendar.monthNumber yearOfMonth monthOfYear
  omega

/-! ## Shifts -/

theorem number_of_plusDays? {d e : Date} {n : Nat} (h : d.plusDays? n = some e) : e.number = d.number + n :=
  ofNumber?_eq_some_iff.1 h

theorem le_of_plusDays? {d e : Date} {n : Nat} (h : d.plusDays? n = some e) : d ≤ e := by
  rw [le_def, number_of_plusDays? h]
  omega

theorem lt_of_plusDays? {d e : Date} {n : Nat} (h : d.plusDays? n = some e) (hn : 0 < n) : d < e := by
  rw [lt_def, number_of_plusDays? h]
  omega

/-- A shift by months leads at least to the first day of a later month. -/
theorem lt_of_plusMonths? {d e : Date} {n : Nat} (h : d.plusMonths? n = some e) (hn : 0 < n) : d < e := by
  obtain ⟨first, hf, he⟩ := Option.bind_eq_some_iff.1 h
  obtain ⟨hm, -⟩ := monthNumber_of_ofYmd? hf
  have hlater : d < first := (lt_iff_month d first).2 (.inl (by omega))
  exact lt_of_lt_of_le hlater (le_of_plusDays? he)

/-- **A shift by at least one unit leads to a later date.** -/
theorem lt_of_plus {d e : Date} {quantity : Nat} {unit : TimeUnit} (h : d.plus quantity unit = .ok e)
    (hq : 0 < quantity) : d < e := by
  have hp : d.plus? quantity unit = some e := eq_some_of_elim h
  cases unit with
  | day => exact lt_of_plusDays? hp hq
  | week => exact lt_of_plusDays? hp (by omega)
  | month => exact lt_of_plusMonths? hp hq
  | year =>
    obtain ⟨months, hm, hp⟩ := Option.bind_eq_some_iff.1 hp
    obtain ⟨rfl, -⟩ := monthsOfYears?_eq_some_iff.1 hm
    exact lt_of_plusMonths? hp (by omega)

/-! ## Coming days -/

end Date

namespace Calendar

/-- **The search finds the least number that it accepts**, from where it begins. -/
theorem isLeast_firstFrom (p : Int → Bool) (left : Int → Nat) (falls : ∀ n, p n = false → left (n + 1) < left n)
    (n : Int) : IsLeast {m | n ≤ m ∧ p m = true} (firstFrom p left falls n) := by
  induction n using firstFrom.induct p left falls with
  | case1 n h =>
    rw [firstFrom, if_pos h]
    exact ⟨⟨Int.le_refl n, h⟩, fun m hm => hm.1⟩
  | case2 n h ih =>
    rw [firstFrom, if_neg h]
    obtain ⟨⟨hle, hp⟩, hleast⟩ := ih
    refine ⟨⟨by omega, hp⟩, ?_⟩
    rintro m ⟨hm, hpm⟩
    have hne : m ≠ n := by
      rintro rfl
      exact h hpm
    exact hleast ⟨by omega, hpm⟩

theorem isLeast_monthWith {day : Nat} (h : day ≤ 31) (n : Int) :
    IsLeast {m | n ≤ m ∧ day ≤ monthLength m} (monthWith day h n) := by
  unfold monthWith
  simpa only [decide_eq_true_eq] using isLeast_firstFrom (fun m => decide (day ≤ monthLength m)) _ _ n

theorem isLeast_yearWith {month day : Nat} (h : day ≤ longestMonth month) (year : Int) :
    IsLeast {y | year ≤ y ∧ day ≤ daysInMonth y month} (yearWith month day h year) := by
  unfold yearWith
  simpa only [decide_eq_true_eq] using isLeast_firstFrom (fun y => decide (day ≤ daysInMonth y month)) _ _ year

end Calendar

namespace Date

theorem lt_of_nextWeekday {today d : Date} {weekday : Weekday} (h : today.nextWeekday weekday = .ok d) : today < d := by
  unfold nextWeekday at h
  split at h
  · exact lt_of_plus h (by decide)
  · rename_i distance hne
    exact lt_of_plus h (Nat.pos_of_ne_zero hne)

theorem lt_of_nextDay {today d : Date} {day : Nat} (h : today.nextDay day = .ok d) : today < d := by
  unfold nextDay at h
  split at h
  · cases h
  · rename_i hbounds
    obtain ⟨hm, hday⟩ := monthNumber_of_ofYmd? (eq_some_of_elim h)
    have hle := (isLeast_monthWith (show day ≤ 31 by omega) (today.monthAhead day)).1.1
    rw [lt_iff_month, hm, hday]
    exact monthAhead_le_iff.1 hle

theorem lt_of_nextMonthDay {today d : Date} {monthIndex day : Nat} (h : today.nextMonthDay monthIndex day = .ok d) :
    today < d := by
  unfold nextMonthDay at h
  split at h
  · cases h
  · split at h
    · cases h
    · obtain ⟨hy, hm, hday⟩ := ofYmd?_eq_some_iff.1 (eq_some_of_elim h)
      have hle := (isLeast_yearWith (show day ≤ longestMonth (monthIndex + 1) by omega)
        (today.yearAhead (monthIndex + 1) day)).1.1
      rw [lt_def, number_lt_iff, hy, hm, hday]
      exact yearAhead_le_iff.1 hle

end Date
end Recurrence
