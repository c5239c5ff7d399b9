import Recurrence.Proofs.Calendar.Spill
/-!
# Successive shifts — so many units later, and so many more

On the calendar without end, a shift by more units leads to a later day, also where days spill into the month after,
and a shift by no units stays where it is.  Two shifts in the same unit come to one by the sum of their units, as long
as no day has spilled in the first: the days of the month of the date that it leads to are then those of the date from
which it began (`Date.plus_increasing_additive`).
-/
namespace Recurrence

namespace Date

/-! ## On the calendar without end -/

theorem numberInMonth_first_lt {m n : Int} (h : m < n) : numberInMonth m 1 < numberInMonth n 1 :=
  (numberInMonth_lt_iff (isDay_first m) (isDay_first n)).2 (.inl h)

theorem numberInMonth_first_inj {m n : Int} (h : numberInMonth m 1 = numberInMonth n 1) : m = n := by
  rcases Int.lt_trichotomy m n with hlt | heq | hgt
  · have := numberInMonth_first_lt hlt
    omega
  · exact heq
  · have := numberInMonth_first_lt hgt
    omega

theorem number_eq (d : Date) : d.number = numberInMonth d.monthNumber 1 + (d.day - 1) := by
  rw [← numberInMonth_eq, numberInMonth_self]

variable {d e : Date} {unit : TimeUnit} {a b : Nat}

/-- So many years are twelve times as many months. -/
theorem shifted_year (d : Date) (quantity : Nat) : d.shifted quantity .year = d.shifted (12 * quantity) .month := by
  rw [shifted, shifted, Int.natCast_mul]
  rfl

theorem shifted_zero (d : Date) (unit : TimeUnit) : d.shifted 0 unit = d.number := by
  have hmonth : d.shifted 0 .month = d.number := by
    rw [number_eq, shifted, Int.natCast_zero, Int.add_zero]
  cases unit with
  | day => rw [shifted]; omega
  | week => rw [shifted]; omega
  | month => exact hmonth
  | year => rw [shifted_year, Nat.mul_zero, hmonth]

theorem shifted_month_lt (h : a < b) : d.shifted a .month < d.shifted b .month := by
  have hfirst := numberInMonth_first_lt (m := d.monthNumber + a) (n := d.monthNumber + b) (by omega)
  rw [shifted, shifted]
  omega

/-- **A shift by more units leads further.** -/
theorem shifted_lt_shifted (h : a < b) : d.shifted a unit < d.shifted b unit := by
  cases unit with
  | day => rw [shifted, shifted]; omega
  | week => rw [shifted, shifted]; omega
  | month => exact shifted_month_lt h
  | year =>
    rw [shifted_year, shifted_year]
    exact shifted_month_lt (by omega)

theorem shifted_month_shifted (he : e.number = d.shifted a .month) (hday : e.day = d.day) :
    e.shifted b .month = d.shifted (a + b) .month := by
  -- with the day of the month kept, the date lies in the month that the first shift leads to, not in the one after
  have hmonth : e.monthNumber = d.monthNumber + a := by
    apply numberInMonth_first_inj
    rw [number_eq, shifted, hday] at he
    omega
  rw [shifted, shifted, hmonth, hday, Int.natCast_add, Int.add_assoc]

/-- **Two shifts come to one by the sum of their units**, when the first keeps the place in the month. -/
theorem shifted_shifted (he : e.number = d.shifted a unit) (hday : unit = .month ∨ unit = .year → e.day = d.day) :
    e.shifted b unit = d.shifted (a + b) unit := by
  cases unit with
  | day => rw [shifted] at he ⊢; rw [shifted]; omega
  | week => rw [shifted] at he ⊢; rw [shifted]; omega
  | month => exact shifted_month_shifted he (hday (.inl rfl))
  | year =>
    rw [shifted_year] at he
    rw [shifted_year, shifted_year, Nat.mul_add]
    exact shifted_month_shifted he (hday (.inr rfl))

/-! ## On the calendar -/

/-- **Shifts in one unit increase with the number of units and add up**, months and years as long as the day of the
month is kept; the calendar refuses the sum just when it refuses the second shift. -/
theorem plus_increasing_additive (d : Date) (unit : TimeUnit) (a b : Nat) :
    d.plus 0 unit = .ok d ∧
      (a < b → ∀ f, d.plus b unit = .ok f → ∃ e, d.plus a unit = .ok e ∧ e < f) ∧
      ∀ e, d.plus a unit = .ok e → (unit = .month ∨ unit = .year → e.day = d.day) →
        e.plus b unit = d.plus (a + b) unit := by
  refine ⟨?_, fun hlt f hf => ?_, fun e he hday => ?_⟩
  · rw [plus_eq_reach, reach_eq_ok_iff, shifted_zero]
  · rw [plus_eq_reach, reach_eq_ok_iff] at hf
    have hfurther : d.shifted a unit < d.shifted b unit := shifted_lt_shifted hlt
    have hlast := f.le_lastNumber
    cases he : d.plus a unit with
    | error refusal =>
      rw [plus_eq_reach, reach_eq_error_iff (d.firstNumber_le_shifted a unit)] at he
      omega
    | ok e =>
      rw [plus_eq_reach, reach_eq_ok_iff] at he
      refine ⟨e, rfl, ?_⟩
      rw [lt_def]
      omega
  · rw [plus_eq_reach, reach_eq_ok_iff] at he
    rw [plus_eq_reach, plus_eq_reach, shifted_shifted he hday]

/-- The last day of a month from which two months lead to a month as long, and four to a shorter one. -/
def lateOctober : Date := ⟨2024, 10, 31, by decide⟩

theorem plus_increasing_additive_lateOctober :
    ∃ e f : Date, 2 < 4 ∧ lateOctober.plus 4 .month = .ok f ∧ lateOctober.plus 2 .month = .ok e ∧ e < f ∧
      e.day = lateOctober.day ∧ e.plus 4 .month = lateOctober.plus (2 + 4) .month := by
  have hf : lateOctober.plus 4 .month = .ok ⟨2025, 3, 3, by decide⟩ := by decide +kernel
  have he : lateOctober.plus 2 .month = .ok ⟨2024, 12, 31, by decide⟩ := by decide +kernel
  obtain ⟨-, hincreasing, hadditive⟩ := plus_increasing_additive lateOctober .month 2 4
  obtain ⟨e, he', hlt⟩ := hincreasing (by decide) _ hf
  obtain rfl : _ = e := Except.ok.inj (he.symm.trans he')
  exact ⟨_, _, by decide, hf, he, hlt, rfl, hadditive _ he fun _ => rfl⟩

-- where a day has spilled, two shifts do not come to one
example : (lateOctober.plus 4 .month >>= fun d => d.plus 1 .month) = .ok ⟨2025, 4, 3, by decide⟩ ∧
    lateOctober.plus (4 + 1) .month = .ok ⟨2025, 3, 31, by decide⟩ := by
  decide +kernel

end Date
end Recurrence
