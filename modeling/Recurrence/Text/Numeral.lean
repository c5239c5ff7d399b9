import Recurrence.Text
/-!
# Numerals — numbers as decimal digits

`digits` writes a number without leading zeros and `value` reads any run of digits; `value_digits` says that reading
undoes writing.
-/
namespace Recurrence.Text

/-- The decimal digits of a number, without leading zeros. -/
def digits (n : Nat) : Text := Nat.toDigits 10 n

/-- The number that a run of decimal digits stands for; leading zeros are allowed. -/
def value (ds : Text) : Nat := Nat.ofDigitChars 10 ds 0

/-- A number in at least `width` digits, with zeros in front. -/
def padded (width n : Nat) : Text := List.replicate (width - (digits n).length) '0' ++ digits n

theorem value_digits (n : Nat) : value (digits n) = n := Nat.ofDigitChars_ten_toDigits

theorem value_padded (width n : Nat) : value (padded width n) = n := by
  simp only [value, padded, Nat.ofDigitChars_append, Nat.ofDigitChars_replicate_zero, Nat.mul_zero]
  exact value_digits n

theorem digits_isDigit {n : Nat} {c : Char} (h : c ∈ digits n) : c.isDigit = true :=
  Nat.isDigit_of_mem_toDigits (by decide) (by decide) h

theorem digits_ne_nil (n : Nat) : digits n ≠ [] := by
  have := Nat.length_toDigits_pos (b := 10) (n := n)
  intro h
  simp [digits] at h

end Recurrence.Text
