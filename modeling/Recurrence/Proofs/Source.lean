import Recurrence.Diagnostic
import Recurrence.Source.Span
/-!
# Stretches — a text cut out by indexes

A stretch of a text is named by the indexes at its ends (`Span.of`), and its positions are the true ones.  What a
text holds from an index on decides what a stretch from there covers and where stepping over it leads.
-/
namespace Recurrence

/-- The stretch of a text from one index up to, but not including, another. -/
def Span.of (t : Text) (i j : Nat) : Span := ⟨t, .of t i, .of t j⟩

namespace Text

theorem drop_add {t w rest : Text} {i : Nat} (h : t.drop i = w ++ rest) : t.drop (i + w.length) = rest := by
  rw [← List.drop_drop, h, List.drop_left]

theorem slice_add {t w rest : Text} {i : Nat} (h : t.drop i = w ++ rest) : t.slice i (i + w.length) = w := by
  rw [slice, h, Nat.add_sub_cancel_left, List.take_left]

theorem drop_eq_slice_append (t : Text) {i j : Nat} (h : i ≤ j) : t.drop i = t.slice i j ++ t.drop j := by
  conv => rhs; rw [show j = i + (j - i) by omega, ← List.drop_drop]
  rw [slice, show i + (j - i) - i = j - i by omega, List.take_append_drop]

theorem take_eq_append_slice (t : Text) {i j : Nat} (h : i ≤ j) : t.take j = t.take i ++ t.slice i j := by
  rw [slice, ← List.take_add, Nat.add_sub_cancel' h]

theorem mem_slice {t : Text} {i j : Nat} {c : Char} (h : c ∈ t.slice i j) :
    ∃ n, i ≤ n ∧ n < j ∧ t[n]? = some c := by
  obtain ⟨n, hn⟩ := List.mem_iff_getElem?.1 h
  rw [slice, List.getElem?_take] at hn
  split at hn
  · rw [List.getElem?_drop] at hn
    exact ⟨i + n, by omega, by omega, hn⟩
  · cases hn

/-- The characters from an index on are found at the indexes from there on. -/
theorem mem_of_drop_eq {t w rest : Text} {i n : Nat} {c : Char} (h : t.drop i = w ++ rest) (hc : t[n]? = some c)
    (hi : i ≤ n) (hn : n < i + w.length) : c ∈ w := by
  have := @List.getElem?_drop _ t i (n - i)
  rw [Nat.add_sub_cancel' hi, hc, h, List.getElem?_append_left (by omega)] at this
  exact List.mem_of_getElem? this

end Text

theorem Position.of_zero (t : Text) : Position.of t 0 = .first := by simp [of, first]

/-- From the true position before the characters `w`, stepping over them leads to the true position after them. -/
theorem Position.through_of {t w rest : Text} {i : Nat} (h : t.drop i = w ++ rest) :
    (Position.of t i).through w = .of t (i + w.length) := by
  by_cases hw : w = []
  · subst hw; rfl
  · have hi : i < t.length := by
      rw [← Nat.not_le, ← List.drop_eq_nil_iff, h]
      simp [hw]
    have hl : (t.take i).length = i := List.length_take_of_le (Nat.le_of_lt hi)
    have ht : t = t.take i ++ (w ++ rest) := by rw [← h, List.take_append_drop]
    have hf := Position.through_first (t.take i) (w ++ rest)
    have ha := Position.through_first (t.take i ++ w) rest
    rw [← ht, hl] at hf
    rw [List.append_assoc, ← ht, List.length_append, hl, Position.through_append, hf] at ha
    exact ha

theorem Position.line_of {t : Text} {i j : Nat} (h : i ≤ j) :
    (of t j).line = (of t i).line + (t.slice i j).count '\n' := by
  simp only [of, Text.take_eq_append_slice t h, List.count_append]
  omega

namespace Span

theorem between_of (t : Text) (i : Nat) (stop : Position) : between t (.of t i) stop = ⟨t, .of t i, stop⟩ :=
  between_of_col (by simp [Position.of]) t stop

theorem covered_of (t : Text) (i j : Nat) : (of t i j).covered = t.slice i j := by simp [covered, of, Position.of]

theorem upTo_of (t : Text) (i j k l : Nat) : (of t i j).upTo (of t k l) = of t i l := rfl

end Span

theorem Diagnostic.placed_of (t : Text) (i j : Nat) (cause : Diagnostic.Cause) :
    Diagnostic.placed (.of t i j) cause = ⟨cause, some (.of t i j)⟩ := by
  rw [placed, Span.of, Span.between_of]

end Recurrence
