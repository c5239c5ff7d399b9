import Recurrence.Proofs.Source.Cursor
/-!
# Spans between two positions

A span is made between two positions of its text.  When the first of them is before the first character, both are moved
one step on, and that step looks at no character: a newline on which the span would stop is stepped over as if the line
went on.  Everywhere else the ends of the span are true positions, and the span is on several lines just when it covers
a newline (`Span.between_reached`).
-/
namespace Recurrence
namespace Position

/-- The positions that stepping forward over the text `t` comes to. -/
inductive Reached (t : Text) : Position → Prop
  | start : Reached t .start
  | step {p : Position} : Reached t p → Reached t (Cursor.positionAfter ⟨t, p⟩)

variable {t : Text} {p q : Position}

theorem Reached.exists_index (h : Reached t p) : ∃ i, -1 ≤ i ∧ p = ofIndex t i := by
  induction h with
  | start => exact ⟨-1, by decide, rfl⟩
  | @step p _ ih =>
    obtain ⟨i, hi, rfl⟩ := ih
    exact ⟨i + 1, by omega, Cursor.positionAfter_atIndex hi t⟩

theorem reached_of (t : Text) : ∀ i : Nat, Reached t (of t i)
  | 0 => by
    rw [of_zero]
    exact .step .start
  | i + 1 => by
    have hstep : Cursor.positionAfter ⟨t, of t i⟩ = of t (i + 1) := by
      have hafter := Cursor.positionAfter_atIndex (i := i) (by omega) t
      rwa [Cursor.atIndex, ofIndex_natCast, ← Int.natCast_succ, ofIndex_natCast] at hafter
    rw [← hstep]
    exact .step (reached_of t i)

/-- **Stepping forward comes to the true positions and to no others.** -/
theorem reached_iff : Reached t p ↔ -1 ≤ p.index ∧ p = ofIndex t p.index := by
  constructor
  · intro h
    obtain ⟨i, hi, rfl⟩ := h.exists_index
    rw [index_ofIndex hi]
    exact ⟨hi, rfl⟩
  · rintro ⟨-, hp⟩
    rw [hp, ofIndex]
    split
    · exact .start
    · exact reached_of t _

instance (t : Text) (p : Position) : Decidable (Reached t p) := decidable_of_iff _ reached_iff.symm

theorem Reached.index_nonneg (h : Reached t p) (hp : p ≠ .start) : 0 ≤ p.index := by
  refine Int.not_lt.1 fun hneg => hp ?_
  rw [(reached_iff.1 h).2, ofIndex_of_neg hneg]

/-- A step that looks at no character is wrong where it leaves a newline behind, and only there. -/
theorem next_none_eq_iff (p : Position) (left : Option Char) : p.next none = p.next left ↔ left ≠ some '\n' := by
  by_cases h : left = some '\n' <;> simp [next, h]

theorem reached_next_none_iff (h : Reached t p) : Reached t (p.next none) ↔ Cursor.current ⟨t, p⟩ ≠ some '\n' := by
  have hindex : (p.next none).index = (Cursor.positionAfter ⟨t, p⟩).index := by
    rw [Cursor.positionAfter, index_next, index_next]
  obtain ⟨hafter, htrue⟩ := reached_iff.1 h.step
  rw [← next_none_eq_iff p, reached_iff, hindex, ← htrue]
  exact and_iff_right hafter

end Position

namespace Span

open Position (ofIndex index_next Reached reached_iff reached_next_none_iff)

/-- A span between true positions is on several lines just when it covers a newline. -/
theorem isMultiline_iff {s : Span} (hstart : Reached s.text s.start) (hstop : Reached s.text s.stop)
    (h : 0 ≤ s.start.index) (hle : s.start.index ≤ s.stop.index) : s.isMultiline = true ↔ '\n' ∈ s.covered := by
  obtain ⟨-, hstart⟩ := reached_iff.1 hstart
  obtain ⟨-, hstop⟩ := reached_iff.1 hstop
  rw [ofIndex, if_neg (by omega)] at hstart hstop
  have hline : s.stop.line = s.start.line + s.covered.count '\n' := by
    rw [hstart, hstop]
    exact Position.line_of (Int.toNat_le_toNat hle)
  rw [isMultiline, ← List.count_pos_iff, bne_iff_ne]
  omega

variable {t : Text} {p q : Position}

/-- **The span between two true positions has true positions for its ends, unless it begins before the first character
and would stop on a newline**; it is then on several lines just when it covers a newline. -/
theorem between_reached (hp : Reached t p) (hq : Reached t q) (h : p.index ≤ q.index) :
    Reached t (between t p q).start ∧
      (Reached t (between t p q).stop ↔ ¬ (p = .start ∧ Cursor.current ⟨t, q⟩ = some '\n')) ∧
      (Reached t (between t p q).stop →
        ((between t p q).isMultiline = true ↔ '\n' ∈ (between t p q).covered)) := by
  by_cases hbefore : p = .start
  · subst hbefore
    have hbetween : between t .start q = ⟨t, .first, q.next none⟩ := rfl
    have hfirst : Reached t .first := .step .start
    have hindex : 0 ≤ (q.next none).index := by
      have := (reached_iff.1 hq).1
      rw [index_next]
      omega
    rw [hbetween]
    refine ⟨hfirst, ?_, fun hstop => isMultiline_iff hfirst hstop (Int.le_refl 0) hindex⟩
    rw [reached_next_none_iff hq, Ne, and_iff_right rfl]
  · have hpos : 0 ≤ p.index := hp.index_nonneg hbefore
    have hcol : 1 ≤ p.col := by
      rw [(reached_iff.1 hp).2, ofIndex, if_neg (by omega), Position.of]
      exact Nat.le_add_left 1 _
    rw [between_of_col hcol]
    exact ⟨hp, iff_of_true hq fun hn => hbefore hn.1, fun _ => isMultiline_iff hp hq hpos h⟩

/-- Two lines, with a newline at index 3. -/
def twoLines : Text := "day\nweek".toList

theorem between_reached_twoLines :
    Reached twoLines .start ∧ Reached twoLines ⟨6, 2, 3⟩ ∧ Position.start.index ≤ 6 ∧
      Reached twoLines (between twoLines .start ⟨6, 2, 3⟩).start ∧
      Reached twoLines (between twoLines .start ⟨6, 2, 3⟩).stop ∧
      ((between twoLines .start ⟨6, 2, 3⟩).isMultiline = true ↔
        '\n' ∈ (between twoLines .start ⟨6, 2, 3⟩).covered) := by
  have hq : Reached twoLines ⟨6, 2, 3⟩ := by decide
  have hon : ¬ (Position.start = .start ∧ Cursor.current ⟨twoLines, ⟨6, 2, 3⟩⟩ = some '\n') := by decide
  obtain ⟨hstart, hstop, hlines⟩ := between_reached .start hq (by decide)
  exact ⟨.start, hq, by decide, hstart, hstop.2 hon, hlines (hstop.2 hon)⟩

/-- The newline on which a span from before the first character stops is covered by the span, which yet is taken to go
on in the same line. -/
theorem between_overlooks_newline :
    Reached twoLines .start ∧ Reached twoLines ⟨3, 1, 4⟩ ∧ ¬ Reached twoLines (between twoLines .start ⟨3, 1, 4⟩).stop ∧
      (between twoLines .start ⟨3, 1, 4⟩).isMultiline = false ∧
      '\n' ∈ (between twoLines .start ⟨3, 1, 4⟩).covered :=
  ⟨.start, by decide, by decide, by decide, by decide⟩

end Span
end Recurrence
