import Recurrence.Proofs.Source
import Recurrence.Source.Cursor
/-!
# Moves — where a cursor comes to

A cursor keeps line and column up to date as it moves: forward from the character it leaves, back from the text before
it.  Both agree with the line and column that an index truly has, before the first character and past the last as well,
so however a cursor is moved, it stands at the true position of the index that the moves lead to (`Cursor.run_ofText`).
A step back therefore never counts below zero, and undoes a step forward.
-/
namespace Recurrence
namespace Position

/-- The true position of an index in `t`; an index below 0 is before the first character. -/
def ofIndex (t : Text) (i : Int) : Position := if i < 0 then start else of t i.toNat

theorem ofIndex_of_neg {i : Int} (h : i < 0) (t : Text) : ofIndex t i = start := if_pos h

@[simp] theorem ofIndex_natCast (t : Text) (i : Nat) : ofIndex t i = of t i := by
  rw [ofIndex, if_neg (by omega), Int.toNat_natCast]

theorem ofIndex_zero (t : Text) : ofIndex t 0 = first := (ofIndex_natCast t 0).trans (of_zero t)

theorem index_ofIndex {i : Int} (h : -1 ≤ i) (t : Text) : (ofIndex t i).index = i := by
  unfold ofIndex
  split
  · show (-1 : Int) = i
    omega
  · show (i.toNat : Int) = i
    omega

/-- The line and column of an index from those of the index before it. -/
theorem of_succ (t : Text) (i : Nat) :
    of t (i + 1) =
      if t[i]? = some '\n' then ⟨i + 1, (t.take i).count '\n' + 2, 1⟩
      else ⟨i + 1, (t.take i).count '\n' + 1, trailing (t.take i) + (i - t.length) + 2⟩ := by
  rcases Nat.lt_or_ge i t.length with hi | hi
  · have hpast : i + 1 - t.length = 0 := by omega
    rw [of, List.take_succ_eq_append_getElem hi, trailing_concat, List.count_append, List.count_singleton,
      List.getElem?_eq_getElem hi, hpast]
    by_cases hc : t[i] = '\n'
    · simp [hc]
    · simp [hc, Nat.sub_eq_zero_of_le (Nat.le_of_lt hi)]
  · -- past the end there is nothing more to take
    rw [of, List.take_of_length_le (by omega), List.take_of_length_le hi, List.getElem?_eq_none hi,
      Nat.succ_sub hi, if_neg (by simp)]
    rfl

theorem next_of (t : Text) (i : Nat) : (of t i).next t[i]? = of t (i + 1) := by
  rw [of_succ, next, of]

/-- One step back in `t`, unless a line or a column would have to fall below zero for it. -/
def prev? (p : Position) (t : Text) : Option Position :=
  if p.index < 0 then some p
  else if p.index = 0 then some start
  else
    let i := (p.index - 1).toNat
    if t[i]? = some '\n' then
      match p.line with
      | 0 => none
      | line + 1 => some ⟨p.index - 1, line, trailing (t.take i) + 1⟩
    else
      match p.col with
      | 0 => none
      | col + 1 => some ⟨p.index - 1, p.line, col⟩

/-- A step back that is possible is the step back. -/
theorem prev_eq_of_prev? {p q : Position} {t : Text} (h : p.prev? t = some q) : p.prev t = q := by
  obtain ⟨index, line, col⟩ := p
  unfold prev? at h
  unfold prev
  by_cases hneg : index < 0
  · rw [if_pos hneg] at h ⊢
    exact Option.some.inj h
  by_cases hzero : index = 0
  · rw [if_neg hneg, if_pos hzero] at h ⊢
    exact Option.some.inj h
  rw [if_neg hneg, if_neg hzero] at h ⊢
  by_cases hnewline : t[(index - 1).toNat]? = some '\n'
  · simp only [if_pos hnewline] at h ⊢
    cases line with
    | zero => cases h
    | succ line => exact Option.some.inj h
  · simp only [if_neg hnewline] at h ⊢
    cases col with
    | zero => cases h
    | succ col => exact Option.some.inj h

theorem prev?_of_succ (t : Text) (i : Nat) : (of t (i + 1)).prev? t = some (of t i) := by
  have hneg : ¬ ((i : Int) + 1 < 0) := by omega
  have hzero : ¬ ((i : Int) + 1 = 0) := by omega
  have hindex : (i : Int) + 1 - 1 = i := by omega
  rw [of_succ]
  by_cases hc : t[i]? = some '\n'
  · have hi : i - t.length = 0 := Nat.sub_eq_zero_of_le (Nat.le_of_lt (List.getElem?_eq_some_iff.1 hc).1)
    rw [if_pos hc, prev?, if_neg hneg, if_neg hzero, hindex, Int.toNat_natCast, if_pos hc, of, hi]
  · rw [if_neg hc, prev?, if_neg hneg, if_neg hzero, hindex, Int.toNat_natCast, if_neg hc, of]

theorem prev?_ofIndex (t : Text) (i : Int) : (ofIndex t i).prev? t = some (ofIndex t (i - 1)) := by
  rcases Int.lt_trichotomy i 0 with hneg | rfl | hpos
  · rw [ofIndex_of_neg hneg, ofIndex_of_neg (by omega)]
    rfl
  · rw [ofIndex_zero, ofIndex_of_neg (by decide)]
    rfl
  · obtain ⟨n, rfl⟩ : ∃ n : Nat, i = (n + 1 : Nat) := ⟨(i - 1).toNat, by omega⟩
    rw [show ((n + 1 : Nat) : Int) - 1 = n by omega, ofIndex_natCast, ofIndex_natCast, prev?_of_succ]

end Position

namespace Cursor

open Position (ofIndex ofIndex_natCast ofIndex_of_neg ofIndex_zero index_ofIndex prev?_ofIndex prev_eq_of_prev?)

/-- A cursor at the true position of an index. -/
def atIndex (t : Text) (i : Int) : Cursor := ⟨t, .ofIndex t i⟩

theorem current_atIndex (t : Text) (i : Nat) : (atIndex t i).current = t[i]? := by
  have hneg : ¬ ((i : Int) < 0) := by omega
  rw [current, atIndex, ofIndex_natCast, Position.of, if_neg hneg, Int.toNat_natCast]

theorem positionAfter_atIndex {i : Int} (h : -1 ≤ i) (t : Text) : (atIndex t i).positionAfter = ofIndex t (i + 1) := by
  by_cases hneg : i < 0
  · obtain rfl : i = -1 := by omega
    exact (ofIndex_zero t).symm
  · obtain ⟨n, rfl⟩ := Int.eq_ofNat_of_zero_le (Int.not_lt.1 hneg)
    rw [positionAfter, current_atIndex, atIndex, ofIndex_natCast, Position.next_of, ← ofIndex_natCast]
    rfl

theorem advance_atIndex {i : Int} (h : -1 ≤ i) (t : Text) : (atIndex t i).advance = atIndex t (i + 1) := by
  rw [advance, positionAfter_atIndex h]
  rfl

theorem retreat_atIndex (t : Text) (i : Int) : (atIndex t i).retreat = atIndex t (i - 1) := by
  have hprev : (ofIndex t i).prev t = ofIndex t (i - 1) := prev_eq_of_prev? (prev?_ofIndex t i)
  rw [retreat, atIndex, hprev]
  rfl

theorem rewind_atIndex (t : Text) (i : Int) : (atIndex t i).rewind = atIndex t 0 :=
  advance_atIndex (Int.le_refl (-1)) t

theorem advanceBy_atIndex {i : Int} (h : -1 ≤ i) (t : Text) :
    ∀ n : Nat, (atIndex t i).advanceBy n = atIndex t (i + n)
  | 0 => by rw [Int.natCast_zero, Int.add_zero]; rfl
  | n + 1 => by
    have hsucc : (atIndex t i).advanceBy (n + 1) = ((atIndex t i).advanceBy n).advance := rfl
    rw [hsucc, advanceBy_atIndex h t n, advance_atIndex (by omega), Int.natCast_succ, Int.add_assoc]

/-! ## Moves one after the other -/

/-- How a cursor may be moved. -/
inductive Move where
  | advance
  | advanceBy (n : Nat)
  | retreat
  | rewind
deriving DecidableEq, Repr

/-- The cursor after a move. -/
def move (c : Cursor) : Move → Cursor
  | .advance => c.advance
  | .advanceBy n => c.advanceBy n
  | .retreat => c.retreat
  | .rewind => c.rewind

/-- The cursor after several moves. -/
def run (c : Cursor) (moves : List Move) : Cursor := moves.foldl move c

/-- The index to which a move leads; from before the first character there is no way back. -/
def Move.lead (i : Int) : Move → Int
  | advance => i + 1
  | advanceBy n => i + n
  | retreat => max (i - 1) (-1)
  | rewind => 0

theorem Move.le_lead {i : Int} (h : -1 ≤ i) (m : Move) : -1 ≤ m.lead i := by
  cases m <;> simp only [lead] <;> omega

/-- **A move leads from the true position of an index to that of another.** -/
theorem move_atIndex {i : Int} (h : -1 ≤ i) (t : Text) (m : Move) : (atIndex t i).move m = atIndex t (m.lead i) := by
  cases m with
  | advance => exact advance_atIndex h t
  | advanceBy n => exact advanceBy_atIndex h t n
  | retreat =>
    have hback : (atIndex t i).retreat = atIndex t (max (i - 1) (-1)) := by
      rw [retreat_atIndex]
      by_cases hi : 0 ≤ i
      · rw [Int.max_eq_left (by omega)]
      · rw [Int.max_eq_right (by omega), atIndex, atIndex, ofIndex_of_neg (by omega), ofIndex_of_neg (by omega)]
    exact hback
  | rewind => exact rewind_atIndex t i

theorem run_atIndex {i : Int} (h : -1 ≤ i) (t : Text) (moves : List Move) :
    (atIndex t i).run moves = atIndex t (moves.foldl Move.lead i) ∧ -1 ≤ moves.foldl Move.lead i := by
  induction moves generalizing i with
  | nil => exact ⟨rfl, h⟩
  | cons m moves ih =>
    have hstep : (atIndex t i).run (m :: moves) = ((atIndex t i).move m).run moves := rfl
    rw [hstep, move_atIndex h t m]
    exact ih (m.le_lead h)

/-- **However a cursor is moved, it stands at the true position of the index to which the moves lead.**  There, a step
back counts nothing below zero, and it undoes a step forward; a step forward undoes it too, unless the cursor stands
before the first character. -/
theorem run_ofText (t : Text) (moves : List Move) :
    (ofText t).run moves = ⟨t, .ofIndex t (moves.foldl Move.lead 0)⟩ ∧
      ((ofText t).run moves).position.prev? t = some ((ofText t).run moves).retreat.position ∧
      ((ofText t).run moves).advance.retreat = (ofText t).run moves ∧
      (0 ≤ ((ofText t).run moves).position.index →
        ((ofText t).run moves).retreat.advance = (ofText t).run moves) := by
  have hfirst : ofText t = atIndex t 0 := rewind_atIndex t (-1)
  obtain ⟨hrun, hi⟩ := run_atIndex (i := 0) (by decide) t moves
  rw [hfirst, hrun]
  generalize moves.foldl Move.lead 0 = i at hi ⊢
  refine ⟨rfl, ?_, ?_, fun hpos => ?_⟩
  · rw [retreat_atIndex]
    exact prev?_ofIndex t i
  · rw [advance_atIndex hi, retreat_atIndex, Int.add_sub_cancel]
  · have hindex : 0 ≤ i := by rwa [atIndex, index_ofIndex hi] at hpos
    rw [retreat_atIndex, advance_atIndex (by omega), Int.sub_add_cancel]

/-- Past the newline and back again, where the column is that of the line before. -/
example : ((ofText "ab\n\nc".toList).run [.advanceBy 4, .retreat, .retreat]).position = ⟨2, 1, 3⟩ := by decide

end Cursor
end Recurrence
