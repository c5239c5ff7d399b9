import Recurrence.Text
/-!
# Positions — where a character stands

A position is an index with the line and column that belong to it.  Stepping forward needs only the character left
behind; stepping back over a newline looks up the length of the line it returns to.  `Position.of` says what line and
column an index truly has, and `through_first` that stepping forward from the first character keeps to it.
-/
namespace Recurrence

/-- Indexes count from 0 and are -1 before the first character; lines and columns count from 1. -/
structure Position where
  index : Int
  line : Nat
  col : Nat
deriving DecidableEq, Repr

namespace Position

/-- Before the first character. -/
def start : Position := ⟨-1, 1, 0⟩

/-- On the first character. -/
def first : Position := ⟨0, 1, 1⟩

/-- One step forward; a newline left behind ends its line. -/
def next (p : Position) (left : Option Char) : Position :=
  if left = some '\n' then ⟨p.index + 1, p.line + 1, 1⟩ else ⟨p.index + 1, p.line, p.col + 1⟩

/-- Forward over the characters `cs`. -/
def through (p : Position) (cs : Text) : Position :=
  cs.foldl (fun p c => p.next (some c)) p

/-- The number of characters at the end of `t` that follow its last newline. -/
def trailing (t : Text) : Nat := (t.reverse.takeWhile (· ≠ '\n')).length

/-- One step back in the text `t`; there is none before the first character. -/
def prev (p : Position) (t : Text) : Position :=
  if p.index < 0 then p
  else if p.index = 0 then start
  else
    let i := (p.index - 1).toNat
    if t[i]? = some '\n' then ⟨p.index - 1, p.line - 1, trailing (t.take i) + 1⟩
    else ⟨p.index - 1, p.line, p.col - 1⟩

/-- **The true position of index `i` in `t`**: one more line than newlines before it, one more column than characters
since the last of these; an index past the end counts on in columns. -/
def of (t : Text) (i : Nat) : Position :=
  ⟨i, (t.take i).count '\n' + 1, trailing (t.take i) + (i - t.length) + 1⟩

@[simp] theorem through_nil (p : Position) : p.through [] = p := rfl

@[simp] theorem through_cons (p : Position) (c : Char) (cs : Text) :
    p.through (c :: cs) = (p.next (some c)).through cs := rfl

theorem through_append (p : Position) (a b : Text) : p.through (a ++ b) = (p.through a).through b := by
  simp [through]

@[simp] theorem next_start : start.next none = first := rfl

theorem index_next (p : Position) (left : Option Char) : (p.next left).index = p.index + 1 := by
  unfold next; split <;> rfl

@[simp] theorem trailing_nil : trailing [] = 0 := rfl

theorem trailing_concat (t : Text) (c : Char) :
    trailing (t ++ [c]) = if c = '\n' then 0 else trailing t + 1 := by
  by_cases h : c = '\n' <;> simp [trailing, h]

/-- Stepping over `a` from the true position after `pre` leads to the true position after `pre ++ a`. -/
theorem through_true (pre a : Text) :
    through ⟨pre.length, pre.count '\n' + 1, trailing pre + 1⟩ a =
      ⟨(pre ++ a).length, (pre ++ a).count '\n' + 1, trailing (pre ++ a) + 1⟩ := by
  induction a generalizing pre with
  | nil => simp
  | cons c a ih =>
    have h : next ⟨pre.length, pre.count '\n' + 1, trailing pre + 1⟩ (some c) =
        ⟨(pre ++ [c]).length, (pre ++ [c]).count '\n' + 1, trailing (pre ++ [c]) + 1⟩ := by
      by_cases h : c = '\n' <;> simp [next, trailing_concat, h]
    rw [through_cons, h, ih, List.append_assoc, List.singleton_append]

/-- **Stepping forward from the first character keeps line and column true to the index.** -/
theorem through_first (a b : Text) : first.through a = of (a ++ b) a.length := by
  simpa [first, of] using through_true [] a

end Position
end Recurrence
