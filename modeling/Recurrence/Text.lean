/-!
# Text — what phrases are written in

A text is the list of its characters, so every index, column and length of this library counts characters.  A text has
one more line than it has newlines (`length_lines`), for `lines` cuts it at each of them.
-/
namespace Recurrence

abbrev Text := List Char

namespace Text

/-- The characters from index `start` on, up to but not including index `stop`. -/
def slice (t : Text) (start stop : Nat) : Text :=
  (t.drop start).take (stop - start)

/-- The lines of a text, without their newlines. -/
def lines : Text → List Text
  | [] => [[]]
  | c :: cs =>
    if c = '\n' then [] :: lines cs
    else match lines cs with
      | [] => [[c]]
      | l :: ls => (c :: l) :: ls

/-- A text with its ASCII letters in lower case; all other characters stay. -/
def lowered (t : Text) : Text := t.map Char.toLower

/-- Several texts as one, with `separator` between neighbours. -/
def joined (separator : Text) (ts : List Text) : Text := separator.intercalate ts

/-- `n` blanks. -/
def spaces (n : Nat) : Text := List.replicate n ' '

@[simp] theorem lines_nil : lines [] = [[]] := rfl

@[simp] theorem lines_newline (cs : Text) : lines ('\n' :: cs) = [] :: lines cs := by
  simp [lines]

theorem lines_ne_nil (t : Text) : lines t ≠ [] := by
  cases t with
  | nil => simp
  | cons c cs =>
    unfold lines
    split
    · simp
    · split <;> simp

theorem lines_cons {c : Char} (h : c ≠ '\n') (cs : Text) :
    lines (c :: cs) = (c :: (lines cs).head (lines_ne_nil cs)) :: (lines cs).tail := by
  rw [lines, if_neg h]
  split
  · exact absurd ‹lines cs = []› (lines_ne_nil cs)
  · simp_all

/-- **A text has one more line than it has newlines.** -/
theorem length_lines (t : Text) : (lines t).length = t.count '\n' + 1 := by
  induction t with
  | nil => rfl
  | cons c cs ih =>
    by_cases h : c = '\n'
    · subst h; simp [ih]
    · have := List.length_pos_iff.2 (lines_ne_nil cs)
      simp [lines_cons h, h]
      omega

theorem length_slice (t : Text) (start stop : Nat) :
    (slice t start stop).length = min (stop - start) (t.length - start) := by
  simp [slice]

end Text
end Recurrence
