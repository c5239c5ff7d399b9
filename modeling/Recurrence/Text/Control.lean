import Recurrence.Text
/-!
# Control sequences — what colours a text on a terminal

An escape character begins a sequence that a terminal obeys and does not show.  Where there is no terminal, the
sequences are taken out: `withoutControls` keeps the characters that would be shown, and the line ends, tabs and form
feeds among the control characters.
-/
namespace Recurrence.Text

/-- How far a control sequence has come. -/
inductive Control where
  | none
  /-- After the escape character. -/
  | begun
  /-- After an escape character and characters that announce one more. -/
  | announced
  /-- In a sequence with parameters, such as a colour. -/
  | parameters
  /-- In a command to the terminal, which a bell ends. -/
  | command
  /-- In a passage that only a new sequence or a string terminator ends. -/
  | passage
deriving DecidableEq, Repr

namespace Control

/-- The control characters that lay out a text. -/
def isLayout (c : Char) : Bool := c == '\t' || c == '\n' || c == '\x0c' || c == '\r'

/-- The characters that are shown outside of all sequences. -/
def isShown (c : Char) : Bool := (decide (32 ≤ c.toNat) && c != '\x7f') || isLayout c

/-- The state that a character leads to. -/
def next (s : Control) (c : Char) : Control :=
  let n := c.toNat
  if n = 0x18 ∨ n = 0x1a then none
  else if n = 0x1b then begun
  else match s with
    | none => none
    | begun =>
      if n < 0x20 ∨ 0x7f ≤ n then begun
      else if n < 0x30 then announced
      else if c = '[' then parameters
      else if c = ']' then command
      else if c = 'P' ∨ c = 'X' ∨ c = '^' ∨ c = '_' then passage
      else none
    | announced => if 0x30 ≤ n ∧ n < 0x7f then none else announced
    | parameters => if 0x40 ≤ n ∧ n < 0x7f then none else parameters
    | command => if n = 7 then none else command
    | passage => if (String.utf8EncodeChar c).contains 0x9c then none else passage

/-- Whether a character is shown in a state: within a sequence only layout is, and no layout within a command or a
passage. -/
def shows (s : Control) (c : Char) : Bool :=
  match s with
  | none => isShown c
  | begun => isLayout c
  | announced => isLayout c
  | parameters => isLayout c
  | command => false
  | passage => false

/-- The text that is shown from a state on.  After a character that is shown, all that can be shown is, up to the next
control character; a character outside ASCII also ends the sequence. -/
def shownFrom : (showing : Bool) → Control → Text → Text
  | _, _, [] => []
  | showing, s, c :: cs =>
    if showing && isShown c then c :: shownFrom true (if 128 ≤ c.toNat then none else s) cs
    else if s.shows c then c :: shownFrom true (s.next c) cs
    else shownFrom false (s.next c) cs

end Control

/-- A text without its control sequences. -/
def withoutControls (t : Text) : Text := Control.shownFrom false .none t

end Recurrence.Text
