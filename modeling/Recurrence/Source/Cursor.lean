import Recurrence.Source.Position
/-!
# Cursors — a place in a text that moves both ways

A cursor starts on the first character.  Looking ahead never moves it; it may stand before the first character or any
number of steps past the last.
-/
namespace Recurrence

structure Cursor where
  text : Text
  position : Position
deriving DecidableEq, Repr

namespace Cursor

/-- The character under the cursor. -/
def current (c : Cursor) : Option Char :=
  if c.position.index < 0 then none else c.text[c.position.index.toNat]?

/-- The position one step on. -/
def positionAfter (c : Cursor) : Position := c.position.next c.current

def advance (c : Cursor) : Cursor := { c with position := c.positionAfter }

/-- `n` steps forward. -/
def advanceBy (n : Nat) (c : Cursor) : Cursor := Nat.repeat advance n c

def retreat (c : Cursor) : Cursor := { c with position := c.position.prev c.text }

/-- Back on the first character. -/
def rewind (c : Cursor) : Cursor := advance { c with position := .start }

/-- A cursor on the first character of a text. -/
def ofText (t : Text) : Cursor := rewind ⟨t, .start⟩

/-- Up to `n` characters from `offset` characters after the cursor on. -/
def peekAt (c : Cursor) (offset n : Nat) : Text :=
  let first := c.position.index + offset
  c.text.slice first.toNat (first + n).toNat

/-- Up to `n` characters from the cursor on. -/
def peek (c : Cursor) (n : Nat) : Text := c.peekAt 0 n

/-- Whether the text goes on with `s` at the cursor. -/
def lookingAt (c : Cursor) (s : Text) : Bool := c.peek s.length == s

end Cursor
end Recurrence
