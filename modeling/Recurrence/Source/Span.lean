import Recurrence.Source.Position
/-!
# Spans — stretches of a text

A span covers the characters of its text from its first position up to, but not including, its last.  `Span.between`
is the way to make one: a first position before the first character (column 0) is moved onto it, and the last one
moves along.
-/
namespace Recurrence

structure Span where
  text : Text
  start : Position
  stop : Position
deriving DecidableEq, Repr

namespace Span

/-- The span between two positions; when the first has column 0, both are one step further. -/
def between (text : Text) (start stop : Position) : Span :=
  if start.col < 1 then ⟨text, start.next none, stop.next none⟩ else ⟨text, start, stop⟩

/-- From the start of one span to the end of another. -/
def upTo (s u : Span) : Span := { s with stop := u.stop }

/-- The characters covered. -/
def covered (s : Span) : Text := s.text.slice s.start.index.toNat s.stop.index.toNat

/-- Whether the span ends on another line than it starts on. -/
def isMultiline (s : Span) : Bool := s.start.line != s.stop.line

/-- The whole line on which the span starts; empty when the text has no such line. -/
def firstLine (s : Span) : Text := (s.text.lines[s.start.line - 1]?).getD []

theorem between_of_col {start : Position} (h : 1 ≤ start.col) (text : Text) (stop : Position) :
    between text start stop = ⟨text, start, stop⟩ := by
  simp [between, Nat.not_lt.2 h]

end Span

/-- A value with the stretch of text it was read from. -/
structure Located (α : Type) where
  span : Span
  value : α
deriving DecidableEq, Repr

end Recurrence
