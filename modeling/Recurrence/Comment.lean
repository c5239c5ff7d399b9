import Recurrence.Text
/-!
# Comments — notes that are no part of a phrase

A comment runs from `//` or `#` to the end of its line, or from `/*` to `*/`.  Cutting comments out keeps every line in
its place: a line comment keeps its newline, a block comment becomes the newlines it spans, or one blank when it spans
none.  A block comment that is never closed runs to the end of the text.
-/
namespace Recurrence
namespace Comment

/-- Where in a text a character may stand; a block comment counts the newlines seen so far. -/
inductive Region where
  | phrase
  | line
  | block (newlines : Nat)
deriving DecidableEq, Repr

/-- What stands in place of a block comment with so many newlines. -/
def gap : Nat → Text
  | 0 => [' ']
  | newlines => List.replicate newlines '\n'

/-- What is left of a text that begins in a region. -/
def cut : Region → Text → Text
  | .phrase, [] => []
  | .phrase, '/' :: '/' :: cs => cut .line cs
  | .phrase, '#' :: cs => cut .line cs
  | .phrase, '/' :: '*' :: cs => cut (.block 0) cs
  | .phrase, c :: cs => c :: cut .phrase cs
  | .line, [] => []
  | .line, '\n' :: cs => '\n' :: cut .phrase cs
  | .line, _ :: cs => cut .line cs
  | .block newlines, [] => gap newlines
  | .block newlines, '*' :: '/' :: cs => gap newlines ++ cut .phrase cs
  | .block newlines, '\n' :: cs => cut (.block (newlines + 1)) cs
  | .block newlines, _ :: cs => cut (.block newlines) cs

end Comment

/-- A text without its comments; a blank marks its end. -/
def Text.withoutComments (t : Text) : Text := Comment.cut .phrase t ++ [' ']

end Recurrence
