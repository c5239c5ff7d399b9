import Recurrence.Diagnostic.Cause
import Recurrence.Source.Span
import Recurrence.Text.Numeral
/-!
# Diagnostics — a cause and where it lies

A diagnostic is shown as its kind with line and column, then its details, then the line of the text on which it starts
with the blamed characters underlined.  What has no span is shown without line, column and excerpt.
-/
namespace Recurrence

structure Diagnostic where
  cause : Diagnostic.Cause
  span : Option Span
deriving DecidableEq, Repr

namespace Diagnostic

/-- A diagnostic that blames no part of the text. -/
def unplaced (cause : Cause) : Diagnostic := ⟨cause, none⟩

/-- A diagnostic that blames a span. -/
def placed (span : Span) (cause : Cause) : Diagnostic := ⟨cause, some (.between span.text span.start span.stop)⟩

def kind (d : Diagnostic) : Kind := d.cause.kind

def details (d : Diagnostic) : Text := d.cause.details

/-- What stands before each line of a shown diagnostic but the first. -/
def gutter : Text := "  > ".toList

/-- The mark under a blamed character. -/
def underline : Char := '‾'

/-- The columns of the first line up to which a span is underlined. -/
def lastMarked (s : Span) : Nat := if s.isMultiline then s.firstLine.length else s.stop.col - 1

/-- The first line of a span and the marks under it. -/
def excerpt (s : Span) : Text :=
  '\n' :: gutter ++ s.firstLine ++
    '\n' :: Text.spaces (gutter.length + (s.start.col - 1)) ++
      List.replicate (lastMarked s - (s.start.col - 1)) underline

/-- Where a span starts, in words. -/
def place (s : Span) : Text :=
  " on line ".toList ++ Text.digits s.start.line ++ " col ".toList ++ Text.digits s.start.col

/-- The diagnostic as it is shown. -/
def text (d : Diagnostic) : Text :=
  d.kind.name ++ d.span.elim [] place ++
    (if d.details = [] then [] else '\n' :: gutter ++ d.details) ++
    d.span.elim [] excerpt

/-- The diagnostic as it is shown inside other values. -/
def debugText (d : Diagnostic) : Text := "Error \x7b ".toList ++ d.text ++ " \x7d".toList

end Diagnostic
end Recurrence
