import Recurrence.Block
/-!
# Listings — the answers to a block, line by line

Every phrase has a line: its date, or the diagnostic of its fault.  On request, the query itself has a line before its
date, whether it has one or not.  Dates and queries go to the output and diagnostics, in bold, to the error output.
-/
namespace Recurrence.CommandLine

abbrev Listing := List (Except Diagnostic Text)

/-- What stands before and after a text in bold. -/
def boldMarks : Text × Text := ("\x1b[1m".toList, "\x1b[0m".toList)

def bold (t : Text) : Text := boldMarks.1 ++ t ++ boldMarks.2

namespace Listing

/-- The lines of an answer. -/
def ofAnswer (showQueries : Bool) : Except Diagnostic Answer → Listing
  | .error fault => [.error fault]
  | .ok a => (if showQueries then [.ok a.query.text] else []) ++ [a.date.map Date.text]

/-- The lines of the answers to a block. -/
def ofBlock (showQueries : Bool) : Except Diagnostic (List (Except Diagnostic Answer)) → Listing
  | .error fault => [.error fault]
  | .ok answers => answers.flatMap (ofAnswer showQueries)

/-- The lines of the answers to a block in a context. -/
def ofText (ctx : Context) (earlier : Nat) (showQueries : Bool) (block : Text) : Listing :=
  ofBlock showQueries (ctx.resolveBlock earlier block).result

/-- The lines that go to the output. -/
def output (l : Listing) : Text :=
  l.flatMap fun
    | .ok line => line ++ ['\n']
    | .error _ => []

/-- The lines that go to the error output. -/
def errors (l : Listing) : Text :=
  l.flatMap fun
    | .ok _ => []
    | .error fault => bold fault.text ++ ['\n']

/-- All lines together, in order. -/
def together (l : Listing) : Text :=
  l.flatMap fun
    | .ok line => line ++ ['\n']
    | .error fault => bold fault.text ++ ['\n']

/-- Whether no line is a diagnostic. -/
def succeeded (l : Listing) : Bool := l.all Except.isOk

end Listing
end Recurrence.CommandLine
