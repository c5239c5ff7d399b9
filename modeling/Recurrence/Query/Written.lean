import Recurrence.Query
import Recurrence.Token.Lexeme
/-!
# Written queries — a query as text that reads back

A query is written with `every` in front, its commands in words and with commas between.  A block of code has a
backslash before each character, so that no character of it can open a comment or close the block.
-/
namespace Recurrence

/-- A block of code with every character escaped. -/
def Text.quotedCode (code : Text) : Text :=
  Lexeme.opening ++ code.flatMap (fun c => ['\\', c]) ++ Lexeme.closing

/-- A rule as text that reads back. -/
def Rule.written : Rule → Text
  | code c => Keyword.code.word ++ Text.quotedCode c
  | r => r.words

/-- A query as text that reads back. -/
def Query.written (q : Query) : Text :=
  Keyword.every.word ++ ' ' :: Text.joined ", ".toList (q.commands.map fun c => c.value.written)

end Recurrence
