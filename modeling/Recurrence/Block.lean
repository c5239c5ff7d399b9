import Recurrence.Query.OfTokens
import Recurrence.Query.Resolve
import Recurrence.Token.Scan
/-!
# Blocks — texts of many phrases

A block is cut into phrases before every token that opens one.  Each phrase is read and resolved on its own: a fault in
one takes the place of its answer and leaves the others alone.  Only a character at which no token begins spoils the
whole block.  A line is a text that has to be one single phrase.
-/
namespace Recurrence

/-- The phrases of a list of tokens. -/
def Token.phrases (tokens : List Token) : List (List Token) := tokens.splitBy fun _ next => !next.value.opensPhrase

/-- The queries of a block. -/
def Query.ofBlock (source : Text) : Except Diagnostic (List (Except Diagnostic Query)) :=
  (Token.ofText source).map fun tokens => (Token.phrases tokens).map Query.ofTokens

/-- The query of a line. -/
def Query.ofLine (source : Text) : Except Diagnostic Query := (Token.ofText source).bind Query.ofTokens

/-- A query and the day it names. -/
structure Answer where
  query : Query
  date : Except Diagnostic Date

namespace Answer

/-- The answers to queries, one after the other. -/
def ofQueries (ctx : Context) (earlier : Nat) : List (Except Diagnostic Query) →
    Traced (List (Except Diagnostic Answer))
  | [] => .silent []
  | .error fault :: qs => (ofQueries ctx earlier qs).map (.error fault :: ·)
  | .ok q :: qs =>
    let date := q.resolve ctx earlier
    let others := ofQueries ctx (earlier + date.calls.length) qs
    ⟨.ok ⟨q, date.result⟩ :: others.result, date.calls ++ others.calls⟩

/-- The date of an answer, if the phrase has one. -/
def dateOf (answer : Except Diagnostic Answer) : Except Diagnostic Date := answer.bind date

end Answer

namespace Context

/-- The day that a line names. -/
def runLine (ctx : Context) (earlier : Nat) (source : Text) : Traced (Except Diagnostic Date) :=
  match Query.ofLine source with
  | .error fault => .silent (.error fault)
  | .ok q => q.resolve ctx earlier

/-- The answers to all phrases of a block. -/
def resolveBlock (ctx : Context) (earlier : Nat) (source : Text) :
    Traced (Except Diagnostic (List (Except Diagnostic Answer))) :=
  match Query.ofBlock source with
  | .error fault => .silent (.error fault)
  | .ok queries => (Answer.ofQueries ctx earlier queries).map .ok

/-- The days that the phrases of a block name. -/
def runBlock (ctx : Context) (earlier : Nat) (source : Text) :
    Traced (Except Diagnostic (List (Except Diagnostic Date))) :=
  (ctx.resolveBlock earlier source).map fun answers => answers.map fun all => all.map Answer.dateOf

end Context
end Recurrence
