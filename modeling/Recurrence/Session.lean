import Recurrence.Block
/-!
# Sessions — one text after the other

A session keeps its context and how often the evaluator of that context has been called.  Putting another context in
its place starts counting anew.
-/
namespace Recurrence

structure Session where
  context : Context
  called : Nat

namespace Session

/-- A session in which nothing has been run. -/
def ofContext (ctx : Context) : Session := ⟨ctx, 0⟩

/-- The session after a step, and what the step gave. -/
def after {α : Type} (s : Session) (t : Traced α) : Traced α × Session :=
  (t, { s with called := s.called + t.calls.length })

def runLine (s : Session) (source : Text) : Traced (Except Diagnostic Date) × Session :=
  s.after (s.context.runLine s.called source)

def runBlock (s : Session) (source : Text) : Traced (Except Diagnostic (List (Except Diagnostic Date))) × Session :=
  s.after (s.context.runBlock s.called source)

def resolveBlock (s : Session) (source : Text) :
    Traced (Except Diagnostic (List (Except Diagnostic Answer))) × Session :=
  s.after (s.context.resolveBlock s.called source)

/-- The queries of a block, which are only read. -/
def parseBlock (s : Session) (source : Text) : Traced (Except Diagnostic (List (Except Diagnostic Query))) × Session :=
  s.after (.silent (Query.ofBlock source))

end Session
end Recurrence
