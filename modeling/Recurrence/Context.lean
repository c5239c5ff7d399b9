import Recurrence.Evaluator
/-!
# Contexts — what a query is resolved against

The present moment, the settings and the evaluator, if the application supplies one.
-/
namespace Recurrence

structure Settings where
  /-- Whether blocks of code may be run. -/
  codeAllowed : Bool
deriving DecidableEq, Repr

structure Context where
  now : Moment
  settings : Settings
  evaluator : Option Evaluator

namespace Context

def today (ctx : Context) : Date := ctx.now.date

/-- A context that runs no code and has no evaluator. -/
def atMoment (now : Moment) : Context := ⟨now, ⟨false⟩, none⟩

def boolText (b : Bool) : Text := (if b then "true" else "false").toList

/-- The context as it is shown: of the evaluator, only whether there is one. -/
def text (ctx : Context) : Text :=
  "Context \x7b now: ".toList ++ ctx.now.fullText ++
    ", settings: Settings \x7b allow_unsafe_code_execution: ".toList ++ boolText ctx.settings.codeAllowed ++
    " \x7d, evaluator: ".toList ++ boolText ctx.evaluator.isSome ++ " \x7d".toList

end Context
end Recurrence
