import Recurrence.Calendar.Shift
import Recurrence.Keyword
/-!
# Causes — what can be wrong with a phrase

A phrase is malformed when it cannot be read and unresolved when it names no date.  Each cause has its kind and its
details, the sentence that is shown for it.
-/
namespace Recurrence

inductive Diagnostic.Kind where
  | malformed
  | unresolved
deriving DecidableEq, Repr

/-- The days that a phrase may name: those of any month, or those of the month it names. -/
inductive Diagnostic.DayBounds where
  | anyMonth
  | namedMonth
deriving DecidableEq, Repr

inductive Diagnostic.Cause where
  | unexpectedCharacter (c : Char)
  | unexpectedWord (word : Text)
  | numberTooLarge (digits : Text)
  | unterminatedCode
  | unexpectedToken (name : Text)
  | unexpectedEnd
  | noAlternatives
  | zeroQuantity
  | unknownUnit (keyword : Keyword)
  | unknownWeekday (keyword : Keyword)
  | unknownMonth (keyword : Keyword)
  | noSuchDay (bounds : Diagnostic.DayBounds)
  | noSuchMonth
  | outOfRange
  | codeForbidden
  | noEvaluator
  | codeFailed (message : Text)
  | codeNotNumber
  | codeOutOfBounds
  /-- A fault that an application reports in its own words. -/
  | reported (kind : Diagnostic.Kind) (details : Text)
deriving DecidableEq, Repr

namespace Diagnostic

def Kind.name : Kind → Text
  | .malformed => "SyntaxError".toList
  | .unresolved => "RuntimeError".toList

def DayBounds.text : DayBounds → Text
  | .anyMonth => "between 1 and 31".toList
  | .namedMonth => "between 1 and the number of days in the month".toList

namespace Cause

def kind : Cause → Kind
  | unexpectedCharacter _ => .malformed
  | unexpectedWord _ => .malformed
  | numberTooLarge _ => .malformed
  | unterminatedCode => .malformed
  | unexpectedToken _ => .malformed
  | unexpectedEnd => .malformed
  | reported kind _ => kind
  | _ => .unresolved

/-- The sentence shown for a cause. -/
def details : Cause → Text
  | unexpectedCharacter c => "Unexpected character ".toList ++ [c]
  | unexpectedWord word => "Unexpected word ".toList ++ word
  | numberTooLarge digits => "Number too large ".toList ++ digits
  | unterminatedCode => "Unexpected end of file".toList
  | unexpectedToken name => "Unexpected token \"".toList ++ name ++ ['"']
  | unexpectedEnd => "Unexpected end of input".toList
  | noAlternatives => "Empty query".toList
  | zeroQuantity => "Quantity must be at least 1".toList
  | unknownUnit k => "Unknown unit: ".toList ++ k.word
  | unknownWeekday k => "Unknown day of week: ".toList ++ k.word
  | unknownMonth k => "Unknown month: ".toList ++ k.word
  | noSuchDay bounds => "Invalid day of month. The date should be ".toList ++ bounds.text
  | noSuchMonth => "Invalid month".toList
  | outOfRange => "Resulting date is out of range".toList
  | codeForbidden =>
    "Unsafe code execution is not allowed. If you want to allow it, you can do so in the context's settings.".toList
  | noEvaluator => "No code evaluator is configured".toList
  | codeFailed message => "Error while executing code: ".toList ++ message
  | codeNotNumber => "Code must return a number of days".toList
  | codeOutOfBounds => "Code must return a number of days between 1 and 9999".toList
  | reported _ details => details

/-- The cause that a refusal of the calendar amounts to, for a phrase whose day has the given bounds. -/
def ofRefusal (bounds : DayBounds) : Calendar.Refusal → Cause
  | .noSuchDay => noSuchDay bounds
  | .noSuchMonth => noSuchMonth
  | .outOfRange => outOfRange

end Cause
end Diagnostic
end Recurrence
