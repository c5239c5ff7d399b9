import Recurrence.Keyword
import Recurrence.Source.Span
import Recurrence.Text.Numeral
/-!
# Queries — phrases that have been read

A query is a list of alternative commands, each of them a rule that names days: a number of units from today, a
weekday, a day of the month, a day of the year, or code that computes the distance.  A rule holds its words as they
were written, so that every part can be traced to the text; a query built by hand may hold any keyword in any place.
-/
namespace Recurrence

inductive Rule where
  /-- So many units from today; one, when there is no number. -/
  | relative (number : Option (Located Nat)) (unit : Located Keyword)
  | weekday (day : Located Keyword)
  | day (day : Located Nat)
  | monthDay (month : Located Keyword) (day : Located Nat)
  | code (code : Text)
deriving DecidableEq, Repr

abbrev Command := Located Rule

structure Query where
  span : Span
  commands : List Command
deriving DecidableEq, Repr

/-- The suffix with which an ordinal is written: that of its last digit, except that the teens have `th`. -/
def ordinalSuffix (n : Nat) : Text :=
  if 11 ≤ n % 100 ∧ n % 100 ≤ 13 then "th".toList
  else match n % 10 with
    | 1 => "st".toList
    | 2 => "nd".toList
    | 3 => "rd".toList
    | _ => "th".toList

/-- An ordinal with its suffix. -/
def ordinalText (n : Nat) : Text := Text.digits n ++ ordinalSuffix n

namespace Rule

/-- The rule in words; code stands for itself. -/
def words : Rule → Text
  | relative (some n) unit => Text.digits n.value ++ ' ' :: unit.value.word
  | relative none unit => unit.value.word
  | weekday d => d.value.word
  | day n => ordinalText n.value
  | monthDay m n => m.value.word ++ ' ' :: ordinalText n.value
  | code c => c

/-- The name of the kind of rule. -/
def label : Rule → Text
  | relative _ _ => "RELATIVE".toList
  | code _ => "JSCODE".toList
  | _ => "ABSOLUTE".toList

/-- Label and words in brackets. -/
def text (r : Rule) : Text := '[' :: r.label ++ ": ".toList ++ r.words ++ [']']

end Rule

/-- All commands of a query in brackets. -/
def Query.text (q : Query) : Text :=
  "[EVERY: ".toList ++ Text.joined ", ".toList (q.commands.map fun c => c.value.text) ++ [']']

/-! ## Visits

A walk over a query passes each leaf of a command in the order of the text, then the command, and after all commands
the query itself. -/

/-- What a walk over a query passes. -/
inductive Query.Part where
  | number | unit | weekday | day | month | command | query
deriving DecidableEq, Repr

namespace Rule

/-- The leaves of a rule, in the order of the text. -/
def leaves : Rule → List (Located Query.Part)
  | relative number unit => number.toList.map (fun n => ⟨n.span, .number⟩) ++ [⟨unit.span, .unit⟩]
  | weekday d => [⟨d.span, .weekday⟩]
  | day n => [⟨n.span, .day⟩]
  | monthDay m n => [⟨m.span, .month⟩, ⟨n.span, .day⟩]
  | code _ => []

end Rule

/-- The parts of a command as a walk passes them. -/
def Command.visits (c : Command) : List (Located Query.Part) := c.value.leaves ++ [⟨c.span, .command⟩]

/-- The parts of a query as a walk passes them. -/
def Query.visits (q : Query) : List (Located Query.Part) := q.commands.flatMap Command.visits ++ [⟨q.span, .query⟩]

end Recurrence
