import Recurrence.Keyword
import Recurrence.Source.Span
import Recurrence.Text.Numeral
/-!
# Tokens — the smallest parts of a phrase

A token is a comma, a number, an ordinal such as `8th`, a keyword or a block of code, with the span it was read from.
-/
namespace Recurrence

inductive Token.Kind where
  | separator
  | number (n : Nat)
  | ordinal (n : Nat)
  | keyword (k : Keyword)
  | code (code : Text)
deriving DecidableEq, Repr

abbrev Token := Located Token.Kind

namespace Token.Kind

/-- The name of the kind. -/
def name : Kind → Text
  | separator => "SEPARATOR".toList
  | number _ => "NUMBER".toList
  | ordinal _ => "ORDINAL_DATE".toList
  | keyword _ => "KEYWORD".toList
  | code _ => "JS_CODE".toList

/-- What a token carries, as text; a separator carries nothing. -/
def payload? : Kind → Option Text
  | separator => none
  | number n => some (Text.digits n)
  | ordinal n => some (Text.digits n)
  | keyword k => some k.word
  | code c => some c

/-- The name with the payload in parentheses. -/
def text (k : Kind) : Text :=
  k.name ++ k.payload?.elim [] fun p => '(' :: p ++ [')']

/-- How a token is called in a diagnostic: by its payload, or by its name when it has none. -/
def called (k : Kind) : Text := k.payload?.getD k.name

/-- A token is called by what it carries, and only a separator, which carries nothing, by the name of its kind. -/
theorem called_cases (k : Kind) :
    k.payload? = some k.called ∨ k = .separator ∧ k.called = "SEPARATOR".toList := by
  cases k with
  | separator => exact .inr ⟨rfl, rfl⟩
  | _ => exact .inl rfl

def keyword? : Kind → Option Keyword
  | keyword k => some k
  | _ => none

def ordinal? : Kind → Option Nat
  | ordinal n => some n
  | _ => none

def code? : Kind → Option Text
  | code c => some c
  | _ => none

/-- The keyword of a token that names a unit of time. -/
def unitWord? (k : Kind) : Option Keyword := k.keyword?.filter fun w => w.timeUnit?.isSome

/-- Whether a token opens a new phrase. -/
def opensPhrase (k : Kind) : Bool := k.keyword?.any Keyword.opensPhrase

end Token.Kind
end Recurrence
