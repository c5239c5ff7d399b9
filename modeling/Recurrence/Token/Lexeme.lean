import Recurrence.Diagnostic.Cause
import Recurrence.Token
/-!
# Lexemes — the token that begins at a character

Which token begins at a character depends on that character and on what follows it, and on nothing before it:

- a digit begins a number, the longest run of digits, or an ordinal when one of `st`, `nd`, `rd`, `th` follows the run;
- an opening mark begins a block of code, up to the first closing mark; in it a backslash stands for the character
  after it, whatever that is;
- a letter begins a word, the longest run of letters, which has to be a keyword; case does not matter;
- a comma is a separator.
-/
namespace Recurrence

/-- The token kind that begins at a character, or why there is none, and how many characters it covers after that. -/
structure Lexeme where
  kind : Except Diagnostic.Cause Token.Kind
  more : Nat

namespace Lexeme

/-- Numbers stay below this bound, the 32nd power of two. -/
def numberBound : Nat := 4294967296

def ordinalSuffixes : List Text := ["st".toList, "nd".toList, "rd".toList, "th".toList]

/-- Whether a text begins with the suffix of an ordinal, in any case. -/
def startsWithSuffix (t : Text) : Bool := ordinalSuffixes.contains (Text.lowered (t.take 2))

/-- The mark that opens a block of code. -/
def opening : Text := ['{', ':', ':']

/-- The mark that closes a block of code. -/
def closing : Text := [':', ':', '}']

/-- The code of a block that goes on with the given text, and the number of characters up to the end of the closing
mark; nothing when the text ends before it. -/
def codeBody : Text → Option (Text × Nat)
  | [] => none
  | ':' :: ':' :: '}' :: _ => some ([], closing.length)
  | '\\' :: c :: cs => (codeBody cs).map fun b => (c :: b.1, b.2 + 2)
  | c :: cs => (codeBody cs).map fun b => (c :: b.1, b.2 + 1)

/-- The number or ordinal that begins with digit `c`. -/
def number (c : Char) (cs : Text) : Lexeme :=
  let run := cs.takeWhile Char.isDigit
  let isOrdinal := startsWithSuffix (cs.drop run.length)
  let n := Text.value (c :: run)
  { kind :=
      if numberBound ≤ n then .error (.numberTooLarge (c :: run))
      else .ok (if isOrdinal then .ordinal n else .number n)
    more := run.length + if isOrdinal then 2 else 0 }

/-- The word that begins with letter `c`. -/
def word (c : Char) (cs : Text) : Lexeme :=
  let run := cs.takeWhile Char.isAlpha
  let w := Text.lowered (c :: run)
  { kind := (Keyword.ofWord? w).elim (.error (.unexpectedWord w)) fun k => .ok (.keyword k)
    more := run.length }

/-- The block of code whose opening mark begins one character before `cs`. -/
def code (cs : Text) : Lexeme :=
  match codeBody (cs.drop 2) with
  | some (body, length) => ⟨.ok (.code body), 2 + length⟩
  | none => ⟨.error .unterminatedCode, cs.length⟩

/-- What begins at the character `c`, with `cs` after it. -/
def read (c : Char) (cs : Text) : Lexeme :=
  if c.isDigit then number c cs
  else if opening.isPrefixOf (c :: cs) then code cs
  else if c.isAlpha then word c cs
  else if c = ',' then ⟨.ok .separator, 0⟩
  else ⟨.error (.unexpectedCharacter c), 0⟩

end Lexeme
end Recurrence
