import Recurrence.Comment
import Recurrence.Diagnostic
import Recurrence.Text.Blank
import Recurrence.Token.Lexeme
/-!
# Scanning — the tokens of a text

Comments are cut out first; every span is one of the text that is left.  Between tokens there are only blanks, and the
first character at which no token begins ends the scan.
-/
namespace Recurrence
namespace Token

/-- The tokens of `rest`, the part of `text` from position `p` on. -/
def scan (text : Text) (p : Position) (rest : Text) : Except Diagnostic (List Token) :=
  match rest with
  | [] => .ok []
  | c :: cs =>
    if Text.isBlank c then scan text (p.next (some c)) cs
    else
      let lexeme := Lexeme.read c cs
      let stop := (p.next (some c)).through (cs.take lexeme.more)
      let span := Span.between text p stop
      match lexeme.kind with
      | .error cause => .error (.placed span cause)
      | .ok kind => (scan text stop (cs.drop lexeme.more)).map (⟨span, kind⟩ :: ·)
termination_by rest.length
decreasing_by
  · simp only [List.length_cons]; omega
  · simp only [List.length_drop, List.length_cons]; omega

/-- The tokens of a text without comments. -/
def scanAll (text : Text) : Except Diagnostic (List Token) := scan text .first text

/-- **The tokens of a source text**, their spans in the text without comments. -/
def ofText (source : Text) : Except Diagnostic (List Token) := scanAll source.withoutComments

end Token
end Recurrence
