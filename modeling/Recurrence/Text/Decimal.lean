import Recurrence.Text.Numeral
/-!
# Decimals — numbers with a fraction and a power of ten

A decimal is a run of digits with at most one point among them, and an exponent after `e`; one digit has to stand before
the exponent.  Its value is rounded to the nearest floating-point number.
-/
namespace Recurrence.Text

/-- The floating-point number nearest to `ds` times a power of ten.  Where the exponent is far out of the range of
these numbers, the result is known without the power. -/
def scaledByTen (ds : Text) (exponent : Int) : Float :=
  let n := value ds
  let size := exponent + (digits n).length
  if n = 0 ∨ size < -330 then 0
  else if 330 < size then 1.0 / 0.0
  else Float.ofScientific n (exponent < 0) exponent.natAbs

/-- Splits an exponent off the start of a text; a text that does not start with one has exponent 0. -/
def splitExponent (t : Text) : Int × Text :=
  let signed (sign : Int) (cs : Text) : Option (Int × Text) :=
    let ds := cs.takeWhile Char.isDigit
    if ds = [] then none else some (sign * value ds, cs.drop ds.length)
  let found := match t with
    | 'e' :: '-' :: cs => signed (-1) cs
    | 'E' :: '-' :: cs => signed (-1) cs
    | 'e' :: '+' :: cs => signed 1 cs
    | 'E' :: '+' :: cs => signed 1 cs
    | 'e' :: cs => signed 1 cs
    | 'E' :: cs => signed 1 cs
    | _ => none
  found.getD (0, t)

/-- The decimal at the start of a text, with what follows it. -/
def splitDecimal? (t : Text) : Option (Float × Text) :=
  let whole := t.takeWhile Char.isDigit
  let rest := t.drop whole.length
  let (fraction, rest) := match rest with
    | '.' :: cs =>
      let ds := cs.takeWhile Char.isDigit
      if whole = [] ∧ ds = [] then ([], rest) else (ds, cs.drop ds.length)
    | _ => ([], rest)
  if whole = [] ∧ fraction = [] then none
  else
    let (exponent, rest) := splitExponent rest
    some (scaledByTen (whole ++ fraction) (exponent - fraction.length), rest)

end Recurrence.Text
