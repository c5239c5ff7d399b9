import Recurrence.Text
/-!
# Blanks — the white space between words

A blank is a character with the `White_Space` property: twenty-five characters in ten ranges, among them the newline,
the no-break space and the ideographic space.
-/
namespace Recurrence.Text

/-- The first and last code point of each range of white space. -/
def blankRanges : List (Nat × Nat) :=
  [(0x09, 0x0D), (0x20, 0x20), (0x85, 0x85), (0xA0, 0xA0), (0x1680, 0x1680), (0x2000, 0x200A), (0x2028, 0x2029),
    (0x202F, 0x202F), (0x205F, 0x205F), (0x3000, 0x3000)]

def isBlank (c : Char) : Bool :=
  blankRanges.any fun r => decide (r.1 ≤ c.toNat) && decide (c.toNat ≤ r.2)

/-- A text without the blanks at its start. -/
def trimStart (t : Text) : Text := t.dropWhile isBlank

/-- A text without the blanks at its ends. -/
def trimmed (t : Text) : Text := (trimStart (trimStart t).reverse).reverse

example : (blankRanges.map fun r => r.2 - r.1 + 1).sum = 25 := by decide

end Recurrence.Text
