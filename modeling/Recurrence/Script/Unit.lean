import Recurrence.Script.Word
/-!
# Units of texts

Lengths and places in a text count units of 16 bits; a character beyond them has two.  Half of such a pair is kept as a
character of its own, and two halves that come to stand side by side become one character.
-/
namespace Recurrence.Script

/-- The units of a character. -/
def unitsOfChar (c : Char) : List Nat :=
  let n := c.toNat
  if n < 0x10000 then [n]
  else if Word.firstHalf ≤ n then [n - Word.firstHalf + 0xD800]
  else [0xD800 + (n - 0x10000) / 1024, 0xDC00 + (n - 0x10000) % 1024]

/-- The units of a text. -/
def unitsOf (t : Text) : List Nat := t.flatMap unitsOfChar

/-- The number of units of a text. -/
def unitCount (t : Text) : Nat :=
  t.foldl (fun n c => if c.toNat < 0x10000 || Nat.ble Word.firstHalf c.toNat then n + 1 else n + 2) 0

def isFirstHalf (u : Nat) : Bool := Nat.ble 0xD800 u && Nat.blt u 0xDC00

def isSecondHalf (u : Nat) : Bool := Nat.ble 0xDC00 u && Nat.blt u 0xE000

/-- The text of units. -/
def ofUnits : List Nat → Text
  | [] => []
  | [u] => [Word.characterOf u]
  | u :: v :: rest =>
    if isFirstHalf u && isSecondHalf v then
      Word.characterOf (0x10000 + (u - 0xD800) * 1024 + (v - 0xDC00)) :: ofUnits rest
    else Word.characterOf u :: ofUnits (v :: rest)

/-- Whether a character is half of a pair. -/
def isHalf (c : Char) : Bool := Nat.ble Word.firstHalf c.toNat

/-- Two texts as one. -/
def appended (s t : Text) : Text :=
  match t with
  | c :: _ => if isHalf c then ofUnits (unitsOf s ++ unitsOf t) else s ++ t
  | [] => s

/-- Many texts as one. -/
def concatenated (ts : List Text) : Text :=
  let t := ts.flatten
  if t.any isHalf then ofUnits (unitsOf t) else t

/-- A text as it leaves the script: half a pair is no character there. -/
def withoutHalves (t : Text) : Text := t.map fun c => if isHalf c then '\uFFFD' else c

/-- Whether one text comes before another, unit by unit. -/
def comesBefore (s t : Text) : Bool := List.lex (unitsOf s) (unitsOf t) Nat.blt

end Recurrence.Script
