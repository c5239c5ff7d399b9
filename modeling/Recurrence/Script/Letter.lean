import Recurrence.Script.Unit
/-!
# Letters

Capital and small letters of the Latin, Greek, Cyrillic and Armenian scripts, and letters with marks as they are put
together.
-/
namespace Recurrence.Script.Letter

/-- Stretches in which every other character is the capital letter of the next one. -/
def pairs : List (Nat × Nat) :=
  [(0x100, 0x12F), (0x132, 0x137), (0x14A, 0x177), (0x182, 0x185), (0x1A0, 0x1A5), (0x1DE, 0x1EF), (0x1F8, 0x21F),
    (0x222, 0x233), (0x246, 0x24F), (0x370, 0x373), (0x3D8, 0x3EF), (0x460, 0x481), (0x48A, 0x4BF), (0x4D0, 0x52F),
    (0x1E00, 0x1E95), (0x1EA0, 0x1EFF)]

/-- Stretches in which every other character is the small letter of the one before. -/
def oddPairs : List (Nat × Nat) := [(0x139, 0x148), (0x179, 0x17E), (0x1CD, 0x1DC), (0x4C1, 0x4CE)]

def within (n : Nat) (r : Nat × Nat) : Bool := Nat.ble r.1 n && Nat.ble n r.2

/-- Stretches of capital letters with the distance to their small letters. -/
def shifts : List ((Nat × Nat) × Nat) :=
  [((0x41, 0x5A), 32), ((0xC0, 0xD6), 32), ((0xD8, 0xDE), 32), ((0x391, 0x3A1), 32), ((0x3A3, 0x3AB), 32),
    ((0x388, 0x38A), 37), ((0x410, 0x42F), 32), ((0x400, 0x40F), 80), ((0x531, 0x556), 48), ((0x24B6, 0x24CF), 26),
    ((0xFF21, 0xFF3A), 32), ((0x10400, 0x10427), 40)]

/-- Capital letters with their small letters, apart from all rules. -/
def singles : List (Nat × Nat) :=
  [(0x178, 0xFF), (0x386, 0x3AC), (0x38C, 0x3CC), (0x38E, 0x3CD), (0x38F, 0x3CE), (0x4C0, 0x4CF), (0x187, 0x188),
    (0x18B, 0x18C), (0x191, 0x192), (0x198, 0x199), (0x1B3, 0x1B4), (0x1B5, 0x1B6), (0x1C4, 0x1C6), (0x1C7, 0x1C9),
    (0x1CA, 0x1CC), (0x1F1, 0x1F3), (0x1F4, 0x1F5)]

/-- The small letter of a capital one, by code. -/
def small (n : Nat) : Nat :=
  match shifts.find? fun s => within n s.1 with
  | some (_, d) => n + d
  | none =>
    if pairs.any (within n) then (if n % 2 = 0 then n + 1 else n)
    else if oddPairs.any (within n) then (if n % 2 = 1 then n + 1 else n)
    else (singles.lookup n).getD n

/-- The capital letter of a small one, by code. -/
def capital (n : Nat) : Nat :=
  if n = 0xB5 then 0x39C
  else if n = 0x3C2 then 0x3A3
  else if n = 0x131 then 0x49
  else if n = 0x17F then 0x53
  else match shifts.find? fun s => within n (s.1.1 + s.2, s.1.2 + s.2) with
    | some (_, d) => n - d
    | none =>
      if pairs.any (within n) then (if n % 2 = 1 then n - 1 else n)
      else if oddPairs.any (within n) then (if n % 2 = 0 then n - 1 else n)
      else ((singles.find? fun p => p.2 == n).map (·.1)).getD n

def lowered (c : Char) : Text :=
  if c.toNat = 0x130 then ['i', '\u0307'] else [Char.ofNat (small c.toNat)]

/-- A character in capitals. -/
def raised (c : Char) : Text :=
  let n := c.toNat
  if n = 0xDF then ['S', 'S']
  else if n = 0x149 then ['\u02BC', 'N']
  else if n = 0xFB00 then ['F', 'F']
  else if n = 0xFB01 then ['F', 'I']
  else if n = 0xFB02 then ['F', 'L']
  else if n = 0x587 then ['\u0535', '\u0552']
  else [Char.ofNat (capital n)]

/-- A text in small letters; a last sigma has a form of its own. -/
def loweredText : (before : Bool) → Text → Text
  | _, [] => []
  | before, c :: cs =>
    let letter (c : Char) : Bool := small c.toNat != c.toNat || capital c.toNat != c.toNat || c.isAlpha
    if c.toNat = 0x3A3 ∧ before ∧ !(cs.head?.any letter) then '\u03C2' :: loweredText true cs
    else lowered c ++ loweredText (letter c) cs

/-! ## Marks -/

/-- Letters that a mark can be put on, by the mark, each with what they are together. -/
def marked : List (Nat × String × String) :=
  [(0x300, "AEIOUaeiouNn", "ÀÈÌÒÙàèìòùǸǹ"), (0x301, "AEIOUYaeiouyCcLlNnRrSsZz", "ÁÉÍÓÚÝáéíóúýĆćĹĺŃńŔŕŚśŹź"),
    (0x302, "AEIOUaeiouCcGgHhJjSsWwYy", "ÂÊÎÔÛâêîôûĈĉĜĝĤĥĴĵŜŝŴŵŶŷ"), (0x303, "ANOanoIiUu", "ÃÑÕãñõĨĩŨũ"),
    (0x304, "AaEeIiOoUu", "ĀāĒēĪīŌōŪū"), (0x306, "AaEeGgIiOoUu", "ĂăĔĕĞğĬĭŎŏŬŭ"), (0x307, "CcEeGgIZz", "ĊċĖėĠġİŻż"),
    (0x308, "AEIOUaeiouyY", "ÄËÏÖÜäëïöüÿŸ"), (0x30A, "AaUu", "ÅåŮů"), (0x30B, "OoUu", "ŐőŰű"),
    (0x30C, "CcDdEeNnRrSsTtZz", "ČčĎďĚěŇňŘřŠšŤťŽž"), (0x327, "CcGgKkLlNnRrSsTt", "ÇçĢģĶķĻļŅņŖŗŞşŢţ"),
    (0x328, "AaEeIiUu", "ĄąĘęĮįŲų")]

/-- A letter with a mark as two characters. -/
def apart (c : Char) : Text :=
  match marked.findSome? fun (mark, letters, wholes) =>
    (wholes.toList.idxOf? c).map fun i => [letters.toList.getD i c, Char.ofNat mark] with
  | some t => t
  | none => [c]

/-- Letters and the marks after them as one character each, where there is one. -/
def together : Text → Text
  | [] => []
  | c :: cs =>
    match together cs with
    | m :: rest =>
      match marked.findSome? fun (mark, letters, wholes) =>
        if m.toNat = mark then (letters.toList.idxOf? c).map fun i => wholes.toList.getD i c else none with
      | some d => d :: rest
      | none => c :: m :: rest
    | [] => [c]

/-! ## Kinds of characters -/

/-- Whether a letter is a capital one. -/
def isCapital (n : Nat) : Bool := small n != n

def isSmall (n : Nat) : Bool := capital n != n || n == 0xDF

end Recurrence.Script.Letter
