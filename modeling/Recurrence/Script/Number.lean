import Recurrence.Evaluator
import Recurrence.Script.Word
/-!
# Numbers of a script

Numbers are floating-point numbers.  One is written with the fewest digits that read back as it, in places up to the
21st power of ten and down to the sixth below one, and with an exponent beyond.
-/
namespace Recurrence.Script.Number

def notNumber : Float := 0.0 / 0.0

def infinity : Float := 1.0 / 0.0

/-- A whole number beyond all places of texts and lists. -/
def bound : Int := 9007199254740991

/-- The rational number that a finite number is. -/
def rational? (x : Float) : Option Rat :=
  match Reply.ofFloat x with
  | .finite q => some q
  | _ => none

/-- Whether a number lies where all whole numbers are exact. -/
def isSafe (x : Float) : Bool := x.abs < 9007199254740992

/-- The whole number that a finite number holds when its fraction is dropped. -/
def whole? (x : Float) : Option Int :=
  if isSafe x then some x.toInt64.toInt
  else (rational? x).map fun q => if q < 0 then -(-q).floor else q.floor

/-- Whether a number is finite and whole. -/
def isWhole (x : Float) : Bool := if isSafe x then x.floor == x else (rational? x).isSome

/-- The index that a number gives, when it is whole and not negative. -/
def index? (x : Float) : Option Nat := if 0 <= x && isWhole x then (whole? x).map Int.toNat else none

/-- The number of decimal digits before the point of a positive rational; not positive, when it starts with zeros. -/
def magnitude (q : Rat) : Int :=
  if 1 ≤ q then (Text.digits q.floor.toNat).length else 1 - (Text.digits (1 / q).ceil.toNat).length

def timesPowerOfTen (q : Rat) : (exponent : Int) → Rat
  | .ofNat e => q * (Nat.pow 10 e : Nat)
  | .negSucc e => q / (Nat.pow 10 (e + 1) : Nat)

/-- The whole number nearest to a rational that is not negative; a half goes up. -/
def nearest (q : Rat) : Nat := (q + 1 / 2).floor.toNat

/-- The digits of a positive number and the place of the point in them: of the decimals with `count` digits or more,
the first that reads back. -/
def shortest (x : Float) (q : Rat) (point : Int) : (more count : Nat) → Text × Int
  | more, count =>
    let shift : Int := count - point
    let n := nearest (timesPowerOfTen q shift)
    let found := (Text.digits n, point + (Text.digits n).length - count)
    match more with
    | 0 => found
    | more + 1 =>
      if Float.ofScientific n (0 < shift) shift.natAbs == x then found else shortest x q point more (count + 1)

/-- Digits with a power of ten. -/
def exponential (ds : Text) (point : Int) : Text :=
  let e := point - 1
  ds.take 1 ++ (if 1 < ds.length then '.' :: ds.drop 1 else []) ++
    'e' :: (if e < 0 then '-' else '+') :: Text.digits e.natAbs

/-- Digits with the point in its place. -/
def positional (ds : Text) (point : Int) : Text :=
  if point ≤ 0 then '0' :: '.' :: List.replicate point.natAbs '0' ++ ds
  else if (ds.length : Int) ≤ point then ds ++ List.replicate (point.toNat - ds.length) '0'
  else ds.take point.toNat ++ '.' :: ds.drop point.toNat

/-- The size of a rational. -/
def size (q : Rat) : Rat := if q < 0 then -q else q

/-- The fewest digits of a number other than zero, and the place of the point in them. -/
def fewest (x : Float) (q : Rat) : Text × Int :=
  let (ds, point) := shortest x.abs (size q) (magnitude (size q)) 16 1
  ((ds.reverse.dropWhile (· == '0')).reverse, point)

def sign (q : Rat) : Text := if q < 0 then ['-'] else []

/-- A number in decimal digits. -/
def text (x : Float) : Text :=
  if isSafe x && x.floor == x then
    let n := x.toInt64.toInt
    (if n < 0 then ['-'] else []) ++ Text.digits n.natAbs
  else match Reply.ofFloat x with
  | .nan => "NaN".toList
  | .infinite => (if x < 0 then "-Infinity" else "Infinity").toList
  | .finite q =>
    if q = 0 then ['0']
    else
      let (ds, point) := fewest x q
      sign q ++ if -6 < point ∧ point ≤ 21 then positional ds point else exponential ds point

/-- A number with a given number of digits after the point; numbers from the 21st power of ten on are written as
always. -/
def fixed (places : Nat) (x : Float) : Text :=
  match rational? x with
  | none => text x
  | some q =>
    if 21 < magnitude (size q) then text x
    else
      let ds := Text.padded (places + 1) (nearest (size q * (Nat.pow 10 places : Nat)))
      sign q ++ if places = 0 then ds else ds.take (ds.length - places) ++ '.' :: ds.drop (ds.length - places)

/-- A number of digits of a rational, and the place of the point in them. -/
def leadingDigits (count : Nat) (q : Rat) : Text × Int :=
  if q = 0 then (List.replicate count '0', 1)
  else
    let ds := Text.digits (nearest (timesPowerOfTen (size q) (count - magnitude (size q))))
    (ds.take count, magnitude (size q) + ds.length - count)

/-- A number with a given number of digits, at least one. -/
def precise (count : Nat) (x : Float) : Text :=
  match rational? x with
  | none => text x
  | some q =>
    let (ds, point) := leadingDigits count q
    sign q ++ if -6 < point ∧ point ≤ count then positional ds point else exponential ds point

/-- A number with a power of ten, with a given number of digits or with the fewest. -/
def scientific (count : Option Nat) (x : Float) : Text :=
  match rational? x with
  | none => text x
  | some q =>
    let (ds, point) := match count with
      | some count => leadingDigits count q
      | none => if q = 0 then (['0'], 1) else fewest x q
    sign q ++ exponential ds point

/-- A digit for a value below 36. -/
def digitOf (n : Nat) : Char := if n < 10 then Char.ofNat ('0'.toNat + n) else Char.ofNat ('a'.toNat + (n - 10))

/-- The digits of a whole number in a base, in front of others. -/
def digitsIn (base : Nat) : (fuel n : Nat) → Text → Text
  | 0, _, ds => ds
  | fuel + 1, n, ds =>
    if n < base then digitOf n :: ds else digitsIn base fuel (n / base) (digitOf (n % base) :: ds)

/-- A last digit that is one greater; what is beyond the base is carried over to the digit before. -/
def raisedDigit (base digit : Nat) : List Nat × Bool := if digit + 1 < base then ([digit + 1], false) else ([], true)

/-- The digits of a fraction in a base, as long as they matter, and whether one is carried over to the whole part. -/
def fractionIn (base : Nat) : (fuel : Nat) → (fraction least : Float) → List Nat × Bool
  | 0, _, _ => ([], false)
  | fuel + 1, fraction, least =>
    let next := fraction * Float.ofNat base
    let least := least * Float.ofNat base
    let digit := next.floor.toUInt64.toNat
    let fraction := next - next.floor
    if (0.5 < fraction || (fraction == 0.5 && digit % 2 == 1)) && 1 < fraction + least then raisedDigit base digit
    else if least <= fraction then
      match fractionIn base fuel fraction least with
      | (_, true) => raisedDigit base digit
      | (ds, false) => (digit :: ds, false)
    else ([digit], false)

/-- The digits of a whole part in a base; those beyond what a number can tell are zeros. -/
def wholeIn (base : Nat) : (fuel : Nat) → (whole : Float) → Text → Text
  | 0, _, ds => ds
  | fuel + 1, whole, ds =>
    if isSafe whole then digitsIn base 64 whole.toUInt64.toNat ds
    else wholeIn base fuel (whole / Float.ofNat base) ('0' :: ds)

/-- A number in the digits of a base. -/
def inBase (base : Nat) (x : Float) : Text :=
  match rational? x with
  | none => text x
  | some q =>
    let whole := x.abs.floor
    let fraction := x.abs - whole
    let least := 0.5 * (Float.ofBits (x.abs.toBits + 1) - x.abs)
    let (ds, carries) := if fraction == 0 || fraction < least then ([], false) else fractionIn base 1100 fraction least
    sign q ++ wholeIn base 1100 (if carries then whole + 1 else whole) [] ++
      if ds = [] then [] else '.' :: ds.map digitOf

/-! ## Reading -/

/-- A text without the space at its start. -/
def afterSpace (t : Text) : Text := t.dropWhile Word.isSpace

/-- A text without the space at its ends. -/
def withoutSpace (t : Text) : Text := (afterSpace (afterSpace t).reverse).reverse

/-- The number at the start of a text, with what follows it. -/
def split? (t : Text) : Option (Float × Text) :=
  let unsigned (t : Text) : Option (Float × Text) :=
    if "Infinity".toList.isPrefixOf t then some (infinity, t.drop 8) else Text.splitDecimal? t
  match t with
  | '-' :: cs => (unsigned cs).map fun (x, rest) => (-x, rest)
  | '+' :: cs => unsigned cs
  | _ => unsigned t

/-- The number that a text writes; a text of space alone is zero. -/
def ofText (t : Text) : Float :=
  let t := withoutSpace t
  match t, Word.baseOf? t with
  | [], _ => 0
  | _, some (base, ds) =>
    if ds ≠ [] ∧ ds.all (Word.isDigitOf base) then Float.ofNat (Word.valueIn base ds) else notNumber
  | _, none => match split? t with
    | some (x, []) => x
    | _ => notNumber

/-- The number with which a text starts. -/
def leading (t : Text) : Float := (split? (afterSpace t)).elim notNumber (·.1)

/-- The whole number in a base with which a text starts; base 0 is the one that the text names. -/
def leadingWhole (base : Int) (t : Text) : Float :=
  let t := afterSpace t
  let (negative, t) := match t with
    | '-' :: cs => (true, cs)
    | '+' :: cs => (false, cs)
    | _ => (false, t)
  let (base, t) := match Word.baseOf? t with
    | some (16, ds) => if base = 0 ∨ base = 16 then ((16 : Int), ds) else (base, t)
    | _ => (if base = 0 then 10 else base, t)
  let ds := t.takeWhile (Word.isDigitOf base.toNat)
  if base < 2 ∨ 36 < base ∨ ds = [] then notNumber
  else
    let x := Float.ofNat (Word.valueIn base.toNat ds)
    if negative then -x else x

/-! ## Arithmetic -/

/-- The remainder of a division that drops the fraction. -/
def remainder (x y : Float) : Float :=
  match rational? x, rational? y with
  | some a, some b =>
    if b = 0 then notNumber
    else
      let quotient := a / b
      let whole : Int := if quotient < 0 then -(-quotient).floor else quotient.floor
      let r := a - b * whole
      Float.scaleB (Float.ofInt r.num) (-(Nat.log2 r.den : Int))
  | some _, none => if y.isNaN then notNumber else x
  | none, _ => notNumber

/-- A power; that of one is unknown, when the exponent is. -/
def power (x y : Float) : Float :=
  if y.isNaN || (x.abs == 1 && (rational? y).isNone) then notNumber else x.pow y

/-- The nearest whole number; a half goes up. -/
def rounded (x : Float) : Float :=
  let below := x.floor
  if x < 0 && -0.5 <= x then -0.0
  else if 0.5 <= x - below then below + 1
  else below

/-- A number without its fraction. -/
def truncated (x : Float) : Float := if x < 0 then x.ceil else x.floor

/-- The first bits of a number that is near a third of the power, as a start for its cube root. -/
def rootStart (x : Float) : Float :=
  let high (x : Float) : UInt64 := x.toBits >>> 32
  let start (n : UInt64) : Float := Float.ofBits (n <<< 32)
  if high x < 0x00100000 then start (high (x * 18014398509481984) / 3 + 696219795) else start (high x / 3 + 715094163)

/-- The cube root: a start is bettered once by a polynomial, cut to a few bits, and bettered once more. -/
def cubeRoot (x : Float) : Float :=
  let size := x.abs
  if x == 0 || x.isNaN || x.isInf then x
  else
    let t := rootStart size
    let r := (t * t) * (t / size)
    let t := t * ((1.87595182427177009643 + r * (-1.88497979543377169875 + r * 1.621429720105354466140)) +
      ((r * r) * r) * (-0.758397934778766047437 + r * 0.145996192886612446982))
    let t := Float.ofBits ((t.toBits + 0x80000000) &&& 0xffffffffc0000000)
    let r := size / (t * t)
    let t := t + t * ((r - t) / (t + t + r))
    if x < 0 then -t else t

/-- The natural logarithm of one more than a number. -/
def logOfOneMore (x : Float) : Float :=
  let u := 1 + x
  if u == 1 then x else if u.isInf || u <= 0 then u.log else u.log * x / (u - 1)

/-- One less than the exponential of a number. -/
def expLessOne (x : Float) : Float :=
  let u := x.exp
  if u == 1 then x
  else if u - 1 == -1 || u.isInf then u - 1
  else (u - 1) * x / u.log

/-- The 32 bits of a whole number, with sign. -/
def bits (x : Float) : BitVec 32 := BitVec.ofInt 32 ((whole? x).getD 0)

/-- The number that 32 bits stand for, with sign. -/
def ofBits (b : BitVec 32) : Float := Float.ofInt b.toInt

end Recurrence.Script.Number
