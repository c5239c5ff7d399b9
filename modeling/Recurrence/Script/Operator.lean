import Recurrence.Script.Conversion
/-!
# Operators of a script

Operators work on plain values, so objects are converted first.  A sum of which one side is a text is a text; whole
numbers of unlimited size keep among themselves.
-/
namespace Recurrence.Script

namespace Run

/-- The whole number that a text writes; a text of space alone is zero. -/
def wholeOfText? (t : Text) : Option Int :=
  let t := Number.withoutSpace t
  let unsigned (ds : Text) : Option Nat := if ds ≠ [] ∧ ds.all Char.isDigit then some (Text.value ds) else none
  match t, Word.baseOf? t with
  | [], _ => some 0
  | _, some (base, ds) =>
    if ds ≠ [] ∧ ds.all (Word.isDigitOf base) then some (Word.valueIn base ds) else none
  | '-' :: ds, none => (unsigned ds).map fun n => -(n : Int)
  | '+' :: ds, none => (unsigned ds).map Int.ofNat
  | ds, none => (unsigned ds).map Int.ofNat

/-- How a whole number compares with a number; not known, if that is none. -/
def compareWhole? (n : Int) (x : Float) : Option Ordering :=
  match Number.rational? x with
  | some q => some (if (n : Rat) < q then .lt else if (n : Rat) = q then .eq else .gt)
  | none => if x.isNaN then none else some (if x < 0 then .gt else .lt)

/-- Whether two plain values are alike. -/
def alikePlainly (a b : Value) : Run Bool := do
  match a, b with
  | .string s, .string t => return s == t
  | .symbol m, .symbol n => return m == n
  | .symbol _, _ => return false
  | _, .symbol _ => return false
  | .bigNumber x, .bigNumber y => return x == y
  | .bigNumber x, .string t => return wholeOfText? t == some x
  | .string t, .bigNumber x => return wholeOfText? t == some x
  | .bigNumber x, v => return compareWhole? x (← plainNumber v) == some .eq
  | v, .bigNumber x => return compareWhole? x (← plainNumber v) == some .eq
  | _, _ => return a.same b || (← plainNumber a) == (← plainNumber b)

/-- Whether two values are alike: the same, or the same after conversion to plain values and numbers. -/
def alike (a b : Value) : Run Bool := do
  if a.isNothing || b.isNothing then return a.isNothing && b.isNothing
  if a.isObject && b.isObject then return a.same b
  alikePlainly (← primitive .any a) (← primitive .any b)

/-- Whether one plain value is less than another; not known, when one is no number. -/
def less? (a b : Value) : Run (Option Bool) := do
  match a, b with
  | .string s, .string t => return some (comesBefore s t)
  | .bigNumber x, .bigNumber y => return some (decide (x < y))
  | .bigNumber x, .string t => return (wholeOfText? t).map fun y => decide (x < y)
  | .string t, .bigNumber y => return (wholeOfText? t).map fun x => decide (x < y)
  | .bigNumber x, v => return (compareWhole? x (← plainNumber v)).map (· == .lt)
  | v, .bigNumber y => return (compareWhole? y (← plainNumber v)).map (· == .gt)
  | _, _ =>
    let x ← plainNumber a
    let y ← plainNumber b
    return if x.isNaN || y.isNaN then none else some (x < y)

/-! ## Whole numbers of unlimited size -/

/-- The greatest number of bits of a whole number. -/
def mostBits : Int := 1073741824

def tooBig {α : Type} : Run α := rangeFail "Maximum BigInt size exceeded"

/-- An operation on the bits of two whole numbers, the sign going on to the left without end. -/
def bitwise (f : Nat → Nat → Nat) (x y : Int) : Int :=
  let bits := Nat.pow 2 (Nat.max (Nat.log2 x.natAbs) (Nat.log2 y.natAbs) + 2)
  Int.bmod (f (x % bits).toNat (y % bits).toNat) bits

def bitCount (n : Int) : Nat := Nat.log2 n.natAbs + 1

/-- A whole number with its bits moved to the left or, if negative, to the right. -/
def shifted (x y : Int) : Run Value := do
  if 0 < y then
    if x = 0 then return .bigNumber 0
    if mostBits ≤ bitCount x + y then tooBig
    return .bigNumber (x * Int.pow 2 y.toNat)
  if mostBits < -y then return .bigNumber (if x < 0 then -1 else 0)
  return .bigNumber (Int.fdiv x (Int.pow 2 y.natAbs))

/-- A binary operator on whole numbers of unlimited size. -/
def operateWhole (o : Operator) (x y : Int) : Run Value := do
  match o with
  | .plus => return .bigNumber (x + y)
  | .minus => return .bigNumber (x - y)
  | .times => return .bigNumber (x * y)
  | .over => if y = 0 then rangeFail "Division by zero" else return .bigNumber (x.tdiv y)
  | .modulo => if y = 0 then rangeFail "Division by zero" else return .bigNumber (x.tmod y)
  | .power =>
    if y < 0 then rangeFail "Exponent must be non-negative"
    if 1 < x.natAbs ∧ mostBits ≤ (bitCount x - 1) * y then tooBig
    return .bigNumber (Int.pow x (if x.natAbs ≤ 1 ∧ y ≠ 0 then y % 2 + 2 else y).toNat)
  | .left => shifted x y
  | .right => shifted x (-y)
  | .bitAnd => return .bigNumber (bitwise Nat.land x y)
  | .bitOr => return .bigNumber (bitwise Nat.lor x y)
  | .bitXor => return .bigNumber (bitwise Nat.xor x y)
  | _ => typeFail "BigInts have no unsigned right shift, use >> instead"

/-! ## Numbers -/

/-- A binary operator on numbers. -/
def operateNumbers (o : Operator) (x y : Float) : Value :=
  .number <| match o with
    | .plus => x + y
    | .minus => x - y
    | .times => x * y
    | .over => x / y
    | .modulo => Number.remainder x y
    | .power => Number.power x y
    | .bitOr => Number.ofBits (Number.bits x ||| Number.bits y)
    | .bitAnd => Number.ofBits (Number.bits x &&& Number.bits y)
    | .bitXor => Number.ofBits (Number.bits x ^^^ Number.bits y)
    | .left => Number.ofBits ((Number.bits x).shiftLeft ((Number.bits y).toNat % 32))
    | .right => Number.ofBits ((Number.bits x).sshiftRight ((Number.bits y).toNat % 32))
    | .rightZeros => Float.ofNat ((Number.bits x).ushiftRight ((Number.bits y).toNat % 32)).toNat
    | _ => Number.notNumber

/-- A binary operator on plain values that are to be numbers. -/
def operatePlain (o : Operator) (a b : Value) : Run Value := do
  match a, b with
  | .number x, .number y => return operateNumbers o x y
  | .bigNumber x, .bigNumber y => operateWhole o x y
  | .bigNumber _, b =>
    let _ ← if b matches .symbol _ then plainNumber b else pure 0
    typeFail "Cannot mix BigInt and other types, use explicit conversions"
  | a, .bigNumber _ =>
    let _ ← plainNumber a
    typeFail "Cannot mix BigInt and other types, use explicit conversions"
  | _, _ =>
    let x ← plainNumber a
    return operateNumbers o x (← plainNumber b)

/-! ## Objects -/

/-- Whether a value builds on the prototype of a function. -/
def isMadeBy : (fuel : Nat) → (v f : Value) → Run Bool
  | 0, _, _ => tooDeep
  | fuel + 1, v, f => do
    match f with
    | .object g => match ← kindAt g with
      | .bound h _ _ => isMadeBy fuel v h
      | _ =>
        if !(← isFunction f) then return false
        match v with
        | .object a => match ← named f "prototype" with
          | .object ancestor => buildsOn ancestor chain a
          | p => typeFail ("Function has non-object prototype '" ++ (← noted p) ++ "' in instanceof check")
        | _ => return false
    | _ => return false

/-- Whether a value is one of those that another stands for. -/
def isInstance (v f : Value) : Run Bool := do
  if !f.isObject then typeFail "Right-hand side of 'instanceof' is not an object"
  match ← method? f .hasInstance with
  | some g => return (← call g f [v]).isTrue
  | none =>
    if !(← isFunction f) then typeFail "Right-hand side of 'instanceof' is not callable"
    isMadeBy chain v f

/-- A comparison of values; the second one is converted first, if they are swapped. -/
def compared (a b : Value) (swapped : Bool) : Run (Option Bool) := do
  let x ← primitive .number a
  let y ← primitive .number b
  if swapped then less? y x else less? x y

/-- The sum of two values. -/
def added (a b : Value) : Run Value := do
  match a, b with
  | .number x, .number y => return .number (x + y)
  | a, b =>
    let x ← primitive .any a
    let y ← primitive .any b
    match x, y with
    | .string s, y => return .string (appended s (← plainText y))
    | x, .string t => return .string (appended (← plainText x) t)
    | x, y => operatePlain .plus x y

/-- A binary operator on the values of both sides. -/
def operate (o : Operator) (a b : Value) : Run Value := do
  match o with
  | .same => return .truth (a.same b)
  | .different => return .truth (!a.same b)
  | .alike => return .truth (← alike a b)
  | .unlike => return .truth (!(← alike a b))
  | .less => return .truth ((← compared a b false) == some true)
  | .more => return .truth ((← compared a b true) == some true)
  | .atMost => return .truth ((← compared a b true) == some false)
  | .atLeast => return .truth ((← compared a b false) == some false)
  | .instanceOf => return .truth (← isInstance a b)
  | .within =>
    match b with
    | .object address => return .truth (← hasField address (← keyOf a))
    | b => typeFail ("Cannot use 'in' operator to search for '" ++ (← noted a) ++ "' in " ++ (← noted b))
  | .plus => added a b
  | o =>
    let x ← primitive .number a
    let y ← primitive .number b
    operatePlain o x y

/-- A unary operator on a value. -/
def operateUnary (sign : Sign) (v : Value) : Run Value := do
  match sign with
  | .minus => match ← primitive .number v with
    | .bigNumber n => return .bigNumber (-n)
    | v => return .number (-(← plainNumber v))
  | .plus => return .number (← numberOf v)
  | .not => return .truth !v.isTrue
  | .complement => match ← primitive .number v with
    | .bigNumber n => return .bigNumber (-n - 1)
    | v => return .number (Number.ofBits (Number.bits (← plainNumber v)).not)
  | .kind => return .string (← kindName v)
  | _ => return .undefined

end Run
end Recurrence.Script
