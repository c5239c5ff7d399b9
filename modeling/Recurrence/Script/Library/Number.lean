import Recurrence.Script.Library.Entry
import Recurrence.Script.Operator
/-!
# The library: numbers

Functions of numbers, and conversions from and to texts.
-/
namespace Recurrence.Script.Library

open Run

/-! ## Functions of numbers -/

/-- A function of one number. -/
def ofNumber (name : String) (f : Float → Float) : Entry := method name 1 fun c => do
  return .number (f (← numberOf (c.given 0)))

/-- A function of any number of numbers. -/
def ofNumbers (name : String) (f : List Float → Float) : Entry := method name 2 fun c => do
  return .number (f (← c.arguments.mapM numberOf))

/-- Of two numbers the second if the first yields to it; no number, if either is none. -/
def choose (yields : Float → Float → Bool) (a b : Float) : Float :=
  if a.isNaN || b.isNaN then Number.notNumber else if yields a b then b else a

/-- Whether a number is less than another; zeros with a sign are less than those without. -/
def isBelow (a b : Float) : Bool := a < b || (a == 0 && b == 0 && 1 / a < 1 / b)

def greatest (xs : List Float) : Float := xs.foldl (choose isBelow) (-Number.infinity)

def least (xs : List Float) : Float := xs.foldl (choose fun a b => isBelow b a) Number.infinity

def signOf (x : Float) : Float := if 0 < x then 1 else if x < 0 then -1 else x

/-- The number of leading zeros of 32 bits. -/
def leadingZeros (x : Float) : Float :=
  let n := (Number.bits x).toNat
  Float.ofNat (if n = 0 then 32 else 31 - Nat.log2 n)

/-- The length of the diagonal of sides. -/
def diagonal (xs : List Float) : Float :=
  if xs.any (·.isInf) then Number.infinity
  else
    let most := xs.foldl (fun m x => if m < x.abs then x.abs else m) 0
    if xs.any (·.isNaN) then Number.notNumber
    else if most == 0 then 0
    else (xs.foldl (fun s x => s + (x / most) * (x / most)) 0).sqrt * most

def first (xs : List Float) : Float := xs.getD 0 Number.notNumber

def second (xs : List Float) : Float := xs.getD 1 Number.notNumber

/-- The next number by chance. -/
def nextChance (seed : Nat) : Nat := (seed * 6364136223846793005 + 1442695040888963407) % Nat.pow 2 64

def chance : Native := fun _ s =>
  let seed := nextChance s.seed
  .gave (.number (Float.ofNat (seed / Nat.pow 2 11) / Float.ofNat (Nat.pow 2 53))) { s with seed }

def mathEntries : List Entry :=
  [ofNumber "abs" Float.abs, ofNumber "acos" Float.acos, ofNumber "acosh" Float.acosh, ofNumber "asin" Float.asin,
    ofNumber "asinh" Float.asinh, ofNumber "atan" Float.atan, ofNumber "atanh" Float.atanh,
    ofNumbers "atan2" fun xs => Float.atan2 (first xs) (second xs), ofNumber "ceil" Float.ceil,
    ofNumber "cbrt" Number.cubeRoot, ofNumber "expm1" Number.expLessOne, ofNumber "clz32" leadingZeros,
    ofNumber "cos" Float.cos, ofNumber "cosh" Float.cosh, ofNumber "exp" Float.exp, ofNumber "floor" Float.floor,
    ofNumber "fround" fun x => x.toFloat32.toFloat, ofNumbers "hypot" diagonal,
    ofNumbers "imul" fun xs => Number.ofBits (Number.bits (first xs) * Number.bits (second xs)),
    ofNumber "log" Float.log, ofNumber "log1p" Number.logOfOneMore, ofNumber "log2" Float.log2,
    ofNumber "log10" Float.log10, ofNumbers "max" greatest, ofNumbers "min" least,
    ofNumbers "pow" fun xs => Number.power (first xs) (second xs), method "random" 0 chance,
    ofNumber "round" Number.rounded, ofNumber "sign" signOf, ofNumber "sin" Float.sin, ofNumber "sinh" Float.sinh,
    ofNumber "sqrt" Float.sqrt, ofNumber "tan" Float.tan, ofNumber "tanh" Float.tanh,
    ofNumber "trunc" Number.truncated, constant "E" (.number 2.718281828459045),
    constant "LN10" (.number 2.302585092994046), constant "LN2" (.number 0.6931471805599453),
    constant "LOG10E" (.number 0.4342944819032518), constant "LOG2E" (.number 1.4426950408889634),
    constant "PI" (.number 3.141592653589793), constant "SQRT1_2" (.number 0.7071067811865476),
    constant "SQRT2" (.number 1.4142135623730951), tag "Math"]

/-! ## Numbers -/

/-- The plain value that an object wraps. -/
def unwrapped (v : Value) : Run Value := do
  match v with
  | .object a => match ← kindAt a with
    | .wrapped w => return w
    | _ => return v
  | _ => return v

/-- The number that a method works on. -/
def thisNumber (method : String) (this : Value) : Run Float := do
  match ← unwrapped this with
  | .number x => return x
  | _ => typeFail ("Number.prototype." ++ method ++ " requires that 'this' be a Number")

/-- A number of digits within bounds. -/
def digitCount (v : Value) (low : Nat) (complaint : String) : Run Nat := do
  let n ← wholeOf v
  if n < low ∨ 100 < n then rangeFail complaint else return n.toNat

def finite (x : Float) : Bool := !x.isNaN && !x.isInf

/-- The number of a value, which may be one of unlimited size. -/
def numericOf (vs : List Value) : Run Float := do
  match vs with
  | [] => return 0
  | v :: _ => match ← primitive .number v with
    | .bigNumber n => return Float.ofInt n
    | v => plainNumber v

/-- The maker of objects that wrap a plain value; by itself it gives the value. -/
def wrapping (f : Family) (convert : List Value → Run Value) : Native := fun c => do
  let v ← convert c.arguments
  if c.target matches .undefined then return v
  make c.target f (.wrapped v)

def readWhole : Native := fun c => do
  let t ← textOf (c.given 0)
  let base := Number.bits (← numberOf (c.given 1))
  return .number (Number.leadingWhole base.toInt t)

def readLeading : Native := fun c => do return .number (Number.leading (← textOf (c.given 0)))

/-- A test of numbers alone. -/
def numberTest (name : String) (f : Float → Bool) : Entry := method name 1 fun c => return .truth (match c.given 0 with
  | .number x => f x
  | _ => false)

def numberEntries : List Entry :=
  [numberTest "isFinite" finite, numberTest "isInteger" fun x => finite x && Number.isWhole x,
    numberTest "isNaN" Float.isNaN,
    numberTest "isSafeInteger" fun x => Number.isSafe x && Number.isWhole x,
    method "parseFloat" 1 readLeading, method "parseInt" 2 readWhole,
    constant "MAX_VALUE" (.number 1.7976931348623157e308), constant "MIN_VALUE" (.number 5e-324),
    constant "NaN" (.number Number.notNumber), constant "NEGATIVE_INFINITY" (.number (-Number.infinity)),
    constant "POSITIVE_INFINITY" (.number Number.infinity),
    constant "MAX_SAFE_INTEGER" (.number 9007199254740991),
    constant "MIN_SAFE_INTEGER" (.number (-9007199254740991)), constant "EPSILON" (.number 2.220446049250313e-16)]

/-- The base that a value names, or ten. -/
def baseOf (v : Value) : Run Nat := do
  match v with
  | .undefined => return 10
  | v =>
    let n ← wholeOf v
    if n < 2 ∨ 36 < n then rangeFail "toString() radix must be between 2 and 36" else return n.toNat

def numberPrototypeEntries : List Entry :=
  [method "toExponential" 1 fun c => do
      let x ← thisNumber "toExponential" c.this
      let n ← wholeOf (c.given 0)
      if !finite x then return .string (Number.text x)
      if n < 0 ∨ 100 < n then rangeFail "toExponential() argument must be between 0 and 100"
      return .string (Number.scientific (if c.given 0 matches .undefined then none else some (n.toNat + 1)) x),
    method "toFixed" 1 fun c => do
      let x ← thisNumber "toFixed" c.this
      let n ← digitCount (c.given 0) 0 "toFixed() digits argument must be between 0 and 100"
      return .string (Number.fixed n x),
    method "toPrecision" 1 fun c => do
      let x ← thisNumber "toPrecision" c.this
      if c.given 0 matches .undefined then return .string (Number.text x)
      let n ← wholeOf (c.given 0)
      if !finite x then return .string (Number.text x)
      if n < 1 ∨ 100 < n then rangeFail "toPrecision() argument must be between 1 and 100"
      return .string (Number.precise n.toNat x),
    method "toString" 1 fun c => do
      let x ← thisNumber "toString" c.this
      let base ← baseOf (c.given 0)
      return .string (if base = 10 then Number.text x else Number.inBase base x),
    method "valueOf" 0 fun c => do return .number (← thisNumber "valueOf" c.this)]

/-! ## Truth values -/

def thisTruth (method : String) (this : Value) : Run Bool := do
  match ← unwrapped this with
  | .truth b => return b
  | _ => typeFail ("Boolean.prototype." ++ method ++ " requires that 'this' be a Boolean")

def truthPrototypeEntries : List Entry :=
  [method "toString" 0 fun c => do return .ofString (if ← thisTruth "toString" c.this then "true" else "false"),
    method "valueOf" 0 fun c => do return .truth (← thisTruth "valueOf" c.this)]

/-! ## Whole numbers of unlimited size -/

/-- A value as whole number of unlimited size. -/
def bigOf (v : Value) : Run Int := do
  match ← primitive .number v with
  | .bigNumber n => return n
  | .truth b => return if b then 1 else 0
  | .string t => match wholeOfText? t with
    | some n => return n
    | none => fail .syntaxFault ("Cannot convert " ++ String.ofList t ++ " to a BigInt")
  | v => typeFail ("Cannot convert " ++ (← noted v) ++ " to a BigInt")

def makeBig : Native := fun c => do
  match ← primitive .number (c.given 0) with
  | .number x => match Number.rational? x with
    | some q =>
      if q.den = 1 then return .bigNumber q.num
      rangeFail ("The number " ++ String.ofList (Number.text x) ++
        " cannot be converted to a BigInt because it is not an integer")
    | none => rangeFail ("The number " ++ String.ofList (Number.text x) ++
        " cannot be converted to a BigInt because it is not an integer")
  | v => return .bigNumber (← bigOf v)

def thisBig (method : String) (this : Value) : Run Int := do
  match ← unwrapped this with
  | .bigNumber n => return n
  | _ => typeFail ("BigInt.prototype." ++ method ++ " requires that 'this' be a BigInt")

/-- A whole number in the digits of a base. -/
def wholeIn (base : Nat) (n : Int) : Text :=
  (if n < 0 then ['-'] else []) ++ Number.digitsIn base (Nat.log2 n.natAbs + 1) n.natAbs []

def bigEntries : List Entry :=
  [method "asUintN" 2 fun c => do
      let bits ← indexOf (c.given 0) "Invalid value: not (convertible to) a safe integer"
      let n ← bigOf (c.given 1)
      return .bigNumber (n % (Nat.pow 2 bits : Nat)),
    method "asIntN" 2 fun c => do
      let bits ← indexOf (c.given 0) "Invalid value: not (convertible to) a safe integer"
      let n ← bigOf (c.given 1)
      return .bigNumber (Int.bmod n (Nat.pow 2 bits))]

def bigPrototypeEntries : List Entry :=
  [method "toString" 0 fun c => do
      let n ← thisBig "toString" c.this
      return .string (wholeIn (← baseOf (c.given 0)) n),
    method "valueOf" 0 fun c => do return .bigNumber (← thisBig "valueOf" c.this), tag "BigInt"]

/-! ## Symbols -/

def thisSymbol (method : String) (this : Value) : Run Nat := do
  match ← unwrapped this with
  | .symbol n => return n
  | _ => typeFail (method ++ " requires that 'this' be a Symbol")

def makeSymbol : Native := fun c => do
  let description ← match c.given 0 with
    | .undefined => pure none
    | v => some <$> textOf v
  return .symbol (← newSymbol description)

def description (n : Nat) : Run Value := reading fun s => ((s.symbols.getD n none).map Value.string).getD .undefined

def symbolEntries : List Entry :=
  Key.knownSymbols.zipIdx.map (fun (n, i) => constant n (.symbol i)) ++
  [method "for" 1 fun c => do
      let t ← textOf (c.given 0)
      match ← reading fun s => s.shared.lookup t with
      | some n => return .symbol n
      | none =>
        let n ← newSymbol (some t)
        changing fun s => { s with shared := (t, n) :: s.shared }
        return .symbol n,
    method "keyFor" 1 fun c => do
      match c.given 0 with
      | .symbol n =>
        let known ← reading fun s => s.shared.find? fun e => e.2 == n
        return (known.map fun e => Value.string e.1).getD .undefined
      | v => typeFail ((← noted v) ++ " is not a symbol")]

def symbolPrototypeEntries : List Entry :=
  [method "toString" 0 fun c => do
      let n ← thisSymbol "Symbol.prototype.toString" c.this
      return .ofString (← keyText (.symbol n)),
    method "valueOf" 0 fun c => do return .symbol (← thisSymbol "Symbol.prototype.valueOf" c.this),
    teller "description" fun c => do description (← thisSymbol "Symbol.prototype.description" c.this),
    signMethod .toPrimitive "toPrimitive" 1 fun c => do
      return .symbol (← thisSymbol "Symbol.prototype [ @@toPrimitive ]" c.this),
    tag "Symbol"]

/-! ## Everywhere -/

def numberGlobals : List Entry :=
  [constant "NaN" (.number Number.notNumber), constant "Infinity" (.number Number.infinity),
    constant "undefined" .undefined, method "parseInt" 2 readWhole, method "parseFloat" 1 readLeading,
    method "isNaN" 1 fun c => do return .truth (← numberOf (c.given 0)).isNaN,
    method "isFinite" 1 fun c => do return .truth (finite (← numberOf (c.given 0)))]

def numberPlans : List Plan :=
  [{ family := .number, kind := .wrapped (.number 0)
     maker := some (1, wrapping .number fun vs => do return .number (← numericOf vs)) },
    { family := .truth, kind := .wrapped (.truth false)
      maker := some (1, wrapping .truth fun vs => return .truth (vs.headD .undefined).isTrue) },
    { family := .bigNumber, maker := some (1, makeBig), makes := false },
    { family := .symbol, maker := some (0, makeSymbol), makes := false }]

def numberParts : List Part :=
  [⟨Landmark.math.address, mathEntries⟩, ⟨Family.number.maker, numberEntries⟩,
    ⟨Family.number.prototype, numberPrototypeEntries⟩, ⟨Family.truth.prototype, truthPrototypeEntries⟩,
    ⟨Family.bigNumber.maker, bigEntries⟩, ⟨Family.bigNumber.prototype, bigPrototypeEntries⟩,
    ⟨Family.symbol.maker, symbolEntries⟩, ⟨Family.symbol.prototype, symbolPrototypeEntries⟩,
    ⟨Landmark.globalObject.address, numberGlobals⟩]

end Recurrence.Script.Library
