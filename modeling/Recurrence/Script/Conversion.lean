import Recurrence.Script.Field
/-!
# Conversions

Objects are converted to plain values by their own methods, and plain values to texts, numbers and keys.
-/
namespace Recurrence.Script

namespace Run

/-! ## Plain values -/

/-- What a conversion of an object would like to get. -/
inductive Preference where
  | any
  | number
  | text

def Preference.name : Preference → String
  | any => "default"
  | number => "number"
  | text => "string"

/-- What a method of an object gives, if it is a plain value. -/
def converted? (v : Value) (method : String) : Run (Option Value) := do
  let f ← named v method
  if ← isFunction f then
    let r ← call f v []
    if !r.isObject then return some r
  return none

/-- The plain value of a value. -/
def primitive (p : Preference) (v : Value) : Run Value := do
  if !v.isObject then return v
  match ← method? v .toPrimitive with
  | some f =>
    let r ← call f v [.ofString p.name]
    if r.isObject then typeFail "Cannot convert object to primitive value"
    return r
  | none =>
    let methods := if p matches .text then ("toString", "valueOf") else ("valueOf", "toString")
    match ← converted? v methods.1 with
    | some r => return r
    | none => match ← converted? v methods.2 with
      | some r => return r
      | none => typeFail "Cannot convert object to primitive value"

/-- A whole number in decimal digits. -/
def wholeText (n : Int) : Text := (if n < 0 then ['-'] else []) ++ Text.digits n.natAbs

/-! ## Texts -/

/-- A plain value as text. -/
def plainText : Value → Run Text
  | .undefined => return "undefined".toList
  | .null => return "null".toList
  | .truth b => return (if b then "true" else "false").toList
  | .number x => return Number.text x
  | .bigNumber n => return wholeText n
  | .string t => return t
  | .symbol _ => typeFail "Cannot convert a Symbol value to a string"
  | .object _ => return "[object Object]".toList

/-- A value as text. -/
def textOf (v : Value) : Run Text := do
  match v with
  | .string t => return t
  | v => plainText (← primitive .text v)

/-- The key that a value is. -/
def keyOf (v : Value) : Run Key := do
  match v with
  | .string t => return .ofText t
  | .symbol id => return .symbol id
  | .number x => match Number.index? x with
    | some n => return if Nat.blt n Key.placeBound then .place n else .text (Number.text x)
    | none => return .text (Number.text x)
  | v => match ← primitive .text v with
    | .symbol id => return .symbol id
    | v => return .ofText (← plainText v)

/-! ## Numbers -/

/-- A plain value as number. -/
def plainNumber : Value → Run Float
  | .null => return 0
  | .truth b => return if b then 1 else 0
  | .number x => return x
  | .bigNumber _ => typeFail "Cannot convert a BigInt value to a number"
  | .symbol _ => typeFail "Cannot convert a Symbol value to a number"
  | .string t => return Number.ofText t
  | _ => return Number.notNumber

/-- A value as number. -/
def numberOf (v : Value) : Run Float := do
  match v with
  | .number x => return x
  | v => plainNumber (← primitive .number v)

/-- The whole number that a number holds; what is no number counts as zero, and what is not finite as a bound. -/
def wholePart (x : Float) : Int :=
  match Number.whole? x with
  | some n => n
  | none => if x.isNaN then 0 else if x < 0 then -Number.bound else Number.bound

/-- A value as whole number. -/
def wholeOf (v : Value) : Run Int := do return wholePart (← numberOf v)

/-- The number of items that a value says it has. -/
def lengthOf (v : Value) : Run Nat := do
  let n ← wholeOf (← field v (.text Object.lengthName))
  return (if Number.bound < n then Number.bound else n).toNat

/-- A value as number of steps from zero on; negative ones and those beyond all places are refused. -/
def indexOf (v : Value) (complaint : String) : Run Nat := do
  let n ← wholeOf v
  if n < 0 ∨ Number.bound ≤ n then rangeFail complaint
  return n.toNat

/-! ## Objects -/

/-- A value as object. -/
def objectOf (v : Value) : Run Nat := do
  match v with
  | .object a => return a
  | .undefined => typeFail "Cannot convert undefined or null to object"
  | .null => typeFail "Cannot convert undefined or null to object"
  | v => allocated ⟨.wrapped v, some (familyOf v).prototype, #[], true⟩

/-- The prototype of objects made with a function: the one it names, or else that of a family. -/
def prototypeFor (target : Value) (f : Family) : Run Nat := do
  match target with
  | .object _ => match ← named target "prototype" with
    | .object p => return p
    | _ => return f.prototype
  | _ => return f.prototype

/-- Makes an object of a family with a function that was asked for. -/
def make (target : Value) (f : Family) (k : Kind) : Run Value := do
  allocate ⟨k, some (← prototypeFor target f), #[], true⟩

/-! ## Kinds of values -/

/-- The name of the kind of a value. -/
def kindName (v : Value) : Run Text := do
  match v with
  | .undefined => return "undefined".toList
  | .truth _ => return "boolean".toList
  | .number _ => return "number".toList
  | .bigNumber _ => return "bigint".toList
  | .string _ => return "string".toList
  | .symbol _ => return "symbol".toList
  | .null => return "object".toList
  | .object _ => return (if ← isFunction v then "function" else "object").toList

/-- Whether a value is a list, perhaps behind proxies. -/
def isListIn (s : Store) : (fuel : Nat) → Value → Bool
  | 0, _ => false
  | fuel + 1, .object a => match (s.objects.getD a .blank).kind with
    | .list _ _ _ => true
    | .proxy target _ => isListIn s fuel target
    | _ => false
  | _, _ => false

def isList (v : Value) : Run Bool := reading fun s => isListIn s chain v

/-- Checks that a value can be called. -/
def expectFunction (v : Value) : Run Unit := do
  if !(← isFunction v) then notFunction (← noted v)

end Run
end Recurrence.Script
