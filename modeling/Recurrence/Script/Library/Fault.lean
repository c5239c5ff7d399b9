import Recurrence.Script.Library.Entry
/-!
# The library: faults

A fault has a name, a message and a trace, which begins with both.
-/
namespace Recurrence.Script.Library

open Run

/-- A name and a message as one text. -/
def faultText (name message : Text) : Text :=
  if name = [] then message else if message = [] then name else name ++ ": ".toList ++ message

/-- The text of a fault. -/
def textOfFault (v : Value) : Run Text := do
  let name ← match ← named v "name" with
    | .undefined => pure "Error".toList
    | n => textOf n
  let message ← match ← named v "message" with
    | .undefined => pure []
    | m => textOf m
  return faultText name message

/-- The trace of a fault. -/
def traceOf (v : Value) : Run Value := do
  return .string ((← textOfFault v) ++ "\n    at <anonymous>".toList)

/-- Gives a fault its message, its cause and its trace. -/
def describeFault (a : Nat) (message options : Value) : Run Unit := do
  put a (Key.ofString "stack") (.unlisted .undefined)
  if !(message matches .undefined) then
    put a (Key.ofString "message") (.unlisted (.string (← textOf message)))
  match options with
  | .object o =>
    if ← hasField o (Key.ofString "cause") then
      put a (Key.ofString "cause") (.unlisted (← named options "cause"))
  | _ => pure ()
  put a (Key.ofString "stack") (.unlisted (← traceOf (.object a)))

/-- The maker of faults of a family. -/
def makingFault (f : Family) : Native := fun c => do
  let target := if c.target matches .undefined then .object f.maker else c.target
  let a ← allocated ⟨.fault, some (← prototypeFor target f), #[], true⟩
  describeFault a (c.given 0) (c.given 1)
  return .object a

/-- The maker of faults that stand for several ones. -/
def makingAggregate : Native := fun c => do
  let f : Family := .aggregateFault
  let target := if c.target matches .undefined then .object f.maker else c.target
  let a ← allocated ⟨.fault, some (← prototypeFor target f), #[], true⟩
  describeFault a (c.given 1) (c.given 2)
  let all ← collected none (c.given 0)
  put a (Key.ofString "errors") (.unlisted (← list all))
  return .object a

def faultPlan (f : Family) : Plan :=
  if f = .fault then { family := f, maker := some (1, makingFault f) }
  else if f = .aggregateFault then
    { family := f, parent := some Family.fault.prototype, maker := some (2, makingAggregate),
      makerParent := Family.fault.maker }
  else
    { family := f, parent := some Family.fault.prototype, maker := some (1, makingFault f),
      makerParent := Family.fault.maker }

def faultPlans : List Plan := Family.faults.map faultPlan

/-- The name and the empty message of a family of faults. -/
def faultPart (f : Family) : Part := ⟨f.prototype, [content "name" (.ofString f.name), content "message" (.string [])]⟩

def faultParts : List Part :=
  Family.faults.map faultPart ++
  [⟨Family.fault.prototype, [method "toString" 0 fun c => do
      if !c.this.isObject then typeFail "Error.prototype.toString requires that 'this' be a JSReceiver"
      return .string (← textOfFault c.this)]⟩,
    ⟨Family.fault.maker, [shownContent "stackTraceLimit" (.number 10), method "captureStackTrace" 2 fun c => do
      match c.given 0 with
      | .object a =>
        put a (Key.ofString "stack") (.unlisted (← traceOf (.object a)))
        return .undefined
      | v => typeFail ("Invalid argument: " ++ (← noted v))]⟩]

end Recurrence.Script.Library
