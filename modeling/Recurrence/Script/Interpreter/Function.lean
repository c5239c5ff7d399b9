import Recurrence.Script.Interpreter.Name
import Recurrence.Script.Reader.Statement
/-!
# Functions of a script

An interpreter of one level uses the one below for what stands inside an expression or a statement.  Calls do not go
down: they are asked of the machine.  Here functions are made, and entered when they are called.
-/
namespace Recurrence.Script

open Run

/-- What a statement came to; some statements have a value. -/
inductive Completion where
  | ended (v : Option Value)
  | gave (v : Value)
  | left (label : Option Text) (v : Option Value)
  | again (label : Option Text) (v : Option Value)

namespace Completion

/-- A completion with a value, if it had none. -/
def withValue (v : Option Value) : Completion → Completion
  | ended none => ended v
  | left label none => left label v
  | again label none => again label v
  | c => c

def value? : Completion → Option Value
  | ended v => v
  | gave v => some v
  | left _ v => v
  | again _ v => v

end Completion

/-- What the parts of a script mean, on one level. -/
structure Interpreter where
  evaluate : Scope → Expression → Run Value
  /-- The value of an expression, with the object that a call of it works on; nothing, when a lenient step of it met
  nothing. -/
  link : Scope → Expression → Run (Option (Value × Value))
  execute : Scope → Statement → Run Completion
  /-- Gives a value to a target, whose names are declared there or not. -/
  settle : Scope → (declares : Bool) → (target : Expression) → Value → Run Unit

namespace Interpreter

/-! ## Making functions -/

/-- The fields that tell the length and the name of a function. -/
def describedFields (length : Nat) (name : Text) : Array (Key × Field) :=
  #[(.text Object.lengthName, ⟨.value (.ofNat length) false, false, true⟩),
    (.text "name".toList, ⟨.value (.string name) false, false, true⟩)]

/-- What functions of a manner build on. -/
def familyOfManner (m : Manner) : Family :=
  match m.asynchronous, m.generator with
  | true, true => .asyncGeneratorFunction
  | true, false => .asyncFunction
  | false, true => .generatorFunction
  | false, false => .function

def prototypeName : Text := "prototype".toList

/-- The number of parameters before the first that may be left out. -/
def parameterCount (parameters : List Expression) : Nat :=
  (parameters.takeWhile fun
    | .assign .. => false
    | .spread _ => false
    | _ => true).length

/-- Makes a function of the script. -/
def makeClosure (c : Closure) (parent : Nat) : Run Nat :=
  allocated ⟨.closure c, some parent, describedFields (parameterCount c.parameters) c.name, true⟩

/-- The value of a function expression. -/
def functionValue (scope : Scope) (name : Text) (home : Option Nat) : Expression → Run Value
  | .function manner own parameters locals body source => do
    let selfName := own.getD name
    let scope ← if manner.named then do
        let e ← newEnvironment { cells := #[⟨selfName, none, .quiet⟩], outer := some scope.environment }
        pure { scope with environment := e }
      else pure scope
    let makes := !(manner.arrow || manner.method || manner.asynchronous || manner.generator)
    let f ← makeClosure { manner, name := selfName, parameters, locals, body, source, scope, home
                          making := if makes then .alone else .nothing } (familyOfManner manner).prototype
    if manner.named then initializeAt scope.environment 0 (.object f)
    if makes then
      let p ← allocated ⟨.plain, some Family.object.prototype,
        #[(.text "constructor".toList, .unlisted (.object f))], true⟩
      put f (.text prototypeName) ⟨.value (.object p) true, false, false⟩
    else if manner.generator then
      let family : Family := if manner.asynchronous then .asyncGenerator else .generator
      let p ← allocated ⟨.plain, some family.prototype, #[], true⟩
      put f (.text prototypeName) ⟨.value (.object p) true, false, false⟩
    return .object f
  | _ => return .undefined

/-! ## Blocks -/

/-- Executes statements one after another, up to one that does not end as usual. -/
def executeAll (below : Interpreter) (scope : Scope) : (v : Option Value) → List Statement → Run Completion
  | v, [] => return .ended v
  | v, s :: rest => do
    match ← below.execute scope s with
    | .ended w => executeAll below scope (w.or v) rest
    | other => return other.withValue v

/-- The place behind a name that is declared and not reached. -/
def emptyCell (binding : Binding) (n : Text) : Cell := ⟨n, none, if binding = .constant then .constant else .changeable⟩

/-- A scope with places for names that statements declare for themselves. -/
def withDeclared (scope : Scope) (body : List Statement) : Run Scope := do
  match Statement.declaredNames body with
  | [] => return scope
  | names =>
    let e ← newEnvironment {
      cells := (names.map fun n => emptyCell n.1 n.2).toArray, outer := some scope.environment }
    return { scope with environment := e }

/-- A scope for the statements of a block, with its functions. -/
def enterBlock (scope : Scope) (body : List Statement) : Run Scope := do
  match Statement.declaredNames body, Statement.definitions body with
  | [], [] => return scope
  | names, definitions =>
    let cells := names.map (fun n => emptyCell n.1 n.2) ++ definitions.map fun d => ⟨d.1, none, .changeable⟩
    let e ← newEnvironment { cells := cells.toArray, outer := some scope.environment }
    let scope := { scope with environment := e }
    for d in definitions do initializeName scope d.1 (← functionValue scope d.1 none d.2)
    return scope

def executeBlock (below : Interpreter) (scope : Scope) (body : List Statement) : Run Completion := do
  executeAll below (← enterBlock scope body) none body

/-! ## Entering functions -/

/-- The object that a function works on: code that is not strict always has one. -/
def ownThis (strict : Bool) (this : Value) : Run Value := do
  if strict || this.isObject then return this
  if this.isNothing then return .object Landmark.globalObject.address
  return .object (← objectOf this)

/-- The arguments of a call as an object; plain parameters share their content with it. -/
def argumentsObject (f environment : Nat) (names : List (Option Text)) (strict : Bool) (vs : List Value) :
    Run Value := do
  let places := vs.zipIdx.map fun (v, i) => (Key.place i, Field.ofValue v)
  let callee : List (Key × Field) := if strict then [] else [(Key.ofString "callee", .unlisted (.object f))]
  let own := (Key.text Object.lengthName, Field.unlisted (.ofNat vs.length)) :: callee ++
    [(.iterator, .unlisted (.object Landmark.listValues.address))]
  allocate ⟨.arguments environment (names.take vs.length), some Family.object.prototype,
    (places ++ own).toArray, true⟩

/-- The last of parameters of the same name shares its content with an argument. -/
def sharedNames : List Text → List (Option Text)
  | [] => []
  | n :: ns => (if ns.contains n then none else some n) :: sharedNames ns

def argumentsName : Text := "arguments".toList

/-- Gives arguments to parameters. -/
def settleParameters (below : Interpreter) (scope : Scope) : List Expression → List Value → Run Unit
  | [], _ => return
  | .spread target :: _, vs => do below.settle scope true target (← list vs)
  | p :: ps, vs => do
    below.settle scope true p (vs.headD .undefined)
    settleParameters below scope ps vs.tail

/-- The scope of a function's parameters, with its object and its arguments if it has its own. -/
def enterParameters (below : Interpreter) (c : Closure) (f : Nat) (this : Option Value) (vs : List Value)
    (target : Value) : Run Scope := do
  let names := Expression.targetNamesOf c.parameters
  let plain := Expression.arePlain c.parameters
  let asks := c.manner.asksArguments && !c.manner.arrow && !names.contains argumentsName
  let parameterCells : List Cell :=
    if plain then (names.zip (vs ++ List.replicate (names.length - vs.length) .undefined)).reverse.map fun (n, v) =>
      ⟨n, some v, .changeable⟩
    else names.map fun n => ⟨n, none, .changeable⟩
  let argumentsCell : List Cell := if asks then [⟨argumentsName, none, .changeable⟩] else []
  let activation ← if c.manner.arrow then pure none else do
    let this ← match this with
      | some v => do pure (some (← ownThis c.manner.strict v))
      | none => pure none
    pure (some (Activation.mk this (.object f) target))
  let e ← newEnvironment {
    cells := (argumentsCell ++ parameterCells).toArray, outer := some c.scope.environment, wide := true, activation }
  if asks then
    let shared := if plain && !c.manner.strict then sharedNames names else []
    initializeAt e 0 (← argumentsObject f e shared c.manner.strict vs)
  let scope : Scope := {
    environment := e, activation := if c.manner.arrow then c.scope.activation else e
    routine := if c.manner.asynchronous then c.scope.routine else 0, strict := c.manner.strict }
  if !plain then settleParameters below scope c.parameters vs
  return scope

/-- The scope of a function's body: with the names that it knows as a whole, and its functions. -/
def enterBody (c : Closure) (scope : Scope) : Run Scope := do
  let definitions := Statement.definitions c.body
  let wide := (c.locals ++ definitions.map (·.1)).eraseDups
  let own := scope.environment
  let scope ← if Expression.arePlain c.parameters then do
      let known := (← environmentAt own).cells.map (·.name)
      let fresh := wide.filter fun n => !known.contains n
      if !fresh.isEmpty then
        updateEnvironment own fun e =>
          { e with cells := e.cells ++ (fresh.map fun n => ⟨n, some .undefined, .changeable⟩).toArray }
      pure scope
    else do
      let known := (← environmentAt own).cells
      let content (n : Text) : Option Value :=
        (((known.find? fun c => c.name == n).bind (·.content)).getD .undefined)
      let e ← newEnvironment {
        cells := (wide.map fun n => ⟨n, content n, .changeable⟩).toArray, outer := some own, wide := true }
      pure { scope with environment := e }
  let around := scope
  let scope ← withDeclared scope c.body
  for d in definitions do initializeName around d.1 (← functionValue scope d.1 none d.2)
  return scope

/-- What the body of a function gives. -/
def bodyValue (below : Interpreter) (c : Closure) (scope : Scope) : Run Value := do
  match ← executeAll below scope none c.body with
  | .gave v => return v
  | _ => return .undefined

/-- Enters a function and gives what its body gives. -/
def entered (below : Interpreter) (c : Closure) (f : Nat) (this : Value) (vs : List Value) : Run Value := do
  bodyValue below c (← enterBody c (← enterParameters below c f (some this) vs .undefined))

/-! ## Routines -/

/-- The body of a routine that hands out values: it waits at its start, and is over at its end. -/
def generatorBody (below : Interpreter) (c : Closure) (f : Nat) (scope : Scope) : Run Value := do
  let parent ← prototypeFor (.object f) .generator
  let g ← allocated ⟨.routine .fresh, some parent, #[], true⟩
  let _ ← askPlainly (.suspend g (.object g))
  let result ← (do bodyValue below c (← enterBody c { scope with routine := g })).outcome
  setKind g (.routine .over)
  match result with
  | .ok v => return v
  | .error (.finished v) => return v
  | .error h => halt h

/-- The body of a function that is left while it waits for something; a promise tells what it gives. -/
def asyncBody (promise : Nat) (body : Run Value) : Run Value := do
  match ← body.outcome with
  | .ok v => resolvePromise promise v
  | .error (.thrown v) => settlePromise promise (.broken v)
  | .error (.finished v) => resolvePromise promise v
  | .error h => halt h
  return .object promise

/-- Tells the next one who asked of a walk with promises what it came to. -/
def answerRequest (g : Nat) (result : Except Value (Value × Bool)) : Run Unit := do
  match ← kindAt g with
  | .asyncRoutine phase (r :: rest) =>
    setKind g (.asyncRoutine phase rest)
    match result with
    | .ok (v, done) => resolvePromise r.promise (← stepResult v done)
    | .error v => settlePromise r.promise (.broken v)
  | _ => return

/-- Serves those who wait for a walk with promises that is over. -/
def serveRest (g : Nat) : Run Unit :=
  let round (_ : Unit) : Run (Unit ⊕ Unit) := do
    match ← kindAt g with
    | .asyncRoutine _ (r :: _) =>
      match r.response with
      | .value _ => answerRequest g (.ok (.undefined, true))
      | .fault v => answerRequest g (.error v)
      | .finish v => match ← (awaited g v).outcome with
        | .ok v => answerRequest g (.ok (v, true))
        | .error (.thrown v) => answerRequest g (.error v)
        | .error h => halt h
      return .inl ()
    | .asyncRoutine _ [] => do
      setKind g (.asyncRoutine .over [])
      return .inr ()
    | _ => return .inr ()
  repeated round () manyRounds ()

/-- The body of a routine that hands out values and waits for others. -/
def asyncGeneratorBody (below : Interpreter) (c : Closure) (f : Nat) (scope : Scope) : Run Value := do
  let parent ← prototypeFor (.object f) .asyncGenerator
  let g ← allocated ⟨.asyncRoutine .fresh [], some parent, #[], true⟩
  let response ← askPlainly (.suspend g (.object g))
  let result ← (do
    match response with
    | .value _ => bodyValue below c (← enterBody c { scope with routine := g })
    | .fault v => raise v
    | .finish v => awaited g v).outcome
  match result with
  | .ok v => answerRequest g (.ok (v, true))
  | .error (.finished v) => answerRequest g (.ok (v, true))
  | .error (.thrown v) => answerRequest g (.error v)
  | .error h => halt h
  serveRest g
  return .undefined

/-- Hands out a value in a routine, and goes on with the response. -/
def handedOut (routine : Nat) (result : Value) : Run Value := do
  match ← kindAt routine with
  | .routine _ =>
    setKind routine (.routine .waiting)
    ask (.suspend routine result)
  | _ => return .undefined

/-- Hands out a value in a routine with promises, and goes on with the next one who asks. -/
def handedOutLater (routine : Nat) (v : Value) : Run Value := do
  answerRequest routine (.ok (v, false))
  let response ← match ← kindAt routine with
    | .asyncRoutine _ (r :: _) => pure r.response
    | _ =>
      setKind routine (.asyncRoutine .waiting [])
      askPlainly (.suspend routine .undefined)
  match response with
  | .value v => return v
  | .fault v => raise v
  | .finish v => halt (.finished (← awaited routine v))

/-! ## Calls -/

/-- A call of a function of the script. -/
def callClosure (below : Interpreter) (c : Closure) (f : Nat) (this : Value) (vs : List Value) : Run Value := do
  if c.blueprint then
    typeFail ("Class constructor " ++ String.ofList c.name ++ " cannot be invoked without 'new'")
  match c.manner.asynchronous, c.manner.generator with
  | false, false => entered below c f this vs
  | false, true => generatorBody below c f (← enterParameters below c f (some this) vs .undefined)
  | true, false =>
    let promise ← newPromise
    asyncBody promise do
      let scope ← enterParameters below { c with scope := { c.scope with routine := promise } } f (some this) vs
        .undefined
      bodyValue below c (← enterBody c scope)
  | true, true => asyncGeneratorBody below c f (← enterParameters below c f (some this) vs .undefined)

/-- Gives a new object what a blueprint says. -/
def giveInitials (this : Value) : List Initial → Run Unit
  | [] => return
  | .content k maker :: rest => do
    let v ← match maker with
      | some f => call f this []
      | none => pure .undefined
    match this, k with
    | .object a, .hidden id =>
      if ((← objectAt a).stored? k).isSome then
        typeFail ("Cannot initialize " ++ (← keyText (.hidden id)) ++ " twice on the same object")
      update a fun o => { o with fields := Object.withStored k (.ofValue v) o.fields }
    | _, _ => create this k v
    giveInitials this rest
  | .field k f :: rest => do
    match this with
    | .object a =>
      if ((← objectAt a).stored? k).isSome then
        typeFail "Cannot initialize private methods of class twice on the same object"
      update a fun o => { o with fields := Object.withStored k f o.fields }
    | _ => pure ()
    giveInitials this rest

/-- What a blueprint gives to new objects: hidden functions first. -/
def orderedInitials (initials : List Initial) : List Initial :=
  let isField (i : Initial) : Bool := match i with
    | .field .. => true
    | _ => false
  initials.filter isField ++ initials.filter fun i => !isField i

/-- Makes an object with a function of the script; `target` is the function that was asked for. -/
def constructClosure (below : Interpreter) (c : Closure) (f : Nat) (vs : List Value) (target : Value) :
    Run Value := do
  let fresh ← match c.making with
    | .alone =>
      let this ← make target .object .plain
      giveInitials this (orderedInitials c.initials)
      pure (some this)
    | _ => pure none
  let scope ← enterParameters below c f fresh vs target
  let result ← bodyValue below c (← enterBody c scope)
  if result.isObject then return result
  match c.making, result with
  | .derived, .undefined => thisValue scope
  | .derived, _ => typeFail "Derived constructors may only return object or undefined"
  | _, _ => thisValue scope

end Interpreter
end Recurrence.Script
