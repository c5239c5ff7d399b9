import Recurrence.Script.Interpreter.Statement
import Recurrence.Script.Library.Entry
import Recurrence.Script.Operator
/-!
# The library: functions

Calling functions in other ways, and making them and executing code from texts.  Such code sees only the names that all
code sees.
-/
namespace Recurrence.Script.Library

open Run

/-- Where all names are those that all code sees. -/
def globalScope : Scope := ⟨1, 0, 0, false⟩

/-- Executes a text as a script of its own. -/
def runText (t : Text) : Run Value := do
  match Code.ofText {} t with
  | .error message => fail .syntaxFault (String.ofList message)
  | .ok code => Interpreter.runCode Interpreter.whole globalScope code

/-- The function that executes a text; called by another name than its own, it knows only what all code knows. -/
def evaluate : Native := fun c => do
  match c.given 0 with
  | .string t => runText t
  | v => return v

/-- The function that makes functions of texts: the last one is the body, and those before it are parameters. -/
def makingFunction (start : String) : Native := fun c => do
  let texts ← c.arguments.mapM textOf
  let parameters := Text.joined [','] texts.dropLast
  let source := start.toList ++ " anonymous(".toList ++ parameters ++ "\n) \x7b\n".toList ++ texts.getLastD [] ++
    "\n\x7d".toList
  runText ('(' :: source ++ [')'])

/-! ## Calls -/

def callMethod : Native := fun c => do
  if !(← isFunction c.this) then notFunction "Function.prototype.call.call"
  call c.this (c.given 0) (c.arguments.drop 1)

def applyMethod : Native := fun c => do
  if !(← isFunction c.this) then
    typeFail ("Function.prototype.apply was called on " ++ (← noted c.this) ++ ", which is a " ++
      String.ofList (← kindName c.this) ++ " and not a function")
  let vs ← if (c.given 1).isNothing then pure [] else itemsOf (c.given 1)
  call c.this (c.given 0) vs

/-- The number of arguments that a function still expects. -/
def expectedAfter (f : Value) (given : Nat) : Run Value := do
  match ← named f "length" with
  | .number x =>
    if x.isNaN || x < Float.ofNat given then return .number 0
    return .number (Number.truncated x - Float.ofNat given)
  | _ => return .number 0

def bindMethod : Native := fun c => do
  match c.this with
  | .object f =>
    if !(← isFunction c.this) then typeFail "Bind must be called on a function"
    let vs := c.arguments.drop 1
    let length ← expectedAfter c.this vs.length
    let name ← match ← named c.this "name" with
      | .string n => pure n
      | _ => pure []
    let parent ← match ← parentOf f with
      | .object p => pure (some p)
      | _ => pure none
    allocate ⟨.bound c.this (c.given 0) vs, parent,
      #[(.text Object.lengthName, ⟨.value length false, false, true⟩),
        (.text "name".toList, ⟨.value (.string ("bound ".toList ++ name)) false, false, true⟩)], true⟩
  | _ => typeFail "Bind must be called on a function"

def sourceMethod : Native := fun c => do
  match c.this with
  | .object f =>
    if !(← isFunction c.this) then typeFail "Function.prototype.toString requires that 'this' be a Function"
    return .string (← reading fun s => sourceIn s f)
  | _ => typeFail "Function.prototype.toString requires that 'this' be a Function"

/-- The names under which the library shows a function's parts. -/
def functionPrototypeEntries : List Entry :=
  [.content (.text Object.lengthName) ⟨.value (.number 0) false, false, true⟩,
    .content (Key.ofString "name") ⟨.value (.string []) false, false, true⟩,
    method "apply" 2 applyMethod, method "bind" 1 bindMethod, method "call" 1 callMethod,
    method "toString" 0 sourceMethod,
    .content (Key.ofString "arguments") ⟨.value .null false, false, true⟩,
    .content (Key.ofString "caller") ⟨.value .null false, false, true⟩,
    .method .hasInstance "[Symbol.hasInstance]".toList 1 fun c => do
      return .truth (← isMadeBy chain (c.given 0) c.this)]

def functionPlans : List Plan :=
  [{ family := .function, call := some fun _ => return .undefined
     maker := some (1, makingFunction "function") },
    { family := .generatorFunction, parent := some Family.function.prototype
      maker := some (1, makingFunction "function*"), makerParent := Family.function.maker },
    { family := .asyncFunction, parent := some Family.function.prototype
      maker := some (1, makingFunction "async function"), makerParent := Family.function.maker },
    { family := .asyncGeneratorFunction, parent := some Family.function.prototype
      maker := some (1, makingFunction "async function*"), makerParent := Family.function.maker }]

def functionParts : List Part :=
  [⟨Family.function.prototype, functionPrototypeEntries⟩,
    ⟨Family.generatorFunction.prototype, [.content (Key.ofString "prototype")
      ⟨.value (.object Family.generator.prototype) false, false, true⟩, tag "GeneratorFunction"]⟩,
    ⟨Family.asyncGeneratorFunction.prototype, [.content (Key.ofString "prototype")
      ⟨.value (.object Family.asyncGenerator.prototype) false, false, true⟩, tag "AsyncGeneratorFunction"]⟩,
    ⟨Family.asyncFunction.prototype, [tag "AsyncFunction"]⟩]

end Recurrence.Script.Library
