import Recurrence.Script.Promise
/-!
# Names

A name is looked for in the environments around it, the innermost first.  It stands for a place there or for a field of
an object whose fields are names.
-/
namespace Recurrence.Script

/-- Where a name was found. -/
inductive Spot where
  | cell (environment index : Nat)
  /-- A field of an object, which functions found there work on, if it was given for that. -/
  | object (address : Nat) (given : Bool)
  | nowhere

namespace Run

/-! ## Environments -/

def newEnvironment (e : Environment) : Run Nat := fun s =>
  let n := s.environments.size
  .gave n { s with environments := s.environments.push e }

def environmentAt (address : Nat) : Run Environment := fun s => .gave (s.environments.getD address {}) s

def updateEnvironment (address : Nat) (change : Environment → Environment) : Run Unit := changing fun s =>
  { s with environments := s.environments.modify address change }

/-- Whether the fields of an object can be seen under a name; some keep names to themselves. -/
def isSeenIn (address : Nat) (n : Text) (given : Bool) : Run Bool := do
  if !(← hasField address (.text n)) then return false
  if !given then return true
  match ← field (.object address) .unscopables with
  | .object a => return !(← fieldFrom chain a (.text n) (.object a)).isTrue
  | _ => return true

/-- Where a name is found from an environment on. -/
def spotFrom (n : Text) : (fuel environment : Nat) → Run Spot
  | 0, _ => return .nowhere
  | fuel + 1, environment => fun s =>
    let e := s.environments.getD environment {}
    match e.cells.findIdx? fun c => c.name == n, e.object, e.outer with
    | some i, _, _ => .gave (.cell environment i) s
    | none, none, some outer => spotFrom n fuel outer s
    | none, none, none => .gave .nowhere s
    | none, some a, outer => (do
      if ← isSeenIn a n (!e.wide) then return Spot.object a (!e.wide)
      match outer with
      | some outer => spotFrom n fuel outer
      | none => return .nowhere) s

def spotOf (scope : Scope) (n : Text) : Run Spot := spotFrom n chain scope.environment

/-! ## Contents -/

def notReached {α : Type} (n : Text) : Run α :=
  fail .referenceFault ("Cannot access '" ++ String.ofList n ++ "' before initialization")

def notDefined {α : Type} (n : Text) : Run α := fail .referenceFault (String.ofList n ++ " is not defined")

/-- What stands in a place behind a name. -/
def cellValue (environment index : Nat) (n : Text) : Run Value := fun s =>
  match ((s.environments.getD environment {}).cells[index]?).bind (·.content) with
  | some v => .gave v s
  | none => notReached n s

/-- What a name stands for where it was found. -/
def spotValue (n : Text) : Spot → Run Value
  | .cell environment index => cellValue environment index n
  | .object a _ => fieldFrom chain a (.text n) (.object a)
  | .nowhere => notDefined n

def nameValue (scope : Scope) (n : Text) : Run Value := do spotValue n (← spotOf scope n)

/-- Gives the place behind a name a first content. -/
def initializeAt (environment index : Nat) (v : Value) : Run Unit := changing fun s =>
  { s with environments := s.environments.modify environment fun e =>
      { e with cells := e.cells.modify index fun c => { c with content := some v } } }

/-- Gives a name a first content in the innermost environment that knows it. -/
def initializeName (scope : Scope) (n : Text) (v : Value) : Run Unit := do
  match ← spotOf scope n with
  | .cell environment index => initializeAt environment index v
  | _ => return

/-- Gives a name another content where it was found; a name that is not known becomes a global one, unless the code is
strict. -/
def setSpot (strict : Bool) (n : Text) (v : Value) : Spot → Run Unit
  | .cell environment index => fun s =>
    match (s.environments.getD environment {}).cells[index]? with
    | some ⟨_, some _, .changeable⟩ => initializeAt environment index v s
    | some ⟨_, some _, .constant⟩ => typeFail "Assignment to constant variable." s
    | some ⟨_, some _, .quiet⟩ => if strict then typeFail "Assignment to constant variable." s else .gave () s
    | _ => notReached n s
  | .object a _ => do
    if strict && !(← hasField a (.text n)) then notDefined n
    setField strict (.object a) (.text n) v
  | .nowhere =>
    if strict then notDefined n
    else setField false (.object Landmark.globalObject.address) (.text n) v

def setName (scope : Scope) (n : Text) (v : Value) : Run Unit := do setSpot scope.strict n v (← spotOf scope n)

/-! ## The surroundings of code -/

/-- What is known of the call that code belongs to. -/
def activationOf (scope : Scope) : Run Activation := fun s =>
  .gave (((s.environments.getD scope.activation {}).activation).getD ⟨some .undefined, .undefined, .undefined⟩) s

/-- The object that code works on. -/
def thisValue (scope : Scope) : Run Value := do
  match (← activationOf scope).this with
  | some v => return v
  | none => fail .referenceFault ("Must call super constructor in derived class before accessing 'this' or returning " ++
      "from derived constructor")

/-- The nearest environment for names that a whole function knows. -/
def wideFrom : (fuel environment : Nat) → Run Nat
  | 0, environment => return environment
  | fuel + 1, environment => fun s =>
    let e := s.environments.getD environment {}
    match e.wide, e.outer with
    | false, some outer => wideFrom fuel outer s
    | _, _ => .gave environment s

/-- Whether an environment before the nearest wide one knows a name. -/
def hiddenBefore (n : Text) : (fuel environment : Nat) → Run Bool
  | 0, _ => return false
  | fuel + 1, environment => fun s =>
    let e := s.environments.getD environment {}
    match e.wide, e.outer with
    | false, some outer =>
      if e.object.isNone && e.cells.any (fun c => c.name == n) then .gave true s else hiddenBefore n fuel outer s
    | _, _ => .gave false s

/-- The key that a hidden name stands for. -/
def hiddenKey (scope : Scope) (n : Text) : Run Key := do
  match ← nameValue scope n with
  | .symbol id => return .hidden id
  | _ => notDefined n

end Run
end Recurrence.Script
