import Recurrence.Script.Interpreter.Function
/-!
# Blueprints of a script

A blueprint is a function that makes objects, with the prototype that they build on.  Its code can write hidden names,
which stand for fields that no other code reaches.
-/
namespace Recurrence.Script.Interpreter

open Run

/-! ## Keys and names -/

/-- The key that an expression gives. -/
def evaluateKey (below : Interpreter) (scope : Scope) : Expression → Run Key
  | .string t => return .ofText t
  | .name n => do
    if Reader.isHidden n then return ← hiddenKey scope n
    keyOf (← below.evaluate scope (.name n))
  | e => do keyOf (← below.evaluate scope e)

/-- The name that a function has under a key. -/
def nameUnder (k : Key) : Run Text := fun s =>
  .gave (match k with
    | .symbol id => match s.symbols.getD id none with
      | some t => '[' :: t ++ [']']
      | none => []
    | k => keyTextIn s k) s

/-! ## Members -/

/-- A field with one more function that tells or takes its content. -/
def withAccessor (role : Role) (f : Value) (old : Option Field) (listed : Bool) : Field :=
  let (getter, setter) := match old with
    | some ⟨.accessor g s, _, _⟩ => (g, s)
    | _ => (.undefined, .undefined)
  if role = .getter then ⟨.accessor f setter, listed, true⟩ else ⟨.accessor getter f, listed, true⟩

/-- Puts a function that tells or takes a content into an object. -/
def putAccessor (address : Nat) (role : Role) (k : Key) (f : Value) (listed : Bool) : Run Unit := do
  let old := (← objectAt address).stored? k
  put address k (withAccessor role f old listed)

/-- The word before the name of a function that tells or takes a content. -/
def accessorName (role : Role) (name : Text) : Text :=
  (if role = .getter then "get ".toList else "set ".toList) ++ name

/-- The function of a member, with its name. -/
def memberFunction (scope : Scope) (role : Role) (k : Key) (home : Nat) (e : Expression) : Run Value := do
  let name ← nameUnder k
  functionValue scope (if role = .method then name else accessorName role name) (some home) e

/-- What is to be done for a blueprint at its end: a first content for a field of its own, or statements. -/
inductive Late where
  | content (k : Key) (maker : Option Value)
  | block (f : Value)

/-- Hidden functions among what new objects get, with one more. -/
def withHidden (role : Role) (k : Key) (f : Value) : List Initial → List Initial
  | [] =>
    [.field k (if role = .method then ⟨.value f false, false, false⟩ else withAccessor role f none false)]
  | .field k' old :: rest =>
    if k = k' then .field k (withAccessor role f (some old) false) :: rest
    else .field k' old :: withHidden role k f rest
  | i :: rest => i :: withHidden role k f rest

/-- A function that gives a first content, with the name of the field for a function in it. -/
def initialMaker (scope : Scope) (k : Key) (home : Nat) : Expression → Run (Option Value)
  | .function manner own parameters locals [.result (some e)] source => do
    let name ← nameUnder k
    let e := match e.bare with
      | .function manner none parameters locals body source =>
        .function manner (some name) parameters locals body source
      | _ => e
    some <$> functionValue scope [] (some home) (.function manner own parameters locals [.result (some e)] source)
  | _ => return none

/-- Adds a member to a blueprint or to its prototype; what is left for new objects, and what for the end. -/
def addMember (below : Interpreter) (scope : Scope) (f p : Nat) (initials : List Initial) (late : List Late) :
    Bool × Role × Expression × Expression → Run (List Initial × List Late)
  | (shared, role, key, e) => do
    let home := if shared then f else p
    if role = .block then return (initials, late ++ [.block (← functionValue scope [] (some f) e)])
    let k ← evaluateKey below scope key
    if role = .initial then
      let maker ← initialMaker scope k home e
      if shared then
        if k = .text prototypeName then
          typeFail "Classes may not have a static property named 'prototype'"
        return (initials, late ++ [.content k maker])
      return (initials ++ [.content k maker], late)
    let g ← memberFunction scope role k home e
    match k, shared with
    | .hidden _, false => return (withHidden role k g initials, late)
    | _, _ =>
      if role = .method then
        if shared && k = .text prototypeName then
          typeFail "Classes may not have a static property named 'prototype'"
        put home k (if k matches .hidden _ then ⟨.value g false, false, false⟩ else .unlisted g)
      else putAccessor home role k g false
      return (initials, late)

def addMembers (below : Interpreter) (scope : Scope) (f p : Nat) (initials : List Initial) (late : List Late) :
    List (Bool × Role × Expression × Expression) → Run (List Initial × List Late)
  | [] => return (initials, late)
  | m :: rest => do
    let (initials, late) ← addMember below scope f p initials late m
    addMembers below scope f p initials late rest

/-! ## Blueprints -/

/-- What a blueprint and its prototype build on. -/
def ancestors (below : Interpreter) (scope : Scope) : Option Expression → Run (Option Nat × Nat)
  | none => return (some Family.object.prototype, Family.function.prototype)
  | some e => do
    let v ← below.evaluate scope e
    if v matches .null then return (none, Family.function.prototype)
    match v with
    | .object a =>
      if !(← isMaker v) then
        typeFail ("Class extends value " ++ (← noted v) ++ " is not a constructor or null")
      match ← named v "prototype" with
      | .object p => return (some p, a)
      | .null => return (none, a)
      | q => typeFail ("Class extends value does not have valid prototype property " ++ (← noted q))
    | _ => typeFail ("Class extends value " ++ (← noted v) ++ " is not a constructor or null")

/-- The names that the code of a blueprint sees: its own, and the hidden ones, which are new symbols. -/
def blueprintScope (scope : Scope) (name : Option Text) (members : List (Bool × Role × Expression × Expression)) :
    Run Scope := do
  let hidden ← (Readers.hiddenNames members).eraseDups.mapM fun n => do
    return Cell.mk n (some (.symbol (← newSymbol (some n)))) .constant
  let own : List Cell := (name.map fun n => ⟨n, none, .constant⟩).toList
  let e ← newEnvironment { cells := (own ++ hidden).toArray, outer := some scope.environment }
  return { scope with environment := e, strict := true }

/-- The function that a blueprint has when it does not say one: it leaves all to the one above. -/
def plainMaker (derived : Bool) (source : Text) : Expression :=
  let rest : Expression := .spread (.name "rest".toList)
  .function { method := true, strict := true } none (if derived then [rest] else []) []
    (if derived then [.expression (.superCall [rest])] else []) source

/-- Finishes a blueprint: first contents of its own fields, and statements. -/
def finishBlueprint (f : Nat) : List Late → Run Unit
  | [] => return
  | .content k maker :: rest => do
    giveInitials (.object f) [.content k maker]
    finishBlueprint f rest
  | .block g :: rest => do
    let _ ← call g (.object f) []
    finishBlueprint f rest

/-- A blueprint as a value. -/
def blueprintValue (below : Interpreter) (scope : Scope) (given : Text) (name : Option Text)
    (parent maker : Option Expression) (members : List (Bool × Role × Expression × Expression)) (source : Text) :
    Run Value := do
  let scope ← blueprintScope scope name members
  let (above, parentFunction) ← ancestors below scope parent
  let p ← allocated ⟨.plain, above, #[], true⟩
  let name' := name.getD given
  let (parameters, locals, body, manner) := match maker.getD (plainMaker parent.isSome source) with
    | .function manner _ parameters locals body _ => (parameters, locals, body, manner)
    | _ => ([], [], [], {})
  let f ← makeClosure { manner := { manner with strict := true }, name := name', parameters, locals, body, source,
                        scope, blueprint := true, home := some p
                        making := if parent.isSome then .derived else .alone } parentFunction
  if maker.isNone then put f (.text Object.lengthName) ⟨.value (.number 0) false, false, true⟩
  put f (.text prototypeName) (.fixed (.object p))
  put p (.text "constructor".toList) (.unlisted (.object f))
  let (initials, late) ← addMembers below scope f p [] [] members
  if name.isSome then initializeAt scope.environment 0 (.object f)
  update f fun o => { o with kind := match o.kind with
    | .closure c => .closure { c with initials }
    | k => k }
  finishBlueprint f late
  return .object f

/-- The value of an expression that is declared under a name. -/
def namedValue (below : Interpreter) (scope : Scope) (name : Text) (e : Expression) : Run Value :=
  if e.isNameless then
    match e.bare with
    | .blueprint none parent maker members source =>
      blueprintValue below scope name none parent maker members source
    | f => functionValue scope name none f
  else below.evaluate scope e

end Recurrence.Script.Interpreter
