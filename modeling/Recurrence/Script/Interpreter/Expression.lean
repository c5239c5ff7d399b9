import Recurrence.Script.Interpreter.Blueprint
import Recurrence.Script.Operator
/-!
# Expressions of a script

What expressions mean, on one level.
-/
namespace Recurrence.Script.Interpreter

open Run

/-! ## Hidden fields -/

/-- The content of a hidden field. -/
def hiddenContent (v : Value) (k : Key) : Run Value := do
  let missing {α : Type} : Run α := do
    typeFail ("Cannot read private member " ++ (← keyText k) ++
      " from an object whose class did not declare it")
  match v with
  | .object a => match (← objectAt a).stored? k with
    | some ⟨.value v _, _, _⟩ => return v
    | some ⟨.accessor .undefined _, _, _⟩ =>
      typeFail ("'" ++ (← keyText k) ++ "' was defined without a getter")
    | some ⟨.accessor g _, _, _⟩ => call g v []
    | none => missing
  | .undefined => typeFail ("Cannot read properties of undefined (reading '" ++ (← keyText k) ++ "')")
  | .null => typeFail ("Cannot read properties of null (reading '" ++ (← keyText k) ++ "')")
  | _ => missing

/-- Gives a hidden field a content. -/
def setHidden (v : Value) (k : Key) (content : Value) : Run Unit := do
  let missing {α : Type} : Run α := do
    typeFail ("Cannot write private member " ++ (← keyText k) ++
      " to an object whose class did not declare it")
  match v with
  | .object a => match (← objectAt a).stored? k with
    | some ⟨.value _ true, _, _⟩ => update a fun o => { o with fields := Object.withStored k (.ofValue content) o.fields }
    | some ⟨.value _ false, _, _⟩ => typeFail ("Private method '" ++ (← keyText k) ++ "' is not writable")
    | some ⟨.accessor _ .undefined, _, _⟩ =>
      typeFail ("'" ++ (← keyText k) ++ "' was defined without a setter")
    | some ⟨.accessor _ s, _, _⟩ =>
      let _ ← call s v [content]
    | none => missing
  | _ => missing

/-- The content of a field under a name, which may be hidden. -/
def fieldUnder (scope : Scope) (v : Value) (n : Text) : Run Value := do
  if Reader.isHidden n then hiddenContent v (← hiddenKey scope n) else field v (.text n)

/-! ## Lists -/

/-- How a complaint says that an expression has no items. -/
def noItems (e : Expression) : Text :=
  match e.bare with
  | .call f _ _ => f.shown ++ " is not a function or its return value is not iterable".toList
  | e => e.shown ++ " is not iterable".toList

/-- The items of the value of an expression that is spread among arguments. -/
def spreadItems (e : Expression) (v : Value) : Run (List Value) := do
  collected (if v.isNothing then some (e.shown ++ " is not iterable (cannot read property Symbol(Symbol.iterator))".toList)
    else some "Spread syntax requires ...iterable[Symbol.iterator] to be a function".toList) v

/-- The values of arguments; a spread one stands for its items. -/
def evaluateAll (below : Interpreter) (scope : Scope) : List Expression → Run (List Value)
  | [] => return []
  | .spread e :: es => do
    let items ← spreadItems e (← below.evaluate scope e)
    return items ++ (← evaluateAll below scope es)
  | e :: es => do
    let v ← below.evaluate scope e
    return v :: (← evaluateAll below scope es)

/-- The items of a list, of which some may be missing. -/
def evaluateItems (below : Interpreter) (scope : Scope) : Array (Option Value) → List Expression →
    Run (Array (Option Value))
  | items, [] => return items
  | items, .hole :: es => evaluateItems below scope (items.push none) es
  | items, .spread e :: es => do
    let more ← collected (some (noItems e)) (← below.evaluate scope e)
    evaluateItems below scope (more.foldl (fun all v => all.push (some v)) items) es
  | items, e :: es => do
    let v ← below.evaluate scope e
    evaluateItems below scope (items.push (some v)) es

/-! ## Records -/

/-- Gives an object the fields of a value that lists of fields show, except some. -/
def copyFields (a : Nat) (v : Value) (except : List Key) : Run Unit := do
  if v.isNothing then return
  let source ← objectOf v
  for k in ← ownKeys source do
    if !except.contains k then
      if (← own? source k).any (·.listed) then put a k (.ofValue (← fieldFrom chain source k (.object source)))

/-- Puts members into a record. -/
def addFields (below : Interpreter) (scope : Scope) (a : Nat) : List (Role × Expression × Expression) → Run Unit
  | [] => return
  | (role, key, e) :: rest => do
    match role with
    | .spread => copyFields a (← below.evaluate scope e) []
    | .ancestor => match ← below.evaluate scope e with
      | .object p => update a fun o => { o with parent := some p }
      | .null => update a fun o => { o with parent := none }
      | _ => pure ()
    | .method =>
      let k ← evaluateKey below scope key
      put a k (.ofValue (← memberFunction scope .method k a e))
    | .getter =>
      let k ← evaluateKey below scope key
      putAccessor a .getter k (← memberFunction scope .getter k a e) true
    | .setter =>
      let k ← evaluateKey below scope key
      putAccessor a .setter k (← memberFunction scope .setter k a e) true
    | _ =>
      let k ← evaluateKey below scope key
      let v ← if e.isNameless then namedValue below scope (← nameUnder k) e else below.evaluate scope e
      put a k (.ofValue v)
    addFields below scope a rest

/-! ## Templates -/

/-- The text of a template. -/
def evaluateTemplate (below : Interpreter) (scope : Scope) : Text → List Text → List Expression → Run Text
  | done, t :: ts, e :: es => do
    let u ← textOf (← below.evaluate scope e)
    evaluateTemplate below scope (appended (appended done t) u) ts es
  | done, ts, _ => return appended done ts.flatten

/-- The texts of a template as its function gets them. -/
def templateList (read : List (Option Text)) (written : List Text) : Run Value := do
  let texts ← list (read.map fun t => (t.map Value.string).getD .undefined)
  let raw ← list (written.map .string)
  match texts, raw with
  | .object a, .object b =>
    freeze b
    put a (Key.ofString "raw") (.fixed raw)
    freeze a
  | _, _ => pure ()
  return texts

/-! ## What lies above -/

/-- What fields from above are looked up in. -/
def above (scope : Scope) : Run Value := do
  match (← activationOf scope).function with
  | .object f => match ← kindAt f with
    | .closure c => match c.home with
      | some home => parentOf home
      | none => return .undefined
    | _ => return .undefined
  | _ => return .undefined

def fieldAbove (scope : Scope) (k : Key) : Run (Value × Value) := do
  let this ← thisValue scope
  match ← above scope with
  | .object p => return (this, ← fieldFrom chain p k this)
  | v => return (this, ← field v k)

/-- Calls the function that a blueprint builds on, for the object that is being made. -/
def callAbove (below : Interpreter) (scope : Scope) (arguments : List Expression) : Run Value := do
  let a ← activationOf scope
  match a.function with
  | .object f =>
    let parent ← parentOf f
    let vs ← evaluateAll below scope arguments
    if !(← isMaker parent) then
      let name ← match parent with
        | .object p => reading fun s => functionNameIn s p
        | _ => pure []
      typeFail ("Super constructor " ++ (if name = [] then "null" else String.ofList name) ++ " of anonymous class")
    let this ← ask (.construct parent vs a.target)
    if (← activationOf scope).this.isSome then fail .referenceFault "Super constructor may only be called once"
    updateEnvironment scope.activation fun e =>
      { e with activation := e.activation.map fun a => { a with this := some this } }
    match ← kindAt f with
    | .closure c => giveInitials this (orderedInitials c.initials)
    | _ => pure ()
    return this
  | _ => fail .syntaxFault "'super' keyword unexpected here"

/-! ## Code in texts -/

/-- Makes the names that code knows as a whole known around it. -/
def declareWide (scope : Scope) (names : List Text) (only : Bool) : Run Unit := do
  let wide ← wideFrom chain scope.environment
  for n in names do
    if ← hiddenBefore n chain scope.environment then
      if only then continue
      fail .syntaxFault ("Identifier '" ++ String.ofList n ++ "' has already been declared")
    match (← environmentAt wide).object with
    | some a =>
      if (← own? a (.text n)).isNone then put a (.text n) (.ofValue .undefined)
    | none =>
      if !(← environmentAt wide).cells.any (fun c => c.name == n) then
        updateEnvironment wide fun e => { e with cells := e.cells.push ⟨n, some .undefined, .changeable⟩ }

/-- Executes code with the names of a scope, and gives the value of its last statement. -/
def runCode (below : Interpreter) (scope : Scope) (code : Code) : Run Value := do
  let definitions := Statement.definitions code.body
  let scope := { scope with strict := scope.strict || code.strict }
  let outer ← if scope.strict then do
      let e ← newEnvironment { outer := some scope.environment, wide := true }
      pure { scope with environment := e }
    else pure scope
  declareWide outer (code.locals ++ definitions.map (·.1)) false
  declareWide outer code.hoisted true
  let inner ← withDeclared outer code.body
  for d in definitions do
    let f ← functionValue inner d.1 none d.2
    let wide ← wideFrom chain outer.environment
    match (← environmentAt wide).object with
    | some a => put a (.text d.1) (.ofValue f)
    | none => setCell wide d.1 f
  return ((← executeAll below inner none code.body).value?).getD .undefined

/-- Executes a text where it is called. -/
def evaluateText (below : Interpreter) (scope : Scope) (t : Text) : Run Value := do
  let inside := scope.activation != 0
  let derived ← match (← activationOf scope).function with
    | .object f => match ← kindAt f with
      | .closure c => pure (c.making == .derived)
      | _ => pure false
    | _ => pure false
  let setting : Reading.Setting := {
    strict := scope.strict, inMethod := inside, inDerived := derived, hasTarget := inside
    blueprints := if inside then 1 else 0 }
  match Code.ofText setting t with
  | .error message => fail .syntaxFault (String.ofList message)
  | .ok code => runCode below scope code

/-! ## Links -/

/-- A call of a value with arguments; `shown` is how a complaint shows the function. -/
def callShown (below : Interpreter) (scope : Scope) (this f : Value) (arguments : List Expression)
    (shown : Unit → Text) : Run Value := do
  let vs ← evaluateAll below scope arguments
  if ← isFunction f then call f this vs else notFunction (String.ofList (shown ()))

/-- Whether a call executes a text where it stands. -/
def isEvaluation (f : Expression) (v : Value) : Bool :=
  match f, v with
  | .name n, .object a => a == Landmark.eval.address && n == "eval".toList
  | _, _ => false

/-- A call of what an expression stands for. -/
def evaluateCall (below : Interpreter) (scope : Scope) (f : Expression) (arguments : List Expression)
    (lenient : Bool) : Run (Option Value) := do
  match ← below.link scope f with
  | none => return none
  | some (this, g) =>
    if lenient && g.isNothing then return none
    if isEvaluation f g then
      match ← evaluateAll below scope arguments with
      | .string t :: _ => return some (← evaluateText below scope t)
      | v :: _ => return some v
      | [] => return some .undefined
    return some (← callShown below scope this g arguments fun _ => f.shown)

def linkStep (below : Interpreter) (scope : Scope) (e : Expression) : Run (Option (Value × Value)) := do
  match e with
  | .name n => match ← spotOf scope n with
    | .object a true => return some (.object a, ← spotValue n (.object a true))
    | spot => return some (.undefined, ← spotValue n spot)
  | .field e n lenient => match ← below.link scope e with
    | none => return none
    | some (_, v) =>
      if lenient && v.isNothing then return none
      return some (v, ← fieldUnder scope v n)
  | .index e key lenient => match ← below.link scope e with
    | none => return none
    | some (_, v) =>
      if lenient && v.isNothing then return none
      let k ← below.evaluate scope key
      return some (v, ← field v (← keyOf k))
  | .superIndex key => return some (← fieldAbove scope (← evaluateKey below scope key))
  | .call f arguments lenient =>
    return (← evaluateCall below scope f arguments lenient).map fun v => (.undefined, v)
  | .enclosed e => below.link scope e
  | .chain e => return some ((← below.link scope e).getD (.undefined, .undefined))
  | e => return some (.undefined, ← below.evaluate scope e)

/-! ## Places -/

/-- A place whose content can change. -/
inductive Place where
  | name (n : Text) (spot : Spot)
  | field (v : Value) (k : Key)
  | above (this parent : Value) (k : Key)

/-- The place that an expression stands for; what a call gives is none. -/
def placeOf (below : Interpreter) (scope : Scope) (e : Expression) : Run Place := do
  match e.bare with
  | .name n => return .name n (← spotOf scope n)
  | .field e n _ =>
    let v ← below.evaluate scope e
    if Reader.isHidden n then return .field v (← hiddenKey scope n)
    return .field v (.text n)
  | .index e key _ =>
    let v ← below.evaluate scope e
    let k ← below.evaluate scope key
    return .field v (← keyOf k)
  | .superIndex key =>
    let this ← thisValue scope
    let k ← evaluateKey below scope key
    return .above this (← above scope) k
  | e =>
    let _ ← below.evaluate scope e
    fail .referenceFault "Invalid left-hand side in assignment"

def placeContent : Place → Run Value
  | .name n spot => spotValue n spot
  | .field v (.hidden id) => hiddenContent v (.hidden id)
  | .field v k => field v k
  | .above this (.object p) k => fieldFrom chain p k this
  | .above _ v k => field v k

def setPlace (strict : Bool) (p : Place) (v : Value) : Run Unit := do
  match p with
  | .name n spot => setSpot strict n v spot
  | .field w (.hidden id) => setHidden w (.hidden id) v
  | .field w k => setField strict w k v
  | .above this (.object p) k =>
    if !(← setFrom chain p k v this) && strict then refuseChange this p k
  | .above this _ k => setField strict this k v

/-- Complains that nothing cannot be taken apart into fields; `shown` is how a complaint shows it. -/
def refuseApart {α : Type} (members : List (Role × Expression × Expression)) (shown : Text) (v : Value) : Run α := do
  let rest := String.ofList shown ++ "' as it is " ++ (← noted v) ++ "."
  match members with
  | (.spread, _, _) :: _ => typeFail ("Cannot destructure '" ++ rest)
  | (_, .string n, _) :: _ => typeFail ("Cannot destructure property '" ++ String.ofList n ++ "' of '" ++ rest)
  | _ => typeFail ("Cannot destructure '" ++ rest)

/-- Checks that the value of an expression can be taken apart into targets. -/
def checkApart (target e : Expression) (v : Value) : Run Unit := do
  match target with
  | .list _ =>
    if v.isNothing then typeFail (String.ofList (noItems e))
    if !(← isFunction (← field v .iterator)) then typeFail (String.ofList (noItems e))
  | .record members =>
    if v.isNothing then refuseApart members e.shown v
  | _ => return

/-- Assigns a value to a place or to targets. -/
def evaluateAssign (below : Interpreter) (scope : Scope) (target e : Expression) : Run Value := do
  match target with
  | .name n =>
    let spot ← spotOf scope n
    let v ← namedValue below scope n e
    setSpot scope.strict n v spot
    return v
  | target =>
    if target.isPlace || target.isCall then
      let p ← placeOf below scope target
      let v ← below.evaluate scope e
      setPlace scope.strict p v
      return v
    let v ← below.evaluate scope e
    checkApart target e v
    below.settle scope false target v
    return v

/-- The value of an expression that becomes the content of a place. -/
def placedValue (below : Interpreter) (scope : Scope) (target e : Expression) : Run Value :=
  match target with
  | .name n => namedValue below scope n e
  | _ => below.evaluate scope e

/-- Assigns what an operator makes of the old content. -/
def evaluateChange (below : Interpreter) (scope : Scope) (o : Operator) (target e : Expression) : Run Value := do
  let p ← placeOf below scope target
  let old ← placeContent p
  let assign (v : Value) : Run Value := do
    setPlace scope.strict p v
    return v
  match o with
  | .both => if old.isTrue then assign (← placedValue below scope target e) else return old
  | .either => if old.isTrue then return old else assign (← placedValue below scope target e)
  | .fallback => if old.isNothing then assign (← placedValue below scope target e) else return old
  | o => assign (← operate o old (← below.evaluate scope e))

def evaluateStepping (below : Interpreter) (scope : Scope) (up before : Bool) (target : Expression) : Run Value := do
  let p ← placeOf below scope target
  let (old, new) ← match ← primitive .number (← placeContent p) with
    | .bigNumber n => pure (Value.bigNumber n, Value.bigNumber (if up then n + 1 else n - 1))
    | v => do
      let x ← plainNumber v
      pure (.number x, .number (if up then x + 1 else x - 1))
  setPlace scope.strict p new
  return if before then new else old

/-! ## Operations -/

def evaluateBinary (below : Interpreter) (scope : Scope) (o : Operator) (left right : Expression) : Run Value := do
  match o, left with
  | .within, .name n =>
    if Reader.isHidden n then
      let k ← hiddenKey scope n
      match ← below.evaluate scope right with
      | .object a => return .truth ((← objectAt a).stored? k).isSome
      | v => typeFail ("Cannot use 'in' operator to search for '" ++ String.ofList n ++ "' in " ++ (← noted v))
    else do
      let a ← below.evaluate scope left
      operate o a (← below.evaluate scope right)
  | _, _ =>
    let a ← below.evaluate scope left
    match o with
    | .both => if a.isTrue then below.evaluate scope right else return a
    | .either => if a.isTrue then return a else below.evaluate scope right
    | .fallback => if a.isNothing then below.evaluate scope right else return a
    | o => operate o a (← below.evaluate scope right)

/-- Removes what an expression stands for; says whether it is gone. -/
def evaluateDelete (below : Interpreter) (scope : Scope) (e : Expression) : Run Value := do
  match e.bare with
  | .name n => match ← spotOf scope n with
    | .cell _ _ => return .truth false
    | .object a _ => return .truth (← remove a (.text n))
    | .nowhere => return .truth true
  | .chain e => do
    let inner : Option (Expression × Expression × Bool) := match e with
      | .field e n lenient => some (e, .string n, lenient)
      | .index e key lenient => some (e, key, lenient)
      | _ => none
    match inner with
    | some (e, key, lenient) => match ← below.link scope e with
      | none => return .truth true
      | some (_, v) =>
        if lenient && v.isNothing then return .truth true
        let k ← evaluateKey below scope key
        return .truth (← remove (← objectOf v) k)
    | none =>
      let _ ← below.evaluate scope (.chain e)
      return .truth true
  | .superIndex _ => fail .referenceFault "Unsupported reference to 'super'"
  | e =>
    if !e.isPlace then
      let _ ← below.evaluate scope e
      return .truth true
    match ← placeOf below scope e with
    | .field v k =>
      let a ← objectOf v
      let gone ← remove a k
      if !gone && scope.strict then
        if (← kindAt a) matches .proxy _ _ then
          typeFail ("'deleteProperty' on proxy: trap returned falsish for property '" ++ (← keyText k) ++ "'")
        typeFail ("Cannot delete property '" ++ (← keyText k) ++ "' of " ++ (← noted v))
      return .truth gone
    | _ => return .truth true

def evaluateUnary (below : Interpreter) (scope : Scope) (sign : Sign) (e : Expression) : Run Value := do
  match sign, e.bare with
  | .kind, .name n => match ← spotOf scope n with
    | .nowhere => return .ofString "undefined"
    | spot => operateUnary .kind (← spotValue n spot)
  | .delete, _ => evaluateDelete below scope e
  | sign, _ => operateUnary sign (← below.evaluate scope e)

/-! ## Routines -/

/-- The response to what another walk gave, while a routine hands out all that it gives. -/
inductive Delegated where
  | goesOn (r : Response)
  | ended (v : Value)

/-- Hands a step of another walk on, with what was asked for. -/
def delegateStep (scope : Scope) (waits : Bool) (w : Walker) (r : Response) : Run Delegated := do
  let settle (v : Value) : Run Value := if waits then awaited scope.routine v else return v
  let step (result : Value) : Run Delegated := do
    if !result.isObject then typeFail ("Iterator result " ++ (← noted result) ++ " is not an object")
    if (← named result "done").isTrue then
      let v ← named result "value"
      if r matches .finish _ then halt (.finished v)
      return .ended v
    if waits then
      let v ← named result "value"
      match ← (handedOutLater scope.routine v).outcome with
      | .ok v => return .goesOn (.value v)
      | .error (.thrown v) => return .goesOn (.fault v)
      | .error (.finished v) => return .goesOn (.finish v)
      | .error h => halt h
    setKind scope.routine (.routine .waiting)
    return .goesOn (← askPlainly (.suspend scope.routine result))
  match r with
  | .value v => do step (← settle (← call w.next w.walk [v]))
  | .fault v => match ← method? w.walk (Key.ofString "throw") with
    | some f => do step (← settle (← call f w.walk [v]))
    | none =>
      w.closeQuietly
      typeFail "The iterator does not provide a 'throw' method"
  | .finish v => match ← method? w.walk (Key.ofString "return") with
    | some f => do step (← settle (← call f w.walk [v]))
    | none => halt (.finished v)

/-- The walk over values that are waited for. -/
def waitingWalk (shown : Option Text) (v : Value) : Run (Walker × Bool) := do
  if v.isNothing then return (← walkOver shown v, false)
  match ← method? v .asyncIterator with
  | some f => return (← walkWith f v, true)
  | none => return (← walkOver shown v, false)

/-- Hands out all values of another walk. -/
def evaluateDelegate (scope : Scope) (waits : Bool) (e : Expression) (v : Value) : Run Value := do
  let shown := if v.isNothing then none else some (noItems e)
  let (w, waits') ← if waits then waitingWalk shown v else do pure (← walkOver shown v, false)
  let round (r : Response) : Run (Response ⊕ Value) := do
    match ← delegateStep scope (waits && waits') w r with
    | .goesOn r => return .inl r
    | .ended v => return .inr v
  if waits && !waits' then
    let step (r : Response) : Run (Response ⊕ Value) := do
      match r with
      | .finish v => halt (.finished v)
      | .fault v => raise v
      | .value _ => match ← w.step with
        | none => return .inr .undefined
        | some item => return .inl (.value (← handedOutLater scope.routine (← awaited scope.routine item)))
    repeated step .undefined manyRounds (.value .undefined)
  else repeated round .undefined manyRounds (.value .undefined)

/-- Hands out a value, and gives the response. -/
def evaluateYield (below : Interpreter) (scope : Scope) (all : Bool) (e : Expression) : Run Value := do
  let v ← below.evaluate scope e
  let waits := (← kindAt scope.routine) matches .asyncRoutine _ _
  if all then evaluateDelegate scope waits e v
  else if waits then handedOutLater scope.routine (← awaited scope.routine v)
  else handedOut scope.routine (← stepResult v false)

/-! ## Expressions -/

def evaluateConstruct (below : Interpreter) (scope : Scope) (f : Expression) (arguments : List Expression) :
    Run Value := do
  let v ← below.evaluate scope f
  let vs ← evaluateAll below scope arguments
  if ← isMaker v then construct v vs else typeFail (String.ofList f.shown ++ " is not a constructor")

def evaluateStep (below : Interpreter) (scope : Scope) (e : Expression) : Run Value := do
  match e with
  | .number x => return .number x
  | .bigNumber n => return .bigNumber n
  | .string t => return .string t
  | .null => return .null
  | .truth b => return .truth b
  | .template ts es => return .string (← evaluateTemplate below scope [] ts es)
  | .tagged tag read written es =>
    match ← below.link scope tag with
    | none => return .undefined
    | some (this, f) =>
      let texts ← templateList read written
      let vs ← evaluateAll below scope es
      if ← isFunction f then call f this (texts :: vs) else notFunction (String.ofList tag.shown)
  | .pattern source flags =>
    allocate ⟨.pattern source flags, some Family.pattern.prototype,
      #[(Key.ofString "lastIndex", ⟨.value (.number 0) true, false, false⟩)], true⟩
  | .name n => nameValue scope n
  | .this => thisValue scope
  | .newTarget => return (← activationOf scope).target
  | .list items => listOf (← evaluateItems below scope #[] items)
  | .hole => return .undefined
  | .spread e => below.evaluate scope e
  | .record members =>
    let a ← allocated ⟨.plain, some Family.object.prototype, #[], true⟩
    addFields below scope a members
    return .object a
  | .function .. => functionValue scope [] none e
  | .blueprint name parent maker members source => blueprintValue below scope [] name parent maker members source
  | .unary sign e => evaluateUnary below scope sign e
  | .step up before target => evaluateStepping below scope up before target
  | .binary o left right => evaluateBinary below scope o left right
  | .assign none target value => evaluateAssign below scope target value
  | .assign (some o) target value => evaluateChange below scope o target value
  | .conditional condition yes no =>
    below.evaluate scope (if (← below.evaluate scope condition).isTrue then yes else no)
  | .superCall arguments => callAbove below scope arguments
  | .construct f arguments => evaluateConstruct below scope f arguments
  | .sequence first second =>
    let _ ← below.evaluate scope first
    below.evaluate scope second
  | .yield all e => evaluateYield below scope all e
  | .await e => awaited scope.routine (← below.evaluate scope e)
  | .enclosed e => below.evaluate scope e
  | e => return ((← linkStep below scope e).map (·.2)).getD .undefined

end Recurrence.Script.Interpreter
