import Recurrence.Script.Interpreter.Expression
/-!
# Statements of a script

What targets and statements mean, on one level.  Loops do not go down: they repeat on one level.
-/
namespace Recurrence.Script.Interpreter

open Run

/-! ## Targets -/

/-- Gives a part of a value to a target; a part that is nothing has no fields. -/
def settlePart (below : Interpreter) (scope : Scope) (declares : Bool) (target : Expression) (v : Value) :
    Run Unit := do
  match target with
  | .record ((.spread, _, _) :: _) => below.settle scope declares target v
  | .record ((_, .string n, _) :: _) =>
    if v.isNothing then
      let _ ← field v (.ofText n)
    below.settle scope declares target v
  | _ => below.settle scope declares target v

/-- Gives a value to a target of a statement, which a complaint shows under a name of its own. -/
def settleShown (below : Interpreter) (scope : Scope) (declares : Bool) (shown : String) (target : Expression)
    (v : Value) : Run Unit := do
  match target with
  | .record members => if declares && v.isNothing then refuseApart members shown.toList v
  | _ => pure ()
  below.settle scope declares target v

/-- Gives the items of a walk to targets; says whether the walk is over. -/
def settleItems (below : Interpreter) (scope : Scope) (declares : Bool) (w : Walker) :
    (ended : Bool) → List Expression → Run Bool
  | ended, [] => return ended
  | ended, .hole :: ts => do
    let ended ← if ended then pure true else do pure (← w.step).isNone
    settleItems below scope declares w ended ts
  | ended, .spread t :: _ => do
    let items ← if ended then pure #[] else rest w
    below.settle scope declares t (← list items.toList)
    return true
  | ended, t :: ts => do
    let item ← if ended then pure none else w.step
    let settling := settlePart below scope declares t (item.getD .undefined)
    if item.isNone then settling else w.guarding settling
    settleItems below scope declares w item.isNone ts

/-- Gives fields to targets; `taken` are those that have one already. -/
def settleFields (below : Interpreter) (scope : Scope) (declares : Bool) (v : Value) :
    List (Role × Expression × Expression) → (taken : List Key) → Run Unit
  | [], _ => return
  | (.spread, _, t) :: _, taken => do
    let a ← allocated ⟨.plain, some Family.object.prototype, #[], true⟩
    copyFields a v taken
    below.settle scope declares t (.object a)
  | (_, key, t) :: rest, taken => do
    let k ← evaluateKey below scope key
    settlePart below scope declares t (← field v k)
    settleFields below scope declares v rest (k :: taken)

def settleStep (below : Interpreter) (scope : Scope) (declares : Bool) (target : Expression) (v : Value) :
    Run Unit := do
  match target with
  | .name n => if declares then initializeName scope n v else setName scope n v
  | .assign _ t e =>
    match v with
    | .undefined => below.settle scope declares t (← placedValue below scope t e)
    | v => below.settle scope declares t v
  | .list ts =>
    let w ← walkOver none v
    if !(← settleItems below scope declares w false ts) then w.close
  | .record members =>
    if v.isNothing then refuseApart members (← describedBlindly v) v
    settleFields below scope declares v members []
  | t =>
    setPlace scope.strict (← placeOf below scope t) v

/-! ## Loops -/

/-- The labels of a statement, and what they stand before. -/
def unlabelled : Statement → List Text × Statement
  | .labelled label s =>
    let (labels, s) := unlabelled s
    (label :: labels, s)
  | s => ([], s)

/-- What a round of a loop means for the loop: it goes on, or comes to something. -/
def afterRound (labels : List Text) (v : Option Value) : Completion → Option Value ⊕ Completion
  | .ended w => .inl (w.or v)
  | .again none w => .inl (w.or v)
  | .again (some label) w => if labels.contains label then .inl (w.or v) else .inr (.again (some label) (w.or v))
  | .left none w => .inr (.ended (w.or v))
  | .left label w => .inr (.left label (w.or v))
  | .gave v => .inr (.gave v)

/-- A scope whose names have places of their own, with the contents they have. -/
def renewed (scope : Scope) : Run Scope := do
  let e ← newEnvironment (← environmentAt scope.environment)
  return { scope with environment := e }

def executeLoop (below : Interpreter) (labels : List Text) (scope : Scope) (start : Option Statement)
    (condition step : Option Expression) (renews : Bool) (body : Statement) : Run Completion := do
  let names := Statement.declaredNames start.toList
  let own := names.any fun n => n.1 = .changeable
  let scope ← withDeclared scope start.toList
  match start with
  | some s =>
    let _ ← below.execute scope s
  | none => pure ()
  let scope ← if own && renews then renewed scope else pure scope
  let round (x : Scope × Option Value) : Run ((Scope × Option Value) ⊕ Completion) := do
    let (scope, v) := x
    let goesOn ← match condition with
      | some e => do pure (← below.evaluate scope e).isTrue
      | none => pure true
    if !goesOn then return .inr (.ended v)
    match afterRound labels v (← below.execute scope body) with
    | .inr c => return .inr c
    | .inl v =>
      let scope ← if own && renews then renewed scope else pure scope
      match step with
      | some e =>
        let _ ← below.evaluate scope e
      | none => pure ()
      return .inl (scope, v)
  repeated round (.ended none) manyRounds (scope, some .undefined)

def executeLoopAfter (below : Interpreter) (labels : List Text) (scope : Scope) (body : Statement)
    (condition : Expression) : Run Completion :=
  let round (v : Option Value) : Run (Option Value ⊕ Completion) := do
    match afterRound labels v (← below.execute scope body) with
    | .inr c => return .inr c
    | .inl v => if (← below.evaluate scope condition).isTrue then return .inl v else return .inr (.ended v)
  repeated round (.ended none) manyRounds (some .undefined)

/-- The names of the fields of an object and of what it builds on that lists show. -/
def namesThrough : (fuel address : Nat) → Run (List Key)
  | 0, _ => return []
  | fuel + 1, address => do
    let own := (← ownKeys address).filter isName
    let shown ← own.filterM fun k => do return (← own? address k).any (·.listed)
    match ← parentOf address with
    | .object parent =>
      let more ← namesThrough fuel parent
      return if more.isEmpty then shown else shown ++ more.filter fun k => !own.contains k
    | _ => return shown

/-- A scope with fresh places for the names of a target. -/
def withTargets (scope : Scope) (binding : Option Binding) (target : Expression) : Run Scope := do
  match binding with
  | some .wide => return scope
  | none => return scope
  | some binding => match target.targetNames with
    | [] => return scope
    | names =>
      let e ← newEnvironment {
        cells := (names.map fun n => emptyCell binding n).toArray, outer := some scope.environment }
      return { scope with environment := e }

/-- One round of a loop over what a value holds. -/
def executeRound (below : Interpreter) (labels : List Text) (scope : Scope) (binding : Option Binding)
    (target : Expression) (body : Statement) (v : Option Value) (item : Value) :
    Run (Option Value ⊕ Completion) := do
  let scope ← withTargets scope binding target
  settleShown below scope (binding.any (· != .wide)) ".for" target item
  return afterRound labels v (← below.execute scope body)

def executeKeys (below : Interpreter) (labels : List Text) (scope : Scope) (binding : Option Binding)
    (target : Expression) (subject : Value) (body : Statement) : Run Completion := do
  if subject.isNothing then return .ended (some .undefined)
  let a ← objectOf subject
  let round (x : List Key × Option Value) : Run ((List Key × Option Value) ⊕ Completion) := do
    match x with
    | ([], v) => return .inr (.ended v)
    | (k :: rest, v) =>
      if !(← hasField a k) then return .inl (rest, v)
      match ← executeRound below labels scope binding target body v k.value with
      | .inr c => return .inr c
      | .inl v => return .inl (rest, v)
  repeated round (.ended none) manyRounds (← namesThrough chain a, some .undefined)

def executeItems (below : Interpreter) (labels : List Text) (scope : Scope) (binding : Option Binding)
    (target : Expression) (w : Walker) (wait : Bool → Value → Run Value) (body : Statement) : Run Completion := do
  let closed (c : Completion) : Run Completion := do
    match ← method? w.walk (Key.ofString "return") with
    | some f =>
      let r ← wait true (← call f w.walk [])
      if !r.isObject then typeFail ((← noted r) ++ " is not an object")
    | none => pure ()
    return c
  let round (v : Option Value) : Run (Option Value ⊕ Completion) := do
    match ← Walker.outcome? (← wait true (← call w.next w.walk [])) with
    | none => return .inr (.ended v)
    | some item =>
      let item ← w.guarding (wait false item)
      match ← (executeRound below labels scope binding target body v item).outcome with
      | .ok (.inl v) => return .inl v
      | .ok (.inr c) => return .inr (← closed c)
      | .error (.finished v) =>
        let _ ← closed (.ended none)
        halt (.finished v)
      | .error h =>
        w.closeQuietly
        halt h
  repeated round (.ended none) manyRounds (some .undefined)

def executeEach (below : Interpreter) (labels : List Text) (scope : Scope) (binding : Option Binding)
    (target : Expression) (course : Course) (subject : Expression) (body : Statement) : Run Completion := do
  let v ← below.evaluate (← withTargets scope binding target) subject
  match course with
  | .keys => executeKeys below labels scope binding target v body
  | .items =>
    let w ← walkOver (some (noItems subject)) v
    executeItems below labels scope binding target w (fun _ v => return v) body
  | .awaited =>
    let (w, own) ← waitingWalk (some (noItems subject)) v
    executeItems below labels scope binding target w
      (fun isStep v => if isStep == own then awaited scope.routine v else return v) body

/-! ## Choices and attempts -/

/-- The statements from the first case that a value is, or else from the default, on. -/
def chosen (below : Interpreter) (scope : Scope) (v : Value) (all : List (Option Expression × List Statement)) :
    List (Option Expression × List Statement) → Run (List Statement)
  | [] => return (all.dropWhile fun c => c.1.isSome).flatMap (·.2)
  | (none, _) :: rest => chosen below scope v all rest
  | (some e, body) :: rest => do
    if v.same (← below.evaluate scope e) then return body ++ rest.flatMap (·.2)
    chosen below scope v all rest

def executeChoice (below : Interpreter) (scope : Scope) (subject : Expression)
    (cases : List (Option Expression × List Statement)) : Run Completion := do
  let v ← below.evaluate scope subject
  let scope ← enterBlock scope (cases.flatMap (·.2))
  match ← executeAll below scope (some .undefined) (← chosen below scope v cases cases) with
  | .left none v => return .ended v
  | other => return other

/-- Handles what an attempt threw. -/
def executeHandler (below : Interpreter) (scope : Scope) (target : Option Expression) (handler : List Statement)
    (v : Value) : Run Completion := do
  match target with
  | none => executeBlock below scope handler
  | some target =>
    let scope ← withTargets scope (some .changeable) target
    settleShown below scope true ".catch" target v
    executeBlock below scope handler

def executeAttempt (below : Interpreter) (scope : Scope) (body : List Statement)
    (caught : Option (Option Expression × List Statement)) (atLast : Option (List Statement)) : Run Completion := do
  let handled : Run Completion := match caught with
    | none => executeBlock below scope body
    | some (target, handler) =>
      catching (executeBlock below scope body) (executeHandler below scope target handler)
  let result ← match atLast with
    | none => handled
    | some last => afterwards handled do
      match ← executeBlock below scope last with
      | .ended _ => return none
      | other => return some other
  return result.withValue (some .undefined)

/-! ## Statements -/

def executeDeclare (below : Interpreter) (scope : Scope) (binding : Binding) :
    List (Expression × Option Expression) → Run Unit
  | [] => return
  | (target, some e) :: rest => do
    let v ← placedValue below scope target e
    checkApart target e v
    below.settle scope (binding != .wide) target v
    executeDeclare below scope binding rest
  | (target, none) :: rest => do
    if binding = .changeable then below.settle scope true target .undefined
    executeDeclare below scope binding rest

/-- Lets the function around know a function that a block defines, unless a name between means something else. -/
def exportDefinition (scope : Scope) (n : Text) : Run Unit := do
  match ← spotOf scope n with
  | .cell own index =>
    if (← environmentAt own).wide then return
    match (← environmentAt own).outer with
    | some outer =>
      if ← hiddenBefore n chain outer then return
      let v ← cellValue own index n
      let wide ← wideFrom chain outer
      match (← environmentAt wide).object with
      | some a => setField false (.object a) (.text n) v
      | none => setCell wide n v
    | none => return
  | _ => return

/-- Executes a statement that sees the fields of a value as names. -/
def executeWithin (below : Interpreter) (scope : Scope) (subject : Expression) (s : Statement) : Run Completion := do
  let a ← objectOf (← below.evaluate scope subject)
  let e ← newEnvironment { outer := some scope.environment, object := some a }
  return (← below.execute { scope with environment := e } s).withValue (some .undefined)

def executeStep (below : Interpreter) (scope : Scope) (s : Statement) : Run Completion := do
  let (labels, s) := unlabelled s
  let completion ← match s with
    | .empty => pure (.ended none)
    | .expression e => do pure (.ended (some (← below.evaluate scope e)))
    | .declare binding parts => do
      executeDeclare below scope binding parts
      pure (.ended none)
    | .define n _ outward => do
      if outward then exportDefinition scope n
      pure (.ended none)
    | .result none => pure (.gave .undefined)
    | .result (some e) => do
      let v ← below.evaluate scope e
      if (← kindAt scope.routine) matches .asyncRoutine _ _ then pure (.gave (← awaited scope.routine v))
      else pure (.gave v)
    | .throw e => do raise (← below.evaluate scope e)
    | .branch condition yes no => do
      if (← below.evaluate scope condition).isTrue then
        pure ((← below.execute scope yes).withValue (some .undefined))
      else match no with
        | some s => pure ((← below.execute scope s).withValue (some .undefined))
        | none => pure (.ended (some .undefined))
    | .block body => executeBlock below scope body
    | .loop start condition step renews body =>
      executeLoop below labels scope start condition step renews body
    | .loopAfter body condition => executeLoopAfter below labels scope body condition
    | .each binding target course subject body =>
      executeEach below labels scope binding target course subject body
    | .choice subject cases => executeChoice below scope subject cases
    | .attempt body caught atLast => executeAttempt below scope body caught atLast
    | .leave label => pure (.left label none)
    | .again label => pure (.again label none)
    | .within subject s => executeWithin below scope subject s
    | .labelled .. => pure (.ended none)
  match completion with
  | .left (some label) v => return if labels.contains label then .ended v else completion
  | _ => return completion

/-! ## Levels -/

/-- The interpreter of the level above another. -/
def levelAbove (below : Interpreter) : Interpreter :=
  ⟨evaluateStep below, linkStep below, executeStep below, settleStep below⟩

/-- The interpreter of the level with a number; on the lowest level everything is nested too deeply. -/
def level : Nat → Interpreter
  | 0 => ⟨fun _ _ => tooDeep, fun _ _ => tooDeep, fun _ _ => tooDeep, fun _ _ _ _ => tooDeep⟩
  | n + 1 => levelAbove (level n)

/-- How deep the code of one function may nest. -/
def depth : Nat := 3000

/-- **What the parts of a script mean.** -/
def whole : Interpreter := level depth

end Recurrence.Script.Interpreter
