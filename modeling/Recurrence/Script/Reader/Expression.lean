import Recurrence.Script.Reader
/-!
# Reading expressions

Readers of nested trees are built level by level: a reader of one level uses those of the level below for what stands
inside.  Operators are read as a row of operands and arranged by the strength with which they bind.
-/
namespace Recurrence.Script

/-- The readers of one level. -/
structure Readers where
  /-- An expression that may stand between commas. -/
  assignment : Reader Expression
  /-- An operand with the operators before and after it. -/
  operand : Reader Expression
  statement : Reader Statement

namespace Readers

open Reader

/-! ## Expressions -/

/-- Reads on after an expression, as long as commas follow. -/
def moreExpressions (below : Readers) : Nat → Expression → Reader Expression
  | 0, e => return e
  | fuel + 1, e => do
    if ← skipMark "," then moreExpressions below fuel (.sequence e (← below.assignment))
    else return e

def expression (below : Readers) : Reader Expression :=
  settled do moreExpressions below (← remaining) (← below.assignment)

/-- Reads an expression between commas that is no target. -/
def value (below : Readers) : Reader Expression := settled below.assignment

/-! ## Targets -/

mutual

/-- Whether values can be given to all that an expression names. -/
def isTarget : Expression → Bool
  | .name _ => true
  | .field _ _ _ => true
  | .index _ _ _ => true
  | .superIndex _ => true
  | .hole => true
  | .enclosed e => e.isPlace
  | .assign none e _ => isTarget e
  | .spread e => isTarget e
  | .list items => areTargets items
  | .record members => areTargetMembers members
  | _ => false

def areTargets : List Expression → Bool
  | [] => true
  | .spread e :: rest => isTarget e && rest.isEmpty
  | e :: rest => isTarget e && areTargets rest

def areTargetMembers : List (Role × Expression × Expression) → Bool
  | [] => true
  | (role, _, e) :: rest =>
    (role = .value || role = .given || (role = .spread && rest.isEmpty)) && isTarget e && areTargetMembers rest

end

/-- Whether a value can be taken apart into an expression. -/
def takesApart : Expression → Bool
  | .list _ => true
  | .record _ => true
  | _ => false

/-- Whether what takes the rest is not the last target. -/
def restIsEarly : Expression → Bool
  | .list items => items.dropLast.any fun
    | .spread _ => true
    | _ => false
  | .record members => members.dropLast.any fun m => m.1 = .spread
  | _ => false

/-- Complains about an expression that values cannot be given to. -/
def badTarget {α : Type} (e : Expression) : Reader α :=
  refuse (if restIsEarly e then "Rest element must be last element" else "Invalid destructuring assignment target")

/-- Reads what a value is given to: a name, or a list or record of targets. -/
def target (below : Readers) : Reader Expression := do
  if (← isMark "[") || (← isMark "\x7b") then
    let e ← asTarget below.operand
    if takesApart e && !isTarget e then badTarget e
    return e
  else return .name (← expectTarget)

def withDefault (below : Readers) (e : Expression) : Reader Expression := do
  if ← skipMark "=" then return .assign none e (← value below) else return e

def parameter (below : Readers) : Reader Expression := do
  if ← skipMark "..." then
    let e ← target below
    if ← isMark "=" then refuse "Rest parameter may not have a default initializer"
    if ← isMark "," then refuse "Rest parameter must be last formal parameter"
    return .spread e
  withDefault below (← target below)

/-- Reads a parameter of an arrow, which could have been an operand as well. -/
def arrowParameter (below : Readers) : Reader Expression := do
  let ws := (← get).rest
  let targetAhead := match ws with
    | ⟨.name n, _, _, _⟩ :: rest => !reserved.contains n && [")", ",", "="].any (startsWithMark · rest)
    | _ => ["...", "[", "\x7b"].any (startsWithMark · ws)
  if targetAhead then parameter below
  else
    let e ← below.assignment
    if (← isMark ",") || (← isMark ")") then badTarget e
    fail

def parameters (below : Readers) : Reader (List Expression) := do
  separated ")" (parameter below) fail (← remaining)

def arrowParameters (below : Readers) : Reader (List Expression) := do
  separated ")" (arrowParameter below) fail (← remaining)

def argument (below : Readers) : Reader Expression := do
  if ← skipMark "..." then return .spread (← value below)
  value below

def arguments (below : Readers) : Reader (List Expression) := do
  separated ")" (argument below) (refuse "missing ) after argument list") (← remaining)

/-! ## Names -/

/-- The first text that stands twice in a list. -/
def firstRepeated : List Text → Option Text
  | [] => none
  | t :: ts => if ts.contains t then some t else firstRepeated ts

/-- Checks that no statement of a list declares a name that another one declares, or one of the given names. -/
def checkNames (taken : List Text) (body : List Statement) : Reader Unit := do
  let names := (Statement.declaredNames body).map (·.2)
  match (firstRepeated names).or (names.find? taken.contains) with
  | some n => refuse ("Identifier '" ++ String.ofList n ++ "' has already been declared")
  | none => return

/-- The names of the functions that a list of statements defines. -/
def definedNames (body : List Statement) : List Text := (Statement.definitions body).map (·.1)

/-- Checks that no name stands twice among parameters; plain functions with plain parameters may have doublets. -/
def checkParameters (manner : Manner) (strict : Bool) (parameters : List Expression) : Reader Unit := do
  if (manner.arrow || manner.method || strict || !Expression.arePlain parameters) &&
      (firstRepeated (Expression.targetNamesOf parameters)).isSome then
    refuse "Duplicate parameter name not allowed in this context"

/-! ## Functions -/

/-- Reads statements up to a closing brace. -/
def statements (below : Readers) : Nat → Reader (List Statement)
  | 0 => fail
  | fuel + 1 => do
    if ← skipMark "\x7d" then return []
    return (← below.statement) :: (← statements below fuel)

/-- Ends a block: its own functions may be known outside, but no functions of inner blocks whose names it declares. -/
def leaveBlock (outer : List Text) (wideBefore : Nat) (body : List Statement) : Reader Unit := do
  checkNames (definedNames body ++ (← get).locals.drop wideBefore) body
  let own := (Statement.declaredNames body).map (·.2) ++ definedNames body
  let strict := (← get).setting.strict
  modify fun p => { p with
    hoisted := outer ++ (p.hoisted.filter fun n => !own.contains n) ++
      if strict then [] else body.filterMap fun
        | .define n _ true => some n
        | _ => none }

/-- Reads the statements of a block, after its opening brace. -/
def block (below : Readers) : Reader (List Statement) := do
  let outer ← get
  modify fun p => { p with hoisted := [] }
  let body ← statements below (← remaining)
  leaveBlock outer.hoisted outer.locals.length body
  return body

/-- Whether words begin with directives, of which one asks for strictness. -/
def asksForStrictness : List Word → Bool
  | ⟨.string t, _, _, _⟩ :: rest =>
    let ended := match rest with
      | [] => true
      | w :: _ => startsWithMark ";" rest || startsWithMark "\x7d" rest ||
        (w.beginsLine && (w.kind matches .string _ || w.kind matches .name _))
    ended && (t = "use strict".toList || match rest with
      | ⟨.mark [';'], _, _, _⟩ :: rest => asksForStrictness rest
      | rest => asksForStrictness rest)
  | _ => false

/-- Makes the code strict, if directives ahead ask for it. -/
def readDirectives : Reader Unit := do
  if asksForStrictness (← get).rest then modify fun p => { p with setting := { p.setting with strict := true } }

/-- Ends the body of a function: the functions in its blocks are known in it, unless their names mean something else. -/
def leaveBody (taken : List Text) (body : List Statement) : Reader Unit := do
  let lexical := (Statement.declaredNames body).map (·.2)
  modify fun p => { p with
    locals := p.locals ++ (p.hoisted.filter fun n => !(lexical ++ taken ++ p.locals).contains n).eraseDups }

/-- Reads the body of a function, after its opening brace. -/
def functionBody (below : Readers) (parameters : List Expression) : Reader (List Statement) := do
  if asksForStrictness (← get).rest && !Expression.arePlain parameters then
    refuse "Illegal 'use strict' directive in function with non-simple parameter list"
  readDirectives
  let body ← statements below (← remaining)
  let names := Expression.targetNamesOf parameters
  checkNames (names ++ (← get).locals ++ definedNames body) body
  leaveBody names body
  return body

/-- Reads the parameters and the body of a function that begins with a given word. -/
def functionRest (below : Readers) (manner : Manner) (name : Option Text) (first : Option Word) :
    Reader Expression := do
  let ((parameters, body), met) ← inside manner do
    expectMark "("
    let parameters ← parameters below
    expectMark "\x7b"
    let body ← functionBody below parameters
    checkParameters manner (← get).setting.strict parameters
    return (parameters, body)
  let manner := { manner with strict := met.strict, asksArguments := met.asksArguments }
  return .function manner name parameters met.locals body (← sourceFrom first)

/-- Reads a function after the word `function`; only an expression may go without a name. -/
def functionAfter (below : Readers) (asynchronous : Bool) (first : Option Word) : Reader Expression := do
  let generator ← skipMark "*"
  let name ← if ← isMark "(" then pure none
    else within (fun s => { s with asynchronous, generator }) (some <$> expectName)
  functionRest below { asynchronous, generator, named := name.isSome } name first

/-- What follows the bracket that closes the first one. -/
def afterClosing : (depth : Nat) → List Word → List Word
  | _, [] => []
  | depth, w :: ws =>
    let opens := ["(", "[", "\x7b"].any (startsWithMark · [w]) || match w.kind with
      | .piece _ _ last => beginsTemplate w && !last
      | _ => false
    let closes := [")", "]", "\x7d"].any (startsWithMark · [w]) || match w.kind with
      | .piece _ _ last => !beginsTemplate w && last
      | _ => false
    if opens then afterClosing (depth + 1) ws
    else if closes then (if depth ≤ 1 then ws else afterClosing (depth - 1) ws)
    else afterClosing depth ws

/-- Whether the parameters of an arrow are ahead. -/
def arrowHead (ws : List Word) : Bool :=
  match ws with
  | ⟨.name n, _, _, _⟩ :: rest => !reserved.contains n && startsWithMark "=>" rest
  | _ => startsWithMark "(" ws && startsWithMark "=>" (afterClosing 0 ws)

/-- Whether an arrow is ahead. -/
def arrowAhead (ws : List Word) : Bool :=
  arrowHead ws || (startsWithName "async" ws && arrowHead ws.tail && !ws.tail.head?.any Word.beginsLine)

def arrow (below : Readers) : Reader Expression := do
  let first ← firstWord
  let asynchronous := !arrowHead (← get).rest
  if asynchronous then advance
  let outer := (← get).setting
  let manner : Manner := { arrow := true, asynchronous }
  let ((parameters, body), met) ← inside manner do
    let inner := (← get).setting
    modify fun p => { p with setting := { inner with generator := outer.generator } }
    let parameters ← do
      if ← skipMark "(" then arrowParameters below else pure [.name (← expectTarget)]
    modify fun p => { p with setting := inner }
    checkParameters manner (← get).setting.strict parameters
    if ← lineAhead then fail
    expectMark "=>"
    if ← skipMark "\x7b" then return (parameters, ← functionBody below parameters)
    return (parameters, [.result (some (← value below))])
  let manner := { manner with strict := met.strict, asksArguments := met.asksArguments }
  return .function manner none parameters met.locals body (← sourceFrom first)

/-! ## Operators -/

/-- The strength with which a binary operator binds; none for other words. -/
def strength? (kind : Word.Kind) : Option (Operator × Nat) :=
  let operator? := match kind with
    | .mark m => Operator.marks.lookup (String.ofList m)
    | .name n => if n = "instanceof".toList then some .instanceOf else if n = "in".toList then some .within else none
    | _ => none
  operator?.map fun o => (o, match o with
    | .fallback => 1
    | .either => 2
    | .both => 3
    | .bitOr => 4
    | .bitXor => 5
    | .bitAnd => 6
    | .alike => 7
    | .unlike => 7
    | .same => 7
    | .different => 7
    | .less => 8
    | .more => 8
    | .atMost => 8
    | .atLeast => 8
    | .instanceOf => 8
    | .within => 8
    | .left => 9
    | .right => 9
    | .rightZeros => 9
    | .plus => 10
    | .minus => 10
    | .power => 12
    | _ => 11)

/-- The operator before an operand that a word is. -/
def sign? (kind : Word.Kind) : Option Sign :=
  match kind with
  | .mark m => Sign.marks.lookup (String.ofList m)
  | .name n => Sign.marks.lookup (String.ofList n)
  | _ => none

/-- Whether an operand begins with an operator. -/
def operatorAhead : Reader Bool := do return ((← ahead).bind sign?).isSome

/-- Whether two operators cannot stand beside each other without parentheses. -/
def clash (seen : Option Operator) (o : Operator) : Bool :=
  match seen with
  | some .fallback => o = .both || o = .either
  | some _ => o = .fallback
  | none => false

/-- Reads binary operators, each with its strength and the operand after it.  `seen` is an operator that depends on the
truth of its first operand. -/
def operations (below : Readers) : Nat → (seen : Option Operator) → (afterOperator : Bool) →
    Reader (List (Operator × Nat × Expression))
  | 0, _, _ => return []
  | fuel + 1, seen, afterOperator => do
    match (← ahead).bind strength? with
    | none => return []
    | some (o, strength) =>
      if o = .power ∧ afterOperator then
        refuse ("Unary operator used immediately before exponentiation expression. " ++
          "Parenthesis must be used to disambiguate operator precedence")
      else if clash seen o then fail
      else
        advance
        let afterOperator ← operatorAhead
        let e ← below.operand
        let seen := if o = .both || o = .either || o = .fallback then some o else seen
        return (o, strength, e) :: (← operations below fuel seen afterOperator)

/-- Closes the operations that wait for a right operand and bind at least as strongly as `least`. -/
def closeOperations (least : Nat) : List (Expression × Operator × Nat) → Expression →
    List (Expression × Operator × Nat) × Expression
  | [], e => ([], e)
  | (left, o, strength) :: waiting, e =>
    if least ≤ strength then closeOperations least waiting (.binary o left e) else ((left, o, strength) :: waiting, e)

/-- The tree of operands with operators between them. -/
def arrange : (waiting : List (Expression × Operator × Nat)) → Expression → List (Operator × Nat × Expression) →
    Expression
  | waiting, e, [] => (closeOperations 0 waiting e).2
  | waiting, e, (o, strength, right) :: rest =>
    let (waiting, e) := closeOperations (if o = .power then strength + 1 else strength) waiting e
    arrange ((e, o, strength) :: waiting) right rest

def binary (below : Readers) : Reader Expression := do
  let afterOperator ← operatorAhead
  let e ← below.operand
  return arrange [] e (← operations below (← remaining) none afterOperator)

def conditional (below : Readers) : Reader Expression := do
  let condition ← binary below
  if ← skipMark "?" then
    let yes ← value below
    expectMark ":"
    return .conditional condition yes (← value below)
  return condition

/-! ## Assignments -/

/-- The operator of an assignment, for the marks of assignments. -/
def assignment? (m : Text) : Option (Option Operator) :=
  if m = ['='] then some none
  else if ["+=", "-=", "*=", "/=", "%=", "**=", "<<=", ">>=", ">>>=", "&=", "^=", "|=", "&&=", "||=",
    "??="].any (·.toList == m) then some (Operator.marks.lookup (String.ofList m.dropLast))
  else none

/-- Whether no expression can begin here. -/
def endsHere : Reader Bool := do
  let ws := (← get).rest
  return ws.isEmpty || ws.head?.any (·.here.head? == some '\x7d') ||
    [")", "]", ",", ";", ":"].any (startsWithMark · ws) || startsWithName "in" ws

/-- Reads a value to hand out, after the word that says so. -/
def yielded (below : Readers) : Reader Expression := do
  if ← lineAhead then return .yield false (.unary .void (.number 0))
  if ← skipMark "*" then return .yield true (← value below)
  if ← endsHere then return .yield false (.unary .void (.number 0))
  return .yield false (← value below)

/-- Checks that strict code does not assign to a name that it keeps. -/
def checkAssigned (e : Expression) : Reader Unit := do
  match e.bare with
  | .name n =>
    if (← get).setting.strict && (n == "eval".toList || n == "arguments".toList) then
      refuse "Unexpected eval or arguments in strict mode"
  | _ => return

/-- Reads an expression that may stand between commas. -/
def assignmentStep (below : Readers) : Reader Expression := do
  let p ← get
  if arrowAhead p.rest then arrow below
  else if p.setting.generator && startsWithName "yield" p.rest then
    advance
    yielded below
  else
    let outer := p.given
    let left ← conditional below
    match ← ahead with
    | some (.mark m) =>
      if m == "=>".toList && !(← lineAhead) then refuse "Malformed arrow function parameter list"
      match assignment? m with
      | none => return left
      | some o =>
        let isChoice := o == some .both || o == some .either || o == some .fallback
        if left.isPlace || (left.isCall && !isChoice) then
          checkAssigned left
          advance
          return .assign o left (← below.assignment)
        else if o.isNone && takesApart left then
          if !isTarget left then badTarget left
          modify fun p => { p with given := outer }
          advance
          return .assign none left (← below.assignment)
        else refuse "Invalid left-hand side in assignment"
    | _ => return left

/-! ## Templates -/

/-- Reads the pieces of a template and what stands between them. -/
def pieces (below : Readers) : Nat → Reader (List (Except Text Text × Text) × List Expression)
  | 0 => fail
  | fuel + 1 => do
    match ← ahead with
    | some (.piece read written true) =>
      advance
      return ([(read, written)], [])
    | some (.piece read written false) =>
      advance
      let e ← expression below
      let (ts, es) ← pieces below fuel
      return ((read, written) :: ts, e :: es)
    | some (.invalid complaint) => refuse (String.ofList complaint)
    | _ => refuse "Missing \x7d in template expression"

/-- Reads a template by itself, in which every escape has to have a meaning. -/
def template (below : Readers) : Reader Expression := do
  let (ts, es) ← pieces below (← remaining)
  let texts ← ts.mapM fun t => match t.1 with
    | .ok t => return t
    | .error complaint => refuse (String.ofList complaint)
  return .template texts es

/-- Reads a template that is handed to a function. -/
def tagged (below : Readers) (tag : Expression) : Reader Expression := do
  let (ts, es) ← pieces below (← remaining)
  return .tagged tag (ts.map fun t => t.1.toOption) (ts.map (·.2)) es

/-! ## Operands -/

/-- The field of an expression: hidden ones are known by names. -/
def fieldOf (e : Expression) (lenient : Bool) : Reader Expression := do return .field e (← fieldName) lenient

def bracketed (below : Readers) : Reader Expression := do
  let key ← expression below
  expectMark "]"
  return key

/-- Takes note of a call that may ask for all names around it. -/
def noteCall (e : Expression) : Reader Unit := do
  match e.bare with
  | .name n =>
    if n == "eval".toList then modify fun p => { p with asksArguments := true, functions := p.functions + 1 }
  | _ => return

/-- Reads the fields, indices and calls after an operand; says whether one of them was lenient. -/
def suffixes (below : Readers) (calls : Bool) : Nat → (lenient : Bool) → Expression → Reader (Expression × Bool)
  | 0, lenient, e => return (e, lenient)
  | fuel + 1, lenient, e => do
    if ← skipMark "." then suffixes below calls fuel lenient (← fieldOf e false)
    else if ← skipMark "[" then suffixes below calls fuel lenient (.index e (← bracketed below) false)
    else if ← templateAhead then
      if lenient then refuse "Invalid tagged template on optional chain"
      suffixes below calls fuel lenient (← tagged below e)
    else if !calls then
      if ← isMark "?." then refuse "Invalid optional chain from new expression"
      return (e, lenient)
    else if ← skipMark "(" then
      noteCall e
      suffixes below calls fuel lenient (.call e (← arguments below) false)
    else if ← skipMark "?." then
      if ← skipMark "(" then suffixes below calls fuel true (.call e (← arguments below) true)
      else if ← skipMark "[" then suffixes below calls fuel true (.index e (← bracketed below) true)
      else if ← templateAhead then refuse "Invalid tagged template on optional chain"
      else suffixes below calls fuel true (← fieldOf e true)
    else return (e, lenient)

/-- Reads the key of a field. -/
def fieldKey (below : Readers) : Reader Expression := do
  match ← ahead with
  | some (.name n) =>
    advance
    return .string n
  | some (.string t) =>
    advance
    return .string t
  | some (.number x) =>
    advance
    return .number x
  | some (.bigNumber n) =>
    advance
    return .string (Text.digits n)
  | _ =>
    expectMark "["
    let e ← value below
    expectMark "]"
    return .enclosed e

/-- Takes a name that stands before the name of a field. -/
def skipModifier (n : String) : Reader Bool := do
  let ws := (← get).rest.tail
  if (← isName n) && !ws.isEmpty && !(["(", ",", ":", "=", ";", "\x7d"].any (startsWithMark · ws)) then
    advance
    return true
  return false

/-- Takes a name that stands on one line with the name of a field. -/
def skipCloseModifier (n : String) : Reader Bool := do
  if (← get).rest.tail.head?.any Word.beginsLine then return false
  skipModifier n

/-- Reads a function that tells or takes the content of a field. -/
def accessor (below : Readers) (role : Role) (first : Option Word) : Reader (Role × Expression × Expression) := do
  let hidden := (← get).rest.head?.any fun w => w.here.head? == some '#'
  let key ← fieldKey below
  let key := match key, hidden with
    | .string n, true => .name n
    | key, _ => key
  let f ← functionRest below { method := true } none first
  match f with
  | .function _ _ parameters _ _ _ =>
    if role = .getter && !parameters.isEmpty then refuse "Getter must not have any formal parameters."
    if role = .setter && parameters.length ≠ 1 then refuse "Setter must have exactly one formal parameter."
  | _ => pure ()
  return (role, key, f)

/-- Reads a field of a record. -/
def recordField (below : Readers) : Reader (Role × Expression × Expression) := do
  if ← skipMark "..." then return (.spread, .hole, ← below.assignment)
  let first ← firstWord
  if ← skipModifier "get" then return ← accessor below .getter first
  if ← skipModifier "set" then return ← accessor below .setter first
  let asynchronous ← skipCloseModifier "async"
  let generator ← skipMark "*"
  let word ← ahead
  let key ← fieldKey below
  if (← isMark "(") || asynchronous || generator then
    return (.method, key, ← functionRest below { method := true, asynchronous, generator } none first)
  let bare := match word with
    | some (.name _) => true
    | some (.string _) => true
    | _ => false
  if ← skipMark ":" then
    let e ← below.assignment
    let role := match key with
      | .string n => if bare && n == "__proto__".toList then Role.ancestor else .value
      | _ => .value
    return (role, key, e)
  match word with
  | some (.name n) =>
    if reserved.contains n || isHidden n then fail
    match objection? (← get).setting n with
    | some message => refuse message
    | none => pure ()
    if n == "arguments".toList then modify fun p => { p with asksArguments := true }
    if ← skipMark "=" then
      let e ← value below
      modify fun p => { p with given := true }
      return (.given, key, .assign none (.name n) e)
    return (.value, key, .name n)
  | _ => fail

/-- Reads a record, after its opening brace. -/
def recordRest (below : Readers) : Reader Expression := do
  let members ← separated "\x7d" (recordField below) fail (← remaining)
  if 1 < (members.filter fun m => m.1 = .ancestor).length && !(← isMark "=") then
    refuse "Duplicate __proto__ fields are not allowed in object literals"
  let members := if ← isMark "=" then members.map fun m => if m.1 = .ancestor then (.value, m.2) else m else members
  return .record members

/-! ## Blueprints -/

/-- Reads a function without parameters that executes statements for a blueprint, or gives a first content. -/
def initialFunction (body : Reader (List Statement)) : Reader Expression := do
  let first ← firstWord
  let (body, met) ← inside { method := true } body
  if met.asksArguments then
    refuse "'arguments' is not allowed in class field initializer or static initialization block"
  return .function { method := true, strict := true } none [] met.locals body (← sourceFrom first)

/-- Reads a member of a blueprint. -/
def member (below : Readers) (derived : Bool) : Reader (Bool × Role × Expression × Expression) := do
  let shared ← skipModifier "static"
  if shared && (← isMark "\x7b") then
    advance
    let body ← initialFunction do
      let body ← statements below (← remaining)
      checkNames ((← get).locals ++ definedNames body) body
      leaveBody [] body
      return body
    return (true, .block, .hole, body)
  let first ← firstWord
  if ← skipModifier "get" then return (shared, ← accessor below .getter first)
  if ← skipModifier "set" then return (shared, ← accessor below .setter first)
  let asynchronous ← skipCloseModifier "async"
  let generator ← skipMark "*"
  let hidden := (← get).rest.head?.any fun w => w.here.head? == some '#'
  let named := (← ahead) matches some (.name _)
  let key ← fieldKey below
  let key := match key, hidden with
    | .string n, true => .name n
    | key, _ => key
  if (← isMark "(") || asynchronous || generator then
    let isMaker := !shared && named && match key with
      | .string n => n == "constructor".toList
      | _ => false
    let f ← within (fun s => { s with inDerived := isMaker && derived })
      (functionRest below { method := true, asynchronous, generator } none first)
    return (shared, .method, key, f)
  if named && (match key with
    | .string n => n == "constructor".toList
    | _ => false) then refuse "Classes may not have a field named 'constructor'"
  if ← skipMark "=" then
    let f ← within (fun s => { s with inDerived := false }) (initialFunction do
      return [.result (some (← value below))])
    endStatement
    return (shared, .initial, key, f)
  endStatement
  return (shared, .initial, key, .hole)

def members (below : Readers) (derived : Bool) : Nat → Reader (List (Bool × Role × Expression × Expression))
  | 0 => fail
  | fuel + 1 => do
    if ← skipMark "\x7d" then return []
    if ← skipMark ";" then members below derived fuel
    else return (← member below derived) :: (← members below derived fuel)

/-- Whether a member is the function that makes new objects. -/
def isMaker : Bool × Role × Expression × Expression → Bool
  | (false, .method, .string n, _) => n == "constructor".toList
  | _ => false

/-- The hidden names that members declare. -/
def hiddenNames (all : List (Bool × Role × Expression × Expression)) : List Text :=
  (all.filterMap fun m => match m.2.2.1 with
    | .name n => some n
    | _ => none)

/-- Checks that a hidden name is declared once; a function that tells and one that takes a content may share one. -/
def checkHidden : List (Bool × Role × Expression × Expression) → Reader Unit
  | [] => return
  | (shared, role, .name n, _) :: rest => do
    let clashes (m : Bool × Role × Expression × Expression) : Bool := match m with
      | (shared', role', .name n', _) => n == n' && !(shared == shared' &&
          ((role = .getter && role' = .setter) || (role = .setter && role' = .getter)))
      | _ => false
    if rest.any clashes then refuse ("Identifier '" ++ String.ofList n ++ "' has already been declared")
    checkHidden rest
  | _ :: rest => checkHidden rest

/-- Reads a blueprint after its first word. -/
def blueprint (below : Readers) (first : Option Word) : Reader Expression := do
  let outer ← get
  modify fun p => { p with
    setting := { p.setting with strict := true, blueprints := p.setting.blueprints + 1 }, hidden := [],
    functions := p.functions + 1 }
  let name ← if (← isMark "\x7b") || (← isName "extends") then pure none else some <$> expectName
  let parent ← if ← skipName "extends" then some <$> below.operand else pure none
  expectMark "\x7b"
  let all ← members below parent.isSome (← remaining)
  if 1 < (all.filter isMaker).length then refuse "A class may only have one constructor"
  for m in all do
    match m with
    | (false, role, .string n, .function manner ..) =>
      if n == "constructor".toList then
        if role = .getter || role = .setter then refuse "Class constructor may not be an accessor"
        if manner.generator then refuse "Class constructor may not be a generator"
        if manner.asynchronous then refuse "Class constructor may not be an async method"
    | _ => pure ()
  checkHidden all
  let declared := hiddenNames all
  let missing := (← get).hidden.reverse.filter fun n => !declared.contains n
  if outer.setting.blueprints = 0 then
    match missing with
    | n :: _ => refuse ("Private field '" ++ String.ofList n ++ "' must be declared in an enclosing class")
    | [] => pure ()
  modify fun p => { p with setting := outer.setting, hidden := missing.reverse ++ outer.hidden }
  return .blueprint name parent ((all.find? isMaker).map (·.2.2.2)) (all.filter (!isMaker ·)) (← sourceFrom first)

/-! ## Operands by themselves -/

/-- Reads an item of a list; a place may be left out. -/
def listItem (below : Readers) : Reader Expression := do
  if ← isMark "," then return .hole
  if ← skipMark "..." then return .spread (← below.assignment)
  below.assignment

/-- Reads what follows the word for the object above: a field of it, or a call. -/
def superRest (below : Readers) : Reader Expression := do
  let s := (← get).setting
  if ← skipMark "(" then
    if !s.inDerived then refuse "'super' keyword unexpected here"
    return .superCall (← arguments below)
  if !s.inMethod then refuse "'super' keyword unexpected here"
  if ← skipMark "." then return .superIndex (.string (← fieldName))
  if ← skipMark "[" then return .superIndex (← bracketed below)
  refuse "'super' keyword unexpected here"

/-- Reads a pattern, which has to be one. -/
def patternOf (source flags : Text) : Reader Expression := do
  match Pattern.ofText source flags with
  | .ok _ => return .pattern source flags
  | .error message =>
    refuse ("Invalid regular expression: /" ++ String.ofList source ++ "/" ++ String.ofList flags ++ ": " ++
      String.ofList message)

/-- Reads a name that stands for a place. -/
def nameOperand : Reader Expression := do
  match ← ahead with
  | some (.name n) =>
    if isHidden n then
      noteHidden n
      advance
      if !(← isName "in") then fail
      return .name n
    let n ← expectName
    if n == "arguments".toList then modify fun p => { p with asksArguments := true }
    return .name n
  | _ => fail

/-- Reads an expression that is no operation. -/
def primary (below : Readers) : Reader Expression := do
  let first ← firstWord
  match ← ahead with
  | some (.number x) =>
    let octal := first.any fun w => match w.here with
      | '0' :: c :: _ => c.isDigit
      | _ => false
    if octal && (← get).setting.strict then refuse "Octal literals are not allowed in strict mode."
    advance
    return .number x
  | some (.bigNumber n) =>
    advance
    return .bigNumber n
  | some (.string t) =>
    if (← get).setting.strict then
      match first.bind fun w => Word.strictObjection? (w.upTo w) with
      | some message => refuse message
      | none => pure ()
    advance
    return .string t
  | some (.pattern source flags) =>
    advance
    patternOf source flags
  | some (.mark m) => match String.ofList m with
    | "(" =>
      advance
      let e ← expression below
      expectMark ")"
      return .enclosed e
    | "[" =>
      advance
      return .list (← separated "]" (listItem below) fail (← remaining))
    | "\x7b" =>
      advance
      recordRest below
    | _ => fail
  | some (.name n) => match String.ofList n with
    | "function" =>
      advance
      functionAfter below false first
    | "class" =>
      advance
      blueprint below first
    | "async" =>
      advance
      if (← isName "function") && !(← lineAhead) then
        advance
        functionAfter below true first
      else return .name n
    | "import" =>
      advance
      if ← isMark "." then refuse "Cannot use 'import.meta' outside a module"
      if !(← isMark "(") then refuse "Cannot use import statement outside a module"
      return .name n
    | "this" =>
      advance
      return .this
    | "super" =>
      advance
      superRest below
    | "null" =>
      advance
      return .null
    | "true" =>
      advance
      return .truth true
    | "false" =>
      advance
      return .truth false
    | _ => nameOperand
  | _ =>
    if ← templateAhead then template below
    else fail

/-- Reads what follows the word `new`. -/
def construction (below : Readers) : Nat → Reader Expression
  | 0 => fail
  | fuel + 1 => do
    if ← skipMark "." then
      if !(← skipName "target") then fail
      if !(← get).setting.hasTarget then refuse "new.target expression is not allowed here"
      return .newTarget
    let f ← if ← skipName "new" then construction below fuel else primary below
    let (f, _) ← suffixes below false (← remaining) false f
    if ← skipMark "(" then return .construct f (← arguments below)
    return .construct f []

/-- Reads an operand with what follows it. -/
def plainOperand (below : Readers) : Reader Expression := do
  let e ← if ← skipName "new" then construction below (← remaining) else primary below
  let (e, lenient) ← suffixes below true (← remaining) false e
  let e := if lenient then .chain e else e
  if ← lineAhead then return e
  match ← ahead with
  | some (.mark m) =>
    if m == "++".toList || m == "--".toList then
      if e.isPlace || e.isCall then
        checkAssigned e
        advance
        return .step (m == "++".toList) false e
      refuse "Invalid left-hand side expression in postfix operation"
    else return e
  | _ => return e

/-- Reads the operand of an operator before it. -/
def signedOperand (below : Readers) (o : Sign) : Reader Expression := do
  advance
  let e ← below.operand
  if o = .delete && (← get).setting.strict then
    match e.bare with
    | .name _ => refuse "Delete of an unqualified identifier in strict mode."
    | _ => pure ()
  if o = .delete then
    match e.bare with
    | .field _ n _ => if isHidden n then refuse ("Private fields can not be deleted")
    | _ => pure ()
  return .unary o e

/-- Reads an operand with the operators before and after it. -/
def operandStep (below : Readers) : Reader Expression := do
  match ← ahead with
  | some kind => match sign? kind, kind with
    | some o, _ => signedOperand below o
    | none, .mark m =>
      if m == "++".toList || m == "--".toList then
        advance
        let e ← below.operand
        if e.isPlace || e.isCall then
          checkAssigned e
          return .step (m == "++".toList) true e
        refuse "Invalid left-hand side expression in prefix operation"
      else plainOperand below
    | none, .name n =>
      if n == "await".toList && (← get).setting.asynchronous then
        advance
        return .await (← below.operand)
      else plainOperand below
    | none, _ => plainOperand below
  | none => plainOperand below

end Readers
end Recurrence.Script
