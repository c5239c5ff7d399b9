import Recurrence.Script.Reader.Expression
/-!
# Reading statements

Every step down the levels takes a word within a few levels, so four levels for each word of a script are enough to
read it.
-/
namespace Recurrence.Script

namespace Readers

open Reader

/-! ## Declarations -/

def binding? : Option Word.Kind → Option Binding
  | some (.name n) =>
    ([("var", .wide), ("let", .changeable), ("const", .constant)] : List (String × Binding)).lookup (String.ofList n)
  | _ => none

/-- How names are declared ahead, if they are; `let` is a name like others, where no target follows it. -/
def bindingAhead? : Reader (Option Binding) := do
  let ws := (← get).rest
  match binding? (ws.head?.map Word.kind) with
  | some .changeable =>
    let follows := match ws.tail with
      | ⟨.name n, _, _, _⟩ :: _ => n != "in".toList && n != "instanceof".toList
      | rest => startsWithMark "[" rest || startsWithMark "\x7b" rest
    return if follows || (← get).setting.strict then some .changeable else none
  | b => return b

/-- Takes note of names that the function around this place knows as a whole. -/
def note (binding : Binding) (e : Expression) : Reader Unit := do
  if binding = .wide then modify fun p => { p with locals := p.locals ++ e.targetNames }
  else if e.targetNames.contains "let".toList then refuse "let is disallowed as a lexically bound name"

/-- Reads the first value of a declared target. -/
def declared (below : Readers) (binding : Binding) (e : Expression) : Reader (Expression × Option Expression) := do
  note binding e
  if ← skipMark "=" then return (e, some (← value below))
  else if takesApart e then refuse "Missing initializer in destructuring declaration"
  else if binding = .constant then refuse "Missing initializer in const declaration"
  else return (e, none)

/-- Reads further declared targets, as long as commas follow. -/
def moreDeclared (below : Readers) (binding : Binding) : Nat → Reader (List (Expression × Option Expression))
  | 0 => return []
  | fuel + 1 => do
    if ← skipMark "," then
      let part ← declared below binding (← target below)
      return part :: (← moreDeclared below binding fuel)
    return []

def parenthesized (below : Readers) : Reader Expression := do
  expectMark "("
  let e ← expression below
  expectMark ")"
  return e

/-! ## Inner statements -/

/-- Reads a statement that depends on another; what it declares would be known nowhere. -/
def innerStatement (below : Readers) : Reader Statement := do
  let ws := (← get).rest
  let outer := (← get).hoisted
  let wideBefore := (← get).locals.length
  if startsWithName "class" ws then fail
  if startsWithName "const" ws ||
      (startsWithName "let" ws && (ws.tail.head?.any fun w => w.kind matches .mark ['[']) ) then
    refuse "Lexical declaration cannot appear in a single-statement context"
  match ← below.statement with
  | .define n f outward =>
    if (← get).setting.strict then
      refuse ("In strict mode code, functions can only be declared at top level or inside a block.")
    leaveBlock outer wideBefore [.define n f outward]
    return .block [.define n f outward]
  | .declare .changeable _ => refuse "Lexical declaration cannot appear in a single-statement context"
  | s => return s

def loopBody (below : Readers) : Reader Statement :=
  within (fun s => { s with inLoop := true }) do
    match ← innerStatement below with
    | .block [.define n f outward] => return .block [.define n f outward]
    | s => return s

/-! ## Loops -/

/-- Reads an expression that may be left out before a mark. -/
def unlessMark (below : Readers) (m : String) : Reader (Option Expression) := do
  if ← skipMark m then return none
  let e ← expression below
  expectMark m
  return some e

/-- Reads the rest of a loop after its start; `before` functions were read before the loop. -/
def countingLoop (below : Readers) (before : Nat) (start : Option Statement) : Reader Statement := do
  expectMark ";"
  let condition ← unlessMark below ";"
  let step ← unlessMark below ")"
  let body ← loopBody below
  return .loop start condition step (before < (← get).functions) body

/-- Reads the rest of a loop over keys or items, if it is one. -/
def eachLoop? (below : Readers) (waits : Bool) (binding : Option Binding) (e : Expression) :
    Reader (Option Statement) := do
  let keys ← isName "in"
  if keys && waits then fail
  if !keys && !(← isName "of") then return none
  advance
  let subject ← if keys then expression below else value below
  expectMark ")"
  let course : Course := if keys then .keys else if waits then .awaited else .items
  return some (.each binding e course subject (← loopBody below))

def forLoop (below : Readers) : Reader Statement := do
  let before := (← get).functions
  let waits ← skipName "await"
  if waits && !(← get).setting.asynchronous then refuse "Unexpected reserved word"
  expectMark "("
  if ← isMark ";" then countingLoop below before none
  else match ← bindingAhead? with
    | some binding =>
      advance
      let e ← target below
      match ← eachLoop? below waits (some binding) e with
      | some s =>
        note binding e
        return s
      | none =>
        let part ← declared below binding e
        let parts ← moreDeclared below binding (← remaining)
        let course := if ← isName "of" then "for-of" else "for-in"
        if (← isName "of") || (← isName "in") then
          if parts.isEmpty then refuse (course ++ " loop variable declaration may not have an initializer.")
          refuse ("Invalid left-hand side in " ++ course ++ " loop: Must have a single binding.")
        countingLoop below before (some (.declare binding (part :: parts)))
    | none =>
      let start ← get
      let e ← asTarget below.operand
      match ← eachLoop? below waits none e with
      | some s => if e.isPlace || (takesApart e && isTarget e) then return s else refuse "Invalid left-hand side in for-loop"
      | none =>
        set start
        countingLoop below before (some (.expression (← expression below)))

/-! ## Choices and attempts -/

/-- Reads statements up to the next case or the end. -/
def caseBody (below : Readers) : Nat → Reader (List Statement)
  | 0 => fail
  | fuel + 1 => do
    if (← isName "case") || (← isName "default") || (← isMark "\x7d") then return []
    return (← below.statement) :: (← caseBody below fuel)

def cases (below : Readers) : Nat → Reader (List (Option Expression × List Statement))
  | 0 => fail
  | fuel + 1 => do
    if ← skipMark "\x7d" then return []
    let test ← if ← skipName "case" then some <$> expression below
      else if ← skipName "default" then pure none
      else fail
    expectMark ":"
    let body ← caseBody below (← remaining)
    return (test, body) :: (← cases below fuel)

def choice (below : Readers) : Reader Statement := do
  let subject ← parenthesized below
  expectMark "\x7b"
  let outer ← get
  modify fun p => { p with hoisted := [] }
  let all ← within (fun s => { s with inChoice := true }) (do cases below (← remaining))
  if 1 < (all.filter fun c => c.1.isNone).length then
    refuse "More than one default clause in switch statement"
  leaveBlock outer.hoisted outer.locals.length (all.flatMap (·.2))
  return .choice subject all

def bracedBlock (below : Readers) : Reader (List Statement) := do
  expectMark "\x7b"
  block below

def attempt (below : Readers) : Reader Statement := do
  let body ← bracedBlock below
  let caught ← if ← skipName "catch" then do
      let named ← skipMark "("
      let e ← if named then some <$> target below else pure none
      if named then expectMark ")"
      let handler ← bracedBlock below
      match e with
      | some e => checkNames e.targetNames handler
      | none => pure ()
      pure (some (e, handler))
    else pure none
  let atLast ← if ← skipName "finally" then some <$> bracedBlock below else pure none
  if caught.isNone && atLast.isNone then refuse "Missing catch or finally after try"
  return .attempt body caught atLast

/-! ## Leaving -/

/-- Reads a label on the same line, if there is one. -/
def label? : Reader (Option Text) := do
  if ← lineAhead then return none
  match ← ahead with
  | some (.name n) =>
    if reserved.contains n then return none
    advance
    if (← get).setting.labels.contains n then return some n
    refuse ("Undefined label '" ++ String.ofList n ++ "'")
  | _ => return none

def leave : Reader Statement := do
  let label ← label?
  let s := (← get).setting
  if label.isNone && !s.inLoop && !s.inChoice then refuse "Illegal break statement"
  endStatement
  return .leave label

def again : Reader Statement := do
  let label ← label?
  let s := (← get).setting
  match label with
  | some n =>
    if !s.loops.contains n then
      refuse ("Illegal continue statement: '" ++ String.ofList n ++ "' does not denote an iteration statement")
  | none => if !s.inLoop then refuse "Illegal continue statement: no surrounding iteration statement"
  endStatement
  return .again label

def result (below : Readers) : Reader Statement := do
  if !(← get).setting.inFunction then refuse "Illegal return statement"
  let ws := (← get).rest
  if ws.isEmpty || startsWithMark ";" ws || startsWithMark "\x7d" ws || (← lineAhead) then
    endStatement
    return .result none
  let e ← expression below
  endStatement
  return .result (some e)

def branch (below : Readers) : Reader Statement := do
  let condition ← parenthesized below
  let yes ← innerStatement below
  let no ← if ← skipName "else" then some <$> innerStatement below else pure none
  return .branch condition yes no

def plainStatement (below : Readers) : Reader Statement := do
  let e ← expression below
  endStatement
  return .expression e

/-- Whether a loop is ahead, perhaps after labels. -/
def loopAhead : List Word → Bool
  | ⟨.name n, _, _, _⟩ :: ⟨.mark m, _, _, rest⟩ :: ws =>
    if m == [':'] then loopAhead ws else loopAhead [⟨.name n, false, [], rest⟩]
  | ⟨.name n, _, _, _⟩ :: _ => ["for", "while", "do"].any (·.toList == n)
  | _ => false

/-- Reads a statement that begins with no word of its own; it may have a label. -/
def expressionStatement (below : Readers) : Reader Statement := do
  let ws := (← get).rest
  match ws with
  | ⟨.name n, _, _, _⟩ :: rest =>
    if startsWithMark ":" rest && !reserved.contains n then
      if (← get).setting.labels.contains n then
        refuse ("Label '" ++ String.ofList n ++ "' has already been declared")
      advance
      advance
      let loops := if loopAhead (← get).rest then [n] else []
      return .labelled n (← within (fun s => { s with labels := n :: s.labels, loops := loops ++ s.loops })
        below.statement)
    else plainStatement below
  | _ => plainStatement below

/-- Reads a function or a blueprint that is declared, if one is ahead. -/
def definition? (below : Readers) : Reader (Option Statement) := do
  let first ← firstWord
  let ws := (← get).rest
  let asynchronous := startsWithName "async" ws && startsWithName "function" ws.tail &&
    !ws.tail.head?.any Word.beginsLine
  if asynchronous || startsWithName "function" ws then
    advance
    if asynchronous then advance
    let ws := (← get).rest
    if startsWithMark "(" ws || (startsWithMark "*" ws && startsWithMark "(" ws.tail) then
      refuse "Function statements require a function name"
    let generator ← skipMark "*"
    let n ← expectTarget
    let f ← functionRest below { asynchronous, generator } (some n) first
    return some (.define n f (!asynchronous && !generator && !(← get).setting.strict))
  else if startsWithName "class" ws then
    advance
    if (← isMark "\x7b") || (← isName "extends") then fail
    match ← blueprint below first with
    | .blueprint (some n) parent maker members source =>
      return some (.declare .changeable [(.name n, some (.blueprint (some n) parent maker members source))])
    | _ => fail
  else return none

/-- Reads one statement. -/
def statementStep (below : Readers) : Reader Statement := do
  if ← skipMark "\x7b" then return .block (← block below)
  if ← skipMark ";" then return .empty
  match ← bindingAhead? with
  | some binding =>
    advance
    let part ← declared below binding (← target below)
    let parts ← moreDeclared below binding (← remaining)
    endStatement
    return .declare binding (part :: parts)
  | none =>
  match ← definition? below with
  | some s => return s
  | none =>
  match ← ahead with
  | some (.name n) => match String.ofList n with
    | "return" =>
      advance
      result below
    | "throw" =>
      advance
      if ← lineAhead then refuse "Illegal newline after throw"
      let e ← expression below
      endStatement
      return .throw e
    | "if" =>
      advance
      branch below
    | "for" =>
      advance
      forLoop below
    | "while" =>
      advance
      let condition ← parenthesized below
      return .loop none (some condition) none false (← loopBody below)
    | "do" =>
      advance
      let body ← loopBody below
      if !(← skipName "while") then fail
      let condition ← parenthesized below
      let _ ← skipMark ";"
      return .loopAfter body condition
    | "switch" =>
      advance
      choice below
    | "try" =>
      advance
      attempt below
    | "break" =>
      advance
      leave
    | "continue" =>
      advance
      again
    | "with" =>
      advance
      if (← get).setting.strict then refuse "Strict mode code may not include a with statement"
      let subject ← parenthesized below
      modify fun p => { p with asksArguments := true, functions := p.functions + 1 }
      return .within subject (← innerStatement below)
    | "debugger" =>
      advance
      endStatement
      return .empty
    | "import" =>
      if ["(", "."].any (startsWithMark · (← get).rest.tail) then expressionStatement below
      else refuse "Cannot use import statement outside a module"
    | _ => expressionStatement below
  | _ => expressionStatement below

/-- The readers of a level above others. -/
def above (below : Readers) : Readers := ⟨assignmentStep below, operandStep below, statementStep below⟩

/-- The readers of the level with a number; those of the lowest level read nothing. -/
def level : Nat → Readers
  | 0 => ⟨fail, fail, fail⟩
  | n + 1 => above (level n)

/-- Reads statements to the end of the words. -/
def allStatements (below : Readers) : Nat → Reader (List Statement)
  | 0 => fail
  | fuel + 1 => do
    if (← get).rest.isEmpty then return []
    return (← below.statement) :: (← allStatements below fuel)

end Readers

/-- What a script consists of: its statements, the names that they all know, those of the functions in its blocks that
they may know, and whether failing quietly is a fault in it. -/
structure Code where
  body : List Statement
  locals : List Text
  hoisted : List Text
  strict : Bool

open Reader Readers

/-- The script that a text writes in some surroundings, or what is wrong with it. -/
def Code.ofText (setting : Reading.Setting) (t : Text) : Except Text Code :=
  let words := Word.ofText t
  let read : Reader Code := do
    readDirectives
    let body ← allStatements (level (4 * words.length + 4)) (← remaining)
    let p ← get
    checkNames (p.locals ++ definedNames body) body
    let lexical := (Statement.declaredNames body).map (·.2)
    let hoisted := p.hoisted.filter fun n => !(lexical ++ p.locals ++ definedNames body).contains n
    return ⟨body, p.locals, hoisted.eraseDups, p.setting.strict⟩
  (read { rest := words, setting }).map (·.1)

end Recurrence.Script
