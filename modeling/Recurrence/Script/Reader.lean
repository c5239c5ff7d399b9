import Recurrence.Script.Pattern
import Recurrence.Script.Tree
/-!
# Readers of a script

A reader takes words off the front of a list and gives a tree, or says what is wrong with the first word it cannot use.
-/
namespace Recurrence.Script

namespace Reading

/-- What surrounds a place of a script, and so may stand there. -/
structure Setting where
  inFunction : Bool := false
  inLoop : Bool := false
  inChoice : Bool := false
  asynchronous : Bool := false
  generator : Bool := false
  strict : Bool := false
  /-- Whether a function around has an object that fields can be looked up from above for. -/
  inMethod : Bool := false
  /-- Whether a function around can call the one that it builds on. -/
  inDerived : Bool := false
  /-- Whether a function around knows for which function a new object was asked. -/
  hasTarget : Bool := false
  /-- How many blueprints are around. -/
  blueprints : Nat := 0
  labels : List Text := []
  /-- The labels that stand before loops. -/
  loops : List Text := []

/-- How far reading has come: the words ahead, the last one read and the surroundings; and what has been met since the
function around began. -/
structure Place where
  rest : List Word
  last : Option Word := none
  setting : Setting := {}
  /-- Names that the function around knows as a whole. -/
  locals : List Text := []
  /-- Functions in blocks that the function around may know, too. -/
  hoisted : List Text := []
  asksArguments : Bool := false
  /-- The number of functions read so far. -/
  functions : Nat := 0
  /-- Whether a default was met that only a target can have. -/
  given : Bool := false
  /-- Hidden names that no blueprint has declared so far. -/
  hidden : List Text := []

end Reading

open Reading

abbrev Reader := StateT Place (Except Text)

namespace Reader

/-! ## Single words -/

/-- Names that cannot stand for a place of their own. -/
def reserved : List Text :=
  ["return", "throw", "if", "else", "function", "new", "typeof", "void", "const", "var", "instanceof", "in", "for",
    "while", "do", "switch", "case", "class", "try", "catch", "finally", "break", "continue", "delete", "default",
    "with", "extends", "import", "export", "super", "null", "true", "false", "this", "debugger", "enum"].map
      String.toList

/-- Names that strict code keeps free. -/
def strictlyReserved : List Text :=
  ["implements", "interface", "let", "package", "private", "protected", "public", "static", "yield"].map
    String.toList

/-- Whether a template begins with a word; the later pieces of a template begin with a closing brace. -/
def beginsTemplate (w : Word) : Bool := w.here.head? == some '\x60'

/-- The complaint about the first of the words. -/
def complaint : List Word → Text
  | [] => "Unexpected end of input".toList
  | w :: _ => match w.kind with
    | .number _ => "Unexpected number".toList
    | .bigNumber _ => "Unexpected number".toList
    | .string _ => "Unexpected string".toList
    | .piece _ _ _ =>
      if beginsTemplate w then "Unexpected template string".toList else "Unexpected token '\x7d'".toList
    | .pattern .. => "Unexpected regular expression".toList
    | .name n =>
      if n = "enum".toList then "Unexpected reserved word".toList
      else
        (if reserved.contains n then "Unexpected token '".toList else "Unexpected identifier '".toList) ++ n ++ ['\'']
    | .mark m => "Unexpected token '".toList ++ m ++ ['\'']
    | .invalid complaint => complaint

def fail {α : Type} : Reader α := fun p => .error (complaint p.rest)

def refuse {α : Type} (message : String) : Reader α := fun _ => .error message.toList

/-- The number of words ahead, which bounds every repetition. -/
def remaining : Reader Nat := fun p => .ok (p.rest.length + 1, p)

def ahead : Reader (Option Word.Kind) := fun p => .ok (p.rest.head?.map Word.kind, p)

/-- Whether a template begins ahead. -/
def templateAhead : Reader Bool := fun p => .ok (p.rest.head?.any beginsTemplate, p)

/-- Whether the word ahead begins a line. -/
def lineAhead : Reader Bool := fun p => .ok (p.rest.head?.any Word.beginsLine, p)

/-- Takes a word. -/
def advance : Reader Unit := fun p => .ok ((), { p with rest := p.rest.tail, last := p.rest.head? })

def startsWithMark (m : String) : List Word → Bool
  | ⟨.mark m', _, _, _⟩ :: _ => m.toList == m'
  | _ => false

def startsWithName (n : String) : List Word → Bool
  | ⟨.name n', _, _, _⟩ :: _ => n.toList == n'
  | _ => false

def isMark (m : String) : Reader Bool := fun p => .ok (startsWithMark m p.rest, p)

def isName (n : String) : Reader Bool := fun p => .ok (startsWithName n p.rest, p)

/-- Takes a mark, if it is ahead. -/
def skipMark (m : String) : Reader Bool := do
  if ← isMark m then
    advance
    return true
  return false

/-- Takes a name, if it is ahead. -/
def skipName (n : String) : Reader Bool := do
  if ← isName n then
    advance
    return true
  return false

/-- Takes a mark that has to come. -/
def expectMark (m : String) : Reader Unit := do
  if ← isMark m then advance else fail

/-- Whether a name belongs to the code of a blueprint alone. -/
def isHidden (n : Text) : Bool := n.head? == some '#'

/-- Why a name cannot stand for a place here, if it cannot. -/
def objection? (s : Setting) (n : Text) : Option String :=
  if s.strict && strictlyReserved.contains n then some "Unexpected strict mode reserved word"
  else if s.asynchronous && n == "await".toList then some "Unexpected reserved word"
  else if s.generator && n == "yield".toList then some "Unexpected identifier 'yield'"
  else none

/-- Takes a name that can stand for a place. -/
def expectName : Reader Text := do
  match ← ahead with
  | some (.name n) =>
    if reserved.contains n || isHidden n then fail
    match objection? (← get).setting n with
    | some message => refuse message
    | none => pure ()
    advance
    return n
  | _ => fail

/-- Takes a name for a new content. -/
def expectTarget : Reader Text := do
  let n ← expectName
  if (← get).setting.strict && (n == "eval".toList || n == "arguments".toList) then
    refuse "Unexpected eval or arguments in strict mode"
  return n

/-- Takes note of a hidden name. -/
def noteHidden (n : Text) : Reader Unit := do
  if (← get).setting.blueprints = 0 then
    refuse ("Private field '" ++ String.ofList n ++ "' must be declared in an enclosing class")
  modify fun p => { p with hidden := n :: p.hidden }

/-- Takes the name of a field. -/
def fieldName : Reader Text := do
  match ← ahead with
  | some (.name n) =>
    if isHidden n then noteHidden n
    advance
    return n
  | _ => fail

/-- The script from a word up to the last word taken. -/
def sourceFrom (first : Option Word) : Reader Text := fun p =>
  .ok (match first, p.last with
    | some first, some last => first.upTo last
    | _, _ => [], p)

def firstWord : Reader (Option Word) := fun p => .ok (p.rest.head?, p)

/-- Ends a statement: at a semicolon, before a closing brace, at the end, or where a line ends. -/
def endStatement : Reader Unit := do
  if ← skipMark ";" then return
  let p ← get
  match p.rest with
  | [] => return
  | w :: _ =>
    if startsWithMark "\x7d" p.rest || w.beginsLine then return
    else if p.last.any (fun w => startsWithName "await" [w]) && !p.setting.asynchronous then
      refuse "await is only valid in async functions and the top level bodies of modules"
    else fail

/-- Reads with other surroundings. -/
def within {α : Type} (change : Setting → Setting) (r : Reader α) : Reader α := do
  let outer ← get
  set { outer with setting := change outer.setting }
  let a ← r
  modify fun p => { p with setting := outer.setting }
  return a

/-- What was met inside of a function. -/
structure Inside where
  locals : List Text
  asksArguments : Bool
  strict : Bool

/-- Reads the inside of a function. -/
def inside {α : Type} (manner : Manner) (r : Reader α) : Reader (α × Inside) := do
  let outer ← get
  let s := outer.setting
  set { outer with
    setting := { s with
      inFunction := true, inLoop := false, inChoice := false, labels := [], loops := []
      asynchronous := manner.asynchronous, generator := manner.generator
      inMethod := manner.method || (manner.arrow && s.inMethod)
      inDerived := s.inDerived && (manner.method || manner.arrow)
      hasTarget := !manner.arrow || s.hasTarget }
    locals := [], hoisted := [], asksArguments := false, functions := outer.functions + 1, given := false }
  let a ← r
  let inner ← get
  set { inner with
    setting := s, locals := outer.locals, hoisted := outer.hoisted, given := outer.given
    asksArguments := outer.asksArguments || (manner.arrow && inner.asksArguments) }
  return (a, ⟨inner.locals, inner.asksArguments, inner.setting.strict⟩)

/-- Reads what is no target, so that no default of a target may be left in it. -/
def settled {α : Type} (r : Reader α) : Reader α := do
  let outer := (← get).given
  modify fun p => { p with given := false }
  let a ← r
  if (← get).given then refuse "Invalid shorthand property initializer"
  modify fun p => { p with given := outer }
  return a

/-- Reads what is a target, or may be one. -/
def asTarget {α : Type} (r : Reader α) : Reader α := do
  let outer := (← get).given
  let a ← r
  modify fun p => { p with given := outer }
  return a

/-- Reads items with commas between, up to a closing mark. -/
def separated {α : Type} (closing : String) (item : Reader α) (stuck : Reader (List α)) : Nat → Reader (List α)
  | 0 => fail
  | fuel + 1 => do
    if ← skipMark closing then return []
    let a ← item
    if ← skipMark "," then return a :: (← separated closing item stuck fuel)
    if ← skipMark closing then return [a]
    stuck

end Reader

end Recurrence.Script
