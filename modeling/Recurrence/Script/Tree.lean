import Recurrence.Script.Number
/-!
# Trees of a script

Expressions and statements.  Parameters and declared names are written as expressions too: a list or record of targets
takes a value apart, an assignment gives a target its default.
-/
namespace Recurrence.Script

/-- How names are declared. -/
inductive Binding where
  /-- Known in the whole function. -/
  | wide
  | changeable
  | constant
deriving DecidableEq

/-- What kind of function an expression is. -/
structure Manner where
  /-- An arrow has no object of its own to work on. -/
  arrow : Bool := false
  method : Bool := false
  asynchronous : Bool := false
  generator : Bool := false
  /-- Whether failing quietly is a fault in the function. -/
  strict : Bool := false
  /-- Whether the function has a name of its own, which its body can see. -/
  named : Bool := false
  /-- Whether its arguments may be asked for as a whole. -/
  asksArguments : Bool := false

/-- What a member of a record or a blueprint is. -/
inductive Role where
  | value
  /-- A name with a default, which only a target can have. -/
  | given
  | method
  | getter
  | setter
  /-- The fields of another value. -/
  | spread
  /-- What a record builds on. -/
  | ancestor
  /-- A field that new objects get, with its first value. -/
  | initial
  /-- Statements that are executed once. -/
  | block
deriving DecidableEq

/-- What a loop over a value goes through. -/
inductive Course where
  | keys
  | items
  /-- Items that are waited for. -/
  | awaited
deriving DecidableEq

/-- Operators between two operands. -/
inductive Operator where
  | plus
  | minus
  | times
  | over
  | modulo
  | power
  | bitAnd
  | bitOr
  | bitXor
  | left
  | right
  /-- To the right, with zeros from the left. -/
  | rightZeros
  | alike
  | unlike
  | same
  | different
  | less
  | more
  | atMost
  | atLeast
  | instanceOf
  | within
  /-- The second operand, if the first one is true. -/
  | both
  | either
  /-- The second operand, if the first one is nothing. -/
  | fallback
deriving DecidableEq

/-- Operators before an operand. -/
inductive Sign where
  | minus
  | plus
  | not
  | complement
  | kind
  | void
  | delete
deriving DecidableEq

/-- How operators are written. -/
def Operator.marks : List (String × Operator) :=
  [("+", .plus), ("-", .minus), ("*", .times), ("/", .over), ("%", .modulo), ("**", .power), ("&", .bitAnd),
    ("|", .bitOr), ("^", .bitXor), ("<<", .left), (">>", .right), (">>>", .rightZeros), ("==", .alike),
    ("!=", .unlike), ("===", .same), ("!==", .different), ("<", .less), (">", .more), ("<=", .atMost),
    (">=", .atLeast), ("instanceof", .instanceOf), ("in", .within), ("&&", .both), ("||", .either), ("??", .fallback)]

def Operator.mark (o : Operator) : Text := ((marks.find? fun m => m.2 == o).map fun m => m.1.toList).getD []

def Sign.marks : List (String × Sign) :=
  [("-", .minus), ("+", .plus), ("!", .not), ("~", .complement), ("typeof", .kind), ("void", .void),
    ("delete", .delete)]

def Sign.mark (o : Sign) : Text := ((marks.find? fun m => m.2 == o).map fun m => m.1.toList).getD []

mutual

inductive Expression where
  | number (x : Float)
  | bigNumber (n : Nat)
  | string (t : Text)
  /-- Texts with parts between them. -/
  | template (texts : List Text) (parts : List Expression)
  /-- A template that is handed to a function, as it reads and as it is written. -/
  | tagged (tag : Expression) (read : List (Option Text)) (written : List Text) (parts : List Expression)
  | pattern (source flags : Text)
  | null
  | truth (b : Bool)
  | name (n : Text)
  | this
  | newTarget
  | list (items : List Expression)
  /-- A place of a list that is left out. -/
  | hole
  | spread (e : Expression)
  /-- Members with their keys. -/
  | record (members : List (Role × Expression × Expression))
  | function (manner : Manner) (name : Option Text) (parameters : List Expression) (locals : List Text)
      (body : List Statement) (source : Text)
  /-- A blueprint of objects; its members are its own, when they are shared. -/
  | blueprint (name : Option Text) (parent maker : Option Expression)
      (members : List (Bool × Role × Expression × Expression)) (source : Text)
  | unary (sign : Sign) (e : Expression)
  /-- One more, if `up`, or one less; `before` when the new value is the result. -/
  | step (up before : Bool) (target : Expression)
  | binary (operator : Operator) (left right : Expression)
  /-- A new content, which an operator may make of the old one. -/
  | assign (operator : Option Operator) (target value : Expression)
  | conditional (condition yes no : Expression)
  /-- A field; a `lenient` one may be that of nothing. -/
  | field (e : Expression) (name : Text) (lenient : Bool)
  | index (e key : Expression) (lenient : Bool)
  | call (f : Expression) (arguments : List Expression) (lenient : Bool)
  /-- Where a lenient step that met nothing ends. -/
  | chain (e : Expression)
  /-- A field of what an object builds on. -/
  | superIndex (key : Expression)
  | superCall (arguments : List Expression)
  | construct (f : Expression) (arguments : List Expression)
  | sequence (first second : Expression)
  /-- A value handed out, or all values of another walk. -/
  | yield (all : Bool) (e : Expression)
  | await (e : Expression)
  /-- An expression in parentheses, which is no target. -/
  | enclosed (e : Expression)

inductive Statement where
  | empty
  | expression (e : Expression)
  | declare (binding : Binding) (parts : List (Expression × Option Expression))
  /-- A function, which the function around may know, too, when it is defined in a block. -/
  | define (name : Text) (f : Expression) (outward : Bool)
  | result (e : Option Expression)
  | throw (e : Expression)
  | branch (condition : Expression) (yes : Statement) (no : Option Statement)
  | block (body : List Statement)
  /-- A counting loop; its names are `renewed` for every round, when functions may keep them. -/
  | loop (start : Option Statement) (condition step : Option Expression) (renewed : Bool) (body : Statement)
  | loopAfter (body : Statement) (condition : Expression)
  /-- A loop over what a value holds. -/
  | each (binding : Option Binding) (target : Expression) (course : Course) (subject : Expression) (body : Statement)
  | choice (subject : Expression) (cases : List (Option Expression × List Statement))
  | attempt (body : List Statement) (caught : Option (Option Expression × List Statement))
      (atLast : Option (List Statement))
  | leave (label : Option Text)
  | again (label : Option Text)
  | labelled (label : Text) (s : Statement)
  /-- A statement that sees the fields of a value as names. -/
  | within (subject : Expression) (s : Statement)

end

namespace Expression

mutual

/-- The names that a target gives values to. -/
def targetNames : Expression → List Text
  | name n => [n]
  | assign _ target _ => targetNames target
  | spread target => targetNames target
  | list items => targetNamesOf items
  | record members => targetNamesIn members
  | _ => []

def targetNamesOf : List Expression → List Text
  | [] => []
  | e :: es => targetNames e ++ targetNamesOf es

def targetNamesIn : List (Role × Expression × Expression) → List Text
  | [] => []
  | (_, _, e) :: es => targetNames e ++ targetNamesIn es

end

/-- Whether a value can be assigned to what an expression stands for. -/
def isPlace : Expression → Bool
  | name _ => true
  | field _ _ _ => true
  | index _ _ _ => true
  | superIndex _ => true
  | enclosed e => e.isPlace
  | _ => false

/-- Whether an expression is a call, whose value nothing can be assigned to once it is made. -/
def isCall : Expression → Bool
  | call _ _ lenient => !lenient
  | enclosed e => e.isCall
  | _ => false

/-- An expression without its parentheses. -/
def bare : Expression → Expression
  | enclosed e => e.bare
  | e => e

/-- Whether an expression is a function or a blueprint without a name. -/
def isNameless : Expression → Bool
  | function _ none _ _ _ _ => true
  | blueprint none _ _ _ _ => true
  | enclosed e => e.isNameless
  | _ => false

/-- Whether parameters are names alone. -/
def arePlain (parameters : List Expression) : Bool :=
  parameters.all fun
    | name _ => true
    | _ => false

/-- What a complaint shows where an expression has no short form. -/
def intermediate : Text := "(intermediate value)".toList

mutual

/-- How a complaint shows an operand. -/
def shown : Expression → Text
  | name n => n
  | this => "this".toList
  | null => "null".toList
  | truth b => (if b then "true" else "false").toList
  | number x => Number.text x
  | bigNumber n => Text.digits n ++ ['n']
  | string t => '"' :: t ++ ['"']
  | pattern source flags => '/' :: source ++ '/' :: flags
  | list items => '[' :: Text.joined [','] (shownAll items) ++ [']']
  | hole => []
  | record members => '\x7b' :: (shownMembers members).flatten ++ ['\x7d']
  | field e n false => shown e ++ '.' :: n
  | field e n true => shown e ++ "?.".toList ++ n
  | index e (string t) _ => shown e ++ '.' :: t
  | index e key _ => shown e ++ '[' :: shown key ++ [']']
  | superIndex (string t) => intermediate ++ '.' :: t
  | superIndex key => intermediate ++ '[' :: shown key ++ [']']
  | call e _ _ => shown e ++ "(...)".toList
  | unary o e => '(' :: o.mark ++ (if o.mark.length = 1 then [] else [' ']) ++ shown e ++ [')']
  | step up true e => '(' :: (if up then "++" else "--").toList ++ shown e ++ [')']
  | step up false e => '(' :: shown e ++ (if up then "++)" else "--)").toList
  | binary o l r => '(' :: shown l ++ ' ' :: o.mark ++ ' ' :: shown r ++ [')']
  | conditional _ _ _ => intermediate ++ intermediate ++ intermediate
  | chain e => shown e
  | enclosed e => shown e
  | await e => shown e
  | spread e => "...".toList ++ shown e
  | _ => intermediate

def shownAll : List Expression → List Text
  | [] => []
  | e :: es => shown e :: shownAll es

def shownMembers : List (Role × Expression × Expression) → List Text
  | [] => []
  | (_, _, e) :: es => shown e :: shownMembers es

end

end Expression

namespace Statement

/-- The names that a list of statements declares for itself. -/
def declaredNames (body : List Statement) : List (Binding × Text) :=
  body.flatMap fun
    | declare .wide _ => []
    | declare binding parts => parts.flatMap fun p => p.1.targetNames.map (binding, ·)
    | _ => []

/-- The functions that a list of statements defines. -/
def definitions (body : List Statement) : List (Text × Expression) :=
  body.filterMap fun
    | define n f _ => some (n, f)
    | labelled _ (define n f _) => some (n, f)
    | _ => none

end Statement
end Recurrence.Script
