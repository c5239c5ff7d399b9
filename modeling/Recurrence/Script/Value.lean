import Recurrence.Script.Family
import Recurrence.Script.Number
import Recurrence.Script.Tree
import Recurrence.Script.Unit
import Std.Data.HashMap
/-!
# Values of a script

A value is plain or an object, known by its address in the store.  The store holds all that a script can change: objects
with their fields, the places behind names, what was written, and what waits to be done later.
-/
namespace Recurrence.Script

inductive Value where
  | undefined
  | null
  | truth (b : Bool)
  | number (x : Float)
  /-- A whole number of unlimited size, which is no number to ordinary arithmetic. -/
  | bigNumber (n : Int)
  | string (t : Text)
  /-- A value that is the same as no other one made. -/
  | symbol (id : Nat)
  | object (address : Nat)

namespace Value

def ofNat (n : Nat) : Value := .number (Float.ofNat n)

def ofInt (n : Int) : Value := .number (Float.ofInt n)

def ofString (s : String) : Value := .string s.toList

/-- Whether a value is nothing. -/
def isNothing : Value → Bool
  | undefined => true
  | null => true
  | _ => false

/-- A value as a truth value. -/
def isTrue : Value → Bool
  | undefined => false
  | null => false
  | truth b => b
  | number x => !(x.isNaN || x == 0)
  | bigNumber n => n != 0
  | string t => t != []
  | _ => true

def isObject : Value → Bool
  | object _ => true
  | _ => false

/-- Whether two values are the same; objects are the same when they are one. -/
def same : Value → Value → Bool
  | undefined, undefined => true
  | null, null => true
  | truth a, truth b => a == b
  | number a, number b => a == b
  | bigNumber a, bigNumber b => a == b
  | string a, string b => a == b
  | symbol a, symbol b => a == b
  | object a, object b => a == b
  | _, _ => false

/-- Whether two values are the same, what is no number being the same as itself. -/
def sameValue (a b : Value) : Bool :=
  match a, b with
  | number x, number y => x == y || (x.isNaN && y.isNaN)
  | _, _ => a.same b

/-- Whether two values cannot be told apart; zeros of both signs can. -/
def isExactly (a b : Value) : Bool :=
  match a, b with
  | number x, number y => (x == y && (x != 0 || 1 / x == 1 / y)) || (x.isNaN && y.isNaN)
  | _, _ => a.same b

/-- A number that same values share. -/
def fingerprint : Value → UInt64
  | undefined => 1
  | null => 2
  | truth b => if b then 3 else 4
  | number x => if x == 0 then 5 else if x.isNaN then 6 else mixHash 7 x.toBits
  | bigNumber n => mixHash 8 (hash n)
  | string t => mixHash 9 (@hash Text (@instHashableList Char instHashableChar) t)
  | symbol n => mixHash 10 (hash n)
  | object n => mixHash 11 (hash n)

instance : BEq Value := ⟨sameValue⟩

instance : Hashable Value := ⟨fingerprint⟩

end Value

/-! ## Fields -/

/-- By what an object knows a field. -/
inductive Key where
  /-- A place in a list. -/
  | place (n : Nat)
  | text (t : Text)
  | symbol (id : Nat)
  /-- A name that only the code of a blueprint can write. -/
  | hidden (id : Nat)
deriving DecidableEq

namespace Key

/-- The number above those of all places. -/
def placeBound : Nat := 4294967295

/-- The key that a text is; the digits of a place are that place. -/
def ofText (t : Text) : Key :=
  match t with
  | [] => text t
  | c :: _ =>
    if c.isDigit && t.all Char.isDigit && (c != '0' || t.length == 1) && Nat.ble t.length 10 &&
      Nat.blt (Text.value t) placeBound then place (Text.value t)
    else text t

def ofString (s : String) : Key := text s.toList

def ofNat (n : Nat) : Key := if Nat.blt n placeBound then place n else text (Text.digits n)

/-! Symbols that the language itself asks objects for. -/

def iterator : Key := symbol 0

def asyncIterator : Key := symbol 1

def hasInstance : Key := symbol 2

def toPrimitive : Key := symbol 3

def toStringTag : Key := symbol 4

def species : Key := symbol 5

def isConcatSpreadable : Key := symbol 6

def unscopables : Key := symbol 7

def matching : Key := symbol 8

def matchAll : Key := symbol 9

def replace : Key := symbol 10

def search : Key := symbol 11

def split : Key := symbol 12

/-- The names of these symbols, in their order. -/
def knownSymbols : List String :=
  ["iterator", "asyncIterator", "hasInstance", "toPrimitive", "toStringTag", "species", "isConcatSpreadable",
    "unscopables", "match", "matchAll", "replace", "search", "split"]

/-- A key as value. -/
def value : Key → Value
  | place n => .string (Text.digits n)
  | text t => .string t
  | symbol id => .symbol id
  | hidden _ => .undefined

end Key

/-- What a field holds. -/
inductive Content where
  | value (v : Value) (changeable : Bool)
  /-- Functions that are called when the field is asked for or given a content. -/
  | accessor (getter setter : Value)

structure Field where
  content : Content
  /-- Whether the field shows in lists of fields. -/
  listed : Bool
  /-- Whether the field can be removed or made anew. -/
  removable : Bool

/-- A field as an assignment makes it. -/
def Field.ofValue (v : Value) : Field := ⟨.value v true, true, true⟩

/-- A field that lists of fields do not show. -/
def Field.unlisted (v : Value) : Field := ⟨.value v true, false, true⟩

/-- A field that cannot be changed. -/
def Field.fixed (v : Value) : Field := ⟨.value v false, false, false⟩

/-- A description of a field that may leave things open. -/
structure Sketch where
  value : Option Value := none
  getter : Option Value := none
  setter : Option Value := none
  changeable : Option Bool := none
  listed : Option Bool := none
  removable : Option Bool := none

/-! ## Functions -/

/-- Where code stands: the names it sees, the environment of the function around it that has an object to work on, the
routine that it is part of, and whether failing quietly is a fault. -/
structure Scope where
  environment : Nat
  activation : Nat
  routine : Nat
  strict : Bool

/-- Whether a function makes new objects, by itself or with the help of the one that it builds on. -/
inductive Making where
  | nothing
  | alone
  | derived
deriving DecidableEq

/-- What a new object is given by the blueprint that it is made after. -/
inductive Initial where
  /-- A field with the function that gives its first content. -/
  | content (key : Key) (maker : Option Value)
  | field (key : Key) (f : Field)

/-- A function of the script. -/
structure Closure where
  manner : Manner
  name : Text
  parameters : List Expression
  locals : List Text
  body : List Statement
  source : Text
  scope : Scope
  making : Making
  /-- Whether the function is that of a blueprint, and may not be called otherwise. -/
  blueprint : Bool := false
  /-- The object whose prototype has the fields that are looked up from above. -/
  home : Option Nat := none
  initials : List Initial := []

/-! ## Objects -/

/-- What a walk gives of what it goes through. -/
inductive Yield where
  | keys
  | values
  | entries
deriving DecidableEq

/-- A walk of the library, with how far it has come. -/
inductive Walk where
  | list (source : Value) (next : Nat) (yields : Yield)
  | text (rest : Text)
  | collection (address next : Nat) (yields : Yield)
  | ended

/-- How far a function has come that can be left and entered again. -/
inductive Phase where
  | fresh
  | waiting
  | active
  | over
deriving DecidableEq

/-- What has become of a promise. -/
inductive Settlement where
  | open
  | kept (v : Value)
  | broken (v : Value)

/-- What is to be done when a promise is settled. -/
inductive Reaction where
  /-- A function that waits is entered again. -/
  | resume (routine : Nat)
  /-- Handlers are called, and a promise that depends on them is settled by functions. -/
  | handle (kept broken resolve reject : Value)

/-- How a routine that waits is entered again. -/
inductive Response where
  | value (v : Value)
  /-- Something is thrown where it waits. -/
  | fault (v : Value)
  /-- It is finished where it waits. -/
  | finish (v : Value)

/-- A step that was asked of a walk with promises, and the promise of its result. -/
structure Request where
  response : Response
  promise : Nat

/-- What the numbers of a list of one size are. -/
inductive Element where
  | int (size : Nat) (signed : Bool)
  | clamped
  | big (signed : Bool)
  | float32
  | float64
deriving DecidableEq

/-- What an object is, apart from its fields. -/
inductive Kind where
  | plain
  /-- Items, of which some may be missing, up to a size; `fixed` when the size cannot change. -/
  | list (items : Array (Option Value)) (size : Nat) (fixed : Bool)
  | closure (c : Closure)
  /-- A function of the library, by its number; some also make objects. -/
  | native (number : Nat) (making : Bool)
  /-- A function with an object and first arguments given beforehand. -/
  | bound (f this : Value) (arguments : List Value)
  | fault
  /-- Milliseconds from the first moment of 1970. -/
  | instant (milliseconds : Float)
  | pattern (source flags : Text)
  /-- Items, or keys with items, in the order of their coming, and where they are. -/
  | collection (keyed weak : Bool) (entries : Array (Option (Value × Value))) (places : Std.HashMap Value Nat)
  | wrapped (v : Value)
  | walk (w : Walk)
  | routine (phase : Phase)
  | asyncRoutine (phase : Phase) (requests : List Request)
  | promise (settlement : Settlement) (reactions : List Reaction) (watched : Bool)
  | proxy (target handler : Value)
  /-- The arguments of a call, with the environment and the names that some of them share their content with. -/
  | arguments (environment : Nat) (names : List (Option Text))
  | bytes (content : ByteArray)
  | view (element : Element) (buffer start count : Nat)
  | dataView (buffer start count : Nat)
  /-- Of a family, with parts that no key reaches. -/
  | branded (f : Family) (parts : List Value)

structure Object where
  kind : Kind
  /-- The object whose fields it also has. -/
  parent : Option Nat
  fields : Array (Key × Field) := #[]
  /-- Whether new fields can be added. -/
  extensible : Bool := true

/-- An object of which nothing is known. -/
def Object.blank : Object := ⟨.plain, none, #[], true⟩

/-! ## Names -/

/-- What can be done to the content of a name. -/
inductive Hold where
  | changeable
  | constant
  /-- A function's own name, for which a new content is ignored. -/
  | quiet
deriving DecidableEq

/-- The place behind a name; it is empty before its declaration is reached. -/
structure Cell where
  name : Text
  content : Option Value
  hold : Hold

/-- What a function that runs knows of its call. -/
structure Activation where
  /-- The object it works on; unknown, before the function that it builds on has made it. -/
  this : Option Value
  function : Value
  /-- The function that was asked for a new object. -/
  target : Value

/-- Names that can be seen at a place. -/
structure Environment where
  cells : Array Cell := #[]
  outer : Option Nat := none
  /-- An object whose fields are names, too. -/
  object : Option Nat := none
  /-- Whether names that the whole function knows belong here. -/
  wide : Bool := false
  activation : Option Activation := none

/-! ## Stores -/

/-- What waits for its turn. -/
inductive Job where
  | call (f : Value) (arguments : List Value)
  | react (r : Reaction) (s : Settlement)
  /-- A promise becomes of what a method of another object says. -/
  | adopt (promise : Nat) (other method : Value)

/-- A call that was put off. -/
structure Timer where
  id : Nat
  due : Float
  every : Option Float
  f : Value
  arguments : List Value
  /-- Whether the end does not wait for the call. -/
  idle : Bool := false

structure Store where
  objects : Array Object := #[]
  environments : Array Environment := #[]
  /-- What symbols are called. -/
  symbols : Array (Option Text) := #[]
  /-- The symbols that all code shares, by name. -/
  shared : List (Text × Nat) := []
  output : List Text := []
  errors : List Text := []
  /-- Jobs that come before all others, the last one first. -/
  ticks : List Job := []
  /-- Jobs, the last one first. -/
  jobs : List Job := []
  timers : List Timer := []
  /-- Calls after all timers that are due. -/
  immediates : List Timer := []
  /-- Functions to call when something of a name happens. -/
  listeners : List (Text × Value) := []
  /-- The status with which the script wants to end. -/
  status : Value := .undefined
  /-- Promises that were broken and that nobody has watched since. -/
  unwatched : List Nat := []
  /-- Milliseconds from the first moment of 1970. -/
  clock : Float := 1704067200000
  /-- A number from which the next number by chance is made. -/
  seed : Nat := 42
  nextTimer : Nat := 1
  /-- How far lines of the console are indented. -/
  indent : Nat := 0
  /-- Lists that are being made texts of. -/
  joining : List Nat := []
  /-- Counters and moments of the console by their names. -/
  counters : List (Text × Nat) := []

/-! ## Runs -/

/-- Why a run stops short. -/
inductive Halt where
  | thrown (v : Value)
  /-- A routine is finished from outside. -/
  | finished (v : Value)
  | exited
  | killed (signal : Nat)

/-- What a run asks of the machine that drives it. -/
inductive Question where
  | call (f this : Value) (arguments : List Value)
  /-- Makes an object with a function; `target` is the function that was asked for, which may build on it. -/
  | construct (f : Value) (arguments : List Value) (target : Value)
  /-- Leaves a routine until it is entered again; who entered it gets the value. -/
  | suspend (routine : Nat) (v : Value)
  | resume (routine : Nat) (r : Response)

/-- What a run comes to: it gives something, stops short, or asks a question and goes on with the response. -/
inductive Answer (α : Type) where
  | gave (a : α) (s : Store)
  | halted (h : Halt) (s : Store)
  | asked (q : Question) (s : Store) (further : Response → Store → Answer α)

/-- What follows on an answer. -/
def Answer.bind {α β : Type} (f : α → Store → Answer β) : Answer α → Answer β
  | gave a s => f a s
  | halted h s => halted h s
  | asked q s further => asked q s fun r s => (further r s).bind f

/-- An answer that also gives why a run stopped short. -/
def Answer.outcome {α : Type} : Answer α → Answer (Except Halt α)
  | gave a s => gave (.ok a) s
  | halted h s => gave (.error h) s
  | asked q s further => asked q s fun r s => (further r s).outcome

/-- A part of a run, which works on the store. -/
def Run (α : Type) : Type := Store → Answer α

namespace Run

@[inline]
def andThen {α β : Type} (r : Run α) (f : α → Run β) : Run β := fun s =>
  match r s with
  | .gave a s => f a s
  | .halted h s => .halted h s
  | .asked q s further => .asked q s fun r s => (further r s).bind f

instance : Monad Run where
  pure a := fun s => .gave a s
  bind := andThen

/-- What is read from the store. -/
@[inline]
def reading {α : Type} (f : Store → α) : Run α := fun s => .gave (f s) s

/-- A change of the store. -/
@[inline]
def changing (f : Store → Store) : Run Unit := fun s => .gave () (f s)

def halt {α : Type} (h : Halt) : Run α := fun s => .halted h s

def raise {α : Type} (v : Value) : Run α := halt (.thrown v)

/-- What a response means where it was waited for. -/
def received (r : Response) (s : Store) : Answer Value :=
  match r with
  | .value v => .gave v s
  | .fault v => .halted (.thrown v) s
  | .finish v => .halted (.finished v) s

def ask (q : Question) : Run Value := fun s => .asked q s received

/-- Asks and gets the response as it is. -/
def askPlainly (q : Question) : Run Response := fun s => .asked q s .gave

def call (f this : Value) (arguments : List Value) : Run Value := ask (.call f this arguments)

def construct (f : Value) (arguments : List Value) : Run Value := ask (.construct f arguments f)

/-- Goes on with what a run gave, or with why it stopped short. -/
def outcome {α : Type} (r : Run α) : Run (Except Halt α) := fun s => (r s).outcome

/-- Catches what is thrown. -/
def catching {α : Type} (r : Run α) (handle : Value → Run α) : Run α := do
  match ← r.outcome with
  | .ok a => return a
  | .error (.thrown v) => handle v
  | .error h => halt h

/-- Does something afterwards, unless the script as a whole ends; it may give another result. -/
def afterwards {α : Type} (r : Run α) (last : Run (Option α)) : Run α := do
  match ← r.outcome with
  | .ok a => return (← last).getD a
  | .error .exited => halt .exited
  | .error (.killed n) => halt (.killed n)
  | .error h => match ← last with
    | some a => return a
    | none => halt h

/-- Repeats rounds that hand something on to the next, until one gives a result. -/
def repeated {σ α : Type} (round : σ → Run (σ ⊕ α)) (otherwise : α) : (rounds : Nat) → σ → Run α
  | 0, _ => pure otherwise
  | rounds + 1, x => andThen (round x) fun
    | .inl x => repeated round otherwise rounds x
    | .inr a => pure a

/-- More rounds than any script makes in a lifetime. -/
def manyRounds : Nat := 1000000000000

/-! ## Objects -/

/-- Puts an object into the store, and gives its address. -/
def allocated (o : Object) : Run Nat := fun s =>
  let n := s.objects.size
  .gave n { s with objects := s.objects.push o }

/-- Makes an object. -/
def allocate (o : Object) : Run Value := fun s =>
  let n := s.objects.size
  .gave (.object n) { s with objects := s.objects.push o }

def objectAt (address : Nat) : Run Object := fun s => .gave (s.objects.getD address .blank) s

def kindAt (address : Nat) : Run Kind := fun s => .gave (s.objects.getD address .blank).kind s

def parentAt (address : Nat) : Run (Option Nat) := fun s => .gave (s.objects.getD address .blank).parent s

@[inline]
def update (address : Nat) (change : Object → Object) : Run Unit := fun s =>
  .gave () { s with objects := s.objects.modify address change }

def setKind (address : Nat) (k : Kind) : Run Unit := update address fun o => { o with kind := k }

/-- A list of items of which some may be missing. -/
def listOf (items : Array (Option Value)) : Run Value :=
  allocate ⟨.list items items.size false, some Family.list.prototype, #[], true⟩

def list (items : List Value) : Run Value := listOf (items.map some).toArray

/-- A record of fields, no two of which have the same key. -/
def record (fields : List (Key × Value)) : Run Value :=
  allocate ⟨.plain, some Family.object.prototype, (fields.map fun f => (f.1, Field.ofValue f.2)).toArray, true⟩

/-- What a step of a walk gives. -/
def stepResult (v : Value) (done : Bool) : Run Value :=
  record [(.text "value".toList, v), (.text "done".toList, .truth done)]

/-! ## Faults -/

/-- A fault of a family with a message. -/
def fault (f : Family) (message : Text) : Run Value :=
  let stack := f.name.toList ++ (if message = [] then [] else ": ".toList ++ message) ++ "\n    at <anonymous>".toList
  allocate ⟨.fault, some f.prototype, #[(.text "stack".toList, .unlisted (.string stack)),
    (.text "message".toList, .unlisted (.string message))], true⟩

/-- Throws a fault. -/
def fail {α : Type} (f : Family) (message : String) : Run α := do raise (← fault f message.toList)

def typeFail {α : Type} (message : String) : Run α := fail .typeFault message

def rangeFail {α : Type} (message : String) : Run α := fail .rangeFault message

/-- A new symbol. -/
def newSymbol (description : Option Text) : Run Nat := fun s =>
  let n := s.symbols.size
  .gave n { s with symbols := s.symbols.push description }

end Run

/-! ## Functions of the library -/

/-- A call of a function of the library. -/
structure Summons where
  this : Value
  arguments : List Value
  /-- The function that was asked for a new object, if it was. -/
  target : Value

/-- The argument at a place; what is not given is undefined. -/
def Summons.given (c : Summons) (i : Nat) : Value := c.arguments.getD i .undefined

abbrev Native := Summons → Run Value

end Recurrence.Script
