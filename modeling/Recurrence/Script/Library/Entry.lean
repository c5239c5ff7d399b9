import Recurrence.Script.Promise
/-!
# Entries of the library

Tables say what stands in the objects of the library: functions with the number of arguments they expect, functions that
tell a content, and contents.
-/
namespace Recurrence.Script.Library

open Run

/-- What stands in an object of the library under a key. -/
inductive Entry where
  | method (k : Key) (name : Text) (length : Nat) (f : Native)
  /-- Functions that tell a content and, perhaps, take one. -/
  | accessor (k : Key) (name : Text) (tell : Native) (take : Option Native)
  | content (k : Key) (f : Field)
  /-- What stands under another key, too. -/
  | same (k other : Key) (listed : Bool)

/-- A function under its name. -/
def method (name : String) (length : Nat) (f : Native) : Entry := .method (Key.ofString name) name.toList length f

/-- A function under a symbol. -/
def signMethod (k : Key) (name : String) (length : Nat) (f : Native) : Entry :=
  .method k ('[' :: "Symbol.".toList ++ name.toList ++ [']']) length f

/-- A function that tells a content. -/
def teller (name : String) (f : Native) : Entry := .accessor (Key.ofString name) name.toList f none

/-- A function that tells the content under a symbol. -/
def signTeller (k : Key) (name : String) (f : Native) : Entry :=
  .accessor k ('[' :: "Symbol.".toList ++ name.toList ++ [']']) f none

/-- A content that cannot be changed. -/
def constant (name : String) (v : Value) : Entry := .content (Key.ofString name) (.fixed v)

/-- A content that lists do not show. -/
def content (name : String) (v : Value) : Entry := .content (Key.ofString name) (.unlisted v)

/-- A content that lists show. -/
def shownContent (name : String) (v : Value) : Entry := .content (Key.ofString name) (.ofValue v)

/-- The name of what an object is, in its conversion to a text. -/
def tag (name : String) : Entry := .content .toStringTag ⟨.value (.ofString name) false, false, true⟩

/-- What stands in one object of the library. -/
structure Part where
  owner : Nat
  entries : List Entry

/-- A family with the function that makes its objects. -/
structure Plan where
  family : Family
  /-- What the prototype is and what it builds on. -/
  kind : Kind := .plain
  /-- What the prototype does when it is called, if it is a function. -/
  call : Option Native := none
  parent : Option Nat := some Family.object.prototype
  /-- The number of arguments and the function that makes objects, if there is one, and what it builds on. -/
  maker : Option (Nat × Native) := none
  makerParent : Nat := Family.function.prototype
  /-- Whether the function makes new objects when it is asked to. -/
  makes : Bool := true

/-- Refuses a call that does not ask for a new object. -/
def onlyNew (name : String) (f : Native) : Native := fun c => do
  if c.target matches .undefined then typeFail ("Class constructor " ++ name ++ " cannot be invoked without 'new'")
  f c

/-- Refuses a call of a maker that does not ask for a new object. -/
def requiresNew (name : String) (f : Native) : Native := fun c => do
  if c.target matches .undefined then typeFail ("Constructor " ++ name ++ " requires 'new'")
  f c

/-- A function that gives the object it works on. -/
def itself : Native := fun c => return c.this

/-- The function that tells what objects made by methods are made with. -/
def speciesEntry : Entry := signTeller .species "species" itself

/-- Complains about an object that a method cannot work on. -/
def incompatible {α : Type} (method : String) (v : Value) : Run α := do
  typeFail ("Method " ++ method ++ " called on incompatible receiver " ++ (← noted v))

/-- A place that is given from the start or, when it is negative, from the end, within a length. -/
def relative (length : Nat) (n : Int) : Nat :=
  if n < 0 then (length + n).toNat else Nat.min n.toNat length

/-- A place that is given, or a default. -/
def relativeOr (length default : Nat) (v : Value) : Run Nat := do
  match v with
  | .undefined => return default
  | v => return relative length (← wholeOf v)

/-- A place from the start on, or a default. -/
def placeOr (length default : Nat) (v : Value) : Run Nat := do
  match v with
  | .undefined => return default
  | v => return Nat.min (← wholeOf v).toNat length

/-- The place that was found, or minus one. -/
def ofPlace : Option Nat → Value
  | some i => .ofNat i
  | none => .number (-1)

/-- A record of values under names. -/
def recordOf (fields : List (String × Value)) : Run Value := record (fields.map fun f => (Key.ofString f.1, f.2))

end Recurrence.Script.Library
