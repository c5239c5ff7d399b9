import Recurrence.Script.Library.Locale
/-!
# The library: dates

Methods of instants: they tell the parts of an instant, or give it other ones.
-/
namespace Recurrence.Script.Library

open Run Instant

/-- The instant of the clock, which goes on a little whenever it is read. -/
def now : Run Float := fun s => .gave s.clock.floor { s with clock := s.clock + 0.0001 }

/-- The milliseconds of the instant that a method works on. -/
def thisInstant (this : Value) : Run Float := do
  match this with
  | .object a => match ← kindAt a with
    | .instant x => return x
    | _ => typeFail "this is not a Date object."
  | _ => typeFail "this is not a Date object."

/-- The milliseconds of the instant that arguments stand for. -/
def instantOf (vs : List Value) : Run Float := do
  match vs with
  | [] => now
  | [v] =>
    let instant? ← match v with
      | .object a => do
        match ← kindAt a with
        | .instant x => pure (some x)
        | _ => pure none
      | _ => pure none
    match instant? with
    | some x => return x
    | none => match ← primitive .any v with
      | .string t => return Instant.ofText t
      | v => return clipped (← plainNumber v)
  | vs => return Instant.ofNumbers (completed (← vs.mapM numberOf))

/-- The text of an instant. -/
def instantText (f : Parts → Text) (x : Float) : Value := .string ((parts? x).elim "Invalid Date".toList f)

def makeDate : Native := fun c => do
  if c.target matches .undefined then return instantText Parts.text (← now)
  let x ← instantOf c.arguments
  make c.target .date (.instant x)

/-- A method that tells a text. -/
def telling (name : String) (f : Parts → Text) : Entry := method name 0 fun c => do
  return instantText f (← thisInstant c.this)

/-- A method that tells a text as a locale writes it. -/
def tellingIn (name : String) (date time : Bool) : Entry := method name 0 fun c => do
  let x ← thisInstant c.this
  let t ← dateIn ⟨"Date.prototype." ++ name, date, time, date && time⟩ (c.given 0) (c.given 1) x
  return .string (if x.isNaN then "Invalid Date".toList else t)

/-- A method that tells a part of an instant. -/
def tellingPart (name : String) (f : Parts → Int) : Entry := method name 0 fun c => do
  return (parts? (← thisInstant c.this)).elim (.number Number.notNumber) fun p => .ofInt (f p)

/-- Year, month, day, hour, minute, second and millisecond of an instant. -/
def numbersOf (x : Float) : List Float :=
  match parts? x with
  | some p => [p.year, p.month, p.day, p.hour, p.minute, p.second, p.millisecond].map Float.ofInt
  | none => List.replicate 7 Number.notNumber

def setInstant (this : Value) (x : Float) : Run Value := do
  match this with
  | .object a => setKind a (.instant x)
  | _ => pure ()
  return .number x

/-- A method that gives an instant other parts, from one place on up to `count` of them. -/
def setting (name : String) (start count : Nat) : Entry := method name count fun c => do
  let x ← thisInstant c.this
  let fresh ← (c.arguments.take count).mapM numberOf
  let old := if start = 0 ∧ x.isNaN then [1970, 0, 1, 0, 0, 0, 0] else numbersOf x
  let fresh := if fresh.isEmpty then [Number.notNumber] else fresh
  setInstant c.this (Instant.ofNumbers (old.take start ++ fresh ++ old.drop (start + fresh.length)))

def isoMethod : Native := fun c => do
  match parts? (← thisInstant c.this) with
  | some p => return .string p.isoText
  | none => rangeFail "Invalid time value"

/-- The parts of an instant by the names of the methods that tell them, and how they are set. -/
def partMethods : List (String × (Parts → Int) × Nat × Nat) :=
  [("FullYear", Parts.year, 0, 3), ("Month", Parts.month, 1, 2), ("Date", Parts.day, 2, 1),
    ("Hours", Parts.hour, 3, 4), ("Minutes", Parts.minute, 4, 3), ("Seconds", Parts.second, 5, 2),
    ("Milliseconds", Parts.millisecond, 6, 1)]

def dateEntries : List Entry :=
  [method "now" 0 fun _ => do return .number (← now),
    method "parse" 1 fun c => do return .number (Instant.ofText (← textOf (c.given 0))),
    method "UTC" 7 fun c => do
      return .number (match ← c.arguments.mapM numberOf with
        | [] => Number.notNumber
        | numbers => Instant.ofNumbers (completed numbers))]

def datePrototypeEntries : List Entry :=
  [telling "toString" Parts.text, telling "toDateString" Parts.dateText, telling "toTimeString" Parts.timeText,
    method "toISOString" 0 isoMethod, telling "toUTCString" Parts.universalText,
    .same (Key.ofString "toGMTString") (Key.ofString "toUTCString") false,
    tellingPart "getDay" Parts.weekday, tellingPart "getUTCDay" Parts.weekday,
    tellingPart "getTimezoneOffset" fun _ => 0, tellingPart "getYear" fun p => p.year - 1900,
    method "setYear" 1 fun c => do
      let x ← thisInstant c.this
      let y ← numberOf (c.given 0)
      let old := if x.isNaN then [1970, 0, 1, 0, 0, 0, 0] else numbersOf x
      setInstant c.this (Instant.ofNumbers ((completed [y]).take 1 ++ old.drop 1)),
    method "getTime" 0 fun c => do return .number (← thisInstant c.this),
    method "setTime" 1 fun c => do
      let _ ← thisInstant c.this
      setInstant c.this (clipped (← numberOf (c.given 0))),
    method "valueOf" 0 fun c => do return .number (← thisInstant c.this),
    method "toJSON" 1 fun c => do
      match ← primitive .number (.object (← objectOf c.this)) with
      | .number x => if x.isNaN || x.isInf then return .null
      | _ => pure ()
      invoke c.this "toISOString" [],
    tellingIn "toLocaleString" true true, tellingIn "toLocaleDateString" true false,
    tellingIn "toLocaleTimeString" false true,
    .method .toPrimitive "[Symbol.toPrimitive]".toList 1 fun c => do
      if !c.this.isObject then
        typeFail ("Date.prototype [ @@toPrimitive ] called on non-object")
      let order := match c.given 0 with
        | .string t => if t = "number".toList then some ("valueOf", "toString")
          else if t = "string".toList || t = "default".toList then some ("toString", "valueOf") else none
        | _ => none
      match order with
      | none => typeFail ("Invalid hint: " ++ (← noted (c.given 0)))
      | some (one, other) => match ← converted? c.this one with
        | some v => return v
        | none => match ← converted? c.this other with
          | some v => return v
          | none => typeFail "Cannot convert object to primitive value"] ++
  partMethods.flatMap fun (name, part, start, count) =>
    [tellingPart ("get" ++ name) part, setting ("set" ++ name) start count, tellingPart ("getUTC" ++ name) part,
      setting ("setUTC" ++ name) start count]

def datePlans : List Plan := [{ family := .date, maker := some (7, makeDate) }]

def dateParts : List Part :=
  [⟨Family.date.maker, dateEntries⟩, ⟨Family.date.prototype, datePrototypeEntries⟩,
    ⟨Landmark.performance.address, [method "now" 0 fun _ => do return .number ((← now) - 1704067200000 + 30),
      shownContent "timeOrigin" (.number 1704067199970)]⟩,
    ⟨Landmark.globalObject.address, [content "performance" (.object Landmark.performance.address)]⟩]

end Recurrence.Script.Library
