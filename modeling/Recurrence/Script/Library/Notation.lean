import Recurrence.Script.Library.List
/-!
# The library: the notation of values

Values are written as texts that can be read back.  What is read has to keep to the notation strictly; a complaint says
where it first does not.
-/
namespace Recurrence.Script.Library

open Run

/-! ## Writing -/

/-- A text in quotes, with what cannot stand between them escaped. -/
def escaped (t : Text) : Text :=
  let coded (n : Nat) : Text :=
    let ds := Nat.toDigits 16 n
    '\\' :: 'u' :: List.replicate (4 - ds.length) '0' ++ ds
  let escape (c : Char) : Text :=
    if c = '"' then ['\\', '"']
    else if c = '\\' then ['\\', '\\']
    else if c = '\n' then ['\\', 'n']
    else if c = '\r' then ['\\', 'r']
    else if c = '\t' then ['\\', 't']
    else if c = '\x08' then ['\\', 'b']
    else if c = '\x0c' then ['\\', 'f']
    else if c.toNat < 32 then coded c.toNat
    else if isHalf c then coded ((unitsOfChar c).headD 0)
    else [c]
  '"' :: t.flatMap escape ++ ['"']

/-- Written parts between brackets, each on a line of its own if there is an indent. -/
def enclosed (opening closing : Text) (indent margin : Text) (parts : List Text) : Text :=
  if parts = [] then opening ++ closing
  else if indent = [] then opening ++ Text.joined [','] parts ++ closing
  else
    let line := '\n' :: margin ++ indent
    opening ++ line ++ Text.joined (',' :: line) parts ++ '\n' :: margin ++ closing

/-- How values are written. -/
structure Writing where
  /-- A function that may put something else in the place of a value. -/
  change : Option Value := none
  /-- The keys of the fields that are written, unless it is all of them. -/
  keys : Option (List Key) := none
  indent : Text := []

/-- What a complaint calls the maker of an object. -/
def makerShown (a : Nat) : Run Text := do
  let name ← reading fun s => match quietField s (Key.ofString "constructor") chain a with
    | .object f => functionNameIn s f
    | _ => []
  return "object with constructor '".toList ++ (if name = [] then "Object".toList else name) ++ ['\'']

/-- How a complaint names the way to a value. -/
def wayShown : Key → Text
  | .place n => "index ".toList ++ Text.digits n
  | .text [] => "<anonymous>".toList
  | .text t => "property '".toList ++ t ++ ['\'']
  | _ => []

/-- Complains about an object that holds itself; the way to it begins at the object, and `last` leads back. -/
def circular {α : Type} (way : List (Key × Nat)) (last : Key) : Run α := do
  let step (e : Key × Nat) : Run Text := do
    return "\n    |     ".toList ++ wayShown e.1 ++ " -> ".toList ++ (← makerShown e.2)
  let start ← match way.head? with
    | some (_, a) => makerShown a
    | none => pure []
  let steps := way.drop 1
  let shown ← if steps.length ≤ 2 then steps.mapM step else do
    let first ← (steps.take 1).mapM step
    let final ← (steps.drop (steps.length - 1)).mapM step
    pure (first ++ ["\n    |     ...".toList] ++ final)
  typeFail (String.ofList ("Converting circular structure to JSON\n    --> starting at ".toList ++ start ++
    concatenated shown ++ "\n    --- ".toList ++ wayShown last ++ " closes the circle".toList))

/-- The value that is written for one: what the value itself and a function make of it. -/
def changedForm (w : Writing) (holder : Run Value) (k : Key) (v : Value) : Run Value := do
  let asks : Bool := match v with
    | .object _ => true
    | .bigNumber _ => true
    | _ => false
  let v ← if asks then do
      let f ← named v "toJSON"
      if ← isFunction f then call f v [k.value] else pure v
    else pure v
  let v ← match w.change with
    | some f => do call f (← holder) [k.value, v]
    | none => pure v
  match v with
  | .object a => match ← kindAt a with
    | .wrapped (.number _) => return .number (← numberOf v)
    | .wrapped (.string _) => return .string (← textOf v)
    | .wrapped (.truth b) => return .truth b
    | .wrapped (.bigNumber n) => return .bigNumber n
    | _ => return v
  | v => return v

/-- A value in the notation that can be read back; nothing, for what has none.  The way leads there through the objects
that hold it, the last one first. -/
def inNotation (w : Writing) : (fuel : Nat) → (way : List (Key × Nat)) → (margin : Text) → (holder : Run Value) → Key →
    Value → Run (Option Text)
  | 0, _, _, _, _, _ => tooDeep
  | fuel + 1, way, margin, holder, k, v => do
    match ← changedForm w holder k v with
    | .null => return some "null".toList
    | .truth b => return some (if b then "true" else "false").toList
    | .number x => return some (if (Number.rational? x).isSome then Number.text x else "null".toList)
    | .string t => return some (escaped t)
    | .bigNumber _ => typeFail "Do not know how to serialize a BigInt"
    | .object a =>
      match ← kindAt a with
      | .branded .text [.string t] => return some t
      | _ => pure ()
      if ← isFunction (.object a) then return none
      if way.any (·.2 == a) then
        circular (((way.takeWhile (·.2 != a)) ++ (way.dropWhile (·.2 != a)).take 1).reverse) k
      let further := (k, a) :: way
      let inner (k : Key) : Run (Option Text) := do
        inNotation w fuel further (margin ++ w.indent) (return .object a) k (← field (.object a) k)
      if ← isList (.object a) then
        let parts ← (List.range (← lengthOf (.object a))).mapM fun i => do
          return (← inner (.ofNat i)).getD "null".toList
        return some (enclosed ['['] [']'] w.indent margin parts)
      let keys ← match w.keys with
        | some ks => pure ks
        | none => listedKeys (.object a)
      let parts ← keys.filterMapM fun k => do
        match ← inner k with
        | some t => return some (escaped (← reading fun s => keyTextIn s k) ++
            (if w.indent = [] then [':'] else ": ".toList) ++ t)
        | none => return none
      return some (enclosed ['\x7b'] ['\x7d'] w.indent margin parts)
    | _ => return none

/-- What a value says about how to write. -/
def writingOf (change indent : Value) : Run Writing := do
  let indent ← match indent with
    | .object a => match ← kindAt a with
      | .wrapped (.number _) => do pure (Value.number (← numberOf indent))
      | .wrapped (.string _) => do pure (Value.string (← textOf indent))
      | _ => pure indent
    | v => pure v
  let indent : Text := match indent with
    | .number x => List.replicate (Nat.min (wholePart x).toNat 10) ' '
    | .string t => ofUnits ((unitsOf t).take 10)
    | _ => []
  if ← isFunction change then return { change := some change, indent }
  if !(← isList change) then return { indent }
  let keys ← (← itemsOf change).filterMapM fun v => do
    match v with
    | .string t => return some (Key.ofText t)
    | .number x => return some (Key.ofText (Number.text x))
    | .object a => match ← kindAt a with
      | .wrapped (.number _) => return some (Key.ofText (← textOf v))
      | .wrapped (.string _) => return some (Key.ofText (← textOf v))
      | _ => return none
    | _ => return none
  return { keys := some keys.eraseDups, indent }

/-! ## Reading -/

/-- What the notation writes. -/
inductive Datum where
  /-- A plain value, as it is written. -/
  | plain (v : Value) (source : Text)
  | list (items : List Datum)
  | record (fields : List (Text × Datum))

mutual

/-- The value of what was read. -/
def Datum.value : Datum → Run Value
  | .plain v _ => return v
  | .list items => do Run.list (← Datum.values items)
  | .record fields => do
    let a ← allocated ⟨.plain, some Family.object.prototype, #[], true⟩
    Datum.putFields a fields
    return .object a

def Datum.values : List Datum → Run (List Value)
  | [] => return []
  | d :: ds => do
    let v ← d.value
    return v :: (← Datum.values ds)

/-- Puts fields into an object. -/
def Datum.putFields (a : Nat) : List (Text × Datum) → Run Unit
  | [] => return
  | (n, d) :: fields => do
    put a (.ofText n) (.ofValue (← d.value))
    Datum.putFields a fields

end

/-- What is wrong with a text, and what of it is left where that shows; without words of its own, it is the character
there that is wrong. -/
structure Flaw where
  words : Option String
  rest : Text

def flaw {α : Type} (rest : Text) : Except Flaw α := .error ⟨none, rest⟩

def flawed {α : Type} (words : String) (rest : Text) : Except Flaw α := .error ⟨some words, rest⟩

/-- A text without the space of the notation at its start. -/
def afterGap (t : Text) : Text := t.dropWhile fun c => c == ' ' || c == '\t' || c == '\n' || c == '\r'

/-- Reads a text up to its closing quote. -/
def readQuoted : (fuel : Nat) → Text → Except Flaw (Text × Text)
  | 0, t => flawed "Unterminated string in JSON" t
  | _ + 1, [] => flawed "Unterminated string in JSON" []
  | _ + 1, '"' :: cs => .ok ([], cs)
  | fuel + 1, '\\' :: c :: cs =>
    if c = 'u' then
      match Word.readUnicode cs with
      | .ok (t, rest) =>
        if cs.head? = some '\x7b' then flawed "Bad Unicode escape in JSON" cs
        else (readQuoted fuel rest).map fun (u, r) => (t ++ u, r)
      | .error _ => flawed "Bad Unicode escape in JSON" (cs.dropWhile (Word.isDigitOf 16))
    else if "\"\\/bfnrt".toList.contains c then
      match Word.readEscape (c :: cs) with
      | .ok (t, rest) => (readQuoted fuel rest).map fun (u, r) => (t ++ u, r)
      | .error _ => flawed "Bad escaped character in JSON" (c :: cs)
    else flawed "Bad escaped character in JSON" (c :: cs)
  | _ + 1, ['\\'] => flawed "Bad escaped character in JSON" []
  | fuel + 1, c :: cs =>
    if c.toNat < 32 then flawed "Bad control character in string literal in JSON" (c :: cs)
    else (readQuoted fuel cs).map fun (u, r) => (c :: u, r)

/-- Reads digits of which there has to be one. -/
def readSomeDigits (words : String) (t : Text) : Except Flaw Text :=
  if t.head?.any Char.isDigit then .ok (t.dropWhile Char.isDigit) else flawed words t

/-- What follows the part of a number after the whole digits. -/
def afterFraction (t : Text) : Except Flaw Text :=
  let fraction : Except Flaw Text := match t with
    | '.' :: cs => readSomeDigits "Unterminated fractional number in JSON" cs
    | t => .ok t
  fraction.bind fun t => match t with
    | c :: cs =>
      if c = 'e' ∨ c = 'E' then
        readSomeDigits "Exponent part is missing a number in JSON" (match cs with
          | '+' :: ds => ds
          | '-' :: ds => ds
          | ds => ds)
      else .ok t
    | [] => .ok []

/-- Reads a number; a needless zero may not begin it. -/
def readNumeral (t : Text) : Except Flaw (Datum × Text) :=
  let unsigned := match t with
    | '-' :: cs => cs
    | t => t
  let whole : Except Flaw Text := match unsigned with
    | '0' :: c :: cs => if c.isDigit then flawed "Unexpected number in JSON" (c :: cs) else .ok (c :: cs)
    | unsigned => readSomeDigits "No number after minus sign in JSON" unsigned
  (whole.bind afterFraction).map fun rest =>
    let source := t.take (t.length - rest.length)
    (.plain (.number (Number.ofText source)) source, rest)

/-- Reads the rest of a word that has to stand in a text. -/
def readRest (d : Datum) : Text → Text → Except Flaw (Datum × Text)
  | [], rest => .ok (d, rest)
  | _, [] => flaw []
  | c :: cs, c' :: rest => if c = c' then readRest d cs rest else flaw (c' :: rest)

/-- Reads the items of a list, up to the bracket that closes it. -/
def readItems (item : Text → Except Flaw (Datum × Text)) : (fuel : Nat) → Text → Except Flaw (List Datum × Text)
  | 0, t => flaw t
  | fuel + 1, t => (item t).bind fun (d, rest) =>
    match afterGap rest with
    | ',' :: cs => (readItems item fuel cs).map fun (ds, r) => (d :: ds, r)
    | ']' :: cs => .ok ([d], cs)
    | rest => flawed "Expected ',' or ']' after array element in JSON" rest

/-- Reads the fields of a record, up to the brace that closes it. -/
def readFields (item : Text → Except Flaw (Datum × Text)) (words : String) : (fuel : Nat) → Text →
    Except Flaw (List (Text × Datum) × Text)
  | 0, t => flaw t
  | fuel + 1, t =>
    match afterGap t with
    | '"' :: cs => (readQuoted (cs.length + 1) cs).bind fun (n, rest) =>
      match afterGap rest with
      | ':' :: rest => (item rest).bind fun (d, rest) =>
        match afterGap rest with
        | ',' :: rest =>
          (readFields item "Expected double-quoted property name in JSON" fuel rest).map fun (ds, r) =>
            ((n, d) :: ds, r)
        | '\x7d' :: rest => .ok ([(n, d)], rest)
        | rest => flawed "Expected ',' or '\x7d' after property value in JSON" rest
      | rest => flawed "Expected ':' after property name in JSON" rest
    | rest => flawed words rest

/-- Reads what stands at the start of a text; every level of lists and records takes a character. -/
def readDatum : (fuel : Nat) → Text → Except Flaw (Datum × Text)
  | 0, t => flaw t
  | fuel + 1, t =>
    match afterGap t with
    | [] => flaw []
    | '[' :: cs => match afterGap cs with
      | ']' :: rest => .ok (.list [], rest)
      | _ => (readItems (readDatum fuel) (cs.length + 1) cs).map fun (ds, rest) => (.list ds, rest)
    | '\x7b' :: cs => match afterGap cs with
      | '\x7d' :: rest => .ok (.record [], rest)
      | _ =>
        (readFields (readDatum fuel) "Expected property name or '\x7d' in JSON" (cs.length + 1) cs).map
          fun (ds, rest) => (.record ds, rest)
    | '"' :: cs => (readQuoted (cs.length + 1) cs).map fun (t, rest) =>
      (.plain (.string t) ('"' :: cs.take (cs.length - rest.length)), rest)
    | 't' :: cs => readRest (.plain (.truth true) "true".toList) "rue".toList cs
    | 'f' :: cs => readRest (.plain (.truth false) "false".toList) "alse".toList cs
    | 'n' :: cs => readRest (.plain .null "null".toList) "ull".toList cs
    | c :: cs => if c.isDigit ∨ c = '-' then readNumeral (c :: cs) else flaw (c :: cs)

/-- Where a text breaks off, in units, by line and column. -/
def lineAndColumn (t : Text) : Nat × Nat :=
  let lines := Text.lines t
  (lines.length, (unitsOf (lines.getLastD [])).length + 1)

/-- How many units around a wrong character a complaint shows. -/
def shownAround : Nat := 10

/-- The stretch of a text around a place that a complaint shows, with dots where it is cut. -/
def around (t : Text) (place : Nat) : Text :=
  let us := unitsOf t
  let length := us.length
  if length ≤ 2 * shownAround then '"' :: t ++ ['"']
  else
    let start := place - shownAround
    let stop := if place < shownAround ∨ place + shownAround < length then place + shownAround else length
    (if place < shownAround then [] else "...".toList) ++ '"' :: ofUnits ((us.drop start).take (stop - start)) ++
      (if stop < length then "\"...".toList else ['"'])

/-- What is said of a flaw in a text. -/
def complaintOf (t : Text) (f : Flaw) : Text :=
  let before := t.take (t.length - f.rest.length)
  let place := unitCount before
  match f.words, f.rest with
  | some words, _ =>
    let (line, column) := lineAndColumn before
    words.toList ++ " at position ".toList ++ Text.digits place ++ " (line ".toList ++ Text.digits line ++
      " column ".toList ++ Text.digits column ++ [')']
  | none, [] => "Unexpected end of JSON input".toList
  | none, c :: _ =>
    if c = '"' then "Unexpected string in JSON at position ".toList ++ Text.digits place
    else if ["[object Object]", "NaN", "Infinity", "undefined"].any (·.toList == t) then
      '"' :: t ++ "\" is not valid JSON".toList
    else "Unexpected token '".toList ++ c :: "', ".toList ++ around t place ++ " is not valid JSON".toList

/-- What a text writes in the notation. -/
def readNotation (t : Text) : Run Datum := do
  let read := (readDatum (t.length + 1) t).bind fun (d, rest) =>
    match afterGap rest with
    | [] => .ok d
    | rest => flawed "Unexpected non-whitespace character after JSON" rest
  match read with
  | .ok d => return d
  | .error f => fail .syntaxFault (String.ofList (complaintOf t f))

/-- What was read under a key of a datum. -/
def Datum.under? (d : Datum) (k : Key) : Option Datum :=
  match d, k with
  | .list items, .place i => items[i]?
  | .record fields, k => (fields.reverse.find? fun f => Key.ofText f.1 == k).map (·.2)
  | _, _ => none

/-- Changes what was read by a function, from the inside to the outside; what it makes undefined is removed. -/
def revised (f : Value) : (fuel : Nat) → (holder : Value) → Key → Option Datum → Run Value
  | 0, _, _, _ => tooDeep
  | fuel + 1, holder, k, d => do
    let v ← field holder k
    match v with
    | .object a =>
      let keys ← if ← isList v then pure ((List.range (← lengthOf v)).map Key.ofNat) else listedKeys v
      for k in keys do
        match ← revised f fuel v k (d.bind (·.under? k)) with
        | .undefined =>
          let _ ← remove a k
        | w =>
          let _ ← define a k
            { value := some w, changeable := some true, listed := some true, removable := some true }
    | _ => pure ()
    let source : List (String × Value) := match d with
      | some (.plain w source) => if w.isExactly v then [("source", .string source)] else []
      | _ => []
    call f holder [k.value, v, ← recordOf source]

def parseMethod : Native := fun c => do
  let d ← readNotation (← textOf (c.given 0))
  let v ← d.value
  if !(← isFunction (c.given 1)) then return v
  revised (c.given 1) chain (← recordOf [("", v)]) (.text []) (some d)

/-! ## Text as it stands -/

/-- An object that is written as a text of its own, which writes a plain value. -/
def rawForm : Native := fun c => do
  let t ← textOf (c.given 0)
  match ← readNotation t with
  | .plain _ _ =>
    let a ← allocated ⟨.branded .text [.string t], none, #[(Key.ofString "rawJSON", .ofValue (.string t))], true⟩
    freeze a
    return .object a
  | _ => fail .syntaxFault "Invalid value for JSON.rawJSON"

def notationEntries : List Entry :=
  [method "parse" 2 parseMethod,
    method "stringify" 3 fun c => do
      let w ← writingOf (c.given 1) (c.given 2)
      let holder : Run Value := recordOf [("", c.given 0)]
      return (← inNotation w chain [] [] holder (.text []) (c.given 0)).elim .undefined .string,
    method "rawJSON" 1 rawForm,
    method "isRawJSON" 1 fun c => do
      match c.given 0 with
      | .object a => return .truth ((← kindAt a) matches .branded .text _)
      | _ => return .truth false,
    tag "JSON"]

def notationParts : List Part := [⟨Landmark.jsonNotation.address, notationEntries⟩]

end Recurrence.Script.Library
