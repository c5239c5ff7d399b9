import Recurrence.Script.Library.Locale
import Recurrence.Script.Pattern
/-!
# The library: texts

Methods of texts, which count in units; and escapes by percent signs.
-/
namespace Recurrence.Script.Library

open Run

/-! ## Finding -/

/-- The first place from `start` on where units stand within others. -/
def findUnits (part : List Nat) : (start : Nat) → List Nat → Option Nat
  | start, us =>
    if part.isPrefixOf us then some start
    else match us with
      | [] => none
      | _ :: rest => findUnits part (start + 1) rest

/-- All places where units stand within others, each after the end of the one before. -/
def findAllUnits (part : List Nat) : (fuel start : Nat) → List Nat → List Nat
  | 0, _, _ => []
  | fuel + 1, start, us =>
    match findUnits part start us with
    | none => []
    | some i =>
      let step := Nat.max part.length 1
      if i - start + step ≤ us.length then
        i :: findAllUnits part fuel (i + step) (us.drop (i - start + step))
      else [i]

/-- The last place up to `start` where units stand within others. -/
def findLastUnits (part us : List Nat) : (start : Nat) → Option Nat
  | 0 => if part.isPrefixOf us then some 0 else none
  | start + 1 => if part.isPrefixOf (us.drop (start + 1)) then some (start + 1) else findLastUnits part us start

/-- A text cut at every place where a part stands. -/
def splitUnits (part us : List Nat) : List Text :=
  if part = [] then us.map fun u => ofUnits [u]
  else
    let cuts := findAllUnits part (us.length + 1) 0 us
    let starts := 0 :: cuts.map (· + part.length)
    (starts.zip (cuts ++ [us.length])).map fun (a, b) => ofUnits ((us.drop a).take (b - a))

/-! ## The text that a method works on -/

def thisText (method : String) (this : Value) : Run Text := do
  if this.isNothing then typeFail ("String.prototype." ++ method ++ " called on null or undefined")
  textOf this

/-- The longest text. -/
def longest : Nat := 536870888

def tooLong {α : Type} : Run α := rangeFail "Invalid string length"

/-- A method that makes a text of a text. -/
def ofText (name : String) (f : Text → Text) : Entry := method name 0 fun c => do
  return .string (f (← thisText name c.this))

def sliceBetween (us : List Nat) (start stop : Nat) : Value := .string (ofUnits ((us.drop start).take (stop - start)))

/-- A method on the units of a text. -/
def onUnits (name : String) (length : Nat) (f : List Nat → Summons → Run Value) : Entry :=
  method name length fun c => do f (unitsOf (← thisText name c.this)) c

/-- Whether a value stands for a pattern. -/
def isPattern (v : Value) : Run Bool := do
  match v with
  | .object a => match ← field v .matching with
    | .undefined => return ((← kindAt a) matches .pattern _ _)
    | w => return w.isTrue
  | _ => return false

/-- A method that looks for a text in a text. -/
def within (name : String) (default : Nat → Nat) (test : (part us : List Nat) → Nat → Bool) : Entry :=
  onUnits name 1 fun us c => do
    if ← isPattern (c.given 0) then
      typeFail ("First argument to String.prototype." ++ name ++ " must not be a regular expression")
    let part := unitsOf (← textOf (c.given 0))
    return .truth (test part us (← placeOr us.length (default us.length) (c.given 1)))

/-- Units that fill a text up to a length. -/
def filling (us : List Nat) (c : Summons) : Run (List Nat) := do
  let length := (← wholeOf (c.given 0)).toNat
  let filler ← match c.given 1 with
    | .undefined => pure [32]
    | v => do pure (unitsOf (← textOf v))
  if length ≤ us.length ∨ filler = [] then return []
  if longest < length then tooLong
  let missing := length - us.length
  return (List.replicate (missing / filler.length + 1) filler).flatten.take missing

/-- Calls the method of a value for texts, if it has one. -/
def delegated (name : String) (key : Key) (c : Summons) (otherwise : Text → Run Value) : Run Value := do
  if c.this.isNothing then typeFail ("String.prototype." ++ name ++ " called on null or undefined")
  let v := c.given 0
  if v.isObject then
    match ← method? v key with
    | some f => return ← call f v (c.this :: c.arguments.drop 1)
    | none => pure ()
  otherwise (← textOf c.this)

/-! ## Replacing -/

/-- A text that was found in another, with what groups found and what names stand for. -/
structure Finding where
  start : Nat
  found : Text
  groups : List Value
  names : Value

/-- The name between brackets at the start of a text, with what follows it. -/
def bracketedName? (t : Text) : Option (Text × Text) :=
  match t with
  | '<' :: cs =>
    let n := cs.takeWhile (· != '>')
    if n.length < cs.length then some (n, cs.drop (n.length + 1)) else none
  | _ => none

/-- A text with the marks for what was found filled in; every step uses up a character. -/
def replacement (f : Finding) (us : List Nat) : (fuel : Nat) → Text → Run Text
  | 0, _ => return []
  | _ + 1, [] => return []
  | fuel + 1, '$' :: cs => do
    let group (n : Nat) : Run Text := match f.groups.getD (n - 1) .undefined with
      | .undefined => return []
      | v => textOf v
    let digit (c : Char) : Nat := c.toNat - '0'.toNat
    match cs with
    | '$' :: cs => return '$' :: (← replacement f us fuel cs)
    | '&' :: cs => return f.found ++ (← replacement f us fuel cs)
    | '\x60' :: cs => return ofUnits (us.take f.start) ++ (← replacement f us fuel cs)
    | '\'' :: cs => return ofUnits (us.drop (f.start + unitCount f.found)) ++ (← replacement f us fuel cs)
    | c :: cs =>
      let two : Option (Nat × Text) := match cs with
        | d :: ds =>
          let n := 10 * digit c + digit d
          if c.isDigit && d.isDigit && Nat.ble 1 n && Nat.ble n f.groups.length then some (n, ds) else none
        | [] => none
      match two with
      | some (n, ds) => return (← group n) ++ (← replacement f us fuel ds)
      | none =>
        if c.isDigit && Nat.ble 1 (digit c) && Nat.ble (digit c) f.groups.length then
          return (← group (digit c)) ++ (← replacement f us fuel cs)
        match f.names, bracketedName? (c :: cs) with
        | .undefined, _ => return '$' :: (← replacement f us fuel (c :: cs))
        | names, some (n, rest) =>
          let t ← match ← field names (.ofText n) with
            | .undefined => pure []
            | v => textOf v
          return t ++ (← replacement f us fuel rest)
        | _, none => return '$' :: (← replacement f us fuel (c :: cs))
    | [] => return ['$']
  | fuel + 1, c :: cs => do return c :: (← replacement f us fuel cs)

/-- What takes the place of something found: a text, or what a function makes of it. -/
def substitute (f : Finding) (t : Text) (us : List Nat) (byWhat : Value) : Run Text := do
  if ← isFunction byWhat then
    let names := if f.names matches .undefined then [] else [f.names]
    textOf (← call byWhat .undefined (.string f.found :: f.groups ++ [.ofNat f.start, .string t] ++ names))
  else
    let t ← textOf byWhat
    replacement f us (t.length + 1) t

/-- Puts something else in the place of everything found; `done` units are behind. -/
def replaced (t : Text) (us : List Nat) (byWhat : Value) : (done : Nat) → List Finding → Run (List Text)
  | done, [] => return [ofUnits (us.drop done)]
  | done, f :: rest => do
    let middle ← substitute f t us byWhat
    if f.start < done then replaced t us byWhat done rest
    else
      let more ← replaced t us byWhat (f.start + unitCount f.found) rest
      return ofUnits ((us.drop done).take (f.start - done)) :: middle :: more

def replacing (name : String) (all : Bool) : Native := fun c => do
  if all && (← isPattern (c.given 0)) then
    let flags ← textOf (← named (c.given 0) "flags")
    if !flags.contains 'g' then typeFail "replaceAll must be called with a global RegExp"
  delegated name .replace c fun t => do
    let part ← textOf (c.given 0)
    let byWhat ← if ← isFunction (c.given 1) then pure (c.given 1) else do pure (Value.string (← textOf (c.given 1)))
    let us := unitsOf t
    let places := findAllUnits (unitsOf part) (us.length + 1) 0 us
    let found := (if all then places else places.take 1).map fun i => Finding.mk i part [] .undefined
    return .string (concatenated (← replaced t us byWhat 0 found))

/-- The number of parts that a text is cut into at most. -/
def cutLimit (v : Value) : Run Nat := do
  match v with
  | .undefined => return Key.placeBound
  | v => return (Number.bits (← numberOf v)).toNat

def splitMethod : Native := fun c => delegated "split" .split c fun t => do
  let limit ← cutLimit (c.given 1)
  let part ← match c.given 0 with
    | .undefined => pure none
    | v => do pure (some (← textOf v))
  match part with
  | none => list (if limit = 0 then [] else [.string t])
  | some part => list (((splitUnits (unitsOf part) (unitsOf t)).take limit).map .string)

/-- Searches with a pattern that a value becomes. -/
def searchingWith (name : String) (key : Key) (flags : String) : Native := fun c => do
  if key == .matchAll && (← isPattern (c.given 0)) then
    let flags ← named (c.given 0) "flags"
    if flags.isNothing then typeFail "String.prototype.matchAll called with a non-global RegExp argument"
    if !(← textOf flags).contains 'g' then
      typeFail "String.prototype.matchAll called with a non-global RegExp argument"
  delegated name key c fun t => do
    let source := if (c.given 0) matches .undefined then [] else [c.given 0]
    let source := if source.isEmpty && flags != "" then [.string []] else source
    let p ← construct (.object Family.pattern.maker) (source ++ if flags = "" then [] else [.ofString flags])
    match ← method? p key with
    | some f => call f p [.string t]
    | none => notFunction name

/-! ## Codes -/

def codeText : Native := fun c => do
  return .string (ofUnits (← c.arguments.mapM fun v => do return ((← wholeOf v) % 65536).toNat))

def characterText : Native := fun c => do
  let codes ← c.arguments.mapM fun v => do
    let x ← numberOf v
    match Number.index? x with
    | some n => if n ≤ 0x10FFFF then pure n else rangeFail ("Invalid code point " ++ String.ofList (← textOf v))
    | none => rangeFail ("Invalid code point " ++ String.ofList (← textOf v))
  return .string (ofUnits (codes.flatMap fun n => unitsOfChar (Word.characterOf n)))

/-- The raw texts of a template with values between. -/
def rawText : Native := fun c => do
  let raw ← named (c.given 0) "raw"
  if raw.isNothing then typeFail "Cannot convert undefined or null to object"
  let n ← lengthOf raw
  let parts ← (List.range n).mapM fun i => do
    let t ← textOf (← field raw (.ofNat i))
    if i + 1 < n && i + 1 < c.arguments.length then return appended t (← textOf (c.given (i + 1)))
    return t
  return .string (concatenated parts)

def textEntries : List Entry :=
  [method "fromCharCode" 1 codeText, method "fromCodePoint" 1 characterText, method "raw" 1 rawText]

/-- A text in the form that a name stands for: letters with marks as one character or as several. -/
def normalized (form : Text) (t : Text) : Run Text := do
  match String.ofList form with
  | "NFC" => return Letter.together t
  | "NFKC" => return Letter.together t
  | "NFD" => return t.flatMap Letter.apart
  | "NFKD" => return t.flatMap Letter.apart
  | _ => rangeFail "The normalization form should be one of NFC, NFD, NFKC, NFKD."

/-- A method that puts a text into a mark of the web. -/
def tagged (name element about : String) : Entry :=
  method name (if about = "" then 0 else 1) fun c => do
    let t ← thisText name c.this
    let value ← if about = "" then pure [] else do
      let v ← textOf (c.given 0)
      pure (' ' :: about.toList ++ "=\"".toList ++
        (v.flatMap fun c => if c = '"' then "&quot;".toList else [c]) ++ ['"'])
    return .string ('<' :: element.toList ++ value ++ '>' :: t ++ "</".toList ++ element.toList ++ ['>'])

def textPrototypeEntries : List Entry :=
  [tagged "anchor" "a" "name",
    onUnits "at" 1 fun us c => do
      let n ← wholeOf (c.given 0)
      let i := if n < 0 then us.length + n else n
      if i < 0 ∨ us.length ≤ i then return .undefined else return sliceBetween us i.toNat (i.toNat + 1),
    tagged "big" "big" "", tagged "bold" "b" "",
    onUnits "charAt" 1 fun us c => do
      let n ← wholeOf (c.given 0)
      if n < 0 then return .string [] else return sliceBetween us n.toNat (n.toNat + 1),
    onUnits "charCodeAt" 1 fun us c => do
      let n ← wholeOf (c.given 0)
      return (if n < 0 then none else us[n.toNat]?).elim (.number Number.notNumber) .ofNat,
    onUnits "codePointAt" 1 fun us c => do
      let n ← wholeOf (c.given 0)
      return (if n < 0 then none else (ofUnits (us.drop n.toNat)).head?).elim .undefined fun c =>
        .ofNat (Pattern.codeOf c),
    method "concat" 1 fun c => do
      let t ← thisText "concat" c.this
      return .string (concatenated (t :: (← c.arguments.mapM textOf))),
    within "endsWith" id fun part us i => part.isSuffixOf (us.take i),
    tagged "fontcolor" "font" "color",
    within "includes" (fun _ => 0) fun part us i => (findUnits part i (us.drop i)).isSome,
    onUnits "indexOf" 1 fun us c => do
      let part := unitsOf (← textOf (c.given 0))
      let start ← placeOr us.length 0 (c.given 1)
      return ofPlace (findUnits part start (us.drop start)),
    method "isWellFormed" 0 fun c => do return .truth (!(← thisText "isWellFormed" c.this).any isHalf),
    tagged "italics" "i" "",
    onUnits "lastIndexOf" 1 fun us c => do
      let part := unitsOf (← textOf (c.given 0))
      let x ← numberOf (c.given 1)
      let start := if x.isNaN then us.length else Nat.min (wholePart x).toNat us.length
      return ofPlace (findLastUnits part us start),
    tagged "link" "a" "href",
    method "localeCompare" 1 fun c => do
      let t ← thisText "localeCompare" c.this
      let u ← textOf (c.given 0)
      compareIn c t u,
    method "match" 1 (searchingWith "match" .matching ""), method "matchAll" 1 (searchingWith "matchAll" .matchAll "g"),
    method "normalize" 0 fun c => do
      let t ← thisText "normalize" c.this
      let form ← match c.given 0 with
        | .undefined => pure "NFC".toList
        | v => textOf v
      return .string (← normalized form t),
    onUnits "padEnd" 1 fun us c => do return .string (ofUnits (us ++ (← filling us c))),
    onUnits "padStart" 1 fun us c => do return .string (ofUnits ((← filling us c) ++ us)),
    method "repeat" 1 fun c => do
      let t ← thisText "repeat" c.this
      let x ← numberOf (c.given 0)
      let n := wholePart x
      if n < 0 ∨ Number.bound ≤ n then rangeFail ("Invalid count value: " ++ String.ofList (← textOf (c.given 0)))
      if (longest : Int) < n * t.length then tooLong
      return .string (concatenated (List.replicate n.toNat t)),
    method "replace" 2 (replacing "replace" false), method "replaceAll" 2 (replacing "replaceAll" true),
    method "search" 1 (searchingWith "search" .search ""),
    onUnits "slice" 2 fun us c => do
      let start ← relativeOr us.length 0 (c.given 0)
      return sliceBetween us start (← relativeOr us.length us.length (c.given 1)),
    tagged "small" "small" "", method "split" 2 splitMethod, tagged "strike" "strike" "", tagged "sub" "sub" "",
    onUnits "substr" 2 fun us c => do
      let start ← relativeOr us.length 0 (c.given 0)
      let length ← placeOr us.length us.length (c.given 1)
      return sliceBetween us start (start + length),
    onUnits "substring" 2 fun us c => do
      let a ← placeOr us.length 0 (c.given 0)
      let b ← placeOr us.length us.length (c.given 1)
      return sliceBetween us (Nat.min a b) (Nat.max a b),
    tagged "sup" "sup" "",
    within "startsWith" (fun _ => 0) fun part us i => part.isPrefixOf (us.drop i),
    method "toString" 0 fun c => do
      match ← unwrapped c.this with
      | .string t => return .string t
      | _ => typeFail "String.prototype.toString requires that 'this' be a String",
    method "toWellFormed" 0 fun c => do return .string (withoutHalves (← thisText "toWellFormed" c.this)),
    ofText "trim" Number.withoutSpace, ofText "trimStart" Number.afterSpace,
    .same (Key.ofString "trimLeft") (Key.ofString "trimStart") false,
    ofText "trimEnd" fun t => (Number.afterSpace t.reverse).reverse,
    .same (Key.ofString "trimRight") (Key.ofString "trimEnd") false,
    ofText "toLocaleLowerCase" (Letter.loweredText false),
    ofText "toLocaleUpperCase" (·.flatMap Letter.raised),
    ofText "toLowerCase" (Letter.loweredText false), ofText "toUpperCase" (·.flatMap Letter.raised),
    method "valueOf" 0 fun c => do
      match ← unwrapped c.this with
      | .string t => return .string t
      | _ => typeFail "String.prototype.valueOf requires that 'this' be a String",
    .method .iterator "[Symbol.iterator]".toList 0 fun c => do
      let t ← thisText "[Symbol.iterator]" c.this
      allocate ⟨.walk (.text t), some Family.textWalk.prototype, #[], true⟩]

/-- The text of a value when texts are made of it; symbols have one, too. -/
def convertText (vs : List Value) (plain : Bool) : Run Value := do
  match vs with
  | [] => return .string []
  | .symbol id :: _ =>
    if plain then return .ofString (← keyText (.symbol id))
    return .string (← textOf (.symbol id))
  | v :: _ => return .string (← textOf v)

def makeText : Native := fun c => do
  let v ← convertText c.arguments (c.target matches .undefined)
  if c.target matches .undefined then return v
  make c.target .text (.wrapped v)

/-! ## Escapes by percent signs -/

/-- Characters that stand for themselves in a part of an address. -/
def plainInPart : Text := "-_.!~*'()".toList

/-- Characters that have a meaning in an address. -/
def meantInAddress : Text := ";/?:@&=+$,#".toList

/-- A number of two digits to the base 16. -/
def twoDigits (n : Nat) : Text :=
  let ds := Nat.toDigits 16 n
  ((if n < 16 then ['0'] else []) ++ ds).map Char.toUpper

/-- A text whose characters other than letters, digits and some that are kept are written as bytes. -/
def percentEncoded (kept : Text) (t : Text) : Text :=
  t.flatMap fun c =>
    if c.isAlphanum || kept.contains c then [c]
    else (String.singleton c).toUTF8.toList.flatMap fun b => '%' :: twoDigits b.toNat

/-- The bytes that escapes at the start of a text write, with what follows them. -/
def escapedBytes : Text → List UInt8 × Text
  | '%' :: c :: d :: cs =>
    if Word.isDigitOf 16 c && Word.isDigitOf 16 d then
      let (bs, rest) := escapedBytes cs
      (UInt8.ofNat (Word.valueIn 16 [c, d]) :: bs, rest)
    else ([], '%' :: c :: d :: cs)
  | t => ([], t)

/-- A text with its escapes resolved, but not those of the characters that are kept. -/
def percentDecoded? (kept : Text) : (fuel : Nat) → Text → Option Text
  | 0, _ => some []
  | _ + 1, [] => some []
  | fuel + 1, '%' :: cs =>
    match escapedBytes ('%' :: cs) with
    | ([], _) => none
    | (bs, rest) => (String.fromUTF8? (ByteArray.mk bs.toArray)).bind fun s =>
      (percentDecoded? kept fuel rest).map fun u =>
        s.toList.flatMap (fun c => if kept.contains c then '%' :: twoDigits c.toNat else [c]) ++ u
  | fuel + 1, c :: cs => (percentDecoded? kept fuel cs).map (c :: ·)

def badAddress {α : Type} : Run α := fail .addressFault "URI malformed"

def percentEncoding (kept : Text) : Native := fun c => do
  let t ← textOf (c.given 0)
  if t.any isHalf then badAddress
  return .string (percentEncoded kept t)

def percentDecoding (kept : Text) : Native := fun c => do
  let t ← textOf (c.given 0)
  match percentDecoded? kept (t.length + 1) t with
  | some u => return .string u
  | none => badAddress

/-- A text with units other than some letters and marks written in the base 16. -/
def unitsEscaped (t : Text) : Text :=
  (unitsOf t).flatMap fun u =>
    let c := Char.ofNat u
    if u < 128 && (c.isAlphanum || "@*_+-./".toList.contains c) then [c]
    else if u < 256 then '%' :: twoDigits u
    else "%u".toList ++ twoDigits (u / 256) ++ twoDigits (u % 256)

def unitsUnescaped : (fuel : Nat) → Text → List Nat
  | 0, _ => []
  | _ + 1, [] => []
  | fuel + 1, '%' :: 'u' :: cs => match Word.hexCode? 4 cs with
    | some (n, rest) => n :: unitsUnescaped fuel rest
    | none => 37 :: unitsUnescaped fuel ('u' :: cs)
  | fuel + 1, '%' :: cs => match Word.hexCode? 2 cs with
    | some (n, rest) => n :: unitsUnescaped fuel rest
    | none => 37 :: unitsUnescaped fuel cs
  | fuel + 1, c :: cs => unitsOfChar c ++ unitsUnescaped fuel cs

def addressEntries : List Entry :=
  [method "decodeURI" 1 (percentDecoding meantInAddress), method "decodeURIComponent" 1 (percentDecoding []),
    method "encodeURI" 1 (percentEncoding (plainInPart ++ meantInAddress)),
    method "encodeURIComponent" 1 (percentEncoding plainInPart),
    method "escape" 1 fun c => do return .string (unitsEscaped (← textOf (c.given 0))),
    method "unescape" 1 fun c => do
      let t ← textOf (c.given 0)
      return .string (ofUnits (unitsUnescaped (t.length + 1) t))]

def textPlans : List Plan := [{ family := .text, kind := .wrapped (.string []), maker := some (1, makeText) }]

def textParts : List Part :=
  [⟨Family.text.maker, textEntries⟩, ⟨Family.text.prototype, textPrototypeEntries⟩,
    ⟨Landmark.globalObject.address, addressEntries⟩]

end Recurrence.Script.Library
