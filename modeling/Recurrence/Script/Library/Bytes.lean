import Recurrence.Script.Library.List
/-!
# The library: bytes

Rows of bytes, which can be seen as lists of numbers of one size or asked for single numbers, and which texts can be
written as.
-/
namespace Recurrence.Script.Library

open Run

/-! ## Rows of bytes -/

/-- The bytes of a value that is a row of them. -/
def bytes? (v : Value) : Run (Option (Nat × ByteArray)) := do
  match v with
  | .object a => match ← kindAt a with
    | .bytes content => return some (a, content)
    | _ => return none
  | _ => return none

def thisBytes (method : String) (v : Value) : Run (Nat × ByteArray) := do
  match ← bytes? v with
  | some b => return b
  | none => incompatible ("ArrayBuffer.prototype." ++ method) v

def zeros (n : Nat) : ByteArray := ⟨Array.replicate n 0⟩

/-- The greatest number of bytes in a row. -/
def mostBytes : Nat := 4294967296

def newBytes (content : ByteArray) : Run Nat := allocated ⟨.bytes content, some Family.buffer.prototype, #[], true⟩

def makeBytes : Native := fun c => do
  let n ← indexOf (c.given 0) "Invalid array buffer length"
  if mostBytes < n then rangeFail "Array buffer allocation failed"
  make c.target .buffer (.bytes (zeros n))

def bufferEntries : List Entry :=
  [method "isView" 1 fun c => do
      match c.given 0 with
      | .object a => match ← kindAt a with
        | .view _ _ _ _ => return .truth true
        | .dataView _ _ _ => return .truth true
        | _ => return .truth false
      | _ => return .truth false,
    speciesEntry]

def bufferPrototypeEntries : List Entry :=
  [teller "byteLength" fun c => do return .ofNat (← thisBytes "byteLength" c.this).2.size,
    method "slice" 2 fun c => do
      let (_, content) ← thisBytes "slice" c.this
      let n := content.size
      let start ← relativeOr n 0 (c.given 0)
      let stop ← relativeOr n n (c.given 1)
      return .object (← newBytes (content.extract start stop)),
    teller "maxByteLength" fun c => do return .ofNat (← thisBytes "maxByteLength" c.this).2.size,
    teller "resizable" fun c => do
      let _ ← thisBytes "resizable" c.this
      return .truth false,
    teller "detached" fun c => do
      let _ ← thisBytes "detached" c.this
      return .truth false,
    tag "ArrayBuffer"]

/-! ## Lists of numbers -/

/-- A list of numbers: what they are, and which bytes of which row they take. -/
structure View where
  address : Nat
  element : Element
  buffer : Nat
  start : Nat
  count : Nat

def view? (v : Value) : Run (Option View) := do
  match v with
  | .object a => match ← kindAt a with
    | .view e buffer start count => return some ⟨a, e, buffer, start, count⟩
    | _ => return none
  | _ => return none

def thisView (v : Value) : Run View := do
  match ← view? v with
  | some w => return w
  | none => typeFail "this is not a typed array."

namespace View

def item (w : View) (i : Nat) : Run Value := reading fun s =>
  w.element.read (bytesOf s w.buffer) (w.start + i * w.element.size)

def items (w : View) : Run (List Value) := reading fun s =>
  let content := bytesOf s w.buffer
  (List.range w.count).map fun i => w.element.read content (w.start + i * w.element.size)

/-- Puts a value into a place, if there is such a place. -/
def setItem (w : View) (i : Nat) (v : Value) : Run Unit := do
  let v ← if v.isObject then primitive .number v else pure v
  let v ← elementValue w.element v
  if i < w.count then writeElement w.element w.buffer (w.start + i * w.element.size) v

/-- Puts values into places one after another. -/
def setItems (w : View) : (start : Nat) → List Value → Run Unit
  | _, [] => return
  | i, v :: vs => do
    w.setItem i v
    w.setItems (i + 1) vs

end View

def badCount {α : Type} (n : Nat) : Run α := rangeFail ("Invalid typed array length: " ++ toString n)

/-- A new list of zeros. -/
def newView (target : Value) (e : Element) (count : Nat) : Run Value := do
  if mostBytes < count * e.size then badCount count
  let buffer ← newBytes (zeros (count * e.size))
  make target e.family (.view e buffer 0 count)

/-- A new list of values. -/
def viewOf (target : Value) (e : Element) (vs : List Value) : Run Value := do
  let v ← newView target e vs.length
  match ← view? v with
  | some w => w.setItems 0 vs
  | none => pure ()
  return v

/-- A list that sees a row of bytes. -/
def viewOver (target : Value) (e : Element) (buffer size : Nat) (offset length : Value) : Run Value := do
  let name := e.family.name
  let start ← indexOf offset ("Start offset " ++ (← noted offset) ++ " is outside the bounds of the buffer")
  if start % e.size ≠ 0 then
    rangeFail ("start offset of " ++ name ++ " should be a multiple of " ++ toString e.size)
  match length with
  | .undefined =>
    if size % e.size ≠ 0 then
      rangeFail ("byte length of " ++ name ++ " should be a multiple of " ++ toString e.size)
    if size < start then rangeFail ("Start offset " ++ toString start ++ " is outside the bounds of the buffer")
    make target e.family (.view e buffer start ((size - start) / e.size))
  | v =>
    let count ← indexOf v ("Invalid typed array length: " ++ (← noted v))
    if size < start + count * e.size then badCount count
    make target e.family (.view e buffer start count)

/-- The items of a list, of a walk, or of what has places and a length. -/
def itemsFrom (v : Value) : Run (List Value) := do
  match ← view? v with
  | some w => w.items
  | none => match ← method? v .iterator with
    | some f => return (← rest (← walkWith f v)).toList
    | none => itemsOf v

def makingView (e : Element) : Native := fun c => do
  match c.given 0 with
  | .object a => match ← kindAt a with
    | .bytes content => viewOver c.target e a content.size (c.given 1) (c.given 2)
    | .view e' _ _ _ =>
      if (e' matches .big _) != (e matches .big _) then typeFail "Cannot mix BigInt and other types, use explicit conversions"
      viewOf c.target e (← itemsFrom (c.given 0))
    | _ => viewOf c.target e (← itemsFrom (c.given 0))
  | v => newView c.target e (← indexOf v ("Invalid typed array length: " ++ (← noted v)))

/-- The maker of lists like a given one. -/
def makerLike (w : View) : Run Value := do
  let usual := Value.object w.element.family.maker
  let c ← named (.object w.address) "constructor"
  if c matches .undefined then return usual
  if !c.isObject then typeFail "object.constructor is not a constructor"
  let species ← field c .species
  if species.isNothing then return usual
  if !(← isMaker species) then typeFail "object.constructor[Symbol.species] is not a constructor"
  return species

/-- A list made by a function for some items. -/
def madeBy (maker : Value) (vs : List Value) : Run Value := do
  let v ← construct maker [.ofNat vs.length]
  let w ← thisView v
  if w.count < vs.length then typeFail "Derived TypedArray constructor created an array which was too small"
  w.setItems 0 vs
  return v

/-- A list of items that is made as another one is. -/
def viewLike (w : View) (vs : List Value) : Run Value := do madeBy (← makerLike w) vs

/-! ## Methods of lists of numbers -/

/-- Methods that work on these lists as on all others. -/
def sharedMethods : List String :=
  ["at", "copyWithin", "find", "findIndex", "findLast", "findLastIndex", "lastIndexOf", "reverse", "includes",
    "indexOf", "join", "keys", "entries", "forEach", "every", "some", "reduce", "reduceRight", "toLocaleString"]

def sharedEntries : List Entry :=
  listPrototypeEntries.filterMap fun
    | .method k name length f =>
      if sharedMethods.contains (String.ofList name) then
        some (.method k name length fun c => do
          let _ ← thisView c.this
          f c)
      else none
    | _ => none

/-- Whether a number stands before another; a negative zero stands before zero, and what is no number comes last. -/
def standsBefore : Value → Value → Bool
  | .number x, .number y => x < y || (!x.isNaN && y.isNaN) || (x == 0 && y == 0 && 1 / x < 1 / y)
  | .bigNumber m, .bigNumber n => decide (m < n)
  | _, _ => false

/-- Numbers in order, by a function if there is one. -/
def numbersInOrder (f : Value) (vs : List Value) : Run (List Value) := do
  match f with
  | .undefined => return vs.mergeSort fun v w => !standsBefore w v
  | f => sorted (comparison f) 64 vs

/-- Something told of a list of numbers. -/
def viewTeller (name : String) (f : View → Value) : Entry := teller name fun c => do
  match ← view? c.this with
  | some w => return f w
  | none => incompatible ("get TypedArray.prototype." ++ name) c.this

/-- A method on the items of a list. -/
def onView (name : String) (length : Nat) (f : View → Summons → Run Value) : Entry :=
  method name length fun c => do f (← thisView c.this) c

def viewPrototypeEntries : List Entry :=
  [viewTeller "buffer" fun w => .object w.buffer, viewTeller "byteLength" fun w => .ofNat (w.count * w.element.size),
    viewTeller "byteOffset" fun w => .ofNat w.start, viewTeller "length" fun w => .ofNat w.count] ++ sharedEntries ++
  [onView "fill" 1 fun w c => do
      let v ← if (c.given 0).isObject then primitive .number (c.given 0) else pure (c.given 0)
      let v ← elementValue w.element v
      let start ← relativeOr w.count 0 (c.given 1)
      let stop ← relativeOr w.count w.count (c.given 2)
      w.setItems start (List.replicate (stop - start) v)
      return c.this,
    onView "filter" 1 fun w c => do
      let f := c.given 0
      expectFunction f
      let kept ← (List.range w.count).filterMapM fun i => do
        let v ← w.item i
        return if (← call f (c.given 1) [v, .ofNat i, c.this]).isTrue then some v else none
      viewLike w kept,
    onView "map" 1 fun w c => do
      let f := c.given 0
      expectFunction f
      viewLike w (← (List.range w.count).mapM fun i => do call f (c.given 1) [← w.item i, .ofNat i, c.this]),
    onView "set" 1 fun w c => do
      let offset ← wholeOf (c.given 1)
      if offset < 0 then rangeFail "offset is out of bounds"
      let vs ← match ← view? (c.given 0) with
        | some source => source.items
        | none => do
          let a ← objectOf (c.given 0)
          (List.range (← sizeOf a)).mapM fun i => itemAt a i
      if (w.count : Int) < offset + vs.length then rangeFail "offset is out of bounds"
      w.setItems offset.toNat vs
      return .undefined,
    onView "slice" 2 fun w c => do
      let start ← relativeOr w.count 0 (c.given 0)
      let stop ← relativeOr w.count w.count (c.given 1)
      viewLike w (((← w.items).drop start).take (stop - start)),
    onView "sort" 1 fun w c => do
      expectComparison (c.given 0)
      w.setItems 0 (← numbersInOrder (c.given 0) (← w.items))
      return c.this,
    onView "subarray" 2 fun w c => do
      let start ← relativeOr w.count 0 (c.given 0)
      let stop ← relativeOr w.count w.count (c.given 1)
      construct (← makerLike w)
        [.object w.buffer, .ofNat (w.start + start * w.element.size), .ofNat (stop - start)],
    onView "toReversed" 0 fun w _ => do viewOf .undefined w.element (← w.items).reverse,
    onView "toSorted" 1 fun w c => do
      expectComparison (c.given 0)
      viewOf .undefined w.element (← numbersInOrder (c.given 0) (← w.items)),
    onView "values" 0 fun _ c => walkOfList .values c, .same .iterator (Key.ofString "values") false,
    onView "with" 2 fun w c => do
      let i ← wholeOf (c.given 0)
      let i := if i < 0 then w.count + i else i
      let v ← elementValue w.element (← primitive .number (c.given 1))
      if i < 0 ∨ (w.count : Int) ≤ i then rangeFail "Invalid typed array index"
      viewOf .undefined w.element ((← w.items).set i.toNat v),
    method "toString" 0 fun c => invoke c.this "join" [],
    signTeller .toStringTag "toStringTag" fun c => do
      match ← view? c.this with
      | some w => return .ofString w.element.family.name
      | none => return .undefined]

/-- A view of the items of a value, passed through `f` when it is given. -/
def viewFrom (c : Summons) (f : Value) : Run Value := do
  if !(← isMaker c.this) then typeFail ((← noted c.this) ++ " is not a constructor")
  if !(f matches .undefined) then expectFunction f
  if (c.given 0).isNothing then typeFail ((← noted (c.given 0)) ++ " is not iterable")
  let vs ← itemsFrom (.object (← objectOf (c.given 0)))
  let vs ← if f matches .undefined then pure vs else
    vs.zipIdx.mapM fun (v, i) => call f (c.given 2) [v, .ofNat i]
  madeBy c.this vs

def viewMakerEntries : List Entry :=
  [method "of" 0 fun c => do
      if !(← isMaker c.this) then typeFail ((← noted c.this) ++ " is not a constructor")
      madeBy c.this c.arguments,
    method "from" 1 fun c => viewFrom c (c.given 1),
    speciesEntry]

/-! ## Single numbers -/

/-- Reads or writes single numbers in a row of bytes: the row, and which of its bytes. -/
def thisDataView (method : String) (v : Value) : Run (Nat × Nat × Nat) := do
  match v with
  | .object a => match ← kindAt a with
    | .dataView buffer start count => return (buffer, start, count)
    | _ => incompatible ("DataView.prototype." ++ method) v
  | _ => incompatible ("DataView.prototype." ++ method) v

def makeDataView : Native := fun c => do
  match ← bytes? (c.given 0) with
  | none => typeFail "First argument to DataView constructor must be an ArrayBuffer"
  | some (a, content) =>
    let outside {α : Type} : Run α := do
      rangeFail ("Start offset " ++ (← noted (c.given 1)) ++ " is outside the bounds of the buffer")
    let start ← indexOf (c.given 1) ("Start offset " ++ (← noted (c.given 1)) ++ " is outside the bounds of the buffer")
    if content.size < start then outside
    match c.given 2 with
    | .undefined => make c.target .dataView (.dataView a start (content.size - start))
    | v =>
      let complaint := "Invalid DataView length " ++ (← noted v)
      let count ← indexOf v complaint
      if content.size < start + count then rangeFail complaint
      make c.target .dataView (.dataView a start count)

/-- The numbers that can be read and written, with their names. -/
def dataElements : List (String × Element) :=
  [("Int8", .int 1 true), ("Uint8", .int 1 false), ("Int16", .int 2 true), ("Uint16", .int 2 false),
    ("Int32", .int 4 true), ("Uint32", .int 4 false), ("Float32", .float32), ("Float64", .float64),
    ("BigInt64", .big true), ("BigUint64", .big false)]

def outsideView {α : Type} : Run α := rangeFail "Offset is outside the bounds of the DataView"

def readingEntry (name : String) (e : Element) : Entry := method ("get" ++ name) 1 fun c => do
  let (buffer, start, count) ← thisDataView ("get" ++ name) c.this
  let i ← indexOf (c.given 0) "Offset is outside the bounds of the DataView"
  if count < i + e.size then outsideView
  let bytes ← reading fun s => Element.bytesAt (bytesOf s buffer) (start + i) e.size
  return e.read ⟨(if (c.given 1).isTrue then bytes else bytes.reverse).toArray⟩ 0

def writingEntry (name : String) (e : Element) : Entry := method ("set" ++ name) 2 fun c => do
  let (buffer, start, count) ← thisDataView ("set" ++ name) c.this
  let i ← indexOf (c.given 0) "Offset is outside the bounds of the DataView"
  let v ← elementValue e (← primitive .number (c.given 1))
  if count < i + e.size then outsideView
  let bytes := Element.bytesAt (e.write v 0 (zeros e.size)) 0 e.size
  let bytes := if (c.given 2).isTrue then bytes else bytes.reverse
  writeElement (.int e.size false) buffer (start + i) (.number 0)
  for (b, j) in bytes.zipIdx do
    writeElement (.int 1 false) buffer (start + i + j) (.ofNat b.toNat)
  return .undefined

def dataViewEntries : List Entry :=
  [teller "buffer" fun c => do return .object (← thisDataView "buffer" c.this).1,
    teller "byteLength" fun c => do return .ofNat (← thisDataView "byteLength" c.this).2.2,
    teller "byteOffset" fun c => do return .ofNat (← thisDataView "byteOffset" c.this).2.1] ++
  dataElements.map (fun (n, e) => readingEntry n e) ++ dataElements.map (fun (n, e) => writingEntry n e) ++
  [tag "DataView"]

/-! ## Texts as bytes -/

/-- The bytes that write a text. -/
def bytesOfText (t : Text) : ByteArray := (String.ofList (withoutHalves t)).toUTF8

/-- The number of bytes that follow a first one, and the least second byte and the greatest one. -/
def following? (b : Nat) : Option (Nat × Nat × Nat) :=
  if Nat.blt b 0xC2 then none
  else if Nat.blt b 0xE0 then some (1, 0x80, 0xBF)
  else if b == 0xE0 then some (2, 0xA0, 0xBF)
  else if b == 0xED then some (2, 0x80, 0x9F)
  else if Nat.blt b 0xF0 then some (2, 0x80, 0xBF)
  else if b == 0xF0 then some (3, 0x90, 0xBF)
  else if Nat.blt b 0xF4 then some (3, 0x80, 0xBF)
  else if b == 0xF4 then some (3, 0x80, 0x8F)
  else none

/-- The following bytes of a character as far as they are right, each with its six bits. -/
def followers : (count low high code : Nat) → List Nat → Nat × Nat × List Nat
  | 0, _, _, code, bs => (0, code, bs)
  | count + 1, low, high, code, b :: bs =>
    if Nat.ble low b && Nat.ble b high then followers count 0x80 0xBF (code * 64 + b % 64) bs
    else (count + 1, code, b :: bs)
  | count + 1, _, _, code, [] => (count + 1, code, [])

/-- The characters that bytes write; nothing stands for what writes none. -/
def charactersOf : (fuel : Nat) → List Nat → List (Option Char)
  | 0, _ => []
  | _ + 1, [] => []
  | fuel + 1, b :: bs =>
    if Nat.blt b 0x80 then some (Char.ofNat b) :: charactersOf fuel bs
    else match following? b with
      | none => none :: charactersOf fuel bs
      | some (count, low, high) =>
        let first := if count == 1 then b % 32 else if count == 2 then b % 16 else b % 8
        match followers count low high first bs with
        | (0, code, rest) => some (Char.ofNat code) :: charactersOf fuel rest
        | (_, _, rest) => none :: charactersOf fuel rest

/-- The bytes that a value holds. -/
def bytesIn (v : Value) : Run (List Nat) := do
  let numbers (b : ByteArray) : List Nat := b.toList.map UInt8.toNat
  match v with
  | .undefined => return []
  | .object a => match ← kindAt a with
    | .bytes content => return numbers content
    | .view e buffer start count =>
      return numbers (← reading fun s => (bytesOf s buffer).extract start (start + count * e.size))
    | .dataView buffer start count =>
      return numbers (← reading fun s => (bytesOf s buffer).extract start (start + count))
    | _ => typeFail "The \"list\" argument must be an instance of SharedArrayBuffer, ArrayBuffer or ArrayBufferView."
  | _ => typeFail "The \"list\" argument must be an instance of SharedArrayBuffer, ArrayBuffer or ArrayBufferView."

def newByteList (bs : List Nat) : Run Value := do
  let buffer ← newBytes ⟨(bs.map UInt8.ofNat).toArray⟩
  make .undefined .uint8 (.view (.int 1 false) buffer 0 bs.length)

def encoderEntries : List Entry :=
  [teller "encoding" fun _ => return .ofString "utf-8",
    method "encode" 0 fun c => do
      let t ← match c.given 0 with
        | .undefined => pure []
        | v => textOf v
      newByteList ((bytesOfText t).toList.map UInt8.toNat),
    tag "TextEncoder"]

def makeDecoder : Native := fun c => do
  let fatal ← if (c.given 1).isObject then named (c.given 1) "fatal" else pure .undefined
  let keeps ← if (c.given 1).isObject then named (c.given 1) "ignoreBOM" else pure .undefined
  make c.target .decoder (.branded .decoder [.truth fatal.isTrue, .truth keeps.isTrue])

def decoderEntries : List Entry :=
  [teller "encoding" fun _ => return .ofString "utf-8",
    method "decode" 0 fun c => do
      let (fatal, keeps) ← match c.this with
        | .object a => match ← kindAt a with
          | .branded .decoder [fatal, keeps] => pure (fatal.isTrue, keeps.isTrue)
          | _ => incompatible "TextDecoder.prototype.decode" c.this
        | v => incompatible "TextDecoder.prototype.decode" v
      let bs ← bytesIn (c.given 0)
      let bs := if !keeps && bs.take 3 == [0xEF, 0xBB, 0xBF] then bs.drop 3 else bs
      let cs := charactersOf (bs.length + 1) bs
      if fatal && cs.any Option.isNone then typeFail "The encoded data was not valid for encoding utf-8"
      return .string (cs.map (·.getD '\uFFFD')),
    tag "TextDecoder"]

/-! ## Texts of six bits -/

/-- The characters that stand for six bits each. -/
def sixBits : Text := "ABCDEFGHIJKLMNOPQRSTUVWXYZabcdefghijklmnopqrstuvwxyz0123456789+/".toList

/-- Bytes in characters of six bits, filled up to fours. -/
def inSixBits : List Nat → Text
  | [] => []
  | [a] => [a / 4, a % 4 * 16].map (sixBits.getD · '=') ++ ['=', '=']
  | [a, b] => [a / 4, a % 4 * 16 + b / 16, b % 16 * 4].map (sixBits.getD · '=') ++ ['=']
  | a :: b :: c :: rest =>
    [a / 4, a % 4 * 16 + b / 16, b % 16 * 4 + c / 64, c % 64].map (sixBits.getD · '=') ++ inSixBits rest

/-- The bytes of characters of six bits. -/
def fromSixBits : List Nat → List Nat
  | a :: b :: c :: d :: rest => [a * 4 + b / 16, b % 16 * 16 + c / 4, c % 4 * 64 + d] ++ fromSixBits rest
  | [a, b, c] => [a * 4 + b / 16, b % 16 * 16 + c / 4]
  | [a, b] => [a * 4 + b / 16]
  | _ => []

/-- Throws a fault that has a name of its own. -/
def namedFail {α : Type} (name message : String) : Run α := do
  let v ← fault .fault message.toList
  match v with
  | .object a =>
    put a (Key.ofString "name") (.unlisted (.ofString name))
    put a (Key.ofString "stack") (.unlisted (.ofString (name ++ ": " ++ message ++ "\n    at <anonymous>")))
  | _ => pure ()
  raise v

def sixBitEntries : List Entry :=
  [method "atob" 1 fun c => do
      if c.arguments.isEmpty then typeFail "The \"input\" argument must be specified"
      let t := (← textOf (c.given 0)).filter fun ch => !" \t\n\r\x0c".toList.contains ch
      let core := if t.length % 4 = 0 then
          (if t.drop (t.length - 2) = ['=', '='] then t.take (t.length - 2)
          else if t.drop (t.length - 1) = ['='] then t.take (t.length - 1) else t)
        else t
      if core.length % 4 = 1 || core.any (!sixBits.contains ·) then
        let wrongly := core.any (!sixBits.contains ·)
        namedFail "InvalidCharacterError" (if wrongly then "Invalid character" else
          "The string to be decoded is not correctly encoded.")
      return .string ((fromSixBits (core.map (sixBits.idxOf ·))).map Char.ofNat),
    method "btoa" 1 fun c => do
      if c.arguments.isEmpty then typeFail "The \"data\" argument must be specified"
      let us := unitsOf (← textOf (c.given 0))
      if us.any (Nat.blt 255 ·) then namedFail "InvalidCharacterError" "Invalid character"
      return .string (inSixBits us)]

/-! ## Copies -/

/-- A copy of a value with all it holds; objects that were copied before are not copied again. -/
def copied : (fuel : Nat) → (known : List (Nat × Nat)) → Value → Run (Value × List (Nat × Nat))
  | 0, _, _ => tooDeep
  | fuel + 1, known, v => do
    let refused {α : Type} : Run α := do
      namedFail "DataCloneError" ((← noted v) ++ " could not be cloned.")
    match v with
    | .symbol _ => refused
    | .object a =>
      if let some b := known.lookup a then return (.object b, known)
      let o ← objectAt a
      let start (k : Kind) (f : Family) : Run (Nat × List (Nat × Nat)) := do
        let b ← allocated ⟨k, some f.prototype, #[], true⟩
        return (b, (a, b) :: known)
      let withFields (b : Nat) (known : List (Nat × Nat)) : Run (Value × List (Nat × Nat)) := do
        let mut known := known
        for k in ← listedKeys v do
          let (w, more) ← copied fuel known (← field v k)
          put b k (.ofValue w)
          known := more
        return (.object b, known)
      match o.kind with
      | .plain =>
        let (b, known) ← start .plain .object
        withFields b known
      | .arguments _ _ =>
        let (b, known) ← start .plain .object
        withFields b known
      | .branded _ _ =>
        let (b, known) ← start .plain .object
        withFields b known
      | .list _ size _ =>
        let (b, known) ← start (.list #[] size false) .list
        withFields b known
      | .instant x =>
        let (b, known) ← start (.instant x) .date
        return (.object b, known)
      | .pattern source flags =>
        let (b, known) ← start (.pattern source flags) .pattern
        put b (Key.ofString "lastIndex") ⟨.value (.number 0) true, false, false⟩
        return (.object b, known)
      | .wrapped w =>
        if w matches .symbol _ then refused
        let (b, known) ← start (.wrapped w) (familyOf w)
        return (.object b, known)
      | .bytes content =>
        let (b, known) ← start (.bytes content) .buffer
        return (.object b, known)
      | .view e buffer first count =>
        let (w, known) ← copied fuel known (.object buffer)
        match w with
        | .object buffer =>
          let b ← allocated ⟨.view e buffer first count, some e.family.prototype, #[], true⟩
          return (.object b, (a, b) :: known)
        | _ => refused
      | .fault =>
        let name ← named v "name"
        let family := (Family.faults.find? fun f => (Value.ofString f.name).same name).getD .fault
        let (b, known) ← start .fault family
        let mut known := known
        for n in ["stack", "message", "cause"] do
          match o.stored? (Key.ofString n) with
          | some ⟨.value w _, _, _⟩ =>
            let (w, more) ← copied fuel known w
            put b (Key.ofString n) (.unlisted w)
            known := more
          | _ => pure ()
        return (.object b, known)
      | .collection keyed false entries _ =>
        let empty : Kind := .collection keyed false #[] {}
        let (b, known) ← start empty (if keyed then .map else .set)
        let mut known := known
        let mut pairs : List (Value × Value) := []
        for e in entries.toList.filterMap id do
          let (k, more) ← copied fuel known e.1
          let (w, more) ← copied fuel more e.2
          known := more
          pairs := (k, w) :: pairs
        setKind b (pairs.foldr (fun (k, w) kind => match kind with
          | .collection keyed weak entries places =>
            if places.contains k then kind
            else .collection keyed weak (entries.push (some (k, w))) (places.insert k entries.size)
          | kind => kind) empty)
        return (.object b, known)
      | _ => refused
    | v => return (v, known)

def copyEntries : List Entry :=
  [method "structuredClone" 1 fun c => do
    if c.arguments.isEmpty then typeFail "The \"value\" argument must be specified"
    return (← copied chain [] (c.given 0)).1]

/-! ## The tables -/

/-- The plan of lists of an element. -/
def viewPlan (e : Element) : Plan :=
  { family := e.family, parent := some Family.view.prototype
    maker := some (3, requiresNew e.family.name (makingView e)), makerParent := Family.view.maker }

def viewPart (e : Element) : List Part :=
  let size := constant "BYTES_PER_ELEMENT" (.ofNat e.size)
  [⟨e.family.maker, [size]⟩, ⟨e.family.prototype, [size]⟩]

def bytePlans : List Plan :=
  [{ family := .buffer, maker := some (1, requiresNew "ArrayBuffer" makeBytes) },
    { family := .view, maker := some (0, fun _ => typeFail "Abstract class TypedArray not directly constructable") },
    { family := .dataView, maker := some (1, requiresNew "DataView" makeDataView) },
    { family := .encoder
      maker := some (0, onlyNew "TextEncoder" fun c => make c.target .encoder (.branded .encoder [])) },
    { family := .decoder, maker := some (0, onlyNew "TextDecoder" makeDecoder) }] ++
  Element.families.map fun (_, e) => viewPlan e

def byteParts : List Part :=
  [⟨Family.buffer.maker, bufferEntries⟩, ⟨Family.buffer.prototype, bufferPrototypeEntries⟩,
    ⟨Family.view.maker, viewMakerEntries⟩, ⟨Family.view.prototype, viewPrototypeEntries⟩,
    ⟨Family.dataView.prototype, dataViewEntries⟩, ⟨Family.encoder.prototype, encoderEntries⟩,
    ⟨Family.decoder.prototype, decoderEntries⟩,
    ⟨Landmark.globalObject.address, sixBitEntries ++ copyEntries⟩] ++
  Element.families.flatMap fun (_, e) => viewPart e

end Recurrence.Script.Library
