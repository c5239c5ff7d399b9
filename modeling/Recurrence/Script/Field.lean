import Recurrence.Script.Element
/-!
# Fields of objects

An object has its own fields and those of its prototype, of the prototype of that, and so on.  What a field is can be
settled in detail; some objects have fields that follow from what they are, and a proxy leaves all of this to functions.
-/
namespace Recurrence.Script

/-! ## What a sketch makes of a field -/

namespace Sketch

def isAccessor (d : Sketch) : Bool := d.getter.isSome || d.setter.isSome

def isData (d : Sketch) : Bool := d.value.isSome || d.changeable.isSome

/-- The new field that a sketch describes; what it leaves open is denied. -/
def completed (d : Sketch) : Field :=
  let content : Content :=
    if d.isAccessor then .accessor (d.getter.getD .undefined) (d.setter.getD .undefined)
    else .value (d.value.getD .undefined) (d.changeable.getD false)
  ⟨content, d.listed.getD false, d.removable.getD false⟩

/-- What a sketch leaves of the content of a field that cannot be removed, if it may be applied. -/
def keptContent? (d : Sketch) : Content → Option Content
  | .value v changeable =>
    if d.isAccessor || (!changeable && (d.changeable == some true || d.value.any (!·.isExactly v))) then none
    else some (.value (d.value.getD v) (d.changeable.getD changeable))
  | .accessor g s =>
    if d.isData || d.getter.any (!·.isExactly g) || d.setter.any (!·.isExactly s) then none
    else some (.accessor g s)

/-- What a sketch makes of the content of a field. -/
def changedContent (d : Sketch) : Content → Content
  | .value v changeable =>
    if d.isAccessor then .accessor (d.getter.getD .undefined) (d.setter.getD .undefined)
    else .value (d.value.getD v) (d.changeable.getD changeable)
  | .accessor g s =>
    if d.isData then .value (d.value.getD .undefined) (d.changeable.getD false)
    else .accessor (d.getter.getD g) (d.setter.getD s)

/-- The field that a sketch makes of one that is there, or of nothing, if it may. -/
def applied? (d : Sketch) (extensible : Bool) : Option Field → Option Field
  | none => if extensible then some d.completed else none
  | some f =>
    if f.removable then some ⟨d.changedContent f.content, d.listed.getD f.listed, d.removable.getD true⟩
    else if d.removable == some true || d.listed.any (· != f.listed) then none
    else (d.keptContent? f.content).map fun c => ⟨c, f.listed, false⟩

end Sketch

namespace Object

def lengthName : Text := "length".toList

/-- The field of a key among stored ones. -/
def stored? (o : Object) (k : Key) : Option Field := (o.fields.find? fun f => f.1 == k).map (·.2)

/-- Fields with one stored, in its old place or at the end. -/
def withStored (k : Key) (f : Field) (fields : Array (Key × Field)) : Array (Key × Field) :=
  match fields.findIdx? fun g => g.1 == k with
  | some i => fields.set! i (k, f)
  | none => fields.push (k, f)

def withoutStored (k : Key) (fields : Array (Key × Field)) : Array (Key × Field) := fields.filter fun f => f.1 != k

/-- How many places beyond the last item are kept as missing ones, when an item comes later. -/
def gap : Nat := 4096

/-- Items with one put in a place, those before it being missing if there are none. -/
def withItem (i : Nat) (v : Value) (items : Array (Option Value)) : Array (Option Value) :=
  if i < items.size then items.set! i (some v)
  else (items ++ Array.replicate (i - items.size) none).push (some v)

/-- Puts a field into an object without asking whether it may. -/
def put (k : Key) (f : Field) : Object → Object
  | ⟨.list items size fixed, parent, fields, extensible⟩ =>
    match k, f with
    | .place i, ⟨.value v true, true, true⟩ =>
      if i < items.size + gap then
        ⟨.list (withItem i v items) (Nat.max size (i + 1)) fixed, parent,
          if fields.isEmpty then fields else withoutStored k fields, extensible⟩
      else ⟨.list items (Nat.max size (i + 1)) fixed, parent, withStored k f fields, extensible⟩
    | .place i, f =>
      ⟨.list (if i < items.size then items.set! i none else items) (Nat.max size (i + 1)) fixed, parent,
        withStored k f fields, extensible⟩
    | k, f => ⟨.list items size fixed, parent, withStored k f fields, extensible⟩
  | o => { o with fields := withStored k f o.fields }

/-- Takes a field out of an object. -/
def drop (k : Key) : Object → Object
  | ⟨.list items size fixed, parent, fields, extensible⟩ =>
    ⟨.list (match k with
      | .place i => if i < items.size then items.set! i none else items
      | _ => items) size fixed, parent, withoutStored k fields, extensible⟩
  | o => { o with fields := withoutStored k o.fields }

/-- The place of a key, if it is one. -/
def placeOf? : Key → Option Nat
  | .place i => some i
  | _ => none

/-- Gives a list another size; fields that cannot be removed stop it. -/
def resized (size : Nat) : Object → Object
  | ⟨.list items old fixed, parent, fields, extensible⟩ =>
    let stays (f : Key × Field) : Bool := !f.2.removable
    let least := fields.foldl (fun n f => if stays f then Nat.max n ((placeOf? f.1).elim 0 (· + 1)) else n) 0
    let size := Nat.max size least
    ⟨.list (items.extract 0 size) size fixed, parent,
      if size < old then fields.filter fun f => (placeOf? f.1).all (Nat.blt · size) else fields, extensible⟩
  | o => o

end Object

namespace Run

/-! ## Own fields -/

/-- The content of a name in an environment. -/
def sharedContent? (s : Store) (environment : Nat) (n : Text) : Option Value :=
  (s.environments[environment]?).bind fun e => (e.cells.find? fun c => c.name == n).bind (·.content)

/-- Gives a name in an environment a content. -/
def setCell (environment : Nat) (n : Text) (v : Value) : Run Unit := changing fun s =>
  { s with environments := s.environments.modify environment fun e =>
      match e.cells.findIdx? fun c => c.name == n with
      | some i => { e with cells := e.cells.modify i fun c => { c with content := some v } }
      | none => e }

/-- The bytes of an object. -/
def bytesOf (s : Store) (address : Nat) : ByteArray :=
  match (s.objects.getD address .blank).kind with
  | .bytes content => content
  | _ => .empty

/-- The field of an object itself. -/
def ownField? (s : Store) (o : Object) (k : Key) : Option Field :=
  match o.kind, k with
  | .list items _ _, .place i => match items.getD i none with
    | some v => some (.ofValue v)
    | none => o.stored? k
  | .list _ size fixed, .text t =>
    if t == Object.lengthName then some ⟨.value (.ofNat size) (!fixed), false, false⟩ else o.stored? k
  | .wrapped (.string t), .place i => match (unitsOf t)[i]? with
    | some u => some ⟨.value (.string (ofUnits [u])) false, true, false⟩
    | none => o.stored? k
  | .wrapped (.string t), .text n =>
    if n == Object.lengthName then some (.fixed (.ofNat (unitCount t))) else o.stored? k
  | .arguments environment names, .place i => match o.stored? k, names.getD i none with
    | some ⟨.value v changeable, listed, removable⟩, some n =>
      some ⟨.value ((sharedContent? s environment n).getD v) changeable, listed, removable⟩
    | f, _ => f
  | .view e buffer start count, .place i =>
    if i < count then some (.ofValue (e.read (bytesOf s buffer) (start + i * e.size))) else none
  | _, k => o.stored? k

/-- The keys of an object itself: places in their order, then names in the order of their coming, then symbols. -/
def ownKeysOf (o : Object) : List Key :=
  let stored := o.fields.toList.map (·.1)
  let names := stored.filter fun
    | .text _ => true
    | _ => false
  let symbols := stored.filter fun
    | .symbol _ => true
    | _ => false
  let scattered := stored.filterMap Object.placeOf?
  let places := match o.kind with
    | .list items _ _ => (List.range items.size).filter fun i => (items.getD i none).isSome
    | .wrapped (.string t) => List.range (unitCount t)
    | .view _ _ _ count => List.range count
    | _ => []
  let places := if scattered.isEmpty then places else (scattered ++ places).mergeSort fun a b => Nat.ble a b
  let own : List Key := match o.kind with
    | .list _ _ _ => [.text Object.lengthName]
    | .wrapped (.string _) => [.text Object.lengthName]
    | _ => []
  places.map .place ++ own ++ names ++ symbols

/-- How many objects and proxies can stand behind each other. -/
def chain : Nat := 100000

/-- Whether a value can be called. -/
def isFunctionIn (s : Store) : (fuel : Nat) → Value → Bool
  | fuel, .object a => match (s.objects.getD a .blank).kind, fuel with
    | .closure _, _ => true
    | .native _ _, _ => true
    | .bound _ _ _, _ => true
    | .proxy target _, fuel + 1 => isFunctionIn s fuel target
    | _, _ => false
  | _, _ => false

def isFunction (v : Value) : Run Bool := reading fun s => isFunctionIn s chain v

/-- Whether a value can make new objects. -/
def isMakerIn (s : Store) : (fuel : Nat) → Value → Bool
  | fuel, .object a => match (s.objects.getD a .blank).kind, fuel with
    | .closure c, _ => c.making != .nothing
    | .native _ making, _ => making
    | .bound f _ _, fuel + 1 => isMakerIn s fuel f
    | .proxy target _, fuel + 1 => isMakerIn s fuel target
    | _, _ => false
  | _, _ => false

def isMaker (v : Value) : Run Bool := reading fun s => isMakerIn s chain v

/-- A key as a complaint shows it. -/
def keyTextIn (s : Store) : Key → Text
  | .place n => Text.digits n
  | .text t => t
  | .symbol id => "Symbol(".toList ++ ((s.symbols.getD id none).getD []) ++ [')']
  | .hidden id => (s.symbols.getD id none).getD []

def keyText (k : Key) : Run String := reading fun s => String.ofList (keyTextIn s k)

/-! ## Contents -/

def tooDeep {α : Type} : Run α := rangeFail "Maximum call stack size exceeded"

/-- What a field holds, for the object that was asked. -/
def contentOf (f : Field) (receiver : Value) : Run Value :=
  match f.content with
  | .value v _ => return v
  | .accessor g _ => if g.isObject then call g receiver [] else return .undefined

/-- A complaint about a proxy without an object behind it. -/
def revoked {α : Type} (trap : String) : Run α :=
  typeFail ("Cannot perform '" ++ trap ++ "' on a proxy that has been revoked")

/-! ## Values in complaints -/

/-- What is left of a long text. -/
def abridged (t : Text) : Text :=
  if Nat.blt 128 t.length then t.take 111 ++ "...<omitted>...".toList ++ t.drop (t.length - 2) else t

/-- The name of a function, if it is a text. -/
def functionNameIn (s : Store) (address : Nat) : Text :=
  match ownField? s (s.objects.getD address .blank) (Key.ofString "name") with
  | some ⟨.value (.string n) _, _, _⟩ => n
  | _ => []

/-- The source of a function of the library. -/
def nativeSource (name : Text) : Text := "function ".toList ++ name ++ "() \x7b [native code] \x7d".toList

/-- The source of a function. -/
def sourceIn (s : Store) (address : Nat) : Text :=
  match (s.objects.getD address .blank).kind with
  | .closure c => c.source
  | .bound _ _ _ => "function () \x7b [native code] \x7d".toList
  | _ => nativeSource (functionNameIn s address)

/-- What a kind of objects is called. -/
def className (s : Store) (k : Kind) : String :=
  match k with
  | .list _ _ _ => "Array"
  | .closure _ => "Function"
  | .native _ _ => "Function"
  | .bound _ _ _ => "Function"
  | .proxy target _ => if isFunctionIn s chain target then "Function" else "Object"
  | .fault => "Error"
  | .instant _ => "Date"
  | .pattern _ _ => "RegExp"
  | .arguments _ _ => "Arguments"
  | .wrapped (.string _) => "String"
  | .wrapped (.number _) => "Number"
  | .wrapped (.truth _) => "Boolean"
  | _ => "Object"

/-- The content of a field of an object that is found without calling anything. -/
def quietField (s : Store) (k : Key) : (fuel address : Nat) → Value
  | 0, _ => .undefined
  | fuel + 1, address =>
    let o := s.objects.getD address .blank
    match ownField? s o k with
    | some ⟨.value v _, _, _⟩ => v
    | some _ => .undefined
    | none => match o.parent with
      | some parent => quietField s k fuel parent
      | none => .undefined

/-- What a complaint calls a value. -/
def notedIn (s : Store) : Value → Text
  | .undefined => "undefined".toList
  | .null => "null".toList
  | .truth b => (if b then "true" else "false").toList
  | .number x => Number.text x
  | .bigNumber n => (toString n).toList
  | .string t => t
  | .symbol id => keyTextIn s (.symbol id)
  | .object a =>
    let o := s.objects.getD a .blank
    let quiet (name : String) (address : Nat) : Value := quietField s (Key.ofString name) chain address
    let isFunction := isFunctionIn s chain (.object a)
    if isFunction then abridged (sourceIn s a)
    else
      let own := quiet "toString" a
      let maker : Text := match quiet "constructor" a with
        | .object f => functionNameIn s f
        | _ => []
      if o.kind matches .fault then
        match quiet "name" a, quiet "message" a with
        | .string n, .string [] => n
        | .string n, .string m => n ++ ": ".toList ++ m
        | _, _ => "Error".toList
      else if own.same (quiet "toString" Family.object.prototype) && maker != [] then
        "#<".toList ++ maker ++ ['>']
      else
        let tag := match quietField s .toStringTag chain a with
          | .string t => t
          | _ => (className s o.kind).toList
        "[object ".toList ++ tag ++ [']']

def noted (v : Value) : Run String := reading fun s => String.ofList (notedIn s v)

/-- A complaint about what should be a function. -/
def notFunction {α : Type} (what : String) : Run α := typeFail (what ++ " is not a function")

/-- Complains about what should be a function of a proxy's handler. -/
def notReturned {α : Type} (f : Value) (name : String) (handler : Value) : Run α := do
  notFunction ((← noted f) ++ " returned for property '" ++ name ++ "' of object '" ++ (← noted handler) ++ "'")

/-- The field of an object itself, if that is no proxy. -/
def plainField? (address : Nat) (k : Key) : Run (Option Field) :=
  reading fun s => ownField? s (s.objects.getD address .blank) k

/-- Checks what a proxy tells of a field that cannot change. -/
def checkTold (target : Nat) (k : Key) (v : Value) : Run Unit := do
  match ← plainField? target k with
  | some ⟨.value w false, _, false⟩ =>
    if !v.isExactly w then
      typeFail ("'get' on proxy: property '" ++ (← keyText k) ++ "' is a read-only and non-configurable data property " ++
        "on the proxy target but the proxy did not return its actual value (expected '" ++ (← noted w) ++ "' but got '" ++
        (← noted v) ++ "')")
  | some ⟨.accessor .undefined _, _, false⟩ =>
    if !(v matches .undefined) then
      typeFail ("'get' on proxy: property '" ++ (← keyText k) ++ "' is a non-configurable accessor property on the " ++
        "proxy target and does not have a getter function, but the trap did not return 'undefined' (got '" ++
        (← noted v) ++ "')")
  | _ => return

/-- Checks a change that a proxy claims to have made. -/
def checkChanged (target : Nat) (k : Key) (v : Value) : Run Unit := do
  let claim (rest : String) : Run Unit := do
    typeFail ("'set' on proxy: trap returned truish for property '" ++ (← keyText k) ++
      "' which exists in the proxy target as a non-configurable and non-writable " ++ rest)
  match ← plainField? target k with
  | some ⟨.value w false, _, false⟩ => if !v.isExactly w then claim "data property with a different value"
  | some ⟨.accessor _ .undefined, _, false⟩ => claim "accessor property without a setter"
  | _ => return

/-- Checks a field that a proxy denies. -/
def checkDenied (target : Nat) (k : Key) : Run Unit := do
  let claim (rest : String) : Run Unit := do
    typeFail ("'has' on proxy: trap returned falsish for property '" ++ (← keyText k) ++ "' " ++ rest)
  match ← plainField? target k with
  | some ⟨_, _, false⟩ => claim "which exists in the proxy target as non-configurable"
  | some _ => if !(← objectAt target).extensible then claim "but the proxy target is not extensible"
  | none => return

/-- Checks that a proxy could remove a field. -/
def checkRemoved (target : Nat) (k : Key) : Run Unit := do
  let claim (rest : String) : Run Unit := do
    typeFail ("'deleteProperty' on proxy: trap returned truish for property '" ++ (← keyText k) ++ "' " ++ rest)
  match ← plainField? target k with
  | some ⟨_, _, false⟩ => claim "which is non-configurable in the proxy target"
  | some _ => if !(← objectAt target).extensible then claim "but the proxy target is non-extensible"
  | none => return

/-- Checks the keys that a proxy lists: none twice, and all of those that its target has to have. -/
def checkListed (target : Nat) (keys : List Key) : Run Unit := do
  if keys.eraseDups.length ≠ keys.length then typeFail "'ownKeys' on proxy: trap returned duplicate entries"
  let o ← objectAt target
  if o.kind matches .proxy _ _ then return
  for k in ownKeysOf o do
    let stays ← reading fun s => !o.extensible || (ownField? s o k).any (!·.removable)
    if stays && !keys.contains k then
      typeFail ("'ownKeys' on proxy: trap result did not include '" ++ (← keyText k) ++ "'")
  if !o.extensible && keys.any (!(ownKeysOf o).contains ·) then
    typeFail "'ownKeys' on proxy: trap returned extra keys but proxy target is non-extensible"

/-! ## Contents of fields -/

/-- The content of a field of an object, or of what it builds on, for the object that was asked. -/
def fieldFrom : (fuel address : Nat) → Key → (receiver : Value) → Run Value
  | 0, _, _, _ => tooDeep
  | fuel + 1, address, k, receiver => fun s =>
    let o := s.objects.getD address .blank
    match o.kind with
    | .proxy target handler => (match target, handler with
      | .object t, .object h => do
        let trap ← fieldFrom fuel h (Key.ofString "get") handler
        if trap.isNothing then fieldFrom fuel t k receiver
        else if ← isFunction trap then
          let v ← call trap handler [target, k.value, receiver]
          checkTold t k v
          return v
        else notReturned trap "get" handler
      | _, _ => revoked "get") s
    | _ => match ownField? s o k with
      | some f => contentOf f receiver s
      | none => match o.parent with
        | some parent => fieldFrom fuel parent k receiver s
        | none => .gave .undefined s

/-- The family of a plain value. -/
def familyOf : Value → Family
  | .string _ => .text
  | .number _ => .number
  | .truth _ => .truth
  | .bigNumber _ => .bigNumber
  | .symbol _ => .symbol
  | _ => .object

/-- The content of a field of a value. -/
def field (v : Value) (k : Key) : Run Value :=
  match v with
  | .object a => fieldFrom chain a k v
  | .undefined => do typeFail ("Cannot read properties of undefined (reading '" ++ (← keyText k) ++ "')")
  | .null => do typeFail ("Cannot read properties of null (reading '" ++ (← keyText k) ++ "')")
  | .string t => fun s => match ownField? s ⟨.wrapped v, none, #[], false⟩ k with
    | some f => contentOf f (.string t) s
    | none => fieldFrom chain Family.text.prototype k v s
  | v => fieldFrom chain (familyOf v).prototype k v

/-- The content of a field with a name. -/
def named (v : Value) (name : String) : Run Value := field v (Key.ofString name)

/-- A method of a value, if it has one. -/
def method? (v : Value) (k : Key) : Run (Option Value) := do
  let f ← field v k
  if f.isNothing then return none
  if ← isFunction f then return some f
  notFunction ("'" ++ (← noted f) ++ "' returned for property '" ++ (← keyText k) ++ "' of object '" ++ (← noted v) ++
    "'")

/-- Calls a method of a value. -/
def invoke (v : Value) (name : String) (arguments : List Value) : Run Value := do
  let f ← named v name
  if ← isFunction f then call f v arguments else notFunction ("object." ++ name)

/-- A function that a proxy's handler has for a task, if it has one; a proxy without handler is of no use. -/
def trap? (handler : Value) (name : String) : Run (Option Value) :=
  match handler with
  | .object _ => method? handler (Key.ofString name)
  | _ => revoked name

/-! ## Descriptions of fields -/

/-- A description of a field as a value. -/
def describe (f : Field) : Run Value :=
  let content : List (String × Value) := match f.content with
    | .value v changeable => [("value", v), ("writable", .truth changeable)]
    | .accessor g s => [("get", g), ("set", s)]
  let manner : List (String × Value) := [("enumerable", .truth f.listed), ("configurable", .truth f.removable)]
  record ((content ++ manner).map fun c => (Key.ofString c.1, c.2))

/-- Whether a key leads to a field of an object or of what it builds on. -/
def hasFrom : (fuel address : Nat) → Key → Run Bool
  | 0, _, _ => tooDeep
  | fuel + 1, address, k => fun s =>
    let o := s.objects.getD address .blank
    match o.kind with
    | .proxy target handler => (do
      match ← trap? handler "has", target with
      | some f, _ =>
        let has := (← call f handler [target, k.value]).isTrue
        match target with
        | .object t => if !has then checkDenied t k
        | _ => pure ()
        return has
      | none, .object t => hasFrom fuel t k
      | none, _ => revoked "has") s
    | _ => match ownField? s o k with
      | some _ => .gave true s
      | none => match o.parent with
        | some parent => hasFrom fuel parent k s
        | none => .gave false s

def hasField (address : Nat) (k : Key) : Run Bool := hasFrom chain address k

/-- What an object says of a field that it may have. -/
def asked? (d : Value) (name : String) : Run (Option Value) := do
  match d with
  | .object a => if ← hasField a (Key.ofString name) then return some (← named d name) else return none
  | _ => return none

/-- The sketch that a value describes. -/
def sketchOf (d : Value) : Run Sketch := do
  if !d.isObject then typeFail ("Property description must be an object: " ++ (← noted d))
  let truth? (name : String) : Run (Option Bool) := do return (← asked? d name).map (·.isTrue)
  let listed ← truth? "enumerable"
  let removable ← truth? "configurable"
  let value ← asked? d "value"
  let changeable ← truth? "writable"
  let getter ← asked? d "get"
  let setter ← asked? d "set"
  let checked (what : String) (f : Option Value) : Run Unit := do
    match f with
    | some .undefined => return
    | some f => if !(← isFunction f) then typeFail (what ++ " must be a function: " ++ (← noted f))
    | none => return
  checked "Getter" getter
  checked "Setter" setter
  if (getter.isSome || setter.isSome) && (value.isSome || changeable.isSome) then
    typeFail "Invalid property descriptor. Cannot both specify accessors and a value or writable attribute"
  return { value, getter, setter, changeable, listed, removable }

/-- The own field of an object, proxies included. -/
def ownFrom : (fuel address : Nat) → Key → Run (Option Field)
  | 0, _, _ => tooDeep
  | fuel + 1, address, k => fun s =>
    let o := s.objects.getD address .blank
    match o.kind with
    | .proxy target handler => (do
      match ← trap? handler "getOwnPropertyDescriptor", target with
      | some f, _ =>
        let d ← call f handler [target, k.value]
        if d.isNothing then return none else return some (← sketchOf d).completed
      | none, .object t => ownFrom fuel t k
      | none, _ => revoked "getOwnPropertyDescriptor") s
    | _ => .gave (ownField? s o k) s

def own? (address : Nat) (k : Key) : Run (Option Field) := ownFrom chain address k

/-! ## Lists of keys -/

/-- The keys of the own fields of an object. -/
def keysFrom : (fuel address : Nat) → Run (List Key)
  | 0, _ => tooDeep
  | fuel + 1, address => fun s =>
    let o := s.objects.getD address .blank
    match o.kind with
    | .proxy target handler => (do
      match ← trap? handler "ownKeys", target with
      | some f, _ =>
        let names ← call f handler [target]
        match names with
        | .object a => do
          let n := match ← field names (.text Object.lengthName) with
            | .number x => (Number.index? x).getD 0
            | _ => 0
          let keys ← (List.range n).mapM fun i => do
            match ← fieldFrom chain a (.place i) names with
            | .symbol id => return Key.symbol id
            | .string t => return Key.ofText t
            | v => typeFail ((← noted v) ++ " is not a valid property name")
          match target with
          | .object t => checkListed t keys
          | _ => pure ()
          return keys
        | _ => typeFail "CreateListFromArrayLike called on non-object"
      | none, .object t => keysFrom fuel t
      | none, _ => revoked "ownKeys") s
    | _ => .gave (ownKeysOf o) s

def ownKeys (address : Nat) : Run (List Key) := keysFrom chain address

def isName : Key → Bool
  | .place _ => true
  | .text _ => true
  | _ => false

/-- The names of the own fields that lists show. -/
def listedKeys (v : Value) : Run (List Key) := do
  match v with
  | .object a =>
    (← ownKeys a).filterM fun k => do
      if isName k then return (← own? a k).any (·.listed) else return false
  | .string t => return (List.range (unitCount t)).map .place
  | _ => return []

/-! ## Making fields -/

/-- Complains about a size that no list has. -/
def badLength {α : Type} : Run α := rangeFail "Invalid array length"

/-- Gives a list another size and settles whether it can change, if it may. -/
def settleSize (address : Nat) (d : Sketch) : Run Bool := do
  match (← objectAt address).kind with
  | .list _ size fixed =>
    if d.isAccessor || d.removable == some true || d.listed == some true then return false
    let fresh ← match d.value with
      | some (.number x) => match Number.index? x with
        | some n => if n ≤ Key.placeBound then pure n else badLength
        | none => badLength
      | some _ => badLength
      | none => pure size
    if fixed && (fresh != size || d.changeable == some true) then return false
    if fresh != size then update address (·.resized fresh)
    if d.changeable == some false then
      update address fun o => match o with
        | ⟨.list items size _, parent, fields, extensible⟩ => ⟨.list items size true, parent, fields, extensible⟩
        | o => o
    match (← objectAt address).kind with
    | .list _ size _ => return size == fresh
    | _ => return true
  | _ => return true

/-- The value that an element of a list of numbers can have. -/
def elementValue (e : Element) (v : Value) : Run Value := do
  match e, v with
  | .big _, .bigNumber n => return .bigNumber n
  | .big _, .truth b => return .bigNumber (if b then 1 else 0)
  | .big _, v => typeFail ("Cannot convert " ++ (← noted v) ++ " to a BigInt")
  | _, .number x => return .number x
  | _, .null => return .number 0
  | _, .truth b => return .number (if b then 1 else 0)
  | _, .string t => return .number (Number.ofText t)
  | _, .bigNumber _ => typeFail "Cannot convert a BigInt value to a number"
  | _, .symbol _ => typeFail "Cannot convert a Symbol value to a number"
  | _, _ => return .number Number.notNumber

/-- Writes an element of a list of numbers. -/
def writeElement (e : Element) (buffer offset : Nat) (v : Value) : Run Unit :=
  update buffer fun o => match o with
    | ⟨.bytes content, parent, fields, extensible⟩ =>
      ⟨.bytes (e.write v offset content), parent, fields, extensible⟩
    | o => o

/-- Puts a sketched field into an object that is no proxy, if it may. -/
def defineOwn (address : Nat) (k : Key) (d : Sketch) : Run Bool := fun s =>
  let o := s.objects.getD address .blank
  let plainly : Run Bool := fun s =>
    let o := s.objects.getD address .blank
    match d.applied? o.extensible (ownField? s o k) with
    | some f => (do
      update address (·.put k f)
      return true) s
    | none => .gave false s
  match o.kind, k with
  | .list _ size fixed, .place i => if fixed && Nat.ble size i then .gave false s else plainly s
  | .list _ _ _, .text t => if t == Object.lengthName then settleSize address d s else plainly s
  | .arguments environment names, .place i => (do
    let done ← plainly
    match names.getD i none with
    | some n =>
      if done then
        match d.value with
        | some v => setCell environment n v
        | none => pure ()
        if d.isAccessor || d.changeable == some false then
          setKind address (.arguments environment (names.set i none))
    | none => pure ()
    return done) s
  | .view e buffer start count, .place i => (do
    if i < count then
      match d.value with
      | some v => writeElement e buffer (start + i * e.size) (← elementValue e v)
      | none => pure ()
      return true
    return false) s
  | .wrapped (.string _), k =>
    if (ownField? s o k).any (!·.removable) then .gave ((d.applied? true (ownField? s o k)).isSome) s else plainly s
  | _, _ => plainly s

/-- Puts a sketched field into an object, if it may. -/
def defineFrom : (fuel address : Nat) → Key → Sketch → Run Bool
  | 0, _, _, _ => tooDeep
  | fuel + 1, address, k, d => fun s =>
    match (s.objects.getD address .blank).kind with
    | .proxy target handler => (do
      match ← trap? handler "defineProperty", target with
      | some f, _ =>
        let truth (name : String) (b : Option Bool) : List (Key × Value) :=
          (b.map fun b => (Key.ofString name, Value.truth b)).toList
        let value (name : String) (v : Option Value) : List (Key × Value) :=
          (v.map fun v => (Key.ofString name, v)).toList
        let shown ← record (value "value" d.value ++ truth "writable" d.changeable ++ value "get" d.getter ++
          value "set" d.setter ++ truth "enumerable" d.listed ++ truth "configurable" d.removable)
        return (← call f handler [target, k.value, shown]).isTrue
      | none, .object t => defineFrom fuel t k d
      | none, _ => revoked "defineProperty") s
    | _ => defineOwn address k d s

def define (address : Nat) (k : Key) (d : Sketch) : Run Bool := defineFrom chain address k d

/-- Puts a field into an object, or throws. -/
def defineSurely (address : Nat) (k : Key) (d : Sketch) : Run Unit := do
  if !(← define address k d) then
    let shown ← keyText k
    if (← kindAt address) matches .proxy _ _ then
      typeFail ("'defineProperty' on proxy: trap returned falsish for property '" ++ shown ++ "'")
    if (← own? address k).isSome then typeFail ("Cannot redefine property: " ++ shown)
    typeFail ("Cannot define property " ++ shown ++ ", object is not extensible")

/-- Puts a plain field into an object, or throws. -/
def create (v : Value) (k : Key) (content : Value) : Run Unit := do
  match v with
  | .object a =>
    defineSurely a k { value := some content, changeable := some true, listed := some true, removable := some true }
  | _ => return

/-- Puts a field into a new object, which cannot refuse it. -/
def put (address : Nat) (k : Key) (f : Field) : Run Unit := update address (·.put k f)

/-! ## Changing contents -/

/-- Gives a field of the object that was asked a content, where nothing above has one to say about it. -/
def setReceived (k : Key) (content receiver : Value) : Run Bool := do
  match receiver with
  | .object r => match ← own? r k with
    | some ⟨.accessor _ _, _, _⟩ => return false
    | some ⟨.value _ changeable, _, _⟩ =>
      if changeable then define r k { value := some content } else return false
    | none =>
      define r k { value := some content, changeable := some true, listed := some true, removable := some true }
  | _ => return false

/-- Gives a field of an object a content, if it may; the field of the object that was asked changes. -/
def setFrom : (fuel address : Nat) → Key → (content receiver : Value) → Run Bool
  | 0, _, _, _, _ => tooDeep
  | fuel + 1, address, k, content, receiver => fun s =>
    let o := s.objects.getD address .blank
    match o.kind with
    | .proxy target handler => (do
      match ← trap? handler "set", target with
      | some f, _ =>
        let done := (← call f handler [target, k.value, content, receiver]).isTrue
        match target with
        | .object t => if done then checkChanged t k content
        | _ => pure ()
        return done
      | none, .object t => setFrom fuel t k content receiver
      | none, _ => revoked "set") s
    | .view _ _ _ _ => match k with
      | .place _ => (do
        match receiver with
        | .object r => let _ ← define r k { value := some content }
        | _ => pure ()
        return true) s
      | _ => setReceived k content receiver s
    | _ => match ownField? s o k with
      | some ⟨.accessor _ set, _, _⟩ =>
        if set.isObject then (do
          let _ ← call set receiver [content]
          return true) s
        else .gave false s
      | some ⟨.value _ changeable, _, _⟩ => if changeable then setReceived k content receiver s else .gave false s
      | none => match o.parent with
        | some parent => setFrom fuel parent k content receiver s
        | none => setReceived k content receiver s

/-- The field that stands in the way of a change, on an object or on what it builds on. -/
def obstacle? (k : Key) : (fuel address : Nat) → Run (Option Field)
  | 0, _ => return none
  | fuel + 1, address => do
    match ← own? address k, ← parentAt address with
    | some f, _ => return some f
    | none, some parent => obstacle? k fuel parent
    | none, none => return none

/-- Complains that a field could not be given a content. -/
def refuseChange {α : Type} (v : Value) (address : Nat) (k : Key) : Run α := do
  let shown ← keyText k
  if (← kindAt address) matches .proxy _ _ then
    typeFail ("'set' on proxy: trap returned falsish for property '" ++ shown ++ "'")
  match ← obstacle? k chain address with
  | some ⟨.accessor _ _, _, _⟩ =>
    typeFail ("Cannot set property " ++ shown ++ " of " ++ (← noted v) ++ " which has only a getter")
  | some ⟨.value _ false, _, _⟩ =>
    typeFail ("Cannot assign to read only property '" ++ shown ++ "' of object '" ++ (← noted v) ++ "'")
  | _ => typeFail ("Cannot add property " ++ shown ++ ", object is not extensible")

/-- Gives a field of a value a content; where it may not, the fault is quiet unless the code is strict. -/
def setField (strict : Bool) (v : Value) (k : Key) (content : Value) : Run Unit := do
  match v with
  | .object a =>
    if !(← setFrom chain a k content v) && strict then refuseChange v a k
  | .undefined => typeFail ("Cannot set properties of undefined (setting '" ++ (← keyText k) ++ "')")
  | .null => typeFail ("Cannot set properties of null (setting '" ++ (← keyText k) ++ "')")
  | v =>
    let done ← setFrom chain (familyOf v).prototype k content v
    if !done && strict then
      let kind := match v with
        | .string _ => "string"
        | .number _ => "number"
        | .truth _ => "boolean"
        | .bigNumber _ => "bigint"
        | _ => "symbol"
      let own : Option Field ← reading fun s => ownField? s ⟨.wrapped v, none, #[], false⟩ k
      if own.isSome then
        typeFail ("Cannot assign to read only property '" ++ (← keyText k) ++ "' of " ++ kind ++ " '" ++ (← noted v) ++
          "'")
      typeFail ("Cannot create property '" ++ (← keyText k) ++ "' on " ++ kind ++ " '" ++ (← noted v) ++ "'")

/-! ## Removing fields -/

/-- Removes a field of an object, if it may. -/
def removeFrom : (fuel address : Nat) → Key → Run Bool
  | 0, _, _ => tooDeep
  | fuel + 1, address, k => fun s =>
    let o := s.objects.getD address .blank
    match o.kind with
    | .proxy target handler => (do
      match ← trap? handler "deleteProperty", target with
      | some f, _ =>
        let gone := (← call f handler [target, k.value]).isTrue
        match target with
        | .object t => if gone then checkRemoved t k
        | _ => pure ()
        return gone
      | none, .object t => removeFrom fuel t k
      | none, _ => revoked "deleteProperty") s
    | kind => match ownField? s o k with
      | none => .gave true s
      | some f =>
        if f.removable then (do
          update address (·.drop k)
          match kind, k with
          | .arguments environment names, .place i => setKind address (.arguments environment (names.set i none))
          | _, _ => pure ()
          return true) s
        else .gave false s

def remove (address : Nat) (k : Key) : Run Bool := removeFrom chain address k

/-- Removes a field, or throws. -/
def removeSurely (v : Value) (k : Key) : Run Unit := do
  match v with
  | .object a =>
    if !(← remove a k) then
      if (← kindAt a) matches .proxy _ _ then
        typeFail ("'deleteProperty' on proxy: trap returned falsish for property '" ++ (← keyText k) ++ "'")
      typeFail ("Cannot delete property '" ++ (← keyText k) ++ "' of " ++ (← noted v))
  | _ => return

/-! ## Prototypes -/

def ofParent : Option Nat → Value
  | some a => .object a
  | none => .null

/-- What an object builds on. -/
def parentFrom : (fuel address : Nat) → Run Value
  | 0, _ => tooDeep
  | fuel + 1, address => fun s =>
    match (s.objects.getD address .blank).kind with
    | .proxy target handler => (do
      match ← trap? handler "getPrototypeOf", target with
      | some f, _ => call f handler [target]
      | none, .object t => parentFrom fuel t
      | none, _ => revoked "getPrototypeOf") s
    | _ => .gave (ofParent (s.objects.getD address .blank).parent) s

def parentOf (address : Nat) : Run Value := parentFrom chain address

/-- Whether an object is among those that another builds on, or is that one. -/
def reaches (s : Store) (goal : Nat) : (fuel address : Nat) → Bool
  | 0, _ => false
  | fuel + 1, address => address == goal || match (s.objects.getD address .blank).parent with
    | some parent => reaches s goal fuel parent
    | none => false

/-- Lets an object build on another, if it may. -/
def setParentFrom : (fuel address : Nat) → Value → Run Bool
  | 0, _, _ => tooDeep
  | fuel + 1, address, parent => fun s =>
    let o := s.objects.getD address .blank
    match o.kind with
    | .proxy target handler => (do
      match ← trap? handler "setPrototypeOf", target with
      | some f, _ => return (← call f handler [target, parent]).isTrue
      | none, .object t => setParentFrom fuel t parent
      | none, _ => revoked "setPrototypeOf") s
    | _ =>
      if (ofParent o.parent).same parent then .gave true s
      else if !o.extensible || address == Family.object.prototype then .gave false s
      else match parent with
        | .object p =>
          if reaches s address chain p then .gave false s
          else (do
            update address fun o => { o with parent := some p }
            return true) s
        | _ => (do
          update address fun o => { o with parent := none }
          return true) s

def setParent (address : Nat) (parent : Value) : Run Bool := setParentFrom chain address parent

/-- Whether an object builds on another. -/
def buildsOn (ancestor : Nat) : (fuel address : Nat) → Run Bool
  | 0, _ => return false
  | fuel + 1, address => do
    match ← parentOf address with
    | .object parent => if parent = ancestor then return true else buildsOn ancestor fuel parent
    | _ => return false

/-! ## Extensibility -/

def isExtensibleFrom : (fuel address : Nat) → Run Bool
  | 0, _ => tooDeep
  | fuel + 1, address => fun s =>
    let o := s.objects.getD address .blank
    match o.kind with
    | .proxy target handler => (do
      match ← trap? handler "isExtensible", target with
      | some f, _ => return (← call f handler [target]).isTrue
      | none, .object t => isExtensibleFrom fuel t
      | none, _ => revoked "isExtensible") s
    | _ => .gave o.extensible s

def isExtensible (address : Nat) : Run Bool := isExtensibleFrom chain address

/-- Keeps an object from getting new fields. -/
def closeFrom : (fuel address : Nat) → Run Bool
  | 0, _ => tooDeep
  | fuel + 1, address => fun s =>
    match (s.objects.getD address .blank).kind with
    | .proxy target handler => (do
      match ← trap? handler "preventExtensions", target with
      | some f, _ => return (← call f handler [target]).isTrue
      | none, .object t => closeFrom fuel t
      | none, _ => revoked "preventExtensions") s
    | _ => (do
      update address fun o => { o with extensible := false }
      return true) s

def close (address : Nat) : Run Bool := closeFrom chain address

/-- Keeps the fields of an object from being removed and, if it is frozen, from being changed; no new ones come. -/
def secure (a : Nat) (frozen : Bool) : Run Bool := do
  if !(← close a) then return false
  for k in ← ownKeys a do
    match ← own? a k with
    | some ⟨.value _ _, _, _⟩ =>
      defineSurely a k (if frozen then { changeable := some false, removable := some false }
        else { removable := some false })
    | some _ => defineSurely a k { removable := some false }
    | none => pure ()
  return true

/-- Keeps an object as it is for ever. -/
def freeze (a : Nat) : Run Unit := do let _ ← secure a true

/-- Whether an object is sealed or frozen. -/
def isSealed (a : Nat) (frozen : Bool) : Run Bool := do
  if ← isExtensible a then return false
  let loose ← (← ownKeys a).anyM fun k => do
    match ← own? a k with
    | some ⟨.value _ changeable, _, removable⟩ => return removable || (frozen && changeable)
    | some f => return f.removable
    | none => return false
  return !loose

end Run
end Recurrence.Script
