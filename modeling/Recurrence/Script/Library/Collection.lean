import Recurrence.Script.Library.Record
/-!
# The library: collections

Collections hold items, or keys with items, in the order of their coming.  Weak ones can only be asked for what they
hold.
-/
namespace Recurrence.Script.Library

open Run

/-- A collection. -/
structure Collection where
  keyed : Bool
  weak : Bool
  entries : Array (Option (Value × Value))
  places : Std.HashMap Value Nat

namespace Collection

def kind (c : Collection) : Kind := .collection c.keyed c.weak c.entries c.places

def empty (keyed weak : Bool) : Collection := ⟨keyed, weak, #[], {}⟩

/-- The name of a kind of collections. -/
def family (keyed weak : Bool) : Family :=
  match keyed, weak with
  | true, false => .map
  | false, false => .set
  | true, true => .weakMap
  | false, true => .weakSet

/-- The key that a value is; a zero has no sign there. -/
def keyOf (v : Value) : Value :=
  match v with
  | .number x => if x == 0 then .number 0 else v
  | v => v

def get? (c : Collection) (k : Value) : Option Value :=
  (c.places[keyOf k]?).bind fun i => (c.entries.getD i none).map (·.2)

def has (c : Collection) (k : Value) : Bool := c.places.contains (keyOf k)

def size (c : Collection) : Nat := c.places.size

def items (c : Collection) : List (Value × Value) := c.entries.toList.filterMap id

end Collection

/-- Puts an item under a key. -/
def insertEntry (k v : Value) : Kind → Kind
  | .collection keyed weak entries places =>
    let k := Collection.keyOf k
    match places[k]? with
    | some i => .collection keyed weak (entries.set! i (some (k, v))) places
    | none => .collection keyed weak (entries.push (some (k, v))) (places.insert k entries.size)
  | kind => kind

/-- Takes a key away. -/
def eraseEntry (k : Value) : Kind → Kind
  | .collection keyed weak entries places =>
    let k := Collection.keyOf k
    match places[k]? with
    | some i => .collection keyed weak (entries.set! i none) (places.erase k)
    | none => .collection keyed weak entries places
  | kind => kind

def clearEntries : Kind → Kind
  | .collection keyed weak entries _ => .collection keyed weak (Array.replicate entries.size none) {}
  | kind => kind

def changeKind (a : Nat) (f : Kind → Kind) : Run Unit :=
  update a fun ⟨k, parent, fields, extensible⟩ => ⟨f k, parent, fields, extensible⟩

/-- The collection that a method works on. -/
def thisCollection (keyed weak : Bool) (method : String) (v : Value) : Run (Nat × Collection) := do
  let wrong {α : Type} : Run α := incompatible ((Collection.family keyed weak).name ++ ".prototype." ++ method) v
  match v with
  | .object a => match ← kindAt a with
    | .collection keyed' weak' entries places =>
      if keyed = keyed' && weak = weak' then return (a, ⟨keyed, weak, entries, places⟩) else wrong
    | _ => wrong
  | _ => wrong

/-- Whether a value can be held weakly. -/
def isWeak (v : Value) : Run Bool := do
  match v with
  | .object _ => return true
  | .symbol n => return !(← reading fun s => s.shared.any fun e => e.2 == n)
  | _ => return false

/-- The maker of collections of a kind. -/
def makingCollection (keyed weak : Bool) : Native := fun c => do
  let f := Collection.family keyed weak
  if c.target matches .undefined then typeFail ("Constructor " ++ f.name ++ " requires 'new'")
  let result ← make c.target f (Collection.empty keyed weak).kind
  if !(c.given 0).isNothing then
    let adder ← named result (if keyed then "set" else "add")
    if !(← isFunction adder) then
      typeFail ("'" ++ (← noted adder) ++ "' returned for property '" ++ (if keyed then "set" else "add") ++
        "' of object '" ++ (← noted result) ++ "' is not a function")
    goThrough (c.given 0) (fun _ v => do
      if keyed then takeEntry (fun k v => do let _ ← call adder result [k, v]) v
      else
        let _ ← call adder result [v]) ()
  return result

/-! ## Methods of all collections -/

def basicEntries (keyed weak : Bool) : List Entry :=
  let f := Collection.family keyed weak
  [method "has" 1 fun c => do
      let (_, all) ← thisCollection keyed weak "has" c.this
      return .truth (all.has (c.given 0)),
    method "delete" 1 fun c => do
      let (a, all) ← thisCollection keyed weak "delete" c.this
      let had := all.has (c.given 0)
      if had then changeKind a (eraseEntry (c.given 0))
      return .truth had,
    if keyed then method "set" 2 fun c => do
      let (a, _) ← thisCollection keyed weak "set" c.this
      if weak && !(← isWeak (c.given 0)) then
        typeFail ("Invalid value used as weak map key")
      changeKind a (insertEntry (c.given 0) (c.given 1))
      return c.this
    else method "add" 1 fun c => do
      let (a, _) ← thisCollection keyed weak "add" c.this
      if weak && !(← isWeak (c.given 0)) then typeFail "Invalid value used in weak set"
      changeKind a (insertEntry (c.given 0) (c.given 0))
      return c.this,
    tag f.name] ++
  if keyed then [method "get" 1 fun c => do
    let (_, all) ← thisCollection keyed weak "get" c.this
    return (all.get? (c.given 0)).getD .undefined] else []

/-- The method that walks through a collection. -/
def walkOfCollection (keyed : Bool) (name : String) (yields : Yield) : Native := fun c => do
  let (a, _) ← thisCollection keyed false name c.this
  let f : Family := if keyed then .mapWalk else .setWalk
  allocate ⟨.walk (.collection a 0 yields), some f.prototype, #[], true⟩

/-- Calls a function for every item; what comes on the way is met, too. -/
def forEachEntry (keyed : Bool) : Native := fun c => do
  let (a, _) ← thisCollection keyed false "forEach" c.this
  let f := c.given 0
  expectFunction f
  let round (i : Nat) : Run (Nat ⊕ Unit) := do
    match ← kindAt a with
    | .collection _ _ entries _ => match entries[i]? with
      | none => return .inr ()
      | some none => return .inl (i + 1)
      | some (some (k, v)) =>
        let _ ← call f (c.given 1) [v, k, c.this]
        return .inl (i + 1)
    | _ => return .inr ()
  repeated round () manyRounds 0
  return .undefined

def strongEntries (keyed : Bool) : List Entry :=
  [method "clear" 0 fun c => do
      let (a, _) ← thisCollection keyed false "clear" c.this
      changeKind a clearEntries
      return .undefined,
    method "entries" 0 (walkOfCollection keyed "entries" .entries), method "forEach" 1 (forEachEntry keyed),
    teller "size" fun c => do
      let (_, all) ← thisCollection keyed false "size" c.this
      return .ofNat all.size] ++
  if keyed then
    [method "keys" 0 (walkOfCollection keyed "keys" .keys), method "values" 0 (walkOfCollection keyed "values" .values),
      .same .iterator (Key.ofString "entries") false]
  else
    [method "values" 0 (walkOfCollection keyed "values" .values), .same (Key.ofString "keys") (Key.ofString "values") false,
      .same .iterator (Key.ofString "values") false]

/-! ## Sets with others -/

/-- Another collection, by the functions that tell what it holds. -/
structure Other where
  value : Value
  size : Float
  has : Value
  keys : Value

def otherOf (v : Value) : Run Other := do
  if !v.isObject then typeFail ((← noted v) ++ " is not an object")
  let size ← numberOf (← named v "size")
  if size.isNaN then typeFail "The 'size' property must be a number"
  let size := Number.truncated size
  if size < 0 then rangeFail ("'" ++ String.ofList (Number.text size) ++ "' is an invalid size")
  let has ← named v "has"
  if !(← isFunction has) then typeFail "The 'has' property must be a function"
  let keys ← named v "keys"
  if !(← isFunction keys) then typeFail "The 'keys' property must be a function"
  return ⟨v, size, has, keys⟩

def Other.holds (o : Other) (v : Value) : Run Bool := do return (← call o.has o.value [v]).isTrue

def Other.walk (o : Other) : Run Walker := do
  let w ← call o.keys o.value []
  if !w.isObject then typeFail ((← noted w) ++ " is not an object")
  return ⟨w, ← named w "next"⟩

def newSet (vs : List Value) : Run Value := do
  let kind := vs.foldl (fun k v => insertEntry v v k) (Collection.empty false false).kind
  allocate ⟨kind, some Family.set.prototype, #[], true⟩

/-- A method on a set and another collection. -/
def combining (name : String) (f : List Value → Collection → Other → Run Value) : Entry := method name 1 fun c => do
  let (_, all) ← thisCollection false false name c.this
  f (all.items.map (·.1)) all (← otherOf (c.given 0))

def setEntries : List Entry :=
  [combining "union" fun own _ o => do newSet (own ++ (← rest (← o.walk)).toList),
    combining "intersection" fun own all o => do
      if Float.ofNat own.length <= o.size then newSet (← own.filterM o.holds)
      else newSet ((← rest (← o.walk)).toList.filter all.has),
    combining "difference" fun own _ o => do
      if Float.ofNat own.length <= o.size then newSet (← own.filterM fun v => do return !(← o.holds v))
      else
        let others ← rest (← o.walk)
        newSet (own.filter fun v => !others.contains v),
    combining "symmetricDifference" fun own all o => do
      let others := (← rest (← o.walk)).toList
      newSet (own.filter (fun v => !others.contains v) ++ others.filter fun v => !all.has v),
    combining "isSubsetOf" fun own _ o => do
      if o.size < Float.ofNat own.length then return .truth false
      return .truth (← own.allM o.holds),
    combining "isSupersetOf" fun own all o => do
      if Float.ofNat own.length < o.size then return .truth false
      let w ← o.walk
      .truth <$> walking w (fun _ v => return if all.has v then .inl true else .inr false) true,
    combining "isDisjointFrom" fun own all o => do
      if Float.ofNat own.length <= o.size then return .truth (← own.allM fun v => do return !(← o.holds v))
      let w ← o.walk
      .truth <$> walking w (fun _ v => return if all.has v then .inr false else .inl true) true]

/-! ## Weak references -/

def makeReference : Native := fun c => do
  if !(← isWeak (c.given 0)) then typeFail "WeakRef: target must be an object"
  make c.target .weakReference (.branded .weakReference [c.given 0])

def referenceEntries : List Entry :=
  [method "deref" 0 fun c => do
      match c.this with
      | .object a => match ← kindAt a with
        | .branded .weakReference [v] => return v
        | _ => incompatible "WeakRef.prototype.deref" c.this
      | v => incompatible "WeakRef.prototype.deref" v,
    tag "WeakRef"]

def collectionPlans : List Plan :=
  [{ family := .map, maker := some (0, makingCollection true false) },
    { family := .set, maker := some (0, makingCollection false false) },
    { family := .weakMap, maker := some (0, makingCollection true true) },
    { family := .weakSet, maker := some (0, makingCollection false true) },
    { family := .weakReference, maker := some (1, requiresNew "WeakRef" makeReference) },
    { family := .registry
      maker := some (1, requiresNew "FinalizationRegistry" fun c => do
        if !(← isFunction (c.given 0)) then typeFail "FinalizationRegistry: cleanup must be callable"
        make c.target .registry (.branded .registry [c.given 0])) }]

def collectionParts : List Part :=
  [⟨Family.map.maker, [speciesEntry, method "groupBy" 2 fun c => do
      let groups ← grouped (c.given 0) (c.given 1) fun v => return Collection.keyOf v
      let entries ← groups.mapM fun (k, items) => do return (k, ← list items)
      let kind := entries.foldl (fun kind (k, v) => insertEntry k v kind) (Collection.empty true false).kind
      allocate ⟨kind, some Family.map.prototype, #[], true⟩]⟩,
    ⟨Family.set.maker, [speciesEntry]⟩,
    ⟨Family.map.prototype, basicEntries true false ++ strongEntries true⟩,
    ⟨Family.set.prototype, basicEntries false false ++ strongEntries false ++ setEntries⟩,
    ⟨Family.weakMap.prototype, basicEntries true true⟩, ⟨Family.weakSet.prototype, basicEntries false true⟩,
    ⟨Family.weakReference.prototype, referenceEntries⟩,
    ⟨Family.registry.prototype, [method "register" 2 fun _ => return .undefined,
      method "unregister" 1 fun _ => return .truth false, tag "FinalizationRegistry"]⟩]

end Recurrence.Script.Library
