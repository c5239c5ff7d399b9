import Recurrence.Script.Library.Entry
/-!
# The library: records and what stands behind them

Functions on fields, prototypes and what can be changed of an object; proxies, which leave this to functions.
-/
namespace Recurrence.Script.Library

open Run

/-! ## Lists of fields -/

/-- The keys of a value's fields that lists show. -/
def listedOf (v : Value) : Run (Nat × List Key) := do
  let a ← objectOf v
  return (a, ← listedKeys (.object a))

/-- A pair as a list. -/
def pair (a b : Value) : Run Value := list [a, b]

/-- A function that lists something of every field that is shown. -/
def listing (name : String) (f : Nat → Key → Run Value) : Entry := method name 1 fun c => do
  let (a, keys) ← listedOf (c.given 0)
  list (← keys.filterMapM fun k => do
    if (← own? a k).any (·.listed) then return some (← f a k) else return none)

/-- The keys of an object as values. -/
def keyList (a : Nat) (wanted : Key → Bool) : Run Value := do
  list (((← ownKeys a).filter wanted).map (·.value))

def isSymbol : Key → Bool
  | .symbol _ => true
  | _ => false

def isVisible : Key → Bool
  | .hidden _ => false
  | _ => true

/-- The object that a function was given, or else a complaint. -/
def expectObject (function : String) (v : Value) : Run Nat := do
  match v with
  | .object a => return a
  | _ => typeFail (function ++ " called on non-object")

/-- Gives an object the fields that a record describes. -/
def defineAll (v : Value) (descriptions : Value) : Run Unit := do
  let source ← objectOf descriptions
  let sketches ← (← ownKeys source).filterMapM fun k => do
    if (← own? source k).any (·.listed) then
      return some (k, ← sketchOf (← field descriptions k))
    else return none
  match v with
  | .object a => for (k, d) in sketches do defineSurely a k d
  | _ => return

/-- Gives an object the fields of others that lists show. -/
def assign (target : Value) : List Value → Run Unit
  | [] => return
  | v :: rest => do
    if !v.isNothing then
      let a ← objectOf v
      for k in ← ownKeys a do
        if isVisible k then
          if (← own? a k).any (·.listed) then setField true target k (← field (.object a) k)
    assign target rest

/-- Puts the two items of an entry into an object. -/
def takeEntry (add : (key v : Value) → Run Unit) (e : Value) : Run Unit := do
  if !e.isObject then typeFail ("Iterator value " ++ (← noted e) ++ " is not an entry object")
  let k ← field e (.place 0)
  add k (← field e (.place 1))

/-- Items in groups by what a function says of them. -/
def grouped (v f : Value) (key : Value → Run Value) : Run (List (Value × List Value)) := do
  if v.isNothing then typeFail ((← noted v) ++ " is not iterable")
  expectFunction f
  let (groups, _) ← goThrough v (fun (groups, i) item => do
    let k ← key (← call f .undefined [item, .ofNat i])
    let groups : List (Value × List Value) :=
      if groups.any fun g => g.1 == k then groups.map fun g => if g.1 == k then (g.1, item :: g.2) else g
      else groups ++ [(k, [item])]
    return (groups, i + 1)) (([] : List (Value × List Value)), (0 : Nat))
  return groups.map fun g => (g.1, g.2.reverse)

/-! ## Texts of objects -/

/-- The kind that an object shows in its text. -/
def kindTag (v : Value) : Run String := do
  match v with
  | .undefined => return "Undefined"
  | .null => return "Null"
  | v =>
    let a ← objectOf v
    let plain ← if ← isList (.object a) then pure "Array"
      else reading fun s => className s (s.objects.getD a .blank).kind
    match ← field v .toStringTag with
    | .string t => return String.ofList t
    | _ => return plain

/-! ## The functions -/

def makeObject : Native := fun c => do
  if !(c.target matches .undefined) && !c.target.same (.object Family.object.maker) then
    return ← make c.target .object .plain
  if (c.given 0).isNothing then record [] else return .object (← objectOf (c.given 0))

/-- A prototype, which is an object or nothing. -/
def expectParent (v : Value) : Run Value := do
  match v with
  | .object _ => return v
  | .null => return v
  | v => typeFail ("Object prototype may only be an Object or null: " ++ (← noted v))

/-- A change of what can be done to an object, of which plain values have no need. -/
def settling (name : String) (f : Nat → Run Bool) (complaint : String) : Entry := method name 1 fun c => do
  match c.given 0 with
  | .object a =>
    if !(← f a) then typeFail complaint
    return c.given 0
  | v => return v

def objectEntries : List Entry :=
  [method "assign" 2 fun c => do
      let target ← objectOf (c.given 0)
      assign (.object target) (c.arguments.drop 1)
      return .object target,
    method "getOwnPropertyDescriptor" 2 fun c => do
      let a ← objectOf (c.given 0)
      match ← own? a (← keyOf (c.given 1)) with
      | some f => describe f
      | none => return .undefined,
    method "getOwnPropertyDescriptors" 1 fun c => do
      let a ← objectOf (c.given 0)
      let fields ← ((← ownKeys a).filter isVisible).filterMapM fun k => do
        match ← own? a k with
        | some f => return some (k, ← describe f)
        | none => return none
      record fields,
    method "getOwnPropertyNames" 1 fun c => do keyList (← objectOf (c.given 0)) isName,
    method "getOwnPropertySymbols" 1 fun c => do keyList (← objectOf (c.given 0)) isSymbol,
    method "hasOwn" 2 fun c => do
      let a ← objectOf (c.given 0)
      return .truth (← own? a (← keyOf (c.given 1))).isSome,
    method "is" 2 fun c => return .truth ((c.given 0).isExactly (c.given 1)),
    settling "preventExtensions" close "Cannot prevent extensions",
    settling "seal" (secure · false) "Cannot seal", method "create" 2 fun c => do
      let parent ← expectParent (c.given 0)
      let a ← allocated ⟨.plain, (match parent with
        | .object p => some p
        | _ => none), #[], true⟩
      if !(c.given 1 matches .undefined) then defineAll (.object a) (c.given 1)
      return .object a,
    method "defineProperties" 2 fun c => do
      let a ← expectObject "Object.defineProperties" (c.given 0)
      defineAll (.object a) (c.given 1)
      return c.given 0,
    method "defineProperty" 3 fun c => do
      let a ← expectObject "Object.defineProperty" (c.given 0)
      let k ← keyOf (c.given 1)
      defineSurely a k (← sketchOf (c.given 2))
      return c.given 0,
    settling "freeze" (secure · true) "Cannot freeze",
    method "getPrototypeOf" 1 fun c => do parentOf (← objectOf (c.given 0)),
    method "setPrototypeOf" 2 fun c => do
      if (c.given 0).isNothing then typeFail "Object.setPrototypeOf called on null or undefined"
      let parent ← expectParent (c.given 1)
      match c.given 0 with
      | .object a =>
        if !(← setParent a parent) then
          if ← isExtensible a then
            if a = Family.object.prototype then
              typeFail "Immutable prototype object 'Object.prototype' cannot have their prototype set"
            typeFail "Cyclic __proto__ value"
          typeFail ((← noted (.object a)) ++ " is not extensible")
      | _ => pure ()
      return c.given 0,
    method "isExtensible" 1 fun c => do
      match c.given 0 with
      | .object a => return .truth (← isExtensible a)
      | _ => return .truth false,
    method "isFrozen" 1 fun c => do
      match c.given 0 with
      | .object a => return .truth (← isSealed a true)
      | _ => return .truth true,
    method "isSealed" 1 fun c => do
      match c.given 0 with
      | .object a => return .truth (← isSealed a false)
      | _ => return .truth true,
    listing "keys" fun _ k => return k.value,
    listing "entries" fun a k => do pair k.value (← field (.object a) k),
    method "fromEntries" 1 fun c => do
      let a ← allocated ⟨.plain, some Family.object.prototype, #[], true⟩
      if (c.given 0).isNothing then typeFail ((← noted (c.given 0)) ++ " is not iterable")
      goThrough (c.given 0) (fun _ e => takeEntry (fun k v => do create (.object a) (← keyOf k) v) e) ()
      return .object a,
    listing "values" fun a k => field (.object a) k,
    method "groupBy" 2 fun c => do
      let groups ← grouped (c.given 0) (c.given 1) fun v => do return (← keyOf v).value
      let a ← allocated ⟨.plain, none, #[], true⟩
      for (k, items) in groups do put a (← keyOf k) (.ofValue (← list items))
      return .object a]

/-- The content that a field has for one of the two functions of an accessor, here or above. -/
def accessorOf (k : Key) (part : Field → Value) : (fuel address : Nat) → Run Value
  | 0, _ => return .undefined
  | fuel + 1, address => do
    match ← own? address k with
    | some f => return part f
    | none => match ← parentOf address with
      | .object p => accessorOf k part fuel p
      | _ => return .undefined

def objectPrototypeEntries : List Entry :=
  [method "__defineGetter__" 2 fun c => do
      let a ← objectOf c.this
      expectFunction (c.given 1)
      defineSurely a (← keyOf (c.given 0)) { getter := some (c.given 1), listed := some true, removable := some true }
      return .undefined,
    method "__defineSetter__" 2 fun c => do
      let a ← objectOf c.this
      expectFunction (c.given 1)
      defineSurely a (← keyOf (c.given 0)) { setter := some (c.given 1), listed := some true, removable := some true }
      return .undefined,
    method "hasOwnProperty" 1 fun c => do
      let k ← keyOf (c.given 0)
      return .truth (← own? (← objectOf c.this) k).isSome,
    method "__lookupGetter__" 1 fun c => do
      let part (f : Field) : Value := match f.content with
        | .accessor g _ => g
        | _ => .undefined
      accessorOf (← keyOf (c.given 0)) part chain (← objectOf c.this),
    method "__lookupSetter__" 1 fun c => do
      let part (f : Field) : Value := match f.content with
        | .accessor _ s => s
        | _ => .undefined
      accessorOf (← keyOf (c.given 0)) part chain (← objectOf c.this),
    method "isPrototypeOf" 1 fun c => do
      match c.given 0 with
      | .object b => return .truth (← buildsOn (← objectOf c.this) chain b)
      | _ => return .truth false,
    method "propertyIsEnumerable" 1 fun c => do
      let k ← keyOf (c.given 0)
      return .truth ((← own? (← objectOf c.this) k).any (·.listed)),
    method "toString" 0 fun c => do return .ofString ("[object " ++ (← kindTag c.this) ++ "]"),
    method "valueOf" 0 fun c => do return .object (← objectOf c.this),
    .accessor (Key.ofString "__proto__") "__proto__".toList (fun c => do parentOf (← objectOf c.this)) (some fun c => do
      if c.this.isNothing then typeFail "Object.prototype.__proto__ called on null or undefined"
      match c.this, c.given 0 with
      | .object a, .object p =>
        if !(← setParent a (.object p)) then
          if ← isExtensible a then typeFail "Cyclic __proto__ value"
          typeFail ((← noted c.this) ++ " is not extensible")
      | .object a, .null =>
        let _ ← setParent a .null
      | _, _ => pure ()
      return .undefined),
    method "toLocaleString" 0 fun c => invoke c.this "toString" []]

/-! ## Reflection -/

def reflectionEntries : List Entry :=
  [method "defineProperty" 3 fun c => do
      let a ← expectObject "Reflect.defineProperty" (c.given 0)
      let k ← keyOf (c.given 1)
      return .truth (← define a k (← sketchOf (c.given 2))),
    method "deleteProperty" 2 fun c => do
      let a ← expectObject "Reflect.deleteProperty" (c.given 0)
      return .truth (← remove a (← keyOf (c.given 1))),
    method "apply" 3 fun c => do
      if !(← isFunction (c.given 0)) then
        typeFail ("Function.prototype.apply was called on " ++ (← noted (c.given 0)) ++ ", which is a " ++
          String.ofList (← kindName (c.given 0)) ++ " and not a function")
      call (c.given 0) (c.given 1) (← itemsOf (c.given 2)),
    method "construct" 2 fun c => do
      let target := if c.arguments.length < 3 then c.given 0 else c.given 2
      if !(← isMaker (c.given 0)) then typeFail ((← noted (c.given 0)) ++ " is not a constructor")
      if !(← isMaker target) then typeFail ((← noted target) ++ " is not a constructor")
      ask (.construct (c.given 0) (← itemsOf (c.given 1)) target),
    method "get" 2 fun c => do
      let a ← expectObject "Reflect.get" (c.given 0)
      let receiver := if c.arguments.length < 3 then c.given 0 else c.given 2
      fieldFrom chain a (← keyOf (c.given 1)) receiver,
    method "getOwnPropertyDescriptor" 2 fun c => do
      let a ← expectObject "Reflect.getOwnPropertyDescriptor" (c.given 0)
      match ← own? a (← keyOf (c.given 1)) with
      | some f => describe f
      | none => return .undefined,
    method "getPrototypeOf" 1 fun c => do parentOf (← expectObject "Reflect.getPrototypeOf" (c.given 0)),
    method "has" 2 fun c => do
      let a ← expectObject "Reflect.has" (c.given 0)
      return .truth (← hasField a (← keyOf (c.given 1))),
    method "isExtensible" 1 fun c => do
      return .truth (← isExtensible (← expectObject "Reflect.isExtensible" (c.given 0))),
    method "ownKeys" 1 fun c => do keyList (← expectObject "Reflect.ownKeys" (c.given 0)) isVisible,
    method "preventExtensions" 1 fun c => do
      return .truth (← close (← expectObject "Reflect.preventExtensions" (c.given 0))),
    method "set" 3 fun c => do
      let a ← expectObject "Reflect.set" (c.given 0)
      let receiver := if c.arguments.length < 4 then c.given 0 else c.given 3
      return .truth (← setFrom chain a (← keyOf (c.given 1)) (c.given 2) receiver),
    method "setPrototypeOf" 2 fun c => do
      let a ← expectObject "Reflect.setPrototypeOf" (c.given 0)
      return .truth (← setParent a (← expectParent (c.given 1))),
    tag "Reflect"]

/-! ## Proxies -/

def newProxy (target handler : Value) : Run Value := do
  if !target.isObject || !handler.isObject then typeFail "Cannot create proxy with a non-object as target or handler"
  allocate ⟨.proxy target handler, none, #[], true⟩

/-- Takes a proxy its target and its handler. -/
def revokeProxy : Native := fun c => do
  match c.this with
  | .object a => setKind a (.proxy .null .null)
  | _ => pure ()
  return .undefined

def proxyEntries : List Entry :=
  [method "revocable" 2 fun c => do
    let p ← newProxy (c.given 0) (c.given 1)
    recordOf [("proxy", p), ("revoke", ← prepared .revokeProxy p [])]]

def recordPlans : List Plan :=
  [{ family := .object, parent := none, maker := some (1, makeObject) },
    { family := .proxy
      maker := some (2, requiresNew "Proxy" fun c => newProxy (c.given 0) (c.given 1)) }]

def recordParts : List Part :=
  [⟨Family.object.maker, objectEntries⟩, ⟨Family.object.prototype, objectPrototypeEntries⟩,
    ⟨Landmark.reflection.address, reflectionEntries⟩, ⟨Family.proxy.maker, proxyEntries⟩]

end Recurrence.Script.Library
