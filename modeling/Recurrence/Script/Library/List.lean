import Recurrence.Script.Library.Function
/-!
# The library: lists

Methods of lists work on whatever has a length and places.  A place can be missing, and most methods pass over such
places.  What makes a new list asks the old one how that is made.
-/
namespace Recurrence.Script.Library

open Run

/-! ## Places -/

/-- The object that a method of lists works on. -/
def subject (method : String) (this : Value) : Run Nat := do
  if this.isNothing then typeFail ("Array.prototype." ++ method ++ " called on null or undefined")
  objectOf this

/-- The item in a place, if there is one. -/
def present? (a i : Nat) : Run (Option Value) := do
  if ← hasField a (.ofNat i) then return some (← fieldFrom chain a (.ofNat i) (.object a)) else return none

def itemAt (a i : Nat) : Run Value := fieldFrom chain a (.ofNat i) (.object a)

def sizeOf (a : Nat) : Run Nat := lengthOf (.object a)

/-- Puts an item into a place, or throws. -/
def setItem (a i : Nat) (v : Value) : Run Unit := setField true (.object a) (.ofNat i) v

def setSize (a n : Nat) : Run Unit := setField true (.object a) (.text Object.lengthName) (.ofNat n)

def removeItem (a i : Nat) : Run Unit := removeSurely (.object a) (.ofNat i)

/-- The items in some places. -/
def itemsIn (a start stop : Nat) : Run (Array (Option Value)) :=
  let round (x : Nat × Array (Option Value)) : Run ((Nat × Array (Option Value)) ⊕ Array (Option Value)) := do
    let (i, items) := x
    if stop ≤ i then return .inr items
    return .inl (i + 1, items.push (← present? a i))
  repeated round #[] manyRounds (start, #[])

/-- The items in all places; those missing are nothing. -/
def allItems (a : Nat) : Run (List Value) := do
  return ((← itemsIn a 0 (← sizeOf a)).map fun v => v.getD .undefined).toList

/-! ## New lists -/

/-- The function that makes what methods of an object give, unless that is a plain list. -/
def speciesOf? (a : Nat) : Run (Option Value) := do
  if !(← isList (.object a)) then return none
  let c ← named (.object a) "constructor"
  let species ← if c.isObject then field c .species else pure c
  if species.isNothing || species.same (.object Family.list.maker) then return none
  if !(← isMaker species) then typeFail "object.constructor[Symbol.species] is not a constructor"
  return some species

/-- A list of items that is made as an object says. -/
def listLike (a size : Nat) (items : Array (Option Value)) : Run Value := do
  match ← speciesOf? a with
  | none => listOf items
  | some maker =>
    let result ← construct maker [.ofNat size]
    for (v, i) in items.toList.zipIdx do
      match v with
      | some v => create result (.ofNat i) v
      | none => pure ()
    match result with
    | .object b => setSize b items.size
    | _ => pure ()
    return result

/-! ## Going through lists -/

/-- Goes through the places of an object, as far as it is handed on. -/
def overPlaces {σ : Type} (start stop : Nat) (body : σ → Nat → Run (σ ⊕ σ)) (x : σ) : Run σ :=
  let round (p : Nat × σ) : Run ((Nat × σ) ⊕ σ) := do
    let (i, x) := p
    if stop ≤ i then return .inr x
    match ← body x i with
    | .inl x => return .inl (i + 1, x)
    | .inr x => return .inr x
  repeated round x manyRounds (start, x)

/-- The same, from the last place on. -/
def overPlacesBack {σ : Type} (count : Nat) (body : σ → Nat → Run (σ ⊕ σ)) (x : σ) : Run σ :=
  overPlaces 0 count (fun x i => body x (count - 1 - i)) x

/-- A method that calls a function for every item that is there; it may end early. -/
def asking {σ : Type} (name : String) (start : Nat → σ) (step : σ → Nat → Value → Value → Run (σ ⊕ σ))
    (result : Nat → σ → Run Value) : Entry := method name 1 fun c => do
  let a ← subject name c.this
  let n ← sizeOf a
  let f := c.given 0
  expectFunction f
  let body (x : σ) (i : Nat) : Run (σ ⊕ σ) := do
    match ← present? a i with
    | none => return .inl x
    | some v => step x i v (← call f (c.given 1) [v, .ofNat i, .object a])
  result a (← overPlaces 0 n body (start n))

/-- A method that looks for an item, missing ones included. -/
def seeking (name : String) (back : Bool) (result : Option (Nat × Value) → Value) : Entry := method name 1 fun c => do
  let a ← subject name c.this
  let n ← sizeOf a
  let f := c.given 0
  expectFunction f
  let body (_ : Option (Nat × Value)) (i : Nat) : Run (Option (Nat × Value) ⊕ Option (Nat × Value)) := do
    let v ← itemAt a i
    if (← call f (c.given 1) [v, .ofNat i, .object a]).isTrue then return .inr (some (i, v)) else return .inl none
  return result (← if back then overPlacesBack n body none else overPlaces 0 n body none)

def reducing (name : String) (back : Bool) : Entry := method name 1 fun c => do
  let a ← subject name c.this
  let n ← sizeOf a
  let f := c.given 0
  expectFunction f
  let start : Option Value := if c.arguments.length < 2 then none else some (c.given 1)
  let body (x : Option Value) (i : Nat) : Run (Option Value ⊕ Option Value) := do
    match ← present? a i, x with
    | none, x => return .inl x
    | some v, none => return .inl (some v)
    | some v, some x => return .inl (some (← call f .undefined [x, v, .ofNat i, .object a]))
  match ← if back then overPlacesBack n body start else overPlaces 0 n body start with
  | some v => return v
  | none => typeFail "Reduce of empty array with no initial value"

/-! ## Order -/

/-- Puts an item in its place among the first ones, which are in order; of places that do it takes the last. -/
def inserted (compare : Value → Value → Run Float) (v : Value) : (fuel left right : Nat) → Array Value → Run Nat
  | 0, left, _, _ => return left
  | fuel + 1, left, right, vs => do
    if right ≤ left then return left
    let middle := left + (right - left) / 2
    if (← compare v (vs.getD middle .undefined)) < 0 then inserted compare v fuel left middle vs
    else inserted compare v fuel (middle + 1) right vs

/-- The number of items at the start that are in order, or in reverse order. -/
def startInOrder (compare : Value → Value → Run Float) (down : Bool) : (count : Nat) → (last : Value) → List Value →
    Run Nat
  | count, _, [] => return count
  | count, last, v :: rest => do
    let x ← compare v last
    if (x < 0) == down then startInOrder compare down (count + 1) v rest else return count

/-- Few items in order: what is in order at the start stays so, and every other item is put in its place. -/
def sortedShort (compare : Value → Value → Run Float) (vs : List Value) : Run (List Value) := do
  match vs with
  | first :: second :: rest =>
    let down := (← compare second first) < 0
    let count ← startInOrder compare down 2 second rest
    let start := if down then (vs.take count).reverse else vs.take count
    let step (done : Array Value) (v : Value) : Run (Array Value) := do
      let i ← inserted compare v (done.size + 1) 0 done.size done
      return (done.extract 0 i).push v ++ done.extract i done.size
    return (← (vs.drop count).foldlM step start.toArray).toList
  | vs => return vs

/-- Two lists in order as one. -/
def merged (compare : Value → Value → Run Float) (xs ys : List Value) : Run (List Value) :=
  let round (p : List Value × List Value × List Value) :
      Run ((List Value × List Value × List Value) ⊕ List Value) := do
    match p with
    | (done, [], ys) => return .inr (done.reverse ++ ys)
    | (done, xs, []) => return .inr (done.reverse ++ xs)
    | (done, x :: xs, y :: ys) =>
      if (← compare y x) < 0 then return .inl (y :: done, x :: xs, ys) else return .inl (x :: done, xs, y :: ys)
  repeated round [] manyRounds ([], xs, ys)

/-- The number of items from which on they are put in order by halves. -/
def short : Nat := 64

/-- Items in order; equal ones stay as they are. -/
def sorted (compare : Value → Value → Run Float) : (fuel : Nat) → List Value → Run (List Value)
  | 0, vs => return vs
  | fuel + 1, vs => do
    if vs.length < short then sortedShort compare vs
    else
      let half := vs.length / 2
      let first ← sorted compare fuel (vs.take half)
      merged compare first (← sorted compare fuel (vs.drop half))

/-- How two items compare by a function or else by their texts. -/
def comparison (f : Value) (v w : Value) : Run Float := do
  match f with
  | .undefined =>
    let s ← textOf v
    let t ← textOf w
    return if comesBefore s t then -1 else if comesBefore t s then 1 else 0
  | f =>
    let x ← numberOf (← call f .undefined [v, w])
    return if x.isNaN then 0 else x

/-- Items in the order that a function, or else their texts, gives; undefined ones come last. -/
def inOrder (f : Value) (items : List Value) : Run (List Value) := do
  let (known, unknown) := items.partition fun v => !(v matches .undefined)
  return (← sorted (comparison f) 64 known) ++ unknown

def expectComparison (f : Value) : Run Unit := do
  if !(f matches .undefined) then
    if !(← isFunction f) then typeFail "The comparison function must be either a function or undefined"

/-! ## Texts of lists -/

/-- The texts of all items with a separator between; a list within itself is left out. -/
def joinedItems (a : Nat) (separator : Text) (text : Value → Run Text) : Run Text := do
  if (← reading (·.joining)).contains a then return []
  changing fun s => { s with joining := a :: s.joining }
  let texts ← ((← allItems a).mapM fun (v : Value) =>
    if v.isNothing then pure [] else text v).outcome
  changing fun s => { s with joining := s.joining.drop 1 }
  match texts with
  | .ok ts => return concatenated (ts.intersperse separator)
  | .error h => halt h

/-! ## Changing lists -/

/-- Moves the items of some places by a distance, in an order in which none is lost. -/
def moveItems (a source goal count : Nat) : Run Unit := do
  let step (_ : Unit) (i : Nat) : Run (Unit ⊕ Unit) := do
    match ← present? a (source + i) with
    | some v => setItem a (goal + i) v
    | none => if ← hasField a (.ofNat (goal + i)) then removeItem a (goal + i)
    return .inl ()
  if goal ≤ source then overPlaces 0 count step () else overPlacesBack count step ()

/-- Removes the places from one on. -/
def removeFromPlace (a start stop : Nat) : Run Unit :=
  overPlacesBack (stop - start) (fun _ i => do
    removeItem a (start + i)
    return .inl ()) ()

/-- Puts items into places one after another. -/
def putItems (a : Nat) : (start : Nat) → List Value → Run Unit
  | _, [] => return
  | i, v :: vs => do
    setItem a i v
    putItems a (i + 1) vs

/-- The greatest number of items. -/
def mostItems : Nat := 9007199254740991

def pushMethod : Native := fun c => do
  let a ← subject "push" c.this
  let n ← sizeOf a
  if mostItems < n + c.arguments.length then typeFail "Pushing elements past 2^53 - 1"
  putItems a n c.arguments
  setSize a (n + c.arguments.length)
  return .ofNat (n + c.arguments.length)

/-- The number of items that a cut takes away from a place on. -/
def cutCount (n start : Nat) (vs : List Value) : Run Nat := do
  match vs with
  | [] => return 0
  | [_] => return n - start
  | _ :: count :: _ => return Nat.min (← wholeOf count).toNat (n - start)

def spliceMethod : Native := fun c => do
  let a ← subject "splice" c.this
  let n ← sizeOf a
  let start ← relativeOr n 0 (c.given 0)
  let count ← cutCount n start c.arguments
  let fresh := c.arguments.drop 2
  let taken ← listLike a count (← itemsIn a start (start + count))
  if fresh.length ≠ count then moveItems a (start + count) (start + fresh.length) (n - start - count)
  removeFromPlace a (n - count + fresh.length) n
  putItems a start fresh
  setSize a (n - count + fresh.length)
  return taken

def shiftMethod : Native := fun c => do
  let a ← subject "shift" c.this
  let n ← sizeOf a
  if n = 0 then
    setSize a 0
    return .undefined
  match ← objectAt a with
  | ⟨.list items size false, _, fields, true⟩ =>
    if fields.isEmpty && size == items.size && items.all Option.isSome then
      let first := (items.getD 0 none).getD .undefined
      setKind a (.list (items.extract 1 items.size) (size - 1) false)
      return first
  | _ => pure ()
  let first ← itemAt a 0
  moveItems a 1 0 (n - 1)
  removeItem a (n - 1)
  setSize a (n - 1)
  return first

def unshiftMethod : Native := fun c => do
  let a ← subject "unshift" c.this
  let n ← sizeOf a
  if !c.arguments.isEmpty then
    moveItems a 0 c.arguments.length n
    putItems a 0 c.arguments
  setSize a (n + c.arguments.length)
  return .ofNat (n + c.arguments.length)

def reverseMethod : Native := fun c => do
  let a ← subject "reverse" c.this
  let n ← sizeOf a
  let put (i : Nat) (v : Option Value) : Run Unit := do
    match v with
    | some v => setItem a i v
    | none => if ← hasField a (.ofNat i) then removeItem a i
  overPlaces 0 (n / 2) (fun _ i => do
    let low ← present? a i
    let high ← present? a (n - 1 - i)
    put i high
    put (n - 1 - i) low
    return .inl ()) ()
  return .object a

def sortMethod : Native := fun c => do
  expectComparison (c.given 0)
  let a ← subject "sort" c.this
  let n ← sizeOf a
  let items := ((← itemsIn a 0 n).toList).filterMap id
  let inOrder ← inOrder (c.given 0) items
  putItems a 0 inOrder
  overPlaces inOrder.length n (fun _ i => do
    if ← hasField a (.ofNat i) then removeItem a i
    return .inl ()) ()
  return .object a

/-! ## Lists of lists -/

/-- The items of lists within a list, down to some levels. -/
def flattened : (fuel levels : Nat) → (a : Nat) → Array (Option Value) → Run (Array (Option Value))
  | 0, _, _, done => return done
  | fuel + 1, levels, a, done => do
    overPlaces 0 (← sizeOf a) (fun done i => do
      match ← present? a i with
      | none => return .inl done
      | some v => match v, levels, ← isList v with
        | .object b, levels + 1, true => return .inl (← flattened fuel levels b done)
        | v, _, _ => return .inl (done.push (some v))) done

/-- Whether the items of a value are taken instead of it. -/
def isSpreadable (v : Value) : Run Bool := do
  if !v.isObject then return false
  match ← field v .isConcatSpreadable with
  | .undefined => isList v
  | w => return w.isTrue

def concatMethod : Native := fun c => do
  let a ← subject "concat" c.this
  let step (done : Array (Option Value)) (v : Value) : Run (Array (Option Value)) := do
    match v, ← isSpreadable v with
    | .object b, true => return done ++ (← itemsIn b 0 (← sizeOf b))
    | v, _ => return done.push (some v)
  listLike a 0 (← (.object a :: c.arguments).foldlM step #[])

/-! ## Places of items -/

/-- The first place from a given one on with a wanted item. -/
def placeMethod (name : String) (found : Option Nat → Value) (wanted : Nat → Nat → Value → Run Bool) : Entry :=
  method name 1 fun c => do
    let a ← subject name c.this
    let n ← sizeOf a
    if n = 0 then return found none
    let start ← relativeOr n 0 (c.given 1)
    found <$> overPlaces start n (fun _ i => do
      if ← wanted a i (c.given 0) then return .inr (some i) else return .inl none) none

def lastPlaceMethod : Native := fun c => do
  let a ← subject "lastIndexOf" c.this
  let n ← sizeOf a
  if n = 0 then return ofPlace none
  let last ← if c.arguments.length < 2 then pure (n : Int) else do
    let k ← wholeOf (c.given 1)
    pure (if k < 0 then n + k + 1 else k + 1)
  if last ≤ 0 then return ofPlace none
  ofPlace <$> overPlacesBack (Nat.min last.toNat n) (fun _ i => do
    match ← present? a i with
    | some v => if v.same (c.given 0) then return .inr (some i) else return .inl none
    | none => return .inl none) none

/-! ## Making lists -/

def makeList : Native := fun c => do
  let target := if c.target matches .undefined then .object Family.list.maker else c.target
  let parent ← prototypeFor target .list
  match c.arguments with
  | [.number x] => match Number.index? x with
    | some n =>
      if Key.placeBound < n then badLength
      allocate ⟨.list #[] n false, some parent, #[], true⟩
    | none => badLength
  | vs => allocate ⟨.list (vs.map some).toArray vs.length false, some parent, #[], true⟩

/-- A list made with a function, if that makes objects. -/
def listBy (maker : Value) (first : List Value) (items : List Value) : Run Value := do
  if maker.same (.object Family.list.maker) || !(← isMaker maker) then return ← list items
  let result ← construct maker first
  for (v, i) in items.zipIdx do create result (.ofNat i) v
  match result with
  | .object a => setSize a items.length
  | _ => pure ()
  return result

def listFrom : Native := fun c => do
  let source := c.given 0
  let f := c.given 1
  if !(f matches .undefined) then expectFunction f
  let mapped (v : Value) (i : Nat) : Run Value :=
    match f with
    | .undefined => return v
    | f => call f (c.given 2) [v, .ofNat i]
  if source.isNothing then notIterable none source
  match ← method? source .iterator with
  | some g =>
    let w ← walkWith g source
    let (items, _) ← walking w (fun (done, i) v => do
      return .inl ((done.push (← mapped v i), i + 1))) ((#[] : Array Value), (0 : Nat))
    listBy c.this [] items.toList
  | none =>
    let a ← objectOf source
    let n ← sizeOf a
    let items ← overPlaces 0 n (fun (done : Array Value) i => do
      return .inl (done.push (← mapped (← itemAt a i) i))) #[]
    listBy c.this [.ofNat n] items.toList

/-- Collects the items of a walk that are waited for. -/
def waitingCollection : Text :=
  ("(async function (items, f, own) \x7b const all = []; let i = 0; if (f !== undefined && typeof f !== 'function') " ++
    "throw new TypeError(String(f) + ' is not a function'); if (items[Symbol.asyncIterator] || items[Symbol.iterator]) " ++
    "\x7b for await (const v of items) \x7b all.push(f ? await f.call(own, v, i) : v); i++; \x7d \x7d else \x7b const n " ++
    "= items.length >>> 0; for (; i < n; i++) \x7b const v = await items[i]; all.push(f ? await f.call(own, v, i) : v); " ++
    "\x7d \x7d return all; \x7d)").toList

/-! ## The functions -/

def listEntries : List Entry :=
  [method "isArray" 1 fun c => do return .truth (← isList (c.given 0)), method "from" 1 listFrom,
    method "fromAsync" 1 fun c => do call (← runText waitingCollection) .undefined c.arguments,
    method "of" 0 fun c => listBy c.this [.ofNat c.arguments.length] c.arguments, speciesEntry]

/-- A walk through a list. -/
def walkOfList (yields : Yield) : Native := fun c => do
  let a ← objectOf c.this
  allocate ⟨.walk (.list (.object a) 0 yields), some Family.listWalk.prototype, #[], true⟩

/-- The function that walks through a list. -/
def listValues : Native := walkOfList .values

def changedPlace (name : String) (c : Summons) : Run (Nat × List Value) := do
  let a ← subject name c.this
  return (a, ← allItems a)

def listPrototypeEntries : List Entry :=
  [method "at" 1 fun c => do
      let a ← subject "at" c.this
      let n ← sizeOf a
      let i ← wholeOf (c.given 0)
      let i := if i < 0 then n + i else i
      if i < 0 ∨ (n : Int) ≤ i then return .undefined else itemAt a i.toNat,
    method "concat" 1 concatMethod,
    method "copyWithin" 2 fun c => do
      let a ← subject "copyWithin" c.this
      let n ← sizeOf a
      let goal ← relativeOr n 0 (c.given 0)
      let start ← relativeOr n 0 (c.given 1)
      let stop ← relativeOr n n (c.given 2)
      moveItems a start goal (Nat.min (stop - start) (n - goal))
      return .object a,
    method "fill" 1 fun c => do
      let a ← subject "fill" c.this
      let n ← sizeOf a
      let start ← relativeOr n 0 (c.given 1)
      let stop ← relativeOr n n (c.given 2)
      overPlaces start stop (fun _ i => do
        setItem a i (c.given 0)
        return .inl ()) ()
      return .object a,
    seeking "find" false fun r => (r.map (·.2)).getD .undefined,
    seeking "findIndex" false fun r => ofPlace (r.map (·.1)),
    seeking "findLast" true fun r => (r.map (·.2)).getD .undefined,
    seeking "findLastIndex" true fun r => ofPlace (r.map (·.1)),
    method "lastIndexOf" 1 lastPlaceMethod,
    method "pop" 0 fun c => do
      let a ← subject "pop" c.this
      let n ← sizeOf a
      if n = 0 then
        setSize a 0
        return .undefined
      let v ← itemAt a (n - 1)
      removeItem a (n - 1)
      setSize a (n - 1)
      return v,
    method "push" 1 pushMethod, method "reverse" 0 reverseMethod, method "shift" 0 shiftMethod,
    method "unshift" 1 unshiftMethod,
    method "slice" 2 fun c => do
      let a ← subject "slice" c.this
      let n ← sizeOf a
      let start ← relativeOr n 0 (c.given 0)
      let stop ← relativeOr n n (c.given 1)
      listLike a (stop - start) (← itemsIn a start stop),
    method "sort" 1 sortMethod, method "splice" 2 spliceMethod,
    placeMethod "includes" (fun i => .truth i.isSome) fun a i v => do return (← itemAt a i).sameValue v,
    placeMethod "indexOf" ofPlace fun a i v => do return (← present? a i).any (·.same v),
    method "join" 1 fun c => do
      let a ← subject "join" c.this
      let separator ← match c.given 0 with
        | .undefined => pure [',']
        | v => textOf v
      return .string (← joinedItems a separator textOf),
    method "keys" 0 (walkOfList .keys), method "entries" 0 (walkOfList .entries),
    .content (Key.ofString "values") (.unlisted (.object Landmark.listValues.address)),
    .content .iterator (.unlisted (.object Landmark.listValues.address)),
    asking "forEach" (fun _ => ()) (fun _ _ _ _ => return .inl ()) fun _ _ => return .undefined,
    asking "filter" (fun _ => (#[] : Array (Option Value)))
      (fun done _ v r => return .inl (if r.isTrue then done.push (some v) else done)) fun a done => listLike a 0 done,
    method "flat" 0 fun c => do
      let a ← subject "flat" c.this
      let levels ← match c.given 0 with
        | .undefined => pure 1
        | v => do pure (← wholeOf v).toNat
      listLike a 0 (← flattened chain levels a #[]),
    asking "flatMap" (fun _ => (#[] : Array (Option Value))) (fun done _ _ r => do
      match r, ← isList r with
      | .object b, true => return .inl (← flattened chain 0 b done)
      | r, _ => return .inl (done.push (some r))) fun a done => listLike a 0 done,
    asking "map" (fun n => (n, (#[] : Array (Option Value)))) (fun (n, done) i _ r =>
      return .inl (n, (done ++ Array.replicate (i - done.size) none).push (some r))) fun a (n, done) =>
        listLike a n (done ++ Array.replicate (n - done.size) none),
    asking "every" (fun _ => true) (fun _ _ _ r => return if r.isTrue then .inl true else .inr false)
      fun _ b => return .truth b,
    asking "some" (fun _ => false) (fun _ _ _ r => return if r.isTrue then .inr true else .inl false)
      fun _ b => return .truth b,
    reducing "reduce" false, reducing "reduceRight" true,
    method "toReversed" 0 fun c => do
      let (_, items) ← changedPlace "toReversed" c
      list items.reverse,
    method "toSorted" 1 fun c => do
      expectComparison (c.given 0)
      let (_, items) ← changedPlace "toSorted" c
      list (← inOrder (c.given 0) items),
    method "toSpliced" 2 fun c => do
      let (_, items) ← changedPlace "toSpliced" c
      let start ← relativeOr items.length 0 (c.given 0)
      let count ← cutCount items.length start c.arguments
      list (items.take start ++ c.arguments.drop 2 ++ items.drop (start + count)),
    method "toLocaleString" 0 fun c => do
      let a ← subject "toLocaleString" c.this
      return .string (← joinedItems a [','] fun v => do textOf (← invoke v "toLocaleString" c.arguments)),
    method "toString" 0 fun c => do
      let a ← subject "toString" c.this
      let f ← named (.object a) "join"
      if ← isFunction f then call f (.object a) []
      else return .ofString ("[object " ++ (← reading fun s => className s (s.objects.getD a .blank).kind) ++ "]"),
    method "with" 2 fun c => do
      let (_, items) ← changedPlace "with" c
      let i ← wholeOf (c.given 0)
      let i := if i < 0 then items.length + i else i
      if i < 0 ∨ (items.length : Int) ≤ i then
        rangeFail ("Invalid index : " ++ String.ofList (wholeText (← wholeOf (c.given 0))))
      list (items.set i.toNat (c.given 1)),
    .content .unscopables ⟨.value (.object Landmark.unseen.address) false, false, true⟩]

/-- Names that code which sees the fields of a list as names does not see. -/
def unseenNames : List String :=
  ["at", "copyWithin", "entries", "fill", "find", "findIndex", "findLast", "findLastIndex", "flat", "flatMap",
    "includes", "keys", "toReversed", "toSorted", "toSpliced", "values"]

def listPlans : List Plan := [{ family := .list, kind := .list #[] 0 false, maker := some (1, makeList) }]

def listParts : List Part :=
  [⟨Family.list.maker, listEntries⟩, ⟨Family.list.prototype, listPrototypeEntries⟩,
    ⟨Landmark.unseen.address, unseenNames.map fun n => shownContent n (.truth true)⟩]

end Recurrence.Script.Library
