import Recurrence.Script.Library.Function
/-!
# The library: walks

Steps of walks through lists, texts and collections, of routines that hand out values, and walks that change what
another walk gives.
-/
namespace Recurrence.Script.Library

open Run

/-! ## Walks of the library -/

/-- What a walk gives for a place. -/
def yielded (yields : Yield) (k v : Value) : Run Value :=
  match yields with
  | .keys => return k
  | .values => return v
  | .entries => list [k, v]

/-- Goes on with a walk through a list. -/
def listStep (a : Nat) (source : Value) (next : Nat) (yields : Yield) : Run Value := do
  let size ← match source with
    | .object b => match ← kindAt b with
      | .view _ _ _ count => pure count
      | _ => lengthOf source
    | _ => lengthOf source
  if size ≤ next then
    setKind a (.walk .ended)
    stepResult .undefined true
  else
    setKind a (.walk (.list source (next + 1) yields))
    let v ← if yields = .keys then pure .undefined else field source (.ofNat next)
    stepResult (← yielded yields (.ofNat next) v) false

/-- The next item of a collection from a place on, and the place after it. -/
def nextEntry? (entries : Array (Option (Value × Value))) : (fuel next : Nat) → Option ((Value × Value) × Nat)
  | 0, _ => none
  | fuel + 1, next =>
    match entries[next]? with
    | some (some e) => some (e, next + 1)
    | some none => nextEntry? entries fuel (next + 1)
    | none => none

def collectionStep (a collection next : Nat) (yields : Yield) : Run Value := do
  match ← kindAt collection with
  | .collection _ _ entries _ => match nextEntry? entries (entries.size + 1) next with
    | some ((k, v), next) =>
      setKind a (.walk (.collection collection next yields))
      stepResult (← yielded yields k v) false
    | none =>
      setKind a (.walk .ended)
      stepResult .undefined true
  | _ => stepResult .undefined true

/-- A step of a walk of the library; `name` is what such walks are called. -/
def walkStep (name : String) : Native := fun c => do
  let wrong {α : Type} : Run α := do
    typeFail ("Method " ++ name ++ ".prototype.next called on incompatible receiver " ++ (← noted c.this))
  match c.this with
  | .object a => match ← kindAt a with
    | .walk (.list source next yields) => listStep a source next yields
    | .walk (.collection collection next yields) => collectionStep a collection next yields
    | .walk (.text []) =>
      setKind a (.walk .ended)
      stepResult .undefined true
    | .walk (.text (ch :: rest)) =>
      setKind a (.walk (.text rest))
      stepResult (.string [ch]) false
    | .walk .ended => stepResult .undefined true
    | _ => wrong
  | _ => wrong

/-! ## Routines -/

/-- Enters a routine that hands out values. -/
def enterRoutine (name : String) (respond : Value → Response) : Entry := method name 1 fun c => do
  let wrong {α : Type} : Run α := do
    typeFail (name ++ " method called on incompatible receiver " ++ (← noted c.this))
  match c.this with
  | .object g => match ← kindAt g with
    | .routine .active => typeFail "Generator is already running"
    | .routine .over => match respond (c.given 0) with
      | .value _ => stepResult .undefined true
      | .fault v => raise v
      | .finish v => stepResult v true
    | .routine phase => match phase, respond (c.given 0) with
      | .fresh, .fault v =>
        setKind g (.routine .over)
        raise v
      | .fresh, .finish v =>
        setKind g (.routine .over)
        stepResult v true
      | _, r =>
        setKind g (.routine .active)
        let v ← ask (.resume g r)
        if (← kindAt g) matches .routine .over then stepResult v true else return v
    | _ => wrong
  | _ => wrong

/-- Waits for a value and then ends a walk with it. -/
def lastStep : Text := "(p => p.then(value => (\x7b value, done: true \x7d)))".toList

/-- Enters a routine that hands out values and waits for others. -/
def enterAsyncRoutine (name : String) (respond : Value → Response) : Entry := method name 1 fun c => do
  let promise ← newPromise
  let r := respond (c.given 0)
  match c.this with
  | .object g => match ← kindAt g with
    | .asyncRoutine .over _ => match r with
      | .value _ => resolvePromise promise (← stepResult .undefined true)
      | .fault v => settlePromise promise (.broken v)
      | .finish v =>
        let p ← promiseOf v
        resolvePromise promise (← call (← runText lastStep) .undefined [.object p])
    | .asyncRoutine .active requests =>
      setKind g (.asyncRoutine .active (requests ++ [⟨r, promise⟩]))
    | .asyncRoutine _ requests =>
      setKind g (.asyncRoutine .active (requests ++ [⟨r, promise⟩]))
      let _ ← askPlainly (.resume g r)
    | _ => settlePromise promise (.broken (← fault .typeFault (name ++ " method called on incompatible receiver " ++
        (← noted c.this)).toList))
  | v => settlePromise promise (.broken (← fault .typeFault (name ++ " method called on incompatible receiver " ++
      (← noted v)).toList))
  return .object promise

/-! ## Walks over walks -/

/-- A walk that a method works on. -/
def thisWalk (name : String) (c : Summons) : Run Walker := do
  if !c.this.isObject then typeFail ("Iterator.prototype." ++ name ++ " called on non-object")
  return ⟨c.this, ← named c.this "next"⟩

/-- A routine that walks through another walk, step by step. -/
def helping (parameters body : String) : Text :=
  ("(function* (it, next, " ++ parameters ++ ") \x7b const all = \x7b [Symbol.iterator]: () => (\x7b next: () => " ++
    "next.call(it), return: () => \x7b const r = it.return; return r == null ? \x7b\x7d : r.call(it); \x7d \x7d) \x7d; " ++
    body ++ " \x7d)").toList

/-- A walk that a routine makes of another one. -/
def helperOf (name : String) (w : Walker) (source : Text) (v : Value) : Run Value := do
  let f ← runText source
  let g ← call f .undefined [w.walk, w.next, v]
  match g with
  | .object a => update a fun o => { o with parent := some Family.helper.prototype }
  | _ => typeFail name
  return g

/-- A method that changes the items of a walk by a function. -/
def helper (name body : String) : Entry := method name 1 fun c => do
  let w ← thisWalk name c
  expectFunction (c.given 0)
  helperOf name w (helping "f" body) (c.given 0)

/-- A method that counts items. -/
def counting (name body : String) : Entry := method name 1 fun c => do
  let w ← thisWalk name c
  let x ← numberOf (c.given 0)
  if x.isNaN then rangeFail ((← noted (c.given 0)) ++ " must be positive")
  let n := Number.truncated x
  if n < 0 then rangeFail ((← noted (c.given 0)) ++ " must be positive")
  helperOf name w (helping "n" body) (.number n)

/-- A method that calls a function for every item, until a result is found. -/
def searching (name : String) (otherwise : Value) (found : (item answer : Value) → Option Value) : Entry :=
  method name 1 fun c => do
    let w ← thisWalk name c
    let f := c.given 0
    expectFunction f
    let (_, r) ← walking w (fun (i, r) v => do
      match found v (← call f .undefined [v, .ofNat i]) with
      | some r => return .inr (i, r)
      | none => return .inl (i + 1, r)) ((0 : Nat), otherwise)
    return r

def walkPrototypeEntries : List Entry :=
  [.method .iterator "[Symbol.iterator]".toList 0 itself,
    helper "map" "let i = 0; for (const v of all) yield f(v, i++);",
    helper "filter" "let i = 0; for (const v of all) if (f(v, i++)) yield v;",
    counting "take" ("let left = n; if (left === 0) \x7b all[Symbol.iterator]().return(); return; \x7d " ++
      "for (const v of all) \x7b yield v; if (--left <= 0) return; \x7d"),
    counting "drop" "let left = n; for (const v of all) if (left > 0) left--; else yield v;",
    helper "flatMap" ("let i = 0; for (const v of all) \x7b const inner = f(v, i++); if (typeof inner === 'string') " ++
      "throw new TypeError(inner + ' is not an object'); yield* inner; \x7d"),
    method "reduce" 1 fun c => do
      let w ← thisWalk "reduce" c
      let f := c.given 0
      expectFunction f
      let start : Option Value := if c.arguments.length < 2 then none else some (c.given 1)
      let (_, r) ← walking w (fun (i, x) v => do
        match x with
        | none => return .inl (i + 1, some v)
        | some x => return .inl (i + 1, some (← call f .undefined [x, v, .ofNat i]))) ((0 : Nat), start)
      match r with
      | some v => return v
      | none => typeFail "Reduce of a done iterator with no initial value",
    method "toArray" 0 fun c => do list (← rest (← thisWalk "toArray" c)).toList,
    searching "forEach" .undefined fun _ _ => none,
    searching "some" (.truth false) fun _ r => if r.isTrue then some (.truth true) else none,
    searching "every" (.truth true) fun _ r => if r.isTrue then none else some (.truth false),
    searching "find" .undefined fun v r => if r.isTrue then some v else none,
    tag "Iterator"]

/-- A walk that goes through what a value holds. -/
def walkFrom : Native := fun c => do
  let v := c.given 0
  if !v.isObject && !(v matches .string _) then typeFail "Iterator.from called on non-object"
  let w ← match ← method? v .iterator with
    | some f => walkWith f v
    | none => do pure ⟨v, ← named v "next"⟩
  match w.walk with
  | .object a => if ← buildsOn Family.iterator.prototype chain a then return w.walk
  | _ => pure ()
  allocate ⟨.branded .wrapper [w.walk, w.next], some Family.wrapper.prototype, #[], true⟩

/-- The walk that a wrapper stands for. -/
def wrapped (c : Summons) : Run Walker := do
  match c.this with
  | .object a => match ← kindAt a with
    | .branded _ [walk, next] => return ⟨walk, next⟩
    | _ => incompatible "%WrapForValidIteratorPrototype%.next" c.this
  | v => incompatible "%WrapForValidIteratorPrototype%.next" v

def makeWalk : Native := fun c => do
  if c.target.same (.object Family.iterator.maker) then
    typeFail "Abstract class Iterator not directly constructable"
  make c.target .iterator .plain

def walkPlans : List Plan :=
  let walkFamily (f : Family) : Plan := { family := f, parent := some Family.iterator.prototype }
  [{ family := .iterator, maker := some (0, requiresNew "Iterator" makeWalk) },
    walkFamily .listWalk, walkFamily .textWalk, walkFamily .mapWalk, walkFamily .setWalk, walkFamily .patternWalk,
    walkFamily .helper, walkFamily .wrapper, walkFamily .generator, { family := .asyncIterator },
    { family := .asyncGenerator, parent := some Family.asyncIterator.prototype }]

/-- The step of walks of a family. -/
def stepPart (f : Family) : Part := ⟨f.prototype, [method "next" 0 (walkStep f.name), tag f.name]⟩

def walkParts : List Part :=
  [⟨Family.iterator.prototype, walkPrototypeEntries⟩, ⟨Family.iterator.maker, [method "from" 1 walkFrom]⟩] ++
  [.listWalk, .textWalk, .mapWalk, .setWalk].map stepPart ++
  [⟨Family.generator.prototype,
      [.content (Key.ofString "constructor") ⟨.value (.object Family.generatorFunction.prototype) false, false, true⟩,
        enterRoutine "next" .value, enterRoutine "return" .finish, enterRoutine "throw" .fault, tag "Generator"]⟩,
    ⟨Family.helper.prototype,
      [enterRoutine "next" .value, enterRoutine "return" .finish, tag "Iterator Helper"]⟩,
    ⟨Family.wrapper.prototype,
      [method "next" 0 fun c => do
          let w ← wrapped c
          call w.next w.walk [],
        method "return" 0 fun c => do
          let w ← wrapped c
          match ← method? w.walk (Key.ofString "return") with
          | some f => call f w.walk []
          | none => stepResult .undefined true]⟩,
    ⟨Family.asyncIterator.prototype, [.method .asyncIterator "[Symbol.asyncIterator]".toList 0 itself]⟩,
    ⟨Family.asyncGenerator.prototype,
      [.content (Key.ofString "constructor")
          ⟨.value (.object Family.asyncGeneratorFunction.prototype) false, false, true⟩,
        enterAsyncRoutine "next" .value, enterAsyncRoutine "return" .finish, enterAsyncRoutine "throw" .fault,
        tag "AsyncGenerator"]⟩]

end Recurrence.Script.Library
