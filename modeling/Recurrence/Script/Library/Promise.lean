import Recurrence.Script.Library.Function
/-!
# The library: promises

Making promises, and promises of what several ones come to.
-/
namespace Recurrence.Script.Library

open Run

def makePromise : Native := fun c => do
  if c.target matches .undefined then typeFail "Promise constructor cannot be invoked without 'new'"
  let f := c.given 0
  if !(← isFunction f) then typeFail ("Promise resolver " ++ (← noted f) ++ " is not a function")
  let promise ← allocated ⟨.promise .open [] false, some (← prototypeFor c.target .promise), #[], true⟩
  let (resolve, reject) ← settlersOf promise
  match ← (call f .undefined [resolve, reject]).outcome with
  | .ok _ => pure ()
  | .error (.thrown v) => let _ ← call reject .undefined [v]
  | .error h => halt h
  return .object promise

/-- The function that makes promises like another one. -/
def promiseMaker (v : Value) : Run Value := do
  let usual : Value := .object Family.promise.maker
  match ← named v "constructor" with
  | .undefined => return usual
  | c =>
    if !c.isObject then typeFail "The .constructor property is not an object"
    let species ← field c .species
    return if species.isNothing then usual else species

def thenMethod : Native := fun c => do
  match c.this, ← isPromise c.this with
  | .object a, true =>
    let p ← pledgeBy (← promiseMaker c.this)
    followed a p (c.given 0) (c.given 1)
  | v, _ => incompatible "Promise.prototype.then" v

/-- A function of the script's own making. -/
def written (source : String) : Run Value := runText source.toList

/-- What is called at last hands on what came before it. -/
def lastly : String :=
  "((f, C) => [v => C.resolve(f()).then(() => v), e => C.resolve(f()).then(() => \x7b throw e; \x7d)])"

def finallyMethod : Native := fun c => do
  if !c.this.isObject then typeFail "Promise.prototype.finally called on a non-object"
  let f := c.given 0
  if !(← isFunction f) then return ← invoke c.this "then" [f, f]
  let maker ← promiseMaker c.this
  let both ← call (← written lastly) .undefined [f, maker]
  invoke c.this "then" [← field both (.place 0), ← field both (.place 1)]

/-- Expects that a function makes promises. -/
def expectMaker (name : String) (v : Value) : Run Unit := do
  if !v.isObject then typeFail ("Promise." ++ name ++ " called on non-object")

/-- A promise of what several ones come to; `source` says what, of functions that settle the promise, the function that
makes promises, its method, and a walk. -/
def gathering (name source : String) : Entry := method name 1 fun c => do
  expectMaker name c.this
  let p ← pledgeBy c.this
  let run : Run Unit := do
    let resolve ← named c.this "resolve"
    if !(← isFunction resolve) then typeFail "Promise resolve or reject function is not callable"
    let w ← walkOver none (c.given 0)
    let g ← written source
    let _ ← call g .undefined [p.resolve, p.reject, c.this, resolve, w.walk, w.next]
  match ← run.outcome with
  | .ok _ => pure ()
  | .error (.thrown v) => let _ ← call p.reject .undefined [v]
  | .error h => halt h
  return p.promise

/-- The start of what gathers promises: a way to walk through them. -/
def gatherStart : String :=
  "((done, fail, C, resolve, it, next) => \x7b const all = \x7b [Symbol.iterator]: () => (\x7b next: () => next.call(it)" ++
  ", return: () => \x7b const r = it.return; return r == null ? \x7b\x7d : r.call(it); \x7d \x7d) \x7d; const values = " ++
  "[]; let left = 1, i = 0; "

def promiseEntries : List Entry :=
  [gathering "all" (gatherStart ++
      "for (const v of all) \x7b const k = i++; let used = false; left++; resolve.call(C, v).then(x => \x7b if (used) " ++
      "return; used = true; values[k] = x; if (--left === 0) done(values); \x7d, fail); \x7d if (--left === 0) " ++
      "done(values); \x7d)"),
    gathering "allSettled" (gatherStart ++
      "for (const v of all) \x7b const k = i++; let used = false; left++; const set = o => \x7b if (used) return; used " ++
      "= true; values[k] = o; if (--left === 0) done(values); \x7d; resolve.call(C, v).then(value => set(\x7b status: " ++
      "'fulfilled', value \x7d), reason => set(\x7b status: 'rejected', reason \x7d)); \x7d if (--left === 0) " ++
      "done(values); \x7d)"),
    gathering "any" (gatherStart ++
      "const none = () => fail(new AggregateError(values, 'All promises were rejected')); for (const v of all) \x7b " ++
      "const k = i++; let used = false; left++; resolve.call(C, v).then(done, e => \x7b if (used) return; used = true; " ++
      "values[k] = e; if (--left === 0) none(); \x7d); \x7d if (--left === 0) none(); \x7d)"),
    gathering "race" (gatherStart ++ "for (const v of all) resolve.call(C, v).then(done, fail); \x7d)"),
    method "resolve" 1 fun c => do
      if !c.this.isObject then typeFail "PromiseResolve called on non-object"
      promiseBy c.this (c.given 0),
    method "reject" 1 fun c => do
      if !c.this.isObject then typeFail "PromiseResolve called on non-object"
      let p ← pledgeBy c.this
      let _ ← call p.reject .undefined [c.given 0]
      return p.promise,
    method "withResolvers" 0 fun c => do
      let p ← pledgeBy c.this
      recordOf [("promise", p.promise), ("resolve", p.resolve), ("reject", p.reject)],
    speciesEntry]

def promisePlans : List Plan := [{ family := .promise, maker := some (1, makePromise) }]

def promiseParts : List Part :=
  [⟨Family.promise.maker, promiseEntries⟩,
    ⟨Family.promise.prototype,
      [method "then" 2 thenMethod,
        method "catch" 1 fun c => invoke c.this "then" [.undefined, c.given 0],
        method "finally" 1 finallyMethod, tag "Promise"]⟩]

end Recurrence.Script.Library
