import Recurrence.Script.Iteration
/-!
# Promises

A promise is open until it is kept or broken, and stays so.  What is to be done then waits in the queue of jobs.
-/
namespace Recurrence.Script

/-- A promise with the functions that settle it. -/
structure Pledge where
  promise : Value
  resolve : Value
  reject : Value

namespace Run

def addJob (j : Job) : Run Unit := changing fun s => { s with jobs := j :: s.jobs }

def newPromise : Run Nat := allocated ⟨.promise .open [] false, some Family.promise.prototype, #[], true⟩

/-- Settles an open promise. -/
def settlePromise (promise : Nat) (settlement : Settlement) : Run Unit := fun s =>
  match (s.objects.getD promise .blank).kind with
  | .promise .open reactions watched =>
    let unwatched := if watched || !(settlement matches .broken _) then s.unwatched else promise :: s.unwatched
    .gave () { s with
      objects := s.objects.modify promise fun o => { o with kind := .promise settlement [] watched }
      jobs := reactions.map (Job.react · settlement) ++ s.jobs
      unwatched }
  | _ => .gave () s

/-- Lets a reaction follow on a promise. -/
def react (promise : Nat) (r : Reaction) : Run Unit := fun s =>
  match (s.objects.getD promise .blank).kind with
  | .promise .open reactions _ =>
    .gave () { s with
      objects := s.objects.modify promise fun o => { o with kind := .promise .open (r :: reactions) true } }
  | .promise settlement _ _ =>
    .gave () { s with
      objects := s.objects.modify promise fun o => { o with kind := .promise settlement [] true }
      jobs := .react r settlement :: s.jobs
      unwatched := s.unwatched.filter (· != promise) }
  | _ => .gave () s

/-- A promise becomes of a value, or of what another promise comes to. -/
def resolvePromise (promise : Nat) (v : Value) : Run Unit := do
  if v.same (.object promise) then
    settlePromise promise (.broken (← fault .typeFault "Chaining cycle detected for promise #<Promise>".toList))
  else if !v.isObject then settlePromise promise (.kept v)
  else match ← (named v "then").outcome with
    | .ok f => if ← isFunction f then addJob (.adopt promise v f) else settlePromise promise (.kept v)
    | .error (.thrown e) => settlePromise promise (.broken e)
    | .error h => halt h

/-- A function of one argument that works on an object with first arguments. -/
def prepared (l : Landmark) (this : Value) (arguments : List Value) : Run Value :=
  allocate ⟨.bound (.object l.address) this arguments, some Family.function.prototype,
    #[(.text Object.lengthName, ⟨.value (.number 1) false, false, true⟩),
      (.text "name".toList, ⟨.value (.string []) false, false, true⟩)], true⟩

/-- The functions that settle a promise; only the first use of one of them matters. -/
def settlersOf (promise : Nat) : Run (Value × Value) := do
  let used ← allocate .blank
  return (← prepared .keepPromise (.object promise) [used], ← prepared .breakPromise (.object promise) [used])

/-- Whether a function that settles is used for the first time; it takes note of that. -/
def firstUse (used : Value) : Run Bool := do
  match used with
  | .object a =>
    if !(← objectAt a).extensible then return false
    update a fun o => { o with extensible := false }
    return true
  | _ => return false

/-- The function that keeps a promise. -/
def keepPromise : Native := fun c => do
  if ← firstUse (c.given 0) then
    match c.this with
    | .object a => resolvePromise a (c.given 1)
    | _ => return .undefined
  return .undefined

/-- The function that breaks a promise. -/
def breakPromise : Native := fun c => do
  if ← firstUse (c.given 0) then
    match c.this with
    | .object a => settlePromise a (.broken (c.given 1))
    | _ => return .undefined
  return .undefined

/-- The function that takes the functions which settle a promise, once. -/
def takeSettlers : Native := fun c => do
  match c.this with
  | .object a => match ← kindAt a with
    | .branded f [resolve, reject] =>
      if !(resolve matches .undefined) || !(reject matches .undefined) then
        typeFail "Promise executor has already been invoked with non-undefined arguments"
      setKind a (.branded f [c.given 0, c.given 1])
    | _ => return .undefined
  | _ => return .undefined
  return .undefined

/-- A promise that a function makes, with the functions that settle it. -/
def pledgeBy (maker : Value) : Run Pledge := do
  if maker.same (.object Family.promise.maker) then
    let promise ← newPromise
    let (resolve, reject) ← settlersOf promise
    return ⟨.object promise, resolve, reject⟩
  if !(← isMaker maker) then typeFail ((← noted maker) ++ " is not a constructor")
  let taken ← allocated ⟨.branded .promise [.undefined, .undefined], none, #[], true⟩
  let promise ← construct maker [← prepared .takeSettlers (.object taken) []]
  match ← kindAt taken with
  | .branded _ [resolve, reject] =>
    if !(← isFunction resolve) || !(← isFunction reject) then
      typeFail "Promise resolve or reject function is not callable"
    return ⟨promise, resolve, reject⟩
  | _ => typeFail "Promise resolve or reject function is not callable"

def isPromise (v : Value) : Run Bool := do
  match v with
  | .object a => return ((← kindAt a) matches .promise _ _ _)
  | _ => return false

/-- A promise of a value, which is the value itself, if it is a promise of the maker. -/
def promiseBy (maker v : Value) : Run Value := do
  if ← isPromise v then
    if (← named v "constructor").same maker then return v
  let p ← pledgeBy maker
  let _ ← call p.resolve .undefined [v]
  return p.promise

/-- The promise that a value is, or one of it. -/
def promiseOf (v : Value) : Run Nat := do
  match ← promiseBy (.object Family.promise.maker) v with
  | .object a => return a
  | _ => newPromise

/-- Waits for a value in a routine: it is left, and entered again when the value is there. -/
def awaited (routine : Nat) (v : Value) : Run Value := do
  react (← promiseOf v) (.resume routine)
  ask (.suspend routine (.object routine))

/-- Lets handlers follow on a promise, and gives a promise of what they come to. -/
def followed (promise : Nat) (p : Pledge) (kept broken : Value) : Run Value := do
  react promise (.handle kept broken p.resolve p.reject)
  return p.promise

/-- Does what is to be done after a promise was settled. -/
def performReaction (r : Reaction) (settlement : Settlement) : Run Unit := do
  let (good, v) := match settlement with
    | .kept v => (true, v)
    | .broken v => (false, v)
    | .open => (true, .undefined)
  match r with
  | .resume routine => let _ ← askPlainly (.resume routine (if good then .value v else .fault v))
  | .handle kept broken resolve reject =>
    let handler := if good then kept else broken
    let result ← if ← isFunction handler then (call handler .undefined [v]).outcome
      else pure (if good then .ok v else .error (.thrown v))
    match result with
    | .ok v => if resolve.isObject then let _ ← call resolve .undefined [v]
    | .error (.thrown v) => if reject.isObject then let _ ← call reject .undefined [v]
    | .error h => halt h

/-- Lets a promise become of what a method of another object says. -/
def adopt (promise : Nat) (other method : Value) : Run Unit := do
  let (resolve, reject) ← settlersOf promise
  match ← (call method other [resolve, reject]).outcome with
  | .ok _ => return
  | .error (.thrown v) => let _ ← call reject .undefined [v]
  | .error h => halt h

end Run
end Recurrence.Script
