import Recurrence.Script.Conversion
/-!
# Iteration — going through what values hold

A walk hands out items one after another: it is an object with a function `next`, which gives a record of an item and
whether the walk is over.  A walk that is left early is closed.
-/
namespace Recurrence.Script

/-- A walk with its function for the next step. -/
structure Walker where
  walk : Value
  next : Value

namespace Run

/-- How a complaint describes a value of which no name is known. -/
def describedBlindly (v : Value) : Run Text := do
  let kind ← kindName v
  match v with
  | .null => return "object null".toList
  | .truth b => return kind ++ (if b then " true" else " false").toList
  | .number x => return kind ++ ' ' :: Number.text x
  | .string t => return kind ++ " \"".toList ++ t ++ ['"']
  | _ => return kind

/-- Complains that a value has no items; `shown` says so in words of its own. -/
def notIterable {α : Type} (shown : Option Text) (v : Value) : Run α := do
  match shown with
  | some t => typeFail (String.ofList t)
  | none => typeFail (String.ofList (← describedBlindly v) ++
      " is not iterable (cannot read property Symbol(Symbol.iterator))")

/-- The walk that a function of a value begins. -/
def walkWith (f v : Value) : Run Walker := do
  let walk ← call f v []
  if !walk.isObject then typeFail "Result of the Symbol.iterator method is not an object"
  return ⟨walk, ← named walk "next"⟩

/-- Begins a walk through a value. -/
def walkOver (shown : Option Text) (v : Value) : Run Walker := do
  if v.isNothing then notIterable shown v
  let f ← field v .iterator
  if ← isFunction f then walkWith f v else notIterable shown v

end Run

namespace Walker

open Run

/-- What a step of a walk is worth; nothing, when the walk is over. -/
def outcome? (result : Value) : Run (Option Value) := do
  if !result.isObject then typeFail ("Iterator result " ++ (← noted result) ++ " is not an object")
  if (← named result "done").isTrue then return none
  return some (← named result "value")

/-- The next item. -/
def step (w : Walker) : Run (Option Value) := do outcome? (← call w.next w.walk [])

/-- Closes a walk. -/
def close (w : Walker) : Run Unit := do
  match ← method? w.walk (Key.ofString "return") with
  | some f =>
    let r ← call f w.walk []
    if !r.isObject then typeFail ((← noted r) ++ " is not an object")
  | none => return

/-- Closes a walk whatever comes of that. -/
def closeQuietly (w : Walker) : Run Unit := catching w.close fun _ => return

/-- Does something with an item; if that stops short, the walk is closed. -/
def guarding {α : Type} (w : Walker) (r : Run α) : Run α := do
  match ← r.outcome with
  | .ok a => return a
  | .error h =>
    w.closeQuietly
    halt h

end Walker

namespace Run

/-- Goes through a walk, with something handed on from item to item; a round may end it early. -/
def walking {σ : Type} (w : Walker) (body : σ → Value → Run (σ ⊕ σ)) : σ → Run σ := fun x => do
  let round (x : σ) : Run (σ ⊕ σ) := do
    match ← w.step with
    | none => return .inr x
    | some v => match ← w.guarding (body x v) with
      | .inl x => return .inl x
      | .inr x =>
        w.close
        return .inr x
  repeated round x manyRounds x

/-- Goes through all items of a value, with something handed on from item to item. -/
def goThrough {σ : Type} (v : Value) (body : σ → Value → Run σ) (x : σ) : Run σ := do
  walking (← walkOver none v) (fun x v => do return .inl (← body x v)) x

/-- The items of a walk. -/
def rest (w : Walker) : Run (Array Value) := walking w (fun vs v => return .inl (vs.push v)) #[]

/-- The items of a value; a complaint may have words of its own. -/
def collected (shown : Option Text) (v : Value) : Run (List Value) := do
  return (← rest (← walkOver shown v)).toList

/-- The items of a value that has places and a length. -/
def itemsOf (v : Value) : Run (List Value) := do
  if !v.isObject then typeFail "CreateListFromArrayLike called on non-object"
  (List.range (← lengthOf v)).mapM fun i => field v (.ofNat i)

end Run
end Recurrence.Script
