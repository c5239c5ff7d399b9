import Recurrence.Script.Realm
/-!
# The machine that drives a script

A part of a run that asks a question waits for the response on a stack, while the machine performs what was asked.  A
routine that is left takes what waits for it away from the stack, until it is entered again.
-/
namespace Recurrence.Script

open Run

/-- A part of a run that waits for a response. -/
abbrev Frame := Response → Store → Answer Value

/-! ## Calls -/

/-- Complains that a value cannot be called. -/
def notCallable {α : Type} (v : Value) : Run α := do notFunction (← noted v)

/-- A call of a value. -/
def callValue (f this : Value) (vs : List Value) : Run Value := do
  match f with
  | .object a => match ← kindAt a with
    | .closure c => Interpreter.callClosure Interpreter.whole c a this vs
    | .native n _ => match Realm.whole.natives[n]? with
      | some g => g ⟨this, vs, .undefined⟩
      | none => notCallable f
    | .bound g own first => call g own (first ++ vs)
    | .proxy target handler => match ← trap? handler "apply" with
      | some g => call g handler [target, this, ← list vs]
      | none => call target this vs
    | _ => notCallable f
  | f => notCallable f

/-- Makes an object with a value; `target` is the function that was asked for. -/
def constructValue (f : Value) (vs : List Value) (target : Value) : Run Value := do
  match f with
  | .object a => match ← kindAt a with
    | .closure c => Interpreter.constructClosure Interpreter.whole c a vs target
    | .native n _ => match Realm.whole.natives[n]? with
      | some g => g ⟨.undefined, vs, target⟩
      | none => notCallable f
    | .bound g _ first => ask (.construct g (first ++ vs) (if target.same f then g else target))
    | .proxy inner handler => match ← trap? handler "construct" with
      | some g =>
        let v ← call g handler [inner, ← list vs, target]
        if !v.isObject then typeFail "proxy [[Construct]] must return an object"
        return v
      | none => ask (.construct inner vs (if target.same f then inner else target))
    | _ => notCallable f
  | f => notCallable f

/-! ## Driving -/

/-- What waits: for responses, the innermost first, and to be entered again. -/
structure Machine where
  frames : List Frame := []
  depth : Nat := 0
  waiting : Std.HashMap Nat Frame := {}

namespace Machine

/-- The greatest number of frames. -/
def limit : Nat := 10400

/-- What driving a run came to. -/
structure Outcome where
  result : Except Halt Value
  store : Store
  waiting : Std.HashMap Nat Frame

/-- What a question comes to, unless it is about leaving a routine. -/
def perform (m : Machine) : Question → Run Value
  | .call f this vs => if m.depth < limit then callValue f this vs else tooDeep
  | .construct f vs target => if m.depth < limit then constructValue f vs target else tooDeep
  | .suspend _ v => pure v
  | .resume routine r => match m.waiting[routine]? with
    | some f => if m.depth < limit then f r else tooDeep
    | none => pure .undefined

/-- Drives an answer to its end, by steps. -/
def drive : (steps : Nat) → Machine → Answer Value → Outcome
  | 0, m, .gave _ s => ⟨.error .exited, s, m.waiting⟩
  | 0, m, .halted _ s => ⟨.error .exited, s, m.waiting⟩
  | 0, m, .asked _ s _ => ⟨.error .exited, s, m.waiting⟩
  | steps + 1, ⟨frames, depth, waiting⟩, answer =>
    match answer, frames with
    | .gave v s, [] => ⟨.ok v, s, waiting⟩
    | .gave v s, f :: frames => drive steps ⟨frames, depth - 1, waiting⟩ (f (.value v) s)
    | .halted (.thrown v) s, f :: frames => drive steps ⟨frames, depth - 1, waiting⟩ (f (.fault v) s)
    | .halted (.finished v) s, f :: frames => drive steps ⟨frames, depth - 1, waiting⟩ (f (.finish v) s)
    | .halted h s, _ => ⟨.error h, s, waiting⟩
    | .asked (.suspend routine v) s further, [] => ⟨.ok v, s, waiting.insert routine further⟩
    | .asked (.suspend routine v) s further, f :: frames =>
      drive steps ⟨frames, depth - 1, waiting.insert routine further⟩ (f (.value v) s)
    | .asked q s further, frames =>
      let next := perform ⟨frames, depth, waiting⟩ q
      drive steps ⟨further :: frames, depth + 1, match q with
        | .resume routine _ => waiting.erase routine
        | _ => waiting⟩ (next s)

end Machine
end Recurrence.Script
