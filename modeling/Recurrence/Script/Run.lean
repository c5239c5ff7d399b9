import Recurrence.CommandLine.Program
import Recurrence.Script.Machine
/-!
# Running a script

A script is run with arguments, then comes what was put off, and the run ends with a status.
-/
namespace Recurrence.Script

open CommandLine (Ending Exit)

/-- A run between its turns: the store, and routines that wait to be entered again. -/
structure World where
  store : Store
  waiting : Std.HashMap Nat Frame

namespace World

open Run

/-- More steps than a machine makes in a lifetime. -/
def manySteps : Nat := 1000000000000

/-- What is done in a turn. -/
def perform (r : Run Unit) (w : World) : Except Halt Unit × World :=
  let run : Run Value := do
    r
    return .undefined
  let o := Machine.drive manySteps { waiting := w.waiting } (run w.store)
  (o.result.map fun _ => (), ⟨o.store, o.waiting⟩)

/-- Takes the next job: calls for the next tick come first, and then all other jobs. -/
def nextJob? (inJobs : Bool) (s : Store) : Option (Job × Bool × Store) :=
  let job (_ : Unit) : Option (Job × Bool × Store) := match s.jobs.reverse with
    | j :: rest => some (j, true, { s with jobs := rest.reverse })
    | [] => none
  let tick (_ : Unit) : Option (Job × Bool × Store) := match s.ticks.reverse with
    | j :: rest => some (j, false, { s with ticks := rest.reverse })
    | [] => none
  if inJobs then (job ()).or (tick ()) else (tick ()).or (job ())

def performJob : Job → Run Unit
  | .call f vs => do let _ ← call f .undefined vs
  | .react r settlement => performReaction r settlement
  | .adopt promise other method => adopt promise other method

/-! ## Faults that nobody catches -/

/-- What is told of a fault that nobody has caught. -/
def complaintOf (s : Store) : Value → Text
  | .object a => match (s.objects.getD a .blank).kind, quietField s (Key.ofString "stack") chain a with
    | .fault, .string t => t
    | _, _ => "Uncaught:\n".toList ++ Display.shownTo s 2 (.object a)
  | v => "Uncaught ".toList ++ Display.shownTo s 2 v

/-- Ends because nobody has caught something, unless there is a listener for that. -/
def uncaught (v : Value) : Run Unit := do
  if ← Library.emit "uncaughtException".toList [v, .ofString "uncaughtException"] then return
  let t ← reading fun s => complaintOf s v
  Library.writeErrors (t ++ "\n\nNode.js v22.12.0\n".toList)
  changing fun s => { s with status := .number 1 }
  halt .exited

/-- Ends because a promise was broken and nobody has watched it. -/
def unhandled (promise : Nat) : Run Unit := do
  match (← kindAt promise) with
  | .promise (.broken v) _ _ =>
    if ← Library.emit "unhandledRejection".toList [v, .object promise] then return
    uncaught v
  | _ => return

/-! ## Turns -/

/-- Does something in a turn; what is thrown there ends the run. -/
def performSafely (r : Run Unit) (w : World) : Except Halt Unit × World :=
  match perform r w with
  | (.error (.thrown v), w) => match perform (uncaught v) w with
    | (.error (.thrown v), w) => perform (do
        changing fun s => { s with listeners := [] }
        uncaught v) w
    | other => other
  | other => other

/-- Does all jobs, and complains about broken promises that nobody watches. -/
def finishJobs : (rounds : Nat) → (inJobs : Bool) → World → Except Halt Unit × World
  | 0, _, w => (.ok (), w)
  | rounds + 1, inJobs, ⟨s, waiting⟩ =>
    match nextJob? inJobs s with
    | some (j, inJobs, s) => match performSafely (performJob j) ⟨s, waiting⟩ with
      | (.ok _, w) => finishJobs rounds inJobs w
      | other => other
    | none => match s.unwatched.reverse with
      | [] => (.ok (), ⟨s, waiting⟩)
      | p :: rest => match performSafely (unhandled p) ⟨{ s with unwatched := rest.reverse }, waiting⟩ with
        | (.ok _, w) => finishJobs rounds false w
        | other => other

/-- Whether one call that was put off comes before another. -/
def comesFirst (a b : Timer) : Bool := a.due < b.due || (a.due == b.due && Nat.blt a.id b.id)

/-- The call that was put off and whose turn is next. -/
def nextTimer? (timers : List Timer) : Option Timer :=
  timers.foldl (fun first t => match first with
    | some u => if comesFirst t u then some t else some u
    | none => some t) none

/-- Takes a call whose turn it is; one that is repeated gets another turn. -/
def takeTimer (t : Timer) (s : Store) : Store :=
  let clock := if s.clock < t.due then t.due else s.clock
  let rest := s.timers.filter (·.id != t.id)
  { s with clock, timers := match t.every with
      | some delay => { t with due := clock + delay } :: rest
      | none => rest }

/-- The next call that was put off, if the run does not end before it: those that are due come first, then those for
the end of a round, and then time goes by. -/
def nextTurn? (s : Store) : Option (Timer × Store) :=
  let due := (nextTimer? s.timers).filter fun t => t.due <= s.clock
  match due, s.immediates with
  | some t, _ => some (t, takeTimer t s)
  | none, t :: rest => some (t, { s with immediates := rest })
  | none, [] =>
    if s.timers.all (·.idle) then none else (nextTimer? s.timers).map fun t => (t, takeTimer t s)

/-- Makes all calls that were put off, in the order of their turns. -/
def takeTurns : (rounds : Nat) → World → Except Halt Unit × World
  | 0, w => (.ok (), w)
  | rounds + 1, ⟨s, waiting⟩ =>
    match nextTurn? s with
    | none => (.ok (), ⟨s, waiting⟩)
    | some (t, s) =>
      match performSafely (do let _ ← call t.f .undefined t.arguments) ⟨s, waiting⟩ with
      | (.ok _, w) => match finishJobs manySteps false w with
        | (.ok _, w) => takeTurns rounds w
        | other => other
      | other => other

/-- Tells listeners that nothing is left to do, which may give them something. -/
def takeAllTurns : (rounds : Nat) → World → Except Halt Unit × World
  | 0, w => (.ok (), w)
  | rounds + 1, w =>
    match takeTurns manySteps w with
    | (.ok _, w) =>
      let told := performSafely (do let _ ← Library.emit "beforeExit".toList [.number 0]) w
      match told with
      | (.ok _, w) => match finishJobs manySteps false w with
        | (.ok _, w) => if (nextTurn? w.store).isSome then takeAllTurns rounds w else (.ok (), w)
        | other => other
      | other => other
    | other => other

/-! ## The end -/

/-- The status with which a script wants to end. -/
def statusOf (s : Store) : Nat :=
  match s.status with
  | .number x => ((Run.wholePart x) % 256).toNat
  | _ => 0

/-- What a run leaves at the end. -/
def leaving (exit : Exit) (s : Store) : Ending :=
  ⟨exit, withoutHalves s.output.reverse.flatten, withoutHalves s.errors.reverse.flatten⟩

/-- Tells listeners of the end. -/
def finish (w : World) : Ending :=
  let told := performSafely (do let _ ← Library.emit "exit".toList [.ofNat (statusOf w.store)]) w
  match told with
  | (.error (.killed n), w) => leaving (.signal n false) w.store
  | (_, w) => leaving (.status (statusOf w.store)) w.store

end World

/-- **What a script leaves that is run with arguments.** -/
def run (script : Text) (arguments : List Text) : Ending :=
  let start : Run Unit := do
    let argv ← Run.list ((Value.ofString "/usr/bin/node") :: arguments.map Value.string)
    Run.put Landmark.process.address (Key.ofString "argv") (.ofValue argv)
    let _ ← Library.runText script
  let result := match World.performSafely start ⟨Realm.store, {}⟩ with
    | (.ok _, w) => match World.finishJobs World.manySteps false w with
      | (.ok _, w) => World.takeAllTurns World.manySteps w
      | other => other
    | other => other
  match result with
  | (.error (.killed n), w) => World.leaving (.signal n false) w.store
  | (_, w) => World.finish w

end Recurrence.Script
