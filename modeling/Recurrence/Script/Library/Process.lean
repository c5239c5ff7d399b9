import Recurrence.Script.Display
import Recurrence.Script.Library.Fault
import Recurrence.Script.Library.Number
/-!
# The library: the process

What a script writes, how it ends, what it listens to, and the calls that it puts off.
-/
namespace Recurrence.Script.Library

open Run

/-! ## Faults with a code -/

/-- How a complaint describes a value. -/
def describedValue (v : Value) : Run Text := do
  let noText (s : Store) : Text := Display.shownTo s 0 v
  match v with
  | .undefined => return "undefined".toList
  | .null => return "null".toList
  | .object a =>
    if ← isFunction v then return "function ".toList ++ (← reading fun s => functionNameIn s a)
    match ← reading fun s => Display.makerName? s chain a with
    | some n => return "an instance of ".toList ++ n
    | none => reading noText
  | v =>
    let t ← reading noText
    return "type ".toList ++ (← kindName v) ++ " (".toList ++
      (if Nat.blt 28 t.length then t.take 25 ++ "...".toList else t) ++ [')']

/-- A fault of a family with a code. -/
def codedFault (f : Family) (code message : String) : Run Value := do
  let name := f.name.toList ++ " [".toList ++ code.toList ++ [']']
  let stack := name ++ ": ".toList ++ message.toList ++ "\n    at <anonymous>".toList
  allocate ⟨.fault, some f.prototype,
    #[(Key.ofString "stack", .unlisted (.string stack)), (Key.ofString "message", .unlisted (.ofString message)),
      (Key.ofString "toString", .unlisted (.object Landmark.codedText.address)),
      (Key.ofString "code", .ofValue (.ofString code))], true⟩

/-- The text of a fault with a code. -/
def codedText : Native := fun c => do
  let name ← textOf (← named c.this "name")
  let code ← textOf (← named c.this "code")
  let message ← textOf (← named c.this "message")
  return .string (name ++ " [".toList ++ code ++ "]: ".toList ++ message)

def codedFail {α : Type} (f : Family) (code message : String) : Run α := do raise (← codedFault f code message)

/-- Complains about an argument of another kind than expected. -/
def wrongKind {α : Type} (what expected : String) (v : Value) : Run α := do
  codedFail .typeFault "ERR_INVALID_ARG_TYPE" ("The " ++ what ++ " must be " ++ expected ++ ". Received " ++
    String.ofList (← describedValue v))

/-- Checks that what is to be called later is a function. -/
def expectCallback (name : String) (f : Value) : Run Unit := do
  if !(← isFunction f) then wrongKind ("\"" ++ name ++ "\" argument") "of type function" f

/-! ## Writing -/

def writeOutput (t : Text) : Run Unit := changing fun s => { s with output := t :: s.output }

def writeErrors (t : Text) : Run Unit := changing fun s => { s with errors := t :: s.errors }

/-- The characters that bytes write; what is none of them is replaced. -/
def textOfBytes (content : ByteArray) : Text :=
  match String.fromUTF8? content with
  | some s => s.toList
  | none => content.toList.map fun b => if b < 128 then Char.ofNat b.toNat else '\uFFFD'

/-- The text that is written for a value. -/
def chunkOf (v : Value) : Run Text := do
  match v with
  | .string t => return t
  | .null => codedFail .typeFault "ERR_STREAM_NULL_VALUES" "May not write null values to stream"
  | .object a => match ← kindAt a with
    | .view e buffer start count =>
      let bytes ← reading fun s => (bytesOf s buffer).extract start (start + count * e.size)
      return textOfBytes bytes
    | _ => wrongKind "\"chunk\" argument" "of type string or an instance of Buffer, TypedArray, or DataView" v
  | v => wrongKind "\"chunk\" argument" "of type string or an instance of Buffer, TypedArray, or DataView" v

def writing (write : Text → Run Unit) : Native := fun c => do
  write (← chunkOf (c.given 0))
  match c.arguments.getLast? with
  | some f => if ← isFunction f then changing fun s => { s with ticks := .call f [] :: s.ticks }
  | none => pure ()
  return .truth true

/-- Whether an object is converted to a text by a function of its own. -/
def hasOwnText (v : Value) : Run Bool := do
  match v with
  | .object a => match ← reading fun s => quietField s (Key.ofString "toString") chain a with
    | .object f => return ((← kindAt f) matches .closure _)
    | _ => return false
  | _ => return true

/-- A number as it is shown. -/
def shownNumber (x : Float) : Run Text := reading fun s => Display.plain s (.number x)

/-- What a mark in a text stands for, if it is one. -/
def markText? (mark : Char) (v : Value) : Run (Option Text) := do
  match mark, v with
  | 's', v =>
    match v with
    | .number _ => some <$> reading fun s => Display.plain s v
    | .bigNumber _ => some <$> reading fun s => Display.plain s v
    | .symbol _ => some <$> reading fun s => Display.plain s v
    | v => if ← hasOwnText v then some <$> textOf v else some <$> reading fun s => Display.shownTo s 0 v
  | 'd', .bigNumber _ => some <$> reading fun s => Display.plain s v
  | 'i', .bigNumber _ => some <$> reading fun s => Display.plain s v
  | 'd', .symbol _ => return some "NaN".toList
  | 'i', .symbol _ => return some "NaN".toList
  | 'f', .symbol _ => return some "NaN".toList
  | 'd', v => some <$> shownNumber (← numberOf v)
  | 'i', v => some <$> shownNumber (Number.leadingWhole 10 (← textOf v))
  | 'f', v => some <$> shownNumber (Number.leading (← textOf v))
  | 'o', v => some <$> reading fun s => Display.shownTo s 4 v
  | 'O', v => some <$> reading fun s => Display.shownTo s 2 v
  | 'j', v =>
    match ← (invoke (.object Landmark.jsonNotation.address) "stringify" [v]).outcome with
    | .ok (.string t) => return some t
    | .ok _ => return some "undefined".toList
    | .error _ => return some "[Circular]".toList
  | 'c', _ => return some []
  | _, _ => return none

/-- A text in which marks stand for values, with the values left over. -/
def filled : Text → List Value → Run (Text × List Value)
  | [], vs => return ([], vs)
  | '%' :: '%' :: cs, vs => do
    let (t, rest) ← filled cs vs
    return ('%' :: t, rest)
  | '%' :: c :: cs, v :: vs => do
    match ← markText? c v with
    | some t =>
      let (u, rest) ← filled cs vs
      return (t ++ u, rest)
    | none =>
      let (u, rest) ← filled cs (v :: vs)
      return ('%' :: c :: u, rest)
  | c :: cs, vs => do
    let (t, rest) ← filled cs vs
    return (c :: t, rest)

/-- Values in one text. -/
def formatted (vs : List Value) : Run Text := do
  let all (vs : List Value) : Run (List Text) := reading fun s => vs.map (Display.shown s)
  match vs with
  | .string t :: v :: rest =>
    let (t, rest) ← filled t (v :: rest)
    return Text.joined [' '] (t :: (← all rest))
  | vs => return Text.joined [' '] (← all vs)

/-! ## The console -/

/-- Writes a line, indented as the console is. -/
def writeLine (write : Text → Run Unit) (t : Text) : Run Unit := do
  let indent ← reading fun s => List.replicate s.indent ' '
  let t := if indent = [] then t else indent ++ t.flatMap fun c => if c = '\n' then '\n' :: indent else [c]
  write (t ++ ['\n'])

def line (name : String) (write : Text → Run Unit) : Entry :=
  .method (Key.ofString name) name.toList 0 fun c => do
    writeLine write (← formatted c.arguments)
    return .undefined

/-- The label that a counter or a watch of the console has. -/
def labelOf (v : Value) : Run Text := do
  match v with
  | .undefined => return "default".toList
  | v => textOf v

/-- Lets the console indent lines further or less. -/
def indented (name : String) (change : Nat → Nat) : Entry :=
  .method (Key.ofString name) name.toList 0 fun c => do
    if !c.arguments.isEmpty then writeLine writeOutput (← formatted c.arguments)
    changing fun s => { s with indent := change s.indent }
    return .undefined

/-- Writes how long a watch has run. -/
def watched (label : Text) (vs : List Value) : Run Unit := do
  let more ← formatted vs
  writeLine writeOutput (label ++ ": 0.1ms".toList ++ if more = [] then [] else ' ' :: more)

def consoleEntries : List Entry :=
  [line "log" writeOutput, line "warn" writeErrors, line "error" writeErrors, line "info" writeOutput,
    line "debug" writeOutput,
    method "dir" 0 fun c => do
      writeLine writeOutput (← reading fun s => Display.shownTo s 2 (c.given 0))
      return .undefined,
    line "dirxml" writeOutput, line "table" writeOutput,
    method "trace" 0 fun c => do
      let t ← formatted c.arguments
      writeLine writeErrors ("Trace".toList ++ (if t = [] then [] else ": ".toList ++ t) ++
        "\n    at <anonymous>".toList)
      return .undefined,
    method "assert" 0 fun c => do
      if !(c.given 0).isTrue then
        match c.arguments.drop 1 with
        | [] => writeLine writeErrors "Assertion failed".toList
        | .string t :: rest =>
          writeLine writeErrors (← formatted (.string ("Assertion failed: ".toList ++ t) :: rest))
        | vs => writeLine writeErrors (← formatted (.string "Assertion failed:".toList :: vs))
      return .undefined,
    indented "group" (· + 2), indented "groupCollapsed" (· + 2),
    method "groupEnd" 0 fun _ => do
      changing fun s => { s with indent := s.indent - 2 }
      return .undefined,
    method "count" 0 fun c => do
      let label ← labelOf (c.given 0)
      let n ← reading fun s => (s.counters.lookup label).getD 0 + 1
      changing fun s => { s with counters := (label, n) :: s.counters.filter fun e => e.1 != label }
      writeLine writeOutput (label ++ ": ".toList ++ Text.digits n)
      return .undefined,
    method "countReset" 0 fun c => do
      let label ← labelOf (c.given 0)
      changing fun s => { s with counters := s.counters.filter fun e => e.1 != label }
      return .undefined,
    method "time" 0 fun _ => return .undefined,
    method "timeEnd" 0 fun c => do
      watched (← labelOf (c.given 0)) []
      return .undefined,
    method "timeLog" 0 fun c => do
      watched (← labelOf (c.given 0)) (c.arguments.drop 1)
      return .undefined,
    tag "console"]

/-! ## Ending -/

/-- The signals that can be sent, by name and number. -/
def signals : List (String × Nat) :=
  [("SIGHUP", 1), ("SIGINT", 2), ("SIGQUIT", 3), ("SIGILL", 4), ("SIGTRAP", 5), ("SIGABRT", 6), ("SIGBUS", 7),
    ("SIGFPE", 8), ("SIGKILL", 9), ("SIGUSR1", 10), ("SIGSEGV", 11), ("SIGUSR2", 12), ("SIGPIPE", 13),
    ("SIGALRM", 14), ("SIGTERM", 15)]

/-- The signals of which nobody takes notice. -/
def ignoredSignals : List Nat := [13]

def sendSignal : Native := fun c => do
  let n ← match c.given 1 with
    | .undefined => pure 15
    | .string t => match signals.lookup (String.ofList t) with
      | some n => pure n
      | none => codedFail .typeFault "ERR_UNKNOWN_SIGNAL" ("Unknown signal: " ++ String.ofList t)
    | v => do pure (← wholeOf v).toNat
  if n = 0 || ignoredSignals.contains n then return .truth true
  halt (.killed n)

/-- The status that a value stands for, or else a complaint. -/
def statusOf (v : Value) : Run Value := do
  let wrong {α : Type} (x : Float) : Run α :=
    codedFail .rangeFault "ERR_OUT_OF_RANGE" ("The value of \"code\" is out of range. It must be an integer. Received "
      ++ String.ofList (Number.text x))
  match v with
  | .undefined => return v
  | .null => return .undefined
  | .number x => if finite x && Number.isWhole x then return v else wrong x
  | .string t =>
    let x := Number.ofText t
    if t ≠ [] && finite x && Number.isWhole x then return .number x
    wrongKind "\"code\" argument" "of type number" v
  | v => wrongKind "\"code\" argument" "of type number" v

def setStatus (v : Value) : Run Unit := do
  let status ← statusOf v
  changing fun s => { s with status }

def exit : Native := fun c => do
  if !(c.given 0).isNothing then setStatus (c.given 0)
  halt .exited

/-! ## Listening -/

/-- Listens to something. -/
def listen (name : String) : Entry := method name 2 fun c => do
  let event ← textOf (c.given 0)
  expectCallback "listener" (c.given 1)
  changing fun s => { s with listeners := s.listeners ++ [(event, c.given 1)] }
  return c.this

/-- Listens to something no more. -/
def unlisten (name : String) : Entry := method name 2 fun c => do
  let event ← textOf (c.given 0)
  changing fun s => { s with listeners := s.listeners.filter fun l => !(l.1 == event && l.2.same (c.given 1)) }
  return c.this

/-- Calls all that listen to something; says whether there are any. -/
def emit (event : Text) (vs : List Value) : Run Bool := do
  let all ← reading fun s => s.listeners.filter fun l => l.1 == event
  for l in all do
    let _ ← call l.2 (.object Landmark.process.address) vs
  return !all.isEmpty

/-! ## Calls that are put off -/

/-- The time that a call is put off by. -/
def delayOf (v : Value) : Run Float := do
  let x ← numberOf v
  return if 1 <= x && x <= 2147483647 then Number.truncated x else 1

/-- Puts a call off. -/
def putOff (name : String) (again : Bool) : Entry := method name 2 fun c => do
  expectCallback "callback" (c.given 0)
  let delay ← delayOf (c.given 1)
  let id ← reading (·.nextTimer)
  changing fun s => { s with
    nextTimer := id + 1
    timers := ⟨id, s.clock + delay, if again then some delay else none, c.given 0, c.arguments.drop 2, false⟩ ::
      s.timers }
  allocate ⟨.branded .timer [.ofNat id], some Family.timer.prototype, #[], true⟩

/-- The number of a call that was put off. -/
def timerId? (v : Value) : Run (Option Nat) := do
  match v with
  | .number x => return Number.index? x
  | .string t => return Number.index? (Number.ofText t)
  | .object a => match ← kindAt a with
    | .branded _ [.number x] => return Number.index? x
    | _ => return none
  | _ => return none

/-- Gives a call up that was put off. -/
def giveUp (name : String) : Entry := method name 1 fun c => do
  match ← timerId? (c.given 0) with
  | some id => changing fun s => { s with
      timers := s.timers.filter (·.id != id), immediates := s.immediates.filter (·.id != id) }
  | none => pure ()
  return .undefined

/-- Changes a call that was put off. -/
def changingTimer (name : String) (change : Float → Timer → Timer) : Entry := method name 0 fun c => do
  match ← timerId? c.this with
  | some id => changing fun s => { s with
      timers := s.timers.map fun t => if t.id = id then change s.clock t else t }
  | none => pure ()
  return c.this

def timerEntries : List Entry :=
  [changingTimer "ref" fun _ t => { t with idle := false }, changingTimer "unref" fun _ t => { t with idle := true },
    changingTimer "refresh" fun _ t => t,
    method "hasRef" 0 fun c => do
      let id ← timerId? c.this
      return .truth (← reading fun s => s.timers.any fun t => some t.id == id && !t.idle),
    method "close" 0 fun c => do
      let id ← timerId? c.this
      changing fun s => { s with timers := s.timers.filter fun t => some t.id != id }
      return c.this,
    .method .toPrimitive "[Symbol.toPrimitive]".toList 0 fun c => do
      return ((← timerId? c.this).map Value.ofNat).getD (.number Number.notNumber)]

def timerGlobals : List Entry :=
  [giveUp "clearImmediate",
    method "setImmediate" 1 fun c => do
      expectCallback "callback" (c.given 0)
      let id ← reading (·.nextTimer)
      changing fun s => { s with
        nextTimer := id + 1
        immediates := s.immediates ++ [⟨id, 0, none, c.given 0, c.arguments.drop 1, false⟩] }
      allocate ⟨.branded .immediate [.ofNat id], some Family.immediate.prototype, #[], true⟩,
    giveUp "clearInterval", giveUp "clearTimeout", putOff "setInterval" true, putOff "setTimeout" false,
    method "queueMicrotask" 1 fun c => do
      expectCallback "callback" (c.given 0)
      addJob (.call (c.given 0) [])
      return .undefined]

/-! ## The process -/

/-- A moment of the clock, which goes on a little whenever it is read. -/
def readClock : Run Float := fun s => .gave s.clock { s with clock := s.clock + 0.001 }

def processEntries : List Entry :=
  [shownContent "version" (.ofString "v22.12.0"), shownContent "versions" (.object Landmark.versions.address),
    shownContent "arch" (.ofString "x64"), shownContent "platform" (.ofString "linux"),
    shownContent "title" (.ofString "node"), shownContent "pid" (.number 12345), shownContent "ppid" (.number 12344),
    shownContent "execPath" (.ofString "/usr/bin/node"), shownContent "argv0" (.ofString "node"),
    shownContent "env" (.object Landmark.surroundings.address),
    shownContent "stdout" (.object Landmark.output.address), shownContent "stderr" (.object Landmark.errors.address),
    shownContent "stdin" (.object Landmark.input.address),
    .accessor (Key.ofString "exitCode") "exitCode".toList (fun _ => reading (·.status)) (some fun c => do
      setStatus (c.given 0)
      return .undefined),
    method "exit" 1 exit, method "reallyExit" 1 exit, method "kill" 2 sendSignal,
    method "abort" 0 fun _ => halt (.killed 6), method "cwd" 0 fun _ => return .ofString "/",
    method "uptime" 0 fun _ => return .number 0.03, method "umask" 0 fun _ => return .number 18,
    method "emitWarning" 1 fun _ => return .undefined,
    method "hrtime" 1 fun _ => do
      let x ← readClock
      list [.number (Number.truncated (x / 1000)), .number 0],
    method "memoryUsage" 0 fun _ => do
      record (["rss", "heapTotal", "heapUsed", "external", "arrayBuffers"].map fun n =>
        (Key.ofString n, .number 4194304)),
    listen "on", listen "once", listen "addListener", listen "prependListener", unlisten "off",
    unlisten "removeListener",
    method "removeAllListeners" 1 fun c => do
      let event ← textOf (c.given 0)
      changing fun s => { s with listeners := s.listeners.filter fun l => l.1 != event }
      return c.this,
    method "emit" 1 fun c => do return .truth (← emit (← textOf (c.given 0)) (c.arguments.drop 1)),
    method "listenerCount" 1 fun c => do
      let event ← textOf (c.given 0)
      return .ofNat (← reading fun s => (s.listeners.filter fun l => l.1 == event).length),
    method "nextTick" 1 fun c => do
      expectCallback "callback" (c.given 0)
      changing fun s => { s with ticks := .call (c.given 0) (c.arguments.drop 1) :: s.ticks }
      return .undefined,
    tag "process"]

/-! ## Modules -/

/-- The names of modules that are always there. -/
def knownModules : List String :=
  ["assert", "buffer", "child_process", "crypto", "dns", "events", "fs", "http", "https", "module", "net", "os",
    "path", "perf_hooks", "process", "querystring", "readline", "stream", "string_decoder", "timers", "tty", "url",
    "util", "v8", "vm", "worker_threads", "zlib"]

/-- A module by its name. -/
def requireModule : Native := fun c => do
  match c.given 0 with
  | .string t =>
    let name := String.ofList (if "node:".toList.isPrefixOf t then t.drop 5 else t)
    if name = "process" then return .object Landmark.process.address
    if name = "util" then return .object Landmark.inspection.address
    if knownModules.contains name then return ← record []
    let message := "Cannot find module '" ++ String.ofList t ++ "'\nRequire stack:\n- /[eval]"
    let e ← fault .fault message.toList
    match e with
    | .object a => put a (Key.ofString "code") (.ofValue (.ofString "MODULE_NOT_FOUND"))
    | _ => pure ()
    raise e
  | v => wrongKind "\"id\" argument" "of type string" v

def inspectionEntries : List Entry :=
  [method "format" 0 fun c => do return .string (← formatted c.arguments),
    method "inspect" 2 fun c => do
      let levels ← match ← (if (c.given 1).isObject then named (c.given 1) "depth" else pure .undefined) with
        | .number x => pure ((Number.index? x).getD 50)
        | .null => pure 50
        | _ => pure 2
      return .string (← reading fun s => Display.shownTo s levels (c.given 0)),
    method "isDeepStrictEqual" 2 fun c => do
      let shown (v : Value) : Run Text := reading fun s => Display.shownTo s 50 v
      return .truth ((← shown (c.given 0)) == (← shown (c.given 1)))]

def processPlans : List Plan := [{ family := .timer }, { family := .immediate }]

def processParts : List Part :=
  [⟨Landmark.process.address, processEntries⟩, ⟨Landmark.console.address, consoleEntries⟩,
    ⟨Landmark.output.address, [method "write" 1 (writing writeOutput), shownContent "fd" (.number 1), method "on" 2 itself, method "once" 2 itself, method "end" 0 fun c => do
        if !(c.given 0).isNothing then writeOutput (← chunkOf (c.given 0))
        return c.this]⟩,
    ⟨Landmark.errors.address, [method "write" 1 (writing writeErrors), shownContent "fd" (.number 2), method "on" 2 itself, method "once" 2 itself]⟩,
    ⟨Landmark.input.address, [method "on" 2 itself, method "once" 2 itself, shownContent "fd" (.number 0)]⟩,
    ⟨Landmark.versions.address, [shownContent "node" (.ofString "22.12.0"),
      shownContent "v8" (.ofString "12.4.254.21-node.21")]⟩,
    ⟨Landmark.inspection.address, inspectionEntries⟩,
    ⟨Landmark.ownModule.address, [shownContent "id" (.ofString "[eval]"),
      shownContent "exports" (.object Landmark.exports.address)]⟩,
    ⟨Family.timer.prototype, timerEntries⟩, ⟨Family.immediate.prototype, timerEntries.drop 3⟩,
    ⟨Landmark.globalObject.address, timerGlobals ++
      [method "require" 1 requireModule, shownContent "module" (.object Landmark.ownModule.address),
        shownContent "exports" (.object Landmark.exports.address), shownContent "__filename" (.ofString "[eval]"),
        shownContent "__dirname" (.ofString ".")]⟩]

end Recurrence.Script.Library
