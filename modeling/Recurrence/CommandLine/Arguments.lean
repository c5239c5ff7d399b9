import Recurrence.CommandLine.Parameter
/-!
# Arguments — reading the command line

An option stands before its value or is joined to it: `--now 2024-01-01`, `--now=2024-01-01`, `-n2024-01-01`.  A
parameter whose value is still to come, or has come in an argument of its own, is pending; it is checked and settled
when the next option or file is reached and at the end.  An argument that fits nowhere is reported before any fault of
the pending one.  After `--` every argument is a file.
-/
namespace Recurrence.CommandLine

/-- The settings given so far, in order, and the parameter that waits to be settled, with its value if it has come. -/
structure Progress where
  given : List Setting
  pending : Option (Parameter × Option Text)

/-- What a command line asks for. -/
inductive Request where
  | help
  | version
  | resolve (given : List Setting)
deriving DecidableEq, Repr

namespace Progress

def start : Progress := ⟨[], none⟩

/-- Adds a setting; each parameter may be set once. -/
def add (given : List Setting) (s : Setting) : Except UsageFault (List Setting) :=
  if s.parameter ∈ given.map Setting.parameter then .error (.repeated s.parameter) else .ok (given ++ [s])

/-- Checks a value and adds it: first that the parameter is not set already, then the value itself. -/
def addValue (given : List Setting) (p : Parameter) (value : Text) : Except UsageFault (List Setting) :=
  if p ∈ given.map Setting.parameter then .error (.repeated p)
  else (Setting.ofValue p value).map fun s => given ++ [s]

/-- Settles the pending parameter. -/
def settle (s : Progress) : Except UsageFault (List Setting) :=
  match s.pending with
  | none => .ok s.given
  | some (p, none) => .error (.missingValue p)
  | some (p, some value) => addValue s.given p value

/-- Whether an option waits for its value. -/
def awaits (s : Progress) : Option Parameter :=
  match s.pending with
  | some (p, none) => some p
  | _ => none

/-- Whether the file has been given. -/
def hasFile (s : Progress) : Bool :=
  s.given.any (fun g => g.parameter == .file) || s.pending.any fun p => p.1 == .file

/-- Takes an argument that is no option. -/
def takeFile (s : Progress) (argument : Text) : Except UsageFault Progress :=
  if s.hasFile then .error (.unexpected argument)
  else s.settle.map fun given => ⟨given, some (.file, some argument)⟩

/-- Takes an option with the value joined to it, if there is one. -/
def takeOption (s : Progress) (p : Parameter) (joined : Option Text) : Except UsageFault Progress :=
  match p, joined with
  | .codeAllowed, none => (s.settle.bind fun given => add given .codeAllowed).map (⟨·, none⟩)
  | .showQueries, none => (s.settle.bind fun given => add given .showQueries).map (⟨·, none⟩)
  | p, none => s.settle.map fun given => ⟨given, some (p, none)⟩
  | p, some value => (s.settle.bind fun given => addValue given p value).map (⟨·, none⟩)

end Progress

/-- An option as an argument names it. -/
inductive Named where
  /-- No option has this name. -/
  | unknown (name : Text)
  | option (parameter : Parameter) (joined : Option Text)

/-- The option that an argument names by its long name, with what follows its first `=`. -/
def longOption (body : Text) : Named :=
  let name := body.takeWhile (· ≠ '=')
  match Parameter.ofLong? name with
  | none => .unknown ('-' :: '-' :: name)
  | some p => .option p (if name.length < body.length then some (body.drop (name.length + 1)) else none)

/-- The option that an argument names by its short name, with what is joined to it, a first `=` apart. -/
def shortOption (c : Char) (rest : Text) : Named :=
  match Parameter.ofShort? c with
  | none => .unknown ['-', c]
  | some p =>
    if p.takesValue then
      .option p (match rest with
        | [] => none
        | '=' :: value => some value
        | value => some value)
    else .option p none

/-- The option that an argument names; none, when the argument is a value or a file. -/
def named? : Text → Option Named
  | '-' :: '-' :: c :: cs => some (longOption (c :: cs))
  | '-' :: '-' :: [] => none
  | '-' :: c :: cs => some (shortOption c cs)
  | _ => none

/-- What the settings ask for, once all arguments are read: a text and a file exclude each other. -/
def requested (given : List Setting) : Except UsageFault Request :=
  match (given.map Setting.parameter).filter fun p => p == .source || p == .file with
  | [p, q] => .error (.conflicting p q)
  | _ => .ok (.resolve given)

/-- Reads arguments after which only files may come. -/
def readFiles (s : Progress) : List Text → Except UsageFault Request
  | [] => s.settle.bind requested
  | a :: rest => (s.takeFile a).bind fun s => readFiles s rest

/-- Reads arguments from a state on. -/
def readFrom (s : Progress) : List Text → Except UsageFault Request
  | [] => s.settle.bind requested
  | a :: rest =>
    if a = "--".toList then readFiles s rest
    else match named? a, s.awaits with
      | some (.unknown name), _ => .error (.unexpected name)
      | some (.option .help none), _ => s.settle.map fun _ => .help
      | some (.option .version none), _ => s.settle.map fun _ => .version
      | some (.option p joined), _ =>
        if p.takesValue || joined.isNone then (s.takeOption p joined).bind fun s => readFrom s rest
        else .error (.needlessValue p (joined.getD []))
      | none, some p => readFrom { s with pending := some (p, some a) } rest
      | none, none => (s.takeFile a).bind fun s => readFrom s rest

/-- **What the arguments of a command line ask for.** -/
def read (arguments : List Text) : Except UsageFault Request := readFrom .start arguments

end Recurrence.CommandLine
