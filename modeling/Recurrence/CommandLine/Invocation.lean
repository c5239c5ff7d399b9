import Recurrence.CommandLine.Arguments
import Recurrence.CommandLine.Listing
import Recurrence.CommandLine.Program
import Recurrence.Text.Control
/-!
# Invocations — what the program does for its arguments

An invocation is what the settings of a command line amount to; `run` gives its output, its error output and its exit
status: 0, 1 when a phrase or the file fails, 2 when the arguments are wrong.
-/
namespace Recurrence.CommandLine

/-- Where the phrases come from. -/
inductive Source where
  | text (t : Text)
  | file (path : Text)
  | prompt
deriving DecidableEq, Repr

structure Invocation where
  now : Option Moment
  codeAllowed : Bool
  program : Text
  showQueries : Bool
  source : Source
deriving DecidableEq, Repr

/-- What is left when the program ends. -/
structure Result where
  status : Nat
  output : Text
  errors : Text
deriving DecidableEq, Repr

/-- **What is left after a block**: it is a failure when a line of its listing is a diagnostic. -/
def batch (ctx : Context) (earlier : Nat) (showQueries : Bool) (block : Text) : Result :=
  let lines := Listing.ofText ctx earlier showQueries block
  ⟨if lines.succeeded then 0 else 1, lines.output, lines.errors⟩

/-- What an invocation sees of the world: the contents of files, or why they cannot be read, the time, and the programs
that it can start. -/
structure Surroundings where
  contentsOf : Text → Except Text Text
  clock : Moment
  programs : Programs

namespace Invocation

/-- Without settings, phrases are asked for, no code is run, and the reference date is the present moment. -/
def plain : Invocation := ⟨none, false, scriptRunner, false, .prompt⟩

/-- The invocation with one more setting. -/
def set (i : Invocation) : Setting → Invocation
  | .now moment => { i with now := some moment }
  | .codeAllowed => { i with codeAllowed := true }
  | .program name => { i with program := name }
  | .showQueries => { i with showQueries := true }
  | .source t => { i with source := .text t }
  | .file path => { i with source := .file path }

def ofSettings (given : List Setting) : Invocation := given.foldl set plain

/-- The context in which phrases are resolved; code is run only by a program that the arguments allow. -/
def context (i : Invocation) (world : Surroundings) : Context :=
  let plain := Context.atMoment (i.now.getD world.clock)
  if i.codeAllowed then
    { plain with settings := ⟨true⟩, evaluator := some (programEvaluator world.programs i.program) }
  else plain

/-- The listing of a block. -/
def listing (i : Invocation) (world : Surroundings) (block : Text) : Listing :=
  .ofText (i.context world) 0 i.showQueries block

/-- What is left after a block. -/
def resolve (i : Invocation) (world : Surroundings) (block : Text) : Result :=
  batch (i.context world) 0 i.showQueries block

end Invocation

/-- The name and number of this program. -/
def versionLine : Text := "dzen 0.3.0\n".toList

def helpLines : Text :=
  ("Resolve recurring date phrases to the next matching date\n\n" ++
    "Usage: dzen [OPTIONS] [FILE]\n\n" ++
    "Arguments:\n" ++
    "  [FILE]  File of queries to resolve, interactive when absent\n\n" ++
    "Options:\n" ++
    "  -n, --now <NOW>       Reference date as YYYY-MM-DD or YYYY-MM-DDTHH:MM:SS [default: now]\n" ++
    "      --allow-unsafe    Run code blocks\n" ++
    "      --node <PROGRAM>  Program that runs code blocks [default: node]\n" ++
    "      --ast             Print each parsed query before its date\n" ++
    "  -e, --eval <TEXT>     Resolve TEXT instead of reading a file\n" ++
    "  -h, --help            Print help\n" ++
    "  -V, --version         Print version\n").toList

/-- The complaint about wrong arguments, as it is painted on a terminal. -/
def complaint (fault : UsageFault) : Text :=
  "\x1b[1m\x1b[31merror:\x1b[0m ".toList ++ fault.text ++
    "\n\nFor more information, try '\x1b[1m--help\x1b[0m'.\n".toList

/-- What is left after arguments that ask for nothing.  The error output is no terminal, so control sequences are taken
out, also those that an argument brings along. -/
def usageResult (fault : UsageFault) : Result := ⟨2, [], (complaint fault).withoutControls⟩

/-- **What is left after a command line.**  An invocation that asks for phrases leaves nothing of its own. -/
def run (world : Surroundings) (arguments : List Text) : Result :=
  match read arguments with
  | .error fault => usageResult fault
  | .ok .help => ⟨0, helpLines, []⟩
  | .ok .version => ⟨0, versionLine, []⟩
  | .ok (.resolve given) =>
    let i := Invocation.ofSettings given
    match i.source with
    | .text t => i.resolve world t
    | .file path => match world.contentsOf path with
      | .ok t => i.resolve world t
      | .error reason => ⟨1, [], path ++ ": ".toList ++ reason ++ ['\n']⟩
    | .prompt => ⟨0, [], []⟩

end Recurrence.CommandLine
