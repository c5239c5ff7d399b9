import Recurrence.CommandLine.Invocation
import Recurrence.Script.Programs
import Std.Time.Zoned
/-!
# The program

It reads the file that its arguments name, or asks for phrases line by line when they name none, and prints what
`CommandLine.run` and `Invocation.listing` say.  Of programs it knows those of `Script.programs`.
-/
namespace Recurrence.Program

open CommandLine

/-- The present moment, in local time. -/
def clock : IO Moment := do
  let now ← Std.Time.PlainDateTime.now
  let date := Date.ofYmd? now.date.year now.date.month.toNat now.date.day.toNat
  let moment := date.bind fun d =>
    Notation.momentOf? d now.time.hour.toNat now.time.minute.toNat now.time.second.toNat now.time.nanosecond.toNat
  match moment with
  | some m => return m
  | none => throw (IO.userError "the present moment is not in the calendar")

/-- Why a file could not be read. -/
def reason : IO.Error → Text
  | .noFileOrDirectory .. => "No such file or directory (os error 2)".toList
  | .permissionDenied .. => "Permission denied (os error 13)".toList
  | .inappropriateType .. => "Is a directory (os error 21)".toList
  | e => (toString e).toList

/-- The contents of a file. -/
def contents (path : Text) : IO (Except Text Text) := do
  try
    let bytes ← IO.FS.readBinFile (String.ofList path)
    match String.fromUTF8? bytes with
    | some t => return .ok t.toList
    | none => return .error "stream did not contain valid UTF-8".toList
  catch e => return .error (reason e)

/-- Answers the lines of the input one by one, until it ends. -/
partial def prompt (i : Invocation) (world : Surroundings) (input output : IO.FS.Stream) : IO Unit := do
  output.putStr "> "
  output.flush
  let line ← input.getLine
  if line.isEmpty then return
  let phrases := line.toList.filter (· ≠ '\n')
  if phrases.any fun c => !Text.isBlank c then
    output.putStr (String.ofList (i.listing world phrases).together)
  prompt i world input output

end Recurrence.Program

open Recurrence Recurrence.CommandLine

def main (arguments : List String) : IO UInt32 := do
  let arguments := arguments.map String.toList
  let moment ← Program.clock
  let source := match CommandLine.read arguments with
    | .ok (.resolve given) => some (Invocation.ofSettings given)
    | _ => none
  let text ← match source.map (·.source) with
    | some (.file path) => Program.contents path
    | _ => pure (.error [])
  let world := ⟨fun _ => text, moment, Script.programs⟩
  let result := run world arguments
  (← IO.getStdout).putStr (String.ofList result.output)
  (← IO.getStderr).putStr (String.ofList result.errors)
  if let some i := source then
    if i.source = .prompt then Program.prompt i world (← IO.getStdin) (← IO.getStdout)
  return result.status.toUInt32
