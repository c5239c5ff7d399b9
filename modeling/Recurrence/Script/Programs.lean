import Recurrence.Script.Run
/-!
# Known programs — a world in which scripts are run

Where no program can be started, these stand for those of the world: a script runner, a program that does nothing and
one that only fails.  No other program is known.
-/
namespace Recurrence.Script

open CommandLine (Ending Programs scriptRunner)

/-- What the script runner leaves that has been given a script.  Of the options, which begin with a dash, it knows the
one that gives it a script, and two dashes, which end the options. -/
def runner (script : Text) : List Text → Ending
  | ['-', 'e'] :: script :: rest => runner script rest
  | ['-', '-'] :: rest => run script rest
  | ('-' :: c :: cs) :: _ => ⟨.status 9, [], scriptRunner ++ ": bad option: ".toList ++ '-' :: c :: cs ++ ['\n']⟩
  | arguments => run script arguments

/-- Where programs are found that are named without a place. -/
def places : List Text := ["", "/bin/", "/usr/bin/"].map String.toList

/-- Whether a name is that of a program, with the place where it is found or without. -/
def names (program name : Text) : Bool := places.any fun place => program == place ++ name

/-- Why nothing can be started under a name. -/
inductive Hindrance where
  | missing
  /-- What has the name is no program. -/
  | refused
  | tooLong
deriving DecidableEq, Repr

def Hindrance.message : Hindrance → Text
  | missing => "No such file or directory (os error 2)".toList
  | refused => "Permission denied (os error 13)".toList
  | tooLong => "File name too long (os error 36)".toList

/-- Names of what is there and is no program. -/
def plainPlaces : List Text :=
  ["/", ".", "..", "./", "../", "/bin", "/bin/", "/usr", "/usr/", "/usr/bin", "/usr/bin/", "/etc", "/etc/", "/tmp",
    "/tmp/", "/dev", "/dev/null", "/etc/passwd"].map String.toList

/-- How many bytes a name may have that is looked for in the places of programs. -/
def longestName : Nat := 255

/-- Why a name that is none of a program cannot be started. -/
def hindrance (program : Text) : Hindrance :=
  if plainPlaces.contains program then .refused
  else if !program.contains '/' ∧ longestName < (String.ofList program).utf8ByteSize then .tooLong
  else .missing

/-- **The known programs.**  None keeps anything from one run to the next. -/
def programs : Programs := fun _ program arguments =>
  if names program scriptRunner then .ok (runner [] arguments)
  else if names program "true".toList then .ok ⟨.status 0, [], []⟩
  else if names program "false".toList then .ok ⟨.status 1, [], []⟩
  else .error (hindrance program).message

end Recurrence.Script
