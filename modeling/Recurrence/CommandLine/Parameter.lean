import Recurrence.Calendar.Notation
/-!
# Parameters — what can be given on the command line

Options have a long name and some a short one; a flag is an option without a value.  The file is given by its place.
A setting is a parameter with its checked value, a usage fault a complaint about the arguments.
-/
namespace Recurrence.CommandLine

inductive Parameter where
  | now | codeAllowed | program | showQueries | source | file | help | version
deriving DecidableEq, Repr

namespace Parameter

/-- The parameter with a long name. -/
def ofLong? (name : Text) : Option Parameter :=
  [("now".toList, now), ("allow-unsafe".toList, codeAllowed), ("node".toList, program), ("ast".toList, showQueries),
    ("eval".toList, source), ("help".toList, help), ("version".toList, version)].lookup name

/-- The parameter with a short name. -/
def ofShort? : Char → Option Parameter
  | 'n' => some now
  | 'e' => some source
  | 'h' => some help
  | 'V' => some version
  | _ => none

def takesValue : Parameter → Bool
  | now => true
  | program => true
  | source => true
  | file => true
  | _ => false

/-- How a complaint names a parameter. -/
def text : Parameter → Text
  | now => "--now <NOW>".toList
  | codeAllowed => "--allow-unsafe".toList
  | program => "--node <PROGRAM>".toList
  | showQueries => "--ast".toList
  | source => "--eval <TEXT>".toList
  | file => "[FILE]".toList
  | help => "--help".toList
  | version => "--version".toList

end Parameter

/-- What is wrong with the arguments. -/
inductive UsageFault where
  | unexpected (argument : Text)
  | missingValue (parameter : Parameter)
  | needlessValue (parameter : Parameter) (value : Text)
  | repeated (parameter : Parameter)
  | conflicting (first second : Parameter)
  | invalidValue (parameter : Parameter) (value reason : Text)
deriving DecidableEq, Repr

/-- A text of the user within a complaint, in quotes and coloured. -/
def quoted (t : Text) : Text := "'\x1b[33m".toList ++ t ++ "\x1b[0m'".toList

/-- The sentence for a fault. -/
def UsageFault.text : UsageFault → Text
  | unexpected argument => "unexpected argument ".toList ++ quoted argument ++ " found".toList
  | missingValue p => "a value is required for '".toList ++ p.text ++ "' but none was supplied".toList
  | needlessValue p v =>
    "unexpected value ".toList ++ quoted v ++ " for '".toList ++ p.text ++ "' found; no more were expected".toList
  | repeated p => "the argument '".toList ++ p.text ++ "' cannot be used multiple times".toList
  | conflicting p q => "the argument '".toList ++ p.text ++ "' cannot be used with '".toList ++ q.text ++ ['\'']
  | invalidValue p v reason =>
    "invalid value ".toList ++ quoted v ++ " for '".toList ++ p.text ++ "': ".toList ++ reason

/-- A parameter with its checked value. -/
inductive Setting where
  | now (moment : Moment)
  | codeAllowed
  | program (name : Text)
  | showQueries
  | source (text : Text)
  | file (path : Text)
deriving DecidableEq, Repr

namespace Setting

def parameter : Setting → Parameter
  | now _ => .now
  | codeAllowed => .codeAllowed
  | program _ => .program
  | showQueries => .showQueries
  | source _ => .source
  | file _ => .file

/-- The setting of a parameter that takes a value: the reference date has to be one, the file cannot be empty. -/
def ofValue (p : Parameter) (value : Text) : Except UsageFault Setting :=
  match p with
  | .now => match Moment.ofText value with
    | .ok moment => .ok (now moment)
    | .error fault =>
      .error (.invalidValue .now value ("invalid date ".toList ++ value ++ ": ".toList ++ fault.text))
  | .program => .ok (program value)
  | .source => .ok (source value)
  | .file => if value = [] then .error (.missingValue .file) else .ok (file value)
  | p => .error (.needlessValue p value)

end Setting
end Recurrence.CommandLine
