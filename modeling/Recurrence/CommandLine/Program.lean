import Recurrence.Evaluator
import Recurrence.Text.Blank
/-!
# Programs — what code blocks are handed to

A block of code is handed to a script runner: a program that is started with a script, the code and the present moment.
A program that fails is reported with what it says or, when it says nothing, with the way it ended; one that ends well
has to leave a number.  Which programs there are and what they leave is up to the world (`Programs`).
-/
namespace Recurrence.CommandLine

/-- How a program ends: with a status of its own, or by a signal, after which its memory may have been dumped. -/
inductive Exit where
  | status (n : Nat)
  | signal (n : Nat) (dumped : Bool)
deriving DecidableEq, Repr

/-- What a program leaves.  In both texts a replacement character stands for bytes that write none. -/
structure Ending where
  exit : Exit
  output : Text
  errors : Text
deriving DecidableEq, Repr

/-- The programs of the world: what one leaves that is started with arguments after `earlier` others, or why it cannot
be started. -/
abbrev Programs := (earlier : Nat) → (program : Text) → (arguments : List Text) → Except Text Ending

/-- The name of the script runner, where no other is given. -/
def scriptRunner : Text := "node".toList

/-- The script around the code: it makes a function of the code, calls it with the moment, and writes its number. -/
def script : Text :=
  ("try \x7bconst f = eval(process.argv[1]);" ++
    "if (typeof f !== 'function') throw new TypeError('Code must evaluate to a function');" ++
    "const r = f(new Date(process.argv[2]));" ++
    "process.stdout.write(typeof r === 'number' ? String(r) : 'NaN');" ++
    "\x7d catch (e) \x7bprocess.stderr.write(String(e));process.exitCode = 1;\x7d").toList

/-- The names of the signals, from that with number 1 on. -/
def signalNames : List String :=
  ["SIGHUP", "SIGINT", "SIGQUIT", "SIGILL", "SIGTRAP", "SIGABRT", "SIGBUS", "SIGFPE", "SIGKILL", "SIGUSR1", "SIGSEGV",
    "SIGUSR2", "SIGPIPE", "SIGALRM", "SIGTERM", "SIGSTKFLT", "SIGCHLD", "SIGCONT", "SIGSTOP", "SIGTSTP", "SIGTTIN",
    "SIGTTOU", "SIGURG", "SIGXCPU", "SIGXFSZ", "SIGVTALRM", "SIGPROF", "SIGWINCH", "SIGIO", "SIGPWR", "SIGSYS"]

/-- The name of a signal in parentheses; nothing, if it has none. -/
def signalText : (n : Nat) → Text
  | 0 => []
  | n + 1 => signalNames[n]?.elim [] fun name => " (".toList ++ name.toList ++ [')']

def Exit.text : Exit → Text
  | status n => "exit status: ".toList ++ Text.digits n
  | signal n dumped =>
    "signal: ".toList ++ Text.digits n ++ signalText n ++ if dumped then " (core dumped)".toList else []

/-- The reply that an ending amounts to. -/
def replyOf (program : Text) (e : Ending) : Except Text Reply :=
  if e.exit = .status 0 then
    let output := Text.trimmed e.output
    (Reply.ofText? output).elim (.error ("Not a number: ".toList ++ output)) .ok
  else match Text.trimmed e.errors with
    | [] => .error (program ++ " exited with ".toList ++ e.exit.text)
    | message => .error message

/-- The evaluator that hands code to the program with the given name.  No program can be started with a null character
in its name or its arguments. -/
def programEvaluator (programs : Programs) (program : Text) : Evaluator := fun earlier code now =>
  if (program ++ code).contains '\x00' then .error (program ++ ": nul byte found in provided data".toList)
  else match programs earlier program ["-e".toList, script, code, now.text] with
    | .ok e => replyOf program e
    | .error reason => .error (program ++ ": ".toList ++ reason)

end Recurrence.CommandLine
