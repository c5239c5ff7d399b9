import Recurrence.Diagnostic
import Recurrence.Query
import Recurrence.Token
/-!
# Reading queries — from tokens to commands

A phrase is one or more commands with commas between them; `every` may stand in front, and a shorthand such as
`weekly` may stand in place of `every` with a unit:

    query   = [every] command {, command} | shorthand {, command}
    command = [number] unit | weekday | ordinal | month ordinal | mark code

Reading stops at the first token that cannot continue the phrase, or at its end when more is needed.
-/
namespace Recurrence

/-- Where reading could not go on: at a token, or at the end of the tokens. -/
inductive Stop where
  | atToken (token : Token)
  | atEnd
deriving DecidableEq, Repr

/-- The diagnostic of a stop in a list of tokens; the end is blamed on the last token, if there is one. -/
def Stop.diagnostic (tokens : List Token) : Stop → Diagnostic
  | atToken t => .placed t.span (.unexpectedToken t.value.called)
  | atEnd => match tokens.getLast? with
    | some last => .placed last.span .unexpectedEnd
    | none => .unplaced .unexpectedEnd

namespace Command

/-- Reads the one token that `build` still needs; `accept` says what a token gives it. -/
def readLast {α : Type} (accept : Token.Kind → Option α) (build : Located α → Command) :
    List Token → Except Stop (Command × List Token)
  | [] => .error .atEnd
  | t :: rest => match accept t.value with
    | some a => .ok (build ⟨t.span, a⟩, rest)
    | none => .error (.atToken t)

/-- The command that begins with the token `t`, read on from the tokens after it. -/
def readFrom (t : Token) (rest : List Token) : Except Stop (Command × List Token) :=
  match t.value with
  | .number n => readLast Token.Kind.unitWord? (fun u => ⟨t.span.upTo u.span, .relative (some ⟨t.span, n⟩) u⟩) rest
  | .ordinal n => .ok (⟨t.span, .day ⟨t.span, n⟩⟩, rest)
  | .keyword (.unit u plural) => .ok (⟨t.span, .relative none ⟨t.span, .unit u plural⟩⟩, rest)
  | .keyword (.weekday d) => .ok (⟨t.span, .weekday ⟨t.span, .weekday d⟩⟩, rest)
  | .keyword (.month m) =>
    readLast Token.Kind.ordinal? (fun n => ⟨t.span.upTo n.span, .monthDay ⟨t.span, .month m⟩ n⟩) rest
  | .keyword .code => readLast Token.Kind.code? (fun c => ⟨t.span.upTo c.span, .code c.value⟩) rest
  | _ => .error (.atToken t)

/-- Reads one command. -/
def read : List Token → Except Stop (Command × List Token)
  | [] => .error .atEnd
  | t :: rest => readFrom t rest

theorem length_of_readLast {α : Type} {accept : Token.Kind → Option α} {build : Located α → Command}
    {ts rest : List Token} {c : Command} (h : readLast accept build ts = .ok (c, rest)) :
    rest.length < ts.length := by
  unfold readLast at h
  split at h
  · simp at h
  · split at h
    · simp only [Except.ok.injEq, Prod.mk.injEq] at h
      simp [h.2]
    · simp at h

theorem length_of_readFrom {t : Token} {ts rest : List Token} {c : Command} (h : readFrom t ts = .ok (c, rest)) :
    rest.length ≤ ts.length := by
  unfold readFrom at h
  split at h
  case h_1 => exact Nat.le_of_lt (length_of_readLast h)
  case h_5 => exact Nat.le_of_lt (length_of_readLast h)
  case h_6 => exact Nat.le_of_lt (length_of_readLast h)
  case h_7 => simp at h
  all_goals
    simp only [Except.ok.injEq, Prod.mk.injEq] at h
    simp [h.2]

/-- A command uses up at least one token. -/
theorem length_of_read {ts rest : List Token} {c : Command} (h : read ts = .ok (c, rest)) :
    rest.length < ts.length := by
  cases ts with
  | nil => simp [read] at h
  | cons t ts => exact Nat.lt_succ_of_le (length_of_readFrom h)

/-- Reads the further commands of a phrase, each after a comma, to the end of the tokens. -/
def readMore (ts : List Token) : Except Stop (List Command) :=
  match ts with
  | [] => .ok []
  | t :: rest =>
    if t.value = .separator then
      match _h : read rest with
      | .ok (c, rest') => (readMore rest').map (c :: ·)
      | .error stop => .error stop
    else .error (.atToken t)
termination_by ts.length
decreasing_by
  have := length_of_read _h
  simp only [List.length_cons]; omega

/-- Reads one command and the further ones. -/
def readAll (ts : List Token) : Except Stop (List Command) :=
  match read ts with
  | .ok (c, rest) => (readMore rest).map (c :: ·)
  | .error stop => .error stop

/-- Reads all commands of a phrase that begins with the token `t`. -/
def readPhrase (t : Token) (rest : List Token) : Except Stop (List Command) :=
  match t.value with
  | .keyword .every => readAll rest
  | .keyword (.shorthand s) => (readMore rest).map (⟨t.span, .relative none ⟨t.span, .unit s.unit false⟩⟩ :: ·)
  | _ => readAll (t :: rest)

end Command

namespace Query

/-- The query of a phrase that begins with `t`: its span goes from there to the end of its last command. -/
def ofCommands (t : Token) (commands : List Command) : Query :=
  ⟨commands.getLast?.elim t.span fun last => t.span.upTo last.span, commands⟩

/-- **The query that a list of tokens spells**, or the first fault in it. -/
def ofTokens : List Token → Except Diagnostic Query
  | [] => .error (Stop.atEnd.diagnostic [])
  | t :: rest =>
    match Command.readPhrase t rest with
    | .ok commands => .ok (ofCommands t commands)
    | .error stop => .error (stop.diagnostic (t :: rest))

end Query
end Recurrence
