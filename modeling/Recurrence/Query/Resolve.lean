import Recurrence.Calendar.Coming
import Recurrence.Context
import Recurrence.Diagnostic
import Recurrence.Query
/-!
# Resolving — the day a query names next

Each command names one day after today.  A query names the earliest of the days of its commands, or fails with the
first of them that fails; the commands after that are not looked at, so that code in them is not run.
-/
namespace Recurrence

open Calendar (Refusal)
open Diagnostic (Cause DayBounds)

namespace Rule

/-- Blames a span for a refusal of the calendar. -/
def blame {α : Type} (span : Span) (bounds : DayBounds) : Except Refusal α → Except Diagnostic α
  | .ok a => .ok a
  | .error refusal => .error (.placed span (.ofRefusal bounds refusal))

/-- The number of units that a relative rule counts. -/
def quantity : Option (Located Nat) → Except Diagnostic Nat
  | none => .ok 1
  | some n => if n.value < 1 then .error (.placed n.span .zeroQuantity) else .ok n.value

/-- What a keyword names, or the diagnostic of one that names nothing of its kind. -/
def named {α : Type} (meaning : Keyword → Option α) (cause : Keyword → Cause) (k : Located Keyword) :
    Except Diagnostic α :=
  (meaning k.value).elim (.error (.placed k.span (cause k.value))) .ok

/-- The least and the greatest number of days that code may return. -/
def codeDays : Rat × Rat := (1, 9999)

/-- The day that the reply of an evaluator names; a fraction of a day is dropped. -/
def dayOfReply (today : Date) : Except Text Reply → Except Cause Date
  | .error message => .error (.codeFailed message)
  | .ok .nan => .error .codeNotNumber
  | .ok .infinite => .error .codeNotNumber
  | .ok (.finite days) =>
    if days < codeDays.1 ∨ codeDays.2 < days then .error .codeOutOfBounds
    else (today.plus days.floor.toNat .day).mapError (.ofRefusal .anyMonth)

/-- The day that a block of code names. -/
def codeDay (ctx : Context) (earlier : Nat) (span : Span) (code : Text) : Traced (Except Diagnostic Date) :=
  if ctx.settings.codeAllowed then
    match ctx.evaluator with
    | none => .silent (.error (.placed span .noEvaluator))
    | some evaluator =>
      ⟨(dayOfReply ctx.today (evaluator earlier code ctx.now)).mapError (.placed span), [⟨code, ctx.now⟩]⟩
  else .silent (.error (.placed span .codeForbidden))

end Rule

/-- The day that a command names, when the evaluator has been called `earlier` times before. -/
def Command.resolve (ctx : Context) (earlier : Nat) (c : Command) : Traced (Except Diagnostic Date) :=
  match c.value with
  | .relative number unit => .silent do
    let quantity ← Rule.quantity number
    let unit ← Rule.named Keyword.timeUnit? .unknownUnit unit
    Rule.blame c.span .anyMonth (ctx.today.plus quantity unit)
  | .weekday d => .silent do
    let weekday ← Rule.named Keyword.weekday? .unknownWeekday d
    Rule.blame c.span .anyMonth (ctx.today.nextWeekday weekday)
  | .day n => .silent (Rule.blame c.span .anyMonth (ctx.today.nextDay n.value))
  | .monthDay m n => .silent do
    let month ← Rule.named Keyword.month? .unknownMonth m
    Rule.blame c.span .namedMonth (ctx.today.nextMonthDay month.index n.value)
  | .code code => Rule.codeDay ctx earlier c.span code

/-- The days that commands name, up to the first that fails. -/
def Command.resolveAll (ctx : Context) (earlier : Nat) : List Command → Traced (Except Diagnostic (List Date))
  | [] => .silent (.ok [])
  | c :: cs =>
    let first := c.resolve ctx earlier
    match first.result with
    | .error fault => ⟨.error fault, first.calls⟩
    | .ok day =>
      let others := resolveAll ctx (earlier + first.calls.length) cs
      ⟨others.result.map (day :: ·), first.calls ++ others.calls⟩

theorem Command.resolveAll_ok {ctx : Context} {earlier : Nat} {c : Command} {day : Date}
    (h : (c.resolve ctx earlier).result = .ok day) (cs : List Command) :
    resolveAll ctx earlier (c :: cs) =
      ⟨(resolveAll ctx (earlier + (c.resolve ctx earlier).calls.length) cs).result.map (day :: ·),
        (c.resolve ctx earlier).calls ++ (resolveAll ctx (earlier + (c.resolve ctx earlier).calls.length) cs).calls⟩ := by
  simp only [resolveAll, h]

theorem Command.resolveAll_error {ctx : Context} {earlier : Nat} {c : Command} {fault : Diagnostic}
    (h : (c.resolve ctx earlier).result = .error fault) (cs : List Command) :
    resolveAll ctx earlier (c :: cs) = ⟨.error fault, (c.resolve ctx earlier).calls⟩ := by
  simp only [resolveAll, h]

/-- The earliest of the days of a query. -/
def Query.earliest (q : Query) (days : List Date) : Except Diagnostic Date :=
  days.min?.elim (.error (.placed q.span .noAlternatives)) .ok

/-- **The day that a query names next**, when the evaluator has been called `earlier` times before. -/
def Query.resolve (ctx : Context) (earlier : Nat) (q : Query) : Traced (Except Diagnostic Date) :=
  (Command.resolveAll ctx earlier q.commands).map fun days => days.bind q.earliest

end Recurrence
