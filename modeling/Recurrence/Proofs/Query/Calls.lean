import Recurrence.Proofs.Query.Outcome
import Recurrence.Session
/-!
# Calls — which code is run, and how often

Code is run only where the settings allow it and there is an evaluator.  There the commands of a query are looked at one
after the other, up to the first that fails (`Command.UpToFailure`), and the code of each of them is run once.  Which
command fails first may depend on the replies, and these on the calls before; so the calls for the queries of a block
are those due to each of them when its turn comes (`Query.DueInTurn`).
-/
namespace Recurrence

/-- The code of a rule, if it is code. -/
def Rule.code? : Rule → Option Text
  | code c => some c
  | _ => none

/-- The codes of commands, in order. -/
def Command.codes (cs : List Command) : List Text := cs.filterMap fun c => c.value.code?

/-- The calls that run each code once, at the moment of the context; where no code can be run, there are none. -/
def Context.callsOf (ctx : Context) (codes : List Text) : List Call :=
  if ctx.settings.codeAllowed = true ∧ ctx.evaluator.isSome = true then codes.map fun code => ⟨code, ctx.now⟩ else []

/-- Of some commands, those up to the first that fails are looked at, with that one; all of them, if none fails.  Each
has its turn when the codes of the commands before it have been run. -/
inductive Command.UpToFailure (ctx : Context) : (earlier : Nat) → (commands seen : List Command) → Prop
  | nil {n : Nat} : UpToFailure ctx n [] []
  | fails {n : Nat} {c : Command} {cs : List Command} {fault : Diagnostic} :
      (c.resolve ctx n).result = .error fault → UpToFailure ctx n (c :: cs) [c]
  | names {n : Nat} {c : Command} {cs seen : List Command} {day : Date} :
      (c.resolve ctx n).result = .ok day → UpToFailure ctx (n + (ctx.callsOf (codes [c])).length) cs seen →
        UpToFailure ctx n (c :: cs) (c :: seen)

/-- The calls due to a query: those of the codes of its commands up to the first that fails. -/
def Query.Due (ctx : Context) (earlier : Nat) (q : Query) (calls : List Call) : Prop :=
  ∃ seen, Command.UpToFailure ctx earlier q.commands seen ∧ calls = ctx.callsOf (Command.codes seen)

/-- The calls due to queries one after the other. -/
inductive Query.DueInTurn (ctx : Context) : (earlier : Nat) → List Query → List Call → Prop
  | nil {n : Nat} : DueInTurn ctx n [] []
  | cons {n : Nat} {q : Query} {qs : List Query} {calls more : List Call} :
      q.Due ctx n calls → DueInTurn ctx (n + calls.length) qs more → DueInTurn ctx n (q :: qs) (calls ++ more)

namespace Context

variable {ctx : Context}

theorem callsOf_open (hg : ctx.settings.codeAllowed = true) {e : Evaluator} (he : ctx.evaluator = some e)
    (codes : List Text) : ctx.callsOf codes = codes.map fun code => ⟨code, ctx.now⟩ :=
  if_pos ⟨hg, by rw [he]; rfl⟩

theorem callsOf_closed (h : ctx.settings.codeAllowed = false) (codes : List Text) : ctx.callsOf codes = [] :=
  if_neg fun hc => by simp [h] at hc

theorem callsOf_alone (h : ctx.evaluator = none) (codes : List Text) : ctx.callsOf codes = [] :=
  if_neg fun hc => by simp [h] at hc

theorem callsOf_nil : ctx.callsOf [] = [] := ite_self _

theorem callsOf_append (as bs : List Text) : ctx.callsOf (as ++ bs) = ctx.callsOf as ++ ctx.callsOf bs := by
  unfold callsOf
  split
  · exact List.map_append
  · rfl

end Context

namespace Command

variable (ctx : Context) (n : Nat)

theorem codes_cons (c : Command) (cs : List Command) : codes (c :: cs) = codes [c] ++ codes cs :=
  List.filterMap_append (l := [c])

/-- **A command makes the call of its code**, where code can be run, and no other. -/
theorem calls_resolve (c : Command) : (c.resolve ctx n).calls = ctx.callsOf (codes [c]) := by
  obtain ⟨span, r⟩ := c
  cases r with
  | code code =>
    show (Rule.codeDay ctx n span code).calls = ctx.callsOf [code]
    cases hg : ctx.settings.codeAllowed with
    | false => simp [Rule.codeDay, hg, Context.callsOf_closed hg, Traced.silent]
    | true =>
      cases he : ctx.evaluator with
      | none => simp [Rule.codeDay, hg, he, Context.callsOf_alone he, Traced.silent]
      | some e => simp [Rule.codeDay, hg, he, Context.callsOf_open hg he]
  | relative number unit => exact Context.callsOf_nil.symm
  | weekday day => exact Context.callsOf_nil.symm
  | day day => exact Context.callsOf_nil.symm
  | monthDay month day => exact Context.callsOf_nil.symm

/-- **The codes of commands are run up to the first command that fails.** -/
theorem exists_upToFailure (cs : List Command) :
    ∃ seen, UpToFailure ctx n cs seen ∧ (resolveAll ctx n cs).calls = ctx.callsOf (codes seen) := by
  induction cs generalizing n with
  | nil => exact ⟨[], .nil, Context.callsOf_nil.symm⟩
  | cons c cs ih =>
    cases h : (c.resolve ctx n).result with
    | error fault =>
      refine ⟨[c], .fails h, ?_⟩
      rw [resolveAll_error h, calls_resolve]
    | ok day =>
      obtain ⟨seen, hseen, hcalls⟩ := ih (n + (ctx.callsOf (codes [c])).length)
      refine ⟨c :: seen, .names h hseen, ?_⟩
      rw [resolveAll_ok h, calls_resolve, hcalls, codes_cons c seen, Context.callsOf_append]

end Command

namespace Query

theorem due_resolve (ctx : Context) (n : Nat) (q : Query) : q.Due ctx n (q.resolve ctx n).calls :=
  Command.exists_upToFailure ctx n q.commands

theorem dueInTurn_ofQueries (ctx : Context) (n : Nat) (qs : List (Except Diagnostic Query)) :
    DueInTurn ctx n (qs.filterMap Except.toOption) (Answer.ofQueries ctx n qs).calls := by
  induction qs generalizing n with
  | nil => exact .nil
  | cons q qs ih =>
    cases q with
    | error fault => exact ih n
    | ok q => exact .cons (due_resolve ctx n q) (ih _)

end Query

/-! ## Where no code may be run -/

/-- Where no code may be run, a command comes to the same with any evaluator or with none. -/
theorem Command.resolve_closed {ctx : Context} (h : ctx.settings.codeAllowed = false) (e : Option Evaluator) (m n : Nat)
    (c : Command) : c.resolve { ctx with evaluator := e } m = c.resolve ctx n := by
  obtain ⟨span, r⟩ := c
  cases r with
  | code code =>
    show Rule.codeDay { ctx with evaluator := e } m span code = Rule.codeDay ctx n span code
    rw [Rule.codeDay, Rule.codeDay, h]
    rfl
  | _ => rfl

theorem Command.resolveAll_closed {ctx : Context} (h : ctx.settings.codeAllowed = false) (e : Option Evaluator)
    (m n : Nat) (cs : List Command) : resolveAll { ctx with evaluator := e } m cs = resolveAll ctx n cs :=
  resolveAll_congr (fun c _ m n => resolve_closed h e m n c) m n

theorem Query.resolve_closed {ctx : Context} (h : ctx.settings.codeAllowed = false) (e : Option Evaluator) (m n : Nat)
    (q : Query) : q.resolve { ctx with evaluator := e } m = q.resolve ctx n := by
  have hf : (resolve { ctx with evaluator := e } m q) =
      (Command.resolveAll { ctx with evaluator := e } m q.commands).map fun days => days.bind q.earliest := rfl
  rw [hf, Command.resolveAll_closed h e m n]
  rfl

/-! ## Blocks -/

namespace Context

theorem calls_runBlock (ctx : Context) (n : Nat) (source : Text) :
    (ctx.runBlock n source).calls = (ctx.resolveBlock n source).calls := rfl

theorem calls_resolveBlock_error {ctx : Context} {n : Nat} {source : Text} {fault : Diagnostic}
    (h : Token.ofText source = .error fault) : (ctx.resolveBlock n source).calls = [] := by
  rw [resolveBlock, Query.ofBlock, h]
  rfl

theorem dueInTurn_resolveBlock {ctx : Context} {n : Nat} {source : Text} {tokens : List Token}
    (h : Token.ofText source = .ok tokens) :
    Query.DueInTurn ctx n ((Token.phrases tokens).filterMap fun g => (Query.ofTokens g).toOption)
      (ctx.resolveBlock n source).calls := by
  have hd := Query.dueInTurn_ofQueries ctx n ((Token.phrases tokens).map Query.ofTokens)
  rw [List.filterMap_map] at hd
  rw [resolveBlock, Query.ofBlock, h]
  exact hd

/-- **Code is run where it may be, once for each command up to the first that fails, and nowhere else**: for a query,
for each of the phrases of a block that can be read, and not at all to read a block. -/
theorem calls_due (ctx : Context) (n : Nat) :
    (ctx.settings.codeAllowed = false → ∀ q : Query, (q.resolve ctx n).calls = [] ∧
        ∀ (e : Option Evaluator) (m : Nat),
          (q.resolve { ctx with evaluator := e } m).result = (q.resolve ctx n).result) ∧
      (ctx.settings.codeAllowed = true → ∀ e : Evaluator, ctx.evaluator = some e → ∀ q : Query,
        ∃ seen, Command.UpToFailure ctx n q.commands seen ∧
          (q.resolve ctx n).calls = (Command.codes seen).map fun code => ⟨code, ctx.now⟩) ∧
      ∀ source : Text,
        (∀ fault, Token.ofText source = .error fault →
          (ctx.resolveBlock n source).calls = [] ∧ (ctx.runBlock n source).calls = []) ∧
        (∀ tokens, Token.ofText source = .ok tokens →
          Query.DueInTurn ctx n ((Token.phrases tokens).filterMap fun g => (Query.ofTokens g).toOption)
              (ctx.resolveBlock n source).calls ∧
            (ctx.runBlock n source).calls = (ctx.resolveBlock n source).calls) ∧
        (Session.parseBlock ⟨ctx, n⟩ source).1.calls = [] ∧ (Session.parseBlock ⟨ctx, n⟩ source).2 = ⟨ctx, n⟩ := by
  refine ⟨fun hg q => ⟨?_, fun e m => ?_⟩, fun hg e he q => ?_,
    fun source => ⟨fun fault h => ?_, fun tokens h => ?_, ?_⟩⟩
  · obtain ⟨seen, -, hc⟩ := Query.due_resolve ctx n q
    rw [hc, callsOf_closed hg]
  · rw [Query.resolve_closed hg e m n]
  · obtain ⟨seen, hs, hc⟩ := Query.due_resolve ctx n q
    exact ⟨seen, hs, by rw [hc, callsOf_open hg he]⟩
  · rw [calls_runBlock]
    exact ⟨calls_resolveBlock_error h, calls_resolveBlock_error h⟩
  · exact ⟨dueInTurn_resolveBlock h, calls_runBlock ctx n source⟩
  · exact ⟨rfl, rfl⟩

/-- A context in which code is run, and the second call fails. -/
def secondFails : Context :=
  { sevenDays with
    evaluator := some fun earlier _ _ => if earlier = 1 then .error "tired".toList else .ok (.finite 7) }

/-- Three phrases with code, the second of which cannot be read. -/
def fiveCodes : Text :=
  "f\x7b::a::\x7d, f\x7b::b::\x7d, f\x7b::c::\x7d every f\x7b::d::\x7d f daily, f\x7b::e::\x7d".toList

theorem calls_due_fiveCodes :
    (∀ q : Query, (q.resolve { secondFails with settings := ⟨false⟩ } 0).calls = []) ∧
      (∀ q : Query, ∃ seen, Command.UpToFailure secondFails 0 q.commands seen ∧
        (q.resolve secondFails 0).calls = (Command.codes seen).map fun code => ⟨code, secondFails.now⟩) ∧
      ∃ tokens, Token.ofText fiveCodes = .ok tokens ∧
        Query.DueInTurn secondFails 0 ((Token.phrases tokens).filterMap fun g => (Query.ofTokens g).toOption)
          (secondFails.resolveBlock 0 fiveCodes).calls := by
  obtain ⟨tokens, h⟩ := exists_eq_ok (x := Token.ofText fiveCodes) (by decide +kernel)
  refine ⟨fun q => ((calls_due { secondFails with settings := ⟨false⟩ } 0).1 rfl q).1,
    fun q => (calls_due secondFails 0).2.1 rfl _ rfl q, tokens, h, ?_⟩
  exact (((calls_due secondFails 0).2.2 fiveCodes).2.1 tokens h).1

example : (secondFails.resolveBlock 0 fiveCodes).calls.map Call.code = ["a".toList, "b".toList, "e".toList] := by
  decide +kernel

end Context
end Recurrence
