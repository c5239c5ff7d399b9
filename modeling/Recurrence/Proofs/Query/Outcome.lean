import Recurrence.Block
import Recurrence.Proofs.Except
import Recurrence.Proofs.Query.Sense
/-!
# Outcomes — what a phrase comes to, wherever it stands

The outcome of a phrase is the day that it names, or the kind and the details of its fault, but not the place of that.
An evaluator that keeps no state replies by code and moment alone.  With such a one, or with none, phrases that say the
same have the same outcome (`Query.outcome_dayOf`), however often the evaluator has been called before, and a block
comes to what its phrases come to, each on its own (`Context.runBlock_eq_dayOf`).
-/
namespace Recurrence

open Diagnostic (Cause)

/-- A day, or the kind and the details of a fault. -/
abbrev Outcome := Except (Diagnostic.Kind × Text) Date

/-- An answer without the place of its fault. -/
def Outcome.of (answer : Except Diagnostic Date) : Outcome := answer.mapError fun d => (d.kind, d.details)

/-- The evaluator replies to code and moment alone, however often it has been called. -/
def Evaluator.Stateless (e : Evaluator) : Prop := ∀ m n code now, e m code now = e n code now

/-- The evaluator of the context, if there is one, keeps no state. -/
def Context.Stateless (ctx : Context) : Prop := ∀ e ∈ ctx.evaluator, e.Stateless

namespace Context

/-- A context in which code is run, and names the day a week later. -/
def sevenDays : Context := ⟨.midnight ⟨2024, 1, 1, by decide⟩, ⟨true⟩, some fun _ _ _ => .ok (.finite 7)⟩

theorem stateless_sevenDays : sevenDays.Stateless := by
  rintro _ ⟨⟩ m n code now
  rfl

end Context

namespace Diagnostic

/-- A result, or the cause of its fault, wherever that lies. -/
def causes {α : Type} (x : Except Diagnostic α) : Except Cause α := x.mapError cause

theorem causes_map {α β : Type} (f : α → β) (x : Except Diagnostic α) : causes (x.map f) = (causes x).map f := by
  cases x <;> rfl

theorem causes_bind {α β : Type} {x y : Except Diagnostic α} {f g : α → Except Diagnostic β} (h : causes x = causes y)
    (hf : ∀ a, causes (f a) = causes (g a)) : causes (x >>= f) = causes (y >>= g) := by
  cases x with
  | error d =>
    cases y with
    | error e => exact congrArg Except.error (Except.error.inj h)
    | ok a => cases h
  | ok a =>
    cases y with
    | error e => cases h
    | ok b =>
      obtain rfl : a = b := Except.ok.inj h
      exact hf a

end Diagnostic

open Diagnostic (causes causes_map causes_bind)

theorem Outcome.of_congr {x y : Except Diagnostic Date} (h : causes x = causes y) : Outcome.of x = Outcome.of y := by
  have told (x : Except Diagnostic Date) : Outcome.of x = (causes x).mapError fun c => (c.kind, c.details) := by
    cases x <;> rfl
  rw [told, told, h]

namespace Rule

theorem causes_quantity : ∀ {m n : Option (Located Nat)}, m.map Located.value = n.map Located.value →
    causes (quantity m) = causes (quantity n)
  | none, none, _ => rfl
  | some m, some n, h => by
    have hv : m.value = n.value := Option.some.inj h
    rw [quantity, quantity, hv]
    split <;> rfl

theorem causes_named {α : Type} (meaning : Keyword → Option α) (cause : Keyword → Cause) {j k : Located Keyword}
    (h : j.value = k.value) : causes (named meaning cause j) = causes (named meaning cause k) := by
  rw [named, named, h]
  cases meaning k.value <;> rfl

theorem causes_blame {α : Type} (s s' : Span) (bounds : Diagnostic.DayBounds) (x : Except Calendar.Refusal α) :
    causes (blame s bounds x) = causes (blame s' bounds x) := by
  cases x <;> rfl

theorem causes_codeDay {ctx : Context} (hs : ctx.Stateless) (m n : Nat) (s s' : Span) (code : Text) :
    causes (codeDay ctx m s code).result = causes (codeDay ctx n s' code).result := by
  unfold codeDay
  split
  · split
    · rfl
    · rename_i e he
      rw [hs e he m n]
      show causes (Except.mapError _ _) = causes (Except.mapError _ _)
      cases dayOfReply ctx.today (e n code ctx.now) <;> rfl
  · rfl

end Rule

/-- A command names a day, or fails for a cause, by its sense. -/
theorem Command.causes_resolve {ctx : Context} (hs : ctx.Stateless) {c d : Command} (h : c.value.sense = d.value.sense)
    (m n : Nat) : causes (c.resolve ctx m).result = causes (d.resolve ctx n).result := by
  obtain ⟨s, r⟩ := c
  obtain ⟨s', r'⟩ := d
  cases r with
  | relative number unit =>
    cases r' with
    | relative number' unit' =>
      obtain ⟨hn, hu⟩ := Rule.Sense.relative.inj h
      simp only [resolve, Traced.silent]
      refine causes_bind (Rule.causes_quantity hn) fun quantity => ?_
      refine causes_bind (Rule.causes_named _ _ hu) fun unit => ?_
      exact Rule.causes_blame _ _ _ _
    | _ => cases h
  | weekday d =>
    cases r' with
    | weekday d' =>
      simp only [resolve, Traced.silent]
      refine causes_bind (Rule.causes_named _ _ (Rule.Sense.weekday.inj h)) fun weekday => ?_
      exact Rule.causes_blame _ _ _ _
    | _ => cases h
  | day k =>
    cases r' with
    | day k' =>
      have hk : k.value = k'.value := Rule.Sense.day.inj h
      simp only [resolve, Traced.silent, hk]
      exact Rule.causes_blame _ _ _ _
    | _ => cases h
  | monthDay k j =>
    cases r' with
    | monthDay k' j' =>
      obtain ⟨hk, hj⟩ := Rule.Sense.monthDay.inj h
      simp only [resolve, Traced.silent, hj]
      refine causes_bind (Rule.causes_named _ _ hk) fun month => ?_
      exact Rule.causes_blame _ _ _ _
    | _ => cases h
  | code code =>
    cases r' with
    | code code' =>
      obtain rfl : code = code' := Rule.Sense.code.inj h
      exact Rule.causes_codeDay hs m n s s' code
    | _ => cases h

theorem Command.result_resolveAll_cons (ctx : Context) (n : Nat) (c : Command) (cs : List Command) :
    (resolveAll ctx n (c :: cs)).result =
      (c.resolve ctx n).result >>= fun day =>
        (resolveAll ctx (n + (c.resolve ctx n).calls.length) cs).result.map (day :: ·) := by
  cases h : (c.resolve ctx n).result with
  | error fault => rw [resolveAll_error h]; rfl
  | ok day => rw [resolveAll_ok h]; rfl

/-- Commands that come to the same in two contexts, whatever has been called before, come to the same together. -/
theorem Command.resolveAll_congr {ctx ctx' : Context} {cs : List Command}
    (h : ∀ c ∈ cs, ∀ m n, c.resolve ctx m = c.resolve ctx' n) (m n : Nat) :
    resolveAll ctx m cs = resolveAll ctx' n cs := by
  induction cs generalizing m n with
  | nil => rfl
  | cons c cs ih =>
    have hc := h c List.mem_cons_self m n
    have htail := ih fun b hb => h b (List.mem_cons_of_mem c hb)
    cases hr : (c.resolve ctx' n).result with
    | error fault => rw [resolveAll_error hr, resolveAll_error (by rw [hc, hr]), hc]
    | ok day => rw [resolveAll_ok hr, resolveAll_ok (by rw [hc, hr]), hc, htail]

theorem Command.causes_resolveAll {ctx : Context} (hs : ctx.Stateless) {cs ds : List Command}
    (h : cs.map (fun c => c.value.sense) = ds.map fun c => c.value.sense) (m n : Nat) :
    causes (resolveAll ctx m cs).result = causes (resolveAll ctx n ds).result := by
  induction cs generalizing ds m n with
  | nil =>
    obtain rfl := List.map_eq_nil_iff.1 h.symm
    rfl
  | cons c cs ih =>
    obtain ⟨d, ds, rfl, hd, hds⟩ := List.map_eq_cons_iff.1 h.symm
    rw [result_resolveAll_cons, result_resolveAll_cons]
    refine causes_bind (causes_resolve hs hd.symm m n) fun day => ?_
    rw [causes_map, causes_map, ih hds.symm]

/-- **What a query comes to is decided by what it says.** -/
theorem Query.causes_resolve {ctx : Context} (hs : ctx.Stateless) {q r : Query} (h : q.senses = r.senses) (m n : Nat) :
    causes (q.resolve ctx m).result = causes (r.resolve ctx n).result := by
  refine causes_bind (Command.causes_resolveAll hs h m n) fun days => ?_
  rw [earliest, earliest]
  cases days.min? <;> rfl

namespace Query

/-- The day that a phrase names, once it has been read. -/
def dayOf (ctx : Context) (earlier : Nat) (x : Except Diagnostic Query) : Except Diagnostic Date :=
  x.bind fun q => (q.resolve ctx earlier).result

theorem outcome_dayOf {ctx : Context} (hs : ctx.Stateless) {x y : Except Diagnostic Query} (h : sensed x = sensed y)
    (m n : Nat) : Outcome.of (dayOf ctx m x) = Outcome.of (dayOf ctx n y) := by
  refine Outcome.of_congr ?_
  cases x with
  | error d =>
    cases y with
    | error e => exact congrArg Except.error (Except.error.inj h)
    | ok r => cases h
  | ok q =>
    cases y with
    | error e => cases h
    | ok r => exact causes_resolve hs (Except.ok.inj h) m n

end Query

theorem Context.result_runLine (ctx : Context) (n : Nat) (source : Text) :
    (ctx.runLine n source).result = Query.dayOf ctx n (Query.ofLine source) := by
  rw [runLine]
  cases Query.ofLine source <;> rfl

theorem Context.result_runBlock (ctx : Context) (n : Nat) (source : Text) :
    (ctx.runBlock n source).result = (Token.ofText source).map fun tokens =>
      (Answer.ofQueries ctx n ((Token.phrases tokens).map Query.ofTokens)).result.map Answer.dateOf := by
  rw [runBlock, resolveBlock, Query.ofBlock]
  cases Token.ofText source <;> rfl

/-! ## Contexts without state -/

section Stateless

variable {ctx : Context}

theorem Rule.codeDay_stateless (hs : ctx.Stateless) (m n : Nat) (span : Span) (code : Text) :
    codeDay ctx m span code = codeDay ctx n span code := by
  unfold codeDay
  split
  · split
    · rfl
    · rename_i e he
      rw [hs e he m n]
  · rfl

theorem Command.resolve_stateless (hs : ctx.Stateless) (c : Command) (m n : Nat) :
    c.resolve ctx m = c.resolve ctx n := by
  obtain ⟨span, r⟩ := c
  cases r with
  | code code => exact Rule.codeDay_stateless hs m n span code
  | _ => rfl

theorem Query.resolve_stateless (hs : ctx.Stateless) (m n : Nat) (q : Query) : q.resolve ctx m = q.resolve ctx n := by
  unfold resolve
  rw [Command.resolveAll_congr fun c _ => c.resolve_stateless hs]

theorem Query.dayOf_stateless (hs : ctx.Stateless) (m n : Nat) (x : Except Diagnostic Query) :
    dayOf ctx m x = dayOf ctx n x := by
  cases x with
  | error fault => rfl
  | ok q => exact congrArg Traced.result (q.resolve_stateless hs m n)

/-- A query with the day it names. -/
def Answer.toQuery (ctx : Context) (n : Nat) (x : Except Diagnostic Query) : Except Diagnostic Answer :=
  x.map fun q => ⟨q, (q.resolve ctx n).result⟩

theorem Answer.dateOf_toQuery (ctx : Context) (n : Nat) (x : Except Diagnostic Query) :
    dateOf (toQuery ctx n x) = Query.dayOf ctx n x := by
  cases x <;> rfl

/-- Without state, queries are answered each on its own. -/
theorem Answer.result_ofQueries (hs : ctx.Stateless) (m n : Nat)
    (qs : List (Except Diagnostic Query)) : (ofQueries ctx n qs).result = qs.map (toQuery ctx m) := by
  induction qs generalizing n with
  | nil => rfl
  | cons x qs ih =>
    cases x with
    | error fault =>
      show .error fault :: (ofQueries ctx n qs).result = .error fault :: qs.map (toQuery ctx m)
      rw [ih]
    | ok q =>
      show .ok ⟨q, (q.resolve ctx n).result⟩ :: (ofQueries ctx (n + (q.resolve ctx n).calls.length) qs).result =
        .ok ⟨q, (q.resolve ctx m).result⟩ :: qs.map (toQuery ctx m)
      rw [ih, q.resolve_stateless hs n m]

/-- Without state, a block comes to what its phrases come to, each on its own. -/
theorem Context.runBlock_eq_dayOf (hs : ctx.Stateless) {source : Text} {qs : List (Except Diagnostic Query)}
    (h : Query.ofBlock source = .ok qs) (m n : Nat) :
    (ctx.runBlock n source).result = .ok (qs.map (Query.dayOf ctx m)) := by
  rw [runBlock, resolveBlock, h]
  show Except.ok ((Answer.ofQueries ctx n qs).result.map Answer.dateOf) = _
  rw [Answer.result_ofQueries hs m n, List.map_map]
  simp only [Function.comp_def, Answer.dateOf_toQuery]

end Stateless

end Recurrence
