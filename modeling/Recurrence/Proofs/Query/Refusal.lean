import Recurrence.Proofs.Calendar.Reach
import Recurrence.Proofs.Query.Alternatives
import Recurrence.Proofs.Query.Calls
/-!
# Refusals — why a phrase that has been read names no day

A query that has been read has commands, and every keyword in it is of the kind that its place asks for.  So it never
fails for one of the causes that only a query built by hand can have.  A command without code is refused when it counts
no units, when its day is in no month or never in the month that it names, and when the day that it names lies after the
last of the calendar (`Command.Refused`); and a query without code fails just when one of its commands is refused, as
the first of these is (`Query.fails_iff_refused`).
-/
namespace Recurrence

open Calendar (IsDay dayNumber firstNumber lastNumber mostDays)
open Date (reach)
open Diagnostic (Cause DayBounds)

/-- **Which day a rule without code names**, by its number on a calendar without end: that so many units later, or the
least of its kind after today. -/
inductive Rule.Names (today : Date) : Rule → Int → Prop
  | relative {number : Option (Located Nat)} {s : Span} {w : UnitWord} :
      1 ≤ number.elim 1 Located.value →
        Names today (.relative number ⟨s, w.keyword⟩) (today.shifted (number.elim 1 Located.value) w.unit)
  | weekday {s : Span} {d : Weekday} {n : Int} :
      IsLeast {n | today.number < n ∧ n % 7 = d.index} n → Names today (.weekday ⟨s, .weekday d⟩) n
  | day {k : Located Nat} {n : Int} :
      IsLeast {n | today.number < n ∧ ∃ year month, IsDay year month k.value ∧ dayNumber year month k.value = n} n →
        Names today (.day k) n
  | monthDay {s : Span} {m : Month} {k : Located Nat} {n : Int} :
      IsLeast {n | today.number < n ∧
        ∃ year, IsDay year (m.index + 1) k.value ∧ dayNumber year (m.index + 1) k.value = n} n →
        Names today (.monthDay ⟨s, .month m⟩ k) n

/-- **Why a command without code is refused**, and with which diagnostic. -/
inductive Command.Refused (today : Date) : Command → Diagnostic → Prop
  | zeroQuantity {span : Span} {number : Located Nat} {unit : Located Keyword} :
      number.value = 0 → Refused today ⟨span, .relative (some number) unit⟩ ⟨.zeroQuantity, some number.span⟩
  | noSuchDay {span : Span} {k : Located Nat} :
      k.value < 1 ∨ 31 < k.value → Refused today ⟨span, .day k⟩ ⟨.noSuchDay .anyMonth, some span⟩
  | noSuchMonthDay {span s : Span} {m : Month} {k : Located Nat} :
      k.value < 1 ∨ mostDays (m.index + 1) < k.value →
        Refused today ⟨span, .monthDay ⟨s, .month m⟩ k⟩ ⟨.noSuchDay .namedMonth, some span⟩
  | outOfRange {span : Span} {r : Rule} {n : Int} :
      r.Names today n → lastNumber < n → Refused today ⟨span, r⟩ ⟨.outOfRange, some span⟩

/-- The first of the commands that is refused is refused with the diagnostic. -/
def Command.FirstRefused (today : Date) (cs : List Command) (d : Diagnostic) : Prop :=
  ∃ before c after, cs = before ++ c :: after ∧ (∀ b ∈ before, ∀ e, ¬ b.Refused today e) ∧ c.Refused today d

/-- How the sentences begin for the causes that only a query built by hand can have. -/
def Diagnostic.handBuilt : List Text :=
  ["Unknown unit".toList, "Unknown day of week".toList, "Unknown month".toList, "Invalid month".toList,
    "Empty query".toList]

/-- A phrase that can be read, but names no day; the sentence says nothing that only a query built by hand can need. -/
structure Diagnostic.Reachable (d : Diagnostic) : Prop where
  kind : d.kind = .unresolved
  details : ∀ p ∈ handBuilt, ¬ p <+: d.details

/-! ## What a query that has been read is made of -/

theorem Command.Derivation.proper (d : Derivation) : d.rule.sense.Proper := by
  cases d with
  | counted n u => exact ⟨u.value, rfl⟩
  | single u => exact ⟨u.value, rfl⟩
  | weekday d => exact ⟨d.value, rfl⟩
  | monthOrdinal m n => exact ⟨m.value, rfl⟩
  | _ => trivial

namespace Query.Derivation

/-- Every keyword in a query is of the kind that its place asks for. -/
theorem proper (d : Derivation) {c : Command} (hc : c ∈ d.commands) : c.value.sense.Proper := by
  rcases d.cases_of_mem hc with ⟨e, rfl, -⟩ | ⟨s, -, rfl⟩
  · exact e.proper
  · exact ⟨⟨s.value.unit, false⟩, rfl⟩

end Query.Derivation

/-! ## Refusals of the calendar -/

namespace Rule

variable {t : Text} {span : Span} {bounds : DayBounds} {d : Diagnostic}

theorem blame_reach_eq_error (hspan : span.Placed t) {n : Int} (hn : firstNumber ≤ n) :
    blame span bounds (reach n) = .error d ↔ lastNumber < n ∧ d = ⟨.outOfRange, some span⟩ := by
  rw [blame_eq_error]
  constructor
  · rintro ⟨refusal, hr, rfl⟩
    obtain ⟨rfl, hlast⟩ := (Date.reach_eq_error_iff hn).1 hr
    exact ⟨hlast, hspan.diagnostic_eq _⟩
  · rintro ⟨hlast, rfl⟩
    exact ⟨.outOfRange, (Date.reach_eq_error_iff hn).2 ⟨rfl, hlast⟩, (hspan.diagnostic_eq _).symm⟩

theorem blame_noSuchDay_eq_error (hspan : span.Placed t) :
    blame span bounds (.error .noSuchDay : Except Calendar.Refusal Date) = .error d ↔
      d = ⟨.noSuchDay bounds, some span⟩ := by
  rw [blame, hspan.diagnostic_eq, Except.error.injEq]
  exact eq_comm

end Rule

namespace Rule.Names

variable {today : Date} {r : Rule} {m n : Int}

theorem unique (hm : r.Names today m) (hn : r.Names today n) : m = n := by
  cases hm with
  | @relative number s w _ =>
    -- the words are the same keyword, which `cases` cannot see through `UnitWord.keyword`
    generalize hk : w.keyword = k at hn
    cases hn with
    | @relative _ _ v _ =>
      obtain ⟨hunit, -⟩ : w.unit = v.unit ∧ w.plural = v.plural := by simpa [UnitWord.keyword] using hk
      rw [hunit]
  | weekday hm => cases hn with | weekday hn => exact hm.unique hn
  | day hm => cases hn with | day hn => exact hm.unique hn
  | monthDay hm => cases hn with | monthDay hn => exact hm.unique hn

theorem one_le {number : Option (Located Nat)} {unit : Located Keyword}
    (h : (Rule.relative number unit).Names today n) : 1 ≤ number.elim 1 Located.value := by
  cases h with
  | relative hpos => exact hpos

theorem firstNumber_le (h : r.Names today n) : firstNumber ≤ n := by
  have htoday := today.firstNumber_le
  cases h with
  | relative => exact today.firstNumber_le_shifted _ _
  | weekday h => exact Int.le_trans htoday (Int.le_of_lt h.1.1)
  | day h => exact Int.le_trans htoday (Int.le_of_lt h.1.1)
  | monthDay h => exact Int.le_trans htoday (Int.le_of_lt h.1.1)

end Rule.Names

namespace Command

open Rule (blame_noSuchDay_eq_error blame_reach_eq_error)

variable {ctx : Context} {n : Nat} {t : Text} {span : Span} {d : Diagnostic}

/-- Where the calendar answers with the day that a rule names, and only its end can refuse the command, it fails just
when it is refused. -/
theorem eq_error_iff_of_names {r : Rule} {m : Int} (bounds : DayBounds) {result : Except Diagnostic Date}
    (hspan : span.Placed t) (hnames : r.Names ctx.today m) (hresult : result = Rule.blame span bounds (reach m))
    (honly : ∀ d, Refused ctx.today ⟨span, r⟩ d →
      ∃ k, r.Names ctx.today k ∧ lastNumber < k ∧ d = ⟨.outOfRange, some span⟩) :
    result = .error d ↔ Refused ctx.today ⟨span, r⟩ d := by
  rw [hresult, blame_reach_eq_error hspan hnames.firstNumber_le]
  constructor
  · rintro ⟨hlast, rfl⟩
    exact .outOfRange hnames hlast
  · intro h
    obtain ⟨k, hk, hlast, rfl⟩ := honly d h
    rw [hk.unique hnames] at hlast
    exact ⟨hlast, rfl⟩

theorem relative_eq_error_iff (hspan : span.Placed t) {number : Option (Located Nat)}
    (hnumber : ∀ k ∈ number, k.span.Placed t) (s : Span) (w : UnitWord) :
    (resolve ctx n ⟨span, .relative number ⟨s, w.keyword⟩⟩).result = .error d ↔
      Refused ctx.today ⟨span, .relative number ⟨s, w.keyword⟩⟩ d := by
  cases number with
  | none =>
    refine eq_error_iff_of_names .anyMonth hspan (.relative (Nat.le_refl 1)) ?_ ?_
    · rw [← Date.plus_eq_reach]; rfl
    · intro d h
      cases h with
      | outOfRange hk hlast => exact ⟨_, hk, hlast, rfl⟩
  | some k =>
    have hresult : (resolve ctx n ⟨span, .relative (some k) ⟨s, w.keyword⟩⟩).result =
        Rule.quantity (some k) >>= fun quantity => Rule.blame span .anyMonth (ctx.today.plus quantity w.unit) := rfl
    by_cases hk : k.value < 1
    · rw [hresult, Rule.quantity, if_pos hk, (hnumber k rfl).diagnostic_eq]
      show Except.error _ = _ ↔ _
      rw [Except.error.injEq]
      constructor
      · rintro rfl
        exact .zeroQuantity (by omega)
      · intro h
        cases h with
        | zeroQuantity => rfl
        | outOfRange hm => exact absurd hm.one_le (Nat.not_le.2 hk)
    · refine eq_error_iff_of_names .anyMonth hspan (.relative (Nat.le_of_not_lt hk)) ?_ ?_
      · rw [hresult, Rule.quantity, if_neg hk, ← Date.plus_eq_reach]; rfl
      · intro d h
        cases h with
        | zeroQuantity hzero => exact absurd hzero (by omega)
        | outOfRange hm hlast => exact ⟨_, hm, hlast, rfl⟩

theorem weekday_eq_error_iff (hspan : span.Placed t) (s : Span) (w : Weekday) :
    (resolve ctx n ⟨span, .weekday ⟨s, .weekday w⟩⟩).result = .error d ↔
      Refused ctx.today ⟨span, .weekday ⟨s, .weekday w⟩⟩ d := by
  obtain ⟨m, hleast, hreach⟩ := ctx.today.exists_nextWeekday_eq_reach w
  refine eq_error_iff_of_names .anyMonth hspan (.weekday hleast) ?_ ?_
  · rw [← hreach]; rfl
  · intro d h
    cases h with
    | outOfRange hk hlast => exact ⟨_, hk, hlast, rfl⟩

theorem day_eq_error_iff (hspan : span.Placed t) (k : Located Nat) :
    (resolve ctx n ⟨span, .day k⟩).result = .error d ↔ Refused ctx.today ⟨span, .day k⟩ d := by
  by_cases hk : k.value < 1 ∨ 31 < k.value
  · have hresult : (resolve ctx n ⟨span, .day k⟩).result = Rule.blame span .anyMonth (.error .noSuchDay) := by
      rw [← Date.nextDay_eq_noSuchDay ctx.today hk]; rfl
    rw [hresult, blame_noSuchDay_eq_error hspan]
    constructor
    · rintro rfl
      exact .noSuchDay hk
    · intro h
      cases h with
      | noSuchDay => rfl
      | outOfRange hm =>
        cases hm with
        | day hleast =>
          -- the rule names no day at all, for no month has one of that number
          obtain ⟨-, year, month, hday, -⟩ := hleast.1
          have := hday.2.2.1
          have := hday.le_thirtyOne
          omega
  · have hbounds : 1 ≤ k.value ∧ k.value ≤ 31 := by omega
    obtain ⟨m, hleast, hreach⟩ := ctx.today.exists_nextDay_eq_reach hbounds
    refine eq_error_iff_of_names .anyMonth hspan (.day hleast) ?_ ?_
    · rw [← hreach]; rfl
    · intro d h
      cases h with
      | noSuchDay hbad => exact absurd hbad hk
      | outOfRange hm hlast => exact ⟨_, hm, hlast, rfl⟩

theorem monthDay_eq_error_iff (hspan : span.Placed t) (s : Span) (month : Month) (k : Located Nat) :
    (resolve ctx n ⟨span, .monthDay ⟨s, .month month⟩ k⟩).result = .error d ↔
      Refused ctx.today ⟨span, .monthDay ⟨s, .month month⟩ k⟩ d := by
  have hresult : (resolve ctx n ⟨span, .monthDay ⟨s, .month month⟩ k⟩).result =
      Rule.blame span .namedMonth (ctx.today.nextMonthDay month.index k.value) := rfl
  by_cases hk : k.value < 1 ∨ mostDays (month.index + 1) < k.value
  · rw [hresult, Date.nextMonthDay_eq_noSuchDay ctx.today month.index_lt hk, blame_noSuchDay_eq_error hspan]
    constructor
    · rintro rfl
      exact .noSuchMonthDay hk
    · intro h
      cases h with
      | noSuchMonthDay => rfl
      | outOfRange hm =>
        cases hm with
        | monthDay hleast =>
          obtain ⟨-, year, hday, -⟩ := hleast.1
          have := hday.2.2.1
          have := hday.le_mostDays
          omega
  · have hbounds : 1 ≤ k.value ∧ k.value ≤ mostDays (month.index + 1) := by omega
    obtain ⟨m, hleast, hreach⟩ := ctx.today.exists_nextMonthDay_eq_reach month.index_lt hbounds
    refine eq_error_iff_of_names .namedMonth hspan (.monthDay hleast) (hresult.trans (by rw [hreach])) ?_
    intro d h
    cases h with
    | noSuchMonthDay hbad => exact absurd hbad hk
    | outOfRange hm hlast => exact ⟨_, hm, hlast, rfl⟩

/-- **A command without code fails just when it is refused**, with that diagnostic. -/
theorem resolve_eq_error_iff {c : Command} (hproper : c.value.sense.Proper) (hcode : c.value.code? = none)
    (hplaced : ∀ p ∈ c.visits, p.span.Placed t) :
    (c.resolve ctx n).result = .error d ↔ c.Refused ctx.today d := by
  obtain ⟨span, r⟩ := c
  have hspan : span.Placed t := hplaced ⟨span, .command⟩ (List.mem_append_right _ (List.mem_singleton.2 rfl))
  cases r with
  | relative number unit =>
    obtain ⟨w, hw⟩ := hproper
    obtain ⟨s, _⟩ := unit
    obtain rfl : _ = w.keyword := hw
    refine relative_eq_error_iff hspan (fun k hk => ?_) s w
    exact hplaced ⟨k.span, .number⟩ (by simp [visits, Rule.leaves, Option.mem_def.1 hk])
  | weekday day =>
    obtain ⟨w, hw⟩ := hproper
    obtain ⟨s, _⟩ := day
    obtain rfl : _ = Keyword.weekday w := hw
    exact weekday_eq_error_iff hspan s w
  | day k => exact day_eq_error_iff hspan k
  | monthDay month k =>
    obtain ⟨m, hm⟩ := hproper
    obtain ⟨s, _⟩ := month
    obtain rfl : _ = Keyword.month m := hm
    exact monthDay_eq_error_iff hspan s m k
  | code code => cases hcode

end Command

/-! ## Sentences -/

open Diagnostic (Reachable handBuilt)

/-- A sentence that begins with a known text begins as that text does. -/
theorem Diagnostic.not_prefix_append {p a : Text} (hlength : p.length ≤ a.length) (h : ¬ p <+: a) (b : Text) :
    ¬ p <+: a ++ b := fun hp => h (List.prefix_of_prefix_length_le hp (List.prefix_append a b) hlength)

theorem Diagnostic.reachable_of_cause {cause : Cause} {span : Option Span} (hkind : cause.kind = .unresolved)
    (hdetails : ∀ p ∈ handBuilt, ¬ p <+: cause.details) : Diagnostic.Reachable ⟨cause, span⟩ := ⟨hkind, hdetails⟩

theorem Command.Refused.reachable {today : Date} {c : Command} {d : Diagnostic} (h : c.Refused today d) :
    d.Reachable := by
  cases h <;> exact Diagnostic.reachable_of_cause rfl (by decide +kernel)

theorem Rule.CodeFails.reachable {today : Date} {cause : Cause} (h : CodeFails today cause) (span : Span) :
    (Diagnostic.placed span cause).Reachable := by
  cases h with
  | failed message =>
    refine Diagnostic.reachable_of_cause rfl fun p hp => ?_
    have hlength : ∀ p ∈ handBuilt, p.length ≤ "Error while executing code: ".toList.length := by decide +kernel
    have hdiffer : ∀ p ∈ handBuilt, ¬ p <+: "Error while executing code: ".toList := by decide +kernel
    exact Diagnostic.not_prefix_append (hlength p hp) (hdiffer p hp) message
  | @refused days refusal hr =>
    rw [Date.plus_eq_reach, Date.reach_eq_error_iff (today.firstNumber_le_shifted days .day)] at hr
    rw [hr.1]
    exact Diagnostic.reachable_of_cause rfl (by decide +kernel)
  | _ => exact Diagnostic.reachable_of_cause rfl (by decide +kernel)

theorem Command.reachable_of_resolve {ctx : Context} {n : Nat} {t : Text} {c : Command} {d : Diagnostic}
    (hproper : c.value.sense.Proper) (hplaced : ∀ p ∈ c.visits, p.span.Placed t)
    (h : (c.resolve ctx n).result = .error d) : d.Reachable := by
  by_cases hcode : c.value.code? = none
  · exact ((resolve_eq_error_iff hproper hcode hplaced).1 h).reachable
  · obtain ⟨span, r⟩ := c
    cases r with
    | code code =>
      obtain ⟨cause, hcause, rfl⟩ := Rule.codeFails_of_codeDay h
      exact hcause.reachable span
    | _ => exact absurd rfl hcode

namespace Query

variable {ctx : Context} {n : Nat} {d : Diagnostic}

/-- **A query that has been read fails for no cause that only a query built by hand can have**, and one without code
fails just when one of its commands is refused, as the first of these is. -/
theorem fails_iff_refused {source : Text} {tokens : List Token} {q : Query} (ht : Token.ofText source = .ok tokens)
    (hq : ofTokens tokens = .ok q) (ctx : Context) (n : Nat) :
    (∀ d, (q.resolve ctx n).result = .error d → d.Reachable) ∧
      (Command.codes q.commands = [] → ∀ d,
        (q.resolve ctx n).result = .error d ↔ Command.FirstRefused ctx.today q.commands d) := by
  have hplaced := placed_visits (Token.along_of_ofText ht) hq
  obtain ⟨e, rfl, rfl⟩ := exists_derivation_of_ofTokens hq
  have hvisits : ∀ c ∈ e.commands, ∀ p ∈ c.visits, p.span.Placed source.withoutComments := fun c hc p hp =>
    hplaced p (List.mem_append_left _ (List.mem_flatMap.2 ⟨c, hc, hp⟩))
  refine ⟨fun d h => ?_, fun hcodes d => ?_⟩
  · obtain ⟨c, hc, m, hfails⟩ := Command.exists_of_resolveAll_error ((resolve_eq_error_iff e.commands_ne_nil).1 h)
    exact Command.reachable_of_resolve (e.proper hc) (hvisits c hc) hfails
  · rw [resolve_eq_error_iff e.commands_ne_nil]
    refine Command.resolveAll_eq_error_iff fun c hc m d => ?_
    exact Command.resolve_eq_error_iff (e.proper hc) (List.filterMap_eq_nil_iff.1 hcodes c hc) (hvisits c hc)

/-- Of five commands the second, third and fourth are refused, each for another reason. -/
def threeRefused : Text := "monday, february 30th, 0 days, 32nd, may 1st".toList

theorem fails_iff_refused_threeRefused :
    ∃ tokens q, Token.ofText threeRefused = .ok tokens ∧ ofTokens tokens = .ok q ∧ Command.codes q.commands = [] ∧
      ∃ d, (q.resolve Context.sevenDays 0).result = .error d ∧ d.Reachable ∧
        Command.FirstRefused Context.sevenDays.today q.commands d := by
  have hread : (ofLine threeRefused).toOption.map (fun q => Command.codes q.commands) = some [] := by decide +kernel
  have hfails : (Context.sevenDays.runLine 0 threeRefused).result.toBool = false := by decide +kernel
  cases ht : Token.ofText threeRefused with
  | error fault => rw [ofLine, ht] at hread; cases hread
  | ok tokens =>
    rw [Context.result_runLine, ofLine, ht] at hfails
    rw [ofLine, ht] at hread
    cases hq : ofTokens tokens with
    | error fault => simp only [Except.bind, hq] at hread; cases hread
    | ok q =>
      simp only [Except.bind, hq, dayOf] at hread hfails
      have hcodes : Command.codes q.commands = [] := Option.some.inj hread
      obtain ⟨hreachable, hrefused⟩ := fails_iff_refused ht hq Context.sevenDays 0
      cases hd : (q.resolve Context.sevenDays 0).result with
      | ok day => rw [hd] at hfails; cases hfails
      | error d => exact ⟨tokens, q, rfl, hq, hcodes, d, hd, hreachable d hd, (hrefused hcodes d).1 hd⟩

example : (Context.sevenDays.runLine 0 threeRefused).result.mapError Diagnostic.cause =
    .error (.noSuchDay .namedMonth) := by
  decide +kernel

end Query
end Recurrence
