import Mathlib.Data.Rat.Floor
import Recurrence.Proofs.Calendar.Later
import Recurrence.Proofs.Query.Outcome
/-!
# Never today — every answer lies in the future

Each command names a day after today, whatever its numbers and keywords are and whatever an evaluator replies
(`Command.today_lt_resolve`).  So do the earliest of the days of a query and the answers to lines and blocks
(`Context.today_lt`).
-/
namespace Recurrence

open Calendar (Refusal)
open Diagnostic (Cause)

namespace Rule

theorem eq_ok_of_blame {α : Type} {span : Span} {bounds : Diagnostic.DayBounds} {x : Except Refusal α} {a : α}
    (h : blame span bounds x = .ok a) : x = .ok a := by
  cases x with
  | error refusal => cases h
  | ok b => exact congrArg _ (Except.ok.inj h)

theorem pos_of_quantity {number : Option (Located Nat)} {n : Nat} (h : quantity number = .ok n) : 0 < n := by
  cases number with
  | none =>
    cases h
    decide
  | some k =>
    rw [quantity] at h
    split at h
    · cases h
    · cases h
      omega

/-- The bounds on a reply are met by no fraction that would be dropped to nothing. -/
theorem today_lt_dayOfReply {today d : Date} {reply : Except Text Reply} (h : dayOfReply today reply = .ok d) :
    today < d := by
  unfold dayOfReply at h
  split at h
  · cases h
  · cases h
  · cases h
  · rename_i days
    split at h
    · cases h
    · rename_i hin
      have hle : ((1 : Int) : Rat) ≤ days := not_lt.1 fun hlt => hin (.inl hlt)
      have hfloor : 1 ≤ days.floor := Rat.le_floor_iff.2 hle
      exact Date.lt_of_plus (eq_ok_of_mapError h) (by omega)

theorem today_lt_codeDay {ctx : Context} {earlier : Nat} {span : Span} {code : Text} {d : Date}
    (h : (codeDay ctx earlier span code).result = .ok d) : ctx.today < d := by
  unfold codeDay at h
  split at h
  · split at h
    · cases h
    · exact today_lt_dayOfReply (eq_ok_of_mapError h)
  · cases h

end Rule

/-- **Every command names a day after today.** -/
theorem Command.today_lt_resolve {ctx : Context} {earlier : Nat} {c : Command} {d : Date}
    (h : (c.resolve ctx earlier).result = .ok d) : ctx.today < d := by
  obtain ⟨span, r⟩ := c
  cases r with
  | relative number unit =>
    obtain ⟨quantity, hq, h⟩ := exists_of_bind_eq_ok h
    obtain ⟨unit, -, h⟩ := exists_of_bind_eq_ok h
    exact Date.lt_of_plus (Rule.eq_ok_of_blame h) (Rule.pos_of_quantity hq)
  | weekday day =>
    obtain ⟨weekday, -, h⟩ := exists_of_bind_eq_ok h
    exact Date.lt_of_nextWeekday (Rule.eq_ok_of_blame h)
  | day day => exact Date.lt_of_nextDay (Rule.eq_ok_of_blame h)
  | monthDay month day =>
    obtain ⟨month, -, h⟩ := exists_of_bind_eq_ok h
    exact Date.lt_of_nextMonthDay (Rule.eq_ok_of_blame h)
  | code code => exact Rule.today_lt_codeDay h

theorem Command.today_lt_resolveAll {ctx : Context} {earlier : Nat} {cs : List Command} {days : List Date}
    (h : (resolveAll ctx earlier cs).result = .ok days) : ∀ d ∈ days, ctx.today < d := by
  induction cs generalizing earlier days with
  | nil =>
    cases h
    simp
  | cons c cs ih =>
    rw [result_resolveAll_cons] at h
    obtain ⟨day, hday, h⟩ := exists_of_bind_eq_ok h
    obtain ⟨others, hothers, h⟩ := exists_of_bind_eq_ok h
    cases h
    intro d hd
    rcases List.mem_cons.1 hd with rfl | hd
    · exact today_lt_resolve hday
    · exact ih hothers d hd

theorem Query.today_lt_resolve {ctx : Context} {earlier : Nat} {q : Query} {d : Date}
    (h : (q.resolve ctx earlier).result = .ok d) : ctx.today < d := by
  obtain ⟨days, hdays, h⟩ := exists_of_bind_eq_ok h
  exact Command.today_lt_resolveAll hdays d (List.min?_mem (eq_some_of_elim h))

/-! ## Lines and blocks -/

theorem Answer.today_lt_ofQueries {ctx : Context} {earlier : Nat} {qs : List (Except Diagnostic Query)} {a : Answer}
    {d : Date} (ha : .ok a ∈ (ofQueries ctx earlier qs).result) (hd : a.date = .ok d) : ctx.today < d := by
  induction qs generalizing earlier with
  | nil => cases ha
  | cons q qs ih =>
    cases q with
    | error fault =>
      rcases List.mem_cons.1 ha with ha | ha
      · cases ha
      · exact ih ha
    | ok q =>
      rcases List.mem_cons.1 ha with ha | ha
      · cases ha
        exact Query.today_lt_resolve hd
      · exact ih ha

namespace Context

theorem today_lt_resolveBlock {ctx : Context} {earlier : Nat} {source : Text}
    {answers : List (Except Diagnostic Answer)} (h : (ctx.resolveBlock earlier source).result = .ok answers)
    {a : Answer} (ha : .ok a ∈ answers) {d : Date} (hd : a.date = .ok d) : ctx.today < d := by
  rw [resolveBlock] at h
  cases hq : Query.ofBlock source with
  | error fault => rw [hq] at h; cases h
  | ok qs =>
    rw [hq] at h
    cases h
    exact Answer.today_lt_ofQueries ha hd

/-- **No answer is today or earlier**: not to a query, be it read or built by hand, nor to a line or in a block. -/
theorem today_lt (ctx : Context) (earlier : Nat) :
    (∀ (q : Query) (d : Date), (q.resolve ctx earlier).result = .ok d → ctx.today < d) ∧
      (∀ (source : Text) (d : Date), (ctx.runLine earlier source).result = .ok d → ctx.today < d) ∧
      (∀ (source : Text) (dates : List (Except Diagnostic Date)), (ctx.runBlock earlier source).result = .ok dates →
        ∀ d : Date, .ok d ∈ dates → ctx.today < d) ∧
      ∀ (source : Text) (answers : List (Except Diagnostic Answer)),
        (ctx.resolveBlock earlier source).result = .ok answers →
        ∀ a : Answer, .ok a ∈ answers → ∀ d : Date, a.date = .ok d → ctx.today < d := by
  refine ⟨fun q d => Query.today_lt_resolve, fun source d h => ?_, fun source dates h d hd => ?_,
    fun source answers h a ha d => today_lt_resolveBlock h ha⟩
  · rw [result_runLine] at h
    obtain ⟨q, -, hq⟩ := exists_of_bind_eq_ok h
    exact Query.today_lt_resolve hq
  · obtain ⟨answers, hanswers, h⟩ := exists_of_bind_eq_ok h
    cases h
    obtain ⟨answer, ha, hd⟩ := List.mem_map.1 hd
    obtain ⟨a, rfl, hd⟩ := exists_of_bind_eq_ok hd
    exact today_lt_resolveBlock hanswers ha hd

/-- Days that today would be one of: a Monday, and the first of January. -/
def comingDays : Text := "week, monday, 1st, january 1st, f\x7b::7::\x7d daily".toList

theorem today_lt_comingDays :
    ∃ dates, (sevenDays.runBlock 0 comingDays).result = .ok dates ∧ dates.map Except.toBool = [true, true] ∧
      ∀ d : Date, .ok d ∈ dates → sevenDays.today < d := by
  have hb : (sevenDays.runBlock 0 comingDays).result.map (List.map Except.toBool) = .ok [true, true] := by
    decide +kernel
  cases h : (sevenDays.runBlock 0 comingDays).result with
  | error fault => rw [h] at hb; cases hb
  | ok dates =>
    rw [h] at hb
    exact ⟨dates, rfl, Except.ok.inj hb, (today_lt sevenDays 0).2.2.1 comingDays dates h⟩

end Context
end Recurrence
