import Recurrence.Proofs.Block.Phrase
/-!
# Lines and blocks — one text run both ways

A text whose words are not all tokens has the same fault as a line and as a block.  A text of one phrase is answered as
a block just as it is as a line, in every part of the answer.  A line of two phrases or more is always malformed, since
no phrase goes on past a token that opens one (`Context.line_agrees_with_block`).
-/
namespace Recurrence

variable {ctx : Context}

/-! ## One phrase or more -/

theorem Query.malformed_of_ofTokens {ts : List Token} {fault : Diagnostic} (h : ofTokens ts = .error fault) :
    fault.kind = .malformed := by
  have stops (stop : Stop) (us : List Token) : (stop.diagnostic us).kind = .malformed := by
    rw [Diagnostic.kind, stop.cause_diagnostic]
    cases stop <;> rfl
  cases ts with
  | nil => cases h; rfl
  | cons t rest =>
    rw [ofTokens] at h
    cases hp : Command.readPhrase t rest with
    | ok commands => rw [hp] at h; cases h
    | error stop => rw [hp] at h; cases h; exact stops stop _

/-- **Tokens of two phrases or more are not read as a query**: the second opening stands in no derivation. -/
theorem Query.exists_fault_of_phrases {tokens : List Token} (h : 2 ≤ (Token.phrases tokens).length) :
    ∃ fault, ofTokens tokens = .error fault ∧ fault.kind = .malformed := by
  have hp := Token.phrased_phrases tokens
  cases hq : ofTokens tokens with
  | error fault => exact ⟨fault, rfl, malformed_of_ofTokens hq⟩
  | ok q =>
    obtain ⟨d, rfl, -⟩ := exists_derivation_of_ofTokens hq
    match hg : Token.phrases d.tokens, h with
    | a :: b :: more, _ =>
      rw [hg] at hp
      have ha := hp.ne_nil a List.mem_cons_self
      have hb := hp.ne_nil b (List.mem_cons_of_mem a List.mem_cons_self)
      obtain ⟨t, rest, rfl⟩ := List.exists_cons_of_ne_nil hb
      have hopens := hp.opens (t :: rest) List.mem_cons_self t rfl
      have htail : t ∈ d.tokens.tail := by
        rw [← hp.flatten, List.flatten_cons, List.tail_append_of_ne_nil ha]
        exact List.mem_append_right _ (by simp)
      rw [d.opensPhrase_tail t htail] at hopens
      cases hopens

theorem Answer.dates_singleton (ctx : Context) (n : Nat) (x : Except Diagnostic Query) :
    (ofQueries ctx n [x]).result.map dateOf = [Query.dayOf ctx n x] := by cases x <;> rfl

namespace Context

/-- **A text comes to the same as a line and as a block**, as far as it can: a block fails only where its words are not
all tokens, a text of one phrase has that answer for its only one, and no text of more is a line. -/
theorem line_agrees_with_block (hs : ctx.Stateless) (m n : Nat) (source : Text) :
    (∀ fault, (ctx.runBlock m source).result = .error fault ↔ Token.ofText source = .error fault) ∧
      (∀ fault, Token.ofText source = .error fault → (ctx.runLine n source).result = .error fault) ∧
      ∀ tokens, Token.ofText source = .ok tokens →
        (tokens = [] → (ctx.runBlock m source).result = .ok [] ∧
          ∃ fault, (ctx.runLine n source).result = .error fault ∧ fault.kind = .malformed) ∧
        ((Token.phrases tokens).length = 1 →
          (ctx.runBlock m source).result = .ok [(ctx.runLine n source).result]) ∧
        (2 ≤ (Token.phrases tokens).length →
          ∃ fault, (ctx.runLine n source).result = .error fault ∧ fault.kind = .malformed) := by
  refine ⟨fun fault => ?_, fun fault ht => ?_, fun tokens ht => ⟨?_, fun hone => ?_, fun htwo => ?_⟩⟩
  · rw [result_runBlock]
    cases Token.ofText source with
    | error e => exact Iff.of_eq (by simp [Except.map])
    | ok tokens => simp [Except.map]
  · rw [result_runLine, Query.ofLine, ht]; rfl
  · rintro rfl
    rw [result_runBlock, result_runLine, Query.ofLine, ht]
    exact ⟨rfl, _, rfl, rfl⟩
  · obtain ⟨g, hg⟩ := List.length_eq_one_iff.1 hone
    obtain rfl : g = tokens := by
      rw [← (Token.phrased_phrases tokens).flatten, hg, List.flatten_singleton]
    rw [result_runBlock, result_runLine, Query.ofLine, ht, Except.map, hg, List.map_singleton, Answer.dates_singleton,
      Query.dayOf_stateless hs m n]
    rfl
  · obtain ⟨fault, hfault, hkind⟩ := Query.exists_fault_of_phrases htwo
    refine ⟨fault, ?_, hkind⟩
    rw [result_runLine, Query.ofLine, ht]
    show Query.dayOf ctx n (Query.ofTokens tokens) = _
    rw [hfault]; rfl

/-- A word that spells no token, a note and nothing else, one phrase that fails in its last command, and two phrases. -/
def fourTexts : Text × Text × Text × Text :=
  ("every day @ noon".toList, "# nothing".toList, "weekly, f\x7b::7::\x7d,\n 32nd".toList,
    "every monday every friday".toList)

theorem fourTexts_agree :
    sevenDays.Stateless ∧
      (∃ fault, Token.ofText fourTexts.1 = .error fault ∧ (sevenDays.runBlock 0 fourTexts.1).result = .error fault ∧
        (sevenDays.runLine 0 fourTexts.1).result = .error fault) ∧
      (sevenDays.runBlock 0 fourTexts.2.1).result = .ok [] ∧
      (sevenDays.runBlock 0 fourTexts.2.2.1).result = .ok [(sevenDays.runLine 1 fourTexts.2.2.1).result] ∧
      ∃ fault, (sevenDays.runLine 0 fourTexts.2.2.2).result = .error fault ∧ fault.kind = .malformed := by
  have phrases (source : Text) (k : Nat)
      (h : (Token.ofText source).toOption.map (fun tokens => (Token.phrases tokens).length) = some k) :
      ∃ tokens, Token.ofText source = .ok tokens ∧ (Token.phrases tokens).length = k := by
    cases ht : Token.ofText source with
    | error fault => rw [ht] at h; cases h
    | ok tokens => rw [ht] at h; exact ⟨tokens, rfl, Option.some.inj h⟩
  have agree := line_agrees_with_block stateless_sevenDays
  refine ⟨stateless_sevenDays, ?_, ?_, ?_, ?_⟩
  · have hspoiled : (Token.ofText fourTexts.1).toBool = false := by decide +kernel
    cases ht : Token.ofText fourTexts.1 with
    | ok tokens => rw [ht] at hspoiled; cases hspoiled
    | error fault => exact ⟨fault, rfl, ((agree 0 0 fourTexts.1).1 fault).2 ht, (agree 0 0 fourTexts.1).2.1 fault ht⟩
  · have hnone : (Token.ofText fourTexts.2.1).toOption = some [] := by decide +kernel
    cases ht : Token.ofText fourTexts.2.1 with
    | error fault => rw [ht] at hnone; cases hnone
    | ok tokens =>
      rw [ht] at hnone
      exact (((agree 0 0 fourTexts.2.1).2.2 tokens ht).1 (Option.some.inj hnone)).1
  · obtain ⟨tokens, ht, hone⟩ := phrases fourTexts.2.2.1 1 (by decide +kernel)
    exact ((agree 0 1 fourTexts.2.2.1).2.2 tokens ht).2.1 hone
  · obtain ⟨tokens, ht, htwo⟩ := phrases fourTexts.2.2.2 2 (by decide +kernel)
    exact ((agree 0 0 fourTexts.2.2.2).2.2 tokens ht).2.2 (Nat.le_of_eq htwo.symm)

end Context
end Recurrence
