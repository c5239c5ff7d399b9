import Mathlib.Data.List.Forall2
import Mathlib.Data.List.SplitBy
import Recurrence.Proofs.Query.Outcome
import Recurrence.Proofs.Token.Excerpt
import Recurrence.Proofs.Token.Tiling
/-!
# Phrases of a block — each comes to what it comes to alone

A block is cut before every token that opens a phrase, and nowhere else (`Token.phrased_phrases`).  Its answers are
the outcomes of its phrases, one after the other (`Context.outcomes_runBlock`), and the outcome of a phrase is that of a
line that holds its stretch of the text and nothing else (`Context.runBlock_eq_lines`).
-/
namespace Recurrence

/-- The groups are the phrases of the tokens. -/
structure Token.Phrased (tokens : List Token) (groups : List (List Token)) : Prop where
  /-- One after the other, the groups are all tokens. -/
  flatten : groups.flatten = tokens
  ne_nil : ∀ g ∈ groups, g ≠ []
  /-- Every group but the first begins with a token that opens a phrase. -/
  opens : ∀ g ∈ groups.tail, ∀ t ∈ g.head?, t.value.opensPhrase = true
  /-- No token in a group opens a phrase, except for its first. -/
  closed : ∀ g ∈ groups, ∀ t ∈ g.tail, t.value.opensPhrase = false

namespace Token

theorem forall_tail_of_isChain {α : Type} {p : α → Prop} : ∀ {l : List α}, l.IsChain (fun _ b => p b) →
    ∀ b ∈ l.tail, p b
  | [], _, _, hb => by cases hb
  | [_], _, _, hb => by cases hb
  | _ :: c :: l, h, b, hb => by
    obtain ⟨hc, hl⟩ := List.isChain_cons_cons.1 h
    rcases List.mem_cons.1 hb with rfl | hb
    · exact hc
    · exact forall_tail_of_isChain hl b hb

/-- **Tokens are cut before every token that opens a phrase, and nowhere else.** -/
theorem phrased_phrases (tokens : List Token) : Phrased tokens (phrases tokens) where
  flatten := List.flatten_splitBy _ _
  ne_nil _ := List.ne_nil_of_mem_splitBy
  opens := by
    refine forall_tail_of_isChain ((List.isChain_getLast_head_splitBy _ tokens).imp ?_)
    rintro a b ⟨-, hb, ho⟩ t ht
    rw [List.head?_eq_some_head hb, Option.mem_some_iff] at ht
    rw [← ht]
    simpa using ho
  closed g hg := by
    refine forall_tail_of_isChain ((List.isChain_of_mem_splitBy hg).imp ?_)
    intro _ t ht
    simpa using ht

theorem exists_append_of_mem_phrases {tokens g : List Token} (hg : g ∈ phrases tokens) :
    ∃ before after, tokens = before ++ (g ++ after) := by
  obtain ⟨a, b, hab⟩ := List.append_of_mem hg
  refine ⟨a.flatten, b.flatten, ?_⟩
  rw [← (phrased_phrases tokens).flatten, hab, List.flatten_append, List.flatten_cons]

end Token

/-! ## The answers of a block -/

namespace Context

/-- **A block whose words are all tokens has the outcomes of its phrases**, one after the other. -/
theorem outcomes_runBlock {ctx : Context} (hs : ctx.Stateless) {source : Text} {tokens : List Token}
    (h : Token.ofText source = .ok tokens) (m n : Nat) :
    ∃ dates, (ctx.runBlock m source).result = .ok dates ∧
      dates.map Outcome.of =
        (Token.phrases tokens).map fun g => Outcome.of (Query.dayOf ctx n (Query.ofTokens g)) := by
  have hb : Query.ofBlock source = .ok ((Token.phrases tokens).map Query.ofTokens) := by
    rw [Query.ofBlock, h]; rfl
  refine ⟨_, runBlock_eq_dayOf hs hb n m, ?_⟩
  rw [List.map_map, List.map_map]
  rfl

/-- A phrase comes to what the line of its stretch comes to. -/
theorem outcome_stretch {ctx : Context} (hs : ctx.Stateless) {source : Text} {before g after : List Token} (hg : g ≠ [])
    (h : Token.ofText source = .ok (before ++ (g ++ after))) (m n : Nat) :
    Outcome.of (Query.dayOf ctx m (Query.ofTokens g)) =
      Outcome.of (ctx.runLine n (Token.stretch g hg).covered).result := by
  obtain ⟨tokens, ht, hk⟩ := Token.exists_ofText_stretch hg h
  rw [result_runLine, Query.ofLine, ht]
  exact Query.outcome_dayOf hs (Query.sensed_ofTokens hk.symm) m n

/-- **A block is its phrases, each answered on its own.** -/
theorem runBlock_eq_lines {ctx : Context} (hs : ctx.Stateless) {source : Text} {tokens : List Token}
    (h : Token.ofText source = .ok tokens) (m : Nat) :
    Token.Phrased tokens (Token.phrases tokens) ∧
      ∃ dates, (ctx.runBlock m source).result = .ok dates ∧
        List.Forall₂ (fun g date => ∃ hg : g ≠ [], (Token.stretch g hg).text = source.withoutComments ∧
          ∀ n, Outcome.of date = Outcome.of (ctx.runLine n (Token.stretch g hg).covered).result)
          (Token.phrases tokens) dates := by
  have hp := Token.phrased_phrases tokens
  obtain ⟨dates, hd, ho⟩ := outcomes_runBlock hs h m 0
  have hall : ∀ g ∈ Token.phrases tokens, ∃ hg : g ≠ [], (Token.stretch g hg).text = source.withoutComments ∧
      ∀ n, Outcome.of (Query.dayOf ctx 0 (Query.ofTokens g)) =
        Outcome.of (ctx.runLine n (Token.stretch g hg).covered).result := by
    intro g hm
    have hg := hp.ne_nil g hm
    obtain ⟨before, after, rfl⟩ := Token.exists_append_of_mem_phrases hm
    refine ⟨hg, ?_, outcome_stretch hs hg h 0⟩
    obtain ⟨i, j, -, -, -, hi, -⟩ := (Token.tiles_of_ofText h).placed (g.head hg)
      (List.mem_append_right _ (List.mem_append_left _ (List.head_mem hg)))
    rw [Token.stretch, hi]; rfl
  have heq : List.Forall₂ Eq ((Token.phrases tokens).map fun g => Outcome.of (Query.dayOf ctx 0 (Query.ofTokens g)))
      (dates.map Outcome.of) := by
    rw [List.forall₂_eq_eq_eq, ho]
  rw [List.forall₂_map_left_iff, List.forall₂_map_right_iff] at heq
  refine ⟨hp, dates, hd, ((List.forall₂_and_left _ _).2 ⟨hall, heq⟩).imp ?_⟩
  rintro g date ⟨⟨hg, ht, hl⟩, ho⟩
  exact ⟨hg, ht, fun n => ho.symm.trans (hl n)⟩

/-- Four phrases, the second of which names a day that no month has and the last of which is not finished. -/
def fourPhrases : Text := "day, 2nd every 32nd # of a month\n daily, f\x7b::7::\x7d every".toList

theorem fourPhrases_eq_lines :
    sevenDays.Stateless ∧ ∃ tokens, Token.ofText fourPhrases = .ok tokens ∧
      Token.Phrased tokens (Token.phrases tokens) ∧
        ∃ dates, (sevenDays.runBlock 0 fourPhrases).result = .ok dates ∧
          List.Forall₂ (fun g date => ∃ hg : g ≠ [], (Token.stretch g hg).text = fourPhrases.withoutComments ∧
            ∀ n, Outcome.of date = Outcome.of (sevenDays.runLine n (Token.stretch g hg).covered).result)
            (Token.phrases tokens) dates := by
  obtain ⟨tokens, h⟩ := exists_eq_ok (x := Token.ofText fourPhrases) (by decide +kernel)
  exact ⟨stateless_sevenDays, tokens, h, runBlock_eq_lines stateless_sevenDays h 0⟩

example : (sevenDays.runBlock 0 fourPhrases).result.map (List.map Except.toBool) = .ok [true, false, true, false] := by
  decide +kernel

end Context
end Recurrence
