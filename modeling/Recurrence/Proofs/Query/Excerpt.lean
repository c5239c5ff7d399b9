import Recurrence.Block
import Recurrence.Proofs.Query.Sense
import Recurrence.Proofs.Token.Excerpt
import Recurrence.Proofs.Token.Tiling
/-!
# Excerpts of queries — what spans cover

A query covers its tokens and each of its commands covers some of them, which are the tokens of a query of that command
alone (`Query.Derivation.exists_part`).  So the spans are in the order of the text, and what each of them covers reads
back as what it is the span of (`Query.faithful_of_ofTokens`).
-/
namespace Recurrence

/-- The text is read as one query that says the given senses. -/
def Text.ReadsAs (t : Text) (senses : List Rule.Sense) : Prop := ∃ q, Query.ofLine t = .ok q ∧ q.senses = senses

/-- The spans in a query are faithful to the text `t` of its tokens. -/
structure Query.Faithful (t : Text) (tokens : List Token) (q : Query) : Prop where
  /-- The query goes from the start of the first token to the end of the last. -/
  span : ∃ first last, tokens.head? = some first ∧ tokens.getLast? = some last ∧
    q.span = ⟨t, first.span.start, last.span.stop⟩
  /-- Each command has a span of true positions inside that of the query. -/
  inside : ∀ c ∈ q.commands, ∃ i j : Nat, i < j ∧ c.span = .of t i j ∧ q.span.start.index ≤ i ∧
    j ≤ q.span.stop.index
  /-- Each command ends before the later ones start. -/
  ordered : q.commands.Pairwise fun c d => c.span.stop.index ≤ d.span.start.index
  /-- What the query covers reads back as the query. -/
  reads : q.span.covered.ReadsAs q.senses
  /-- What a command covers reads back as that command alone. -/
  command_reads : ∀ c ∈ q.commands, c.span.covered.ReadsAs [c.value.sense]

/-! ## Tokens in order -/

namespace Token

/-- No token is empty, and each ends before the later ones start. -/
structure Ordered (tokens : List Token) : Prop where
  full : ∀ k ∈ tokens, k.span.start.index < k.span.stop.index
  before : tokens.Pairwise fun a b => a.span.stop.index ≤ b.span.start.index

theorem Tiles.ordered_tokens {t : Text} {first last : Nat} {tokens : List Token} (h : Tiles t first last tokens) :
    Ordered tokens where
  full k hk := by
    obtain ⟨i, j, -, hij, -, hs, -⟩ := h.placed k hk
    rw [hs]
    simp only [Span.of, Position.of]
    omega
  before := h.ordered

namespace Ordered

variable {tokens : List Token}

theorem sublist {part : List Token} (h : Ordered tokens) (hs : part.Sublist tokens) : Ordered part :=
  ⟨fun k hk => h.full k (hs.subset hk), h.before.sublist hs⟩

theorem start_head_le (h : Ordered tokens) (hn : tokens ≠ []) {k : Token} (hk : k ∈ tokens) :
    (tokens.head hn).span.start.index ≤ k.span.start.index := by
  cases tokens with
  | nil => cases hk
  | cons a tokens =>
    rcases List.mem_cons.1 hk with rfl | hk
    · exact Int.le_refl _
    · have h1 := h.full a List.mem_cons_self
      have h2 := List.rel_of_pairwise_cons h.before hk
      rw [List.head_cons]
      omega

theorem stop_le_getLast (h : Ordered tokens) (hn : tokens ≠ []) {k : Token} (hk : k ∈ tokens) :
    k.span.stop.index ≤ (tokens.getLast hn).span.stop.index := by
  have h1 := h.full _ (List.getLast_mem hn)
  have h2 := h.before
  rw [← List.dropLast_concat_getLast hn] at hk h2
  rcases List.mem_append.1 hk with hk | hk
  · have := (List.pairwise_append.1 h2).2.2 k hk _ (List.mem_singleton.2 rfl)
    omega
  · exact Int.le_of_eq (by rw [List.mem_singleton.1 hk])

end Ordered

/-- The stretch of some of the tokens of a text lies inside the stretch of all. -/
theorem Tiles.stretch_inside {t : Text} {first last : Nat} {tokens part : List Token} (h : Tiles t first last tokens)
    (hs : part.Sublist tokens) (hp : part ≠ []) (hn : tokens ≠ []) :
    ∃ i j : Nat, i < j ∧ stretch part hp = .of t i j ∧ (stretch tokens hn).start.index ≤ i ∧
      j ≤ (stretch tokens hn).stop.index := by
  have hh := List.head_mem hp
  have hl := List.getLast_mem hp
  obtain ⟨i, j, -, -, -, h1, -⟩ := h.placed _ (hs.subset hh)
  obtain ⟨k, l, -, h2, -, h3, -⟩ := h.placed _ (hs.subset hl)
  have h4 := (h.ordered_tokens.sublist hs).start_head_le hp hl
  have h5 := h.ordered_tokens.start_head_le hn (hs.subset hh)
  have h6 := h.ordered_tokens.stop_le_getLast hn (hs.subset hl)
  rw [h1] at h4 h5
  rw [h3] at h4 h6
  simp only [Span.of, Position.of] at h4 h5 h6
  refine ⟨i, l, by omega, ?_, h5, h6⟩
  rw [stretch, h1, h3, Span.upTo_of]

end Token

/-! ## Commands and their tokens -/

namespace Query.Derivation

open Command.Derivation (moreTokens moreCommands)
open Command (moreTokens_cons)

theorem query_single (d : Command.Derivation) : (plain d []).query = ⟨d.command.span, [d.command]⟩ := by
  simp [query, tokens, commands, moreTokens, moreCommands, Command.Derivation.command]

theorem exists_part_of_mem {more : List (Span × Command.Derivation)} {c : Command} (hc : c ∈ moreCommands more) :
    ∃ before d after, moreTokens more = before ++ (Command.Derivation.tokens d ++ after) ∧ d.command = c := by
  obtain ⟨⟨s, d⟩, hm, rfl⟩ := List.mem_map.1 hc
  obtain ⟨a, b, rfl⟩ := List.append_of_mem hm
  refine ⟨moreTokens a ++ [⟨s, .separator⟩], d, moreTokens b, ?_, rfl⟩
  rw [moreTokens, List.flatMap_append, ← moreTokens, ← moreTokens, moreTokens_cons, List.append_assoc]; rfl

/-- **Each command of a query is the whole of a query of its own tokens.** -/
theorem exists_part (d : Derivation) {c : Command} (hc : c ∈ d.commands) :
    ∃ before e after, d.tokens = before ++ (Derivation.tokens e ++ after) ∧ e.query = ⟨c.span, [c]⟩ := by
  have later (ts : List Token) {more : List (Span × Command.Derivation)} (hc : c ∈ moreCommands more) :
      ∃ before e after, ts ++ moreTokens more = before ++ (Derivation.tokens e ++ after) ∧ e.query = ⟨c.span, [c]⟩ := by
    obtain ⟨before, e, after, ht, rfl⟩ := exists_part_of_mem hc
    refine ⟨ts ++ before, plain e [], after, ?_, query_single e⟩
    rw [ht, tokens, show moreTokens [] = [] from rfl, List.append_nil, List.append_assoc]
  cases d with
  | every m d more =>
    rcases List.mem_cons.1 hc with rfl | hc
    · exact ⟨[⟨m, .keyword .every⟩], plain d [], moreTokens more, by simp [tokens, moreTokens], query_single d⟩
    · exact later (⟨m, .keyword .every⟩ :: d.tokens) hc
  | shorthand s more =>
    rcases List.mem_cons.1 hc with rfl | hc
    · exact ⟨[], shorthand s [], moreTokens more, rfl, rfl⟩
    · exact later [s.map fun s => .keyword (.shorthand s)] hc
  | plain d more =>
    rcases List.mem_cons.1 hc with rfl | hc
    · exact ⟨[], plain d [], moreTokens more, by simp [tokens, moreTokens], query_single d⟩
    · exact later d.tokens hc

/-- Commands stand in the order of their tokens; the first ends with one of the tokens before the others. -/
theorem pairwise_cons : ∀ {more : List (Span × Command.Derivation)} (ts : List Token) {c : Command},
    (∃ k ∈ ts, c.span.stop = k.span.stop) →
    (ts ++ moreTokens more).Pairwise (fun a b => a.span.stop.index ≤ b.span.start.index) →
    (c :: moreCommands more).Pairwise fun c d => c.span.stop.index ≤ d.span.start.index
  | [], _, _, _, _ => List.pairwise_singleton _ _
  | (s, d) :: more, ts, c, ⟨k, hk, hs⟩, h => by
    obtain ⟨-, hm, hx⟩ := List.pairwise_append.1 h
    refine .cons (fun e he => ?_) ?_
    · obtain ⟨m, hmem, rfl⟩ := List.mem_map.1 he
      rw [hs]
      refine hx k hk (m.2.tokens.head m.2.tokens_ne_nil) (List.mem_flatMap.2 ⟨m, hmem, ?_⟩)
      exact List.mem_cons_of_mem _ (List.head_mem _)
    · rw [moreTokens_cons] at hm
      exact pairwise_cons d.tokens ⟨_, List.getLast_mem d.tokens_ne_nil, rfl⟩ hm.of_cons

theorem pairwise_commands (d : Derivation) (h : Token.Ordered d.tokens) :
    d.commands.Pairwise fun c e => c.span.stop.index ≤ e.span.start.index := by
  cases d with
  | every m d more =>
    exact pairwise_cons (⟨m, .keyword .every⟩ :: d.tokens)
      ⟨_, List.mem_cons_of_mem _ (List.getLast_mem d.tokens_ne_nil), rfl⟩ h.before
  | shorthand s more =>
    exact pairwise_cons [s.map fun s => .keyword (.shorthand s)] ⟨_, List.mem_singleton.2 rfl, rfl⟩ h.before
  | plain d more => exact pairwise_cons d.tokens ⟨_, List.getLast_mem d.tokens_ne_nil, rfl⟩ h.before

/-- What a query in the middle of a text covers reads back as the query. -/
theorem reads_of_part {source : Text} (before after : List Token) {e : Derivation}
    (h : Token.ofText source = .ok (before ++ (e.tokens ++ after))) :
    e.query.span.covered.ReadsAs e.query.senses := by
  obtain ⟨tokens, ht, hk⟩ := Token.exists_ofText_stretch e.tokens_ne_nil h
  obtain ⟨q, hq, hs⟩ := exists_ofTokens_of_kinds (ofTokens_derived e) hk
  refine ⟨q, ?_, hs⟩
  rw [ofLine, query, ht]
  exact hq

end Query.Derivation

/-- **The spans in a query are faithful to its text**, and their stretches read back. -/
theorem Query.faithful_of_ofTokens {source : Text} {tokens : List Token} {q : Query}
    (ht : Token.ofText source = .ok tokens) (hq : ofTokens tokens = .ok q) :
    q.Faithful source.withoutComments tokens := by
  obtain ⟨d, rfl, rfl⟩ := exists_derivation_of_ofTokens hq
  have htiles := Token.tiles_of_ofText ht
  refine ⟨?_, fun c hc => ?_, d.pairwise_commands htiles.ordered_tokens, ?_, fun c hc => ?_⟩
  · refine ⟨_, _, List.head?_eq_some_head d.tokens_ne_nil, List.getLast?_eq_some_getLast d.tokens_ne_nil, ?_⟩
    obtain ⟨i, j, -, -, -, hs, -⟩ := htiles.placed _ (List.head_mem d.tokens_ne_nil)
    rw [Derivation.query, Token.stretch, Span.upTo, hs]; rfl
  · obtain ⟨before, e, after, hd, he⟩ := d.exists_part hc
    have hsub : e.tokens.Sublist d.tokens := by
      rw [hd]
      exact (List.sublist_append_left _ _).trans (List.sublist_append_right _ _)
    have := htiles.stretch_inside hsub e.tokens_ne_nil d.tokens_ne_nil
    rwa [show Token.stretch e.tokens e.tokens_ne_nil = c.span from congrArg Query.span he] at this
  · exact Derivation.reads_of_part [] [] (by rwa [List.nil_append, List.append_nil])
  · obtain ⟨before, e, after, hd, he⟩ := d.exists_part hc
    rw [hd] at ht
    have := Derivation.reads_of_part before after ht
    rwa [he] at this

/-- A line with comments, a shorthand, both cases and code over several lines. -/
def Query.spreadOut : Text :=
  "Weekly, 3 /* or 4 */ DAYS,\n may 2nd // noon\n, f\x7b::a\\::\x7d\n::\x7d".toList

theorem Query.faithful_spreadOut :
    ∃ tokens q, Token.ofText spreadOut = .ok tokens ∧ ofTokens tokens = .ok q ∧
      q.Faithful spreadOut.withoutComments tokens := by
  have h : (ofLine spreadOut).toBool = true := by decide +kernel
  cases ht : Token.ofText spreadOut with
  | error fault => rw [ofLine, ht] at h; cases h
  | ok tokens =>
    rw [ofLine, ht] at h
    cases hq : ofTokens tokens with
    | error fault => simp only [Except.bind, hq] at h; cases h
    | ok q => exact ⟨tokens, q, rfl, hq, faithful_of_ofTokens ht hq⟩

end Recurrence
