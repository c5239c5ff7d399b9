import Recurrence.Proofs.Block.Phrase
/-!
# Texts one after the other — the answers of two blocks

Two texts with a newline between have the tokens of the one and then those of the other, unless the first ends in a
block comment (`Token.exists_ofText_append`).  Where the second begins a phrase of its own, the block of both has the
outcomes of the first and then those of the second (`Context.runBlock_append`).
-/
namespace Recurrence

namespace Layout

/-- The blank that marks the end of a text is no part of a word. -/
theorem exists_gap_concat {l : Layout} {g t : Text} (hl : l.Sound g) (ht : t ++ [' '] = l.text ++ g) :
    ∃ g', g = g' ++ [' '] ∧ t = l.text ++ g' := by
  rcases List.eq_nil_or_concat' g with rfl | ⟨g', c, rfl⟩
  · rcases List.eq_nil_or_concat' l with rfl | ⟨l', p, rfl⟩
    · simp at ht
    · obtain ⟨-, -, hw, -⟩ := sound_append.1 hl
      have hlast : p.word.getLast? = some ' ' := by
        obtain ⟨c, v, hv, -⟩ := hw.exists_cons
        have := congrArg List.getLast? ht
        simpa [hv] using this.symm
      exact absurd (hw.getLast_not_blank ' ' hlast) (by decide)
  · rw [← List.append_assoc] at ht
    obtain ⟨rfl, hc⟩ := List.append_inj' ht rfl
    obtain rfl := List.singleton_inj.1 hc
    exact ⟨g', rfl, rfl⟩

end Layout

namespace Token

theorem exists_scanAll_append {l m : Layout} {g g' : Text} (hl : l.Sound (g ++ (m.text ++ g')))
    (hg : ∀ c ∈ g, Text.isBlank c = true) (hm : m.Sound g') (hg' : ∀ c ∈ g', Text.isBlank c = true) :
    ∃ tokens, scanAll (l.text ++ (g ++ (m.text ++ g'))) = .ok tokens ∧
      tokens.map Located.value = l.kinds ++ m.kinds := by
  generalize ht : l.text ++ (g ++ (m.text ++ g')) = t
  have hd1 : t.drop (0 + l.text.length) = g ++ (m.text ++ g') := by rw [← ht, Nat.zero_add, List.drop_left]
  have hd2 := Text.drop_add hd1
  have hd3 := Text.drop_add hd2
  have hs := scan_layout t l hl (i := 0) ht.symm
  rw [scan_gap t g hg hd1, scan_layout t m hm hd2, scan_blanks t hg' hd3, Position.of_zero, ht] at hs
  refine ⟨_, hs, ?_⟩
  show (l.tokens t 0 ++ (m.tokens t _ ++ [])).map Located.value = _
  rw [List.append_nil, List.map_append, Layout.tokens_value, Layout.tokens_value]

/-- **Two texts with a newline between have the tokens of the one and then those of the other.** -/
theorem exists_ofText_append {a b : Text} {ts us : List Token} (ha : ofText a = .ok ts) (hb : ofText b = .ok us)
    (hc : a.endsInBlockComment = false) :
    ∃ tokens, ofText (a ++ '\n' :: b) = .ok tokens ∧ tokens.map Located.value = (ts ++ us).map Located.value := by
  obtain ⟨l, g, hta, hg, hl, rfl⟩ := exists_layout_of_ofText ha
  obtain ⟨m, g', htb, hg', hm, rfl⟩ := exists_layout_of_ofText hb
  obtain ⟨g, rfl, hcut⟩ := Layout.exists_gap_concat hl hta
  -- in place of the mark at its end, the first text is now followed by the newline
  have hseam : Layout.Sound l (g ++ '\n' :: (m.text ++ g')) := hl.of_breaks fun c hc => by
    cases hc
    decide
  have hgap : ∀ c ∈ g ++ ['\n'], Text.isBlank c = true := by
    intro c hc
    rcases List.mem_append.1 hc with hc | hc
    · exact hg c (List.mem_append_left _ hc)
    · rw [List.mem_singleton.1 hc]; decide
  rw [List.append_cons] at hseam
  obtain ⟨tokens, ht, hk⟩ := exists_scanAll_append hseam hgap hm hg'
  refine ⟨tokens, ?_, ?_⟩
  · rw [ofText, Text.withoutComments_append hc, hcut, htb, List.append_assoc, List.append_cons g, ht]
  · rw [hk, List.map_append, Layout.tokens_value, Layout.tokens_value]

/-! ## Phrases -/

theorem splitBy_loop_map {α β : Type} (f : α → β) (r : β → β → Bool) :
    ∀ (l : List α) (a : α) (g : List α) (gs : List (List α)),
      List.splitBy.loop r (l.map f) (f a) (g.map f) (gs.map (List.map f)) =
        (List.splitBy.loop (fun a b => r (f a) (f b)) l a g gs).map (List.map f)
  | [], a, g, gs => by simp [List.splitBy.loop]
  | b :: l, a, g, gs => by
    rw [List.map_cons, List.splitBy.loop, List.splitBy.loop]
    cases r (f a) (f b) with
    | true => exact splitBy_loop_map f r l b (a :: g) gs
    | false => simpa using splitBy_loop_map f r l b [] ((a :: g).reverse :: gs)

theorem splitBy_map {α β : Type} (f : α → β) (r : β → β → Bool) : ∀ l : List α,
    (l.map f).splitBy r = (l.splitBy fun a b => r (f a) (f b)).map (List.map f)
  | [] => rfl
  | a :: l => splitBy_loop_map f r l a [] []

/-- Where tokens are cut is decided by their kinds. -/
theorem kinds_phrases (tokens : List Token) :
    (phrases tokens).map (List.map Located.value) =
      (tokens.map Located.value).splitBy fun _ next => !next.opensPhrase :=
  (splitBy_map Located.value (fun _ next : Kind => !next.opensPhrase) tokens).symm

/-- Where the second of two lists of tokens opens a phrase, their phrases are those of the one and of the other. -/
theorem phrases_append (ts : List Token) {us : List Token} (ho : ∀ t ∈ us.head?, t.value.opensPhrase = true) :
    phrases (ts ++ us) = phrases ts ++ phrases us :=
  List.splitBy_append fun _ _ u hu => by simp [ho u hu]

end Token

namespace Context

/-- What the phrases of tokens come to is decided by the kinds of the tokens. -/
theorem outcomes_of_kinds {ctx : Context} (hs : ctx.Stateless) {ts us : List Token}
    (h : ts.map Located.value = us.map Located.value) (n : Nat) :
    ((Token.phrases ts).map fun g => Outcome.of (Query.dayOf ctx n (Query.ofTokens g))) =
      (Token.phrases us).map fun g => Outcome.of (Query.dayOf ctx n (Query.ofTokens g)) := by
  have hp : (Token.phrases ts).map (List.map Located.value) = (Token.phrases us).map (List.map Located.value) := by
    rw [Token.kinds_phrases, Token.kinds_phrases, h]
  rw [← List.forall₂_eq_eq_eq, List.forall₂_map_left_iff, List.forall₂_map_right_iff] at hp ⊢
  exact hp.imp fun g g' hk => Query.outcome_dayOf hs (Query.sensed_ofTokens hk) n n

/-- **The block of two texts has the answers of the one and then those of the other.** -/
theorem runBlock_append {ctx : Context} (hs : ctx.Stateless) {a b : Text} {ts us : List Token}
    (ha : Token.ofText a = .ok ts) (hb : Token.ofText b = .ok us) (hc : a.endsInBlockComment = false)
    (ho : ∀ t ∈ us.head?, t.value.opensPhrase = true) (l m n : Nat) :
    ∃ ds es fs, (ctx.runBlock l a).result = .ok ds ∧ (ctx.runBlock m b).result = .ok es ∧
      (ctx.runBlock n (a ++ '\n' :: b)).result = .ok fs ∧
      fs.map Outcome.of = ds.map Outcome.of ++ es.map Outcome.of := by
  obtain ⟨tokens, ht, hk⟩ := Token.exists_ofText_append ha hb hc
  obtain ⟨ds, hds, hod⟩ := outcomes_runBlock hs ha l 0
  obtain ⟨es, hes, hoe⟩ := outcomes_runBlock hs hb m 0
  obtain ⟨fs, hfs, hof⟩ := outcomes_runBlock hs ht n 0
  refine ⟨ds, es, fs, hds, hes, hfs, ?_⟩
  rw [hof, outcomes_of_kinds hs hk, Token.phrases_append ts ho, List.map_append, hod, hoe]

/-- A text that ends in a note, and one that begins with a phrase of its own. -/
def noted : Text × Text := ("day, 2nd // or\n3rd # or later".toList, "/* next */ weekly every 32nd".toList)

theorem runBlock_append_noted :
    sevenDays.Stateless ∧ noted.1.endsInBlockComment = false ∧
      ∃ ts us, Token.ofText noted.1 = .ok ts ∧ Token.ofText noted.2 = .ok us ∧
        (∀ t ∈ us.head?, t.value.opensPhrase = true) ∧
        ∃ ds es fs, (sevenDays.runBlock 0 noted.1).result = .ok ds ∧ (sevenDays.runBlock 1 noted.2).result = .ok es ∧
          (sevenDays.runBlock 2 (noted.1 ++ '\n' :: noted.2)).result = .ok fs ∧
          fs.map Outcome.of = ds.map Outcome.of ++ es.map Outcome.of := by
  have hc : noted.1.endsInBlockComment = false := by decide +kernel
  obtain ⟨ts, ha⟩ := exists_eq_ok (x := Token.ofText noted.1) (by decide +kernel)
  obtain ⟨us, hb⟩ := exists_eq_ok (x := Token.ofText noted.2) (by decide +kernel)
  have hopens : (Token.ofText noted.2).toOption.any (fun us => us.head?.all fun t => t.value.opensPhrase) = true := by
    decide +kernel
  have ho : ∀ t ∈ us.head?, t.value.opensPhrase = true := fun t ht => by
    rw [Option.mem_def] at ht
    rw [hb] at hopens
    simpa [Except.toOption, ht] using hopens
  exact ⟨stateless_sevenDays, hc, ts, us, ha, hb, ho, runBlock_append stateless_sevenDays ha hb hc ho 0 1 2⟩

end Context
end Recurrence
