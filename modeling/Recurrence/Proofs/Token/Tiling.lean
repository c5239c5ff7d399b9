import Recurrence.Proofs.Comment
import Recurrence.Proofs.Token.Layout
/-!
# Tilings — what a scan says about the characters of its text

A scan tiles its text: every token stands on the characters that spell it, no two tokens share one, and all other
characters are blanks.  These facts leave no choice: a text has at most one tiling, and the scan finds it
(`ofText_tiles`).
-/
namespace Recurrence
namespace Token

/-- Tokens that tile a text from one index up to, but not including, another. -/
structure Tiles (t : Text) (first last : Nat) (tokens : List Token) : Prop where
  /-- Each token has a span of true positions, and the characters there spell it. -/
  placed : ∀ k ∈ tokens, ∃ i j, first ≤ i ∧ i < j ∧ j ≤ last ∧ k.span = .of t i j ∧
    Lexeme.Spells k.value (t.slice i j) (t.drop j)
  /-- Each token ends before the later ones start. -/
  ordered : tokens.Pairwise fun a b => a.span.stop.index ≤ b.span.start.index
  /-- The characters outside all tokens are blanks. -/
  blank : ∀ n c, first ≤ n → n < last → t[n]? = some c →
    (∀ k ∈ tokens, ¬ (k.span.start.index ≤ n ∧ n < k.span.stop.index)) → Text.isBlank c = true

theorem tiles_nil {t g rest : Text} {i : Nat} (ht : t.drop i = g ++ rest) (hg : ∀ c ∈ g, Text.isBlank c = true) :
    Tiles t i (i + g.length) [] where
  placed := by simp
  ordered := .nil
  blank _ c hi hn hc _ := hg c (Text.mem_of_drop_eq ht hc hi hn)

/-- A word with blanks in front of it, put before what is tiled. -/
theorem Tiles.cons {t g w rest : Text} {i last : Nat} {k : Token.Kind} {tokens : List Token}
    (ht : t.drop i = g ++ (w ++ rest)) (hg : ∀ c ∈ g, Text.isBlank c = true) (hw : Lexeme.Spells k w rest)
    (h : Tiles t (i + g.length + w.length) last tokens) (hl : i + g.length + w.length ≤ last) :
    Tiles t i last (⟨.of t (i + g.length) (i + g.length + w.length), k⟩ :: tokens) := by
  have hd := Text.drop_add ht
  have hw0 : 0 < w.length := by
    obtain ⟨c, v, rfl, -⟩ := hw.exists_cons
    simp
  refine ⟨?_, ?_, ?_⟩
  · intro l hm
    rcases List.mem_cons.1 hm with rfl | hm
    · refine ⟨_, _, by omega, by omega, hl, rfl, ?_⟩
      rw [Text.slice_add hd, Text.drop_add hd]
      exact hw
    · obtain ⟨a, b, h1, h2, h3, h4⟩ := h.placed l hm
      exact ⟨a, b, by omega, h2, h3, h4⟩
  · refine List.Pairwise.cons ?_ h.ordered
    intro l hm
    obtain ⟨a, b, h1, -, -, h4, -⟩ := h.placed l hm
    rw [h4]
    simp only [Span.of, Position.of]
    omega
  · intro n c hi hn hc ho
    have h0 := ho _ List.mem_cons_self
    simp only [Span.of, Position.of] at h0
    by_cases hng : n < i + g.length
    · exact hg c (Text.mem_of_drop_eq ht hc hi hng)
    · exact h.blank n c (by omega) hn hc fun l hm => ho l (List.mem_cons_of_mem _ hm)

/-- **The tokens of a sound layout tile it**, together with the blanks after it. -/
theorem tiles_layout {t g rest : Text} (hg : ∀ c ∈ g, Text.isBlank c = true) :
    ∀ {l : Layout} {i : Nat}, l.Sound (g ++ rest) → t.drop i = l.text ++ (g ++ rest) →
      Tiles t i (i + l.text.length + g.length) (l.tokens t i)
  | [], i, _, ht => tiles_nil (i := i) ht hg
  | p :: l, i, ⟨h1, h2, h3⟩, ht => by
    rw [Layout.text_cons, List.append_assoc, List.append_assoc] at ht
    have ih := tiles_layout hg h3 (Text.drop_add (Text.drop_add ht))
    have hlen : i + (Layout.text (p :: l)).length = i + p.gap.length + p.word.length + (Layout.text l).length := by
      rw [Layout.text_cons, List.length_append, List.length_append]; omega
    rw [Layout.tokens, Piece.text, List.length_append, ← Nat.add_assoc, hlen]
    exact ih.cons ht h1 h2 (by omega)

/-- **What tiles a text to its end is a sound layout of it.** -/
theorem Tiles.exists_layout {t : Text} : ∀ {tokens : List Token} {i : Nat}, i ≤ t.length →
    Tiles t i t.length tokens →
    ∃ (l : Layout) (g : Text), t.drop i = l.text ++ g ∧ (∀ c ∈ g, Text.isBlank c = true) ∧ l.Sound g ∧
      l.tokens t i = tokens
  | [], i, hi, h => by
    refine ⟨[], t.drop i, rfl, fun c hc => ?_, trivial, rfl⟩
    have hc : c ∈ t.slice i t.length := by
      rw [Text.slice, List.take_of_length_le (Nat.le_of_eq List.length_drop)]
      exact hc
    obtain ⟨n, h1, h2, h3⟩ := Text.mem_slice hc
    exact h.blank n c h1 h2 h3 (by simp)
  | k :: tokens, i, hi, h => by
    obtain ⟨a, b, h1, h2, h3, h4, h5⟩ := h.placed k List.mem_cons_self
    have later : ∀ m ∈ tokens, (b : Int) ≤ m.span.start.index := fun m hm => by
      have := List.rel_of_pairwise_cons h.ordered hm
      rwa [h4] at this
    have hrest : Tiles t b t.length tokens := by
      refine ⟨fun m hm => ?_, h.ordered.of_cons, fun n c hb hn hc ho => ?_⟩
      · obtain ⟨a', b', -, h6, h7, h8, h9⟩ := h.placed m (List.mem_cons_of_mem _ hm)
        have := later m hm
        rw [h8] at this
        simp only [Span.of, Position.of] at this
        exact ⟨a', b', by omega, h6, h7, h8, h9⟩
      · refine h.blank n c (by omega) hn hc fun m hm => ?_
        rcases List.mem_cons.1 hm with rfl | hm
        · rw [h4]; simp only [Span.of, Position.of]; omega
        · exact ho m hm
    obtain ⟨l, g, hd, hg, hl, hk⟩ := Tiles.exists_layout h3 hrest
    have hgap : ∀ c ∈ t.slice i a, Text.isBlank c = true := fun c hc => by
      obtain ⟨n, h6, h7, h8⟩ := Text.mem_slice hc
      refine h.blank n c h6 (by omega) h8 fun m hm => ?_
      rcases List.mem_cons.1 hm with rfl | hm
      · rw [h4]; simp only [Span.of, Position.of]; omega
      · have := later m hm; omega
    rw [hd] at h5
    have hla : i + (t.slice i a).length = a := by rw [Text.length_slice]; omega
    have hlb : a + (t.slice a b).length = b := by rw [Text.length_slice]; omega
    refine ⟨⟨t.slice i a, t.slice a b, k.value⟩ :: l, g, ?_, hg, ⟨hgap, h5, hl⟩, ?_⟩
    · rw [Text.drop_eq_slice_append t h1, Text.drop_eq_slice_append t (Nat.le_of_lt h2), hd, Layout.text_cons,
        List.append_assoc, List.append_assoc]
    · rw [Layout.tokens, Piece.text, List.length_append, ← Nat.add_assoc, hla, hlb, hk, ← h4]

/-- Tokens that a source text has tile the text without comments. -/
theorem tiles_of_ofText {source : Text} {tokens : List Token} (h : ofText source = .ok tokens) :
    Tiles source.withoutComments 0 source.withoutComments.length tokens := by
  obtain ⟨l, g, ht, hg, hl, rfl⟩ := exists_layout_of_ofText h
  generalize source.withoutComments = t at ht ⊢
  have hs : l.Sound (g ++ []) := by rwa [List.append_nil]
  have hd : t.drop 0 = l.text ++ (g ++ []) := by rw [List.append_nil]; exact ht
  have := tiles_layout hg hs hd
  rwa [Nat.zero_add, ← List.length_append, ← ht] at this

/-- What tiles a source text without its comments are the tokens that it has. -/
theorem Tiles.ofText_eq {source : Text} {tokens : List Token}
    (h : Tiles source.withoutComments 0 source.withoutComments.length tokens) : ofText source = .ok tokens := by
  obtain ⟨l, g, hd, hg, hl, hk⟩ := h.exists_layout (Nat.zero_le _)
  rw [List.drop_zero] at hd
  rw [ofText, ← hk, hd, scanAll_of_sound hl hg]

/-- **The scan finds the tiling of a text, and there is no other one.**  Without its comments, a text is either tiled by
the tokens that are returned, or tiled up to the first word that no token is spelled by, which is blamed. -/
theorem ofText_tiles (source : Text) :
    (∀ tokens, ofText source = .ok tokens ↔
      Tiles source.withoutComments 0 source.withoutComments.length tokens) ∧
    ((∃ tokens, ofText source = .ok tokens) ∨
      ∃ tokens i j cause, i < j ∧ j ≤ source.withoutComments.length ∧ Tiles source.withoutComments 0 i tokens ∧
        Lexeme.Spoils cause (source.withoutComments.slice i j) (source.withoutComments.drop j) ∧
        cause.kind = .malformed ∧ ofText source = .error ⟨cause, some (.of source.withoutComments i j)⟩) := by
  refine ⟨fun tokens => ⟨tiles_of_ofText, Tiles.ofText_eq⟩, ?_⟩
  unfold ofText
  generalize source.withoutComments = t
  rcases Layout.layout_cases t with ⟨l, g, rfl, hg, hl⟩ | ⟨l, g, w, after, cause, ht, hg, hl, hs⟩
  · exact .inl ⟨_, scanAll_of_sound hl hg⟩
  · have he := scanAll_of_spoils hl hg hs
    rw [← ht, Diagnostic.placed_of] at he
    generalize hn : l.text.length + g.length = n at he
    have hd : t.drop n = w ++ after := by
      rw [← hn, ht, ← List.drop_drop, List.drop_left, List.drop_left]
    have hw : 0 < w.length := by
      obtain ⟨c, v, rfl, -⟩ := hs.exists_cons
      simp
    have hlast : n + w.length ≤ t.length := by
      rw [← hn, ht]; simp only [List.length_append]; omega
    have htiles : Tiles t 0 n (l.tokens t 0) := by
      have := tiles_layout hg (i := 0) hl ht
      rwa [Nat.zero_add, hn] at this
    refine .inr ⟨_, n, n + w.length, cause, by omega, hlast, htiles, ?_, hs.malformed, he⟩
    rwa [Text.slice_add hd, Text.drop_add hd]

end Token
end Recurrence
