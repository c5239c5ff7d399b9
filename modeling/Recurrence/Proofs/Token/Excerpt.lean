import Recurrence.Proofs.Comment
import Recurrence.Proofs.Query.Derivation
import Recurrence.Proofs.Token.Layout
/-!
# Excerpts — tokens of a part of a text

The stretch that some neighbouring tokens cover is cut out of the text and read on its own.  The words in it spell what
they spelled before, since none of them depends on what stands after its end, and no comment opens in it
(`Token.exists_ofText_stretch`).  Read as a source itself, the whole text without comments has the same tokens in the
same places (`Text.withoutComments_stable`).
-/
namespace Recurrence

namespace Layout

theorem exists_append_of_tokens {t : Text} : ∀ {before after : List Token} {l : Layout} {i : Nat},
    l.tokens t i = before ++ after →
    ∃ a b, l = a ++ b ∧ tokens t i a = before ∧ tokens t (i + (text a).length) b = after
  | [], _, l, _, h => ⟨[], l, rfl, rfl, h⟩
  | k :: before, after, l, i, h => by
    cases l with
    | nil => cases h
    | cons p l =>
      rw [tokens, List.cons_append, List.cons.injEq] at h
      obtain ⟨rfl, h⟩ := h
      obtain ⟨a, b, rfl, rfl, rfl⟩ := exists_append_of_tokens h
      refine ⟨p :: a, b, rfl, rfl, ?_⟩
      rw [text_cons, Piece.text, List.length_append, Nat.add_assoc]

theorem tokens_cons_ne_nil (t : Text) (i : Nat) (p : Piece) (l : Layout) : tokens t i (p :: l) ≠ [] := by simp [tokens]

theorem stop_getLast_tokens (t : Text) : ∀ (l : Layout) (p : Piece) (i : Nat),
    ((tokens t i (p :: l)).getLast (tokens_cons_ne_nil t i p l)).span.stop = .of t (i + (text (p :: l)).length)
  | [], p, i => by simp [tokens, Piece.text, Span.of]
  | q :: l, p, i => by
    have ih := stop_getLast_tokens t l q (i + p.text.length)
    simp only [tokens, List.getLast_cons_cons] at ih ⊢
    rw [ih, text_cons p, ← Piece.text, @List.length_append _ p.text, Nat.add_assoc]

/-- The tokens of a layout cover it from the end of its first gap on. -/
theorem stretch_tokens (t : Text) (i : Nat) (p : Piece) (l : Layout) :
    Token.stretch (tokens t i (p :: l)) (tokens_cons_ne_nil t i p l) =
      .of t (i + p.gap.length) (i + (text (p :: l)).length) := by
  rw [Token.stretch, Span.upTo, stop_getLast_tokens]; rfl

end Layout

namespace Token

open Comment (Free)

/-- **Neighbouring tokens are read from their own stretch of the text as they are from the whole.** -/
theorem exists_ofText_stretch {source : Text} {before part after : List Token} (hp : part ≠ [])
    (h : ofText source = .ok (before ++ (part ++ after))) :
    ∃ tokens, ofText (stretch part hp).covered = .ok tokens ∧ tokens.map Located.value = part.map Located.value := by
  obtain ⟨l, g, ht, hg, hl, hk⟩ := exists_layout_of_ofText h
  have hfree := Text.free_withoutComments source
  generalize source.withoutComments = t at ht hk hfree
  obtain ⟨a, l, rfl, -, hk⟩ := Layout.exists_append_of_tokens hk
  obtain ⟨m, b, rfl, rfl, -⟩ := Layout.exists_append_of_tokens hk
  cases m with
  | nil => exact absurd rfl hp
  | cons p m =>
    obtain ⟨-, hw, hm⟩ := (Layout.sound_append.1 (Layout.sound_append.1 hl).2).1
    -- the stretch begins behind the gap of its first word, so it is laid out without that gap
    have hn : Layout.Sound (⟨[], p.word, p.kind⟩ :: m) [' '] :=
      Layout.Sound.of_breaks (a := []) (b := b.text ++ g) ⟨by simp, hw, hm⟩ Lexeme.breaks_space
    have hd : t.drop (a.text.length + p.gap.length) = (p.word ++ Layout.text m) ++ (b.text ++ g) := by
      rw [ht]
      simp only [Layout.text_append, Layout.text_cons, List.append_assoc, ← List.drop_drop, List.drop_left]
    have hc : (Span.of t (0 + a.text.length + p.gap.length)
        (0 + a.text.length + (Layout.text (p :: m)).length)).covered = p.word ++ Layout.text m := by
      rw [Span.covered_of, ← Text.slice_add hd, Layout.text_cons, List.append_assoc, @List.length_append _ p.gap,
        Nat.zero_add, Nat.add_assoc]
    have hf : Free (p.word ++ Layout.text m) := by
      refine hfree.of_infix ((List.prefix_append _ (b.text ++ g)).isInfix.trans ?_)
      rw [← hd]
      exact (List.drop_suffix _ _).isInfix
    have hscan := scanAll_of_sound hn Lexeme.isBlank_of_mem_space
    rw [Layout.text_cons, List.nil_append, ← Text.withoutComments_of_free hf] at hscan
    rw [Layout.stretch_tokens, hc]
    exact ⟨_, hscan, by rw [Layout.tokens_value, Layout.tokens_value]; rfl⟩

end Token

/-! ## The whole text -/

/-- What a token is and between which positions it stands, in whatever text. -/
def Token.outline (k : Token) : Token.Kind × Position × Position := (k.value, k.span.start, k.span.stop)

theorem Position.of_append {t : Text} {i : Nat} (h : i ≤ t.length) (b : Text) : of (t ++ b) i = of t i := by
  have hlen : i - (t ++ b).length = i - t.length := by rw [List.length_append]; omega
  rw [of, of, List.take_append_of_le_length h, hlen]

/-- A text that goes on after a layout has the tokens of the layout in the same places. -/
theorem Layout.outlines_append (t b : Text) : ∀ (l : Layout) (i : Nat), i + l.text.length ≤ t.length →
    (tokens (t ++ b) i l).map Token.outline = (tokens t i l).map Token.outline
  | [], _, _ => rfl
  | p :: l, i, h => by
    rw [text_cons, ← Piece.text, List.length_append, ← Nat.add_assoc] at h
    have hgap : p.gap.length ≤ p.text.length := by rw [Piece.text, List.length_append]; omega
    have hstart : Position.of (t ++ b) (i + p.gap.length) = .of t (i + p.gap.length) := Position.of_append (by omega) b
    have hstop : Position.of (t ++ b) (i + p.text.length) = .of t (i + p.text.length) := Position.of_append (by omega) b
    simp only [tokens, List.map_cons, Token.outline, Span.of, hstart, hstop, outlines_append t b l _ h]

/-- **A text without comments is a source in its own right**: no comment opens in it, cutting comments out again only
marks its end once more, and it has the same tokens in the same places. -/
theorem Text.withoutComments_stable (source : Text) :
    Comment.Free source.withoutComments ∧
      source.withoutComments.withoutComments = source.withoutComments ++ [' '] ∧
      ∀ tokens, Token.ofText source = .ok tokens →
        ∃ again, Token.ofText source.withoutComments = .ok again ∧
          again.map Token.outline = tokens.map Token.outline := by
  have hagain := withoutComments_of_free (free_withoutComments source)
  refine ⟨free_withoutComments source, hagain, fun tokens h => ?_⟩
  obtain ⟨l, g, ht, hg, hl, rfl⟩ := Token.exists_layout_of_ofText h
  have hl' : l.Sound (g ++ [' ']) := by
    rw [← List.append_nil g] at hl
    exact hl.of_breaks Lexeme.breaks_space
  have hg' : ∀ c ∈ g ++ [' '], isBlank c = true := fun c hc =>
    (List.mem_append.1 hc).elim (hg c) (Lexeme.isBlank_of_mem_space c)
  have hscan := Token.scanAll_of_sound hl' hg'
  rw [← List.append_assoc, ← ht, ← hagain] at hscan
  refine ⟨_, hscan, ?_⟩
  rw [hagain]
  refine Layout.outlines_append _ _ l 0 ?_
  rw [ht, List.length_append]
  omega

end Recurrence
