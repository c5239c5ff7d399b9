import Recurrence.Proofs.Token.Layout
import Recurrence.Proofs.Token.Word
/-!
# Spacing — what may stand between the words of a text

Between words stand blanks and comments.  Cutting the comments out leaves blanks in their places (`Spacer.cut_text`),
so a text of words with such spacing between them is a sound layout of these words, and has just the tokens that they
are written for (`SpacedText.exists_tokens`): neither layout nor comments nor spelling matter.
-/
namespace Recurrence

/-- What may stand between two words: a blank, or a comment of one of the three forms.  The note in a comment holds
nothing that ends it. -/
inductive Spacer where
  | blank (c : Char) (isBlank : Text.isBlank c = true)
  | slashes (note : Text) (oneLine : '\n' ∉ note)
  | hash (note : Text) (oneLine : '\n' ∉ note)
  | block (note : Text) (unclosed : ¬ ['*', '/'] <:+: note)

namespace Spacer

def text : Spacer → Text
  | blank c _ => [c]
  | slashes note _ => '/' :: '/' :: note ++ ['\n']
  | hash note _ => '#' :: note ++ ['\n']
  | block note _ => '/' :: '*' :: note ++ ['*', '/']

/-- What is left of it when comments are cut out. -/
def residue : Spacer → Text
  | blank c _ => [c]
  | slashes _ _ => ['\n']
  | hash _ _ => ['\n']
  | block note _ => Comment.gap (note.count '\n')

end Spacer

/-- Blanks and comments one after the other. -/
abbrev Spacing := List Spacer

namespace Spacing

def text (s : Spacing) : Text := s.flatMap Spacer.text

def residue (s : Spacing) : Text := s.flatMap Spacer.residue

end Spacing

namespace Lexeme

/-- **Which words are written for a token**: a keyword in any case, a number with any number of zeros in front, an
ordinal with any of the suffixes in any case besides, code without a number sign with a backslash before each
character. -/
inductive Writes : Token.Kind → Text → Prop
  | separator : Writes .separator [',']
  | keyword {k : Keyword} {w : Text} : Text.lowered w = k.word → Writes (.keyword k) w
  | number {n : Nat} (width : Nat) : n < numberBound → Writes (.number n) (Text.padded width n)
  | ordinal {n : Nat} {suffix : Text} (width : Nat) : n < numberBound → Text.lowered suffix ∈ ordinalSuffixes →
      Writes (.ordinal n) (Text.padded width n ++ suffix)
  | code {code : Text} : '#' ∉ code → Writes (.code code) (Text.quotedCode code)

end Lexeme

/-- A word with the spacing in front of it and the kind of token that it is written for. -/
structure SpacedWord where
  spacing : Spacing
  word : Text
  kind : Token.Kind
  writes : Lexeme.Writes kind word

/-- Words with spacing before, between and after them; between two words there is some. -/
structure SpacedText where
  words : List SpacedWord
  last : Spacing
  apart : ∀ w ∈ words.tail, w.spacing ≠ []

namespace SpacedText

def text (s : SpacedText) : Text := s.words.flatMap (fun w => w.spacing.text ++ w.word) ++ s.last.text

/-- The kinds of the tokens that are written. -/
def kinds (s : SpacedText) : List Token.Kind := s.words.map SpacedWord.kind

end SpacedText

/-! ## Cutting -/

namespace Spacer

theorem residue_ne_nil (s : Spacer) : s.residue ≠ [] := by
  cases s with
  | block note h =>
    rw [residue]
    cases note.count '\n' <;> simp [Comment.gap, List.replicate_succ]
  | _ => simp [residue]

theorem isBlank_of_mem_gap {n : Nat} {c : Char} (h : c ∈ Comment.gap n) : Text.isBlank c = true := by
  cases n with
  | zero =>
    rw [List.mem_singleton.1 h]
    decide
  | succ n =>
    rw [List.eq_of_mem_replicate h]
    decide

theorem isBlank_of_mem_residue {s : Spacer} {c : Char} (h : c ∈ s.residue) : Text.isBlank c = true := by
  cases s with
  | blank d hd => rwa [List.mem_singleton.1 h]
  | slashes note _ => rw [List.mem_singleton.1 h]; decide
  | hash note _ => rw [List.mem_singleton.1 h]; decide
  | block note _ => exact isBlank_of_mem_gap h

/-- **Cutting comments out leaves of a spacer its residue**, whatever follows it. -/
theorem cut_text (s : Spacer) (rest : Text) :
    Comment.cut .phrase (s.text ++ rest) = s.residue ++ Comment.cut .phrase rest := by
  cases s with
  | blank c hc =>
    have hhash : c ≠ '#' := by rintro rfl; cases hc
    have hslash : c ≠ '/' := by rintro rfl; cases hc
    exact Comment.cut_cons hhash fun h => absurd h hslash
  | slashes note h =>
    rw [text, List.append_assoc, List.cons_append, List.cons_append, Comment.cut,
      Comment.cut_line_append h (by simp), residue]
    exact Comment.cut_cons (by decide) fun h => absurd h (by decide)
  | hash note h =>
    rw [text, List.append_assoc, List.cons_append, Comment.cut, Comment.cut_line_append h (by simp), residue]
    exact Comment.cut_cons (by decide) fun h => absurd h (by decide)
  | block note h =>
    rw [text, List.append_assoc, List.cons_append, List.cons_append, Comment.cut, residue,
      ← Nat.zero_add (note.count _)]
    exact Comment.cut_block_append h rest 0

end Spacer

namespace Spacing

theorem cut_text (s : Spacing) (rest : Text) :
    Comment.cut .phrase (s.text ++ rest) = s.residue ++ Comment.cut .phrase rest := by
  induction s with
  | nil => rfl
  | cons a s ih =>
    rw [text, residue, List.flatMap_cons, List.flatMap_cons, List.append_assoc, Spacer.cut_text, List.append_assoc]
    exact congrArg (a.residue ++ ·) ih

theorem isBlank_of_mem_residue {s : Spacing} {c : Char} (h : c ∈ s.residue) : Text.isBlank c = true := by
  obtain ⟨a, -, ha⟩ := List.mem_flatMap.1 h
  exact Spacer.isBlank_of_mem_residue ha

theorem residue_ne_nil {s : Spacing} (h : s ≠ []) : s.residue ≠ [] := by
  cases s with
  | nil => exact absurd rfl h
  | cons a s =>
    rw [residue, List.flatMap_cons]
    exact List.append_ne_nil_of_left_ne_nil a.residue_ne_nil _

end Spacing

/-! ## Words -/

namespace Text

theorem isDigit_of_mem_padded {width n : Nat} {c : Char} (h : c ∈ padded width n) : c.isDigit = true := by
  rcases List.mem_append.1 h with h | h
  · rw [List.eq_of_mem_replicate h]
    decide
  · exact digits_isDigit h

theorem padded_ne_nil (width n : Nat) : padded width n ≠ [] := List.append_ne_nil_of_right_ne_nil _ (digits_ne_nil n)

end Text

namespace Lexeme.Writes

open Comment (Inert)

variable {k : Token.Kind} {w : Text}

/-- What is written for a token spells it, where no word goes on into the text after it. -/
theorem spells (h : Writes k w) {after : Text} (ha : Parts after) : Spells k w after := by
  cases h with
  | separator => exact .separator after
  | keyword hw => exact spells_keyword hw ha
  | @number n width hn =>
    have := spells_number (Text.padded_ne_nil width n) (fun _ => Text.isDigit_of_mem_padded)
      (by rwa [Text.value_padded]) ha
    rwa [Text.value_padded] at this
  | @ordinal n suffix width hn hs =>
    have := spells_ordinal (Text.padded_ne_nil width n) (fun _ => Text.isDigit_of_mem_padded) hs
      (by rwa [Text.value_padded]) after
    rwa [Text.value_padded] at this
  | code => exact spells_quotedCode _ after

theorem inert (h : Writes k w) : Inert w := by
  cases h with
  | separator => exact Comment.inert_of_forall (by simp)
  | @keyword k w hw =>
    refine inert_of_letters fun c hc => .inl (isAlpha_of_toLower (Keyword.isAlpha_of_mem_word (k := k) ?_))
    rw [← hw]
    exact List.mem_map_of_mem hc
  | number => exact inert_of_letters fun c hc => .inr (Text.isDigit_of_mem_padded hc)
  | ordinal width _ hs =>
    refine inert_of_letters fun c hc => ?_
    rcases List.mem_append.1 hc with hc | hc
    · exact .inr (Text.isDigit_of_mem_padded hc)
    · exact .inl (isAlpha_of_mem_suffix hs c hc)
  | code hn => exact inert_quotedCode hn

end Lexeme.Writes

/-! ## Texts -/

namespace SpacedText

/-- The words with the blanks that are left in front of them. -/
def layout (words : List SpacedWord) : Layout := words.map fun w => ⟨w.spacing.residue, w.word, w.kind⟩

theorem cut_words (words : List SpacedWord) (rest : Text) :
    Comment.cut .phrase (words.flatMap (fun w => w.spacing.text ++ w.word) ++ rest) =
      (layout words).text ++ Comment.cut .phrase rest := by
  induction words with
  | nil => rfl
  | cons w words ih =>
    have hlayout : layout (w :: words) = ⟨w.spacing.residue, w.word, w.kind⟩ :: layout words := rfl
    rw [List.flatMap_cons, List.append_assoc, List.append_assoc, Spacing.cut_text,
      Comment.cut_append_of_inert _ w.writes.inert, ih, hlayout, Layout.text_cons, List.append_assoc, List.append_assoc]

theorem parts_of_blanks {g : Text} (hg : ∀ c ∈ g, Text.isBlank c = true) : Lexeme.Parts g := by
  intro c hc
  have hb := hg c (List.mem_of_mem_head? hc)
  exact ⟨Lexeme.isAlpha_eq_false_of_isBlank hb, Lexeme.isDigit_eq_false_of_isBlank hb⟩

theorem sound_layout {g : Text} (hg : ∀ c ∈ g, Text.isBlank c = true) : ∀ {words : List SpacedWord},
    (∀ w ∈ words.tail, w.spacing ≠ []) → (layout words).Sound g
  | [], _ => trivial
  | [w], _ => ⟨fun _ => Spacing.isBlank_of_mem_residue, w.writes.spells (parts_of_blanks hg), trivial⟩
  | w :: v :: words, h => by
    have ih : (layout (v :: words)).Sound g := sound_layout hg fun u hu => h u (List.mem_cons_of_mem v hu)
    refine ⟨fun _ => Spacing.isBlank_of_mem_residue, w.writes.spells ?_, ih⟩
    -- the next word has spacing in front of it, which leaves a blank
    obtain ⟨c, cs, hc⟩ := List.exists_cons_of_ne_nil (Spacing.residue_ne_nil (h v List.mem_cons_self))
    have hb : Text.isBlank c = true := by
      have hmem : c ∈ v.spacing.residue := by rw [hc]; exact List.mem_cons_self
      exact Spacing.isBlank_of_mem_residue hmem
    rw [List.map_cons, Layout.text_cons, hc]
    exact Lexeme.parts_cons ⟨Lexeme.isAlpha_eq_false_of_isBlank hb, Lexeme.isDigit_eq_false_of_isBlank hb⟩ _

/-- **A text has just the tokens that its words are written for**, whatever stands between these and however they are
written. -/
theorem exists_tokens (s : SpacedText) :
    ∃ tokens, Token.ofText s.text = .ok tokens ∧ tokens.map Located.value = s.kinds := by
  have hcut : s.text.withoutComments = (layout s.words).text ++ (s.last.residue ++ [' ']) := by
    have hlast := s.last.cut_text []
    rw [List.append_nil, Comment.cut, List.append_nil] at hlast
    rw [Text.withoutComments, text, cut_words, hlast, List.append_assoc]
  have hblank : ∀ c ∈ s.last.residue ++ [' '], Text.isBlank c = true := by
    intro c hc
    rcases List.mem_append.1 hc with hc | hc
    · exact Spacing.isBlank_of_mem_residue hc
    · exact Lexeme.isBlank_of_mem_space c hc
  have hscan := Token.scanAll_of_sound (sound_layout hblank s.apart) hblank
  refine ⟨_, by rw [Token.ofText, hcut, hscan], ?_⟩
  rw [Layout.tokens_value, Layout.kinds, layout, List.map_map]
  rfl

/-- A number, a keyword, a separator, an ordinal and code, with comments of all forms between them. -/
def ofEachKind : SpacedText where
  words :=
    [⟨[], Text.padded 3 7, .number 7, .number 3 (by decide)⟩,
      ⟨[.block " every /* // # *".toList (by decide +kernel)], "wEEks".toList, .keyword (.unit .week true),
        .keyword (by decide +kernel)⟩,
      ⟨[.hash " 8 weeks # /*".toList (by decide +kernel), .blank ' ' (by decide)], [','], .separator, .separator⟩,
      ⟨[.slashes [] (by decide)], Text.padded 2 1 ++ "Th".toList, .ordinal 1,
        .ordinal 2 (by decide) (by decide +kernel)⟩,
      ⟨[.blank '\n' (by decide)], Text.quotedCode "//*/::".toList, .code "//*/::".toList, .code (by decide +kernel)⟩]
  last := [.block ['*'] (by decide)]
  apart := by simp

example : (Token.ofText ofEachKind.text).toOption.map (List.map Located.value) = some ofEachKind.kinds := by
  decide +kernel

end SpacedText
end Recurrence
