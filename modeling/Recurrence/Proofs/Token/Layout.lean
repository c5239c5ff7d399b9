import Recurrence.Proofs.Source
import Recurrence.Proofs.Token.Spelling
import Recurrence.Token.Scan
/-!
# Layouts — words with blanks between them

A layout is a list of words, each with the kind of token that it spells and the blanks in front of it.  The scan of a
text goes from word to word: a sound layout gives just its tokens (`scan_layout`), and every text is a sound layout
with blanks at its end, or is one up to a word that spoils it (`layout_cases`).
-/
namespace Recurrence

/-- A word with the blanks in front of it and the kind of token that it spells. -/
structure Piece where
  gap : Text
  word : Text
  kind : Token.Kind

def Piece.text (p : Piece) : Text := p.gap ++ p.word

/-- Words one after the other. -/
abbrev Layout := List Piece

namespace Layout

/-- The text that is laid out. -/
def text (l : Layout) : Text := l.flatMap Piece.text

/-- The kinds of the tokens. -/
def kinds (l : Layout) : List Token.Kind := l.map Piece.kind

/-- The tokens, where the layout begins at index `i` of the text `t`. -/
def tokens (t : Text) (i : Nat) : Layout → List Token
  | [] => []
  | p :: l => ⟨.of t (i + p.gap.length) (i + p.text.length), p.kind⟩ :: tokens t (i + p.text.length) l

/-- All gaps are blank, and each word spells its kind in front of what follows it. -/
def Sound : Layout → (after : Text) → Prop
  | [], _ => True
  | p :: l, after =>
    (∀ c ∈ p.gap, Text.isBlank c = true) ∧ Lexeme.Spells p.kind p.word (text l ++ after) ∧ Sound l after

@[simp] theorem text_nil : text [] = [] := rfl

@[simp] theorem text_cons (p : Piece) (l : Layout) : text (p :: l) = p.gap ++ p.word ++ text l := by
  simp [text, Piece.text]

@[simp] theorem text_append (l m : Layout) : text (l ++ m) = text l ++ text m := by simp [text]

@[simp] theorem kinds_cons (p : Piece) (l : Layout) : kinds (p :: l) = p.kind :: kinds l := rfl

@[simp] theorem kinds_append (l m : Layout) : kinds (l ++ m) = kinds l ++ kinds m := by simp [kinds]

theorem tokens_value (t : Text) : ∀ (l : Layout) (i : Nat), (tokens t i l).map Located.value = kinds l
  | [], _ => rfl
  | p :: l, i => by rw [tokens, List.map_cons, tokens_value t l, kinds_cons]

theorem sound_append : ∀ {l m : Layout} {after : Text},
    Sound (l ++ m) after ↔ Sound l (text m ++ after) ∧ Sound m after
  | [], m, after => by simp [Sound]
  | p :: l, m, after => by
    rw [List.cons_append, Sound, Sound, sound_append (l := l), text_append, List.append_assoc]
    simp only [and_assoc]

/-- A sound layout stays sound when the text after it is cut off at a blank or at the end. -/
theorem Sound.of_breaks : ∀ {l : Layout} {a b b' : Text}, Sound l (a ++ b) → Lexeme.Breaks b' → Sound l (a ++ b')
  | [], _, _, _, _, _ => trivial
  | p :: l, a, b, b', h, hb => by
    obtain ⟨h1, h2, h3⟩ := h
    rw [← List.append_assoc] at h2
    have := h2.of_breaks hb
    rw [List.append_assoc] at this
    exact ⟨h1, this, h3.of_breaks hb⟩

end Layout

namespace Token

/-! ## Scanning -/

section Step

variable {c : Char} {cs : Text} (text : Text) (p : Position)

theorem scan_nil : scan text p [] = .ok [] := by rw [scan]

theorem scan_blank (hc : Text.isBlank c = true) : scan text p (c :: cs) = scan text (p.next (some c)) cs := by
  rw [scan, if_pos hc]

/-- Where the token ends that begins at the character `c`. -/
def stopOf (c : Char) (cs : Text) : Position := (p.next (some c)).through (cs.take (Lexeme.read c cs).more)

theorem scan_error {cause : Diagnostic.Cause} (hc : ¬ Text.isBlank c = true)
    (hkind : (Lexeme.read c cs).kind = .error cause) :
    scan text p (c :: cs) = .error (.placed (.between text p (stopOf p c cs)) cause) := by
  rw [scan, if_neg hc]
  simp only [hkind, stopOf]

theorem scan_ok {kind : Kind} (hc : ¬ Text.isBlank c = true) (hkind : (Lexeme.read c cs).kind = .ok kind) :
    scan text p (c :: cs) =
      (scan text (stopOf p c cs) (cs.drop (Lexeme.read c cs).more)).map
        (⟨.between text p (stopOf p c cs), kind⟩ :: ·) := by
  rw [scan, if_neg hc]
  simp only [hkind, stopOf]

end Step

theorem stopOf_of {t v rest : Text} {c : Char} {i : Nat} (hmore : (Lexeme.read c (v ++ rest)).more = v.length)
    (ht : t.drop i = c :: v ++ rest) : stopOf (.of t i) c (v ++ rest) = .of t (i + (c :: v).length) := by
  rw [stopOf, hmore, List.take_left]
  exact Position.through_of ht

theorem scan_gap (t : Text) : ∀ (g : Text) {rest : Text} {i : Nat}, (∀ c ∈ g, Text.isBlank c = true) →
    t.drop i = g ++ rest → scan t (.of t i) (g ++ rest) = scan t (.of t (i + g.length)) rest
  | [], _, _, _, _ => rfl
  | c :: g, rest, i, hg, ht => by
    have ht1 : t.drop i = [c] ++ (g ++ rest) := ht
    have hn : (Position.of t i).next (some c) = .of t (i + 1) := Position.through_of ht1
    have hd : t.drop (i + 1) = g ++ rest := Text.drop_add ht1
    rw [List.cons_append, scan_blank _ _ (hg c (by simp)), hn, scan_gap t g (fun d h => hg d (by simp [h])) hd,
      List.length_cons, Nat.add_assoc, Nat.add_comm 1]

theorem scan_word {t w rest : Text} {i : Nat} {k : Token.Kind} (hs : Lexeme.Spells k w rest)
    (ht : t.drop i = w ++ rest) :
    scan t (.of t i) (w ++ rest) =
      (scan t (.of t (i + w.length)) rest).map (⟨.of t i (i + w.length), k⟩ :: ·) := by
  obtain ⟨c, v, rfl, hc⟩ := hs.exists_cons
  have hread := Lexeme.read_of_spells hs
  rw [List.cons_append, scan_ok _ _ (by simp [hc]) (by rw [hread]), stopOf_of (by rw [hread]) ht, hread, List.drop_left,
    Span.between_of, Span.of]

theorem scan_spoiled {t w rest : Text} {i : Nat} {cause : Diagnostic.Cause} (hs : Lexeme.Spoils cause w rest)
    (ht : t.drop i = w ++ rest) :
    scan t (.of t i) (w ++ rest) = .error (.placed (.of t i (i + w.length)) cause) := by
  obtain ⟨c, v, rfl, hc⟩ := hs.exists_cons
  have hread := Lexeme.read_of_spoils hs
  rw [List.cons_append, scan_error _ _ (by simp [hc]) (by rw [hread]), stopOf_of (by rw [hread]) ht, Span.between_of,
    Span.of]

theorem scan_layout (t : Text) : ∀ (l : Layout) {after : Text} {i : Nat}, l.Sound after →
    t.drop i = l.text ++ after →
    scan t (.of t i) (l.text ++ after) =
      (scan t (.of t (i + l.text.length)) after).map (l.tokens t i ++ ·)
  | [], after, i, _, _ => by
    simp only [Layout.text_nil, List.nil_append, Layout.tokens, List.length_nil, Nat.add_zero]
    cases scan t (.of t i) after <;> rfl
  | p :: l, after, i, ⟨hg, hw, hl⟩, ht => by
    rw [Layout.text_cons, List.append_assoc, List.append_assoc] at ht ⊢
    have ht1 := Text.drop_add ht
    have ht2 := Text.drop_add ht1
    rw [scan_gap t p.gap hg ht, scan_word hw ht1, scan_layout t l hl ht2, Layout.tokens, Piece.text]
    simp only [List.length_append, Nat.add_assoc]
    cases scan t _ after <;> rfl

end Token

namespace Layout

/-- **Every text is a sound layout with blanks at its end, or is one up to a word that spoils it.** -/
theorem layout_cases (t : Text) :
    (∃ l g, t = text l ++ g ∧ (∀ c ∈ g, Text.isBlank c = true) ∧ Sound l g) ∨
      ∃ l g w after cause, t = text l ++ (g ++ (w ++ after)) ∧ (∀ c ∈ g, Text.isBlank c = true) ∧
        Sound l (g ++ (w ++ after)) ∧ Lexeme.Spoils cause w after := by
  have hg : ∀ c ∈ t.takeWhile Text.isBlank, Text.isBlank c = true := List.all_eq_true.1 List.all_takeWhile
  have ht := List.takeWhile_append_dropWhile (p := Text.isBlank) (l := t)
  have hn := List.head?_dropWhile_not Text.isBlank t
  generalize t.takeWhile Text.isBlank = g₀ at hg ht
  cases hr : t.dropWhile Text.isBlank with
  | nil =>
    rw [hr, List.append_nil] at ht
    exact .inl ⟨[], g₀, ht.symm, hg, trivial⟩
  | cons c cs =>
    rw [hr] at hn ht
    obtain ⟨w, after, he, -, hj⟩ := Lexeme.read_judges hn cs
    rw [he] at ht
    cases hk : (Lexeme.read c cs).kind with
    | error cause =>
      rw [hk] at hj
      exact .inr ⟨[], g₀, w, after, cause, ht.symm, hg, trivial, hj⟩
    | ok k =>
      rw [hk] at hj
      have hlt : after.length < t.length := by
        obtain ⟨d, v, rfl, -⟩ := hj.exists_cons
        rw [← ht]
        simp only [List.length_append, List.length_cons]; omega
      rcases layout_cases after with ⟨l, g, rfl, hb, hl⟩ | ⟨l, g, u, rest, cause, rfl, hb, hl, hs⟩
      · exact .inl ⟨⟨g₀, w, k⟩ :: l, g, by rw [← ht]; simp, hb, hg, hj, hl⟩
      · exact .inr ⟨⟨g₀, w, k⟩ :: l, g, u, rest, cause, by rw [← ht]; simp, hb, ⟨hg, hj, hl⟩, hs⟩
termination_by t.length

end Layout

namespace Token

theorem scan_blanks (t : Text) {g : Text} {i : Nat} (hg : ∀ c ∈ g, Text.isBlank c = true) (ht : t.drop i = g) :
    scan t (.of t i) g = .ok [] := by
  have h : t.drop i = g ++ [] := by rw [List.append_nil, ht]
  have := scan_gap t g hg h
  rw [List.append_nil] at this
  rw [this, scan_nil]

theorem scanAll_of_sound {l : Layout} {g : Text} (hl : l.Sound g) (hg : ∀ c ∈ g, Text.isBlank c = true) :
    scanAll (l.text ++ g) = .ok (l.tokens (l.text ++ g) 0) := by
  have hd : (l.text ++ g).drop (0 + l.text.length) = g := by rw [Nat.zero_add, List.drop_left]
  have := scan_layout (l.text ++ g) l hl (i := 0) rfl
  rw [scan_blanks _ hg hd, Position.of_zero] at this
  rw [scanAll, this, Except.map, List.append_nil]

theorem scanAll_of_spoils {l : Layout} {g w after : Text} {cause : Diagnostic.Cause} (hl : l.Sound (g ++ (w ++ after)))
    (hg : ∀ c ∈ g, Text.isBlank c = true) (hs : Lexeme.Spoils cause w after) :
    scanAll (l.text ++ (g ++ (w ++ after))) =
      .error (.placed (.of (l.text ++ (g ++ (w ++ after))) (l.text.length + g.length)
        (l.text.length + g.length + w.length)) cause) := by
  generalize ht : l.text ++ (g ++ (w ++ after)) = t
  have hd1 : t.drop l.text.length = g ++ (w ++ after) := by rw [← ht, List.drop_left]
  have hd2 : t.drop (l.text.length + g.length) = w ++ after := Text.drop_add hd1
  have h1 := scan_layout t l hl (i := 0) ht.symm
  rw [Nat.zero_add, scan_gap t g hg hd1, scan_spoiled hs hd2, ht, Position.of_zero] at h1
  exact h1

/-- Tokens that a source text has are those of a sound layout of the text without comments. -/
theorem exists_layout_of_ofText {source : Text} {tokens : List Token} (h : ofText source = .ok tokens) :
    ∃ (l : Layout) (g : Text), source.withoutComments = l.text ++ g ∧ (∀ c ∈ g, Text.isBlank c = true) ∧ l.Sound g ∧
      l.tokens source.withoutComments 0 = tokens := by
  unfold ofText at h
  generalize source.withoutComments = t at h ⊢
  rcases Layout.layout_cases t with ⟨l, g, rfl, hg, hl⟩ | ⟨l, g, w, after, cause, rfl, hg, hl, hs⟩
  · rw [scanAll_of_sound hl hg] at h
    cases h
    exact ⟨l, g, rfl, hg, hl, rfl⟩
  · rw [scanAll_of_spoils hl hg hs] at h
    cases h

end Token
end Recurrence
