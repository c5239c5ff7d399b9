import Recurrence.Text.Blank
import Recurrence.Token.Lexeme
/-!
# Spelling — which word stands for a token

How a token of each kind is spelled is said apart from how one is read: a word spells a kind in front of the text that
follows it (`Spells`), or it is a word that spoils a text (`Spoils`).  Reading finds just these words: what is read is
spelled so (`read_judges`), and what is spelled so is read (`read_of_spells`).
-/
namespace Recurrence
namespace Lexeme

/-- A run of characters of a class, not followed by a further one. -/
structure Run (p : Char → Bool) (w after : Text) : Prop where
  ne_nil : w ≠ []
  all : ∀ c ∈ w, p c = true
  stops : ∀ c ∈ after.head?, p c = false

/-- `code` is `body` with each escaping backslash taken away; what a backslash escapes is the character after it. -/
inductive Unescaped : (body code : Text) → Prop
  | nil : Unescaped [] []
  | plain {c : Char} {body code : Text} : c ≠ '\\' → Unescaped body code → Unescaped (c :: body) (c :: code)
  | escaped {body code : Text} (c : Char) : Unescaped body code → Unescaped ('\\' :: c :: body) (c :: code)

/-- No closing mark begins at an unescaped character of `body`, when `after` follows. -/
def Unclosed (body after : Text) : Prop :=
  ∀ a b code, body = a ++ b → b ≠ [] → Unescaped a code → ¬ closing <+: b ++ after

/-- **How a token of each kind is spelled**: by which word, in front of which text. -/
inductive Spells : Token.Kind → (word after : Text) → Prop
  | separator (after : Text) : Spells .separator [','] after
  | keyword {k : Keyword} {w after : Text} :
      Run Char.isAlpha w after → Text.lowered w = k.word → Spells (.keyword k) w after
  | number {ds after : Text} :
      Run Char.isDigit ds after → Text.lowered (after.take 2) ∉ ordinalSuffixes → Text.value ds < numberBound →
        Spells (.number (Text.value ds)) ds after
  | ordinal {ds suffix after : Text} :
      Run Char.isDigit ds (suffix ++ after) → Text.lowered suffix ∈ ordinalSuffixes → Text.value ds < numberBound →
        Spells (.ordinal (Text.value ds)) (ds ++ suffix) after
  | code {body code after : Text} :
      Unescaped body code → Unclosed body (closing ++ after) → Spells (.code code) (opening ++ body ++ closing) after

/-- **Which words spoil a text**, and for what cause. -/
inductive Spoils : Diagnostic.Cause → (word after : Text) → Prop
  | word {w after : Text} :
      Run Char.isAlpha w after → (∀ k : Keyword, k.word ≠ Text.lowered w) →
        Spoils (.unexpectedWord (Text.lowered w)) w after
  | number {ds after : Text} :
      Run Char.isDigit ds after → Text.lowered (after.take 2) ∉ ordinalSuffixes → numberBound ≤ Text.value ds →
        Spoils (.numberTooLarge ds) ds after
  | ordinal {ds suffix after : Text} :
      Run Char.isDigit ds (suffix ++ after) → Text.lowered suffix ∈ ordinalSuffixes → numberBound ≤ Text.value ds →
        Spoils (.numberTooLarge ds) (ds ++ suffix) after
  | code {body : Text} : Unclosed body [] → Spoils .unterminatedCode (opening ++ body) []
  | character {c : Char} {after : Text} :
      Text.isBlank c = false → c.isDigit = false → c.isAlpha = false → c ≠ ',' → ¬ opening <+: c :: after →
        Spoils (.unexpectedCharacter c) [c] after

/-! ## Classes of characters -/

theorem isDigit_iff {c : Char} : c.isDigit = true ↔ 48 ≤ c.toNat ∧ c.toNat ≤ 57 := Char.isDigit_iff_toNat

theorem isAlpha_iff {c : Char} :
    c.isAlpha = true ↔ (65 ≤ c.toNat ∧ c.toNat ≤ 90) ∨ (97 ≤ c.toNat ∧ c.toNat ≤ 122) := by
  have h : c.isAlpha =
      (decide (65 ≤ c.toNat ∧ c.toNat ≤ 90) || (decide (97 ≤ c.toNat) && decide (c.toNat ≤ 122))) := rfl
  rw [h, Bool.or_eq_true, Bool.and_eq_true, decide_eq_true_iff, decide_eq_true_iff, decide_eq_true_iff]

theorem isBlank_eq_false_of_range {c : Char} (h : 33 ≤ c.toNat ∧ c.toNat ≤ 132) : Text.isBlank c = false := by
  simp only [Text.isBlank, Text.blankRanges, List.any_cons, List.any_nil, Bool.or_false, Bool.or_eq_false_iff,
    Bool.and_eq_false_iff, decide_eq_false_iff_not]
  omega

theorem isDigit_eq_false_of_isAlpha {c : Char} (h : c.isAlpha = true) : c.isDigit = false := by
  rw [isAlpha_iff] at h
  rw [← Bool.not_eq_true, isDigit_iff]
  omega

theorem toNat_toLower (c : Char) :
    c.toLower.toNat = if 65 ≤ c.toNat ∧ c.toNat ≤ 90 then c.toNat + 32 else c.toNat := by
  have hrange : (c.val ≥ 'A'.val ∧ c.val ≤ 'Z'.val) ↔ 65 ≤ c.toNat ∧ c.toNat ≤ 90 := Iff.rfl
  unfold Char.toLower
  split
  · rename_i h
    rw [if_pos (hrange.1 h)]
    show (c.val + 32).toNat = c.val.toNat + 32
    rw [UInt32.toNat_add]
    exact Nat.mod_eq_of_lt (Nat.lt_of_le_of_lt (Nat.add_le_add_right (hrange.1 h).2 _) (by decide))
  · rename_i h
    rw [if_neg (mt hrange.2 h)]

theorem isAlpha_toLower (c : Char) : c.toLower.isAlpha = c.isAlpha := by
  rw [Bool.eq_iff_iff, isAlpha_iff, isAlpha_iff, toNat_toLower]
  split <;> omega

theorem isAlpha_of_toLower {c : Char} (h : c.toLower.isAlpha = true) : c.isAlpha = true := by
  rwa [isAlpha_toLower] at h

/-! ## Runs -/

theorem Run.takeWhile_tail {p : Char → Bool} {c : Char} {w after : Text} (h : Run p (c :: w) after) :
    (w ++ after).takeWhile p = w := by
  rw [List.takeWhile_append_of_pos fun d hd => h.all d (List.mem_cons_of_mem c hd)]
  cases after with
  | nil => rw [List.takeWhile_nil, List.append_nil]
  | cons d after => rw [List.takeWhile_cons_of_neg (by simp [h.stops d rfl]), List.append_nil]

theorem run_takeWhile {p : Char → Bool} {c : Char} (hc : p c = true) (cs : Text) :
    Run p (c :: cs.takeWhile p) (cs.dropWhile p) where
  ne_nil := by simp
  all := by
    intro d hd
    rcases List.mem_cons.1 hd with rfl | hd
    · exact hc
    · exact List.all_eq_true.1 List.all_takeWhile d hd
  stops := by
    intro d hd
    have h := List.head?_dropWhile_not p cs
    rw [hd] at h
    exact h

/-! ## Blocks of code -/

theorem unescaped_of_cons {c : Char} {a code : Text} (hc : c ≠ '\\') (h : Unescaped (c :: a) code) :
    ∃ code', Unescaped a code' := by
  cases h with
  | plain _ h => exact ⟨_, h⟩
  | escaped => exact absurd rfl hc

theorem unclosed_nil (after : Text) : Unclosed [] after := by
  intro a b code h hb
  exact absurd (List.append_eq_nil_iff.1 h.symm).2 hb

theorem unclosed_plain {c : Char} {body after : Text} (hc : c ≠ '\\') (h : Unclosed (c :: body) after) :
    ¬ closing <+: c :: (body ++ after) ∧ Unclosed body after := by
  refine ⟨h [] (c :: body) [] rfl (by simp) .nil, ?_⟩
  rintro a b code rfl hb ha
  exact h (c :: a) b (c :: code) rfl hb (.plain hc ha)

theorem unclosed_cons {c : Char} {body after : Text} (hc : c ≠ '\\') (h : ¬ closing <+: c :: (body ++ after))
    (hb : Unclosed body after) : Unclosed (c :: body) after := by
  intro a b code he hne ha
  cases a with
  | nil => rw [List.nil_append] at he; rw [← he]; exact h
  | cons d a =>
    obtain ⟨rfl, rfl⟩ := List.cons.inj he
    obtain ⟨code', ha⟩ := unescaped_of_cons hc ha
    exact hb a b code' rfl hne ha

theorem unclosed_escaped {c : Char} {body after : Text} :
    Unclosed ('\\' :: c :: body) after ↔ Unclosed body after := by
  constructor
  · rintro h a b code rfl hb ha
    exact h ('\\' :: c :: a) b (c :: code) rfl hb (.escaped c ha)
  · intro h a b code he hb ha
    cases ha with
    | nil => rw [List.nil_append] at he; rw [← he]; simp [closing]
    | plain hc => exact absurd (List.cons.inj he).1.symm hc
    | escaped d ha =>
      simp only [List.cons_append, List.cons.injEq, true_and] at he
      exact h _ b _ he.2 hb ha

/-- A closing mark that begins before another ends within it, so what follows that one does not matter. -/
theorem Unclosed.of_closing {body after after' : Text} (h : Unclosed body (closing ++ after)) :
    Unclosed body (closing ++ after') := by
  intro a b code he hb ha hp
  have hc : closing <+: b ++ closing := by
    refine List.prefix_of_prefix_length_le hp ?_ (by simp)
    rw [← List.append_assoc]
    exact List.prefix_append _ _
  refine h a b code he hb ha (hc.trans ?_)
  rw [← List.append_assoc]
  exact List.prefix_append _ _

theorem codeBody_closing (after : Text) : codeBody (closing ++ after) = some ([], closing.length) := by
  rw [closing, List.cons_append, List.cons_append, List.cons_append, List.nil_append, codeBody]; rfl

theorem codeBody_plain {c : Char} {t : Text} (hc : c ≠ '\\') (h : ¬ closing <+: c :: t) :
    codeBody (c :: t) = (codeBody t).map fun b => (c :: b.1, b.2 + 1) := by
  rw [codeBody]
  · rintro u rfl rfl; exact h ⟨u, rfl⟩
  · rintro d u rfl; exact absurd rfl hc

theorem codeBody_of_unescaped {body code after : Text} (h : Unescaped body code)
    (hu : Unclosed body (closing ++ after)) :
    codeBody (body ++ closing ++ after) = some (code, body.length + closing.length) := by
  induction h with
  | nil => rw [List.nil_append, codeBody_closing]; simp
  | plain hc _ ih =>
    obtain ⟨h1, h2⟩ := unclosed_plain hc hu
    rw [List.cons_append, List.cons_append, codeBody_plain hc (by rwa [List.append_assoc]), ih h2]
    simp only [Option.map_some, List.length_cons]
    congr 2
  | escaped c _ ih =>
    rw [List.cons_append, List.cons_append, List.cons_append, List.cons_append, codeBody, ih (unclosed_escaped.1 hu)]
    simp only [Option.map_some, List.length_cons]
    congr 2

theorem codeBody_eq_some {t code : Text} {n : Nat} (h : codeBody t = some (code, n)) :
    ∃ body after, t = body ++ closing ++ after ∧ n = body.length + closing.length ∧ Unescaped body code ∧
      Unclosed body (closing ++ after) := by
  fun_induction codeBody t generalizing code n with
  | case1 => cases h
  | case2 after =>
    cases h
    exact ⟨[], after, rfl, rfl, .nil, unclosed_nil _⟩
  | case3 c cs ih =>
    obtain ⟨⟨code', m⟩, hb, he⟩ := Option.map_eq_some_iff.1 h
    cases he
    obtain ⟨body, after, rfl, rfl, hu, hn⟩ := ih hb
    exact ⟨'\\' :: c :: body, after, rfl, by simp only [List.length_cons]; omega, .escaped c hu,
      unclosed_escaped.2 hn⟩
  | case4 c cs h1 h2 ih =>
    obtain ⟨⟨code', m⟩, hb, he⟩ := Option.map_eq_some_iff.1 h
    cases he
    obtain ⟨body, after, rfl, rfl, hu, hn⟩ := ih hb
    have hc : c ≠ '\\' := by
      rintro rfl
      cases body with
      | nil => exact h2 _ _ rfl rfl
      | cons d body => exact h2 _ _ rfl rfl
    have hp : ¬ closing <+: c :: (body ++ (closing ++ after)) := by
      rintro ⟨u, hu⟩
      rw [← List.append_assoc] at hu
      obtain ⟨hc, hu⟩ := List.cons.inj hu
      exact h1 u hc.symm hu.symm
    exact ⟨c :: body, after, rfl, by simp only [List.length_cons]; omega, .plain hc hu, unclosed_cons hc hp hn⟩

theorem codeBody_eq_none {t : Text} (h : codeBody t = none) : Unclosed t [] := by
  fun_induction codeBody t with
  | case1 => exact unclosed_nil _
  | case2 after => cases h
  | case3 c cs ih => exact unclosed_escaped.2 (ih (Option.map_eq_none_iff.1 h))
  | case4 c cs h1 h2 ih =>
    have hp : ¬ closing <+: c :: (cs ++ []) := by
      rw [List.append_nil]
      rintro ⟨u, hu⟩
      obtain ⟨hc, hu⟩ := List.cons.inj hu
      exact h1 u hc.symm hu.symm
    by_cases hc : c = '\\'
    · -- a backslash that escapes nothing is the last character of the text
      cases cs with
      | cons d cs => exact (h2 d cs hc rfl).elim
      | nil =>
        rintro a b code he hb -
        rw [List.append_nil]
        rcases List.append_eq_singleton_iff.1 he.symm with ⟨-, rfl⟩ | ⟨-, rfl⟩
        · rw [hc]; decide
        · exact absurd rfl hb
    · exact unclosed_cons hc hp (ih (Option.map_eq_none_iff.1 h))

theorem codeBody_of_unclosed {t : Text} (h : Unclosed t []) : codeBody t = none := by
  fun_induction codeBody t with
  | case1 => rfl
  | case2 after =>
    have := (unclosed_plain (by decide) h).1
    rw [List.append_nil] at this
    exact absurd ⟨after, rfl⟩ this
  | case3 c cs ih => rw [ih (unclosed_escaped.1 h)]; rfl
  | case4 c cs h1 h2 ih =>
    by_cases hc : c = '\\'
    · cases cs with
      | nil => rw [codeBody]; rfl
      | cons d cs => exact (h2 d cs hc rfl).elim
    · rw [ih (unclosed_plain hc h).2]; rfl

/-! ## Reading what is spelled -/

theorem length_of_mem_ordinalSuffixes {s : Text} (h : Text.lowered s ∈ ordinalSuffixes) : s.length = 2 := by
  have hl : ∀ u ∈ ordinalSuffixes, u.length = 2 := by decide
  rw [← @List.length_map _ _ s Char.toLower]
  exact hl _ h

theorem startsWithSuffix_iff (t : Text) : startsWithSuffix t = true ↔ Text.lowered (t.take 2) ∈ ordinalSuffixes := by
  rw [startsWithSuffix, List.contains_iff_mem]

theorem number_of_run {c : Char} {ds after : Text} (h : Run Char.isDigit (c :: ds) after)
    (hs : Text.lowered (after.take 2) ∉ ordinalSuffixes) :
    number c (ds ++ after) =
      ⟨if numberBound ≤ Text.value (c :: ds) then .error (.numberTooLarge (c :: ds))
        else .ok (.number (Text.value (c :: ds))), ds.length⟩ := by
  have hs : ¬ startsWithSuffix after = true := mt (startsWithSuffix_iff after).1 hs
  simp only [number, h.takeWhile_tail, List.drop_left, if_neg hs, Nat.add_zero]

theorem number_of_suffix {c : Char} {ds suffix after : Text} (h : Run Char.isDigit (c :: ds) (suffix ++ after))
    (hs : Text.lowered suffix ∈ ordinalSuffixes) :
    number c (ds ++ (suffix ++ after)) =
      ⟨if numberBound ≤ Text.value (c :: ds) then .error (.numberTooLarge (c :: ds))
        else .ok (.ordinal (Text.value (c :: ds))), (ds ++ suffix).length⟩ := by
  have hl := length_of_mem_ordinalSuffixes hs
  have hs : startsWithSuffix (suffix ++ after) = true := by
    rw [startsWithSuffix_iff, List.take_left' hl]; exact hs
  simp only [number, h.takeWhile_tail, List.drop_left, if_pos hs, List.length_append, hl]

theorem word_of_run {c : Char} {w after : Text} (h : Run Char.isAlpha (c :: w) after) :
    word c (w ++ after) =
      ⟨(Keyword.ofWord? (Text.lowered (c :: w))).elim (.error (.unexpectedWord (Text.lowered (c :: w))))
        fun k => .ok (.keyword k), w.length⟩ := by
  simp only [word, h.takeWhile_tail]

theorem code_opening (t : Text) :
    code (':' :: ':' :: t) =
      match codeBody t with
      | some (body, length) => ⟨.ok (.code body), 2 + length⟩
      | none => ⟨.error .unterminatedCode, t.length + 2⟩ := by
  rw [code, List.drop_succ_cons, List.drop_succ_cons, List.drop_zero]; rfl

/-- The lexeme cuts a word off a text, and says of it what the rules of spelling say. -/
def Judges (l : Lexeme) (t : Text) : Prop :=
  ∃ w after, t = w ++ after ∧ w.length = l.more + 1 ∧
    match l.kind with
    | .ok k => Spells k w after
    | .error cause => Spoils cause w after

theorem number_judges {c : Char} (hc : c.isDigit = true) (cs : Text) : (number c cs).Judges (c :: cs) := by
  have hr := run_takeWhile hc cs
  rw [← List.takeWhile_append_dropWhile (p := Char.isDigit) (l := cs)]
  generalize cs.takeWhile Char.isDigit = ds at hr ⊢
  generalize cs.dropWhile Char.isDigit = after at hr ⊢
  by_cases hs : Text.lowered (after.take 2) ∈ ordinalSuffixes
  · rw [← List.take_append_drop 2 after] at hr ⊢
    rw [number_of_suffix hr hs]
    refine ⟨c :: ds ++ after.take 2, after.drop 2, by simp, rfl, ?_⟩
    by_cases hb : numberBound ≤ Text.value (c :: ds)
    · rw [if_pos hb]; exact .ordinal hr hs hb
    · rw [if_neg hb]; exact .ordinal hr hs (Nat.lt_of_not_le hb)
  · rw [number_of_run hr hs]
    refine ⟨c :: ds, after, rfl, rfl, ?_⟩
    by_cases hb : numberBound ≤ Text.value (c :: ds)
    · rw [if_pos hb]; exact .number hr hs hb
    · rw [if_neg hb]; exact .number hr hs (Nat.lt_of_not_le hb)

theorem word_judges {c : Char} (hc : c.isAlpha = true) (cs : Text) : (word c cs).Judges (c :: cs) := by
  have hr := run_takeWhile hc cs
  rw [← List.takeWhile_append_dropWhile (p := Char.isAlpha) (l := cs), word_of_run hr]
  generalize cs.takeWhile Char.isAlpha = w at hr ⊢
  refine ⟨c :: w, _, rfl, rfl, ?_⟩
  cases hk : Keyword.ofWord? (Text.lowered (c :: w)) with
  | some k => exact .keyword hr (Keyword.ofWord?_eq_some_iff.1 hk).symm
  | none =>
    refine .word hr fun k h => ?_
    rw [Keyword.ofWord?_eq_some_iff.2 h] at hk
    cases hk

theorem code_judges {c : Char} {cs : Text} (h : opening <+: c :: cs) : (code cs).Judges (c :: cs) := by
  obtain ⟨t, ht⟩ := h
  obtain ⟨rfl, rfl⟩ : c = '{' ∧ cs = ':' :: ':' :: t := by simpa [opening, eq_comm] using ht
  rw [code_opening]
  cases hb : codeBody t with
  | some p =>
    obtain ⟨code, n⟩ := p
    obtain ⟨body, after, rfl, rfl, hu, hn⟩ := codeBody_eq_some hb
    exact ⟨opening ++ body ++ closing, after, by simp [opening], by simp [opening]; omega, .code hu hn⟩
  | none => exact ⟨opening ++ t, [], by simp [opening], by simp [opening], .code (codeBody_eq_none hb)⟩

/-- **What is read at a character that is no blank is spelled as the rules say**, or spoils the text as they say. -/
theorem read_judges {c : Char} (hc : Text.isBlank c = false) (cs : Text) : (read c cs).Judges (c :: cs) := by
  unfold read
  split
  · exact number_judges ‹_› cs
  split
  · exact code_judges (List.isPrefixOf_iff_prefix.1 ‹_›)
  split
  · exact word_judges ‹_› cs
  split
  · subst_vars; exact ⟨[','], cs, rfl, rfl, .separator cs⟩
  · rename_i h1 h2 h3 h4
    rw [List.isPrefixOf_iff_prefix] at h2
    exact ⟨[c], cs, rfl, rfl, .character hc (by simpa using h1) (by simpa using h3) h4 h2⟩

theorem read_digit {c : Char} (hc : c.isDigit = true) (cs : Text) : read c cs = number c cs := if_pos hc

theorem read_alpha {c : Char} (hc : c.isAlpha = true) (cs : Text) : read c cs = word c cs := by
  have hd := isDigit_eq_false_of_isAlpha hc
  have ho : opening.isPrefixOf (c :: cs) = false := by
    rw [opening, List.isPrefixOf, Bool.and_eq_false_iff, beq_eq_false_iff_ne]
    left; rintro rfl; revert hc; decide
  rw [read, if_neg (by simp [hd]), if_neg (by simp [ho]), if_pos hc]

theorem read_opening (t : Text) : read '{' (':' :: ':' :: t) = code (':' :: ':' :: t) := by
  have ho : opening.isPrefixOf ('{' :: ':' :: ':' :: t) = true := List.isPrefixOf_iff_prefix.2 ⟨t, rfl⟩
  rw [read, if_neg (by decide), if_pos ho]

/-- **What is spelled as the rules say is read.** -/
theorem read_of_spells {k : Token.Kind} {c : Char} {w after : Text} (h : Spells k (c :: w) after) :
    read c (w ++ after) = ⟨.ok k, w.length⟩ := by
  generalize hv : c :: w = v at h
  cases h with
  | separator =>
    obtain ⟨rfl, rfl⟩ := List.cons.inj hv
    rfl
  | keyword hr hk =>
    subst hv
    rw [read_alpha (hr.all c (by simp)), word_of_run hr, Keyword.ofWord?_eq_some_iff.2 hk.symm]; rfl
  | number hr hs hb =>
    subst hv
    rw [read_digit (hr.all c (by simp)), number_of_run hr hs, if_neg (Nat.not_le.2 hb)]
  | @ordinal ds suffix _ hr hs hb =>
    cases ds with
    | nil => exact absurd rfl hr.ne_nil
    | cons d ds =>
      rw [List.cons_append, List.cons.injEq] at hv
      obtain ⟨rfl, rfl⟩ := hv
      rw [List.append_assoc, read_digit (hr.all c (by simp)), number_of_suffix hr hs, if_neg (Nat.not_le.2 hb)]
  | @code body _ _ hu hn =>
    obtain ⟨rfl, rfl⟩ := List.cons.inj hv
    show read '{' (':' :: ':' :: (body ++ closing ++ after)) = _
    rw [read_opening, code_opening, codeBody_of_unescaped hu hn]
    simp; omega

/-- **What spoils a text as the rules say is refused for the cause they name.** -/
theorem read_of_spoils {cause : Diagnostic.Cause} {c : Char} {w after : Text} (h : Spoils cause (c :: w) after) :
    read c (w ++ after) = ⟨.error cause, w.length⟩ := by
  generalize hv : c :: w = v at h
  cases h with
  | word hr hk =>
    subst hv
    have hn : Keyword.ofWord? (Text.lowered (c :: w)) = none := by
      rw [Option.eq_none_iff_forall_ne_some]
      exact fun k h => hk k (Keyword.ofWord?_eq_some_iff.1 h)
    rw [read_alpha (hr.all c (by simp)), word_of_run hr, hn]; rfl
  | number hr hs hb =>
    subst hv
    rw [read_digit (hr.all c (by simp)), number_of_run hr hs, if_pos hb]
  | @ordinal ds suffix _ hr hs hb =>
    cases ds with
    | nil => exact absurd rfl hr.ne_nil
    | cons d ds =>
      rw [List.cons_append, List.cons.injEq] at hv
      obtain ⟨rfl, rfl⟩ := hv
      rw [List.append_assoc, read_digit (hr.all c (by simp)), number_of_suffix hr hs, if_pos hb]
  | @code body hn =>
    obtain ⟨rfl, rfl⟩ := List.cons.inj hv
    show read '{' (':' :: ':' :: (body ++ [])) = _
    rw [List.append_nil, read_opening, code_opening, codeBody_of_unclosed hn]
    simp
  | character hb hd ha hc ho =>
    obtain ⟨rfl, rfl⟩ := List.cons.inj hv
    rw [← List.isPrefixOf_iff_prefix] at ho
    show read c after = _
    rw [read, if_neg (by simp [hd]), if_neg ho, if_neg (by simp [ha]), if_neg hc]; rfl

/-! ## Words and blanks -/

theorem isAlpha_eq_false_of_isBlank {c : Char} (h : Text.isBlank c = true) : c.isAlpha = false := by
  rw [← Bool.not_eq_true, isAlpha_iff]
  intro ha
  rw [isBlank_eq_false_of_range (by omega)] at h
  cases h

theorem isDigit_eq_false_of_isBlank {c : Char} (h : Text.isBlank c = true) : c.isDigit = false := by
  rw [← Bool.not_eq_true, isDigit_iff]
  intro ha
  rw [isBlank_eq_false_of_range (by omega)] at h
  cases h

theorem isBlank_eq_false_of {p : Char → Bool} (hp : ∀ {d}, Text.isBlank d = true → p d = false) {c : Char}
    (hc : p c = true) : Text.isBlank c = false := by
  rw [← Bool.not_eq_true]
  intro hb
  rw [hp hb] at hc
  cases hc

theorem Run.exists_cons {p : Char → Bool} (hp : ∀ {d}, Text.isBlank d = true → p d = false) {w after : Text}
    (h : Run p w after) : ∃ c v, w = c :: v ∧ Text.isBlank c = false := by
  obtain ⟨c, v, rfl⟩ := List.exists_cons_of_ne_nil h.ne_nil
  exact ⟨c, v, rfl, isBlank_eq_false_of hp (h.all c (by simp))⟩

/-- A word that spells a token is not empty and begins with no blank. -/
theorem Spells.exists_cons {k : Token.Kind} {w after : Text} (h : Spells k w after) :
    ∃ c v, w = c :: v ∧ Text.isBlank c = false := by
  cases h with
  | separator => exact ⟨',', [], rfl, by decide⟩
  | keyword hr => exact hr.exists_cons isAlpha_eq_false_of_isBlank
  | number hr => exact hr.exists_cons isDigit_eq_false_of_isBlank
  | ordinal hr =>
    obtain ⟨c, v, rfl, hc⟩ := hr.exists_cons isDigit_eq_false_of_isBlank
    exact ⟨c, v ++ _, rfl, hc⟩
  | code => exact ⟨'{', _, rfl, by decide⟩

/-- A word that spoils a text is not empty and begins with no blank. -/
theorem Spoils.exists_cons {cause : Diagnostic.Cause} {w after : Text} (h : Spoils cause w after) :
    ∃ c v, w = c :: v ∧ Text.isBlank c = false := by
  cases h with
  | word hr => exact hr.exists_cons isAlpha_eq_false_of_isBlank
  | number hr => exact hr.exists_cons isDigit_eq_false_of_isBlank
  | ordinal hr =>
    obtain ⟨c, v, rfl, hc⟩ := hr.exists_cons isDigit_eq_false_of_isBlank
    exact ⟨c, v ++ _, rfl, hc⟩
  | code => exact ⟨'{', _, rfl, by decide⟩
  | character hb => exact ⟨_, [], rfl, hb⟩

theorem Spoils.malformed {cause : Diagnostic.Cause} {w after : Text} (h : Spoils cause w after) :
    cause.kind = .malformed := by cases h <;> rfl

/-! ## Locality

Of the text after a word, only what stands directly after it matters.  So a word spells the same token when that text
is cut off somewhere, as long as the cut is made at a blank or at the end. -/

/-- The text is empty or begins with a blank. -/
def Breaks (t : Text) : Prop := ∀ c ∈ t.head?, Text.isBlank c = true

theorem isBlank_of_mem_space : ∀ c ∈ [' '], Text.isBlank c = true := List.forall_mem_singleton.2 (by decide)

theorem breaks_space : Breaks [' '] := fun c hc => isBlank_of_mem_space c (List.mem_of_mem_head? hc)

theorem isAlpha_of_mem_suffix {s : Text} (h : Text.lowered s ∈ ordinalSuffixes) : ∀ c ∈ s, c.isAlpha = true := by
  intro c hc
  have hl : ∀ u ∈ ordinalSuffixes, u.all Char.isAlpha = true := by decide
  exact isAlpha_of_toLower (List.all_eq_true.1 (hl _ h) _ (List.mem_map_of_mem hc))

/-- A word that spells a token ends in no blank. -/
theorem Spells.getLast_not_blank {k : Token.Kind} {w after : Text} (h : Spells k w after) :
    ∀ c ∈ w.getLast?, Text.isBlank c = false := by
  intro c hc
  have hm := List.mem_of_getLast? hc
  cases h with
  | separator => cases hc; decide
  | keyword hr => exact isBlank_eq_false_of isAlpha_eq_false_of_isBlank (hr.all c hm)
  | number hr => exact isBlank_eq_false_of isDigit_eq_false_of_isBlank (hr.all c hm)
  | ordinal hr hs =>
    rcases List.mem_append.1 hm with hm | hm
    · exact isBlank_eq_false_of isDigit_eq_false_of_isBlank (hr.all c hm)
    · exact isBlank_eq_false_of isAlpha_eq_false_of_isBlank (isAlpha_of_mem_suffix hs c hm)
  | code =>
    rw [List.getLast?_append, show closing.getLast? = some '}' from rfl, Option.some_or] at hc
    cases hc
    decide

theorem Run.of_breaks {p : Char → Bool} (hp : ∀ c, Text.isBlank c = true → p c = false) {w a b b' : Text}
    (h : Run p w (a ++ b)) (hb : Breaks b') : Run p w (a ++ b') where
  ne_nil := h.ne_nil
  all := h.all
  stops := by
    cases a with
    | nil => exact fun c hc => hp c (hb c hc)
    | cons d a => exact h.stops

theorem suffix_of_breaks {a b b' : Text} (hb : Breaks b') (h : Text.lowered ((a ++ b').take 2) ∈ ordinalSuffixes) :
    Text.lowered ((a ++ b).take 2) ∈ ordinalSuffixes := by
  have hl := length_of_mem_ordinalSuffixes h
  have ha := isAlpha_of_mem_suffix h
  have letter {c : Char} {t : Text} (ht : b' = c :: t) : c.isAlpha = false :=
    isAlpha_eq_false_of_isBlank (hb c (by rw [ht]; rfl))
  rcases a with _ | ⟨d, _ | ⟨e, a⟩⟩
  · cases hb' : b' with
    | nil => rw [hb'] at hl; simp at hl
    | cons c t => rw [hb'] at ha; simpa [letter hb'] using ha c (by simp)
  · cases hb' : b' with
    | nil => rw [hb'] at hl; simp at hl
    | cons c t => rw [hb'] at ha; simpa [letter hb'] using ha c (by simp)
  · exact h

/-- **A word spells the same token when the text after it is cut off at a blank or at the end.** -/
theorem Spells.of_breaks {k : Token.Kind} {w a b b' : Text} (h : Spells k w (a ++ b)) (hb : Breaks b') :
    Spells k w (a ++ b') := by
  generalize hab : a ++ b = after at h
  cases h with
  | separator => exact .separator _
  | keyword hr hk =>
    subst hab
    exact .keyword (hr.of_breaks (fun _ => isAlpha_eq_false_of_isBlank) hb) hk
  | number hr hm hn =>
    subst hab
    exact .number (hr.of_breaks (fun _ => isDigit_eq_false_of_isBlank) hb) (fun h => hm (suffix_of_breaks hb h)) hn
  | @ordinal ds suffix _ hr hm hn =>
    refine .ordinal ?_ hm hn
    have := length_of_mem_ordinalSuffixes hm
    cases suffix with
    | nil => simp at this
    | cons c suffix => exact ⟨hr.ne_nil, hr.all, hr.stops⟩
  | code hu hn =>
    exact .code hu hn.of_closing

end Lexeme
end Recurrence
