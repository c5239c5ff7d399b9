import Recurrence.Proofs.Comment
import Recurrence.Proofs.Token.Spelling
import Recurrence.Query.Written
/-!
# Words — spellings of each kind of token

A keyword may be written in any case, a number with zeros in front and an ordinal with any of the four suffixes; a
block of code may be written with a backslash before each character.  Such a word spells its token wherever the text
after it does not go on with it, and no comment opens in it.
-/
namespace Recurrence

namespace Keyword

theorem word_ne_nil (k : Keyword) : k.word ≠ [] := by
  have h : ∀ k ∈ all, k.word ≠ [] := by decide
  exact h k (mem_all k)

theorem isAlpha_of_mem_word {k : Keyword} {c : Char} (hc : c ∈ k.word) : c.isAlpha = true := by
  have h : ∀ k ∈ all, k.word.all Char.isAlpha = true := by decide +kernel
  exact List.all_eq_true.1 (h k (mem_all k)) c hc

theorem lowered_word (k : Keyword) : Text.lowered k.word = k.word := by
  have h : ∀ k ∈ all, Text.lowered k.word = k.word := by decide +kernel
  exact h k (mem_all k)

end Keyword

namespace Lexeme

/-- No word goes on into the text. -/
def Parts (t : Text) : Prop := ∀ c ∈ t.head?, c.isAlpha = false ∧ c.isDigit = false

theorem parts_cons {c : Char} (h : c.isAlpha = false ∧ c.isDigit = false) (t : Text) : Parts (c :: t) := by
  intro d hd
  cases hd
  exact h

theorem spells_keyword {k : Keyword} {w after : Text} (hw : Text.lowered w = k.word) (ha : Parts after) :
    Spells (.keyword k) w after := by
  refine .keyword ⟨?_, fun c hc => ?_, fun c hc => (ha c hc).1⟩ hw
  · rintro rfl
    exact k.word_ne_nil hw.symm
  · have hl : c.toLower ∈ k.word := by rw [← hw]; exact List.mem_map_of_mem hc
    exact isAlpha_of_toLower (Keyword.isAlpha_of_mem_word hl)

theorem suffix_parts {t : Text} (h : Parts t) : Text.lowered (t.take 2) ∉ ordinalSuffixes := by
  intro hm
  cases t with
  | nil => exact absurd hm (by decide)
  | cons c t =>
    have := isAlpha_of_mem_suffix hm c (by simp)
    rw [(h c rfl).1] at this
    cases this

theorem spells_number {ds after : Text} (hn : ds ≠ []) (hd : ∀ c ∈ ds, c.isDigit = true)
    (hb : Text.value ds < numberBound) (ha : Parts after) : Spells (.number (Text.value ds)) ds after :=
  .number ⟨hn, hd, fun c hc => (ha c hc).2⟩ (suffix_parts ha) hb

theorem spells_ordinal {ds suffix : Text} (hn : ds ≠ []) (hd : ∀ c ∈ ds, c.isDigit = true)
    (hs : Text.lowered suffix ∈ ordinalSuffixes) (hb : Text.value ds < numberBound) (after : Text) :
    Spells (.ordinal (Text.value ds)) (ds ++ suffix) after := by
  refine .ordinal ⟨hn, hd, fun c hc => ?_⟩ hs hb
  have hl := length_of_mem_ordinalSuffixes hs
  cases suffix with
  | nil => simp at hl
  | cons d suffix =>
    cases hc
    exact isDigit_eq_false_of_isAlpha (isAlpha_of_mem_suffix hs c (by simp))

theorem unescaped_flatMap : ∀ code : Text, Unescaped (code.flatMap fun c => ['\\', c]) code
  | [] => .nil
  | c :: code => .escaped c (unescaped_flatMap code)

theorem unclosed_flatMap (after : Text) : ∀ code : Text, Unclosed (code.flatMap fun c => ['\\', c]) after
  | [] => unclosed_nil after
  | _ :: code => unclosed_escaped.2 (unclosed_flatMap after code)

/-- **A block of code with every character escaped is read as the code**, whatever the code is. -/
theorem spells_quotedCode (code after : Text) : Spells (.code code) (Text.quotedCode code) after :=
  .code (unescaped_flatMap code) (unclosed_flatMap _ code)

/-! ## Words and comments -/

open Comment (Inert Free free_cons free_of_forall inert_of_forall)

theorem inert_of_letters {w : Text} (h : ∀ c ∈ w, c.isAlpha = true ∨ c.isDigit = true) : Inert w :=
  inert_of_forall fun c hc => by
    constructor
    · rintro rfl; exact absurd (h _ hc) (by decide)
    · rintro rfl; exact absurd (h _ hc) (by decide)

theorem free_quotedCode : ∀ {code : Text}, '#' ∉ code → Free (code.flatMap (fun c => ['\\', c]) ++ closing)
  | [], _ => free_of_forall (by simp [closing])
  | c :: code, h => by
    have hc : c ≠ '#' := fun hc => h (by rw [hc]; exact List.mem_cons_self)
    have ih := free_quotedCode fun hm => h (List.mem_cons_of_mem c hm)
    have hn : ¬ Comment.Continues (code.flatMap (fun c => ['\\', c]) ++ closing) := by
      cases code <;> simp [Comment.Continues, closing]
    exact (free_cons _ _).2 ⟨by decide, fun hs => absurd hs (by decide), (free_cons _ _).2 ⟨hc, fun _ => hn, ih⟩⟩

theorem inert_quotedCode {code : Text} (h : '#' ∉ code) : Inert (Text.quotedCode code) := by
  rw [Text.quotedCode, List.append_assoc]
  refine (inert_of_forall (by simp [opening])).append ⟨free_quotedCode h, ?_⟩
  rw [List.getLast?_append, show closing.getLast? = some '}' from rfl, Option.some_or]
  decide

end Lexeme
end Recurrence
