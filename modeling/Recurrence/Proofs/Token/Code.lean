import Recurrence.Proofs.Query.RoundTrip
import Recurrence.Proofs.Token.Tiling
/-!
# Code — which blocks of code can be written

Comments are cut out before blocks of code are looked for, so what opens a comment opens one in code as well.  A
backslash before each character keeps `//` and `/*` apart, and it keeps the closing mark from being read too early; but
nothing keeps a number sign.  So code can be written if and only if it has no number sign (`Token.code_written_iff`).
-/
namespace Recurrence

/-- Taking the escaping backslashes away adds no character. -/
theorem Lexeme.Unescaped.sublist {body code : Text} (h : Unescaped body code) : code.Sublist body := by
  induction h with
  | nil => exact .slnil
  | plain _ _ ih => exact ih.cons_cons _
  | escaped c _ ih => exact (ih.cons_cons c).cons '\\'

/-- Code stands between its marks in the text, so it has no characters but those of the text. -/
theorem Lexeme.Spells.subset_of_code {code w after : Text} (h : Spells (.code code) w after) : code ⊆ w := by
  cases h with
  | code hu => exact fun c hc => List.mem_append_left _ (List.mem_append_right _ (hu.sublist.subset hc))

namespace Token

/-- Code that a text has holds no number sign. -/
theorem not_mem_code_of_ofText {source code : Text} {tokens : List Token} {k : Token}
    (h : ofText source = .ok tokens) (hk : k ∈ tokens) (hcode : k.value = .code code) : '#' ∉ code := by
  obtain ⟨i, j, -, -, -, -, hw⟩ := (tiles_of_ofText h).placed k hk
  rw [hcode] at hw
  intro hmem
  obtain ⟨n, -, -, hn⟩ := Text.mem_slice (hw.subset_of_code hmem)
  exact (Text.free_withoutComments source).1 (List.mem_of_getElem? hn)

/-- Code with every character escaped, after the word for code, is read as these two. -/
theorem exists_tokens_quotedCode {code : Text} (h : '#' ∉ code) :
    ∃ tokens, ofText (Keyword.code.word ++ Text.quotedCode code) = .ok tokens ∧
      tokens.map Located.value = [.keyword .code, .code code] := by
  let l : Layout := [⟨[], Keyword.code.word, .keyword .code⟩, ⟨[], Text.quotedCode code, .code code⟩]
  have htext : l.text = Keyword.code.word ++ Text.quotedCode code := by simp [l]
  have hword : Lexeme.Spells (.keyword .code) Keyword.code.word (Layout.text l.tail ++ [' ']) :=
    Lexeme.spells_word .code (Lexeme.parts_cons (by decide) _)
  have hsound : l.Sound [' '] := ⟨by simp, hword, by simp, Lexeme.spells_quotedCode code _, trivial⟩
  have hinert := (Lexeme.inert_word .code).append (Lexeme.inert_quotedCode h)
  have hscan := scanAll_of_sound hsound Lexeme.isBlank_of_mem_space
  rw [htext, ← Text.withoutComments_of_free hinert.1] at hscan
  exact ⟨_, hscan, Layout.tokens_value _ l 0⟩

/-- **Code can be written if and only if it has no number sign**: then a backslash before each of its characters makes
it a block of code, whatever marks are in it. -/
theorem code_written_iff (code : Text) :
    ((∃ source tokens, ofText source = .ok tokens ∧ ∃ k ∈ tokens, k.value = .code code) ↔ '#' ∉ code) ∧
      ('#' ∉ code → ∃ tokens, ofText (Keyword.code.word ++ Text.quotedCode code) = .ok tokens ∧
        tokens.map Located.value = [.keyword .code, .code code]) := by
  refine ⟨⟨?_, fun h => ?_⟩, exists_tokens_quotedCode⟩
  · rintro ⟨source, tokens, h, k, hk, hcode⟩
    exact not_mem_code_of_ofText h hk hcode
  · obtain ⟨tokens, ht, hkinds⟩ := exists_tokens_quotedCode h
    have hmem : .code code ∈ tokens.map Located.value := by rw [hkinds]; simp
    obtain ⟨k, hk, hcode⟩ := List.mem_map.1 hmem
    exact ⟨_, tokens, ht, k, hk, hcode⟩

/-- Code full of marks: closing marks, backslashes, a newline and what opens comments. -/
def fullOfMarks : Text := "::\x7d \\\n// /* \x7b::".toList

theorem code_written_iff_fullOfMarks :
    '#' ∉ fullOfMarks ∧ ∃ tokens, ofText (Keyword.code.word ++ Text.quotedCode fullOfMarks) = .ok tokens ∧
      tokens.map Located.value = [.keyword .code, .code fullOfMarks] := by
  have h : '#' ∉ fullOfMarks := by decide +kernel
  exact ⟨h, (code_written_iff fullOfMarks).2 h⟩

end Token
end Recurrence
