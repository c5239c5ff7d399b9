import Recurrence.Proofs.Comment
/-!
# Divisions — the characters and comments of a text

Read from its start, a text falls into characters outside comments and whole comments (`Division.exists_sound`).
Cutting comments out leaves of each part its residue (`Division.cut_text`), and with it all newlines of the part
(`Division.count_residue`).
-/
namespace Recurrence
namespace Comment

/-- A part of a text: a character outside comments, a comment up to the end of its line, or a block comment. -/
inductive Part where
  | kept (c : Char)
  | line (comment : Text)
  | block (comment : Text)
deriving DecidableEq, Repr

namespace Part

def text : Part → Text
  | kept c => [c]
  | line w => w
  | block w => w

/-- What is left of it when comments are cut out. -/
def residue : Part → Text
  | kept c => [c]
  | line _ => []
  | block w => gap (w.count '\n')

end Part

/-- A comment that runs to the end of its line. -/
def IsLine (w : Text) : Prop := ∃ note, '\n' ∉ note ∧ (w = '/' :: '/' :: note ∨ w = '#' :: note)

/-- A block comment with its closing mark, the first after its opening. -/
def IsClosed (w : Text) : Prop := ∃ note, ¬ ['*', '/'] <:+: note ∧ w = '/' :: '*' :: (note ++ ['*', '/'])

/-- A block comment that is never closed. -/
def IsUnclosed (w : Text) : Prop := ∃ note, ¬ ['*', '/'] <:+: note ∧ w = '/' :: '*' :: note

/-- Characters and comments one after the other. -/
abbrev Division := List Part

namespace Division

def text (d : Division) : Text := d.flatMap Part.text

def residue (d : Division) : Text := d.flatMap Part.residue

/-- The parts are those of their text: no comment opens at a character that is kept, a comment up to the end of its line
is followed by a newline or by nothing, and so by nothing is a block comment that is not closed. -/
def Sound : Division → Prop
  | [] => True
  | .kept c :: d => c ≠ '#' ∧ (c = '/' → ¬ Continues (text d)) ∧ Sound d
  | .line w :: d => IsLine w ∧ (∀ c ∈ (text d).head?, c = '\n') ∧ Sound d
  | .block w :: d => (IsClosed w ∨ IsUnclosed w ∧ d = []) ∧ Sound d

@[simp] theorem text_nil : text [] = [] := rfl

@[simp] theorem text_cons (p : Part) (d : Division) : text (p :: d) = p.text ++ text d := by simp [text]

@[simp] theorem text_append (a b : Division) : text (a ++ b) = text a ++ text b := by simp [text]

@[simp] theorem residue_nil : residue [] = [] := rfl

@[simp] theorem residue_cons (p : Part) (d : Division) : residue (p :: d) = p.residue ++ residue d := by simp [residue]

@[simp] theorem residue_append (a b : Division) : residue (a ++ b) = residue a ++ residue b := by simp [residue]

end Division

/-! ## Every text is divided -/

theorem not_continues_of_append {a b : Text} (h : ¬ Continues (a ++ b)) : ¬ Continues a := by
  cases a with
  | nil => simp [Continues]
  | cons c a => exact h

/-- The text up to the end of its line, and what follows. -/
theorem exists_line (t : Text) : ∃ note rest, t = note ++ rest ∧ '\n' ∉ note ∧ ∀ c ∈ rest.head?, c = '\n' := by
  refine ⟨t.takeWhile (· ≠ '\n'), t.dropWhile (· ≠ '\n'), List.takeWhile_append_dropWhile.symm, fun h => ?_,
    fun c hc => ?_⟩
  · have := List.all_eq_true.1 List.all_takeWhile _ h
    simp at this
  · have := List.head?_dropWhile_not (· ≠ '\n') t
    rw [hc] at this
    simpa using this

/-- The text up to the first closing mark, if there is one. -/
theorem exists_closing (t : Text) :
    (∃ note rest, t = note ++ '*' :: '/' :: rest ∧ ¬ ['*', '/'] <:+: note) ∨ ¬ ['*', '/'] <:+: t := by
  induction t with
  | nil => exact .inr (by simp)
  | cons c t ih =>
    by_cases hc : '*' = c ∧ t.head? = some '/'
    · obtain ⟨rfl, hhead⟩ := hc
      obtain ⟨rest, rfl⟩ := List.head?_eq_some_iff.1 hhead
      exact .inl ⟨[], rest, rfl, by simp⟩
    · rcases ih with ⟨note, rest, rfl, hnote⟩ | hn
      · refine .inl ⟨c :: note, rest, rfl, ?_⟩
        rw [infix_pair_cons, not_or]
        refine ⟨fun h => hc ⟨h.1, ?_⟩, hnote⟩
        rw [List.head?_append, h.2, Option.some_or]
      · refine .inr ?_
        rw [infix_pair_cons, not_or]
        exact ⟨hc, hn⟩

namespace Division

/-- **Every text is divided.** -/
theorem exists_sound (t : Text) : ∃ d : Division, d.Sound ∧ d.text = t := by
  match t with
  | [] => exact ⟨[], trivial, rfl⟩
  | c :: cs =>
    by_cases hhash : c = '#'
    · obtain ⟨note, rest, rfl, hnote, hrest⟩ := exists_line cs
      obtain ⟨d, hd, rfl⟩ := exists_sound rest
      exact ⟨.line (c :: note) :: d, ⟨⟨note, hnote, .inr (by rw [hhash])⟩, hrest, hd⟩, by simp [Part.text]⟩
    by_cases hopen : c = '/' ∧ Continues cs
    · obtain ⟨rfl, hslash | hstar⟩ := hopen
      · obtain ⟨us, rfl⟩ := List.head?_eq_some_iff.1 hslash
        obtain ⟨note, rest, rfl, hnote, hrest⟩ := exists_line us
        obtain ⟨d, hd, rfl⟩ := exists_sound rest
        exact ⟨.line ('/' :: '/' :: note) :: d, ⟨⟨note, hnote, .inl rfl⟩, hrest, hd⟩, by simp [Part.text]⟩
      · obtain ⟨us, rfl⟩ := List.head?_eq_some_iff.1 hstar
        rcases exists_closing us with ⟨note, rest, rfl, hnote⟩ | hn
        · obtain ⟨d, hd, rfl⟩ := exists_sound rest
          exact ⟨.block ('/' :: '*' :: (note ++ ['*', '/'])) :: d, ⟨.inl ⟨note, hnote, rfl⟩, hd⟩, by simp [Part.text]⟩
        · exact ⟨[.block ('/' :: '*' :: us)], ⟨.inr ⟨⟨us, hn, rfl⟩, rfl⟩, trivial⟩, by simp [Part.text]⟩
    · obtain ⟨d, hd, rfl⟩ := exists_sound cs
      exact ⟨.kept c :: d, ⟨hhash, fun hc hn => hopen ⟨hc, hn⟩, hd⟩, rfl⟩
termination_by t.length
decreasing_by all_goals subst_vars; simp only [List.length_cons, List.length_append]; omega

/-- **Cutting comments out leaves of each part its residue.** -/
theorem cut_text : ∀ {d : Division}, d.Sound → cut .phrase d.text = d.residue
  | [], _ => by rw [text_nil, residue_nil, cut]
  | .kept c :: d, ⟨hhash, hslash, hd⟩ => by
    rw [text_cons, residue_cons, Part.text, List.singleton_append, cut_cons hhash hslash, cut_text hd]; rfl
  | .line w :: d, ⟨⟨note, hnote, hw⟩, hnext, hd⟩ => by
    rw [text_cons, residue_cons, Part.text, ← cut_text hd]
    rcases hw with rfl | rfl
    · rw [List.cons_append, List.cons_append, cut, cut_line_append hnote hnext]; rfl
    · rw [List.cons_append, cut, cut_line_append hnote hnext]; rfl
  | .block w :: d, ⟨hw, hd⟩ => by
    rw [text_cons, residue_cons, Part.text, ← cut_text hd]
    rcases hw with ⟨note, hnote, rfl⟩ | ⟨⟨note, hnote, rfl⟩, rfl⟩
    · have hcount : ('/' :: '*' :: (note ++ ['*', '/'])).count '\n' = 0 + note.count '\n' := by simp
      rw [Part.residue, hcount, ← cut_block_append hnote, List.cons_append, List.cons_append, cut, List.append_assoc]
      rfl
    · have hcount : ('/' :: '*' :: note).count '\n' = 0 + note.count '\n' := by simp
      rw [Part.residue, hcount, ← cut_block_unclosed hnote, text_nil, List.append_nil, cut, cut, List.append_nil]

theorem Sound.left : ∀ {a b : Division}, Sound (a ++ b) → a.Sound
  | [], _, _ => trivial
  | .kept c :: a, b, h => by
    rw [List.cons_append] at h
    obtain ⟨hhash, hslash, hd⟩ := h
    rw [text_append] at hslash
    exact ⟨hhash, fun hc => not_continues_of_append (hslash hc), hd.left⟩
  | .line w :: a, b, h => by
    rw [List.cons_append] at h
    obtain ⟨hw, hnext, hd⟩ := h
    refine ⟨hw, fun c hc => hnext c ?_, hd.left⟩
    rw [text_append, List.head?_append, hc]; rfl
  | .block w :: a, b, h => by
    rw [List.cons_append] at h
    obtain ⟨hw, hd⟩ := h
    exact ⟨hw.imp_right fun h => ⟨h.1, (List.append_eq_nil_iff.1 h.2).1⟩, hd.left⟩

theorem Sound.right : ∀ {a b : Division}, Sound (a ++ b) → b.Sound
  | [], _, h => h
  | .kept _ :: _, _, h => h.2.2.right
  | .line _ :: _, _, h => h.2.2.right
  | .block _ :: _, _, h => h.2.right

end Division

theorem IsLine.not_mem {w : Text} (h : IsLine w) : '\n' ∉ w := by
  obtain ⟨note, hnote, rfl | rfl⟩ := h <;> simpa using hnote

theorem IsLine.head?_ne {w : Text} (h : IsLine w) : w.head? ≠ some '\n' := by
  obtain ⟨note, -, rfl | rfl⟩ := h <;> simp

theorem count_gap : ∀ n, (gap n).count '\n' = n
  | 0 => rfl
  | _ + 1 => List.count_replicate_self

/-- **The residue has all newlines of the text.** -/
theorem Division.count_residue : ∀ {d : Division}, d.Sound → d.residue.count '\n' = d.text.count '\n'
  | [], _ => rfl
  | .kept c :: d, ⟨_, _, hd⟩ => by
    rw [residue_cons, text_cons, List.count_append, List.count_append, count_residue hd]; rfl
  | .line w :: d, ⟨hw, _, hd⟩ => by
    rw [residue_cons, text_cons, List.count_append, List.count_append, count_residue hd, Part.text,
      List.count_eq_zero.2 hw.not_mem]; rfl
  | .block w :: d, ⟨_, hd⟩ => by
    rw [residue_cons, text_cons, List.count_append, List.count_append, count_residue hd, Part.residue, count_gap]; rfl

end Comment
end Recurrence
