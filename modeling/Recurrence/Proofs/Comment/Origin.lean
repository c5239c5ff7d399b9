import Mathlib.Data.List.Basic
import Mathlib.Data.List.Induction
import Recurrence.Proofs.Comment.Division
import Recurrence.Proofs.Query.Place
/-!
# Origins — where the characters of a text without comments come from

Each character of a text without comments is copied from the source, or it is the blank that stands for a block comment
on one line, or it marks the end.  What is copied keeps its order and its line (`Comment.Division.explains`), and its
column too, where no block comment is on the line and no comment ends there.  So every token, and every fault of the
scan or the reader, names the line on which it starts in the source (`Text.withoutComments_inPlace`).
-/
namespace Recurrence

/-- Before a newline stand those that are listed before it. -/
theorem Text.exists_of_idxsOf {i j m : Nat} {t : Text} (h : (t.idxsOf '\n' i)[m]? = some j) :
    ∃ k, j = i + k ∧ t[k]? = some '\n' ∧ (t.take k).count '\n' = m := by
  induction t generalizing i m with
  | nil => cases h
  | cons c t ih =>
    rw [List.idxsOf_cons] at h
    by_cases hc : c = '\n'
    · rw [if_pos (beq_iff_eq.2 hc)] at h
      cases m with
      | zero => cases h; exact ⟨0, rfl, by simp [hc], rfl⟩
      | succ m =>
        obtain ⟨k, rfl, hk, hcount⟩ := ih h
        exact ⟨k + 1, by omega, hk, by rw [List.take_succ_cons, hc, List.count_cons_self, hcount]⟩
    · rw [if_neg (by simpa using hc)] at h
      obtain ⟨k, rfl, hk, hcount⟩ := ih h
      exact ⟨k + 1, by omega, hk, by rw [List.take_succ_cons, List.count_cons_of_ne hc, hcount]⟩

namespace Position

/-- The position behind the characters `t`. -/
theorem of_length (t rest : Text) : of (t ++ rest) t.length = ⟨t.length, t.count '\n' + 1, trailing t + 1⟩ := by
  simp [of]

theorem line_of_append (t rest : Text) {v : Text} {k : Nat} (hk : k ≤ v.length) :
    (of (t ++ (v ++ rest)) (t.length + k)).line = t.count '\n' + (v.take k).count '\n' + 1 := by
  rw [of, List.take_length_add_append, List.take_append_of_le_length hk, List.count_append]

end Position

namespace Comment

/-- Where a character of a text without comments comes from. -/
inductive Origin where
  /-- It is the character at the index. -/
  | copied (index : Nat)
  /-- It stands for the block comment that begins at the index. -/
  | blank (index : Nat)
  /-- It marks the end of the text, which has so many characters. -/
  | mark (index : Nat)
deriving DecidableEq, Repr

def Origin.index : Origin → Nat
  | copied i => i
  | blank i => i
  | mark i => i

/-- The origins of what is left of a part that begins at index `i`. -/
def Part.origins (i : Nat) : Part → List Origin
  | kept _ => [.copied i]
  | line _ => []
  | block w => if '\n' ∈ w then (w.idxsOf '\n' i).map .copied else [.blank i]

theorem Part.length_origins (i : Nat) (p : Part) : (p.origins i).length = p.residue.length := by
  cases p with
  | kept c => rfl
  | line w => rfl
  | block w =>
    rw [origins, residue]
    by_cases hw : '\n' ∈ w
    · obtain ⟨k, hk⟩ := Nat.exists_eq_add_one.2 (List.count_pos_iff.2 hw)
      rw [if_pos hw, List.length_map, List.length_idxsOf, hk]
      exact List.length_replicate.symm
    · rw [if_neg hw, List.count_eq_zero.2 hw]; rfl

namespace Division

/-- The origins of the characters that are left of a division that begins at index `i`, and of the mark of its end. -/
def originsFrom : Nat → Division → List Origin
  | i, [] => [.mark i]
  | i, p :: d => p.origins i ++ originsFrom (i + p.text.length) d

/-- The origins of the characters of the text without comments. -/
def origins (d : Division) : List Origin := d.originsFrom 0

/-- A block comment has a character on the line. -/
def BlockOn (d : Division) (line : Nat) : Prop :=
  ∃ a w b m, d = a ++ .block w :: b ∧ m < w.length ∧ (Position.of d.text ((text a).length + m)).line = line

/-- A comment up to the end of its line begins at index `i` and ends before index `j`. -/
def LineFrom (d : Division) (i j : Nat) : Prop :=
  ∃ a w b, d = a ++ .line w :: b ∧ (text a).length = i ∧ i + w.length = j

/-- The character at index `n` of the text without comments is that at index `j` of the text.  It keeps its line, and
its column where no block comment is on that line; the newline after a comment moves to where the comment begins. -/
structure Copies (d : Division) (n j : Nat) : Prop where
  lt : j < d.text.length
  char : d.text.withoutComments[n]? = d.text[j]?
  line : (Position.of d.text.withoutComments n).line = (Position.of d.text j).line
  col : ¬ d.BlockOn (Position.of d.text j).line →
    (Position.of d.text.withoutComments n).col = (Position.of d.text j).col ∨
      ∃ i, d.LineFrom i j ∧ d.text[j]? = some '\n' ∧
        (Position.of d.text.withoutComments n).col = (Position.of d.text i).col

/-- What it means that the character at index `n` of the text without comments has an origin. -/
def Explains (d : Division) (n : Nat) : Origin → Prop
  | .copied j => d.Copies n j
  | .blank j =>
    d.text.withoutComments[n]? = some ' ' ∧ ∃ a w b, d = a ++ .block w :: b ∧ (text a).length = j ∧ '\n' ∉ w
  | .mark j =>
    d.text.withoutComments[n]? = some ' ' ∧ n + 1 = d.text.withoutComments.length ∧ j = d.text.length

variable {a b d : Division} {i n : Nat}

theorem withoutComments_text (h : d.Sound) : d.text.withoutComments = d.residue ++ [' '] := by
  rw [Text.withoutComments, cut_text h]

/-! ## Order -/

theorem length_originsFrom (i : Nat) (d : Division) : (d.originsFrom i).length = d.residue.length + 1 := by
  induction d generalizing i with
  | nil => rfl
  | cons p d ih =>
    rw [originsFrom, List.length_append, Part.length_origins, ih, residue_cons, List.length_append, Nat.add_assoc]

theorem text_pos {p : Part} {d : Division} (h : Sound (p :: d)) : 0 < p.text.length := by
  cases p with
  | kept c => exact Nat.one_pos
  | line w =>
    obtain ⟨⟨note, -, rfl | rfl⟩, -⟩ := h <;> exact Nat.succ_pos _
  | block w =>
    obtain ⟨⟨note, -, rfl⟩ | ⟨⟨note, -, rfl⟩, -⟩, -⟩ := h <;> exact Nat.succ_pos _

theorem bounds_of_mem_origins {p : Part} {o : Origin} (hp : 0 < p.text.length) (h : o ∈ p.origins i) :
    i ≤ o.index ∧ o.index < i + p.text.length := by
  cases p with
  | kept c => cases List.mem_singleton.1 h; exact ⟨Nat.le_refl i, Nat.lt_succ_self i⟩
  | line w => cases h
  | block w =>
    rw [Part.origins] at h
    split at h
    · obtain ⟨j, hj, rfl⟩ := List.mem_map.1 h
      exact ⟨List.ge_of_mem_idxsOf j hj, Nat.add_comm _ i ▸ List.lt_add_of_mem_idxsOf j hj⟩
    · cases List.mem_singleton.1 h
      exact ⟨Nat.le_refl i, Nat.lt_add_of_pos_right hp⟩

theorem le_of_mem_originsFrom {d : Division} {i : Nat} {o : Origin} (hd : d.Sound) (h : o ∈ d.originsFrom i) :
    i ≤ o.index := by
  induction d generalizing i with
  | nil => cases List.mem_singleton.1 h; exact Nat.le_refl i
  | cons p d ih =>
    rw [originsFrom] at h
    rcases List.mem_append.1 h with h | h
    · exact (bounds_of_mem_origins (text_pos hd) h).1
    · have := ih (Sound.right (a := [p]) hd) h
      omega

theorem pairwise_part (i : Nat) (p : Part) : (p.origins i).Pairwise fun x y => x.index < y.index := by
  cases p with
  | kept c => exact List.pairwise_singleton _ _
  | line w => exact .nil
  | block w =>
    rw [Part.origins]
    split
    · exact List.pairwise_map.2 (List.pairwise_idxsOf)
    · exact List.pairwise_singleton _ _

/-- **The characters keep their order.** -/
theorem pairwise_originsFrom (hd : d.Sound) (i : Nat) :
    (d.originsFrom i).Pairwise fun x y => x.index < y.index := by
  induction d generalizing i with
  | nil => exact List.pairwise_singleton _ _
  | cons p d ih =>
    have hright : Sound d := Sound.right (a := [p]) hd
    refine List.pairwise_append.2 ⟨pairwise_part i p, ih hright _, fun x hx y hy => ?_⟩
    have hfirst := (bounds_of_mem_origins (text_pos hd) hx).2
    have hlater := le_of_mem_originsFrom hright hy
    omega

/-- An origin belongs to a part, or it is the mark. -/
theorem exists_part_of_origin {o : Origin} (h : (d.originsFrom i)[n]? = some o) :
    (n = d.residue.length ∧ o = .mark (i + d.text.length)) ∨
      ∃ a p b m, d = a ++ p :: b ∧ (p.origins (i + (text a).length))[m]? = some o ∧
        n = (residue a).length + m := by
  induction d generalizing i n with
  | nil =>
    rw [originsFrom] at h
    obtain ⟨hn, ho⟩ := List.getElem?_eq_some_iff.1 h
    obtain rfl : n = 0 := by simpa using hn
    exact .inl ⟨rfl, ho.symm⟩
  | cons p d ih =>
    rw [originsFrom] at h
    by_cases hn : n < (p.origins i).length
    · rw [List.getElem?_append_left hn] at h
      exact .inr ⟨[], p, d, n, rfl, h, by simp⟩
    · rw [List.getElem?_append_right (by omega)] at h
      rw [Part.length_origins] at h hn
      rcases ih h with ⟨hlast, rfl⟩ | ⟨a, q, b, m, rfl, hm, hlater⟩
      · refine .inl ⟨?_, ?_⟩
        · rw [residue_cons, List.length_append]; omega
        · rw [text_cons, List.length_append, Nat.add_assoc]
      · refine .inr ⟨p :: a, q, b, m, rfl, ?_, ?_⟩
        · rwa [text_cons, List.length_append, ← Nat.add_assoc]
        · rw [residue_cons, List.length_append]; omega

/-! ## Lines and columns -/

theorem trailing_gap (t : Text) {n : Nat} (hn : 0 < n) : Position.trailing (t ++ gap n) = 0 := by
  obtain ⟨n, rfl⟩ := Nat.exists_eq_add_one.2 hn
  have hgap : gap (n + 1) = List.replicate n '\n' ++ ['\n'] := List.replicate_succ'
  rw [hgap, ← List.append_assoc, Position.trailing_concat, if_pos rfl]

theorem BlockOn.append {line : Nat} (h : a.BlockOn line) (b : Division) : BlockOn (a ++ b) line := by
  obtain ⟨c, w, e, m, rfl, hm, hline⟩ := h
  refine ⟨c, w, e ++ b, m, by simp, hm, ?_⟩
  rw [text_append, Position.of_append, hline]
  simp only [text_append, text_cons, List.length_append, Part.text]
  omega

/-- The line after a block comment has the last character of the comment, if that is no newline. -/
theorem blockOn_of_concat {w : Text} {c : Char} (hc : c ≠ '\n') :
    BlockOn (a ++ [.block (w ++ [c])]) ((text (a ++ [.block (w ++ [c])])).count '\n' + 1) := by
  have ht : text (a ++ [.block (w ++ [c])]) = (text a ++ w) ++ [c] := by simp [Part.text]
  have hcount : ((text a ++ w) ++ [c]).count '\n' = (text a ++ w).count '\n' := by simp [hc]
  refine ⟨a, w ++ [c], [], w.length, rfl, by simp, ?_⟩
  rw [ht, hcount, ← List.length_append, Position.of_length]

/-- Only a newline follows a comment that runs to the end of its line. -/
theorem getLast?_ne_line {p : Part} (hd : Sound (a ++ p :: b)) (hp : p.text.head? ≠ some '\n') (w : Text) :
    a.getLast? ≠ some (.line w) := by
  intro hlast
  obtain ⟨e, rfl⟩ := List.getLast?_eq_some_iff.1 hlast
  rw [List.append_assoc, List.singleton_append] at hd
  obtain ⟨c, v, hc⟩ := List.exists_cons_of_length_pos (text_pos hd.right.2.2)
  have hnext : c = '\n' := hd.right.2.1 c (by rw [text_cons, hc]; rfl)
  exact hp (by rw [hc, hnext]; rfl)

/-- **Without a block comment on it, and with no comment at its end, a line keeps its width.** -/
theorem trailing_residue (hd : d.Sound) (hlast : ∀ w, d.getLast? ≠ some (.line w))
    (hblock : ¬ d.BlockOn (d.text.count '\n' + 1)) : Position.trailing d.residue = Position.trailing d.text := by
  induction d using List.reverseRecOn with
  | nil => rfl
  | append_singleton d p ih =>
    rw [residue_append, text_append, residue_cons, text_cons, residue_nil, text_nil, List.append_nil, List.append_nil]
    cases p with
    | kept c =>
      rw [Part.residue, Part.text, Position.trailing_concat, Position.trailing_concat]
      by_cases hc : c = '\n'
      · rw [if_pos hc, if_pos hc]
      · have hline : (text (d ++ [.kept c])).count '\n' = (text d).count '\n' := by simp [Part.text, hc]
        rw [hline] at hblock
        rw [if_neg hc, if_neg hc, ih hd.left (getLast?_ne_line hd (by simpa [Part.text] using hc))
          fun h => hblock (h.append _)]
    | line w => exact absurd (List.getLast?_concat) (hlast w)
    | block w =>
      obtain rfl | ⟨v, c, rfl⟩ := List.eq_nil_or_concat' w
      · exact absurd (text_pos hd.right) (Nat.lt_irrefl 0)
      by_cases hc : c = '\n'
      · rw [Part.residue, Part.text, trailing_gap _ (by simp [hc]), ← List.append_assoc, Position.trailing_concat,
          if_pos hc]
      · exact absurd (blockOn_of_concat hc) hblock

theorem copies_kept {c : Char} (hd : Sound (a ++ .kept c :: b)) :
    Copies (a ++ .kept c :: b) (residue a).length (text a).length := by
  have ht : text (a ++ .kept c :: b) = text a ++ c :: text b := by simp [Part.text]
  have hw : (text a ++ c :: text b).withoutComments = residue a ++ c :: (residue b ++ [' ']) := by
    rw [← ht, withoutComments_text hd]; simp [Part.residue]
  refine ⟨?_, ?_, ?_, ?_⟩ <;> simp only [ht, hw, Position.of_length, count_residue hd.left]
  · simp
  · simp
  intro hblock
  by_cases hline : ∃ w, a.getLast? = some (.line w)
  · obtain ⟨w, hlast⟩ := hline
    obtain ⟨e, rfl⟩ := List.getLast?_eq_some_iff.1 hlast
    rw [List.append_assoc, List.singleton_append] at hd
    obtain rfl : c = '\n' := hd.right.2.1 c rfl
    have hnote : IsLine w := hd.right.1
    have hcount : (text (e ++ [.line w])).count '\n' = (text e).count '\n' := by
      simp [Part.text, List.count_eq_zero.2 hnote.not_mem]
    rw [hcount, List.append_assoc] at hblock
    have hkeep := trailing_residue hd.left (getLast?_ne_line hd hnote.head?_ne) fun h => hblock (h.append _)
    refine .inr ⟨(text e).length, ⟨e, w, .kept '\n' :: b, by simp, rfl, by simp [Part.text]⟩, by simp, ?_⟩
    simp [Part.text, Part.residue, Position.of_length, hkeep]
  · exact .inl (congrArg (· + 1) (trailing_residue hd.left (not_exists.1 hline) fun h => hblock (h.append _)))

theorem copies_newline {w : Text} {m j : Nat} (hd : Sound (a ++ .block w :: b))
    (h : (w.idxsOf '\n' (text a).length)[m]? = some j) :
    Copies (a ++ .block w :: b) ((residue a).length + m) j := by
  obtain ⟨k, rfl, hk, hcount⟩ := Text.exists_of_idxsOf h
  have hklt := (List.getElem?_eq_some_iff.1 hk).1
  have hmlt : m < w.count '\n' := by
    rw [← List.length_idxsOf]
    exact (List.getElem?_eq_some_iff.1 h).1
  obtain ⟨n, hn⟩ := Nat.exists_eq_add_one.2 (Nat.zero_lt_of_lt hmlt)
  have hgap : gap (w.count '\n') = List.replicate (w.count '\n') '\n' := by rw [hn]; rfl
  have ht : text (a ++ .block w :: b) = text a ++ (w ++ text b) := by simp [Part.text]
  have hw : (text a ++ (w ++ text b)).withoutComments =
      residue a ++ (List.replicate (w.count '\n') '\n' ++ (residue b ++ [' '])) := by
    rw [← ht, withoutComments_text hd, ← hgap]; simp [Part.residue]
  refine ⟨?_, ?_, ?_, fun hblock => absurd ⟨a, w, b, k, rfl, hklt, rfl⟩ hblock⟩ <;> rw [ht]
  · simp only [List.length_append]; omega
  · rw [hw, List.getElem?_append_right (Nat.le_add_right _ _), List.getElem?_append_right (Nat.le_add_right _ _),
      Nat.add_sub_cancel_left, Nat.add_sub_cancel_left, List.getElem?_append_left hklt, hk,
      List.getElem?_append_left (by rwa [List.length_replicate]), List.getElem?_replicate_of_lt hmlt]
  · have hmle : m ≤ (List.replicate (w.count '\n') '\n').length := by rw [List.length_replicate]; omega
    rw [hw, Position.line_of_append _ _ hmle, Position.line_of_append _ _ (Nat.le_of_lt hklt), hcount,
      count_residue hd.left, List.take_replicate, List.count_replicate_self, Nat.min_eq_left (Nat.le_of_lt hmlt)]

/-- **Every character of the text without comments has an origin that explains it.** -/
theorem explains (hd : d.Sound) {o : Origin} (h : d.origins[n]? = some o) : d.Explains n o := by
  rcases exists_part_of_origin h with ⟨rfl, rfl⟩ | ⟨a, p, b, m, rfl, hm, rfl⟩
  · rw [Nat.zero_add]
    refine ⟨?_, ?_, rfl⟩ <;> rw [withoutComments_text hd] <;> simp
  rw [Nat.zero_add] at hm
  cases p with
  | kept c =>
    obtain ⟨hzero, rfl⟩ := List.getElem?_eq_some_iff.1 hm
    obtain rfl : m = 0 := by simpa [Part.origins] using hzero
    exact copies_kept hd
  | line w => cases hm
  | block w =>
    rw [Part.origins] at hm
    by_cases hw : '\n' ∈ w
    · rw [if_pos hw, List.getElem?_map] at hm
      obtain ⟨j, hj, rfl⟩ := Option.map_eq_some_iff.1 hm
      exact copies_newline hd hj
    · rw [if_neg hw] at hm
      obtain ⟨hzero, rfl⟩ := List.getElem?_eq_some_iff.1 hm
      obtain rfl : m = 0 := by simpa using hzero
      refine ⟨?_, a, w, b, rfl, rfl, hw⟩
      rw [withoutComments_text hd]
      simp [Part.residue, List.count_eq_zero.2 hw, gap]

/-! ## Tokens and faults -/

/-- What cutting comments out of a divided text keeps. -/
structure InPlace (d : Division) : Prop where
  length : d.origins.length = d.text.withoutComments.length
  ordered : d.origins.Pairwise fun x y => x.index < y.index
  explained : ∀ n o, d.origins[n]? = some o → d.Explains n o

theorem Sound.inPlace (hd : d.Sound) : d.InPlace where
  length := by rw [origins, length_originsFrom, withoutComments_text hd, List.length_append]; rfl
  ordered := pairwise_originsFrom hd 0
  explained _ _ := explains hd

/-- The span starts at a copied character, and names the line of the text on which that stands. -/
def Names (d : Division) (s : Span) : Prop :=
  ∃ n j : Nat, s.start.index = n ∧ d.origins[n]? = some (.copied j) ∧ s.start.line = (Position.of d.text j).line

/-- No blank is put in where a place begins. -/
theorem names_of_placed (hd : d.Sound) {s : Span} (hs : s.Placed d.text.withoutComments) : d.Names s := by
  obtain ⟨i, j, hij, hj, ⟨c, hc, hblank⟩, rfl⟩ := hs
  have hlt : i < d.origins.length := hd.inPlace.length ▸ Nat.lt_of_lt_of_le hij hj
  have ho := List.getElem?_eq_getElem hlt
  have hspace : d.text.withoutComments[i]? ≠ some ' ' := by
    rintro h
    obtain rfl : c = ' ' := Option.some.inj (hc.symm.trans h)
    cases hblank
  have he := explains hd ho
  generalize d.origins[i] = o at ho he
  cases o with
  | copied k => exact ⟨i, k, rfl, ho, he.line⟩
  | blank k => exact absurd he.1 hspace
  | mark k => exact absurd he.1 hspace

theorem names_of_blames (hd : d.Sound) {fault : Diagnostic} {s span : Span} (hs : s.Placed d.text.withoutComments)
    (hblames : fault.Blames s) (hspan : fault.span = some span) : d.Names span := by
  obtain rfl : s = span := Option.some.inj ((hblames.span_eq hs).1.symm.trans hspan)
  exact names_of_placed hd hs

end Division
end Comment

open Comment (Division)

/-- **Cutting comments out keeps every line in place**: the text without comments has all newlines of the source, each
of its characters is explained by the parts of the source, and every token and every fault of the scan or the reader
names the line on which its first character stands in the source. -/
theorem Text.withoutComments_inPlace (source : Text) :
    source.withoutComments.count '\n' = source.count '\n' ∧
      (∃ d : Division, d.Sound ∧ d.text = source) ∧
      ∀ d : Division, d.Sound → d.text = source →
        d.InPlace ∧
        (∀ fault span, Token.ofText source = .error fault → fault.span = some span → d.Names span) ∧
        ∀ tokens, Token.ofText source = .ok tokens →
          (∀ k ∈ tokens, d.Names k.span) ∧
          ∀ part, part.Sublist tokens → ∀ fault span,
            Query.ofTokens part = .error fault → fault.span = some span → d.Names span := by
  have hexists := Division.exists_sound source
  refine ⟨?_, hexists, ?_⟩
  · obtain ⟨d, hd, rfl⟩ := hexists
    rw [Division.withoutComments_text hd, List.count_append, Division.count_residue hd]; rfl
  rintro d hd rfl
  refine ⟨hd.inPlace, fun fault span hf hspan => ?_, fun tokens ht => ⟨fun k hk => ?_, ?_⟩⟩
  · obtain ⟨s, hplaced, hblames⟩ := Token.exists_place_of_ofText hf
    exact Division.names_of_blames hd hplaced hblames hspan
  · exact Division.names_of_placed hd ((Token.along_of_ofText ht).placed k hk)
  · intro part hp fault span hf hspan
    rcases Query.exists_mem_of_ofTokens_error hf with ⟨-, rfl⟩ | ⟨k, hk, hblames⟩
    · cases hspan
    · exact Division.names_of_blames hd ((Token.along_of_ofText ht).placed k (hp.subset hk)) hblames hspan

/-- A comment with nothing in it, at the end of a line. -/
def Text.emptyNote : Text := ['#', '\n']

/-- A newline that ends a comment does not keep its column, though the text has no block comment. -/
theorem Text.newline_moves_emptyNote :
    ¬ ['/', '*'] <:+: emptyNote ∧
      ¬ ∃ f : Nat → Nat, ∀ n, n + 1 < emptyNote.withoutComments.length →
        emptyNote.withoutComments[n]? = emptyNote[f n]? ∧
        (Position.of emptyNote.withoutComments n).line = (Position.of emptyNote (f n)).line ∧
        (Position.of emptyNote.withoutComments n).col = (Position.of emptyNote (f n)).col := by
  have hcut : emptyNote.withoutComments = ['\n', ' '] := by
    simp [emptyNote, withoutComments, Comment.cut]
  refine ⟨by decide, ?_⟩
  rintro ⟨f, h⟩
  rw [hcut] at h
  obtain ⟨hchar, -, hcol⟩ := h 0 (by decide)
  generalize f 0 = j at hchar hcol
  -- only at index 1 is there a newline
  rcases j with _ | _ | j
  · exact absurd hchar (by decide)
  · exact absurd hcol (by decide)
  · cases hchar

end Recurrence
