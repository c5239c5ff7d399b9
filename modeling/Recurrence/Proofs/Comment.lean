import Recurrence.Comment
/-!
# Texts without comments

A text is free of comments when no comment opens anywhere in it.  Cutting leaves such a text (`free_withoutComments`)
and changes none (`withoutComments_of_free`), so any stretch of a text whose comments have been cut out reads, on its
own, as it stands.  Two texts with a newline between are cut one after the other, unless the first ends in a block
comment (`withoutComments_append`).
-/
namespace Recurrence
namespace Comment

/-- No comment opens in the text: neither `#` nor `//` nor `/*` occurs in it. -/
def Free (t : Text) : Prop := '#' ∉ t ∧ ¬ ['/', '/'] <:+: t ∧ ¬ ['/', '*'] <:+: t

/-- Whether a text that follows a slash makes a comment of it. -/
def Continues (t : Text) : Prop := t.head? = some '/' ∨ t.head? = some '*'

/-- The cases of a cut tell by equations that no mark of two characters begins; here by the first of what follows. -/
theorem head?_ne_of_forall {a b c : Char} {t : Text} (h : ∀ u, c = a → t = b :: u → False) :
    c = a → t.head? ≠ some b := fun hc hs => by
  obtain ⟨u, rfl⟩ := List.head?_eq_some_iff.1 hs
  exact h u hc rfl

theorem not_continues_of_forall {c : Char} {t : Text} (hline : ∀ u, c = '/' → t = '/' :: u → False)
    (hblock : ∀ u, c = '/' → t = '*' :: u → False) : c = '/' → ¬ Continues t :=
  fun hc => not_or.2 ⟨head?_ne_of_forall hline hc, head?_ne_of_forall hblock hc⟩

theorem free_nil : Free [] := by simp [Free]

theorem infix_pair_cons (a b c : Char) (t : Text) :
    [a, b] <:+: c :: t ↔ (a = c ∧ t.head? = some b) ∨ [a, b] <:+: t := by
  rw [List.infix_cons_iff, List.cons_prefix_cons]
  cases t with
  | nil => simp
  | cons d t => simp [List.cons_prefix_cons, eq_comm]

theorem free_cons (c : Char) (t : Text) :
    Free (c :: t) ↔ c ≠ '#' ∧ (c = '/' → ¬ Continues t) ∧ Free t := by
  simp only [Free, Continues, infix_pair_cons, List.mem_cons, not_or, not_and]
  constructor
  · rintro ⟨⟨h1, h2⟩, ⟨h3, h4⟩, h5, h6⟩
    exact ⟨Ne.symm h1, fun h => ⟨h3 h.symm, h5 h.symm⟩, h2, h4, h6⟩
  · rintro ⟨h1, h2, h3, h4, h5⟩
    exact ⟨⟨Ne.symm h1, h3⟩, ⟨fun h => (h2 h.symm).1, h4⟩, fun h => (h2 h.symm).2, h5⟩

theorem Free.of_infix {s t : Text} (h : Free t) (hs : s <:+: t) : Free s :=
  ⟨fun hm => h.1 (hs.subset hm), fun hi => h.2.1 (hi.trans hs), fun hi => h.2.2 (hi.trans hs)⟩

theorem Free.append {a b : Text} (ha : Free a) (hb : Free b) (hs : a.getLast? = some '/' → ¬ Continues b) :
    Free (a ++ b) := by
  induction a with
  | nil => exact hb
  | cons c a ih =>
    obtain ⟨h1, h2, h3⟩ := (free_cons c a).1 ha
    rw [List.cons_append, free_cons]
    refine ⟨h1, fun hc => ?_, ih h3 fun hl => hs ?_⟩
    · cases a with
      | nil => exact hs (by simp [hc])
      | cons d a => exact h2 hc
    · cases a with
      | nil => simp at hl
      | cons d a => simpa using hl

theorem free_of_forall {t : Text} (h : ∀ c ∈ t, c ≠ '#' ∧ c ≠ '/') : Free t := by
  induction t with
  | nil => exact free_nil
  | cons c t ih =>
    rw [free_cons]
    exact ⟨(h c (by simp)).1, fun hc => absurd hc (h c (by simp)).2, ih fun d hd => h d (by simp [hd])⟩

/-- No comment opens in the text, nor does one when more is written after it. -/
def Inert (t : Text) : Prop := Free t ∧ t.getLast? ≠ some '/'

theorem inert_of_forall {t : Text} (h : ∀ c ∈ t, c ≠ '#' ∧ c ≠ '/') : Inert t :=
  ⟨free_of_forall h, fun hl => (h '/' (List.mem_of_getLast? hl)).2 rfl⟩

theorem Inert.append {a b : Text} (ha : Inert a) (hb : Inert b) : Inert (a ++ b) := by
  refine ⟨ha.1.append hb.1 fun hl => absurd hl ha.2, ?_⟩
  rw [List.getLast?_append]
  cases h : b.getLast? with
  | none => exact ha.2
  | some c => rw [Option.some_or, ← h]; exact hb.2

/-! ## Cutting -/

/-- Outside comments, a character at which none opens is kept. -/
theorem cut_cons {c : Char} {t : Text} (h1 : c ≠ '#') (h2 : c = '/' → ¬ Continues t) :
    cut .phrase (c :: t) = c :: cut .phrase t := by
  rw [cut]
  · rintro d rfl rfl; exact h2 rfl (.inl rfl)
  · exact fun h => h1 h
  · rintro d rfl rfl; exact h2 rfl (.inr rfl)

theorem cut_of_free : ∀ {t : Text}, Free t → cut .phrase t = t
  | [], _ => by rw [cut]
  | c :: t, h => by
    obtain ⟨h1, h2, h3⟩ := (free_cons c t).1 h
    rw [cut_cons h1 h2, cut_of_free h3]

theorem cut_append_of_inert (rest : Text) : ∀ {w : Text}, Inert w → cut .phrase (w ++ rest) = w ++ cut .phrase rest
  | [], _ => rfl
  | [c], ⟨hfree, hlast⟩ => by
    have hc : c ≠ '/' := fun hc => hlast (by rw [hc]; rfl)
    exact cut_cons ((free_cons c []).1 hfree).1 fun h => absurd h hc
  | c :: d :: w, ⟨hfree, hlast⟩ => by
    obtain ⟨h1, h2, h3⟩ := (free_cons c _).1 hfree
    have hinert : Inert (d :: w) := ⟨h3, by rwa [List.getLast?_cons_cons] at hlast⟩
    have hcut : cut .phrase (c :: (d :: w ++ rest)) = c :: cut .phrase (d :: w ++ rest) := cut_cons h1 h2
    rw [List.cons_append, hcut, cut_append_of_inert rest hinert]; rfl

theorem free_gap : ∀ n, Free (gap n)
  | 0 => free_of_forall (by simp [gap])
  | n + 1 => free_of_forall fun c hc => by
    obtain ⟨-, rfl⟩ := List.mem_replicate.1 (show c ∈ List.replicate (n + 1) '\n' from hc)
    decide

/-- A block comment leaves a blank or newlines; they end in no slash, and no slash before them opens a comment. -/
theorem gap_bounds (t : Text) : ∀ n, ¬ Continues (gap n ++ t) ∧ (gap n).getLast? ≠ some '/'
  | 0 => by simp [gap, Continues]
  | n + 1 => by
    have hl : (gap (n + 1)).getLast? = some '\n' := List.getLast?_replicate
    exact ⟨by simp [gap, Continues, List.replicate_succ], by rw [hl]; decide⟩

/-- **What a cut leaves is free of comments**, and it goes on from a slash only where the text outside comments did. -/
theorem free_cut (r : Region) (t : Text) : Free (cut r t) ∧ (Continues (cut r t) → r = .phrase ∧ Continues t) := by
  fun_induction cut r t with
  | case1 => exact ⟨free_nil, by simp [Continues]⟩
  | case2 cs ih => exact ⟨ih.1, fun h => nomatch (ih.2 h).1⟩
  | case3 cs ih => exact ⟨ih.1, fun h => nomatch (ih.2 h).1⟩
  | case4 cs ih => exact ⟨ih.1, fun h => nomatch (ih.2 h).1⟩
  | case5 c cs h1 h2 h3 ih =>
    refine ⟨(free_cons c _).2 ⟨h2, fun hc hn => ?_, ih.1⟩, fun h => ⟨rfl, h⟩⟩
    -- the character kept after a slash stands after it in the text as well
    exact not_continues_of_forall h1 h3 hc (ih.2 hn).2
  | case6 => exact ⟨free_nil, by simp [Continues]⟩
  | case7 cs ih => exact ⟨(free_cons _ _).2 ⟨by decide, by simp, ih.1⟩, by simp [Continues]⟩
  | case8 c cs h ih => exact ⟨ih.1, fun h => nomatch (ih.2 h).1⟩
  | case9 n => exact ⟨free_gap n, fun h => absurd (by simpa using h) (gap_bounds [] n).1⟩
  | case10 n cs ih =>
    obtain ⟨h1, h2⟩ := gap_bounds (cut .phrase cs) n
    exact ⟨(free_gap n).append ih.1 fun hl => absurd hl h2, fun h => absurd h h1⟩
  | case11 n cs ih => exact ⟨ih.1, fun h => nomatch (ih.2 h).1⟩
  | case12 n c cs h1 h2 ih => exact ⟨ih.1, fun h => nomatch (ih.2 h).1⟩

/-! ## Where a text ends

A text that ends outside comments, or in one that runs to the end of its line, lets the next line begin outside. -/

/-- Where a text ends that begins in a region. -/
def regionAfter : Region → Text → Region
  | r, [] => r
  | .phrase, '/' :: '/' :: cs => regionAfter .line cs
  | .phrase, '#' :: cs => regionAfter .line cs
  | .phrase, '/' :: '*' :: cs => regionAfter (.block 0) cs
  | .phrase, _ :: cs => regionAfter .phrase cs
  | .line, '\n' :: cs => regionAfter .phrase cs
  | .line, _ :: cs => regionAfter .line cs
  | .block _, '*' :: '/' :: cs => regionAfter .phrase cs
  | .block newlines, '\n' :: cs => regionAfter (.block (newlines + 1)) cs
  | .block newlines, _ :: cs => regionAfter (.block newlines) cs

theorem cut_line_cons {c : Char} (h : c ≠ '\n') (t : Text) : cut .line (c :: t) = cut .line t := by
  rw [cut]
  exact h

theorem cut_block_cons {c : Char} {t : Text} (h1 : c = '*' → t.head? ≠ some '/') (h2 : c ≠ '\n') (n : Nat) :
    cut (.block n) (c :: t) = cut (.block n) t := by
  rw [cut]
  · rintro u hc rfl; exact h1 hc rfl
  · exact h2

/-- A newline put after a text makes no comment of its last slash. -/
theorem not_continues_append {t : Text} (h : ¬ Continues t) (b : Text) : ¬ Continues (t ++ '\n' :: b) := by
  cases t with
  | nil => simp [Continues]
  | cons c t => exact h

/-- **A newline put after a text that does not end in a block comment is kept**, and what follows it stands outside
comments. -/
theorem cut_append_newline (r : Region) (a b : Text) (h : ∀ n, regionAfter r a ≠ .block n) :
    cut r (a ++ '\n' :: b) = cut r a ++ '\n' :: cut .phrase b := by
  fun_induction regionAfter r a with
  | case1 r =>
    cases r with
    | phrase => exact cut_cons (by decide) fun hc => absurd hc (by decide)
    | line => rfl
    | block n => exact absurd rfl (h n)
  | case2 cs ih => simp only [List.cons_append, cut, ih h]
  | case3 cs ih => simp only [List.cons_append, cut, ih h]
  | case4 cs ih => simp only [List.cons_append, cut, ih h]
  | case5 c cs h1 h2 h3 ih =>
    have hn : c = '/' → ¬ Continues cs := not_continues_of_forall h1 h3
    rw [List.cons_append, cut_cons h2 hn, cut_cons h2 fun hc => not_continues_append (hn hc) b, ih h, List.cons_append]
  | case6 cs ih => simp only [List.cons_append, cut, ih h]
  | case7 c cs h1 ih => rw [List.cons_append, cut_line_cons h1, cut_line_cons h1, ih h]
  | case8 n cs ih => simp only [List.cons_append, cut, ih h, List.append_assoc]
  | case9 n cs ih => simp only [List.cons_append, cut, ih h]
  | case10 n c cs h1 h2 ih =>
    have h3 : c = '*' → cs.head? ≠ some '/' := head?_ne_of_forall h1
    have h4 : c = '*' → (cs ++ '\n' :: b).head? ≠ some '/' := fun hc => by
      cases cs with
      | nil => simp
      | cons d cs => exact h3 hc
    rw [List.cons_append, cut_block_cons h3 h2, cut_block_cons h4 h2, ih h]

/-! ## Whole comments -/

/-- What follows a comment that runs to the end of its line is cut as outside comments: it is nothing or a newline. -/
theorem cut_line_append {note t : Text} (h : '\n' ∉ note) (ht : ∀ c ∈ t.head?, c = '\n') :
    cut .line (note ++ t) = cut .phrase t := by
  induction note with
  | nil =>
    cases t with
    | nil => rfl
    | cons c t =>
      obtain rfl : c = '\n' := ht c rfl
      exact (cut_cons (by decide) fun hc => absurd hc (by decide)).symm
  | cons c note ih =>
    obtain ⟨hc, hnote⟩ := not_or.1 (mt List.mem_cons.2 h)
    rw [List.cons_append, cut_line_cons (Ne.symm hc), ih hnote]

/-- Within a block comment, a note that holds no closing mark leaves its newlines. -/
theorem cut_block_note {note t : Text} (h : ¬ ['*', '/'] <:+: note) (ht : t.head? ≠ some '/') (n : Nat) :
    cut (.block n) (note ++ t) = cut (.block (n + note.count '\n')) t := by
  induction note generalizing n with
  | nil => rfl
  | cons c note ih =>
    rw [infix_pair_cons, not_or, not_and] at h
    obtain ⟨hstar, hnote⟩ := h
    by_cases hc : c = '\n'
    · rw [hc, List.cons_append, List.count_cons_self, Nat.add_comm (note.count '\n'), ← Nat.add_assoc, ← ih hnote]
      rfl
    · have hnext : c = '*' → (note ++ t).head? ≠ some '/' := fun hs => by
        cases note with
        | nil => exact ht
        | cons d note => exact hstar hs.symm
      rw [List.cons_append, cut_block_cons hnext hc, ih hnote, List.count_cons_of_ne hc]

theorem cut_block_append {note : Text} (h : ¬ ['*', '/'] <:+: note) (rest : Text) (n : Nat) :
    cut (.block n) (note ++ '*' :: '/' :: rest) = gap (n + note.count '\n') ++ cut .phrase rest :=
  cut_block_note h (by simp) n

theorem cut_block_unclosed {note : Text} (h : ¬ ['*', '/'] <:+: note) (n : Nat) :
    cut (.block n) note = gap (n + note.count '\n') := by
  have := cut_block_note (t := []) h (by simp) n
  rwa [List.append_nil] at this

end Comment

open Comment (Free free_nil free_cons)

theorem Text.free_withoutComments (t : Text) : Free t.withoutComments :=
  (Comment.free_cut .phrase t).1.append ((free_cons _ _).2 ⟨by decide, by simp, free_nil⟩)
    (fun _ => by simp [Comment.Continues])

theorem Text.withoutComments_of_free {t : Text} (h : Free t) : t.withoutComments = t ++ [' '] := by
  rw [withoutComments, Comment.cut_of_free h]

/-- Whether a text ends in a block comment that is not closed. -/
def Text.endsInBlockComment (t : Text) : Bool := (Comment.regionAfter .phrase t) matches .block _

theorem Text.withoutComments_append {a : Text} (h : a.endsInBlockComment = false) (b : Text) :
    (a ++ '\n' :: b).withoutComments = Comment.cut .phrase a ++ '\n' :: b.withoutComments := by
  have hr : ∀ n, Comment.regionAfter .phrase a ≠ .block n := fun n hn => by
    rw [endsInBlockComment, hn] at h
    cases h
  rw [withoutComments, withoutComments, Comment.cut_append_newline .phrase a b hr, List.append_assoc, List.cons_append]

end Recurrence
