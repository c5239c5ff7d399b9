import Recurrence.Proofs.Block.Phrase
import Recurrence.Proofs.Query.Place
/-!
# Underlining — what a shown fault marks

A fault that blames a span is shown with the line on which the span starts, and with marks under the characters of that
line which the span covers.  For a place in a text these are never none, and they are all that the place covers of the
line (`Span.Placed.exists_markedLine`).  Every fault with which a text is answered blames a place in the text without
comments, so it is shown in this way (`Context.exists_underlines`).
-/
namespace Recurrence

open Diagnostic (gutter underline)

namespace Text

/-! ## Lines -/

/-- What stands in a text after its last newline. -/
def lastLine (t : Text) : Text := (t.reverse.takeWhile (· ≠ '\n')).reverse

/-- What stands in a text before its first newline. -/
def firstLine (t : Text) : Text := t.takeWhile (· ≠ '\n')

theorem length_lastLine (t : Text) : (lastLine t).length = Position.trailing t := by
  rw [lastLine, List.length_reverse, Position.trailing]

theorem lastLine_concat {c : Char} (h : c ≠ '\n') (t : Text) : lastLine (t ++ [c]) = lastLine t ++ [c] := by
  simp [lastLine, h]

theorem lastLine_newline (t : Text) : lastLine (t ++ ['\n']) = [] := by simp [lastLine]

theorem firstLine_cons {c : Char} (h : c ≠ '\n') (t : Text) : firstLine (c :: t) = c :: firstLine t := by
  simp [firstLine, h]

theorem firstLine_newline (t : Text) : firstLine ('\n' :: t) = [] := by simp [firstLine]

theorem firstLine_append {a : Text} (h : '\n' ∉ a) (b : Text) : firstLine (a ++ b) = a ++ firstLine b :=
  List.takeWhile_append_of_pos fun c hc => by simpa using fun hn => h (by rw [← hn]; exact hc)

theorem firstLine_of_mem : ∀ {a : Text}, '\n' ∈ a → ∀ b, firstLine (a ++ b) = firstLine a
  | c :: a, h, b => by
    by_cases hc : c = '\n'
    · rw [hc, List.cons_append, firstLine_newline, firstLine_newline]
    · have ha : '\n' ∈ a := (List.mem_cons.1 h).resolve_left (Ne.symm hc)
      rw [List.cons_append, firstLine_cons hc, firstLine_cons hc, firstLine_of_mem ha]

theorem lastLine_append {w : Text} (h : '\n' ∉ w) (t : Text) : lastLine (t ++ w) = lastLine t ++ w := by
  induction w generalizing t with
  | nil => rw [List.append_nil, List.append_nil]
  | cons c w ih =>
    obtain ⟨hc, hw⟩ := not_or.1 (mt List.mem_cons.2 h)
    rw [List.append_cons, ih hw, lastLine_concat (Ne.symm hc), ← List.append_cons]

theorem lines_append_newline (a b : Text) : lines (a ++ '\n' :: b) = lines a ++ lines b := by
  induction a with
  | nil => simp
  | cons c a ih =>
    by_cases hc : c = '\n'
    · rw [hc, List.cons_append, lines_newline, lines_newline, ih, List.cons_append]
    · have hne := lines_ne_nil a
      simp only [List.cons_append, lines_cons hc, ih, List.head_append_of_ne_nil hne, List.tail_append_of_ne_nil hne]

theorem head?_lines : ∀ t : Text, (lines t)[0]? = some (firstLine t)
  | [] => rfl
  | c :: t => by
    by_cases hc : c = '\n'
    · rw [hc, lines_newline, firstLine_newline]; rfl
    · have ih := head?_lines t
      rw [lines_cons hc, firstLine_cons hc]
      rw [← List.head?_eq_getElem?, List.head?_eq_some_head (lines_ne_nil t), Option.some_inj] at ih
      simp [ih]

/-- **The line in which `rest` begins**: what stands before it since the last newline, and it up to its first. -/
theorem getElem?_lines (pre rest : Text) :
    (lines (pre ++ rest))[pre.count '\n']? = some (lastLine pre ++ firstLine rest) := by
  -- from the end of `pre`, whose last character is what decides where the line begins
  induction pre using List.reverseRecOn generalizing rest with
  | nil => exact head?_lines rest
  | append_singleton pre c ih =>
    rw [List.append_assoc, List.singleton_append, List.count_append]
    by_cases hc : c = '\n'
    · rw [hc, lastLine_newline, lines_append_newline, List.nil_append]
      have hlen : (lines pre).length = pre.count '\n' + ['\n'].count '\n' := length_lines pre
      rw [← hlen, List.getElem?_append_right (Nat.le_refl _), Nat.sub_self]
      exact head?_lines rest
    · rw [List.count_singleton, if_neg (by simpa using hc), Nat.add_zero, ih, firstLine_cons hc, lastLine_concat hc,
        List.append_assoc, List.singleton_append]

/-- A line of a text in three parts; the middle one, which is not empty, is marked. -/
structure MarkedLine (t : Text) where
  index : Nat
  before : Text
  marked : Text
  after : Text
  is_line : t.lines[index]? = some (before ++ marked ++ after)
  marked_ne_nil : marked ≠ []

namespace MarkedLine

variable {t : Text}

/-- The whole line. -/
def line (m : MarkedLine t) : Text := m.before ++ m.marked ++ m.after

/-- The line as it is shown, with a mark under each marked character. -/
def shown (m : MarkedLine t) : Text :=
  '\n' :: gutter ++ m.line ++
    '\n' :: spaces (gutter.length + m.before.length) ++ List.replicate m.marked.length underline

/-- The marked characters are all that the span covers of the line on which it starts. -/
structure Marks (m : MarkedLine t) (s : Span) : Prop where
  line : s.start.line = m.index + 1
  col : s.start.col = m.before.length + 1
  /-- A span on one line covers the marked characters and nothing else, and stops after them. -/
  single : s.start.line = s.stop.line → m.marked = s.covered ∧ s.stop.col = m.before.length + m.marked.length + 1
  /-- A span on several lines covers the marked characters up to its first newline, and these end their line. -/
  several : s.start.line ≠ s.stop.line → '\n' ∈ s.covered ∧ m.marked = firstLine s.covered ∧ m.after = []

end MarkedLine
end Text

/-- **The diagnostic is shown with its kind, the line and column of what is marked, its details and the marked
line.** -/
def Diagnostic.Underlines (d : Diagnostic) {t : Text} (m : t.MarkedLine) : Prop :=
  d.text = d.kind.name ++ " on line ".toList ++ Text.digits (m.index + 1) ++ " col ".toList ++
    Text.digits (m.before.length + 1) ++ '\n' :: gutter ++ d.details ++ m.shown

open Text (lastLine MarkedLine)

theorem Span.firstLine_eq {t : Text} {s : Span} (ht : s.text = t) {m : t.MarkedLine} (h : m.Marks s) :
    s.firstLine = m.line := by
  subst ht
  rw [Span.firstLine, h.line, Nat.add_sub_cancel, m.is_line]; rfl

/-- The marks of a diagnostic are those of the line that its span marks. -/
theorem Diagnostic.underlines_of_marks {d : Diagnostic} {t : Text} {s : Span} (hspan : d.span = some s)
    (hd : d.details ≠ []) (ht : s.text = t) {m : t.MarkedLine} (h : m.Marks s) : d.Underlines m := by
  have hmarks : lastMarked s - (s.start.col - 1) = m.marked.length := by
    rw [lastMarked, Span.isMultiline, Span.firstLine_eq ht h, h.col]
    by_cases hl : s.start.line = s.stop.line
    · obtain ⟨-, hstop⟩ := h.single hl
      rw [if_neg (by simpa using hl), hstop]
      omega
    · obtain ⟨-, -, hafter⟩ := h.several hl
      rw [if_pos (by simpa using hl), MarkedLine.line, hafter, List.append_nil, List.length_append]
      omega
  have hplace : place s = " on line ".toList ++ Text.digits (m.index + 1) ++ " col ".toList ++
      Text.digits (m.before.length + 1) := by
    unfold place
    rw [h.line, h.col]
  have hexcerpt : excerpt s = m.shown := by
    rw [excerpt, hmarks, Span.firstLine_eq ht h, h.col, Nat.add_sub_cancel]; rfl
  unfold Underlines text
  rw [hspan, if_neg hd, Option.elim_some, Option.elim_some, hplace, hexcerpt]
  simp only [List.append_assoc, List.cons_append]

theorem Position.col_of {t : Text} {i : Nat} (h : i ≤ t.length) : (of t i).col = (lastLine (t.take i)).length + 1 := by
  rw [of, Text.length_lastLine, Nat.sub_eq_zero_of_le h, Nat.add_zero]

/-- **A place in a text marks a line of it.** -/
theorem Span.Placed.exists_markedLine {t : Text} {s : Span} (h : s.Placed t) : ∃ m : t.MarkedLine, m.Marks s := by
  obtain ⟨i, j, hij, hj, ⟨c, hc, hb⟩, rfl⟩ := h
  have hcol : (of t i j).start.col = (lastLine (t.take i)).length + 1 := Position.col_of (by omega)
  have hcovered : (of t i j).covered = t.slice i j := covered_of t i j
  have hstop : (of t i j).stop.line = (of t i j).start.line + (t.slice i j).count '\n' :=
    Position.line_of (Nat.le_of_lt hij)
  have hline := Text.getElem?_lines (t.take i) (t.drop i)
  rw [List.take_append_drop, Text.drop_eq_slice_append t (Nat.le_of_lt hij)] at hline
  obtain ⟨w, hw⟩ : ∃ w, t.slice i j = c :: w := by
    rw [← List.head?_eq_some_iff, Text.slice, List.head?_take, if_neg (by omega), List.head?_drop, hc]
  have hne : c ≠ '\n' := by rintro rfl; cases hb
  by_cases hn : '\n' ∈ t.slice i j
  · -- the span goes on after the shown line
    have hcount : 0 < (t.slice i j).count '\n' := List.count_pos_iff.2 hn
    have hmarked : Text.firstLine (t.slice i j) ≠ [] := by
      rw [hw, Text.firstLine_cons hne]
      exact List.cons_ne_nil _ _
    rw [Text.firstLine_of_mem hn, ← List.append_nil (_ ++ _)] at hline
    refine ⟨⟨_, _, _, [], hline, hmarked⟩, rfl, hcol, fun hsingle => by omega, fun _ => ?_⟩
    rw [hcovered]
    exact ⟨hn, rfl, rfl⟩
  · have hcount : (t.slice i j).count '\n' = 0 := List.count_eq_zero.2 hn
    have hmarked : t.slice i j ≠ [] := by
      rw [hw]
      exact List.cons_ne_nil _ _
    have hend : (of t i j).stop.col = (lastLine (t.take i)).length + (t.slice i j).length + 1 := by
      rw [show (of t i j).stop = .of t j from rfl, Position.col_of hj,
        Text.take_eq_append_slice t (Nat.le_of_lt hij), Text.lastLine_append hn, List.length_append]
    rw [Text.firstLine_append hn, ← List.append_assoc] at hline
    exact ⟨⟨_, _, _, _, hline, hmarked⟩, rfl, hcol, fun _ => ⟨hcovered.symm, hend⟩, fun hseveral => by omega⟩

/-! ## The faults of a text -/

/-- A fault with which a text is answered: when it is scanned or read, or as a line or block that is run, where a fault
may also take the place of one of the days. -/
inductive Context.Reports (ctx : Context) (source : Text) (d : Diagnostic) : Prop
  | scan (h : Token.ofText source = .error d)
  | read {tokens : List Token} (ht : Token.ofText source = .ok tokens) (h : Query.ofTokens tokens = .error d)
  | line {n : Nat} (h : (ctx.runLine n source).result = .error d)
  | block {n : Nat} (h : (ctx.runBlock n source).result = .error d)
  | entry {n : Nat} {dates : List (Except Diagnostic Date)} (h : (ctx.runBlock n source).result = .ok dates)
      (hd : .error d ∈ dates)

theorem Answer.exists_of_error_mem {ctx : Context} {n : Nat} {d : Diagnostic} {qs : List (Except Diagnostic Query)}
    {a : Except Diagnostic Answer} (ha : a ∈ (ofQueries ctx n qs).result) (hd : dateOf a = .error d) :
    ∃ q ∈ qs, ∃ m, Query.dayOf ctx m q = .error d := by
  induction qs generalizing n with
  | nil => cases ha
  | cons q qs ih =>
    cases q with
    | error fault =>
      rcases List.mem_cons.1 ha with rfl | ha
      · exact ⟨_, List.mem_cons_self, n, hd⟩
      · obtain ⟨q, hq, hm⟩ := ih ha
        exact ⟨q, List.mem_cons_of_mem _ hq, hm⟩
    | ok q =>
      rcases List.mem_cons.1 ha with rfl | ha
      · exact ⟨_, List.mem_cons_self, n, hd⟩
      · obtain ⟨q, hq, hm⟩ := ih ha
        exact ⟨q, List.mem_cons_of_mem _ hq, hm⟩

/-- A phrase whose tokens stand along a text is blamed at a place in it, unless it has no tokens. -/
theorem Query.exists_place_of_dayOf_error {ctx : Context} {n : Nat} {d : Diagnostic} {t : Text} {ts : List Token}
    (ht : Token.Along t ts) (h : dayOf ctx n (ofTokens ts) = .error d) :
    d.span = none ∨ ∃ s, s.Placed t ∧ d.Blames s := by
  cases hq : ofTokens ts with
  | error fault =>
    rw [hq] at h
    cases h
    rcases exists_mem_of_ofTokens_error hq with ⟨-, rfl⟩ | ⟨k, hk, hd⟩
    · exact .inl rfl
    · exact .inr ⟨k.span, ht.placed k hk, hd⟩
  | ok q =>
    rw [hq] at h
    obtain ⟨p, hp, hd⟩ := exists_visit_of_resolve_error h
    exact .inr ⟨p.span, placed_visits ht hq p hp, hd⟩

namespace Context

theorem Reports.exists_place {ctx : Context} {source : Text} {d : Diagnostic} (h : ctx.Reports source d) :
    d.span = none ∨ ∃ s, s.Placed source.withoutComments ∧ d.Blames s := by
  cases ht : Token.ofText source with
  | error fault =>
    have hplace := Token.exists_place_of_ofText ht
    cases h with
    | scan h => rw [ht] at h; cases h; exact .inr hplace
    | read h => rw [ht] at h; cases h
    | line h => rw [result_runLine, Query.ofLine, ht] at h; cases h; exact .inr hplace
    | block h => rw [result_runBlock, ht] at h; cases h; exact .inr hplace
    | entry h => rw [result_runBlock, ht] at h; cases h
  | ok tokens =>
    have halong := Token.along_of_ofText ht
    cases h with
    | scan h => rw [ht] at h; cases h
    | read h hq =>
      rw [ht] at h
      cases h
      have hfault : Query.dayOf ctx 0 (Query.ofTokens tokens) = .error d := by rw [hq]; rfl
      exact Query.exists_place_of_dayOf_error halong hfault
    | line h =>
      rw [result_runLine, Query.ofLine, ht] at h
      exact Query.exists_place_of_dayOf_error halong h
    | block h => rw [result_runBlock, ht] at h; cases h
    | entry h hd =>
      rw [result_runBlock, ht] at h
      cases h
      obtain ⟨a, ha, hd⟩ := List.mem_map.1 hd
      obtain ⟨q, hq, m, hfault⟩ := Answer.exists_of_error_mem ha hd
      obtain ⟨g, hg, rfl⟩ := List.mem_map.1 hq
      -- a phrase is a part of the tokens, so it stands along the text as they do
      have hsub : g.Sublist tokens := by
        rw [← (Token.phrased_phrases tokens).flatten]
        exact List.sublist_flatten_of_mem hg
      exact Query.exists_place_of_dayOf_error (halong.sublist hsub) hfault

/-- **Every fault of a text that blames a span is shown with marks under just what the span covers**, on the line of the
text without comments on which the span starts. -/
theorem exists_underlines {ctx : Context} {source : Text} {d : Diagnostic} (h : ctx.Reports source d) {s : Span}
    (hs : d.span = some s) :
    s.text = source.withoutComments ∧ ∃ m : source.withoutComments.MarkedLine, m.Marks s ∧ d.Underlines m := by
  rcases h.exists_place with hnone | ⟨s', hplaced, hd⟩
  · rw [hnone] at hs
    cases hs
  · obtain ⟨hspan, hdetails⟩ := hd.span_eq hplaced
    obtain rfl : s' = s := by rwa [hspan, Option.some_inj] at hs
    have htext : s'.text = source.withoutComments := by
      obtain ⟨i, j, -, -, -, rfl⟩ := hplaced
      rfl
    obtain ⟨m, hm⟩ := hplaced.exists_markedLine
    exact ⟨htext, m, hm, Diagnostic.underlines_of_marks hspan hdetails htext hm⟩

/-- A command that goes on into the next line, and names a day that its month does not have. -/
def brokenOff : Text := "/* two\nlines */ every february // or march\n 30th, day".toList

theorem exists_underlines_brokenOff :
    ∃ d s, sevenDays.Reports brokenOff d ∧ d.span = some s ∧ s.start.line ≠ s.stop.line ∧
      s.text = brokenOff.withoutComments ∧
        ∃ m : brokenOff.withoutComments.MarkedLine, m.Marks s ∧ d.Underlines m := by
  have hseveral : ((sevenDays.runLine 0 brokenOff).result.mapError fun d => d.span.any Span.isMultiline) =
      .error true := by decide +kernel
  cases h : (sevenDays.runLine 0 brokenOff).result with
  | ok day => rw [h] at hseveral; cases hseveral
  | error d =>
    rw [h] at hseveral
    obtain ⟨s, hs, hlines⟩ := (Option.any_eq_true _ _).1 (Except.error.inj hseveral)
    have hne : s.start.line ≠ s.stop.line := by simpa [Span.isMultiline] using hlines
    exact ⟨d, s, .line h, hs, hne, exists_underlines (.line h) hs⟩

example : (sevenDays.runLine 0 brokenOff).result.mapError Diagnostic.text =
    .error ("RuntimeError on line 2 col 8\n".toList ++
      "  > Invalid day of month. The date should be between 1 and the number of days in the month\n".toList ++
      "  >  every february \n           ‾‾‾‾‾‾‾‾‾".toList) := by
  decide +kernel

end Context
end Recurrence
