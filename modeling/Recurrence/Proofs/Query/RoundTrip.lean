import Recurrence.Proofs.Query.Sense
import Recurrence.Proofs.Token.Layout
import Recurrence.Proofs.Token.Word
/-!
# Round trips — what is written reads back

A written query is a sound layout whose kinds are those that its commands say (`sound_pieces`, `kinds_pieces`), and no
comment opens in it.  So it is scanned to these kinds, and they are read as the commands (`Query.written_reads_back`).
-/
namespace Recurrence

open Lexeme (Parts numberBound)
open Comment (Inert)

/-- What can be written so that it reads back: every keyword is of the kind that its place asks for, numbers are below
the bound, and code has no number sign. -/
def Rule.Writable : Rule → Prop
  | relative n u => (∀ m ∈ n, m.value < numberBound) ∧ u.value.timeUnit?.isSome
  | weekday d => d.value.weekday?.isSome
  | day n => n.value < numberBound
  | monthDay m n => m.value.month?.isSome ∧ n.value < numberBound
  | code c => '#' ∉ c

instance : DecidablePred Rule.Writable
  | .relative _ _ => inferInstanceAs (Decidable (_ ∧ _))
  | .weekday _ => inferInstanceAs (Decidable (_ = true))
  | .day _ => inferInstanceAs (Decidable (_ < _))
  | .monthDay _ _ => inferInstanceAs (Decidable (_ ∧ _))
  | .code _ => inferInstanceAs (Decidable (_ ∉ _))

namespace Keyword

theorem exists_unitWord {k : Keyword} (h : k.timeUnit?.isSome) : ∃ w : UnitWord, k = w.keyword := by
  cases k with
  | unit u p => exact ⟨⟨u, p⟩, rfl⟩
  | _ => cases h

theorem exists_weekday {k : Keyword} (h : k.weekday?.isSome) : ∃ d, k = weekday d := by
  cases k with
  | weekday d => exact ⟨d, rfl⟩
  | _ => cases h

theorem exists_month {k : Keyword} (h : k.month?.isSome) : ∃ m, k = month m := by
  cases k with
  | month m => exact ⟨m, rfl⟩
  | _ => cases h

end Keyword

theorem Rule.Writable.proper {r : Rule} (h : r.Writable) : r.sense.Proper := by
  cases r with
  | relative n u => exact Keyword.exists_unitWord h.2
  | weekday d => exact Keyword.exists_weekday h
  | day n => trivial
  | monthDay m n => exact Keyword.exists_month h.1
  | code c => trivial

/-! ## The words that are written -/

namespace Lexeme

theorem parts_blank (t : Text) : Parts (' ' :: t) := parts_cons (by decide) t

theorem parts_comma (t : Text) : Parts (',' :: t) := parts_cons (by decide) t

theorem spells_word (k : Keyword) {after : Text} (ha : Parts after) : Spells (.keyword k) k.word after :=
  spells_keyword k.lowered_word ha

theorem spells_digits {n : Nat} (hn : n < numberBound) {after : Text} (ha : Parts after) :
    Spells (.number n) (Text.digits n) after := by
  have := spells_number (Text.digits_ne_nil n) (fun _ => Text.digits_isDigit) (by rwa [Text.value_digits]) ha
  rwa [Text.value_digits] at this

/-- An ordinal is written with one of the four suffixes, in lower case. -/
theorem ordinalSuffix_mem (n : Nat) : Text.lowered (ordinalSuffix n) ∈ ordinalSuffixes := by
  unfold ordinalSuffix
  split
  · decide
  · split <;> decide

theorem spells_ordinalText {n : Nat} (hn : n < numberBound) (after : Text) :
    Spells (.ordinal n) (ordinalText n) after := by
  have := spells_ordinal (Text.digits_ne_nil n) (fun _ => Text.digits_isDigit) (ordinalSuffix_mem n)
    (by rwa [Text.value_digits]) after
  rwa [Text.value_digits] at this

theorem inert_space : Inert [' '] := Comment.inert_of_forall (by simp)

theorem inert_word (k : Keyword) : Inert k.word := inert_of_letters fun _ hc => .inl (Keyword.isAlpha_of_mem_word hc)

theorem inert_digits (n : Nat) : Inert (Text.digits n) := inert_of_letters fun _ hc => .inr (Text.digits_isDigit hc)

theorem inert_ordinalText (n : Nat) : Inert (ordinalText n) :=
  (inert_digits n).append (inert_of_letters fun c hc => .inl (isAlpha_of_mem_suffix (ordinalSuffix_mem n) c hc))

end Lexeme

/-! ## The layout that is written -/

open Lexeme

/-- The words of a written rule, with a blank in front. -/
def Rule.pieces : Rule → Layout
  | relative (some n) u => [⟨[' '], Text.digits n.value, .number n.value⟩, ⟨[' '], u.value.word, .keyword u.value⟩]
  | relative none u => [⟨[' '], u.value.word, .keyword u.value⟩]
  | weekday d => [⟨[' '], d.value.word, .keyword d.value⟩]
  | day n => [⟨[' '], ordinalText n.value, .ordinal n.value⟩]
  | monthDay m n => [⟨[' '], m.value.word, .keyword m.value⟩, ⟨[' '], ordinalText n.value, .ordinal n.value⟩]
  | code c => [⟨[' '], Keyword.code.word, .keyword .code⟩, ⟨[], Text.quotedCode c, .code c⟩]

namespace Rule

theorem text_pieces (r : Rule) : r.pieces.text = ' ' :: r.written := by
  rcases r with ⟨_ | n, u⟩ | d | n | ⟨m, n⟩ | c <;> simp [pieces, written, words]

theorem kinds_pieces (r : Rule) : r.pieces.kinds = r.sense.kinds := by
  rcases r with ⟨_ | n, u⟩ | d | n | ⟨m, n⟩ | c <;> rfl

theorem sound_pieces {r : Rule} (h : r.Writable) {after : Text} (ha : Parts after) : r.pieces.Sound after := by
  rcases r with ⟨_ | n, u⟩ | d | n | ⟨m, n⟩ | c
  · exact ⟨isBlank_of_mem_space, spells_word _ ha, trivial⟩
  · exact ⟨isBlank_of_mem_space, spells_digits (h.1 n rfl) (parts_blank _), isBlank_of_mem_space, spells_word _ ha,
      trivial⟩
  · exact ⟨isBlank_of_mem_space, spells_word _ ha, trivial⟩
  · exact ⟨isBlank_of_mem_space, spells_ordinalText h _, trivial⟩
  · exact ⟨isBlank_of_mem_space, spells_word _ (parts_blank _), isBlank_of_mem_space, spells_ordinalText h.2 _, trivial⟩
  · exact ⟨isBlank_of_mem_space, spells_word _ (parts_cons (by decide) _), by simp, spells_quotedCode c _, trivial⟩

theorem inert_written {r : Rule} (h : r.Writable) : Inert r.written := by
  rcases r with ⟨_ | n, u⟩ | d | n | ⟨m, n⟩ | c
  · exact inert_word _
  · exact (inert_digits n.value).append (inert_space.append (inert_word u.value))
  · exact inert_word _
  · exact inert_ordinalText _
  · exact (inert_word m.value).append (inert_space.append (inert_ordinalText n.value))
  · exact (inert_word .code).append (inert_quotedCode h)

/-- Written rules, each after a comma. -/
def morePieces (rs : List Rule) : Layout := rs.flatMap fun r => ⟨[], [','], .separator⟩ :: r.pieces

theorem morePieces_cons (r : Rule) (rs : List Rule) :
    morePieces (r :: rs) = ⟨[], [','], .separator⟩ :: (r.pieces ++ morePieces rs) := by simp [morePieces]

theorem parts_morePieces (rs : List Rule) {after : Text} (ha : Parts after) :
    Parts ((morePieces rs).text ++ after) := by
  cases rs with
  | nil => exact ha
  | cons r rs => rw [morePieces_cons]; exact parts_comma _

theorem sound_morePieces : ∀ {rs : List Rule}, (∀ r ∈ rs, r.Writable) → ∀ {after : Text}, Parts after →
    (morePieces rs).Sound after
  | [], _, _, _ => trivial
  | r :: rs, h, after, ha => by
    rw [morePieces_cons]
    refine ⟨by simp, .separator _, Layout.sound_append.2 ⟨?_, ?_⟩⟩
    · exact sound_pieces (h r List.mem_cons_self) (parts_morePieces rs ha)
    · exact sound_morePieces (fun r hr => h r (List.mem_cons_of_mem _ hr)) ha

theorem kinds_morePieces : ∀ rs : List Rule, (morePieces rs).kinds = Sense.moreKinds (rs.map sense)
  | [] => rfl
  | r :: rs => by
    rw [morePieces_cons, Layout.kinds_cons, Layout.kinds_append, kinds_pieces, kinds_morePieces rs]; rfl

theorem text_morePieces : ∀ rs : List Rule, (morePieces rs).text = rs.flatMap fun r => ", ".toList ++ r.written
  | [] => rfl
  | r :: rs => by
    rw [morePieces_cons, Layout.text_cons, Layout.text_append, text_pieces, text_morePieces rs, List.flatMap_cons]; rfl

theorem inert_more : ∀ {rs : List Rule}, (∀ r ∈ rs, r.Writable) → Inert (rs.flatMap fun r => ", ".toList ++ r.written)
  | [], _ => Comment.inert_of_forall (by simp)
  | r :: rs, h => by
    rw [List.flatMap_cons]
    refine ((Comment.inert_of_forall (by simp)).append (inert_written (h r List.mem_cons_self))).append ?_
    exact inert_more fun r hr => h r (List.mem_cons_of_mem _ hr)

end Rule

theorem Text.joined_cons (s t : Text) (ts : List Text) : joined s (t :: ts) = t ++ ts.flatMap (s ++ ·) := by
  induction ts generalizing t with
  | nil => simp [joined, List.intercalate]
  | cons u ts ih =>
    rw [List.flatMap_cons, List.append_assoc, ← ih u]
    simp [joined, List.intercalate]

namespace Query

/-- The words of a written query. -/
def pieces (r : Rule) (rs : List Rule) : Layout :=
  ⟨[], Keyword.every.word, .keyword .every⟩ :: (r.pieces ++ Rule.morePieces rs)

theorem written_cons (span : Span) (c : Command) (cs : List Command) :
    written ⟨span, c :: cs⟩ =
      Keyword.every.word ++
        ' ' :: (c.value.written ++ (cs.map Located.value).flatMap fun r => ", ".toList ++ r.written) := by
  rw [written, List.map_cons, Text.joined_cons, List.flatMap_map, List.flatMap_map]

theorem text_pieces (span : Span) (c : Command) (cs : List Command) :
    (pieces c.value (cs.map Located.value)).text = written ⟨span, c :: cs⟩ := by
  rw [pieces, Layout.text_cons, Layout.text_append, Rule.text_pieces, Rule.text_morePieces, written_cons,
    List.nil_append, List.cons_append]

theorem sound_pieces {r : Rule} {rs : List Rule} (h : ∀ s ∈ r :: rs, s.Writable) {after : Text} (ha : Parts after) :
    (pieces r rs).Sound after := by
  refine ⟨by simp, spells_word _ ?_, Layout.sound_append.2 ⟨?_, ?_⟩⟩
  · rw [Layout.text_append, Rule.text_pieces]
    exact parts_blank _
  · exact Rule.sound_pieces (h r List.mem_cons_self) (Rule.parts_morePieces rs ha)
  · exact Rule.sound_morePieces (fun s hs => h s (List.mem_cons_of_mem _ hs)) ha

theorem kinds_pieces (r : Rule) (rs : List Rule) :
    (pieces r rs).kinds = .keyword .every :: (r.sense.kinds ++ Rule.Sense.moreKinds (rs.map Rule.sense)) := by
  rw [pieces, Layout.kinds_cons, Layout.kinds_append, Rule.kinds_pieces, Rule.kinds_morePieces]

theorem inert_written {span : Span} {c : Command} {cs : List Command} (h : ∀ d ∈ c :: cs, d.value.Writable) :
    Inert (written ⟨span, c :: cs⟩) := by
  rw [written_cons]
  refine (inert_word .every).append (inert_space.append ((Rule.inert_written (h c List.mem_cons_self)).append ?_))
  exact Rule.inert_more (List.forall_mem_map.2 fun d hd => h d (List.mem_cons_of_mem _ hd))

/-- **A query that has been written down reads back as the same query**, up to the places of its words. -/
theorem written_reads_back (q : Query) (hne : q.commands ≠ []) (hw : ∀ c ∈ q.commands, c.value.Writable) :
    ∃ tokens q', Token.ofText q.written = .ok tokens ∧ ofTokens tokens = .ok q' ∧ q'.senses = q.senses := by
  obtain ⟨span, commands⟩ := q
  obtain ⟨c, cs, rfl⟩ := List.exists_cons_of_ne_nil hne
  have hr : ∀ r ∈ (c :: cs).map Located.value, r.Writable := List.forall_mem_map.2 hw
  have hscan := Token.scanAll_of_sound (sound_pieces hr (parts_blank [])) isBlank_of_mem_space
  rw [text_pieces span, ← Text.withoutComments_of_free (inert_written hw).1] at hscan
  have hp : ∀ s ∈ ((c :: cs).map Located.value).map Rule.sense, s.Proper :=
    List.forall_mem_map.2 fun r hm => (hr r hm).proper
  obtain ⟨d, ht, hs⟩ := Query.Derivation.exists_every_of_kinds hp ((Layout.tokens_value _ _ _).trans (kinds_pieces _ _))
  refine ⟨_, d.query, hscan, ht ▸ ofTokens_derived d, hs.trans ?_⟩
  rw [senses, List.map_cons, List.map_map]; rfl

/-- A query built by hand with a command of each kind, its code full of marks. -/
def ofEachKind : Query :=
  let s : Span := .of [] 0 0
  ⟨s, [⟨s, .relative (some ⟨s, 4294967295⟩) ⟨s, .unit .day true⟩⟩, ⟨s, .relative none ⟨s, .unit .week false⟩⟩,
    ⟨s, .weekday ⟨s, .weekday .friday⟩⟩, ⟨s, .day ⟨s, 22⟩⟩, ⟨s, .monthDay ⟨s, .month .february⟩ ⟨s, 8⟩⟩,
    ⟨s, .code "::\x7d // \\".toList⟩]⟩

theorem written_ofEachKind_reads_back :
    ofEachKind.commands ≠ [] ∧ (∀ c ∈ ofEachKind.commands, c.value.Writable) ∧
      ∃ tokens q', Token.ofText ofEachKind.written = .ok tokens ∧ ofTokens tokens = .ok q' ∧
        q'.senses = ofEachKind.senses :=
  ⟨by decide, by decide, written_reads_back ofEachKind (by decide) (by decide)⟩

example : ofEachKind.written =
    "every 4294967295 days, week, friday, 22nd, february 8th, f\x7b::\\:\\:\\\x7d\\ \\/\\/\\ \\\\::\x7d".toList := by
  decide +kernel

end Query
end Recurrence
