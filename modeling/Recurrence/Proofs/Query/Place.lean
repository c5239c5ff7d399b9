import Recurrence.Proofs.Query.Excerpt
import Recurrence.Proofs.Query.Outcome
/-!
# Places — where the faults of a text lie

A place in a text is a stretch that begins with a character that is no blank.  The tokens of a text have such places,
and so have the queries and commands that are read from them.  Every fault blames one of these: the scan a word that
spells nothing (`Token.exists_place_of_ofText`), the reader a token (`Query.exists_mem_of_ofTokens_error`), the resolver
a query, a command or a leaf of one (`Query.exists_visit_of_resolve_error`).
-/
namespace Recurrence

open Diagnostic (Cause)

/-- The span is a stretch of the text `t` that begins with a character that is no blank. -/
def Span.Placed (t : Text) (s : Span) : Prop :=
  ∃ i j, i < j ∧ j ≤ t.length ∧ (∃ c, t[i]? = some c ∧ Text.isBlank c = false) ∧ s = .of t i j

/-- The diagnostic blames the span, for a cause that has a sentence. -/
def Diagnostic.Blames (d : Diagnostic) (s : Span) : Prop := ∃ cause : Cause, d = .placed s cause ∧ cause.details ≠ []

/-- A cause has a sentence, unless an application reports it without one. -/
theorem Diagnostic.Cause.details_ne_nil {cause : Cause} (h : ∀ kind details, cause ≠ .reported kind details) :
    cause.details ≠ [] := by
  cases cause with
  | reported kind details => exact absurd rfl (h kind details)
  | _ => unfold details; simp

theorem Lexeme.Spoils.not_reported {cause : Cause} {w after : Text} (h : Spoils cause w after) :
    ∀ kind details, cause ≠ .reported kind details := by cases h <;> simp

namespace Span

variable {t : Text} {s u : Span}

theorem placed_of_slice {i j : Nat} {c : Char} {v : Text} (hj : j ≤ t.length) (hw : t.slice i j = c :: v)
    (hc : Text.isBlank c = false) : (of t i j).Placed t := by
  have hij : i < j := by
    refine Nat.lt_of_not_le fun hle => ?_
    have hnil : t.slice i j = [] := by rw [Text.slice, Nat.sub_eq_zero_of_le (by omega), List.take_zero]
    rw [hnil] at hw
    cases hw
  have hhead : (t.slice i j).head? = t[i]? := by
    rw [Text.slice, List.head?_take, if_neg (by omega), List.head?_drop]
  rw [hw] at hhead
  exact ⟨i, j, hij, hj, ⟨c, hhead.symm, hc⟩, rfl⟩

theorem Placed.upTo (hs : s.Placed t) (hu : u.Placed t) (h : s.start.index ≤ u.start.index) :
    (s.upTo u).Placed t := by
  obtain ⟨i, j, hij, hj, hc, rfl⟩ := hs
  obtain ⟨k, l, hkl, hl, -, rfl⟩ := hu
  simp only [of, Position.of] at h
  exact ⟨i, l, by omega, hl, hc, upTo_of t i j k l⟩

theorem Placed.diagnostic_eq (hs : s.Placed t) (cause : Cause) : Diagnostic.placed s cause = ⟨cause, some s⟩ := by
  obtain ⟨i, j, -, -, -, rfl⟩ := hs
  exact Diagnostic.placed_of t i j cause

end Span

theorem Diagnostic.Blames.span_eq {d : Diagnostic} {t : Text} {s : Span} (hd : d.Blames s) (hs : s.Placed t) :
    d.span = some s ∧ d.details ≠ [] := by
  obtain ⟨cause, rfl, hne⟩ := hd
  rw [hs.diagnostic_eq]
  exact ⟨rfl, hne⟩

/-! ## Tokens and words that spell none -/

namespace Token

/-- The tokens have places in the text `t`, one after the other. -/
structure Along (t : Text) (tokens : List Token) : Prop where
  placed : ∀ k ∈ tokens, k.span.Placed t
  ordered : Ordered tokens

theorem Tiles.along {t : Text} {first last : Nat} {tokens : List Token} (h : Tiles t first last tokens)
    (hlast : last ≤ t.length) : Along t tokens where
  placed k hk := by
    obtain ⟨i, j, -, -, hj, hs, hw⟩ := h.placed k hk
    obtain ⟨c, v, hcv, hc⟩ := hw.exists_cons
    rw [hs]
    exact Span.placed_of_slice (by omega) hcv hc
  ordered := h.ordered_tokens

/-- The tokens of a source text stand along it. -/
theorem along_of_ofText {source : Text} {tokens : List Token} (h : ofText source = .ok tokens) :
    Along source.withoutComments tokens := (tiles_of_ofText h).along (Nat.le_refl _)

namespace Along

variable {t : Text} {tokens part : List Token}

theorem sublist (h : Along t tokens) (hs : part.Sublist tokens) : Along t part :=
  ⟨fun k hk => h.placed k (hs.subset hk), h.ordered.sublist hs⟩

/-- The stretch of tokens that stand along a text is a place in it. -/
theorem stretch (h : Along t tokens) (hn : tokens ≠ []) : (Token.stretch tokens hn).Placed t := by
  have hhead := h.placed _ (List.head_mem hn)
  have hstop := h.placed _ (List.getLast_mem hn)
  exact hhead.upTo hstop (h.ordered.start_head_le hn (List.getLast_mem hn))

end Along

/-- A text without tokens is blamed at a word that spells none. -/
theorem exists_place_of_ofText {source : Text} {d : Diagnostic} (h : ofText source = .error d) :
    ∃ s, s.Placed source.withoutComments ∧ d.Blames s := by
  unfold ofText at h
  generalize source.withoutComments = t at h ⊢
  rcases Layout.layout_cases t with ⟨l, g, rfl, hg, hl⟩ | ⟨l, g, w, after, cause, ht, hg, hl, hs⟩
  · rw [scanAll_of_sound hl hg] at h
    cases h
  · have he := scanAll_of_spoils hl hg hs
    rw [← ht, h] at he
    have hd : t.drop (l.text.length + g.length) = w ++ after := by
      rw [ht, ← List.drop_drop, List.drop_left, List.drop_left]
    have hlast : l.text.length + g.length + w.length ≤ t.length := by
      rw [ht]
      simp only [List.length_append]
      omega
    obtain ⟨c, v, hcv, hc⟩ := hs.exists_cons
    have hw : t.slice (l.text.length + g.length) (l.text.length + g.length + w.length) = c :: v := by
      rw [Text.slice_add hd, hcv]
    exact ⟨_, Span.placed_of_slice hlast hw hc, cause, Except.error.inj he, Cause.details_ne_nil hs.not_reported⟩

end Token

/-! ## Stops of the reader -/

namespace Command

variable {ts rest : List Token} {t : Token}

theorem mem_of_readLast {α : Type} {accept : Token.Kind → Option α} {build : Located α → Command}
    (h : readLast accept build ts = .error (.atToken t)) : t ∈ ts := by
  cases ts with
  | nil => cases h
  | cons k ts =>
    rw [readLast] at h
    cases ha : accept k.value with
    | some a => rw [ha] at h; cases h
    | none => rw [ha] at h; cases h; exact List.mem_cons_self

theorem mem_of_read (h : read ts = .error (.atToken t)) : t ∈ ts := by
  cases ts with
  | nil => cases h
  | cons k ts =>
    rw [read, readFrom] at h
    split at h
    -- a number, a month and the word for code ask for one more token; what opens no command is stopped at itself
    case h_1 => exact List.mem_cons_of_mem k (mem_of_readLast h)
    case h_5 => exact List.mem_cons_of_mem k (mem_of_readLast h)
    case h_6 => exact List.mem_cons_of_mem k (mem_of_readLast h)
    case h_7 => cases h; exact List.mem_cons_self
    all_goals cases h

/-- What a command leaves are tokens after it. -/
theorem subset_of_read {c : Command} (h : read ts = .ok (c, rest)) : rest ⊆ ts := by
  obtain ⟨d, -, rfl⟩ := exists_derivation_of_read h
  exact List.subset_append_right d.tokens rest

theorem mem_of_readMore (h : readMore ts = .error (.atToken t)) : t ∈ ts := by
  fun_induction readMore ts with
  | case1 => cases h
  | case2 k rest hk c rest' hc ih =>
    cases hm : readMore rest' with
    | ok cs => rw [hm] at h; cases h
    | error stop =>
      rw [hm] at h
      cases h
      exact List.mem_cons_of_mem k (subset_of_read hc (ih hm))
  | case3 k rest hk stop hr =>
    cases h
    exact List.mem_cons_of_mem k (mem_of_read hr)
  | case4 k rest hk =>
    cases h
    exact List.mem_cons_self

theorem mem_of_readAll (h : readAll ts = .error (.atToken t)) : t ∈ ts := by
  rw [readAll] at h
  cases hr : read ts with
  | error stop =>
    rw [hr] at h
    cases h
    exact mem_of_read hr
  | ok p =>
    rw [hr] at h
    cases hm : readMore p.2 with
    | ok cs => simp only [hm] at h; cases h
    | error stop =>
      simp only [hm] at h
      cases h
      exact subset_of_read hr (mem_of_readMore hm)

/-- **The reader stops at a token of the phrase**, if it does not stop at its end. -/
theorem mem_of_readPhrase {k : Token} (h : readPhrase k ts = .error (.atToken t)) : t ∈ k :: ts := by
  rw [readPhrase] at h
  split at h
  · exact List.mem_cons_of_mem k (mem_of_readAll h)
  · cases hm : readMore ts with
    | ok cs => rw [hm] at h; cases h
    | error stop =>
      rw [hm] at h
      cases h
      exact List.mem_cons_of_mem k (mem_of_readMore hm)
  · exact mem_of_readAll h

end Command

/-- A stop is blamed on a token of the phrase. -/
theorem Stop.exists_mem_of_diagnostic {ts : List Token} (hts : ts ≠ []) {stop : Stop}
    (h : ∀ t, stop = .atToken t → t ∈ ts) : ∃ k ∈ ts, (stop.diagnostic ts).Blames k.span := by
  cases stop with
  | atToken t => exact ⟨t, h t rfl, _, rfl, Cause.details_ne_nil (by simp)⟩
  | atEnd =>
    refine ⟨ts.getLast hts, List.getLast_mem hts, .unexpectedEnd, ?_, Cause.details_ne_nil (by simp)⟩
    rw [diagnostic, List.getLast?_eq_some_getLast hts]

/-- **A phrase that cannot be read is blamed on one of its tokens**; only where there is none, nothing is blamed. -/
theorem Query.exists_mem_of_ofTokens_error {ts : List Token} {d : Diagnostic} (h : ofTokens ts = .error d) :
    (ts = [] ∧ d = .unplaced .unexpectedEnd) ∨ ∃ k ∈ ts, d.Blames k.span := by
  cases ts with
  | nil => cases h; exact .inl ⟨rfl, rfl⟩
  | cons t rest =>
    rw [ofTokens] at h
    cases hp : Command.readPhrase t rest with
    | ok cs => rw [hp] at h; cases h
    | error stop =>
      rw [hp] at h
      cases h
      refine .inr (Stop.exists_mem_of_diagnostic (List.cons_ne_nil t rest) ?_)
      rintro k rfl
      exact Command.mem_of_readPhrase hp

/-! ## The parts of a query -/

theorem Command.Derivation.span_mem_of_leaf (d : Derivation) {l : Located Query.Part} (hl : l ∈ d.rule.leaves) :
    l.span ∈ d.tokens.map Located.span := by
  have hsub : d.rule.leaves.map Located.span ⊆ d.tokens.map Located.span := by
    cases d <;> simp [rule, tokens, Rule.leaves, Located.map]
  exact hsub (List.mem_map_of_mem hl)

namespace Query

open Command.Derivation (moreTokens moreCommands)

/-- A command of a query is derived from some of its tokens, or a shorthand stands for it. -/
theorem Derivation.cases_of_mem (d : Derivation) {c : Command} (hc : c ∈ d.commands) :
    (∃ e : Command.Derivation, e.command = c ∧ e.tokens ⊆ d.tokens) ∨
      ∃ s : Located Shorthand, s.map (fun s => .keyword (.shorthand s)) ∈ d.tokens ∧
        c = ⟨s.span, .relative none (s.map fun s => .unit s.unit false)⟩ := by
  have later {more : List (Span × Command.Derivation)} (hc : c ∈ moreCommands more) :
      ∃ e : Command.Derivation, e.command = c ∧ e.tokens ⊆ moreTokens more := by
    obtain ⟨before, e, after, ht, he⟩ := exists_part_of_mem hc
    refine ⟨e, he, ?_⟩
    rw [ht]
    exact List.Subset.trans (List.subset_append_left _ _) (List.subset_append_right _ _)
  cases d with
  | every m d more =>
    rcases List.mem_cons.1 hc with rfl | hc
    · exact .inl ⟨d, rfl, List.Subset.trans (List.subset_append_left _ _) (List.subset_cons_self _ _)⟩
    · obtain ⟨e, he, hsub⟩ := later hc
      exact .inl ⟨e, he, List.Subset.trans hsub (List.subset_cons_of_subset _ (List.subset_append_right _ _))⟩
  | shorthand s more =>
    rcases List.mem_cons.1 hc with rfl | hc
    · exact .inr ⟨s, List.mem_cons_self, rfl⟩
    · obtain ⟨e, he, hsub⟩ := later hc
      exact .inl ⟨e, he, List.subset_cons_of_subset _ hsub⟩
  | plain d more =>
    rcases List.mem_cons.1 hc with rfl | hc
    · exact .inl ⟨d, rfl, List.subset_append_left _ _⟩
    · obtain ⟨e, he, hsub⟩ := later hc
      exact .inl ⟨e, he, List.Subset.trans hsub (List.subset_append_right _ _)⟩

theorem Derivation.span_mem_of_leaf (d : Derivation) {c : Command} (hc : c ∈ d.commands) {l : Located Part}
    (hl : l ∈ c.value.leaves) : l.span ∈ d.tokens.map Located.span := by
  rcases d.cases_of_mem hc with ⟨e, rfl, hsub⟩ | ⟨s, hs, rfl⟩
  · exact List.map_subset _ hsub (e.span_mem_of_leaf hl)
  · rw [List.mem_singleton.1 hl]
    exact List.mem_map_of_mem hs

/-- **All that a walk over a query passes has a place in the text of its tokens.** -/
theorem placed_visits {t : Text} {tokens : List Token} {q : Query} (ht : Token.Along t tokens)
    (hq : ofTokens tokens = .ok q) : ∀ p ∈ q.visits, p.span.Placed t := by
  obtain ⟨d, rfl, rfl⟩ := exists_derivation_of_ofTokens hq
  intro p hp
  rcases List.mem_append.1 hp with hp | hp
  · obtain ⟨c, hc, hp⟩ := List.mem_flatMap.1 hp
    rcases List.mem_append.1 hp with hl | hl
    · obtain ⟨k, hk, hs⟩ := List.mem_map.1 (d.span_mem_of_leaf hc hl)
      rw [← hs]
      exact ht.placed k hk
    · obtain ⟨before, e, after, hd, he⟩ := d.exists_part hc
      have hsub : e.tokens.Sublist d.tokens := by
        rw [hd]
        exact (List.sublist_append_left _ _).trans (List.sublist_append_right _ _)
      have hspan : Token.stretch e.tokens e.tokens_ne_nil = c.span := congrArg Query.span he
      rw [List.mem_singleton.1 hl, ← hspan]
      exact (ht.sublist hsub).stretch e.tokens_ne_nil
  · rw [List.mem_singleton.1 hp]
    exact ht.stretch d.tokens_ne_nil

end Query

/-! ## Faults of the resolver -/

namespace Rule

theorem quantity_eq_error {number : Option (Located Nat)} {d : Diagnostic} :
    quantity number = .error d ↔ ∃ n, number = some n ∧ n.value < 1 ∧ d = .placed n.span .zeroQuantity := by
  cases number with
  | none => simp [quantity]
  | some n =>
    rw [quantity]
    by_cases h : n.value < 1
    · rw [if_pos h]
      simp only [Except.error.injEq, Option.some.injEq, exists_eq_left', h, true_and, eq_comm]
    · rw [if_neg h]
      simp only [reduceCtorEq, Option.some.injEq, exists_eq_left', h, false_and]

theorem named_eq_error {α : Type} {meaning : Keyword → Option α} {cause : Keyword → Cause} {k : Located Keyword}
    {d : Diagnostic} :
    named meaning cause k = .error d ↔ meaning k.value = none ∧ d = .placed k.span (cause k.value) := by
  rw [named]
  cases meaning k.value with
  | none => simp [eq_comm]
  | some a => simp

theorem blame_eq_error {α : Type} {span : Span} {bounds : Diagnostic.DayBounds} {x : Except Calendar.Refusal α}
    {d : Diagnostic} :
    blame span bounds x = .error d ↔ ∃ refusal, x = .error refusal ∧ d = .placed span (.ofRefusal bounds refusal) := by
  cases x with
  | ok a => simp [blame]
  | error refusal => simp [blame, eq_comm]

end Rule

theorem Diagnostic.details_ofRefusal (bounds : Diagnostic.DayBounds) (refusal : Calendar.Refusal) :
    (Cause.ofRefusal bounds refusal).details ≠ [] := by
  cases refusal <;> exact Cause.details_ne_nil (by simp [Cause.ofRefusal])

namespace Rule

/-- Why code names no day. -/
inductive CodeFails (today : Date) : Cause → Prop
  | forbidden : CodeFails today .codeForbidden
  | alone : CodeFails today .noEvaluator
  | failed (message : Text) : CodeFails today (.codeFailed message)
  | notNumber : CodeFails today .codeNotNumber
  | outOfBounds : CodeFails today .codeOutOfBounds
  | refused {days : Nat} {refusal : Calendar.Refusal} :
      today.plus days .day = .error refusal → CodeFails today (.ofRefusal .anyMonth refusal)

theorem CodeFails.details_ne_nil {today : Date} {cause : Cause} (h : CodeFails today cause) : cause.details ≠ [] := by
  cases h with
  | @refused _ refusal => exact Diagnostic.details_ofRefusal .anyMonth refusal
  | _ => exact Cause.details_ne_nil (by simp)

theorem codeFails_of_dayOfReply {today : Date} {reply : Except Text Reply} {cause : Cause}
    (h : dayOfReply today reply = .error cause) : CodeFails today cause := by
  unfold dayOfReply at h
  split at h
  · cases h; exact .failed _
  · cases h; exact .notNumber
  · cases h; exact .notNumber
  · split at h
    · cases h; exact .outOfBounds
    · cases hp : today.plus _ .day with
      | ok day => rw [hp] at h; cases h
      | error refusal =>
        rw [hp] at h
        cases h
        exact .refused hp

theorem codeFails_of_codeDay {ctx : Context} {n : Nat} {span : Span} {code : Text} {d : Diagnostic}
    (h : (codeDay ctx n span code).result = .error d) :
    ∃ cause, CodeFails ctx.today cause ∧ d = .placed span cause := by
  unfold codeDay at h
  split at h
  · split at h
    · cases h; exact ⟨_, .alone, rfl⟩
    · rename_i e he
      cases hr : dayOfReply ctx.today (e n code ctx.now) with
      | ok day => simp only [hr] at h; cases h
      | error cause =>
        simp only [hr] at h
        cases h
        exact ⟨cause, codeFails_of_dayOfReply hr, rfl⟩
  · cases h; exact ⟨_, .forbidden, rfl⟩

end Rule

variable {ctx : Context} {n : Nat} {d : Diagnostic}

/-- **A command that names no day is blamed itself, or one of its words is.** -/
theorem Command.exists_visit_of_resolve_error {c : Command} (h : (c.resolve ctx n).result = .error d) :
    ∃ p ∈ c.visits, d.Blames p.span := by
  obtain ⟨span, r⟩ := c
  have whole {bounds : Diagnostic.DayBounds} {x : Except Calendar.Refusal Date}
      (h : Rule.blame span bounds x = .error d) : ∃ p ∈ Command.visits ⟨span, r⟩, d.Blames p.span := by
    obtain ⟨refusal, -, rfl⟩ := Rule.blame_eq_error.1 h
    exact ⟨⟨span, .command⟩, by simp [visits], _, rfl, Diagnostic.details_ofRefusal bounds refusal⟩
  cases r with
  | relative number unit =>
    rcases bind_eq_error.1 h with h | ⟨quantity, -, h⟩
    · obtain ⟨k, rfl, -, rfl⟩ := Rule.quantity_eq_error.1 h
      exact ⟨⟨k.span, .number⟩, by simp [visits, Rule.leaves], _, rfl, Cause.details_ne_nil (by simp)⟩
    rcases bind_eq_error.1 h with h | ⟨unit, -, h⟩
    · obtain ⟨-, rfl⟩ := Rule.named_eq_error.1 h
      exact ⟨⟨unit.span, .unit⟩, by simp [visits, Rule.leaves], _, rfl, Cause.details_ne_nil (by simp)⟩
    · exact whole h
  | weekday day =>
    rcases bind_eq_error.1 h with h | ⟨weekday, -, h⟩
    · obtain ⟨-, rfl⟩ := Rule.named_eq_error.1 h
      exact ⟨⟨day.span, .weekday⟩, by simp [visits, Rule.leaves], _, rfl, Cause.details_ne_nil (by simp)⟩
    · exact whole h
  | day day => exact whole h
  | monthDay month day =>
    rcases bind_eq_error.1 h with h | ⟨name, -, h⟩
    · obtain ⟨-, rfl⟩ := Rule.named_eq_error.1 h
      exact ⟨⟨month.span, .month⟩, by simp [visits, Rule.leaves], _, rfl, Cause.details_ne_nil (by simp)⟩
    · exact whole h
  | code code =>
    obtain ⟨cause, hcause, rfl⟩ := Rule.codeFails_of_codeDay h
    exact ⟨⟨span, .command⟩, by simp [visits], cause, rfl, hcause.details_ne_nil⟩

theorem Command.exists_of_resolveAll_error {cs : List Command} (h : (resolveAll ctx n cs).result = .error d) :
    ∃ c ∈ cs, ∃ m, (c.resolve ctx m).result = .error d := by
  induction cs generalizing n with
  | nil => cases h
  | cons c cs ih =>
    rw [result_resolveAll_cons] at h
    rcases bind_eq_error.1 h with h | ⟨day, -, h⟩
    · exact ⟨c, List.mem_cons_self, n, h⟩
    · cases hr : (resolveAll ctx (n + (c.resolve ctx n).calls.length) cs).result with
      | ok days => rw [hr] at h; cases h
      | error fault =>
        rw [hr] at h
        cases h
        obtain ⟨b, hb, hm⟩ := ih hr
        exact ⟨b, List.mem_cons_of_mem c hb, hm⟩

/-- **A query that names no day is blamed at something that a walk over it passes.** -/
theorem Query.exists_visit_of_resolve_error {q : Query} (h : (q.resolve ctx n).result = .error d) :
    ∃ p ∈ q.visits, d.Blames p.span := by
  rcases bind_eq_error.1 h with h | ⟨days, -, h⟩
  · obtain ⟨c, hc, m, hr⟩ := Command.exists_of_resolveAll_error h
    obtain ⟨p, hp, hd⟩ := Command.exists_visit_of_resolve_error hr
    exact ⟨p, List.mem_append_left _ (List.mem_flatMap.2 ⟨c, hc, hp⟩), hd⟩
  · rw [earliest] at h
    cases hm : days.min? with
    | some day => rw [hm] at h; cases h
    | none =>
      rw [hm] at h
      cases h
      exact ⟨⟨q.span, .query⟩, by simp [visits], _, rfl, Cause.details_ne_nil (by simp)⟩

end Recurrence
