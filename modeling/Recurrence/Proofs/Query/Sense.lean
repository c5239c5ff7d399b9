import Recurrence.Proofs.Query.Derivation
/-!
# Senses — what a query says, wherever it stands

The sense of a rule is the rule without the spans of its words.  It is decided by the kinds of the tokens alone:
tokens whose kinds say some senses are derived as these (`Query.Derivation.exists_every_of_kinds`), and tokens of the
same kinds are read alike (`Query.sensed_ofTokens`), so that a phrase says the same, or has the same fault, in whatever
place it is read.
-/
namespace Recurrence

/-- A rule without the places of its words. -/
inductive Rule.Sense where
  | relative (number : Option Nat) (unit : Keyword)
  | weekday (day : Keyword)
  | day (day : Nat)
  | monthDay (month : Keyword) (day : Nat)
  | code (code : Text)
deriving DecidableEq, Repr

def Rule.sense : Rule → Rule.Sense
  | relative n u => .relative (n.map Located.value) u.value
  | weekday d => .weekday d.value
  | day n => .day n.value
  | monthDay m n => .monthDay m.value n.value
  | code c => .code c

/-- What the commands of a query say, in order. -/
def Query.senses (q : Query) : List Rule.Sense := q.commands.map fun c => c.value.sense

namespace Rule.Sense

/-- The kinds of the tokens that say it. -/
def kinds : Sense → List Token.Kind
  | relative n u => n.toList.map .number ++ [.keyword u]
  | weekday d => [.keyword d]
  | day n => [.ordinal n]
  | monthDay m n => [.keyword m, .ordinal n]
  | code c => [.keyword .code, .code c]

/-- Every keyword is of the kind that its place asks for. -/
def Proper : Sense → Prop
  | relative _ u => ∃ w : UnitWord, u = w.keyword
  | weekday d => ∃ w, d = .weekday w
  | monthDay m _ => ∃ w, m = .month w
  | _ => True

/-- The kinds of the tokens that say further senses, each after a comma. -/
def moreKinds (ss : List Sense) : List Token.Kind := ss.flatMap fun s => .separator :: s.kinds

end Rule.Sense

open Rule.Sense (moreKinds)

namespace Command.Derivation

theorem eq_singleton_of_map_value {ts : List Token} {k : Token.Kind} (h : ts.map Located.value = [k]) :
    ∃ s, ts = [⟨s, k⟩] := by
  obtain ⟨⟨s, _⟩, rfl, rfl⟩ := List.map_eq_singleton_iff.1 h
  exact ⟨s, rfl⟩

theorem eq_cons_of_map_value {ts : List Token} {k : Token.Kind} {ks : List Token.Kind}
    (h : ts.map Located.value = k :: ks) : ∃ s rest, ts = ⟨s, k⟩ :: rest ∧ rest.map Located.value = ks := by
  obtain ⟨⟨s, _⟩, rest, rfl, rfl, hr⟩ := List.map_eq_cons_iff.1 h
  exact ⟨s, rest, rfl, hr⟩

/-- Tokens whose kinds say a sense are derived, and read as it. -/
theorem exists_of_kinds {s : Rule.Sense} (hs : s.Proper) {ts : List Token} (h : ts.map Located.value = s.kinds) :
    ∃ d : Derivation, d.tokens = ts ∧ d.rule.sense = s := by
  cases s with
  | relative n u =>
    obtain ⟨w, rfl⟩ := hs
    cases n with
    | none =>
      obtain ⟨s, rfl⟩ := eq_singleton_of_map_value h
      exact ⟨.single ⟨s, w⟩, rfl, rfl⟩
    | some n =>
      obtain ⟨s, rest, rfl, hr⟩ := eq_cons_of_map_value h
      obtain ⟨s', rfl⟩ := eq_singleton_of_map_value hr
      exact ⟨.counted ⟨s, n⟩ ⟨s', w⟩, rfl, rfl⟩
  | weekday d =>
    obtain ⟨w, rfl⟩ := hs
    obtain ⟨s, rfl⟩ := eq_singleton_of_map_value h
    exact ⟨.weekday ⟨s, w⟩, rfl, rfl⟩
  | day n =>
    obtain ⟨s, rfl⟩ := eq_singleton_of_map_value h
    exact ⟨.ordinal ⟨s, n⟩, rfl, rfl⟩
  | monthDay m n =>
    obtain ⟨w, rfl⟩ := hs
    obtain ⟨s, rest, rfl, hr⟩ := eq_cons_of_map_value h
    obtain ⟨s', rfl⟩ := eq_singleton_of_map_value hr
    exact ⟨.monthOrdinal ⟨s, w⟩ ⟨s', n⟩, rfl, rfl⟩
  | code c =>
    obtain ⟨s, rest, rfl, hr⟩ := eq_cons_of_map_value h
    obtain ⟨s', rfl⟩ := eq_singleton_of_map_value hr
    exact ⟨.code s ⟨s', c⟩, rfl, rfl⟩

/-- What further commands say. -/
def moreSenses (more : List (Span × Derivation)) : List Rule.Sense := more.map fun m => m.2.rule.sense

theorem exists_more_of_kinds : ∀ {ss : List Rule.Sense}, (∀ s ∈ ss, s.Proper) → ∀ {ts : List Token},
    ts.map Located.value = moreKinds ss → ∃ more, moreTokens more = ts ∧ moreSenses more = ss
  | [], _, ts, h => by
    rw [moreKinds, List.flatMap_nil, List.map_eq_nil_iff] at h
    exact ⟨[], h.symm, rfl⟩
  | s :: ss, hs, ts, h => by
    rw [moreKinds, List.flatMap_cons, List.cons_append] at h
    obtain ⟨c, rest, rfl, hr⟩ := eq_cons_of_map_value h
    obtain ⟨us, vs, rfl, hu, hv⟩ := List.map_eq_append_iff.1 hr
    obtain ⟨d, rfl, rfl⟩ := exists_of_kinds (hs s List.mem_cons_self) hu
    obtain ⟨more, rfl, rfl⟩ := exists_more_of_kinds (fun s h => hs s (List.mem_cons_of_mem _ h)) hv
    exact ⟨(c, d) :: more, moreTokens_cons c d more, rfl⟩

theorem exists_all_of_kinds {s : Rule.Sense} {ss : List Rule.Sense} (hs : ∀ r ∈ s :: ss, r.Proper) {ts : List Token}
    (h : ts.map Located.value = s.kinds ++ moreKinds ss) :
    ∃ (d : Derivation) (more : List (Span × Derivation)), d.tokens ++ moreTokens more = ts ∧ d.rule.sense = s ∧
      moreSenses more = ss := by
  obtain ⟨us, vs, rfl, hu, hv⟩ := List.map_eq_append_iff.1 h
  obtain ⟨d, rfl, rfl⟩ := exists_of_kinds (hs s List.mem_cons_self) hu
  obtain ⟨more, rfl, rfl⟩ := exists_more_of_kinds (fun s h => hs s (List.mem_cons_of_mem _ h)) hv
  exact ⟨d, more, rfl, rfl, rfl⟩

end Command.Derivation

namespace Query.Derivation

open Command.Derivation

theorem senses_moreCommands (more : List (Span × Command.Derivation)) :
    (moreCommands more).map (fun c => c.value.sense) = moreSenses more := by
  rw [moreCommands, List.map_map]; rfl

theorem senses_cons (c : Command) (more : List (Span × Command.Derivation)) (span : Span) :
    Query.senses ⟨span, c :: moreCommands more⟩ = c.value.sense :: moreSenses more := by
  rw [Query.senses, List.map_cons, senses_moreCommands]

theorem exists_every_of_kinds {s : Rule.Sense} {ss : List Rule.Sense} (hs : ∀ r ∈ s :: ss, r.Proper) {ts : List Token}
    (h : ts.map Located.value = .keyword .every :: (s.kinds ++ moreKinds ss)) :
    ∃ d : Derivation, d.tokens = ts ∧ d.query.senses = s :: ss := by
  obtain ⟨m, rest, rfl, hr⟩ := eq_cons_of_map_value h
  obtain ⟨d, more, rfl, rfl, rfl⟩ := exists_all_of_kinds hs hr
  exact ⟨.every m d more, rfl, senses_cons _ _ _⟩

end Query.Derivation

/-! ## Reading by kinds

Reading looks at the kinds of the tokens and at nothing else of them, so tokens of the same kinds say the same or are
refused for the same cause (`Query.sensed_ofTokens`). -/

/-- The cause of a stop, wherever it is. -/
def Stop.cause : Stop → Diagnostic.Cause
  | atToken t => .unexpectedToken t.value.called
  | atEnd => .unexpectedEnd

theorem Stop.cause_diagnostic (tokens : List Token) (stop : Stop) : (stop.diagnostic tokens).cause = stop.cause := by
  cases stop with
  | atToken t => rfl
  | atEnd =>
    rw [diagnostic]
    cases tokens.getLast? <;> rfl

namespace Command

/-- What a command says and the kinds of the tokens left, or the cause of the stop. -/
def sensed (x : Except Stop (Command × List Token)) : Except Diagnostic.Cause (Rule.Sense × List Token.Kind) :=
  (x.map fun p => (p.1.value.sense, p.2.map Located.value)).mapError Stop.cause

/-- What commands say, or the cause of the stop. -/
def sensedAll (x : Except Stop (List Command)) : Except Diagnostic.Cause (List Rule.Sense) :=
  (x.map fun cs => cs.map fun c => c.value.sense).mapError Stop.cause

theorem sensed_pair (c : Command) (rest : List Token) :
    sensed (.ok (c, rest)) = .ok (c.value.sense, rest.map Located.value) := rfl

theorem sensed_ok {c : Command} {rest : List Token} {x : Except Stop (Command × List Token)}
    (h : sensed (.ok (c, rest)) = sensed x) :
    ∃ c' rest', x = .ok (c', rest') ∧ c.value.sense = c'.value.sense ∧
      rest.map Located.value = rest'.map Located.value := by
  cases x with
  | error stop => cases h
  | ok p =>
    obtain ⟨hc, hr⟩ := Prod.mk.inj (Except.ok.inj h)
    exact ⟨p.1, p.2, rfl, hc, hr⟩

theorem sensed_error {stop : Stop} {x : Except Stop (Command × List Token)} (h : sensed (.error stop) = sensed x) :
    ∃ stop', x = .error stop' ∧ stop.cause = stop'.cause := by
  cases x with
  | error stop' => exact ⟨stop', rfl, Except.error.inj h⟩
  | ok p => cases h

theorem sensed_readLast {α : Type} (accept : Token.Kind → Option α) {build build' : Located α → Command}
    (hb : ∀ s s' a, (build ⟨s, a⟩).value.sense = (build' ⟨s', a⟩).value.sense) :
    ∀ {ts ts' : List Token}, ts.map Located.value = ts'.map Located.value →
      sensed (readLast accept build ts) = sensed (readLast accept build' ts')
  | [], [], _ => rfl
  | ⟨s, k⟩ :: ts, ⟨s', k'⟩ :: ts', h => by
    obtain ⟨rfl, hr⟩ := List.cons.inj h
    cases ha : accept k with
    | some a =>
      simp only [readLast, ha]
      rw [sensed_pair, sensed_pair, hb s s' a, hr]
    | none => simp only [readLast, ha]; rfl

theorem sensed_read : ∀ {ts ts' : List Token}, ts.map Located.value = ts'.map Located.value →
    sensed (read ts) = sensed (read ts')
  | [], [], _ => rfl
  | ⟨s, k⟩ :: ts, ⟨s', k'⟩ :: ts', h => by
    obtain ⟨rfl, hr⟩ := List.cons.inj h
    have done {c c' : Command} (hc : c.value.sense = c'.value.sense) :
        sensed (.ok (c, ts)) = sensed (.ok (c', ts')) := by
      rw [sensed_pair, sensed_pair, hc, hr]
    cases k with
    | separator => rfl
    | number n =>
      simp only [read, readFrom]
      exact sensed_readLast Token.Kind.unitWord? (fun _ _ _ => rfl) hr
    | ordinal n => exact done rfl
    | code c => rfl
    | keyword k =>
      cases k with
      | every => rfl
      | shorthand short => rfl
      | unit u plural => exact done rfl
      | weekday d => exact done rfl
      | month m =>
        simp only [read, readFrom]
        exact sensed_readLast Token.Kind.ordinal? (fun _ _ _ => rfl) hr
      | code =>
        simp only [read, readFrom]
        exact sensed_readLast Token.Kind.code? (fun _ _ _ => rfl) hr

theorem readMore_nil : readMore [] = .ok [] := by rw [readMore]

theorem readMore_ok (s : Span) {rest rest' : List Token} {c : Command} (hr : read rest = .ok (c, rest')) :
    readMore (⟨s, .separator⟩ :: rest) = (readMore rest').map (c :: ·) := by
  rw [readMore, if_pos rfl]
  split <;> simp_all

theorem readMore_error (s : Span) {rest : List Token} {stop : Stop} (hr : read rest = .error stop) :
    readMore (⟨s, .separator⟩ :: rest) = .error stop := by
  rw [readMore, if_pos rfl]
  split <;> simp_all

theorem sensedAll_map (c : Command) (x : Except Stop (List Command)) :
    sensedAll (x.map (c :: ·)) = (sensedAll x).map (c.value.sense :: ·) := by
  cases x <;> rfl

theorem sensedAll_cons {c c' : Command} (hc : c.value.sense = c'.value.sense) {x x' : Except Stop (List Command)}
    (h : sensedAll x = sensedAll x') : sensedAll (x.map (c :: ·)) = sensedAll (x'.map (c' :: ·)) := by
  rw [sensedAll_map, sensedAll_map, hc, h]

open Command.Derivation (eq_cons_of_map_value)

theorem sensedAll_readMore {ts ts' : List Token} (h : ts.map Located.value = ts'.map Located.value) :
    sensedAll (readMore ts) = sensedAll (readMore ts') := by
  fun_induction readMore ts generalizing ts' with
  | case1 =>
    obtain rfl := List.map_eq_nil_iff.1 h.symm
    rw [readMore]
  | case2 t rest ht c rest' hr ih =>
    obtain ⟨s, us, rfl, hu⟩ := eq_cons_of_map_value h.symm
    have hs := sensed_read hu.symm
    rw [hr] at hs
    obtain ⟨c', us', hr', hc, hk⟩ := sensed_ok hs
    rw [ht, readMore_ok s hr']
    exact sensedAll_cons hc (ih hk)
  | case3 t rest ht stop hr =>
    obtain ⟨s, us, rfl, hu⟩ := eq_cons_of_map_value h.symm
    have hs := sensed_read hu.symm
    rw [hr] at hs
    obtain ⟨stop', hr', hc⟩ := sensed_error hs
    rw [ht, readMore_error s hr']
    exact congrArg Except.error hc
  | case4 t rest ht =>
    obtain ⟨s, us, rfl, hu⟩ := eq_cons_of_map_value h.symm
    rw [readMore, if_neg ht]
    rfl

theorem sensedAll_readAll {ts ts' : List Token} (h : ts.map Located.value = ts'.map Located.value) :
    sensedAll (readAll ts) = sensedAll (readAll ts') := by
  have hs := sensed_read h
  rw [readAll, readAll]
  cases hr : read ts with
  | ok p =>
    rw [hr] at hs
    obtain ⟨c', rest', hr', hc, hk⟩ := sensed_ok hs
    rw [hr']
    exact sensedAll_cons hc (sensedAll_readMore hk)
  | error stop =>
    rw [hr] at hs
    obtain ⟨stop', hr', hc⟩ := sensed_error hs
    rw [hr']
    exact congrArg Except.error hc

theorem sensedAll_readPhrase {t t' : Token} {ts ts' : List Token}
    (h : (t :: ts).map Located.value = (t' :: ts').map Located.value) :
    sensedAll (readPhrase t ts) = sensedAll (readPhrase t' ts') := by
  obtain ⟨hk, hr⟩ := List.cons.inj h
  rw [readPhrase, readPhrase, ← hk]
  split
  · exact sensedAll_readAll hr
  · refine sensedAll_cons ?_ (sensedAll_readMore hr)
    rfl
  · exact sensedAll_readAll h

end Command

namespace Query

/-- What a query says, or the cause why there is none. -/
def sensed (x : Except Diagnostic Query) : Except Diagnostic.Cause (List Rule.Sense) :=
  (x.map senses).mapError Diagnostic.cause

theorem sensed_ofTokens_cons (t : Token) (ts : List Token) :
    sensed (ofTokens (t :: ts)) = Command.sensedAll (Command.readPhrase t ts) := by
  rw [ofTokens]
  cases Command.readPhrase t ts with
  | ok cs => rfl
  | error stop => exact congrArg Except.error (stop.cause_diagnostic (t :: ts))

/-- **Tokens of the same kinds say the same**, or are refused for the same cause. -/
theorem sensed_ofTokens : ∀ {ts ts' : List Token}, ts.map Located.value = ts'.map Located.value →
    sensed (ofTokens ts) = sensed (ofTokens ts')
  | [], [], _ => rfl
  | t :: ts, t' :: ts', h => by
    rw [sensed_ofTokens_cons, sensed_ofTokens_cons, Command.sensedAll_readPhrase h]

/-- Tokens of the kinds of a query that has been read are read as well, and say the same. -/
theorem exists_ofTokens_of_kinds {ts ts' : List Token} {q : Query} (h : ofTokens ts = .ok q)
    (hk : ts'.map Located.value = ts.map Located.value) : ∃ q', ofTokens ts' = .ok q' ∧ q'.senses = q.senses := by
  have hs := sensed_ofTokens hk
  rw [h] at hs
  cases hq : ofTokens ts' with
  | error fault => rw [hq] at hs; cases hs
  | ok q' => rw [hq] at hs; exact ⟨q', rfl, Except.ok.inj hs⟩

end Query
end Recurrence
