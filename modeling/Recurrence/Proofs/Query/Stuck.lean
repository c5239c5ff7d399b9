import Recurrence.Proofs.Query.Place
import Recurrence.Proofs.Query.Sense
/-!
# Stuck tokens — which token of a phrase is blamed

A reader that goes over the tokens once, from the first on, may stop at a token where a reader that looks further would
stop at another.  This one stops where every reader has to: at the end only when more tokens could have made a query of
the phrase, and at a token only when those before it could still have become one and no tokens after it can help
(`Query.blames_first_stuck`).
-/
namespace Recurrence

/-- **A stop is justified** for a reader, when `viable` says which tokens it could read on from: at the end, these are
all tokens; at a token, these are the tokens before it, and it is reached whatever follows. -/
inductive Stop.Justified {α : Type} (read : List Token → Except Stop α) (viable : List Token → Prop) :
    List Token → Stop → Prop
  | atEnd {ts : List Token} : viable ts → Justified read viable ts .atEnd
  | atToken {before : List Token} {t : Token} (after : List Token) :
      viable before → (∀ rest, read (before ++ t :: rest) = .error (.atToken t)) →
        Justified read viable (before ++ t :: after) (.atToken t)

/-- A stop stays justified for a reader that has gone over the tokens `lead` before it leaves the rest to another. -/
theorem Stop.Justified.lift {α β : Type} {read : List Token → Except Stop α} {read' : List Token → Except Stop β}
    {viable viable' : List Token → Prop} {ts : List Token} {stop : Stop} (h : Justified read viable ts stop)
    (lead : List Token) (hr : ∀ ts stop, read ts = .error stop → read' (lead ++ ts) = .error stop)
    (hv : ∀ ts, viable ts → viable' (lead ++ ts)) : Justified read' viable' (lead ++ ts) stop := by
  cases h with
  | atEnd h => exact .atEnd (hv ts h)
  | @atToken before t after hb ht =>
    rw [← List.append_assoc]
    refine .atToken after (hv before hb) fun rest => ?_
    rw [List.append_assoc]
    exact hr _ _ (ht rest)

namespace Command

/-- Some tokens after these make one command of them. -/
def Viable (read : List Token → Except Stop (Command × List Token)) (ts : List Token) : Prop :=
  ∃ rest c, read (ts ++ rest) = .ok (c, [])

/-- Some tokens after these make commands of them. -/
def ViableAll (read : List Token → Except Stop (List Command)) (ts : List Token) : Prop :=
  ∃ rest cs, read (ts ++ rest) = .ok cs

variable {ts : List Token} {stop : Stop}

/-- A reader of one token stops rightly, when there is a token that it accepts. -/
theorem justified_readLast {α : Type} {accept : Token.Kind → Option α} {build : Located α → Command} {k : Token.Kind}
    {a : α} (hk : accept k = some a) (h : readLast accept build ts = .error stop) :
    Stop.Justified (readLast accept build) (Viable (readLast accept build)) ts stop := by
  have hnil : Viable (readLast accept build) [] := by
    refine ⟨[⟨.of [] 0 0, k⟩], build ⟨.of [] 0 0, a⟩, ?_⟩
    simp only [List.nil_append, readLast, hk]
  cases ts with
  | nil => cases h; exact .atEnd hnil
  | cons t rest =>
    rw [readLast] at h
    cases ha : accept t.value with
    | some a => rw [ha] at h; cases h
    | none =>
      rw [ha] at h
      cases h
      exact .atToken rest hnil fun more => by simp only [List.nil_append, readLast, ha]

theorem viable_nil : Viable read [] :=
  ⟨[⟨.of [] 0 0, .keyword (.weekday .monday)⟩], _, rfl⟩

/-- A token that begins no command is blamed whatever follows it. -/
theorem justified_of_readFrom {t : Token} (h : ∀ rest, readFrom t rest = .error (.atToken t)) (rest : List Token) :
    Stop.Justified read (Viable read) (t :: rest) (.atToken t) :=
  .atToken rest viable_nil h

/-- **A command stops rightly.** -/
theorem justified_read (h : read ts = .error stop) : Stop.Justified read (Viable read) ts stop := by
  cases ts with
  | nil => cases h; exact .atEnd viable_nil
  | cons t rest =>
    obtain ⟨s, k⟩ := t
    -- what asks for one more token leaves the rest to the reader of that token
    have ask {α : Type} {accept : Token.Kind → Option α} {build : Located α → Command} {j : Token.Kind} {a : α}
        (h : readLast accept build rest = .error stop) (ha : accept j = some a)
        (hr : ∀ ts, read (⟨s, k⟩ :: ts) = readLast accept build ts) :
        Stop.Justified read (Viable read) (⟨s, k⟩ :: rest) stop := by
      refine (justified_readLast ha h).lift [⟨s, k⟩] (fun ts stop hs => (hr ts).trans hs) ?_
      rintro ts ⟨more, c, hc⟩
      exact ⟨more, c, (hr _).trans hc⟩
    cases k with
    | separator => cases h; exact justified_of_readFrom (fun _ => rfl) rest
    | number n =>
      rw [read, readFrom] at h
      exact ask (j := .keyword (.unit .day false)) h rfl fun _ => rfl
    | ordinal n => cases h
    | code c => cases h; exact justified_of_readFrom (fun _ => rfl) rest
    | keyword k =>
      cases k with
      | every => cases h; exact justified_of_readFrom (fun _ => rfl) rest
      | shorthand short => cases h; exact justified_of_readFrom (fun _ => rfl) rest
      | unit u plural => cases h
      | weekday d => cases h
      | month m =>
        rw [read, readFrom] at h
        exact ask (j := .ordinal 1) h rfl fun _ => rfl
      | code =>
        rw [read, readFrom] at h
        exact ask (j := .code []) h rfl fun _ => rfl

/-- A reader that goes over the tokens `lead` and leaves the rest to one that stops rightly stops rightly. -/
theorem justified_map {read read' : List Token → Except Stop (List Command)} {lead : List Token}
    {f : List Command → List Command} (hr : ∀ ts, read' (lead ++ ts) = (read ts).map f)
    (hj : ∀ {stop}, read ts = .error stop → Stop.Justified read (ViableAll read) ts stop)
    (h : read' (lead ++ ts) = .error stop) : Stop.Justified read' (ViableAll read') (lead ++ ts) stop := by
  rw [hr] at h
  cases hs : read ts with
  | ok cs => rw [hs] at h; cases h
  | error stop' =>
    rw [hs] at h
    cases h
    refine (hj hs).lift lead (fun ts stop hs => by rw [hr, hs]; rfl) ?_
    rintro ts ⟨more, cs, hcs⟩
    exact ⟨more, f cs, by rw [List.append_assoc, hr, hcs]; rfl⟩

/-- **Further commands stop rightly**: in one of them, or at a token that is no comma. -/
theorem justified_readMore (h : readMore ts = .error stop) :
    Stop.Justified readMore (ViableAll readMore) ts stop := by
  fun_induction readMore ts generalizing stop with
  | case1 => cases h
  | case2 t rest ht c rest' hc ih =>
    obtain ⟨s, k⟩ := t
    obtain rfl : k = .separator := ht
    obtain ⟨d, rfl, rfl⟩ := exists_derivation_of_read hc
    have hstep (ts : List Token) :
        readMore (⟨s, .separator⟩ :: d.tokens ++ ts) = (readMore ts).map (d.command :: ·) :=
      readMore_ok s (read_derived d ts)
    exact justified_map hstep ih ((hstep rest').trans h)
  | case3 t rest ht stop' hr =>
    obtain ⟨s, k⟩ := t
    obtain rfl : k = .separator := ht
    cases h
    refine (justified_read hr).lift [⟨s, .separator⟩] (fun ts stop hs => readMore_error s hs) ?_
    rintro ts ⟨more, c, hc⟩
    exact ⟨more, [c], by rw [List.singleton_append, List.cons_append, readMore_ok s hc, readMore_nil]; rfl⟩
  | case4 t rest ht =>
    cases h
    have hnil : ViableAll readMore [] := ⟨[], [], readMore_nil⟩
    refine .atToken rest hnil fun more => ?_
    rw [List.nil_append, readMore, if_neg ht]

theorem readAll_append (d : Derivation) (ts : List Token) :
    readAll (d.tokens ++ ts) = (readMore ts).map (d.command :: ·) := by
  rw [readAll, read_derived]

theorem justified_readAll (h : readAll ts = .error stop) : Stop.Justified readAll (ViableAll readAll) ts stop := by
  cases hr : read ts with
  | error stop' =>
    rw [readAll, hr] at h
    cases h
    refine (justified_read hr).lift [] (fun ts stop hs => by rw [List.nil_append, readAll, hs]) ?_
    rintro ts ⟨more, c, hc⟩
    exact ⟨more, [c], by rw [List.nil_append, readAll, hc]; simp only [readMore_nil]; rfl⟩
  | ok p =>
    obtain ⟨c, rest⟩ := p
    obtain ⟨d, rfl, rfl⟩ := exists_derivation_of_read hr
    exact justified_map (readAll_append d) justified_readMore h

/-- Reads the commands of a phrase. -/
def ofPhrase : List Token → Except Stop (List Command)
  | [] => .error .atEnd
  | t :: rest => readPhrase t rest

theorem ofPhrase_of_not_opens {t : Token} (h : t.value.opensPhrase = false) (rest : List Token) :
    ofPhrase (t :: rest) = readAll (t :: rest) := Query.readPhrase_of_not_opens h rest

/-- Commands that are read without an opening are a phrase. -/
theorem viableAll_of_readAll (h : ViableAll readAll ts) : ViableAll ofPhrase ts := by
  obtain ⟨more, cs, hcs⟩ := h
  obtain ⟨d, rest, ht, -⟩ := exists_derivation_of_readAll hcs
  obtain ⟨t, us, hu⟩ := List.exists_cons_of_ne_nil d.tokens_ne_nil
  have ho := d.opensPhrase_eq_false t (by rw [hu]; exact List.mem_cons_self)
  refine ⟨more, cs, ?_⟩
  rw [← ht, hu, List.cons_append] at hcs ⊢
  rwa [ofPhrase_of_not_opens ho]

/-- A phrase that begins with no opening stops rightly. -/
theorem justified_of_not_opens {t : Token} {rest : List Token} (ho : t.value.opensPhrase = false)
    (h : ofPhrase (t :: rest) = .error stop) : Stop.Justified ofPhrase (ViableAll ofPhrase) (t :: rest) stop := by
  rw [ofPhrase_of_not_opens ho] at h
  have hj := justified_readAll h
  generalize hts : t :: rest = ts at hj
  cases hj with
  | atEnd hv => exact .atEnd (viableAll_of_readAll hv)
  | @atToken before u after hv hu =>
    refine .atToken after (viableAll_of_readAll hv) fun more => ?_
    -- what follows the token leaves the first one of the phrase as it is
    obtain ⟨us, hus⟩ : ∃ us, before ++ u :: more = t :: us := by
      cases before with
      | nil => rw [List.nil_append, List.cons.injEq] at hts; rw [hts.1]; exact ⟨more, rfl⟩
      | cons b before => rw [List.cons_append, List.cons.injEq] at hts; rw [hts.1]; exact ⟨_, rfl⟩
    have hstop := hu more
    rw [hus] at hstop ⊢
    rw [ofPhrase_of_not_opens ho, hstop]

/-- **A phrase stops rightly.** -/
theorem justified_ofPhrase (h : ofPhrase ts = .error stop) : Stop.Justified ofPhrase (ViableAll ofPhrase) ts stop := by
  cases ts with
  | nil =>
    cases h
    exact .atEnd (viableAll_of_readAll ⟨_, _, readAll_derived (.weekday ⟨.of [] 0 0, .monday⟩) []⟩)
  | cons t rest =>
    obtain ⟨s, k⟩ := t
    cases k with
    | keyword k =>
      cases k with
      | every =>
        have hevery (ts : List Token) : ofPhrase ([⟨s, .keyword .every⟩] ++ ts) = (readAll ts).map id := by
          rw [Except.map_id]; rfl
        exact justified_map hevery justified_readAll h
      | shorthand short =>
        have hshort (ts : List Token) : ofPhrase ([⟨s, .keyword (.shorthand short)⟩] ++ ts) =
            (readMore ts).map (⟨s, .relative none ⟨s, .unit short.unit false⟩⟩ :: ·) := rfl
        exact justified_map hshort justified_readMore h
      | _ => exact justified_of_not_opens rfl h
    | _ => exact justified_of_not_opens rfl h

end Command

theorem Diagnostic.placed_of_col {span : Span} (h : 1 ≤ span.start.col) (cause : Diagnostic.Cause) :
    Diagnostic.placed span cause = ⟨cause, some span⟩ := by
  rw [placed, Span.between_of_col h]

/-- Tokens of a text stand in column 1 or later. -/
theorem Token.one_le_col_of_ofText {source : Text} {tokens : List Token} (h : ofText source = .ok tokens) :
    ∀ t ∈ tokens, 1 ≤ t.span.start.col := by
  intro t ht
  obtain ⟨i, j, -, -, -, hs⟩ := (along_of_ofText h).placed t ht
  rw [hs]
  exact Nat.le_add_left 1 _

namespace Query

/-- Some tokens after these make a query of them. -/
def Viable (tokens : List Token) : Prop := ∃ rest q, ofTokens (tokens ++ rest) = .ok q

theorem ofTokens_eq_ok_of_ofPhrase {ts : List Token} {cs : List Command} (h : Command.ofPhrase ts = .ok cs) :
    ∃ q, ofTokens ts = .ok q := by
  cases ts with
  | nil => cases h
  | cons t rest =>
    replace h : Command.readPhrase t rest = .ok cs := h
    exact ⟨ofCommands t cs, by rw [ofTokens, h]⟩

theorem ofTokens_eq_error_iff {ts : List Token} {d : Diagnostic} :
    ofTokens ts = .error d ↔ ∃ stop, Command.ofPhrase ts = .error stop ∧ d = stop.diagnostic ts := by
  cases ts with
  | nil => simp [ofTokens, Command.ofPhrase, eq_comm]
  | cons t rest =>
    rw [ofTokens, Command.ofPhrase]
    cases Command.readPhrase t rest with
    | ok cs => simp
    | error stop => simp [eq_comm]

theorem viable_of_viableAll {ts : List Token} (h : Command.ViableAll Command.ofPhrase ts) : Viable ts := by
  obtain ⟨rest, cs, hcs⟩ := h
  exact ⟨rest, ofTokens_eq_ok_of_ofPhrase hcs⟩

/-- **A phrase is blamed for the first token that cannot continue it**: the tokens before it can be continued to a
query, and with it they cannot.  Where there is no such token the phrase breaks off, and its last token is blamed. -/
theorem blames_first_stuck {tokens : List Token} {d : Diagnostic} (hcol : ∀ t ∈ tokens, 1 ≤ t.span.start.col)
    (h : ofTokens tokens = .error d) :
    d.kind = .malformed ∧
      ((∃ i t, tokens[i]? = some t ∧ Viable (tokens.take i) ∧ ¬ Viable (tokens.take (i + 1)) ∧
          d = ⟨.unexpectedToken t.value.called, some t.span⟩) ∨
        (Viable tokens ∧ d = ⟨.unexpectedEnd, tokens.getLast?.map Located.span⟩)) := by
  obtain ⟨stop, hstop, rfl⟩ := ofTokens_eq_error_iff.1 h
  cases Command.justified_ofPhrase hstop with
  | atEnd hv =>
    have hd : Stop.atEnd.diagnostic tokens = ⟨.unexpectedEnd, tokens.getLast?.map Located.span⟩ := by
      rw [Stop.diagnostic]
      cases hlast : tokens.getLast? with
      | none => rfl
      | some last => exact Diagnostic.placed_of_col (hcol last (List.mem_of_getLast? hlast)) _
    rw [hd]
    exact ⟨rfl, .inr ⟨viable_of_viableAll hv, rfl⟩⟩
  | @atToken before t after hv ht =>
    have hd : (Stop.atToken t).diagnostic (before ++ t :: after) = ⟨.unexpectedToken t.value.called, some t.span⟩ :=
      Diagnostic.placed_of_col (hcol t (by simp)) _
    have hn : ¬ Viable (before ++ [t]) := by
      rintro ⟨rest, q, hq⟩
      rw [← List.append_cons, ofTokens_eq_error_iff.2 ⟨_, ht rest, rfl⟩] at hq
      cases hq
    rw [hd]
    refine ⟨rfl, .inl ⟨before.length, t, by simp, ?_, ?_, rfl⟩⟩
    · rw [List.take_left]
      exact viable_of_viableAll hv
    · rwa [List.append_cons, List.take_left' (by simp)]

/-- A number without its unit, and words after it. -/
def withoutUnit : Text := "every monday, 8 friday 1st".toList

theorem blames_first_stuck_withoutUnit :
    ∃ tokens d, Token.ofText withoutUnit = .ok tokens ∧ (∀ t ∈ tokens, 1 ≤ t.span.start.col) ∧
      ofTokens tokens = .error d ∧ d.kind = .malformed ∧
      ((∃ i t, tokens[i]? = some t ∧ Viable (tokens.take i) ∧ ¬ Viable (tokens.take (i + 1)) ∧
          d = ⟨.unexpectedToken t.value.called, some t.span⟩) ∨
        (Viable tokens ∧ d = ⟨.unexpectedEnd, tokens.getLast?.map Located.span⟩)) := by
  have hscan : (Token.ofText withoutUnit).toBool = true := by decide +kernel
  have hread : (ofLine withoutUnit).toBool = false := by decide +kernel
  cases ht : Token.ofText withoutUnit with
  | error fault => rw [ht] at hscan; cases hscan
  | ok tokens =>
    rw [ofLine, ht] at hread
    cases hq : ofTokens tokens with
    | ok q => simp only [Except.bind, hq] at hread; cases hread
    | error d =>
      have hcol := Token.one_le_col_of_ofText ht
      exact ⟨tokens, d, rfl, hcol, hq, blames_first_stuck hcol hq⟩

end Query
end Recurrence
