import Recurrence.Query.OfTokens
/-!
# Derivations — the grammar of phrases

A derivation says how a list of tokens is made by the grammar

    query   = every command {, command} | shorthand {, command} | command {, command}
    command = number unit | unit | mark code | weekday | ordinal | month ordinal

Its leaves are the tokens, so a derivation has its tokens and the query it reads from them.  Reading accepts exactly
what is derived, and no list of tokens has two derivations (`ofTokens_eq_ok_iff_derived`).
-/
namespace Recurrence

/-- Another value in the same place. -/
def Located.map {α β : Type} (f : α → β) (x : Located α) : Located β := ⟨x.span, f x.value⟩

theorem Located.eq_iff {α : Type} (x y : Located α) : x = y ↔ x.span = y.span ∧ x.value = y.value := by
  cases x; cases y; simp

/-- A word for a unit of time. -/
@[ext] structure UnitWord where
  unit : TimeUnit
  plural : Bool
deriving DecidableEq, Repr

def UnitWord.keyword (w : UnitWord) : Keyword := .unit w.unit w.plural

/-- The stretch from the first to the last of some tokens. -/
def Token.stretch (tokens : List Token) (h : tokens ≠ []) : Span := (tokens.head h).span.upTo (tokens.getLast h).span

/-- How a command is derived: one constructor for each alternative of the grammar. -/
inductive Command.Derivation where
  | counted (number : Located Nat) (unit : Located UnitWord)
  | single (unit : Located UnitWord)
  | code (mark : Span) (code : Located Text)
  | weekday (day : Located Weekday)
  | ordinal (day : Located Nat)
  | monthOrdinal (month : Located Month) (day : Located Nat)
deriving DecidableEq

namespace Command.Derivation

/-- The tokens that are derived. -/
def tokens : Derivation → List Token
  | counted n u => [n.map .number, u.map fun w => .keyword w.keyword]
  | single u => [u.map fun w => .keyword w.keyword]
  | code m c => [⟨m, .keyword .code⟩, c.map .code]
  | weekday d => [d.map fun d => .keyword (.weekday d)]
  | ordinal n => [n.map .ordinal]
  | monthOrdinal m n => [m.map fun m => .keyword (.month m), n.map .ordinal]

/-- The rule that is read. -/
def rule : Derivation → Rule
  | counted n u => .relative (some n) (u.map UnitWord.keyword)
  | single u => .relative none (u.map UnitWord.keyword)
  | code _ c => .code c.value
  | weekday d => .weekday (d.map .weekday)
  | ordinal n => .day n
  | monthOrdinal m n => .monthDay (m.map .month) n

theorem tokens_ne_nil (d : Derivation) : d.tokens ≠ [] := by cases d <;> simp [tokens]

/-- The command that is read: its span covers just its tokens. -/
def command (d : Derivation) : Command := ⟨Token.stretch d.tokens d.tokens_ne_nil, d.rule⟩

/-- The tokens of further commands, each after the comma in the given place. -/
def moreTokens (more : List (Span × Derivation)) : List Token :=
  more.flatMap fun m => ⟨m.1, .separator⟩ :: m.2.tokens

/-- The further commands. -/
def moreCommands (more : List (Span × Derivation)) : List Command := more.map fun m => m.2.command

end Command.Derivation

/-- How a query is derived: one constructor for each alternative of the grammar. -/
inductive Query.Derivation where
  | every (mark : Span) (first : Command.Derivation) (more : List (Span × Command.Derivation))
  | shorthand (short : Located Shorthand) (more : List (Span × Command.Derivation))
  | plain (first : Command.Derivation) (more : List (Span × Command.Derivation))
deriving DecidableEq

namespace Query.Derivation

open Command.Derivation (moreTokens moreCommands)

/-- The tokens that are derived. -/
def tokens : Derivation → List Token
  | every m d more => ⟨m, .keyword .every⟩ :: (d.tokens ++ moreTokens more)
  | shorthand s more => s.map (fun s => .keyword (.shorthand s)) :: moreTokens more
  | plain d more => d.tokens ++ moreTokens more

/-- The commands that are read; a shorthand stands for a command of its unit alone. -/
def commands : Derivation → List Command
  | every _ d more => d.command :: moreCommands more
  | shorthand s more => ⟨s.span, .relative none (s.map fun s => .unit s.unit false)⟩ :: moreCommands more
  | plain d more => d.command :: moreCommands more

theorem tokens_ne_nil (d : Derivation) : d.tokens ≠ [] := by
  cases d with
  | every => simp [tokens]
  | shorthand => simp [tokens]
  | plain d => simp [tokens, d.tokens_ne_nil]

theorem commands_ne_nil (d : Derivation) : d.commands ≠ [] := by cases d <;> simp [commands]

/-- The query that is read: its span covers just its tokens. -/
def query (d : Derivation) : Query := ⟨Token.stretch d.tokens d.tokens_ne_nil, d.commands⟩

end Query.Derivation

namespace Token.Kind

theorem unitWord?_eq_some {k : Kind} {w : Keyword} (h : k.unitWord? = some w) :
    ∃ u : UnitWord, k = .keyword u.keyword ∧ w = u.keyword := by
  obtain ⟨hk, hu⟩ := Option.filter_eq_some_iff.1 h
  cases k with
  | keyword k =>
    cases hk
    cases w with
    | unit u p => exact ⟨⟨u, p⟩, rfl, rfl⟩
    | _ => cases hu
  | _ => cases hk

theorem ordinal?_eq_some {k : Kind} {n : Nat} (h : k.ordinal? = some n) : k = .ordinal n := by
  cases k with
  | ordinal m => cases h; rfl
  | _ => cases h

theorem code?_eq_some {k : Kind} {c : Text} (h : k.code? = some c) : k = .code c := by
  cases k with
  | code d => cases h; rfl
  | _ => cases h

end Token.Kind

namespace Command

theorem readLast_eq_ok {α : Type} {accept : Token.Kind → Option α} {build : Located α → Command}
    {ts rest : List Token} {c : Command} (h : readLast accept build ts = .ok (c, rest)) :
    ∃ t a, ts = t :: rest ∧ accept t.value = some a ∧ c = build ⟨t.span, a⟩ := by
  cases ts with
  | nil => cases h
  | cons t ts =>
    rw [readLast] at h
    cases ha : accept t.value with
    | none => rw [ha] at h; cases h
    | some a => rw [ha] at h; cases h; exact ⟨t, a, rfl, ha, rfl⟩

theorem read_derived (d : Derivation) (rest : List Token) : read (d.tokens ++ rest) = .ok (d.command, rest) := by
  cases d <;> rfl

theorem exists_derivation_of_read {ts rest : List Token} {c : Command} (h : read ts = .ok (c, rest)) :
    ∃ d : Derivation, d.command = c ∧ ts = d.tokens ++ rest := by
  cases ts with
  | nil => cases h
  | cons t ts =>
    obtain ⟨s, k⟩ := t
    rw [read, readFrom] at h
    split at h
    case h_1 n hk =>
      obtain ⟨⟨s', _⟩, _, rfl, ha, rfl⟩ := readLast_eq_ok h
      obtain ⟨u, rfl, rfl⟩ := Token.Kind.unitWord?_eq_some ha
      subst hk
      exact ⟨.counted ⟨s, n⟩ ⟨s', u⟩, rfl, rfl⟩
    case h_2 n hk =>
      subst hk; cases h
      exact ⟨.ordinal ⟨s, n⟩, rfl, rfl⟩
    case h_3 u p hk =>
      subst hk; cases h
      exact ⟨.single ⟨s, u, p⟩, rfl, rfl⟩
    case h_4 d hk =>
      subst hk; cases h
      exact ⟨.weekday ⟨s, d⟩, rfl, rfl⟩
    case h_5 m hk =>
      obtain ⟨⟨s', _⟩, n, rfl, ha, rfl⟩ := readLast_eq_ok h
      obtain rfl := Token.Kind.ordinal?_eq_some ha
      subst hk
      exact ⟨.monthOrdinal ⟨s, m⟩ ⟨s', n⟩, rfl, rfl⟩
    case h_6 hk =>
      obtain ⟨⟨s', _⟩, c, rfl, ha, rfl⟩ := readLast_eq_ok h
      obtain rfl := Token.Kind.code?_eq_some ha
      subst hk
      exact ⟨.code s ⟨s', c⟩, rfl, rfl⟩
    case h_7 => cases h

open Command.Derivation (moreTokens moreCommands)

theorem moreTokens_cons (s : Span) (d : Derivation) (more : List (Span × Derivation)) :
    moreTokens ((s, d) :: more) = ⟨s, .separator⟩ :: (d.tokens ++ moreTokens more) := by simp [moreTokens]

theorem readMore_derived : ∀ more : List (Span × Derivation), readMore (moreTokens more) = .ok (moreCommands more)
  | [] => by rw [moreTokens, List.flatMap_nil, readMore]; rfl
  | (s, d) :: more => by
    rw [moreTokens_cons, readMore, if_pos rfl]
    split
    · rename_i c rest h
      rw [read_derived] at h
      cases h
      rw [readMore_derived more]; rfl
    · rename_i stop h
      rw [read_derived] at h
      cases h

theorem exists_derivation_of_readMore {ts : List Token} {cs : List Command} (h : readMore ts = .ok cs) :
    ∃ more, moreTokens more = ts ∧ moreCommands more = cs := by
  fun_induction readMore ts generalizing cs with
  | case1 => cases h; exact ⟨[], rfl, rfl⟩
  | case2 t rest ht c rest' hc ih =>
    obtain ⟨d, rfl, rfl⟩ := exists_derivation_of_read hc
    cases hm : readMore rest' with
    | error stop => rw [hm] at h; cases h
    | ok cs' =>
      rw [hm] at h
      cases h
      obtain ⟨more, rfl, rfl⟩ := ih hm
      obtain ⟨s, k⟩ := t
      subst ht
      exact ⟨(s, d) :: more, moreTokens_cons s d more, rfl⟩
  | case3 => cases h
  | case4 => cases h

theorem readAll_derived (d : Derivation) (more : List (Span × Derivation)) :
    readAll (d.tokens ++ moreTokens more) = .ok (d.command :: moreCommands more) := by
  rw [readAll, read_derived]
  simp only [readMore_derived]
  rfl

theorem exists_derivation_of_readAll {ts : List Token} {cs : List Command} (h : readAll ts = .ok cs) :
    ∃ (d : Derivation) (more : List (Span × Derivation)), d.tokens ++ moreTokens more = ts ∧
      d.command :: moreCommands more = cs := by
  rw [readAll] at h
  cases hr : read ts with
  | error stop => rw [hr] at h; cases h
  | ok p =>
    obtain ⟨c, rest⟩ := p
    rw [hr] at h
    obtain ⟨d, rfl, rfl⟩ := exists_derivation_of_read hr
    cases hm : readMore rest with
    | error stop => simp only [hm] at h; cases h
    | ok cs' =>
      simp only [hm] at h
      cases h
      obtain ⟨more, rfl, rfl⟩ := exists_derivation_of_readMore hm
      exact ⟨d, more, rfl, rfl⟩

/-! ## Openings -/

/-- No token of a command opens a phrase. -/
theorem Derivation.opensPhrase_eq_false (d : Derivation) : ∀ t ∈ d.tokens, t.value.opensPhrase = false := by
  cases d <;> simp [tokens, Located.map, Token.Kind.opensPhrase, Token.Kind.keyword?, Keyword.opensPhrase,
    UnitWord.keyword]

theorem opensPhrase_moreTokens (more : List (Span × Derivation)) :
    ∀ t ∈ moreTokens more, t.value.opensPhrase = false := by
  intro t ht
  obtain ⟨⟨s, d⟩, -, hm⟩ := List.mem_flatMap.1 ht
  rcases List.mem_cons.1 hm with rfl | hm
  · rfl
  · exact d.opensPhrase_eq_false t hm

end Command

namespace Query

open Command.Derivation (moreTokens moreCommands)

theorem stop_command (d : Command.Derivation) (ts : List Token) :
    ((ts ++ d.tokens).getLast?.map fun t => t.span.stop) = some d.command.span.stop := by
  rw [List.getLast?_append, List.getLast?_eq_some_getLast d.tokens_ne_nil]; rfl

/-- The last command of a phrase ends where its last token ends. -/
theorem stop_moreCommands : ∀ (more : List (Span × Command.Derivation)) (ts : List Token) {c : Command},
    (ts.getLast?.map fun t => t.span.stop) = some c.span.stop →
    ((c :: moreCommands more).getLast?.map fun c => c.span.stop) =
      (ts ++ moreTokens more).getLast?.map fun t => t.span.stop
  | [], ts, c, h => by
    rw [show moreTokens [] = [] from rfl, List.append_nil, h]; rfl
  | (s, d) :: more, ts, c, _ => by
    have := stop_moreCommands more _ (stop_command d (ts ++ [⟨s, .separator⟩]))
    rw [List.append_assoc, List.append_assoc] at this
    exact this

namespace Derivation

theorem stop_commands (d : Derivation) :
    (d.commands.getLast?.map fun c => c.span.stop) = d.tokens.getLast?.map fun t => t.span.stop := by
  cases d with
  | every m d more =>
    exact stop_moreCommands more _ (stop_command d [⟨m, .keyword .every⟩])
  | shorthand s more => exact stop_moreCommands more [s.map fun s => .keyword (.shorthand s)] rfl
  | plain d more => exact stop_moreCommands more _ (stop_command d [])

theorem ofCommands_commands (d : Derivation) : ofCommands (d.tokens.head d.tokens_ne_nil) d.commands = d.query := by
  have h := d.stop_commands
  rw [List.getLast?_eq_some_getLast d.tokens_ne_nil] at h
  obtain ⟨last, hl, hs⟩ := Option.map_eq_some_iff.1 h
  rw [ofCommands, hl, query, Token.stretch, Option.elim_some, Span.upTo, Span.upTo, hs]

end Derivation

theorem readPhrase_of_not_opens {t : Token} (h : t.value.opensPhrase = false) (rest : List Token) :
    Command.readPhrase t rest = Command.readAll (t :: rest) := by
  unfold Command.readPhrase
  split
  · rename_i hk; rw [hk] at h; cases h
  · rename_i hk; rw [hk] at h; cases h
  · rfl

theorem ofTokens_derived (d : Derivation) : ofTokens d.tokens = .ok d.query := by
  rw [← d.ofCommands_commands]
  cases d with
  | every m d more =>
    show ofTokens (⟨m, .keyword .every⟩ :: (d.tokens ++ moreTokens more)) = _
    rw [ofTokens, Command.readPhrase, Command.readAll_derived]; rfl
  | shorthand s more =>
    show ofTokens (s.map (fun s => .keyword (.shorthand s)) :: moreTokens more) = _
    simp only [ofTokens, Command.readPhrase, Located.map, Command.readMore_derived]; rfl
  | plain d more =>
    obtain ⟨t, ts, ht⟩ := List.exists_cons_of_ne_nil d.tokens_ne_nil
    have ho := d.opensPhrase_eq_false t (by rw [ht]; exact List.mem_cons_self)
    have hr : Command.readPhrase t (ts ++ moreTokens more) = .ok (d.command :: moreCommands more) := by
      rw [readPhrase_of_not_opens ho, ← List.cons_append, ← ht, Command.readAll_derived]
    have he : (Derivation.plain d more).tokens = t :: (ts ++ moreTokens more) := by
      rw [Derivation.tokens, ht, List.cons_append]
    simp only [he, ofTokens, hr, List.head_cons]; rfl

theorem exists_derivation_of_ofTokens {ts : List Token} {q : Query} (h : ofTokens ts = .ok q) :
    ∃ d : Derivation, d.tokens = ts ∧ d.query = q := by
  cases ts with
  | nil => cases h
  | cons t rest =>
    rw [ofTokens] at h
    cases hp : Command.readPhrase t rest with
    | error stop => rw [hp] at h; cases h
    | ok commands =>
      rw [hp] at h
      cases h
      obtain ⟨d, ht, rfl⟩ : ∃ d : Derivation, d.tokens = t :: rest ∧ d.commands = commands := by
        obtain ⟨s, k⟩ := t
        rw [Command.readPhrase] at hp
        split at hp
        · rename_i hk
          obtain ⟨d, more, rfl, rfl⟩ := Command.exists_derivation_of_readAll hp
          subst hk
          exact ⟨.every s d more, rfl, rfl⟩
        · rename_i short hk
          cases hm : Command.readMore rest with
          | error stop => rw [hm] at hp; cases hp
          | ok cs =>
            rw [hm] at hp
            cases hp
            obtain ⟨more, rfl, rfl⟩ := Command.exists_derivation_of_readMore hm
            subst hk
            exact ⟨.shorthand ⟨s, short⟩ more, rfl, rfl⟩
        · obtain ⟨d, more, ht, rfl⟩ := Command.exists_derivation_of_readAll hp
          exact ⟨.plain d more, ht, rfl⟩
      refine ⟨d, ht, ?_⟩
      rw [← d.ofCommands_commands]
      simp only [ht, List.head_cons]

end Query

/-! ## One derivation for a list of tokens -/

namespace Command

open Command.Derivation (moreTokens)

/-- The tokens of a command show where it ends and how it is derived. -/
theorem Derivation.tokens_inj {d d' : Derivation} {rest rest' : List Token}
    (h : d.tokens ++ rest = d'.tokens ++ rest') : d = d' ∧ rest = rest' := by
  cases d <;> cases d' <;> simp_all [tokens, Located.map, Located.eq_iff, UnitWord.keyword, UnitWord.ext_iff]

theorem moreTokens_inj : ∀ {more more' : List (Span × Derivation)}, moreTokens more = moreTokens more' → more = more'
  | [], [], _ => rfl
  | [], (s, d) :: more', h => by rw [moreTokens_cons] at h; cases h
  | (s, d) :: more, [], h => by rw [moreTokens_cons] at h; cases h
  | (s, d) :: more, (s', d') :: more', h => by
    rw [moreTokens_cons, moreTokens_cons, List.cons.injEq, Located.mk.injEq] at h
    obtain ⟨⟨rfl, -⟩, h⟩ := h
    obtain ⟨rfl, hm⟩ := Derivation.tokens_inj h
    rw [moreTokens_inj hm]

end Command

namespace Query

open Command.Derivation (moreTokens)

/-- A phrase that begins with a command begins with no opening. -/
theorem head_not_opens {d : Command.Derivation} {ts : List Token} {t : Token} {rest : List Token}
    (h : t :: rest = d.tokens ++ ts) : t.value.opensPhrase ≠ true := by
  obtain ⟨u, us, hu⟩ := List.exists_cons_of_ne_nil d.tokens_ne_nil
  rw [hu, List.cons_append, List.cons.injEq] at h
  rw [h.1, d.opensPhrase_eq_false u (by rw [hu]; exact List.mem_cons_self)]
  decide

/-- **No list of tokens is derived in two ways.** -/
theorem Derivation.tokens_inj {d d' : Derivation} (h : d.tokens = d'.tokens) : d = d' := by
  cases d with
  | every m d more =>
    cases d' with
    | every m' d' more' =>
      rw [tokens, tokens, List.cons.injEq, Located.mk.injEq] at h
      obtain ⟨⟨rfl, -⟩, h⟩ := h
      obtain ⟨rfl, hm⟩ := Command.Derivation.tokens_inj h
      rw [Command.moreTokens_inj hm]
    | shorthand s' more' => simp [tokens, Located.map] at h
    | plain d' more' => exact (head_not_opens h rfl).elim
  | shorthand s more =>
    cases d' with
    | every m' d' more' => simp [tokens, Located.map] at h
    | shorthand s' more' =>
      simp only [tokens, Located.map, List.cons.injEq, Located.mk.injEq, Token.Kind.keyword.injEq,
        Keyword.shorthand.injEq] at h
      rw [(Located.eq_iff s s').2 h.1, Command.moreTokens_inj h.2]
    | plain d' more' => exact (head_not_opens h rfl).elim
  | plain d more =>
    cases d' with
    | every m' d' more' => exact (head_not_opens h.symm rfl).elim
    | shorthand s' more' => exact (head_not_opens h.symm rfl).elim
    | plain d' more' =>
      obtain ⟨rfl, hm⟩ := Command.Derivation.tokens_inj h
      rw [Command.moreTokens_inj hm]

/-- An opening stands nowhere but in the first place of a phrase. -/
theorem Derivation.opensPhrase_tail (d : Derivation) : ∀ t ∈ d.tokens.tail, t.value.opensPhrase = false := by
  have body (d : Command.Derivation) (more : List (Span × Command.Derivation)) :
      ∀ t ∈ d.tokens ++ moreTokens more, t.value.opensPhrase = false := fun t ht =>
    (List.mem_append.1 ht).elim (d.opensPhrase_eq_false t) (Command.opensPhrase_moreTokens more t)
  cases d with
  | every m d more => exact body d more
  | shorthand s more => exact Command.opensPhrase_moreTokens more
  | plain d more => exact fun t ht => body d more t (List.mem_of_mem_tail ht)

/-- **Reading accepts exactly what the grammar derives**: a list of tokens is read as a query if and only if it has a
derivation, which is then the only one and reads that query; only its first token may be `every` or a shorthand. -/
theorem ofTokens_eq_ok_iff_derived (tokens : List Token) :
    (∀ q, ofTokens tokens = .ok q ↔ ∃ d : Derivation, d.tokens = tokens ∧ d.query = q) ∧
      (∀ d d' : Derivation, d.tokens = tokens → d'.tokens = tokens → d = d') ∧
      ((∃ q, ofTokens tokens = .ok q) → ∀ t ∈ tokens.tail, t.value.opensPhrase = false) := by
  refine ⟨fun q => ⟨exists_derivation_of_ofTokens, ?_⟩, ?_, ?_⟩
  · rintro ⟨d, rfl, rfl⟩
    exact ofTokens_derived d
  · intro d d' h h'
    exact Derivation.tokens_inj (h.trans h'.symm)
  · rintro ⟨q, h⟩
    obtain ⟨d, rfl, -⟩ := exists_derivation_of_ofTokens h
    exact d.opensPhrase_tail

end Query
end Recurrence
