import Recurrence.Proofs.Query.Alternatives
/-!
# Openings — what may stand before the commands

A shorthand says the same as `every` with the unit that it stands for, whatever follows (`Query.alike_shorthand`), and
`every` may stand before commands or be left out (`Query.alike_every`): the phrase is read as the same commands, or
refused with the same diagnostic.
-/
namespace Recurrence

/-- A stop among tokens is told in the same way when tokens stand before them. -/
theorem Stop.diagnostic_append (stop : Stop) (lead : List Token) {ts : List Token} (h : ts ≠ []) :
    stop.diagnostic (lead ++ ts) = stop.diagnostic ts := by
  cases stop with
  | atToken t => rfl
  | atEnd => rw [diagnostic, diagnostic, List.getLast?_append_of_ne_nil lead h]

namespace Query

/-- **Phrases are read alike**: as queries that have `same` in common, or with the same diagnostic. -/
inductive Alike (same : Query → Query → Prop) : Except Diagnostic Query → Except Diagnostic Query → Prop
  | read {q r : Query} : same q r → Alike same (.ok q) (.ok r)
  | refused (d : Diagnostic) : Alike same (.error d) (.error d)

/-- Queries that say the same come to the same day, or to a fault of the same kind and details, where no evaluator keeps
state. -/
def SameSense (q r : Query) : Prop :=
  q.senses = r.senses ∧
    ∀ ctx : Context, ctx.Stateless → ∀ m n, Outcome.of (q.resolve ctx m).result = Outcome.of (r.resolve ctx n).result

/-- Queries of the same commands come to the same, with the same calls. -/
def SameCommands (q r : Query) : Prop := q.commands = r.commands ∧ ∀ ctx n, q.resolve ctx n = r.resolve ctx n

theorem sameSense_of_senses {q r : Query} (h : q.senses = r.senses) : SameSense q r :=
  ⟨h, fun _ hs m n => Outcome.of_congr (causes_resolve hs h m n)⟩

theorem sameCommands_of_commands {q r : Query} (h : q.commands = r.commands) (hq : q.commands ≠ []) :
    SameCommands q r := ⟨h, resolve_congr h hq⟩

theorem commands_ne_nil_of_ofTokens {ts : List Token} {q : Query} (h : ofTokens ts = .ok q) : q.commands ≠ [] := by
  obtain ⟨d, -, rfl⟩ := exists_derivation_of_ofTokens h
  exact d.commands_ne_nil

theorem alike_shorthand (s m u : Span) (short : Shorthand) (rest : List Token) :
    Alike SameSense (ofTokens (⟨s, .keyword (.shorthand short)⟩ :: rest))
      (ofTokens (⟨m, .keyword .every⟩ :: ⟨u, .keyword (.unit short.unit false)⟩ :: rest)) := by
  have hshort : Command.readPhrase ⟨s, .keyword (.shorthand short)⟩ rest =
      (Command.readMore rest).map (⟨s, .relative none ⟨s, .unit short.unit false⟩⟩ :: ·) := rfl
  have hevery : Command.readPhrase ⟨m, .keyword .every⟩ (⟨u, .keyword (.unit short.unit false)⟩ :: rest) =
      (Command.readMore rest).map (⟨u, .relative none ⟨u, .unit short.unit false⟩⟩ :: ·) := rfl
  rw [ofTokens, ofTokens, hshort, hevery]
  cases hmore : Command.readMore rest with
  | ok cs => exact .read (sameSense_of_senses rfl)
  | error stop =>
    have hrest : rest ≠ [] := by
      rintro rfl
      rw [Command.readMore_nil] at hmore
      cases hmore
    show Alike SameSense (.error (stop.diagnostic ([_] ++ rest))) (.error (stop.diagnostic ([_, _] ++ rest)))
    rw [Stop.diagnostic_append stop _ hrest, Stop.diagnostic_append stop _ hrest]
    exact .refused _

theorem alike_every (m : Span) {t : Token} (h : t.value.opensPhrase = false) (ts : List Token) :
    Alike SameCommands (ofTokens (t :: ts)) (ofTokens (⟨m, .keyword .every⟩ :: t :: ts)) := by
  have hevery : Command.readPhrase ⟨m, .keyword .every⟩ (t :: ts) = Command.readAll (t :: ts) := rfl
  cases hread : Command.readAll (t :: ts) with
  | ok cs =>
    have hplain : ofTokens (t :: ts) = .ok (ofCommands t cs) := by
      rw [ofTokens, readPhrase_of_not_opens h, hread]
    have hne := commands_ne_nil_of_ofTokens hplain
    rw [hplain, ofTokens, hevery, hread]
    exact .read (sameCommands_of_commands rfl hne)
  | error stop =>
    rw [ofTokens, ofTokens, readPhrase_of_not_opens h, hevery, hread]
    show Alike SameCommands (.error (stop.diagnostic (t :: ts))) (.error (stop.diagnostic ([_] ++ t :: ts)))
    rw [Stop.diagnostic_append stop _ (List.cons_ne_nil t ts)]
    exact .refused _

/-- **Shorthands and `every` are dispensable**: a shorthand is read as `every` with its unit, and what begins neither
with a shorthand nor with `every` is read as with `every` before it. -/
theorem openings_dispensable :
    (∀ (short word : Keyword), short.expansion? = some word → ∀ (s m u : Span) (rest : List Token),
        Alike SameSense (ofTokens (⟨s, .keyword short⟩ :: rest))
          (ofTokens (⟨m, .keyword .every⟩ :: ⟨u, .keyword word⟩ :: rest))) ∧
      ∀ (t : Token) (ts : List Token), t.value.opensPhrase = false → ∀ m : Span,
        Alike SameCommands (ofTokens (t :: ts)) (ofTokens (⟨m, .keyword .every⟩ :: t :: ts)) := by
  refine ⟨fun short word h s m u rest => ?_, fun t ts h m => alike_every m h ts⟩
  cases short with
  | shorthand short =>
    cases h
    exact alike_shorthand s m u short rest
  | _ => cases h

/-- Tokens of the given kinds, all in one place. -/
def tokensOf (kinds : List Token.Kind) : List Token := kinds.map fun k => ⟨.of [] 0 0, k⟩

theorem openings_dispensable_weekly :
    Keyword.expansion? (.shorthand .weekly) = some (.unit .week false) ∧
      (ofTokens (tokensOf [.keyword (.shorthand .weekly), .separator, .ordinal 8])).toBool = true ∧
      Alike SameSense (ofTokens (tokensOf [.keyword (.shorthand .weekly), .separator, .ordinal 8]))
        (ofTokens (tokensOf [.keyword .every, .keyword (.unit .week false), .separator, .ordinal 8])) ∧
      Token.Kind.opensPhrase (.number 2) = false ∧
      (ofTokens (tokensOf [.number 2, .ordinal 8])).toBool = false ∧
      Alike SameCommands (ofTokens (tokensOf [.number 2, .ordinal 8]))
        (ofTokens (tokensOf [.keyword .every, .number 2, .ordinal 8])) := by
  refine ⟨rfl, by decide +kernel, ?_, rfl, by decide +kernel, ?_⟩
  · exact openings_dispensable.1 (.shorthand .weekly) (.unit .week false) rfl _ _ _ _
  · exact openings_dispensable.2 ⟨.of [] 0 0, .number 2⟩ _ rfl _

end Query
end Recurrence
