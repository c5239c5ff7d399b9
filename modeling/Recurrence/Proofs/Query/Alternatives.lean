import Recurrence.Proofs.Query.Later
import Recurrence.Proofs.Query.Place
/-!
# Alternatives — the earliest day, or the first failure

The commands of a query are resolved one after the other.  They fail as the first of them that fails does
(`Command.resolveAll_eq_error_iff`); where none fails, the query names the earliest of their days.  Without state, each
command comes to the same in a query as alone, so that what a query comes to is settled by what its commands come to
alone (`Query.Settled`).  Their order and number then matter for the first failure only, and one more alternative
never makes the day later (`Query.earliest_or_firstFailure`).
-/
namespace Recurrence

/-- The query of one command. -/
def Command.alone (c : Command) : Query := ⟨c.span, [c]⟩

/-- **What commands come to together**, when `answer` tells what each of them comes to alone. -/
inductive Query.Settled (answer : Command → Except Diagnostic Date) (commands : List Command) :
    Except Diagnostic Date → Prop
  | earliest {d : Date} : (∀ c ∈ commands, ∃ e, answer c = .ok e) →
      IsLeast {e | ∃ c ∈ commands, answer c = .ok e} d → Settled answer commands (.ok d)
  | firstFailure {before after : List Command} {c : Command} {fault : Diagnostic} :
      commands = before ++ c :: after → (∀ b ∈ before, ∃ e, answer b = .ok e) → answer c = .error fault →
        Settled answer commands (.error fault)

theorem Query.Settled.exists_isLeast {answer : Command → Except Diagnostic Date} {commands : List Command}
    {result : Except Diagnostic Date} (h : Settled answer commands result)
    (hall : ∀ c ∈ commands, ∃ e, answer c = .ok e) :
    ∃ d, result = .ok d ∧ IsLeast {e | ∃ c ∈ commands, answer c = .ok e} d := by
  cases h with
  | earliest _ hleast => exact ⟨_, rfl, hleast⟩
  | @firstFailure before after c fault hcs _ hc =>
    obtain ⟨e, he⟩ := hall c (by rw [hcs]; simp)
    rw [he] at hc
    cases hc

variable {ctx : Context} {n : Nat}

namespace Command

/-- **Commands fail as the first of them that fails**, where `P` tells how each fails, whatever has been called
before. -/
theorem resolveAll_eq_error_iff {P : Command → Diagnostic → Prop} {cs : List Command} {d : Diagnostic}
    (h : ∀ c ∈ cs, ∀ m e, (c.resolve ctx m).result = .error e ↔ P c e) :
    (resolveAll ctx n cs).result = .error d ↔
      ∃ before c after, cs = before ++ c :: after ∧ (∀ b ∈ before, ∀ e, ¬ P b e) ∧ P c d := by
  induction cs generalizing n with
  | nil =>
    constructor
    · intro hok
      cases hok
    · rintro ⟨before, c, after, hcs, -⟩
      cases before <;> cases hcs
  | cons c cs ih =>
    have hc := h c List.mem_cons_self
    -- which call of the evaluator comes next depends on `c`, but failures do not: the rest is taken at every `m`
    have htail (m : Nat) := ih (n := m) fun b hb => h b (List.mem_cons_of_mem c hb)
    rw [result_resolveAll_cons, bind_eq_error]
    constructor
    · rintro (hfails | ⟨day, hday, hothers⟩)
      · exact ⟨[], c, cs, rfl, by simp, (hc n d).1 hfails⟩
      · cases hr : (resolveAll ctx (n + (c.resolve ctx n).calls.length) cs).result with
        | ok days => rw [hr] at hothers; cases hothers
        | error fault =>
          rw [hr] at hothers
          cases hothers
          obtain ⟨before, b, after, rfl, hbefore, hb⟩ := (htail _).1 hr
          have hnames : ∀ e, ¬ P c e := by
            intro e he
            rw [← hc n e, hday] at he
            cases he
          exact ⟨c :: before, b, after, rfl, List.forall_mem_cons.2 ⟨hnames, hbefore⟩, hb⟩
    · rintro ⟨_ | ⟨a, before⟩, b, after, hcs, hbefore, hb⟩
      · obtain ⟨rfl, rfl⟩ := List.cons.inj hcs
        exact .inl ((hc n d).2 hb)
      · obtain ⟨rfl, rfl⟩ := List.cons.inj hcs
        obtain ⟨hnames, hbefore⟩ := List.forall_mem_cons.1 hbefore
        cases hday : (c.resolve ctx n).result with
        | error e => exact absurd ((hc n e).1 hday) (hnames e)
        | ok day =>
          have hothers := (htail (n + (c.resolve ctx n).calls.length)).2 ⟨before, b, after, rfl, hbefore, hb⟩
          exact .inr ⟨day, rfl, by rw [hothers]; rfl⟩

theorem ne_nil_of_resolveAll {cs : List Command} {days : List Date} (hcs : cs ≠ [])
    (h : (resolveAll ctx n cs).result = .ok days) : days ≠ [] := by
  cases cs with
  | nil => exact absurd rfl hcs
  | cons c cs =>
    rw [result_resolveAll_cons] at h
    obtain ⟨day, -, h⟩ := exists_of_bind_eq_ok h
    obtain ⟨others, -, h⟩ := exists_of_bind_eq_ok h
    cases h
    exact List.cons_ne_nil day others

/-- Without state, the days of commands are those that they come to one by one. -/
theorem map_result_of_resolveAll (hs : ctx.Stateless) {cs : List Command} {days : List Date}
    (h : (resolveAll ctx n cs).result = .ok days) (m : Nat) :
    cs.map (fun c => (c.resolve ctx m).result) = days.map .ok := by
  induction cs generalizing n days with
  | nil =>
    cases h
    rfl
  | cons c cs ih =>
    rw [result_resolveAll_cons] at h
    obtain ⟨day, hday, h⟩ := exists_of_bind_eq_ok h
    obtain ⟨others, hothers, h⟩ := exists_of_bind_eq_ok h
    cases h
    rw [List.map_cons, List.map_cons, ih hothers, c.resolve_stateless hs m n, hday]

theorem result_resolve_alone (ctx : Context) (n : Nat) (c : Command) :
    (c.alone.resolve ctx n).result = (c.resolve ctx n).result := by
  have halone : (c.alone.resolve ctx n).result = (resolveAll ctx n [c]).result >>= c.alone.earliest := rfl
  rw [halone, result_resolveAll_cons]
  cases (c.resolve ctx n).result <;> rfl

end Command

namespace Query

theorem exists_earliest {days : List Date} (h : days ≠ []) : ∃ day, ∀ q : Query, q.earliest days = .ok day := by
  cases hmin : days.min? with
  | some day => exact ⟨day, fun q => by rw [earliest, hmin]; rfl⟩
  | none => exact absurd (List.min?_eq_none_iff.1 hmin) h

theorem resolve_eq_error_iff {q : Query} {d : Diagnostic} (hq : q.commands ≠ []) :
    (q.resolve ctx n).result = .error d ↔ (Command.resolveAll ctx n q.commands).result = .error d := by
  have hresult : (q.resolve ctx n).result = (Command.resolveAll ctx n q.commands).result >>= q.earliest := rfl
  rw [hresult, bind_eq_error]
  refine ⟨fun h => ?_, .inl⟩
  rcases h with h | ⟨days, hok, h⟩
  · exact h
  · obtain ⟨day, hday⟩ := exists_earliest (Command.ne_nil_of_resolveAll hq hok)
    rw [hday q] at h
    cases h

/-- Queries of the same commands come to the same; their spans matter only where there are no commands. -/
theorem resolve_congr {q r : Query} (h : q.commands = r.commands) (hq : q.commands ≠ []) (ctx : Context) (n : Nat) :
    q.resolve ctx n = r.resolve ctx n := by
  unfold resolve Traced.map
  rw [← h]
  congr 1
  cases hdays : (Command.resolveAll ctx n q.commands).result with
  | error fault => rfl
  | ok days =>
    obtain ⟨day, hday⟩ := exists_earliest (Command.ne_nil_of_resolveAll hq hdays)
    show q.earliest days = r.earliest days
    rw [hday q, hday r]

variable {q : Query}

theorem settled_resolve (hs : ctx.Stateless) (hq : q.commands ≠ []) (m n : Nat) :
    Settled (fun c => (c.alone.resolve ctx m).result) q.commands (q.resolve ctx n).result := by
  simp only [Command.result_resolve_alone]
  cases h : (q.resolve ctx n).result with
  | error fault =>
    have hfails : ∀ c ∈ q.commands, ∀ k e,
        (c.resolve ctx k).result = .error e ↔ (c.resolve ctx m).result = .error e := by
      intro c _ k e
      rw [c.resolve_stateless hs k m]
    rw [resolve_eq_error_iff hq, Command.resolveAll_eq_error_iff hfails] at h
    obtain ⟨before, c, after, hcs, hbefore, hc⟩ := h
    refine .firstFailure hcs (fun b hb => ?_) hc
    cases hr : (b.resolve ctx m).result with
    | error e => exact absurd hr (hbefore b hb e)
    | ok e => exact ⟨e, rfl⟩
  | ok d =>
    obtain ⟨days, hdays, hd⟩ := exists_of_bind_eq_ok h
    have hmap := Command.map_result_of_resolveAll hs hdays m
    have hmem : ∀ e, (∃ c ∈ q.commands, (c.resolve ctx m).result = .ok e) ↔ e ∈ days := by
      intro e
      rw [← List.mem_map, hmap]
      simp
    obtain ⟨hleast, hle⟩ := List.min?_eq_some_iff.1 (eq_some_of_elim hd)
    refine .earliest (fun c hc => ?_) ⟨(hmem d).2 hleast, fun e he => hle e ((hmem e).1 he)⟩
    have hanswer : (c.resolve ctx m).result ∈ days.map .ok := by
      rw [← hmap]
      exact List.mem_map_of_mem hc
    obtain ⟨e, -, he⟩ := List.mem_map.1 hanswer
    exact ⟨e, he.symm⟩

/-- Alternatives that are added make the day no later, as long as they do not fail. -/
theorem exists_le_of_subset (hs : ctx.Stateless) (hq : q.commands ≠ []) {d : Date} {m : Nat}
    (hd : (q.resolve ctx n).result = .ok d) {r : Query} (hsub : q.commands ⊆ r.commands)
    (hadded : ∀ c ∈ r.commands, c ∉ q.commands → ∃ e, (c.alone.resolve ctx m).result = .ok e) :
    ∃ f, (r.resolve ctx n).result = .ok f ∧ f ≤ d := by
  have hqs := settled_resolve hs hq m n
  rw [hd] at hqs
  cases hqs with
  | earliest hall hleast =>
    obtain ⟨c, hc, hcd⟩ := hleast.1
    have hr : r.commands ≠ [] := List.ne_nil_of_mem (hsub hc)
    have hrall : ∀ b ∈ r.commands, ∃ e, (b.alone.resolve ctx m).result = .ok e := by
      intro b hb
      by_cases hold : b ∈ q.commands
      · exact hall b hold
      · exact hadded b hb hold
    obtain ⟨f, hf, hfleast⟩ := (settled_resolve hs hr m n).exists_isLeast hrall
    exact ⟨f, hf, hfleast.2 ⟨c, hsub hc, hcd⟩⟩

/-- **A query names the earliest day of its commands, or fails as the first of them that fails.**  So the order of the
commands and how often each stands there leave the day as it is, and further commands that do not fail make it no
later. -/
theorem earliest_or_firstFailure (hs : ctx.Stateless) (hq : q.commands ≠ []) (m n : Nat) :
    Settled (fun c => (c.alone.resolve ctx m).result) q.commands (q.resolve ctx n).result ∧
      ∀ d, (q.resolve ctx n).result = .ok d →
        (∀ r : Query, (∀ c, c ∈ r.commands ↔ c ∈ q.commands) → (r.resolve ctx n).result = .ok d) ∧
        ∀ r : Query, q.commands ⊆ r.commands →
          (∀ c ∈ r.commands, c ∉ q.commands → ∃ e, (c.alone.resolve ctx m).result = .ok e) →
            ∃ f, (r.resolve ctx n).result = .ok f ∧ f ≤ d := by
  refine ⟨settled_resolve hs hq m n, fun d hd => ⟨fun r hmem => ?_, fun r => exists_le_of_subset hs hq hd⟩⟩
  have hto : q.commands ⊆ r.commands := fun c => (hmem c).2
  have hfrom : r.commands ⊆ q.commands := fun c => (hmem c).1
  obtain ⟨f, hf, hle⟩ := exists_le_of_subset (m := m) hs hq hd hto fun c hc hnew => absurd (hfrom hc) hnew
  have hr : r.commands ≠ [] := fun hr => hq (List.subset_nil.1 (hr ▸ hto))
  obtain ⟨g, hg, hge⟩ := exists_le_of_subset (m := m) hs hr hf hfrom fun c hc hnew => absurd (hto hc) hnew
  obtain rfl : d = g := Except.ok.inj (hd.symm.trans hg)
  rw [hf, Std.le_antisymm hle hge]

/-- A Friday, or the day that code names. -/
def fridayOrCode : Query :=
  ⟨.of [] 0 0, [⟨.of [] 0 0, .weekday ⟨.of [] 0 0, .weekday .friday⟩⟩, ⟨.of [] 0 0, .code []⟩]⟩

theorem earliest_or_firstFailure_fridayOrCode :
    Context.sevenDays.Stateless ∧ fridayOrCode.commands ≠ [] ∧
      Settled (fun c => (c.alone.resolve Context.sevenDays 0).result) fridayOrCode.commands
        (fridayOrCode.resolve Context.sevenDays 0).result ∧
      ∃ d tomorrow f, (fridayOrCode.resolve Context.sevenDays 0).result = .ok d ∧
        (resolve Context.sevenDays 0
          ⟨fridayOrCode.span, fridayOrCode.commands.reverse ++ fridayOrCode.commands⟩).result = .ok d ∧
        (tomorrow.alone.resolve Context.sevenDays 0).result = .ok f ∧
        ∃ e, (resolve Context.sevenDays 0 ⟨fridayOrCode.span, tomorrow :: fridayOrCode.commands⟩).result = .ok e ∧
          e ≤ d := by
  have hd : (fridayOrCode.resolve Context.sevenDays 0).result = .ok ⟨2024, 1, 5, by decide⟩ := by decide +kernel
  let tomorrow : Command := ⟨.of [] 0 0, .relative none ⟨.of [] 0 0, .unit .day false⟩⟩
  have hf : (tomorrow.alone.resolve Context.sevenDays 0).result = .ok ⟨2024, 1, 2, by decide⟩ := by decide +kernel
  have hcommands : fridayOrCode.commands ≠ [] := List.cons_ne_nil _ _
  obtain ⟨hsettled, hsame⟩ := earliest_or_firstFailure Context.stateless_sevenDays hcommands 0 0
  obtain ⟨hreordered, hadded⟩ := hsame _ hd
  refine ⟨Context.stateless_sevenDays, hcommands, hsettled, _, tomorrow, _, hd, ?_, hf, ?_⟩
  · exact hreordered _ (by simp)
  · refine hadded _ (List.subset_cons_self _ _) fun c hc hnew => ?_
    obtain rfl : c = tomorrow := (List.mem_cons.1 hc).resolve_right hnew
    exact ⟨_, hf⟩

example : (resolve Context.sevenDays 0 ⟨fridayOrCode.span,
      fridayOrCode.commands ++ [⟨.of [] 0 0, .day ⟨.of [] 0 0, 32⟩⟩, ⟨.of [] 0 0, .day ⟨.of [] 0 0, 0⟩⟩]⟩).result =
    .error (.placed (.of [] 0 0) (.noSuchDay .anyMonth)) := by
  decide +kernel

end Query
end Recurrence
