import Recurrence.Proofs.Query.Derivation
import Recurrence.Proofs.Source
/-!
# Visits — what a walk over a query passes

Cut at its commas, a list of tokens falls into parts, and each part is read as one command.  A walk over the query
passes part after part, the leaves of a part in the order of its tokens and directly after them its command, and the
query last (`Query.visited_of_ofTokens`).  So every number, every ordinal and every keyword but `every` and the mark of
code is passed once, and nothing else is passed as a leaf.
-/
namespace Recurrence

/-- Whether a part of a query has no parts of its own. -/
def Query.Part.isLeaf : Query.Part → Bool
  | command => false
  | query => false
  | _ => true

namespace Token

/-- The leaf that a token of this kind becomes; `every`, the mark of code, code and separators become none. -/
def Kind.part? : Kind → Option Query.Part
  | separator => none
  | number _ => some .number
  | ordinal _ => some .day
  | keyword .every => none
  | keyword (.shorthand _) => some .unit
  | keyword (.unit _ _) => some .unit
  | keyword (.weekday _) => some .weekday
  | keyword (.month _) => some .month
  | keyword .code => none
  | code _ => none

/-- The leaf that a token becomes, in the place of the token. -/
def leaf? (t : Token) : Option (Located Query.Part) := t.value.part?.map fun p => ⟨t.span, p⟩

/-- The leaves that tokens become. -/
def leaves (tokens : List Token) : List (Located Query.Part) := tokens.filterMap leaf?

def isSeparator (t : Token) : Bool := t.value == .separator

/-- The tokens between one comma and the next. -/
def parts (tokens : List Token) : List (List Token) := tokens.splitOnP isSeparator

theorem leaves_cons (t : Token) (tokens : List Token) : leaves (t :: tokens) = t.leaf?.toList ++ leaves tokens := by
  rw [leaves, List.filterMap_cons]
  cases t.leaf? <;> rfl

theorem isLeaf_of_mem_leaves {tokens : List Token} {v : Located Query.Part} (h : v ∈ leaves tokens) :
    v.value.isLeaf = true := by
  obtain ⟨⟨s, k⟩, -, hk⟩ := List.mem_filterMap.1 h
  obtain ⟨p, hp, rfl⟩ := Option.map_eq_some_iff.1 hk
  revert hp
  fun_cases Kind.part? k <;> rintro ⟨⟩ <;> rfl

theorem leaf?_of_isSeparator {t : Token} (h : t.isSeparator = true) : t.leaf? = none := by
  obtain ⟨s, k⟩ := t
  obtain rfl : k = .separator := beq_iff_eq.1 h
  rfl

/-- The leaves of tokens are those of their parts. -/
theorem leaves_parts : ∀ tokens : List Token, (parts tokens).flatMap leaves = leaves tokens
  | [] => rfl
  | t :: tokens => by
    have ih := leaves_parts tokens
    unfold parts at ih ⊢
    rw [List.splitOnP_cons_eq_if_modifyHead, leaves_cons, ← ih]
    split
    · rw [leaf?_of_isSeparator ‹_›]
      rfl
    · obtain ⟨a, rest, hsplit⟩ := List.exists_cons_of_ne_nil (List.splitOnP_ne_nil isSeparator tokens)
      rw [hsplit, List.modifyHead_cons, List.flatMap_cons, List.flatMap_cons, leaves_cons, List.append_assoc]

theorem length_parts : ∀ tokens : List Token, (parts tokens).length = tokens.countP isSeparator + 1
  | [] => rfl
  | t :: tokens => by
    have ih := length_parts tokens
    unfold parts at ih ⊢
    rw [List.splitOnP_cons_eq_if_modifyHead]
    split
    · rw [List.length_cons, ih, List.countP_cons_of_pos ‹_›]
    · rw [List.length_modifyHead, ih, List.countP_cons_of_neg ‹_›]

end Token

open Token (leaves parts isSeparator)

namespace Command.Derivation

theorem isSeparator_eq_false (d : Derivation) : ∀ t ∈ d.tokens, isSeparator t = false := by
  cases d <;> simp [tokens, Located.map, isSeparator]

theorem leaves_tokens (d : Derivation) : leaves d.tokens = d.rule.leaves := by
  cases d <;> rfl

/-- Further commands with the tokens that each of them is read from. -/
def moreRead (more : List (Span × Derivation)) : List (List Token × Command) :=
  more.map fun m => (m.2.tokens, m.2.command)

theorem parts_moreTokens {first : List Token} (hfirst : ∀ t ∈ first, isSeparator t = false)
    (more : List (Span × Derivation)) :
    parts (first ++ moreTokens more) = first :: (moreRead more).map Prod.fst := by
  induction more generalizing first with
  | nil =>
    rw [show moreTokens [] = [] from rfl, List.append_nil]
    exact List.splitOnP_eq_singleton hfirst
  | cons m more ih =>
    rw [moreTokens_cons, parts, List.splitOnP_append_cons_of_forall_mem hfirst _ rfl]
    exact congrArg (first :: ·) (ih m.2.isSeparator_eq_false)

end Command.Derivation

namespace Query

open Command.Derivation (moreRead parts_moreTokens moreTokens moreCommands)

/-- The commands of a phrase with the tokens that each of them is read from. -/
def Derivation.read : Derivation → List (List Token × Command)
  | every m d more => (⟨m, .keyword .every⟩ :: d.tokens, d.command) :: moreRead more
  | shorthand s more =>
    ([s.map fun s => .keyword (.shorthand s)], ⟨s.span, .relative none (s.map fun s => .unit s.unit false)⟩) ::
      moreRead more
  | plain d more => (d.tokens, d.command) :: moreRead more

theorem Derivation.map_fst_read (d : Derivation) : d.read.map Prod.fst = parts d.tokens := by
  cases d with
  | every m d more =>
    refine (parts_moreTokens ?_ more).symm
    exact List.forall_mem_cons.2 ⟨rfl, d.isSeparator_eq_false⟩
  | shorthand s more => exact (parts_moreTokens (List.forall_mem_singleton.2 rfl) more).symm
  | plain d more => exact (parts_moreTokens d.isSeparator_eq_false more).symm

theorem Derivation.map_snd_read (d : Derivation) : d.read.map Prod.snd = d.commands := by
  have more (more : List (Span × Command.Derivation)) : (moreRead more).map Prod.snd = moreCommands more := by
    rw [moreRead, List.map_map]
    rfl
  cases d with
  | every m d ms => exact congrArg (d.command :: ·) (more ms)
  | shorthand s ms => exact congrArg (_ :: ·) (more ms)
  | plain d ms => exact congrArg (d.command :: ·) (more ms)

/-- **Each command has the leaves of the tokens that it is read from.** -/
theorem Derivation.leaves_of_mem_read (d : Derivation) : ∀ r ∈ d.read, leaves r.1 = r.2.value.leaves := by
  have later (more : List (Span × Command.Derivation)) : ∀ r ∈ moreRead more, leaves r.1 = r.2.value.leaves := by
    intro r hr
    obtain ⟨m, -, rfl⟩ := List.mem_map.1 hr
    exact m.2.leaves_tokens
  cases d with
  | every m d more => exact List.forall_mem_cons.2 ⟨d.leaves_tokens, later more⟩
  | shorthand s more => exact List.forall_mem_cons.2 ⟨rfl, later more⟩
  | plain d more => exact List.forall_mem_cons.2 ⟨d.leaves_tokens, later more⟩

/-- What a walk passes for a command that is read from the given tokens. -/
def readVisits (r : List Token × Command) : List (Located Part) := leaves r.1 ++ [⟨r.2.span, .command⟩]

theorem Derivation.visits_query (d : Derivation) :
    d.query.visits = d.read.flatMap readVisits ++ [⟨d.query.span, .query⟩] := by
  have hcommands : d.commands.flatMap Command.visits = d.read.flatMap readVisits := by
    rw [← d.map_snd_read, List.flatMap_map, List.flatMap_def, List.flatMap_def]
    refine congrArg List.flatten (List.map_congr_left fun r hr => ?_)
    rw [readVisits, d.leaves_of_mem_read r hr]
    rfl
  rw [← hcommands]
  rfl

theorem filter_isLeaf_readVisits (r : List Token × Command) :
    (readVisits r).filter (fun v => v.value.isLeaf) = leaves r.1 := by
  have hleaves : (leaves r.1).filter (fun v => v.value.isLeaf) = leaves r.1 :=
    List.filter_eq_self.2 fun _ => Token.isLeaf_of_mem_leaves
  rw [readVisits, List.filter_append, hleaves]
  exact List.append_nil _

/-- No leaf is a command or a query. -/
theorem filter_leaves {p : Part} (hp : p.isLeaf = false) (tokens : List Token) :
    (leaves tokens).filter (fun v => v.value == p) = [] := by
  refine List.filter_eq_nil_iff.2 fun v hv hvp => ?_
  have hleaf := Token.isLeaf_of_mem_leaves hv
  rw [beq_iff_eq.1 hvp, hp] at hleaf
  cases hleaf

/-- **What a walk over a query passes**, when the query is read from the given tokens. -/
structure Visited (tokens : List Token) (q : Query) : Prop where
  /-- The leaves are those of the tokens, in the same order, and each is passed once. -/
  leaves_eq : q.visits.filter (fun v => v.value.isLeaf) = leaves tokens
  /-- There is one command more than there are commas. -/
  commands_eq : (q.visits.filter fun v => v.value == .command).length = tokens.countP isSeparator + 1
  /-- Each command is passed directly after the leaves of the part that it is read from, and the query last. -/
  visits_eq : ∃ read : List (List Token × Command), read.map Prod.fst = parts tokens ∧ read.map Prod.snd = q.commands ∧
    q.visits = read.flatMap (fun r => leaves r.1 ++ [⟨r.2.span, .command⟩]) ++ [⟨q.span, .query⟩]
  /-- There is only one query. -/
  query_eq : (q.visits.filter fun v => v.value == .query) = [⟨q.span, .query⟩]

/-- **A walk over a query passes its tokens part by part**, the leaves of each part and directly after them its command,
and the query last. -/
theorem visited_of_ofTokens {tokens : List Token} {q : Query} (h : ofTokens tokens = .ok q) : Visited tokens q := by
  obtain ⟨d, rfl, rfl⟩ := exists_derivation_of_ofTokens h
  have hcommand (r : List Token × Command) :
      (readVisits r).filter (fun v => v.value == .command) = [⟨r.2.span, .command⟩] := by
    rw [readVisits, List.filter_append, filter_leaves rfl]
    rfl
  have hquery (r : List Token × Command) : (readVisits r).filter (fun v => v.value == .query) = [] := by
    rw [readVisits, List.filter_append, filter_leaves rfl]
    rfl
  refine ⟨?_, ?_, ⟨d.read, d.map_fst_read, d.map_snd_read, d.visits_query⟩, ?_⟩
  · rw [d.visits_query, List.filter_append, List.filter_flatMap]
    simp only [filter_isLeaf_readVisits]
    rw [← Token.leaves_parts, ← d.map_fst_read, List.flatMap_map]
    exact List.append_nil _
  · rw [d.visits_query, List.filter_append, List.filter_flatMap]
    simp only [hcommand]
    rw [← List.map_eq_flatMap, ← Token.length_parts, ← d.map_fst_read, List.length_map, List.length_append,
      List.length_map]
    rfl
  · rw [d.visits_query, List.filter_append, List.filter_flatMap]
    simp only [hquery]
    rw [List.flatMap_eq_nil_iff.2 fun _ _ => rfl]
    rfl

/-- A phrase with a command of each form, and a span of its own for each token. -/
def eachForm : List Token :=
  [.keyword (.shorthand .weekly), .separator, .number 2, .keyword (.unit .day true), .separator, .keyword .code,
    .code "7".toList, .separator, .keyword (.month .february), .ordinal 30, .separator, .keyword (.weekday .friday),
    .separator, .ordinal 8].mapIdx fun i k => ⟨.of [] i (i + 1), k⟩

theorem visited_eachForm : ∃ q, ofTokens eachForm = .ok q ∧ Visited eachForm q := by
  have hread : (ofTokens eachForm).toBool = true := by decide +kernel
  cases hq : ofTokens eachForm with
  | error fault => rw [hq] at hread; cases hread
  | ok q => exact ⟨q, rfl, visited_of_ofTokens hq⟩

example : (ofTokens eachForm).toOption.map (fun q => q.visits.map Located.value) =
    some [.unit, .command, .number, .unit, .command, .command, .month, .day, .command, .weekday, .command, .day,
      .command, .query] := by
  decide +kernel

end Query
end Recurrence
