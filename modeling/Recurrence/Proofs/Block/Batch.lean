import Recurrence.CommandLine.Invocation
import Recurrence.Proofs.Block.Line
/-!
# Batches — what a block leaves on the two outputs

A block that fails as a whole leaves its one diagnostic.  Any other leaves a line for the date of each phrase that has
one, in order on the output, and the diagnostic of each other phrase, in order on the error output; where queries are
shown, each phrase that can be read has its query right before its date, or in place of it.  The batch fails when a
phrase does (`CommandLine.batch_eq_outcome`).
-/
namespace Recurrence

open CommandLine

namespace CommandLine

def dateLine : Except Diagnostic Date → Text
  | .ok day => day.text ++ ['\n']
  | .error _ => []

def faultLine : Except Diagnostic Date → Text
  | .ok _ => []
  | .error fault => bold fault.text ++ ['\n']

def queryLine : Except Diagnostic Query → Text
  | .ok q => q.text ++ ['\n']
  | .error _ => []

namespace Listing

/-- The lines that queries have where they are shown. -/
def shown (showQueries : Bool) (x : Except Diagnostic Query) : Listing :=
  if showQueries then x.toOption.toList.map fun q => .ok q.text else []

theorem ofAnswer_toQuery (showQueries : Bool) (ctx : Context) (n : Nat) (x : Except Diagnostic Query) :
    ofAnswer showQueries (Answer.toQuery ctx n x) = shown showQueries x ++ [(Query.dayOf ctx n x).map Date.text] := by
  cases x <;> cases showQueries <;> rfl

theorem output_append (l k : Listing) : output (l ++ k) = output l ++ output k := List.flatMap_append

theorem errors_append (l k : Listing) : errors (l ++ k) = errors l ++ errors k := List.flatMap_append

theorem succeeded_append (l k : Listing) : succeeded (l ++ k) = (succeeded l && succeeded k) := List.all_append

theorem output_shown (showQueries : Bool) (x : Except Diagnostic Query) :
    (shown showQueries x).output = if showQueries then queryLine x else [] := by
  cases showQueries with
  | false => rfl
  | true =>
    cases x with
    | error fault => rfl
    | ok q => exact List.append_nil _

theorem errors_shown (showQueries : Bool) (x : Except Diagnostic Query) : (shown showQueries x).errors = [] := by
  cases showQueries <;> cases x <;> rfl

theorem succeeded_shown (showQueries : Bool) (x : Except Diagnostic Query) :
    (shown showQueries x).succeeded = true := by
  cases showQueries <;> cases x <;> rfl

theorem output_date (x : Except Diagnostic Date) : output [x.map Date.text] = dateLine x := by
  cases x with
  | error fault => rfl
  | ok day => exact List.append_nil _

theorem errors_date (x : Except Diagnostic Date) : errors [x.map Date.text] = faultLine x := by
  cases x with
  | error fault => exact List.append_nil _
  | ok day => rfl

theorem succeeded_date (x : Except Diagnostic Date) : succeeded [x.map Date.text] = x.isOk := by
  cases x <;> rfl

/-- The lines of a block that can be cut into phrases are those of its phrases. -/
theorem ofText_eq {ctx : Context} (hs : ctx.Stateless) {source : Text} {qs : List (Except Diagnostic Query)}
    (h : Query.ofBlock source = .ok qs) (m n : Nat) (showQueries : Bool) :
    ofText ctx n showQueries source =
      qs.flatMap fun x => shown showQueries x ++ [(Query.dayOf ctx m x).map Date.text] := by
  have hanswers : (ctx.resolveBlock n source).result = .ok (qs.map (Answer.toQuery ctx m)) := by
    rw [Context.resolveBlock, h, ← Answer.result_ofQueries hs m n]
    rfl
  unfold ofText
  rw [hanswers, ofBlock, List.flatMap_map]
  simp only [ofAnswer_toQuery]

variable {ctx : Context} {source : Text} {qs : List (Except Diagnostic Query)}

theorem output_ofText (hs : ctx.Stateless) (h : Query.ofBlock source = .ok qs) (m n : Nat) (showQueries : Bool) :
    (ofText ctx n showQueries source).output =
      qs.flatMap fun x => (if showQueries then queryLine x else []) ++ dateLine (Query.dayOf ctx m x) := by
  rw [ofText_eq hs h m n, output, List.flatMap_assoc]
  show (qs.flatMap fun x => output (shown showQueries x ++ [(Query.dayOf ctx m x).map Date.text])) = _
  simp only [output_append, output_shown, output_date]

theorem errors_ofText (hs : ctx.Stateless) (h : Query.ofBlock source = .ok qs) (m n : Nat) (showQueries : Bool) :
    (ofText ctx n showQueries source).errors = (qs.map (Query.dayOf ctx m)).flatMap faultLine := by
  rw [ofText_eq hs h m n, errors, List.flatMap_assoc, List.flatMap_map]
  show (qs.flatMap fun x => errors (shown showQueries x ++ [(Query.dayOf ctx m x).map Date.text])) = _
  simp only [errors_append, errors_shown, errors_date, List.nil_append]

theorem succeeded_ofText (hs : ctx.Stateless) (h : Query.ofBlock source = .ok qs) (m n : Nat) (showQueries : Bool) :
    (ofText ctx n showQueries source).succeeded = (qs.map (Query.dayOf ctx m)).all Except.isOk := by
  rw [ofText_eq hs h m n, succeeded, List.all_flatMap, List.all_map]
  show (qs.all fun x => succeeded (shown showQueries x ++ [(Query.dayOf ctx m x).map Date.text])) = _
  simp only [succeeded_append, succeeded_shown, succeeded_date, Bool.true_and]
  rfl

end Listing

/-! ## The batch of a block -/

/-- **A batch is the outcome of its block, written out**, whether queries are shown or not. -/
theorem batch_eq_outcome {ctx : Context} (hs : ctx.Stateless) (m n : Nat) (source : Text) :
    (∀ fault, (ctx.runBlock m source).result = .error fault → ∀ showQueries,
      batch ctx n showQueries source = ⟨1, [], bold fault.text ++ ['\n']⟩) ∧
    ∀ days, (ctx.runBlock m source).result = .ok days →
      (batch ctx n false source).output = days.flatMap dateLine ∧
      ∃ queries, Query.ofBlock source = .ok queries ∧ days = queries.map (Query.dayOf ctx m) ∧
        ∀ showQueries, batch ctx n showQueries source =
          { status := if days.all Except.isOk then 0 else 1
            output := queries.flatMap fun x =>
              (if showQueries then queryLine x else []) ++ dateLine (Query.dayOf ctx m x)
            errors := days.flatMap faultLine } := by
  cases h : Query.ofBlock source with
  | error e =>
    have hrun : (ctx.runBlock m source).result = .error e := by
      rw [Context.runBlock, Context.resolveBlock, h]
      rfl
    have hlines (showQueries : Bool) : Listing.ofText ctx n showQueries source = [.error e] := by
      rw [Listing.ofText, Context.resolveBlock, h]
      rfl
    rw [hrun]
    refine ⟨fun fault hfault showQueries => ?_, fun days hdays => ?_⟩
    · obtain rfl := Except.error.inj hfault
      rw [batch, hlines]
      exact congrArg (Result.mk 1 []) (List.append_nil _)
    · cases hdays
  | ok qs =>
    have hbatch (showQueries : Bool) : batch ctx n showQueries source =
        { status := if (qs.map (Query.dayOf ctx m)).all Except.isOk then 0 else 1
          output := qs.flatMap fun x => (if showQueries then queryLine x else []) ++ dateLine (Query.dayOf ctx m x)
          errors := (qs.map (Query.dayOf ctx m)).flatMap faultLine } := by
      rw [batch, Listing.output_ofText hs h m n, Listing.errors_ofText hs h m n, Listing.succeeded_ofText hs h m n]
    have hplain : (batch ctx n false source).output = (qs.map (Query.dayOf ctx m)).flatMap dateLine := by
      rw [batch, Listing.output_ofText hs h m n, List.flatMap_map]
      rfl
    rw [Context.runBlock_eq_dayOf hs h m m]
    refine ⟨fun fault hfault => ?_, fun days hdays => ?_⟩
    · cases hfault
    · obtain rfl := Except.ok.inj hdays
      exact ⟨hplain, qs, rfl, rfl, hbatch⟩

/-- A batch in which a day is named, no month has the day, code names the day, and a phrase is not finished. -/
theorem batch_fourPhrases :
    Context.sevenDays.Stateless ∧
      (∃ fault, (Context.sevenDays.runBlock 0 Context.fourTexts.1).result = .error fault ∧ ∀ showQueries,
        batch Context.sevenDays 1 showQueries Context.fourTexts.1 = ⟨1, [], bold fault.text ++ ['\n']⟩) ∧
      ∃ days, (Context.sevenDays.runBlock 0 Context.fourPhrases).result = .ok days ∧
        (batch Context.sevenDays 1 false Context.fourPhrases).output = days.flatMap dateLine ∧
        ∃ queries, Query.ofBlock Context.fourPhrases = .ok queries ∧
          days = queries.map (Query.dayOf Context.sevenDays 0) ∧
          ∀ showQueries, batch Context.sevenDays 1 showQueries Context.fourPhrases =
            { status := if days.all Except.isOk then 0 else 1
              output := queries.flatMap fun x =>
                (if showQueries then queryLine x else []) ++ dateLine (Query.dayOf Context.sevenDays 0 x)
              errors := days.flatMap faultLine } := by
  have hs := Context.stateless_sevenDays
  refine ⟨hs, ?_, ?_⟩
  · cases h : (Context.sevenDays.runBlock 0 Context.fourTexts.1).result with
    | error fault => exact ⟨fault, rfl, (batch_eq_outcome hs 0 1 Context.fourTexts.1).1 fault h⟩
    | ok days =>
      have hfails : (Context.sevenDays.runBlock 0 Context.fourTexts.1).result.toBool = false := by decide +kernel
      rw [h] at hfails
      cases hfails
  · obtain ⟨days, h⟩ :=
      exists_eq_ok (x := (Context.sevenDays.runBlock 0 Context.fourPhrases).result) (by decide +kernel)
    exact ⟨days, h, (batch_eq_outcome hs 0 1 Context.fourPhrases).2 days h⟩

example : batch Context.sevenDays 0 true "weekly every 0 days".toList =
    ⟨1, ("[EVERY: [RELATIVE: week]]\n2024-01-08\n[EVERY: [RELATIVE: 0 days]]\n").toList,
      ("\x1b[1mRuntimeError on line 1 col 14\n  > Quantity must be at least 1\n  > weekly every 0 days \n" ++
        "                 ‾\x1b[0m\n").toList⟩ := by
  decide +kernel

end CommandLine
end Recurrence
