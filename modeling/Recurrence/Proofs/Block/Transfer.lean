import Recurrence.Proofs.Block.Append
/-!
# Transfer — the same phrases in another text

A span can be put into another text, with its positions (`Span.inText`), and so can all that holds spans.  Nothing that
is made of spans depends on their text: the same characters are scanned (`Token.scan_inText`) and the same tokens read
(`Query.ofTokens_inText`) in another text, put there, and what comes of a line and of a block is the same day or fault,
put there, by the same calls (`Context.runLine_inText`, `Context.runBlock_inText`).
-/
namespace Recurrence

open Diagnostic (Cause DayBounds)

/-- The same positions in the text `t`. -/
def Span.inText (t : Text) (s : Span) : Span := { s with text := t }

/-- The same value at the same positions in the text `t`. -/
def Located.inText {α : Type} (t : Text) (x : Located α) : Located α := { x with span := x.span.inText t }

/-- The same cause at the same positions in the text `t`. -/
def Diagnostic.inText (t : Text) (d : Diagnostic) : Diagnostic := { d with span := d.span.map (Span.inText t) }

/-- A result, its fault put into the text `t`. -/
def Diagnostic.faultIn {α : Type} (t : Text) (x : Except Diagnostic α) : Except Diagnostic α := x.mapError (inText t)

def Rule.inText (t : Text) : Rule → Rule
  | relative number unit => relative (number.map (Located.inText t)) (unit.inText t)
  | weekday d => weekday (d.inText t)
  | day n => day (n.inText t)
  | monthDay m n => monthDay (m.inText t) (n.inText t)
  | code c => code c

def Command.inText (t : Text) (c : Command) : Command := ⟨c.span.inText t, c.value.inText t⟩

def Query.inText (t : Text) (q : Query) : Query := ⟨q.span.inText t, q.commands.map (Command.inText t)⟩

/-- A query that has been read, or its fault, put into the text `t`. -/
def Query.readIn (t : Text) (x : Except Diagnostic Query) : Except Diagnostic Query :=
  Diagnostic.faultIn t (x.map (inText t))

/-- Tokens that have been scanned, or the fault among them, put into the text `t`. -/
def Token.scannedIn (t : Text) (x : Except Diagnostic (List Token)) : Except Diagnostic (List Token) :=
  Diagnostic.faultIn t (x.map (List.map (Located.inText t)))

open Diagnostic (faultIn)

variable (t : Text)

@[simp] theorem Located.value_inText {α : Type} (x : Located α) : (x.inText t).value = x.value := rfl

theorem Span.between_inText (text : Text) (start stop : Position) :
    between t start stop = (between text start stop).inText t := by
  unfold between
  split <;> rfl

namespace Diagnostic

theorem placed_inText (s : Span) (cause : Cause) : placed (s.inText t) cause = (placed s cause).inText t :=
  congrArg (fun s => Diagnostic.mk cause (some s)) (Span.between_inText t s.text s.start s.stop)

theorem faultIn_map {α β : Type} (f : α → β) (x : Except Diagnostic α) : faultIn t (x.map f) = (faultIn t x).map f := by
  cases x <;> rfl

theorem faultIn_bind {α β : Type} {x x' : Except Diagnostic α} {f f' : α → Except Diagnostic β}
    (hx : x' = faultIn t x) (hf : ∀ a, f' a = faultIn t (f a)) : (x' >>= f') = faultIn t (x >>= f) := by
  subst hx
  cases x with
  | error fault => rfl
  | ok a => exact hf a

end Diagnostic

open Diagnostic (placed_inText faultIn_map faultIn_bind)

/-! ## Scanning -/

namespace Token

/-- **The same characters have the same tokens in another text**, put there, or the same fault. -/
theorem scan_inText (text : Text) (p : Position) (rest : Text) : scan t p rest = scannedIn t (scan text p rest) := by
  fun_induction scan text p rest with
  | case1 p => rw [scan_nil]; rfl
  | case2 p c cs hc ih => rw [scan_blank _ _ hc, ih]
  | case3 p c cs hc lexeme stop span cause hkind =>
    rw [scan_error _ _ hc hkind, Span.between_inText t text, placed_inText]
    rfl
  | case4 p c cs hc lexeme stop span kind hkind ih =>
    rw [scan_ok _ _ hc hkind, Span.between_inText t text]
    refine (congrArg (Except.map _) ih).trans ?_
    cases scan text stop (cs.drop lexeme.more) <;> rfl

end Token

/-! ## Reading -/

def Stop.inText : Stop → Stop
  | atToken token => atToken (token.inText t)
  | atEnd => atEnd

theorem Stop.diagnostic_inText (stop : Stop) (tokens : List Token) :
    (stop.inText t).diagnostic (tokens.map (Located.inText t)) = (stop.diagnostic tokens).inText t := by
  cases stop with
  | atToken token => exact placed_inText t token.span _
  | atEnd =>
    rw [inText, diagnostic, diagnostic, List.getLast?_map]
    cases tokens.getLast? with
    | none => rfl
    | some last => exact placed_inText t last.span _

namespace Command

/-- A command that has been read and the tokens left, or the stop, put into the text `t`. -/
def oneIn (x : Except Stop (Command × List Token)) : Except Stop (Command × List Token) :=
  (x.map fun p => (p.1.inText t, p.2.map (Located.inText t))).mapError (Stop.inText t)

/-- Commands that have been read, or the stop, put into the text `t`. -/
def allIn (x : Except Stop (List Command)) : Except Stop (List Command) :=
  (x.map (List.map (inText t))).mapError (Stop.inText t)

theorem allIn_map_cons (c : Command) (x : Except Stop (List Command)) :
    allIn t (x.map (c :: ·)) = (allIn t x).map (c.inText t :: ·) := by
  cases x <;> rfl

theorem readLast_inText {α : Type} (accept : Token.Kind → Option α) {build build' : Located α → Command}
    (h : ∀ a, build' (a.inText t) = (build a).inText t) : ∀ tokens : List Token,
      readLast accept build' (tokens.map (Located.inText t)) = oneIn t (readLast accept build tokens)
  | [] => rfl
  | ⟨s, k⟩ :: rest => by
    rw [List.map_cons]
    cases ha : accept k with
    | none => simp only [readLast, Located.inText, ha]; rfl
    | some a =>
      simp only [readLast, Located.inText, ha]
      exact congrArg (fun c => Except.ok (c, rest.map (Located.inText t))) (h ⟨s, a⟩)

theorem read_inText : ∀ tokens : List Token, read (tokens.map (Located.inText t)) = oneIn t (read tokens)
  | [] => rfl
  | ⟨s, k⟩ :: rest => by
    rw [List.map_cons]
    cases k with
    | separator => rfl
    | number n =>
      simp only [read, readFrom, Located.inText]
      exact readLast_inText t Token.Kind.unitWord? (fun _ => rfl) rest
    | ordinal n => rfl
    | code c => rfl
    | keyword k =>
      cases k with
      | every => rfl
      | shorthand short => rfl
      | unit u plural => rfl
      | weekday d => rfl
      | month m =>
        simp only [read, readFrom, Located.inText]
        exact readLast_inText t Token.Kind.ordinal? (fun _ => rfl) rest
      | code =>
        simp only [read, readFrom, Located.inText]
        exact readLast_inText t Token.Kind.code? (fun _ => rfl) rest

theorem readMore_inText (tokens : List Token) :
    readMore (tokens.map (Located.inText t)) = allIn t (readMore tokens) := by
  fun_induction readMore tokens with
  | case1 => exact readMore_nil
  | case2 token rest ht c rest' hr ih =>
    have hread : read (rest.map (Located.inText t)) = .ok (c.inText t, rest'.map (Located.inText t)) := by
      rw [read_inText, hr]; rfl
    rw [List.map_cons, Located.inText, ht, readMore_ok _ hread, ih, allIn_map_cons]
  | case3 token rest ht stop hr =>
    have hread : read (rest.map (Located.inText t)) = .error (stop.inText t) := by rw [read_inText, hr]; rfl
    rw [List.map_cons, Located.inText, ht, readMore_error _ hread]
    rfl
  | case4 token rest ht =>
    rw [List.map_cons, readMore, Located.value_inText, if_neg ht]
    rfl

theorem readAll_inText (tokens : List Token) : readAll (tokens.map (Located.inText t)) = allIn t (readAll tokens) := by
  rw [readAll, readAll, read_inText]
  cases read tokens with
  | error stop => rfl
  | ok p =>
    show (readMore (p.2.map (Located.inText t))).map (p.1.inText t :: ·) = _
    rw [readMore_inText, ← allIn_map_cons]

theorem readPhrase_inText (token : Token) (rest : List Token) :
    readPhrase (token.inText t) (rest.map (Located.inText t)) = allIn t (readPhrase token rest) := by
  rw [readPhrase, readPhrase, Located.value_inText]
  split
  · exact readAll_inText t rest
  · rw [readMore_inText, allIn_map_cons]
    rfl
  · exact readAll_inText t (token :: rest)

end Command

namespace Query

theorem ofCommands_inText (token : Token) (cs : List Command) :
    ofCommands (token.inText t) (cs.map (Command.inText t)) = (ofCommands token cs).inText t := by
  rw [ofCommands, ofCommands, List.getLast?_map]
  cases cs.getLast? <;> rfl

/-- **Tokens put into another text are read as their query**, put into that text, or have their fault there. -/
theorem ofTokens_inText : ∀ tokens : List Token,
    ofTokens (tokens.map (Located.inText t)) = readIn t (ofTokens tokens)
  | [] => rfl
  | token :: rest => by
    rw [List.map_cons, ofTokens, ofTokens, Command.readPhrase_inText]
    cases Command.readPhrase token rest with
    | ok cs => exact congrArg Except.ok (ofCommands_inText t token cs)
    | error stop => exact congrArg Except.error (stop.diagnostic_inText t (token :: rest))

end Query

/-! ## Resolving -/

variable (ctx : Context) (n : Nat)

namespace Rule

theorem quantity_inText : ∀ number : Option (Located Nat),
    quantity (number.map (Located.inText t)) = faultIn t (quantity number)
  | none => rfl
  | some k => by
    rw [Option.map_some, quantity, quantity, Located.value_inText]
    split
    · exact congrArg Except.error (placed_inText t k.span _)
    · rfl

theorem named_inText {α : Type} (meaning : Keyword → Option α) (cause : Keyword → Cause) (k : Located Keyword) :
    named meaning cause (k.inText t) = faultIn t (named meaning cause k) := by
  rw [named, named, Located.value_inText]
  cases meaning k.value with
  | none => exact congrArg Except.error (placed_inText t k.span _)
  | some a => rfl

theorem blame_inText {α : Type} (s : Span) (bounds : DayBounds) (x : Except Calendar.Refusal α) :
    blame (s.inText t) bounds x = faultIn t (blame s bounds x) := by
  cases x with
  | ok a => rfl
  | error refusal => exact congrArg Except.error (placed_inText t s _)

theorem codeDay_inText (s : Span) (code : Text) :
    codeDay ctx n (s.inText t) code = (codeDay ctx n s code).map (faultIn t) := by
  have hplaced (x : Except Cause Date) :
      x.mapError (Diagnostic.placed (s.inText t)) = faultIn t (x.mapError (Diagnostic.placed s)) := by
    cases x with
    | ok day => rfl
    | error cause => exact congrArg Except.error (placed_inText t s cause)
  unfold codeDay
  split
  · cases ctx.evaluator with
    | none => exact congrArg Traced.silent (hplaced (.error .noEvaluator))
    | some evaluator => exact congrArg (Traced.mk · [⟨code, ctx.now⟩]) (hplaced _)
  · exact congrArg Traced.silent (hplaced (.error .codeForbidden))

end Rule

theorem Command.resolve_inText (c : Command) : (c.inText t).resolve ctx n = (c.resolve ctx n).map (faultIn t) := by
  obtain ⟨s, r⟩ := c
  cases r with
  | relative number unit =>
    refine congrArg Traced.silent (faultIn_bind t (Rule.quantity_inText t number) fun quantity => ?_)
    refine faultIn_bind t (Rule.named_inText t _ _ unit) fun unit => ?_
    exact Rule.blame_inText t s _ _
  | weekday d =>
    refine congrArg Traced.silent (faultIn_bind t (Rule.named_inText t _ _ d) fun weekday => ?_)
    exact Rule.blame_inText t s _ _
  | day k => exact congrArg Traced.silent (Rule.blame_inText t s _ _)
  | monthDay m k =>
    refine congrArg Traced.silent (faultIn_bind t (Rule.named_inText t _ _ m) fun month => ?_)
    exact Rule.blame_inText t s _ _
  | code code => exact Rule.codeDay_inText t ctx n s code

theorem Command.resolveAll_inText (cs : List Command) :
    resolveAll ctx n (cs.map (inText t)) = (resolveAll ctx n cs).map (faultIn t) := by
  induction cs generalizing n with
  | nil => rfl
  | cons c cs ih =>
    have hc := c.resolve_inText t ctx n
    rw [List.map_cons]
    cases hr : (c.resolve ctx n).result with
    | error fault =>
      have hr' : ((c.inText t).resolve ctx n).result = .error (fault.inText t) := by rw [hc, Traced.map, hr]; rfl
      rw [resolveAll_error hr, resolveAll_error hr', hc]
      rfl
    | ok day =>
      have hr' : ((c.inText t).resolve ctx n).result = .ok day := by rw [hc, Traced.map, hr]; rfl
      rw [resolveAll_ok hr, resolveAll_ok hr', hc, Traced.map, ih, Traced.map, Traced.map, faultIn_map]

/-- **A query put into another text names the same day by the same calls**, or has its fault there. -/
theorem Query.resolve_inText (q : Query) : (q.inText t).resolve ctx n = (q.resolve ctx n).map (faultIn t) := by
  have hearliest (days : List Date) : (q.inText t).earliest days = faultIn t (q.earliest days) := by
    rw [earliest, earliest]
    cases days.min? with
    | none => exact congrArg Except.error (placed_inText t q.span _)
    | some day => rfl
  rw [resolve, resolve, show (q.inText t).commands = q.commands.map (Command.inText t) from rfl,
    Command.resolveAll_inText]
  simp only [Traced.map]
  cases (Command.resolveAll ctx n q.commands).result with
  | error fault => rfl
  | ok days => exact congrArg (Traced.mk · _) (hearliest days)

/-! ## Lines and blocks -/

theorem Token.phrases_inText (tokens : List Token) :
    phrases (tokens.map (Located.inText t)) = (phrases tokens).map (List.map (Located.inText t)) :=
  splitBy_map (Located.inText t) (fun _ next : Token => !next.value.opensPhrase) tokens

namespace Answer

def inText (a : Answer) : Answer := ⟨a.query.inText t, faultIn t a.date⟩

/-- An answer, or the fault in its place, put into the text `t`. -/
def givenIn (x : Except Diagnostic Answer) : Except Diagnostic Answer := faultIn t (x.map (inText t))

theorem dateOf_givenIn (x : Except Diagnostic Answer) : dateOf (givenIn t x) = faultIn t (dateOf x) := by
  cases x <;> rfl

theorem ofQueries_inText (queries : List (Except Diagnostic Query)) :
    ofQueries ctx n (queries.map (Query.readIn t)) = (ofQueries ctx n queries).map (List.map (givenIn t)) := by
  induction queries generalizing n with
  | nil => rfl
  | cons x queries ih =>
    rw [List.map_cons]
    cases x with
    | error fault => exact congrArg (Traced.map (.error (fault.inText t) :: ·)) (ih n)
    | ok q =>
      show ofQueries ctx n (.ok (q.inText t) :: queries.map (Query.readIn t)) = _
      simp only [ofQueries, q.resolve_inText t ctx n, Traced.map, ih]
      rfl

end Answer

namespace Context

variable {t} {source source' : Text}

/-- **A line whose tokens are those of another line**, put into another text, names the same day. -/
theorem runLine_inText (h : Token.ofText source' = Token.scannedIn t (Token.ofText source)) :
    ctx.runLine n source' = (ctx.runLine n source).map (faultIn t) := by
  have hline : Query.ofLine source' = Query.readIn t (Query.ofLine source) := by
    rw [Query.ofLine, Query.ofLine, h]
    cases Token.ofText source with
    | error fault => rfl
    | ok tokens => exact Query.ofTokens_inText t tokens
  rw [runLine, runLine, hline]
  cases Query.ofLine source with
  | error fault => rfl
  | ok q => exact q.resolve_inText t ctx n

theorem resolveBlock_inText (h : Token.ofText source' = Token.scannedIn t (Token.ofText source)) :
    ctx.resolveBlock n source' =
      (ctx.resolveBlock n source).map fun x => faultIn t (x.map (List.map (Answer.givenIn t))) := by
  rw [resolveBlock, resolveBlock, Query.ofBlock, Query.ofBlock, h]
  cases Token.ofText source with
  | error fault => rfl
  | ok tokens =>
    have hqueries : (Token.phrases (tokens.map (Located.inText t))).map Query.ofTokens =
        ((Token.phrases tokens).map Query.ofTokens).map (Query.readIn t) := by
      rw [Token.phrases_inText, List.map_map, List.map_map]
      exact List.map_congr_left fun g _ => Query.ofTokens_inText t g
    show (Answer.ofQueries ctx n ((Token.phrases (tokens.map (Located.inText t))).map Query.ofTokens)).map Except.ok = _
    rw [hqueries, Answer.ofQueries_inText]
    rfl

/-- **A block whose tokens are those of another block**, put into another text, names the same days. -/
theorem runBlock_inText (h : Token.ofText source' = Token.scannedIn t (Token.ofText source)) :
    ctx.runBlock n source' = (ctx.runBlock n source).map fun x => faultIn t (x.map (List.map (faultIn t))) := by
  rw [runBlock, runBlock, resolveBlock_inText ctx n h]
  simp only [Traced.map]
  cases (ctx.resolveBlock n source).result with
  | error fault => rfl
  | ok answers =>
    have hdates : (answers.map (Answer.givenIn t)).map Answer.dateOf = (answers.map Answer.dateOf).map (faultIn t) := by
      rw [List.map_map, List.map_map]
      exact List.map_congr_left fun x _ => Answer.dateOf_givenIn t x
    exact congrArg (fun dates => Traced.mk (Except.ok dates) _) hdates

end Context
end Recurrence
