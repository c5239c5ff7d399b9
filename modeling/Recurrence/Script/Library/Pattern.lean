import Recurrence.Script.Library.Text
import Recurrence.Script.Library.Walk
/-!
# The library: patterns

Searching texts with patterns.  A pattern that goes on remembers in a field where its last search ended.
-/
namespace Recurrence.Script.Library

open Run

/-! ## Making patterns -/

/-- The source and the flags of a pattern. -/
def pattern? (v : Value) : Run (Option (Text × Text)) := do
  match v with
  | .object a => match ← kindAt a with
    | .pattern source flags => return some (source, flags)
    | _ => return none
  | _ => return none

def compiled (source flags : Text) : Run Pattern.Compiled := do
  match Pattern.ofText source flags with
  | .ok c => return c
  | .error message =>
    fail .syntaxFault ("Invalid regular expression: /" ++ String.ofList source ++ "/" ++ String.ofList flags ++ ": " ++
      String.ofList message)

def lastIndex : Key := Key.ofString "lastIndex"

/-- A pattern made by a function. -/
def newPattern (target : Value) (source flags : Text) : Run Value := do
  if !Word.areFlags flags then
    fail .syntaxFault ("Invalid flags supplied to RegExp constructor '" ++ String.ofList flags ++ "'")
  let _ ← compiled source flags
  let v ← make target .pattern (.pattern source flags)
  match v with
  | .object a => put a lastIndex ⟨.value (.number 0) true, false, false⟩
  | _ => pure ()
  return v

def makePattern : Native := fun c => do
  let v := c.given 0
  let like ← isPattern v
  let called := c.target matches .undefined
  let target := if called then .object Family.pattern.maker else c.target
  if called && like && (c.given 1 matches .undefined) then
    if (← named v "constructor").same target then return v
  let given ← match c.given 1 with
    | .undefined => pure none
    | f => do pure (some (← textOf f))
  match ← pattern? v with
  | some (source, flags) => newPattern target source (given.getD flags)
  | none =>
    let (source, flags) ← if like then do
        let source ← named v "source"
        let flags ← if given.isSome then pure Value.undefined else named v "flags"
        pure (source, flags)
      else pure (v, Value.undefined)
    let source ← match source with
      | .undefined => pure []
      | w => textOf w
    let flags ← match given, flags with
      | some f, _ => pure f
      | none, .undefined => pure []
      | none, f => textOf f
    newPattern target source flags

/-! ## Searching -/

/-- The number of characters before a unit. -/
def cellIndex (whole : Bool) (t : Text) (units : Nat) : Nat :=
  if whole then
    (t.foldl (fun (acc : Nat × Nat) c =>
      if acc.2 < units then (acc.1 + 1, acc.2 + (unitsOfChar c).length) else acc) (0, 0)).1
  else units

/-- The number of units of the first characters. -/
def unitIndex (whole : Bool) (t : Text) (cells : Nat) : Nat := if whole then unitCount (t.take cells) else cells

def ofMatch : Option Pattern.Match → Value
  | some m => .string (ofUnits (unitsOf m.text))
  | none => .undefined

/-- A record of what named groups have, without a prototype. -/
def namedGroups (c : Pattern.Compiled) (f : Pattern.Found) (value : Option Pattern.Match → Run Value) : Run Value := do
  if c.names.isEmpty then return .undefined
  let fields ← c.names.mapM fun (n, i) => do
    return (Key.ofText n, Field.ofValue (← value (f.groups.getD (i - 1) none)))
  allocate ⟨.plain, none, fields.toArray, true⟩

/-- What a search found, as a list with the groups. -/
def foundList (c : Pattern.Compiled) (flags t cells : Text) (f : Pattern.Found) : Run Value := do
  let whole := Pattern.areWhole flags
  let text := Value.string (ofUnits (unitsOf f.text))
  let items := text :: f.groups.map ofMatch
  let groups ← namedGroups c f fun m => return ofMatch m
  let range (start length : Nat) : Run Value :=
    list [.ofNat (unitIndex whole cells start), .ofNat (unitIndex whole cells (start + length))]
  let groupRange (m : Option Pattern.Match) : Run Value :=
    match m with
    | some m => range m.start m.text.length
    | none => return .undefined
  let ranges ← if flags.contains 'd' then do
      let all ← list ((← range f.start f.text.length) :: (← f.groups.mapM groupRange))
      match all with
      | .object a => put a (Key.ofString "groups") (.ofValue (← namedGroups c f groupRange))
      | _ => pure ()
      pure [(Key.ofString "indices", Field.ofValue all)]
    else pure []
  allocate ⟨.list (items.map some).toArray items.length false, some Family.list.prototype,
    ([(Key.ofString "index", Field.ofValue (.ofNat (unitIndex whole cells f.start))),
      (Key.ofString "input", .ofValue (.string t)), (Key.ofString "groups", .ofValue groups)] ++ ranges).toArray, true⟩

/-- Searches with a pattern; one that goes on does so where its last search ended. -/
def searchOnce (v : Value) (source flags t : Text) : Run Value := do
  let c ← compiled source flags
  let whole := Pattern.areWhole flags
  let goesOn := flags.contains 'g' || flags.contains 'y'
  let last := (← wholeOf (← field v lastIndex)).toNat
  let start := if goesOn then last else 0
  let cells := Pattern.cells whole t
  let found := if unitCount t < start then none
    else Pattern.find? c flags cells (flags.contains 'y') (cellIndex whole cells start)
  match found with
  | none =>
    if goesOn then setField true v lastIndex (.number 0)
    return .null
  | some f =>
    if goesOn then setField true v lastIndex (.ofNat (unitIndex whole cells f.stop))
    foundList c flags t cells f

/-- Searches with whatever function a pattern has for that. -/
def searchWith (v : Value) (t : Text) : Run Value := do
  let f ← named v "exec"
  let own ← match f with
    | .object a => do pure !((← kindAt a) matches .native _ _)
    | _ => pure false
  if own && (← isFunction f) then
    let r ← call f v [.string t]
    if !r.isObject && !(r matches .null) then
      typeFail ("object null is not a function")
    return r
  match ← pattern? v with
  | some (source, flags) => searchOnce v source flags t
  | none => incompatible "RegExp.prototype.exec" v

/-- The place after one in a text. -/
def advanced (whole : Bool) (us : List Nat) (i : Nat) : Nat :=
  match us.drop i with
  | u :: v :: _ => if whole && isFirstHalf u && isSecondHalf v then i + 2 else i + 1
  | _ => i + 1

def flagsOf (v : Value) : Run Text := do textOf (← named v "flags")

/-- All that a search finds; after an empty find it goes on one place further. -/
def searchAll (v : Value) (flags t : Text) : Run (List Value) := do
  setField true v lastIndex (.number 0)
  let us := unitsOf t
  let round (done : List Value) : Run (List Value ⊕ List Value) := do
    match ← searchWith v t with
    | .null => return .inr done
    | r =>
      if (← textOf (← field r (.place 0))) = [] then
        let i := (← wholeOf (← field v lastIndex)).toNat
        setField true v lastIndex (.ofNat (advanced (Pattern.areWhole flags) us i))
      return .inl (r :: done)
  return (← repeated round [] manyRounds []).reverse

def expectPattern (name : String) (v : Value) : Run Unit := do
  if !v.isObject then incompatible ("RegExp.prototype." ++ name) v

def matchMethod : Native := fun c => do
  expectPattern "@@match" c.this
  let t ← textOf (c.given 0)
  let flags ← flagsOf c.this
  if !flags.contains 'g' then return ← searchWith c.this t
  let all ← searchAll c.this flags t
  if all.isEmpty then return .null
  list (← all.mapM fun r => do return .string (← textOf (← field r (.place 0))))

def replaceMethod : Native := fun c => do
  expectPattern "@@replace" c.this
  let t ← textOf (c.given 0)
  let byWhat ← if ← isFunction (c.given 1) then pure (c.given 1) else do pure (Value.string (← textOf (c.given 1)))
  let flags ← flagsOf c.this
  let results ← if flags.contains 'g' then searchAll c.this flags t else do
    match ← searchWith c.this t with
    | .null => pure []
    | r => pure [r]
  let us := unitsOf t
  let found ← results.mapM fun r => do
    let n ← lengthOf r
    let text ← textOf (← field r (.place 0))
    let place := Nat.min (← wholeOf (← named r "index")).toNat us.length
    let groups ← (List.range (n - 1)).mapM fun i => do
      match ← field r (.ofNat (i + 1)) with
      | .undefined => return Value.undefined
      | v => return .string (← textOf v)
    return Finding.mk place text groups (← named r "groups")
  return .string (concatenated (← replaced t us byWhat 0 found))

def searchMethod : Native := fun c => do
  expectPattern "@@search" c.this
  let t ← textOf (c.given 0)
  let old ← field c.this lastIndex
  if !(old.isExactly (.number 0)) then setField true c.this lastIndex (.number 0)
  let r ← searchWith c.this t
  if !((← field c.this lastIndex).isExactly old) then setField true c.this lastIndex old
  if r matches .null then return .number (-1) else named r "index"

/-- Cuts a text wherever a pattern is found. -/
def splitByPattern : Native := fun c => do
  expectPattern "@@split" c.this
  let t ← textOf (c.given 0)
  let flags ← flagsOf c.this
  let limit ← cutLimit (c.given 1)
  let source ← match ← pattern? c.this with
    | some (source, _) => pure source
    | none => textOf (← named c.this "source")
  let p ← compiled source flags
  let whole := Pattern.areWhole flags
  let cells := Pattern.cells whole t
  let size := cells.length
  let find (i : Nat) : Option Pattern.Found := Pattern.find? p flags cells false i
  let piece (i j : Nat) : Value := .string (ofUnits (unitsOf ((cells.drop i).take (j - i))))
  if size = 0 then
    return ← list (if (find 0).isSome || limit = 0 then [] else [.string t])
  let round (x : Nat × Nat × List Value) : Run ((Nat × Nat × List Value) ⊕ List Value) := do
    let (behind, place, done) := x
    if size ≤ place then return .inr (piece behind size :: done)
    match find place with
    | none => return .inr (piece behind size :: done)
    | some f =>
      if size ≤ f.start then return .inr (piece behind size :: done)
      if f.stop = behind then return .inl (behind, place + 1, done)
      if f.stop = f.start && f.start == place && f.start == behind then return .inl (behind, place + 1, done)
      return .inl (f.stop, if f.stop = f.start then f.stop + 1 else f.stop,
        (f.groups.map ofMatch).reverse ++ piece behind f.start :: done)
  let parts ← repeated round [] manyRounds (0, 0, [])
  list (parts.reverse.take limit)

/-- A walk through all that a pattern finds. -/
def matchAllMethod : Native := fun c => do
  expectPattern "@@matchAll" c.this
  let t ← textOf (c.given 0)
  let flags ← flagsOf c.this
  let searcher ← construct (.object Family.pattern.maker) [c.this, .string flags]
  setField true searcher lastIndex (← field c.this lastIndex)
  allocate ⟨.branded .patternWalk [searcher, .string t, .string flags], some Family.patternWalk.prototype, #[], true⟩

def patternStep : Native := fun c => do
  match c.this with
  | .object a => match ← kindAt a with
    | .branded .patternWalk [searcher, .string t, .string flags] =>
      match ← searchWith searcher t with
      | .null =>
        setKind a (.branded .patternWalk [])
        stepResult .undefined true
      | r =>
        if !flags.contains 'g' then setKind a (.branded .patternWalk [])
        else if (← textOf (← field r (.place 0))) = [] then
          let i := (← wholeOf (← field searcher lastIndex)).toNat
          setField true searcher lastIndex (.ofNat (advanced (Pattern.areWhole flags) (unitsOf t) i))
        stepResult r false
    | .branded .patternWalk [] => stepResult .undefined true
    | _ => incompatible "%RegExpStringIterator%.prototype.next" c.this
  | v => incompatible "%RegExpStringIterator%.prototype.next" v

/-! ## What patterns are -/

/-- The source of a pattern as it can stand between slashes. -/
def shownSource : (inClass : Bool) → Text → Text
  | _, [] => []
  | b, '\\' :: c :: cs => '\\' :: c :: shownSource b cs
  | b, c :: cs =>
    if c = '/' ∧ !b then '\\' :: '/' :: shownSource b cs
    else if c = '\n' then '\\' :: 'n' :: shownSource b cs
    else c :: shownSource (c == '[' || (b && c != ']')) cs

/-- A flag of a pattern by its name. -/
def flagTeller (name : String) (flag : Char) : Entry := teller name fun c => do
  match ← pattern? c.this with
  | some (_, flags) => return .truth (flags.contains flag)
  | none =>
    if c.this.same (.object Family.pattern.prototype) then return .undefined
    typeFail ("RegExp.prototype." ++ name ++ " getter called on non-RegExp object")

def flagNames : List (String × Char) :=
  [("hasIndices", 'd'), ("global", 'g'), ("ignoreCase", 'i'), ("multiline", 'm'), ("dotAll", 's'), ("unicode", 'u'),
    ("unicodeSets", 'v'), ("sticky", 'y')]

def sourceOf (v : Value) : Run Text := do
  match ← pattern? v with
  | some ([], _) => return "(?:)".toList
  | some (source, _) => return shownSource false source
  | none =>
    if v.same (.object Family.pattern.prototype) then return "(?:)".toList
    typeFail "RegExp.prototype.source getter called on non-RegExp object"

def patternPrototypeEntries : List Entry :=
  [method "exec" 1 fun c => do
      match ← pattern? c.this with
      | some (source, flags) => searchOnce c.this source flags (← textOf (c.given 0))
      | none => incompatible "RegExp.prototype.exec" c.this] ++
  flagNames.map (fun (n, f) => flagTeller n f) ++
  [teller "flags" fun c => do
      if !c.this.isObject then typeFail "RegExp.prototype.flags getter called on non-object undefined"
      let on ← flagNames.filterM fun f => do return (← named c.this f.1).isTrue
      return .string (on.map (·.2)),
    teller "source" fun c => do return .string (← sourceOf c.this),
    method "compile" 2 fun c => do
      match c.this with
      | .object a =>
        let fresh ← makePattern { c with this := .undefined, target := .object Family.pattern.maker }
        match ← pattern? fresh with
        | some (source, flags) => setKind a (.pattern source flags)
        | none => pure ()
        return c.this
      | v => incompatible "RegExp.prototype.compile" v,
    method "toString" 0 fun c => do
      expectPattern "toString" c.this
      let source ← textOf (← named c.this "source")
      return .string ('/' :: source ++ '/' :: (← flagsOf c.this)),
    method "test" 1 fun c => do
      expectPattern "test" c.this
      return .truth !((← searchWith c.this (← textOf (c.given 0))) matches .null),
    signMethod .matching "match" 1 matchMethod, signMethod .matchAll "matchAll" 1 matchAllMethod,
    signMethod .replace "replace" 2 replaceMethod, signMethod .search "search" 1 searchMethod,
    signMethod .split "split" 2 splitByPattern]

def patternPlans : List Plan := [{ family := .pattern, maker := some (2, makePattern) }]

def patternParts : List Part :=
  [⟨Family.pattern.maker, [speciesEntry]⟩, ⟨Family.pattern.prototype, patternPrototypeEntries⟩,
    ⟨Family.patternWalk.prototype, [method "next" 0 patternStep, tag "RegExp String Iterator"]⟩]

end Recurrence.Script.Library
