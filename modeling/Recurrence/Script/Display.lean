import Recurrence.Script.Field
import Recurrence.Script.Instant
/-!
# How values are shown

What the console writes about a value: texts within others are quoted, lists and records show what they hold, three
levels deep, on one line if it is short, and long lists in columns.  Nothing is called for this.
-/
namespace Recurrence.Script.Display

open Run

/-! ## Texts -/

/-- Whether a text stands somewhere in another. -/
def stands (part : Text) : Text → Bool
  | [] => part.isEmpty
  | c :: cs => part.isPrefixOf (c :: cs) || stands part cs

/-- A text in quotes that it does not hold itself, if there are any. -/
def quoted (t : Text) : Text :=
  let quote := if !t.contains '\'' then '\'' else if !t.contains '"' then '"'
    else if !t.contains '\x60' && !stands "$\x7b".toList t then '\x60' else '\''
  let hex (n : Nat) : Text := (if n < 16 then ['0'] else []) ++ (Nat.toDigits 16 n).map Char.toUpper
  let escape (c : Char) : Text :=
    if c = '\n' then ['\\', 'n']
    else if c = '\t' then ['\\', 't']
    else if c = '\r' then ['\\', 'r']
    else if c = '\x08' then ['\\', 'b']
    else if c = '\x0c' then ['\\', 'f']
    else if c = '\x0b' then ['\\', 'v']
    else if c = '\\' ∨ c = quote then ['\\', c]
    else if c.toNat < 32 ∨ (127 ≤ c.toNat ∧ c.toNat ≤ 159) then '\\' :: 'x' :: hex c.toNat
    else if isHalf c then
      '\\' :: 'u' :: (Nat.toDigits 16 ((unitsOfChar c).headD 0)).map Char.toUpper
    else [c]
  quote :: t.flatMap escape ++ [quote]

def isPlainName : Text → Bool
  | [] => false
  | c :: cs =>
    let starts (c : Char) : Bool := c.isAlpha || c == '_'
    starts c && cs.all fun c => starts c || c.isDigit

def keyShown (s : Store) : Key → Text
  | .place n => '\'' :: Text.digits n ++ ['\'']
  | .text t => if isPlainName t then t else quoted t
  | k => '[' :: keyTextIn s k ++ [']']

/-- A plain value. -/
def plain (s : Store) : Value → Text
  | .undefined => "undefined".toList
  | .null => "null".toList
  | .truth b => (if b then "true" else "false").toList
  | .number x => if x == 0 && 1 / x < 0 then "-0".toList else Number.text x
  | .bigNumber n => (toString n).toList ++ ['n']
  | .string t => quoted t
  | .symbol id => keyTextIn s (.symbol id)
  | .object _ => []

/-! ## Names of objects -/

/-- The name of the maker that the nearest of what an object builds on names. -/
def makerName? (s : Store) : (fuel address : Nat) → Option Text
  | 0, _ => none
  | fuel + 1, address =>
    let o := s.objects.getD address .blank
    let own : Text := match ownField? s o (Key.ofString "constructor") with
      | some ⟨.value (.object f) _, _, _⟩ => if isFunctionIn s chain (.object f) then functionNameIn s f else []
      | _ => []
    if own ≠ [] then some own
    else match o.parent with
      | some parent => makerName? s fuel parent
      | none => none

/-- The tag of an object, if it says something else than its maker. -/
def tagOf (s : Store) (address : Nat) (maker : Text) : Text :=
  match quietField s .toStringTag chain address with
  | .string t => if t = maker then [] else t
  | _ => []

/-- What stands before the fields of an object; `size` is told for some. -/
def heading (s : Store) (address : Nat) (usual : String) (size : Text) : Text :=
  let o := s.objects.getD address .blank
  match makerName? s chain address with
  | none =>
    let tag := tagOf s address usual.toList
    '[' :: usual.toList ++ size ++ ": null prototype] ".toList ++ if tag = [] then [] else '[' :: tag ++ "] ".toList
  | some maker =>
    let tag := tagOf s address maker
    let maker := if o.kind matches .arguments _ _ then "[Arguments]".toList else maker
    maker ++ size ++ ' ' :: if tag = [] then [] else '[' :: tag ++ "] ".toList

/-- The name of the kind of a function. -/
def functionKind (s : Store) (address : Nat) : Text :=
  match (s.objects.getD address .blank).kind with
  | .closure c => match c.manner.asynchronous, c.manner.generator with
    | true, true => "AsyncGeneratorFunction".toList
    | true, false => "AsyncFunction".toList
    | false, true => "GeneratorFunction".toList
    | false, false => "Function".toList
  | _ => "Function".toList

/-- A function, as it is shown before its fields. -/
def functionShown (s : Store) (address : Nat) : Text :=
  let o := s.objects.getD address .blank
  let name := functionNameIn s address
  let isBlueprint : Bool := match o.kind with
    | .closure c => c.blueprint
    | _ => false
  if isBlueprint then
    let above := match o.parent with
      | some p => functionNameIn s p
      | none => []
    "[class ".toList ++ (if name = [] then "(anonymous)".toList else name) ++
      (if above = [] then [] else " extends ".toList ++ above) ++ [']']
  else
    let kind := functionKind s address
    let maker := makerName? s chain address
    '[' :: kind ++ (if maker.isNone then " (null prototype)".toList else []) ++
      (if name = [] then " (anonymous)".toList else ": ".toList ++ name) ++ ']' ::
      match maker with
      | some m => if m = kind || m = "Function".toList then [] else ' ' :: m
      | none => []

/-! ## Lines -/

/-- How wide a line may be. -/
def width : Nat := 80

/-- Parts in columns, numbers to the right. -/
def inColumns (indent : Nat) (numeric : Bool) (parts : List Text) : List Text :=
  let lengths := parts.map List.length
  let total := lengths.foldl (fun n l => n + l + 2) 0
  let longest := lengths.foldl Nat.max 0
  let most := longest + 2
  let count := parts.length
  if most * 3 + indent < width ∧ (5 * most < total ∨ longest ≤ 6) then
    let bias := (Float.ofNat most - Float.ofNat total / Float.ofNat count).sqrt
    let biased := Float.ofNat most - 3 - bias
    let biased := if biased < 1 then 1 else biased
    let ideal := Number.rounded ((2.5 * biased * Float.ofNat count).sqrt / biased)
    let columns := Nat.min (Nat.min ideal.toUInt64.toNat ((width - indent) / most)) 12
    if columns ≤ 1 then parts
    else
      let widest (i : Nat) : Nat :=
        (lengths.zipIdx.foldl (fun n (l, j) => if j % columns = i then Nat.max n l else n) 0) + 2
      let widths := (List.range columns).map widest
      let rows := (count + columns - 1) / columns
      (List.range rows).map fun r =>
        let row := (parts.drop (r * columns)).take columns
        let last := row.length - 1
        (row.zipIdx.flatMap fun (t, i) =>
          let w := widths.getD i 0
          let shown := if i = last then t else t ++ ", ".toList
          let pad := List.replicate ((if i = last then w - 2 else w) - shown.length) ' '
          if numeric then pad ++ shown else if i = last then shown else shown ++ pad)
  else parts

/-- Parts between brackets, on one line if that is allowed and they fit. -/
def bracketed (indent : Nat) (opening closing : Text) (allowed : Bool) (parts : List Text) : Text :=
  let start := parts.length + indent + opening.length + 10
  let total := (parts.map List.length).foldl (· + ·) (parts.length + start)
  if allowed && Nat.ble total width && parts.all (!·.contains '\n') then
    opening ++ ' ' :: Text.joined ", ".toList parts ++ ' ' :: closing
  else
    let line := '\n' :: List.replicate indent ' '
    opening ++ line ++ "  ".toList ++ Text.joined (',' :: line ++ "  ".toList) parts ++ line ++ closing

/-! ## Values -/

/-- A stretch of missing items. -/
def missing (n : Nat) : Text :=
  '<' :: Text.digits n ++ (if n = 1 then " empty item>" else " empty items>").toList

/-- What one level of showing has: the store, and how deep it goes. -/
structure Setting where
  store : Store
  /-- How many levels below the first are shown. -/
  levels : Nat
  /-- Objects that hold themselves somewhere, in the order in which that is met. -/
  circles : List Nat

/-- What an object holds, as far as it is shown. -/
inductive Holding where
  | item (v : Value)
  | gap (n : Nat)
  | pair (k v : Value)
  | field (k : Text) (v : Value)
  | words (t : Text)

/-- How many items of a list are shown. -/
def mostItems : Nat := 100

/-- Items of a list up to a number, missing ones counted together. -/
def listHoldings : (most : Nat) → (gap : Nat) → List (Option Value) → List Holding
  | _, 0, [] => []
  | _, n + 1, [] => [.gap (n + 1)]
  | most, gap, none :: rest => listHoldings most (gap + 1) rest
  | 0, 0, items => [.words ("... ".toList ++ Text.digits items.length ++
      (if items.length = 1 then " more item" else " more items").toList)]
  | most + 1, 0, some v :: rest => .item v :: listHoldings most 0 rest
  | most, n + 1, some v :: rest => .gap (n + 1) :: match most with
    | most + 1 => .item v :: listHoldings most 0 rest
    | 0 => [.words ("... ".toList ++ Text.digits (rest.length + 1) ++ " more items".toList)]

/-- Items up to a number, and how many there are more. -/
def cut (hs : List Holding) : List Holding :=
  if hs.length ≤ mostItems then hs
  else hs.take mostItems ++ [.words ("... ".toList ++ Text.digits (hs.length - mostItems) ++
    (if hs.length = mostItems + 1 then " more item" else " more items").toList)]

/-- Whether a field is among the items of an object, which are shown without their keys. -/
def isItem (o : Object) : Key → Bool
  | .place _ => match o.kind with
    | .list _ _ _ => true
    | .view _ _ _ _ => true
    | .arguments _ _ => true
    | .wrapped (.string _) => true
    | _ => false
  | _ => false

/-- The fields that an object shows. -/
def fieldHoldings (s : Store) (o : Object) : List Holding :=
  ((ownKeysOf o).filter fun k => !isItem o k).filterMap fun k =>
    match ownField? s o k with
    | some ⟨.value v _, true, _⟩ => some (.field (keyShown s k) v)
    | some ⟨.accessor g t, true, _⟩ =>
      let shown := if g.isObject && t.isObject then "[Getter/Setter]" else if g.isObject then "[Getter]" else "[Setter]"
      some (.words (keyShown s k ++ ": ".toList ++ shown.toList))
    | _ => none

/-- The fields of a fault that are shown after its trace. -/
def faultHoldings (s : Store) (o : Object) : List Holding :=
  let hidden (name : String) : List Holding := match o.stored? (Key.ofString name) with
    | some ⟨.value v _, false, _⟩ => [.field ('[' :: name.toList ++ [']']) v]
    | _ => []
  fieldHoldings s o ++ hidden "errors" ++ hidden "cause"

/-- The items of a walk that are still to come. -/
def restOf (s : Store) (address next : Nat) (yields : Yield) : List Holding :=
  match (s.objects.getD address .blank).kind with
  | .collection _ _ entries _ => (entries.toList.drop next).filterMap fun e =>
    e.map fun (k, v) => match yields with
      | .keys => .item k
      | .values => .item v
      | .entries => .pair k v
  | _ => []

/-- What an object holds besides its fields. -/
def holdings (s : Store) (o : Object) : List Holding :=
  match o.kind with
  | .list items size _ =>
    listHoldings mostItems 0 (items.toList ++ List.replicate (size - items.size) none)
  | .arguments _ _ => (ownKeysOf o).filterMap fun k => match k with
    | .place _ => (o.stored? k).bind fun f => match f.content with
      | .value v _ => some (.item v)
      | _ => none
    | _ => none
  | .collection keyed weak entries _ =>
    if weak then [.words "<items unknown>".toList]
    else entries.toList.filterMap fun e => e.map fun (k, v) => if keyed then .pair k v else .item k
  | .view e buffer start count => cut ((List.range count).map fun i =>
      .item (e.read (bytesOf s buffer) (start + i * e.size)))
  | .promise settlement _ _ => match settlement with
    | .open => [.words "<pending>".toList]
    | .kept v => [.item v]
    | .broken v => [.field "<rejected>".toList v]
  | .walk (.collection address next yields) => restOf s address next yields
  | .bytes content => [.words ("[Uint8Contents]: <".toList ++ Text.joined [' '] (content.toList.map fun b =>
        let ds := Nat.toDigits 16 b.toNat
        if ds.length = 1 then '0' :: ds else ds) ++ ['>']),
      .words ("byteLength: ".toList ++ Text.digits content.size)]
  | _ => []

/-- All values that an object holds. -/
def held (s : Store) (o : Object) : List Value :=
  (holdings s o ++ if o.kind matches .fault then faultHoldings s o else fieldHoldings s o).flatMap fun
    | .item v => [v]
    | .pair k v => [k, v]
    | .field _ v => [v]
    | _ => []

/-- The object that is shown for one: what stands behind a proxy. -/
def shownObject (s : Store) : (fuel address : Nat) → Nat
  | 0, a => a
  | fuel + 1, a => match (s.objects.getD a .blank).kind with
    | .proxy (.object t) _ => shownObject s fuel t
    | _ => a

/-- Objects that hold themselves, as far as values are shown. -/
def circlesIn (s : Store) : (levels : Nat) → (seen : List Nat) → Value → List Nat
  | 0, _, _ => []
  | levels + 1, seen, v => match v with
    | .object a =>
      let a := shownObject s chain a
      if seen.contains a then [a]
      else (held s (s.objects.getD a .blank)).flatMap (circlesIn s levels (a :: seen))
    | _ => []

/-- How an object that holds items or fields is shown: what stands before it and its brackets, or all of it if it holds
nothing. -/
structure Frame where
  opening : Text
  closing : Text
  empty : Text
  /-- Whether its items may stand in columns. -/
  columns : Bool := false

/-- The name of a walk through a collection. -/
def walkName (keyed : Bool) (yields : Yield) : Text :=
  (if keyed then "[Map " else "[Set ").toList ++
    (if yields = .entries then "Entries] " else "Iterator] ").toList

def frameOf (s : Store) (a : Nat) : Frame :=
  let o := s.objects.getD a .blank
  let inBraces (t : Text) : Frame := ⟨t ++ ['\x7b'], ['\x7d'], t ++ "\x7b\x7d".toList, false⟩
  let inBrackets (t : Text) : Frame := ⟨t ++ ['['], [']'], t ++ "[]".toList, true⟩
  let sized (n : Nat) : Text := '(' :: Text.digits n ++ [')']
  let headed (t : Text) : Frame := ⟨t ++ " \x7b".toList, ['\x7d'], t, false⟩
  match o.kind with
  | .list _ size _ =>
    if makerName? s chain a == some "Array".toList && tagOf s a "Array".toList == [] then inBrackets []
    else inBrackets (heading s a "Array" (sized size))
  | .arguments _ _ => inBrackets "[Arguments] ".toList
  | .collection keyed weak entries _ =>
    let count := (entries.toList.filter Option.isSome).length
    let usual := if weak then (if keyed then "WeakMap" else "WeakSet") else if keyed then "Map" else "Set"
    inBraces (heading s a usual (if weak then [] else sized count))
  | .view e _ _ count => inBrackets (heading s a e.family.name (sized count))
  | .walk (.collection address _ yields) => match (s.objects.getD address .blank).kind with
    | .collection keyed _ _ _ => inBraces (walkName keyed yields)
    | _ => inBraces []
  | .promise _ _ _ => inBraces (heading s a "Promise" [])
  | .bytes _ => inBraces (heading s a "ArrayBuffer" [])
  | .closure _ => headed (functionShown s a)
  | .native _ _ => headed (functionShown s a)
  | .bound _ _ _ => headed (functionShown s a)
  | .instant x => headed (((Instant.parts? x).map (·.isoText)).getD "Invalid Date".toList)
  | .pattern source flags => headed ('/' :: source ++ '/' :: flags)
  | .wrapped v =>
    let kind : String := match v with
      | .string _ => "String"
      | .number _ => "Number"
      | .truth _ => "Boolean"
      | .bigNumber _ => "BigInt"
      | _ => "Symbol"
    headed ('[' :: kind.toList ++ ": ".toList ++ plain s v ++ [']'])
  | .fault =>
    let trace : Text := match quietField s (Key.ofString "stack") chain a with
      | .string t => if t = [] then notedIn s (.object a) else t
      | _ => notedIn s (.object a)
    headed (if stands "\n    at".toList trace then trace else '[' :: trace ++ [']'])
  | _ =>
    if makerName? s chain a == some "Object".toList && tagOf s a "Object".toList == [] then inBraces []
    else inBraces (heading s a "Object" [])

/-- A value as it is shown within others, and how deep the last object in it was. -/
def shownWithin (m : Setting) : (fuel level indent : Nat) → (seen : List Nat) → Value → Text × Option Nat
  | 0, _, _, _, _ => ([], none)
  | fuel + 1, level, indent, seen, v =>
    match v with
    | .object a =>
      let s := m.store
      let a := shownObject s chain a
      let o := s.objects.getD a .blank
      if seen.contains a then
        ("[Circular *".toList ++ Text.digits (m.circles.idxOf a + 1) ++ [']'], none)
      else
        let frame := frameOf s a
        let items := holdings s o
        let fields := if o.kind matches .fault then faultHoldings s o else fieldHoldings s o
        let mark := if m.circles.contains a then "<ref *".toList ++ Text.digits (m.circles.idxOf a + 1) ++ "> ".toList
          else []
        if items.isEmpty && fields.isEmpty then (frame.empty, none)
        else if m.levels < level then
          let name := match makerName? s chain a with
            | some n => n
            | none => "Object: null prototype".toList
          ('[' :: name ++ [']'], none)
        else
          let inner := shownWithin m fuel (level + 1) (indent + 2) (a :: seen)
          let show' (h : Holding) : Text × Option Nat := match h with
            | .item v => inner v
            | .gap n => (missing n, none)
            | .words t => (t, none)
            | .field k v =>
              let (t, d) := inner v
              (k ++ (if k = "<rejected>".toList then " ".toList else ": ".toList) ++ t, d)
            | .pair k v =>
              let (t, d) := inner k
              let (u, e) := inner v
              if o.kind matches .walk _ then ("[ ".toList ++ t ++ ", ".toList ++ u ++ " ]".toList, e.or d)
              else (t ++ " => ".toList ++ u, e.or d)
          let shownItems := items.map show'
          let shownFields := fields.map show'
          let deepest := ((shownItems ++ shownFields).foldl (fun d p => p.2.or d) none).getD level
          let numeric := items.all fun
            | .item (.number _) => true
            | .item (.bigNumber _) => true
            | _ => false
          let parts := (shownItems ++ shownFields).map (·.1)
          let grouped := if frame.columns && Nat.blt 6 parts.length && fields.isEmpty then inColumns indent numeric parts
            else parts
          let allowed := Nat.blt (deepest - level) 3 && grouped.length == parts.length
          (mark ++ bracketed indent frame.opening frame.closing allowed grouped, some deepest)
    | v => (plain m.store v, none)

/-- A value down to a number of levels. -/
def shownTo (s : Store) (levels : Nat) (v : Value) : Text :=
  let circles := (circlesIn s (levels + 2) [] v).eraseDups
  (shownWithin ⟨s, levels, circles⟩ (levels + 3) 0 0 [] v).1

/-- A value as it is shown by itself. -/
def shown (s : Store) : Value → Text
  | .string t => t
  | v => shownTo s 2 v

end Recurrence.Script.Display
