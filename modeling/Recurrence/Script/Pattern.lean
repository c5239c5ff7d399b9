import Recurrence.Script.Letter
/-!
# Patterns — what texts are searched for

A pattern is read into a tree, and matched from a place of a text on by trying its alternatives in order.  Unless a flag
says otherwise, texts count in units of 16 bits.  Matching has fuel for every step; a search that runs out of it finds
nothing.
-/
namespace Recurrence.Script

inductive Pattern where
  | empty
  | any
  /-- A character in one of some ranges, or in none of them. -/
  | oneOf (negated : Bool) (ranges : List (Nat × Nat))
  | lineStart
  | lineEnd
  | wordEdge (negated : Bool)
  /-- A part whose match is remembered under a number. -/
  | group (index : Nat) (p : Pattern)
  | both (first second : Pattern)
  | either (first second : Pattern)
  /-- A part several times, at most `most` if that is known, and rather often or rather seldom; the groups in it are
  `count` from one on. -/
  | repeated (least : Nat) (most : Option Nat) (often : Bool) (start count : Nat) (p : Pattern)
  /-- What a group matched before. -/
  | again (index : Nat)
  /-- The same, of a group with a name. -/
  | againNamed (name : Text)
  /-- A part that has to follow or to stand before, or has not to, and takes no characters. -/
  | look (behind negated : Bool) (p : Pattern)

namespace Pattern

/-! ## Characters -/

/-- The code of a character, or of half of a pair. -/
def codeOf (c : Char) : Nat := if isHalf c then c.toNat - Word.firstHalf + 0xD800 else c.toNat

/-- A text in the characters in which it is searched: whole ones, or units. -/
def cells (whole : Bool) (t : Text) : Text := if whole then t else (unitsOf t).map Word.characterOf

def digitRanges : List (Nat × Nat) := [(48, 57)]

def wordRanges : List (Nat × Nat) := [(48, 57), (65, 90), (95, 95), (97, 122)]

def spaceRanges : List (Nat × Nat) := (0xFEFF, 0xFEFF) :: Text.blankRanges.filter fun r => r.1 != 0x85

/-- The ranges between those of a class. -/
def complement (ranges : List (Nat × Nat)) : List (Nat × Nat) :=
  let sorted := ranges.mergeSort fun a b => Nat.ble a.1 b.1
  let (gaps, next) := sorted.foldl (fun (acc : List (Nat × Nat) × Nat) r =>
    (if acc.2 < r.1 then (acc.2, r.1 - 1) :: acc.1 else acc.1, Nat.max acc.2 (r.2 + 1))) ([], 0)
  if next ≤ 0x10FFFF then (next, 0x10FFFF) :: gaps else gaps

/-- Characters of a stretch with a property. -/
def withProperty (test : Nat → Bool) (start stop : Nat) : List (Nat × Nat) :=
  ((List.range (stop + 1 - start)).map (start + ·)).filterMap fun n => if test n then some (n, n) else none

def letters : List (Nat × Nat) := (65, 90) :: (97, 122) :: Word.letterRanges

def capitals : List (Nat × Nat) := withProperty Letter.isCapital 0 0x587

def smalls : List (Nat × Nat) := withProperty Letter.isSmall 0 0x587

def punctuation : List (Nat × Nat) :=
  [(33, 35), (37, 42), (44, 47), (58, 59), (63, 64), (91, 93), (95, 95), (123, 123), (125, 125), (0xA1, 0xA1),
    (0xA7, 0xA7), (0xAB, 0xAB), (0xB6, 0xB7), (0xBB, 0xBB), (0xBF, 0xBF), (0x2010, 0x2027), (0x2030, 0x205E),
    (0x3001, 0x3003), (0x3008, 0x3011)]

def signs : List (Nat × Nat) :=
  [(36, 36), (43, 43), (60, 62), (94, 94), (96, 96), (124, 124), (126, 126), (0xA2, 0xA6), (0xA8, 0xA9), (0xAC, 0xAC),
    (0xAE, 0xB1), (0xB4, 0xB4), (0xB8, 0xB8), (0xD7, 0xD7), (0xF7, 0xF7), (0x20A0, 0x20C0), (0x2190, 0x23FF),
    (0x2500, 0x27BF), (0x1F300, 0x1FAFF)]

def pictures : List (Nat × Nat) :=
  [(0xA9, 0xA9), (0xAE, 0xAE), (0x203C, 0x203C), (0x2049, 0x2049), (0x2122, 0x2122), (0x2139, 0x2139),
    (0x2194, 0x21AA), (0x231A, 0x231B), (0x23E9, 0x23FA), (0x25AA, 0x25FE), (0x2600, 0x27BF), (0x2934, 0x2935),
    (0x2B05, 0x2B55), (0x1F000, 0x1F02F), (0x1F0A0, 0x1F0FF), (0x1F100, 0x1F64F), (0x1F680, 0x1F6FF),
    (0x1F900, 0x1FAFF)]

/-- Properties of characters by their names. -/
def properties : List (List String × List (Nat × Nat)) :=
  [(["L", "Letter", "Alphabetic", "Alpha"], letters), (["Lu", "Uppercase_Letter", "Uppercase"], capitals),
    (["Ll", "Lowercase_Letter", "Lowercase"], smalls),
    (["N", "Number"], [(48, 57), (0xB2, 0xB3), (0xB9, 0xB9), (0xBC, 0xBE), (0x660, 0x669), (0x2150, 0x2189),
      (0x2460, 0x249B), (0xFF10, 0xFF19)]),
    (["Nd", "Decimal_Number", "digit"], [(48, 57), (0x660, 0x669), (0x6F0, 0x6F9), (0x966, 0x96F), (0xFF10, 0xFF19)]),
    (["P", "Punctuation", "punct"], punctuation), (["S", "Symbol"], signs),
    (["Sc", "Currency_Symbol"], [(36, 36), (0xA2, 0xA5), (0x20A0, 0x20C0)]),
    (["Z", "Separator"], [(32, 32), (0xA0, 0xA0), (0x1680, 0x1680), (0x2000, 0x200A), (0x2028, 0x2029),
      (0x202F, 0x202F), (0x205F, 0x205F), (0x3000, 0x3000)]),
    (["Zs", "Space_Separator"], [(32, 32), (0xA0, 0xA0), (0x1680, 0x1680), (0x2000, 0x200A), (0x202F, 0x202F),
      (0x205F, 0x205F), (0x3000, 0x3000)]),
    (["White_Space", "space"], Text.blankRanges), (["M", "Mark", "Mn"], [(0x300, 0x36F), (0x483, 0x489)]),
    (["Cc", "Control"], [(0, 31), (127, 159)]), (["ASCII"], [(0, 127)]), (["Any"], [(0, 0x10FFFF)]),
    (["ASCII_Hex_Digit", "AHex", "Hex_Digit"], [(48, 57), (65, 70), (97, 102)]),
    (["Emoji"], [(35, 35), (42, 42), (48, 57)] ++ pictures),
    (["Emoji_Presentation", "Extended_Pictographic", "EPres", "ExtPict", "RGI_Emoji"], pictures),
    (["Script=Latin", "sc=Latin", "Script=Latn", "Script_Extensions=Latin", "scx=Latin"],
      [(65, 90), (97, 122), (0xAA, 0xAA), (0xBA, 0xBA), (0xC0, 0xD6), (0xD8, 0xF6), (0xF8, 0x24F), (0x1E00, 0x1EFF)]),
    (["Script=Greek", "sc=Greek", "Script=Grek", "Script_Extensions=Greek", "scx=Greek"],
      [(0x370, 0x373), (0x375, 0x377), (0x37A, 0x37D), (0x37F, 0x37F), (0x384, 0x384), (0x386, 0x386),
        (0x388, 0x3E1), (0x3F0, 0x3FF), (0x1F00, 0x1FFE)]),
    (["Script=Cyrillic", "sc=Cyrillic", "Script=Cyrl", "Script_Extensions=Cyrillic", "scx=Cyrillic"],
      [(0x400, 0x484), (0x487, 0x52F), (0x1C80, 0x1C88)]),
    (["Script=Han", "sc=Han", "Script=Hani", "Script_Extensions=Han", "scx=Han"],
      [(0x2E80, 0x2FD5), (0x3005, 0x3007), (0x3021, 0x3029), (0x3400, 0x4DBF), (0x4E00, 0x9FFF), (0xF900, 0xFAD9),
        (0x20000, 0x323AF)]),
    (["Script=Hiragana", "sc=Hiragana", "Script_Extensions=Hiragana", "scx=Hiragana"], [(0x3041, 0x309F)]),
    (["Script=Katakana", "sc=Katakana", "Script_Extensions=Katakana", "scx=Katakana"], [(0x30A1, 0x30FF)])]

/-- The characters with a property, also if its kind is named. -/
def property? (name : Text) : Option (List (Nat × Nat)) :=
  let name := String.ofList (if "General_Category=".toList.isPrefixOf name then name.drop 17
    else if "gc=".toList.isPrefixOf name then name.drop 3 else name)
  (properties.find? fun p => p.1.contains name).map (·.2)

/-! ## Reading -/

/-- How far reading has come: what is left, the number of groups so far, and the names among them; whether characters
are whole, the number of groups in the end, and whether some have names. -/
structure Progress where
  rest : Text
  groups : Nat := 0
  names : List (Text × Nat) := []
  whole : Bool
  total : Nat
  named : Bool

/-- A reader gives a part, or says what is wrong. -/
abbrev Reader := StateT Progress (Except Text)

def peek : Reader (Option Char) := fun p => .ok (p.rest.head?, p)

def take : Reader (Option Char) := fun p => .ok (p.rest.head?, { p with rest := p.rest.tail })

/-- Takes a text, if it is ahead. -/
def skip (s : String) : Reader Bool := fun p =>
  if s.toList.isPrefixOf p.rest then .ok (true, { p with rest := p.rest.drop s.toList.length }) else .ok (false, p)

def refuse {α : Type} (message : String) : Reader α := fun _ => .error message.toList

def single (c : Char) : List (Nat × Nat) := [(codeOf c, codeOf c)]

/-- The characters that a letter after a backslash stands for. -/
def classOf? (c : Char) : Option (List (Nat × Nat)) :=
  if c = 'd' then some digitRanges
  else if c = 'w' then some wordRanges
  else if c = 's' then some spaceRanges
  else if c = 'D' then some (complement digitRanges)
  else if c = 'W' then some (complement wordRanges)
  else if c = 'S' then some (complement spaceRanges)
  else none

/-- Characters that stand for something else without a backslash. -/
def meant : Text := "^$\\.*+?()[]\x7b\x7d|/".toList

/-- Reads the name of a property in braces. -/
def readProperty (negated : Bool) : Reader (List (Nat × Nat)) := fun p =>
  match p.rest with
  | '\x7b' :: cs =>
    let name := cs.takeWhile (· != '\x7d')
    match property? name, cs.drop name.length with
    | some ranges, _ :: rest => .ok (if negated then complement ranges else ranges, { p with rest })
    | _, _ => .error "Invalid property name".toList
  | _ => .error "Invalid property name".toList

/-- Reads what follows a backslash, as a class of characters. -/
def escaped (inClass : Bool) : Reader (List (Nat × Nat)) := fun p =>
  match p.rest with
  | [] => .error "\\ at end of pattern".toList
  | c :: cs => match classOf? c with
    | some ranges => .ok (ranges, { p with rest := cs })
    | none =>
      let literal : Except Text (List (Nat × Nat) × Progress) :=
        if p.whole && !meant.contains c && !(inClass && c == '-') then .error "Invalid escape".toList
        else .ok (single c, { p with rest := cs })
      let letter? : Option Char := (cs.head?).filter Char.isAlpha
      if c = 'p' ∧ p.whole then readProperty false { p with rest := cs }
      else if c = 'P' ∧ p.whole then readProperty true { p with rest := cs }
      else if c = 'c' then match letter? with
        | some d => .ok ([(d.toNat % 32, d.toNat % 32)], { p with rest := cs.tail })
        | none => if p.whole then .error "Invalid unicode escape".toList else .ok (single '\\', p)
      else if c = 'b' ∧ !inClass then literal
      else if c = '0' ∧ !(cs.head?.any Char.isDigit) then .ok ([(0, 0)], { p with rest := cs })
      else if c.isDigit then
        if p.whole then .error (if inClass then "Invalid class escape" else "Invalid decimal escape").toList
        else if Word.isDigitOf 8 c then
          let (t, rest) := Word.readOctal p.rest
          .ok (single (t.headD c), { p with rest })
        else literal
      else if "ntrbfvxu".toList.contains c && !(c == 'u' && cs.head? == some '\x7b' && !p.whole) then
        match Word.readEscape p.rest with
        | .ok ([d], rest) =>
          if !p.whole && Nat.ble 0x10000 d.toNat && !isHalf d then
            match Word.hexCode? 4 cs with
            | some (high, rest) => .ok ([(high, high)], { p with rest })
            | none => literal
          else .ok (single d, { p with rest })
        | _ => if p.whole then .error (if c = 'u' then "Invalid Unicode escape" else "Invalid escape").toList
          else .ok (single c, { p with rest := cs })
      else literal

def unendedClass : String := "Unterminated character class"

/-- Reads a member of a class. -/
def member : Reader (List (Nat × Nat)) := do
  if ← skip "\\" then escaped true else
    match ← take with
    | some c => return single c
    | none => refuse unendedClass

/-- Reads the members of a class in brackets. -/
def members : Nat → Reader (List (Nat × Nat))
  | 0 => refuse unendedClass
  | fuel + 1 => do
    if ← skip "]" then return []
    let first ← member
    let isRange := match (← get).rest with
      | '-' :: c :: _ => c != ']'
      | _ => false
    if isRange then
      let _ ← take
      let last ← member
      match first, last with
      | [(low, _)], [(_, high)] =>
        if high < low then refuse "Range out of order in character class"
        return (low, high) :: (← members fuel)
      | _, _ =>
        if (← get).whole then refuse "Invalid character class"
        return first ++ [(45, 45)] ++ last ++ (← members fuel)
    return first ++ (← members fuel)

/-- Reads a number. -/
def number? : Reader (Option Nat) := fun p =>
  let ds := p.rest.takeWhile Char.isDigit
  if ds = [] then .ok (none, p) else .ok (some (Text.value ds), { p with rest := p.rest.drop ds.length })

/-- Reads how often a part comes, if that is said. -/
def times? : Reader (Option (Nat × Option Nat)) := do
  if ← skip "*" then return some (0, none)
  if ← skip "+" then return some (1, none)
  if ← skip "?" then return some (0, some 1)
  let start ← get
  if ← skip "\x7b" then
    match ← number? with
    | some least =>
      if ← skip "\x7d" then return some (least, some least)
      if ← skip "," then
        let most ← number?
        if ← skip "\x7d" then return some (least, most)
    | none => pure ()
    if start.whole then refuse "Incomplete quantifier"
    set start
    return none
  return none

/-- Reads on after a part that may be repeated; `start` groups came before it. -/
def withTimes (start : Nat) (p : Pattern) : Reader Pattern := do
  match ← times? with
  | none => return p
  | some (least, most) =>
    if most.any (· < least) then refuse "numbers out of order in \x7b\x7d quantifier"
    return .repeated least most (!(← skip "?")) (start + 1) ((← get).groups - start) p

/-- Reads the name of a group up to its closing bracket. -/
def groupName : Reader Text := do
  let name := (← get).rest.takeWhile Word.continuesName
  if !(name.head?.any Word.startsName) then refuse "Invalid capture group name"
  modify fun p => { p with rest := p.rest.drop name.length }
  if !(← skip ">") then refuse "Invalid capture group name"
  return name

/-- Reads a group after its opening parenthesis; `all` reads what is inside. -/
def readGroup (all : Reader Pattern) : Reader Pattern := do
  let start := (← get).groups
  let close (p : Pattern) : Reader Pattern := do
    if ← skip ")" then return p else refuse "Unterminated group"
  let ahead (p : Pattern) : Reader Pattern := do
    let p ← close p
    if (← get).whole then return p else withTimes start p
  if ← skip "?:" then withTimes start (← close (← all))
  else if ← skip "?=" then ahead (.look false false (← all))
  else if ← skip "?!" then ahead (.look false true (← all))
  else if ← skip "?<=" then close (.look true false (← all))
  else if ← skip "?<!" then close (.look true true (← all))
  else
    let p ← get
    let index := p.groups + 1
    set { p with groups := index }
    if ← skip "?<" then
      let name ← groupName
      if (← get).names.any fun n => n.1 == name then refuse "Duplicate capture group name"
      modify fun p => { p with names := p.names ++ [(name, index)] }
    else if (← peek) == some '?' then refuse "Invalid group"
    let inner ← close (← all)
    withTimes start (.group index inner)

def nothingBefore : String := "Nothing to repeat"

/-- Reads what follows a backslash outside of a class. -/
def readEscaped : Reader Pattern := do
  let p ← get
  if ← skip "b" then return .wordEdge false
  if ← skip "B" then return .wordEdge true
  match p.rest with
  | 'k' :: '<' :: _ =>
    if p.named || p.whole then
      let _ ← skip "k<"
      let name ← groupName
      return ← withTimes p.groups (.againNamed name)
  | _ => pure ()
  match p.rest with
  | c :: _ =>
    if c.isDigit && c != '0' then
      let ds := p.rest.takeWhile Char.isDigit
      if Text.value ds ≤ p.total || p.whole then
        if p.total < Text.value ds then refuse "Invalid escape"
        let _ ← number?
        return ← withTimes p.groups (.again (Text.value ds))
  | [] => pure ()
  withTimes p.groups (.oneOf false (← escaped false))

/-- Reads a part. -/
def readPart (all : Reader Pattern) : Reader Pattern := do
  let start := (← get).groups
  match ← take with
  | none => refuse "Invalid pattern"
  | some '.' => withTimes start .any
  | some '^' => return .lineStart
  | some '$' => return .lineEnd
  | some '(' => readGroup all
  | some '[' =>
    let negated ← skip "^"
    withTimes start (.oneOf negated (← members ((← get).rest.length + 1)))
  | some '\\' => readEscaped
  | some c =>
    if "*+?".toList.contains c then refuse nothingBefore
    let place ← get
    if place.whole && "]\x7b\x7d".toList.contains c then
      refuse (if c = '\x7b' then nothingBefore else "Lone quantifier brackets")
    set { place with rest := c :: place.rest }
    if (← times?).isSome then refuse nothingBefore
    set place
    withTimes start (.oneOf false (single c))

/-- Reads parts up to the end of an alternative. -/
def readRow (all : Reader Pattern) : Nat → Reader Pattern
  | 0 => refuse "Invalid pattern"
  | fuel + 1 => do
    match ← peek with
    | none => return .empty
    | some '|' => return .empty
    | some ')' => return .empty
    | some _ =>
      let p ← readPart all
      return .both p (← readRow all fuel)

/-- Reads alternatives. -/
def readAll : Nat → Reader Pattern
  | 0 => refuse "Invalid pattern"
  | fuel + 1 => do
    let first ← readRow (readAll fuel) ((← get).rest.length + 1)
    if ← skip "|" then return .either first (← readAll fuel)
    return first

/-- A pattern, the number of its groups, and the names of some. -/
structure Compiled where
  pattern : Pattern
  groups : Nat
  names : List (Text × Nat)

/-- The number of groups that a text opens, and whether some have names. -/
def countGroups : (inClass : Bool) → Text → Nat × Bool
  | _, [] => (0, false)
  | b, '\\' :: _ :: cs => countGroups b cs
  | true, ']' :: cs => countGroups false cs
  | true, _ :: cs => countGroups true cs
  | false, '[' :: cs => countGroups true cs
  | false, '(' :: '?' :: '<' :: c :: cs =>
    let (n, named) := countGroups false (c :: cs)
    if c = '=' ∨ c = '!' then (n, named) else (n + 1, true)
  | false, '(' :: '?' :: cs => countGroups false cs
  | false, '(' :: cs =>
    let (n, named) := countGroups false cs
    (n + 1, named)
  | false, _ :: cs => countGroups false cs

/-- A pattern with the groups that names stand for. -/
def resolved (names : List (Text × Nat)) : Pattern → Option Pattern
  | .group i p => (resolved names p).map (.group i)
  | .both p q => do some (.both (← resolved names p) (← resolved names q))
  | .againNamed name => (names.lookup name).map .again
  | .either p q => do some (.either (← resolved names p) (← resolved names q))
  | .repeated least most often start count p => (resolved names p).map (.repeated least most often start count)
  | .look behind negated p => (resolved names p).map (.look behind negated)
  | p => some p

/-- Whether flags ask for whole characters. -/
def areWhole (flags : Text) : Bool := flags.contains 'u' || flags.contains 'v'

/-- The pattern that a text writes, or what is wrong with it. -/
def ofText (source flags : Text) : Except Text Compiled :=
  let whole := areWhole flags
  let (total, named) := countGroups false source
  (readAll (source.length + 1) { rest := cells whole source, whole, total, named }).bind fun (pattern, p) =>
    if p.rest ≠ [] then .error "Unmatched ')'".toList
    else match resolved p.names pattern with
      | some pattern => .ok ⟨pattern, p.groups, p.names⟩
      | none => .error "Invalid named capture referenced".toList

/-! ## Matching -/

/-- What a group matched, with the place where that starts. -/
structure Match where
  group : Nat
  start : Nat
  text : Text

/-- A place of a text: the characters before it, from the last to the first, those after it, and their number before;
and what groups have matched. -/
structure Place where
  before : Text
  after : Text
  index : Nat
  matched : List Match

/-- How characters are compared. -/
structure Manner where
  anyCase : Bool
  manyLines : Bool
  dotAll : Bool

def inRanges (ranges : List (Nat × Nat)) (n : Nat) : Bool := ranges.any fun r => Nat.ble r.1 n && Nat.ble n r.2

def isMember (m : Manner) (ranges : List (Nat × Nat)) (c : Char) : Bool :=
  let n := codeOf c
  inRanges ranges n ||
    (m.anyCase && (inRanges ranges (Letter.small n) || inRanges ranges (Letter.capital n) ||
      inRanges ranges (Letter.small (Letter.capital n))))

/-- Whether two characters are the same, as far as that matters. -/
def alike (m : Manner) (c d : Char) : Bool :=
  c == d || (m.anyCase && Letter.capital (codeOf c) == Letter.capital (codeOf d))

/-- The character that comes next, forwards or back, and the place after it. -/
def next? (back : Bool) (p : Place) : Option (Char × Place) :=
  if back then match p.before with
    | c :: cs => some (c, ⟨cs, c :: p.after, p.index - 1, p.matched⟩)
    | [] => none
  else match p.after with
    | c :: cs => some (c, ⟨c :: p.before, cs, p.index + 1, p.matched⟩)
    | [] => none

def isWordCharacter (c : Char) : Bool := inRanges wordRanges (codeOf c)

def atWordEdge (p : Place) : Bool := p.before.head?.any isWordCharacter != p.after.head?.any isWordCharacter

/-- The place after characters that have to come next. -/
def passed? (m : Manner) (back : Bool) : Text → Place → Option Place
  | [], p => some p
  | c :: cs, p => match next? back p with
    | some (d, q) => if alike m c d then passed? m back cs q else none
    | none => none

/-- What a group has matched. -/
def matchOf? (p : Place) (i : Nat) : Option Match := p.matched.find? fun f => f.group == i

/-- A place without what some groups have matched. -/
def forgetting (start count : Nat) (p : Place) : Place :=
  if count = 0 then p
  else { p with matched := p.matched.filter fun f => Nat.blt f.group start || Nat.ble (start + count) f.group }

/-- Matches a pattern at a place, and then whatever `further` wants. -/
def matches? (m : Manner) : (fuel : Nat) → (back : Bool) → Pattern → Place → (further : Place → Option Place) →
    Option Place
  | 0, _, _, _, _ => none
  | fuel + 1, back, p, place, further =>
    match p with
    | .empty => further place
    | .any => match next? back place with
      | some (c, q) => if m.dotAll || !Word.endsLine c then further q else none
      | none => none
    | .oneOf negated ranges => match next? back place with
      | some (c, q) => if isMember m ranges c != negated then further q else none
      | none => none
    | .lineStart =>
      if place.before = [] ∨ (m.manyLines ∧ place.before.head?.any Word.endsLine) then further place else none
    | .lineEnd =>
      if place.after = [] ∨ (m.manyLines ∧ place.after.head?.any Word.endsLine) then further place else none
    | .wordEdge negated => if atWordEdge place != negated then further place else none
    | .group index p =>
      matches? m fuel back p place fun q =>
        let text := if back then q.after.take (place.index - q.index)
          else (q.before.take (q.index - place.index)).reverse
        let found : Match := ⟨index, Nat.min place.index q.index, text⟩
        further { q with matched := found :: q.matched.filter (·.group != index) }
    | .both p q =>
      let (p, q) := if back then (q, p) else (p, q)
      matches? m fuel back p place fun place => matches? m fuel back q place further
    | .either p q => (matches? m fuel back p place further).or (matches? m fuel back q place further)
    | .repeated least most often start count p =>
      let more (_ : Unit) : Option Place :=
        if most = some 0 then none
        else matches? m fuel back p (forgetting start count place) fun q =>
          if q.index = place.index ∧ least = 0 then none
          else matches? m fuel back (.repeated (least - 1) (most.map (· - 1)) often start count p) q further
      if least ≠ 0 then more ()
      else if often then (more ()).or (further place)
      else (further place).or (more ())
    | .againNamed _ => further place
    | .again index =>
      match matchOf? place index with
      | none => further place
      | some f => match passed? m back (if back then f.text.reverse else f.text) place with
        | some q => further q
        | none => none
    | .look behind negated p =>
      match matches? m fuel behind p place some with
      | some q => if negated then none else further { place with matched := q.matched }
      | none => if negated then further place else none

/-- What a search found: where it starts, its text, what groups matched, and the place after it. -/
structure Found where
  start : Nat
  text : Text
  groups : List (Option Match)

/-- The place after what was found. -/
def Found.stop (f : Found) : Nat := f.start + f.text.length

/-- The greatest number of steps that follow on each other. -/
def steps : Nat := 200000

/-- Searches from a place on, at it alone if `sticky`. -/
def search (c : Compiled) (m : Manner) (sticky : Bool) : (fuel : Nat) → Place → Option Found
  | 0, _ => none
  | fuel + 1, place =>
    match matches? m steps false c.pattern { place with matched := [] } some with
    | some q =>
      let found := (q.before.take (q.index - place.index)).reverse
      some ⟨place.index, found, (List.range c.groups).map fun i => matchOf? q (i + 1)⟩
    | none => match next? false place with
      | none => none
      | some (_, q) => if sticky then none else search c m sticky fuel q

def mannerOf (flags : Text) : Manner := ⟨flags.contains 'i', flags.contains 'm', flags.contains 's'⟩

/-- Searches a text, in its cells, from one of them on. -/
def find? (c : Compiled) (flags t : Text) (sticky : Bool) (start : Nat) : Option Found :=
  search c (mannerOf flags) sticky (t.length + 1) ⟨(t.take start).reverse, t.drop start, start, []⟩

end Pattern
end Recurrence.Script
