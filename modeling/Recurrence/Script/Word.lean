import Recurrence.Text.Blank
import Recurrence.Text.Decimal
/-!
# Words of a script

The code in a block is a script.  Its words are numbers, strings, templates, patterns, names and marks; a word remembers
whether it begins a line, since the end of a line can end a statement, and the text around it, since a function is
written as it stands in the script.  What is no word ends the list of words, with a complaint.
-/
namespace Recurrence.Script

inductive Word.Kind where
  | number (x : Float)
  /-- A whole number of unlimited size, which is no number to ordinary arithmetic. -/
  | bigNumber (n : Nat)
  | string (t : Text)
  /-- A piece of a template, as it reads, if no escape in it is without a meaning, and as it is written; a substitution
  follows, unless it is the last one. -/
  | piece (read : Except Text Text) (written : Text) (last : Bool)
  /-- A pattern to search texts for. -/
  | pattern (source flags : Text)
  | name (n : Text)
  | mark (m : Text)
  | invalid (complaint : Text)

structure Word where
  kind : Word.Kind
  beginsLine : Bool
  /-- The script from the first character of the word on. -/
  here : Text
  /-- The script after the word. -/
  after : Text

namespace Word

/-- The text from the start of one word to the end of another. -/
def upTo (first last : Word) : Text := first.here.take (first.here.length - last.after.length)

/-- All marks; of two that share a beginning, the longer stands first. -/
def marks : List Text :=
  [">>>=", "===", "!==", ">>>", "**=", "<<=", ">>=", "&&=", "||=", "??=", "...", "**", "=>", "==", "!=", "<=", ">=",
    "&&", "||", "??", "?.", "<<", ">>", "+=", "-=", "*=", "/=", "%=", "&=", "|=", "^=", "++", "--", "(", ")", "[", "]",
    ";", ",", "<", ">", "+", "-", "*", "/", "%", "&", "|", "^", "!", "~", "?", ":", "=", "."].map String.toList ++
    [['\x7b'], ['\x7d']]

/-- What is said of a text that is no word. -/
def invalid : Text := "Invalid or unexpected token".toList

/-- The space between words. -/
def isSpace (c : Char) : Bool := (Text.isBlank c && c.toNat != 0x85) || c.toNat == 0xFEFF

def endsLine (c : Char) : Bool := c == '\n' || c == '\r' || c.toNat == 0x2028 || c.toNat == 0x2029

/-- Stretches of letters outside ASCII. -/
def letterRanges : List (Nat × Nat) :=
  [(0xAA, 0xAA), (0xB5, 0xB5), (0xBA, 0xBA), (0xC0, 0xD6), (0xD8, 0xF6), (0xF8, 0x2C1), (0x370, 0x374),
    (0x376, 0x37D), (0x37F, 0x3FF), (0x400, 0x481), (0x48A, 0x559), (0x560, 0x588), (0x5D0, 0x5EA), (0x620, 0x64A),
    (0x671, 0x6D3), (0x904, 0x939), (0xE01, 0xE30), (0x10A0, 0x10FF), (0x1100, 0x1248), (0x1E00, 0x1FBC),
    (0x2C00, 0x2DFF), (0x3041, 0x3096), (0x30A1, 0x30FA), (0x3400, 0x4DBF), (0x4E00, 0x9FFF), (0xAC00, 0xD7A3),
    (0xF900, 0xFAD9), (0x20000, 0x323AF)]

def startsName (c : Char) : Bool :=
  c.isAlpha || c == '_' || c == '$' || letterRanges.any fun r => decide (r.1 ≤ c.toNat) && decide (c.toNat ≤ r.2)

def continuesName (c : Char) : Bool := startsName c || c.isDigit

/-! ## Numbers -/

/-- The value of a digit, letters standing for ten and more. -/
def digitValue? (c : Char) : Option Nat :=
  if c.isDigit then some (c.toNat - '0'.toNat)
  else if c.isAlpha then some (c.toLower.toNat - 'a'.toNat + 10)
  else none

def isDigitOf (base : Nat) (c : Char) : Bool := (digitValue? c).any (Nat.blt · base)

/-- The number that digits write in a base. -/
def valueIn (base : Nat) (ds : Text) : Nat := ds.foldl (fun n c => base * n + (digitValue? c).getD 0) 0

/-- The base that the start of a number names, with what follows it. -/
def baseOf? : Text → Option (Nat × Text)
  | '0' :: c :: cs =>
    if c.toLower = 'x' then some (16, cs)
    else if c.toLower = 'o' then some (8, cs)
    else if c.toLower = 'b' then some (2, cs)
    else none
  | _ => none

/-- Whether two neighbours in a text are both underscores. -/
def hasDoubleUnderscore : Text → Bool
  | '_' :: '_' :: _ => true
  | _ :: cs => hasDoubleUnderscore cs
  | [] => false

/-- Reads digits; single underscores may stand between them. -/
def readDigits (base : Nat) (t : Text) : Except Text (Text × Text) :=
  let run := t.takeWhile fun c => isDigitOf base c || c == '_'
  if hasDoubleUnderscore run then .error "Only one underscore is allowed as numeric separator".toList
  else if run.getLast? = some '_' then
    .error "Numeric separators are not allowed at the end of numeric literals".toList
  else .ok (run.filter (· ≠ '_'), t.drop run.length)

/-- Reads a number of a base after its first characters. -/
def readBased (base : Nat) (t : Text) : Except Text (Kind × Text) :=
  (readDigits base t).bind fun (ds, rest) =>
    match ds, rest with
    | [], _ => .error invalid
    | _, 'n' :: rest => .ok (.bigNumber (valueIn base ds), rest)
    | _, _ => .ok (.number (Float.ofNat (valueIn base ds)), rest)

/-- Reads a decimal number; one that begins with a needless zero and has no digit above seven is octal. -/
def readDecimal (t : Text) : Except Text (Kind × Text) :=
  (readDigits 10 t).bind fun (whole, rest) =>
    let padded := whole.head? = some '0' ∧ 1 < whole.length
    if padded ∧ (t.take whole.length).contains '_' then
      .error "Numeric separator can not be used after leading 0.".toList
    else if padded ∧ whole.all (isDigitOf 8) then .ok (.number (Float.ofNat (valueIn 8 whole)), rest)
    else match rest with
      | 'n' :: rest => if padded ∨ whole = [] then .error invalid else .ok (.bigNumber (Text.value whole), rest)
      | '.' :: cs =>
        (readDigits 10 cs).bind fun (fraction, rest) =>
          let (exponent, rest) := Text.splitExponent rest
          .ok (.number (Text.scaledByTen (whole ++ fraction) (exponent - fraction.length)), rest)
      | _ =>
        let (exponent, rest) := Text.splitExponent rest
        .ok (.number (Text.scaledByTen whole exponent), rest)

/-- Reads the number at the start of a text; neither a name nor a digit may follow it at once. -/
def readNumber (t : Text) : Except Text (Kind × Text) :=
  let read := match baseOf? t with
    | some (base, cs) => readBased base cs
    | none => readDecimal t
  read.bind fun (kind, rest) => if rest.head?.any continuesName then .error invalid else .ok (kind, rest)

/-! ## Strings -/

/-- Half a surrogate pair has no character of its own, and is kept as one of the last private characters. -/
def firstHalf : Nat := 0x10F800

/-- The character of a code. -/
def characterOf (code : Nat) : Char :=
  if 0xD800 ≤ code ∧ code < 0xE000 then Char.ofNat (code - 0xD800 + firstHalf)
  else if code.isValidChar then Char.ofNat code
  else '\uFFFD'

/-- The two digits or more of an escape, as a number. -/
def hexCode? (width : Nat) (t : Text) : Option (Nat × Text) :=
  let ds := t.take width
  if ds.length = width ∧ ds.all (isDigitOf 16) then some (valueIn 16 ds, t.drop width) else none

def badUnicode : Text := "Invalid Unicode escape sequence".toList

/-- Reads the code of a character after a backslash and `u`; two halves of a surrogate pair are one character. -/
def readUnicode (t : Text) : Except Text (Text × Text) :=
  match t with
  | '\x7b' :: cs =>
    let ds := cs.takeWhile (isDigitOf 16)
    match cs.drop ds.length with
    | '\x7d' :: rest =>
      if ds = [] then .error badUnicode
      else if 0x10FFFF < valueIn 16 ds then .error "Undefined Unicode code-point".toList
      else .ok ([characterOf (valueIn 16 ds)], rest)
    | _ => .error badUnicode
  | _ => match hexCode? 4 t with
    | none => .error badUnicode
    | some (high, rest) => match rest with
      | '\\' :: 'u' :: cs => match hexCode? 4 cs with
        | some (low, after) =>
          if 0xD800 ≤ high ∧ high < 0xDC00 ∧ 0xDC00 ≤ low ∧ low < 0xE000 then
            .ok ([characterOf (0x10000 + (high - 0xD800) * 1024 + (low - 0xDC00))], after)
          else .ok ([characterOf high], rest)
        | none => .ok ([characterOf high], rest)
      | _ => .ok ([characterOf high], rest)

/-- Reads the code of a character in one to three octal digits. -/
def readOctal (t : Text) : Text × Text :=
  let ds := (t.take (if t.head?.any (Nat.ble 0x34 ·.toNat) then 2 else 3)).takeWhile (isDigitOf 8)
  ([characterOf (valueIn 8 ds)], t.drop ds.length)

/-- Reads what follows a backslash. -/
def readEscape : Text → Except Text (Text × Text)
  | [] => .error invalid
  | 'n' :: cs => .ok (['\n'], cs)
  | 't' :: cs => .ok (['\t'], cs)
  | 'r' :: cs => .ok (['\r'], cs)
  | 'b' :: cs => .ok (['\x08'], cs)
  | 'f' :: cs => .ok (['\x0c'], cs)
  | 'v' :: cs => .ok (['\x0b'], cs)
  | 'x' :: cs => match hexCode? 2 cs with
    | some (n, rest) => .ok ([characterOf n], rest)
    | none => .error "Invalid hexadecimal escape sequence".toList
  | 'u' :: cs => readUnicode cs
  | '\r' :: '\n' :: cs => .ok ([], cs)
  | c :: cs => .ok (if isDigitOf 8 c then readOctal (c :: cs) else (if endsLine c then [] else [c], cs))

/-- Reads a string up to its closing quote.  Every step uses up a character. -/
def readString : (fuel : Nat) → (quote : Char) → Text → Except Text (Text × Text)
  | 0, _, _ => .error invalid
  | _ + 1, _, [] => .error invalid
  | fuel + 1, quote, '\\' :: cs =>
    (readEscape cs).bind fun (t, rest) => (readString fuel quote rest).map fun (u, r) => (t ++ u, r)
  | fuel + 1, quote, c :: cs =>
    if c = quote then .ok ([], cs)
    else if c = '\n' ∨ c = '\r' then .error invalid
    else (readString fuel quote cs).map fun (u, r) => (c :: u, r)

/-- A stretch of a template: as it reads, if it does, as it is written, whether the template ends with it, and what
follows. -/
structure Stretch where
  read : Except Text Text
  written : Text
  last : Bool
  rest : Text

/-- A stretch with a part before it. -/
def Stretch.after (read : Except Text Text) (written : Text) (s : Stretch) : Stretch :=
  { s with read := read.bind fun t => s.read.map (t ++ ·), written := written ++ s.written }

/-- Reads a template up to a substitution or to its end.  Every step uses up a character. -/
def readStretch : (fuel : Nat) → Text → Option Stretch
  | 0, _ => none
  | _ + 1, [] => none
  | _ + 1, '\x60' :: cs => some { read := .ok [], written := [], last := true, rest := cs }
  | _ + 1, '$' :: '\x7b' :: cs => some { read := .ok [], written := [], last := false, rest := cs }
  | fuel + 1, '\\' :: cs =>
    let skipped (n : Nat) (read : Except Text Text) :=
      (readStretch fuel (cs.drop n)).map (Stretch.after read ('\\' :: cs.take n))
    if cs.head?.any Char.isDigit ∧ ¬(cs.head? = some '0' ∧ !(cs.tail.head?.any Char.isDigit)) then
      skipped 1 (.error "Octal escape sequences are not allowed in template strings".toList)
    else match readEscape cs with
      | .ok (t, rest) => skipped (cs.length - rest.length) (.ok t)
      | .error complaint => skipped 1 (.error complaint)
  | fuel + 1, '\r' :: '\n' :: cs => (readStretch fuel cs).map (Stretch.after (.ok ['\n']) ['\n'])
  | fuel + 1, c :: cs =>
    let t : Text := if c = '\r' then ['\n'] else [c]
    (readStretch fuel cs).map (Stretch.after (.ok t) t)

/-- Reads on in a template. -/
def readTemplate (t : Text) : Except Text (Kind × Text) :=
  match readStretch (t.length + 1) t with
  | some s => .ok (.piece s.read s.written s.last, s.rest)
  | none => .error "Unterminated template literal".toList

/-- Whether letters say how a pattern is used: each at most once. -/
def areFlags (flags : Text) : Bool :=
  flags.all ("dgimsuvy".toList.contains ·) && flags.eraseDups.length == flags.length

/-- Reads a pattern up to the slash that ends it: not one after a backslash or in brackets. -/
def readPattern : (bracketed : Bool) → Text → Option (Text × Text)
  | _, [] => none
  | b, '\\' :: c :: cs => if endsLine c then none else (readPattern b cs).map fun (t, r) => ('\\' :: c :: t, r)
  | b, c :: cs =>
    if endsLine c then none
    else if c = '/' ∧ !b then some ([], cs)
    else (readPattern (c == '[' || (b && c != ']')) cs).map fun (t, r) => (c :: t, r)

/-! ## Words -/

/-- Names after which an operand stands. -/
def operandNames : List Text :=
  ["return", "throw", "typeof", "void", "delete", "new", "in", "of", "instanceof", "case", "do", "else",
    "await", "yield"].map String.toList

/-- Whether an operand ends with a word, so that a slash after it divides. -/
def endsOperand : Kind → Bool
  | .mark m => [")", "]", "\x7d"].any (·.toList == m)
  | .name n => !operandNames.contains n
  | .piece _ _ last => last
  | _ => true

/-- Reads the rest of a name; its characters may be written by their codes. -/
def readName : (fuel : Nat) → Text → Text × Text
  | 0, t => ([], t)
  | fuel + 1, t =>
    let run := t.takeWhile continuesName
    match t.drop run.length with
    | '\\' :: 'u' :: cs => match readUnicode cs with
      | .ok ([c], rest) =>
        if continuesName c then
          let (more, rest) := readName fuel rest
          (run ++ c :: more, rest)
        else (run, '\\' :: 'u' :: cs)
      | _ => (run, '\\' :: 'u' :: cs)
    | rest => (run, rest)

/-- Reads a name whose first character is written by its code. -/
def readCodedName (cs : Text) : Except Text (Kind × Text) :=
  (readUnicode cs).bind fun (t, rest) =>
    if t.all startsName then
      let (more, rest) := readName (rest.length + 1) rest
      .ok (.name (t ++ more), rest)
    else .error invalid

/-- Reads the word at the start of a text. -/
def readWord (afterOperand : Bool) (c : Char) (cs : Text) : Except Text (Kind × Text) :=
  if c.isDigit || (c == '.' && cs.head?.any Char.isDigit) then readNumber (c :: cs)
  else if startsName c || (c == '#' && cs.head?.any startsName) then
    let (more, rest) := readName (cs.length + 1) cs
    .ok (.name (c :: more), rest)
  else if c == '\\' && cs.head? == some 'u' then readCodedName cs.tail
  else if c = '\'' ∨ c = '"' then (readString (cs.length + 1) c cs).map fun (t, rest) => (.string t, rest)
  else if c = '\x60' then readTemplate cs
  else if c = '/' ∧ !afterOperand then
    match readPattern false cs with
    | none => .error "Invalid regular expression: missing /".toList
    | some (source, rest) =>
      let flags := rest.takeWhile continuesName
      if areFlags flags then
        .ok (.pattern source flags, rest.drop flags.length)
      else .error "Invalid regular expression flags".toList
  else match marks.find? fun m => m.isPrefixOf (c :: cs) with
    | some m =>
      if m = "?.".toList ∧ (cs.drop 1).head?.any Char.isDigit then .ok (.mark ['?'], cs)
      else .ok (.mark m, (c :: cs).drop m.length)
    | none => .error invalid

/-! ## Comments -/

/-- The text after the end of a comment over lines, with whether a line ends before. -/
def afterComment? : (ended : Bool) → Text → Option (Bool × Text)
  | _, [] => none
  | ended, '*' :: '/' :: cs => some (ended, cs)
  | ended, c :: cs => afterComment? (ended || endsLine c) cs

/-- Whether a comment up to the end of the line begins a text; an arrow to the right does so at the start of a line. -/
def beginsComment (beginsLine : Bool) (t : Text) : Bool :=
  "//".toList.isPrefixOf t || "<!--".toList.isPrefixOf t || (beginsLine && "-->".toList.isPrefixOf t)

/-! ## Escapes that strict code has to do without -/

/-- What is wrong with an escape in a string that is written in strict code, if something is. -/
def strictObjection? : Text → Option String
  | '\\' :: c :: cs =>
    if c = '8' ∨ c = '9' then some "\\8 and \\9 are not allowed in strict mode."
    else if c.isDigit && (c != '0' || cs.head?.any Char.isDigit) then
      some "Octal escape sequences are not allowed in strict mode."
    else strictObjection? cs
  | _ :: cs => strictObjection? cs
  | [] => none

/-! ## Lists of words -/

/-- Whether the innermost brace that is open begins a substitution, after a word; a brace that closes a substitution
goes on with the template. -/
def openBraces (braces : List Bool) : Kind → List Bool
  | .mark ['\x7b'] => false :: braces
  | .mark ['\x7d'] => braces.tail
  | .piece _ _ false => true :: braces
  | _ => braces

/-- Reads words, as long as there is fuel; every word uses up a character.  `braces` says of each open brace whether it
begins a substitution. -/
def readWords : (fuel : Nat) → (braces : List Bool) → (afterOperand beginsLine : Bool) → Text → List Word
  | 0, _, _, _, _ => []
  | _ + 1, _, _, _, [] => []
  | fuel + 1, braces, afterOperand, beginsLine, c :: cs =>
    if isSpace c then readWords fuel braces afterOperand (beginsLine || endsLine c) cs
    else if beginsComment beginsLine (c :: cs) then
      readWords fuel braces afterOperand beginsLine (cs.dropWhile (!endsLine ·))
    else if "/*".toList.isPrefixOf (c :: cs) then
      match afterComment? beginsLine cs.tail with
      | some (beginsLine, rest) => readWords fuel braces afterOperand beginsLine rest
      | none => [⟨.invalid invalid, beginsLine, c :: cs, cs⟩]
    else
      let resumes := c = '\x7d' ∧ braces.head? = some true
      let read := if resumes then readTemplate cs else readWord afterOperand c cs
      match read with
      | .error complaint => [⟨.invalid complaint, beginsLine, c :: cs, cs⟩]
      | .ok (kind, rest) =>
        ⟨kind, beginsLine, c :: cs, rest⟩ ::
          readWords fuel (openBraces (if resumes then braces.tail else braces) kind) (endsOperand kind) false rest

/-- The words of a script. -/
def ofText (t : Text) : List Word := readWords (t.length + 1) [] false true t

end Word
end Recurrence.Script
