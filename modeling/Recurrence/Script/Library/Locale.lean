import Recurrence.Script.Library.Number
import Recurrence.Script.Locale
/-!
# The library: locales

Dates, numbers and texts as they are written and ordered in a part of the world.
-/
namespace Recurrence.Script.Library

open Run

/-! ## What is asked for -/

def badTag {α : Type} : Run α := rangeFail "Incorrect locale information provided"

/-- The tags of the locales that a value names. -/
def tagsOf (v : Value) : Run (List Text) := do
  let checked (t : Text) : Run Text := do
    if Locale.isTag t then return Locale.usual t else badTag
  match v with
  | .undefined => return []
  | .null => typeFail "Cannot convert undefined or null to object"
  | .string t => return [← checked t]
  | .object _ =>
    let n ← lengthOf v
    (List.range n).mapM fun i => do
      match ← field v (.ofNat i) with
      | .string t => checked t
      | w => if w.isObject then checked (← textOf w) else typeFail "Incorrect locale information provided"
  | _ => return []

def usualTag : Text := "en-US".toList

def tagOf (v : Value) : Run Text := do return (← tagsOf v).headD usualTag

/-- An option that is a text. -/
def option? (options : Value) (name : String) : Run (Option Text) := do
  if options.isNothing then return none
  match ← named options name with
  | .undefined => return none
  | v => return some (← textOf v)

/-- An option that is one of some words. -/
def choice? (service : String) (options : Value) (name : String) (words : List String) : Run (Option String) := do
  match ← option? options name with
  | none => return none
  | some t =>
    if words.contains (String.ofList t) then return some (String.ofList t)
    rangeFail ("Value " ++ String.ofList t ++ " out of range for " ++ service ++ " options property " ++ name)

/-- An option that is a number within bounds. -/
def number? (options : Value) (name : String) (low high : Nat) : Run (Option Nat) := do
  if options.isNothing then return none
  match ← named options name with
  | .undefined => return none
  | v =>
    let x ← numberOf v
    if x.isNaN || x < Float.ofNat low || Float.ofNat high < x then rangeFail (name ++ " value is out of range.")
    return some (wholePart x.floor).toNat

def checkOptions (options : Value) : Run Unit := do
  if options matches .null then typeFail "Cannot convert undefined or null to object"

/-! ## Dates -/

open Recurrence.Script.Locale (Width Wishes Figures)

def widthOf (s : String) : Width :=
  match s with
  | "2-digit" => .two
  | "long" => .long
  | "short" => .short
  | "narrow" => .narrow
  | _ => .numeric

/-- Which parts of a date and time are written if nothing is said. -/
structure Usual where
  service : String
  date : Bool
  time : Bool
  /-- Whether parts of that kind being wished for changes what is usual. -/
  anyPart : Bool := true

/-- The wishes that options tell, with the zone. -/
def wishesOf (u : Usual) (options : Value) : Run (Wishes × Zone) := do
  checkOptions options
  let width (name : String) (words : List String) : Run (Option Width) := do
    return (← choice? u.service options name words).map widthOf
  let names := ["narrow", "short", "long"]
  let numbers := ["2-digit", "numeric"]
  let halves ← if options.isNothing then pure none else do
    match ← named options "hour12" with
    | .undefined => pure none
    | v => pure (some v.isTrue)
  let cycle ← choice? u.service options "hourCycle" ["h11", "h12", "h23", "h24"]
  let zone ← match ← option? options "timeZone" with
    | none => pure Zone.universal
    | some t => match Zone.ofName? t with
      | some z => pure z
      | none => rangeFail ("Invalid time zone specified: " ++ String.ofList t)
  let weekday ← width "weekday" names
  let era ← width "era" names
  let year ← width "year" numbers
  let month ← width "month" (numbers ++ names)
  let day ← width "day" numbers
  let hour ← width "hour" numbers
  let minute ← width "minute" numbers
  let second ← width "second" numbers
  let fraction ← number? options "fractionalSecondDigits" 1 3
  let zoneName ← width "timeZoneName"
    ["short", "long", "shortOffset", "longOffset", "shortGeneric", "longGeneric"]
  let styles := ["full", "long", "medium", "short"]
  let dateStyle ← choice? u.service options "dateStyle" styles
  let timeStyle ← choice? u.service options "timeStyle" styles
  let w : Wishes := {
    weekday, era, year, month, day, hour, minute, second, fraction := fraction.getD 0, zoneName, dateStyle, timeStyle
    halves := match halves, cycle with
      | some b, _ => some b
      | none, some c => some (c == "h12" || c == "h11")
      | none, none => none
    lateMidnight := halves == some false || cycle == some "h24" }
  let styled := dateStyle.isSome || timeStyle.isSome
  if styled && (w.hasDate || w.hasTime) then
    typeFail ("Can't set option " ++ (if w.hasDate then "month" else "hour") ++ " when " ++
      (if dateStyle.isSome then "dateStyle" else "timeStyle") ++ " is used")
  if u.date && !u.time && !u.anyPart && timeStyle.isSome then typeFail "Invalid option : timeStyle"
  if u.time && !u.date && !u.anyPart && dateStyle.isSome then typeFail "Invalid option : dateStyle"
  let told := if u.anyPart then w.hasDate || w.hasTime else if u.date then w.hasDate else w.hasTime
  if styled || told then return (w, zone)
  let w := if u.date then { w with year := some .numeric, month := some .numeric, day := some .numeric } else w
  return (if u.time then { w with hour := some .numeric, minute := some .numeric, second := some .numeric } else w, zone)

/-- A moment as a locale writes it. -/
def dateIn (u : Usual) (locales options : Value) (x : Float) : Run Text := do
  let tag ← tagOf locales
  let (w, zone) ← wishesOf u options
  return (Locale.ofTag tag).dateText w zone x

def formatUsual : Usual := ⟨"Intl.DateTimeFormat", true, false, true⟩

/-- The parts that an object of a family keeps. -/
def partsOf (f : Family) (method : String) (v : Value) : Run (List Value) := do
  match v with
  | .object a => match ← kindAt a with
    | .branded g parts => if f = g then return parts else incompatible method v
    | _ => incompatible method v
  | v => incompatible method v

/-- The moment that a value stands for; without one it is now. -/
def momentOf (v : Value) : Run Float := do
  match v with
  | .undefined => fun s => .gave s.clock.floor s
  | .object a => match ← kindAt a with
    | .instant x => return x
    | _ => return Number.truncated (← numberOf v)
  | v => return Number.truncated (← numberOf v)

def expectMoment (v : Value) : Run Float := do
  let x ← momentOf v
  if x.isNaN || x.isInf then rangeFail "Invalid time value"
  return x

/-- A list of parts with their kinds. -/
def kindList (parts : List (String × Text)) : Run Value := do
  list (← parts.mapM fun p => recordOf [("type", .ofString p.1), ("value", .string p.2)])

/-- The maker of what writes in a locale. -/
def makingFormat (f : Family) (check : Value → Run Unit) : Native := fun c => do
  let tag ← tagOf (c.given 0)
  check (c.given 1)
  let target := if c.target matches .undefined then .object f.maker else c.target
  make target f (.branded f [.string tag, c.given 1])

/-- What an object that writes in a locale keeps: the tag and the options. -/
def settingOf (f : Family) (method : String) (v : Value) : Run (Text × Value) := do
  match ← partsOf f method v with
  | [.string tag, options] => return (tag, options)
  | _ => return (usualTag, .undefined)

def dateFormatParts (method : String) (c : Summons) : Run (List (String × Text)) := do
  let (tag, options) ← settingOf .dateFormat ("Intl.DateTimeFormat.prototype." ++ method) c.this
  let (w, zone) ← wishesOf formatUsual options
  return (Locale.ofTag tag).dateParts w zone (← expectMoment (c.given 0))

/-- The name of a width. -/
def widthName : Width → String
  | .numeric => "numeric"
  | .two => "2-digit"
  | .short => "short"
  | .long => "long"
  | .narrow => "narrow"

def dateFormatEntries : List Entry :=
  [teller "format" fun c => do
      let _ ← settingOf .dateFormat "get Intl.DateTimeFormat.prototype.format" c.this
      prepared .formatDate c.this [],
    method "formatToParts" 1 fun c => do kindList (← dateFormatParts "formatToParts" c),
    method "formatRange" 2 fun c => do
      let a ← dateFormatParts "formatRange" c
      let b ← dateFormatParts "formatRange" { c with arguments := c.arguments.drop 1 }
      let text (ps : List (String × Text)) : Text := ps.flatMap (·.2)
      return .string (if text a == text b then text a else text a ++ "\u2009–\u2009".toList ++ text b),
    method "resolvedOptions" 0 fun c => do
      let (tag, options) ← settingOf .dateFormat "Intl.DateTimeFormat.prototype.resolvedOptions" c.this
      let (w, zone) ← wishesOf formatUsual options
      let width (name : String) (x : Option Width) : List (String × Value) :=
        (x.map fun x => (name, .ofString (widthName x))).toList
      recordOf ([("locale", .string tag), ("calendar", .ofString "gregory"), ("numberingSystem", .ofString "latn"),
        ("timeZone", .ofString zone.name)] ++ width "weekday" w.weekday ++ width "year" w.year ++
        width "month" w.month ++ width "day" w.day ++ width "hour" w.hour ++ width "minute" w.minute ++
        width "second" w.second),
    tag "Intl.DateTimeFormat"]

/-- The function that writes dates as an object says. -/
def formatDate : Native := fun c => do return .string ((← dateFormatParts "format" c).flatMap (·.2))

/-! ## Numbers -/

/-- How numbers are written, by options. -/
structure NumberWishes where
  figures : Figures
  style : String
  currency : Text
  currencyDisplay : String
  unit : Text
  unitDisplay : String
  compact : Bool
  sign : String

def numberWishes (service : String) (options : Value) : Run NumberWishes := do
  checkOptions options
  let style ← choice? service options "style" ["decimal", "percent", "currency", "unit"]
  let style := style.getD "decimal"
  let currency ← option? options "currency"
  let display ← choice? service options "currencyDisplay" ["code", "symbol", "narrowSymbol", "name"]
  let unit ← option? options "unit"
  let unitDisplay ← choice? service options "unitDisplay" ["short", "narrow", "long"]
  if style == "currency" && currency.isNone then typeFail "Currency code is required with currency style."
  let compact ← choice? service options "notation" ["standard", "scientific", "engineering", "compact"]
  let leastWhole ← number? options "minimumIntegerDigits" 1 21
  let leastFraction ← number? options "minimumFractionDigits" 0 100
  let mostFraction ← number? options "maximumFractionDigits" 0 100
  let least ← number? options "minimumSignificantDigits" 1 21
  let most ← number? options "maximumSignificantDigits" 1 21
  let grouping ← if options.isNothing then pure true else do
    match ← named options "useGrouping" with
    | .undefined => pure true
    | .string t => pure (t != "false".toList)
    | v => pure v.isTrue
  let sign ← choice? service options "signDisplay" ["auto", "never", "always", "exceptZero", "negative"]
  let isWhole := currency.any fun t => ["JPY", "KRW", "VND", "CLP", "ISK"].contains (String.ofList t)
  let usualLeast := if style == "currency" && !isWhole then 2 else 0
  let usualMost := if style == "currency" then (if isWhole then 0 else 2) else if style == "percent" then 0 else 3
  let least' := leastFraction.getD (Nat.min usualLeast (mostFraction.getD usualLeast))
  let most' := mostFraction.getD (Nat.max usualMost least')
  if most' < least' then rangeFail "maximumFractionDigits value is out of range."
  let significant := if least.isSome || most.isSome then some (least.getD 1, most.getD 21) else none
  return { figures := {
             leastWhole := leastWhole.getD 1, leastFraction := least', mostFraction := most', significant
             grouped := grouping }
           style, currency := (currency.getD []).map Char.toUpper, currencyDisplay := display.getD "symbol"
           unit := unit.getD [], unitDisplay := unitDisplay.getD "short", compact := compact == some "compact"
           sign := sign.getD "auto" }

/-- The sign of a currency. -/
def currencySign (l : Locale) (w : NumberWishes) : Text :=
  let signs : List (String × String) :=
    [("USD", "$"), ("EUR", "€"), ("GBP", "£"), ("JPY", "¥"), ("INR", "₹"), ("CNY", "CN¥"), ("KRW", "₩"),
      ("BRL", "R$"), ("AUD", "A$"), ("CAD", "CA$"), ("MXN", "MX$"), ("NZD", "NZ$"), ("ILS", "₪"), ("VND", "₫")]
  let own : List (String × String × String) :=
    [("ja", "JPY", "￥"), ("zh", "CNY", "¥"), ("en-AU", "AUD", "$"), ("en-CA", "CAD", "$"), ("en-NZ", "NZD", "$"),
      ("pl", "PLN", "zł"), ("ru", "RUB", "₽"), ("sv", "SEK", "kr"), ("es-MX", "MXN", "$"), ("en-GB", "USD", "US$")]
  let code := String.ofList w.currency
  if w.currencyDisplay == "code" then w.currency
  else match own.find? fun o => o.1 == l.name && o.2.1 == code with
    | some o => o.2.2.toList
    | none => ((signs.lookup code).map String.toList).getD w.currency

/-- A number in short, with the word for its size. -/
def compactParts (x : Float) : Float × Text :=
  let size := x.abs
  if size < 999.5 then (x, [])
  else if size < 999500 then (x / 1000, ['K'])
  else if size < 999500000 then (x / 1000000, ['M'])
  else if size < 999500000000 then (x / 1000000000, ['B'])
  else (x / 1000000000000, ['T'])

/-- A number as a locale writes it. -/
def numberIn (l : Locale) (w : NumberWishes) (x : Float) : Text :=
  let x := if w.style == "percent" then x * 100 else x
  let (x, word) := if w.compact then compactParts x else (x, [])
  let figures := if w.compact then
      { w.figures with mostFraction := 0, significant := if x.abs < 99.5 then some (1, 2) else none }
    else w.figures
  let t := l.numberText figures x
  let (negative, digits) := match t with
    | '-' :: ds => (true, ds)
    | ds => (false, ds)
  let digits := digits ++ word
  let sign : Text :=
    if w.sign == "never" then []
    else if negative then ['-']
    else if w.sign == "always" || (w.sign == "exceptZero" && x != 0) then ['+'] else []
  let after := l.decimal == ',' || ["fr-CA"].contains l.name
  let body := match w.style with
    | "percent" => digits ++ if after && l.name != "it" && l.name != "pt" && l.name != "nl" && l.name != "pl" then
        (if l.name == "fr" then "\u202F%" else "\u00A0%").toList else ['%']
    | "currency" =>
      let mark := currencySign l w
      if w.currencyDisplay == "name" then digits ++ ' ' :: mark
      else if l.name == "pt" || l.name == "nl" then mark ++ '\u00A0' :: digits
      else if after then digits ++ '\u00A0' :: mark
      else mark ++ (if Nat.ble 3 mark.length && mark.all Char.isAlpha then ['\u00A0'] else []) ++ digits
    | "unit" =>
      let name := if w.unitDisplay == "long" then w.unit ++ if x == 1 then [] else ['s'] else w.unit
      digits ++ ' ' :: name
    | _ => digits
  sign ++ body

/-- The number that a value stands for in a locale. -/
def numberFor (v : Value) : Run Float := do
  match ← primitive .number v with
  | .bigNumber n => return Float.ofInt n
  | v => plainNumber v

def localeNumber : Native := fun c => do
  let x ← thisNumber "toLocaleString" c.this
  let tag ← tagOf (c.given 0)
  let w ← numberWishes "Number.prototype.toLocaleString" (c.given 1)
  return .string (numberIn (Locale.ofTag tag) w x)

def localeBig : Native := fun c => do
  let n ← thisBig "toLocaleString" c.this
  let l := Locale.ofTag (← tagOf (c.given 0))
  return .string ((if n < 0 then ['-'] else []) ++ Locale.inGroups l.group.toList (Text.digits n.natAbs))

/-- The function that writes numbers as an object says. -/
def formatNumber : Native := fun c => do
  let (tag, options) ← settingOf .numberFormat "Intl.NumberFormat.prototype.format" c.this
  return .string (numberIn (Locale.ofTag tag) (← numberWishes "Intl.NumberFormat" options) (← numberFor (c.given 0)))

def numberFormatEntries : List Entry :=
  [teller "format" fun c => do
      let _ ← settingOf .numberFormat "get Intl.NumberFormat.prototype.format" c.this
      prepared .formatNumber c.this [],
    method "formatToParts" 1 fun c => do
      let t ← textOf (← formatNumber c)
      kindList [("integer", t)],
    method "resolvedOptions" 0 fun c => do
      let (tag, options) ← settingOf .numberFormat "Intl.NumberFormat.prototype.resolvedOptions" c.this
      let w ← numberWishes "Intl.NumberFormat" options
      recordOf [("locale", .string tag), ("numberingSystem", .ofString "latn"), ("style", .ofString w.style),
        ("minimumIntegerDigits", .ofNat w.figures.leastWhole),
        ("minimumFractionDigits", .ofNat w.figures.leastFraction),
        ("maximumFractionDigits", .ofNat w.figures.mostFraction)],
    tag "Intl.NumberFormat"]

/-! ## Order -/

def sortingOf (service : String) (options : Value) : Run Locale.Sorting := do
  checkOptions options
  let sensitivity ← choice? service options "sensitivity" ["base", "accent", "case", "variant"]
  let first ← choice? service options "caseFirst" ["upper", "lower", "false"]
  let numeric ← if options.isNothing then pure false else do pure (← named options "numeric").isTrue
  let s := sensitivity.getD "variant"
  return ⟨s == "accent" || s == "variant", s == "case" || s == "variant", numeric, first == some "upper"⟩

def orderValue : Ordering → Value
  | .lt => .number (-1)
  | .eq => .number 0
  | .gt => .number 1

/-- How two texts compare in the locale and with the options that a call tells. -/
def compareIn (c : Summons) (t u : Text) : Run Value := do
  let _ ← tagsOf (c.given 1)
  return orderValue (Locale.compareTexts (← sortingOf "Intl.Collator" (c.given 2)) t u)

/-- The function that compares texts as an object says. -/
def compareByFormat : Native := fun c => do
  let (_, options) ← settingOf .collator "Intl.Collator.prototype.compare" c.this
  let t ← textOf (c.given 0)
  let u ← textOf (c.given 1)
  return orderValue (Locale.compareTexts (← sortingOf "Intl.Collator" options) t u)

/-! ## Words -/

/-- The kind of plural that a number has. -/
def pluralKind (ordinal : Bool) (x : Float) : String :=
  if ordinal then
    let n := (wholePart x).natAbs
    let last := n % 10
    let lastTwo := n % 100
    if last = 1 ∧ lastTwo ≠ 11 then "one"
    else if last = 2 ∧ lastTwo ≠ 12 then "two"
    else if last = 3 ∧ lastTwo ≠ 13 then "few" else "other"
  else if x == 1 then "one" else "other"

/-- Texts with a word before the last one. -/
def listed (word : String) (style : String) (ts : List Text) : Text :=
  let word := if style == "narrow" then "" else word
  match ts with
  | [] => []
  | [t] => t
  | [t, u] => if word = "" then t ++ ", ".toList ++ u else t ++ ' ' :: word.toList ++ ' ' :: u
  | ts =>
    let last := ts.getLastD []
    Text.joined ", ".toList ts.dropLast ++ ", ".toList ++ (if word = "" then [] else word.toList ++ [' ']) ++ last

/-- Words for a moment that is some units away. -/
def relativeWords (x : Float) (unit : String) : Option String :=
  [("day", -1, "yesterday"), ("day", 0, "today"), ("day", 1, "tomorrow"), ("year", -1, "last year"),
    ("year", 0, "this year"), ("year", 1, "next year"), ("month", -1, "last month"), ("month", 0, "this month"),
    ("month", 1, "next month"), ("week", -1, "last week"), ("week", 0, "this week"), ("week", 1, "next week"),
    ("quarter", -1, "last quarter"), ("quarter", 0, "this quarter"), ("quarter", 1, "next quarter"),
    ("hour", 0, "this hour"), ("minute", 0, "this minute"), ("second", 0, "now")].findSome?
      fun ((u, n, words) : String × Float × String) => if u == unit && n == x then some words else none

def relativeUnits : List String := ["second", "minute", "hour", "day", "week", "month", "quarter", "year"]

def formatRelative : Native := fun c => do
  let (_, options) ← settingOf .relativeFormat "Intl.RelativeTimeFormat.prototype.format" c.this
  let x ← numberOf (c.given 0)
  let unit := String.ofList (← textOf (c.given 1))
  let unit := if unit.endsWith "s" then (unit.dropEnd 1).toString else unit
  if !relativeUnits.contains unit then
    rangeFail ("Invalid unit argument for format() '" ++ String.ofList (← textOf (c.given 1)) ++ "'")
  let automatic := (← option? options "numeric") == some "auto".toList
  match if automatic then relativeWords x unit else none with
  | some words => return .ofString words
  | none =>
    let n := Locale.american.numberText {} x.abs
    let words := n ++ ' ' :: unit.toList ++ if x.abs == 1 then [] else ['s']
    return .string (if x < 0 || (x == 0 && 1 / x < 0) then words ++ " ago".toList else "in ".toList ++ words)

/-- The locales among given ones that are known. -/
def supported : Entry := method "supportedLocalesOf" 1 fun c => do
  list ((← tagsOf (c.given 0)).map .string)

def localePlans : List Plan :=
  let plan (f : Family) (check : Value → Run Unit) : Plan := { family := f, maker := some (0, makingFormat f check) }
  [plan .dateFormat fun o => do let _ ← wishesOf formatUsual o,
    plan .numberFormat fun o => do let _ ← numberWishes "Intl.NumberFormat" o,
    plan .collator fun o => do let _ ← sortingOf "Intl.Collator" o, plan .pluralRules checkOptions,
    plan .listFormat checkOptions, plan .relativeFormat checkOptions]

def localeParts : List Part :=
  [⟨Landmark.locales.address,
      [tag "Intl", method "getCanonicalLocales" 1 fun c => do list ((← tagsOf (c.given 0)).map .string)] ++
      localePlans.map fun p => content p.family.name (.object p.family.maker)⟩] ++
  localePlans.map (fun p => ⟨p.family.maker, [supported]⟩) ++
  [⟨Family.dateFormat.prototype, dateFormatEntries⟩, ⟨Family.numberFormat.prototype, numberFormatEntries⟩,
    ⟨Family.collator.prototype,
      [teller "compare" fun c => do
          let _ ← settingOf .collator "get Intl.Collator.prototype.compare" c.this
          prepared .compareTexts c.this [],
        tag "Intl.Collator"]⟩,
    ⟨Family.pluralRules.prototype,
      [method "select" 1 fun c => do
          let (_, options) ← settingOf .pluralRules "Intl.PluralRules.prototype.select" c.this
          let ordinal := (← option? options "type") == some "ordinal".toList
          return .ofString (pluralKind ordinal (← numberOf (c.given 0))),
        tag "Intl.PluralRules"]⟩,
    ⟨Family.listFormat.prototype,
      [method "format" 1 fun c => do
          let (_, options) ← settingOf .listFormat "Intl.ListFormat.prototype.format" c.this
          let kind := String.ofList ((← option? options "type").getD "conjunction".toList)
          let style := String.ofList ((← option? options "style").getD "long".toList)
          let texts ← (← collected none (c.given 0)).mapM textOf
          let word := if kind == "disjunction" then "or" else if kind == "unit" then "" else
            if style == "long" then "and" else "&"
          return .string (listed word style texts),
        tag "Intl.ListFormat"]⟩,
    ⟨Family.relativeFormat.prototype, [method "format" 2 formatRelative, tag "Intl.RelativeTimeFormat"]⟩,
    ⟨Family.number.prototype, [method "toLocaleString" 0 localeNumber]⟩,
    ⟨Family.bigNumber.prototype, [method "toLocaleString" 0 localeBig]⟩]

end Recurrence.Script.Library
