import Recurrence.Script.Letter
import Recurrence.Script.Zone
/-!
# Locales — how a part of the world writes dates and numbers

A locale has names of months and days, and forms in which letters stand for the parts of a date: `y`, `M`, `E`, `d` for
year, month, day of the week and day, more letters for longer forms; words stand between quotes.
-/
namespace Recurrence.Script

structure Locale where
  /-- The language, with the part of the world if that matters. -/
  name : String
  months : List String
  shortMonths : List String
  weekdays : List String
  shortWeekdays : List String
  /-- Forms by the parts of a date that they show. -/
  forms : List (String × String)
  /-- What stands between a date and a time, also when the date is long. -/
  between : String
  betweenLong : String
  /-- Forms for the four styles of a date. -/
  styles : List (String × String)
  /-- Whether hours are counted up to twelve. -/
  halves : Bool := false
  /-- Whether hours below ten have one digit. -/
  shortHours : Bool := false
  morning : String := "AM"
  evening : String := "PM"
  decimal : Char := '.'
  group : String := ","
  /-- Whether numbers of four digits have no group. -/
  sparing : Bool := false

namespace Locale

def englishMonths : List String :=
  ["January", "February", "March", "April", "May", "June", "July", "August", "September", "October", "November",
    "December"]

def englishShortMonths : List String :=
  ["Jan", "Feb", "Mar", "Apr", "May", "Jun", "Jul", "Aug", "Sep", "Oct", "Nov", "Dec"]

def englishWeekdays : List String :=
  ["Sunday", "Monday", "Tuesday", "Wednesday", "Thursday", "Friday", "Saturday"]

def englishShortWeekdays : List String := ["Sun", "Mon", "Tue", "Wed", "Thu", "Fri", "Sat"]

def american : Locale :=
  { name := "en-US", months := englishMonths, shortMonths := englishShortMonths, weekdays := englishWeekdays
    shortWeekdays := englishShortWeekdays
    forms := [("yMd", "M/d/y"), ("Md", "M/d"), ("yM", "M/y"), ("yMEd", "E, M/d/y"), ("MEd", "E, M/d"),
      ("yMMMd", "MMM d, y"), ("MMMd", "MMM d"), ("yMMM", "MMM y"), ("yMMMEd", "E, MMM d, y"), ("MMMEd", "E, MMM d"),
      ("Ed", "d E"), ("yd", "d y")]
    between := ", ", betweenLong := " at "
    styles := [("full", "EEEE, MMMM d, y"), ("long", "MMMM d, y"), ("medium", "MMM d, y"), ("short", "M/d/yy")]
    halves := true }

def british : Locale :=
  { american with
    name := "en-GB", halves := false, morning := "am", evening := "pm"
    forms := [("yMd", "dd/MM/y"), ("Md", "dd/MM"), ("yM", "MM/y"), ("yMEd", "E, dd/MM/y"), ("MEd", "E, dd/MM"),
      ("yMMMd", "d MMM y"), ("MMMd", "d MMM"), ("yMMM", "MMM y"), ("yMMMEd", "E, d MMM y"), ("MMMEd", "E, d MMM"),
      ("yMMMMEEEEd", "E d MMM y"), ("MMMMEEEEd", "E d MMM"), ("Ed", "E d")]
    styles := [("full", "EEEE d MMMM y"), ("long", "d MMMM y"), ("medium", "d MMM y"), ("short", "dd/MM/y")] }

def german : Locale :=
  { name := "de", weekdays := ["Sonntag", "Montag", "Dienstag", "Mittwoch", "Donnerstag", "Freitag", "Samstag"]
    shortWeekdays := ["So", "Mo", "Di", "Mi", "Do", "Fr", "Sa"]
    months := ["Januar", "Februar", "März", "April", "Mai", "Juni", "Juli", "August", "September", "Oktober",
      "November", "Dezember"]
    shortMonths := ["Jan.", "Feb.", "März", "Apr.", "Mai", "Juni", "Juli", "Aug.", "Sept.", "Okt.", "Nov.", "Dez."]
    forms := [("yMd", "d.M.y"), ("Md", "d.M."), ("yM", "M/y"), ("yMEd", "E, d.M.y"), ("MEd", "E, d.M."),
      ("yMMMd", "d. MMM y"), ("MMMd", "d. MMM"), ("yMMM", "MMM y"), ("yMMMEd", "E, d. MMM y"), ("MMMEd", "E, d. MMM"),
      ("Ed", "E, d."), ("d", "d")]
    between := ", ", betweenLong := " um "
    styles := [("full", "EEEE, d. MMMM y"), ("long", "d. MMMM y"), ("medium", "dd.MM.y"), ("short", "dd.MM.yy")]
    decimal := ',', group := "." }

def french : Locale :=
  { name := "fr", weekdays := ["dimanche", "lundi", "mardi", "mercredi", "jeudi", "vendredi", "samedi"]
    shortWeekdays := ["dim.", "lun.", "mar.", "mer.", "jeu.", "ven.", "sam."]
    months := ["janvier", "février", "mars", "avril", "mai", "juin", "juillet", "août", "septembre", "octobre",
      "novembre", "décembre"]
    shortMonths := ["janv.", "févr.", "mars", "avr.", "mai", "juin", "juil.", "août", "sept.", "oct.", "nov.", "déc."]
    forms := [("yMd", "dd/MM/y"), ("Md", "dd/MM"), ("yM", "MM/y"), ("yMEd", "E dd/MM/y"), ("MEd", "E dd/MM"),
      ("yMMMd", "d MMM y"), ("MMMd", "d MMM"), ("yMMM", "MMM y"), ("yMMMEd", "E d MMM y"), ("MMMEd", "E d MMM"),
      ("Ed", "E d")]
    between := " ", betweenLong := " à "
    styles := [("full", "EEEE d MMMM y"), ("long", "d MMMM y"), ("medium", "d MMM y"), ("short", "dd/MM/y")]
    decimal := ',', group := "\u202F" }

def spanish : Locale :=
  { name := "es", weekdays := ["domingo", "lunes", "martes", "miércoles", "jueves", "viernes", "sábado"]
    shortWeekdays := ["dom", "lun", "mar", "mié", "jue", "vie", "sáb"]
    months := ["enero", "febrero", "marzo", "abril", "mayo", "junio", "julio", "agosto", "septiembre", "octubre",
      "noviembre", "diciembre"]
    shortMonths := ["ene", "feb", "mar", "abr", "may", "jun", "jul", "ago", "sept", "oct", "nov", "dic"]
    forms := [("yMd", "d/M/y"), ("Md", "d/M"), ("yM", "M/y"), ("yMEd", "E, d/M/y"), ("MEd", "E, d/M"),
      ("yMMMd", "d MMM y"), ("MMMd", "d MMM"), ("yMMM", "MMM y"), ("yMMMMd", "d 'de' MMM 'de' y"),
      ("MMMMd", "d 'de' MMM"), ("yMMMM", "MMM 'de' y"), ("yMMMEd", "E, d MMM y"), ("MMMEd", "E, d MMM"),
      ("yMMMMEEEEd", "E, d 'de' MMM 'de' y"), ("MMMMEEEEd", "E, d 'de' MMM"), ("Ed", "E d")]
    between := ", ", betweenLong := ", "
    styles := [("full", "EEEE, d 'de' MMMM 'de' y"), ("long", "d 'de' MMMM 'de' y"), ("medium", "d MMM y"),
      ("short", "d/M/yy")]
    shortHours := true, decimal := ',', group := ".", sparing := true }

def italian : Locale :=
  { name := "it", weekdays := ["domenica", "lunedì", "martedì", "mercoledì", "giovedì", "venerdì", "sabato"]
    shortWeekdays := ["dom", "lun", "mar", "mer", "gio", "ven", "sab"]
    months := ["gennaio", "febbraio", "marzo", "aprile", "maggio", "giugno", "luglio", "agosto", "settembre",
      "ottobre", "novembre", "dicembre"]
    shortMonths := ["gen", "feb", "mar", "apr", "mag", "giu", "lug", "ago", "set", "ott", "nov", "dic"]
    forms := [("yMd", "d/M/y"), ("Md", "d/M"), ("yM", "M/y"), ("yMEd", "E d/M/y"), ("MEd", "E d/M"),
      ("yMMMd", "d MMM y"), ("MMMd", "d MMM"), ("yMMM", "MMM y"), ("yMMMEd", "E d MMM y"), ("MMMEd", "E d MMM"),
      ("Ed", "E d")]
    between := ", ", betweenLong := " alle ore "
    styles := [("full", "EEEE d MMMM y"), ("long", "d MMMM y"), ("medium", "d MMM y"), ("short", "dd/MM/yy")]
    decimal := ',', group := ".", sparing := true }

def portuguese : Locale :=
  { name := "pt", weekdays := ["domingo", "segunda-feira", "terça-feira", "quarta-feira", "quinta-feira", "sexta-feira",
      "sábado"]
    shortWeekdays := ["dom.", "seg.", "ter.", "qua.", "qui.", "sex.", "sáb."]
    months := ["janeiro", "fevereiro", "março", "abril", "maio", "junho", "julho", "agosto", "setembro", "outubro",
      "novembro", "dezembro"]
    shortMonths := ["jan.", "fev.", "mar.", "abr.", "mai.", "jun.", "jul.", "ago.", "set.", "out.", "nov.", "dez."]
    forms := [("yMd", "dd/MM/y"), ("Md", "dd/MM"), ("yM", "MM/y"), ("yMEd", "E, dd/MM/y"), ("MEd", "E, dd/MM"),
      ("yMMMd", "d 'de' MMM 'de' y"), ("MMMd", "d 'de' MMM"), ("yMMM", "MMM 'de' y"),
      ("yMMMEd", "E, d 'de' MMM 'de' y"), ("MMMEd", "E, d 'de' MMM"), ("Ed", "E, d")]
    between := ", ", betweenLong := " às "
    styles := [("full", "EEEE, d 'de' MMMM 'de' y"), ("long", "d 'de' MMMM 'de' y"), ("medium", "d 'de' MMM 'de' y"),
      ("short", "dd/MM/y")]
    decimal := ',', group := "." }

def dutch : Locale :=
  { name := "nl", weekdays := ["zondag", "maandag", "dinsdag", "woensdag", "donderdag", "vrijdag", "zaterdag"]
    shortWeekdays := ["zo", "ma", "di", "wo", "do", "vr", "za"]
    months := ["januari", "februari", "maart", "april", "mei", "juni", "juli", "augustus", "september", "oktober",
      "november", "december"]
    shortMonths := ["jan", "feb", "mrt", "apr", "mei", "jun", "jul", "aug", "sep", "okt", "nov", "dec"]
    forms := [("yMd", "d-M-y"), ("Md", "d-M"), ("yM", "M-y"), ("yMEd", "E d-M-y"), ("MEd", "E d-M"),
      ("yMMMd", "d MMM y"), ("MMMd", "d MMM"), ("yMMM", "MMM y"), ("yMMMEd", "E d MMM y"), ("MMMEd", "E d MMM"),
      ("Ed", "E d")]
    between := ", ", betweenLong := " om "
    styles := [("full", "EEEE d MMMM y"), ("long", "d MMMM y"), ("medium", "d MMM y"), ("short", "dd-MM-y")]
    decimal := ',', group := "." }

def swedish : Locale :=
  { name := "sv", weekdays := ["söndag", "måndag", "tisdag", "onsdag", "torsdag", "fredag", "lördag"]
    shortWeekdays := ["sön", "mån", "tis", "ons", "tors", "fre", "lör"]
    months := ["januari", "februari", "mars", "april", "maj", "juni", "juli", "augusti", "september", "oktober",
      "november", "december"]
    shortMonths := ["jan.", "feb.", "mars", "apr.", "maj", "juni", "juli", "aug.", "sep.", "okt.", "nov.", "dec."]
    forms := [("yMd", "y-MM-dd"), ("Md", "d/M"), ("yM", "y-MM"), ("yMEd", "E, y-MM-dd"), ("MEd", "E d/M"),
      ("yMMMd", "d MMM y"), ("MMMd", "d MMM"), ("yMMM", "MMM y"), ("yMMMEd", "E d MMM y"), ("MMMEd", "E d MMM"),
      ("Ed", "E d")]
    between := " ", betweenLong := " kl. "
    styles := [("full", "EEEE d MMMM y"), ("long", "d MMMM y"), ("medium", "d MMM y"), ("short", "y-MM-dd")]
    decimal := ',', group := "\u00A0" }

def polish : Locale :=
  { name := "pl", weekdays := ["niedziela", "poniedziałek", "wtorek", "środa", "czwartek", "piątek", "sobota"]
    shortWeekdays := ["niedz.", "pon.", "wt.", "śr.", "czw.", "pt.", "sob."]
    months := ["stycznia", "lutego", "marca", "kwietnia", "maja", "czerwca", "lipca", "sierpnia", "września",
      "października", "listopada", "grudnia"]
    shortMonths := ["sty", "lut", "mar", "kwi", "maj", "cze", "lip", "sie", "wrz", "paź", "lis", "gru"]
    forms := [("yMd", "d.MM.y"), ("Md", "d.MM"), ("yM", "MM.y"), ("yMEd", "E, d.MM.y"), ("MEd", "E, d.MM"),
      ("yMMMd", "d MMM y"), ("MMMd", "d MMM"), ("yMMM", "MMM y"), ("yMMMEd", "E, d MMM y"), ("MMMEd", "E, d MMM"),
      ("Ed", "E, d")]
    between := ", ", betweenLong := " "
    styles := [("full", "EEEE, d MMMM y"), ("long", "d MMMM y"), ("medium", "d MMM y"), ("short", "d.MM.y")]
    decimal := ',', group := "\u00A0", sparing := true }

def russian : Locale :=
  { name := "ru", weekdays := ["воскресенье", "понедельник", "вторник", "среда", "четверг", "пятница", "суббота"]
    shortWeekdays := ["вс", "пн", "вт", "ср", "чт", "пт", "сб"]
    months := ["января", "февраля", "марта", "апреля", "мая", "июня", "июля", "августа", "сентября", "октября",
      "ноября", "декабря"]
    shortMonths := ["янв.", "февр.", "мар.", "апр.", "мая", "июн.", "июл.", "авг.", "сент.", "окт.", "нояб.", "дек."]
    forms := [("yMd", "dd.MM.y"), ("Md", "dd.MM"), ("yM", "MM.y"), ("yMEd", "E, dd.MM.y"), ("MEd", "E, dd.MM"),
      ("yMMMd", "d MMM y 'г'."), ("MMMd", "d MMM"), ("yMMM", "MMM y 'г'."), ("yMMMEd", "E, d MMM y 'г'."),
      ("MMMEd", "E, d MMM"), ("Ed", "E, d")]
    between := ", ", betweenLong := " в "
    styles := [("full", "EEEE, d MMMM y 'г'."), ("long", "d MMMM y 'г'."), ("medium", "d MMM y 'г'."),
      ("short", "dd.MM.y")]
    decimal := ',', group := "\u00A0" }

def numberedMonths (suffix : String) : List String := (List.range 12).map fun i => toString (i + 1) ++ suffix

def japanese : Locale :=
  { name := "ja", weekdays := ["日曜日", "月曜日", "火曜日", "水曜日", "木曜日", "金曜日", "土曜日"]
    shortWeekdays := ["日", "月", "火", "水", "木", "金", "土"]
    months := numberedMonths "月", shortMonths := numberedMonths "月"
    forms := [("yMd", "y/M/d"), ("Md", "M/d"), ("yM", "y/M"), ("yMEd", "y/M/d(E)"), ("MEd", "M/d(E)"),
      ("yMMMd", "y年MMMd日"), ("MMMd", "MMMd日"), ("yMMM", "y年MMM"), ("yMMMEd", "y年MMMd日(E)"),
      ("MMMEd", "MMMd日(E)"), ("yMMMMEEEEd", "y年MMMd日E"), ("MMMMEEEEd", "MMMd日E"), ("Ed", "d日(E)"), ("y", "y年"),
      ("d", "d日")]
    between := " ", betweenLong := " "
    styles := [("full", "y年MMMMd日EEEE"), ("long", "y年MMMMd日"), ("medium", "y/MM/dd"), ("short", "y/MM/dd")]
    shortHours := true }

def chinese : Locale :=
  { japanese with
    shortHours := false, name := "zh", weekdays := ["星期日", "星期一", "星期二", "星期三", "星期四", "星期五", "星期六"]
    shortWeekdays := ["周日", "周一", "周二", "周三", "周四", "周五", "周六"]
    months := ["一月", "二月", "三月", "四月", "五月", "六月", "七月", "八月", "九月", "十月", "十一月", "十二月"]
    forms := [("yMd", "y/M/d"), ("Md", "M/d"), ("yM", "y年M月"), ("yMEd", "y/M/dE"), ("MEd", "M/dE"),
      ("yMMMd", "y年M月d日"), ("MMMd", "M月d日"), ("yMMM", "y年M月"), ("yMMMEd", "y年M月d日E"), ("MMMEd", "M月d日E"),
      ("Ed", "d日E"), ("y", "y年"), ("d", "d日")]
    styles := [("full", "y年M月d日EEEE"), ("long", "y年M月d日"), ("medium", "y年M月d日"), ("short", "y/M/d")] }

def korean : Locale :=
  { japanese with
    name := "ko", weekdays := ["일요일", "월요일", "화요일", "수요일", "목요일", "금요일", "토요일"]
    shortWeekdays := ["일", "월", "화", "수", "목", "금", "토"]
    months := numberedMonths "월", shortMonths := numberedMonths "월"
    forms := [("yMd", "y. M. d."), ("Md", "M. d."), ("yM", "y. M."), ("yMEd", "y. M. d. (E)"), ("MEd", "M. d. (E)"),
      ("yMMMd", "y년 MMM d일"), ("MMMd", "MMM d일"), ("yMMM", "y년 MMM"), ("yMMMEd", "y년 MMM d일 (E)"),
      ("MMMEd", "MMM d일 (E)"), ("yMMMMEEEEd", "y년 MMM d일 E"), ("MMMMEEEEd", "MMM d일 E"), ("Ed", "d일 (E)"),
      ("y", "y년"), ("d", "d일")]
    styles := [("full", "y년 MMMM d일 EEEE"), ("long", "y년 MMMM d일"), ("medium", "y. M. d."), ("short", "yy. M. d.")]
    halves := true, morning := "오전", evening := "오후" }

/-- All locales; of two for a language the more particular stands first. -/
def all : List Locale :=
  [american, british,
    { british with name := "en-AU", halves := true, morning := "am", evening := "pm" },
    { british with
      name := "en-NZ", halves := true
      forms := ("yMd", "d/MM/y") :: british.forms },
    { british with
      name := "en-IN", halves := true
      forms := ("yMd", "d/M/y") :: british.forms },
    { british with name := "en-IE", forms := ("yMd", "d/M/y") :: british.forms },
    { british with name := "en-ZA", forms := ("yMd", "y/MM/dd") :: british.forms },
    { american with
      name := "en-CA", morning := "a.m.", evening := "p.m."
      forms := ("yMd", "y-MM-dd") :: ("Md", "MM-dd") :: american.forms },
    { american with name := "en" },
    { german with name := "de-CH", group := "’", decimal := '.' },
    { german with
      name := "de-AT"
      months := "Jänner" :: german.months.drop 1, shortMonths := "Jän." :: german.shortMonths.drop 1 },
    german,
    { french with name := "fr-CA", forms := ("yMd", "y-MM-dd") :: french.forms, group := "\u00A0" }, french,
    { spanish with name := "es-MX", decimal := '.', group := ",", sparing := false }, spanish, italian,
    portuguese, dutch, swedish, polish, russian, japanese,
    { japanese with name := "zh-TW", weekdays := chinese.weekdays }, chinese, korean,
    { german with
      name := "da", between := " ", betweenLong := " kl. "
      months := ["januar", "februar", "marts", "april", "maj", "juni", "juli", "august", "september", "oktober",
        "november", "december"]
      weekdays := ["søndag", "mandag", "tirsdag", "onsdag", "torsdag", "fredag", "lørdag"] },
    { german with
      name := "nb", between := ", ", betweenLong := " kl. ", group := "\u00A0"
      months := ["januar", "februar", "mars", "april", "mai", "juni", "juli", "august", "september", "oktober",
        "november", "desember"]
      weekdays := ["søndag", "mandag", "tirsdag", "onsdag", "torsdag", "fredag", "lørdag"] }]

/-- The locale that a tag names; another one serves if it is not known. -/
def ofTag (tag : Text) : Locale :=
  let language := tag.takeWhile (· != '-')
  let find (t : Text) : Option Locale := all.find? fun l => l.name.toList == t
  ((find tag).or (find language)).getD american

/-- Whether a text can be the tag of a locale. -/
def isTag (t : Text) : Bool :=
  let parts := (String.ofList t).splitOn "-"
  match parts.map String.toList with
  | language :: rest =>
    language.all Char.isAlpha && Nat.ble 2 language.length && Nat.ble language.length 8 && language.length != 4 &&
      rest.all fun p => p.all Char.isAlphanum && Nat.ble 1 p.length && Nat.ble p.length 8
  | [] => false

/-- A tag as it is usually written. -/
def usual (t : Text) : Text :=
  let parts := ((String.ofList t).splitOn "-").map String.toList
  let shaped (p : Text) : Text :=
    if p.length = 2 then p.map Char.toUpper
    else if p.length = 4 then (p.take 1).map Char.toUpper ++ (p.drop 1).map Char.toLower
    else p.map Char.toLower
  match parts with
  | language :: rest => Text.joined ['-'] (language.map Char.toLower :: rest.map shaped)
  | [] => t

/-! ## Dates -/

/-- How wide a part of a date is written. -/
inductive Width where
  | numeric
  | two
  | short
  | long
  | narrow
deriving DecidableEq

/-- The parts of a date and time that are written. -/
structure Wishes where
  weekday : Option Width := none
  era : Option Width := none
  year : Option Width := none
  month : Option Width := none
  day : Option Width := none
  hour : Option Width := none
  minute : Option Width := none
  second : Option Width := none
  fraction : Nat := 0
  zoneName : Option Width := none
  dateStyle : Option String := none
  timeStyle : Option String := none
  /-- Whether hours are counted up to twelve, if that is said; and whether midnight is hour 24 otherwise. -/
  halves : Option Bool := none
  lateMidnight : Bool := false

namespace Wishes

def hasDate (w : Wishes) : Bool := w.weekday.isSome || w.year.isSome || w.month.isSome || w.day.isSome

def hasTime (w : Wishes) : Bool := w.hour.isSome || w.minute.isSome || w.second.isSome || w.fraction != 0

end Wishes

/-- A number of some digits at least. -/
def digitsOf (width : Nat) (n : Int) : Text := Text.padded width n.natAbs

/-- What runs of letters in a form stand for, as parts with their kinds. -/
def filledForm (l : Locale) (w : Wishes) (p : Instant.Parts) : (fuel : Nat) → Text → List (String × Text)
  | 0, _ => []
  | _ + 1, [] => []
  | fuel + 1, '\'' :: cs =>
    let words := cs.takeWhile (· != '\'')
    ("literal", words) :: filledForm l w p fuel (cs.drop (words.length + 1))
  | fuel + 1, c :: cs =>
    let run := (c :: cs).takeWhile (· == c)
    let rest := (c :: cs).drop run.length
    let more := filledForm l w p fuel rest
    let wide (wish : Option Width) : Bool := wish == some .two || Nat.ble 2 run.length
    let name (names short : List String) (wish : Option Width) : Text :=
      let i (n : Int) : Nat := n.toNat
      let isLong := wish == some .long || (wish.isNone && Nat.ble 4 run.length)
      let n := if c = 'E' then i p.weekday else i p.month
      let t := ((if isLong then names else short).getD n "").toList
      if wish == some .narrow then t.take 1 else t
    if c = 'y' then
      let y := if p.year ≤ 0 then 1 - p.year else p.year
      ("year", if w.year == some .two || run.length = 2 then digitsOf 2 (y % 100) else digitsOf 1 y) :: more
    else if c = 'M' then
      ("month", if Nat.ble 3 run.length then name l.months l.shortMonths w.month
        else digitsOf (if wide w.month then 2 else 1) (p.month + 1)) :: more
    else if c = 'd' then ("day", digitsOf (if wide w.day then 2 else 1) p.day) :: more
    else if c = 'E' then ("weekday", name l.weekdays l.shortWeekdays w.weekday) :: more
    else ("literal", run) :: more

/-- The name of the form for the parts that are wished for. -/
def formName (w : Wishes) (isLong : Bool) : String :=
  let month := match w.month with
    | none => ""
    | some .numeric => "M"
    | some .two => "M"
    | some .long => if isLong then "MMMM" else "MMM"
    | some _ => "MMM"
  let weekday := match w.weekday with
    | none => ""
    | some .long => if isLong && month == "MMMM" then "EEEE" else "E"
    | some _ => "E"
  (if w.year.isSome then "y" else "") ++ month ++ weekday ++ if w.day.isSome then "d" else ""

/-- The form for the parts that are wished for; parts without one stand side by side. -/
def formOf (l : Locale) (w : Wishes) : String :=
  let byName (n : String) : Option String := (l.forms.find? fun f => f.1 == n).map (·.2)
  match byName (formName w true), byName (formName w false) with
  | some f, _ => f
  | none, some f => f
  | none, none =>
    let parts := [if w.weekday.isSome then "E" else "",
      match w.month with
      | none => ""
      | some .numeric => "M"
      | some .two => "M"
      | some _ => "MMM", if w.day.isSome then "d" else "", if w.year.isSome then "y" else ""]
    " ".intercalate (parts.filter (· != ""))

/-- A time of day. -/
def timeParts (l : Locale) (w : Wishes) (p : Instant.Parts) : List (String × Text) :=
  let halves := w.halves.getD l.halves
  let late := w.halves == some false && l.halves && w.lateMidnight
  let hour : Int := if halves then (if p.hour % 12 = 0 then 12 else p.hour % 12)
    else if late && p.hour == 0 then 24 else p.hour
  let two (wish : Option Width) (always : Bool) : Nat := if always || wish == some .two then 2 else 1
  let hourPart := (w.hour.map fun _ =>
    ("hour", digitsOf (two w.hour (!halves && !l.shortHours)) hour)).toList
  let minutePart := (w.minute.map fun _ =>
    ("minute", digitsOf (two w.minute (w.hour.isSome || w.second.isSome)) p.minute)).toList
  let secondPart := (w.second.map fun _ =>
    ("second", digitsOf (two w.second (w.minute.isSome || w.hour.isSome)) p.second)).toList
  let core := (hourPart ++ minutePart ++ secondPart).intersperse ("literal", [':'])
  let fraction := if w.fraction = 0 then []
    else (if core.isEmpty then [] else [("literal", ['.'])]) ++
      [("fractionalSecond", (Text.padded 3 p.millisecond.toNat).take w.fraction)]
  let half := if halves && w.hour.isSome then
      [("literal", [' ']), ("dayPeriod", (if p.hour < 12 then l.morning else l.evening).toList)]
    else []
  if l.name == "ko" && !half.isEmpty then half.reverse ++ core ++ fraction else core ++ fraction ++ half

/-- The wishes that a style of times stands for. -/
def timeStyle (w : Wishes) (style : String) : Wishes :=
  let w := { w with hour := some .numeric, minute := some .two }
  if style == "short" then w
  else
    let w := { w with second := some .two }
    if style == "full" then { w with zoneName := some .long }
    else if style == "long" then { w with zoneName := some .short } else w

/-- A date and time in parts with their kinds. -/
def dateParts (l : Locale) (w : Wishes) (z : Zone) (x : Float) : List (String × Text) :=
  let n := (Number.whole? x).getD 0
  let local' := Float.ofInt (n + z.aheadAt n * 60000)
  match Instant.parts? local' with
  | none => [("literal", "Invalid Date".toList)]
  | some p =>
    let w := match w.timeStyle with
      | some s => timeStyle w s
      | none => w
    let form := match w.dateStyle with
      | some s => (l.styles.lookup s).getD ""
      | none => if w.hasDate then l.formOf w else ""
    let plain := if w.dateStyle.isSome then { w with year := none, month := none, day := none, weekday := none } else w
    let date := l.filledForm plain p (form.length + 1) form.toList
    let era := if w.era.isSome then
        let name := if p.year ≤ 0 then "BC" else if w.era == some .long then "Anno Domini" else "AD"
        [("literal", [' ']), ("era", name.toList)]
      else []
    let time := if w.hasTime then l.timeParts w p else []
    let zone := match w.zoneName with
      | some width => [("literal", [' ']), ("timeZoneName", z.nameAt n (width == .long))]
      | none => []
    let isLong := w.dateStyle == some "full" || w.dateStyle == some "long" ||
      (w.dateStyle.isNone && w.month == some .long)
    let between := if date.isEmpty || time.isEmpty then []
      else [("literal", (if isLong then l.betweenLong else l.between).toList)]
    let all := date ++ era ++ between ++ time
    if time.isEmpty && !zone.isEmpty then all ++ ("literal", [',']) :: zone else all ++ zone

def dateText (l : Locale) (w : Wishes) (z : Zone) (x : Float) : Text := (l.dateParts w z x).flatMap (·.2)

/-! ## Numbers -/

/-- How a number is written. -/
structure Figures where
  leastWhole : Nat := 1
  leastFraction : Nat := 0
  mostFraction : Nat := 3
  /-- The least and the greatest number of digits that matter, if they are said. -/
  significant : Option (Nat × Nat) := none
  grouped : Bool := true

/-- The digits of a rational that is not negative, rounded to a number of places after the point. -/
def roundedTo (places : Nat) (q : Rat) : Text × Text :=
  let ds := Text.padded (places + 1) (Number.nearest (q * (Nat.pow 10 places : Nat)))
  (ds.take (ds.length - places), ds.drop (ds.length - places))

/-- Digits without needless zeros at the end. -/
def trimmed (least : Nat) (ds : Text) : Text :=
  let kept := (ds.reverse.dropWhile (· == '0')).reverse
  if kept.length < least then ds.take least else kept

/-- Digits in groups of three. -/
def inGroups (separator : Text) (ds : Text) : Text :=
  let n := ds.length
  (ds.zipIdx.flatMap fun (c, i) => if i ≠ 0 ∧ (n - i) % 3 = 0 then separator ++ [c] else [c])

/-- A rational that is not negative. -/
def figures (l : Locale) (f : Figures) (q : Rat) : Text :=
  let (whole, fraction) := match f.significant with
    | none =>
      let (whole, fraction) := roundedTo f.mostFraction q
      (whole, trimmed f.leastFraction fraction)
    | some (least, most) =>
      let magnitude := if q = 0 then 1 else Number.magnitude q
      let places := (most : Int) - magnitude
      if 0 ≤ places then
        let (whole, fraction) := roundedTo places.toNat q
        let needed : Int := least - (if whole = ['0'] then magnitude else whole.length)
        (whole, trimmed needed.toNat fraction)
      else
        let shift := Nat.pow 10 places.natAbs
        (Text.digits (Number.nearest (q / (shift : Nat)) * shift), [])
  let whole := List.replicate (f.leastWhole - whole.length) '0' ++ whole
  let grouped := f.grouped && !(l.sparing && whole.length == 4)
  let whole := if grouped then inGroups l.group.toList whole else whole
  whole ++ if fraction = [] then [] else l.decimal :: fraction

/-- The rational that the fewest digits of a number write. -/
def shortestRational (x : Float) : Rat :=
  match Number.rational? x with
  | none => 0
  | some q =>
    if q = 0 ∨ Number.isWhole x then q
    else
      let (ds, point) := Number.fewest x q
      let n : Rat := Number.timesPowerOfTen (Text.value ds) (point - ds.length)
      if q < 0 then -n else n

/-- A number. -/
def numberText (l : Locale) (f : Figures) (x : Float) : Text :=
  if x.isNaN then "NaN".toList
  else
    let negative := x < 0 || (x == 0 && 1 / x < 0)
    (if negative then ['-'] else []) ++
      if x.isInf then ['∞'] else l.figures f (Number.size (shortestRational x))

/-! ## Order of texts -/

/-- The place of a character among others: space and marks, then figures, then letters. -/
def rank (c : Char) : Nat × Nat :=
  let order := "_-,;:!?.'\"()[]\x7b\x7d@*/\\&#%`^+<=>|~$".toList
  if Word.isSpace c then (0, c.toNat)
  else match order.idxOf? c with
    | some i => (1, i)
    | none => if c.isDigit then (3, c.toNat)
      else if c.isAlpha ∨ 0xAA ≤ c.toNat then (4, c.toNat) else (2, c.toNat)

/-- The letters of a text, without marks, with the marks, and with whether they are capital. -/
def weights (t : Text) : List ((Nat × Nat) × List Nat × Bool) :=
  t.map fun c =>
    match Letter.apart c with
    | base :: marks => (rank (Char.ofNat (Letter.small base.toNat)), marks.map Char.toNat, Letter.isCapital base.toNat)
    | [] => (rank c, [], false)

/-- Places of characters, digits that stand together being one number if that is asked for. -/
def numbered : (fuel : Nat) → List (Nat × Nat) → List (Nat × Nat)
  | 0, _ => []
  | _ + 1, [] => []
  | fuel + 1, (3, d) :: rest =>
    let run := ((3, d) :: rest).takeWhile fun r => r.1 == 3
    let value := run.foldl (fun n r => 10 * n + (r.2 - '0'.toNat)) 0
    (3, value) :: numbered fuel (((3, d) :: rest).drop run.length)
  | fuel + 1, r :: rest => r :: numbered fuel rest

def comparePairs : List (Nat × Nat) → List (Nat × Nat) → Ordering
  | [], [] => .eq
  | [], _ => .lt
  | _, [] => .gt
  | a :: as, b :: bs =>
    if a == b then comparePairs as bs
    else if Nat.blt a.1 b.1 || (a.1 == b.1 && Nat.blt a.2 b.2) then .lt else .gt

def compareLists : List Nat → List Nat → Ordering
  | [], [] => .eq
  | [], _ => .lt
  | _, [] => .gt
  | a :: as, b :: bs => if a = b then compareLists as bs else if a < b then .lt else .gt

def thenCompare (a b : Ordering) : Ordering := if a == .eq then b else a

/-- How texts are ordered: whether marks and capital letters matter, and whether digits are numbers. -/
structure Sorting where
  marks : Bool := true
  capitals : Bool := true
  numeric : Bool := false
  capitalsFirst : Bool := false

/-- **How two texts compare**: by their letters, then by marks on them, then small letters before capital ones. -/
def compareTexts (s : Sorting) (t u : Text) : Ordering :=
  let a := weights t
  let b := weights u
  let letters (ws : List ((Nat × Nat) × List Nat × Bool)) : List (Nat × Nat) :=
    let rs := ws.map (·.1)
    if s.numeric then numbered (rs.length + 1) rs else rs
  let marks (ws : List ((Nat × Nat) × List Nat × Bool)) : List Nat := ws.flatMap fun w => 0 :: w.2.1
  let capitals (ws : List ((Nat × Nat) × List Nat × Bool)) : List Nat :=
    ws.map fun w => if w.2.2 != s.capitalsFirst then 1 else 0
  let byMarks := if s.marks then compareLists (marks a) (marks b) else .eq
  let byCapitals := if s.capitals then compareLists (capitals a) (capitals b) else .eq
  thenCompare (comparePairs (letters a) (letters b)) (thenCompare byMarks byCapitals)

end Locale
end Recurrence.Script
