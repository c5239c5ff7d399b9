import Recurrence.Calendar.Date
import Recurrence.Script.Number
/-!
# Instants of a script

An instant counts milliseconds from the first moment of 1970, and all clocks show universal time.  Its parts need not
lie within their usual bounds when an instant is made of them: the rest is carried over.
-/
namespace Recurrence.Script.Instant

open Number

def millisecondsPerDay : Int := 86400000

/-- The number of the last day before 1970. -/
def epoch : Int := Calendar.daysBeforeYear 1970

/-- The greatest distance of an instant from the first moment of 1970. -/
def limit : Int := 8640000000000000

/-- An instant, if it is not too far away. -/
def clipped (x : Float) : Float :=
  match whole? x with
  | some n => if n.natAbs ≤ limit.natAbs then Float.ofInt n else notNumber
  | none => notNumber

/-- The day and time of an instant. -/
structure Parts where
  year : Int
  /-- The month, from 0 on. -/
  month : Int
  day : Int
  weekday : Int
  hour : Int
  minute : Int
  second : Int
  millisecond : Int

/-- The parts of an instant. -/
def parts? (x : Float) : Option Parts :=
  (whole? x).map fun n =>
    let days := n / millisecondsPerDay
    let rest := n % millisecondsPerDay
    let number := epoch + days + 1
    let year := Calendar.yearOfNumber number
    let dayOfYear := (number - Calendar.daysBeforeYear year).toNat
    let month := Calendar.monthOfDay year dayOfYear
    { year
      month := month - 1
      day := dayOfYear - Calendar.daysBeforeMonth year month
      weekday := (days + 4) % 7
      hour := rest / 3600000
      minute := rest / 60000 % 60
      second := rest / 1000 % 60
      millisecond := rest % 1000 }

/-- The milliseconds up to a year, month and day. -/
def ofDay (year month day : Int) : Int :=
  let y := year + month / 12
  let days := Calendar.daysBeforeYear y + Calendar.daysBeforeMonth y ((month % 12).toNat + 1) + day - 1 - epoch
  days * millisecondsPerDay

/-- The milliseconds of a time of day. -/
def ofTime (hour minute second millisecond : Int) : Int := ((hour * 60 + minute) * 60 + second) * 1000 + millisecond

/-- The instant of year, month, day, hour, minute, second and millisecond. -/
def ofNumbers (numbers : List Float) : Float :=
  match numbers.mapM whole? with
  | some [y, mo, d, h, mi, s, ms] =>
    if 400000 < y.natAbs ∨ 10000000 < mo.natAbs then notNumber
    else clipped (Float.ofInt (ofDay y mo d + ofTime h mi s ms))
  | _ => notNumber

/-- The numbers that instants are made of, when only the first ones are given; years below 100 are of the twentieth
century. -/
def completed (numbers : List Float) : List Float :=
  match numbers with
  | [] => []
  | year :: rest =>
    let year := match whole? year with
      | some y => if 0 ≤ y ∧ y ≤ 99 then Float.ofInt (1900 + y) else year
      | none => year
    year :: (rest.take 6 ++ ([0, 1, 0, 0, 0, 0] : List Float).drop rest.length)

/-! ## Writing -/

def weekdayNames : List Text := ["Sun", "Mon", "Tue", "Wed", "Thu", "Fri", "Sat"].map String.toList

def monthNames : List Text :=
  ["Jan", "Feb", "Mar", "Apr", "May", "Jun", "Jul", "Aug", "Sep", "Oct", "Nov", "Dec"].map String.toList

def two (n : Int) : Text := Text.padded 2 n.toNat

/-- A year of four digits, or with a sign and six. -/
def signedYear (y : Int) : Text :=
  if 0 ≤ y ∧ y ≤ 9999 then Text.padded 4 y.toNat
  else (if y < 0 then '-' else '+') :: Text.padded 6 y.natAbs

def plainYear (y : Int) : Text := if y < 0 then '-' :: Text.padded 6 y.natAbs else Text.padded 4 y.toNat

namespace Parts

def clock (p : Parts) : Text := two p.hour ++ ':' :: two p.minute ++ ':' :: two p.second

/-- The standard notation. -/
def isoText (p : Parts) : Text :=
  signedYear p.year ++ '-' :: two (p.month + 1) ++ '-' :: two p.day ++ 'T' :: p.clock ++ '.' ::
    Text.padded 3 p.millisecond.toNat ++ ['Z']

def weekdayName (p : Parts) : Text := weekdayNames.getD p.weekday.toNat []

def monthName (p : Parts) : Text := monthNames.getD p.month.toNat []

def dateText (p : Parts) : Text :=
  p.weekdayName ++ ' ' :: p.monthName ++ ' ' :: two p.day ++ ' ' :: plainYear p.year

def timeText (p : Parts) : Text := p.clock ++ " GMT+0000 (Coordinated Universal Time)".toList

def text (p : Parts) : Text := p.dateText ++ ' ' :: p.timeText

def universalText (p : Parts) : Text :=
  p.weekdayName ++ ", ".toList ++ two p.day ++ ' ' :: p.monthName ++ ' ' :: plainYear p.year ++ ' ' :: p.clock ++
    " GMT".toList

end Parts

/-! ## Reading -/

/-- A piece of a written date. -/
inductive Piece where
  | number (n length : Nat)
  | symbol (c : Char)
  /-- A word, by its first three letters, and its length. -/
  | word (start : Text) (length : Nat)
  | space
  | other
deriving DecidableEq

/-- What follows a closing parenthesis. -/
def afterParenthesis : (depth : Nat) → Text → Text
  | _, [] => []
  | depth, c :: cs =>
    if c = '(' then afterParenthesis (depth + 1) cs
    else if c = ')' then (if depth ≤ 1 then cs else afterParenthesis (depth - 1) cs)
    else afterParenthesis depth cs

/-- The pieces of a text; every one uses up a character. -/
def pieces : (fuel : Nat) → Text → List Piece
  | 0, _ => []
  | _ + 1, [] => []
  | fuel + 1, c :: cs =>
    let t := c :: cs
    if c.isDigit then
      let run := t.takeWhile Char.isDigit
      .number (Text.value ((run.dropWhile (· == '0')).take 9)) run.length :: pieces fuel (t.drop run.length)
    else if ":-+.)".toList.contains c then .symbol c :: pieces fuel cs
    else if Word.isSpace c then .space :: pieces fuel (t.dropWhile Word.isSpace)
    else if 65 ≤ c.toNat then
      let run := t.takeWhile fun c => decide (65 ≤ c.toNat) && !Word.isSpace c
      .word ((run.take 3).map Char.toLower) run.length :: pieces fuel (t.drop run.length)
    else if c = '(' then .other :: pieces fuel (afterParenthesis 0 t)
    else .other :: pieces fuel cs

/-- The time and the place after a `T` in the standard notation, as numbers and minutes to take off. -/
def isoTime? : List Piece → Option (List Int × Int)
  | .number h 2 :: .symbol ':' :: .number m 2 :: rest =>
    let (second, rest) := match rest with
      | .symbol ':' :: .number s 2 :: rest => (some s, rest)
      | .symbol ':' :: rest => (none, rest)
      | rest => (some 0, rest)
    let (millisecond, rest) := match rest with
      | .symbol '.' :: .number n length :: rest => (n * 1000 / Nat.pow 10 length, rest)
      | rest => (0, rest)
    let offset : Option Int := match rest with
      | [] => some 0
      | [.word ['z'] 1] => some 0
      | [.symbol sign, .number h 2, .symbol ':', .number m 2] =>
        if h < 24 ∧ m < 60 ∧ (sign = '+' ∨ sign = '-') then
          some (if sign = '-' then -(h * 60 + m : Int) else h * 60 + m)
        else none
      | [.symbol sign, .number n 4] =>
        if n / 100 < 24 ∧ n % 100 < 60 ∧ (sign = '+' ∨ sign = '-') then
          some (if sign = '-' then -(n / 100 * 60 + n % 100 : Int) else n / 100 * 60 + n % 100)
        else none
      | _ => none
    match second, offset with
    | some s, some offset =>
      if (h < 24 ∧ m < 60 ∧ s < 60) ∨ (h = 24 ∧ m = 0 ∧ s = 0 ∧ millisecond = 0) then
        some ([(h : Int), m, s, millisecond], offset)
      else none
    | _, _ => none
  | _ => none

/-- The day at the start of the standard notation, with what follows it. -/
def isoDay? (ps : List Piece) : Option (List Int × List Piece) :=
  let year? : Option (Int × List Piece) := match ps with
    | .number y 4 :: rest => some (y, rest)
    | .symbol '+' :: .number y 6 :: rest => some (y, rest)
    | .symbol '-' :: .number y 6 :: rest => if y = 0 then none else some (-(y : Int), rest)
    | _ => none
  year?.bind fun (y, rest) => match rest with
    | .symbol '-' :: .number m 2 :: .symbol '-' :: .number d 2 :: rest =>
      if 1 ≤ m ∧ m ≤ 12 ∧ 1 ≤ d ∧ d ≤ 31 then some ([y, (m : Int), d], rest) else none
    | .symbol '-' :: .number m 2 :: rest => if 1 ≤ m ∧ m ≤ 12 then some ([y, (m : Int), 1], rest) else none
    | rest => some ([y, 1, 1], rest)

/-- The instant of numbers of a day from the year on, of a time, and minutes to take off. -/
def ofRead (day time : List Int) (offset : Int) : Float :=
  match day, time with
  | [y, m, d], [h, mi, s, ms] => clipped (Float.ofInt (ofDay y (m - 1) d + ofTime h (mi - offset) s ms))
  | _, _ => notNumber

/-- What has been read of a date in a free notation. -/
structure Found where
  day : List Int := []
  month : Option Int := none
  time : List Int := []
  /-- The hours that the second half of the day adds. -/
  half : Option Int := none
  sign : Option Int := none
  zoneHour : Option Int := none
  zoneMinute : Option Int := none
  anyNumber : Bool := false

namespace Found

/-- Whether a number goes on with the time. -/
def expectsTime (f : Found) (n : Nat) : Bool :=
  (f.time.length == 1 && decide (n < 60)) || (f.time.length == 2 && decide (n < 60)) ||
    (f.time.length == 3 && decide (n < 1000))

def expectsZone (f : Found) (n : Nat) : Bool := f.zoneHour.isSome && f.zoneMinute.isNone && decide (n < 60)

def withTime (f : Found) (n : Int) : Found := { f with time := f.time ++ [n], anyNumber := true }

/-- The time with zeros for what is left out. -/
def wholeTime (f : Found) : List Int := f.time ++ List.replicate (4 - f.time.length) 0

/-- The year of a number with two digits. -/
def century (y : Int) : Int := if 0 ≤ y ∧ y ≤ 49 then y + 2000 else if 50 ≤ y ∧ y ≤ 99 then y + 1900 else y

def isDay (n : Int) : Bool := decide (1 ≤ n) && decide (n ≤ 31)

/-- Year, month and day. -/
def wholeDay? (f : Found) : Option (List Int) :=
  let order : Option (Int × Int × Int) := match f.month, f.day ++ List.replicate (3 - f.day.length) 1 with
    | none, [a, b, c] => some (if isDay a then (c, a, b) else (a, b, c))
    | some m, [a, b, _] =>
      some (if f.day.length = 1 then (b, m, a) else if isDay a then (b, m, a) else (a, m, b))
    | _, _ => none
  if f.day = [] then none
  else order.bind fun (y, m, d) =>
    if 1 ≤ m ∧ m ≤ 12 ∧ isDay d then some [century y, m, d] else none

/-- The instant that was found. -/
def instant (f : Found) : Float :=
  let offset := f.sign.elim 0 fun sign => sign * (f.zoneHour.getD 0 * 60 + f.zoneMinute.getD 0)
  let time := match f.half, f.wholeTime with
    | some half, h :: rest => if 0 ≤ h ∧ h ≤ 12 then some ((h % 12 + half) :: rest) else none
    | _, time => some time
  match f.wholeDay?, time with
  | some day, some [h, m, s, ms] =>
    if (h < 24 ∧ m < 60 ∧ s < 60 ∧ ms < 1000) ∨ (h = 24 ∧ m = 0 ∧ s = 0 ∧ ms = 0) then
      ofRead day [h, m, s, ms] offset
    else notNumber
  | _, _ => notNumber

/-- Time zones by name, with their hours. -/
def zones : List (String × Int) :=
  [("ut", 0), ("utc", 0), ("z", 0), ("gmt", 0), ("est", -5), ("edt", -4), ("cst", -6), ("cdt", -5), ("mst", -7),
    ("mdt", -6), ("pst", -8), ("pdt", -7)]

/-- The number of a month by its name. -/
def month? (start : Text) : Option Int :=
  (monthNames.findIdx? fun n => n.map Char.toLower == start).map fun i => (i : Int) + 1

def isSign (c : Char) : Bool := c == '+' || c == '-'

/-- Whether a time may end before a piece. -/
def endsTime : List Piece → Bool
  | [] => true
  | .space :: _ => true
  | .word ['z'] 1 :: _ => true
  | .symbol c :: _ => isSign c
  | _ => false

def skipDash : List Piece → List Piece
  | .symbol '-' :: rest => rest
  | ps => ps

/-- Reads the distance from universal time after its sign. -/
def readZone (f : Found) (sign : Char) (ps : List Piece) : Option (Found × List Piece) :=
  let f := { f with sign := some (if sign = '-' then -1 else 1), anyNumber := true }
  let (n, length, rest) := match ps with
    | .number n length :: rest => (n, length, rest)
    | ps => (0, 0, ps)
  if rest.head? = some (.symbol ':') then some ({ f with zoneHour := some n, zoneMinute := none }, rest)
  else if length = 1 ∨ length = 2 then some ({ f with zoneHour := some n, zoneMinute := some 0 }, rest)
  else if length = 3 ∨ length = 4 then
    some ({ f with zoneHour := some (n / 100), zoneMinute := some (n % 100) }, rest)
  else none

/-- Reads what a word says. -/
def readWord (f : Found) (start : Text) (length : Nat) (rest : List Piece) : Option (Found × List Piece) :=
  let word := String.ofList start
  if (word = "am" ∨ word = "pm") ∧ length = 2 ∧ f.time ≠ [] then
    some ({ f with half := some (if word = "am" then 0 else 12) }, rest)
  else match month? start, if length ≤ 3 then zones.lookup word else none with
    | some m, _ => some ({ f with month := some m }, skipDash rest)
    | none, some zone =>
      if f.anyNumber then
        some ({ f with sign := some (if zone < 0 then -1 else 1), zoneHour := some zone.natAbs, zoneMinute := some 0 },
          rest)
      else some (f, rest)
    | none, none =>
      if f.anyNumber then none
      else match rest with
        | .number .. :: _ => none
        | _ => some (f, rest)

/-- Reads what a number says. -/
def readNumber (f : Found) (n : Nat) (rest : List Piece) : Option (Found × List Piece) :=
  let f := { f with anyNumber := true }
  match rest with
  | .symbol ':' :: .symbol ':' :: rest => if f.time = [] then some ((f.withTime n).withTime 0, rest) else none
  | .symbol ':' :: rest =>
    if f.time.length < 4 then
      some (f.withTime n, match rest with
        | .symbol '.' :: rest => rest
        | rest => rest)
    else none
  | _ =>
    let plain : Option (Found × List Piece) :=
      if f.expectsZone n then some ({ f with zoneMinute := some n }, rest)
      else if f.expectsTime n then
        let f := f.withTime n
        if endsTime rest then some ({ f with time := f.wholeTime }, rest) else none
      else if f.day.length < 3 then some ({ f with day := f.day ++ [(n : Int)] }, skipDash rest)
      else none
    match rest with
    | .symbol '.' :: after =>
      if f.expectsTime n then match after with
        | .number ms length :: after =>
          let f := f.withTime n
          some ({ f with time := (f.time ++ List.replicate (3 - f.time.length) 0) ++
            [((ms * 1000 / Nat.pow 10 length : Nat) : Int)] }, after)
        | _ => none
      else plain
    | _ => plain

/-- Reads the pieces of a free notation; every step uses up a piece. -/
def read : (fuel : Nat) → Found → List Piece → Option Found
  | 0, f, _ => some f
  | _ + 1, f, [] => some f
  | fuel + 1, f, p :: rest =>
    let next : Option (Found × List Piece) := match p with
      | .number n _ => readNumber f n rest
      | .word start length => readWord f start length rest
      | .symbol c =>
        if isSign c && (f.zoneHour == some 0 && f.zoneMinute == some 0 || f.time != []) then readZone f c rest
        else if (isSign c || c == ')') && f.anyNumber then none
        else some (f, rest)
      | _ => some (f, rest)
    next.bind fun (f, rest) => read fuel f rest

end Found

/-- The instant that a text writes, in the standard notation or in a free one. -/
def ofText (t : Text) : Float :=
  let ps := pieces (t.length + 1) t
  let free := ((Found.read (ps.length + 1) {} ps).map Found.instant).getD notNumber
  match isoDay? ps with
  | some (day, []) => ofRead day [0, 0, 0, 0] 0
  | some (day, .word ['t'] 1 :: rest) =>
    (isoTime? rest).elim notNumber fun (time, offset) => ofRead day time offset
  | _ => free

end Recurrence.Script.Instant
