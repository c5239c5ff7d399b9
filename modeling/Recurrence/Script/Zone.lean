import Recurrence.Script.Instant
/-!
# Time zones

A time zone is some minutes ahead of universal time; in many, clocks are put forward by an hour for a part of the year.
-/
namespace Recurrence.Script

/-- When clocks are put forward. -/
inductive Summer where
  | never
  /-- From the second Sunday of March to the first of November, at two o'clock. -/
  | american
  /-- From the last Sunday of March to the last of October, at one o'clock universal time. -/
  | european
  /-- From the first Sunday of October to the first of April. -/
  | australian
  /-- From the last Sunday of September to the first of April. -/
  | newZealand

structure Zone where
  name : String
  /-- Minutes ahead of universal time. -/
  ahead : Int
  summer : Summer := .never
  /-- What the time is called, in winter and in summer. -/
  short : String × String := ("", "")
  long : String × String := ("", "")

namespace Zone

open Instant

/-- The milliseconds up to a Sunday of a month: the first one from a day on. -/
def sundayFrom (year month day : Int) : Int :=
  let start := ofDay year month day
  let weekday := (start / millisecondsPerDay + 4) % 7
  start + (if weekday = 0 then 0 else 7 - weekday) * millisecondsPerDay

def hours (n : Int) : Int := n * 3600000

/-- Whether clocks are put forward at an instant. -/
def isSummer (z : Zone) (n : Int) : Bool :=
  let ahead := z.ahead * 60000
  let year := ((parts? (Float.ofInt (n + ahead))).map (·.year)).getD 1970
  match z.summer with
  | .never => false
  | .american =>
    decide (sundayFrom year 2 8 + hours 2 - ahead ≤ n) && decide (n < sundayFrom year 10 1 + hours 1 - ahead)
  | .european => decide (sundayFrom year 2 25 + hours 1 ≤ n) && decide (n < sundayFrom year 9 25 + hours 1)
  | .australian =>
    decide (sundayFrom year 9 1 + hours 2 - ahead ≤ n) || decide (n < sundayFrom year 3 1 + hours 2 - ahead)
  | .newZealand =>
    decide (sundayFrom year 8 24 + hours 2 - ahead ≤ n) || decide (n < sundayFrom year 3 1 + hours 2 - ahead)

/-- Minutes that clocks are ahead at an instant. -/
def aheadAt (z : Zone) (n : Int) : Int := z.ahead + if z.isSummer n then 60 else 0

def eastern : String × String := ("Eastern Standard Time", "Eastern Daylight Time")

def central : String × String := ("Central Standard Time", "Central Daylight Time")

def mountain : String × String := ("Mountain Standard Time", "Mountain Daylight Time")

def pacific : String × String := ("Pacific Standard Time", "Pacific Daylight Time")

def westEurope : String × String := ("Western European Standard Time", "Western European Summer Time")

def middleEurope : String × String := ("Central European Standard Time", "Central European Summer Time")

def eastEurope : String × String := ("Eastern European Standard Time", "Eastern European Summer Time")

/-- All zones that are known by name. -/
def all : List Zone :=
  [⟨"UTC", 0, .never, ("UTC", "UTC"), ("Coordinated Universal Time", "Coordinated Universal Time")⟩,
    ⟨"America/New_York", -300, .american, ("EST", "EDT"), eastern⟩,
    ⟨"America/Detroit", -300, .american, ("EST", "EDT"), eastern⟩,
    ⟨"America/Toronto", -300, .american, ("EST", "EDT"), eastern⟩,
    ⟨"America/Chicago", -360, .american, ("CST", "CDT"), central⟩,
    ⟨"America/Denver", -420, .american, ("MST", "MDT"), mountain⟩,
    ⟨"America/Phoenix", -420, .never, ("MST", "MST"), ("Mountain Standard Time", "Mountain Standard Time")⟩,
    ⟨"America/Los_Angeles", -480, .american, ("PST", "PDT"), pacific⟩,
    ⟨"America/Vancouver", -480, .american, ("PST", "PDT"), pacific⟩,
    ⟨"America/Anchorage", -540, .american, ("AKST", "AKDT"), ("Alaska Standard Time", "Alaska Daylight Time")⟩,
    ⟨"Pacific/Honolulu", -600, .never, ("HST", "HST"), ("Hawaii-Aleutian Standard Time", "")⟩,
    ⟨"America/Halifax", -240, .american, ("AST", "ADT"), ("Atlantic Standard Time", "Atlantic Daylight Time")⟩,
    { name := "America/Sao_Paulo", ahead := -180 }, { name := "America/Argentina/Buenos_Aires", ahead := -180 },
    { name := "America/Buenos_Aires", ahead := -180 }, { name := "America/Bogota", ahead := -300 },
    { name := "America/Lima", ahead := -300 }, { name := "America/Caracas", ahead := -240 },
    { name := "America/Mexico_City", ahead := -360, short := ("CST", "CST") },
    ⟨"Europe/London", 0, .european, ("GMT", "GMT+1"), ("Greenwich Mean Time", "British Summer Time")⟩,
    ⟨"Europe/Dublin", 0, .european, ("GMT", "GMT+1"), ("Greenwich Mean Time", "Irish Standard Time")⟩,
    { name := "Europe/Lisbon", ahead := 0, summer := .european, long := westEurope },
    { name := "Atlantic/Reykjavik", ahead := 0 },
    { name := "Europe/Paris", ahead := 60, summer := .european, long := middleEurope },
    { name := "Europe/Berlin", ahead := 60, summer := .european, long := middleEurope },
    { name := "Europe/Madrid", ahead := 60, summer := .european, long := middleEurope },
    { name := "Europe/Rome", ahead := 60, summer := .european, long := middleEurope },
    { name := "Europe/Amsterdam", ahead := 60, summer := .european, long := middleEurope },
    { name := "Europe/Brussels", ahead := 60, summer := .european, long := middleEurope },
    { name := "Europe/Vienna", ahead := 60, summer := .european, long := middleEurope },
    { name := "Europe/Zurich", ahead := 60, summer := .european, long := middleEurope },
    { name := "Europe/Stockholm", ahead := 60, summer := .european, long := middleEurope },
    { name := "Europe/Oslo", ahead := 60, summer := .european, long := middleEurope },
    { name := "Europe/Copenhagen", ahead := 60, summer := .european, long := middleEurope },
    { name := "Europe/Prague", ahead := 60, summer := .european, long := middleEurope },
    { name := "Europe/Warsaw", ahead := 60, summer := .european, long := middleEurope },
    { name := "Europe/Budapest", ahead := 60, summer := .european, long := middleEurope },
    { name := "Europe/Belgrade", ahead := 60, summer := .european, long := middleEurope },
    { name := "Europe/Athens", ahead := 120, summer := .european, long := eastEurope },
    { name := "Europe/Helsinki", ahead := 120, summer := .european, long := eastEurope },
    { name := "Europe/Kiev", ahead := 120, summer := .european, long := eastEurope },
    { name := "Europe/Kyiv", ahead := 120, summer := .european, long := eastEurope },
    { name := "Europe/Bucharest", ahead := 120, summer := .european, long := eastEurope },
    { name := "Europe/Sofia", ahead := 120, summer := .european, long := eastEurope },
    { name := "Europe/Istanbul", ahead := 180 },
    { name := "Europe/Moscow", ahead := 180, long := ("Moscow Standard Time", "Moscow Summer Time") },
    { name := "Africa/Cairo", ahead := 120 },
    { name := "Africa/Johannesburg", ahead := 120, long := ("South Africa Standard Time", "") },
    { name := "Africa/Lagos", ahead := 60 }, { name := "Africa/Nairobi", ahead := 180 },
    { name := "Asia/Dubai", ahead := 240, long := ("Gulf Standard Time", "") },
    { name := "Asia/Tehran", ahead := 210 }, { name := "Asia/Karachi", ahead := 300 },
    { name := "Asia/Kolkata", ahead := 330, long := ("India Standard Time", "") },
    { name := "Asia/Calcutta", ahead := 330, long := ("India Standard Time", "") },
    { name := "Asia/Kathmandu", ahead := 345 }, { name := "Asia/Dhaka", ahead := 360 },
    { name := "Asia/Bangkok", ahead := 420 }, { name := "Asia/Jakarta", ahead := 420 },
    { name := "Asia/Ho_Chi_Minh", ahead := 420 },
    { name := "Asia/Shanghai", ahead := 480, long := ("China Standard Time", "") },
    { name := "Asia/Hong_Kong", ahead := 480, long := ("Hong Kong Standard Time", "") },
    { name := "Asia/Singapore", ahead := 480, long := ("Singapore Standard Time", "") },
    { name := "Asia/Taipei", ahead := 480 }, { name := "Asia/Manila", ahead := 480 },
    { name := "Australia/Perth", ahead := 480, long := ("Australian Western Standard Time", "") },
    { name := "Asia/Seoul", ahead := 540, long := ("Korean Standard Time", "") },
    { name := "Asia/Tokyo", ahead := 540, long := ("Japan Standard Time", "") },
    { name := "Australia/Adelaide", ahead := 570, summer := .australian },
    { name := "Australia/Darwin", ahead := 570 }, { name := "Australia/Brisbane", ahead := 600 },
    { name := "Australia/Sydney", ahead := 600, summer := .australian,
      long := ("Australian Eastern Standard Time", "Australian Eastern Daylight Time") },
    { name := "Australia/Melbourne", ahead := 600, summer := .australian,
      long := ("Australian Eastern Standard Time", "Australian Eastern Daylight Time") },
    { name := "Pacific/Auckland", ahead := 720, summer := .newZealand,
      long := ("New Zealand Standard Time", "New Zealand Daylight Time") },
    { name := "Pacific/Apia", ahead := 780 }, { name := "Pacific/Kiritimati", ahead := 840 }]

/-- Other names of universal time. -/
def universalNames : List String := ["UTC", "GMT", "ETC/UTC", "ETC/GMT", "ETC/UCT", "UCT", "ZULU", "ETC/ZULU", "UNIVERSAL"]

def universal : Zone := ⟨"UTC", 0, .never, ("UTC", "UTC"), ("Coordinated Universal Time", "")⟩

/-- The zone that a name stands for, or a distance from universal time. -/
def ofName? (t : Text) : Option Zone :=
  let upper (t : Text) : String := String.ofList (t.map Char.toUpper)
  if universalNames.contains (upper t) then some universal
  else match all.find? fun z => upper z.name.toList == upper t, t with
    | some z, _ => some z
    | none, sign :: a :: b :: rest =>
      let ds := a :: b :: rest.filter (· != ':')
      if (sign = '+' ∨ sign = '-') ∧ ds.all Char.isDigit ∧ (ds.length = 2 ∨ ds.length = 4) then
        let h := Text.value (ds.take 2)
        let m := Text.value (ds.drop 2)
        if h < 24 ∧ m < 60 then
          let n : Int := h * 60 + m
          some { name := String.ofList (sign :: Text.padded 2 h ++ ':' :: Text.padded 2 m)
                 ahead := if sign = '-' then -n else n }
        else none
      else none
    | none, _ => none

/-- A distance from universal time. -/
def distanceText (minutes : Int) (short : Bool) : Text :=
  if minutes = 0 then "GMT".toList
  else
    let n := minutes.natAbs
    let sign := if minutes < 0 then '-' else '+'
    if short then
      "GMT".toList ++ sign :: Text.digits (n / 60) ++ if n % 60 = 0 then [] else ':' :: Text.padded 2 (n % 60)
    else "GMT".toList ++ sign :: Text.padded 2 (n / 60) ++ ':' :: Text.padded 2 (n % 60)

/-- What the time of a zone is called at an instant. -/
def nameAt (z : Zone) (n : Int) (isLong : Bool) : Text :=
  let names := if isLong then z.long else z.short
  let name := if z.isSummer n then names.2 else names.1
  if name = "" then distanceText (z.aheadAt n) (!isLong) else name.toList

end Zone
end Recurrence.Script
