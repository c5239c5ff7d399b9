import Recurrence.Calendar.Moment
import Recurrence.Text.Blank
/-!
# Notation — dates and moments as they are written

A moment is written `YYYY-MM-DDTHH:MM:SS`, a date `YYYY-MM-DD`.  A number may have blanks before it and leading zeros,
but no more digits than its place; a year with a sign may have any number of digits.  Reading stops at the first fault.
-/
namespace Recurrence

namespace Notation

/-- Why a text is no date. -/
inductive Fault where
  | tooShort
  | invalid
  | outOfRange
  | trailing
deriving DecidableEq, Repr

def Fault.text : Fault → Text
  | tooShort => "premature end of input".toList
  | invalid => "input contains invalid characters".toList
  | outOfRange => "input is out of range".toList
  | trailing => "trailing input".toList

/-- The places of a written moment. -/
inductive Place where
  | year | month | day | hour | minute | second
deriving DecidableEq, Repr

namespace Place

/-- The most digits of an unsigned number. -/
def width : Place → Nat
  | year => 4
  | _ => 2

/-- The least and the greatest number allowed; what the calendar has to say comes later. -/
def bounds : Place → Int × Int
  | year => (-2147483648, 2147483647)
  | month => (1, 12)
  | day => (1, 31)
  | hour => (0, 23)
  | minute => (0, 59)
  | second => (0, 60)

end Place

/-- A part of a notation: a fixed character or a number. -/
inductive Item where
  | mark (c : Char)
  | number (place : Place)
deriving DecidableEq, Repr

def dateItems : List Item := [.number .year, .mark '-', .number .month, .mark '-', .number .day]

def momentItems : List Item :=
  dateItems ++ [.mark 'T', .number .hour, .mark ':', .number .minute, .mark ':', .number .second]

/-- Numbers stay below this bound, the 63rd power of two, however many digits they have. -/
def magnitude : Nat := 9223372036854775808

/-- Reads a run of digits that is to end after at most `width` characters. -/
def readDigits (width : Nat) (t : Text) : Except Fault (Nat × Text) :=
  let run := (t.take width).takeWhile Char.isDigit
  if t = [] then .error .tooShort
  else if run = [] then .error .invalid
  else if magnitude ≤ Text.value run then .error .outOfRange
  else .ok (Text.value run, t.drop run.length)

/-- Reads the number of a place, with its sign if it is a year. -/
def readNumber (place : Place) (t : Text) : Except Fault (Int × Text) :=
  match place, t with
  | .year, '-' :: cs => (readDigits cs.length cs).map fun r => (-r.1, r.2)
  | .year, '+' :: cs => (readDigits cs.length cs).map fun r => (r.1, r.2)
  | _, _ => (readDigits place.width t).map fun r => (r.1, r.2)

/-- Reads the numbers of a notation, and gives what is left of the text. -/
def readItems : List Item → Text → Except Fault (List Int × Text)
  | [], t => .ok ([], t)
  | .mark _ :: _, [] => .error .tooShort
  | .mark m :: items, c :: cs => if c = m then readItems items cs else .error .invalid
  | .number place :: items, t =>
    match readNumber place (Text.trimStart t) with
    | .error fault => .error fault
    | .ok (n, rest) =>
      if n < place.bounds.1 ∨ place.bounds.2 < n then .error .outOfRange
      else (readItems items rest).map fun r => (n :: r.1, r.2)

/-- Reads the numbers of a notation that has to be all of the text. -/
def readWhole (items : List Item) (t : Text) : Except Fault (List Int) :=
  match readItems items t with
  | .error fault => .error fault
  | .ok (numbers, []) => .ok numbers
  | .ok (_, _ :: _) => .error .trailing

/-- The moment with an hour, a minute, a second and a nanosecond on a date, if there is one. -/
def momentOf? (date : Date) (hour minute second nanosecond : Nat) : Option Moment :=
  if h : hour < 24 ∧ minute < 60 ∧ second < 61 ∧ nanosecond < 1000000000 then
    some ⟨date, ⟨hour, h.1⟩, ⟨minute, h.2.1⟩, ⟨second, h.2.2.1⟩, ⟨nanosecond, h.2.2.2⟩⟩
  else none

end Notation

open Notation

/-- The date that a text writes. -/
def Date.ofText (t : Text) : Except Fault Date :=
  match readWhole dateItems t with
  | .ok [year, month, day] => (ofYmd? year month.toNat day.toNat).elim (.error .outOfRange) .ok
  | .ok _ => .error .invalid
  | .error fault => .error fault

/-- The moment that a text writes in full. -/
def Moment.ofText? (t : Text) : Option Moment :=
  match readWhole momentItems t with
  | .ok [year, month, day, hour, minute, second] =>
    (Date.ofYmd? year month.toNat day.toNat).bind fun date =>
      momentOf? date hour.toNat minute.toNat second.toNat 0
  | _ => none

/-- The moment that a text writes in full, or else the first instant of the date that it writes. -/
def Moment.ofText (t : Text) : Except Fault Moment :=
  (ofText? t).elim ((Date.ofText t).map midnight) .ok

end Recurrence
