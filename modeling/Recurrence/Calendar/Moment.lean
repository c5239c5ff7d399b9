import Recurrence.Calendar.Date
/-!
# Moments — a date with a time of day

Time is local and goes to the nanosecond; the last second of a minute may be a leap second, number 60.  Where a moment
is written, for the command line or for code, it goes to the second.
-/
namespace Recurrence

structure Moment where
  date : Date
  hour : Fin 24
  minute : Fin 60
  second : Fin 61
  nanosecond : Fin 1000000000
deriving DecidableEq, Repr

namespace Moment

/-- The first instant of a day. -/
def midnight (d : Date) : Moment := ⟨d, 0, 0, 0, 0⟩

/-- Date and time with a `T` between, the time with colons, up to the second. -/
def text (m : Moment) : Text :=
  m.date.text ++ 'T' :: Text.padded 2 m.hour ++ ':' :: Text.padded 2 m.minute ++ ':' :: Text.padded 2 m.second

/-- The part of a second in thousandths, millionths or billionths, the coarsest that hold it; nothing, where there is
none. -/
def fractionText (m : Moment) : Text :=
  let n := m.nanosecond.val
  if n = 0 then []
  else if n % 1000000 = 0 then '.' :: Text.padded 3 (n / 1000000)
  else if n % 1000 = 0 then '.' :: Text.padded 6 (n / 1000)
  else '.' :: Text.padded 9 n

/-- The moment as it is shown. -/
def fullText (m : Moment) : Text := m.text ++ m.fractionText

end Moment
end Recurrence
