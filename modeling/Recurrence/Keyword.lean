import Recurrence.Calendar.Basic
import Recurrence.Text
/-!
# Keywords — the words that phrases are made of

A keyword stands for what it means: the opening `every`, a shorthand for a whole phrase, a unit of time in the singular
or plural, a weekday, a month, or the mark of a code block.  `word` spells it and `ofWord?` reads the spelling back
(`ofWord?_eq_some_iff`).
-/
namespace Recurrence

/-- Words that stand for `every` with a unit. -/
inductive Shorthand where
  | everyday | daily | weekly | monthly | yearly | annually
deriving DecidableEq, Repr

/-- The unit that a shorthand stands for. -/
def Shorthand.unit : Shorthand → TimeUnit
  | .everyday => .day
  | .daily => .day
  | .weekly => .week
  | .monthly => .month
  | .yearly => .year
  | .annually => .year

inductive Keyword where
  | every
  | shorthand (short : Shorthand)
  | unit (unit : TimeUnit) (plural : Bool)
  | weekday (day : Weekday)
  | month (month : Month)
  | code
deriving DecidableEq, Repr

namespace Keyword

def units : List Keyword :=
  [unit .day false, unit .day true, unit .week false, unit .week true, unit .month false, unit .month true,
    unit .year false, unit .year true]

def shorthands : List Keyword :=
  [.everyday, .daily, .weekly, .monthly, .yearly, .annually].map shorthand

/-- All keywords: the openings, the units, the weekdays, the months, the mark of code. -/
def all : List Keyword :=
  every :: shorthands ++ units ++ Weekday.all.map weekday ++ Month.all.map month ++ [code]

/-- The word, in lower case. -/
def word : Keyword → Text
  | every => "every".toList
  | shorthand .everyday => "everyday".toList
  | shorthand .daily => "daily".toList
  | shorthand .weekly => "weekly".toList
  | shorthand .monthly => "monthly".toList
  | shorthand .yearly => "yearly".toList
  | shorthand .annually => "annually".toList
  | unit .day false => "day".toList
  | unit .day true => "days".toList
  | unit .week false => "week".toList
  | unit .week true => "weeks".toList
  | unit .month false => "month".toList
  | unit .month true => "months".toList
  | unit .year false => "year".toList
  | unit .year true => "years".toList
  | weekday .sunday => "sunday".toList
  | weekday .monday => "monday".toList
  | weekday .tuesday => "tuesday".toList
  | weekday .wednesday => "wednesday".toList
  | weekday .thursday => "thursday".toList
  | weekday .friday => "friday".toList
  | weekday .saturday => "saturday".toList
  | month .january => "january".toList
  | month .february => "february".toList
  | month .march => "march".toList
  | month .april => "april".toList
  | month .may => "may".toList
  | month .june => "june".toList
  | month .july => "july".toList
  | month .august => "august".toList
  | month .september => "september".toList
  | month .october => "october".toList
  | month .november => "november".toList
  | month .december => "december".toList
  | code => "f".toList

/-- The keyword that a lower-case word spells. -/
def ofWord? (w : Text) : Option Keyword := all.find? fun k => k.word == w

/-- The unit of time that a keyword names. -/
def timeUnit? : Keyword → Option TimeUnit
  | unit u _ => some u
  | _ => none

/-- The weekday that a keyword names. -/
def weekday? : Keyword → Option Weekday
  | weekday d => some d
  | _ => none

/-- The month that a keyword names. -/
def month? : Keyword → Option Month
  | month m => some m
  | _ => none

/-- The unit word that a shorthand stands for: `weekly` is `every week`. -/
def expansion? : Keyword → Option Keyword
  | shorthand s => some (unit s.unit false)
  | _ => none

/-- Whether a keyword opens a new phrase. -/
def opensPhrase : Keyword → Bool
  | every => true
  | shorthand _ => true
  | _ => false

theorem mem_all (k : Keyword) : k ∈ all := by
  rcases k with _ | s | ⟨u, p⟩ | d | m | _
  · decide
  · cases s <;> decide
  · cases u <;> cases p <;> decide
  · cases d <;> decide
  · cases m <;> decide
  · decide

/-- No two keywords are spelled alike. -/
theorem nodup_words : (all.map word).Nodup := by decide +kernel

theorem word_inj {a b : Keyword} (h : a.word = b.word) : a = b := by
  have key : ∀ l : List Keyword, (l.map word).Nodup → a ∈ l → b ∈ l → a = b := by
    intro l hn ha hb
    induction l with
    | nil => simp at ha
    | cons k l ih =>
      simp only [List.map_cons, List.nodup_cons, List.mem_map, not_exists, not_and] at hn
      simp only [List.mem_cons] at ha hb
      rcases ha with rfl | ha <;> rcases hb with rfl | hb
      · rfl
      · exact absurd h.symm (hn.1 b hb)
      · exact absurd h (hn.1 a ha)
      · exact ih hn.2 ha hb
  exact key all nodup_words (mem_all a) (mem_all b)

/-- **Reading a word gives the keyword that is spelled so, and no other.** -/
theorem ofWord?_eq_some_iff {w : Text} {k : Keyword} : ofWord? w = some k ↔ k.word = w := by
  constructor
  · intro h
    simpa using List.find?_some h
  · rintro rfl
    cases h : ofWord? k.word with
    | none => simpa using List.find?_eq_none.1 h k (mem_all k)
    | some j => rw [word_inj (a := j) (b := k) (by simpa using List.find?_some h)]

end Keyword
end Recurrence
