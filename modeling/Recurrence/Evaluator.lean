import Recurrence.Calendar.Moment
import Recurrence.Text.Decimal
/-!
# Evaluators — what answers a block of code

An evaluator is called with the code and the present moment and replies with a number or fails with a message.  It may
keep state: its reply may depend on how many calls came before.  The calls made are part of every result.
-/
namespace Recurrence

/-- A number as code returns it. -/
inductive Reply where
  | nan
  | infinite
  | finite (value : Rat)
deriving DecidableEq, Repr

/-- The reply to the call with code, moment and number of calls before it, or the message of a failure. -/
abbrev Evaluator := (earlier : Nat) → (code : Text) → (now : Moment) → Except Text Reply

/-- A call of an evaluator. -/
structure Call where
  code : Text
  now : Moment
deriving DecidableEq, Repr

/-- A result with the calls that were made for it, in order. -/
structure Traced (α : Type) where
  result : α
  calls : List Call
deriving DecidableEq, Repr

namespace Reply

/-- A whole number times a power of two. -/
def scaled (n : Int) : (exponent : Int) → Rat
  | .ofNat e => (n * Nat.pow 2 e : Int)
  | .negSucc e => mkRat n (Nat.pow 2 (e + 1))

/-- The number that the 64 bits of a binary floating-point number stand for: from the lowest on, 52 bits of fraction,
eleven bits of exponent and the sign. -/
def ofBits (bits : Nat) : Reply :=
  let fraction := bits % Nat.pow 2 52
  let exponent := bits / Nat.pow 2 52 % Nat.pow 2 11
  let signed (significand : Nat) : Int := if bits / Nat.pow 2 63 % 2 = 1 then -significand else significand
  if exponent = Nat.pow 2 11 - 1 then (if fraction = 0 then infinite else nan)
  else if exponent = 0 then finite (scaled (signed fraction) (-1074))
  else finite (scaled (signed (Nat.pow 2 52 + fraction)) (exponent - 1075))

/-- The number that a floating-point number stands for. -/
def ofFloat (x : Float) : Reply := ofBits x.toBits.toNat

/-- The number that a text writes: a decimal with or without sign, or a word for what is no finite number. -/
def ofText? (t : Text) : Option Reply :=
  let unsigned (t : Text) : Option Reply :=
    let word := Text.lowered t
    if word = "nan".toList then some nan
    else if word = "inf".toList ∨ word = "infinity".toList then some infinite
    else match Text.splitDecimal? t with
      | some (x, []) => some (ofFloat x)
      | _ => none
  match t with
  | '+' :: cs => unsigned cs
  | '-' :: cs => (unsigned cs).map fun
    | finite q => finite (-q)
    | r => r
  | _ => unsigned t

end Reply

namespace Traced

/-- A result for which no call was made. -/
def silent {α : Type} (result : α) : Traced α := ⟨result, []⟩

def map {α β : Type} (f : α → β) (t : Traced α) : Traced β := ⟨f t.result, t.calls⟩

end Traced
end Recurrence
