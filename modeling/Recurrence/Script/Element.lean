import Recurrence.Script.Value
/-!
# Elements — numbers in rows of bytes

A row of bytes can be seen as a list of numbers of one size, the lowest byte first.
-/
namespace Recurrence.Script.Element

/-- The number of bytes of an element. -/
def size : Element → Nat
  | int n _ => n
  | clamped => 1
  | big _ => 8
  | float32 => 4
  | float64 => 8

/-- The number that bytes write, the lowest first. -/
def whole (bytes : List UInt8) : Nat := bytes.foldr (fun b n => b.toNat + 256 * n) 0

def bytesAt (content : ByteArray) (start count : Nat) : List UInt8 :=
  (List.range count).map fun i => content.data.getD (start + i) 0

/-- The value of an element that begins at a byte. -/
def read (e : Element) (content : ByteArray) (start : Nat) : Value :=
  let n := whole (bytesAt content start e.size)
  match e with
  | int size true => .ofInt (Int.bmod n (Nat.pow 256 size))
  | big true => .bigNumber (Int.bmod n (Nat.pow 256 8))
  | big false => .bigNumber n
  | float32 => .number (Float32.ofBits (UInt32.ofNat n)).toFloat
  | float64 => .number (Float.ofBits (UInt64.ofNat n))
  | _ => .ofNat n

/-- A number between 0 and 255 near another; a half goes to the even neighbour. -/
def clampedByte (x : Float) : Nat :=
  if x.isNaN || x <= 0 then 0
  else if 255 <= x then 255
  else
    let low := x.floor
    let n := low.toUInt64.toNat
    if 0.5 < x - low || (x - low == 0.5 && n % 2 == 1) then n + 1 else n

/-- The whole number whose bytes write a value. -/
def code (e : Element) (v : Value) : Nat :=
  let wholePart (x : Float) : Int := (Number.whole? x).getD 0
  match e, v with
  | int size _, .number x => (wholePart x % (Nat.pow 256 size : Nat)).toNat
  | clamped, .number x => clampedByte x
  | big _, .bigNumber n => (n % (Nat.pow 256 8 : Nat)).toNat
  | float32, .number x => x.toFloat32.toBits.toNat
  | float64, .number x => x.toBits.toNat
  | _, _ => 0

/-- Bytes with some of them changed, from a place on. -/
def writeBytes : (count start n : Nat) → ByteArray → ByteArray
  | 0, _, _, content => content
  | count + 1, start, n, content =>
    writeBytes count (start + 1) (n / 256)
      (if start < content.size then content.set! start (UInt8.ofNat (n % 256)) else content)

/-- Bytes with an element written from a place on. -/
def write (e : Element) (v : Value) (start : Nat) (content : ByteArray) : ByteArray :=
  writeBytes e.size start (e.code v) content

/-- The elements with the family of their lists. -/
def families : List (Family × Element) :=
  [(.int8, int 1 true), (.uint8, int 1 false), (.clamped, clamped), (.int16, int 2 true), (.uint16, int 2 false),
    (.int32, int 4 true), (.uint32, int 4 false), (.bigInt64, big true), (.bigUint64, big false),
    (.float32, float32), (.float64, float64)]

/-- The family of the lists of an element. -/
def family (e : Element) : Family := ((families.find? fun f => f.2 == e).map (·.1)).getD .float64

end Recurrence.Script.Element
