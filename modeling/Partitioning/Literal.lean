import Partitioning.Decimal.Shortest
import Partitioning.Text.Numeral
import Partitioning.Width

/-!
# Literals

Values as table metadata stores them. Floating-point values are kept as their bits.
-/

namespace Partitioning

/-- Sixteen bytes, the most significant one first. -/
structure Uuid where
  bytes : List UInt8
  length_eq : bytes.length = 16
  deriving DecidableEq

namespace Uuid

def ofBytes? (bytes : List UInt8) : Option Uuid :=
  if h : bytes.length = 16 then some ⟨bytes, h⟩ else none

/-- Hexadecimal digits in groups of 8, 4, 4, 4 and 12. -/
def text (u : Uuid) : String :=
  let digits := Text.Numeral.hexOfBytes u.bytes
  let group (start length : Nat) := String.ofList ((digits.drop start).take length)
  s!"{group 0 8}-{group 8 4}-{group 12 4}-{group 16 4}-{group 20 12}"

end Uuid

/-- Dates are days in `int`, times and timestamps are microseconds in `long`. -/
inductive Literal where
  | boolean (b : Bool)
  | int (n : Int32)
  | long (n : Int64)
  | float (bits : UInt32)
  | double (bits : UInt64)
  /-- The number `unscaled · 10^(-scale)`. -/
  | decimal (unscaled : Int128) (scale : UInt32)
  | string (s : String)
  | binary (bytes : List UInt8)
  | uuid (u : Uuid)
  deriving DecidableEq

namespace Literal

def text : Literal → String
  | boolean b => if b then "true" else "false"
  | int n => toString n.toInt
  | long n => toString n.toInt
  | float bits => Decimal.plainText Binary.single bits.toNat
  | double bits => Decimal.plainText Binary.double bits.toNat
  | decimal unscaled scale => s!"{unscaled.toInt}E-{scale.toNat}"
  | string s => "\x27" ++ s ++ "\x27"
  | binary bytes => "0x" ++ String.ofList (Text.Numeral.hexOfBytes bytes)
  | uuid u => u.text

/-- Equality of values: floating-point values are compared as numbers, every NaN equals every NaN,
and decimals of different scales differ. -/
def same : Literal → Literal → Bool
  | float a, float b => Binary.single.same a.toNat b.toNat
  | double a, double b => Binary.double.same a.toNat b.toNat
  | a, b => a == b

end Literal

end Partitioning
