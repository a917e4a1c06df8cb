import Partitioning.Binary
import Partitioning.Decimal.Shortest
import Partitioning.Powers

/-!
# JSON numbers

An integer that fits 64 bits, with or without a sign, is kept exactly; every other number is a
binary one of double width. Two texts are involved: the parts of a number as it is written, and
the text a number is given when it is written again.
-/

namespace Partitioning.Json

inductive Number where
  | integer (n : Int)
  | binary (bits : UInt64)
  deriving DecidableEq

/-- A number as it is written: `-` or nothing, whole digits, the digits after a point, and a
signed exponent. A missing fraction and a missing exponent are told apart from empty ones. -/
structure Spelling where
  negative : Bool
  whole : List Char
  fraction : Option (List Char)
  exponent : Option (Bool × List Char)

namespace Number

/-- Numeric equality: the two zeros of the binary numbers are equal, and an integer never equals
a binary number. -/
def same : Number → Number → Bool
  | .integer a, .integer b => a == b
  | .binary a, .binary b => Binary.double.same a.toNat b.toNat
  | _, _ => false

/-- Appends digits to a significand as long as it fits 64 bits; the rest of the digits is left. -/
def absorb (significand : Nat) : List Char → Nat × List Char
  | [] => (significand, [])
  | c :: cs =>
    let next := 10 * significand + (c.toNat - 48)
    if next < 0x10000000000000000 then absorb next cs else (significand, c :: cs)

def power (n : Nat) : Nat × Nat :=
  Binary.double.toQuotient (Binary.double.round (tenTo n) 1)

def times (a b : Nat × Nat) : Nat :=
  Binary.double.round (a.1 * b.1) (a.2 * b.2)

def dividedBy (a b : Nat × Nat) : Nat :=
  Binary.double.round (a.1 * b.2) (a.2 * b.1)

/-- Moves the point of a double by rounded powers of ten, at most 308 places a step. Nothing is
returned for a number too large for the format. Two steps down reach zero from any significand. -/
def shift : Nat → Nat → Int → Option Nat
  | 0, bits, _ => some bits
  | steps + 1, bits, exponent =>
    let value := Binary.double.toQuotient bits
    if exponent.natAbs ≤ 308 then
      if 0 ≤ exponent then
        let result := times value (power exponent.toNat)
        if result = Binary.double.infinity then none else some result
      else some (dividedBy value (power (-exponent).toNat))
    else if bits = 0 then some 0
    else if 0 ≤ exponent then none
    else shift steps (dividedBy value (power 308)) (exponent + 308)

def signed (negative : Bool) (bits : Nat) : Number :=
  .binary (UInt64.ofNat (if negative then bits + Binary.double.signBit else bits))

/-- The number `± significand · 10^exponent`, unless it is out of range. -/
def scaled? (negative : Bool) (significand : Nat) (exponent : Int) : Option Number :=
  (shift 4 (Binary.double.round significand 1) exponent).map (signed negative)

/-- The number that is spelled, unless it is out of range. Only as many leading digits count as
fit a 64-bit significand: further whole digits move the point, further digits after the point are
dropped. An exponent that does not fit 32 bits leaves only zero or an overflow. -/
def ofSpelling? (s : Spelling) : Option Number :=
  let whole := absorb 0 s.whole
  let fraction := absorb whole.1 (s.fraction.getD [])
  let places : Int := (s.fraction.getD []).length - fraction.2.length
  let point : Int := whole.2.length - places
  match s.fraction, s.exponent with
  | none, none =>
    if whole.2 ≠ [] then scaled? s.negative whole.1 point
    else if !s.negative then some (.integer whole.1)
    else if whole.1 = 0 ∨ 0x8000000000000000 < whole.1 then
      some (signed true (Binary.double.round whole.1 1))
    else some (.integer (-(whole.1 : Int)))
  | _, none => scaled? s.negative fraction.1 point
  | _, some (down, digits) =>
    let magnitude := Nat.ofDigitChars 10 digits 0
    if magnitude < 0x80000000 then
      scaled? s.negative fraction.1 (if down then point - magnitude else point + magnitude)
    else if fraction.1 ≠ 0 ∧ !down then none
    else some (signed s.negative 0)

/-- Digits with a point or an exponent: positional from `1e-5` to below `1e16`, always with a
digit after the point, and scientific with a signed exponent outside. Ties go to the even digit. -/
def floatText (s : Decimal.Shortest) : List Char :=
  let digits := Nat.toDigits 10 s.digits
  let point : Int := digits.length + s.exponent
  if s.digits = 0 then ['0', '.', '0']
  else if 0 ≤ s.exponent ∧ point ≤ 16 then
    digits ++ List.replicate s.exponent.toNat '0' ++ ['.', '0']
  else if -5 < point ∧ point ≤ 16 then Decimal.positional s
  else
    let power := point - 1
    let mantissa := match digits with
      | [d] => [d]
      | d :: rest => d :: '.' :: rest
      | [] => []
    mantissa ++ 'e' :: (if power < 0 then '-' else '+') :: Nat.toDigits 10 power.natAbs

def text : Number → String
  | .integer n => toString n
  | .binary bits =>
    match Binary.double.decode bits.toNat with
    | .finite negative m q =>
      let shown := floatText (Decimal.Shortest.ofFinite Binary.double .even m q)
      String.ofList (if negative then '-' :: shown else shown)
    | _ => "null"

/-- The double nearest to a number, as bits. -/
def toDouble : Number → UInt64
  | .binary bits => bits
  | .integer n =>
    let bits := Binary.double.round n.natAbs 1
    UInt64.ofNat (if n < 0 then bits + Binary.double.signBit else bits)

end Number

end Partitioning.Json
