import Partitioning.Powers

/-!
# Binary floating-point formats

The bit patterns of a binary interchange format, read as `significand · 2^exponent` and produced
by rounding a quotient of natural numbers to the nearest pattern, ties to even.
-/

namespace Partitioning

structure Binary.Format where
  fractionWidth : Nat
  exponentWidth : Nat

namespace Binary

def single : Format := ⟨23, 8⟩

def double : Format := ⟨52, 11⟩

/-- What a bit pattern stands for. -/
inductive Value where
  | finite (negative : Bool) (significand : Nat) (exponent : Int)
  | infinite (negative : Bool)
  | nan

namespace Format

def bias (f : Format) : Nat := twoTo (f.exponentWidth - 1) - 1

/-- The exponent of the subnormal numbers. -/
def lowestExponent (f : Format) : Int := 1 - (f.bias : Int) - f.fractionWidth

/-- The significand of the smallest number of a binade. -/
def hiddenBit (f : Format) : Nat := twoTo f.fractionWidth

def infinity (f : Format) : Nat := (twoTo f.exponentWidth - 1) * f.hiddenBit

def signBit (f : Format) : Nat := twoTo (f.fractionWidth + f.exponentWidth)

def isNegative (f : Format) (bits : Nat) : Bool := bits / f.signBit % 2 == 1

/-- The bits without the sign. -/
def magnitude (f : Format) (bits : Nat) : Nat := bits % f.signBit

def isNaN (f : Format) (bits : Nat) : Bool := f.infinity < f.magnitude bits

def decode (f : Format) (bits : Nat) : Value :=
  let biased := f.magnitude bits / f.hiddenBit
  let fraction := f.magnitude bits % f.hiddenBit
  if f.isNaN bits then .nan
  else if f.magnitude bits = f.infinity then .infinite (f.isNegative bits)
  else if biased = 0 then .finite (f.isNegative bits) fraction f.lowestExponent
  else .finite (f.isNegative bits) (f.hiddenBit + fraction) (f.lowestExponent + (biased - 1))

/-- Numeric equality of patterns, with every NaN equal to every NaN and both zeros equal. -/
def same (f : Format) (a b : Nat) : Bool :=
  (f.isNaN a && f.isNaN b) || (f.magnitude a == 0 && f.magnitude b == 0) || a == b

/-- The quotient rounded to the nearest integer, ties to even. -/
def roundQuotient (num den : Nat) : Nat :=
  let floor := num / den
  let twice := 2 * (num % den)
  if twice < den || (twice == den && floor % 2 == 0) then floor else floor + 1

/-- The numerator and denominator of `num / den / 2^exponent`. -/
def scale (num den : Nat) (exponent : Int) : Nat × Nat :=
  if 0 ≤ exponent then (num, den * twoTo exponent.toNat)
  else (num * twoTo (-exponent).toNat, den)

/-- The pattern of the nonnegative number nearest to `num / den`, infinity when that is too
large. A significand that rounds up to the next binade carries into the exponent field. -/
def round (f : Format) (num den : Nat) : Nat :=
  if num = 0 then 0 else
  let guess : Int := (Nat.log2 num : Int) - Nat.log2 den - 1 - f.fractionWidth
  let low := max f.lowestExponent guess
  let narrow := scale num den low
  let exponent := if narrow.1 / narrow.2 < 2 * f.hiddenBit then low else low + 1
  let scaled := scale num den exponent
  let bits := (exponent - f.lowestExponent).toNat * f.hiddenBit + roundQuotient scaled.1 scaled.2
  min bits f.infinity

end Format

/-- The exact value of a finite nonnegative pattern as a quotient. -/
def quotient (significand : Nat) (exponent : Int) : Nat × Nat :=
  if 0 ≤ exponent then (significand * twoTo exponent.toNat, 1)
  else (significand, twoTo (-exponent).toNat)

/-- The quotient of a pattern, zero for a pattern that is not finite. -/
def Format.toQuotient (f : Format) (bits : Nat) : Nat × Nat :=
  match f.decode bits with
  | .finite _ m q => quotient m q
  | _ => (0, 1)

end Binary

end Partitioning
