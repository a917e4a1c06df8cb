import Partitioning.Binary
import Partitioning.Powers

/-!
# Shortest decimals

The decimal with the fewest digits among those that round to a given binary number, and of these
the one nearest to it. A format that writes such decimals says which of two equally near ones it
takes.
-/

namespace Partitioning.Decimal

/-- The number `digits · 10^exponent`. -/
structure Shortest where
  digits : Nat
  exponent : Int
  deriving DecidableEq

/-- Which of two neighbours is taken when both are equally near. -/
inductive Tie where
  | upper
  | even

/-- Whether the tie between `below` and its successor goes up. -/
def Tie.goesUp (tie : Tie) (below : Nat) : Bool :=
  match tie with
  | .upper => true
  | .even => below % 2 == 1

namespace Shortest

/-- The reals that round to a number, in units of a quarter of its last place: from `low` to
`high` around `centre`, ends included when `closed`. The unit is `num / den`. -/
structure Interval where
  low : Nat
  centre : Nat
  high : Nat
  closed : Bool
  num : Nat
  den : Nat

/-- Below the smallest number of a binade the neighbours are twice as close. -/
def interval (f : Binary.Format) (significand : Nat) (exponent : Int) : Interval :=
  let gap := if significand = f.hiddenBit ∧ f.lowestExponent < exponent then 1 else 2
  let unit := Binary.quotient 1 (exponent - 2)
  { low := 4 * significand - gap, centre := 4 * significand, high := 4 * significand + 2,
    closed := significand % 2 == 0, num := unit.1, den := unit.2 }

/-- The numerator and denominator of one unit divided by `10^k`. -/
def Interval.unitAt (i : Interval) (k : Int) : Nat × Nat :=
  (i.num * tenTo (-k).toNat, i.den * tenTo k.toNat)

/-- Whether `c · 10^k` rounds to the number. -/
def Interval.holds (i : Interval) (k : Int) (c : Nat) : Bool :=
  let unit := i.unitAt k
  let x := c * unit.2
  if i.closed then i.low * unit.1 ≤ x && x ≤ i.high * unit.1
  else i.low * unit.1 < x && x < i.high * unit.1

/-- The nearer of the two neighbours on the grid of step `10^k` that round to the number. -/
def Interval.at? (i : Interval) (tie : Tie) (k : Int) : Option Nat :=
  let unit := i.unitAt k
  let below := i.centre * unit.1 / unit.2
  let twice := 2 * (i.centre * unit.1 % unit.2)
  let goesUp := unit.2 < twice || (unit.2 == twice && tie.goesUp below)
  match i.holds k below, i.holds k (below + 1) with
  | true, true => some (if goesUp then below + 1 else below)
  | true, false => some below
  | false, true => some (below + 1)
  | false, false => none

/-- The first hit on the grids of step `10^k`, `10^(k-1)`, … -/
def Interval.search (i : Interval) (tie : Tie) : Nat → Int → Shortest
  | 0, k => ⟨0, k⟩
  | steps + 1, k =>
    match i.at? tie k with
    | some c => ⟨c, k⟩
    | none => i.search tie steps (k - 1)

/-- The shortest decimal of `significand · 2^exponent`. The first grid is coarser than the number
itself, and the finest one has more places than any number of the format needs. -/
def ofFinite (f : Binary.Format) (tie : Tie) (significand : Nat) (exponent : Int) : Shortest :=
  if significand = 0 then ⟨0, 0⟩ else
  let bits : Int := (Nat.log2 significand : Int) + exponent + 1
  let start := (bits * 30103).fdiv 100000 + 2
  (interval f significand exponent).search tie (f.fractionWidth + 4) start

end Shortest

/-- Positional notation without an exponent. -/
def positional (s : Shortest) : List Char :=
  let digits := Nat.toDigits 10 s.digits
  if 0 ≤ s.exponent then
    if s.digits = 0 then ['0'] else digits ++ List.replicate s.exponent.toNat '0'
  else
    let places := (-s.exponent).toNat
    if places < digits.length then
      digits.take (digits.length - places) ++ '.' :: digits.drop (digits.length - places)
    else ['0', '.'] ++ List.replicate (places - digits.length) '0' ++ digits

/-- The text of a bit pattern in positional notation: no exponent, no point in a whole number, and
no sign on a NaN. Ties go up. -/
def plainText (f : Binary.Format) (bits : Nat) : String :=
  match f.decode bits with
  | .nan => "NaN"
  | .infinite negative => if negative then "-inf" else "inf"
  | .finite negative m q =>
    let text := positional (Shortest.ofFinite f .upper m q)
    String.ofList (if negative then '-' :: text else text)

end Partitioning.Decimal
