import Partitioning.EngineValue

/-!
# Instants

An instant of microseconds is converted to whole milliseconds, rounded down, and the picoseconds
left over. The two parts make up the instant exactly, and they order instants lexicographically.
-/

namespace Partitioning.EngineValue

/-- The whole milliseconds of an instant, rounded down. -/
def epochMillis (micros : Int64) : Int64 :=
  Int64.ofInt (micros.toInt / 1000)

/-- The microseconds of an instant after its last whole millisecond. -/
def microsOfMilli (micros : Int64) : Int64 :=
  Int64.ofInt (micros.toInt % 1000)

/-- The picoseconds of an instant after its last whole millisecond. -/
def picosOfMilli (micros : Int64) : Int32 :=
  Int32.ofInt (micros.toInt % 1000 * 1000000)

theorem ofMicros_eq (micros : Int64) :
    ofMicros micros = .timestampWithZone (epochMillis micros) (picosOfMilli micros) .utc :=
  rfl

theorem toInt_epochMillis (micros : Int64) :
    (epochMillis micros).toInt = micros.toInt / 1000 := by
  have hlower := micros.le_toInt
  have hupper := micros.toInt_lt
  exact Int64.toInt_ofInt_of_le (by omega) (by omega)

theorem toInt_microsOfMilli (micros : Int64) :
    (microsOfMilli micros).toInt = micros.toInt % 1000 :=
  Int64.toInt_ofInt_of_le (by omega) (by omega)

theorem toInt_picosOfMilli (micros : Int64) :
    (picosOfMilli micros).toInt = micros.toInt % 1000 * 1000000 :=
  Int32.toInt_ofInt_of_le (by omega) (by omega)

theorem toInt_microsOfMilli_mul (micros : Int64) :
    (microsOfMilli micros * 1000000).toInt = micros.toInt % 1000 * 1000000 := by
  have hmillion : (1000000 : Int64).toInt = 1000000 := rfl
  rw [Int64.toInt_mul, toInt_microsOfMilli, hmillion]
  exact Int.bmod_eq_of_le (by omega) (by omega)

/-- Cutting the product down to 32 bits keeps it. -/
theorem picosOfMilli_eq (micros : Int64) :
    picosOfMilli micros = (microsOfMilli micros * 1000000).toInt32 := by
  rw [← Int32.toInt_inj, Int64.toInt_toInt32, toInt_microsOfMilli_mul, toInt_picosOfMilli]
  exact (Int.bmod_eq_of_le (by omega) (by omega)).symm

/-- Instants are ordered by their milliseconds first. -/
theorem lt_iff_parts_lt (m n : Int64) :
    m < n ↔ epochMillis m < epochMillis n ∨
      epochMillis m = epochMillis n ∧ picosOfMilli m < picosOfMilli n := by
  rw [Int64.lt_iff_toInt_lt, Int64.lt_iff_toInt_lt, ← Int64.toInt_inj, Int32.lt_iff_toInt_lt,
    toInt_epochMillis, toInt_epochMillis, toInt_picosOfMilli, toInt_picosOfMilli]
  omega

/-- The parts of an instant determine it. -/
theorem ofMicros_inj {m n : Int64} : ofMicros m = ofMicros n ↔ m = n := by
  simp only [ofMicros_eq, EngineValue.timestampWithZone.injEq, and_true, ← Int64.toInt_inj,
    ← Int32.toInt_inj, toInt_epochMillis, toInt_picosOfMilli]
  omega

/-- An instant is converted to parts that make it up exactly, the lower one below a millisecond. The
product of 64 bits and its cut to 32 bits lose nothing, and the parts order instants. -/
theorem instant_split_exact :
    (∀ micros : Int64,
      ofLiteral? (.primitive .timestamptz) (some (.long micros)) =
          .ok (some (.timestampWithZone (epochMillis micros) (picosOfMilli micros) .utc)) ∧
        (epochMillis micros).toInt * 1000000000 + (picosOfMilli micros).toInt =
          micros.toInt * 1000000 ∧
        0 ≤ (picosOfMilli micros).toInt ∧ (picosOfMilli micros).toInt ≤ 999000000 ∧
        1000000 ∣ (picosOfMilli micros).toInt ∧
        (microsOfMilli micros * 1000000).toInt = (microsOfMilli micros).toInt * 1000000 ∧
        picosOfMilli micros = (microsOfMilli micros * 1000000).toInt32 ∧
        (picosOfMilli micros).toInt = (microsOfMilli micros * 1000000).toInt) ∧
      ∀ m n : Int64, m < n ↔ epochMillis m < epochMillis n ∨
        epochMillis m = epochMillis n ∧ picosOfMilli m < picosOfMilli n := by
  refine ⟨fun micros => ⟨rfl, ?total, ?nonneg, ?below, ?whole, ?product, ?cut, ?kept⟩,
    lt_iff_parts_lt⟩
  case total =>
    rw [toInt_epochMillis, toInt_picosOfMilli]
    omega
  case nonneg =>
    rw [toInt_picosOfMilli]
    omega
  case below =>
    rw [toInt_picosOfMilli]
    omega
  case whole =>
    rw [toInt_picosOfMilli]
    exact Int.dvd_mul_left _ _
  case product => rw [toInt_microsOfMilli_mul, toInt_microsOfMilli]
  case cut => exact picosOfMilli_eq micros
  case kept => rw [toInt_picosOfMilli, toInt_microsOfMilli_mul]

/-- Before the epoch, milliseconds are rounded down as well. -/
example : ofMicros (-1) = .timestampWithZone (-1) 999000000 .utc := by
  decide

end Partitioning.EngineValue
