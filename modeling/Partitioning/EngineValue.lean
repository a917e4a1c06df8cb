import Partitioning.DataType
import Partitioning.Literal
import Partitioning.Powers

/-!
# Engine values

Stored literals in the representation in which a query engine compares them. A conversion never
rounds: a value that cannot be represented exactly is an error.
-/

namespace Partitioning

inductive Zone where
  | utc
  deriving DecidableEq

def Zone.name : Zone → String
  | .utc => "UTC"

/-- Values as the engine holds them. -/
inductive EngineValue where
  | boolean (b : Bool)
  /-- Integers, dates in days, times in picoseconds, timestamps in microseconds, the bits of
  floats, and decimals of at most 18 digits. -/
  | long (n : Int64)
  | double (bits : UInt64)
  /-- Decimals of more than 18 digits. -/
  | int128 (n : Int128)
  /-- The bytes of strings, binary values and uuids. -/
  | slice (bytes : List UInt8)
  | timestampWithZone (epochMillis : Int64) (picosOfMilli : Int32) (zone : Zone)
  deriving DecidableEq

/-- Why a literal is not converted. -/
inductive ConversionError where
  | unsupported (type : DataType)
  | mismatch (value : Literal) (type : Primitive)
  | overflow (value : Literal) (type : Primitive)
  | inexact (value : Literal) (type : Primitive)
  deriving DecidableEq

namespace ConversionError

def message : ConversionError → String
  | unsupported type => s!"Unsupported iceberg type: {type.text}"
  | mismatch value type => s!"Value {value.text} does not match iceberg type {type.text}"
  | overflow value type => s!"Value {value.text} overflows iceberg type {type.text}"
  | inexact value type =>
    s!"Value {value.text} cannot be rescaled to iceberg type {type.text} without rounding"

/-- The category an error is reported under. -/
def category : ConversionError → String
  | unsupported _ => "UnsupportedType"
  | mismatch _ _ => "ValueTypeMismatch"
  | overflow _ _ => "Overflow"
  | inexact _ _ => "InexactRescale"

end ConversionError

namespace EngineValue

/-- Decimals of at most this precision fit 64 bits. -/
def maxShortPrecision : Nat := 18

/-- The powers of ten that fit 128 bits. -/
def powerOfTen? (n : Nat) : Option Int128 :=
  if n ≤ 38 then Int128.ofInt? (tenTo n) else none

/-- The unscaled value at another scale, if it is exact and all steps to it fit 128 bits. -/
def rescale? (unscaled : Int128) (source target : Nat) : Option Int128 :=
  if source ≤ target then do
    let factor ← powerOfTen? (target - source)
    Int128.ofInt? (unscaled.toInt * factor.toInt)
  else do
    let factor ← powerOfTen? (source - target)
    if unscaled.toInt.tmod factor.toInt = 0 then Int128.ofInt? (unscaled.toInt.tdiv factor.toInt)
    else none

/-- Whether a number has at most this many digits. No number of 128 bits has more than 39. -/
def fitsPrecision (n : Int128) (precision : Nat) : Bool :=
  match powerOfTen? precision with
  | some limit => (n.toInt.natAbs : Int) < limit.toInt
  | none => true

def ofDecimal? (precision scale : UInt32) (value : Literal) (unscaled : Int128)
    (source : UInt32) : Except ConversionError EngineValue :=
  let type := Primitive.decimal precision scale
  match rescale? unscaled source.toNat scale.toNat with
  | none => .error (if scale < source then .inexact value type else .overflow value type)
  | some n =>
    if !fitsPrecision n precision.toNat then .error (.overflow value type)
    else if precision.toNat ≤ maxShortPrecision then
      match Width.int64? n.toInt with
      | some short => .ok (.long short)
      | none => .error (.overflow value type)
    else .ok (.int128 n)

/-- The bits of a float extended by its sign, the same for every NaN. -/
def floatBits (bits : UInt32) : Int64 :=
  let bits := if Binary.single.isNaN bits.toNat then 0x7FC00000 else bits
  bits.toInt32.toInt64

/-- Whole milliseconds, rounded down, and the picoseconds left over. -/
def ofMicros (micros : Int64) : EngineValue :=
  .timestampWithZone (Int64.ofInt (micros.toInt / 1000))
    (Int32.ofInt (micros.toInt % 1000 * 1000000)) .utc

def ofPrimitive? (type : Primitive) (value : Literal) : Except ConversionError EngineValue :=
  match type, value with
  | .boolean, .boolean b => .ok (.boolean b)
  | .int, .int n => .ok (.long n.toInt64)
  | .long, .long n => .ok (.long n)
  | .float, .float bits => .ok (.long (floatBits bits))
  | .double, .double bits => .ok (.double bits)
  | .decimal precision scale, .decimal unscaled source =>
    ofDecimal? precision scale value unscaled source
  | .string, .string s => .ok (.slice s.toUTF8.toList)
  | .binary, .binary bytes => .ok (.slice bytes)
  | .date, .int days => .ok (.long days.toInt64)
  | .time, .long micros =>
    match Width.int64? (micros.toInt * 1000000) with
    | some picos => .ok (.long picos)
    | none => .error (.overflow value type)
  | .timestamp, .long micros => .ok (.long micros)
  | .timestamptz, .long micros => .ok (ofMicros micros)
  | .uuid, .uuid u => .ok (.slice u.bytes)
  | .fixed length, _ => .error (.unsupported (.primitive (.fixed length)))
  | type, value => .error (.mismatch value type)

/-- The engine value of a literal of a column type. A missing value stays missing, whatever the
type. -/
def ofLiteral? (type : DataType) : Option Literal → Except ConversionError (Option EngineValue)
  | none => .ok none
  | some value =>
    match type with
    | .primitive p => (ofPrimitive? p value).map some
    | type => .error (.unsupported type)

end EngineValue

end Partitioning
