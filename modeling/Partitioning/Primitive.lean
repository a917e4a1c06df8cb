import Partitioning.Text.Blank
import Partitioning.Text.Enclosed
import Partitioning.Text.Lowercase
import Partitioning.Text.Numeral
import Partitioning.Width

/-!
# Primitive types

The scalar column types and the text they are written in.
-/

namespace Partitioning

inductive Primitive where
  | boolean
  | int
  | long
  | float
  | double
  | decimal (precision scale : UInt32)
  | date
  | time
  | timestamp
  | timestamptz
  | string
  | uuid
  | fixed (length : UInt64)
  | binary
  deriving DecidableEq

/-- Why a text is no type. -/
inductive PrimitiveError where
  | unknown (text : String)
  | decimalOutOfBounds (text : String)
  deriving DecidableEq

/-- The largest precision of a decimal that fits 128 bits. -/
def maxDecimalPrecision : Nat := 38

namespace PrimitiveError

/-- The message without its category. -/
def detail : PrimitiveError → String
  | unknown text => text
  | decimalOutOfBounds text =>
    s!"{text}: precision must be in 1..={maxDecimalPrecision} " ++
      "and scale must not exceed precision"

def message (e : PrimitiveError) : String := s!"invalid type: {e.detail}"

end PrimitiveError

namespace Primitive

open Text

def isFloatingPoint : Primitive → Bool
  | float | double => true
  | _ => false

def isDateOrTimestamp : Primitive → Bool
  | date | timestamp | timestamptz => true
  | _ => false

def text : Primitive → String
  | boolean => "boolean"
  | int => "int"
  | long => "long"
  | float => "float"
  | double => "double"
  | decimal precision scale => s!"decimal({precision.toNat}, {scale.toNat})"
  | date => "date"
  | time => "time"
  | timestamp => "timestamp"
  | timestamptz => "timestamptz"
  | string => "string"
  | uuid => "uuid"
  | fixed length => s!"fixed[{length.toNat}]"
  | binary => "binary"

/-- The types that are written as a single word. -/
def plain : List Primitive :=
  [boolean, int, long, float, double, date, time, timestamp, timestamptz, string, uuid, binary]

/-- A natural number with optional blanks around it. -/
def blankedNatural? (cs : List Char) : Option Nat :=
  Numeral.natural? (trim cs)

/-- The two numbers of a decimal type. -/
def decimalArguments? (cs : List Char) : Option (UInt32 × UInt32) := do
  let inner ← between? "decimal(".toList [')'] cs
  let (left, right) ← cutAt? ',' inner
  let precision ← (blankedNatural? left).bind Width.uint32?
  let scale ← (blankedNatural? right).bind Width.uint32?
  pure (precision, scale)

/-- The number of bytes of a type of fixed length. -/
def fixedLength? (cs : List Char) : Option UInt64 := do
  let inner ← between? "fixed[".toList [']'] cs
  (blankedNatural? inner).bind Width.uint64?

/-- Whether a decimal of this precision and scale is a type that can be written. -/
def inBounds (precision scale : UInt32) : Bool :=
  1 ≤ precision.toNat && precision.toNat ≤ maxDecimalPrecision && scale ≤ precision

/-- Reads a type. Outer blanks and the case of ASCII letters do not matter. -/
def ofText (s : String) : Except PrimitiveError Primitive :=
  let cs := lowerAscii (trim s.toList)
  match plain.find? fun p => p.text.toList == cs with
  | some p => .ok p
  | none =>
    match decimalArguments? cs, fixedLength? cs with
    | some (precision, scale), _ =>
      if inBounds precision scale then .ok (decimal precision scale)
      else .error (.decimalOutOfBounds s)
    | none, some length => .ok (fixed length)
    | none, none => .error (.unknown s)

end Primitive

end Partitioning
