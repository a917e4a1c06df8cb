import Partitioning.Text.Enclosed
import Partitioning.Text.Numeral
import Partitioning.Width

/-!
# Transforms

How the values of a column are mapped to partition values, and the text a transform is stored as.
-/

namespace Partitioning

/-- How the values of a column become partition values. -/
inductive Transform where
  | identity
  | bucket (count : UInt32)
  | truncate (width : UInt32)
  | year
  | month
  | day
  | hour
  | void
  deriving DecidableEq

/-- Why a text is no transform. -/
inductive TransformError where
  | unsupported (text : String)
  | bucketParameter (text : String)
  | truncateParameter (text : String)
  deriving DecidableEq

def TransformError.message : TransformError → String
  | unsupported text => s!"Unsupported transform: {text}"
  | bucketParameter text => s!"Invalid bucket parameter: {text}"
  | truncateParameter text => s!"Invalid truncate parameter: {text}"

namespace Transform

open Text

def text : Transform → String
  | identity => "identity"
  | bucket n => s!"bucket[{n.toNat}]"
  | truncate w => s!"truncate[{w.toNat}]"
  | year => "year"
  | month => "month"
  | day => "day"
  | hour => "hour"
  | void => "void"

/-- The transforms without a parameter. -/
def plain : List Transform :=
  [identity, year, month, day, hour, void]

/-- A positive parameter that fits 32 bits, with an optional plus sign. -/
def parameter? (cs : List Char) : Option UInt32 :=
  match (Numeral.unsigned? cs).bind Width.uint32? with
  | some n => if n = 0 then none else some n
  | none => none

/-- Reads the stored text. Letter case and blanks matter. -/
def ofText (s : String) : Except TransformError Transform :=
  match plain.find? fun t => t.text == s with
  | some t => .ok t
  | none =>
    match between? "bucket[".toList [']'] s.toList,
        between? "truncate[".toList [']'] s.toList with
    | some inner, _ =>
      match parameter? inner with
      | some n => .ok (bucket n)
      | none => .error (.bucketParameter (String.ofList inner))
    | none, some inner =>
      match parameter? inner with
      | some w => .ok (truncate w)
      | none => .error (.truncateParameter (String.ofList inner))
    | none, none => .error (.unsupported s)

/-- The default name of a partition field over the column `source`. -/
def partitionName (t : Transform) (source : String) : String :=
  match t with
  | identity => source
  | bucket _ => s!"{source}_bucket"
  | truncate _ => s!"{source}_trunc"
  | year => s!"{source}_year"
  | month => s!"{source}_month"
  | day => s!"{source}_day"
  | hour => s!"{source}_hour"
  | void => s!"{source}_null"

/-- Whether partition values are in the order of the values they come from. -/
def preservesOrder : Transform → Bool
  | void | bucket _ => false
  | _ => true

/-- Whether rows in the order of the first transform are also in the order of the second. -/
def satisfiesOrderOf : Transform → Transform → Bool
  | identity, t => t.preservesOrder
  | hour, t => t == hour || t == day || t == month || t == year
  | day, t => t == day || t == month || t == year
  | month, t => t == month || t == year
  | s, t => s == t

end Transform

end Partitioning
