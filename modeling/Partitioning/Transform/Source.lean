import Partitioning.PartitionError

/-!
# Source types of transforms

Which column types a transform can be applied to, and the type of the partition values it
produces.
-/

namespace Partitioning.Transform

def isTruncatable : Primitive → Bool
  | .int | .long | .decimal _ _ | .string | .binary => true
  | _ => false

/-- Fails unless the transform can be applied to values of the type. -/
def checkSource (t : Transform) (source : DataType) : Except PartitionError Unit :=
  let allows (p : Primitive → Bool) (e : PartitionError) : Except PartitionError Unit :=
    if source.primitive?.any p then .ok () else .error e
  match t with
  | identity => allows (fun _ => true) (.containerSource source)
  | void => .ok ()
  | year | month | day | hour => allows Primitive.isDateOrTimestamp (.unsupportedSource source t)
  | bucket _ => allows (fun p => !p.isFloatingPoint) (.unbucketable source)
  | truncate _ => allows isTruncatable (.untruncatable source)

/-- The type of the partition values of a column. -/
def resultType (t : Transform) (source : DataType) : Except PartitionError DataType := do
  t.checkSource source
  match t with
  | identity | truncate _ | void => pure source
  | day => pure (.primitive .date)
  | year | month | hour | bucket _ => pure (.primitive .int)

end Partitioning.Transform
