import Partitioning.DataType
import Partitioning.Transform

/-!
# Errors of partition declarations
-/

namespace Partitioning

/-- Partition field ids below this one are reserved for schema fields. -/
def firstPartitionId : Int32 := 1000

inductive PartitionError where
  /-- The text is no declaration. -/
  | malformed (declaration : String)
  | bucketCount (n : Int)
  | truncateWidth (n : Int)
  | unresolvedColumn (column : String)
  | missingSource (id : Int32)
  | containerSource (source : DataType)
  | unbucketable (source : DataType)
  | untruncatable (source : DataType)
  | unsupportedSource (source : DataType) (transform : Transform)
  | reservedFirstId (id : Int32)
  | idsExhausted
  deriving DecidableEq

namespace PartitionError

def message : PartitionError → String
  | malformed declaration => s!"Invalid partition field declaration: {declaration}"
  | bucketCount n => s!"Invalid number of buckets: {n} (must be > 0)"
  | truncateWidth n => s!"Invalid truncate width: {n} (must be > 0)"
  | unresolvedColumn column => s!"Cannot find source column: {column}"
  | missingSource id => s!"Cannot find source column with id {id.toInt}"
  | containerSource source => s!"Cannot partition by non-primitive source field: {source.text}"
  | unbucketable source => s!"Cannot bucket by type: {source.text}"
  | untruncatable source => s!"Cannot truncate type: {source.text}"
  | unsupportedSource source t => s!"Cannot partition type {source.text} by {t.text}"
  | reservedFirstId id =>
    s!"Invalid first partition field id: {id.toInt} (must be >= {firstPartitionId.toInt})"
  | idsExhausted => "Cannot assign partition field id: ids exhausted"

/-- The category an error is reported under. -/
def category : PartitionError → String
  | malformed _ | bucketCount _ | truncateWidth _ => "Syntax"
  | unresolvedColumn _ => "UnresolvedColumn"
  | missingSource _ => "MissingSourceField"
  | containerSource _ | unbucketable _ | untruncatable _ | unsupportedSource _ _ =>
    "TypeIncompatibility"
  | reservedFirstId _ => "InvalidFirstFieldId"
  | idsExhausted => "FieldIdOverflow"

end PartitionError

end Partitioning
