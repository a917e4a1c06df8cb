import Partitioning.Json.Reader
import Partitioning.Settings

/-!
# Settings in JSON
-/

namespace Partitioning

open Json Reader

namespace PartitionSettings

def toJson (s : PartitionSettings) : Json :=
  .object [("case_sensitive", .bool s.caseSensitive),
    ("first_field_id", .int s.firstFieldId.toInt)]

def slots : List Slot :=
  [.of "case_sensitive" Reader.bool, .of "first_field_id" Reader.int32]

def reader : Json.Reader PartitionSettings := fun d => do
  let fields ← record "PartitionConfig" slots d
  pure {
    caseSensitive := ← fields.get "case_sensitive" Reader.bool
    firstFieldId := ← fields.get "first_field_id" Reader.int32 }

end PartitionSettings

def Settings.toJson (s : Settings) : Json :=
  .object [("partition", s.partition.toJson),
    ("logging", .object [("default_filter", .string s.logging.defaultFilter)])]

end Partitioning
