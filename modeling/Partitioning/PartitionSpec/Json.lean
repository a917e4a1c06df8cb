import Partitioning.Json.Reader
import Partitioning.PartitionSpec

/-!
# Transforms and partition specs in JSON
-/

namespace Partitioning

open Json Reader

/-- A transform is stored as its text. -/
def Transform.toJson (t : Transform) : Json := .string t.text

/-- Reads a transform from its text. The message about another text becomes the reason of
refusal. -/
def Transform.reader : Reader Transform := fun d => do
  let s ← string d
  match Transform.ofText s with
  | .ok t => pure t
  | .error e => .error (.refused e.message)

namespace UnboundField

/-- A descriptor is stored with the name of its column, and without a field id. -/
def toJson (f : UnboundField) : Json :=
  .object [("source-id", .int f.sourceId.toInt), ("source-name", .string f.sourceName),
    ("name", .string f.name), ("transform", f.transform.toJson)]

/-- The members in the order of a record written as a list. -/
def slots : List Slot :=
  [.of "source-id" int32, .of "source-name" string, .of "name" string,
    .of "transform" Transform.reader]

/-- Reads a descriptor. -/
def reader : Reader UnboundField := fun d => do
  let fields ← record "UnboundPartitionField" slots d
  pure {
    sourceId := ← fields.get "source-id" int32
    sourceName := ← fields.get "source-name" string
    name := ← fields.get "name" string
    transform := ← fields.get "transform" Transform.reader }

end UnboundField

namespace PartitionField

/-- A partition field is stored with its id, and without the name of its column. -/
def toJson (f : PartitionField) : Json :=
  .object [("source-id", .int f.sourceId.toInt), ("field-id", .int f.id.toInt),
    ("name", .string f.name), ("transform", f.transform.toJson)]

def slots : List Slot :=
  [.of "source-id" int32, .of "field-id" int32, .of "name" string,
    .of "transform" Transform.reader]

/-- Reads a partition field. -/
def reader : Reader PartitionField := fun d => do
  let fields ← record "PartitionField" slots d
  pure {
    sourceId := ← fields.get "source-id" int32
    id := ← fields.get "field-id" int32
    name := ← fields.get "name" string
    transform := ← fields.get "transform" Transform.reader }

end PartitionField

namespace PartitionSpec

/-- A spec is stored with its fields in their order. -/
def toJson (spec : PartitionSpec) : Json :=
  .object [("spec-id", .int spec.id.toInt),
    ("fields", .array (spec.fields.map PartitionField.toJson))]

def slots : List Slot :=
  [.of "spec-id" int32, .of "fields" (list PartitionField.reader)]

/-- Reads a spec. Ids and names that repeat are not looked for. -/
def reader : Reader PartitionSpec := fun d => do
  let parts ← record "PartitionSpec" slots d
  pure {
    id := ← parts.get "spec-id" int32
    fields := ← parts.get "fields" (list PartitionField.reader) }

end PartitionSpec

end Partitioning
