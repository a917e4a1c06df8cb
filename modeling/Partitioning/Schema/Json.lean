import Partitioning.DataType.Json
import Partitioning.Schema

/-!
# Schemas in JSON
-/

namespace Partitioning.Schema

open Json Reader

/-- A schema is stored like a struct, with its id. The index is left out. -/
def toJson (s : Schema) : Json :=
  .object [("type", .string "struct"), ("schema-id", .int s.id.toInt),
    ("fields", .array (Field.listToJson s.fields))]

/-- Only the id has a default. -/
def slots : List Slot :=
  [.of "type" (word "struct"), .defaulted "schema-id" int32, .of "fields" (list Field.reader)]

/-- Reads a schema, with id zero when it has none. Its fields go through the builder, which makes
the index or says why they are no schema. -/
def reader : Reader Schema := fun d => do
  let parts ← record "SchemaData" slots d
  parts.get "type" (word "struct")
  let id ← parts.getD "schema-id" int32 0
  let fields ← parts.get "fields" (list Field.reader)
  match (Draft.mk id fields).build with
  | .ok s => pure s
  | .error e => .error (.refused e.message)

end Partitioning.Schema
