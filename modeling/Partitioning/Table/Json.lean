import Partitioning.DataType.Json
import Partitioning.Table

/-!
# Tables in JSON
-/

namespace Partitioning

open Json Reader

namespace Column

/-- All members are written, a missing comment as null. -/
def toJson (c : Column) : Json :=
  .object [("handle", .int c.handle.toInt), ("name", .string c.name),
    ("column_type", c.type.toJson), ("nullable", .bool c.nullable),
    ("comment", .ofOption (c.comment.map .string))]

/-- The members in the order of a record written as a list, where none may be left out. -/
def slots : List Slot :=
  [.of "handle" int32, .of "name" string, .of "column_type" DataType.reader,
    .of "nullable" bool, .of "comment" (optional string)]

/-- Reads a column. An object may lack the comment. -/
def reader : Reader Column := fun d => do
  let fields ← record "ColumnInfo" slots d
  pure {
    handle := ← fields.get "handle" int32
    name := ← fields.get "name" string
    type := ← fields.get "column_type" DataType.reader
    nullable := ← fields.get "nullable" bool
    comment := ← fields.getD "comment" (optional string) none }

end Column

namespace Table

/-- All members are written, the properties as they are. -/
def toJson (t : Table) : Json :=
  .object [("id", .int t.id.toInt), ("schema_name", .string t.schemaName),
    ("table_name", .string t.name), ("columns", .array (t.columns.map Column.toJson)),
    ("properties", .object t.properties), ("comment", .ofOption (t.comment.map .string))]

/-- Properties are any values, kept in canonical form. -/
def propertiesReader : Reader (List (String × Json)) := map json

/-- In a list, too, properties and comment may be left out. -/
def slots : List Slot :=
  [.of "id" int64, .of "schema_name" string, .of "table_name" string,
    .of "columns" (list Column.reader), .defaulted "properties" propertiesReader,
    .defaulted "comment" (optional string)]

/-- Reads a table, with no properties and no comment when it lacks them. -/
def reader : Reader Table := fun d => do
  let fields ← record "TableInfo" slots d
  pure {
    id := ← fields.get "id" int64
    schemaName := ← fields.get "schema_name" string
    name := ← fields.get "table_name" string
    columns := ← fields.get "columns" (list Column.reader)
    properties := ← fields.getD "properties" propertiesReader []
    comment := ← fields.getD "comment" (optional string) none }

end Table

end Partitioning
