import Partitioning.Json.Reader
import Partitioning.Json.Writer
import Partitioning.Resolver

/-!
# Tables

A table's name, columns and properties. The handle of a column is its field id in the schema of
the table. Properties are kept in canonical form, and three of them are understood here.
-/

namespace Partitioning

structure Column where
  handle : Int32
  name : String
  type : DataType
  nullable : Bool := true
  comment : Option String := none
  deriving DecidableEq

structure Table where
  id : Int64
  schemaName : String
  name : String
  columns : List Column
  properties : List (String × Json) := []
  comment : Option String := none

/-- What can be wrong with a table or with a question about it. -/
inductive TableError where
  | partitioningNotTexts (error : Json.ReadError)
  | nullProbability (value : Json)
  | defaultLimit (value : Json)
  | noColumn (handle : Int32) (table : String)
  | partition (error : PartitionError)
  | schema (error : SchemaError)

namespace TableError

/-- The message of an unusable property without its category. -/
def detail : TableError → String
  | partitioningNotTexts e => s!"partitioning must be an array of strings: {e.message}"
  | nullProbability value => s!"null_probability must be a number between 0 and 1: {value.compact}"
  | defaultLimit value => s!"default_limit must be a positive integer: {value.compact}"
  | noColumn handle table => s!"column {handle.toInt} in table {table}"
  | partition e => e.message
  | schema e => e.message

def message (e : TableError) : String :=
  match e with
  | partitioningNotTexts _ | nullProbability _ | defaultLimit _ => s!"invalid argument: {e.detail}"
  | noColumn _ _ => s!"not found: {e.detail}"
  | partition _ | schema _ => e.detail

/-- The category an error is reported under. -/
def category : TableError → String
  | partitioningNotTexts _ | nullProbability _ | defaultLimit _ => "InvalidArgument"
  | noColumn _ _ => "NotFound"
  | partition e => s!"Partition.{e.category}"
  | schema _ => "Schema.InvalidField"

end TableError

/-- The schema field of a column. -/
def Column.field (c : Column) : Field :=
  ⟨c.handle, c.name, !c.nullable, c.type, c.comment⟩

namespace Table

def qualifiedName (t : Table) : String := s!"{t.schemaName}.{t.name}"

/-- The first column with this handle. -/
def column (t : Table) (handle : Int32) : Except TableError Column :=
  match t.columns.find? (·.handle == handle) with
  | some c => .ok c
  | none => .error (.noColumn handle t.qualifiedName)

def withColumns (t : Table) (columns : List Column) : Table := { t with columns }

def withProperties (t : Table) (properties : List (String × Json)) : Table := { t with properties }

def withComment (t : Table) (comment : Option String) : Table := { t with comment }

/-- The columns as a schema, with id zero. -/
def schema (t : Table) : Except TableError Schema :=
  match Schema.ofFields (t.columns.map Column.field) with
  | .ok s => .ok s
  | .error e => .error (.schema e)

/-- The declarations in the property `partitioning`, nothing without the property. -/
def declarations? (t : Table) : Except TableError (Option (List String)) :=
  match t.properties.lookup "partitioning" with
  | none => .ok none
  | some value =>
    match Json.readValue (Json.Reader.list Json.Reader.string) value with
    | .ok declarations => .ok (some declarations)
    | .error e => .error (.partitioningNotTexts e)

/-- The spec that the property `partitioning` declares. -/
def partitionSpec (t : Table) (r : Resolver) : Except TableError PartitionSpec := do
  match ← t.declarations? with
  | none => pure .unpartitioned
  | some declarations =>
    let s ← t.schema
    match r.resolveAll s declarations with
    | .ok spec => pure spec
    | .error e => .error (.partition e)

/-- Whether a double lies between zero and one, both included. -/
def isProbability (bits : UInt64) : Bool :=
  Binary.double.magnitude bits.toNat == 0 || bits ≤ 0x3FF0000000000000

/-- The probability that a generated value is null, as the bits of a double. -/
def nullProbability? (t : Table) : Except TableError (Option UInt64) :=
  match t.properties.lookup "null_probability" with
  | none => .ok none
  | some (.number n) =>
    if isProbability n.toDouble then .ok (some n.toDouble)
    else .error (.nullProbability (.number n))
  | some value => .error (.nullProbability value)

/-- The number of rows returned to a query without a limit. -/
def defaultLimit? (t : Table) : Except TableError (Option UInt64) :=
  match t.properties.lookup "default_limit" with
  | none => .ok none
  | some (.number (.integer n)) =>
    match Width.uint64? n.toNat with
    | some limit =>
      if 0 < n then .ok (some limit) else .error (.defaultLimit (.number (.integer n)))
    | none => .error (.defaultLimit (.number (.integer n)))
  | some value => .error (.defaultLimit value)

/-- Equality of tables, with the numbers in their properties compared as numbers. -/
def same (a b : Table) : Bool :=
  a.id == b.id && a.schemaName == b.schemaName && a.name == b.name && a.columns == b.columns &&
    Json.sameMembers a.properties b.properties && a.comment == b.comment

end Table

end Partitioning
