import Partitioning.Schema
import Partitioning.Transform.Source

/-!
# Partition specs

The partition fields of a table in order. A draft gives every added field the next id and a name
that no earlier field has.
-/

namespace Partitioning

/-- A transform of a column, before it has a place in a spec. -/
structure UnboundField where
  sourceId : Int32
  sourceName : String
  name : String
  transform : Transform
  deriving DecidableEq

structure PartitionField where
  sourceId : Int32
  id : Int32
  name : String
  transform : Transform
  deriving DecidableEq

/-- Partition fields in their order. -/
structure PartitionSpec where
  id : Int32
  fields : List PartitionField
  deriving DecidableEq

namespace PartitionSpec

def unpartitioned : PartitionSpec := ⟨0, []⟩

/-- Whether no field produces a value. -/
def isUnpartitioned (spec : PartitionSpec) : Bool :=
  spec.fields.all (·.transform == .void)

def highestId? (spec : PartitionSpec) : Option Int32 :=
  match spec.fields with
  | [] => none
  | f :: rest => some (rest.foldl (fun n g => if n < g.id then g.id else n) f.id)

/-- The field of the partition struct that holds the values of a partition field. -/
def structField (schema : Schema) (f : PartitionField) : Except PartitionError Field :=
  match schema.typeById? f.sourceId with
  | none => .error (.missingSource f.sourceId)
  | some source => do
    let type ← f.transform.resultType source
    pure ⟨f.id, f.name, false, type, none⟩

/-- The fields of the struct of partition values. -/
def structFields (spec : PartitionSpec) (schema : Schema) : Except PartitionError (List Field) :=
  spec.fields.mapM (structField schema)

/-- The struct of the partition values over a schema. -/
def partitionType (spec : PartitionSpec) (schema : Schema) : Except PartitionError DataType :=
  (spec.structFields schema).map .struct

/-- Whether two fields agree up to their ids. -/
def sameField (f g : PartitionField) : Bool :=
  f.sourceId == g.sourceId && f.name == g.name && f.transform == g.transform

/-- Whether two specs agree up to their ids and the ids of their fields. -/
def isCompatibleWith (a b : PartitionSpec) : Bool :=
  a.fields.length == b.fields.length &&
    (a.fields.zip b.fields).all fun p => sameField p.1 p.2

/-- The first of `name_n`, `name_(n+1)`, … that is not taken; gives up after `fuel` steps. -/
def firstFree (taken : List String) (name : String) : Nat → Nat → String
  | 0, n => s!"{name}_{n}"
  | fuel + 1, n =>
    if s!"{name}_{n}" ∈ taken then firstFree taken name fuel (n + 1) else s!"{name}_{n}"

/-- The name itself if it is free, else the first free `name_2`, `name_3`, … Fewer candidates are
taken than there are taken names, because the name is one of them. -/
def uniqueName (taken : List String) (name : String) : String :=
  if name ∈ taken then firstFree taken name taken.length 2 else name

/-- A spec in the making. There is no next id once the last field id is given away. A field that
comes after it is lost, and the draft remembers that. -/
structure Draft where
  id : Int32 := 0
  fields : List PartitionField := []
  names : List String := []
  nextId : Option Int32 := some firstPartitionId
  exhausted : Bool := false

namespace Draft

def withId (d : Draft) (id : Int32) : Draft := { d with id }

/-- Sets the id of the next field. -/
def withFirstFieldId (d : Draft) (id : Int32) : Draft := { d with nextId := some id }

def add (d : Draft) (sourceId : Int32) (name : String) (transform : Transform) : Draft :=
  match d.nextId with
  | none => { d with exhausted := true }
  | some id =>
    let name := uniqueName d.names name
    { d with
      fields := d.fields ++ [⟨sourceId, id, name, transform⟩]
      names := d.names ++ [name]
      nextId := Width.int32? (id.toInt + 1) }

def addUnbound (d : Draft) (f : UnboundField) : Draft :=
  d.add f.sourceId f.name f.transform

/-- Makes the spec, unless the field ids ran out at some point. -/
def build (d : Draft) : Except PartitionError PartitionSpec :=
  if d.exhausted then .error .idsExhausted else .ok ⟨d.id, d.fields⟩

end Draft

end PartitionSpec

end Partitioning
