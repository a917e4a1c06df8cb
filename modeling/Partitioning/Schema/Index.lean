import Partitioning.DataType
import Partitioning.Text.Lowercase

/-!
# Schema indexes

What a schema is searched by: every field of the tree under its id, and the id of every column
under its name and under its name in lower case. The index is built in one pass over the tree and
one over the columns, and these passes find what keeps the fields from being a schema. A map is a
list of keys with their values.
-/

namespace Partitioning

inductive SchemaError where
  | idNotPositive (field : Field)
  | duplicateId (id : Int32)
  | duplicateName (name : String)
  deriving DecidableEq

namespace SchemaError

/-- The message without its category. -/
def detail : SchemaError → String
  | idNotPositive field => s!"field id must be positive: {field.text}"
  | duplicateId id => s!"duplicate field id: {id.toInt}"
  | duplicateName name => s!"duplicate field name: {name}"

def message (e : SchemaError) : String := s!"invalid field: {e.detail}"

end SchemaError

namespace Schema

open Text

structure Index where
  byId : List (Int32 × Field)
  idByName : List (String × Int32)
  idByLowerName : List (String × Int32)
  highestId : Int32

namespace Index

/-- Enters a field under its id. -/
def enter (byId : List (Int32 × Field)) (f : Field) :
    Except SchemaError (List (Int32 × Field)) :=
  if f.id ≤ 0 then .error (.idNotPositive f)
  else if (byId.lookup f.id).isSome then .error (.duplicateId f.id)
  else .ok (byId ++ [(f.id, f)])

mutual
/-- Enters the fields inside a type. -/
def enterNested (byId : List (Int32 × Field)) :
    DataType → Except SchemaError (List (Int32 × Field))
  | .primitive _ => .ok byId
  | .struct fields => enterAll byId fields
  | .listOf element => enterField byId element
  | .mapOf key value => do enterField (← enterField byId key) value

/-- Enters a field and the fields inside its type. -/
def enterField (byId : List (Int32 × Field)) :
    Field → Except SchemaError (List (Int32 × Field))
  | ⟨id, name, required, type, doc⟩ => do
    enterNested (← enter byId ⟨id, name, required, type, doc⟩) type

def enterAll (byId : List (Int32 × Field)) :
    List Field → Except SchemaError (List (Int32 × Field))
  | [] => .ok byId
  | f :: rest => do enterAll (← enterField byId f) rest
end

/-- A key that has a value keeps it. -/
def orInsert (m : List (String × Int32)) (key : String) (value : Int32) :
    List (String × Int32) :=
  if (m.lookup key).isSome then m else m ++ [(key, value)]

/-- Enters columns under their names. Of names that differ in case only, the first one wins. -/
def enterNames (index : Index) : List Field → Except SchemaError Index
  | [] => .ok index
  | f :: rest =>
    if (index.idByName.lookup f.name).isSome then .error (.duplicateName f.name)
    else
      enterNames { index with
        idByName := index.idByName ++ [(f.name, f.id)]
        idByLowerName := orInsert index.idByLowerName (lower f.name) f.id } rest

def ofFields (fields : List Field) : Except SchemaError Index := do
  let byId ← enterAll [] fields
  enterNames ⟨byId, [], [], (byId.map Prod.fst).max?.getD 0⟩ fields

end Index

end Schema

end Partitioning
