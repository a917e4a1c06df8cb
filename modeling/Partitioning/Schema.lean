import Partitioning.Schema.Index

/-!
# Schemas

The columns of a table with their index. In a schema all field ids, nested ones included, are
positive and distinct, and the names of the columns are distinct. Ids reach every field of the
tree, names only the columns.
-/

namespace Partitioning

/-- Fields with the index that was made of them. -/
structure Schema where
  id : Int32
  fields : List Field
  index : Schema.Index
  indexed : Schema.Index.ofFields fields = .ok index

namespace Schema

open Text

theorem index_eq_of_fields_eq {a b : Schema} (h : a.fields = b.fields) : a.index = b.index :=
  Except.ok.inj (a.indexed.symm.trans (h ▸ b.indexed))

/-- Schemas are compared without their indexes, which the fields determine. -/
instance : DecidableEq Schema := fun a b =>
  if h : a.id = b.id ∧ a.fields = b.fields then
    isTrue (by
      have hindex := index_eq_of_fields_eq h.2
      cases a
      cases b
      cases h.1
      cases h.2
      cases hindex
      rfl)
  else isFalse fun e => h ⟨congrArg id e, congrArg fields e⟩

/-- A schema in the making. -/
structure Draft where
  id : Int32 := 0
  fields : List Field := []

namespace Draft

def withId (d : Draft) (id : Int32) : Draft := { d with id }

def withField (d : Draft) (f : Field) : Draft := { d with fields := d.fields ++ [f] }

def withFields (d : Draft) (fs : List Field) : Draft := { d with fields := d.fields ++ fs }

/-- Makes the index, or reports the first field that keeps the fields from being a schema. -/
def build (d : Draft) : Except SchemaError Schema :=
  match h : Index.ofFields d.fields with
  | .ok index => .ok ⟨d.id, d.fields, index, h⟩
  | .error e => .error e

end Draft

def ofFields (fields : List Field) : Except SchemaError Schema :=
  Draft.build { fields }

/-- All fields of the tree. -/
def allFields (s : Schema) : List Field := Field.preorder s.fields

/-- The field with this id, at any depth. -/
def fieldById? (s : Schema) (id : Int32) : Option Field :=
  s.index.byId.lookup id

/-- The column of this name. -/
def fieldByName? (s : Schema) (name : String) : Option Field :=
  (s.index.idByName.lookup name).bind s.fieldById?

/-- The column of this name, else the first one whose name differs from it in case only. -/
def fieldByNameIgnoringCase? (s : Schema) (name : String) : Option Field :=
  (s.fieldByName? name).or ((s.index.idByLowerName.lookup (lower name)).bind s.fieldById?)

def typeById? (s : Schema) (id : Int32) : Option DataType :=
  (s.fieldById? id).map Field.type

/-- The greatest id of the tree, zero in an empty schema. -/
def highestId (s : Schema) : Int32 := s.index.highestId

/-- One line for each column. -/
def text (s : Schema) : String :=
  "table \x7b\n" ++ String.join (s.fields.map fun f => "  " ++ f.text ++ "\n") ++ "\x7d\n"

end Schema

end Partitioning
