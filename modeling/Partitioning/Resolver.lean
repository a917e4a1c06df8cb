import Partitioning.Declaration
import Partitioning.PartitionSpec

/-!
# Resolving declarations

A resolver binds declarations to the columns of a schema and renders them back. The canonical
declaration of a field names its column as the schema does, so it reads back as the same field.
-/

namespace Partitioning

structure Resolver where
  caseSensitive : Bool := false
  firstFieldId : Int32 := firstPartitionId
  notReserved : firstPartitionId ≤ firstFieldId := by decide

namespace Resolver

/-- The ids below `firstPartitionId` belong to schema fields. -/
def new (caseSensitive : Bool) (firstFieldId : Int32) : Except PartitionError Resolver :=
  if h : firstPartitionId ≤ firstFieldId then .ok ⟨caseSensitive, firstFieldId, h⟩
  else .error (.reservedFirstId firstFieldId)

def withCaseSensitive (r : Resolver) (caseSensitive : Bool) : Resolver :=
  { r with caseSensitive }

/-- The column of a name. A name that is matched in any case is reported in lower case. -/
def column (r : Resolver) (schema : Schema) (name : String) : Except PartitionError Field :=
  if r.caseSensitive then
    match schema.fieldByName? name with
    | some f => .ok f
    | none => .error (.unresolvedColumn name)
  else
    match schema.fieldByNameIgnoringCase? name with
    | some f => .ok f
    | none => .error (.unresolvedColumn (Text.lower name))

def resolve (r : Resolver) (schema : Schema) (declaration : String) :
    Except PartitionError UnboundField := do
  let (name, transform) ← Declaration.read declaration
  let source ← r.column schema name
  transform.checkSource source.type
  pure ⟨source.id, source.name, transform.partitionName source.name, transform⟩

/-- The spec of a list of declarations, or the error of the first invalid one. -/
def resolveAll (r : Resolver) (schema : Schema) (declarations : List String) :
    Except PartitionError PartitionSpec := do
  let fields ← declarations.mapM (r.resolve schema)
  let draft : PartitionSpec.Draft := {}
  (fields.foldl .addUnbound (draft.withFirstFieldId r.firstFieldId)).build

def error? {α : Type} : Except PartitionError α → Option PartitionError
  | .error e => some e
  | .ok _ => none

/-- The errors of all invalid declarations. -/
def errors (r : Resolver) (schema : Schema) (declarations : List String) : List PartitionError :=
  declarations.filterMap fun d => error? (r.resolve schema d)

end Resolver

namespace Schema

/-- The canonical declaration of a transform of the field with this id. -/
def declaration (schema : Schema) (sourceId : Int32) (transform : Transform) :
    Except PartitionError String :=
  match schema.fieldById? sourceId with
  | some source => .ok (Declaration.canonical source.name transform)
  | none => .error (.missingSource sourceId)

/-- The canonical declarations of a spec, in its order. -/
def declarations (schema : Schema) (spec : PartitionSpec) : Except PartitionError (List String) :=
  spec.fields.mapM fun f => schema.declaration f.sourceId f.transform

end Schema

end Partitioning
