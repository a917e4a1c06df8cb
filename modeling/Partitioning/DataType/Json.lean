import Partitioning.DataType
import Partitioning.Json.Reader

/-!
# Types and fields in JSON

A primitive type is its text, any other type an object with a `type` of its own. A type is read
as a whole: any defect in it, at any depth, means that no form of a type fits.
-/

namespace Partitioning

mutual
def DataType.toJson : DataType → Json
  | .primitive p => .string p.text
  | .struct fields =>
    .object [("type", .string "struct"), ("fields", .array (Field.listToJson fields))]
  | .listOf ⟨id, _, required, element, _⟩ =>
    .object [("type", .string "list"), ("element-id", .int id.toInt),
      ("element-required", .bool required), ("element", element.toJson)]
  | .mapOf ⟨keyId, _, _, key, _⟩ ⟨valueId, _, valueRequired, value, _⟩ =>
    .object [("type", .string "map"), ("key-id", .int keyId.toInt), ("key", key.toJson),
      ("value-id", .int valueId.toInt), ("value-required", .bool valueRequired),
      ("value", value.toJson)]

/-- A field without a comment is written without the member for it. -/
def Field.toJson : Field → Json
  | ⟨id, name, required, type, doc⟩ =>
    .object ([("id", .int id.toInt), ("name", .string name), ("required", .bool required),
      ("type", type.toJson)] ++
      match doc with
      | some doc => [("doc", .string doc)]
      | none => [])

def Field.listToJson : List Field → List Json
  | [] => []
  | f :: rest => f.toJson :: Field.listToJson rest
end

/-- What a value inside a type can be read as. -/
structure DataType.View where
  json : Json
  type? : Option DataType
  field? : Option Field
  fields? : Option (List Field)

namespace DataType.View

/-- The views of the members of an object under their keys. -/
abbrev Members := List (String × View)

def int32? (v : View) : Option Int32 :=
  match v.json with
  | .number (.integer n) => Width.int32? n
  | _ => none

def bool? (v : View) : Option Bool :=
  match v.json with
  | .bool b => some b
  | _ => none

def string? (v : View) : Option String :=
  match v.json with
  | .string s => some s
  | _ => none

/-- A text or nothing. -/
def doc? (v : View) : Option (Option String) :=
  match v.json with
  | .null => some none
  | .string s => some (some s)
  | _ => none

/-- The member with this key, if there is exactly one. -/
def Members.only? (members : Members) (key : String) : Option View :=
  match members.filter (·.1 == key) with
  | [(_, v)] => some v
  | _ => none

/-- Whether the object says which kind of type it is, in one word. -/
def Members.isType (members : Members) (word : String) : Bool :=
  (members.only? "type").bind string? == some word

/-- A struct, read from its fields. -/
def struct? (members : Members) : Option DataType := do
  guard (members.isType "struct")
  let fields ← (← members.only? "fields").fields?
  pure (.struct fields)

/-- A list, read from the id, the requirement and the type of its element. -/
def list? (members : Members) : Option DataType := do
  guard (members.isType "list")
  let id ← (← members.only? "element-id").int32?
  let required ← (← members.only? "element-required").bool?
  let element ← (← members.only? "element").type?
  pure (.list id required element)

/-- A map, read from the ids and types of its key and value. -/
def map? (members : Members) : Option DataType := do
  guard (members.isType "map")
  let keyId ← (← members.only? "key-id").int32?
  let key ← (← members.only? "key").type?
  let valueId ← (← members.only? "value-id").int32?
  let valueRequired ← (← members.only? "value-required").bool?
  let value ← (← members.only? "value").type?
  pure (.map keyId key valueId valueRequired value)

/-- A field, read from an object; the comment may be missing or null. -/
def fieldOfMembers? (members : Members) : Option Field := do
  let id ← (← members.only? "id").int32?
  let name ← (← members.only? "name").string?
  let required ← (← members.only? "required").bool?
  let type ← (← members.only? "type").type?
  let doc ←
    if members.any (·.1 == "doc") then (← members.only? "doc").doc? else some none
  pure ⟨id, name, required, type, doc⟩

/-- A field may be written as a list, with or without its doc. -/
def fieldOfItems? : List View → Option Field
  | [id, name, required, type] => do
    pure ⟨← id.int32?, ← name.string?, ← required.bool?, ← type.type?, none⟩
  | [id, name, required, type, doc] => do
    pure ⟨← id.int32?, ← name.string?, ← required.bool?, ← type.type?, ← doc.doc?⟩
  | _ => none

def ofMembers (json : Json) (members : Members) : View :=
  { json, type? := (struct? members).or ((list? members).or (map? members)),
    field? := fieldOfMembers? members, fields? := none }

def ofItems (json : Json) (items : List View) : View :=
  { json, type? := none, field? := fieldOfItems? items, fields? := items.mapM field? }

/-- A text is read as a primitive type. -/
def ofString (s : String) : View :=
  { json := .string s, type? := (Primitive.ofText s).toOption.map .primitive,
    field? := none, fields? := none }

mutual
def ofJson : Json → View
  | .string s => ofString s
  | .array items => ofItems (.array items) (listOfJson items)
  | .object members => ofMembers (.object members) (membersOfJson members)
  | j => ⟨j, none, none, none⟩

def listOfJson : List Json → List View
  | [] => []
  | j :: rest => ofJson j :: listOfJson rest

def membersOfJson : List (String × Json) → Members
  | [] => []
  | (k, j) :: rest => (k, ofJson j) :: membersOfJson rest
end

end DataType.View

/-- The type a value is the JSON form of. -/
def DataType.ofJson? (j : Json) : Option DataType :=
  (DataType.View.ofJson j).type?

open Json Reader

/-- Reads a type in whichever form it has. Why no form fits is not said. -/
def DataType.reader : Reader DataType := fun d =>
  match d.toJson with
  | .error fault => .error (.fault fault)
  | .ok j =>
    match DataType.ofJson? j with
    | some t => .ok t
    | none => .error (.noForm "SerdeType")

/-- The members in the order of a record written as a list. -/
def Field.slots : List Slot :=
  [.of "id" int32, .of "name" string, .of "required" bool, .of "type" DataType.reader,
    .defaulted "doc" (optional string)]

/-- Reads a field. An object may lack the comment. -/
def Field.reader : Reader Field := fun d => do
  let fields ← record "NestedField" Field.slots d
  pure {
    id := ← fields.get "id" int32
    name := ← fields.get "name" string
    required := ← fields.get "required" bool
    type := ← fields.get "type" DataType.reader
    doc := ← fields.getD "doc" (optional string) none }

end Partitioning
