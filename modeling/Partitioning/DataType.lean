import Partitioning.Primitive

/-!
# Data types

Column types of any depth. The element of a list and the key and value of a map are fields too.
Lists and maps are made from ids and types: the names of these fields are then fixed, and a key is
required.
-/

namespace Partitioning

mutual
/-- A primitive type, or a type made of fields. -/
inductive DataType where
  | primitive (p : Primitive)
  | struct (fields : List Field)
  | listOf (element : Field)
  | mapOf (key value : Field)

/-- A named, identified part of a struct, list or map, or a column of a schema. -/
structure Field where
  id : Int32
  name : String
  required : Bool
  type : DataType
  doc : Option String
end

mutual
/-- Types are compared part by part. -/
def DataType.decEq : (a b : DataType) → Decidable (a = b)
  | .primitive p, .primitive q =>
    if h : p = q then isTrue (by rw [h]) else isFalse (by simpa using h)
  | .struct fs, .struct gs =>
    match Field.listDecEq fs gs with
    | isTrue h => isTrue (by rw [h])
    | isFalse h => isFalse (by simpa using h)
  | .listOf a, .listOf b =>
    match Field.decEq a b with
    | isTrue h => isTrue (by rw [h])
    | isFalse h => isFalse (by simpa using h)
  | .mapOf a c, .mapOf b d =>
    match Field.decEq a b, Field.decEq c d with
    | isTrue h, isTrue h' => isTrue (by rw [h, h'])
    | isFalse h, _ => isFalse (by simp [h])
    | isTrue _, isFalse h => isFalse (by simp [h])
  | .primitive _, .struct _ | .primitive _, .listOf _ | .primitive _, .mapOf .. =>
    isFalse (by simp)
  | .struct _, .primitive _ | .struct _, .listOf _ | .struct _, .mapOf .. => isFalse (by simp)
  | .listOf _, .primitive _ | .listOf _, .struct _ | .listOf _, .mapOf .. => isFalse (by simp)
  | .mapOf .., .primitive _ | .mapOf .., .struct _ | .mapOf .., .listOf _ => isFalse (by simp)

def Field.decEq : (a b : Field) → Decidable (a = b)
  | ⟨i, n, r, a, d⟩, ⟨j, m, s, b, e⟩ =>
    match DataType.decEq a b with
    | isFalse h => isFalse (by simp [h])
    | isTrue h =>
      if g : i = j ∧ n = m ∧ r = s ∧ d = e then
        isTrue (by rw [h, g.1, g.2.1, g.2.2.1, g.2.2.2])
      else isFalse (by
        intro e
        injections
        exact g ⟨by assumption, by assumption, by assumption, by assumption⟩)

def Field.listDecEq : (as bs : List Field) → Decidable (as = bs)
  | [], [] => isTrue rfl
  | [], _ :: _ => isFalse (by simp)
  | _ :: _, [] => isFalse (by simp)
  | a :: as, b :: bs =>
    match Field.decEq a b, Field.listDecEq as bs with
    | isTrue h, isTrue h' => isTrue (by rw [h, h'])
    | isFalse h, _ => isFalse (by simp [h])
    | isTrue _, isFalse h => isFalse (by simp [h])
end

instance : DecidableEq DataType := DataType.decEq

instance : DecidableEq Field := Field.decEq

namespace Field

/-- The element of a list as a field. -/
def ofElement (id : Int32) (required : Bool) (type : DataType) : Field :=
  ⟨id, "element", required, type, none⟩

/-- The key of a map as a field. -/
def ofKey (id : Int32) (type : DataType) : Field :=
  ⟨id, "key", true, type, none⟩

/-- The value of a map as a field. -/
def ofMapValue (id : Int32) (required : Bool) (type : DataType) : Field :=
  ⟨id, "value", required, type, none⟩

end Field

namespace DataType

/-- A list of elements of a type. -/
def list (elementId : Int32) (elementRequired : Bool) (element : DataType) : DataType :=
  .listOf (Field.ofElement elementId elementRequired element)

/-- A map from keys of a type to values of a type. -/
def map (keyId : Int32) (key : DataType) (valueId : Int32) (valueRequired : Bool)
    (value : DataType) : DataType :=
  .mapOf (Field.ofKey keyId key) (Field.ofMapValue valueId valueRequired value)

def primitive? : DataType → Option Primitive
  | .primitive p => some p
  | _ => none

end DataType

mutual
/-- A type is shown with its members in brackets, lists and maps without ids and names. -/
def DataType.text : DataType → String
  | .primitive p => p.text
  | .struct fields => s!"struct<{Field.listText fields}>"
  | .listOf ⟨_, _, _, element, _⟩ => s!"list<{element.text}>"
  | .mapOf ⟨_, _, _, key, _⟩ ⟨_, _, _, value, _⟩ => s!"map<{key.text}, {value.text}>"

def Field.text : Field → String
  | ⟨id, name, required, type, doc⟩ =>
    let presence := if required then "required" else "optional"
    s!"{id.toInt}: {name}: {presence} {type.text}" ++
      match doc with
      | some doc => s!" ({doc})"
      | none => ""

def Field.listText : List Field → String
  | [] => ""
  | [f] => f.text
  | f :: rest => s!"{f.text}, {Field.listText rest}"
end

/-- A field is shown by its id, its name, whether it is required, its type, and its comment in
brackets. -/
theorem Field.text_eq (f : Field) :
    f.text = toString f.id.toInt ++ ": " ++ f.name ++ ": " ++
      (if f.required then "required" else "optional") ++ " " ++ f.type.text ++
      f.doc.elim "" fun doc => " (" ++ doc ++ ")" := by
  obtain ⟨id, name, required, type, doc⟩ := f
  cases doc with
  | none => rfl
  | some doc => rfl

/-- The element of a list is shown without its id, the members of a struct with theirs. -/
example :
    Field.text ⟨7, "parts", false, .list 8 true (.struct [⟨9, "x", true, .primitive .int, none⟩,
        ⟨-1, "y", false, .map 2 (.primitive .uuid) 3 false (.primitive (.decimal 9 2)), none⟩]),
      some "of a kit"⟩ =
      "7: parts: optional list<struct<9: x: required int, " ++
        "-1: y: optional map<uuid, decimal(9, 2)>>> (of a kit)" := by
  decide +kernel

mutual
/-- The fields inside a type, each before the fields inside its own type. -/
def DataType.nested : DataType → List Field
  | .primitive _ => []
  | .struct fields => Field.preorder fields
  | .listOf element => element.withNested
  | .mapOf key value => key.withNested ++ value.withNested

def Field.withNested : Field → List Field
  | ⟨id, name, required, type, doc⟩ => ⟨id, name, required, type, doc⟩ :: type.nested

/-- The fields of a list and all fields inside them, in pre-order. -/
def Field.preorder : List Field → List Field
  | [] => []
  | f :: rest => f.withNested ++ Field.preorder rest
end

end Partitioning
