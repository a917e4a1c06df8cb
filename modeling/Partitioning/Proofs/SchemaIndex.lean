import Partitioning.Schema

/-!
# Indexes of schemas

Building an index visits the tree in pre-order and then the columns in order. It ends with the
first defect of the fields, or with an index that lists the tree by ids and the columns by names.
-/

namespace Partitioning.Schema

section Maps

variable {α κ β : Type} [BEq κ] [LawfulBEq κ]

/-- Looking a key up among the pairs made of a list is searching the list. -/
theorem lookup_map_pairs (key : α → κ) (value : α → β) (l : List α) (k : κ) :
    (l.map fun a => (key a, value a)).lookup k = (l.find? fun a => key a == k).map value := by
  induction l with
  | nil => rfl
  | cons a rest ih =>
      rw [List.map_cons, List.lookup_cons, List.find?_cons, BEq.comm (a := k)]
      cases key a == k with
      | true => rfl
      | false => exact ih

theorem lookup_isSome_iff {m : List (κ × β)} {k : κ} :
    (m.lookup k).isSome = true ↔ k ∈ m.map Prod.fst := by
  have hlookup := lookup_map_pairs Prod.fst Prod.snd m k
  rw [List.map_id'' fun _ => rfl] at hlookup
  rw [hlookup, Option.isSome_map, List.find?_isSome, List.mem_map]
  simp only [beq_iff_eq]

end Maps

/-- The first field whose id is not positive or is one of the ids before it. -/
def idDefect? (seen : List Int32) : List Field → Option SchemaError
  | [] => none
  | f :: rest =>
    if f.id ≤ 0 then some (.idNotPositive f)
    else if f.id ∈ seen then some (.duplicateId f.id)
    else idDefect? (seen ++ [f.id]) rest

/-- The first column whose name is one of the names before it. -/
def nameDefect? (seen : List String) : List Field → Option SchemaError
  | [] => none
  | f :: rest =>
    if f.name ∈ seen then some (.duplicateName f.name) else nameDefect? (seen ++ [f.name]) rest

/-- What keeps a list of fields from being a schema. Ids are looked at before names. -/
def defect? (fields : List Field) : Option SchemaError :=
  (idDefect? [] (Field.preorder fields)).or (nameDefect? [] fields)

namespace Index

mutual
/-- Entering what is inside a type enters its fields one by one, in pre-order. -/
theorem enterNested_eq_foldlM (byId : List (Int32 × Field)) (type : DataType) :
    enterNested byId type = type.nested.foldlM enter byId := by
  cases type with
  | primitive p => rfl
  | struct fields => exact enterAll_eq_foldlM byId fields
  | listOf element => exact enterField_eq_foldlM byId element
  | mapOf key value =>
      rw [enterNested, DataType.nested, List.foldlM_append]
      simp only [enterField_eq_foldlM _ key, enterField_eq_foldlM _ value]

/-- Entering a field enters it and what is inside it, in pre-order. -/
theorem enterField_eq_foldlM (byId : List (Int32 × Field)) (f : Field) :
    enterField byId f = f.withNested.foldlM enter byId := by
  obtain ⟨id, name, required, type, doc⟩ := f
  rw [enterField, Field.withNested, List.foldlM_cons]
  simp only [enterNested_eq_foldlM _ type]

/-- Entering a tree is entering its fields in pre-order. -/
theorem enterAll_eq_foldlM (byId : List (Int32 × Field)) (fields : List Field) :
    enterAll byId fields = (Field.preorder fields).foldlM enter byId := by
  cases fields with
  | nil => rfl
  | cons f rest =>
      rw [enterAll, Field.preorder, List.foldlM_append]
      simp only [enterField_eq_foldlM _ f, enterAll_eq_foldlM _ rest]
end

/-- Entering fields one after the other stops at the first defect of their ids. -/
theorem foldlM_enter_eq (byId : List (Int32 × Field)) (fields : List Field) :
    fields.foldlM enter byId =
      match idDefect? (byId.map Prod.fst) fields with
      | some e => .error e
      | none => .ok (byId ++ fields.map fun f => (f.id, f)) := by
  induction fields generalizing byId with
  | nil => simp [idDefect?, pure, Except.pure]
  | cons f rest ih =>
      rw [List.foldlM_cons, idDefect?, enter]
      by_cases hpos : f.id ≤ 0
      · rw [if_pos hpos, if_pos hpos]
        rfl
      · rw [if_neg hpos, if_neg hpos]
        by_cases hseen : f.id ∈ byId.map Prod.fst
        · rw [if_pos hseen, if_pos (lookup_isSome_iff.mpr hseen)]
          rfl
        · rw [if_neg hseen, if_neg (mt lookup_isSome_iff.mp hseen)]
          have hnext := ih (byId ++ [(f.id, f)])
          rw [List.map_append, List.append_assoc] at hnext
          exact hnext

/-- The lower-cased names of columns with the ids of the first columns that have them. -/
def lowerNames (m : List (String × Int32)) (fields : List Field) : List (String × Int32) :=
  fields.foldl (fun m f => orInsert m (Text.lower f.name) f.id) m

/-- A key is entered unless it has a value. -/
theorem lookup_orInsert (m : List (String × Int32)) (key k : String) (value : Int32) :
    (orInsert m key value).lookup k =
      (m.lookup k).or (if key == k then some value else none) := by
  unfold orInsert
  split
  · next hsome =>
      by_cases hk : key == k
      · obtain rfl := eq_of_beq hk
        obtain ⟨v, hv⟩ := Option.isSome_iff_exists.mp hsome
        rw [hv]
        rfl
      · rw [if_neg hk, Option.or_none]
  · rw [List.lookup_append, List.lookup_cons, BEq.comm (a := k)]
    cases key == k with
    | true => rfl
    | false => rfl

/-- A lower-cased name leads to the first column that has it. -/
theorem lookup_lowerNames (m : List (String × Int32)) (fields : List Field) (k : String) :
    (lowerNames m fields).lookup k =
      (m.lookup k).or ((fields.find? fun f => Text.lower f.name == k).map Field.id) := by
  induction fields generalizing m with
  | nil => exact (Option.or_none ..).symm
  | cons f rest ih =>
      rw [lowerNames, List.foldl_cons, ← lowerNames, ih, lookup_orInsert, Option.or_assoc,
        List.find?_cons]
      cases Text.lower f.name == k with
      | true => rfl
      | false => rfl

/-- Entering columns stops at the first defect of their names. -/
theorem enterNames_eq (index : Index) (fields : List Field) :
    enterNames index fields =
      match nameDefect? (index.idByName.map Prod.fst) fields with
      | some e => .error e
      | none => .ok { index with
          idByName := index.idByName ++ fields.map fun f => (f.name, f.id)
          idByLowerName := lowerNames index.idByLowerName fields } := by
  induction fields generalizing index with
  | nil => simp [enterNames, nameDefect?, lowerNames]
  | cons f rest ih =>
      rw [enterNames, nameDefect?]
      by_cases hseen : f.name ∈ index.idByName.map Prod.fst
      · rw [if_pos hseen, if_pos (lookup_isSome_iff.mpr hseen)]
      · rw [if_neg hseen, if_neg (mt lookup_isSome_iff.mp hseen), ih]
        simp only [List.map_append, List.append_assoc]
        rfl

/-- The index of fields without a defect. -/
def listing (fields : List Field) : Index where
  byId := (Field.preorder fields).map fun f => (f.id, f)
  idByName := fields.map fun f => (f.name, f.id)
  idByLowerName := lowerNames [] fields
  highestId := ((Field.preorder fields).map Field.id).max?.getD 0

/-- The index is made exactly when the passes over the fields find nothing. -/
theorem ofFields_eq (fields : List Field) :
    ofFields fields =
      match defect? fields with
      | some e => .error e
      | none => .ok (listing fields) := by
  rw [ofFields, enterAll_eq_foldlM, foldlM_enter_eq, defect?, List.map_nil]
  cases idDefect? [] (Field.preorder fields) with
  | some e => rfl
  | none =>
      rw [Option.none_or]
      simp only [bind, Except.bind, enterNames_eq, List.map_nil, List.nil_append, List.map_map]
      rfl

theorem ofFields_eq_ok_iff {fields : List Field} {index : Index} :
    ofFields fields = .ok index ↔ defect? fields = none ∧ index = listing fields := by
  rw [ofFields_eq]
  cases defect? fields with
  | some e => simp
  | none => simp [eq_comm]

end Index

end Partitioning.Schema
