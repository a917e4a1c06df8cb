import Partitioning.Proofs.Schema

/-!
# Look-ups and the tree

The look-ups of a schema go through its index. They answer what a search of the tree and of the
columns would: an id leads to the one place it stands at, a name to its column, and the greatest id
is the maximum over the tree. So schemas that compare equal answer alike.
-/

namespace Partitioning

instance instLawfulOrderMaxInt32 : Std.LawfulOrderMax Int32 where
  max_eq_or a b := by
    change (if a ≤ b then b else a) = a ∨ (if a ≤ b then b else a) = b
    split
    · exact .inr rfl
    · exact .inl rfl
  max_le_iff a b c := by
    change (if a ≤ b then b else a) ≤ c ↔ _
    split
    · next hab => exact ⟨fun hbc => ⟨Int32.le_trans hab hbc, hbc⟩, fun h => h.2⟩
    · next hab =>
        have hba : b ≤ a := (Int32.le_total a b).resolve_left hab
        exact ⟨fun hac => ⟨hac, Int32.le_trans hba hac⟩, fun h => h.1⟩

namespace Schema

variable {s : Schema} {f : Field}

/-- The fields of a schema are those of its tree. -/
theorem mem_allFields_iff : f ∈ s.allFields ↔ Field.InTree s.fields f :=
  Field.mem_preorder_iff

theorem allFields_eq_nil_iff : s.allFields = [] ↔ s.fields = [] := by
  rw [allFields, Field.preorder_eq_flatMap, List.flatMap_eq_nil_iff, List.eq_nil_iff_forall_not_mem]
  simp only [Field.withNested_eq, reduceCtorEq, imp_false]

/-- The one place of an id in the tree. -/
theorem fieldById?_eq_some_iff_at? {id : Int32} :
    s.fieldById? id = some f ↔
      ∃ path, Field.at? s.fields path = some f ∧ f.id = id ∧
        ∀ other g, Field.at? s.fields other = some g → g.id = id → other = path := by
  rw [fieldById?_eq_some_iff, mem_allFields_iff]
  constructor
  · rintro ⟨⟨path, hf⟩, rfl⟩
    refine ⟨path, hf, rfl, ?_⟩
    intro other g hg hid
    -- Distinct ids make the place unique, not only the field that stands there.
    exact Field.path_eq s.wellFormed.idsDistinct hg hf hid
  · rintro ⟨path, hf, hid, _⟩
    exact ⟨⟨path, hf⟩, hid⟩

/-- The greatest id is the maximum over the tree, zero without fields. -/
theorem highestId_eq_iff {id : Int32} :
    s.highestId = id ↔
      (s.fields = [] ∧ id = 0) ∨
        ((∃ f, Field.InTree s.fields f ∧ f.id = id) ∧
          ∀ f, Field.InTree s.fields f → f.id ≤ id) := by
  simp only [← mem_allFields_iff]
  have hmax : s.highestId = (s.allFields.map Field.id).max?.getD 0 := by
    rw [highestId, index_eq, Index.listing, allFields]
  rw [hmax]
  -- Only an empty tree has no maximum, and only then does the zero of the look-up count.
  cases hids : (s.allFields.map Field.id).max? with
  | none =>
      rw [List.max?_eq_none_iff, List.map_eq_nil_iff] at hids
      simp [hids, allFields_eq_nil_iff.mp hids, eq_comm]
  | some greatest =>
      have hne : s.fields ≠ [] := by
        intro hnil
        rw [allFields_eq_nil_iff.mpr hnil] at hids
        cases hids
      obtain ⟨hmem, hle⟩ := List.max?_eq_some_iff.mp hids
      rw [List.forall_mem_map] at hle
      simp only [hne, false_and, false_or, Option.getD_some]
      constructor
      · rintro rfl
        exact ⟨List.mem_map.mp hmem, hle⟩
      · rintro ⟨hmem', hle'⟩
        obtain ⟨f, hf, rfl⟩ := List.mem_map.mp hmem
        obtain ⟨g, hg, rfl⟩ := hmem'
        exact Int32.le_antisymm (hle' f hf) (hle g hg)

/-- A name stands at one position among the columns. -/
theorem eq_of_name_eq {i j : Nat} {f g : Field} (hf : s.fields[i]? = some f)
    (hg : s.fields[j]? = some g) (h : f.name = g.name) : i = j := by
  have hname : (s.fields.map Field.name)[i]? = (s.fields.map Field.name)[j]? := by
    rw [List.getElem?_map, List.getElem?_map, hf, hg, Option.map_some, Option.map_some, h]
  have hi : i < (s.fields.map Field.name).length := by
    rw [List.length_map]
    exact (List.getElem?_eq_some_iff.mp hf).1
  exact (List.getElem?_inj hi s.wellFormed.namesDistinct).mp hname

/-- The one column of a name. -/
theorem fieldByName?_eq_some_iff_getElem? {name : String} :
    s.fieldByName? name = some f ↔
      ∃ i : Nat, s.fields[i]? = some f ∧ f.name = name ∧
        ∀ (j : Nat) (g : Field), s.fields[j]? = some g → g.name = name → j = i := by
  rw [fieldByName?_eq_some_iff, List.mem_iff_getElem?]
  constructor
  · rintro ⟨⟨i, hf⟩, rfl⟩
    exact ⟨i, hf, rfl, fun j g hg hname => eq_of_name_eq hg hf hname⟩
  · rintro ⟨i, hf, hname, _⟩
    exact ⟨⟨i, hf⟩, hname⟩

/-- A name is not found exactly when no column has it. -/
theorem fieldByName?_eq_none_iff {name : String} :
    s.fieldByName? name = none ↔ ∀ f ∈ s.fields, f.name ≠ name := by
  rw [fieldByName?_eq_find?, List.find?_eq_none]
  simp only [beq_iff_eq, ne_eq]

/-- A field found by its name stands among the columns and nowhere else. -/
theorem path_of_fieldByName? {name : String} {path : List Nat} (h : s.fieldByName? name = some f)
    (hf : Field.at? s.fields path = some f) : ∃ i, path = [i] := by
  obtain ⟨i, hi⟩ := List.mem_iff_getElem?.mp (fieldByName?_eq_some_iff.mp h).1
  have hcolumn : Field.at? s.fields [i] = some f :=
    Field.at?_cons_eq_some_iff.mpr ⟨f, hi, rfl⟩
  exact ⟨i, Field.path_eq s.wellFormed.idsDistinct hf hcolumn rfl⟩

/-- What a search of the tree and the columns of a list of fields finds. -/
structure AnswersFrom (s : Schema) (fields : List Field) : Prop where
  byId : ∀ id f, s.fieldById? id = some f ↔
    ∃ path, Field.at? fields path = some f ∧ f.id = id ∧
      ∀ other g, Field.at? fields other = some g → g.id = id → other = path
  highest : ∀ id, s.highestId = id ↔
    (fields = [] ∧ id = 0) ∨
      ((∃ f, Field.InTree fields f ∧ f.id = id) ∧ ∀ f, Field.InTree fields f → f.id ≤ id)
  byName : ∀ name f, s.fieldByName? name = some f ↔
    ∃ i : Nat, fields[i]? = some f ∧ f.name = name ∧
      ∀ (j : Nat) (g : Field), fields[j]? = some g → g.name = name → j = i
  noName : ∀ name, s.fieldByName? name = none ↔ ∀ f ∈ fields, f.name ≠ name
  notNested : ∀ name f path, s.fieldByName? name = some f →
    Field.at? fields path = some f → ∃ i, path = [i]
  ignoringCase : ∀ name, s.fieldByNameIgnoringCase? name =
    (s.fieldByName? name).or (fields.find? fun f => Text.lower f.name == Text.lower name)

/-- Every look-up has the same answer in both schemas. -/
structure AnswersLike (s t : Schema) : Prop where
  byId : ∀ id, s.fieldById? id = t.fieldById? id
  typeById : ∀ id, s.typeById? id = t.typeById? id
  highest : s.highestId = t.highestId
  byName : ∀ name, s.fieldByName? name = t.fieldByName? name
  ignoringCase : ∀ name, s.fieldByNameIgnoringCase? name = t.fieldByNameIgnoringCase? name

variable {t : Schema}

/-- Schemas with the same fields answer alike, whatever their ids are. -/
theorem answersLike_of_fields_eq (h : s.fields = t.fields) : s.AnswersLike t := by
  have hindex : s.index = t.index := index_eq_of_fields_eq h
  have hbyId : s.fieldById? = t.fieldById? := by
    funext id
    rw [fieldById?, fieldById?, hindex]
  have hbyName : s.fieldByName? = t.fieldByName? := by
    funext name
    rw [fieldByName?, fieldByName?, hindex, hbyId]
  constructor
  · exact congrFun hbyId
  · intro id
    rw [typeById?, typeById?, hbyId]
  · rw [highestId, highestId, hindex]
  · exact congrFun hbyName
  · intro name
    rw [fieldByNameIgnoringCase?, fieldByNameIgnoringCase?, hindex, hbyId, hbyName]

/-- Comparing schemas looks at their own ids and their fields, not at their indexes. -/
theorem beq_iff : (s == t) = true ↔ s.id = t.id ∧ s.fields = t.fields := by
  rw [beq_iff_eq]
  constructor
  · rintro rfl
    exact ⟨rfl, rfl⟩
  · intro h
    have hs : Draft.build ⟨t.id, t.fields⟩ = .ok s := build_eq_ok_iff.mpr h
    have ht : Draft.build ⟨t.id, t.fields⟩ = .ok t := build_eq_ok_iff.mpr ⟨rfl, rfl⟩
    exact Except.ok.inj (hs.symm.trans ht)

/-- The look-ups of a schema agree with its tree, and schemas that compare equal answer alike. -/
theorem lookups_agree_with_tree {d : Draft} (h : d.build = .ok s) :
    s.AnswersFrom d.fields ∧
      ∀ t : Schema, ((s == t) = true ↔ s.id = t.id ∧ s.fields = t.fields) ∧
        ((s == t) = true → s.AnswersLike t) := by
  obtain ⟨_, hfields⟩ := build_eq_ok_iff.mp h
  rw [← hfields]
  refine ⟨⟨?_, ?_, ?_, ?_, ?_, ?_⟩, ?_⟩
  · exact fun _ _ => fieldById?_eq_some_iff_at?
  · exact fun _ => highestId_eq_iff
  · exact fun _ _ => fieldByName?_eq_some_iff_getElem?
  · exact fun _ => fieldByName?_eq_none_iff
  · exact fun _ _ _ => path_of_fieldByName?
  · exact fieldByNameIgnoringCase?_eq s
  · exact fun t => ⟨beq_iff, fun heq => answersLike_of_fields_eq (beq_iff.mp heq).2⟩

/-- A schema with every kind of part, and names that differ in case only. -/
def branching : Schema :=
  ⟨0, [⟨1, "Ts", true, .primitive .timestamp, none⟩, ⟨2, "ts", true, .primitive .date, none⟩,
    ⟨7, "place", true, .struct [⟨4, "name", false, .primitive .string, none⟩,
      ⟨5, "tags", false, .list 9 true (.primitive .string), none⟩], none⟩,
    ⟨3, "notes", false, .map 6 (.primitive .string) 8 false (.primitive .int), none⟩], _, rfl⟩

theorem lookups_agree_with_tree_branching :
    Draft.build ⟨0, branching.fields⟩ = .ok branching ∧
      branching.AnswersFrom branching.fields ∧
      branching.fieldById? 9 = some (Field.ofElement 9 true (.primitive .string)) ∧
      branching.highestId = 9 ∧ branching.fieldByName? "name" = none ∧
      (branching.fieldByNameIgnoringCase? "TS").map Field.id = some 1 ∧
      ∀ t : Schema, (branching == t) = true → branching.AnswersLike t := by
  have hbuild : Draft.build ⟨0, branching.fields⟩ = .ok branching :=
    build_eq_ok_iff.mpr ⟨rfl, rfl⟩
  obtain ⟨hanswers, hlike⟩ := lookups_agree_with_tree hbuild
  refine ⟨hbuild, hanswers, ?_, ?_, ?_, ?_, fun t => (hlike t).2⟩
  · decide
  · decide
  · decide
  · decide

end Schema

end Partitioning
