import Partitioning.Proofs.FieldTree
import Partitioning.Proofs.KeyedList
import Partitioning.Proofs.SchemaIndex

/-!
# Schemas and their look-ups

A list of fields is a schema exactly when the ids of its tree are positive and distinct and its
column names are distinct. Every look-up is then the search for the one field it can mean.
-/

namespace Partitioning

namespace Schema

/-- What the builder asks of the fields of a schema. -/
structure WellFormed (fields : List Field) : Prop where
  idsPositive : ∀ f ∈ Field.preorder fields, 0 < f.id
  idsDistinct : ((Field.preorder fields).map Field.id).Nodup
  namesDistinct : (fields.map Field.name).Nodup

/-- The ids of a tree are those of its columns and those inside them. -/
theorem wellFormed_iff_ids {fields : List Field} :
    WellFormed fields ↔
      (∀ id ∈ fields.map Field.id ++ fields.flatMap Field.nestedIds, 0 < id) ∧
        (fields.map Field.id ++ fields.flatMap Field.nestedIds).Nodup ∧
        (fields.map Field.name).Nodup := by
  have hids := Field.preorder_ids_perm fields
  simp only [← hids.mem_iff, ← hids.nodup_iff, List.forall_mem_map]
  exact ⟨fun h => ⟨h.idsPositive, h.idsDistinct, h.namesDistinct⟩, fun h => ⟨h.1, h.2.1, h.2.2⟩⟩

/-- No id is reported exactly when all are positive, distinct and new. -/
theorem idDefect?_eq_none_iff {seen : List Int32} {fields : List Field} :
    idDefect? seen fields = none ↔
      (∀ f ∈ fields, 0 < f.id) ∧ (fields.map Field.id).Nodup ∧ ∀ f ∈ fields, f.id ∉ seen := by
  induction fields generalizing seen with
  | nil => simp [idDefect?]
  | cons f rest ih =>
      by_cases hpos : f.id ≤ 0
      · simp [idDefect?, hpos, Int32.not_lt.mpr hpos]
      · by_cases hseen : f.id ∈ seen
        · simp [idDefect?, hpos, hseen]
        · simp only [idDefect?, if_neg hpos, if_neg hseen, ih, List.mem_cons,
            List.map_cons, List.nodup_cons, List.mem_map, not_exists, not_and]
          have hpos' : 0 < f.id := Int32.not_le.mp hpos
          grind

/-- No name is reported exactly when all are distinct and new. -/
theorem nameDefect?_eq_none_iff {seen : List String} {fields : List Field} :
    nameDefect? seen fields = none ↔
      (fields.map Field.name).Nodup ∧ ∀ f ∈ fields, f.name ∉ seen := by
  induction fields generalizing seen with
  | nil => simp [nameDefect?]
  | cons f rest ih =>
      by_cases hseen : f.name ∈ seen
      · simp [nameDefect?, hseen]
      · simp only [nameDefect?, if_neg hseen, ih, List.mem_cons, List.map_cons,
          List.nodup_cons, List.mem_map, not_exists, not_and]
        grind

/-- The passes over the fields find nothing exactly when the fields are well formed. -/
theorem defect?_eq_none_iff {fields : List Field} : defect? fields = none ↔ WellFormed fields := by
  rw [defect?, Option.or_eq_none_iff, idDefect?_eq_none_iff, nameDefect?_eq_none_iff]
  constructor
  · rintro ⟨⟨hpos, hids, _⟩, hnames, _⟩
    exact ⟨hpos, hids, hnames⟩
  · rintro ⟨hpos, hids, hnames⟩
    exact ⟨⟨hpos, hids, fun _ _ => List.not_mem_nil⟩, hnames, fun _ _ => List.not_mem_nil⟩

/-- The fields of a schema are well formed, because its index could be made. -/
theorem wellFormed (s : Schema) : WellFormed s.fields :=
  defect?_eq_none_iff.mp (Index.ofFields_eq_ok_iff.mp s.indexed).1

/-- The index of a schema lists its fields. -/
theorem index_eq (s : Schema) : s.index = Index.listing s.fields :=
  (Index.ofFields_eq_ok_iff.mp s.indexed).2

/-- The builder makes the schema of its own id and fields, and no other. -/
theorem build_eq_ok_iff {d : Draft} {s : Schema} :
    d.build = .ok s ↔ s.id = d.id ∧ s.fields = d.fields := by
  unfold Draft.build
  split
  · next index h =>
      rw [Except.ok.injEq]
      constructor
      · rintro rfl
        exact ⟨rfl, rfl⟩
      · rintro ⟨hid, hfields⟩
        have hindex : s.index = index := Except.ok.inj (s.indexed.symm.trans (hfields ▸ h))
        cases s
        cases hid
        cases hfields
        cases hindex
        rfl
  · next e h =>
      constructor
      · intro hok
        cases hok
      · rintro ⟨_, hfields⟩
        rw [← hfields, s.indexed] at h
        cases h

/-- The builder accepts well-formed fields and no others. -/
theorem exists_build_iff_wellFormed {d : Draft} :
    (∃ s, d.build = .ok s) ↔ WellFormed d.fields := by
  constructor
  · rintro ⟨s, hs⟩
    have hfields : s.fields = d.fields := (build_eq_ok_iff.mp hs).2
    exact hfields ▸ s.wellFormed
  · intro h
    have hindex := Index.ofFields_eq_ok_iff.mpr ⟨defect?_eq_none_iff.mpr h, rfl⟩
    exact ⟨⟨d.id, d.fields, _, hindex⟩, build_eq_ok_iff.mpr ⟨rfl, rfl⟩⟩

theorem exists_ofFields_iff {fields : List Field} :
    (∃ s, ofFields fields = .ok s) ↔ WellFormed fields :=
  exists_build_iff_wellFormed

variable {s : Schema} {f : Field}

/-- The field of an id is the first one in the tree that has it. -/
theorem fieldById?_eq_find? (s : Schema) (id : Int32) :
    s.fieldById? id = s.allFields.find? (·.id == id) := by
  rw [fieldById?, index_eq]
  exact (lookup_map_pairs Field.id (fun f => f) s.allFields id).trans Option.map_id'

/-- The field of an id is the one in the tree that has it. -/
theorem fieldById?_eq_some_iff {id : Int32} :
    s.fieldById? id = some f ↔ f ∈ s.allFields ∧ f.id = id := by
  rw [fieldById?_eq_find?]
  exact find?_key_eq_some_iff s.wellFormed.idsDistinct

/-- The id of a column leads back to the column. -/
theorem find?_bind_fieldById? (s : Schema) (p : Field → Bool) :
    ((s.fields.find? p).map Field.id).bind s.fieldById? = s.fields.find? p := by
  cases hfind : s.fields.find? p with
  | none => rfl
  | some f =>
      have hf := Field.mem_preorder_of_mem (List.mem_of_find?_eq_some hfind)
      exact fieldById?_eq_some_iff.mpr ⟨hf, rfl⟩

/-- The field of a name is the first column that has it. -/
theorem fieldByName?_eq_find? (s : Schema) (name : String) :
    s.fieldByName? name = s.fields.find? (·.name == name) := by
  rw [fieldByName?, index_eq, Index.listing, lookup_map_pairs, find?_bind_fieldById?]

/-- The field of a name is the column that has it. -/
theorem fieldByName?_eq_some_iff {name : String} :
    s.fieldByName? name = some f ↔ f ∈ s.fields ∧ f.name = name := by
  rw [fieldByName?_eq_find?]
  exact find?_key_eq_some_iff s.wellFormed.namesDistinct

/-- A name is first looked for as it stands, then among the columns in lower case. -/
theorem fieldByNameIgnoringCase?_eq (s : Schema) (name : String) :
    s.fieldByNameIgnoringCase? name = (s.fieldByName? name).or
      (s.fields.find? fun f => Text.lower f.name == Text.lower name) := by
  rw [fieldByNameIgnoringCase?, index_eq, Index.listing, Index.lookup_lowerNames, List.lookup_nil,
    Option.none_or, find?_bind_fieldById?]

/-- An id tells the fields of a schema apart. -/
theorem eq_of_id_eq {g : Field} (hf : f ∈ s.allFields) (hg : g ∈ s.allFields) (h : f.id = g.id) :
    f = g :=
  List.inj_on_of_nodup_map s.wellFormed.idsDistinct hf hg h

/-- An exact match comes before every column that differs in case. -/
theorem fieldByNameIgnoringCase?_of_mem (h : f ∈ s.fields) :
    s.fieldByNameIgnoringCase? f.name = some f := by
  rw [fieldByNameIgnoringCase?, fieldByName?_eq_some_iff.mpr ⟨h, rfl⟩]
  rfl

/-- A column that is found without regard to case has that name in lower case. -/
theorem fieldByNameIgnoringCase?_sound {name : String}
    (h : s.fieldByNameIgnoringCase? name = some f) :
    f ∈ s.fields ∧ Text.lower f.name = Text.lower name := by
  rw [fieldByNameIgnoringCase?_eq, Option.or_eq_some_iff] at h
  obtain hexact | ⟨_, hlower⟩ := h
  · obtain ⟨hmem, rfl⟩ := fieldByName?_eq_some_iff.mp hexact
    exact ⟨hmem, rfl⟩
  · exact find?_key_sound hlower

end Schema

end Partitioning
