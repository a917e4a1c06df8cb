import Partitioning.Proofs.Table

/-!
# Columns of tables and fields of schemas

A table has a schema exactly when the handles of its columns and the ids inside their types are
positive and distinct, and the names of its columns are distinct. Then a handle leads to a column of
the table and to the field of this column in the schema. An id inside a column leads to a field only.
-/

namespace Partitioning.Table

variable {t : Table} {s : Schema} {handle : Int32} {c : Column}

/-- The handles of the columns and the ids of the fields inside their types. -/
def ids (t : Table) : List Int32 :=
  t.columns.map Column.handle ++ t.columns.flatMap fun c => c.type.nested.map Field.id

theorem exists_schema_iff :
    (∃ s, t.schema = .ok s) ↔
      (∀ id ∈ t.ids, 0 < id) ∧ t.ids.Nodup ∧ (t.columns.map Column.name).Nodup := by
  have hids : t.ids = (t.columns.map Column.field).map Field.id ++
      (t.columns.map Column.field).flatMap Field.nestedIds := by
    rw [List.map_map, List.flatMap_map]
    rfl
  have hnames : (t.columns.map Column.field).map Field.name = t.columns.map Column.name :=
    List.map_map
  simp only [schema_eq_ok_iff_ofFields]
  rw [Schema.exists_ofFields_iff, Schema.wellFormed_iff_ids, hids, hnames]

theorem column_eq_ok_iff (hs : t.schema = .ok s) :
    t.column handle = .ok c ↔ c ∈ t.columns ∧ c.handle = handle := by
  constructor
  · intro h
    rw [column] at h
    split at h
    · next found hfind =>
        obtain rfl := Except.ok.inj h
        exact find?_key_sound hfind
    · cases h
  · rintro ⟨hc, rfl⟩
    exact column_eq_ok hs hc

theorem column_eq_error (h : ∀ c ∈ t.columns, c.handle ≠ handle) :
    t.column handle = .error (.noColumn handle t.qualifiedName) := by
  have hfind : t.columns.find? (·.handle == handle) = none :=
    List.find?_eq_none.mpr fun c hc heq => h c hc (eq_of_beq heq)
  rw [column, hfind]

/-- The field of a column stands in the schema where the column stands in the table. -/
theorem getElem?_fields (hs : t.schema = .ok s) {i : Nat} (hc : t.columns[i]? = some c) :
    s.fields[i]? = some c.field := by
  rw [(schema_eq_ok_iff.mp hs).2, List.getElem?_map, hc, Option.map_some]

/-- No column has the id of a field inside a column for its handle. -/
theorem handle_ne_of_nested (hs : t.schema = .ok s) (hc : c ∈ t.columns) {f : Field}
    (hf : f ∈ c.type.nested) : ∀ c' ∈ t.columns, c'.handle ≠ f.id := by
  intro c' hc' heq
  have hids : t.ids.Nodup := (exists_schema_iff.mp ⟨s, hs⟩).2.1
  have hinside : f.id ∈ t.columns.flatMap fun c => c.type.nested.map Field.id :=
    List.mem_flatMap.mpr ⟨c, hc, List.mem_map_of_mem hf⟩
  exact (List.nodup_append'.mp hids).2.2 (heq ▸ List.mem_map_of_mem hc') hinside

/-- The columns of a table and the fields of its schema agree. There is a schema exactly when handles
and ids inside column types are positive and distinct and column names are distinct. A field of the
schema says of a column what the column says of itself. A handle is looked up with the same outcome
in both, but the id of a field inside a column is found in the schema only. -/
theorem columns_agree_with_schema (t : Table) :
    ((∃ s, t.schema = .ok s) ↔
        (∀ id ∈ t.ids, 0 < id) ∧ t.ids.Nodup ∧ (t.columns.map Column.name).Nodup) ∧
      ∀ s, t.schema = .ok s →
        (s.fields.length = t.columns.length ∧
          ∀ (i : Nat) c, t.columns[i]? = some c → ∃ f, s.fields[i]? = some f ∧
            f.id = c.handle ∧ f.name = c.name ∧ f.type = c.type ∧ f.required = !c.nullable ∧
            f.doc = c.comment) ∧
        (∀ handle, (∃ c, t.column handle = .ok c) ↔ ∃ f ∈ s.fields, f.id = handle) ∧
        (∀ handle c, t.column handle = .ok c → ∃ (i : Nat) (f : Field),
          t.columns[i]? = some c ∧ s.fields[i]? = some f ∧ s.fieldById? handle = some f) ∧
        ∀ c ∈ t.columns, ∀ f ∈ c.type.nested, s.fieldById? f.id = some f ∧
          t.column f.id = .error (.noColumn f.id t.qualifiedName) := by
  refine ⟨exists_schema_iff, fun s hs => ⟨⟨?length, ?same⟩, ?handles, ?found, ?inside⟩⟩
  case length => rw [(schema_eq_ok_iff.mp hs).2, List.length_map]
  case same =>
    intro i c hc
    exact ⟨c.field, getElem?_fields hs hc, rfl, rfl, rfl, rfl, rfl⟩
  case handles =>
    intro handle
    simp only [(schema_eq_ok_iff.mp hs).2, List.mem_map, exists_exists_and_eq_and]
    exact exists_congr fun c => column_eq_ok_iff hs
  case found =>
    intro handle c hfound
    obtain ⟨hc, rfl⟩ := (column_eq_ok_iff hs).mp hfound
    obtain ⟨i, hi⟩ := List.mem_iff_getElem?.mp hc
    have hfield := getElem?_fields hs hi
    have hmem := Field.mem_preorder_of_mem (List.mem_of_getElem? hfield)
    exact ⟨i, c.field, hi, hfield, Schema.fieldById?_eq_some_iff.mpr ⟨hmem, rfl⟩⟩
  case inside =>
    intro c hc f hf
    constructor
    · have hmem : c.field ∈ s.fields := (schema_eq_ok_iff.mp hs).2 ▸ List.mem_map_of_mem hc
      have hnested : f ∈ c.field.withNested := by
        rw [Field.withNested_eq]
        exact List.mem_cons_of_mem _ hf
      exact Schema.fieldById?_eq_some_iff.mpr ⟨Field.withNested_subset_preorder hmem hnested, rfl⟩
    · exact column_eq_error (handle_ne_of_nested hs hc hf)

/-- A list whose element has an id between the handles of two columns. -/
theorem columns_agree_with_schema_element :
    let element : Field := Field.ofElement 2 true (.primitive .string)
    let tags : Column := ⟨3, "Tags", .listOf element, false, some "labels"⟩
    let placed : Column := ⟨1, "Placed", .primitive .timestamp, true, none⟩
    let t : Table := { id := 7, schemaName := "sales", name := "orders", columns := [tags, placed] }
    t.ids = [3, 1, 2] ∧ ∃ s, t.schema = .ok s ∧
      (∃ f, s.fields[0]? = some f ∧ f.id = 3 ∧ f.name = "Tags" ∧ f.type = .listOf element ∧
        f.required = true ∧ f.doc = some "labels") ∧
      ((∃ c, t.column 1 = .ok c) ↔ ∃ f ∈ s.fields, f.id = 1) ∧
      (t.column 1 = .ok placed ∧ ∃ (i : Nat) (f : Field),
        t.columns[i]? = some placed ∧ s.fields[i]? = some f ∧ s.fieldById? 1 = some f) ∧
      s.fieldById? 2 = some element ∧ t.column 2 = .error (.noColumn 2 "sales.orders") := by
  intro element tags placed t
  obtain ⟨hexists, hagree⟩ := columns_agree_with_schema t
  have hids : t.ids = [3, 1, 2] := rfl
  have hpositive : ∀ id ∈ t.ids, 0 < id := by simp [hids]
  have hdistinct : t.ids.Nodup ∧ (t.columns.map Column.name).Nodup := by simp [hids, t, tags, placed]
  obtain ⟨s, hs⟩ := hexists.mpr ⟨hpositive, hdistinct⟩
  obtain ⟨⟨_, hsame⟩, hhandles, hfound, hinside⟩ := hagree s hs
  have hplaced : t.column 1 = .ok placed := rfl
  have helement := hinside tags List.mem_cons_self element List.mem_cons_self
  exact ⟨hids, s, hs, hsame 0 tags rfl, hhandles 1, ⟨hplaced, hfound 1 placed hplaced⟩, helement⟩

end Partitioning.Table
