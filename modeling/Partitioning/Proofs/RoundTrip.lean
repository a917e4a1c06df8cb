import Partitioning.Proofs.DataTypeJson
import Partitioning.Proofs.Reader
import Partitioning.Proofs.Schema
import Partitioning.Schema.Json
import Partitioning.Table.Json

/-!
# Reading back what was written

Types, schemas and tables are written as JSON values and read back. A type comes back when every
decimal in it is in bounds, and since nothing else is ever read, a schema or a table that was read
once comes back whatever it holds.
-/

namespace Partitioning

open Json Reader

namespace DataType

/-- Reading a type from a value fails in one way only: the value has no form of a type. -/
theorem readValue_reader (j : Json) :
    readValue DataType.reader j = (ofJson? j).elim (.error (.noForm "SerdeType")) .ok := by
  simp only [readValue, reader, Document.toJson_ofJson]
  cases ofJson? j <;> rfl

/-- Whatever is read as a type is made by the constructors and has its decimals in bounds. -/
theorem reader_ensures : reader.Ensures Storable := by
  intro d t h
  unfold reader at h
  split at h
  · cases h
  · split at h
    · next hread =>
        obtain rfl := Except.ok.inj h
        exact ofJson?_sound hread
    · cases h

/-- A type of this kind is read back from the value it is written as. -/
theorem Storable.reads {t : DataType} (h : t.Storable) : reader.Reads t.toJson t := by
  have hread := (ofJson?_toJson_eq_some_iff h.built).mpr ⟨rfl, h.inBounds⟩
  rw [Reads, readValue_reader, hread]
  rfl

end DataType

namespace Field

/-- The type of a field that was read can be written and read again. -/
theorem reader_ensures : reader.Ensures fun f => f.type.Storable := by
  intro d f h
  simp only [reader, bind_eq_ok_iff] at h
  obtain ⟨fields, _, _, _, _, _, _, _, type, htype, _, _, h⟩ := h
  obtain rfl := Except.ok.inj h
  exact DataType.reader_ensures.get htype

/-- A field is read back with its comment, or without one when it has none. -/
theorem reads {f : Field} (h : f.type.Storable) : reader.Reads f.toJson f := by
  obtain ⟨id, name, required, type, doc⟩ := f
  have hid := reads_int32 id
  have hname := reads_string name
  have hrequired := reads_bool required
  have htype : DataType.reader.Reads type.toJson type := h.reads
  have hdocText (text : String) : (optional string).Reads (.string text) (some text) := rfl
  obtain ⟨fields, hrecord, hfields⟩ : ∃ fields : Fields,
      readValue (record "NestedField" slots) (Field.mk id name required type doc).toJson.canonical =
        .ok fields ∧ fields.From _ := by
    refine record_canonical "NestedField" (by cases doc <;> simp) ?_
    rw [Fit, List.map_append, List.forall_mem_append]
    refine ⟨?_, ?_⟩
    · simp only [List.map_cons, List.forall_mem_cons]
      exact ⟨⟨_, rfl, hid.check⟩, ⟨_, rfl, hname.check⟩, ⟨_, rfl, hrequired.check⟩,
        ⟨_, rfl, htype.check⟩, by simp⟩
    · cases doc with
      | none => simp
      | some doc =>
        simp only [List.map_cons, List.forall_mem_cons]
        exact ⟨⟨_, rfl, (hdocText doc).check⟩, by simp⟩
  have hdoc : fields.getD "doc" (optional string) none = .ok doc := by
    cases doc with
    | none => exact hfields.getD_missing rfl none
    | some doc => exact hfields.getD rfl (hdocText doc)
  simp only [Reads, readValue, reader, bind_eq_ok_iff]
  exact ⟨fields, hrecord, id, hfields.get rfl hid, name, hfields.get rfl hname, required,
    hfields.get rfl hrequired, type, hfields.get rfl htype, doc, hdoc, rfl⟩

/-- The columns of a schema are read back in their order. -/
theorem reads_list {fields : List Field} (h : ∀ f ∈ fields, f.type.Storable) :
    (list reader).Reads (.array (listToJson fields)) fields := by
  rw [listToJson_eq_map]
  exact Reader.reads_list fun f hf => reads (h f hf)

end Field

namespace Column

/-- The type of a column that was read can be written and read again. -/
theorem reader_ensures : reader.Ensures fun c => c.type.Storable := by
  intro d c h
  simp only [reader, bind_eq_ok_iff] at h
  obtain ⟨fields, _, _, _, _, _, type, htype, _, _, _, _, h⟩ := h
  obtain rfl := Except.ok.inj h
  exact DataType.reader_ensures.get htype

/-- A column is read back from all five of its members. -/
theorem reads {c : Column} (h : c.type.Storable) : reader.Reads c.toJson c := by
  obtain ⟨handle, name, type, nullable, comment⟩ := c
  have hhandle := reads_int32 handle
  have hname := reads_string name
  have htype : DataType.reader.Reads type.toJson type := h.reads
  have hnullable := reads_bool nullable
  have hcomment := reads_optional_string comment
  obtain ⟨fields, hrecord, hfields⟩ : ∃ fields : Fields,
      readValue (record "ColumnInfo" slots)
        (Column.mk handle name type nullable comment).toJson.canonical = .ok fields ∧
        fields.From _ := by
    refine record_canonical "ColumnInfo" (by simp) ?_
    simp only [Fit, List.map_cons, List.forall_mem_cons]
    exact ⟨⟨_, rfl, hhandle.check⟩, ⟨_, rfl, hname.check⟩, ⟨_, rfl, htype.check⟩,
      ⟨_, rfl, hnullable.check⟩, ⟨_, rfl, hcomment.check⟩, by simp⟩
  simp only [Reads, readValue, reader, bind_eq_ok_iff]
  exact ⟨fields, hrecord, handle, hfields.get rfl hhandle, name, hfields.get rfl hname, type,
    hfields.get rfl htype, nullable, hfields.get rfl hnullable, comment,
    hfields.getD rfl hcomment, rfl⟩

end Column

namespace Schema

/-- A schema is read only from fields whose types can be written. -/
theorem reader_ensures : reader.Ensures fun s => ∀ f ∈ s.fields, f.type.Storable := by
  intro d s h
  simp only [reader, bind_eq_ok_iff] at h
  obtain ⟨parts, _, _, _, id, _, fields, hfields, h⟩ := h
  split at h
  · next built hbuilt =>
      obtain rfl := Except.ok.inj h
      rw [(build_eq_ok_iff.mp hbuilt).2]
      exact Field.reader_ensures.list.get hfields
  · cases h

/-- A schema is built again from its fields, so its index comes back with it. -/
theorem reads {s : Schema} (h : ∀ f ∈ s.fields, f.type.Storable) : reader.Reads s.toJson s := by
  have hword : (word "struct").Reads (.string "struct") () := rfl
  have hid := reads_int32 s.id
  have hfields := Field.reads_list h
  have hbuild : (Draft.mk s.id s.fields).build = .ok s := build_eq_ok_iff.mpr ⟨rfl, rfl⟩
  obtain ⟨parts, hrecord, hparts⟩ : ∃ parts : Fields,
      readValue (record "SchemaData" slots) s.toJson.canonical = .ok parts ∧ parts.From _ := by
    refine record_canonical "SchemaData" (by simp) ?_
    simp only [Fit, List.map_cons, List.forall_mem_cons]
    exact ⟨⟨_, rfl, hword.check⟩, ⟨_, rfl, hid.check⟩, ⟨_, rfl, hfields.check⟩, by simp⟩
  simp only [Reads, readValue, reader, bind_eq_ok_iff]
  refine ⟨parts, hrecord, (), hparts.get rfl hword, s.id, hparts.getD rfl hid, s.fields,
    hparts.get rfl hfields, ?_⟩
  rw [hbuild]
  rfl

end Schema

namespace Table

/-- What is true of every table that was read. -/
structure Storable (t : Table) : Prop where
  columns : ∀ c ∈ t.columns, c.type.Storable
  properties : CanonicalMembers t.properties

/-- A table is read with types that can be stored, and its properties in canonical form. -/
theorem reader_ensures : reader.Ensures Storable := by
  intro d t h
  simp only [reader, bind_eq_ok_iff] at h
  obtain ⟨fields, _, _, _, _, _, _, _, columns, hcolumns, properties, hproperties, _, _, h⟩ := h
  obtain rfl := Except.ok.inj h
  exact ⟨Column.reader_ensures.list.get hcolumns,
    json_ensures.map.getD ⟨.nil, by simp⟩ hproperties⟩

/-- A table comes back with its columns, properties and comment. -/
theorem Storable.reads {t : Table} (h : t.Storable) : reader.Reads t.toJson t := by
  obtain ⟨id, schemaName, name, columns, properties, comment⟩ := t
  have hid := reads_int64 id
  have hschemaName := reads_string schemaName
  have hname := reads_string name
  have hcolumns : (list Column.reader).Reads (.array (columns.map Column.toJson)) columns :=
    reads_list fun c hc => Column.reads (h.columns c hc)
  have hproperties : propertiesReader.Reads (.object properties) properties :=
    reads_map_json h.properties
  have hcomment := reads_optional_string comment
  obtain ⟨fields, hrecord, hfields⟩ : ∃ fields : Fields,
      readValue (record "TableInfo" slots)
        (Table.mk id schemaName name columns properties comment).toJson.canonical = .ok fields ∧
        fields.From _ := by
    refine record_canonical "TableInfo" (by simp) ?_
    simp only [Fit, List.map_cons, List.forall_mem_cons]
    exact ⟨⟨_, rfl, hid.check⟩, ⟨_, rfl, hschemaName.check⟩, ⟨_, rfl, hname.check⟩,
      ⟨_, rfl, hcolumns.check⟩, ⟨_, rfl, hproperties.check⟩, ⟨_, rfl, hcomment.check⟩, by simp⟩
  simp only [Reads, readValue, reader, bind_eq_ok_iff]
  exact ⟨fields, hrecord, id, hfields.get rfl hid, schemaName, hfields.get rfl hschemaName, name,
    hfields.get rfl hname, columns, hfields.get rfl hcolumns, properties,
    hfields.getD rfl hproperties, comment, hfields.getD rfl hcomment, rfl⟩

end Table

/-- JSON values are taken in canonical form, where the order of members is lost. A type made by the
constructors is read back from its value exactly when every decimal in it is in bounds, and is
refused otherwise; any type that is read is of this kind. A schema or a table of such types is read
back, a schema with its index, hence with its look-ups, and a table with its properties. What was
read holds such types only, so it can be written and read again. -/
theorem json_round_trip :
    (∀ t : DataType, t.Built →
      (readValue DataType.reader t.toJson.canonical = .ok t ↔ t.InBounds) ∧
      (¬ t.InBounds → ∃ e, readValue DataType.reader t.toJson.canonical = .error e)) ∧
    (∀ j t, readValue DataType.reader j = .ok t → t.Built ∧ t.InBounds) ∧
    (∀ s : Schema, (∀ f ∈ s.fields, f.type.Storable) →
      readValue Schema.reader s.toJson.canonical = .ok s) ∧
    (∀ j s, readValue Schema.reader j = .ok s →
      (∀ f ∈ s.fields, f.type.Storable) ∧ readValue Schema.reader s.toJson.canonical = .ok s) ∧
    (∀ t : Table, t.Storable → readValue Table.reader t.toJson.canonical = .ok t) ∧
    ∀ j t, readValue Table.reader j = .ok t →
      t.Storable ∧ readValue Table.reader t.toJson.canonical = .ok t := by
  refine ⟨fun t ht => ⟨⟨fun h => ?_, fun h => ?_⟩, fun h => ?_⟩, fun j t h => ?_,
    fun s h => Schema.reads h, fun j s h => ?_, fun t h => h.reads, fun j t h => ?_⟩
  · exact (DataType.reader_ensures _ _ h).inBounds
  · exact DataType.Storable.reads ⟨ht, h⟩
  · have hnone : DataType.ofJson? t.toJson.canonical = none :=
      Option.eq_none_iff_forall_ne_some.mpr fun u hu =>
        h ((DataType.ofJson?_toJson_eq_some_iff ht).mp hu).2
    rw [DataType.readValue_reader, hnone]
    exact ⟨_, rfl⟩
  · have hstorable := DataType.reader_ensures _ _ h
    exact ⟨hstorable.built, hstorable.inBounds⟩
  · have hstorable := Schema.reader_ensures _ _ h
    exact ⟨hstorable, Schema.reads hstorable⟩
  · have hstorable := Table.reader_ensures _ _ h
    exact ⟨hstorable, hstorable.reads⟩

/-- Members may stand in any order, and unknown ones are skipped; a decimal of 39 digits is not
read. -/
theorem json_round_trip_unordered :
    let priced (precision : UInt32) : DataType := .struct
      [⟨1, "price", true, .list 2 false (.primitive (.decimal precision 2)), some "per item"⟩,
        ⟨3, "parts", false, .map 4 (.primitive .uuid) 5 true (.primitive (.fixed 16)), none⟩]
    let schema : Json := .object
      [("fields", .array [.object [("type", .string "Decimal( 9,2 )"), ("name", .string "price"),
        ("note", .null), ("required", .bool true), ("id", .int 1)]]), ("type", .string "struct")]
    let table : Json := .object
      [("table_name", .string "orders"), ("schema_name", .string "sales"), ("id", .int 7),
        ("columns", .array [.object [("handle", .int 1), ("name", .string "price"),
          ("column_type", .string "decimal(38, 38)"), ("nullable", .bool false)]]),
        ("properties", .object [("owner", .null),
          ("labels", .object [("z", .int 1), ("a", .int 2)])])]
    readValue DataType.reader (priced 38).toJson.canonical = .ok (priced 38) ∧
      (∃ e, readValue DataType.reader (priced 39).toJson.canonical = .error e) ∧
      (priced 38).InBounds ∧
      (∃ s, readValue Schema.reader schema = .ok s ∧
        (s.id, s.fields) = (0, [⟨1, "price", true, .primitive (.decimal 9 2), none⟩]) ∧
        readValue Schema.reader s.toJson.canonical = .ok s) ∧
      ∃ t, readValue Table.reader table = .ok t ∧
        (t.id, t.qualifiedName, t.columns, t.properties.map Prod.fst) =
          (7, "sales.orders", [⟨1, "price", .primitive (.decimal 38 38), false, none⟩],
            ["labels", "owner"]) ∧
        readValue Table.reader t.toJson.canonical = .ok t := by
  intro priced schema table
  obtain ⟨hback, hbounds, hwritten, hschema, hwritten', htable⟩ := json_round_trip
  have hbuilt (precision : UInt32) : (priced precision).Built := by
    refine .struct (List.forall_mem_cons.mpr ⟨.list 2 false (.primitive _), ?_⟩)
    exact List.forall_mem_cons.mpr ⟨.map 4 5 true (.primitive _) (.primitive _), by simp⟩
  have hiff (precision : UInt32) : (priced precision).InBounds ↔
      Primitive.InBounds (.decimal precision 2) := by
    simp [priced, DataType.inBounds_struct_iff, DataType.inBounds_list_iff,
      DataType.inBounds_map_iff, DataType.inBounds_primitive_iff, Primitive.InBounds]
  have hin : (priced 38).InBounds := (hiff 38).mpr (by simp [Primitive.InBounds])
  have hout : ¬ (priced 39).InBounds := (hiff 39).not.mpr (by simp [Primitive.InBounds])
  have hread := (hback _ (hbuilt 38)).1.mpr hin
  obtain ⟨s, hs, hparts⟩ := exists_eq_ok_of_toOption_map (x := readValue Schema.reader schema)
    (g := fun s => (s.id, s.fields))
    (b := (0, [⟨1, "price", true, .primitive (.decimal 9 2), none⟩]))
    (by decide +kernel)
  obtain ⟨t, ht, hrow⟩ := exists_eq_ok_of_toOption_map (x := readValue Table.reader table)
    (g := fun t => (t.id, t.qualifiedName, t.columns, t.properties.map Prod.fst))
    (b := (7, "sales.orders", [⟨1, "price", .primitive (.decimal 38 38), false, none⟩],
      ["labels", "owner"])) (by decide +kernel)
  exact ⟨hread, (hback _ (hbuilt 39)).2 hout, (hbounds _ _ hread).2,
    ⟨s, hs, hparts, hwritten s (hschema _ _ hs).1⟩, t, ht, hrow, hwritten' t (htable _ _ ht).1⟩

end Partitioning
