import Partitioning.CommandLine
import Partitioning.Proofs.Reader
import Partitioning.Proofs.SpecDeclarations

/-!
# Partitioned tables

The property `partitioning` of a table is resolved over the schema of its columns. A column is
found there by its handle, which is the id of its field, and no field inside another column has
this id. So the spec is one of columns of the table, and its canonical declarations may stand in
the property.
-/

namespace Partitioning

open Json Reader

namespace Table

variable {t : Table} {r : Resolver} {s : Schema} {spec : PartitionSpec}

theorem schema_eq_ok_iff_ofFields :
    t.schema = .ok s ↔ Schema.ofFields (t.columns.map Column.field) = .ok s := by
  rw [schema]
  cases Schema.ofFields (t.columns.map Column.field) <;> simp

/-- The schema of a table has the columns as its fields. -/
theorem schema_eq_ok_iff :
    t.schema = .ok s ↔ s.id = 0 ∧ s.fields = t.columns.map Column.field := by
  rw [schema_eq_ok_iff_ofFields]
  exact Schema.build_eq_ok_iff

/-- The spec of a table is what the texts in its property resolve to. -/
theorem partitionSpec_eq_ok_iff {value : Json}
    (h : t.properties.lookup "partitioning" = some value) :
    t.partitionSpec r = .ok spec ↔
      ∃ declarations s, readValue (list string) value = .ok declarations ∧ t.schema = .ok s ∧
        r.resolveAll s declarations = .ok spec := by
  rw [partitionSpec, declarations?, h]
  cases hread : readValue (list string) value with
  | error e => simp [hread, bind, Except.bind]
  | ok declarations =>
      simp only [hread]
      constructor
      · intro hspec
        obtain ⟨_, hdeclarations, hspec⟩ := bind_eq_ok_iff.mp hspec
        obtain rfl := Except.ok.inj hdeclarations
        obtain ⟨s, hs, hspec⟩ := bind_eq_ok_iff.mp hspec
        split at hspec
        · next built hbuilt =>
            obtain rfl := Except.ok.inj hspec
            exact ⟨declarations, s, rfl, hs, hbuilt⟩
        · cases hspec
      · rintro ⟨_, s, hdeclarations, hs, hspec⟩
        obtain rfl := Except.ok.inj hdeclarations
        refine bind_eq_ok_iff.mpr ⟨_, rfl, bind_eq_ok_iff.mpr ⟨s, hs, ?_⟩⟩
        rw [hspec]
        rfl

/-- The handles of a table with a schema tell its columns apart. -/
theorem column_eq_ok (hs : t.schema = .ok s) {c : Column} (hc : c ∈ t.columns) :
    t.column c.handle = .ok c := by
  have hhandles : (t.columns.map Column.handle).Nodup := by
    obtain ⟨_, hids, _⟩ := Schema.wellFormed_iff_ids.mp s.wellFormed
    rw [(schema_eq_ok_iff.mp hs).2, List.map_map] at hids
    exact (List.nodup_append'.mp hids).1
  rw [column, (find?_key_eq_some_iff hhandles).mpr ⟨hc, rfl⟩]

/-- The source of a partition field is a column of the table. -/
theorem source_column (hs : t.schema = .ok s) {p : PartitionField} (h : PartitionSpec.Applies s p) :
    ∃ c ∈ t.columns, c.handle = p.sourceId ∧ t.column p.sourceId = .ok c ∧
      p.transform.checkSource c.type = .ok () := by
  obtain ⟨f, hf, hsource, hcheck⟩ := h
  rw [(schema_eq_ok_iff.mp hs).2] at hf
  obtain ⟨c, hc, rfl⟩ := List.mem_map.mp hf
  exact ⟨c, hc, hsource.symm, hsource ▸ column_eq_ok hs hc, hcheck⟩

/-- The table with these declarations in its property `partitioning`. -/
def partitionedBy (t : Table) (texts : List String) : Table :=
  t.withProperties (insertMember "partitioning" (.array (texts.map .string)) t.properties)

/-- The property `partitioning` is replaced, all others stay. -/
theorem lookup_partitionedBy (t : Table) (texts : List String) (key : String) :
    (t.partitionedBy texts).properties.lookup key =
      if key = "partitioning" then some (.array (texts.map .string)) else t.properties.lookup key :=
  lookup_insertMember "partitioning" key _ t.properties

/-- Texts that resolve to a spec declare it in the property. -/
theorem partitionSpec_partitionedBy (hs : t.schema = .ok s) {texts : List String}
    (h : r.resolveAll s texts = .ok spec) :
    (t.partitionedBy texts).partitionSpec r = .ok spec := by
  have hcanonical : (Json.array (texts.map .string)).canonical = .array (texts.map .string) := by
    rw [canonical, canonicalItems_eq_map, List.map_map]
    rfl
  have hread : readValue (list string) (.array (texts.map .string)) = .ok texts := by
    rw [← hcanonical]
    exact reads_list fun text _ => reads_string text
  have hvalue := lookup_partitionedBy t texts "partitioning"
  rw [if_pos rfl] at hvalue
  exact (partitionSpec_eq_ok_iff hvalue).mpr ⟨texts, s, hread, hs, h⟩

/-- A table with a spec that can be rendered is shown with its declarations, one on a line. -/
theorem runTable_eq (filter : Logging.Filter) (lines : List Logging.Line)
    (hspec : t.partitionSpec r = .ok spec) (hs : t.schema = .ok s) {texts : List String}
    (h : s.declarations spec = .ok texts) :
    CommandLine.runTable filter lines r t =
      ⟨0, t.qualifiedName ++ "\n" ++ String.join (texts.map fun d => s!"  {d}\n"),
        lines ++ filter.lines (CommandLine.tableRecords r t)⟩ := by
  simp only [CommandLine.runTable, hspec, hs, bind, Except.bind, pure, Except.pure, h]

end Table

/-- The partitioning of a table is one of its columns: every source id is the handle of a column
that the transform applies to, so the spec can be shown, and it is declared by what is shown: with
the shown texts in the property, and with nothing else changed, the table has this spec again. -/
theorem table_partitioning_normalizes {t : Table} {r : Resolver} {value : Json}
    {spec : PartitionSpec} (hvalue : t.properties.lookup "partitioning" = some value)
    (hspec : t.partitionSpec r = .ok spec) :
    ∃ s, t.schema = .ok s ∧
      (∀ p ∈ spec.fields, ∃ c ∈ t.columns, c.handle = p.sourceId ∧ t.column p.sourceId = .ok c ∧
        p.transform.checkSource c.type = .ok ()) ∧
      ∃ texts, s.declarations spec = .ok texts ∧
        (∀ filter lines, CommandLine.runTable filter lines r t =
          ⟨0, t.qualifiedName ++ "\n" ++ String.join (texts.map fun d => s!"  {d}\n"),
            lines ++ filter.lines (CommandLine.tableRecords r t)⟩) ∧
        (∀ key, (t.partitionedBy texts).properties.lookup key =
          if key = "partitioning" then some (.array (texts.map .string))
          else t.properties.lookup key) ∧
        (t.partitionedBy texts).columns = t.columns ∧
        (t.partitionedBy texts).partitionSpec r = .ok spec := by
  obtain ⟨declarations, s, _, hs, hresolve⟩ := (Table.partitionSpec_eq_ok_iff hvalue).mp hspec
  obtain ⟨texts, htexts, hagain⟩ := Resolver.resolveAll_declarations hresolve
  refine ⟨s, hs, ?_, texts, htexts, ?_, Table.lookup_partitionedBy t texts, rfl,
    Table.partitionSpec_partitionedBy hs hagain⟩
  · exact fun p hp => Table.source_column hs ((Resolver.resolveAll_sound hresolve).applies p hp)
  · exact fun filter lines => Table.runTable_eq filter lines hspec hs htexts

theorem table_partitioning_normalizes_nested :
    let value : Json :=
      .array [.string "DAY( placed )", .string "void(TAGS)", .string "day(Placed)"]
    let t : Table := {
      id := 7
      schemaName := "sales"
      name := "orders"
      columns := [⟨1, "Tags", .list 2 true (.primitive .string), true, none⟩,
        ⟨3, "Placed", .primitive .timestamp, false, some "at checkout"⟩]
      properties := [("owner", .null), ("partitioning", value)] }
    let spec : PartitionSpec := ⟨0, [⟨3, 1000, "Placed_day", .day⟩, ⟨1, 1001, "Tags_null", .void⟩,
      ⟨3, 1002, "Placed_day_2", .day⟩]⟩
    t.properties.lookup "partitioning" = some value ∧ t.partitionSpec {} = .ok spec ∧
      ∃ s, t.schema = .ok s ∧
        (∀ p ∈ spec.fields, ∃ c ∈ t.columns, c.handle = p.sourceId ∧
          t.column p.sourceId = .ok c ∧ p.transform.checkSource c.type = .ok ()) ∧
        ∃ texts, s.declarations spec = .ok texts ∧
          (∀ filter lines, CommandLine.runTable filter lines {} t =
            ⟨0, t.qualifiedName ++ "\n" ++ String.join (texts.map fun d => s!"  {d}\n"),
              lines ++ filter.lines (CommandLine.tableRecords {} t)⟩) ∧
          (∀ key, (t.partitionedBy texts).properties.lookup key =
            if key = "partitioning" then some (.array (texts.map .string))
            else t.properties.lookup key) ∧
          (t.partitionedBy texts).columns = t.columns ∧
          (t.partitionedBy texts).partitionSpec {} = .ok spec := by
  intro value t spec
  have hvalue : t.properties.lookup "partitioning" = some value := rfl
  have hspec : t.partitionSpec {} = .ok spec := rfl
  exact ⟨hvalue, hspec, table_partitioning_normalizes hvalue hspec⟩

end Partitioning
