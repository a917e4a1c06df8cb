import Partitioning.PartitionSpec.Json
import Partitioning.Proofs.Reader
import Partitioning.Proofs.SpecDeclarations
import Partitioning.Proofs.Transform

/-!
# Specs in JSON

A spec is written as a JSON value and read back. Its transforms are stored as their texts, so it
comes back when every parameter in it is positive, and is refused otherwise. The parameters of a
resolved spec are positive, because those of its declarations are.
-/

namespace Partitioning

open Json Reader

namespace Transform

/-- A transform is read off its text, and the domain's refusal is the reader's. -/
theorem readValue_toJson (t : Transform) :
    readValue reader t.toJson.canonical = (ofText t.text).mapError fun e => .refused e.message := by
  have hstring : Reader.string (.scalar (.string t.text)) = .ok t.text := rfl
  change reader (.scalar (.string t.text)) = _
  simp only [reader, hstring, bind, Except.bind]
  cases ofText t.text <;> rfl

/-- A stored transform is read back exactly when its parameter is positive. -/
theorem readValue_toJson_eq_ok_iff {t u : Transform} :
    readValue reader t.toJson.canonical = .ok u ↔ u = t ∧ t.Positive := by
  rw [readValue_toJson, ← ofText_text_eq_ok_iff]
  cases ofText t.text with
  | ok v => simp only [Except.mapError, Except.ok.injEq]
  | error e => exact iff_of_false nofun nofun

end Transform

namespace PartitionField

/-- A partition field is read back when its transform is. -/
theorem reads {p : PartitionField} (h : p.transform.Positive) : reader.Reads p.toJson p := by
  obtain ⟨sourceId, id, name, transform⟩ := p
  have hsourceId := reads_int32 sourceId
  have hid := reads_int32 id
  have hname := reads_string name
  have htransform : Transform.reader.Reads transform.toJson transform :=
    Transform.readValue_toJson_eq_ok_iff.mpr ⟨rfl, h⟩
  obtain ⟨fields, hrecord, hfields⟩ : ∃ fields : Fields,
      readValue (record "PartitionField" slots)
        (PartitionField.mk sourceId id name transform).toJson.canonical = .ok fields ∧
        fields.From _ := by
    refine record_canonical "PartitionField" (by simp) ?_
    simp only [Fit, List.map_cons, List.forall_mem_cons]
    exact ⟨⟨_, rfl, hsourceId.check⟩, ⟨_, rfl, hid.check⟩, ⟨_, rfl, hname.check⟩,
      ⟨_, rfl, htransform.check⟩, by simp⟩
  simp only [Reads, readValue, reader, bind_eq_ok_iff]
  exact ⟨fields, hrecord, sourceId, hfields.get rfl hsourceId, id, hfields.get rfl hid, name,
    hfields.get rfl hname, transform, hfields.get rfl htransform, rfl⟩

/-- A partition field is refused when its transform is. -/
theorem positive_of_read {p q : PartitionField}
    (h : readValue reader p.toJson.canonical = .ok q) : p.transform.Positive := by
  simp only [readValue, reader, bind_eq_ok_iff] at h
  obtain ⟨fields, hrecord, _⟩ := h
  have hmem : ("transform", p.transform.toJson) ∈ [("source-id", Json.int p.sourceId.toInt),
      ("field-id", .int p.id.toInt), ("name", .string p.name),
      ("transform", p.transform.toJson)] := by simp
  have hcheck := check_of_record_canonical (by simp) hrecord hmem rfl
  obtain ⟨t, ht, _⟩ := map_eq_ok_iff.mp hcheck
  exact (Transform.readValue_toJson_eq_ok_iff.mp ht).2

end PartitionField

namespace PartitionSpec

/-- A spec without a parameter that is zero. -/
def Positive (spec : PartitionSpec) : Prop :=
  ∀ p ∈ spec.fields, p.transform.Positive

/-- A spec whose parameters are positive is read back. -/
theorem Positive.reads {spec : PartitionSpec} (h : spec.Positive) :
    reader.Reads spec.toJson spec := by
  obtain ⟨id, fields⟩ := spec
  have hid := reads_int32 id
  have hfields : (list PartitionField.reader).Reads
      (.array (fields.map PartitionField.toJson)) fields :=
    reads_list fun p hp => PartitionField.reads (h p hp)
  obtain ⟨parts, hrecord, hparts⟩ : ∃ parts : Fields,
      readValue (record "PartitionSpec" slots) (PartitionSpec.mk id fields).toJson.canonical =
        .ok parts ∧ parts.From _ := by
    refine record_canonical "PartitionSpec" (by simp) ?_
    simp only [Fit, List.map_cons, List.forall_mem_cons]
    exact ⟨⟨_, rfl, hid.check⟩, ⟨_, rfl, hfields.check⟩, by simp⟩
  simp only [Reads, readValue, reader, bind_eq_ok_iff]
  exact ⟨parts, hrecord, id, hparts.get rfl hid, fields, hparts.get rfl hfields, rfl⟩

/-- A spec with a parameter that is zero is refused. -/
theorem positive_of_read {spec other : PartitionSpec}
    (h : readValue reader spec.toJson.canonical = .ok other) : spec.Positive := by
  simp only [readValue, reader, bind_eq_ok_iff] at h
  obtain ⟨parts, hrecord, _⟩ := h
  have hmem : ("fields", .array (spec.fields.map PartitionField.toJson)) ∈
      [("spec-id", Json.int spec.id.toInt),
        ("fields", .array (spec.fields.map PartitionField.toJson))] := by simp
  have hcheck := check_of_record_canonical (by simp) hrecord hmem rfl
  obtain ⟨fields, hfields, _⟩ := map_eq_ok_iff.mp hcheck
  intro p hp
  obtain ⟨q, hq⟩ := exists_read_of_list hfields _ (List.mem_map_of_mem hp)
  exact PartitionField.positive_of_read hq

/-- A spec is read back as itself when its parameters are positive, and not at all otherwise. -/
theorem readValue_toJson_eq_ok_iff {spec other : PartitionSpec} :
    readValue reader spec.toJson.canonical = .ok other ↔ other = spec ∧ spec.Positive := by
  constructor
  · intro h
    have hpos := positive_of_read h
    exact ⟨Except.ok.inj (h.symm.trans hpos.reads), hpos⟩
  · rintro ⟨rfl, hpos⟩
    exact hpos.reads

end PartitionSpec

/-- Declarations state positive parameters only. -/
theorem Resolver.positive_of_resolveAll {r : Resolver} {s : Schema} {declarations : List String}
    {spec : PartitionSpec} (h : r.resolveAll s declarations = .ok spec) : spec.Positive := by
  obtain ⟨us, hus, _, rfl⟩ := resolveAll_eq_ok_iff.mp h
  intro p hp
  obtain ⟨u, hu, _, htransform⟩ := exists_left_of_forall₂
    (PartitionSpec.forall₂_placed_numbered [] r.firstFieldId.toInt us) p hp
  obtain ⟨f, _, t, hdeclarable, rfl⟩ := declares_of_mapM hus u hu
  rw [htransform]
  exact hdeclarable.positive

/-- A text is read as a transform exactly when it spells it. JSON values are taken in canonical form.
So a spec is read back from its value exactly when every parameter in it is positive, and is refused
otherwise. Every resolved spec is read back, and it has the declarations that it had before. -/
theorem spec_json_round_trip :
    (∀ text t, Transform.ofText text = .ok t ↔ Transform.Spells text.toList t) ∧
    (∀ spec : PartitionSpec,
      (readValue PartitionSpec.reader spec.toJson.canonical = .ok spec ↔ spec.Positive) ∧
      (¬ spec.Positive → ∃ e, readValue PartitionSpec.reader spec.toJson.canonical = .error e)) ∧
    ∀ (r : Resolver) (s : Schema) (declarations : List String) (spec : PartitionSpec),
      r.resolveAll s declarations = .ok spec →
        spec.Positive ∧ ∃ stored texts,
          readValue PartitionSpec.reader spec.toJson.canonical = .ok stored ∧ stored = spec ∧
          s.declarations spec = .ok texts ∧ s.declarations stored = .ok texts := by
  refine ⟨fun text t => Transform.ofText_eq_ok_iff, fun spec => ⟨?_, fun hzero => ?_⟩,
    fun r s declarations spec h => ?_⟩
  · rw [PartitionSpec.readValue_toJson_eq_ok_iff, and_iff_right rfl]
  · cases hread : readValue PartitionSpec.reader spec.toJson.canonical with
    | error e => exact ⟨e, rfl⟩
    | ok other => exact absurd (PartitionSpec.positive_of_read hread) hzero
  · have hpos := Resolver.positive_of_resolveAll h
    obtain ⟨texts, htexts, _⟩ := Resolver.resolveAll_declarations h
    exact ⟨hpos, spec, texts, hpos.reads, rfl, htexts, htexts⟩

/-- Repeated ids and names come back, a width of zero does not. -/
theorem spec_json_round_trip_zero :
    let zero : PartitionSpec := ⟨-7, [⟨1, 1000, "id", .identity⟩, ⟨1, 1000, "id", .truncate 0⟩]⟩
    let spec : PartitionSpec :=
      ⟨0, [⟨1, 1000, "Ts_bucket", .bucket 16⟩, ⟨2, 1001, "ts_null", .void⟩]⟩
    let resolver : Resolver := {}
    let declarations := ["bucket( TS, +016 )", "void(ts)"]
    Transform.ofText "bucket[+016]" = .ok (.bucket 16) ∧ ¬ zero.Positive ∧
      (∃ e, readValue PartitionSpec.reader zero.toJson.canonical = .error e) ∧
      resolver.resolveAll twoCases declarations = .ok spec ∧ spec.Positive ∧
      ∃ stored texts, readValue PartitionSpec.reader spec.toJson.canonical = .ok stored ∧
        stored = spec ∧ twoCases.declarations spec = .ok texts ∧
        twoCases.declarations stored = .ok texts := by
  intro zero spec resolver declarations
  obtain ⟨hspelled, hjson, hresolved⟩ := spec_json_round_trip
  have hdigits : Text.Numeral.Digits "016".toList := ⟨by decide, List.all_eq_true.mp rfl⟩
  have hspells : Transform.Spells "bucket[+016]".toList (.bucket 16) :=
    @Transform.Spells.bucket "+016".toList 16 (.plus hdigits rfl (by decide))
  have hzero : ¬ zero.Positive := fun h => h ⟨1, 1000, "id", .truncate 0⟩ (by simp [zero]) rfl
  have hspec : resolver.resolveAll twoCases declarations = .ok spec := by decide
  exact ⟨(hspelled _ _).mpr hspells, hzero, (hjson zero).2 hzero, hspec,
    hresolved resolver twoCases declarations spec hspec⟩

end Partitioning
