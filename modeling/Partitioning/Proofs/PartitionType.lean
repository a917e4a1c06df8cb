import Mathlib.Data.List.Lattice
import Mathlib.Data.List.Pairwise
import Partitioning.Proofs.ResolvedSpec
import Partitioning.Proofs.SourceType

/-!
# Partition schemas

Every resolved spec has a partition struct, with the ids and names of its fields. A void field has
the type of its column, so it brings along the ids inside the column. The struct is the fields of a
schema exactly when those ids are brought along once and are not the ids of partition fields.
-/

namespace Partitioning

namespace Schema

variable {s : Schema}

/-- The ids inside the column of an id. -/
def idsInside (s : Schema) (id : Int32) : List Int32 :=
  match s.fieldById? id with
  | some f => f.nestedIds
  | none => []

/-- The ids inside a column are found by its own id. -/
theorem idsInside_of_mem {f : Field} (h : f ∈ s.fields) : s.idsInside f.id = f.nestedIds := by
  rw [idsInside, fieldById?_eq_some_iff.mpr ⟨Field.mem_preorder_of_mem h, rfl⟩]

/-- All ids inside the columns of a schema are distinct. -/
theorem nestedIds_distinct : (s.fields.flatMap Field.nestedIds).Nodup := by
  obtain ⟨_, hids, _⟩ := wellFormed_iff_ids.mp s.wellFormed
  exact (List.nodup_append'.mp hids).2.1

/-- No id is inside two columns. -/
theorem eq_of_mem_nestedIds {f g : Field} (hf : f ∈ s.fields) (hg : g ∈ s.fields) {id : Int32}
    (hidf : id ∈ f.nestedIds) (hidg : id ∈ g.nestedIds) : f = g := by
  by_contra hne
  have hpairs := (List.nodup_flatMap.mp s.nestedIds_distinct).2
  have : Std.Symm (Function.onFun List.Disjoint Field.nestedIds) :=
    ⟨fun _ _ hdisjoint => hdisjoint.symm⟩
  exact hpairs.forall hf hg hne hidf hidg

theorem nestedIds_positive {f : Field} (hf : f ∈ s.fields) : ∀ id ∈ f.nestedIds, 0 < id := by
  intro id hid
  apply (wellFormed_iff_ids.mp s.wellFormed).1
  exact List.mem_append_right _ (List.mem_flatMap.mpr ⟨f, hf, hid⟩)

end Schema

namespace PartitionSpec

variable {s : Schema}

/-- The ids that the values of a partition field bring along from the table. -/
def broughtIds (s : Schema) (p : PartitionField) : List Int32 :=
  if p.transform = .void then s.idsInside p.sourceId else []

/-- A field of the partition struct that holds the values of a partition field. -/
structure HoldsValues (s : Schema) (p : PartitionField) (g : Field) : Prop where
  id_eq : g.id = p.id
  name_eq : g.name = p.name
  nestedIds_eq : g.nestedIds = broughtIds s p

/-- A partition field over a column of the schema has a field in the struct. -/
theorem structField_eq_ok {p : PartitionField} (h : Applies s p) :
    ∃ g, structField s p = .ok g ∧ HoldsValues s p g := by
  obtain ⟨f, hf, hsource, hcheck⟩ := h
  obtain ⟨type, hyields⟩ := Transform.checkSource_eq_ok_iff.mp hcheck
  have htype := Transform.resultType_eq_ok_iff.mpr hyields
  refine ⟨⟨p.id, p.name, false, type, none⟩, ?_, rfl, rfl, ?_⟩
  · have hfind : s.typeById? p.sourceId = some f.type := by
      rw [Schema.typeById?, Schema.fieldById?_eq_some_iff.mpr
        ⟨Field.mem_preorder_of_mem hf, hsource.symm⟩, Option.map_some]
    simp only [structField, hfind, htype]
    rfl
  · rw [broughtIds, hsource, Schema.idsInside_of_mem hf, Field.nestedIds, hyields.nested_eq]
    split
    · rfl
    · rfl

/-- A spec over columns of the schema has a struct, with a field for each of its own. -/
theorem structFields_eq_ok {spec : PartitionSpec} (h : ∀ p ∈ spec.fields, Applies s p) :
    ∃ gs, spec.structFields s = .ok gs ∧ List.Forall₂ (HoldsValues s) spec.fields gs :=
  exists_mapM_eq_ok fun p hp => structField_eq_ok (h p hp)

/-- The ids of a partition struct are those of the partition fields and the ones brought along. -/
theorem ids_of_holdsValues {ps : List PartitionField} {gs : List Field}
    (h : List.Forall₂ (HoldsValues s) ps gs) :
    ((Field.preorder gs).map Field.id).Perm
      (ps.map PartitionField.id ++ ps.flatMap (broughtIds s)) := by
  have hids := map_eq_of_forall₂ h fun _ _ hholds => hholds.id_eq
  have hnested := map_eq_of_forall₂ h fun _ _ hholds => hholds.nestedIds_eq
  have hperm := Field.preorder_ids_perm gs
  rwa [hids, List.flatMap_def, hnested, ← List.flatMap_def] at hperm

/-- A partition field brings no id along twice. -/
theorem broughtIds_distinct {p : PartitionField} (h : Applies s p) : (broughtIds s p).Nodup := by
  obtain ⟨f, hf, hsource, _⟩ := h
  unfold broughtIds
  split
  · rw [hsource, Schema.idsInside_of_mem hf]
    exact (List.nodup_flatMap.mp s.nestedIds_distinct).1 f hf
  · exact List.nodup_nil

theorem broughtIds_positive {p : PartitionField} (h : Applies s p) :
    ∀ id ∈ broughtIds s p, 0 < id := by
  obtain ⟨f, hf, hsource, _⟩ := h
  intro id hid
  unfold broughtIds at hid
  split at hid
  · rw [hsource, Schema.idsInside_of_mem hf] at hid
    exact Schema.nestedIds_positive hf id hid
  · cases hid

/-- Two partition fields bring the same id along only if both copy one column. -/
theorem broughtIds_disjoint_iff {p q : PartitionField} (hp : Applies s p) (hq : Applies s q) :
    List.Disjoint (broughtIds s p) (broughtIds s q) ↔
      (p.transform = .void → q.transform = .void → p.sourceId = q.sourceId →
        s.idsInside p.sourceId = []) := by
  obtain ⟨f, hf, hsource, _⟩ := hp
  obtain ⟨g, hg, hsource', _⟩ := hq
  constructor
  · intro hdisjoint hvoid hvoid' hsame
    rw [broughtIds, broughtIds, if_pos hvoid, if_pos hvoid', ← hsame] at hdisjoint
    exact List.eq_nil_iff_forall_not_mem.mpr fun id hid => hdisjoint hid hid
  · intro hempty id hid hid'
    unfold broughtIds at hid hid'
    split at hid
    · next hvoid =>
        split at hid'
        · next hvoid' =>
            have hidf := hid
            rw [hsource, Schema.idsInside_of_mem hf] at hidf
            rw [hsource', Schema.idsInside_of_mem hg] at hid'
            obtain rfl := Schema.eq_of_mem_nestedIds hf hg hidf hid'
            rw [hempty hvoid hvoid' (hsource.trans hsource'.symm)] at hid
            cases hid
        · cases hid'
    · cases hid

namespace Resolved

variable {first : Int32} {spec : PartitionSpec}

/-- The ids of a partition struct are positive when its first own id is. -/
theorem ids_positive (h : Resolved s first spec) (hfirst : 0 < first) {id : Int32}
    (hid : id ∈ spec.fields.map PartitionField.id ++ spec.fields.flatMap (broughtIds s)) :
    0 < id := by
  obtain hid | hid := List.mem_append.mp hid
  · obtain ⟨p, hp, rfl⟩ := List.mem_map.mp hid
    exact Int32.lt_of_lt_of_le hfirst (h.idsFrom p hp)
  · obtain ⟨p, hp, hid⟩ := List.mem_flatMap.mp hid
    exact broughtIds_positive (h.applies p hp) id hid

/-- Ids are brought along once unless a column with ids inside is copied twice. -/
theorem broughtIds_nodup_iff (h : Resolved s first spec) :
    (spec.fields.flatMap (broughtIds s)).Nodup ↔
      spec.fields.Pairwise fun p q => p.transform = .void → q.transform = .void →
        p.sourceId = q.sourceId → s.idsInside p.sourceId = [] := by
  rw [List.nodup_flatMap, and_iff_right fun p hp => broughtIds_distinct (h.applies p hp)]
  exact List.Pairwise.iff_of_mem fun hp hq =>
    broughtIds_disjoint_iff (h.applies _ hp) (h.applies _ hq)

end Resolved

/-- The ids of partition fields stay apart from those brought along unless one stands inside a
copied column. -/
theorem disjoint_broughtIds_iff {ps : List PartitionField} :
    List.Disjoint (ps.map PartitionField.id) (ps.flatMap (broughtIds s)) ↔
      ∀ p ∈ ps, ∀ q ∈ ps, q.transform = .void → p.id ∉ s.idsInside q.sourceId := by
  constructor
  · intro hdisjoint p hp q hq hvoid hid
    have hbrought : p.id ∈ broughtIds s q := by rwa [broughtIds, if_pos hvoid]
    exact hdisjoint (List.mem_map_of_mem hp) (List.mem_flatMap.mpr ⟨q, hq, hbrought⟩)
  · intro happart id hid hid'
    obtain ⟨p, hp, rfl⟩ := List.mem_map.mp hid
    obtain ⟨q, hq, hbrought⟩ := List.mem_flatMap.mp hid'
    unfold broughtIds at hbrought
    split at hbrought
    · next hvoid => exact happart p hp q hq hvoid hbrought
    · cases hbrought

end PartitionSpec

/-- A schema with ids inside its columns. -/
def listColumns : Schema :=
  ⟨0, [⟨1, "ts", true, .primitive .timestamp, none⟩,
    ⟨2, "tags", false, .list 3 true (.primitive .string), none⟩,
    ⟨4, "notes", false, .list 1000 true (.primitive .string), none⟩], _, rfl⟩

/-- A column that is made void twice brings its ids along twice, and an id inside a column can be
the id of a partition field. -/
theorem partition_schema_clash :
    (∃ spec fields, Resolver.resolveAll {} listColumns ["void(tags)", "void(tags)"] = .ok spec ∧
      spec.partitionType listColumns = .ok (.struct fields) ∧
      Schema.ofFields fields = .error (.duplicateId 3)) ∧
    (∃ spec fields, Resolver.resolveAll {} listColumns ["void(notes)"] = .ok spec ∧
      spec.partitionType listColumns = .ok (.struct fields) ∧
      Schema.ofFields fields = .error (.duplicateId 1000)) := by
  constructor
  · refine ⟨⟨0, [⟨2, 1000, "tags_null", .void⟩, ⟨2, 1001, "tags_null_2", .void⟩]⟩,
      [⟨1000, "tags_null", false, .list 3 true (.primitive .string), none⟩,
        ⟨1001, "tags_null_2", false, .list 3 true (.primitive .string), none⟩], ?_⟩
    decide
  · refine ⟨⟨0, [⟨4, 1000, "notes_null", .void⟩]⟩,
      [⟨1000, "notes_null", false, .list 1000 true (.primitive .string), none⟩], ?_⟩
    decide

/-- The partition struct of a resolved spec exists, with distinct names and positive ids. Its fields
are those of a schema exactly when no column with ids inside it is made void twice and none of those
ids is the id of a partition field. -/
theorem partition_schema_iff {r : Resolver} {s : Schema} {declarations : List String}
    {spec : PartitionSpec} (h : r.resolveAll s declarations = .ok spec) :
    ∃ fields, spec.partitionType s = .ok (.struct fields) ∧
      (fields.map Field.name).Nodup ∧ (∀ f ∈ Field.preorder fields, 0 < f.id) ∧
      ((∃ schema, Schema.ofFields fields = .ok schema) ↔
        spec.fields.Pairwise (fun p q => p.transform = .void → q.transform = .void →
          p.sourceId = q.sourceId → s.idsInside p.sourceId = []) ∧
        ∀ p ∈ spec.fields, ∀ q ∈ spec.fields, q.transform = .void →
          p.id ∉ s.idsInside q.sourceId) := by
  have hspec := Resolver.resolveAll_sound h
  obtain ⟨gs, hgs, hholds⟩ := PartitionSpec.structFields_eq_ok hspec.applies
  have hperm := PartitionSpec.ids_of_holdsValues hholds
  have hnames : (gs.map Field.name).Nodup := by
    rw [map_eq_of_forall₂ hholds fun _ _ hg => hg.name_eq]
    exact hspec.namesDistinct
  have hpositive : ∀ f ∈ Field.preorder gs, 0 < f.id := by
    intro f hf
    have hfirst : 0 < r.firstFieldId := Int32.lt_of_lt_of_le (by decide) r.notReserved
    exact hspec.ids_positive hfirst (hperm.mem_iff.mp (List.mem_map_of_mem hf))
  refine ⟨gs, ?_, hnames, hpositive, ?_⟩
  · rw [PartitionSpec.partitionType, hgs]
    rfl
  · rw [← hspec.broughtIds_nodup_iff, ← PartitionSpec.disjoint_broughtIds_iff,
      Schema.exists_ofFields_iff]
    constructor
    · intro hwell
      exact (List.nodup_append'.mp (hperm.nodup_iff.mp hwell.idsDistinct)).2
    · rintro ⟨hbrought, happart⟩
      have hids := List.nodup_append'.mpr ⟨hspec.idsDistinct, hbrought, happart⟩
      exact ⟨hpositive, hperm.nodup_iff.mpr hids, hnames⟩

theorem partition_schema_listColumns :
    let spec : PartitionSpec := ⟨0, [⟨1, 1000, "ts_day", .day⟩, ⟨2, 1001, "tags_null", .void⟩]⟩
    Resolver.resolveAll {} listColumns ["day(ts)", "void(tags)"] = .ok spec ∧
      ∃ fields, spec.partitionType listColumns = .ok (.struct fields) ∧
        (fields.map Field.name).Nodup ∧ (∀ f ∈ Field.preorder fields, 0 < f.id) ∧
        ((∃ schema, Schema.ofFields fields = .ok schema) ↔
          spec.fields.Pairwise (fun p q => p.transform = .void → q.transform = .void →
            p.sourceId = q.sourceId → listColumns.idsInside p.sourceId = []) ∧
          ∀ p ∈ spec.fields, ∀ q ∈ spec.fields, q.transform = .void →
            p.id ∉ listColumns.idsInside q.sourceId) := by
  intro spec
  have hread : Resolver.resolveAll {} listColumns ["day(ts)", "void(tags)"] = .ok spec := by
    decide
  exact ⟨hread, partition_schema_iff hread⟩

end Partitioning
