import Partitioning.Proofs.SpecDeclarations

/-!
# Compatible specs

Compatible specs are the same list of sources, names and transforms, under whatever ids. This is an
equivalence, and nothing that is made of a spec tells compatible specs apart, but for the ids in its
partition struct.
-/

namespace Partitioning

/-- Whether two fields differ in their ids at most. -/
def Field.SameButId (f g : Field) : Prop := g = { f with id := g.id }

namespace PartitionSpec

variable {a b : PartitionSpec} {p q : PartitionField}

/-- A partition field without its id. -/
def unnumbered (p : PartitionField) : Int32 × String × Transform :=
  (p.sourceId, p.name, p.transform)

/-- Partition fields are the same when they agree in all but their ids. -/
theorem sameField_iff_unnumbered_eq : SameField p q ↔ unnumbered p = unnumbered q := by
  rw [unnumbered, unnumbered, Prod.mk.injEq, Prod.mk.injEq]
  rfl

/-- Specs are compatible when their fields agree in all but ids, one by one. -/
theorem isCompatibleWith_iff_map_eq :
    a.isCompatibleWith b = true ↔ a.fields.map unnumbered = b.fields.map unnumbered := by
  have hsame : SameField = fun p q => unnumbered p = unnumbered q := by
    ext p q
    exact sameField_iff_unnumbered_eq
  rw [isCompatibleWith_iff, hsame, ← List.forall₂_eq_eq_eq, List.forall₂_map_left_iff,
    List.forall₂_map_right_iff]

theorem isCompatibleWith_equivalence :
    Equivalence fun a b : PartitionSpec => a.isCompatibleWith b = true := by
  simp only [isCompatibleWith_iff_map_eq]
  exact ⟨fun _ => rfl, Eq.symm, Eq.trans⟩

theorem isUnpartitioned_congr (h : a.isCompatibleWith b = true) :
    a.isUnpartitioned = b.isUnpartitioned := by
  have hall (spec : PartitionSpec) :
      spec.isUnpartitioned = (spec.fields.map unnumbered).all fun p => p.2.2 == .void := by
    rw [isUnpartitioned, List.all_map]
    rfl
  rw [hall, hall, isCompatibleWith_iff_map_eq.mp h]

/-- The same partition fields have the same struct fields but for their ids, or fail alike. -/
theorem alike_structField (s : Schema) (h : SameField p q) :
    Alike Field.SameButId (structField s p) (structField s q) := by
  obtain ⟨hsource, hname, htransform⟩ := h
  unfold structField
  rw [hsource, hname, htransform]
  cases s.typeById? q.sourceId with
  | none => exact .error _
  | some source =>
      apply (Alike.refl (q.transform.resultType source)).bind
      rintro type _ rfl
      exact .ok rfl

theorem alike_structFields (s : Schema) (h : a.isCompatibleWith b = true) :
    Alike (List.Forall₂ Field.SameButId) (a.structFields s) (b.structFields s) :=
  Alike.mapM (isCompatibleWith_iff.mp h) fun _ _ => alike_structField s

/-- The partition structs of compatible specs have the same fields under other ids, or are refused
for the same reason. -/
theorem partitionType_congr (s : Schema) (h : a.isCompatibleWith b = true) :
    (∃ e, a.partitionType s = .error e ∧ b.partitionType s = .error e) ∨
      ∃ fs gs, a.partitionType s = .ok (.struct fs) ∧ b.partitionType s = .ok (.struct gs) ∧
        List.Forall₂ Field.SameButId fs gs := by
  rw [partitionType, partitionType]
  obtain ⟨e, ha, hb⟩ | ⟨fs, gs, ha, hb, hfields⟩ := (alike_structFields s h).error_or_ok
  · rw [ha, hb]
    exact .inl ⟨e, rfl, rfl⟩
  · rw [ha, hb]
    exact .inr ⟨fs, gs, rfl, rfl, hfields⟩

/-- Compatibility is an equivalence. Compatible specs have the same declarations or the same reason
for having none, the same answer to being unpartitioned, and partition structs that differ in the
ids of their fields at most. -/
theorem compatibility_respected :
    (Equivalence fun a b : PartitionSpec => a.isCompatibleWith b = true) ∧
      ∀ a b : PartitionSpec, a.isCompatibleWith b = true →
        a.isUnpartitioned = b.isUnpartitioned ∧
          ∀ s : Schema, s.declarations a = s.declarations b ∧
            ((∃ e, a.partitionType s = .error e ∧ b.partitionType s = .error e) ∨
              ∃ fs gs, a.partitionType s = .ok (.struct fs) ∧
                b.partitionType s = .ok (.struct gs) ∧ fs.length = gs.length ∧
                ∀ (i : Nat) f g, fs[i]? = some f → gs[i]? = some g → Field.SameButId f g) := by
  refine ⟨isCompatibleWith_equivalence, fun a b h => ⟨isUnpartitioned_congr h, fun s => ⟨?_, ?_⟩⟩⟩
  · exact Schema.declarations_congr (isCompatibleWith_iff.mp h)
  · obtain herror | ⟨fs, gs, hfs, hgs, hfields⟩ := partitionType_congr s h
    · exact .inl herror
    · refine .inr ⟨fs, gs, hfs, hgs, hfields.length_eq, fun i f g hf hg => ?_⟩
      obtain ⟨_, hg', hsame⟩ := exists_getElem?_of_forall₂ hfields hf
      obtain rfl := Option.some.inj (hg.symm.trans hg')
      exact hsame

/-- Three specs under ids of their own, and two with a source that the schema does not have. -/
theorem compatibility_respected_renumbered :
    let a : PartitionSpec := ⟨0, [⟨1, 1000, "Ts_day", .day⟩, ⟨2, 1001, "ts_null", .void⟩]⟩
    let b : PartitionSpec := ⟨1, [⟨1, 1004, "Ts_day", .day⟩, ⟨2, 1003, "ts_null", .void⟩]⟩
    let c : PartitionSpec := ⟨2, [⟨1, -7, "Ts_day", .day⟩, ⟨2, -7, "ts_null", .void⟩]⟩
    let lost : PartitionSpec := ⟨0, [⟨9, 1000, "", .void⟩, ⟨2, 1001, "", .bucket 0⟩]⟩
    let lost' : PartitionSpec := ⟨0, [⟨9, 2000, "", .void⟩, ⟨2, 1000, "", .bucket 0⟩]⟩
    (a.isCompatibleWith b = true ∧ b.isCompatibleWith c = true ∧ a.isCompatibleWith c = true) ∧
      (∃ fs gs, a.partitionType twoCases = .ok (.struct fs) ∧
        b.partitionType twoCases = .ok (.struct gs) ∧ fs.length = gs.length ∧
        ∀ (i : Nat) f g, fs[i]? = some f → gs[i]? = some g → Field.SameButId f g) ∧
      (lost.isCompatibleWith lost' = true ∧ lost.isUnpartitioned = lost'.isUnpartitioned ∧
        twoCases.declarations lost = twoCases.declarations lost' ∧
        ∃ e, lost.partitionType twoCases = .error e ∧ lost'.partitionType twoCases = .error e) := by
  intro a b c lost lost'
  have hab : a.isCompatibleWith b = true := by decide
  have hbc : b.isCompatibleWith c = true := by decide
  have hlost : lost.isCompatibleWith lost' = true := by decide
  obtain ⟨hequivalence, huses⟩ := compatibility_respected
  obtain ⟨_, hsame⟩ := huses a b hab
  obtain ⟨hunpartitioned, hsame'⟩ := huses lost lost' hlost
  refine ⟨⟨hab, hbc, hequivalence.trans hab hbc⟩, ?_, hlost, hunpartitioned, (hsame' twoCases).1, ?_⟩
  · obtain ⟨e, he, _⟩ | hstructs := (hsame twoCases).2
    · cases he
    · exact hstructs
  · obtain herror | ⟨fs, _, hfs, _⟩ := (hsame' twoCases).2
    · exact herror
    · cases hfs

end PartitionSpec

end Partitioning
