import Partitioning.Proofs.Canonical
import Partitioning.Proofs.ResolvedSpec

/-!
# Specs and their declarations

Two specs that were resolved over one schema have the same canonical declarations exactly when they
are compatible, and a spec is resolved again from its canonical declarations.
-/

namespace Partitioning

theorem Resolver.mapM_resolve_canonical {r : Resolver} {s : Schema} {us : List UnboundField}
    (h : ∀ u ∈ us, s.Declares u) :
    (us.map UnboundField.canonical).mapM (r.resolve s) = .ok us := by
  rw [List.mapM_map]
  have hread := mapM_eq_ok_map (f := r.resolve s ∘ UnboundField.canonical) (g := id)
    fun u hu => (h u hu).resolve_canonical r
  rwa [List.map_id] at hread

namespace PartitionSpec

/-- What compatible fields share: everything but their ids. -/
def SameField (p q : PartitionField) : Prop :=
  p.sourceId = q.sourceId ∧ p.name = q.name ∧ p.transform = q.transform

theorem sameField_eq_true_iff {p q : PartitionField} : sameField p q = true ↔ SameField p q := by
  simp only [sameField, SameField, Bool.and_eq_true, beq_iff_eq, and_assoc]

theorem isCompatibleWith_iff {a b : PartitionSpec} :
    a.isCompatibleWith b = true ↔ List.Forall₂ SameField a.fields b.fields := by
  rw [List.forall₂_iff_zip, isCompatibleWith, Bool.and_eq_true, beq_iff_eq, List.all_eq_true]
  simp only [sameField_eq_true_iff, Prod.forall]

/-- Where descriptors are placed decides their ids, and nothing else. -/
theorem placed_compatible (taken : List String) (due due' : Int) (us : List UnboundField) :
    List.Forall₂ SameField (placed taken (numbered due us)) (placed taken (numbered due' us)) := by
  induction us generalizing taken due due' with
  | nil => exact .nil
  | cons u rest ih => exact .cons ⟨rfl, rfl, rfl⟩ (ih _ _ _)

end PartitionSpec

namespace Schema

variable {s : Schema}

theorem declarations_congr {a b : PartitionSpec}
    (h : List.Forall₂ PartitionSpec.SameField a.fields b.fields) :
    s.declarations a = s.declarations b := by
  unfold declarations
  generalize a.fields = ps, b.fields = qs at h ⊢
  induction h with
  | nil => rfl
  | cons hhead _ ih => rw [List.mapM_cons, List.mapM_cons, hhead.1, hhead.2.2, ih]

/-- The names and the ids of a spec leave no trace in its declarations. -/
theorem declarations_placed (id : Int32) (taken : List String) (due : Int)
    {us : List UnboundField} (h : ∀ u ∈ us, s.Declares u) :
    s.declarations ⟨id, PartitionSpec.placed taken (PartitionSpec.numbered due us)⟩ =
      .ok (us.map UnboundField.canonical) := by
  apply mapM_eq_ok_iff.mpr
  rw [List.forall₂_map_right_iff]
  apply List.Forall₂.flip
  have hplaced := (List.forall₂_and_left us _).mpr ⟨h, PartitionSpec.forall₂_placed_numbered taken due us⟩
  refine hplaced.imp ?_
  rintro u p ⟨hu, hsource, htransform⟩
  rw [flip, hsource, htransform]
  exact hu.declaration_eq

end Schema

/-- A resolved spec has canonical declarations, and they resolve to it. -/
theorem Resolver.resolveAll_declarations {r : Resolver} {s : Schema} {ds : List String}
    {spec : PartitionSpec} (h : r.resolveAll s ds = .ok spec) :
    ∃ texts, s.declarations spec = .ok texts ∧ r.resolveAll s texts = .ok spec := by
  obtain ⟨us, hus, hroom, rfl⟩ := resolveAll_eq_ok_iff.mp h
  have hdeclared := declares_of_mapM hus
  have hread := mapM_resolve_canonical (r := r) hdeclared
  exact ⟨_, Schema.declarations_placed 0 [] _ hdeclared,
    resolveAll_eq_ok_iff.mpr ⟨us, hread, hroom, rfl⟩⟩

/-- The canonical declarations of a resolved spec exist, are those of another one exactly when the
two are compatible, and resolve to the spec itself. -/
theorem canonical_declarations_complete {p q : Resolver} {s : Schema} {ds es : List String}
    {a b : PartitionSpec} (ha : p.resolveAll s ds = .ok a) (hb : q.resolveAll s es = .ok b) :
    ∃ texts texts', s.declarations a = .ok texts ∧ s.declarations b = .ok texts' ∧
      (texts = texts' ↔ a.isCompatibleWith b = true) ∧ p.resolveAll s texts = .ok a := by
  obtain ⟨us, hus, hroom, hspec⟩ := Resolver.resolveAll_eq_ok_iff.mp ha
  obtain ⟨vs, hvs, _, hspec'⟩ := Resolver.resolveAll_eq_ok_iff.mp hb
  have husDeclared := Resolver.declares_of_mapM hus
  have hvsDeclared := Resolver.declares_of_mapM hvs
  have htexts : s.declarations a = .ok (us.map UnboundField.canonical) :=
    hspec ▸ Schema.declarations_placed 0 [] _ husDeclared
  have htexts' : s.declarations b = .ok (vs.map UnboundField.canonical) :=
    hspec' ▸ Schema.declarations_placed 0 [] _ hvsDeclared
  have hread := Resolver.mapM_resolve_canonical (r := p) husDeclared
  refine ⟨_, _, htexts, htexts', ?_, Resolver.resolveAll_eq_ok_iff.mpr ⟨us, hread, hroom, hspec⟩⟩
  rw [PartitionSpec.isCompatibleWith_iff]
  constructor
  · intro hsame
    -- Equal texts resolve to equal descriptors.
    have hread' := Resolver.mapM_resolve_canonical (r := p) hvsDeclared
    rw [← hsame, hread] at hread'
    obtain rfl := Except.ok.inj hread'
    rw [hspec, hspec']
    exact PartitionSpec.placed_compatible [] _ _ us
  · intro hcompatible
    have hsame := Schema.declarations_congr (s := s) hcompatible
    rw [htexts, htexts'] at hsame
    exact Except.ok.inj hsame

theorem canonical_declarations_complete_twoCases :
    let a : PartitionSpec := ⟨0, [⟨1, 1000, "Ts_day", .day⟩, ⟨1, 1001, "Ts_bucket", .bucket 4⟩,
      ⟨1, 1002, "Ts_bucket_2", .bucket 8⟩]⟩
    let b : PartitionSpec := ⟨0, [⟨1, 2000, "Ts_day", .day⟩, ⟨1, 2001, "Ts_bucket", .bucket 4⟩,
      ⟨1, 2002, "Ts_bucket_2", .bucket 8⟩]⟩
    let p : Resolver := {}
    let q : Resolver := { caseSensitive := true, firstFieldId := 2000 }
    p.resolveAll twoCases ["DAY( tS )", "bucket(TS,4)", "bucket(Ts, 8)"] = .ok a ∧
      q.resolveAll twoCases ["day(Ts)", "Bucket(Ts, 04)", "bucket( Ts, 8)"] = .ok b ∧
      ∃ texts texts', twoCases.declarations a = .ok texts ∧ twoCases.declarations b = .ok texts' ∧
        (texts = texts' ↔ a.isCompatibleWith b = true) ∧ p.resolveAll twoCases texts = .ok a := by
  intro a b p q
  have ha : p.resolveAll twoCases ["DAY( tS )", "bucket(TS,4)", "bucket(Ts, 8)"] = .ok a := by
    decide
  have hb : q.resolveAll twoCases ["day(Ts)", "Bucket(Ts, 04)", "bucket( Ts, 8)"] = .ok b := by
    decide
  exact ⟨ha, hb, canonical_declarations_complete ha hb⟩

end Partitioning
