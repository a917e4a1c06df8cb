import Partitioning.Proofs.DraftHistory
import Partitioning.Proofs.Resolver

/-!
# Resolved specs

A list of declarations resolves to the descriptors of its members, placed one after the other. The
fields of the spec therefore apply to columns and have names and ids of their own.
-/

namespace Partitioning

namespace PartitionSpec

/-- The partition fields over a schema whose transform applies to a column. -/
def Applies (s : Schema) (p : PartitionField) : Prop :=
  ∃ f ∈ s.fields, p.sourceId = f.id ∧ p.transform.checkSource f.type = .ok ()

/-- What every resolved spec satisfies. -/
structure Resolved (s : Schema) (first : Int32) (spec : PartitionSpec) : Prop where
  applies : ∀ p ∈ spec.fields, Applies s p
  namesDistinct : (spec.fields.map PartitionField.name).Nodup
  idsDistinct : (spec.fields.map PartitionField.id).Nodup
  idsFrom : ∀ p ∈ spec.fields, first ≤ p.id

end PartitionSpec

namespace Resolver

variable {r : Resolver} {s : Schema} {declarations : List String} {us : List UnboundField}

theorem declares_of_mapM (h : declarations.mapM (r.resolve s) = .ok us) :
    ∀ u ∈ us, s.Declares u := by
  intro u hu
  obtain ⟨declaration, _, hread⟩ := exists_left_of_forall₂ (mapM_eq_ok_iff.mp h) u hu
  exact resolve_sound hread

/-- The calls that place descriptors from the first field id of a resolver on. -/
def calls (r : Resolver) (us : List UnboundField) : List PartitionSpec.Call :=
  .withFirstFieldId r.firstFieldId :: us.map .addUnbound

theorem dueId_firstFieldId (r : Resolver) :
    PartitionSpec.dueId [.withFirstFieldId r.firstFieldId] = r.firstFieldId.toInt :=
  PartitionSpec.dueId_concat [] _

theorem requests_calls (us : List UnboundField) :
    PartitionSpec.requests (r.calls us) = PartitionSpec.numbered r.firstFieldId.toInt us := by
  rw [← dueId_firstFieldId, ← PartitionSpec.requestsAfter_addUnbound]
  rfl

theorem specId_calls (us : List UnboundField) : PartitionSpec.specId (r.calls us) = 0 := by
  have hnone : (us.map PartitionSpec.Call.addUnbound).filterMap PartitionSpec.Call.id? = [] := by
    rw [List.filterMap_map]
    exact List.filterMap_none us
  rw [PartitionSpec.specId, calls, List.filterMap_cons_none rfl, hnone]
  rfl

theorem resolveAll_eq_build_run (h : declarations.mapM (r.resolve s) = .ok us) :
    r.resolveAll s declarations = (PartitionSpec.run (r.calls us)).build := by
  rw [resolveAll, h, PartitionSpec.run, calls, List.foldl_cons, List.foldl_map]
  rfl

/-- The spec of a list of declarations holds their descriptors, if there are enough field ids. -/
theorem resolveAll_eq_ok_iff {spec : PartitionSpec} :
    r.resolveAll s declarations = .ok spec ↔
      ∃ us, declarations.mapM (r.resolve s) = .ok us ∧
        r.firstFieldId.toInt + us.length ≤ 0x80000000 ∧
        spec = ⟨0, PartitionSpec.placed [] (PartitionSpec.numbered r.firstFieldId.toInt us)⟩ := by
  have hfirst : r.firstFieldId.toInt ≤ 0x80000000 := Int.le_of_lt r.firstFieldId.toInt_lt
  cases hread : declarations.mapM (r.resolve s) with
  | error e => simp [resolveAll, hread, bind, Except.bind]
  | ok us =>
      rw [resolveAll_eq_build_run hread, PartitionSpec.build_run_eq_ok_iff, requests_calls,
        specId_calls, PartitionSpec.numbered_fits_iff hfirst]
      simp only [Except.ok.injEq, exists_eq_left']

theorem resolveAll_sound {spec : PartitionSpec} (h : r.resolveAll s declarations = .ok spec) :
    PartitionSpec.Resolved s r.firstFieldId spec := by
  obtain ⟨us, hus, hroom, hspec⟩ := resolveAll_eq_ok_iff.mp h
  have hbuild : (PartitionSpec.run (r.calls us)).build = .ok spec :=
    (resolveAll_eq_build_run hus).symm.trans h
  have hunset : ∀ c ∈ us.map PartitionSpec.Call.addUnbound, c.firstFieldId? = none := by
    intro c hc
    obtain ⟨u, _, rfl⟩ := List.mem_map.mp hc
    rfl
  obtain ⟨hgrow, hfrom⟩ := PartitionSpec.requestsAfter_increasing
    [.withFirstFieldId r.firstFieldId] hunset
  refine ⟨?_, ?_, ?_, ?_⟩
  · intro p hp
    rw [hspec] at hp
    obtain ⟨u, hu, hsource, htransform⟩ := exists_left_of_forall₂
      (PartitionSpec.forall₂_placed_numbered [] r.firstFieldId.toInt us) p hp
    obtain ⟨f, hf, t, hdeclarable, rfl⟩ := declares_of_mapM hus u hu
    exact ⟨f, hf, hsource, htransform ▸ hdeclarable.applies⟩
  · rw [hspec, PartitionSpec.map_name_placed]
    exact (PartitionSpec.chosenNames_distinct [] _).1
  · exact (PartitionSpec.nodup_ids_iff hbuild).mpr
      (List.pairwise_map.mpr (hgrow.imp Int.ne_of_lt))
  · intro p hp
    obtain ⟨q, hq, hplaces⟩ :=
      exists_left_of_forall₂ (PartitionSpec.places_of_build hbuild) p hp
    rw [Int32.le_iff_toInt_le, hplaces.id_eq, ← dueId_firstFieldId]
    exact hfrom q hq

end Resolver

end Partitioning
