import Partitioning.CommandLine
import Partitioning.Proofs.Canonical
import Partitioning.Proofs.ResolvedSpec

/-!
# Validation

A list of declarations is read in three ways: into a spec up to the first invalid declaration, into
the errors of all invalid ones, and into the lines that the command line reports. All three agree on
which declarations are invalid, and an invalid declaration is reported before a lack of field ids.
-/

namespace Partitioning

namespace Resolver

variable {r : Resolver} {s : Schema} {declarations : List String}

/-- The invalid declarations of a list in their order, each with its error. -/
inductive Failures (r : Resolver) (s : Schema) :
    List String → List (String × PartitionError) → Prop
  | nil : Failures r s [] []
  | valid {declaration rest failed u} (h : r.resolve s declaration = .ok u)
      (tail : Failures r s rest failed) : Failures r s (declaration :: rest) failed
  | invalid {declaration rest failed e} (h : r.resolve s declaration = .error e)
      (tail : Failures r s rest failed) :
      Failures r s (declaration :: rest) ((declaration, e) :: failed)

theorem exists_failures (r : Resolver) (s : Schema) (declarations : List String) :
    ∃ failed, Failures r s declarations failed := by
  induction declarations with
  | nil => exact ⟨[], .nil⟩
  | cons declaration rest ih =>
      obtain ⟨failed, htail⟩ := ih
      cases h : r.resolve s declaration with
      | ok u => exact ⟨failed, .valid h htail⟩
      | error e => exact ⟨(declaration, e) :: failed, .invalid h htail⟩

namespace Failures

variable {failed : List (String × PartitionError)}

theorem errors_eq (h : Failures r s declarations failed) :
    r.errors s declarations = failed.map Prod.snd := by
  induction h with
  | nil => rfl
  | valid h _ ih => rw [errors, List.filterMap_cons, h, error?, ← errors, ih]
  | invalid h _ ih => rw [errors, List.filterMap_cons, h, error?, ← errors, ih, List.map_cons]

theorem defects_eq (h : Failures r s declarations failed) :
    CommandLine.defects r s declarations = failed.map fun p => p.1 ++ ": " ++ p.2.message := by
  induction h with
  | nil => rfl
  | valid h _ ih => rw [CommandLine.defects, List.filterMap_cons, h, ← CommandLine.defects, ih]
  | invalid h _ ih =>
      rw [CommandLine.defects, List.filterMap_cons, h, ← CommandLine.defects, ih, List.map_cons]
      rfl

/-- Resolving stops at the first failure, and succeeds without one. -/
theorem mapM_resolve (h : Failures r s declarations failed) :
    match failed with
    | [] => ∃ us, declarations.mapM (r.resolve s) = .ok us
    | (_, e) :: _ => declarations.mapM (r.resolve s) = .error e := by
  induction h with
  | nil => exact ⟨[], rfl⟩
  | @valid declaration rest failed u h _ ih =>
      rw [List.mapM_cons, h]
      cases failed with
      | nil =>
          obtain ⟨us, hus⟩ := ih
          exact ⟨u :: us, by rw [hus]; rfl⟩
      | cons p failed =>
          simp only [bind, Except.bind] at ih ⊢
          rw [ih]
  | invalid h _ _ =>
      rw [List.mapM_cons, h]
      rfl

end Failures

theorem errors_eq_nil_iff :
    r.errors s declarations = [] ↔ ∃ us, declarations.mapM (r.resolve s) = .ok us := by
  obtain ⟨failed, hfailed⟩ := exists_failures r s declarations
  have hread := hfailed.mapM_resolve
  rw [hfailed.errors_eq, List.map_eq_nil_iff]
  cases failed with
  | nil => exact iff_of_true rfl hread
  | cons p failed =>
      refine iff_of_false (List.cons_ne_nil _ _) ?_
      rintro ⟨us, hus⟩
      rw [hus] at hread
      cases hread

theorem resolveAll_eq_error {e : PartitionError}
    (h : declarations.mapM (r.resolve s) = .error e) : r.resolveAll s declarations = .error e := by
  rw [resolveAll, h]
  rfl

/-- Valid declarations make no spec exactly when there are too few field ids for them. -/
theorem resolveAll_eq_exhausted_iff {us : List UnboundField}
    (h : declarations.mapM (r.resolve s) = .ok us) :
    r.resolveAll s declarations = .error .idsExhausted ↔
      0x80000000 < r.firstFieldId.toInt + us.length := by
  have hfirst : r.firstFieldId.toInt ≤ 0x80000000 := Int.le_of_lt r.firstFieldId.toInt_lt
  rw [resolveAll_eq_build_run h, PartitionSpec.build_run_eq_error_iff, requests_calls,
    ← not_iff_not, Int.not_lt, ← PartitionSpec.numbered_fits_iff hfirst]
  simp only [not_exists, not_and, Int.not_le]

/-- The partition field of a declaration that stands at position `i` of a list. -/
structure PlacesAt (r : Resolver) (s : Schema) (i : Nat) (declaration : String)
    (p : PartitionField) : Prop where
  id_eq : p.id.toInt = r.firstFieldId.toInt + i
  resolved : ∃ u, r.resolve s declaration = .ok u ∧ p.sourceId = u.sourceId ∧
    p.transform = u.transform

/-- A resolved spec has a field for each declaration, at its position. -/
theorem placesAt_of_resolveAll {spec : PartitionSpec}
    (h : r.resolveAll s declarations = .ok spec) :
    spec.fields.length = declarations.length ∧
      ∀ i declaration, declarations[i]? = some declaration →
        ∃ p, spec.fields[i]? = some p ∧ r.PlacesAt s i declaration p := by
  obtain ⟨us, hus, _⟩ := resolveAll_eq_ok_iff.mp h
  have hresolved := mapM_eq_ok_iff.mp hus
  have hplaces := PartitionSpec.places_of_build ((resolveAll_eq_build_run hus).symm.trans h)
  rw [requests_calls] at hplaces
  constructor
  · rw [← hplaces.length_eq, PartitionSpec.length_numbered, hresolved.length_eq]
  · intro i declaration hi
    obtain ⟨u, hu, hread⟩ := exists_getElem?_of_forall₂ hresolved hi
    have hrequest := PartitionSpec.numbered_getElem? r.firstFieldId.toInt us i
    rw [hu, Option.map_some] at hrequest
    obtain ⟨p, hp, hplace⟩ := exists_getElem?_of_forall₂ hplaces hrequest
    exact ⟨p, hp, hplace.id_eq, u, hread, hplace.sourceId_eq, hplace.transform_eq⟩

/-- All errors are collected in order, and each is reported behind its declaration. The first one is
what fails a list; without errors it fails only for a lack of field ids. Otherwise its spec has a
field for each declaration, with distinct ids that count up and are not reserved. -/
theorem validation_agrees (r : Resolver) (s : Schema) (declarations : List String) :
    (∃ failed, Failures r s declarations failed ∧
      r.errors s declarations = failed.map Prod.snd ∧
      CommandLine.defects r s declarations = failed.map fun p => p.1 ++ ": " ++ p.2.message) ∧
    (∀ e rest, r.errors s declarations = e :: rest → r.resolveAll s declarations = .error e) ∧
    (r.errors s declarations = [] → 0 < declarations.length →
      0x7FFFFFFF < r.firstFieldId.toInt + declarations.length - 1 →
        r.resolveAll s declarations = .error .idsExhausted) ∧
    (r.errors s declarations = [] →
      (declarations.length = 0 ∨ r.firstFieldId.toInt + declarations.length - 1 ≤ 0x7FFFFFFF) →
        ∃ spec, r.resolveAll s declarations = .ok spec ∧
          spec.fields.length = declarations.length ∧
          (∀ i declaration, declarations[i]? = some declaration →
            ∃ p, spec.fields[i]? = some p ∧ r.PlacesAt s i declaration p) ∧
          (∀ p ∈ spec.fields, 1000 ≤ p.id) ∧ (spec.fields.map PartitionField.id).Nodup) := by
  obtain ⟨failed, hfailed⟩ := exists_failures r s declarations
  refine ⟨⟨failed, hfailed, hfailed.errors_eq, hfailed.defects_eq⟩, ?_, ?_, ?_⟩
  · intro e rest herrors
    have hread := hfailed.mapM_resolve
    rw [hfailed.errors_eq] at herrors
    obtain ⟨⟨declaration, _⟩, more, rfl, rfl, _⟩ := List.map_eq_cons_iff.mp herrors
    exact resolveAll_eq_error hread
  · intro herrors _ hlast
    obtain ⟨us, hus⟩ := errors_eq_nil_iff.mp herrors
    have hlength := (mapM_eq_ok_iff.mp hus).length_eq
    exact (resolveAll_eq_exhausted_iff hus).mpr (by omega)
  · intro herrors hroom
    obtain ⟨us, hus⟩ := errors_eq_nil_iff.mp herrors
    have hlength := (mapM_eq_ok_iff.mp hus).length_eq
    have hfirst := r.firstFieldId.toInt_lt
    have hspec := resolveAll_eq_ok_iff.mpr ⟨us, hus, by omega, rfl⟩
    obtain ⟨hfields, hplaces⟩ := placesAt_of_resolveAll hspec
    have hsound := resolveAll_sound hspec
    refine ⟨_, hspec, hfields, hplaces, ?_, hsound.idsDistinct⟩
    exact fun p hp => Int32.le_trans r.notReserved (hsound.idsFrom p hp)

/-- With one field id left, an invalid declaration is still what is reported. -/
theorem validation_agrees_lastId :
    let r : Resolver := { firstFieldId := 2147483647 }
    let invalid := ["day(Ts)", "year(", "day(ts)", "truncate(ts, 2)"]
    let e : PartitionError := .malformed "year("
    let e' : PartitionError := .untruncatable (.primitive .date)
    (r.errors twoCases invalid = [e, e'] ∧ r.resolveAll twoCases invalid = .error e) ∧
      (r.errors twoCases ["day(Ts)", "day(ts)"] = [] ∧
        r.resolveAll twoCases ["day(Ts)", "day(ts)"] = .error .idsExhausted) ∧
      r.errors twoCases ["DAY( tS )"] = [] ∧
      ∃ spec, r.resolveAll twoCases ["DAY( tS )"] = .ok spec ∧ spec.fields.length = 1 ∧
        ∃ p, spec.fields[0]? = some p ∧ r.PlacesAt twoCases 0 "DAY( tS )" p := by
  intro r invalid e e'
  have hinvalid : r.errors twoCases invalid = [e, e'] := by decide
  have htwo : r.errors twoCases ["day(Ts)", "day(ts)"] = [] := by decide
  have hone : r.errors twoCases ["DAY( tS )"] = [] := by decide
  have hfails := (validation_agrees r twoCases invalid).2.1 e [e'] hinvalid
  have hexhausted := (validation_agrees r twoCases ["day(Ts)", "day(ts)"]).2.2.1 htwo
    (by decide) (by decide)
  obtain ⟨spec, hspec, hlength, hplaces, _⟩ :=
    (validation_agrees r twoCases ["DAY( tS )"]).2.2.2 hone (.inr (by decide))
  exact ⟨⟨hinvalid, hfails⟩, ⟨htwo, hexhausted⟩, hone, spec, hspec, hlength, hplaces 0 _ rfl⟩

end Resolver

end Partitioning
