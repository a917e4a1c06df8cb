import Mathlib.Data.List.Lex
import Mathlib.Order.Lattice
import Partitioning.Proofs.FieldTree

/-!
# The order of the places in a tree

Paths are compared position by position, and a path comes before those that go on from it. In this
order a field comes before the fields inside it, and these before the next field beside it: the
pre-order list of a tree holds its fields in the order of their places.
-/

namespace Partitioning.Field

/-- The places that a look-up knows, in increasing order, beside the fields that stand there. -/
structure Lists {π : Type} [LinearOrder π] (read : π → Option Field) (places : List π)
    (fields : List Field) : Prop where
  increasing : places.Pairwise (· < ·)
  reads : places.map read = fields.map some
  complete : ∀ place f, read place = some f → place ∈ places

/-- A field stands at every place that is listed. -/
theorem Lists.exists_read {π : Type} [LinearOrder π] {read : π → Option Field} {places : List π}
    {fields : List Field} (h : Lists read places fields) {place : π} (hplace : place ∈ places) :
    ∃ f, read place = some f := by
  have hread : read place ∈ fields.map some := h.reads ▸ List.mem_map_of_mem hplace
  obtain ⟨f, _, hf⟩ := List.mem_map.mp hread
  exact ⟨f, hf.symm⟩

/-- A path in a list of fields begins with a position. -/
theorem Lists.exists_cons {rest fields : List Field} {places : List (List Nat)}
    (h : Lists (at? rest) places fields) {place : List Nat} (hplace : place ∈ places) :
    ∃ i path, place = i :: path := by
  obtain ⟨f, hf⟩ := h.exists_read hplace
  cases place with
  | nil => cases hf
  | cons i path => exact ⟨i, path, rfl⟩

/-- The places from a field on: its own, and those of the parts of its type. -/
theorem Lists.withNested {f : Field} {places : List (List Nat)}
    (h : Lists (at? f.type.parts) places f.type.nested) :
    Lists f.part? ([] :: places) f.withNested := by
  constructor
  · refine List.pairwise_cons.mpr ⟨fun place hplace => ?_, h.increasing⟩
    obtain ⟨i, path, rfl⟩ := h.exists_cons hplace
    exact List.nil_lt_cons i path
  · rw [withNested_eq, List.map_cons, List.map_cons, ← h.reads]
    refine congrArg _ (List.map_congr_left fun place hplace => ?_)
    obtain ⟨i, path, rfl⟩ := h.exists_cons hplace
    exact part?_cons f i path
  · intro place g hg
    cases place with
    | nil => exact List.mem_cons_self
    | cons i path =>
        rw [part?_cons] at hg
        exact List.mem_cons_of_mem _ (h.complete _ g hg)

/-- The same path from one position further on. -/
def nextPlace : List Nat → List Nat
  | [] => []
  | i :: path => (i + 1) :: path

/-- The places of a list of fields: those of the first field below its position, then those of the
others, each moved on by one position. -/
theorem Lists.cons {f : Field} {rest : List Field} {below beside : List (List Nat)}
    (hf : Lists f.part? below f.withNested) (hrest : Lists (at? rest) beside (preorder rest)) :
    Lists (at? (f :: rest)) (below.map (0 :: ·) ++ beside.map nextPlace)
      (preorder (f :: rest)) := by
  constructor
  · refine List.pairwise_append.mpr ⟨?_, ?_, ?_⟩
    · apply hf.increasing.map
      intro a b hab
      exact List.cons_lt_cons_iff.mpr (.inr ⟨rfl, hab⟩)
    · apply List.pairwise_map.mpr
      apply hrest.increasing.imp_of_mem
      intro a b ha hb hab
      obtain ⟨i, path, rfl⟩ := hrest.exists_cons ha
      obtain ⟨j, path', rfl⟩ := hrest.exists_cons hb
      rw [nextPlace, nextPlace, List.cons_lt_cons_iff]
      obtain hlt | ⟨rfl, hlt⟩ := List.cons_lt_cons_iff.mp hab
      · exact .inl (Nat.succ_lt_succ hlt)
      · exact .inr ⟨rfl, hlt⟩
    · intro a ha b hb
      obtain ⟨path, _, rfl⟩ := List.mem_map.mp ha
      obtain ⟨place, hplace, rfl⟩ := List.mem_map.mp hb
      obtain ⟨i, path', rfl⟩ := hrest.exists_cons hplace
      exact List.cons_lt_cons_iff.mpr (.inl (Nat.succ_pos i))
  · have hbelow : (below.map (0 :: ·)).map (at? (f :: rest)) = below.map f.part? :=
      List.map_map
    have hbeside : (beside.map nextPlace).map (at? (f :: rest)) = beside.map (at? rest) := by
      rw [List.map_map]
      apply List.map_congr_left
      intro place hplace
      obtain ⟨i, path, rfl⟩ := hrest.exists_cons hplace
      rfl
    rw [preorder, List.map_append, List.map_append, hbelow, hbeside, hf.reads, hrest.reads]
  · intro place g hg
    cases place with
    | nil => cases hg
    | cons i path =>
        cases i with
        | zero => exact List.mem_append_left _ (List.mem_map_of_mem (hf.complete path g hg))
        | succ i =>
            have hmem : i :: path ∈ beside := hrest.complete (i :: path) g hg
            exact List.mem_append_right _ (List.mem_map_of_mem (f := nextPlace) hmem)

theorem Lists.nil : Lists (at? []) [] (preorder []) where
  increasing := List.Pairwise.nil
  reads := rfl
  complete := by
    intro place f hf
    cases place with
    | nil => cases hf
    | cons i path => cases hf

mutual
/-- The fields inside a type stand at increasing places. -/
theorem exists_places_nested (type : DataType) :
    ∃ places, Lists (at? type.parts) places type.nested := by
  cases type with
  | primitive p => exact ⟨[], Lists.nil⟩
  | struct fields => exact exists_places fields
  | listOf element =>
      obtain ⟨below, helement⟩ := exists_places_withNested element
      rw [nested_eq_preorder]
      exact ⟨_, helement.cons Lists.nil⟩
  | mapOf key value =>
      obtain ⟨belowKey, hkey⟩ := exists_places_withNested key
      obtain ⟨belowValue, hvalue⟩ := exists_places_withNested value
      rw [nested_eq_preorder]
      exact ⟨_, hkey.cons (hvalue.cons Lists.nil)⟩

/-- A field and the fields inside it stand at increasing places. -/
theorem exists_places_withNested (f : Field) : ∃ places, Lists f.part? places f.withNested := by
  obtain ⟨id, name, required, type, doc⟩ := f
  obtain ⟨places, hplaces⟩ := exists_places_nested type
  exact ⟨_, Lists.withNested (f := ⟨id, name, required, type, doc⟩) hplaces⟩

/-- The pre-order list of a tree holds its fields in the order of their places. -/
theorem exists_places (fields : List Field) :
    ∃ places, Lists (at? fields) places (preorder fields) := by
  cases fields with
  | nil => exact ⟨[], Lists.nil⟩
  | cons f rest =>
      obtain ⟨below, hf⟩ := exists_places_withNested f
      obtain ⟨beside, hrest⟩ := exists_places rest
      exact ⟨_, hf.cons hrest⟩
end

/-- The places of the columns alone are their positions. -/
theorem lists_columns (fields : List Field) :
    Lists (fun i : Nat => fields[i]?) (List.range fields.length) fields where
  increasing := List.pairwise_lt_range
  reads := by
    apply List.ext_getElem
    · rw [List.length_map, List.length_map, List.length_range]
    · intro i hi _
      rw [List.length_map, List.length_range] at hi
      rw [List.getElem_map, List.getElem_map, List.getElem_range, List.getElem?_eq_getElem hi]
  complete := by
    intro i f hf
    exact List.mem_range.mpr (List.getElem?_eq_some_iff.mp hf).1

section Prefix

variable {π : Type} [LinearOrder π] {read : π → Option Field} {earlier later : List π} {place : π}
  {before after : List Field} {f : Field}

/-- As many places are listed as fields. -/
theorem Lists.length_eq {places : List π} {fields : List Field} (h : Lists read places fields) :
    places.length = fields.length := by
  have hreads := congrArg List.length h.reads
  rwa [List.length_map, List.length_map] at hreads

section Split

variable (h : Lists read (earlier ++ place :: later) (before ++ f :: after))
  (hlength : earlier.length = before.length)

include h hlength

theorem Lists.reads_split :
    earlier.map read = before.map some ∧ (place :: later).map read = (f :: after).map some := by
  have hreads := h.reads
  rw [List.map_append, List.map_append] at hreads
  exact List.append_inj hreads (by rw [List.length_map, List.length_map, hlength])

/-- The field in the middle of a list stands at the place in the middle. -/
theorem Lists.read_eq : read place = some f :=
  (List.cons.inj (h.reads_split hlength).2).1

/-- The fields at the places before another are those listed before it. -/
theorem Lists.exists_earlier_iff {g : Field} :
    (∃ q < place, read q = some g) ↔ g ∈ before := by
  have hbefore := (h.reads_split hlength).1
  obtain ⟨_, hlater, hsides⟩ := List.pairwise_append.mp h.increasing
  constructor
  · rintro ⟨q, hq, hg⟩
    have hmem : q ∈ earlier := by
      obtain hmem | hmem := List.mem_append.mp (h.complete q g hg)
      · exact hmem
      · obtain rfl | hmem := List.mem_cons.mp hmem
        · exact absurd hq (lt_irrefl _)
        · exact absurd hq (lt_asymm ((List.pairwise_cons.mp hlater).1 q hmem))
    have hsome : some g ∈ before.map some := hbefore ▸ hg ▸ List.mem_map_of_mem hmem
    obtain ⟨_, hg', he⟩ := List.mem_map.mp hsome
    exact Option.some.inj he ▸ hg'
  · intro hg
    have hsome : some g ∈ earlier.map read := hbefore ▸ List.mem_map_of_mem hg
    obtain ⟨q, hq, hread⟩ := List.mem_map.mp hsome
    exact ⟨q, hsides q hq place List.mem_cons_self, hread⟩

end Split

end Prefix

end Partitioning.Field
