import Mathlib.Data.List.Nodup
import Mathlib.Data.List.Perm.Basic
import Partitioning.DataType

/-!
# Trees of fields

The tree of a list of fields branches from a field to the parts of its type. A path of positions
leads to a place in it, and the pre-order list of the tree holds exactly the fields at its places.
If the ids of this list are distinct, an id stands at one place only.
-/

namespace Partitioning

/-- The fields directly inside a type: the members of a struct, the element of a list, the key and
the value of a map. -/
def DataType.parts : DataType → List Field
  | .primitive _ => []
  | .struct fields => fields
  | .listOf element => [element]
  | .mapOf key value => [key, value]

namespace Field

/-- The field that a path leads to from another field. -/
def part? (f : Field) : List Nat → Option Field
  | [] => some f
  | i :: path => f.type.parts[i]?.bind fun g => g.part? path

/-- The field at a place in the tree, whose path begins with the position of a column. -/
def at? (fields : List Field) : List Nat → Option Field
  | [] => none
  | i :: path => fields[i]?.bind fun f => f.part? path

/-- A path inside a field is a path from the parts of its type. -/
theorem part?_cons (f : Field) (i : Nat) (path : List Nat) :
    f.part? (i :: path) = at? f.type.parts (i :: path) :=
  rfl

/-- A path leads through a column and on inside it. -/
theorem at?_cons_eq_some_iff {fields : List Field} {i : Nat} {path : List Nat} {f : Field} :
    at? fields (i :: path) = some f ↔ ∃ c, fields[i]? = some c ∧ c.part? path = some f :=
  Option.bind_eq_some_iff

/-- The field stands at some place in the tree. -/
def InTree (fields : List Field) (f : Field) : Prop := ∃ path, at? fields path = some f

/-- A path can be walked in two parts. -/
theorem part?_append (f : Field) (path rest : List Nat) :
    f.part? (path ++ rest) = (f.part? path).bind fun g => g.part? rest := by
  induction path generalizing f with
  | nil => rfl
  | cons i path ih =>
      rw [List.cons_append, part?, part?, Option.bind_assoc]
      simp only [ih]

theorem withNested_eq (f : Field) : f.withNested = f :: f.type.nested := by
  cases f
  rfl

theorem mem_withNested_self (f : Field) : f ∈ f.withNested := by
  rw [withNested_eq]
  exact List.mem_cons_self

theorem preorder_eq_flatMap (fields : List Field) : preorder fields = fields.flatMap withNested := by
  induction fields with
  | nil => rfl
  | cons f rest ih => rw [preorder, ih, List.flatMap_cons]

/-- Reordering columns reorders their trees. -/
theorem preorder_perm {fields fields' : List Field} (h : fields.Perm fields') :
    (preorder fields).Perm (preorder fields') := by
  rw [preorder_eq_flatMap, preorder_eq_flatMap]
  exact h.flatMap_right withNested

/-- What is inside a column is in the tree. -/
theorem withNested_subset_preorder {f : Field} {fields : List Field} (h : f ∈ fields) :
    f.withNested ⊆ preorder fields := by
  intro g hg
  rw [preorder_eq_flatMap]
  exact List.mem_flatMap.mpr ⟨f, h, hg⟩

theorem mem_preorder_of_mem {f : Field} {fields : List Field} (h : f ∈ fields) :
    f ∈ preorder fields :=
  withNested_subset_preorder h (mem_withNested_self f)

/-- The fields inside a type are its parts and what is inside those. -/
theorem nested_eq_preorder (type : DataType) : type.nested = preorder type.parts := by
  cases type with
  | primitive p => rfl
  | struct fields => rfl
  | listOf element => exact (List.append_nil _).symm
  | mapOf key value => exact congrArg (_ ++ ·) (List.append_nil _).symm

section Induction

variable {P : Field → Prop}

mutual
/-- What passes from fields to their parts reaches every field inside a type. -/
theorem forall_nested (step : ∀ f, P f → ∀ g ∈ f.type.parts, P g) (type : DataType)
    (h : ∀ f ∈ type.parts, P f) : ∀ f ∈ type.nested, P f := by
  cases type with
  | primitive p => exact h
  | struct fields => exact forall_preorder step fields h
  | listOf element => exact forall_withNested step element (h _ List.mem_cons_self)
  | mapOf key value =>
      have hkey := h _ List.mem_cons_self
      have hvalue := h _ (List.mem_cons_of_mem _ List.mem_cons_self)
      exact List.forall_mem_append.mpr
        ⟨forall_withNested step key hkey, forall_withNested step value hvalue⟩

/-- What passes from fields to their parts reaches every field inside a field. -/
theorem forall_withNested (step : ∀ f, P f → ∀ g ∈ f.type.parts, P g) (f : Field) (h : P f) :
    ∀ g ∈ f.withNested, P g := by
  obtain ⟨id, name, required, type, doc⟩ := f
  exact List.forall_mem_cons.mpr ⟨h, forall_nested step type (step _ h)⟩

/-- What holds of the columns, and of the parts of a field it holds of, holds in the tree. -/
theorem forall_preorder (step : ∀ f, P f → ∀ g ∈ f.type.parts, P g) (fields : List Field)
    (h : ∀ f ∈ fields, P f) : ∀ f ∈ preorder fields, P f := by
  cases fields with
  | nil => exact h
  | cons f rest =>
      obtain ⟨hhead, hrest⟩ := List.forall_mem_cons.mp h
      exact List.forall_mem_append.mpr
        ⟨forall_withNested step f hhead, forall_preorder step rest hrest⟩
end

end Induction

/-- A path inside a field leads to a field inside it. -/
theorem mem_withNested_of_part? {f g : Field} {path : List Nat} (h : f.part? path = some g) :
    g ∈ f.withNested := by
  induction path generalizing f with
  | nil =>
      obtain rfl := Option.some.inj h
      exact mem_withNested_self f
  | cons i path ih =>
      obtain ⟨c, hc, hg⟩ := at?_cons_eq_some_iff.mp h
      rw [withNested_eq, nested_eq_preorder]
      exact List.mem_cons_of_mem _ (withNested_subset_preorder (List.mem_of_getElem? hc) (ih hg))

/-- Pre-order lists exactly the fields of the tree. -/
theorem mem_preorder_iff {fields : List Field} {f : Field} :
    f ∈ preorder fields ↔ InTree fields f := by
  constructor
  · revert f
    apply forall_preorder
    · rintro f ⟨path, hf⟩ g hg
      cases path with
      | nil => cases hf
      | cons i path =>
          obtain ⟨c, hc, hf⟩ := at?_cons_eq_some_iff.mp hf
          obtain ⟨j, hj⟩ := List.mem_iff_getElem?.mp hg
          refine ⟨i :: (path ++ [j]), at?_cons_eq_some_iff.mpr ⟨c, hc, ?_⟩⟩
          rw [part?_append, hf, Option.bind_some, part?, hj]
          rfl
    · intro f hf
      obtain ⟨i, hi⟩ := List.mem_iff_getElem?.mp hf
      exact ⟨[i], at?_cons_eq_some_iff.mpr ⟨f, hi, rfl⟩⟩
  · rintro ⟨path, hf⟩
    cases path with
    | nil => cases hf
    | cons i path =>
        obtain ⟨c, hc, hf⟩ := at?_cons_eq_some_iff.mp hf
        exact withNested_subset_preorder (List.mem_of_getElem? hc) (mem_withNested_of_part? hf)

/-- The ids of the fields inside a field. -/
def nestedIds (f : Field) : List Int32 := f.type.nested.map id

/-- The ids of a tree are those of its columns and those inside the columns. -/
theorem preorder_ids_perm (fields : List Field) :
    ((preorder fields).map id).Perm (fields.map id ++ fields.flatMap nestedIds) := by
  rw [preorder_eq_flatMap, List.map_flatMap]
  have hids : (fun f : Field => f.withNested.map id) = fun f => f.id :: f.nestedIds := by
    funext f
    rw [withNested_eq, List.map_cons, nestedIds]
  rw [hids]
  exact (List.map_append_flatMap_perm fields id nestedIds).symm

section Distinct

variable {fields : List Field}

/-- No id stands twice inside a column of a tree with distinct ids. -/
theorem withNested_ids_nodup (h : ((preorder fields).map id).Nodup) {f : Field} (hf : f ∈ fields) :
    (f.id :: f.nestedIds).Nodup := by
  rw [preorder_eq_flatMap, List.map_flatMap, List.nodup_flatMap] at h
  have hf := h.1 f hf
  rwa [withNested_eq] at hf

/-- Fields of one id are inside one column. -/
theorem position_eq (h : ((preorder fields).map id).Nodup) {i j : Nat} {c e f g : Field}
    (hc : fields[i]? = some c) (he : fields[j]? = some e) (hf : f ∈ c.withNested)
    (hg : g ∈ e.withNested) (hid : f.id = g.id) : i = j := by
  rw [preorder_eq_flatMap, List.map_flatMap, List.nodup_flatMap, List.pairwise_iff_getElem] at h
  obtain ⟨hi, rfl⟩ := List.getElem?_eq_some_iff.mp hc
  obtain ⟨hj, rfl⟩ := List.getElem?_eq_some_iff.mp he
  have hf := List.mem_map_of_mem (f := id) hf
  have hg := List.mem_map_of_mem (f := id) hg
  rw [← hid] at hg
  obtain hlt | heq | hlt := Nat.lt_trichotomy i j
  · exact (h.2 i j hi hj hlt hf hg).elim
  · exact heq
  · exact (h.2 j i hj hi hlt hg hf).elim

/-- Of distinct ids, each stands at one place in the tree. -/
theorem path_eq (h : ((preorder fields).map id).Nodup) {path path' : List Nat} {f g : Field}
    (hf : at? fields path = some f) (hg : at? fields path' = some g) (hid : f.id = g.id) :
    path = path' := by
  induction path generalizing fields path' with
  | nil => cases hf
  | cons i path ih =>
      cases path' with
      | nil => cases hg
      | cons j path' =>
          obtain ⟨c, hc, hf⟩ := at?_cons_eq_some_iff.mp hf
          obtain ⟨e, he, hg⟩ := at?_cons_eq_some_iff.mp hg
          obtain rfl := position_eq h hc he (mem_withNested_of_part? hf)
            (mem_withNested_of_part? hg) hid
          obtain rfl : c = e := Option.some.inj (hc.symm.trans he)
          have hids := List.nodup_cons.mp (withNested_ids_nodup h (List.mem_of_getElem? hc))
          rw [nestedIds, nested_eq_preorder] at hids
          -- Below one column, a path that ends there meets no path that goes on.
          cases path with
          | nil =>
              obtain rfl := Option.some.inj hf
              cases path' with
              | nil => rfl
              | cons k rest =>
                  have hinside := mem_preorder_iff.mpr ⟨k :: rest, hg⟩
                  exact (hids.1 (hid ▸ List.mem_map_of_mem hinside)).elim
          | cons k rest =>
              cases path' with
              | nil =>
                  obtain rfl := Option.some.inj hg
                  have hinside := mem_preorder_iff.mpr ⟨k :: rest, hf⟩
                  exact (hids.1 (hid ▸ List.mem_map_of_mem hinside)).elim
              | cons k' rest' =>
                  rw [part?_cons] at hf hg
                  rw [ih hids.2 hf hg]

end Distinct

end Field

end Partitioning
