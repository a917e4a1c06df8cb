import Partitioning.Proofs.PartitionType

/-!
# Partition values

A declaration names a column and states a transform that applies to it. The partition struct of a
resolved spec has a field for each declaration, and this field holds what the transform makes of
values of the named column, although the struct is computed from source ids alone.
-/

namespace Partitioning

namespace Transform

/-- The parameter of a transform that has one. -/
def argument? : Transform → Option UInt32
  | bucket n | truncate n => some n
  | _ => none

theorem Positive.argument_bounds {t : Transform} (h : t.Positive) :
    ∀ n ∈ t.argument?, 1 ≤ n.toNat ∧ n.toNat ≤ 0xFFFFFFFF := by
  intro n hn
  have hne : n ≠ 0 := by
    cases t with
    | bucket m | truncate m =>
        obtain rfl := Option.some.inj hn
        exact h
    | _ => cases hn
  have hpos : n.toNat ≠ 0 := fun hzero => hne (UInt32.toNat_inj.mp hzero)
  have hlt := n.toNat_lt
  omega

/-- Only `void` has values of a type with parts. -/
theorem Yields.primitive {t : Transform} {source type : DataType} (h : t.Yields source type)
    (ht : t ≠ .void) : ∃ p, type = .primitive p := by
  cases h with
  | void => exact absurd rfl ht
  | _ => exact ⟨_, rfl⟩

/-- What the default name of a partition field adds to the name of its column. -/
def ending : Transform → String
  | identity => ""
  | bucket _ => "_bucket"
  | truncate _ => "_trunc"
  | year => "_year"
  | month => "_month"
  | day => "_day"
  | hour => "_hour"
  | void => "_null"

/-- The default name depends on the kind of the transform, not on its parameter. -/
theorem partitionName_eq (t : Transform) (column : String) :
    t.partitionName column = column ++ t.ending := by
  cases t with
  | identity => exact String.append_empty.symm
  | _ => rfl

end Transform

namespace Resolver

variable {r : Resolver} {s : Schema} {declaration : String}

/-- The declaration names this column and states this transform of it. -/
def Binds (r : Resolver) (s : Schema) (declaration : String) (f : Field) (t : Transform) : Prop :=
  ∃ name, Declaration.read declaration = .ok (name, t) ∧ r.column s name = .ok f

/-- What is true of the descriptor of a declaration, whose column is `f`. -/
structure Describes (u : UnboundField) (f : Field) : Prop where
  sourceId_eq : f.id = u.sourceId
  sourceName_eq : f.name = u.sourceName
  name_eq : u.name = u.transform.partitionName f.name
  name_ending : u.name = f.name ++ u.transform.ending
  argument_bounds : ∀ n ∈ u.transform.argument?, 1 ≤ n.toNat ∧ n.toNat ≤ 0xFFFFFFFF
  applies : u.transform.checkSource f.type = .ok ()
  yields : ∃ type, u.transform.Yields f.type type

theorem describes_of_resolve {u : UnboundField} (h : r.resolve s declaration = .ok u) :
    ∃ f ∈ s.fields, r.Binds s declaration f u.transform ∧ Describes u f := by
  obtain ⟨name, t, f, hread, hcolumn, hcheck, rfl⟩ := resolve_eq_ok_iff.mp h
  have hpos : t.Positive := (Declaration.read_sound hread).2.1
  exact ⟨f, (column_sound hcolumn).1, ⟨name, hread, hcolumn⟩, rfl, rfl, rfl,
    t.partitionName_eq f.name, hpos.argument_bounds, hcheck,
    Transform.checkSource_eq_ok_iff.mp hcheck⟩

end Resolver

namespace PartitionSpec

variable {r : Resolver} {s : Schema}

/-- The field `g` of a partition struct holds the values that the partition field `p` has over the
column `f`. -/
structure HoldsValuesOver (f : Field) (p : PartitionField) (g : Field) : Prop where
  sourceId_eq : f.id = p.sourceId
  id_eq : g.id = p.id
  name_eq : g.name = p.name
  optional : g.required = false
  noDoc : g.doc = none
  type_eq : p.transform.resultType f.type = .ok g.type
  yields : p.transform.Yields f.type g.type
  primitive : p.transform ≠ .void → ∃ q, g.type = .primitive q

/-- The source id of a partition field leads to its column, whatever is nested in the schema. -/
theorem holdsValuesOver_of_structField {f : Field} (hf : f ∈ s.fields) {p : PartitionField}
    {g : Field} (hsource : f.id = p.sourceId) (h : structField s p = .ok g) :
    HoldsValuesOver f p g := by
  have hfind : s.typeById? p.sourceId = some f.type := by
    rw [Schema.typeById?, Schema.fieldById?_eq_some_iff.mpr
      ⟨Field.mem_preorder_of_mem hf, hsource⟩, Option.map_some]
  simp only [structField, hfind] at h
  cases htype : p.transform.resultType f.type with
  | error e =>
      rw [htype] at h
      cases h
  | ok type =>
      rw [htype] at h
      obtain rfl := Except.ok.inj h
      have hyields := Transform.resultType_eq_ok_iff.mp htype
      exact ⟨hsource, rfl, rfl, rfl, rfl, htype, hyields, hyields.primitive⟩

end PartitionSpec

/-- A descriptor is that of a column of the schema under a transform that applies to it. So every
resolved spec has a partition struct, whose fields hold the values of the declared transforms of the
declared columns, one for each declaration. -/
theorem resolved_values (r : Resolver) (s : Schema) :
    (∀ declaration u, r.resolve s declaration = .ok u →
      ∃ f ∈ s.fields, r.Binds s declaration f u.transform ∧ Resolver.Describes u f) ∧
    ∀ declarations spec, r.resolveAll s declarations = .ok spec →
      ∃ gs, spec.partitionType s = .ok (.struct gs) ∧ gs.length = declarations.length ∧
        spec.fields.length = declarations.length ∧
        ∀ (i : Nat) (declaration : String), declarations[i]? = some declaration →
          ∃ p g, spec.fields[i]? = some p ∧ gs[i]? = some g ∧
            ∃ f ∈ s.fields, r.Binds s declaration f p.transform ∧
              PartitionSpec.HoldsValuesOver f p g := by
  constructor
  · exact fun _ _ h => Resolver.describes_of_resolve h
  · intro declarations spec h
    obtain ⟨us, hus, _, hspec⟩ := Resolver.resolveAll_eq_ok_iff.mp h
    obtain ⟨gs, hgs, _⟩ := PartitionSpec.structFields_eq_ok (Resolver.resolveAll_sound h).applies
    have hresolved := mapM_eq_ok_iff.mp hus
    have hplaced := PartitionSpec.forall₂_placed_numbered [] r.firstFieldId.toInt us
    have hstruct := mapM_eq_ok_iff.mp hgs
    subst hspec
    refine ⟨gs, ?_, ?_, ?_, ?_⟩
    · rw [PartitionSpec.partitionType, hgs]
      rfl
    · rw [← hstruct.length_eq, ← hplaced.length_eq, hresolved.length_eq]
    · rw [← hplaced.length_eq, hresolved.length_eq]
    · intro i declaration hi
      -- The declaration, its descriptor, its place and its struct field stand at one position.
      obtain ⟨u, hu, hread⟩ := exists_getElem?_of_forall₂ hresolved hi
      obtain ⟨p, hp, hsource, htransform⟩ := exists_getElem?_of_forall₂ hplaced hu
      obtain ⟨g, hg, hfield⟩ := exists_getElem?_of_forall₂ hstruct hp
      obtain ⟨f, hf, hbinds, hdescribes⟩ := Resolver.describes_of_resolve hread
      have hid : f.id = p.sourceId := hdescribes.sourceId_eq.trans hsource.symm
      refine ⟨p, g, hp, hg, f, hf, htransform ▸ hbinds, ?_⟩
      exact PartitionSpec.holdsValuesOver_of_structField hf hid hfield

theorem resolved_values_listColumns :
    let spec : PartitionSpec := ⟨0, [⟨1, 1000, "ts_day", .day⟩, ⟨2, 1001, "tags_null", .void⟩]⟩
    Resolver.resolve {} listColumns "Day(TS)" = .ok ⟨1, "ts", "ts_day", .day⟩ ∧
      (∃ f ∈ listColumns.fields, Resolver.Binds {} listColumns "Day(TS)" f .day ∧
        Resolver.Describes ⟨1, "ts", "ts_day", .day⟩ f) ∧
      Resolver.resolveAll {} listColumns ["Day(TS)", "void(tags)"] = .ok spec ∧
      ∃ gs, spec.partitionType listColumns = .ok (.struct gs) ∧ gs.length = 2 ∧
        ∃ p g, spec.fields[1]? = some p ∧ gs[1]? = some g ∧
          ∃ f ∈ listColumns.fields, Resolver.Binds {} listColumns "void(tags)" f p.transform ∧
            PartitionSpec.HoldsValuesOver f p g := by
  intro spec
  have hone : Resolver.resolve {} listColumns "Day(TS)" = .ok ⟨1, "ts", "ts_day", .day⟩ := by
    decide
  have hall : Resolver.resolveAll {} listColumns ["Day(TS)", "void(tags)"] = .ok spec := by
    decide
  obtain ⟨hdescribes, hvalues⟩ := resolved_values {} listColumns
  obtain ⟨gs, htype, hlength, _, hfields⟩ := hvalues _ _ hall
  exact ⟨hone, hdescribes _ _ hone, hall, gs, htype, hlength, hfields 1 _ rfl⟩

end Partitioning
