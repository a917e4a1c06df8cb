import Partitioning.Proofs.Declaration
import Partitioning.Proofs.Schema
import Partitioning.Resolver

/-!
# What declarations resolve to

A declaration resolves to a transform of a column that some declaration can state. Which column
and transform that is fixes the whole descriptor, and the canonical declaration of such a column
resolves to it again, in either case mode and whatever other columns there are.
-/

namespace Partitioning

/-- The descriptor of a transform of a column. -/
def Field.unbound (f : Field) (t : Transform) : UnboundField :=
  ⟨f.id, f.name, t.partitionName f.name, t⟩

/-- The transforms of a column that a declaration can state. -/
structure Declarable (f : Field) (t : Transform) : Prop where
  nameable : Declaration.Nameable t f.name.toList
  positive : t.Positive
  applies : t.checkSource f.type = .ok ()

/-- The descriptors that declarations can resolve to over a schema. -/
def Schema.Declares (s : Schema) (u : UnboundField) : Prop :=
  ∃ f ∈ s.fields, ∃ t, Declarable f t ∧ u = f.unbound t

/-- The canonical declaration of a descriptor. -/
def UnboundField.canonical (u : UnboundField) : String :=
  Declaration.canonical u.sourceName u.transform

namespace Resolver

variable {r : Resolver} {s : Schema} {f : Field} {t : Transform}

/-- A resolver starts at the id it is made with, and is made unless that id is reserved. -/
theorem new_eq_ok_iff {caseSensitive : Bool} {first : Int32} :
    new caseSensitive first = .ok r ↔
      1000 ≤ first ∧ r.caseSensitive = caseSensitive ∧ r.firstFieldId = first := by
  unfold new
  split
  · next hfirst =>
      constructor
      · intro h
        obtain rfl := Except.ok.inj h
        exact ⟨hfirst, rfl, rfl⟩
      · rintro ⟨_, rfl, rfl⟩
        rfl
  · next hfirst => exact ⟨nofun, fun h => absurd h.1 hfirst⟩

/-- A reserved id is refused in either mode, and named. -/
theorem new_eq_error_iff {caseSensitive : Bool} {first : Int32} {e : PartitionError} :
    new caseSensitive first = .error e ↔ first < 1000 ∧ e = .reservedFirstId first := by
  unfold new
  split
  · next hfirst => exact ⟨nofun, fun h => absurd hfirst (Int32.not_le.mpr h.1)⟩
  · next hfirst =>
      rw [Except.error.injEq, eq_comm]
      exact ⟨fun h => ⟨Int32.not_le.mp hfirst, h⟩, And.right⟩

/-- Setting the mode of a resolver is making it again in that mode. -/
theorem new_withCaseSensitive (r : Resolver) (caseSensitive : Bool) :
    new caseSensitive r.firstFieldId = .ok (r.withCaseSensitive caseSensitive) :=
  new_eq_ok_iff.mpr ⟨r.notReserved, rfl, rfl⟩

/-- A column is found by its own name in either mode, whatever other columns there are. -/
theorem column_of_mem (h : f ∈ s.fields) : r.column s f.name = .ok f := by
  unfold column
  split
  · rw [Schema.fieldByName?_eq_some_iff.mpr ⟨h, rfl⟩]
  · rw [Schema.fieldByNameIgnoringCase?_of_mem h]

/-- In either mode the column found differs from the name in case at most. -/
theorem column_sound {name : String} (h : r.column s name = .ok f) :
    f ∈ s.fields ∧ Text.lower f.name = Text.lower name := by
  unfold column at h
  split at h
  · cases hfind : s.fieldByName? name with
    | none => simp [hfind] at h
    | some g =>
        simp only [hfind, Except.ok.injEq] at h
        subst h
        obtain ⟨hmem, rfl⟩ := Schema.fieldByName?_eq_some_iff.mp hfind
        exact ⟨hmem, rfl⟩
  · cases hfind : s.fieldByNameIgnoringCase? name with
    | none => simp [hfind] at h
    | some g =>
        simp only [hfind, Except.ok.injEq] at h
        subst h
        exact Schema.fieldByNameIgnoringCase?_sound hfind

/-- A declaration resolves when it is read, its column is found and the transform applies. -/
theorem resolve_eq_ok_iff {declaration : String} {u : UnboundField} :
    r.resolve s declaration = .ok u ↔
      ∃ name t f, Declaration.read declaration = .ok (name, t) ∧ r.column s name = .ok f ∧
        t.checkSource f.type = .ok () ∧ u = f.unbound t := by
  unfold resolve
  cases hread : Declaration.read declaration with
  | error e => simp [bind, Except.bind]
  | ok parts =>
      obtain ⟨name, t⟩ := parts
      cases hcolumn : r.column s name with
      | error e => simp [bind, Except.bind, hcolumn]
      | ok f =>
          cases hcheck : t.checkSource f.type with
          | error e => simp [bind, Except.bind, hcolumn, hcheck]
          | ok _ => simp [bind, Except.bind, hcolumn, hcheck, pure, Except.pure, Field.unbound,
              eq_comm]

/-- Whatever a declaration resolves to, some declaration can state. -/
theorem resolve_sound {declaration : String} {u : UnboundField}
    (h : r.resolve s declaration = .ok u) : s.Declares u := by
  obtain ⟨name, t, f, hread, hcolumn, hcheck, rfl⟩ := resolve_eq_ok_iff.mp h
  obtain ⟨hmem, hlower⟩ := column_sound hcolumn
  obtain ⟨hname, hpos, _⟩ := Declaration.read_sound hread
  exact ⟨f, hmem, t, ⟨hname.of_lower_eq hlower.symm, hpos, hcheck⟩, rfl⟩

/-- The canonical declaration of a column resolves to it. -/
theorem resolve_canonical (hf : f ∈ s.fields) (h : Declarable f t) :
    r.resolve s (Declaration.canonical f.name t) = .ok (f.unbound t) :=
  resolve_eq_ok_iff.mpr
    ⟨f.name, t, f, Declaration.read_canonical h.nameable h.positive, column_of_mem hf, h.applies, rfl⟩

end Resolver

/-- A source id is rendered by the name of its field, at any depth. -/
theorem Schema.declaration_eq_ok_iff {s : Schema} {id : Int32} {t : Transform} {text : String} :
    s.declaration id t = .ok text ↔
      ∃ f ∈ s.allFields, f.id = id ∧ text = Declaration.canonical f.name t := by
  unfold declaration
  constructor
  · intro h
    split at h
    · next f hfind =>
        obtain ⟨hf, hid⟩ := fieldById?_eq_some_iff.mp hfind
        exact ⟨f, hf, hid, (Except.ok.inj h).symm⟩
    · cases h
  · rintro ⟨f, hf, hid, rfl⟩
    rw [fieldById?_eq_some_iff.mpr ⟨hf, hid⟩]

theorem Schema.declaration_of_mem {s : Schema} {f : Field} (hf : f ∈ s.fields) (t : Transform) :
    s.declaration f.id t = .ok (Declaration.canonical f.name t) :=
  Schema.declaration_eq_ok_iff.mpr ⟨f, Field.mem_preorder_of_mem hf, rfl, rfl⟩

namespace Schema.Declares

variable {s : Schema} {u : UnboundField}

/-- A descriptor that can be declared is declared by its canonical declaration, in either mode. -/
theorem resolve_canonical (h : s.Declares u) (r : Resolver) : r.resolve s u.canonical = .ok u := by
  obtain ⟨f, hf, t, hdeclarable, rfl⟩ := h
  exact Resolver.resolve_canonical hf hdeclarable

/-- Rendering a descriptor by its source id gives its canonical declaration. -/
theorem declaration_eq (h : s.Declares u) :
    s.declaration u.sourceId u.transform = .ok u.canonical := by
  obtain ⟨f, hf, t, _, rfl⟩ := h
  exact declaration_of_mem hf t

end Schema.Declares

end Partitioning
