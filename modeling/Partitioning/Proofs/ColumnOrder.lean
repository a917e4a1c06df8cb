import Partitioning.Proofs.LetterCase

/-!
# The order of columns

Fields are a schema in one order exactly when they are one in any other, and the look-ups of both
agree. So specs are written and typed alike. Only the search that ignores case prefers the first of
several columns: where it has no such choice, declarations resolve to the same spec, with the same
errors.
-/

namespace Partitioning

namespace Schema

/-- Well-formed fields stay well formed in another order. -/
theorem WellFormed.perm {fields fields' : List Field} (h : WellFormed fields)
    (hperm : fields.Perm fields') : WellFormed fields' where
  idsPositive := fun f hf => h.idsPositive f ((Field.preorder_perm hperm).mem_iff.mpr hf)
  idsDistinct := ((Field.preorder_perm hperm).map Field.id).nodup_iff.mp h.idsDistinct
  namesDistinct := (hperm.map Field.name).nodup_iff.mp h.namesDistinct

theorem exists_build_perm_iff {d d' : Draft} (h : d.fields.Perm d'.fields) :
    (∃ s, d.build = .ok s) ↔ ∃ s, d'.build = .ok s := by
  rw [exists_build_iff_wellFormed, exists_build_iff_wellFormed]
  exact ⟨fun hwell => hwell.perm h, fun hwell => hwell.perm h.symm⟩

variable {s s' : Schema}

/-- Ids find the same fields in another order. -/
theorem fieldById?_perm (h : s.fields.Perm s'.fields) (id : Int32) :
    s.fieldById? id = s'.fieldById? id := by
  rw [fieldById?_eq_find?, fieldById?_eq_find?]
  exact find?_key_perm (Field.preorder_perm h) s.wellFormed.idsDistinct id

/-- Names find the same columns in another order. -/
theorem fieldByName?_perm (h : s.fields.Perm s'.fields) (name : String) :
    s.fieldByName? name = s'.fieldByName? name := by
  rw [fieldByName?_eq_find?, fieldByName?_eq_find?]
  exact find?_key_perm h s.wellFormed.namesDistinct name

/-- No column is preferred when the names differ in more than case. -/
theorem fieldByNameIgnoringCase?_perm (h : s.fields.Perm s'.fields)
    (hs : (s.fields.map fun f => Text.lower f.name).Nodup) (name : String) :
    s.fieldByNameIgnoringCase? name = s'.fieldByNameIgnoringCase? name := by
  have hs' : (s'.fields.map fun f => Text.lower f.name).Nodup := (h.map _).nodup_iff.mp hs
  rw [fieldByNameIgnoringCase?_of_nodup hs, fieldByNameIgnoringCase?_of_nodup hs']
  exact find?_key_perm h hs (Text.lower name)

/-- Schemas in which ids lead to the same fields write and type a spec alike. -/
theorem declarations_eq_of_fieldById? (h : ∀ id, s.fieldById? id = s'.fieldById? id)
    (spec : PartitionSpec) : s.declarations spec = s'.declarations spec := by
  simp only [declarations, declaration, h]

theorem partitionType_eq_of_fieldById? (h : ∀ id, s.fieldById? id = s'.fieldById? id)
    (spec : PartitionSpec) : spec.partitionType s = spec.partitionType s' := by
  have hfield : PartitionSpec.structField s = PartitionSpec.structField s' := by
    ext p
    simp only [PartitionSpec.structField, typeById?, h]
  rw [PartitionSpec.partitionType, PartitionSpec.partitionType, PartitionSpec.structFields,
    PartitionSpec.structFields, hfield]

end Schema

namespace Resolver

variable {r : Resolver} {s s' : Schema}

/-- A resolver cannot tell the order of columns when it regards case or when case does not matter. -/
theorem column_perm (h : s.fields.Perm s'.fields)
    (hcase : r.caseSensitive = true ∨ (s.fields.map fun f => Text.lower f.name).Nodup)
    (name : String) : r.column s name = r.column s' name := by
  unfold column
  split
  · rw [Schema.fieldByName?_perm h]
  · next hloose =>
      rw [Schema.fieldByNameIgnoringCase?_perm h (hcase.resolve_left hloose)]

/-- What a declaration resolves to depends on the schema through the columns that are found. -/
theorem resolve_eq_of_columns_eq (h : ∀ name, r.column s name = r.column s' name) :
    r.resolve s = r.resolve s' := by
  ext declaration
  cases hread : Declaration.read declaration with
  | error e => simp only [resolve, hread, bind, Except.bind]
  | ok parts => exact resolve_eq_of_column_eq hread hread (h parts.1)

end Resolver

/-- Fields in another order are a schema under the same conditions. Both schemas write and type every
spec alike. They resolve declarations alike, with the same errors, when case counts or when column
names differ in more than case. -/
theorem column_order_irrelevant {d d' : Schema.Draft} (h : d.fields.Perm d'.fields) :
    ((∃ s, d.build = .ok s) ↔ ∃ s', d'.build = .ok s') ∧
      ∀ s s', d.build = .ok s → d'.build = .ok s' →
        (∀ r : Resolver,
          r.caseSensitive = true ∨ (d.fields.map fun f => Text.lower f.name).Nodup →
            ∀ declarations, r.resolveAll s declarations = r.resolveAll s' declarations ∧
              r.errors s declarations = r.errors s' declarations) ∧
          ∀ spec : PartitionSpec, s.declarations spec = s'.declarations spec ∧
            spec.partitionType s = spec.partitionType s' := by
  refine ⟨Schema.exists_build_perm_iff h, fun s s' hs hs' => ?_⟩
  obtain ⟨_, hfields⟩ := Schema.build_eq_ok_iff.mp hs
  obtain ⟨_, hfields'⟩ := Schema.build_eq_ok_iff.mp hs'
  rw [← hfields, ← hfields'] at h
  rw [← hfields]
  constructor
  · intro r hcase declarations
    have hresolve : r.resolve s = r.resolve s' :=
      Resolver.resolve_eq_of_columns_eq (Resolver.column_perm h hcase)
    constructor
    · rw [Resolver.resolveAll, Resolver.resolveAll, hresolve]
    · rw [Resolver.errors, Resolver.errors, hresolve]
  · intro spec
    have hsource := Schema.fieldById?_perm h
    exact ⟨Schema.declarations_eq_of_fieldById? hsource spec,
      Schema.partitionType_eq_of_fieldById? hsource spec⟩

theorem column_order_irrelevant_nested :
    let tags : Field := ⟨1, "Tags", false, .list 2 true (.primitive .string), none⟩
    let placed : Field := ⟨3, "Placed", true, .primitive .timestamp, none⟩
    let d : Schema.Draft := ⟨0, [tags, placed]⟩
    let d' : Schema.Draft := ⟨7, [placed, tags]⟩
    let s : Schema := ⟨0, [tags, placed], _, rfl⟩
    let s' : Schema := ⟨7, [placed, tags], _, rfl⟩
    let loose : Resolver := {}
    let valid := ["DAY( placed )", "void(TAGS)", "day(Placed)"]
    let invalid := ["day(tags)", "year(", "hour(PLACED)"]
    let onElement : PartitionSpec := ⟨0, [⟨2, 1, "of element", .void⟩, ⟨4, 1, "", .day⟩]⟩
    d.fields.Perm d'.fields ∧ d.build = .ok s ∧ d'.build = .ok s' ∧
      (d.fields.map fun f => Text.lower f.name).Nodup ∧
      ((loose.resolveAll s valid).isOk ∧ loose.resolveAll s valid = loose.resolveAll s' valid) ∧
      ((loose.errors s invalid).length = 2 ∧ loose.errors s invalid = loose.errors s' invalid) ∧
      s.declarations onElement = s'.declarations onElement ∧
      onElement.partitionType s = onElement.partitionType s' := by
  intro tags placed d d' s s' loose valid invalid onElement
  have hperm : d.fields.Perm d'.fields := .swap placed tags []
  have hs : d.build = .ok s := Schema.build_eq_ok_iff.mpr ⟨rfl, rfl⟩
  have hs' : d'.build = .ok s' := Schema.build_eq_ok_iff.mpr ⟨rfl, rfl⟩
  have hnames : (d.fields.map fun f => Text.lower f.name).Nodup := by decide
  obtain ⟨_, hsame⟩ := column_order_irrelevant hperm
  obtain ⟨hresolver, hspec⟩ := hsame s s' hs hs'
  have hresolver := hresolver loose (.inr hnames)
  have hvalid : (loose.resolveAll s valid).isOk := by decide
  have hinvalid : (loose.errors s invalid).length = 2 := by decide
  exact ⟨hperm, hs, hs', hnames, ⟨hvalid, (hresolver valid).1⟩, ⟨hinvalid, (hresolver invalid).2⟩,
    hspec onElement⟩

/-- Of columns that differ in case only, a resolver that ignores case finds the first. -/
example :
    let swapped : Schema := ⟨0, twoCases.fields.reverse, _, rfl⟩
    Resolver.resolve {} twoCases "day(tS)" = .ok ⟨1, "Ts", "Ts_day", .day⟩ ∧
      Resolver.resolve {} swapped "day(tS)" = .ok ⟨2, "ts", "ts_day", .day⟩ := by
  decide

end Partitioning
