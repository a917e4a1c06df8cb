import Partitioning.Proofs.Resolver

/-!
# Canonical declarations

The canonical declaration of what a declaration resolves to is stable: every resolver reads it
back as the same descriptor over every schema that has the column. Rendered for an arbitrary
transform of a column, the text is read back as that transform of that column exactly when the
name of the column does not look like a call and is not trimmed by one.
-/

namespace Partitioning

/-- Whether two columns agree in what a partition field depends on. -/
def Field.SameColumn (f g : Field) : Prop :=
  f.id = g.id ∧ f.name = g.name ∧ f.type = g.type

theorem Field.SameColumn.declarable {f g : Field} (h : f.SameColumn g) {t : Transform}
    (hf : Declarable f t) : Declarable g t :=
  ⟨h.2.1 ▸ hf.nameable, hf.positive, h.2.2 ▸ hf.applies⟩

theorem Field.SameColumn.unbound_eq {f g : Field} (h : f.SameColumn g) (t : Transform) :
    f.unbound t = g.unbound t := by
  obtain ⟨hid, hname, _⟩ := h
  rw [unbound, unbound, hid, hname]

/-- A schema with columns that differ in case only. -/
def twoCases : Schema :=
  ⟨0, [⟨1, "Ts", true, .primitive .timestamp, none⟩, ⟨2, "ts", false, .primitive .date, none⟩],
    _, rfl⟩

/-- The columns of `twoCases` among others, in another order. -/
def threeCases : Schema :=
  ⟨7, [⟨4, "TS", true, .primitive .long, none⟩, ⟨2, "ts", false, .primitive .date, none⟩,
    ⟨1, "Ts", false, .primitive .timestamp, some "event time"⟩], _, rfl⟩

/-- The canonical declaration of a resolved descriptor means that descriptor to every resolver,
over every schema that has its column, and stays the canonical declaration there. -/
theorem canonical_declaration_stable {r : Resolver} {s : Schema} {declaration : String}
    {u : UnboundField} (h : r.resolve s declaration = .ok u) :
    ∃ column ∈ s.fields, column.id = u.sourceId ∧ column.name = u.sourceName ∧
      ∃ text, s.declaration u.sourceId u.transform = .ok text ∧
        ∀ (r' : Resolver) (s' : Schema), (∃ other ∈ s'.fields, column.SameColumn other) →
          r'.resolve s' text = .ok u ∧ s'.declaration u.sourceId u.transform = .ok text := by
  obtain ⟨column, hcolumn, t, hdeclarable, rfl⟩ := Resolver.resolve_sound h
  refine ⟨column, hcolumn, rfl, rfl, _, Schema.declaration_of_mem hcolumn t, ?_⟩
  rintro r' s' ⟨other, hother, hsame⟩
  have hname : column.name = other.name := hsame.2.1
  have hid : (column.unbound t).sourceId = other.id := hsame.1
  constructor
  · rw [hname, hsame.unbound_eq t]
    exact Resolver.resolve_canonical hother (hsame.declarable hdeclarable)
  · rw [hname, hid]
    exact Schema.declaration_of_mem hother t

theorem canonical_declaration_stable_twoCases :
    Resolver.resolve {} twoCases "DAY( tS )" = .ok ⟨1, "Ts", "Ts_day", .day⟩ ∧
      ∃ column ∈ twoCases.fields, column.id = 1 ∧ column.name = "Ts" ∧
        ∃ text, twoCases.declaration 1 .day = .ok text ∧
          ∀ (r' : Resolver) (s' : Schema), (∃ other ∈ s'.fields, column.SameColumn other) →
            r'.resolve s' text = .ok ⟨1, "Ts", "Ts_day", .day⟩ ∧
              s'.declaration 1 .day = .ok text := by
  have hread : Resolver.resolve {} twoCases "DAY( tS )" = .ok ⟨1, "Ts", "Ts_day", .day⟩ := by
    decide
  exact ⟨hread, canonical_declaration_stable hread⟩

example : Resolver.resolve {} threeCases "day(Ts)" = .ok ⟨1, "Ts", "Ts_day", .day⟩ := by
  decide

/-- A schema with names that a declaration takes apart, and a list whose element has the name of
a column. -/
def lookAlikes : Schema :=
  ⟨0, [⟨1, "ts", true, .primitive .timestamp, none⟩, ⟨2, "day(ts)", true, .primitive .date, none⟩,
    ⟨3, " ts", true, .primitive .timestamp, none⟩,
    ⟨4, "notes", false, .list 5 true (.primitive .string), none⟩,
    ⟨6, "element", false, .primitive .string, none⟩, ⟨7, "a, b", true, .primitive .int, none⟩],
    _, rfl⟩

/-- Rendering writes a name as it is, and a declaration can then mean something else: a name that
looks like a call, a name that is trimmed, and the name of a nested field. -/
theorem rendered_names_other_source :
    (lookAlikes.declaration 2 .identity = .ok "day(ts)" ∧
      ∃ u, Resolver.resolve {} lookAlikes "day(ts)" = .ok u ∧ u.sourceId ≠ 2 ∧
        u.transform ≠ .identity) ∧
    (lookAlikes.declaration 3 .day = .ok "day( ts)" ∧
      ∃ u, Resolver.resolve {} lookAlikes "day( ts)" = .ok u ∧ u.sourceId ≠ 3) ∧
    (lookAlikes.declaration 5 .identity = .ok "element" ∧
      ∃ u, Resolver.resolve {} lookAlikes "element" = .ok u ∧ u.sourceId ≠ 5) := by
  refine ⟨⟨by decide, ⟨1, "ts", "ts_day", .day⟩, ?_⟩, ⟨by decide, ⟨1, "ts", "ts_day", .day⟩, ?_⟩,
    ⟨by decide, ⟨6, "element", "element", .identity⟩, ?_⟩⟩
  · decide
  · decide
  · decide

/-- A rendered declaration names the source and the transform it was rendered for exactly when the
source is a column whose name is not read as a call and not trimmed. -/
theorem rendered_names_source_iff {s : Schema} {sourceId : Int32} {t : Transform}
    (hpos : t.Positive) {r : Resolver} {text : String} {u : UnboundField}
    (hrender : s.declaration sourceId t = .ok text) (hread : r.resolve s text = .ok u) :
    (u.sourceId = sourceId ∧ u.transform = t) ↔
      ∃ column ∈ s.fields, column.id = sourceId ∧
        (t = .identity → '(' ∉ column.name.toList) ∧
        (t ≠ .identity → Text.trim column.name.toList = column.name.toList) := by
  obtain ⟨source, hsource, rfl, rfl⟩ := Schema.declaration_eq_ok_iff.mp hrender
  obtain ⟨name, t', f, htext, hfound, _, rfl⟩ := Resolver.resolve_eq_ok_iff.mp hread
  obtain ⟨hf, hlower⟩ := Resolver.column_sound hfound
  constructor
  · rintro ⟨hid, rfl⟩
    obtain rfl : f = source := Schema.eq_of_id_eq (Field.mem_preorder_of_mem hf) hsource hid
    refine ⟨f, hf, rfl, ?_, ?_⟩
    · intro ht
      subst ht
      obtain ⟨hnameable, _, hself⟩ := Declaration.read_sound htext
      have hname : name = f.name := hself rfl
      exact hname ▸ hnameable.noOpening
    · intro ht
      rw [Declaration.read_canonical_of_ne_identity ht hpos] at htext
      obtain ⟨hname, _⟩ := Declaration.callResult_eq_ok htext
      -- Lower-casing keeps outer blanks, so a trimmed name stands for itself only.
      apply Text.trim_eq_self_iff.mpr
      apply (Text.stripped_iff_of_lower_eq hlower).mpr
      rw [hname, String.toList_ofList]
      exact Text.trim_stripped _
  · rintro ⟨column, hcolumn, hid, hplain, htrim⟩
    obtain rfl : column = source :=
      Schema.eq_of_id_eq (Field.mem_preorder_of_mem hcolumn) hsource hid
    obtain ⟨rfl, rfl⟩ : name = column.name ∧ t' = t := by
      by_cases ht : t = .identity
      · subst ht
        exact Declaration.eq_identity_of_read (hplain rfl) htext
      · rw [Declaration.read_canonical_of_ne_identity ht hpos] at htext
        obtain ⟨hname, rfl⟩ := Declaration.callResult_eq_ok htext
        rw [hname, htrim ht, String.ofList_toList]
        exact ⟨rfl, rfl⟩
    obtain rfl : f = column :=
      Except.ok.inj (hfound.symm.trans (Resolver.column_of_mem hcolumn))
    exact ⟨rfl, rfl⟩

theorem rendered_names_source_comma :
    Transform.identity.Positive ∧ lookAlikes.declaration 7 .identity = .ok "a, b" ∧
      Resolver.resolve {} lookAlikes "a, b" = .ok ⟨7, "a, b", "a, b", .identity⟩ ∧
      (((7 : Int32) = 7 ∧ Transform.identity = .identity) ↔
        ∃ column ∈ lookAlikes.fields, column.id = 7 ∧
          (Transform.identity = .identity → '(' ∉ column.name.toList) ∧
          (Transform.identity ≠ .identity →
            Text.trim column.name.toList = column.name.toList)) := by
  have hrender : lookAlikes.declaration 7 .identity = .ok "a, b" := by decide
  have hread : Resolver.resolve {} lookAlikes "a, b" = .ok ⟨7, "a, b", "a, b", .identity⟩ := by
    decide
  have hpos : Transform.identity.Positive := trivial
  exact ⟨hpos, hrender, hread, rendered_names_source_iff hpos hrender hread⟩

end Partitioning
