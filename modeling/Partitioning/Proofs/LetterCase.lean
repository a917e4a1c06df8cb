import Partitioning.Proofs.Canonical
import Partitioning.Proofs.Grammar

/-!
# Letter case of declared columns

A resolver that ignores case finds the column of a name by its lower-cased name, as long as these
are distinct: then the spelling of a declared column does not matter. Over any schema, a
case-sensitive resolver resolves a declaration as the others do, or does not find its column.
-/

namespace Partitioning

/-- Without collisions, an exact match is the match in lower case as well. -/
theorem Schema.fieldByNameIgnoringCase?_of_nodup {s : Schema}
    (h : (s.fields.map fun f => Text.lower f.name).Nodup) (name : String) :
    s.fieldByNameIgnoringCase? name =
      s.fields.find? fun f => Text.lower f.name == Text.lower name := by
  rw [fieldByNameIgnoringCase?_eq]
  cases hexact : s.fieldByName? name with
  | none => rw [Option.none_or]
  | some f =>
      obtain ⟨hmem, rfl⟩ := fieldByName?_eq_some_iff.mp hexact
      rw [Option.some_or]
      exact ((find?_key_eq_some_iff h).mpr ⟨hmem, rfl⟩).symm

namespace Resolver

variable {r r' : Resolver} {s s' : Schema} {declaration declaration' name name' : String}
  {t : Transform}

/-- Past the reader, a declaration matters only through the column that it finds. -/
theorem resolve_eq_of_column_eq (h : Declaration.read declaration = .ok (name, t))
    (h' : Declaration.read declaration' = .ok (name', t))
    (hcolumn : r.column s name = r'.column s' name') :
    r.resolve s declaration = r'.resolve s' declaration' := by
  unfold resolve
  rw [h, h']
  simp only [bind, Except.bind, hcolumn]

theorem resolve_eq_error_of_column {e : PartitionError}
    (h : Declaration.read declaration = .ok (name, t)) (hcolumn : r.column s name = .error e) :
    r.resolve s declaration = .error e := by
  unfold resolve
  rw [h]
  simp only [bind, Except.bind, hcolumn]

/-- Spellings of a column are found alike, and missed with the same error. -/
theorem column_eq_of_lower_eq (hr : r.caseSensitive = false)
    (hs : (s.fields.map fun f => Text.lower f.name).Nodup)
    (h : Text.lower name = Text.lower name') : r.column s name = r.column s name' := by
  have hfind := Schema.fieldByNameIgnoringCase?_of_nodup hs
  simp only [column, hr, Bool.false_eq_true, if_false, hfind, h]

/-- A case-sensitive resolver finds what any resolver finds, or misses the name as it is written. -/
theorem column_of_caseSensitive (h : r.caseSensitive = true) (r' : Resolver) (s : Schema)
    (name : String) :
    r.column s name = r'.column s name ∨
      r.column s name = .error (.unresolvedColumn name) := by
  cases hfind : s.fieldByName? name with
  | some f =>
      obtain ⟨hmem, rfl⟩ := Schema.fieldByName?_eq_some_iff.mp hfind
      left
      rw [column_of_mem hmem, column_of_mem hmem]
  | none =>
      right
      simp only [column, h, if_true, hfind]

theorem resolve_of_caseSensitive (h : r.caseSensitive = true) (r' : Resolver) (s : Schema)
    (declaration : String) :
    r.resolve s declaration = r'.resolve s declaration ∨
      ∃ name t, Declaration.read declaration = .ok (name, t) ∧
        r.resolve s declaration = .error (.unresolvedColumn name) := by
  cases hread : Declaration.read declaration with
  | error e =>
      left
      simp only [resolve, hread, bind, Except.bind]
  | ok parts =>
      obtain ⟨name, t⟩ := parts
      obtain hsame | hmissed := column_of_caseSensitive h r' s name
      · exact .inl (resolve_eq_of_column_eq hread hread hsame)
      · exact .inr ⟨name, t, rfl, resolve_eq_error_of_column hread hmissed⟩

/-- A resolver that ignores case gives the same result for every spelling of a declared column,
when column names differ in more than case. Over any schema, it resolves what a case-sensitive one
resolves; and what it resolves itself, the case-sensitive one resolves alike or misses for the column
as it is written. -/
theorem letter_case_of_columns {strict loose : Resolver} (hstrict : strict.caseSensitive = true)
    (hloose : loose.caseSensitive = false) (s : Schema) :
    ((s.fields.map fun f => Text.lower f.name).Nodup →
      ∀ d₁ d₂ c₁ c₂ t, Declaration.read d₁ = .ok (c₁, t) → Declaration.read d₂ = .ok (c₂, t) →
        Text.lower c₁ = Text.lower c₂ → loose.resolve s d₁ = loose.resolve s d₂) ∧
      ∀ d u, (strict.resolve s d = .ok u → loose.resolve s d = .ok u) ∧
        (loose.resolve s d = .ok u → strict.resolve s d = .ok u ∨
          ∃ column t, Declaration.Declares d.toList column.toList t ∧
            strict.resolve s d = .error (.unresolvedColumn column)) := by
  refine ⟨?spelling, fun d u => ⟨?found, ?missed⟩⟩
  case spelling =>
    intro hs d₁ d₂ c₁ c₂ t h₁ h₂ hlower
    exact resolve_eq_of_column_eq h₁ h₂ (column_eq_of_lower_eq hloose hs hlower)
  case found =>
    intro hu
    obtain hsame | ⟨_, _, _, herror⟩ := resolve_of_caseSensitive hstrict loose s d
    · exact hsame.symm.trans hu
    · cases herror.symm.trans hu
  case missed =>
    intro hu
    obtain hsame | ⟨column, t, hread, herror⟩ := resolve_of_caseSensitive hstrict loose s d
    · exact .inl (hsame.trans hu)
    · exact .inr ⟨column, t, Declaration.declares_of_read hread, herror⟩

/-- Columns whose names differ in more than case, one of them with a final sigma. -/
def streets : Schema :=
  ⟨0, [⟨1, "ΟΔΟΣ", true, .primitive .string, none⟩, ⟨2, "ts", true, .primitive .date, none⟩], _, rfl⟩

/-- Two spellings of one column, and columns that differ in case only. -/
theorem letter_case_of_columns_sigma :
    let strict : Resolver := { caseSensitive := true }
    let loose : Resolver := {}
    strict.caseSensitive = true ∧ loose.caseSensitive = false ∧
      ((streets.fields.map fun f => Text.lower f.name).Nodup ∧
        Declaration.read "bucket(οδος, 4)" = .ok ("οδος", .bucket 4) ∧
        Declaration.read "BUCKET( Οδος ,+04)" = .ok ("Οδος", .bucket 4) ∧
        Text.lower "οδος" = Text.lower "Οδος" ∧
        loose.resolve streets "bucket(οδος, 4)" = loose.resolve streets "BUCKET( Οδος ,+04)") ∧
      (strict.resolve twoCases "day(ts)" = .ok ⟨2, "ts", "ts_day", .day⟩ ∧
        loose.resolve twoCases "day(ts)" = .ok ⟨2, "ts", "ts_day", .day⟩) ∧
      (loose.resolve twoCases "day( tS )" = .ok ⟨1, "Ts", "Ts_day", .day⟩ ∧
        (strict.resolve twoCases "day( tS )" = .ok ⟨1, "Ts", "Ts_day", .day⟩ ∨
          ∃ column t, Declaration.Declares "day( tS )".toList column.toList t ∧
            strict.resolve twoCases "day( tS )" = .error (.unresolvedColumn column))) := by
  intro strict loose
  have hdistinct : (streets.fields.map fun f => Text.lower f.name).Nodup := by decide +kernel
  have hsmall : Declaration.read "bucket(οδος, 4)" = .ok ("οδος", .bucket 4) := by decide +kernel
  have hlarge : Declaration.read "BUCKET( Οδος ,+04)" = .ok ("Οδος", .bucket 4) := by
    decide +kernel
  have hlower : Text.lower "οδος" = Text.lower "Οδος" := by decide +kernel
  have hfound : strict.resolve twoCases "day(ts)" = .ok ⟨2, "ts", "ts_day", .day⟩ := by decide
  have hother : loose.resolve twoCases "day( tS )" = .ok ⟨1, "Ts", "Ts_day", .day⟩ := by decide
  have hstreets := @letter_case_of_columns strict loose rfl rfl streets
  have hcases := @letter_case_of_columns strict loose rfl rfl twoCases
  exact ⟨rfl, rfl,
    ⟨hdistinct, hsmall, hlarge, hlower, hstreets.1 hdistinct _ _ _ _ _ hsmall hlarge hlower⟩,
    ⟨hfound, (hcases.2 _ _).1 hfound⟩, hother, (hcases.2 _ _).2 hother⟩

end Resolver

end Partitioning
