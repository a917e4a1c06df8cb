import Partitioning.Proofs.Schema
import Partitioning.Proofs.TreeOrder

/-!
# What keeps fields from being a schema

The builder accepts a list of fields exactly when its ids are positive and stand at one place each
and its column names are distinct. Otherwise it reports one field: the first in pre-order that
breaks the rules of ids, and only if there is none, the first column that repeats a name.
-/

namespace Partitioning.Schema

section FirstDefect

variable {π κ : Type} [LinearOrder π]

/-- A field is wrong at its place when it is wrong by itself or has the key of a field at an earlier
place. -/
def WrongAt (read : π → Option Field) (key : Field → κ) (own : Field → Prop) (place : π)
    (f : Field) : Prop :=
  read place = some f ∧ (own f ∨ ∃ q < place, ∃ g, read q = some g ∧ key g = key f)

/-- The first place at which something is wrong with a field. -/
def FirstPlace (wrong : π → Field → Prop) (place : π) (f : Field) : Prop :=
  wrong place f ∧ ∀ q < place, ∀ g, ¬ wrong q g

variable {read : π → Option Field} {key : Field → κ} {own : Field → Prop}

/-- With the fields before it listed, a field is wrong exactly when its key is among theirs. -/
theorem wrongAt_iff {earlier later : List π} {place : π} {before after : List Field} {f g : Field}
    (h : Field.Lists read (earlier ++ place :: later) (before ++ f :: after))
    (hlength : earlier.length = before.length) :
    WrongAt read key own place g ↔ g = f ∧ (own f ∨ key f ∈ before.map key) := by
  have hread : read place = some f := h.read_eq hlength
  simp only [WrongAt, hread, Option.some.injEq, List.mem_map, ← h.exists_earlier_iff hlength]
  constructor
  · rintro ⟨rfl, hown | ⟨q, hq, g, hg, hkey⟩⟩
    · exact ⟨rfl, .inl hown⟩
    · exact ⟨rfl, .inr ⟨g, ⟨q, hq, hg⟩, hkey⟩⟩
  · rintro ⟨rfl, hown | ⟨g, ⟨q, hq, hg⟩, hkey⟩⟩
    · exact ⟨rfl, .inl hown⟩
    · exact ⟨rfl, .inr ⟨q, hq, g, hg, hkey⟩⟩

/-- Nothing is wrong anywhere when no field is wrong by itself and no key stands at two places. -/
theorem forall_not_wrongAt_iff :
    (∀ place f, ¬ WrongAt read key own place f) ↔
      (∀ place f, read place = some f → ¬ own f) ∧
        ∀ p q f g, read p = some f → read q = some g → key f = key g → p = q := by
  constructor
  · intro hnever
    refine ⟨fun place f hf hown => hnever place f ⟨hf, .inl hown⟩,
      fun p q f g hf hg hkey => ?_⟩
    obtain hlt | heq | hlt := lt_trichotomy p q
    · exact absurd ⟨hg, .inr ⟨p, hlt, f, hf, hkey⟩⟩ (hnever q g)
    · exact heq
    · exact absurd ⟨hf, .inr ⟨q, hlt, g, hg, hkey.symm⟩⟩ (hnever p f)
  · rintro ⟨hown, hkeys⟩ place f ⟨hf, hwrong | ⟨q, hq, g, hg, hkey⟩⟩
    · exact hown place f hf hwrong
    · exact absurd hq (hkeys q place g f hg hf hkey ▸ lt_irrefl _)

/-- The report on the first field of a list that is wrong by itself or has a key seen before. -/
def firstDefect? [DecidableEq κ] (key : Field → κ) (own : Field → Prop) [DecidablePred own]
    (report : Field → SchemaError) (seen : List κ) : List Field → Option SchemaError
  | [] => none
  | f :: rest =>
    if own f ∨ key f ∈ seen then some (report f)
    else firstDefect? key own report (seen ++ [key f]) rest

variable [DecidableEq κ] [DecidablePred own] {report : Field → SchemaError}

/-- What the search finds among the fields that are left, when the others are listed before. -/
theorem firstDefect?_from {earlier places : List π} {before fields : List Field}
    (h : Field.Lists read (earlier ++ places) (before ++ fields))
    (hlength : earlier.length = before.length) :
    (firstDefect? key own report (before.map key) fields = none →
        ∀ place ∈ places, ∀ f, ¬ WrongAt read key own place f) ∧
      ∀ e, firstDefect? key own report (before.map key) fields = some e →
        ∃ place f, WrongAt read key own place f ∧
          (∀ q ∈ places, q < place → ∀ g, ¬ WrongAt read key own q g) ∧ e = report f := by
  induction fields generalizing earlier places before with
  | nil =>
      obtain rfl : places = [] := by
        have htotal := h.length_eq
        rw [List.length_append, List.length_append, hlength] at htotal
        exact List.length_eq_zero_iff.mp (by simpa using htotal)
      constructor
      · intro _ place hplace
        cases hplace
      · intro e he
        cases he
  | cons f rest ih =>
      cases places with
      | nil =>
          have htotal := h.length_eq
          rw [List.length_append, List.length_append, hlength] at htotal
          simp at htotal
      | cons place later =>
          have hwrong (g : Field) : WrongAt read key own place g ↔
              g = f ∧ (own f ∨ key f ∈ before.map key) := wrongAt_iff h hlength
          rw [firstDefect?]
          split
          · next hdefect =>
              constructor
              · intro hnone
                cases hnone
              · intro e he
                refine ⟨place, f, (hwrong f).mpr ⟨rfl, hdefect⟩, fun q hq hlt => ?_,
                  (Option.some.inj he).symm⟩
                obtain ⟨_, hlater, _⟩ := List.pairwise_append.mp h.increasing
                obtain rfl | hq := List.mem_cons.mp hq
                · exact absurd hlt (lt_irrefl _)
                · exact absurd hlt (lt_asymm ((List.pairwise_cons.mp hlater).1 q hq))
          · next hsound =>
              have hnext : Field.Lists read ((earlier ++ [place]) ++ later)
                  ((before ++ [f]) ++ rest) := by
                simpa only [List.append_assoc, List.singleton_append] using h
              have hrest := ih hnext (by simp [hlength])
              rw [List.map_append, List.map_singleton] at hrest
              have hplace (g : Field) : ¬ WrongAt read key own place g := fun hg =>
                hsound ((hwrong g).mp hg).2
              constructor
              · intro hnone
                exact List.forall_mem_cons.mpr ⟨hplace, hrest.1 hnone⟩
              · intro e he
                obtain ⟨p, g, hg, hearlier, he⟩ := hrest.2 e he
                exact ⟨p, g, hg, List.forall_mem_cons.mpr ⟨fun _ => hplace, hearlier⟩, he⟩

variable {places : List π} {fields : List Field}

/-- The search finds nothing exactly when nothing is wrong anywhere. -/
theorem firstDefect?_eq_none_iff (h : Field.Lists read places fields) :
    firstDefect? key own report [] fields = none ↔ ∀ place f, ¬ WrongAt read key own place f := by
  have hstart : Field.Lists read ([] ++ places) ([] ++ fields) := h
  constructor
  · intro hnone place f hf
    exact (firstDefect?_from hstart rfl).1 hnone place (h.complete place f hf.1) f hf
  · intro hnever
    apply Option.eq_none_iff_forall_ne_some.mpr
    intro e he
    obtain ⟨place, f, hf, _⟩ := (firstDefect?_from hstart rfl).2 e he
    exact hnever place f hf

/-- The search reports the field at the first place where something is wrong. -/
theorem firstDefect?_eq_some_iff (h : Field.Lists read places fields) {e : SchemaError} :
    firstDefect? key own report [] fields = some e ↔
      ∃ place f, FirstPlace (WrongAt read key own) place f ∧ e = report f := by
  have hstart : Field.Lists read ([] ++ places) ([] ++ fields) := h
  have hfirst {e : SchemaError} (he : firstDefect? key own report [] fields = some e) :
      ∃ place f, FirstPlace (WrongAt read key own) place f ∧ e = report f := by
    obtain ⟨place, f, hf, hearlier, he⟩ := (firstDefect?_from hstart rfl).2 e he
    exact ⟨place, f, ⟨hf, fun q hq g hg => hearlier q (h.complete q g hg.1) hq g hg⟩, he⟩
  constructor
  · exact hfirst
  · rintro ⟨place, f, ⟨hf, hearlier⟩, rfl⟩
    cases hsearch : firstDefect? key own report [] fields with
    | none => exact absurd hf ((firstDefect?_eq_none_iff h).mp hsearch place f)
    | some e =>
        -- Two first places are one, and one field stands there.
        obtain ⟨place', f', ⟨hf', hearlier'⟩, rfl⟩ := hfirst hsearch
        obtain hlt | rfl | hlt := lt_trichotomy place place'
        · exact absurd hf (hearlier' place hlt f)
        · rw [Option.some.inj (hf.1.symm.trans hf'.1)]
        · exact absurd hf' (hearlier place' hlt f')

end FirstDefect

/-- What is said about a field that breaks the rules of ids. -/
def idReport (f : Field) : SchemaError :=
  if f.id ≤ 0 then .idNotPositive f else .duplicateId f.id

/-- The pass over the ids is a search for the first field that is wrong. -/
theorem idDefect?_eq_firstDefect? (seen : List Int32) (fields : List Field) :
    idDefect? seen fields = firstDefect? Field.id (·.id ≤ 0) idReport seen fields := by
  induction fields generalizing seen with
  | nil => rfl
  | cons f rest ih =>
      rw [idDefect?, firstDefect?, idReport]
      by_cases hpos : f.id ≤ 0
      · rw [if_pos hpos, if_pos (.inl hpos), if_pos hpos]
      · rw [if_neg hpos, if_neg hpos, ih]
        simp only [hpos, false_or]

/-- So is the pass over the names, where only repetition is wrong. -/
theorem nameDefect?_eq_firstDefect? (seen : List String) (fields : List Field) :
    nameDefect? seen fields =
      firstDefect? Field.name (fun _ => False) (fun f => .duplicateName f.name) seen fields := by
  induction fields generalizing seen with
  | nil => rfl
  | cons f rest ih =>
      rw [nameDefect?, firstDefect?, ih]
      simp only [false_or]

variable {fields : List Field}

/-- At a place in the tree stands a field whose id is not positive or that of a field before it. -/
def BreaksIds (fields : List Field) : List Nat → Field → Prop :=
  WrongAt (Field.at? fields) Field.id (·.id ≤ 0)

/-- At a position stands a column that has the name of a column before it. -/
def RepeatsName (fields : List Field) : Nat → Field → Prop :=
  WrongAt (fun i => fields[i]?) Field.name fun _ => False

theorem idDefect?_eq_none_iff_forall :
    idDefect? [] (Field.preorder fields) = none ↔ ∀ place f, ¬ BreaksIds fields place f := by
  obtain ⟨_, hplaces⟩ := Field.exists_places fields
  rw [idDefect?_eq_firstDefect?]
  exact firstDefect?_eq_none_iff hplaces

theorem idDefect?_eq_some_iff {e : SchemaError} :
    idDefect? [] (Field.preorder fields) = some e ↔
      ∃ place f, FirstPlace (BreaksIds fields) place f ∧ e = idReport f := by
  obtain ⟨_, hplaces⟩ := Field.exists_places fields
  rw [idDefect?_eq_firstDefect?]
  exact firstDefect?_eq_some_iff hplaces

theorem nameDefect?_eq_none_iff_forall :
    nameDefect? [] fields = none ↔ ∀ i f, ¬ RepeatsName fields i f := by
  rw [nameDefect?_eq_firstDefect?]
  exact firstDefect?_eq_none_iff (Field.lists_columns fields)

theorem nameDefect?_eq_some_iff {e : SchemaError} :
    nameDefect? [] fields = some e ↔
      ∃ i f, FirstPlace (RepeatsName fields) i f ∧ e = .duplicateName f.name := by
  rw [nameDefect?_eq_firstDefect?]
  exact firstDefect?_eq_some_iff (Field.lists_columns fields)

/-- The builder reports what the passes over the fields find. -/
theorem build_eq_error_iff {d : Draft} {e : SchemaError} :
    d.build = .error e ↔ defect? d.fields = some e := by
  unfold Draft.build
  split
  · next index h =>
      rw [(Index.ofFields_eq_ok_iff.mp h).1]
      exact ⟨nofun, nofun⟩
  · next e' h =>
      rw [Index.ofFields_eq] at h
      cases hdefect : defect? d.fields with
      | none =>
          rw [hdefect] at h
          cases h
      | some e'' =>
          rw [hdefect] at h
          cases h
          rw [Except.error.injEq, Option.some.injEq]

theorem exists_build_iff {d : Draft} : (∃ s, d.build = .ok s) ↔ defect? d.fields = none := by
  rw [exists_build_iff_wellFormed, defect?_eq_none_iff]

/-- No field breaks the rules of ids when all are positive and each stands at one place. -/
theorem forall_not_breaksIds_iff :
    (∀ place f, ¬ BreaksIds fields place f) ↔
      (∀ place f, Field.at? fields place = some f → 0 < f.id) ∧
        ∀ p q f g, Field.at? fields p = some f → Field.at? fields q = some g →
          f.id = g.id → p = q := by
  simp only [BreaksIds, forall_not_wrongAt_iff, Int32.not_le]

/-- No column repeats a name when each name stands at one position. -/
theorem forall_not_repeatsName_iff :
    (∀ i f, ¬ RepeatsName fields i f) ↔
      ∀ (i j : Nat) f g, fields[i]? = some f → fields[j]? = some g → f.name = g.name → i = j := by
  simp only [RepeatsName, forall_not_wrongAt_iff, not_false_eq_true, implies_true, true_and]

/-- The builder accepts exactly the fields whose ids are positive and stand at one place each and
whose columns have distinct names. It reports the first field of the tree that breaks the rules of
ids, and the first column that repeats a name only when no field breaks them. Places are compared
as paths, which puts a field before the fields inside it, and a key with all that is inside it
before its value. The message names the id and the name of the field that is reported, the repeated
id, or the repeated name. -/
theorem build_reports_first_violation (d : Draft) :
    ((∃ s, d.build = .ok s) ↔
        ((∀ place f, Field.at? d.fields place = some f → 0 < f.id) ∧
          ∀ p q f g, Field.at? d.fields p = some f → Field.at? d.fields q = some g →
            f.id = g.id → p = q) ∧
        ∀ (i j : Nat) f g, d.fields[i]? = some f → d.fields[j]? = some g →
          f.name = g.name → i = j) ∧
      (∀ e, d.build = .error e ↔
        (∃ place f, FirstPlace (BreaksIds d.fields) place f ∧
          e = if f.id ≤ 0 then .idNotPositive f else .duplicateId f.id) ∨
        (∀ place f, ¬ BreaksIds d.fields place f) ∧
          ∃ i f, FirstPlace (RepeatsName d.fields) i f ∧ e = .duplicateName f.name) ∧
      (∀ f, (SchemaError.idNotPositive f).message =
        "invalid field: field id must be positive: " ++ toString f.id.toInt ++ ": " ++ f.name ++
          ": " ++ (if f.required then "required" else "optional") ++ " " ++ f.type.text ++
          f.doc.elim "" fun doc => " (" ++ doc ++ ")") ∧
      (∀ id, (SchemaError.duplicateId id).message =
        "invalid field: duplicate field id: " ++ toString id.toInt) ∧
      ∀ name, (SchemaError.duplicateName name).message =
        "invalid field: duplicate field name: " ++ name := by
  refine ⟨?accepts, fun e => ?refuses, ?messages⟩
  case accepts =>
    rw [exists_build_iff, defect?, Option.or_eq_none_iff, idDefect?_eq_none_iff_forall,
      nameDefect?_eq_none_iff_forall, forall_not_breaksIds_iff, forall_not_repeatsName_iff]
  case refuses =>
    rw [build_eq_error_iff, defect?, Option.or_eq_some_iff, idDefect?_eq_some_iff,
      idDefect?_eq_none_iff_forall, nameDefect?_eq_some_iff]
    rfl
  case messages =>
    refine ⟨fun f => ?_, fun id => ?_, fun name => ?_⟩
    · have hmessage : (SchemaError.idNotPositive f).message =
          "invalid field: field id must be positive: " ++ f.text := rfl
      rw [hmessage, Field.text_eq]
      simp only [String.append_assoc]
    · rfl
    · rfl

/-- What is inside a key is reported before its value, and ids before names. -/
example :
    ofFields [⟨1, "m", true, .mapOf
        ⟨2, "key", true, .struct [⟨0, "x", true, .primitive .int, none⟩], none⟩
        ⟨1, "value", true, .primitive .int, none⟩, none⟩,
      ⟨3, "m", true, .primitive .int, none⟩] =
      .error (.idNotPositive ⟨0, "x", true, .primitive .int, none⟩) := by
  rfl

end Partitioning.Schema
