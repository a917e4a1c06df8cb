import Partitioning.Proofs.PartitionError
import Partitioning.Proofs.Traversal
import Partitioning.Transform.Source

/-!
# Types of partition values

A transform takes values of some types to values of another type or of the same one. The check of a
source type and the type of the partition values are both given by this one relation, and what the
check refuses is reported with the type that was refused.
-/

namespace Partitioning

namespace Primitive

/-- Values of the type lie on a day. -/
inductive HasDay : Primitive → Prop
  | date : HasDay .date
  | timestamp : HasDay .timestamp
  | timestamptz : HasDay .timestamptz

/-- Values of the type can be cut to a width. -/
inductive HasWidth : Primitive → Prop
  | int : HasWidth .int
  | long : HasWidth .long
  | decimal (precision scale : UInt32) : HasWidth (.decimal precision scale)
  | string : HasWidth .string
  | binary : HasWidth .binary

/-- The types of dates and timestamps are those with days; a time has none. -/
theorem isDateOrTimestamp_iff {p : Primitive} : p.isDateOrTimestamp = true ↔ p.HasDay := by
  constructor
  · intro h
    cases p with
    | date | timestamp | timestamptz => constructor
    | _ => cases h
  · intro h
    cases h <;> rfl

/-- The types that can be truncated are those with a width. -/
theorem isTruncatable_iff {p : Primitive} : Transform.isTruncatable p = true ↔ p.HasWidth := by
  constructor
  · intro h
    cases p with
    | int | long | decimal | string | binary => constructor
    | _ => cases h
  · intro h
    cases h <;> rfl

theorem not_isFloatingPoint_iff {p : Primitive} :
    (!p.isFloatingPoint) = true ↔ p ≠ float ∧ p ≠ double := by
  cases p <;> simp [isFloatingPoint]

end Primitive

namespace Transform

/-- The transform takes values of the first type to values of the second. -/
inductive Yields : Transform → DataType → DataType → Prop
  | identity (p : Primitive) : Yields .identity (.primitive p) (.primitive p)
  | bucket (n : UInt32) {p : Primitive} (h : p ≠ .float ∧ p ≠ .double) :
      Yields (.bucket n) (.primitive p) (.primitive .int)
  | truncate (w : UInt32) {p : Primitive} (h : p.HasWidth) :
      Yields (.truncate w) (.primitive p) (.primitive p)
  | year {p : Primitive} (h : p.HasDay) : Yields .year (.primitive p) (.primitive .int)
  | month {p : Primitive} (h : p.HasDay) : Yields .month (.primitive p) (.primitive .int)
  | day {p : Primitive} (h : p.HasDay) : Yields .day (.primitive p) (.primitive .date)
  | hour {p : Primitive} (h : p.HasDay) : Yields .hour (.primitive p) (.primitive .int)
  | void (source : DataType) : Yields .void source source

variable {t : Transform} {source type : DataType}

/-- A check of primitive types accepts a type that is primitive and passes. -/
theorem allowed_iff {accepts : Primitive → Bool} {e : PartitionError} :
    (if source.primitive?.any accepts then (.ok () : Except PartitionError Unit) else .error e) =
      .ok () ↔ ∃ p, source = .primitive p ∧ accepts p = true := by
  cases source with
  | primitive p =>
      simp only [DataType.primitive?, Option.any_some, DataType.primitive.injEq, exists_eq_left']
      by_cases hp : accepts p = true
      · simp only [hp, if_true]
      · simp only [hp, if_false, Bool.false_eq_true, reduceCtorEq]
  | _ => simp [DataType.primitive?]

/-- The check of a source type accepts it exactly when the transform has values over it. -/
theorem checkSource_eq_ok_iff : t.checkSource source = .ok () ↔ ∃ type, t.Yields source type := by
  constructor
  · intro h
    cases t with
    | void => exact ⟨source, .void source⟩
    | identity =>
        obtain ⟨p, rfl, _⟩ := allowed_iff.mp h
        exact ⟨_, .identity p⟩
    | bucket n =>
        obtain ⟨p, rfl, hp⟩ := allowed_iff.mp h
        exact ⟨_, .bucket n (Primitive.not_isFloatingPoint_iff.mp hp)⟩
    | truncate w =>
        obtain ⟨p, rfl, hp⟩ := allowed_iff.mp h
        exact ⟨_, .truncate w (Primitive.isTruncatable_iff.mp hp)⟩
    | year | month | day | hour =>
        obtain ⟨p, rfl, hp⟩ := allowed_iff.mp h
        apply Exists.intro
        constructor
        exact Primitive.isDateOrTimestamp_iff.mp hp
  · rintro ⟨type, h⟩
    cases h with
    | void => rfl
    | identity p => rfl
    | bucket n h => exact allowed_iff.mpr ⟨_, rfl, Primitive.not_isFloatingPoint_iff.mpr h⟩
    | truncate w h => exact allowed_iff.mpr ⟨_, rfl, Primitive.isTruncatable_iff.mpr h⟩
    | year h | month h | day h | hour h =>
        exact allowed_iff.mpr ⟨_, rfl, Primitive.isDateOrTimestamp_iff.mpr h⟩

/-- A refused type has no partition values, and the error is about types and shows this one. -/
theorem refused_of_checkSource {e : PartitionError} (h : t.checkSource source = .error e) :
    (∀ type, ¬ t.Yields source type) ∧ e.category = "TypeIncompatibility" ∧
      source.text ∈ e.subjects := by
  constructor
  · intro type hyields
    rw [checkSource_eq_ok_iff.mpr ⟨type, hyields⟩] at h
    cases h
  · have hreport {accepts : Primitive → Bool} {report : PartitionError}
        (h : (if source.primitive?.any accepts then .ok () else .error report) =
          (.error e : Except PartitionError Unit)) : report = e := by
      split at h
      · cases h
      · exact Except.error.inj h
    cases t with
    | void => cases h
    | identity | bucket n | truncate w | year | month | day | hour =>
        obtain rfl := hreport h
        exact ⟨rfl, List.mem_cons_self⟩

/-- The type of the partition values is the one that the transform yields. -/
theorem resultType_eq_ok_iff : t.resultType source = .ok type ↔ t.Yields source type := by
  have hcomplete {type : DataType} (h : t.Yields source type) : t.resultType source = .ok type := by
    rw [resultType.eq_def, checkSource_eq_ok_iff.mpr ⟨type, h⟩]
    cases h <;> rfl
  constructor
  · intro h
    obtain ⟨_, hcheck, _⟩ := bind_eq_ok_iff.mp h
    obtain ⟨type', hyields⟩ := checkSource_eq_ok_iff.mp hcheck
    rwa [Except.ok.inj (h.symm.trans (hcomplete hyields))]
  · exact hcomplete

/-- Only `void` has partition values of a type with parts, and these are the parts of its source. -/
theorem Yields.nested_eq (h : t.Yields source type) :
    type.nested = if t = .void then source.nested else [] := by
  cases h with
  | void => rw [if_pos rfl]
  | _ => rfl

end Transform

end Partitioning
