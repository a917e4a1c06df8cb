import Partitioning.Width

/-!
# Integers that fit a width

A word is read exactly when the number is in its range, and then the word has that value.
-/

namespace Partitioning.Width

/-- A number is refused exactly when it is below or above the range. -/
theorem int32?_eq_none_iff {n : Int} :
    int32? n = none ↔ n < -0x80000000 ∨ 0x80000000 ≤ n := by
  unfold int32?
  split <;> simp <;> omega

/-- The value of a word is read as that word. -/
theorem int32?_toInt (i : Int32) : int32? i.toInt = some i := by
  unfold int32?
  rw [if_pos ⟨i.le_toInt, i.toInt_lt⟩, Int32.ofInt_toInt]

/-- A word of 64 bits is read from its value and from no other number. -/
theorem int64?_eq_some_iff {n : Int} {i : Int64} : int64? n = some i ↔ i.toInt = n := by
  constructor
  · intro h
    unfold int64? at h
    split at h
    · next hn =>
        cases h
        exact Int64.toInt_ofInt_of_le hn.1 hn.2
    · cases h
  · rintro rfl
    have hlow := i.le_toInt
    have hhigh := i.toInt_lt
    unfold int64?
    rw [if_pos ⟨hlow, hhigh⟩, Int64.ofInt_toInt]

/-- An unsigned word of 32 bits is read from its value and from no other number. -/
theorem uint32?_eq_some_iff {n : Nat} {u : UInt32} : uint32? n = some u ↔ u.toNat = n := by
  constructor
  · intro h
    unfold uint32? at h
    split at h
    · next hn =>
        cases h
        exact UInt32.toNat_ofNat_of_lt hn
    · cases h
  · rintro rfl
    unfold uint32?
    rw [if_pos u.toNat_lt, UInt32.ofNat_toNat]

/-- An unsigned word of 64 bits is read from its value and from no other number. -/
theorem uint64?_eq_some_iff {n : Nat} {u : UInt64} : uint64? n = some u ↔ u.toNat = n := by
  constructor
  · intro h
    unfold uint64? at h
    split at h
    · next hn =>
        cases h
        exact UInt64.toNat_ofNat_of_lt hn
    · cases h
  · rintro rfl
    unfold uint64?
    rw [if_pos u.toNat_lt, UInt64.ofNat_toNat]

end Partitioning.Width

namespace Partitioning.Int128

/-- The bounds that a word carries add nothing to its value. -/
theorem toInt_inj {i j : Int128} : i.toInt = j.toInt ↔ i = j := by
  constructor
  · intro h
    cases i
    cases j
    cases h
    rfl
  · rintro rfl
    rfl

/-- A word of 128 bits is read from its value and from no other number. -/
theorem ofInt?_eq_some_iff {n : Int} {i : Int128} : ofInt? n = some i ↔ i.toInt = n := by
  unfold ofInt?
  split
  · next hn =>
      rw [Option.some.injEq]
      exact eq_comm.trans toInt_inj.symm
  · next hn =>
      refine ⟨nofun, ?_⟩
      rintro rfl
      exact absurd ⟨i.lower, i.upper⟩ hn

end Partitioning.Int128
