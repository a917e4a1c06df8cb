import Mathlib.Algebra.Ring.Int.Defs
import Partitioning.EngineValue
import Partitioning.Proofs.Traversal
import Partitioning.Proofs.Width

/-!
# Decimals at another scale

An unscaled number `n` at scale `s` is the number `u` at scale `k` exactly when
`n · 10^k = u · 10^s`. Rescaling finds this `n` whenever it fits 128 bits, with one exception: a
zero is lost when the scales are further apart than the powers of ten that fit 128 bits. A decimal
is then converted exactly when its digits fit the precision of the type.
-/

namespace Partitioning

theorem tenTo_ne_zero (n : Nat) : (tenTo n : Int) ≠ 0 :=
  Int.natCast_ne_zero.mpr (Nat.ne_of_gt (tenTo_pos n))

/-- Moving the decimal point of both numbers by as many digits keeps them equal. -/
theorem mul_tenTo_add_eq_iff {a b : Int} {c d : Nat} :
    a * tenTo (c + d) = b * tenTo c ↔ a * tenTo d = b := by
  rw [tenTo_add, Int.natCast_mul, Int.mul_comm (tenTo c), ← Int.mul_assoc]
  exact Int.mul_eq_mul_right_iff (tenTo_ne_zero c)

namespace Int128

/-- A number other than zero with 39 zeros at its end does not fit 128 bits. -/
theorem le_of_eq_mul_tenTo {i : Int128} {n : Int} {d : Nat} (h : i.toInt = n * tenTo d)
    (hzero : i.toInt ≠ 0) : d ≤ 38 := by
  by_contra hd
  have hn : n.natAbs ≠ 0 := by
    intro hn
    rw [h, Int.natAbs_eq_zero.mp hn, Int.zero_mul] at hzero
    exact hzero rfl
  have hlarge : tenTo 39 ≤ i.toInt.natAbs :=
    calc tenTo 39 ≤ tenTo d := tenTo_le_tenTo (by omega)
      _ ≤ n.natAbs * tenTo d := Nat.le_mul_of_pos_left _ (Nat.pos_of_ne_zero hn)
      _ = i.toInt.natAbs := by rw [h, Int.natAbs_mul, Int.natAbs_natCast]
  have hten : tenTo 39 = 1000000000000000000000000000000000000000 := rfl
  have hlower := i.lower
  have hupper := i.upper
  omega

/-- A number of 38 digits fits 128 bits. -/
theorem exists_toInt_eq {n : Int} (h : n.natAbs ≤ tenTo 38) : ∃ i : Int128, i.toInt = n := by
  have hten : tenTo 38 = 100000000000000000000000000000000000000 := rfl
  exact ⟨⟨n, by omega, by omega⟩, rfl⟩

end Int128

namespace EngineValue

/-- Powers of ten up to the thirty-eighth fit 128 bits. -/
theorem powerOfTen?_eq_some_iff {n : Nat} {factor : Int128} :
    powerOfTen? n = some factor ↔ n ≤ 38 ∧ factor.toInt = tenTo n := by
  unfold powerOfTen?
  split
  · next hn => rw [Int128.ofInt?_eq_some_iff, and_iff_right hn]
  · next hn => exact ⟨nofun, fun h => absurd h.1 hn⟩

/-- What is asked of a power that fits can be asked of the number. -/
theorem exists_powerOfTen?_and_iff {n : Nat} {P : Int → Prop} :
    (∃ factor, powerOfTen? n = some factor ∧ P factor.toInt) ↔ n ≤ 38 ∧ P (tenTo n) := by
  simp only [powerOfTen?_eq_some_iff]
  constructor
  · rintro ⟨factor, ⟨hn, hfactor⟩, hP⟩
    exact ⟨hn, hfactor ▸ hP⟩
  · rintro ⟨hn, hP⟩
    obtain ⟨factor, hfactor⟩ := Int128.exists_toInt_eq (n := tenTo n) (tenTo_le_tenTo hn)
    exact ⟨factor, ⟨hn, hfactor⟩, hfactor ▸ hP⟩

section Rescale

variable {unscaled n : Int128} {source target : Nat}

/-- Rescaling to a greater scale multiplies, when the factor and the product fit. -/
theorem rescale?_up_eq_some_iff {d : Nat} :
    rescale? unscaled source (source + d) = some n ↔
      d ≤ 38 ∧ n.toInt = unscaled.toInt * tenTo d := by
  rw [rescale?, if_pos (Nat.le_add_right source d), Nat.add_sub_cancel_left, Option.bind_eq_bind,
    Option.bind_eq_some_iff]
  simp only [Int128.ofInt?_eq_some_iff]
  exact exists_powerOfTen?_and_iff (P := fun factor => n.toInt = unscaled.toInt * factor)

/-- Rescaling to a smaller scale divides, when the divisor fits and nothing remains. -/
theorem rescale?_down_eq_some_iff {d : Nat} (hd : 0 < d) :
    rescale? unscaled (target + d) target = some n ↔
      d ≤ 38 ∧ n.toInt * tenTo d = unscaled.toInt := by
  rw [rescale?, if_neg (by omega), Nat.add_sub_cancel_left, Option.bind_eq_bind,
    Option.bind_eq_some_iff]
  simp only [Option.ite_none_right_eq_some, Int128.ofInt?_eq_some_iff]
  rw [exists_powerOfTen?_and_iff
    (P := fun factor => unscaled.toInt.tmod factor = 0 ∧ n.toInt = unscaled.toInt.tdiv factor)]
  refine and_congr_right fun _ => ?_
  constructor
  · rintro ⟨hmod, hdiv⟩
    rw [hdiv]
    exact Int.tdiv_mul_cancel_of_tmod_eq_zero hmod
  · intro h
    rw [← h]
    exact ⟨Int.mul_tmod_left .., (Int.mul_tdiv_cancel _ (tenTo_ne_zero d)).symm⟩

/-- Rescaling finds the same number at the other scale. A zero has to be within reach of a power of
ten; for every other number the power fits when the numbers do. -/
theorem rescale?_eq_some_iff :
    rescale? unscaled source target = some n ↔
      n.toInt * tenTo source = unscaled.toInt * tenTo target ∧
        (unscaled.toInt = 0 → source ≤ target + 38 ∧ target ≤ source + 38) := by
  obtain hlt | hle := Nat.lt_or_ge target source
  · obtain ⟨d, rfl⟩ := Nat.exists_eq_add_of_le (Nat.le_of_lt hlt)
    rw [rescale?_down_eq_some_iff (by omega), mul_tenTo_add_eq_iff]
    constructor
    · rintro ⟨hd, hn⟩
      exact ⟨hn, fun _ => by omega⟩
    · rintro ⟨hn, hreach⟩
      refine ⟨?_, hn⟩
      by_cases hzero : unscaled.toInt = 0
      · have hfar := (hreach hzero).1
        omega
      · exact unscaled.le_of_eq_mul_tenTo hn.symm hzero
  · obtain ⟨d, rfl⟩ := Nat.exists_eq_add_of_le hle
    have hsame : n.toInt * tenTo source = unscaled.toInt * tenTo (source + d) ↔
        n.toInt = unscaled.toInt * tenTo d :=
      eq_comm.trans (mul_tenTo_add_eq_iff.trans eq_comm)
    rw [rescale?_up_eq_some_iff, hsame]
    constructor
    · rintro ⟨hd, hn⟩
      exact ⟨hn, fun _ => by omega⟩
    · rintro ⟨hn, hreach⟩
      refine ⟨?_, hn⟩
      by_cases hzero : unscaled.toInt = 0
      · have hfar := (hreach hzero).2
        omega
      · exact n.le_of_eq_mul_tenTo hn (hn ▸ Int.mul_ne_zero hzero (tenTo_ne_zero d))

/-- A number that a smaller scale can write fits 128 bits there. -/
theorem exists_toInt_eq_of_lt {r : Int} (h : target < source)
    (hr : r * tenTo source = unscaled.toInt * tenTo target) : ∃ n : Int128, n.toInt = r := by
  obtain ⟨d, rfl⟩ := Nat.exists_eq_add_of_le (Nat.le_of_lt h)
  have hone : tenTo 1 ≤ tenTo d := tenTo_le_tenTo (by omega)
  have habs : r.natAbs * tenTo 1 ≤ unscaled.toInt.natAbs :=
    calc r.natAbs * tenTo 1 ≤ r.natAbs * tenTo d := Nat.mul_le_mul_left _ hone
      _ = unscaled.toInt.natAbs := by
        rw [← mul_tenTo_add_eq_iff.mp hr, Int.natAbs_mul, Int.natAbs_natCast]
  rw [show tenTo 1 = 10 from rfl] at habs
  have hlower := unscaled.lower
  have hupper := unscaled.upper
  exact ⟨⟨r, by omega, by omega⟩, rfl⟩

/-- Every number of a scale can be written at a larger one. -/
theorem exists_same_of_le (unscaled : Int) {source target : Nat} (h : source ≤ target) :
    ∃ r : Int, r * tenTo source = unscaled * tenTo target := by
  obtain ⟨d, rfl⟩ := Nat.exists_eq_add_of_le h
  exact ⟨unscaled * tenTo d, (mul_tenTo_add_eq_iff.mpr rfl).symm⟩

/-- On the way to a smaller scale, only zeros out of reach and numbers that it cannot write are
lost. -/
theorem rescale?_eq_none_iff_of_lt (h : target < source) :
    rescale? unscaled source target = none ↔
      (¬ ∃ r : Int, r * tenTo source = unscaled.toInt * tenTo target) ∨
        unscaled.toInt = 0 ∧ target + 38 < source := by
  constructor
  · intro hnone
    by_cases hexact : ∃ r : Int, r * tenTo source = unscaled.toInt * tenTo target
    · obtain ⟨r, hr⟩ := hexact
      obtain ⟨n, rfl⟩ := exists_toInt_eq_of_lt h hr
      right
      by_contra hnear
      have hrescale : rescale? unscaled source target = some n :=
        rescale?_eq_some_iff.mpr ⟨hr, fun hzero => by omega⟩
      rw [hnone] at hrescale
      cases hrescale
    · exact .inl hexact
  · intro hlost
    apply Option.eq_none_iff_forall_ne_some.mpr
    intro n hn
    obtain ⟨hr, hnear⟩ := rescale?_eq_some_iff.mp hn
    obtain hinexact | ⟨hzero, hfar⟩ := hlost
    · exact hinexact ⟨n.toInt, hr⟩
    · have hsource := (hnear hzero).1
      omega

end Rescale

/-- The engine value of a decimal number, short up to eighteen digits of precision. -/
inductive HoldsDecimal (precision : UInt32) (n : Int) : EngineValue → Prop where
  | short (h : precision.toNat ≤ maxShortPrecision) (i : Int64) (hi : i.toInt = n) :
      HoldsDecimal precision n (.long i)
  | wide (h : maxShortPrecision < precision.toNat) (i : Int128) (hi : i.toInt = n) :
      HoldsDecimal precision n (.int128 i)

section Convert

variable {precision scale source : UInt32} {value : Literal} {unscaled n : Int128}
  {v : EngineValue}

/-- A number fits a precision when it has no more digits. -/
theorem fitsPrecision_iff {digits : Nat} (h : digits ≤ 38) :
    fitsPrecision n digits = true ↔ n.toInt.natAbs < tenTo digits := by
  obtain ⟨limit, hlimit, hvalue⟩ :=
    exists_powerOfTen?_and_iff (P := (· = (tenTo digits : Int))) |>.mpr ⟨h, rfl⟩
  simp only [fitsPrecision, hlimit, hvalue, decide_eq_true_eq, Int.ofNat_lt]

/-- A number of at most eighteen digits fits 64 bits, so narrowing it never fails. -/
theorem exists_holdsDecimal (h : n.toInt.natAbs < tenTo precision.toNat) :
    ∃ v, HoldsDecimal precision n.toInt v := by
  by_cases hshort : precision.toNat ≤ maxShortPrecision
  · have hlimit : tenTo precision.toNat ≤ tenTo 18 := tenTo_le_tenTo hshort
    have hten : tenTo 18 = 1000000000000000000 := rfl
    have hi := Int64.toInt_ofInt_of_le (n := n.toInt) (by omega) (by omega)
    exact ⟨_, .short hshort _ hi⟩
  · exact ⟨_, .wide (Nat.lt_of_not_le hshort) n rfl⟩

/-- A rescaled number that fits the precision is converted to the value that holds it. -/
theorem ofDecimal?_of_holdsDecimal (value : Literal) (h : precision.toNat ≤ 38)
    (hrescale : rescale? unscaled source.toNat scale.toNat = some n)
    (hfits : n.toInt.natAbs < tenTo precision.toNat) (hholds : HoldsDecimal precision n.toInt v) :
    ofDecimal? precision scale value unscaled source = .ok v := by
  have hprecision := (fitsPrecision_iff h).mpr hfits
  cases hholds with
  | short hshort i hi =>
      simp [ofDecimal?, hrescale, hprecision, hshort, Width.int64?_eq_some_iff.mpr hi]
  | wide hwide i hi =>
      obtain rfl := Int128.toInt_inj.mp hi
      simp [ofDecimal?, hrescale, hprecision, Nat.not_le.mpr hwide]

/-- All that a decimal can be converted to: a value, or an error that depends on whether rescaling
or the precision refuses it. -/
theorem ofDecimal?_cases (h : precision.toNat ≤ 38) (scale : UInt32) (value : Literal)
    (unscaled : Int128) (source : UInt32) :
    (∃ n v, rescale? unscaled source.toNat scale.toNat = some n ∧
        n.toInt.natAbs < tenTo precision.toNat ∧ HoldsDecimal precision n.toInt v ∧
        ofDecimal? precision scale value unscaled source = .ok v) ∨
      (∃ n, rescale? unscaled source.toNat scale.toNat = some n ∧
        tenTo precision.toNat ≤ n.toInt.natAbs ∧
        ofDecimal? precision scale value unscaled source =
          .error (.overflow value (.decimal precision scale))) ∨
      (rescale? unscaled source.toNat scale.toNat = none ∧
        ofDecimal? precision scale value unscaled source =
          .error (if scale < source then .inexact value (.decimal precision scale)
            else .overflow value (.decimal precision scale))) := by
  cases hrescale : rescale? unscaled source.toNat scale.toNat with
  | none =>
      refine .inr (.inr ⟨rfl, ?_⟩)
      simp only [ofDecimal?, hrescale]
  | some n =>
      by_cases hfits : n.toInt.natAbs < tenTo precision.toNat
      · obtain ⟨v, hholds⟩ := exists_holdsDecimal hfits
        have hok := ofDecimal?_of_holdsDecimal value h hrescale hfits hholds
        exact .inl ⟨n, v, rfl, hfits, hholds, hok⟩
      · refine .inr (.inl ⟨n, rfl, Nat.le_of_not_lt hfits, ?_⟩)
        have hprecision := mt (fitsPrecision_iff h).mp hfits
        simp [ofDecimal?, hrescale, hprecision]

/-- A decimal is converted exactly when it can be rescaled and then fits the precision. -/
theorem ofDecimal?_eq_ok_iff (h : precision.toNat ≤ 38) :
    ofDecimal? precision scale value unscaled source = .ok v ↔
      ∃ n, rescale? unscaled source.toNat scale.toNat = some n ∧
        n.toInt.natAbs < tenTo precision.toNat ∧ HoldsDecimal precision n.toInt v := by
  constructor
  · intro hv
    obtain ⟨n, w, hrescale, hfits, hholds, hok⟩ | ⟨_, _, _, herror⟩ | ⟨_, herror⟩ :=
      ofDecimal?_cases h scale value unscaled source
    · obtain rfl : w = v := Except.ok.inj (hok.symm.trans hv)
      exact ⟨n, hrescale, hfits, hholds⟩
    · cases herror.symm.trans hv
    · cases herror.symm.trans hv
  · rintro ⟨n, hrescale, hfits, hholds⟩
    exact ofDecimal?_of_holdsDecimal value h hrescale hfits hholds

/-- A decimal is refused as inexact exactly when it cannot be brought to a smaller scale. -/
theorem ofDecimal?_eq_inexact_iff (h : precision.toNat ≤ 38) :
    ofDecimal? precision scale value unscaled source =
        .error (.inexact value (.decimal precision scale)) ↔
      rescale? unscaled source.toNat scale.toNat = none ∧ scale < source := by
  obtain ⟨n, v, hrescale, _, _, hok⟩ | ⟨n, hrescale, _, herror⟩ | ⟨hrescale, herror⟩ :=
    ofDecimal?_cases h scale value unscaled source
  · simp [hok, hrescale]
  · simp [herror, hrescale]
  · rw [herror]
    by_cases hlt : scale < source
    · simp [hrescale, hlt]
    · simp [hlt]

theorem ofLiteral?_decimal :
    ofLiteral? (.primitive (.decimal precision scale)) (some (.decimal unscaled source)) =
      (ofDecimal? precision scale (.decimal unscaled source) unscaled source).map some :=
  rfl

end Convert

/-- A decimal that is a number of the type's scale and precision is converted, whatever its own
scale, unless it is a zero whose scale is more than 38 above that of the type. Only such zeros and
numbers that the scale of the type cannot write are refused as inexact. -/
theorem representable_decimal_converted {precision scale : UInt32}
    (hprecision : precision.toNat ≤ 38) (hscale : scale ≤ precision) (unscaled : Int128)
    (source : UInt32) :
    (∀ r : Int, r * tenTo source.toNat = unscaled.toInt * tenTo scale.toNat →
        r.natAbs < tenTo precision.toNat →
        ((∃ v, ofLiteral? (.primitive (.decimal precision scale))
              (some (.decimal unscaled source)) = .ok (some v) ∧ HoldsDecimal precision r v) ↔
          (unscaled.toInt = 0 → source.toNat ≤ scale.toNat + 38))) ∧
      (ofLiteral? (.primitive (.decimal precision scale)) (some (.decimal unscaled source)) =
          .error (.inexact (.decimal unscaled source) (.decimal precision scale)) ↔
        (¬ ∃ r : Int, r * tenTo source.toNat = unscaled.toInt * tenTo scale.toNat) ∨
          unscaled.toInt = 0 ∧ scale.toNat + 38 < source.toNat) := by
  have hreach : scale.toNat ≤ 38 :=
    Nat.le_trans (UInt32.le_iff_toNat_le.mp hscale) hprecision
  rw [ofLiteral?_decimal]
  refine ⟨fun r hr hfits => ?converted, ?refused⟩
  case converted =>
    have hfits128 := Nat.le_trans (Nat.le_of_lt hfits) (tenTo_le_tenTo hprecision)
    obtain ⟨n, rfl⟩ := Int128.exists_toInt_eq hfits128
    constructor
    · rintro ⟨v, hv, _⟩ hzero
      obtain ⟨w, hw, _⟩ := map_eq_ok_iff.mp hv
      obtain ⟨m, hm, _⟩ := (ofDecimal?_eq_ok_iff hprecision).mp hw
      exact ((rescale?_eq_some_iff.mp hm).2 hzero).1
    · intro hnear
      have hrescale : rescale? unscaled source.toNat scale.toNat = some n :=
        rescale?_eq_some_iff.mpr ⟨hr, fun hzero => ⟨hnear hzero, by omega⟩⟩
      obtain ⟨v, hholds⟩ := exists_holdsDecimal hfits
      refine ⟨v, map_eq_ok_iff.mpr ⟨v, ?_, rfl⟩, hholds⟩
      exact ofDecimal?_of_holdsDecimal _ hprecision hrescale hfits hholds
  case refused =>
    rw [map_eq_error_iff, ofDecimal?_eq_inexact_iff hprecision, UInt32.lt_iff_toNat_lt]
    by_cases hlt : scale.toNat < source.toNat
    · rw [and_iff_left hlt, rescale?_eq_none_iff_of_lt hlt]
    · have hexact := exists_same_of_le unscaled.toInt (Nat.le_of_not_lt hlt)
      constructor
      · rintro ⟨_, h⟩
        exact absurd h hlt
      · rintro (hinexact | ⟨_, hfar⟩)
        · exact absurd hexact hinexact
        · omega

/-- Minus one, written with as many decimal places as fit 128 bits. -/
theorem longest_minus_one_converted :
    (38 : UInt32).toNat ≤ 38 ∧ (0 : UInt32) ≤ 38 ∧
      (-1 : Int) * tenTo (38 : UInt32).toNat =
        (-100000000000000000000000000000000000000 : Int) * tenTo (0 : UInt32).toNat ∧
      (-1 : Int).natAbs < tenTo (38 : UInt32).toNat ∧
      ∃ v, ofLiteral? (.primitive (.decimal 38 0))
        (some (.decimal ⟨-100000000000000000000000000000000000000, by decide, by decide⟩ 38)) =
          .ok (some v) ∧ HoldsDecimal 38 (-1) v := by
  refine ⟨by decide, by decide, by decide, by decide, ?_⟩
  have h := @representable_decimal_converted 38 0 (by decide) (by decide)
    ⟨-100000000000000000000000000000000000000, by decide, by decide⟩ 38
  exact (h.1 (-1) (by decide) (by decide)).mpr (by decide)

/-- A zero of a large scale is the number zero, and is still refused as inexact. -/
theorem far_zero_refused :
    (0 : Int) * tenTo (100 : UInt32).toNat =
        (⟨0, by decide, by decide⟩ : Int128).toInt * tenTo (0 : UInt32).toNat ∧
      (0 : Int).natAbs < tenTo (10 : UInt32).toNat ∧
      ofLiteral? (.primitive (.decimal 10 0))
          (some (.decimal ⟨0, by decide, by decide⟩ 100)) =
        .error (.inexact (.decimal ⟨0, by decide, by decide⟩ 100) (.decimal 10 0)) := by
  refine ⟨by decide, by decide, ?_⟩
  rfl

end EngineValue

end Partitioning
