import Mathlib.Algebra.Field.Rat
import Mathlib.Data.Rat.Cast.Defs
import Partitioning.Proofs.Rescaling

/-!
# Exact decimals

A decimal is converted to the rational number it is at the scale of its type, or it overflows: that
happens exactly when this number is an integer with more digits than the type allows. The steps are
also taken here on words of 128 bits, whose operations wrap when a result does not fit. Powers and
products are checked for overflow first; remainders, quotients and absolute values are not, and
still none of them wraps.
-/

namespace Partitioning

namespace Int128

/-- The number whose negation does not fit. -/
def least : Int128 :=
  ⟨-0x80000000000000000000000000000000, by decide, by decide⟩

/-- The word that holds a number. -/
def word (i : Int128) : BitVec 128 :=
  BitVec.ofInt 128 i.toInt

@[simp] theorem toInt_word (i : Int128) : i.word.toInt = i.toInt :=
  BitVec.toInt_ofInt_eq_self (by decide) i.lower i.upper

/-- A word of 128 bits has one value. -/
theorem word_inj {i j : Int128} : i.word = j.word ↔ i = j := by
  rw [← BitVec.toInt_inj, toInt_word, toInt_word, toInt_inj]

/-- Every word of 128 bits is the value of an integer of that width. -/
theorem exists_word_eq (w : BitVec 128) : ∃ i : Int128, i.word = w := by
  have hlower := w.le_toInt
  have hupper := w.toInt_lt
  exact ⟨⟨w.toInt, hlower, hupper⟩, BitVec.ofInt_toInt⟩

end Int128

/-! ## Words of 128 bits -/

namespace Words

/-- The product of two words, unless it overflows. -/
def product? (x y : BitVec 128) : Option (BitVec 128) :=
  if x.smulOverflow y then none else some (x * y)

/-- A power of ten by checked multiplications. -/
def powerOfTen? : Nat → Option (BitVec 128)
  | 0 => some 1
  | n + 1 => do product? (← powerOfTen? n) 10

/-- The unscaled word at another scale, if it is exact there. -/
def rescale? (unscaled : BitVec 128) (source target : Nat) : Option (BitVec 128) :=
  if source ≤ target then
    do product? unscaled (← powerOfTen? (target - source))
  else do
    let factor ← powerOfTen? (source - target)
    if unscaled.srem factor = 0 then some (unscaled.sdiv factor) else none

/-- Whether a word has at most this many digits. The least word has no absolute value. -/
def fitsPrecision (n : BitVec 128) (precision : Nat) : Bool :=
  match powerOfTen? precision with
  | some limit => n != BitVec.intMin 128 && n.abs.slt limit
  | none => true

/-- A product is taken exactly when it fits. -/
theorem product?_eq_some_iff {x y z : BitVec 128} :
    product? x y = some z ↔ z.toInt = x.toInt * y.toInt := by
  unfold product?
  split
  · next hover =>
      apply iff_of_false nofun
      intro hz
      have hlower := z.le_toInt
      have hupper := z.toInt_lt
      simp only [BitVec.smulOverflow, ← hz, Bool.or_eq_true, decide_eq_true_eq] at hover
      omega
  · next hover =>
      rw [Option.some.injEq, ← BitVec.toInt_mul_of_not_smulOverflow hover, BitVec.toInt_inj]
      exact eq_comm

theorem powerOfTen?_eq_some_iff {n : Nat} {power : BitVec 128} :
    powerOfTen? n = some power ↔ n ≤ 38 ∧ power.toInt = tenTo n := by
  induction n generalizing power with
  | zero =>
      have hone : (1 : BitVec 128).toInt = tenTo 0 := rfl
      rw [powerOfTen?, Option.some.injEq, ← hone, BitVec.toInt_inj]
      simp [eq_comm]
  | succ n ih =>
      have hten : (10 : BitVec 128).toInt = 10 := rfl
      simp only [powerOfTen?, Option.bind_eq_bind, Option.bind_eq_some_iff, ih,
        product?_eq_some_iff, hten, tenTo_succ]
      constructor
      · rintro ⟨p, ⟨_, hp⟩, hpower⟩
        obtain ⟨i, rfl⟩ := Int128.exists_word_eq power
        have hi : i.toInt = 1 * tenTo (n + 1) := by
          rw [← i.toInt_word, hpower, hp, tenTo_succ]
          omega
        have hpos := tenTo_pos (n + 1)
        exact ⟨i.le_of_eq_mul_tenTo hi (by omega), by rw [hpower, hp]; rfl⟩
      · rintro ⟨hn, hpower⟩
        obtain ⟨i, hi⟩ := Int128.exists_toInt_eq (n := tenTo n) (tenTo_le_tenTo (by omega))
        exact ⟨i.word, ⟨by omega, by rw [i.toInt_word, hi]⟩, by rw [i.toInt_word, hi]; omega⟩

/-- Operations on words keep to those on numbers when they have the same results. -/
theorem eq_map_word_of_iff {w : Option (BitVec 128)} {n : Option Int128}
    (h : ∀ i : Int128, w = some i.word ↔ n = some i) : w = n.map Int128.word := by
  apply Option.ext
  intro x
  obtain ⟨i, rfl⟩ := Int128.exists_word_eq x
  simp only [h, Option.map_eq_some_iff, Int128.word_inj, exists_eq_right]

/-- Powers computed on words are the powers of integers, and overflow together. -/
theorem powerOfTen?_eq (n : Nat) : powerOfTen? n = (EngineValue.powerOfTen? n).map Int128.word := by
  apply eq_map_word_of_iff
  intro i
  rw [powerOfTen?_eq_some_iff, EngineValue.powerOfTen?_eq_some_iff, i.toInt_word]

/-- A product of words overflows exactly when the product of the integers is out of range. -/
theorem product?_word (x y : Int128) :
    product? x.word y.word = (Int128.ofInt? (x.toInt * y.toInt)).map Int128.word := by
  apply eq_map_word_of_iff
  intro i
  rw [product?_eq_some_iff, Int128.ofInt?_eq_some_iff, i.toInt_word, x.toInt_word, y.toInt_word]

/-- The remainder of words is the remainder of integers that goes with division toward zero. -/
theorem toInt_srem_word (x y : Int128) :
    (x.word.srem y.word).toInt = x.toInt.tmod y.toInt := by
  rw [BitVec.toInt_srem, x.toInt_word, y.toInt_word]

/-- Only the quotient of the least number by minus one does not fit. -/
theorem toInt_sdiv_word (x : Int128) {y : Int128} (h : y.toInt ≠ -1) :
    (x.word.sdiv y.word).toInt = x.toInt.tdiv y.toInt := by
  rw [BitVec.toInt_sdiv_of_ne_or_ne, x.toInt_word, y.toInt_word]
  right
  intro hy
  exact h (by rw [← y.toInt_word, hy]; rfl)

/-- The magnitude of a word is that of its integer, the least word apart. -/
theorem toInt_abs_word {x : Int128} (h : x.word ≠ BitVec.intMin 128) :
    x.word.abs.toInt = x.toInt.natAbs := by
  rw [BitVec.toInt_abs_eq_natAbs, if_neg h, x.toInt_word]

/-- Rescaling words is rescaling integers. -/
theorem rescale?_word (unscaled : Int128) (source target : Nat) :
    rescale? unscaled.word source target =
      (EngineValue.rescale? unscaled source target).map Int128.word := by
  unfold rescale? EngineValue.rescale?
  split
  · rw [powerOfTen?_eq]
    cases EngineValue.powerOfTen? (target - source) with
    | none => rfl
    | some factor => exact product?_word unscaled factor
  · rw [powerOfTen?_eq]
    cases hfactor : EngineValue.powerOfTen? (source - target) with
    | none => rfl
    | some factor =>
        obtain ⟨_, hten⟩ := EngineValue.powerOfTen?_eq_some_iff.mp hfactor
        have hzero : unscaled.word.srem factor.word = 0 ↔ unscaled.toInt.tmod factor.toInt = 0 := by
          rw [← BitVec.toInt_inj, toInt_srem_word]
          rfl
        have hquotient := toInt_sdiv_word unscaled (y := factor) (by omega)
        simp only [Option.map_some, Option.bind_some, Option.bind_eq_bind, hzero]
        split
        · apply eq_map_word_of_iff
          intro i
          rw [Int128.ofInt?_eq_some_iff, ← hquotient, ← i.toInt_word, BitVec.toInt_inj,
            Option.some.injEq]
          exact eq_comm
        · rfl

/-- The test of the precision on words is the one on integers. -/
theorem fitsPrecision_word (n : Int128) (precision : Nat) :
    fitsPrecision n.word precision = EngineValue.fitsPrecision n precision := by
  unfold fitsPrecision EngineValue.fitsPrecision
  rw [powerOfTen?_eq]
  cases EngineValue.powerOfTen? precision with
  | none => rfl
  | some limit =>
      by_cases hmin : n.word = BitVec.intMin 128
      · have hn : n.toInt = -0x80000000000000000000000000000000 := by
          rw [← n.toInt_word, hmin]
          rfl
        have hupper := limit.upper
        have hlarge : ¬ (n.toInt.natAbs : Int) < limit.toInt := by omega
        simp only [Option.map_some, hmin, bne_self_eq_false, Bool.false_and, decide_eq_false hlarge]
      · have habs := toInt_abs_word hmin
        rw [Bool.eq_iff_iff]
        simp only [Option.map_some, bne_iff_ne.mpr hmin, Bool.true_and, BitVec.slt_iff_toInt_lt,
          habs, limit.toInt_word, decide_eq_true_eq]

/-- What operations on words give wherever a conversion uses them: the numbers themselves. -/
structure Exact (unscaled : Int128) (source scale precision : Nat) : Prop where
  power : ∀ n power, powerOfTen? n = some power → power.toInt = tenTo n
  product : ∀ (factor : Int128) product, product? unscaled.word factor.word = some product →
    product.toInt = unscaled.toInt * factor.toInt
  remainder : ∀ n factor, powerOfTen? n = some factor →
    (unscaled.word.srem factor).toInt = unscaled.toInt.tmod (tenTo n)
  quotient : ∀ n factor, powerOfTen? n = some factor →
    (unscaled.word.sdiv factor).toInt = unscaled.toInt.tdiv (tenTo n)
  absolute : ∀ n : Int128, n.word ≠ BitVec.intMin 128 → n.word.abs.toInt = n.toInt.natAbs
  rescale : rescale? unscaled.word source scale =
    (EngineValue.rescale? unscaled source scale).map Int128.word
  fits : ∀ n : Int128, fitsPrecision n.word precision = EngineValue.fitsPrecision n precision

/-- No operation of a conversion wraps around. -/
theorem exact (unscaled : Int128) (source scale precision : Nat) :
    Exact unscaled source scale precision where
  power n power h := (powerOfTen?_eq_some_iff.mp h).2
  product factor product h := by
    rw [product?_eq_some_iff.mp h, unscaled.toInt_word, factor.toInt_word]
  remainder n factor h := by
    rw [BitVec.toInt_srem, (powerOfTen?_eq_some_iff.mp h).2, unscaled.toInt_word]
  quotient n factor h := by
    obtain ⟨i, rfl⟩ := Int128.exists_word_eq factor
    have hten := (powerOfTen?_eq_some_iff.mp h).2
    rw [i.toInt_word] at hten
    rw [toInt_sdiv_word unscaled (by omega), hten]
  absolute _ h := toInt_abs_word h
  rescale := rescale?_word unscaled source scale
  fits n := fitsPrecision_word n precision

end Words

/-! ## Values and overflow -/

namespace EngineValue

/-- The number that an unscaled value of one scale is at another. -/
def atScale (unscaled : Int128) (source target : Nat) : ℚ :=
  unscaled.toInt * tenTo target / tenTo source

/-- A number is the value at a scale when cross-multiplying the powers of ten agrees. -/
theorem eq_atScale_iff {unscaled : Int128} {source target : Nat} {n : Int} :
    (n : ℚ) = atScale unscaled source target ↔
      n * tenTo source = unscaled.toInt * tenTo target := by
  have hne : (tenTo source : ℚ) ≠ 0 := Nat.cast_ne_zero.mpr (Nat.ne_of_gt (tenTo_pos source))
  rw [atScale, eq_div_iff hne]
  norm_cast

section Overflow

variable {unscaled : Int128} {source target : Nat} {n : Int}

/-- A larger scale is out of reach only for numbers that no precision allows. -/
theorem lt_natAbs_of_rescale?_eq_none (hle : source ≤ target) (htarget : target ≤ 38)
    (hn : n * tenTo source = unscaled.toInt * tenTo target)
    (h : rescale? unscaled source target = none) : tenTo 38 < n.natAbs := by
  by_contra hsmall
  obtain ⟨i, rfl⟩ := Int128.exists_toInt_eq (Nat.le_of_not_lt hsmall)
  have hi := rescale?_eq_some_iff.mpr ⟨hn, fun _ => by omega⟩
  cases hi.symm.trans h

/-- Of the numbers that a smaller scale can write, only zero is lost on the way there. -/
theorem eq_zero_of_rescale?_eq_none (hlt : target < source)
    (hn : n * tenTo source = unscaled.toInt * tenTo target)
    (h : rescale? unscaled source target = none) : n = 0 := by
  obtain hinexact | ⟨hzero, _⟩ := (rescale?_eq_none_iff_of_lt hlt).mp h
  · exact absurd ⟨n, hn⟩ hinexact
  · rw [hzero, Int.zero_mul, Int.mul_eq_zero] at hn
    exact hn.resolve_right (tenTo_ne_zero source)

end Overflow

/-- A decimal overflows exactly when it is a number of the type's scale with too many digits. -/
theorem ofDecimal?_eq_overflow_iff {precision scale source : UInt32} {value : Literal}
    {unscaled : Int128} (hprecision : precision.toNat ≤ 38) (hscale : scale ≤ precision) :
    ofDecimal? precision scale value unscaled source =
        .error (.overflow value (.decimal precision scale)) ↔
      ∃ n : Int, n * tenTo source.toNat = unscaled.toInt * tenTo scale.toNat ∧
        tenTo precision.toNat ≤ n.natAbs := by
  obtain ⟨m, v, hm, hfits, _, hok⟩ | ⟨m, hm, hlarge, herror⟩ | ⟨hnone, herror⟩ :=
    ofDecimal?_cases hprecision scale value unscaled source
  · rw [hok]
    apply iff_of_false nofun
    rintro ⟨n, hn, hlarge⟩
    have hsame := hn.trans (rescale?_eq_some_iff.mp hm).1.symm
    obtain rfl := Int.eq_of_mul_eq_mul_right (tenTo_ne_zero source.toNat) hsame
    omega
  · exact iff_of_true herror ⟨m.toInt, (rescale?_eq_some_iff.mp hm).1, hlarge⟩
  · -- Rescaling fails for numbers that are too large on the way up, and for none on the way down.
    by_cases hlt : scale < source
    · rw [herror, if_pos hlt]
      apply iff_of_false nofun
      rintro ⟨n, hn, hlarge⟩
      obtain rfl := eq_zero_of_rescale?_eq_none (UInt32.lt_iff_toNat_lt.mp hlt) hn hnone
      exact absurd hlarge (Nat.not_le.mpr (tenTo_pos precision.toNat))
    · have hle : source.toNat ≤ scale.toNat := UInt32.le_iff_toNat_le.mp (UInt32.not_lt.mp hlt)
      have hreach : scale.toNat ≤ 38 := Nat.le_trans (UInt32.le_iff_toNat_le.mp hscale) hprecision
      obtain ⟨n, hn⟩ := exists_same_of_le unscaled.toInt hle
      have hlarge := lt_natAbs_of_rescale?_eq_none hle hreach hn hnone
      rw [herror, if_neg hlt]
      exact iff_of_true rfl ⟨n, hn, Nat.le_trans (tenTo_le_tenTo hprecision) (Nat.le_of_lt hlarge)⟩

/-- What a decimal is converted to is the number itself, an integer of the type's precision, in the
representation of that precision; narrowing to 64 bits never fails. It overflows exactly when it is
an integer with more digits. No operation on the way wraps. -/
theorem decimal_conversion_exact {precision scale : UInt32} (hprecision : precision.toNat ≤ 38)
    (hscale : scale ≤ precision) (unscaled : Int128) (source : UInt32) :
    (∀ result, ofLiteral? (.primitive (.decimal precision scale))
        (some (.decimal unscaled source)) = .ok result →
      ∃ v, result = some v ∧ ∃ n : Int, (n : ℚ) = atScale unscaled source.toNat scale.toNat ∧
        n.natAbs < tenTo precision.toNat ∧ HoldsDecimal precision n v) ∧
      (precision.toNat ≤ maxShortPrecision → ∀ n,
        rescale? unscaled source.toNat scale.toNat = some n →
        fitsPrecision n precision.toNat = true → ∃ i, Width.int64? n.toInt = some i) ∧
      (ofLiteral? (.primitive (.decimal precision scale)) (some (.decimal unscaled source)) =
          .error (.overflow (.decimal unscaled source) (.decimal precision scale)) ↔
        ∃ n : Int, (n : ℚ) = atScale unscaled source.toNat scale.toNat ∧
          tenTo precision.toNat ≤ n.natAbs) ∧
      Words.Exact unscaled source.toNat scale.toNat precision.toNat := by
  rw [ofLiteral?_decimal]
  refine ⟨?value, ?narrowed, ?overflow, Words.exact ..⟩
  case value =>
    intro result hresult
    obtain ⟨v, hv, rfl⟩ := map_eq_ok_iff.mp hresult
    obtain ⟨n, hn, hfits, hholds⟩ := (ofDecimal?_eq_ok_iff hprecision).mp hv
    exact ⟨v, rfl, n.toInt, eq_atScale_iff.mpr (rescale?_eq_some_iff.mp hn).1, hfits, hholds⟩
  case narrowed =>
    intro hshort n _ hfits
    have hdigits := (fitsPrecision_iff hprecision).mp hfits
    obtain ⟨v, hholds⟩ := exists_holdsDecimal hdigits
    cases hholds with
    | short _ i hi => exact ⟨i, Width.int64?_eq_some_iff.mpr hi⟩
    | wide hwide => exact absurd hshort (Nat.not_le.mpr hwide)
  case overflow =>
    simp only [map_eq_error_iff, ofDecimal?_eq_overflow_iff hprecision hscale, eq_atScale_iff]

/-- The least number of 128 bits has no absolute value of that width, and overflows; a number of
eighteen decimal places is still held by 64 bits. -/
theorem decimal_conversion_exact_extremes :
    ((38 : UInt32).toNat ≤ 38 ∧ (0 : UInt32) ≤ 38 ∧
      ofLiteral? (.primitive (.decimal 38 0)) (some (.decimal Int128.least 0)) =
        .error (.overflow (.decimal Int128.least 0) (.decimal 38 0)) ∧
      Words.Exact Int128.least 0 0 38) ∧
    ((18 : UInt32).toNat ≤ 38 ∧ (18 : UInt32) ≤ 18 ∧ (18 : UInt32).toNat ≤ maxShortPrecision ∧
      ofLiteral? (.primitive (.decimal 18 18)) (some (.decimal ⟨-9, by decide, by decide⟩ 1)) =
        .ok (some (.long (-900000000000000000))) ∧
      ∃ n : Int, (n : ℚ) = atScale ⟨-9, by decide, by decide⟩ 1 18 ∧ n.natAbs < tenTo 18 ∧
        HoldsDecimal 18 n (.long (-900000000000000000))) := by
  constructor
  · have h := @decimal_conversion_exact 38 0 (by decide) (by decide) Int128.least 0
    refine ⟨by decide, by decide, h.2.2.1.mpr ?_, h.2.2.2⟩
    exact ⟨Int128.least.toInt, eq_atScale_iff.mpr rfl, by decide⟩
  · have h := @decimal_conversion_exact 18 18 (by decide) (by decide)
      ⟨-9, by decide, by decide⟩ 1
    have hok : ofLiteral? (.primitive (.decimal 18 18))
        (some (.decimal ⟨-9, by decide, by decide⟩ 1)) =
          .ok (some (.long (-900000000000000000))) := rfl
    obtain ⟨v, hv, hnumber⟩ := h.1 _ hok
    obtain rfl := Option.some.inj hv
    exact ⟨by decide, by decide, by decide, hok, hnumber⟩

end EngineValue

end Partitioning
