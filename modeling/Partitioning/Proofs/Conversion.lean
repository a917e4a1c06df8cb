import Mathlib.Tactic.Ring
import Partitioning.Proofs.Instant
import Partitioning.Proofs.Rescaling

/-!
# Identity of converted values

A conversion keeps two literals of a type apart exactly when they stand for different values of it.
Different spellings of a decimal are one number, and all floats that are no number are one value;
every other literal stands for itself. Each type has its own encoding, which is shown to determine
what was encoded.
-/

namespace Partitioning

/-- The bytes of an identifier determine it. -/
theorem Uuid.bytes_inj {u v : Uuid} : u.bytes = v.bytes ↔ u = v := by
  cases u
  cases v
  rw [Uuid.mk.injEq]

namespace EngineValue

theorem toList_loop (bytes : ByteArray) (i : Nat) (read : List UInt8) :
    ByteArray.toList.loop bytes i read = read.reverse ++ bytes.data.toList.drop i := by
  fun_induction ByteArray.toList.loop bytes i read with
  | case1 i read hi ih =>
      have hget : bytes.get! i = bytes.data.toList[i] := getElem!_pos bytes.data i hi
      rw [ih, List.drop_eq_getElem_cons hi, hget, List.reverse_cons, List.append_assoc,
        List.singleton_append]
  | case2 i read hi =>
      rw [List.drop_eq_nil_of_le (Nat.le_of_not_lt hi), List.append_nil]

/-- The bytes of a text determine it. -/
theorem toUTF8_toList_inj {s t : String} : s.toUTF8.toList = t.toUTF8.toList ↔ s = t := by
  have hlist (bytes : ByteArray) : bytes.toList = bytes.data.toList := toList_loop bytes 0 []
  rw [hlist, hlist, Array.toList_inj, ← ByteArray.ext_iff]
  exact String.toByteArray_inj

/-- Widening keeps numbers apart. -/
theorem toInt64_inj {m n : Int32} : m.toInt64 = n.toInt64 ↔ m = n := by
  rw [← Int64.toInt_inj, Int32.toInt_toInt64, Int32.toInt_toInt64, Int32.toInt_inj]

/-- Reading bits as a signed number keeps them apart. -/
theorem toInt32_inj {a b : UInt32} : a.toInt32 = b.toInt32 ↔ a = b := by
  constructor
  · intro h
    rw [← a.toUInt32_toInt32, h, b.toUInt32_toInt32]
  · exact congrArg _

/-- Whether the bits of a float are no number. -/
def IsNaN (bits : UInt32) : Prop :=
  Binary.single.isNaN bits.toNat = true

instance (bits : UInt32) : Decidable (IsNaN bits) :=
  inferInstanceAs (Decidable (_ = true))

/-- Floats are told apart by their bits, unless both are no number. -/
theorem floatBits_eq_iff {a b : UInt32} :
    floatBits a = floatBits b ↔ a = b ∨ IsNaN a ∧ IsNaN b := by
  have hquiet : IsNaN 0x7FC00000 := by decide
  have hbits (bits : UInt32) :
      floatBits bits = (if IsNaN bits then 0x7FC00000 else bits : UInt32).toInt32.toInt64 := rfl
  rw [hbits, hbits, toInt64_inj, toInt32_inj]
  -- The bits that stand for all of them are no number either, so they stand for no other float.
  grind

section Decimals

variable {a b m n : Int} {j k scale : Nat}

/-- Numbers at one scale are equal exactly when they were equal at their own. -/
theorem same_at_scale_iff (ha : m * tenTo j = a * tenTo scale)
    (hb : n * tenTo k = b * tenTo scale) : m = n ↔ a * tenTo k = b * tenTo j := by
  have hleft : m * (tenTo j * tenTo k) = a * tenTo k * tenTo scale :=
    calc m * (tenTo j * tenTo k) = m * tenTo j * tenTo k := by ring
      _ = a * tenTo k * tenTo scale := by rw [ha]; ring
  have hright : n * (tenTo j * tenTo k) = b * tenTo j * tenTo scale :=
    calc n * (tenTo j * tenTo k) = n * tenTo k * tenTo j := by ring
      _ = b * tenTo j * tenTo scale := by rw [hb]; ring
  have hne : (tenTo j * tenTo k : Int) ≠ 0 :=
    Int.mul_ne_zero (tenTo_ne_zero j) (tenTo_ne_zero k)
  rw [← Int.mul_eq_mul_right_iff hne, hleft, hright, Int.mul_eq_mul_right_iff (tenTo_ne_zero scale)]

variable {precision : UInt32} {v w : EngineValue}

/-- Values of one decimal type are equal exactly when they hold the same number. -/
theorem HoldsDecimal.eq_iff (hv : HoldsDecimal precision m v) (hw : HoldsDecimal precision n w) :
    v = w ↔ m = n := by
  cases hv with
  | short hshort i hi =>
      cases hw with
      | short _ i' hi' => rw [EngineValue.long.injEq, ← hi, ← hi', Int64.toInt_inj]
      | wide hwide => exact absurd hshort (Nat.not_le.mpr hwide)
  | wide hwide i hi =>
      cases hw with
      | short hshort => exact absurd hshort (Nat.not_le.mpr hwide)
      | wide _ i' hi' => rw [EngineValue.int128.injEq, ← hi, ← hi', Int128.toInt_inj]

end Decimals

/-- What literals are converted to, type by type. -/
inductive Converts : Primitive → Literal → EngineValue → Prop where
  | boolean (b : Bool) : Converts .boolean (.boolean b) (.boolean b)
  | int (n : Int32) : Converts .int (.int n) (.long n.toInt64)
  | long (n : Int64) : Converts .long (.long n) (.long n)
  | float (bits : UInt32) : Converts .float (.float bits) (.long (floatBits bits))
  | double (bits : UInt64) : Converts .double (.double bits) (.double bits)
  | decimal {precision scale source : UInt32} {unscaled : Int128} {n : Int} {v : EngineValue}
      (same : n * tenTo source.toNat = unscaled.toInt * tenTo scale.toNat)
      (holds : HoldsDecimal precision n v) :
      Converts (.decimal precision scale) (.decimal unscaled source) v
  | string (s : String) : Converts .string (.string s) (.slice s.toUTF8.toList)
  | binary (bytes : List UInt8) : Converts .binary (.binary bytes) (.slice bytes)
  | date (days : Int32) : Converts .date (.int days) (.long days.toInt64)
  | time {micros picos : Int64} (same : picos.toInt = micros.toInt * 1000000) :
      Converts .time (.long micros) (.long picos)
  | timestamp (micros : Int64) : Converts .timestamp (.long micros) (.long micros)
  | timestamptz (micros : Int64) : Converts .timestamptz (.long micros) (ofMicros micros)
  | uuid (u : Uuid) : Converts .uuid (.uuid u) (.slice u.bytes)

/-- What a decimal is converted to holds the rescaled number. -/
theorem holdsDecimal_of_ofDecimal? {precision scale source : UInt32} {value : Literal}
    {unscaled : Int128} {v : EngineValue}
    (h : ofDecimal? precision scale value unscaled source = .ok v) :
    ∃ n, rescale? unscaled source.toNat scale.toNat = some n ∧ HoldsDecimal precision n.toInt v := by
  unfold ofDecimal? at h
  split at h
  · cases h
  · next n hn =>
      refine ⟨n, hn, ?_⟩
      split at h
      · cases h
      · split at h
        · next hshort =>
            split at h
            · next i hi =>
                cases h
                exact .short hshort i (Width.int64?_eq_some_iff.mp hi)
            · cases h
        · next hwide =>
            cases h
            exact .wide (Nat.lt_of_not_le hwide) n rfl

theorem ofPrimitive?_time (micros : Int64) :
    ofPrimitive? .time (.long micros) =
      match Width.int64? (micros.toInt * 1000000) with
      | some picos => .ok (.long picos)
      | none => .error (.overflow (.long micros) .time) :=
  rfl

/-- Every conversion that succeeds is one of those listed. -/
theorem converts_of_ofPrimitive? {type : Primitive} {a : Literal} {v : EngineValue}
    (h : ofPrimitive? type a = .ok v) : Converts type a v := by
  cases type with
  | decimal precision scale =>
      cases a with
      | decimal unscaled source =>
          obtain ⟨n, hn, hholds⟩ := holdsDecimal_of_ofDecimal? h
          exact .decimal (rescale?_eq_some_iff.mp hn).1 hholds
      | _ => cases h
  | time =>
      cases a with
      | long micros =>
          rw [ofPrimitive?_time] at h
          split at h
          · next hpicos =>
              cases h
              exact .time (Width.int64?_eq_some_iff.mp hpicos)
          · cases h
      | _ => cases h
  | boolean | int | long | float | double | date | timestamp | timestamptz | string | uuid
  | fixed | binary =>
      -- A literal of another kind is refused, one of the type's own kind encoded as it stands.
      cases a <;> cases h <;> constructor

/-- Whether two literals stand for the same value of a type: decimals for the same number, floats for
the same bits or both for no number, and literals of the other types for themselves. -/
def SameValue : Primitive → Literal → Literal → Prop
  | .decimal _ _, .decimal a j, .decimal b k => a.toInt * tenTo k.toNat = b.toInt * tenTo j.toNat
  | .float, .float a, .float b => a = b ∨ IsNaN a ∧ IsNaN b
  | .double, .double a, .double b => a = b
  | _, a, b => a = b

/-- Each encoding keeps apart what differs as a value of the type, and nothing else. -/
theorem Converts.eq_iff {type : Primitive} {a b : Literal} {v w : EngineValue}
    (ha : Converts type a v) (hb : Converts type b w) : v = w ↔ SameValue type a b := by
  cases ha with
  | boolean | long | double | timestamp | binary =>
      cases hb
      simp [SameValue]
  | int | date =>
      cases hb
      simp [SameValue, toInt64_inj]
  | float =>
      cases hb
      simp [SameValue, floatBits_eq_iff]
  | decimal hsame hholds =>
      cases hb with
      | decimal hsame' hholds' =>
          exact (hholds.eq_iff hholds').trans (same_at_scale_iff hsame hsame')
  | string =>
      cases hb
      simp only [SameValue, slice.injEq, Literal.string.injEq, toUTF8_toList_inj]
  | time hpicos =>
      cases hb with
      | time hpicos' =>
          simp only [SameValue, EngineValue.long.injEq, Literal.long.injEq, ← Int64.toInt_inj]
          omega
  | timestamptz =>
      cases hb
      simp [SameValue, ofMicros_inj]
  | uuid =>
      cases hb
      simp [SameValue, Uuid.bytes_inj]

/-- Of two literals that a primitive type accepts, the engine values are equal exactly when the
literals stand for the same value of the type. -/
theorem conversion_identifies {type : Primitive} {a b : Literal} {v w : Option EngineValue}
    (ha : ofLiteral? (.primitive type) (some a) = .ok v)
    (hb : ofLiteral? (.primitive type) (some b) = .ok w) : v = w ↔ SameValue type a b := by
  obtain ⟨x, hx, rfl⟩ := map_eq_ok_iff.mp ha
  obtain ⟨y, hy, rfl⟩ := map_eq_ok_iff.mp hb
  rw [Option.some.injEq]
  exact (converts_of_ofPrimitive? hx).eq_iff (converts_of_ofPrimitive? hy)

/-- Two spellings of a decimal are one value, and so are two floats that are no number. The two
zeros of a float are two values. -/
theorem conversion_identifies_spellings :
    (ofLiteral? (.primitive (.decimal 10 3)) (some (.decimal ⟨-123, by decide, by decide⟩ 1)) =
        .ok (some (.long (-12300))) ∧
      ofLiteral? (.primitive (.decimal 10 3)) (some (.decimal ⟨-1230, by decide, by decide⟩ 2)) =
        .ok (some (.long (-12300))) ∧
      SameValue (.decimal 10 3) (.decimal ⟨-123, by decide, by decide⟩ 1)
        (.decimal ⟨-1230, by decide, by decide⟩ 2)) ∧
    (ofLiteral? (.primitive .float) (some (.float 0x7FC00001)) = .ok (some (.long 0x7FC00000)) ∧
      ofLiteral? (.primitive .float) (some (.float 0xFF800002)) = .ok (some (.long 0x7FC00000)) ∧
      SameValue .float (.float 0x7FC00001) (.float 0xFF800002)) ∧
    (ofLiteral? (.primitive .float) (some (.float 0)) = .ok (some (.long 0)) ∧
      ofLiteral? (.primitive .float) (some (.float 0x80000000)) =
        .ok (some (.long (-0x80000000))) ∧
      ¬ SameValue .float (.float 0) (.float 0x80000000)) := by
  refine ⟨?decimals, ?noNumbers, ?zeros⟩
  case decimals =>
    have hone : ofLiteral? (.primitive (.decimal 10 3))
        (some (.decimal ⟨-123, by decide, by decide⟩ 1)) = .ok (some (.long (-12300))) := rfl
    have htwo : ofLiteral? (.primitive (.decimal 10 3))
        (some (.decimal ⟨-1230, by decide, by decide⟩ 2)) = .ok (some (.long (-12300))) := rfl
    exact ⟨hone, htwo, (conversion_identifies hone htwo).mp rfl⟩
  case noNumbers =>
    have hquiet : ofLiteral? (.primitive .float) (some (.float 0x7FC00001)) =
        .ok (some (.long 0x7FC00000)) := rfl
    have hsignalling : ofLiteral? (.primitive .float) (some (.float 0xFF800002)) =
        .ok (some (.long 0x7FC00000)) := rfl
    exact ⟨hquiet, hsignalling, (conversion_identifies hquiet hsignalling).mp rfl⟩
  case zeros =>
    have hplus : ofLiteral? (.primitive .float) (some (.float 0)) = .ok (some (.long 0)) := rfl
    have hminus : ofLiteral? (.primitive .float) (some (.float 0x80000000)) =
        .ok (some (.long (-0x80000000))) := rfl
    exact ⟨hplus, hminus, mt (conversion_identifies hplus hminus).mpr (by decide)⟩

end EngineValue

end Partitioning
