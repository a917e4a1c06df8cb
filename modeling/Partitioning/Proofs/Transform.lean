import Partitioning.Proofs.Declaration
import Partitioning.Proofs.KeyedList

/-!
# The texts of transforms

A transform is spelled by its keyword, or by a keyword with a positive number in brackets, which may
have a plus sign and leading zeros. A text is read as the transform that it spells. Every transform
spells itself, unless its parameter is zero: then its text spells nothing.
-/

namespace Partitioning.Transform

open Text

/-- The transforms that are spelled by a keyword alone. -/
def keywords : List (String × Transform) :=
  [("identity", .identity), ("year", .year), ("month", .month), ("day", .day), ("hour", .hour),
    ("void", .void)]

/-- The spellings of a positive number of 32 bits: ASCII digits, at least one, with or without a plus
sign. -/
inductive SpellsParameter : List Char → UInt32 → Prop where
  | bare {digits : List Char} {n : UInt32} : Numeral.Digits digits →
      Numeral.value digits = n.toNat → n ≠ 0 → SpellsParameter digits n
  | plus {digits : List Char} {n : UInt32} : Numeral.Digits digits →
      Numeral.value digits = n.toNat → n ≠ 0 → SpellsParameter ('+' :: digits) n

/-- The spellings of a transform. Letter case matters, and there are no blanks. -/
inductive Spells : List Char → Transform → Prop where
  | keyword {word : String} {t : Transform} : (word, t) ∈ keywords → Spells word.toList t
  | bucket {inner : List Char} {n : UInt32} :
      SpellsParameter inner n → Spells ("bucket[".toList ++ (inner ++ [']'])) (.bucket n)
  | truncate {inner : List Char} {w : UInt32} :
      SpellsParameter inner w → Spells ("truncate[".toList ++ (inner ++ [']'])) (.truncate w)

/-- A parameter is read exactly from its spellings. -/
theorem parameter?_eq_some_iff {cs : List Char} {n : UInt32} :
    parameter? cs = some n ↔ SpellsParameter cs n := by
  unfold parameter?
  constructor
  · intro h
    split at h
    · next m hread =>
        split at h
        · cases h
        · next hpos =>
            obtain rfl := Option.some.inj h
            obtain ⟨k, hnumeral, hfits⟩ := Option.bind_eq_some_iff.mp hread
            obtain rfl := Width.uint32?_eq_some_iff.mp hfits
            obtain ⟨digits, rfl | rfl, hdigits, hvalue⟩ :=
              Numeral.unsigned?_eq_some_iff.mp hnumeral
            · exact .bare hdigits hvalue hpos
            · exact .plus hdigits hvalue hpos
    · cases h
  · intro h
    have hfits : Width.uint32? n.toNat = some n := Width.uint32?_eq_some_iff.mpr rfl
    obtain ⟨hnumeral, hpos⟩ : Numeral.unsigned? cs = some n.toNat ∧ n ≠ 0 := by
      rw [Numeral.unsigned?_eq_some_iff]
      cases h with
      | bare hdigits hvalue hpos => exact ⟨⟨_, .inl rfl, hdigits, hvalue⟩, hpos⟩
      | plus hdigits hvalue hpos => exact ⟨⟨_, .inr rfl, hdigits, hvalue⟩, hpos⟩
    rw [hnumeral, Option.bind_some, hfits]
    exact if_neg hpos

theorem keywords_eq : keywords = plain.map fun t => (t.text, t) :=
  rfl

theorem plain_find?_eq_some_iff {word : String} {t : Transform} :
    plain.find? (fun u => u.text == word) = some t ↔ (word, t) ∈ keywords := by
  have hdistinct : (plain.map text).Nodup := by decide
  rw [find?_key_eq_some_iff hdistinct, keywords_eq, mem_map_keyed_iff]

/-- A text with a bracket is no keyword. -/
theorem plain_find?_of_bracket {s : String} (h : '[' ∈ s.toList) :
    plain.find? (fun t => t.text == s) = none := by
  have hplain : ∀ t ∈ plain, '[' ∉ t.text.toList := by decide
  refine List.find?_eq_none.mpr fun t ht heq => hplain t ht ?_
  rw [eq_of_beq heq]
  exact h

theorem between?_bucket_truncate (rest : List Char) :
    between? "bucket[".toList [']'] ("truncate[".toList ++ rest) = none :=
  rfl

variable {s : String} {t : Transform}

/-- Every spelling of a transform is read as this transform. -/
theorem ofText_of_spells (h : Spells s.toList t) : ofText s = .ok t := by
  unfold ofText
  generalize hcs : s.toList = cs at h
  cases h with
  | keyword hword =>
      obtain rfl := String.toList_inj.mp hcs
      rw [plain_find?_eq_some_iff.mpr hword]
  | bucket hinner =>
      have hbracket : '[' ∈ s.toList := hcs ▸ List.mem_append_left _ (by decide)
      have hbetween := between?_eq_some_iff.mpr hcs
      simp only [plain_find?_of_bracket hbracket, ← hcs, hbetween,
        parameter?_eq_some_iff.mpr hinner]
  | truncate hinner =>
      have hbracket : '[' ∈ s.toList := hcs ▸ List.mem_append_left _ (by decide)
      have hbetween := between?_eq_some_iff.mpr hcs
      rw [hcs] at hbetween
      simp only [plain_find?_of_bracket hbracket, between?_bucket_truncate, hbetween,
        parameter?_eq_some_iff.mpr hinner]

/-- Nothing else is read. -/
theorem spells_of_ofText (h : ofText s = .ok t) : Spells s.toList t := by
  unfold ofText at h
  split at h
  · next u hword =>
      obtain rfl := Except.ok.inj h
      exact .keyword (plain_find?_eq_some_iff.mp hword)
  · cases hbucket : between? "bucket[".toList [']'] s.toList with
    | some inner =>
        simp only [hbucket] at h
        rw [between?_eq_some_iff.mp hbucket]
        split at h
        · next n hparameter =>
            obtain rfl := Except.ok.inj h
            exact .bucket (parameter?_eq_some_iff.mp hparameter)
        · cases h
    | none =>
        simp only [hbucket] at h
        cases htruncate : between? "truncate[".toList [']'] s.toList with
        | some inner =>
            simp only [htruncate] at h
            rw [between?_eq_some_iff.mp htruncate]
            split at h
            · next w hparameter =>
                obtain rfl := Except.ok.inj h
                exact .truncate (parameter?_eq_some_iff.mp hparameter)
            · cases h
        | none =>
            simp only [htruncate] at h
            cases h

/-- A text is read as a transform exactly when it spells it. -/
theorem ofText_eq_ok_iff : ofText s = .ok t ↔ Spells s.toList t :=
  ⟨spells_of_ofText, ofText_of_spells⟩

theorem toList_text_bucket (n : UInt32) :
    (bucket n).text.toList = "bucket[".toList ++ (Nat.toDigits 10 n.toNat ++ [']']) :=
  Numeral.toList_enclosed_repr "bucket[" "]" n.toNat

theorem toList_text_truncate (w : UInt32) :
    (truncate w).text.toList = "truncate[".toList ++ (Nat.toDigits 10 w.toNat ++ [']']) :=
  Numeral.toList_enclosed_repr "truncate[" "]" w.toNat

theorem spellsParameter_toDigits {n : UInt32} (h : n ≠ 0) :
    SpellsParameter (Nat.toDigits 10 n.toNat) n :=
  .bare (Numeral.digits_toDigits n.toNat) (Numeral.value_toDigits n.toNat) h

/-- A transform with a positive parameter is stored in one of its spellings. -/
theorem spells_text (h : t.Positive) : Spells t.text.toList t := by
  cases t with
  | bucket n => exact toList_text_bucket n ▸ .bucket (spellsParameter_toDigits h)
  | truncate w => exact toList_text_truncate w ▸ .truncate (spellsParameter_toDigits h)
  | identity | year | month | day | hour | void => exact .keyword (by decide)

/-- A transform is read back from its text exactly when its parameter is not zero, and nothing else
is read from this text. -/
theorem ofText_text_eq_ok_iff {u : Transform} : ofText t.text = .ok u ↔ u = t ∧ t.Positive := by
  constructor
  · intro h
    have hpos : t.Positive := by
      cases t with
      | bucket n | truncate n =>
          rintro rfl
          cases h
      | identity | year | month | day | hour | void => trivial
    exact ⟨Except.ok.inj (h.symm.trans (ofText_of_spells (spells_text hpos))), hpos⟩
  · rintro ⟨rfl, hpos⟩
    exact ofText_of_spells (spells_text hpos)

/-- A sign and leading zeros; a zero, a number of 33 bits, another sign and a capital. -/
example :
    ofText "bucket[+0016]" = .ok (.bucket 16) ∧
      ofText "truncate[00]" = .error (.truncateParameter "00") ∧
      ofText "bucket[4294967296]" = .error (.bucketParameter "4294967296") ∧
      ofText "bucket[-1]" = .error (.bucketParameter "-1") ∧
      ofText "Day" = .error (.unsupported "Day") := by
  decide +kernel

end Partitioning.Transform
