import Partitioning.Proofs.KeyedList
import Partitioning.Proofs.PrimitiveGrammar

/-!
# The texts of primitive types

A text is read as the type that it spells in lower case and without outer blanks. Every type spells
itself, so it is read back from its text. Only the decimals that are out of bounds have spellings and
are not read, and nothing else is read as one of them.
-/

namespace Partitioning.Primitive

open Text

/-- A decimal is in bounds when it has at least one digit, at most 38, and no more of them behind
the point than in all. Any other type is. -/
def InBounds : Primitive → Prop
  | .decimal precision scale => 1 ≤ precision.toNat ∧ precision.toNat ≤ 38 ∧ scale ≤ precision
  | _ => True

/-- The test of a decimal is the condition on its precision and scale. -/
theorem inBounds_iff {precision scale : UInt32} :
    inBounds precision scale = true ↔ InBounds (.decimal precision scale) := by
  simp only [inBounds, Bool.and_eq_true, decide_eq_true_eq, and_assoc]
  rfl

/-- Characters without upper case stay as they are. -/
theorem lowerAscii_eq_self {cs : List Char} (h : cs.any Char.isUpper = false) :
    lowerAscii cs = cs := by
  have hself : ∀ c ∈ cs, c.toLower = id c := fun c hc =>
    dif_neg (of_decide_eq_false (Bool.eq_false_iff.mpr (List.any_eq_false.mp h c hc)))
  rw [lowerAscii, List.map_congr_left hself, List.map_id]

theorem isUpper_of_isDigit {c : Char} (h : c.isDigit = true) : c.isUpper = false := by
  have hdigit : c.val ≤ 57 := of_decide_eq_true (Bool.and_eq_true_iff.mp h).2
  exact decide_eq_false fun hupper => absurd (UInt32.le_trans hupper.1 hdigit) (by decide)

theorem toList_text_decimal (precision scale : UInt32) :
    (decimal precision scale).text.toList = "decimal(".toList ++
      ((Nat.toDigits 10 precision.toNat ++
        ',' :: ' ' :: Nat.toDigits 10 scale.toNat) ++ [')']) := by
  have htext : (decimal precision scale).text =
      "decimal(" ++ precision.toNat.repr ++ ", " ++ scale.toNat.repr ++ ")" := rfl
  simp [htext]

theorem toList_text_fixed (length : UInt64) :
    (fixed length).text.toList = "fixed[".toList ++ (Nat.toDigits 10 length.toNat ++ [']']) :=
  Numeral.toList_enclosed_repr "fixed[" "]" length.toNat

/-- A text between a word and a bracket is compared as it is, unless it has capitals. -/
theorem lowerAscii_trim_enclosed {before inner after : List Char} (hbefore : before ≠ [])
    (hfirst : Stripped before) (hafter : after ≠ []) (hlast : Stripped after)
    (hupper : (before ++ (inner ++ after)).any Char.isUpper = false) :
    lowerAscii (trim (before ++ (inner ++ after))) = before ++ (inner ++ after) := by
  have hstripped : Stripped (before ++ (inner ++ after)) := by
    refine ⟨?_, ?_⟩
    · rw [List.head?_append_of_ne_nil _ hbefore]
      exact hfirst.1
    · rw [List.getLast?_append_of_ne_nil _ (List.append_ne_nil_of_right_ne_nil _ hafter),
        List.getLast?_append_of_ne_nil _ hafter]
      exact hlast.2
  rw [trim_eq_self_iff.mpr hstripped, lowerAscii_eq_self hupper]

/-- The text of a type has no outer blanks and no capitals. -/
theorem lowerAscii_trim_text (p : Primitive) :
    lowerAscii (trim p.text.toList) = p.text.toList := by
  have hdigits (n : Nat) : (Nat.toDigits 10 n).any Char.isUpper = false :=
    List.any_eq_false.mpr fun c hc =>
      Bool.eq_false_iff.mp (isUpper_of_isDigit (Numeral.isDigit_of_mem hc))
  cases p with
  | decimal precision scale =>
      rw [toList_text_decimal]
      refine lowerAscii_trim_enclosed (by decide) (by decide) (by decide) (by decide) ?_
      simp only [List.any_append, List.any_cons, hdigits]
      rfl
  | fixed length =>
      rw [toList_text_fixed]
      refine lowerAscii_trim_enclosed (by decide) (by decide) (by decide) (by decide) ?_
      simp only [List.any_append, hdigits]
      rfl
  | _ => rfl

theorem blanked_toDigits (n : Nat) : Blanked (Nat.toDigits 10 n) n := by
  rw [← blankedNatural?_eq_some_iff, blankedNatural?,
    trim_eq_self_iff.mpr (Numeral.toDigits_stripped n), Numeral.natural?_toDigits]

/-- A type is shown in one of its spellings. -/
theorem spells_text (p : Primitive) : Spells p.text.toList p := by
  cases p with
  | decimal precision scale =>
      have hscale : Blanked (' ' :: Nat.toDigits 10 scale.toNat) scale.toNat := by
        rw [← blankedNatural?_eq_some_iff, blankedNatural?, trim_cons_of_blank (by decide)]
        exact blankedNatural?_eq_some_iff.mpr (blanked_toDigits scale.toNat)
      rw [toList_text_decimal]
      exact .decimal (blanked_toDigits precision.toNat) hscale
  | fixed length =>
      rw [toList_text_fixed]
      exact .fixed (blanked_toDigits length.toNat)
  | _ => exact .keyword (by decide)

variable {s : String} {p : Primitive}

/-- A spelling is read as its type, unless this is a decimal out of bounds. -/
theorem ofText_of_spells (h : Spells (lowerAscii (trim s.toList)) p) :
    (p.InBounds → ofText s = .ok p) ∧
      (¬ p.InBounds → ofText s = .error (.decimalOutOfBounds s)) := by
  unfold ofText
  generalize lowerAscii (trim s.toList) = cs at h ⊢
  cases h with
  | keyword hword =>
      have hbounds : ∀ k ∈ keywords, k.2.InBounds := by simp [keywords, InBounds]
      simp only [plain_find?_of_keyword hword]
      exact ⟨fun _ => trivial, fun hout => absurd (hbounds _ hword) hout⟩
  | decimal hleft hright =>
      have hread := decimalArguments?_eq_some_iff.mpr ⟨_, _, rfl, hleft, hright⟩
      have hword : '(' ∈ "decimal(".toList ∨ '[' ∈ "decimal(".toList := by decide
      rw [← inBounds_iff]
      simp only [plain_find?_append hword, hread]
      exact ⟨fun hin => if_pos hin, fun hout => if_neg hout⟩
  | fixed hinner =>
      have hread := fixedLength?_eq_some_iff.mpr ⟨_, rfl, hinner⟩
      have hword : '(' ∈ "fixed[".toList ∨ '[' ∈ "fixed[".toList := by decide
      simp only [plain_find?_append hword, decimalArguments?_fixed, hread]
      exact ⟨fun _ => trivial, fun hout => absurd trivial hout⟩

/-- What spells no type is unknown. -/
theorem spells_or_unknown (s : String) :
    (∃ p, Spells (lowerAscii (trim s.toList)) p) ∨ ofText s = .error (.unknown s) := by
  unfold ofText
  generalize lowerAscii (trim s.toList) = cs
  cases hword : plain.find? fun p => p.text.toList == cs with
  | some p =>
      obtain ⟨hplain, rfl⟩ := find?_key_sound hword
      have hkeyword : (p.text, p) ∈ keywords := keywords_eq ▸ List.mem_map_of_mem hplain
      exact .inl ⟨p, .keyword hkeyword⟩
  | none =>
      cases hdecimal : decimalArguments? cs with
      | some arguments =>
          obtain ⟨left, right, rfl, hleft, hright⟩ := decimalArguments?_eq_some_iff.mp hdecimal
          exact .inl ⟨_, .decimal hleft hright⟩
      | none =>
          cases hfixed : fixedLength? cs with
          | some length =>
              obtain ⟨inner, rfl, hinner⟩ := fixedLength?_eq_some_iff.mp hfixed
              exact .inl ⟨_, .fixed hinner⟩
          | none => exact .inr (by simp only [hword, hdecimal, hfixed])

/-- Every type is read back from its text, but for the decimals out of bounds. -/
theorem ofText_text (p : Primitive) :
    (p.InBounds → ofText p.text = .ok p) ∧
      (¬ p.InBounds → ofText p.text = .error (.decimalOutOfBounds p.text)) := by
  apply ofText_of_spells
  rw [lowerAscii_trim_text]
  exact spells_text p

/-- A type is read from its spellings when it is in bounds. -/
theorem ofText_eq_ok_iff :
    ofText s = .ok p ↔ Spells (lowerAscii (trim s.toList)) p ∧ p.InBounds := by
  constructor
  · intro h
    obtain ⟨q, hq⟩ | hunknown := spells_or_unknown s
    · obtain ⟨hin, hout⟩ := ofText_of_spells hq
      by_cases hbounds : q.InBounds
      · obtain rfl := Except.ok.inj (h.symm.trans (hin hbounds))
        exact ⟨hq, hbounds⟩
      · cases h.symm.trans (hout hbounds)
    · cases h.symm.trans hunknown
  · rintro ⟨hspells, hbounds⟩
    exact (ofText_of_spells hspells).1 hbounds

/-- Whatever is read is in bounds. -/
theorem ofText_sound {s : String} {p : Primitive} (h : ofText s = .ok p) : p.InBounds :=
  (ofText_eq_ok_iff.mp h).2

/-- A spelling out of bounds and a text that spells nothing are told apart. -/
theorem ofText_eq_error_iff {e : PrimitiveError} :
    ofText s = .error e ↔
      (∃ p, Spells (lowerAscii (trim s.toList)) p ∧ ¬ p.InBounds ∧ e = .decimalOutOfBounds s) ∨
        (∀ p, ¬ Spells (lowerAscii (trim s.toList)) p) ∧ e = .unknown s := by
  constructor
  · intro h
    by_cases hspelled : ∃ p, Spells (lowerAscii (trim s.toList)) p
    · obtain ⟨p, hp⟩ := hspelled
      obtain ⟨hin, hout⟩ := ofText_of_spells hp
      by_cases hbounds : p.InBounds
      · cases h.symm.trans (hin hbounds)
      · exact .inl ⟨p, hp, hbounds, Except.error.inj (h.symm.trans (hout hbounds))⟩
    · have hunknown := (spells_or_unknown s).resolve_left hspelled
      exact .inr ⟨not_exists.mp hspelled, Except.error.inj (h.symm.trans hunknown)⟩
  · rintro (⟨p, hp, hbounds, rfl⟩ | ⟨hnone, rfl⟩)
    · exact (ofText_of_spells hp).2 hbounds
    · exact (spells_or_unknown s).resolve_left (not_exists.mpr hnone)

/-- A text is read as a type exactly when it spells this type in lower case and without outer blanks,
and the type is in bounds. Of the other texts, a spelled decimal is reported as out of bounds and any
further one as unknown. A type is read back from its own text exactly when it is in bounds. -/
theorem ofText_reads_spellings :
    (∀ s p, ofText s = .ok p ↔ Spells (lowerAscii (trim s.toList)) p ∧ p.InBounds) ∧
      (∀ s e, ofText s = .error e ↔
        (∃ p, Spells (lowerAscii (trim s.toList)) p ∧ ¬ p.InBounds ∧ e = .decimalOutOfBounds s) ∨
          (∀ p, ¬ Spells (lowerAscii (trim s.toList)) p) ∧ e = .unknown s) ∧
      ∀ p, ofText p.text = .ok p ↔ p.InBounds := by
  refine ⟨fun s p => ofText_eq_ok_iff, fun s e => ofText_eq_error_iff, fun p => ?_⟩
  rw [ofText_eq_ok_iff, lowerAscii_trim_text, and_iff_right (spells_text p)]

/-- Blanks around the numbers, capitals and leading zeros; a precision of no type, and a digit that
is none of the ASCII digits. -/
example :
    ofText "	DECIMAL( 038 ,
5 ) " = .ok (.decimal 38 5) ∧
      ofText "decimal(39, 5)" = .error (.decimalOutOfBounds "decimal(39, 5)") ∧
      ofText "fixed[٣]" = .error (.unknown "fixed[٣]") := by
  decide +kernel

end Partitioning.Primitive
