import Mathlib.Data.List.DropRight
import Partitioning.Text.Blank
import Partitioning.Text.Enclosed
import Partitioning.Text.Numeral

/-!
# Blanks, cuts and numerals

What the small text functions return, said of the text itself. A stripped text is what trimming
leaves; a cut is undone by writing the separator back; a numeral is an optional sign and decimal
digits, and the digits of a number read back as that number.
-/

namespace Partitioning.Text

/-- A text with no blank at either end. -/
def Stripped (cs : List Char) : Prop :=
  (∀ c ∈ cs.head?, isBlank c = false) ∧ ∀ c ∈ cs.getLast?, isBlank c = false

theorem trim_prefix_dropBlanks (cs : List Char) : trim cs <+: dropBlanks cs :=
  List.rdropWhile_prefix isBlank (dropBlanks cs)

theorem mem_of_mem_trim {c : Char} {cs : List Char} (h : c ∈ trim cs) : c ∈ cs :=
  List.dropWhile_subset _ ((trim_prefix_dropBlanks cs).subset h)

/-- Nothing is left exactly when all characters are blank. -/
theorem trim_eq_nil_iff {cs : List Char} : trim cs = [] ↔ allBlank cs = true := by
  constructor
  · intro h
    have hall : ∀ c ∈ dropBlanks cs, isBlank c = true := List.rdropWhile_eq_nil_iff.mp h
    cases hd : dropBlanks cs with
    | nil => simpa [dropBlanks, allBlank] using hd
    | cons c rest =>
        have hnot := List.head?_dropWhile_not isBlank cs
        have hblank := hall c (by simp [hd])
        simp only [← dropBlanks.eq_def, hd, List.head?_cons] at hnot
        rw [hnot] at hblank
        contradiction
  · intro h
    have hd : dropBlanks cs = [] := by simpa [dropBlanks, allBlank] using h
    rw [trim, hd]
    rfl

/-- What is left begins and ends with no blank. -/
theorem trim_stripped (cs : List Char) : Stripped (trim cs) := by
  constructor
  · intro c hc
    obtain ⟨rest, hr⟩ : ∃ rest, dropBlanks cs = c :: rest := by
      obtain ⟨tail, ht⟩ := trim_prefix_dropBlanks cs
      obtain ⟨init, hi⟩ := List.head?_eq_some_iff.mp hc
      exact ⟨init ++ tail, by rw [← ht, hi, List.cons_append]⟩
    have hnot := List.head?_dropWhile_not isBlank cs
    simpa only [← dropBlanks.eq_def, hr, List.head?_cons] using hnot
  · intro c hc
    have hne : trim cs ≠ [] := by
      intro h
      rw [h] at hc
      cases hc
    have hlast := List.rdropWhile_last_not isBlank (dropBlanks cs) hne
    have hget : (trim cs).getLast hne = c :=
      Option.some.inj ((List.getLast?_eq_some_getLast hne).symm.trans hc)
    change ¬ isBlank ((trim cs).getLast hne) = true at hlast
    rw [hget] at hlast
    exact Bool.eq_false_iff.mpr hlast

/-- Trimming changes exactly the texts with an outer blank. -/
theorem trim_eq_self_iff {cs : List Char} : trim cs = cs ↔ Stripped cs := by
  constructor
  · intro h
    exact h ▸ trim_stripped cs
  · rintro ⟨hfirst, hlast⟩
    have hd : dropBlanks cs = cs := by
      cases cs with
      | nil => rfl
      | cons c rest => simp [dropBlanks, hfirst c rfl]
    have hr : cs.rdropWhile isBlank = cs := by
      apply List.rdropWhile_eq_self_iff.mpr
      intro hne
      simp [hlast _ (List.getLast?_eq_some_getLast hne)]
    calc
      trim cs = (dropBlanks cs).rdropWhile isBlank := rfl
      _ = cs := by rw [hd, hr]

instance (cs : List Char) : Decidable (Stripped cs) :=
  decidable_of_iff _ trim_eq_self_iff

@[simp] theorem trim_trim (cs : List Char) : trim (trim cs) = trim cs :=
  trim_eq_self_iff.mpr (trim_stripped cs)

/-- Blanks in front do not matter. -/
theorem trim_append_left {left : List Char} (h : allBlank left = true) (cs : List Char) :
    trim (left ++ cs) = trim cs := by
  have hleft : ∀ c ∈ left, isBlank c = true := List.all_eq_true.mp h
  have hdrop : dropBlanks (left ++ cs) = dropBlanks cs := List.dropWhile_append_of_pos hleft
  rw [trim, trim, hdrop]

/-- Blanks at the end do not matter. -/
theorem trim_append_right (cs : List Char) {right : List Char} (h : allBlank right = true) :
    trim (cs ++ right) = trim cs := by
  have hright : ∀ c ∈ right.reverse, isBlank c = true := fun c hc =>
    List.all_eq_true.mp h c (List.mem_reverse.mp hc)
  cases hcs : dropBlanks cs with
  | nil =>
      have hblank : allBlank cs = true := by simpa [dropBlanks, allBlank] using hcs
      rw [trim_append_left hblank, trim_eq_nil_iff.mpr h, trim_eq_nil_iff.mpr hblank]
  | cons c rest =>
      have hdrop : dropBlanks (cs ++ right) = dropBlanks cs ++ right := by
        rw [dropBlanks, List.dropWhile_append, ← dropBlanks, hcs]
        rfl
      rw [trim, hdrop, List.reverse_append, dropBlanks, List.dropWhile_append_of_pos hright]
      rfl

theorem trim_cons_of_blank {c : Char} (h : isBlank c = true) (cs : List Char) :
    trim (c :: cs) = trim cs := by
  have hblank : allBlank [c] = true := by simpa [allBlank] using h
  exact trim_append_left hblank cs

/-- A text is what trimming leaves of it between two runs of blanks. -/
theorem exists_blanks_around (cs : List Char) :
    ∃ left right, allBlank left = true ∧ allBlank right = true ∧ cs = left ++ (trim cs ++ right) := by
  refine ⟨cs.takeWhile isBlank, (dropBlanks cs).rtakeWhile isBlank, List.all_takeWhile, ?_, ?_⟩
  · exact List.all_eq_true.mpr fun _ hc => List.mem_rtakeWhile_imp hc
  · have hdrop : trim cs ++ (dropBlanks cs).rtakeWhile isBlank = dropBlanks cs :=
      List.rdropWhile_append_rtakeWhile
    rw [hdrop]
    exact List.takeWhile_append_dropWhile.symm

/-- What stands between two texts is found exactly when both are there without overlap. -/
theorem between?_eq_some_iff {before after cs inner : List Char} :
    between? before after cs = some inner ↔ cs = before ++ (inner ++ after) := by
  simp only [between?, Option.bind_eq_some_iff, List.isPrefixOf?_eq_some_iff_append_eq,
    List.isSuffixOf?_eq_some_iff_append_eq]
  constructor
  · rintro ⟨rest, rfl, rfl⟩
    rfl
  · rintro rfl
    exact ⟨_, rfl, rfl⟩

/-- A text is not cut exactly when the character is not in it. -/
theorem cutAt?_eq_none_iff {c : Char} {cs : List Char} : cutAt? c cs = none ↔ c ∉ cs := by
  induction cs with
  | nil => simp [cutAt?]
  | cons x rest ih =>
      by_cases hx : x = c
      · simp [cutAt?, hx]
      · simp [cutAt?, hx, ih, Ne.symm hx]

/-- A text is cut at the first occurrence. -/
theorem cutAt?_append {c : Char} {before : List Char} (h : c ∉ before) (after : List Char) :
    cutAt? c (before ++ c :: after) = some (before, after) := by
  induction before with
  | nil => simp [cutAt?]
  | cons x rest ih =>
      obtain ⟨hx, hrest⟩ := List.ne_and_not_mem_of_not_mem_cons h
      simp [cutAt?, Ne.symm hx, ih hrest]

/-- The cut is at the first separator. -/
theorem cutAt?_eq_some_iff {c : Char} {cs before after : List Char} :
    cutAt? c cs = some (before, after) ↔ c ∉ before ∧ cs = before ++ c :: after := by
  constructor
  · intro h
    induction cs generalizing before with
    | nil => cases h
    | cons x rest ih =>
        by_cases hx : x = c
        · simp only [cutAt?, if_pos hx, Option.some.injEq, Prod.mk.injEq] at h
          obtain ⟨rfl, rfl⟩ := h
          simp [hx]
        · simp only [cutAt?, if_neg hx, Option.map_eq_some_iff, Prod.mk.injEq] at h
          obtain ⟨⟨front, back⟩, hcut, rfl, rfl⟩ := h
          obtain ⟨hmem, rfl⟩ := ih hcut
          simp [hmem, Ne.symm hx]
  · rintro ⟨h, rfl⟩
    exact cutAt?_append h after

namespace Numeral

/-- Digits are not taken off with the blanks. -/
theorem isBlank_of_isDigit {c : Char} (h : c.isDigit = true) : isBlank c = false := by
  have hd : 48 ≤ c.toNat ∧ c.toNat ≤ 57 := by
    simpa [Char.isDigit, UInt32.le_iff_toNat_le] using h
  simp only [isBlank, Bool.or_eq_false_iff, Bool.and_eq_false_iff, decide_eq_false_iff_not,
    beq_eq_false_iff_ne]
  omega

theorem isDigit_of_mem {c : Char} {n : Nat} (h : c ∈ Nat.toDigits 10 n) : c.isDigit = true :=
  Nat.isDigit_of_mem_toDigits (by decide) (by decide) h

/-- A run of decimal digits, at least one. -/
structure Digits (cs : List Char) : Prop where
  nonempty : cs ≠ []
  areDigits : ∀ c ∈ cs, c.isDigit = true

/-- The number that a run of decimal digits stands for, the most significant digit first. -/
def value (digits : List Char) : Nat := Nat.ofDigitChars 10 digits 0

/-- The number that an optional sign and decimal digits stand for. -/
inductive Denotes : List Char → Int → Prop where
  | bare {digits : List Char} : Digits digits → Denotes digits (value digits)
  | plus {digits : List Char} : Digits digits → Denotes ('+' :: digits) (value digits)
  | minus {digits : List Char} : Digits digits → Denotes ('-' :: digits) (-value digits)

/-- A number is read from its digits, with leading zeros or without. -/
theorem natural?_eq_some_iff {cs : List Char} {n : Nat} :
    natural? cs = some n ↔ Digits cs ∧ value cs = n := by
  unfold natural?
  split
  · next h =>
      rw [Option.some.injEq, value, iff_and_self]
      exact fun _ => ⟨h.1, List.all_eq_true.mp h.2⟩
  · next h =>
      apply iff_of_false (by simp)
      rintro ⟨hdigits, _⟩
      exact h ⟨hdigits.nonempty, List.all_eq_true.mpr hdigits.areDigits⟩

/-- A sign is no digit. -/
theorem Digits.head_ne {c sign : Char} {cs : List Char} (h : Digits (c :: cs))
    (hsign : sign.isDigit = false) : c ≠ sign := by
  rintro rfl
  rw [h.areDigits c List.mem_cons_self] at hsign
  contradiction

/-- A plus sign may stand before the digits. -/
theorem unsigned?_eq_some_iff {cs : List Char} {n : Nat} :
    unsigned? cs = some n ↔
      ∃ digits, (cs = digits ∨ cs = '+' :: digits) ∧ Digits digits ∧ value digits = n := by
  unfold unsigned?
  split
  · next cs =>
      rw [natural?_eq_some_iff]
      constructor
      · intro h
        exact ⟨cs, .inr rfl, h⟩
      · rintro ⟨digits, rfl | h, hdigits, hvalue⟩
        · exact absurd rfl (hdigits.head_ne (by decide))
        · obtain rfl := (List.cons.inj h).2
          exact ⟨hdigits, hvalue⟩
  · next hplus =>
      rw [natural?_eq_some_iff]
      constructor
      · intro h
        exact ⟨cs, .inl rfl, h⟩
      · rintro ⟨digits, rfl | rfl, h⟩
        · exact h
        · exact absurd rfl (hplus digits)

/-- The signed reader reads exactly the numerals with an optional sign. -/
theorem signed?_eq_some_iff {cs : List Char} {n : Int} : signed? cs = some n ↔ Denotes cs n := by
  unfold signed?
  split
  · next cs =>
      simp only [Option.map_eq_some_iff, Option.bind_eq_bind, Option.bind_eq_some_iff,
        Option.pure_def, Option.some.injEq, natural?_eq_some_iff]
      constructor
      · rintro ⟨_, ⟨_, ⟨hdigits, rfl⟩, rfl⟩, rfl⟩
        exact .minus hdigits
      · intro h
        cases h with
        | bare hdigits => exact absurd rfl (hdigits.head_ne (by decide))
        | minus hdigits => exact ⟨_, ⟨_, ⟨hdigits, rfl⟩, rfl⟩, rfl⟩
  · next hminus =>
      simp only [Option.map_id_fun', id_eq, Option.bind_eq_bind, Option.bind_eq_some_iff,
        Option.pure_def, Option.some.injEq, unsigned?_eq_some_iff]
      constructor
      · rintro ⟨_, ⟨digits, rfl | rfl, hdigits, rfl⟩, rfl⟩
        · exact .bare hdigits
        · exact .plus hdigits
      · intro h
        cases h with
        | bare hdigits => exact ⟨_, ⟨_, .inl rfl, hdigits, rfl⟩, rfl⟩
        | plus hdigits => exact ⟨_, ⟨_, .inr rfl, hdigits, rfl⟩, rfl⟩
        | minus hdigits => exact absurd rfl (hminus _)

theorem Digits.stripped {cs : List Char} (h : Digits cs) : Stripped cs :=
  ⟨fun _ hc => isBlank_of_isDigit (h.areDigits _ (List.mem_of_mem_head? hc)),
    fun _ hc => isBlank_of_isDigit (h.areDigits _ (List.mem_of_mem_getLast? hc))⟩

theorem digits_toDigits (n : Nat) : Digits (Nat.toDigits 10 n) :=
  ⟨Nat.toDigits_ne_nil, fun _ hc => isDigit_of_mem hc⟩

theorem toDigits_stripped (n : Nat) : Stripped (Nat.toDigits 10 n) :=
  (digits_toDigits n).stripped

/-- The digits of a number have its value. -/
theorem value_toDigits (n : Nat) : value (Nat.toDigits 10 n) = n :=
  Nat.ofDigitChars_ten_toDigits

/-- A number that is written between two texts stands there as its digits. -/
theorem toList_enclosed_repr (before after : String) (n : Nat) :
    (before ++ n.repr ++ after).toList = before.toList ++ (Nat.toDigits 10 n ++ after.toList) := by
  simp

/-- A number is read back from its digits. -/
theorem natural?_toDigits (n : Nat) : natural? (Nat.toDigits 10 n) = some n :=
  natural?_eq_some_iff.mpr ⟨digits_toDigits n, value_toDigits n⟩

/-- The digits of a number carry no sign, so the signed reader takes them as they are. -/
theorem signed?_toDigits (n : Nat) : signed? (Nat.toDigits 10 n) = some (n : Int) := by
  have hdenotes := Denotes.bare (digits_toDigits n)
  rw [value_toDigits] at hdenotes
  exact signed?_eq_some_iff.mpr hdenotes

end Numeral

end Partitioning.Text
