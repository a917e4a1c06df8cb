import Partitioning.Primitive
import Partitioning.Proofs.Text
import Partitioning.Proofs.Width

/-!
# The grammar of primitive types

A type is spelled by its keyword, or by a keyword with numerals in brackets, which may have leading
zeros and blanks around them. The grammar says which type is meant, also for a decimal that no value
can have. What stands between the brackets is read by this grammar.
-/

namespace Partitioning.Primitive

open Text

/-- The types that are spelled by a keyword alone. -/
def keywords : List (String × Primitive) :=
  [("boolean", .boolean), ("int", .int), ("long", .long), ("float", .float), ("double", .double),
    ("date", .date), ("time", .time), ("timestamp", .timestamp), ("timestamptz", .timestamptz),
    ("string", .string), ("uuid", .uuid), ("binary", .binary)]

/-- A number in ASCII digits, at least one, with any blanks around them. -/
inductive Blanked : List Char → Nat → Prop where
  | digits {left digits right : List Char} : allBlank left = true → Numeral.Digits digits →
      allBlank right = true → Blanked (left ++ (digits ++ right)) (Numeral.value digits)

/-- The lower-case spellings of a type without outer blanks. -/
inductive Spells : List Char → Primitive → Prop where
  | keyword {word : String} {p : Primitive} : (word, p) ∈ keywords → Spells word.toList p
  | decimal {left right : List Char} {precision scale : UInt32} :
      Blanked left precision.toNat → Blanked right scale.toNat →
      Spells ("decimal(".toList ++ ((left ++ ',' :: right) ++ [')'])) (.decimal precision scale)
  | fixed {inner : List Char} {length : UInt64} :
      Blanked inner length.toNat → Spells ("fixed[".toList ++ (inner ++ [']'])) (.fixed length)

theorem keywords_eq : keywords = plain.map fun p => (p.text, p) :=
  rfl

/-- A word with an opening bracket begins no keyword. -/
theorem plain_find?_append {word : List Char} (h : '(' ∈ word ∨ '[' ∈ word) (rest : List Char) :
    plain.find? (fun p => p.text.toList == word ++ rest) = none := by
  have hwords : ∀ p ∈ plain, '(' ∉ p.text.toList ∧ '[' ∉ p.text.toList := by decide
  refine List.find?_eq_none.mpr fun p hp heq => ?_
  have htext : p.text.toList = word ++ rest := eq_of_beq heq
  obtain ⟨hround, hsquare⟩ := hwords p hp
  rw [htext] at hround hsquare
  exact h.elim (fun hmem => hround (List.mem_append_left _ hmem))
    fun hmem => hsquare (List.mem_append_left _ hmem)

theorem plain_find?_of_keyword {word : String} {p : Primitive} (h : (word, p) ∈ keywords) :
    plain.find? (fun q => q.text.toList == word.toList) = some p := by
  have hkeywords : ∀ k ∈ keywords,
      plain.find? (fun q => q.text.toList == k.1.toList) = some k.2 := by decide
  exact hkeywords _ h

theorem blankedNatural?_eq_some_iff {cs : List Char} {n : Nat} :
    blankedNatural? cs = some n ↔ Blanked cs n := by
  rw [blankedNatural?, Numeral.natural?_eq_some_iff]
  constructor
  · rintro ⟨hdigits, rfl⟩
    obtain ⟨left, right, hleft, hright, hcs⟩ := exists_blanks_around cs
    have hspelled := Blanked.digits hleft hdigits hright
    rwa [← hcs] at hspelled
  · rintro ⟨hleft, hdigits, hright⟩
    rw [trim_append_left hleft, trim_append_right _ hright, trim_eq_self_iff.mpr hdigits.stripped]
    exact ⟨hdigits, rfl⟩

/-- A separator is no part of a numeral or of the blanks around it. -/
theorem Blanked.not_mem {cs : List Char} {n : Nat} (h : Blanked cs n) {c : Char}
    (hblank : isBlank c = false) (hdigit : c.isDigit = false) : c ∉ cs := by
  obtain ⟨hleft, hdigits, hright⟩ := h
  simp only [List.mem_append, not_or]
  refine ⟨fun hmem => ?_, fun hmem => ?_, fun hmem => ?_⟩
  · rw [List.all_eq_true.mp hleft c hmem] at hblank
    cases hblank
  · rw [hdigits.areDigits c hmem] at hdigit
    cases hdigit
  · rw [List.all_eq_true.mp hright c hmem] at hblank
    cases hblank

theorem decimalArguments?_eq_some_iff {cs : List Char} {precision scale : UInt32} :
    decimalArguments? cs = some (precision, scale) ↔
      ∃ left right, cs = "decimal(".toList ++ ((left ++ ',' :: right) ++ [')']) ∧
        Blanked left precision.toNat ∧ Blanked right scale.toNat := by
  simp only [decimalArguments?, Option.bind_eq_bind, Option.bind_eq_some_iff, between?_eq_some_iff,
    Prod.exists, cutAt?_eq_some_iff, blankedNatural?_eq_some_iff, Width.uint32?_eq_some_iff,
    Option.pure_def, Option.some.injEq, Prod.mk.injEq]
  constructor
  · rintro ⟨_, rfl, left, right, ⟨_, rfl⟩, _, ⟨_, hleft, rfl⟩, _, ⟨_, hright, rfl⟩, rfl, rfl⟩
    exact ⟨left, right, rfl, hleft, hright⟩
  · rintro ⟨left, right, rfl, hleft, hright⟩
    have hcomma : ',' ∉ left := hleft.not_mem (by decide) (by decide)
    exact ⟨_, rfl, left, right, ⟨hcomma, rfl⟩, _, ⟨_, hleft, rfl⟩, _, ⟨_, hright, rfl⟩, rfl, rfl⟩

theorem fixedLength?_eq_some_iff {cs : List Char} {length : UInt64} :
    fixedLength? cs = some length ↔
      ∃ inner, cs = "fixed[".toList ++ (inner ++ [']']) ∧ Blanked inner length.toNat := by
  simp only [fixedLength?, Option.bind_eq_bind, Option.bind_eq_some_iff, between?_eq_some_iff,
    blankedNatural?_eq_some_iff, Width.uint64?_eq_some_iff]
  constructor
  · rintro ⟨inner, hcs, _, hinner, rfl⟩
    exact ⟨inner, hcs, hinner⟩
  · rintro ⟨inner, hcs, hinner⟩
    exact ⟨inner, hcs, _, hinner, rfl⟩

theorem decimalArguments?_fixed (rest : List Char) :
    decimalArguments? ("fixed[".toList ++ rest) = none :=
  rfl

end Partitioning.Primitive
