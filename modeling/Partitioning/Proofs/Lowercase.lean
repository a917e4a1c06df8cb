import Partitioning.Text.Lowercase
import Partitioning.Proofs.Text

/-!
# What lower-casing keeps

Lower-casing neither makes nor loses a mark: a parenthesis, a comma or a blank. Two texts that
differ in case only therefore have the same marks, the same blank ends, and are blank together.
-/

namespace Partitioning.Text

/-- The characters that a declaration is cut and trimmed at. -/
def isMark (c : Char) : Bool :=
  c == '(' || c == ')' || c == ',' || isBlank c

/-- The code points of the marks. -/
def markPoints : List Nat :=
  [0x28, 0x29, 0x2C, 0x20, 0x85, 0xA0, 0x1680, 0x2028, 0x2029, 0x202F, 0x205F, 0x3000] ++
    List.range' 9 5 ++ List.range' 0x2000 11

theorem mem_markPoints_iff {n : Nat} : n ∈ markPoints ↔
    n ∈ [0x28, 0x29, 0x2C, 0x20, 0x85, 0xA0, 0x1680, 0x2028, 0x2029, 0x202F, 0x205F, 0x3000] ∨
      (9 ≤ n ∧ n ≤ 13) ∨ 0x2000 ≤ n ∧ n ≤ 0x200A := by
  have hcontrols : (9 ≤ n ∧ n < 9 + 5) ↔ 9 ≤ n ∧ n ≤ 13 := by omega
  have hspaces : (0x2000 ≤ n ∧ n < 0x2000 + 11) ↔ 0x2000 ≤ n ∧ n ≤ 0x200A := by omega
  rw [markPoints, List.mem_append, List.mem_append, List.mem_range'_1, List.mem_range'_1, or_assoc,
    hcontrols, hspaces]

/-- Blanks are among the marks. -/
theorem isMark_of_isBlank {c : Char} (h : isBlank c = true) : isMark c = true := by
  simp [isMark, h]

theorem isMark_iff {c : Char} : isMark c = true ↔ c.toNat ∈ markPoints := by
  have hpoint (d : Char) : c = d ↔ c.toNat = d.toNat :=
    ⟨congrArg Char.toNat, fun h => Char.ext (UInt32.toNat_inj.mp h)⟩
  simp only [isMark, isBlank, Bool.or_eq_true, beq_iff_eq, hpoint, Char.reduceToNat,
    Bool.and_eq_true, decide_eq_true_eq, mem_markPoints_iff, List.mem_cons, List.not_mem_nil,
    or_false]
  omega

/-- No mark is moved by a run, and none is where a run moves a letter to. -/
def CaseRun.avoids (run : CaseRun) (mark : Nat) : Bool :=
  !run.covers mark && !run.covers ((mark : Int) - run.shift).toNat

/-- No run of the table of letter case moves a mark or leads to one. -/
theorem lowerRuns_avoid_marks : ∀ run ∈ lowerRuns, ∀ mark ∈ markPoints, run.avoids mark = true := by
  decide +kernel

/-- Among ASCII characters marks stay, and nothing else becomes a mark. -/
theorem toLower_keeps_marks : ∀ n < 0x80,
    if isMark (Char.ofNat n) then (Char.ofNat n).toLower = Char.ofNat n
    else isMark (Char.ofNat n).toLower = false := by
  decide

/-- A mark is its own lower case. -/
theorem lowerChar_of_mark {c : Char} (h : isMark c = true) : lowerChar c = [c] := by
  have hpoint := isMark_iff.mp h
  have hrun : lowerRuns.find? (fun run => run.covers c.toNat) = none := by
    apply List.find?_eq_none.mpr
    intro run hmem hcovers
    have havoid := lowerRuns_avoid_marks run hmem _ hpoint
    simp [CaseRun.avoids, hcovers] at havoid
  have hdotted : c.toNat ≠ 0x130 := by
    intro hc
    rw [hc] at hpoint
    revert hpoint
    decide
  unfold lowerChar
  by_cases hascii : c.toNat < 0x80
  · have hlower := toLower_keeps_marks c.toNat hascii
    rw [Char.ofNat_toNat, if_pos h] at hlower
    rw [if_pos hascii, hlower]
  · rw [if_neg hascii, if_neg hdotted, hrun]

/-- A code point that no mark has gives no mark, and neither does one that is no character. -/
theorem isMark_ofNat {n : Nat} (h : n ∉ markPoints) : isMark (Char.ofNat n) = false := by
  apply Bool.eq_false_iff.mpr
  intro hmark
  by_cases hn : n.isValidChar
  · have hchar : (Char.ofNat n).toNat = n := by
      rw [Char.ofNat, dif_pos hn]
      rfl
    exact h (hchar ▸ isMark_iff.mp hmark)
  · rw [Char.ofNat, dif_neg hn] at hmark
    revert hmark
    decide

/-- Any other character becomes one or more characters, none of them a mark. -/
theorem lowerChar_of_not_mark {c : Char} (h : isMark c = false) :
    lowerChar c ≠ [] ∧ ∀ d ∈ lowerChar c, isMark d = false := by
  unfold lowerChar
  by_cases hascii : c.toNat < 0x80
  · have hlower := toLower_keeps_marks c.toNat hascii
    rw [Char.ofNat_toNat, h, if_neg Bool.false_ne_true] at hlower
    simpa [if_pos hascii] using hlower
  · rw [if_neg hascii]
    split
    · refine ⟨List.cons_ne_nil _ _, ?_⟩
      rw [List.forall_mem_cons, List.forall_mem_singleton]
      exact ⟨by decide, by decide⟩
    · cases hrun : lowerRuns.find? (fun run => run.covers c.toNat) with
      | none => simpa using h
      | some run =>
          refine ⟨List.cons_ne_nil _ _, fun d hd => ?_⟩
          obtain rfl := List.mem_singleton.mp hd
          apply isMark_ofNat
          intro hpoint
          -- The letter would be where the run moves a mark back to.
          have havoid := lowerRuns_avoid_marks run (List.mem_of_find?_eq_some hrun) _ hpoint
          have hcovers : run.covers c.toNat = true :=
            List.find?_some (p := fun run : CaseRun => run.covers c.toNat) hrun
          have hpos : 0 < ((c.toNat : Int) + run.shift).toNat := by
            simp only [mem_markPoints_iff, List.mem_cons, List.not_mem_nil, or_false] at hpoint
            omega
          have hback : ((((c.toNat : Int) + run.shift).toNat : Int) - run.shift).toNat = c.toNat := by
            omega
          rw [CaseRun.avoids, hback, hcovers] at havoid
          simp at havoid

/-- A mark is its own lower case wherever it stands. -/
theorem lowerAt_of_mark {c : Char} (h : isMark c = true) (before after : List Char) :
    lowerAt before c after = [c] := by
  have hsigma : c.toNat ≠ 0x3A3 := by
    intro hc
    have hpoint := isMark_iff.mp h
    rw [hc] at hpoint
    revert hpoint
    decide
  rw [lowerAt, if_neg hsigma, lowerChar_of_mark h]

/-- No other character becomes a mark wherever it stands, a sigma at the end of a word included. -/
theorem lowerAt_of_not_mark {c : Char} (h : isMark c = false) (before after : List Char) :
    lowerAt before c after ≠ [] ∧ ∀ d ∈ lowerAt before c after, isMark d = false := by
  unfold lowerAt
  split
  · split
    · exact ⟨List.cons_ne_nil _ _, List.forall_mem_singleton.mpr (by decide)⟩
    · exact ⟨List.cons_ne_nil _ _, List.forall_mem_singleton.mpr (by decide)⟩
  · exact lowerChar_of_not_mark h

/-- The lower case of a character has the marks of that character. -/
theorem filter_lowerAt (before after : List Char) (c : Char) :
    (lowerAt before c after).filter isMark = [c].filter isMark := by
  cases h : isMark c with
  | true => rw [lowerAt_of_mark h]
  | false =>
      have hnone := (lowerAt_of_not_mark h before after).2
      simp only [List.filter_cons, h, Bool.false_eq_true, if_false, List.filter_nil,
        List.filter_eq_nil_iff]
      intro d hd
      simp [hnone d hd]

/-- Lower case keeps the marks of a text, in their order. -/
theorem filter_lowerFrom (before cs : List Char) :
    (lowerFrom before cs).filter isMark = cs.filter isMark := by
  induction cs generalizing before with
  | nil => rfl
  | cons c after ih =>
      calc
        (lowerFrom before (c :: after)).filter isMark =
            (lowerAt before c after).filter isMark ++
              (lowerFrom (c :: before) after).filter isMark := by
          rw [lowerFrom, List.filter_append]
        _ = [c].filter isMark ++ after.filter isMark := by rw [filter_lowerAt, ih]
        _ = (c :: after).filter isMark := by rw [← List.filter_append, List.singleton_append]

theorem lowerAt_ne_nil (before after : List Char) (c : Char) : lowerAt before c after ≠ [] := by
  cases h : isMark c with
  | true => simp [lowerAt_of_mark h]
  | false => exact (lowerAt_of_not_mark h before after).1

/-- Every character of the lower case of a character is a blank, or none is. -/
theorem isBlank_of_mem_lowerAt {before after : List Char} {c d : Char}
    (h : d ∈ lowerAt before c after) : isBlank d = isBlank c := by
  cases hc : isMark c with
  | true =>
      rw [lowerAt_of_mark hc, List.mem_singleton] at h
      rw [h]
  | false =>
      have hd : isMark d = false := (lowerAt_of_not_mark hc before after).2 d h
      have hnot {e : Char} (he : isMark e = false) : isBlank e = false :=
        Bool.eq_false_iff.mpr fun hb => by simp [isMark_of_isBlank hb] at he
      rw [hnot hc, hnot hd]

theorem lowerFrom_eq_nil_iff {before cs : List Char} : lowerFrom before cs = [] ↔ cs = [] := by
  cases cs with
  | nil => simp [lowerFrom]
  | cons c after => simp [lowerFrom, lowerAt_ne_nil]

/-- Lower case keeps whether a text is blank. -/
theorem allBlank_lowerFrom (before cs : List Char) :
    allBlank (lowerFrom before cs) = allBlank cs := by
  induction cs generalizing before with
  | nil => rfl
  | cons c after ih =>
      have hpiece : (lowerAt before c after).all isBlank = isBlank c := by
        apply Bool.eq_iff_iff.mpr
        rw [List.all_eq_true]
        constructor
        · intro h
          obtain ⟨d, hd⟩ := List.exists_mem_of_ne_nil _ (lowerAt_ne_nil before after c)
          exact (isBlank_of_mem_lowerAt hd) ▸ h d hd
        · intro h d hd
          rw [isBlank_of_mem_lowerAt hd, h]
      have htail := ih (c :: before)
      simp only [allBlank] at htail
      simp only [allBlank, lowerFrom, List.all_append, List.all_cons, hpiece, htail]

/-- Lower case keeps whether a text begins with a blank. -/
theorem first_lowerFrom (before cs : List Char) :
    (lowerFrom before cs).head?.map isBlank = cs.head?.map isBlank := by
  cases cs with
  | nil => rfl
  | cons c after =>
      obtain ⟨d, rest, hd⟩ := List.exists_cons_of_ne_nil (lowerAt_ne_nil before after c)
      have hmem : d ∈ lowerAt before c after := by simp [hd]
      simp [lowerFrom, hd, isBlank_of_mem_lowerAt hmem]

/-- Lower case keeps whether a text ends with a blank. -/
theorem last_lowerFrom (before cs : List Char) :
    (lowerFrom before cs).getLast?.map isBlank = cs.getLast?.map isBlank := by
  induction cs generalizing before with
  | nil => rfl
  | cons c after ih =>
      by_cases hafter : after = []
      · subst hafter
        have hne := lowerAt_ne_nil before [] c
        have hmem := List.getLast_mem hne
        simp [lowerFrom, List.getLast?_eq_some_getLast hne, isBlank_of_mem_lowerAt hmem]
      · have hlower : lowerFrom (c :: before) after ≠ [] := by
          simpa [lowerFrom_eq_nil_iff] using hafter
        rw [lowerFrom, List.getLast?_append_of_ne_nil _ hlower, ih,
          List.getLast?_cons_of_ne_nil hafter]

/-- Whether a text is stripped can be read off its outer characters. -/
theorem stripped_iff_map (cs : List Char) :
    Stripped cs ↔ cs.head?.map isBlank ≠ some true ∧ cs.getLast?.map isBlank ≠ some true := by
  cases hfirst : cs.head? <;> cases hlast : cs.getLast? <;> simp [Stripped, hfirst, hlast]

theorem toList_lower (s : String) : (lower s).toList = lowerFrom [] s.toList := by
  simp [lower]

section EqualLowerCase

variable {a b : String} (h : lower a = lower b)

include h

theorem lowerFrom_eq : lowerFrom [] a.toList = lowerFrom [] b.toList := by
  rw [← toList_lower, ← toList_lower, h]

/-- Texts that differ in case only have the same marks. -/
theorem mark_mem_iff_of_lower_eq {c : Char} (hc : isMark c = true) :
    c ∈ a.toList ↔ c ∈ b.toList := by
  have hmarks : a.toList.filter isMark = b.toList.filter isMark := by
    rw [← filter_lowerFrom [] a.toList, ← filter_lowerFrom [] b.toList, lowerFrom_eq h]
  calc
    c ∈ a.toList ↔ c ∈ a.toList.filter isMark := by simp [hc]
    _ ↔ c ∈ b.toList := by simp [hmarks, hc]

/-- Texts that differ in case have blanks at the same ends. -/
theorem stripped_iff_of_lower_eq : Stripped a.toList ↔ Stripped b.toList := by
  rw [stripped_iff_map, stripped_iff_map, ← first_lowerFrom [] a.toList,
    ← first_lowerFrom [] b.toList, ← last_lowerFrom [] a.toList, ← last_lowerFrom [] b.toList,
    lowerFrom_eq h]

theorem allBlank_eq_of_lower_eq : allBlank a.toList = allBlank b.toList := by
  rw [← allBlank_lowerFrom [] a.toList, ← allBlank_lowerFrom [] b.toList, lowerFrom_eq h]

end EqualLowerCase

end Partitioning.Text
