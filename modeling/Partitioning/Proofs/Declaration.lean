import Mathlib.Data.Option.Basic
import Partitioning.Declaration
import Partitioning.Proofs.Lowercase
import Partitioning.Proofs.Width

/-!
# Reading and writing declarations

The columns a declaration can name, and the two directions of its text: whatever is read names
such a column, and the canonical text of such a column reads back as it was written.
-/

namespace Partitioning

/-- A transform whose parameter, if it has one, is not zero. -/
def Transform.Positive : Transform → Prop
  | .bucket n | .truncate n => n ≠ 0
  | _ => True

namespace Declaration

open Text

/-- The columns that a declaration of the transform can name. A call also cuts its arguments at
commas and trims them. -/
structure Nameable (t : Transform) (column : List Char) : Prop where
  noOpening : '(' ∉ column
  noClosing : ')' ∉ column
  notBlank : allBlank column = false
  noComma : t ≠ .identity → ',' ∉ column
  stripped : t ≠ .identity → Stripped column

/-- An argument is not empty and holds none of the characters that a call is made of. -/
theorem isArgument_iff {cs : List Char} :
    isArgument cs = true ↔ cs ≠ [] ∧ '(' ∉ cs ∧ ')' ∉ cs ∧ ',' ∉ cs := by
  simp only [isArgument, Bool.and_eq_true, Bool.not_eq_true', List.isEmpty_eq_false_iff,
    List.all_eq_true, bne_iff_ne, and_congr_right_iff]
  intro _
  constructor
  · intro h
    exact ⟨fun hc => (h _ hc).1.1 rfl, fun hc => (h _ hc).1.2 rfl, fun hc => (h _ hc).2 rfl⟩
  · rintro ⟨hopen, hclose, hcomma⟩ c hc
    exact ⟨⟨fun e => hopen (e ▸ hc), fun e => hclose (e ▸ hc)⟩, fun e => hcomma (e ▸ hc)⟩

/-- The argument of a call, without the blanks around it, can be named by any declaration. -/
theorem nameable_trim {cs : List Char} (harg : isArgument cs = true) (hblank : allBlank cs = false)
    (t : Transform) : Nameable t (trim cs) := by
  obtain ⟨_, hopen, hclose, hcomma⟩ := isArgument_iff.mp harg
  refine ⟨fun h => hopen (mem_of_mem_trim h), fun h => hclose (mem_of_mem_trim h), ?_,
    fun _ h => hcomma (mem_of_mem_trim h), fun _ => trim_stripped cs⟩
  rw [← Bool.not_eq_true, ← trim_eq_nil_iff, trim_trim, trim_eq_nil_iff, hblank]
  exact Bool.false_ne_true

/-- A column that is named in a call has the name of an argument. -/
theorem Nameable.isArgument {t : Transform} {cs : List Char} (h : Nameable t cs)
    (ht : t ≠ .identity) : isArgument cs = true := by
  refine isArgument_iff.mpr ⟨?_, h.noOpening, h.noClosing, h.noComma ht⟩
  rintro rfl
  exact absurd h.notBlank (by decide)

/-- Whether a column can be named does not depend on its letter case. -/
theorem Nameable.of_lower_eq {t : Transform} {a b : String} (h : lower a = lower b)
    (ha : Nameable t a.toList) : Nameable t b.toList where
  noOpening := fun hb => ha.noOpening ((mark_mem_iff_of_lower_eq h (by decide)).mpr hb)
  noClosing := fun hb => ha.noClosing ((mark_mem_iff_of_lower_eq h (by decide)).mpr hb)
  notBlank := (allBlank_eq_of_lower_eq h).symm.trans ha.notBlank
  noComma := fun ht hb => ha.noComma ht ((mark_mem_iff_of_lower_eq h (by decide)).mpr hb)
  stripped := fun ht => (stripped_iff_of_lower_eq h).mp (ha.stripped ht)

/-- A column is read from brackets around one argument that is not blank. -/
theorem columnArgument?_eq_some_iff {call column : List Char} :
    columnArgument? call = some column ↔
      ∃ inner, call = '(' :: (inner ++ [')']) ∧ isArgument inner = true ∧
        allBlank inner = false ∧ column = trim inner := by
  simp only [columnArgument?, Option.bind_eq_bind, Option.bind_eq_some_iff, between?_eq_some_iff,
    Option.guard_eq_some', Option.pure_def, Option.some.injEq, List.singleton_append]
  simp only [Bool.and_eq_true, Bool.not_eq_true']
  constructor
  · rintro ⟨inner, hcall, _, ⟨harg, hblank⟩, hcolumn⟩
    exact ⟨inner, hcall, harg, hblank, hcolumn.symm⟩
  · rintro ⟨inner, hcall, harg, hblank, rfl⟩
    exact ⟨inner, hcall, (), ⟨harg, hblank⟩, rfl⟩

/-- A column and a number are read from brackets around two arguments, the second a number of 64
bits. -/
theorem columnAndNumber?_eq_some_iff {call column : List Char} {n : Int} :
    columnAndNumber? call = some (column, n) ↔
      ∃ left right, call = '(' :: (left ++ ',' :: right ++ [')']) ∧ isArgument left = true ∧
        isArgument right = true ∧ allBlank left = false ∧ column = trim left ∧
        ∃ i : Int64, i.toInt = n ∧ Numeral.signed? (trim right) = some n := by
  simp only [columnAndNumber?, Option.bind_eq_bind, Option.bind_eq_some_iff, between?_eq_some_iff,
    Option.guard_eq_some', Option.pure_def, Option.some.injEq, List.singleton_append,
    Prod.exists, cutAt?_eq_some_iff, Width.int64?_eq_some_iff, Prod.mk.injEq]
  simp only [Bool.and_eq_true, Bool.not_eq_true']
  constructor
  · rintro ⟨inner, hcall, left, right, ⟨_, rfl⟩, _, ⟨⟨hleft, hright⟩, hblank⟩, i, ⟨m, hm, hi⟩,
      hcolumn, rfl⟩
    exact ⟨left, right, hcall, hleft, hright, hblank, hcolumn.symm, i, rfl, hi ▸ hm⟩
  · rintro ⟨left, right, hcall, hleft, hright, hblank, rfl, i, rfl, hnumber⟩
    exact ⟨_, hcall, left, right, ⟨(isArgument_iff.mp hleft).2.2.2, rfl⟩, (),
      ⟨⟨hleft, hright⟩, hblank⟩, i, ⟨_, hnumber, rfl⟩, rfl, rfl⟩

/-- A call with a parameter is accepted for every positive number of 32 bits. -/
theorem parameterCall_eq_ok_iff {declaration name : String} {call : List Char} {t : Transform}
    {transform : UInt32 → Transform} {notPositive : Int → PartitionError} :
    parameterCall declaration call transform notPositive = .ok (name, t) ↔
      ∃ column, ∃ n : UInt32, columnAndNumber? call = some (column, (n.toNat : Int)) ∧ n ≠ 0 ∧
        name = String.ofList column ∧ t = transform n := by
  unfold parameterCall
  split
  · next hnone => simp [hnone]
  · next column n hread =>
      rw [hread]
      constructor
      · intro h
        split at h
        · cases h
        · next hpos =>
            cases hn : Width.uint32? n.toNat with
            | none => simp [hn] at h
            | some u =>
                have hu := Width.uint32?_eq_some_iff.mp hn
                simp only [hn, Except.ok.injEq, Prod.mk.injEq] at h
                refine ⟨column, u, by rw [hu, Int.toNat_of_nonneg (by omega)], ?_, h.1.symm,
                  h.2.symm⟩
                rintro rfl
                have hzero : n.toNat = 0 := hu.symm
                omega
      · rintro ⟨column', u, hsome, hu, rfl, rfl⟩
        obtain ⟨rfl, rfl⟩ := Prod.mk.inj (Option.some.inj hsome)
        have hpos : 0 < u.toNat := Nat.pos_of_ne_zero fun h => hu (UInt32.toNat_inj.mp h)
        have hread : Width.uint32? (u.toNat : Int).toNat = some u := by
          rw [Int.toNat_natCast]
          exact Width.uint32?_eq_some_iff.mpr rfl
        rw [if_neg (by omega), hread]

/-- The transforms that are called with a column alone have no parameter to be wrong. -/
theorem plain_of_mem_calls {t : Transform} (h : t ∈ calls) : t.Positive ∧ t ≠ .identity := by
  simp only [calls, List.mem_cons, List.not_mem_nil, or_false] at h
  obtain rfl | rfl | rfl | rfl | rfl := h <;> exact ⟨trivial, by simp⟩

theorem parameterCall_sound {declaration name : String} {call : List Char} {t : Transform}
    {notPositive : Int → PartitionError} (transform : UInt32 → Transform)
    (hne : ∀ n, transform n ≠ .identity) (hpos : ∀ n, n ≠ 0 → (transform n).Positive)
    (h : parameterCall declaration call transform notPositive = .ok (name, t)) :
    Nameable t name.toList ∧ t.Positive ∧ t ≠ .identity := by
  obtain ⟨cs, n, hread, hn, rfl, rfl⟩ := parameterCall_eq_ok_iff.mp h
  obtain ⟨left, right, _, harg, _, hblank, rfl, _⟩ := columnAndNumber?_eq_some_iff.mp hread
  rw [String.toList_ofList]
  exact ⟨nameable_trim harg hblank _, hpos n hn, hne n⟩

/-- Whatever is read names a column that its transform can name, with a positive parameter; a
column alone is read as it is written. -/
theorem read_sound {declaration column : String} {t : Transform}
    (h : read declaration = .ok (column, t)) :
    Nameable t column.toList ∧ t.Positive ∧ (t = .identity → column = declaration) := by
  have hcall (hsound : Nameable t column.toList ∧ t.Positive ∧ t ≠ .identity) :
      Nameable t column.toList ∧ t.Positive ∧ (t = .identity → column = declaration) :=
    ⟨hsound.1, hsound.2.1, fun he => absurd he hsound.2.2⟩
  unfold read at h
  cases hcut : cutAt? '(' declaration.toList with
  | none =>
      simp only [hcut] at h
      split at h
      · cases h
      · next hcolumn =>
          obtain ⟨rfl, rfl⟩ := Prod.mk.inj (Except.ok.inj h)
          obtain ⟨hclose, hblank⟩ := not_or.mp hcolumn
          refine ⟨⟨cutAt?_eq_none_iff.mp hcut, hclose, Bool.eq_false_iff.mpr hblank, ?_, ?_⟩,
            trivial, fun _ => rfl⟩
          · exact fun hne => absurd rfl hne
          · exact fun hne => absurd rfl hne
  | some parts =>
      simp only [hcut] at h
      split at h
      · exact hcall (parameterCall_sound .bucket (fun _ => by simp) (fun _ hn => hn) h)
      · split at h
        · exact hcall (parameterCall_sound .truncate (fun _ => by simp) (fun _ hn => hn) h)
        · split at h
          · next hfind hread =>
              obtain ⟨rfl, rfl⟩ := Prod.mk.inj (Except.ok.inj h)
              obtain ⟨inner, _, harg, hblank, rfl⟩ := columnArgument?_eq_some_iff.mp hread
              have hplain := plain_of_mem_calls (List.mem_of_find?_eq_some hfind)
              rw [String.toList_ofList] at hcall ⊢
              exact hcall ⟨nameable_trim harg hblank _, hplain⟩
          · cases h

/-- Without a parenthesis nothing but a column can be read. -/
theorem eq_identity_of_read {declaration column : String} {t : Transform}
    (hopen : '(' ∉ declaration.toList) (h : read declaration = .ok (column, t)) :
    column = declaration ∧ t = .identity := by
  have hcut := cutAt?_eq_none_iff.mpr hopen
  simp only [read, hcut] at h
  split at h
  · cases h
  · obtain ⟨rfl, rfl⟩ := Prod.mk.inj (Except.ok.inj h)
    exact ⟨rfl, rfl⟩

/-- Each keyword is in lower case, without brackets, and is that of one transform. -/
theorem calls_read : ∀ t ∈ calls, '(' ∉ t.text.toList ∧ lowerAscii t.text.toList = t.text.toList ∧
    t.text.toList ≠ "bucket".toList ∧ t.text.toList ≠ "truncate".toList ∧
    calls.find? (fun u => u.text.toList == t.text.toList) = some t := by
  decide +kernel

/-- A column in brackets is read without its outer blanks, if it is an argument. -/
theorem columnArgument?_call (cs : List Char) :
    columnArgument? ('(' :: (cs ++ [')'])) =
      if isArgument cs && !allBlank cs then some (trim cs) else none := by
  split
  · next h =>
      rw [Bool.and_eq_true, Bool.not_eq_true'] at h
      exact columnArgument?_eq_some_iff.mpr ⟨cs, rfl, h.1, h.2, rfl⟩
  · next h =>
      apply Option.eq_none_iff_forall_ne_some.mpr
      intro column hread
      obtain ⟨inner, hcall, harg, hblank, _⟩ := columnArgument?_eq_some_iff.mp hread
      obtain rfl := List.append_cancel_right (List.cons.inj hcall).2
      simp [harg, hblank] at h

/-- The number of a canonical call: a blank and decimal digits. -/
def spacedDigits (n : UInt32) : List Char :=
  ' ' :: Nat.toDigits 10 n.toNat

theorem isArgument_spacedDigits (n : UInt32) : isArgument (spacedDigits n) = true := by
  have hdigits {c : Char} (hc : c.isDigit = false) (hblank : c ≠ ' ') : c ∉ spacedDigits n := by
    rw [spacedDigits, List.mem_cons, not_or]
    refine ⟨hblank, fun hmem => ?_⟩
    rw [Numeral.isDigit_of_mem hmem] at hc
    contradiction
  exact isArgument_iff.mpr ⟨List.cons_ne_nil _ _, hdigits (by decide) (by decide),
    hdigits (by decide) (by decide), hdigits (by decide) (by decide)⟩

theorem signed?_spacedDigits (n : UInt32) :
    Numeral.signed? (trim (spacedDigits n)) = some (n.toNat : Int) := by
  rw [spacedDigits, trim_cons_of_blank (by decide), trim_eq_self_iff.mpr
    (Numeral.toDigits_stripped _), Numeral.signed?_toDigits]

/-- A comma in the column would leave a second one in the number. -/
theorem eq_of_cut_eq {cs digits left right : List Char} (hleft : ',' ∉ left) (hright : ',' ∉ right)
    (h : cs ++ ',' :: digits = left ++ ',' :: right) : cs = left := by
  cases hcut : cutAt? ',' cs with
  | none =>
      have hsame := cutAt?_append (cutAt?_eq_none_iff.mp hcut) digits
      rw [h, cutAt?_append hleft] at hsame
      exact (Prod.mk.inj (Option.some.inj hsame)).1.symm
  | some parts =>
      obtain ⟨before, after⟩ := parts
      obtain ⟨hbefore, rfl⟩ := cutAt?_eq_some_iff.mp hcut
      have hsame := cutAt?_append hbefore (after ++ ',' :: digits)
      rw [← List.cons_append, ← List.append_assoc, h, cutAt?_append hleft] at hsame
      obtain ⟨_, rfl⟩ := Prod.mk.inj (Option.some.inj hsame)
      exact absurd (by simp) hright

/-- A column and the canonical digits of a parameter are read as such. -/
theorem columnAndNumber?_call (cs : List Char) (n : UInt32) :
    columnAndNumber? ('(' :: (cs ++ ',' :: spacedDigits n ++ [')'])) =
      if isArgument cs && !allBlank cs then some (trim cs, (n.toNat : Int)) else none := by
  split
  · next h =>
      rw [Bool.and_eq_true, Bool.not_eq_true'] at h
      have hn := n.toNat_lt
      have hfits : (Int64.ofInt (n.toNat : Int)).toInt = n.toNat :=
        Int64.toInt_ofInt_of_le (by omega) (by omega)
      exact columnAndNumber?_eq_some_iff.mpr ⟨cs, spacedDigits n, rfl, h.1,
        isArgument_spacedDigits n, h.2, rfl, _, hfits, signed?_spacedDigits n⟩
  · next h =>
      apply Option.eq_none_iff_forall_ne_some.mpr
      rintro ⟨column, m⟩ hread
      obtain ⟨left, right, hcall, hleft, hright, hblank, _⟩ :=
        columnAndNumber?_eq_some_iff.mp hread
      have hinner := List.append_cancel_right (List.cons.inj hcall).2
      obtain rfl := eq_of_cut_eq (isArgument_iff.mp hleft).2.2.2 (isArgument_iff.mp hright).2.2.2
        hinner
      simp [hleft, hblank] at h

/-- What a declaration with a parenthesis reads as, given its keyword in lower case. -/
def readCall (declaration : String) (keyword call : List Char) :
    Except PartitionError (String × Transform) :=
  if keyword = "bucket".toList then parameterCall declaration call .bucket .bucketCount
  else if keyword = "truncate".toList then parameterCall declaration call .truncate .truncateWidth
  else
    match calls.find? (fun t => t.text.toList == keyword), columnArgument? call with
    | some t, some column => .ok (String.ofList column, t)
    | _, _ => .error (.malformed declaration)

/-- The keyword of a call ends at the first bracket, and its case does not matter. -/
theorem read_of_call {declaration : String} {keyword after : List Char}
    (hkeyword : '(' ∉ keyword) (h : declaration.toList = keyword ++ '(' :: after) :
    read declaration = readCall declaration (lowerAscii keyword) ('(' :: after) := by
  simp only [read, h, cutAt?_append hkeyword]
  rfl

theorem toList_canonical_of_mem_calls {t : Transform} (h : t ∈ calls) (name : String) :
    (canonical name t).toList = t.text.toList ++ '(' :: (name.toList ++ [')']) := by
  have htext : canonical name t = t.text ++ "(" ++ name ++ ")" := by
    simp only [calls, List.mem_cons, List.not_mem_nil, or_false] at h
    obtain rfl | rfl | rfl | rfl | rfl := h <;> rfl
  simp [htext]

theorem toList_canonical_bucket (name : String) (n : UInt32) :
    (canonical name (.bucket n)).toList =
      "bucket".toList ++ '(' :: (name.toList ++ ',' :: spacedDigits n ++ [')']) := by
  have htext : canonical name (.bucket n) = "bucket(" ++ name ++ ", " ++ n.toNat.repr ++ ")" := rfl
  simp [htext, spacedDigits]

theorem toList_canonical_truncate (name : String) (w : UInt32) :
    (canonical name (.truncate w)).toList =
      "truncate".toList ++ '(' :: (name.toList ++ ',' :: spacedDigits w ++ [')']) := by
  have htext : canonical name (.truncate w) = "truncate(" ++ name ++ ", " ++ w.toNat.repr ++ ")" :=
    rfl
  simp [htext, spacedDigits]

/-- What a call of a transform reads as, given the text that stands for its column. -/
def callResult (declaration : String) (cs : List Char) (t : Transform) :
    Except PartitionError (String × Transform) :=
  if isArgument cs && !allBlank cs then .ok (String.ofList (trim cs), t)
  else .error (.malformed declaration)

/-- A canonical call that is read names the column without its outer blanks. -/
theorem callResult_eq_ok {declaration column : String} {cs : List Char} {t u : Transform}
    (h : callResult declaration cs t = .ok (column, u)) :
    column = String.ofList (trim cs) ∧ u = t := by
  unfold callResult at h
  split at h
  · obtain ⟨rfl, rfl⟩ := Prod.mk.inj (Except.ok.inj h)
    exact ⟨rfl, rfl⟩
  · cases h

/-- A canonical call with a parameter is read like one without, as long as the parameter is
positive. -/
theorem parameterCall_call (declaration : String) (cs : List Char) {n : UInt32} (hn : n ≠ 0)
    (transform : UInt32 → Transform) (notPositive : Int → PartitionError) :
    parameterCall declaration ('(' :: (cs ++ ',' :: spacedDigits n ++ [')'])) transform
      notPositive = callResult declaration cs (transform n) := by
  unfold callResult
  split
  · next h =>
      exact parameterCall_eq_ok_iff.mpr
        ⟨_, n, (columnAndNumber?_call cs n).trans (if_pos h), hn, rfl, rfl⟩
  · next h => rw [parameterCall, columnAndNumber?_call, if_neg h]

/-- What a canonical call of a transform without parameter is read as. -/
theorem read_canonical_of_mem_calls {t : Transform} (h : t ∈ calls) (name : String) :
    read (canonical name t) = callResult (canonical name t) name.toList t := by
  obtain ⟨hopen, hlower, hbucket, htruncate, hfind⟩ := calls_read t h
  rw [read_of_call hopen (toList_canonical_of_mem_calls h name), hlower, readCall,
    if_neg hbucket, if_neg htruncate, hfind, columnArgument?_call, callResult]
  by_cases hcolumn : (isArgument name.toList && !allBlank name.toList) = true
  · simp only [if_pos hcolumn]
  · simp only [if_neg hcolumn]

/-- The canonical call reads back exactly when its column is an argument, and then as the trimmed
column. -/
theorem read_canonical_of_ne_identity {name : String} {t : Transform} (ht : t ≠ .identity)
    (hpos : t.Positive) :
    read (canonical name t) = callResult (canonical name t) name.toList t := by
  cases t with
  | identity => exact absurd rfl ht
  | bucket n =>
      rw [read_of_call (by decide) (toList_canonical_bucket name n), readCall,
        if_pos (by decide)]
      exact parameterCall_call _ _ hpos _ _
  | truncate w =>
      rw [read_of_call (by decide) (toList_canonical_truncate name w), readCall,
        if_neg (by decide), if_pos (by decide)]
      exact parameterCall_call _ _ hpos _ _
  | year | month | day | hour | void => exact read_canonical_of_mem_calls (by decide) name

/-- A column that can be named is read back from its canonical declaration. -/
theorem read_canonical {name : String} {t : Transform} (h : Nameable t name.toList)
    (hpos : t.Positive) : read (canonical name t) = .ok (name, t) := by
  by_cases ht : t = .identity
  · subst ht
    have htext : canonical name .identity = name := rfl
    have hcut := cutAt?_eq_none_iff.mpr h.noOpening
    rw [htext, read]
    simp only [hcut]
    rw [if_neg (by simp [h.noClosing, h.notBlank])]
  · rw [read_canonical_of_ne_identity ht hpos, callResult,
      if_pos (by simp [h.isArgument ht, h.notBlank]), trim_eq_self_iff.mpr (h.stripped ht),
      String.ofList_toList]

end Declaration

end Partitioning
