import Partitioning.Proofs.Declaration
import Partitioning.Proofs.KeyedList

/-!
# The grammar of declarations

A text declares a column and a transform, or it gives a parameter that is not positive, or it is
malformed. The first two kinds are written down here as texts put together from their parts.
Reading follows this grammar, and every other text is malformed. A canonical text declares what it
was written for exactly when its column can be named and its parameter is positive.
-/

namespace Partitioning

/-- The category and the text under which an error is reported. -/
def PartitionError.Reports (e : PartitionError) (category text : String) : Prop :=
  e.category = category ∧ e.message = text

namespace Declaration

open Text

/-- A text without the characters that a call is cut at. -/
structure Unmarked (cs : List Char) : Prop where
  noOpening : '(' ∉ cs
  noClosing : ')' ∉ cs
  noComma : ',' ∉ cs

/-- The keywords of the calls with a column alone. -/
def columnKeywords : List (String × Transform) :=
  [("year", .year), ("month", .month), ("day", .day), ("hour", .hour), ("void", .void)]

/-- A call of a keyword, in any letter case, with a column and a number. The blanks around them
are not part of them. -/
inductive NumberCall (keyword : String) : List Char → List Char → Int → Prop where
  | call {word left right : List Char} {n : Int} :
      lowerAscii word = keyword.toList → Unmarked left → trim left ≠ [] → Unmarked right →
      Numeral.Denotes (trim right) n →
      NumberCall keyword (word ++ '(' :: (left ++ ',' :: right ++ [')'])) (trim left) n

/-- The texts that declare a column and a transform of it. -/
inductive Declares : List Char → List Char → Transform → Prop where
  /-- A column alone is all of the text, outer blanks included. -/
  | column {cs : List Char} : '(' ∉ cs → ')' ∉ cs → trim cs ≠ [] → Declares cs cs .identity
  | call {word inner : List Char} {keyword : String} {t : Transform} :
      (keyword, t) ∈ columnKeywords → lowerAscii word = keyword.toList → Unmarked inner →
      trim inner ≠ [] → Declares (word ++ '(' :: (inner ++ [')'])) (trim inner) t
  | bucket {cs column : List Char} {n : UInt32} :
      NumberCall "bucket" cs column n.toNat → n ≠ 0 → Declares cs column (.bucket n)
  | truncate {cs column : List Char} {w : UInt32} :
      NumberCall "truncate" cs column w.toNat → w ≠ 0 → Declares cs column (.truncate w)

/-- A call with a number of 64 bits that is not positive. -/
structure NotPositive (keyword : String) (cs : List Char) (n : Int) : Prop where
  le_zero : n ≤ 0
  fits : ∃ i : Int64, i.toInt = n
  isCall : ∃ column, NumberCall keyword cs column n

/-- The texts that name a column are those without marks of a call that are not blank. -/
theorem isArgument_and_not_blank_iff {cs : List Char} :
    isArgument cs = true ∧ allBlank cs = false ↔ Unmarked cs ∧ trim cs ≠ [] := by
  rw [← Bool.not_eq_true, ← trim_eq_nil_iff, isArgument_iff]
  constructor
  · rintro ⟨⟨_, hopen, hclose, hcomma⟩, hblank⟩
    exact ⟨⟨hopen, hclose, hcomma⟩, hblank⟩
  · rintro ⟨⟨hopen, hclose, hcomma⟩, hblank⟩
    refine ⟨⟨?_, hopen, hclose, hcomma⟩, hblank⟩
    rintro rfl
    exact hblank rfl

/-- Two arguments are read as a column and a number exactly when the number is a numeral that fits
64 bits. -/
theorem columnAndNumber?_eq_some_iff_denotes {call column : List Char} {n : Int} :
    columnAndNumber? call = some (column, n) ↔
      ∃ left right, call = '(' :: (left ++ ',' :: right ++ [')']) ∧ column = trim left ∧
        Unmarked left ∧ trim left ≠ [] ∧ Unmarked right ∧ Numeral.Denotes (trim right) n ∧
        ∃ i : Int64, i.toInt = n := by
  rw [columnAndNumber?_eq_some_iff]
  constructor
  · rintro ⟨left, right, hcall, hleft, hright, hblank, hcolumn, i, hi, hnumber⟩
    obtain ⟨hleft, hblank⟩ := isArgument_and_not_blank_iff.mp ⟨hleft, hblank⟩
    obtain ⟨_, hopen, hclose, hcomma⟩ := isArgument_iff.mp hright
    exact ⟨left, right, hcall, hcolumn, hleft, hblank, ⟨hopen, hclose, hcomma⟩,
      Numeral.signed?_eq_some_iff.mp hnumber, i, hi⟩
  · rintro ⟨left, right, hcall, hcolumn, hleft, hblank, hright, hnumber, i, hi⟩
    obtain ⟨hleft, hblank⟩ := isArgument_and_not_blank_iff.mpr ⟨hleft, hblank⟩
    have hne : right ≠ [] := by
      rintro rfl
      cases hnumber with
      | bare hdigits => exact hdigits.nonempty rfl
    exact ⟨left, right, hcall, hleft,
      isArgument_iff.mpr ⟨hne, hright.noOpening, hright.noClosing, hright.noComma⟩, hblank, hcolumn,
      i, hi, Numeral.signed?_eq_some_iff.mpr hnumber⟩

/-- A positive number of 32 bits fits 64 bits. -/
theorem exists_int64_toInt_eq (n : UInt32) : ∃ i : Int64, i.toInt = n.toNat := by
  have hn := n.toNat_lt
  exact ⟨Int64.ofInt n.toNat, Int64.toInt_ofInt_of_le (by omega) (by omega)⟩

section Call

variable {declaration : String} {word : List Char} {keyword : String}

/-- A word that is a keyword in some letter case ends at the first parenthesis. -/
theorem not_mem_of_lowerAscii_eq (hkeyword : '(' ∉ keyword.toList)
    (h : lowerAscii word = keyword.toList) : '(' ∉ word := by
  intro hmem
  apply hkeyword
  rw [← h, lowerAscii]
  exact List.mem_map.mpr ⟨'(', hmem, by decide⟩

/-- A call is read by its keyword, in any case of ASCII letters. -/
theorem read_of_keyword {after : List Char} (hkeyword : '(' ∉ keyword.toList)
    (hword : lowerAscii word = keyword.toList) (h : declaration.toList = word ++ '(' :: after) :
    read declaration = readCall declaration keyword.toList ('(' :: after) := by
  rw [read_of_call (not_mem_of_lowerAscii_eq hkeyword hword) h, hword]

theorem readCall_bucket (declaration : String) (call : List Char) :
    readCall declaration "bucket".toList call =
      parameterCall declaration call .bucket .bucketCount := by
  rw [readCall, if_pos rfl]

theorem readCall_truncate (declaration : String) (call : List Char) :
    readCall declaration "truncate".toList call =
      parameterCall declaration call .truncate .truncateWidth := by
  rw [readCall, if_neg (by decide), if_pos rfl]

theorem columnKeywords_eq : columnKeywords = calls.map fun t => (t.text, t) :=
  rfl

theorem mem_columnKeywords_iff {t : Transform} :
    (keyword, t) ∈ columnKeywords ↔ t ∈ calls ∧ t.text = keyword := by
  rw [columnKeywords_eq]
  exact mem_map_keyed_iff

/-- A call of a keyword is handed on to the reader of its arguments, which finds the column and the
number. -/
theorem NumberCall.read_eq {cs column : List Char} {n : Int} (h : NumberCall keyword cs column n)
    (hkeyword : '(' ∉ keyword.toList) (hfits : ∃ i : Int64, i.toInt = n)
    (hcs : declaration.toList = cs) :
    ∃ call, read declaration = readCall declaration keyword.toList call ∧
      columnAndNumber? call = some (column, n) := by
  cases h with
  | @call word left right n hword hleft hblank hright hnumber =>
      refine ⟨_, read_of_keyword hkeyword hword hcs, ?_⟩
      exact columnAndNumber?_eq_some_iff_denotes.mpr
        ⟨left, right, rfl, rfl, hleft, hblank, hright, hnumber, hfits⟩

/-- Conversely, arguments that are read make a call. -/
theorem numberCall_of_read {call column : List Char} {n : Int}
    (hword : lowerAscii word = keyword.toList) (h : columnAndNumber? call = some (column, n)) :
    NumberCall keyword (word ++ call) column n ∧ ∃ i : Int64, i.toInt = n := by
  obtain ⟨left, right, rfl, rfl, hleft, hblank, hright, hnumber, hfits⟩ :=
    columnAndNumber?_eq_some_iff_denotes.mp h
  exact ⟨.call hword hleft hblank hright hnumber, hfits⟩

end Call

section Parameter

variable {declaration : String} {call : List Char} {transform : UInt32 → Transform}
  {notPositive : Int → PartitionError}

/-- A number that is not positive is reported as such, whichever it is. -/
theorem parameterCall_of_le_zero {column : List Char} {n : Int}
    (h : columnAndNumber? call = some (column, n)) (hn : n ≤ 0) :
    parameterCall declaration call transform notPositive = .error (notPositive n) := by
  simp only [parameterCall, h, if_pos hn]

/-- A call with a parameter is refused for its shape or for its number. -/
theorem parameterCall_eq_error {e : PartitionError}
    (h : parameterCall declaration call transform notPositive = .error e) :
    e = .malformed declaration ∨
      ∃ column n, columnAndNumber? call = some (column, n) ∧ n ≤ 0 ∧ e = notPositive n := by
  unfold parameterCall at h
  split at h
  · exact .inl (Except.error.inj h).symm
  · next column n hread =>
      split at h
      · next hn => exact .inr ⟨column, n, hread, hn, (Except.error.inj h).symm⟩
      · split at h
        · cases h
        · exact .inl (Except.error.inj h).symm

variable {keyword : String} (hkeyword : '(' ∉ keyword.toList)
  (hcalls : ∀ call, readCall declaration keyword.toList call =
    parameterCall declaration call transform notPositive)

include hkeyword hcalls

/-- A call with a column and a positive number of 32 bits is read. -/
theorem read_of_numberCall {cs column : List Char} {n : UInt32}
    (h : NumberCall keyword cs column n.toNat) (hn : n ≠ 0) (hcs : declaration.toList = cs) :
    read declaration = .ok (String.ofList column, transform n) := by
  obtain ⟨call, hread, hnumber⟩ := h.read_eq hkeyword (exists_int64_toInt_eq n) hcs
  rw [hread, hcalls]
  exact parameterCall_eq_ok_iff.mpr ⟨column, n, hnumber, hn, rfl, rfl⟩

/-- A call with a number that is not positive is refused with that number. -/
theorem read_of_notPositive {n : Int} (h : NotPositive keyword declaration.toList n) :
    read declaration = .error (notPositive n) := by
  obtain ⟨column, hcall⟩ := h.isCall
  obtain ⟨call, hread, hnumber⟩ := hcall.read_eq hkeyword h.fits rfl
  rw [hread, hcalls]
  exact parameterCall_of_le_zero hnumber h.le_zero

end Parameter

theorem read_of_notPositive_bucket {declaration : String} {n : Int}
    (h : NotPositive "bucket" declaration.toList n) :
    read declaration = .error (.bucketCount n) :=
  read_of_notPositive (by decide) (readCall_bucket declaration) h

theorem read_of_notPositive_truncate {declaration : String} {n : Int}
    (h : NotPositive "truncate" declaration.toList n) :
    read declaration = .error (.truncateWidth n) :=
  read_of_notPositive (by decide) (readCall_truncate declaration) h

/-- Every text of the grammar is read as what it declares. -/
theorem read_of_declares {declaration : String} {cs column : List Char} {t : Transform}
    (h : Declares cs column t) (hcs : declaration.toList = cs) :
    read declaration = .ok (String.ofList column, t) := by
  cases h with
  | column hopen hclose hblank =>
      subst hcs
      have hname : Nameable .identity declaration.toList :=
        ⟨hopen, hclose, Bool.eq_false_iff.mpr (mt trim_eq_nil_iff.mpr hblank),
          fun h => absurd rfl h, fun h => absurd rfl h⟩
      rw [String.ofList_toList]
      exact read_canonical hname trivial
  | @call word inner keyword t hkeyword hword hinner hblank =>
      obtain ⟨ht, rfl⟩ := mem_columnKeywords_iff.mp hkeyword
      obtain ⟨hopen, _, hbucket, htruncate, hfind⟩ := calls_read t ht
      obtain ⟨hinner, hblank⟩ := isArgument_and_not_blank_iff.mpr ⟨hinner, hblank⟩
      rw [read_of_keyword hopen hword hcs, readCall, if_neg hbucket, if_neg htruncate, hfind,
        columnArgument?_eq_some_iff.mpr ⟨inner, rfl, hinner, hblank, rfl⟩]
  | bucket hcall hn => exact read_of_numberCall (by decide) (readCall_bucket _) hcall hn hcs
  | truncate hcall hw => exact read_of_numberCall (by decide) (readCall_truncate _) hcall hw hcs

/-- A text with a parenthesis is read as the call of the word before the first one. -/
theorem exists_read_eq_readCall {declaration : String} (h : '(' ∈ declaration.toList) :
    ∃ word after, declaration.toList = word ++ '(' :: after ∧
      read declaration = readCall declaration (lowerAscii word) ('(' :: after) := by
  cases hcut : cutAt? '(' declaration.toList with
  | none => exact absurd h (cutAt?_eq_none_iff.mp hcut)
  | some parts =>
      obtain ⟨hword, htext⟩ := cutAt?_eq_some_iff.mp hcut
      exact ⟨parts.1, parts.2, htext, read_of_call hword htext⟩

/-- All that a call can be read as. -/
theorem readCall_cases (declaration : String) (keyword call : List Char) :
    (keyword = "bucket".toList ∧ readCall declaration keyword call =
        parameterCall declaration call .bucket .bucketCount) ∨
      (keyword = "truncate".toList ∧ readCall declaration keyword call =
        parameterCall declaration call .truncate .truncateWidth) ∨
      (∃ t ∈ calls, t.text.toList = keyword ∧ ∃ column, columnArgument? call = some column ∧
        readCall declaration keyword call = .ok (String.ofList column, t)) ∨
      readCall declaration keyword call = .error (.malformed declaration) := by
  unfold readCall
  split
  · next hkeyword => exact .inl ⟨hkeyword, rfl⟩
  · split
    · next hkeyword => exact .inr (.inl ⟨hkeyword, rfl⟩)
    · split
      · next t column hfind hcolumn =>
          obtain ⟨ht, htext⟩ := find?_key_sound hfind
          exact .inr (.inr (.inl ⟨t, ht, htext, column, hcolumn, rfl⟩))
      · exact .inr (.inr (.inr rfl))

/-- Every text that is read belongs to the grammar. -/
theorem declares_of_read {declaration column : String} {t : Transform}
    (h : read declaration = .ok (column, t)) : Declares declaration.toList column.toList t := by
  by_cases hopen : '(' ∈ declaration.toList
  · obtain ⟨word, after, htext, hread⟩ := exists_read_eq_readCall hopen
    rw [hread] at h
    rw [htext]
    obtain ⟨hword, hcall⟩ | ⟨hword, hcall⟩ | ⟨u, hu, hword, cs, hcolumn, hcall⟩ | hcall :=
      readCall_cases declaration (lowerAscii word) ('(' :: after)
    · obtain ⟨cs, n, hnumber, hn, rfl, rfl⟩ := parameterCall_eq_ok_iff.mp (hcall ▸ h)
      rw [String.toList_ofList]
      exact .bucket (numberCall_of_read hword hnumber).1 hn
    · obtain ⟨cs, w, hnumber, hw, rfl, rfl⟩ := parameterCall_eq_ok_iff.mp (hcall ▸ h)
      rw [String.toList_ofList]
      exact .truncate (numberCall_of_read hword hnumber).1 hw
    · obtain ⟨rfl, rfl⟩ := Prod.mk.inj (Except.ok.inj (hcall.symm.trans h))
      obtain ⟨inner, harguments, hinner, hblank, rfl⟩ := columnArgument?_eq_some_iff.mp hcolumn
      obtain ⟨hinner, hblank⟩ := isArgument_and_not_blank_iff.mp ⟨hinner, hblank⟩
      rw [harguments, String.toList_ofList]
      exact .call (mem_columnKeywords_iff.mpr ⟨hu, rfl⟩) hword.symm hinner hblank
    · cases hcall.symm.trans h
  · obtain ⟨rfl, rfl⟩ := eq_identity_of_read hopen h
    obtain ⟨hname, _⟩ := read_sound h
    exact .column hopen hname.noClosing
      (mt trim_eq_nil_iff.mp (Bool.eq_false_iff.mp hname.notBlank))

/-- A text is refused for its parameter or as a whole. -/
theorem refused_of_read {declaration : String} {e : PartitionError}
    (h : read declaration = .error e) :
    (∃ n, NotPositive "bucket" declaration.toList n ∧ e = .bucketCount n) ∨
      (∃ n, NotPositive "truncate" declaration.toList n ∧ e = .truncateWidth n) ∨
      e = .malformed declaration := by
  by_cases hopen : '(' ∈ declaration.toList
  · obtain ⟨word, after, htext, hread⟩ := exists_read_eq_readCall hopen
    rw [hread] at h
    rw [htext]
    obtain ⟨hword, hcall⟩ | ⟨hword, hcall⟩ | ⟨_, _, _, _, _, hcall⟩ | hcall :=
      readCall_cases declaration (lowerAscii word) ('(' :: after)
    · obtain rfl | ⟨column, n, hnumber, hn, rfl⟩ := parameterCall_eq_error (hcall ▸ h)
      · exact .inr (.inr rfl)
      · obtain ⟨hnumber, hfits⟩ := numberCall_of_read hword hnumber
        exact .inl ⟨n, ⟨hn, hfits, column, hnumber⟩, rfl⟩
    · obtain rfl | ⟨column, n, hnumber, hn, rfl⟩ := parameterCall_eq_error (hcall ▸ h)
      · exact .inr (.inr rfl)
      · obtain ⟨hnumber, hfits⟩ := numberCall_of_read hword hnumber
        exact .inr (.inl ⟨n, ⟨hn, hfits, column, hnumber⟩, rfl⟩)
    · cases hcall.symm.trans h
    · exact .inr (.inr (Except.error.inj (hcall.symm.trans h)).symm)
  · have hcut := cutAt?_eq_none_iff.mpr hopen
    simp only [read, hcut] at h
    split at h
    · exact .inr (.inr (Except.error.inj h).symm)
    · cases h

/-- Reading follows the grammar: it gives the column and the transform that a text declares, the
parameter that is not positive, and otherwise the text itself as malformed. -/
theorem read_follows_grammar (declaration : String) :
    (∀ column t, read declaration = .ok (column, t) ↔
        Declares declaration.toList column.toList t) ∧
      (∀ n, read declaration = .error (.bucketCount n) ↔
        NotPositive "bucket" declaration.toList n) ∧
      (∀ n, read declaration = .error (.truncateWidth n) ↔
        NotPositive "truncate" declaration.toList n) ∧
      (read declaration = .error (.malformed declaration) ↔
        (∀ column t, ¬ Declares declaration.toList column t) ∧
          (∀ n, ¬ NotPositive "bucket" declaration.toList n) ∧
          ∀ n, ¬ NotPositive "truncate" declaration.toList n) ∧
      (PartitionError.malformed declaration).Reports "Syntax"
        ("Invalid partition field declaration: " ++ declaration) ∧
      ∀ n : Int,
        (PartitionError.bucketCount n).Reports "Syntax"
          ("Invalid number of buckets: " ++ toString n ++ " (must be > 0)") ∧
        (PartitionError.truncateWidth n).Reports "Syntax"
          ("Invalid truncate width: " ++ toString n ++ " (must be > 0)") := by
  refine ⟨fun column t => ⟨declares_of_read, ?declared⟩,
    fun n => ⟨?bucketCount, read_of_notPositive_bucket⟩,
    fun n => ⟨?truncateWidth, read_of_notPositive_truncate⟩, ⟨?alone, ?malformed⟩, ⟨rfl, rfl⟩,
    fun n => ⟨⟨rfl, rfl⟩, ⟨rfl, rfl⟩⟩⟩
  case declared =>
    intro h
    rw [read_of_declares h rfl, String.ofList_toList]
  case bucketCount =>
    intro h
    obtain ⟨m, hm, he⟩ | ⟨_, _, he⟩ | he := refused_of_read h
    · cases he
      exact hm
    · cases he
    · cases he
  case truncateWidth =>
    intro h
    obtain ⟨_, _, he⟩ | ⟨m, hm, he⟩ | he := refused_of_read h
    · cases he
    · cases he
      exact hm
    · cases he
  case alone =>
    intro h
    refine ⟨fun column t hd => ?_, fun n hn => ?_, fun n hn => ?_⟩
    · cases h.symm.trans (read_of_declares hd rfl)
    · cases h.symm.trans (read_of_notPositive_bucket hn)
    · cases h.symm.trans (read_of_notPositive_truncate hn)
  case malformed =>
    rintro ⟨hdeclares, hbucket, htruncate⟩
    cases hread : read declaration with
    | ok r => exact absurd (declares_of_read hread) (hdeclares _ _)
    | error e =>
        obtain ⟨n, hn, _⟩ | ⟨n, hn, _⟩ | rfl := refused_of_read hread
        · exact absurd hn (hbucket n)
        · exact absurd hn (htruncate n)
        · rfl

/-- Keywords may be written in any letter case, numbers with a sign and leading zeros. -/
example : read "TRUNCATE( comment ,  +013 )" = .ok ("comment", .truncate 13) := by
  decide +kernel

/-- A parameter is wrong only when it is zero. -/
theorem positive_iff {t : Transform} : t.Positive ↔ t ≠ .bucket 0 ∧ t ≠ .truncate 0 := by
  cases t <;> simp [Transform.Positive]

/-- A canonical text is read as what it was written for exactly when its column has no parenthesis
and is not blank, its parameter is positive, and the column of a call has no comma and no outer
blanks. -/
theorem read_canonical_eq_ok_iff (name : String) (t : Transform) :
    read (canonical name t) = .ok (name, t) ↔
      '(' ∉ name.toList ∧ ')' ∉ name.toList ∧ trim name.toList ≠ [] ∧
        t ≠ .bucket 0 ∧ t ≠ .truncate 0 ∧
        (t ≠ .identity → ',' ∉ name.toList ∧ trim name.toList = name.toList) := by
  rw [ne_eq, trim_eq_nil_iff, Bool.not_eq_true, trim_eq_self_iff]
  constructor
  · intro h
    obtain ⟨hname, hpositive, _⟩ := read_sound h
    obtain ⟨hbucket, htruncate⟩ := positive_iff.mp hpositive
    exact ⟨hname.noOpening, hname.noClosing, hname.notBlank, hbucket, htruncate,
      fun ht => ⟨hname.noComma ht, hname.stripped ht⟩⟩
  · rintro ⟨hopen, hclose, hblank, hbucket, htruncate, hcall⟩
    have hname : Nameable t name.toList :=
      ⟨hopen, hclose, hblank, fun ht => (hcall ht).1, fun ht => (hcall ht).2⟩
    exact read_canonical hname (positive_iff.mpr ⟨hbucket, htruncate⟩)

end Declaration

end Partitioning
