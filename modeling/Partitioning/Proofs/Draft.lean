import Mathlib.Data.List.Nodup
import Mathlib.Data.List.Perm.Subperm
import Partitioning.PartitionSpec
import Partitioning.Proofs.Width

/-!
# Names and places of partition fields

The name search finds a free name, because more names are tried than there are taken ones. Fields
are placed in the order in which they are asked for, under names that no field before them has.
-/

namespace Partitioning.PartitionSpec

/-- The name with a number behind it. -/
def suffixed (name : String) (n : Nat) : String :=
  s!"{name}_{n}"

/-- Different numbers make different names. -/
theorem suffixed_injective (name : String) : Function.Injective (suffixed name) := by
  intro m n h
  have htext (k : Nat) : (suffixed name k).toList = name.toList ++ '_' :: Nat.toDigits 10 k := by
    have hk : suffixed name k = name ++ "_" ++ k.repr := rfl
    simp [hk]
  have hlist := congrArg String.toList h
  rw [htext, htext] at hlist
  have hdigits := (List.cons.inj (List.append_cancel_left hlist)).2
  simpa using congrArg (fun cs => Nat.ofDigitChars 10 cs 0) hdigits

/-- Every candidate before the answer is taken, and the answer is free unless the search gave up. -/
theorem firstFree_spec (taken : List String) (name : String) (fuel n : Nat) :
    ∃ k ≤ fuel, firstFree taken name fuel n = suffixed name (n + k) ∧
      (∀ j < k, suffixed name (n + j) ∈ taken) ∧ (k < fuel → suffixed name (n + k) ∉ taken) := by
  induction fuel generalizing n with
  | zero => exact ⟨0, Nat.le_refl 0, rfl, by simp, by simp⟩
  | succ fuel ih =>
      by_cases hn : suffixed name n ∈ taken
      · obtain ⟨k, hk, hanswer, hbefore, hfree⟩ := ih (n + 1)
        have hnext (j : Nat) : n + (j + 1) = n + 1 + j := by omega
        refine ⟨k + 1, by omega, ?_, ?_, ?_⟩
        · rw [hnext, ← hanswer]
          exact if_pos hn
        · intro j hj
          cases j with
          | zero => exact hn
          | succ j => exact hnext j ▸ hbefore j (by omega)
        · intro hlt
          exact hnext k ▸ hfree (by omega)
      · exact ⟨0, by omega, if_neg hn, by simp, fun _ => hn⟩

/-- Candidates are distinct, so no more of them are taken than there are taken names. -/
theorem candidates_length_le {taken : List String} {name : String} {n k : Nat}
    (h : ∀ j < k, suffixed name (n + j) ∈ taken) : k ≤ taken.length := by
  let candidates := (List.range k).map fun j => suffixed name (n + j)
  have hdistinct : candidates.Nodup := by
    apply List.Nodup.map _ List.nodup_range
    intro i j hij
    have hsum := suffixed_injective name hij
    omega
  have htaken : candidates ⊆ taken := by
    intro candidate hcandidate
    obtain ⟨j, hj, rfl⟩ := List.mem_map.mp hcandidate
    exact h j (List.mem_range.mp hj)
  have hlength := (hdistinct.subperm htaken).length_le
  simpa only [candidates, List.length_map, List.length_range] using hlength

/-- A search of as many steps as there are names ends at a free one. -/
theorem firstFree_not_mem (taken : List String) (name : String) (n : Nat) :
    firstFree taken name taken.length n ∉ taken := by
  obtain ⟨k, hk, hanswer, hbefore, hfree⟩ := firstFree_spec taken name taken.length n
  rw [hanswer]
  by_cases hlt : k < taken.length
  · exact hfree hlt
  · intro hlast
    -- All candidates up to the answer would be taken, one more than there are taken names.
    have hall : ∀ j < k + 1, suffixed name (n + j) ∈ taken := by
      intro j hj
      obtain hbefore' | rfl := Nat.lt_succ_iff_lt_or_eq.mp hj
      · exact hbefore j hbefore'
      · exact hlast
    have hroom := candidates_length_le hall
    omega

/-- The name that is chosen is free. -/
theorem uniqueName_not_mem (taken : List String) (name : String) :
    uniqueName taken name ∉ taken := by
  unfold uniqueName
  split
  · exact firstFree_not_mem taken name 2
  · next h => exact h

/-- What a field is called that asks for `requested` beside fields with the names `taken`: the
requested name if it is free, else the first of `requested_2`, `requested_3`, … that is free. -/
def ChosenName (taken : List String) (requested name : String) : Prop :=
  (requested ∉ taken ∧ name = requested) ∨
    (requested ∈ taken ∧ ∃ n, 2 ≤ n ∧ name = suffixed requested n ∧ name ∉ taken ∧
      ∀ m, 2 ≤ m → m < n → suffixed requested m ∈ taken)

/-- The name that is chosen is the wanted one, or it has the least free number. -/
theorem uniqueName_chosen (taken : List String) (name : String) :
    ChosenName taken name (uniqueName taken name) := by
  unfold uniqueName
  split
  · next htaken =>
      obtain ⟨k, _, hanswer, hbefore, _⟩ := firstFree_spec taken name taken.length 2
      refine Or.inr ⟨htaken, 2 + k, by omega, hanswer, firstFree_not_mem taken name 2, ?_⟩
      intro m hm hlt
      have hcandidate := hbefore (m - 2) (by omega)
      rwa [Nat.add_sub_cancel' hm] at hcandidate
  · next hfree => exact Or.inl ⟨hfree, rfl⟩

/-- The names of fields that ask for `names` one after the other. -/
def chosenNames (taken : List String) : List String → List String
  | [] => []
  | name :: rest =>
    uniqueName taken name :: chosenNames (taken ++ [uniqueName taken name]) rest

/-- No chosen name is taken, and no two are equal. -/
theorem chosenNames_distinct (taken names : List String) :
    (chosenNames taken names).Nodup ∧ ∀ name ∈ chosenNames taken names, name ∉ taken := by
  induction names generalizing taken with
  | nil => simp [chosenNames]
  | cons requested rest ih =>
      obtain ⟨hdistinct, hfree⟩ := ih (taken ++ [uniqueName taken requested])
      constructor
      · refine List.nodup_cons.mpr ⟨?_, hdistinct⟩
        intro hmem
        exact hfree _ hmem (List.mem_append_right _ List.mem_cons_self)
      · intro name hname
        obtain rfl | hname := List.mem_cons.mp hname
        · exact uniqueName_not_mem taken requested
        · intro htaken
          exact hfree name hname (List.mem_append_left _ htaken)

/-- A name depends on the requests up to its own only. -/
theorem chosenNames_take (taken names : List String) (n : Nat) :
    (chosenNames taken names).take n = chosenNames taken (names.take n) := by
  induction names generalizing taken n with
  | nil => simp [chosenNames]
  | cons requested rest ih =>
      cases n with
      | zero => rfl
      | succ n => simp only [chosenNames, List.take_succ_cons, ih]

/-- The name at a position depends on the names before it alone. -/
theorem chosenNames_getElem? (taken names : List String) (i : Nat) :
    (chosenNames taken names)[i]? =
      names[i]?.map fun name => uniqueName (taken ++ (chosenNames taken names).take i) name := by
  induction names generalizing taken i with
  | nil => rfl
  | cons requested rest ih =>
      cases i with
      | zero => simp [chosenNames]
      | succ i => simp [chosenNames, ih]

/-- A field that is asked for, with the id that is due for it. -/
structure Request where
  due : Int
  sourceId : Int32
  name : String
  transform : Transform

/-- The partition fields of requests that come one after the other. -/
def placed (taken : List String) : List Request → List PartitionField
  | [] => []
  | r :: rest =>
    let name := uniqueName taken r.name
    ⟨r.sourceId, Int32.ofInt r.due, name, r.transform⟩ :: placed (taken ++ [name]) rest

/-- Placed fields have the names that are chosen for their requests. -/
theorem map_name_placed (taken : List String) (rs : List Request) :
    (placed taken rs).map PartitionField.name = chosenNames taken (rs.map Request.name) := by
  induction rs generalizing taken with
  | nil => rfl
  | cons r rest ih => rw [placed, List.map_cons, List.map_cons, chosenNames, ih]

/-- The name of a field is the one that is chosen beside the names before it. -/
theorem chosenName_of_placed (taken : List String) {rs : List Request} {i : Nat} {r : Request}
    {p : PartitionField} (hr : rs[i]? = some r) (hp : (placed taken rs)[i]? = some p) :
    ChosenName (taken ++ ((placed taken rs).take i).map PartitionField.name) r.name p.name := by
  have hname := chosenNames_getElem? taken (rs.map Request.name) i
  rw [← map_name_placed, List.getElem?_map, List.getElem?_map, hp, hr, ← List.map_take] at hname
  simp only [Option.map_some, Option.some.injEq] at hname
  rw [hname]
  exact uniqueName_chosen _ _

/-- Later requests are placed after the names that the earlier ones took. -/
theorem placed_append (taken : List String) (rs more : List Request) :
    placed taken (rs ++ more) =
      placed taken rs ++ placed (taken ++ (placed taken rs).map PartitionField.name) more := by
  induction rs generalizing taken with
  | nil => simp [placed]
  | cons r rest ih =>
      simp only [List.cons_append, placed, ih, List.map_cons, List.append_assoc, List.nil_append]

/-- Whether a field is what a request asks for, under the id that was due. -/
structure Places (r : Request) (p : PartitionField) : Prop where
  sourceId_eq : p.sourceId = r.sourceId
  transform_eq : p.transform = r.transform
  id_eq : p.id.toInt = r.due

/-- Requests for ids in range are placed one by one. -/
theorem forall₂_placed (taken : List String) {rs : List Request}
    (h : ∀ r ∈ rs, -0x80000000 ≤ r.due ∧ r.due < 0x80000000) :
    List.Forall₂ Places rs (placed taken rs) := by
  induction rs generalizing taken with
  | nil => exact .nil
  | cons r rest ih =>
      obtain ⟨hlow, hhigh⟩ := h r List.mem_cons_self
      refine .cons ⟨rfl, rfl, Int32.toInt_ofInt_of_le hlow hhigh⟩ (ih _ ?_)
      exact fun q hq => h q (List.mem_cons_of_mem _ hq)

end Partitioning.PartitionSpec
