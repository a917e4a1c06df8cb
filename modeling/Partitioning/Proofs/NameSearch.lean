import Mathlib.Computability.StateTransition
import Partitioning.Proofs.DraftHistory

/-!
# The search for a free name

A draft looks for a free name by trying one number after the other, and nothing bounds this loop. It
ends all the same: the candidates are distinct and differ from the name itself, so when the name is
taken, one of as many candidates as there are names is free. The bounded search of `uniqueName` ends
with the same number.
-/

namespace Partitioning.PartitionSpec

open StateTransition

/-- One turn of the search for a free name: if the candidate is taken, the counter goes on by
`next`. -/
def turn (next : Nat → Nat) (taken : List String) (name : String) (n : Nat) : Option Nat :=
  if suffixed name n ∈ taken then some (next n) else none

/-- The number that the search ends with when its counter starts at `start`. Nothing bounds the
turns, and there is no such number if they go on forever. -/
def search (next : Nat → Nat) (taken : List String) (name : String) (start : Nat) : Part Nat :=
  eval (turn next taken name) start

section Search

variable {next : Nat → Nat} {taken : List String} {name : String} {n : Nat}

/-- The counter goes from one candidate to the next as long as they are taken. -/
theorem reaches_turn {start : Nat} (hstart : start ≤ n)
    (htaken : ∀ m, start ≤ m → m < n → suffixed name m ∈ taken)
    (hnext : ∀ m < n, next m = m + 1) : Reaches (turn next taken name) start n := by
  induction n, hstart using Nat.le_induction with
  | base => exact .refl
  | succ n hn ih =>
      have hbefore := ih (fun m hm hlt => htaken m hm (Nat.lt_succ_of_lt hlt))
        fun m hlt => hnext m (Nat.lt_succ_of_lt hlt)
      have hturn : turn next taken name n = some (n + 1) := by
        rw [turn, if_pos (htaken n hn (Nat.lt_succ_self n)), hnext n (Nat.lt_succ_self n)]
      exact hbefore.tail hturn

/-- The search ends at the first free candidate, however its counter would go on from there. -/
theorem mem_search {start : Nat} (hstart : start ≤ n) (hfree : suffixed name n ∉ taken)
    (htaken : ∀ m, start ≤ m → m < n → suffixed name m ∈ taken)
    (hnext : ∀ m < n, next m = m + 1) : n ∈ search next taken name start :=
  mem_eval.mpr ⟨reaches_turn hstart htaken hnext, if_neg hfree⟩

theorem suffixed_ne_self (name : String) (n : Nat) : suffixed name n ≠ name := by
  have htext : suffixed name n = name ++ "_" ++ n.repr := rfl
  intro h
  have hlength := congrArg String.length h
  rw [htext, String.length_append, String.length_append] at hlength
  have hmark : "_".length = 1 := rfl
  omega

/-- Beside a taken name, which is no candidate, fewer candidates are taken than there are names. -/
theorem candidates_length_lt (h : name ∈ taken) {k : Nat}
    (hcandidates : ∀ j < k, suffixed name (n + j) ∈ taken) : k < taken.length := by
  have hothers : ∀ j < k, suffixed name (n + j) ∈ taken.erase name := by
    intro j hj
    exact (List.mem_erase_of_ne (suffixed_ne_self name (n + j))).mpr (hcandidates j hj)
  have hroom := candidates_length_le hothers
  have hpos := List.length_pos_of_mem h
  rw [List.length_erase_of_mem h] at hroom
  omega

/-- The bounded search has a small answer, and the search without a bound ends with it. -/
theorem exists_mem_search (h : name ∈ taken) :
    ∃ n, 2 ≤ n ∧ n ≤ taken.length + 1 ∧ uniqueName taken name = suffixed name n ∧
      ∀ next : Nat → Nat, (∀ m < n, next m = m + 1) → n ∈ search next taken name 2 := by
  obtain ⟨hfree, _⟩ | ⟨_, n, hn, hanswer, hfree, htaken⟩ := uniqueName_chosen taken name
  · exact absurd h hfree
  · have hcandidates : ∀ j < n - 2, suffixed name (2 + j) ∈ taken := by
      intro j hj
      exact htaken (2 + j) (by omega) (by omega)
    have hroom := candidates_length_lt h hcandidates
    rw [hanswer] at hfree
    exact ⟨n, hn, by omega, hanswer, fun next hnext => mem_search hn hfree htaken hnext⟩

end Search

theorem Draft.nodup_names_add {d : Draft} (h : d.names.Nodup) (sourceId : Int32) (name : String)
    (transform : Transform) : (d.add sourceId name transform).names.Nodup := by
  unfold Draft.add
  split
  · exact h
  · refine List.nodup_append'.mpr ⟨h, List.nodup_singleton _, ?_⟩
    exact List.disjoint_singleton.mpr (uniqueName_not_mem d.names name)

theorem Draft.nodup_names_call {d : Draft} (h : d.names.Nodup) (c : Call) :
    (d.call c).names.Nodup := by
  cases c with
  | withId id => exact h
  | withFirstFieldId id => exact h
  | add sourceId name transform => exact nodup_names_add h sourceId name transform
  | addUnbound f => exact nodup_names_add h f.sourceId f.name f.transform

/-- A draft holds no name twice, even if it has lost a field. -/
theorem nodup_names_run (calls : List Call) : (run calls).names.Nodup := by
  induction calls using List.reverseRecOn with
  | nil => exact List.nodup_nil
  | append_singleton calls c ih =>
      rw [run_concat]
      exact Draft.nodup_names_call ih c

/-- Whatever calls a draft has had, the search for a free name ends when the name it is asked for is
taken. It ends with a number beyond the number of names by one at most, and the field is named with
this number. So the counter does not overflow: one that goes round at a greater number ends the
search with the same number. -/
theorem name_search_ends {calls : List Call} {name : String} (h : name ∈ (run calls).names) :
    (run calls).names.Nodup ∧
      ∃ n, 2 ≤ n ∧ n ≤ (run calls).names.length + 1 ∧
        uniqueName (run calls).names name = suffixed name n ∧
        n ∈ search (· + 1) (run calls).names name 2 ∧
        ∀ size, (run calls).names.length + 1 < size →
          n ∈ search (fun i => (i + 1) % size) (run calls).names name 2 := by
  obtain ⟨n, hlow, hhigh, hanswer, hends⟩ := exists_mem_search h
  refine ⟨nodup_names_run calls, n, hlow, hhigh, hanswer, hends _ fun _ _ => rfl, ?_⟩
  intro size hsize
  apply hends
  intro m hm
  exact Nat.mod_eq_of_lt (by omega)

/-- The bound is reached where every name is a candidate or the name itself. The field that is lost
at the end takes no name. -/
theorem name_search_ends_lastCandidate :
    let calls : List Call := [.add 1 "id" .identity, .add 1 "id_3" .identity,
      .withFirstFieldId 2147483647, .addUnbound ⟨1, "id", "id", .bucket 4⟩, .add 1 "id" .void]
    let names : List String := ["id", "id_3", "id_2"]
    (run calls).names = names ∧ "id" ∈ (run calls).names ∧ uniqueName names "id" = "id_4" ∧
      names.Nodup ∧ ∃ n, 2 ≤ n ∧ n ≤ names.length + 1 ∧
        uniqueName names "id" = suffixed "id" n ∧ n ∈ search (· + 1) names "id" 2 ∧
        ∀ size, names.length + 1 < size → n ∈ search (fun i => (i + 1) % size) names "id" 2 := by
  intro calls names
  have hnames : (run calls).names = names := by decide
  have htaken : "id" ∈ (run calls).names := by decide
  have hends := name_search_ends htaken
  rw [hnames] at hends
  exact ⟨hnames, htaken, by decide, hends⟩

end Partitioning.PartitionSpec
