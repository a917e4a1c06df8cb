import Mathlib.Data.List.Nodup
import Mathlib.Data.List.Perm.Basic

/-!
# Lists searched by a key

A search by a key finds a member that has it. Where the keys are distinct, it finds the one member
that has it, in whatever order the members stand.
-/

namespace Partitioning

variable {α κ : Type} [BEq κ] [LawfulBEq κ] {key : α → κ} {l l' : List α} {k : κ} {a : α}

theorem find?_key_sound (h : l.find? (fun x => key x == k) = some a) : a ∈ l ∧ key a = k := by
  have hkey : (key a == k) = true := List.find?_some (p := fun x => key x == k) h
  exact ⟨List.mem_of_find?_eq_some h, eq_of_beq hkey⟩

/-- Searching a list by a key that tells its elements apart. -/
theorem find?_key_eq_some_iff (h : (l.map key).Nodup) :
    l.find? (fun x => key x == k) = some a ↔ a ∈ l ∧ key a = k := by
  constructor
  · exact find?_key_sound
  · rintro ⟨hmem, rfl⟩
    obtain ⟨b, hb⟩ : ∃ b, l.find? (fun x => key x == key a) = some b :=
      Option.isSome_iff_exists.mp (List.find?_isSome.mpr ⟨a, hmem, beq_self_eq_true _⟩)
    obtain ⟨hmem', hkey⟩ := find?_key_sound hb
    rw [hb, List.inj_on_of_nodup_map h hmem' hmem hkey]

omit [BEq κ] [LawfulBEq κ] in
theorem mem_map_keyed_iff : (k, a) ∈ l.map (fun x => (key x, x)) ↔ a ∈ l ∧ key a = k := by
  rw [List.mem_map]
  constructor
  · rintro ⟨b, hb, hpair⟩
    obtain ⟨rfl, rfl⟩ := Prod.mk.inj hpair
    exact ⟨hb, rfl⟩
  · rintro ⟨ha, rfl⟩
    exact ⟨a, ha, rfl⟩

/-- A search by such a key does not depend on the order of the list. -/
theorem find?_key_perm (hperm : l.Perm l') (h : (l.map key).Nodup) (k : κ) :
    l.find? (fun x => key x == k) = l'.find? fun x => key x == k := by
  have h' : (l'.map key).Nodup := (hperm.map key).nodup_iff.mp h
  ext a
  rw [find?_key_eq_some_iff h, find?_key_eq_some_iff h', hperm.mem_iff]

end Partitioning
