import Mathlib.Data.List.DropRight
import Mathlib.Data.List.Nodup
import Mathlib.Data.String.Basic
import Partitioning.Json

/-!
# Canonical JSON values

Putting members in order keeps one member for each key: the keys increase, and nothing is lost when
they were distinct. A value in canonical form is its own canonical form.
-/

namespace Partitioning.Json

section Members

variable {α : Type} {m : List (String × α)}

/-- Members in increasing order of keys, each key once. -/
def Increasing (m : List (String × α)) : Prop :=
  m.Pairwise fun p q => p.1 < q.1

/-- Each key stands once. -/
theorem Increasing.keys_nodup (h : Increasing m) : (m.map Prod.fst).Nodup :=
  List.pairwise_map.mpr (h.imp ne_of_lt)

/-- Nothing but the new member is entered. -/
theorem mem_of_mem_insertMember {key : String} {value : α} {p : String × α}
    (h : p ∈ insertMember key value m) : p = (key, value) ∨ p ∈ m := by
  induction m with
  | nil => exact .inl (List.mem_singleton.mp h)
  | cons q rest ih =>
      rw [insertMember] at h
      split at h
      · exact List.mem_cons.mp h
      · split at h
        · obtain rfl | h := List.mem_cons.mp h
          · exact .inl rfl
          · exact .inr (List.mem_cons_of_mem _ h)
        · obtain rfl | h := List.mem_cons.mp h
          · exact .inr List.mem_cons_self
          · exact (ih h).imp id (List.mem_cons_of_mem _)

/-- A member is entered where the keys stay in order. -/
theorem Increasing.insertMember (h : Increasing m) (key : String) (value : α) :
    Increasing (insertMember key value m) := by
  induction m with
  | nil => exact List.pairwise_singleton _ _
  | cons q rest ih =>
      obtain ⟨hhead, hrest⟩ := List.pairwise_cons.mp h
      rw [Json.insertMember]
      split
      · next hlt =>
          refine List.pairwise_cons.mpr ⟨List.forall_mem_cons.mpr ⟨hlt, ?_⟩, h⟩
          exact fun p hp => hlt.trans (hhead p hp)
      · next hnot =>
          split
          · next heq => exact List.pairwise_cons.mpr ⟨fun p hp => heq ▸ hhead p hp, hrest⟩
          · next hne =>
              refine List.pairwise_cons.mpr ⟨fun p hp => ?_, ih hrest⟩
              obtain rfl | hp := mem_of_mem_insertMember hp
              · exact (not_lt.mp hnot).lt_of_ne' hne
              · exact hhead p hp

/-- A key beyond all others is entered at the end. -/
theorem insertMember_eq_concat {key : String} (h : ∀ p ∈ m, p.1 < key) (value : α) :
    insertMember key value m = m ++ [(key, value)] := by
  induction m with
  | nil => rfl
  | cons q rest ih =>
      obtain ⟨hhead, hrest⟩ := List.forall_mem_cons.mp h
      rw [insertMember, if_neg hhead.asymm, if_neg hhead.ne', ih hrest, List.cons_append]

/-- A new key replaces no member. -/
theorem insertMember_perm {key : String} (h : key ∉ m.map Prod.fst) (value : α) :
    (insertMember key value m).Perm ((key, value) :: m) := by
  induction m with
  | nil => exact .refl _
  | cons q rest ih =>
      obtain ⟨hne, hrest⟩ := List.ne_and_not_mem_of_not_mem_cons h
      rw [insertMember]
      rw [if_neg hne]
      split
      · exact .refl _
      · exact ((ih hrest).cons q).trans (.swap ..)

theorem lookup_cons_eq (k : String) (p : String × α) (rest : List (String × α)) :
    (p :: rest).lookup k = if k = p.1 then some p.2 else rest.lookup k := by
  rw [List.lookup_cons]
  by_cases hk : k = p.1
  · rw [if_pos hk, beq_iff_eq.mpr hk]
  · rw [if_neg hk, beq_false_of_ne hk]

/-- Entering a member changes what is found under its key and nothing else. -/
theorem lookup_insertMember (key k : String) (value : α) (m : List (String × α)) :
    (insertMember key value m).lookup k = if k = key then some value else m.lookup k := by
  induction m with
  | nil => exact lookup_cons_eq k (key, value) []
  | cons q rest ih =>
      rw [insertMember]
      split
      · exact lookup_cons_eq k (key, value) (q :: rest)
      · split
        · next heq =>
            -- The member in whose place the new one stands has its key.
            rw [lookup_cons_eq, lookup_cons_eq, heq]
            split
            · rfl
            · rfl
        · next hne =>
            rw [lookup_cons_eq, lookup_cons_eq, ih]
            by_cases hk : k = key
            · rw [if_pos hk, if_pos hk, if_neg (hk ▸ hne)]
            · rw [if_neg hk, if_neg hk]

theorem ordered_concat (m : List (String × α)) (p : String × α) :
    ordered (m ++ [p]) = insertMember p.1 p.2 (ordered m) := by
  rw [ordered, List.foldl_append, List.foldl_cons, List.foldl_nil, ordered]

/-- Members that are put in order have increasing keys. -/
theorem increasing_ordered (m : List (String × α)) : Increasing (ordered m) := by
  induction m using List.reverseRecOn with
  | nil => exact .nil
  | append_singleton m p ih =>
      rw [ordered_concat]
      exact ih.insertMember p.1 p.2

theorem mem_of_mem_ordered {p : String × α} (h : p ∈ ordered m) : p ∈ m := by
  induction m using List.reverseRecOn with
  | nil => exact h
  | append_singleton m q ih =>
      rw [ordered_concat] at h
      rw [List.mem_append, List.mem_singleton]
      exact (mem_of_mem_insertMember h).symm.imp_left ih

/-- Members that are in order stay as they are. -/
theorem Increasing.ordered_eq (h : Increasing m) : ordered m = m := by
  induction m using List.reverseRecOn with
  | nil => rfl
  | append_singleton m p ih =>
      obtain ⟨hinit, _, hlast⟩ := List.pairwise_append.mp h
      rw [ordered_concat, ih hinit]
      exact insertMember_eq_concat (fun q hq => hlast q hq p List.mem_cons_self) p.2

/-- Members with distinct keys are only put in order. -/
theorem ordered_perm (h : (m.map Prod.fst).Nodup) : (ordered m).Perm m := by
  induction m using List.reverseRecOn with
  | nil => exact .refl _
  | append_singleton m p ih =>
      rw [List.map_append, List.nodup_append'] at h
      obtain ⟨hinit, _, hdisjoint⟩ := h
      have hperm := ih hinit
      have hfresh : p.1 ∉ (ordered m).map Prod.fst := fun hmem =>
        hdisjoint ((hperm.map Prod.fst).mem_iff.mp hmem) List.mem_cons_self
      rw [ordered_concat]
      exact ((insertMember_perm hfresh p.2).trans (hperm.cons p)).trans
        (List.perm_append_singleton p m).symm

/-- Among distinct keys, looking one up finds its member. -/
theorem lookup_eq_some_iff_mem (h : (m.map Prod.fst).Nodup) {key : String} {value : α} :
    m.lookup key = some value ↔ (key, value) ∈ m := by
  induction m with
  | nil => simp
  | cons q rest ih =>
      obtain ⟨hfresh, hrest⟩ := List.nodup_cons.mp h
      rw [List.lookup_cons, List.mem_cons, Prod.ext_iff]
      by_cases hkey : key = q.1
      · have hother : (key, value) ∉ rest := fun hmem =>
          hfresh (hkey ▸ List.mem_map_of_mem (f := Prod.fst) hmem)
        simp [hkey ▸ hother, hkey, eq_comm]
      · rw [beq_false_of_ne hkey]
        simp [ih hrest, hkey]

/-- With distinct keys the order of members does not matter to a look-up. -/
theorem lookup_perm {m' : List (String × α)} (hperm : m.Perm m') (h : (m.map Prod.fst).Nodup)
    (key : String) : m.lookup key = m'.lookup key := by
  have h' : (m'.map Prod.fst).Nodup := (hperm.map Prod.fst).nodup_iff.mp h
  ext value
  rw [lookup_eq_some_iff_mem h, lookup_eq_some_iff_mem h', hperm.mem_iff]

/-- With distinct keys a member stands alone under its key. -/
theorem filter_key_eq_singleton (h : (m.map Prod.fst).Nodup) {key : String} {value : α}
    (hmem : (key, value) ∈ m) : m.filter (·.1 == key) = [(key, value)] := by
  induction m with
  | nil => cases hmem
  | cons q rest ih =>
      obtain ⟨hfresh, hrest⟩ := List.nodup_cons.mp h
      obtain rfl | hmem := List.mem_cons.mp hmem
      · have hnone : rest.filter (·.1 == key) = [] := by
          refine List.filter_eq_nil_iff.mpr fun p hp hkey => hfresh ?_
          exact List.mem_map.mpr ⟨p, hp, eq_of_beq hkey⟩
        rw [List.filter_cons, if_pos (beq_self_eq_true key), hnone]
      · have hne : ¬ (q.1 == key) = true := fun hkey =>
          hfresh (List.mem_map.mpr ⟨_, hmem, (eq_of_beq hkey).symm⟩)
        rw [List.filter_cons, if_neg hne, ih hrest hmem]

theorem lookup_map_values {β : Type} (f : α → β) (m : List (String × α)) (key : String) :
    (m.map fun p => (p.1, f p.2)).lookup key = (m.lookup key).map f := by
  induction m with
  | nil => rfl
  | cons q rest ih =>
      rw [List.map_cons, List.lookup_cons, List.lookup_cons, ih]
      split <;> rfl

end Members

theorem canonicalItems_eq_map (items : List Json) : canonicalItems items = items.map canonical := by
  induction items with
  | nil => rfl
  | cons j rest ih => rw [canonicalItems, ih, List.map_cons]

theorem canonicalMembers_eq_map (m : List (String × Json)) :
    canonicalMembers m = m.map fun p => (p.1, p.2.canonical) := by
  induction m with
  | nil => rfl
  | cons p rest ih => rw [canonicalMembers, ih, List.map_cons]

/-- In canonical form, members with distinct keys are only put in order, value by value. -/
theorem ordered_canonicalMembers_perm {m : List (String × Json)} (h : (m.map Prod.fst).Nodup) :
    (ordered (canonicalMembers m)).Perm (m.map fun p => (p.1, p.2.canonical)) := by
  rw [canonicalMembers_eq_map]
  refine ordered_perm ?_
  rw [List.map_map]
  exact h

/-- Members whose values are in canonical form, in canonical order. -/
def CanonicalMembers (m : List (String × Json)) : Prop :=
  Increasing m ∧ ∀ p ∈ m, p.2.canonical = p.2

/-- An object of canonical members is canonical. -/
theorem CanonicalMembers.canonical_eq {m : List (String × Json)} (h : CanonicalMembers m) :
    (Json.object m).canonical = .object m := by
  have hvalues : m.map (fun p => (p.1, p.2.canonical)) = m := by
    have hself : ∀ p ∈ m, (p.1, p.2.canonical) = id p := fun p hp => Prod.ext rfl (h.2 p hp)
    rw [List.map_congr_left hself, List.map_id]
  rw [canonical, canonicalMembers_eq_map, hvalues, h.1.ordered_eq]

/-- Canonical values that are put in order are the members of a canonical object. -/
theorem canonicalMembers_ordered {m : List (String × Json)}
    (h : ∀ p ∈ m, p.2.canonical = p.2) : CanonicalMembers (ordered m) :=
  ⟨increasing_ordered m, fun p hp => h p (mem_of_mem_ordered hp)⟩

mutual
/-- Canonical form is reached in one step, at any depth. -/
theorem canonical_canonical (j : Json) : j.canonical.canonical = j.canonical := by
  cases j with
  | null => rfl
  | bool b => rfl
  | number n => rfl
  | string s => rfl
  | array items =>
      rw [canonical, canonical, canonicalItems_canonicalItems items]
  | object members =>
      rw [canonical]
      exact (canonicalMembers_ordered (canonical_of_mem_canonicalMembers members)).canonical_eq

theorem canonicalItems_canonicalItems (items : List Json) :
    canonicalItems (canonicalItems items) = canonicalItems items := by
  cases items with
  | nil => rfl
  | cons j rest =>
      rw [canonicalItems, canonicalItems, canonical_canonical j, canonicalItems_canonicalItems rest]

theorem canonical_of_mem_canonicalMembers (members : List (String × Json)) :
    ∀ p ∈ canonicalMembers members, p.2.canonical = p.2 := by
  cases members with
  | nil => simp [canonicalMembers]
  | cons p rest =>
      obtain ⟨key, j⟩ := p
      exact List.forall_mem_cons.mpr
        ⟨canonical_canonical j, canonical_of_mem_canonicalMembers rest⟩
end

end Partitioning.Json
