import Partitioning.Json.Reader
import Partitioning.Proofs.Json
import Partitioning.Proofs.Traversal
import Partitioning.Proofs.Width

/-!
# Readers

What a reader makes of the canonical form of a value, part by part: a list is read item by item and
a record by the look-up of its members. What a reader ensures of its results, it ensures inside
every container too, and what it refuses, every container refuses.
-/

namespace Partitioning.Json

namespace Document

mutual
/-- A value is the document of a value: nothing is lost on the way. -/
theorem toJson_ofJson (j : Json) : toJson (ofJson j) = .ok j := by
  cases j with
  | array items => rw [ofJson, toJson, toItems_ofItems items]; rfl
  | object members => rw [ofJson, toJson, toMembers_ofMembers members]; rfl
  | _ => rfl

theorem toItems_ofItems (items : List Json) : toItems .known (ofItems items) = .ok items := by
  cases items with
  | nil => rfl
  | cons j rest => rw [ofItems, toItems, toJson_ofJson j, toItems_ofItems rest]; rfl

theorem toMembers_ofMembers (members : List (String × Json)) :
    toMembers .known (ofMembers members) = .ok members := by
  cases members with
  | nil => rfl
  | cons m rest =>
      obtain ⟨key, j⟩ := m
      rw [ofMembers, toMembers, toJson_ofJson j, toMembers_ofMembers rest]; rfl
end

theorem ofItems_eq_map (items : List Json) : ofItems items = items.map ofJson := by
  induction items with
  | nil => rfl
  | cons j rest ih => rw [ofItems, ih, List.map_cons]

theorem ofMembers_eq_map (members : List (String × Json)) :
    ofMembers members = members.map fun m => (.ok m.1, ofJson m.2) := by
  induction members with
  | nil => rfl
  | cons m rest ih => rw [ofMembers, ih, List.map_cons]

end Document

namespace Reader

variable {α : Type} {r : Reader α}

section Ensures

variable {P : α → Prop}

/-- Whatever is read, from whatever document, has the property. -/
def Ensures (r : Reader α) (P : α → Prop) : Prop :=
  ∀ d a, r d = .ok a → P a

/-- What holds of every item that is read holds of the items of a list. -/
theorem Ensures.listItems (h : r.Ensures P) {ending : Ending} {items : List Document}
    {as : List α} (has : listItems r ending items = .ok as) : ∀ a ∈ as, P a := by
  induction items generalizing as with
  | nil =>
      obtain ⟨_, _, rfl⟩ := map_eq_ok_iff.mp has
      simp
  | cons d rest ih =>
      obtain ⟨a, ha, has⟩ := bind_eq_ok_iff.mp has
      obtain ⟨more, hmore, has⟩ := bind_eq_ok_iff.mp has
      obtain rfl := Except.ok.inj has
      exact List.forall_mem_cons.mpr ⟨h d a ha, ih hmore⟩

/-- A list that is read holds items that were read. -/
theorem Ensures.list (h : r.Ensures P) : (list r).Ensures fun as => ∀ a ∈ as, P a := by
  intro d as has
  cases d with
  | array items ending => exact h.listItems has
  | _ => cases has

/-- What holds of every value that is read holds of the values of a map. -/
theorem Ensures.mapMembers (h : r.Ensures P) {ending : Ending}
    {members : List (Except Fault String × Document)} {m : List (String × α)}
    (hm : mapMembers r ending members = .ok m) : ∀ p ∈ m, P p.2 := by
  induction members generalizing m with
  | nil =>
      obtain ⟨_, _, rfl⟩ := map_eq_ok_iff.mp hm
      simp
  | cons member rest ih =>
      obtain ⟨_ | key, d⟩ := member
      · cases hm
      · obtain ⟨a, ha, hm⟩ := bind_eq_ok_iff.mp hm
        obtain ⟨more, hmore, hm⟩ := bind_eq_ok_iff.mp hm
        obtain rfl := Except.ok.inj hm
        exact List.forall_mem_cons.mpr ⟨h d a ha, ih hmore⟩

/-- A map that is read has its keys in order, and values that were read. -/
theorem Ensures.map (h : r.Ensures P) :
    (map r).Ensures fun m => Increasing m ∧ ∀ p ∈ m, P p.2 := by
  intro d m hm
  cases d with
  | object members ending =>
      obtain ⟨written, hwritten, rfl⟩ := map_eq_ok_iff.mp hm
      exact ⟨increasing_ordered written, fun p hp =>
        h.mapMembers hwritten p (mem_of_mem_ordered hp)⟩
  | _ => cases hm

/-- What holds of every value that is read holds of a required member. -/
theorem Ensures.get (h : r.Ensures P) {fields : Fields} {name : String} {a : α}
    (ha : fields.get name r = .ok a) : P a := by
  unfold Fields.get at ha
  split at ha
  · next d _ => exact h d a ha
  · cases ha

/-- It holds of an optional member when it holds of the default. -/
theorem Ensures.getD (h : r.Ensures P) {fields : Fields} {name : String} {default a : α}
    (hdefault : P default) (ha : fields.getD name r default = .ok a) : P a := by
  unfold Fields.getD at ha
  split at ha
  · next d _ => exact h d a ha
  · obtain rfl := Except.ok.inj ha
    exact hdefault

/-- Any value is read, in canonical form. -/
theorem json_ensures : json.Ensures fun j => j.canonical = j := by
  intro d j hj
  unfold json at hj
  split at hj
  · obtain rfl := Except.ok.inj hj
    exact canonical_canonical _
  · cases hj

end Ensures

section Reads

/-- The canonical form of the value is read as `a`. -/
def Reads (r : Reader α) (j : Json) (a : α) : Prop :=
  readValue r j.canonical = .ok a

/-- An integer that fits is read back. -/
theorem reads_integer {fit : Int → Option α} {expected : String} {n : Int} {a : α}
    (h : fit n = some a) : (integer fit expected).Reads (.int n) a := by
  change integer fit expected (.scalar (.number (.integer n))) = .ok a
  rw [integer, h]

theorem reads_int32 (i : Int32) : int32.Reads (.int i.toInt) i :=
  reads_integer (Width.int32?_toInt i)

theorem reads_int64 (i : Int64) : int64.Reads (.int i.toInt) i :=
  reads_integer (Width.int64?_eq_some_iff.mpr rfl)

theorem reads_string (s : String) : string.Reads (.string s) s :=
  rfl

theorem reads_bool (b : Bool) : bool.Reads (.bool b) b :=
  rfl

/-- A missing text is written as null and read as missing. -/
theorem reads_optional_string (o : Option String) :
    (optional string).Reads (.ofOption (o.map .string)) o := by
  cases o <;> rfl

/-- A list is read back if each of its items is. -/
theorem reads_list {write : α → Json} {as : List α} (h : ∀ a ∈ as, r.Reads (write a) a) :
    (list r).Reads (.array (as.map write)) as := by
  rw [Reads, canonical, canonicalItems_eq_map]
  change listItems r .known (Document.ofItems ((as.map write).map canonical)) = .ok as
  induction as with
  | nil => rfl
  | cons a as ih =>
      obtain ⟨hhead, htail⟩ := List.forall_mem_cons.mp h
      rw [List.map_cons, List.map_cons, Document.ofItems, listItems, ih htail]
      exact bind_eq_ok_iff.mpr ⟨a, hhead, rfl⟩

/-- The members of an object are read as its canonical members. -/
theorem mapMembers_json (m : List (String × Json)) :
    mapMembers json .known (Document.ofMembers m) = .ok (canonicalMembers m) := by
  induction m with
  | nil => rfl
  | cons p rest ih =>
      rw [Document.ofMembers, mapMembers, ih, json, Document.toJson_ofJson]
      rfl

/-- Members in canonical form are read as they are. -/
theorem reads_map_json {m : List (String × Json)} (h : CanonicalMembers m) :
    (Reader.map json).Reads (.object m) m := by
  have hself : ordered (canonicalMembers m) = m := Json.object.inj (h.canonical_eq)
  rw [Reads, h.canonical_eq]
  change (mapMembers json .known (Document.ofMembers m)).map ordered = .ok m
  rw [mapMembers_json]
  exact congrArg Except.ok hself

variable {m : List (String × Json)}

/-- The fields read off a record that is written with the members `m`. -/
def Fields.From (fields : Fields) (m : List (String × Json)) : Prop :=
  ∀ key, fields.lookup key = (m.lookup key).map fun j => Document.ofJson j.canonical

/-- Every member belongs to a slot and passes its test. -/
def Fit (slots : List Slot) (m : List (String × Json)) : Prop :=
  ∀ p ∈ m, ∃ slot, slots.find? (·.name == p.1) = some slot ∧
    slot.check (Document.ofJson p.2) = .ok ()

/-- Members that fit their slots are all taken in, in their order, after those already seen. -/
theorem objectFields_ofMembers {slots : List Slot} (seen : Fields)
    (hkeys : (m.map Prod.fst).Nodup) (hfresh : ∀ p ∈ m, p.1 ∉ seen.map Prod.fst)
    (hfit : Fit slots m) :
    objectFields slots .known seen (Document.ofMembers m) =
      .ok (seen ++ m.map fun p => (p.1, Document.ofJson p.2)) := by
  induction m generalizing seen with
  | nil => exact congrArg Except.ok (List.append_nil seen).symm
  | cons p rest ih =>
      obtain ⟨hkey, hrest⟩ := List.nodup_cons.mp hkeys
      obtain ⟨hnew, hfresh⟩ := List.forall_mem_cons.mp hfresh
      obtain ⟨⟨slot, hslot, hcheck⟩, hfit⟩ := List.forall_mem_cons.mp hfit
      have hunseen : seen.any (·.1 == p.1) = false := by
        refine List.any_eq_false.mpr fun q hq heq => hnew ?_
        exact List.mem_map.mpr ⟨q, hq, eq_of_beq heq⟩
      have hstill : ∀ q ∈ rest, q.1 ∉ (seen ++ [(p.1, Document.ofJson p.2)]).map Prod.fst := by
        intro q hq
        have hne : q.1 ≠ p.1 := fun he => hkey (he ▸ List.mem_map_of_mem hq)
        simp [hfresh q hq, hne]
      rw [Document.ofMembers, objectFields]
      simp only [hslot, hunseen, hcheck]
      refine (ih _ hrest hstill hfit).trans ?_
      simp only [List.append_assoc, List.map_cons, List.singleton_append]

/-- A record is read from members that fit, and their order does not matter. -/
theorem record_canonical (title : String) {slots : List Slot} (hkeys : (m.map Prod.fst).Nodup)
    (hfit : Fit slots (m.map fun p => (p.1, p.2.canonical))) :
    ∃ fields : Fields, readValue (record title slots) (Json.object m).canonical = .ok fields ∧
      fields.From m := by
  have hperm := ordered_canonicalMembers_perm hkeys
  have hnodup : ((ordered (canonicalMembers m)).map Prod.fst).Nodup :=
    (increasing_ordered _).keys_nodup
  have hread := objectFields_ofMembers [] hnodup (by simp) fun p hp => hfit p (hperm.mem_iff.mp hp)
  refine ⟨_, hread, fun key => ?_⟩
  rw [List.nil_append, lookup_map_values, lookup_perm hperm hnodup, lookup_map_values,
    Option.map_map]
  rfl

/-- A required member that was written is found and read. -/
theorem Fields.From.get {fields : Fields} (h : fields.From m) {name : String} {j : Json}
    (hj : m.lookup name = some j) {a : α} (ha : r.Reads j a) : fields.get name r = .ok a := by
  rw [Fields.get, h, hj]
  exact ha

/-- An optional member that was written is found and read. -/
theorem Fields.From.getD {fields : Fields} (h : fields.From m) {name : String} {j : Json}
    (hj : m.lookup name = some j) {default a : α} (ha : r.Reads j a) :
    fields.getD name r default = .ok a := by
  rw [Fields.getD, h, hj]
  exact ha

/-- An optional member that was not written has the default. -/
theorem Fields.From.getD_missing {fields : Fields} (h : fields.From m) {name : String}
    (hj : m.lookup name = none) (default : α) : fields.getD name r default = .ok default := by
  rw [Fields.getD, h, hj]
  rfl

/-- A member that can be read passes the check of its slot. -/
theorem Reads.check {j : Json} {a : α} (h : r.Reads j a) :
    (r (Document.ofJson j.canonical)).map (fun _ => ()) = .ok () :=
  map_eq_ok_iff.mpr ⟨a, h, rfl⟩

end Reads

section Refuses

variable {key : String} {slots : List Slot} {slot : Slot}

/-- A list is read only if each of its items is. -/
theorem exists_read_of_listItems {ending : Ending} {items : List Document} {as : List α}
    (h : listItems r ending items = .ok as) : ∀ d ∈ items, ∃ a, r d = .ok a := by
  induction items generalizing as with
  | nil => simp
  | cons d rest ih =>
      obtain ⟨a, ha, h⟩ := bind_eq_ok_iff.mp h
      obtain ⟨more, hmore, _⟩ := bind_eq_ok_iff.mp h
      exact List.forall_mem_cons.mpr ⟨⟨a, ha⟩, ih hmore⟩

/-- A list is read only if each of its items is. -/
theorem exists_read_of_list {items : List Json} {as : List α}
    (h : readValue (list r) (Json.array items).canonical = .ok as) :
    ∀ j ∈ items, ∃ a, readValue r j.canonical = .ok a := by
  rw [canonical, canonicalItems_eq_map] at h
  change listItems r .known (Document.ofItems (items.map canonical)) = .ok as at h
  rw [Document.ofItems_eq_map, List.map_map] at h
  exact fun j hj => exists_read_of_listItems h _ (List.mem_map_of_mem hj)

/-- A record is read only if every member that belongs to a slot passes its test. -/
theorem check_of_objectFields {ending : Ending} {seen fields : Fields}
    {members : List (Except Fault String × Document)} {d : Document}
    (h : objectFields slots ending seen members = .ok fields) (hmem : (.ok key, d) ∈ members)
    (hslot : slots.find? (·.name == key) = some slot) : slot.check d = .ok () := by
  induction members generalizing seen with
  | nil => cases hmem
  | cons member rest ih =>
      obtain heq | hrest := List.mem_cons.mp hmem
      · subst heq
        simp only [objectFields, hslot] at h
        split at h
        · cases h
        · obtain ⟨_, hcheck, _⟩ := bind_eq_ok_iff.mp h
          exact hcheck
      · obtain ⟨_ | name, value⟩ := member
        · cases h
        · rw [objectFields] at h
          split at h
          · split at h
            · cases h
            · exact ih h hrest
          · split at h
            · cases h
            · obtain ⟨_, _, h⟩ := bind_eq_ok_iff.mp h
              exact ih h hrest

/-- A record is read only if each member that has a slot passes its check. -/
theorem check_of_record_canonical {title : String} {m : List (String × Json)} {fields : Fields}
    (hkeys : (m.map Prod.fst).Nodup)
    (h : readValue (record title slots) (Json.object m).canonical = .ok fields) {j : Json}
    (hmem : (key, j) ∈ m) (hslot : slots.find? (·.name == key) = some slot) :
    slot.check (Document.ofJson j.canonical) = .ok () := by
  change objectFields slots .known [] (Document.ofMembers (ordered (canonicalMembers m))) = _ at h
  have hperm := ordered_canonicalMembers_perm hkeys
  have hwritten : (key, j.canonical) ∈ ordered (canonicalMembers m) :=
    hperm.mem_iff.mpr (List.mem_map_of_mem (f := fun p => (p.1, p.2.canonical)) hmem)
  rw [Document.ofMembers_eq_map] at h
  exact check_of_objectFields h (List.mem_map_of_mem hwritten) hslot

end Refuses

end Reader

end Partitioning.Json
