import Mathlib.Data.Option.Basic
import Partitioning.DataType.Json
import Partitioning.Proofs.FieldTree
import Partitioning.Proofs.Json
import Partitioning.Proofs.Primitive
import Partitioning.Proofs.Traversal

/-!
# Types in JSON

A type made by the constructors is read back from its JSON value when every decimal in it is in
bounds, and not read at all otherwise. Whatever is read is such a type.
-/

namespace Partitioning

/-- Members of a struct are written one by one. -/
theorem Field.listToJson_eq_map (fields : List Field) :
    listToJson fields = fields.map toJson := by
  induction fields with
  | nil => rfl
  | cons f rest ih => rw [listToJson, ih, List.map_cons]

namespace DataType

/-- The type and the types of the fields inside it, at any depth. -/
def types (t : DataType) : List DataType :=
  t :: t.nested.map Field.type

/-- Every decimal anywhere in the type is in bounds. -/
def InBounds (t : DataType) : Prop :=
  ∀ p, .primitive p ∈ t.types → p.InBounds

/-- The types made by the constructors of structs, lists and maps. -/
inductive Built : DataType → Prop
  | primitive (p : Primitive) : Built (.primitive p)
  | struct {fields : List Field} (h : ∀ f ∈ fields, Built f.type) : Built (.struct fields)
  | list (id : Int32) (required : Bool) {element : DataType} (h : Built element) :
      Built (.list id required element)
  | map (keyId valueId : Int32) (valueRequired : Bool) {key value : DataType} (hkey : Built key)
      (hvalue : Built value) : Built (.map keyId key valueId valueRequired value)

/-- Only a decimal can be out of bounds. -/
theorem inBounds_primitive_iff {p : Primitive} : InBounds (.primitive p) ↔ p.InBounds := by
  simp [InBounds, types, nested]

/-- A type with parts is in bounds when the types of its parts are. -/
theorem inBounds_iff_parts {t : DataType} (h : t.primitive? = none) :
    t.InBounds ↔ ∀ f ∈ t.parts, f.type.InBounds := by
  have hself (p : Primitive) : .primitive p ≠ t := by
    rintro rfl
    cases h
  have hnested : t.nested.map Field.type = t.parts.flatMap fun f => f.type.types := by
    simp only [Field.nested_eq_preorder t, Field.preorder_eq_flatMap, Field.withNested_eq,
      List.map_flatMap, List.map_cons, types]
  simp only [InBounds, types.eq_def t, List.mem_cons, hself, false_or, hnested, List.mem_flatMap]
  constructor
  · intro hall f hf p hp
    exact hall p ⟨f, hf, hp⟩
  · rintro hall p ⟨f, hf, hp⟩
    exact hall f hf p hp

theorem inBounds_struct_iff {fields : List Field} :
    InBounds (.struct fields) ↔ ∀ f ∈ fields, f.type.InBounds :=
  inBounds_iff_parts rfl

theorem inBounds_list_iff {id : Int32} {required : Bool} {element : DataType} :
    InBounds (.list id required element) ↔ element.InBounds := by
  rw [inBounds_iff_parts rfl]
  simp [list, parts, Field.ofElement]

theorem inBounds_map_iff {keyId valueId : Int32} {valueRequired : Bool} {key value : DataType} :
    InBounds (.map keyId key valueId valueRequired value) ↔ key.InBounds ∧ value.InBounds := by
  rw [inBounds_iff_parts rfl]
  simp [map, parts, Field.ofKey, Field.ofMapValue]

/-- The types that JSON can hold. -/
structure Storable (t : DataType) : Prop where
  built : t.Built
  inBounds : t.InBounds

namespace View

/-- The items of an array are viewed one by one. -/
theorem listOfJson_eq_map (items : List Json) : listOfJson items = items.map ofJson := by
  induction items with
  | nil => rfl
  | cons j rest ih => rw [listOfJson, ih, List.map_cons]

/-- The members of an object are viewed one by one, under their keys. -/
theorem membersOfJson_eq_map (members : List (String × Json)) :
    membersOfJson members = members.map fun m => (m.1, ofJson m.2) := by
  induction members with
  | nil => rfl
  | cons m rest ih => rw [membersOfJson, ih, List.map_cons]

/-- What stands alone under a key is a member. -/
theorem mem_of_only?_eq_some {members : Members} {key : String} {v : View}
    (h : members.only? key = some v) : (key, v) ∈ members := by
  unfold Members.only? at h
  split at h
  · next k w hfilter =>
      have hkept : (k, w) ∈ members.filter (·.1 == key) := by
        rw [hfilter]
        exact List.mem_cons_self
      obtain ⟨hmem, hkey⟩ := List.mem_filter.mp hkept
      rw [← Option.some.inj h, ← eq_of_beq hkey]
      exact hmem
  · cases h

/-- Whatever is read off a value holds storable types. -/
structure Sound (v : View) : Prop where
  type : ∀ t, v.type? = some t → t.Storable
  field : ∀ f, v.field? = some f → f.type.Storable
  fields : ∀ fs, v.fields? = some fs → ∀ f ∈ fs, f.type.Storable

/-- A text gives a primitive type in bounds or no type. -/
theorem sound_ofString (s : String) : (ofString s).Sound where
  type t h := by
    obtain ⟨p, hp, rfl⟩ := Option.map_eq_some_iff.mp h
    have hread : Primitive.ofText s = .ok p := by
      cases hs : Primitive.ofText s with
      | error e => simp [hs, Except.toOption] at hp
      | ok q =>
          rw [hs] at hp
          rw [Option.some.inj hp]
    exact ⟨.primitive p, inBounds_primitive_iff.mpr (Primitive.ofText_sound hread)⟩
  field _ h := by cases h
  fields _ h := by cases h

/-- A field that is read from its members in order has a type that can be stored. -/
theorem storable_of_fieldOfItems? {items : List View} (h : ∀ v ∈ items, v.Sound) {f : Field}
    (hf : fieldOfItems? items = some f) : f.type.Storable := by
  unfold fieldOfItems? at hf
  split at hf
  · next id name required type =>
      simp only [Option.bind_eq_bind, Option.bind_eq_some_iff, Option.pure_def,
        Option.some.injEq] at hf
      obtain ⟨_, _, _, _, _, _, t, ht, rfl⟩ := hf
      exact (h type (by simp)).type t ht
  · next id name required type doc =>
      simp only [Option.bind_eq_bind, Option.bind_eq_some_iff, Option.pure_def,
        Option.some.injEq] at hf
      obtain ⟨_, _, _, _, _, _, t, ht, _, _, rfl⟩ := hf
      exact (h type (by simp)).type t ht
  · cases hf

/-- Whatever an array is read as can be stored when that holds of its items. -/
theorem sound_ofItems (json : Json) {items : List View} (h : ∀ v ∈ items, v.Sound) :
    (ofItems json items).Sound where
  type _ ht := by cases ht
  field _ hf := storable_of_fieldOfItems? h hf
  fields fs hfs f hf := by
    obtain ⟨v, hv, hread⟩ := exists_left_of_forall₂ (mapM_eq_some_iff.mp hfs) f hf
    exact (h v hv).field f hread

section Members

variable {members : Members}

/-- The members of a struct were read as fields with types that can be stored. -/
theorem storable_of_struct? (h : ∀ m ∈ members, m.2.Sound) {t : DataType}
    (ht : struct? members = some t) : t.Storable := by
  simp only [struct?, Option.bind_eq_bind, Option.bind_eq_some_iff, Option.pure_def,
    Option.some.injEq] at ht
  obtain ⟨_, _, v, hv, fields, hfields, rfl⟩ := ht
  have hsound := (h _ (mem_of_only?_eq_some hv)).fields fields hfields
  exact ⟨.struct fun f hf => (hsound f hf).built,
    inBounds_struct_iff.mpr fun f hf => (hsound f hf).inBounds⟩

/-- A list is rebuilt from its id and its element, so its field has the fixed name. -/
theorem storable_of_list? (h : ∀ m ∈ members, m.2.Sound) {t : DataType}
    (ht : list? members = some t) : t.Storable := by
  simp only [list?, Option.bind_eq_bind, Option.bind_eq_some_iff, Option.pure_def,
    Option.some.injEq] at ht
  obtain ⟨_, _, _, _, id, _, _, _, required, _, v, hv, element, helement, rfl⟩ := ht
  have hsound := (h _ (mem_of_only?_eq_some hv)).type element helement
  exact ⟨.list id required hsound.built, inBounds_list_iff.mpr hsound.inBounds⟩

/-- A map is rebuilt from two ids and two types, so its fields have the fixed names. -/
theorem storable_of_map? (h : ∀ m ∈ members, m.2.Sound) {t : DataType}
    (ht : map? members = some t) : t.Storable := by
  simp only [map?, Option.bind_eq_bind, Option.bind_eq_some_iff, Option.pure_def,
    Option.some.injEq] at ht
  obtain ⟨_, _, _, _, keyId, _, v, hv, key, hkey, _, _, valueId, _, _, _, required, _, w, hw,
    value, hvalue, rfl⟩ := ht
  have hkeySound := (h _ (mem_of_only?_eq_some hv)).type key hkey
  have hvalueSound := (h _ (mem_of_only?_eq_some hw)).type value hvalue
  exact ⟨.map keyId valueId required hkeySound.built hvalueSound.built,
    inBounds_map_iff.mpr ⟨hkeySound.inBounds, hvalueSound.inBounds⟩⟩

/-- A field that is read from an object has a type that can be stored. -/
theorem storable_of_fieldOfMembers? (h : ∀ m ∈ members, m.2.Sound) {f : Field}
    (hf : fieldOfMembers? members = some f) : f.type.Storable := by
  simp only [fieldOfMembers?, Option.bind_eq_bind, Option.bind_eq_some_iff, Option.pure_def] at hf
  obtain ⟨_, _, _, _, _, _, _, _, _, _, _, _, v, hv, t, ht, hdoc⟩ := hf
  have hsound := (h _ (mem_of_only?_eq_some hv)).type t ht
  split at hdoc
  · simp only [Option.bind_eq_some_iff] at hdoc
    obtain ⟨_, _, _, _, hf⟩ := hdoc
    obtain rfl := Option.some.inj hf
    exact hsound
  · obtain rfl := Option.some.inj hdoc
    exact hsound

/-- Whatever an object is read as can be stored when that holds of its members. -/
theorem sound_ofMembers (json : Json) (h : ∀ m ∈ members, m.2.Sound) :
    (ofMembers json members).Sound where
  type t ht := by
    obtain hstruct | ⟨-, hrest⟩ := Option.or_eq_some_iff.mp ht
    · exact storable_of_struct? h hstruct
    · obtain hlist | ⟨-, hmap⟩ := Option.or_eq_some_iff.mp hrest
      · exact storable_of_list? h hlist
      · exact storable_of_map? h hmap
  field _ hf := storable_of_fieldOfMembers? h hf
  fields _ hfs := by cases hfs

end Members

mutual
/-- Nothing but types that can be stored is read from a value, at any depth. -/
theorem sound_ofJson (j : Json) : (ofJson j).Sound := by
  cases j with
  | string s => exact sound_ofString s
  | array items => exact sound_ofItems _ (sound_listOfJson items)
  | object members => exact sound_ofMembers _ (sound_membersOfJson members)
  | _ => exact ⟨fun _ h => (by cases h), fun _ h => (by cases h), fun _ h => (by cases h)⟩

theorem sound_listOfJson (items : List Json) : ∀ v ∈ listOfJson items, v.Sound := by
  cases items with
  | nil => simp [listOfJson]
  | cons j rest => exact List.forall_mem_cons.mpr ⟨sound_ofJson j, sound_listOfJson rest⟩

theorem sound_membersOfJson (members : List (String × Json)) :
    ∀ m ∈ membersOfJson members, m.2.Sound := by
  cases members with
  | nil => simp [membersOfJson]
  | cons m rest =>
      obtain ⟨key, j⟩ := m
      exact List.forall_mem_cons.mpr ⟨sound_ofJson j, sound_membersOfJson rest⟩
end

/-- The members of an object that is written in canonical form, as they are read. -/
def canonicalMembers (m : List (String × Json)) : Members :=
  membersOfJson (Json.ordered (Json.canonicalMembers m))

/-- The view of an object goes through its members in canonical form. -/
theorem ofJson_canonical_object (m : List (String × Json)) :
    ofJson (Json.object m).canonical =
      ofMembers (Json.object m).canonical (canonicalMembers m) := by
  rw [Json.canonical]
  rfl

/-- A member stands alone under its key when keys are distinct. -/
theorem only?_of_mem {members : Members} (h : (members.map Prod.fst).Nodup) {key : String}
    {v : View} (hmem : (key, v) ∈ members) : members.only? key = some v := by
  rw [Members.only?, Json.filter_key_eq_singleton h hmem]

section Canonical

variable {m : List (String × Json)} (h : (m.map Prod.fst).Nodup)
include h

/-- With distinct keys the canonical members are all members, in another order. -/
theorem canonicalMembers_perm :
    (canonicalMembers m).Perm (m.map fun p => (p.1, ofJson p.2.canonical)) := by
  have hperm := (Json.ordered_canonicalMembers_perm h).map fun p => (p.1, ofJson p.2)
  rw [List.map_map] at hperm
  rw [canonicalMembers, membersOfJson_eq_map]
  exact hperm

/-- What was written under a key is found there in canonical form. -/
theorem only?_canonicalMembers {key : String} {j : Json} (hmem : (key, j) ∈ m) :
    (canonicalMembers m).only? key = some (ofJson j.canonical) := by
  have hperm := canonicalMembers_perm h
  refine only?_of_mem ?_ (hperm.mem_iff.mpr (List.mem_map_of_mem hmem))
  rw [(hperm.map Prod.fst).nodup_iff, List.map_map]
  exact h

/-- Canonical form neither loses nor makes a key. -/
theorem any_canonicalMembers (key : String) :
    (canonicalMembers m).any (·.1 == key) = m.any (·.1 == key) := by
  rw [(canonicalMembers_perm h).any_eq, List.any_map]
  rfl

/-- The kind of a type is told by the word that was written for it. -/
theorem isType_canonicalMembers {written : String} (hmem : ("type", .string written) ∈ m)
    (word : String) : (canonicalMembers m).isType word = (written == word) := by
  rw [Members.isType, only?_canonicalMembers h hmem]
  rfl

/-- A field is read off its members, which may include a doc. -/
theorem fieldOfMembers?_canonicalMembers {id : Int32} {name : String} {required : Bool}
    {type : DataType} (hid : ("id", .int id.toInt) ∈ m) (hname : ("name", .string name) ∈ m)
    (hrequired : ("required", .bool required) ∈ m) (htype : ("type", type.toJson) ∈ m) :
    fieldOfMembers? (canonicalMembers m) =
      (ofJson? type.toJson.canonical).bind fun t =>
        if m.any (·.1 == "doc") then
          ((canonicalMembers m).only? "doc").bind fun v =>
            v.doc?.bind fun doc => some ⟨id, name, required, t, doc⟩
        else some ⟨id, name, required, t, none⟩ := by
  have hread : (ofJson (Json.int id.toInt).canonical).int32? = some id := Width.int32?_toInt id
  simp only [fieldOfMembers?, Option.bind_eq_bind, only?_canonicalMembers h hid,
    only?_canonicalMembers h hname, only?_canonicalMembers h hrequired,
    only?_canonicalMembers h htype, Option.bind_some, hread, any_canonicalMembers h]
  rfl

end Canonical

/-- A field is read back with the type that is read. -/
theorem field?_toJson (f : Field) :
    (ofJson f.toJson.canonical).field? =
      (ofJson? f.type.toJson.canonical).map fun t => { f with type := t } := by
  obtain ⟨id, name, required, type, _ | doc⟩ := f
  all_goals rw [Field.toJson, ofJson_canonical_object, Option.map_eq_bind]
  · exact fieldOfMembers?_canonicalMembers (by simp) (by simp) (by simp) (by simp) (by simp)
  · refine (fieldOfMembers?_canonicalMembers (by simp) (.head _) (.tail _ (.head _))
      (.tail _ (.tail _ (.head _))) (.tail _ (.tail _ (.tail _ (.head _))))).trans ?_
    rw [only?_canonicalMembers (by simp) (j := .string doc) (by simp)]
    rfl

/-- Reading back the members of a struct is reading back the type of each. -/
theorem fields?_listToJson (fields : List Field) :
    (ofJson (Json.array (Field.listToJson fields)).canonical).fields? =
      fields.mapM fun f => (ofJson? f.type.toJson.canonical).map fun t => { f with type := t } := by
  rw [Json.canonical, Json.canonicalItems_eq_map, Field.listToJson_eq_map]
  simp only [ofJson, ofItems, listOfJson_eq_map, List.map_map, List.mapM_map]
  exact congrArg (fields.mapM ·) (funext field?_toJson)

/-- The test for the word of a type, once it is passed. -/
theorem guard_isType {members : Members} {word : String} (h : members.isType word = true)
    {α : Type} (next : Unit → Option α) :
    ((guard (members.isType word) : Option Unit) >>= next) = next () := by
  rw [h]
  rfl

/-- What does not say that it is a struct is not read as one. -/
theorem struct?_eq_none {members : Members} (h : members.isType "struct" = false) :
    struct? members = none := by
  rw [struct?, h]
  rfl

/-- What does not say that it is a list is not read as one. -/
theorem list?_eq_none {members : Members} (h : members.isType "list" = false) :
    list? members = none := by
  rw [list?, h]
  rfl

/-- What does not say that it is a map is not read as one. -/
theorem map?_eq_none {members : Members} (h : members.isType "map" = false) :
    map? members = none := by
  rw [map?, h]
  rfl

end View

section Members

variable {m : List (String × Json)} (h : (m.map Prod.fst).Nodup)
include h

open View

/-- An object with the members of a struct is read as a struct when its fields are read. -/
theorem ofJson?_canonical_struct (htype : ("type", .string "struct") ∈ m) {fields : Json}
    (hfields : ("fields", fields) ∈ m) :
    ofJson? (Json.object m).canonical = (View.ofJson fields.canonical).fields?.map .struct := by
  have hword := isType_canonicalMembers h htype
  simp only [ofJson?, ofJson_canonical_object, ofMembers, list?_eq_none (hword _),
    map?_eq_none (hword _), Option.or_none]
  rw [struct?, guard_isType ((hword _).trans (beq_self_eq_true _))]
  simp only [Option.bind_eq_bind, only?_canonicalMembers h hfields, Option.bind_some,
    Option.map_eq_bind]
  rfl

/-- An object with the members of a list is read as a list when its element is read. -/
theorem ofJson?_canonical_list (htype : ("type", .string "list") ∈ m) {id : Int32}
    {required : Bool} {element : DataType} (hid : ("element-id", .int id.toInt) ∈ m)
    (hrequired : ("element-required", .bool required) ∈ m)
    (helement : ("element", element.toJson) ∈ m) :
    ofJson? (Json.object m).canonical =
      (ofJson? element.toJson.canonical).map (.list id required) := by
  have hword := isType_canonicalMembers h htype
  have hread : (View.ofJson (Json.int id.toInt).canonical).int32? = some id := Width.int32?_toInt id
  simp only [ofJson?, ofJson_canonical_object, ofMembers, struct?_eq_none (hword _),
    map?_eq_none (hword _), Option.none_or, Option.or_none]
  rw [list?, guard_isType ((hword _).trans (beq_self_eq_true _))]
  simp only [Option.bind_eq_bind, only?_canonicalMembers h hid,
    only?_canonicalMembers h hrequired, only?_canonicalMembers h helement, Option.bind_some, hread,
    Option.map_eq_bind]
  rfl

/-- An object with the members of a map is read as a map when its key and value are read. -/
theorem ofJson?_canonical_map (htype : ("type", .string "map") ∈ m) {keyId valueId : Int32}
    {required : Bool} {key value : DataType} (hkeyId : ("key-id", .int keyId.toInt) ∈ m)
    (hkey : ("key", key.toJson) ∈ m) (hvalueId : ("value-id", .int valueId.toInt) ∈ m)
    (hrequired : ("value-required", .bool required) ∈ m) (hvalue : ("value", value.toJson) ∈ m) :
    ofJson? (Json.object m).canonical =
      (ofJson? key.toJson.canonical).bind fun k =>
        (ofJson? value.toJson.canonical).map (.map keyId k valueId required) := by
  have hword := isType_canonicalMembers h htype
  have hread (id : Int32) : (View.ofJson (Json.int id.toInt).canonical).int32? = some id :=
    Width.int32?_toInt id
  simp only [ofJson?, ofJson_canonical_object, ofMembers, struct?_eq_none (hword _),
    list?_eq_none (hword _), Option.none_or]
  rw [map?, guard_isType ((hword _).trans (beq_self_eq_true _))]
  simp only [Option.bind_eq_bind, only?_canonicalMembers h hkeyId, only?_canonicalMembers h hkey,
    only?_canonicalMembers h hvalueId, only?_canonicalMembers h hrequired,
    only?_canonicalMembers h hvalue, Option.bind_some, hread, Option.map_eq_bind]
  rfl

end Members

/-- Reading back a struct comes down to the types of its members. -/
theorem ofJson?_struct (fields : List Field) :
    ofJson? (DataType.struct fields).toJson.canonical =
      (fields.mapM fun f =>
        (ofJson? f.type.toJson.canonical).map fun t => { f with type := t }).map .struct := by
  rw [toJson, ← View.fields?_listToJson]
  exact ofJson?_canonical_struct (by simp) (by simp) (by simp)

/-- Reading back a list comes down to its element. -/
theorem ofJson?_list (id : Int32) (required : Bool) (element : DataType) :
    ofJson? (list id required element).toJson.canonical =
      (ofJson? element.toJson.canonical).map (.list id required) := by
  rw [list, Field.ofElement, toJson]
  exact ofJson?_canonical_list (by simp) (by simp) (by simp) (by simp) (by simp)

/-- Reading back a map comes down to its key and value. -/
theorem ofJson?_map (keyId valueId : Int32) (required : Bool) (key value : DataType) :
    ofJson? (map keyId key valueId required value).toJson.canonical =
      (ofJson? key.toJson.canonical).bind fun k =>
        (ofJson? value.toJson.canonical).map (.map keyId k valueId required) := by
  rw [map, Field.ofKey, Field.ofMapValue, toJson]
  exact ofJson?_canonical_map (by simp) (by simp) (by simp) (by simp) (by simp) (by simp) (by simp)

/-- Every type that is read is made by the constructors and in bounds at every depth. -/
theorem ofJson?_sound {j : Json} {t : DataType} (h : ofJson? j = some t) : t.Storable :=
  (View.sound_ofJson j).type t h

/-- A constructor on top of what is read back under a condition. -/
theorem map_eq_some_iff_of {α β : Type} {o : Option α} {a : α} {p : Prop}
    (h : ∀ {x}, o = some x ↔ x = a ∧ p) (f : α → β) {y : β} :
    o.map f = some y ↔ y = f a ∧ p := by
  simp only [Option.map_eq_some_iff, h]
  constructor
  · rintro ⟨_, ⟨rfl, hp⟩, rfl⟩
    exact ⟨rfl, hp⟩
  · rintro ⟨rfl, hp⟩
    exact ⟨a, ⟨rfl, hp⟩, rfl⟩

/-- A type made by the constructors is read back as itself when every decimal in it is in bounds,
and not at all otherwise. -/
theorem ofJson?_toJson_eq_some_iff {t : DataType} (h : t.Built) {u : DataType} :
    ofJson? t.toJson.canonical = some u ↔ u = t ∧ t.InBounds := by
  induction h generalizing u with
  | primitive p =>
      have hread : ofJson? (DataType.primitive p).toJson.canonical =
        (Primitive.ofText p.text).toOption.map .primitive := rfl
      obtain ⟨hin, hout⟩ := p.ofText_text
      rw [hread, inBounds_primitive_iff]
      by_cases hp : p.InBounds
      · simp [hin hp, hp, Except.toOption, eq_comm]
      · simp [hout hp, hp, Except.toOption]
  | @struct fields _ ih =>
      have hfields : ∀ f ∈ fields, ∀ g, (ofJson? f.type.toJson.canonical).map
          (fun t => { f with type := t }) = some g ↔ g = f ∧ f.type.InBounds := by
        rintro ⟨id, name, required, type, doc⟩ hf g
        exact map_eq_some_iff_of (ih _ hf) fun t => Field.mk id name required t doc
      rw [ofJson?_struct, inBounds_struct_iff]
      exact map_eq_some_iff_of (mapM_eq_some_iff_forall hfields) DataType.struct
  | @list id required element _ ih =>
      rw [ofJson?_list, inBounds_list_iff]
      exact map_eq_some_iff_of ih (DataType.list id required)
  | @map keyId valueId required key value _ _ ihkey ihvalue =>
      rw [ofJson?_map, inBounds_map_iff, Option.bind_eq_some_iff]
      simp only [map_eq_some_iff_of ihvalue, ihkey]
      constructor
      · rintro ⟨_, ⟨rfl, hkey⟩, rfl, hvalue⟩
        exact ⟨rfl, hkey, hvalue⟩
      · rintro ⟨rfl, hkey, hvalue⟩
        exact ⟨key, ⟨rfl, hkey⟩, rfl, hvalue⟩

end DataType

end Partitioning
