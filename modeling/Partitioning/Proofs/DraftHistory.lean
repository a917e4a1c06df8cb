import Mathlib.Data.List.DropRight
import Partitioning.Proofs.Draft
import Partitioning.Proofs.Traversal

/-!
# Histories of drafts

A draft is called in any order, and what it holds afterwards can be read off the calls. The id that
is due is the first field id that was set last, and one more for every field since. A draft places
every field it was asked for under the id that was due, or it remembers that there was no such id.
-/

namespace Partitioning.PartitionSpec

/-- The calls that a spec can be built with. -/
inductive Call where
  | withId (id : Int32)
  | withFirstFieldId (id : Int32)
  | add (sourceId : Int32) (name : String) (transform : Transform)
  | addUnbound (f : UnboundField)

namespace Call

/-- The spec id that a call sets. -/
def id? : Call → Option Int32
  | withId id => some id
  | _ => none

/-- The field id that a call makes due. -/
def firstFieldId? : Call → Option Int32
  | withFirstFieldId id => some id
  | _ => none

/-- Whether a call adds a field. -/
def adds : Call → Bool
  | add .. | addUnbound _ => true
  | _ => false

/-- The field that a call asks for while the id `due` is due. -/
def request? (due : Int) : Call → Option Request
  | add sourceId name transform => some ⟨due, sourceId, name, transform⟩
  | addUnbound f => some ⟨due, f.sourceId, f.name, f.transform⟩
  | _ => none

/-- Only a call that adds a field makes a request, for the id that is due. -/
theorem request?_eq_some {c : Call} {due : Int} {r : Request} (h : c.request? due = some r) :
    r.due = due ∧ c.adds = true := by
  cases c with
  | add sourceId name transform =>
      obtain rfl := Option.some.inj h
      exact ⟨rfl, rfl⟩
  | addUnbound f =>
      obtain rfl := Option.some.inj h
      exact ⟨rfl, rfl⟩
  | _ => cases h

end Call

/-- What a call does to a draft. -/
def Draft.call (d : Draft) : Call → Draft
  | .withId id => d.withId id
  | .withFirstFieldId id => d.withFirstFieldId id
  | .add sourceId name transform => d.add sourceId name transform
  | .addUnbound f => d.addUnbound f

/-- A new draft after some calls. -/
def run (calls : List Call) : Draft :=
  calls.foldl Draft.call {}

theorem run_concat (calls : List Call) (c : Call) : run (calls ++ [c]) = (run calls).call c := by
  rw [run, List.foldl_append, List.foldl_cons, List.foldl_nil, run]

/-- The id that was set last. -/
def specId (calls : List Call) : Int32 :=
  (calls.filterMap Call.id?).getLast?.getD 0

/-- The last call that sets the spec id decides it. -/
theorem specId_concat (calls : List Call) (c : Call) :
    specId (calls ++ [c]) = c.id?.getD (specId calls) := by
  rw [specId, List.filterMap_append, List.getLast?_append]
  cases h : c.id? with
  | none => simp [h, specId]
  | some id => simp [h]

/-- The id that is due after some calls: the first field id that was set last, and one more for
each field that was added since. -/
def dueId (calls : List Call) : Int :=
  ((calls.filterMap Call.firstFieldId?).getLast?.getD firstPartitionId).toInt +
    (calls.rtakeWhile fun c => c.firstFieldId?.isNone).countP Call.adds

/-- A call makes an id due, counts the due id up, or leaves it. -/
theorem dueId_concat (calls : List Call) (c : Call) :
    dueId (calls ++ [c]) =
      match c.firstFieldId? with
      | some id => id.toInt
      | none => dueId calls + if c.adds then 1 else 0 := by
  rw [dueId, List.filterMap_append, List.getLast?_append, List.rtakeWhile_concat]
  cases h : c.firstFieldId? with
  | none =>
      cases hadds : c.adds with
      | true => simp [h, hadds, dueId, Int.add_assoc]
      | false => simp [h, hadds, dueId]
  | some id =>
      have hadds : c.adds = false := by
        cases c with
        | withFirstFieldId id => rfl
        | _ => cases h
      simp [h]

/-- No id below the range is ever due, however often the start is moved. -/
theorem le_dueId (calls : List Call) : -0x80000000 ≤ dueId calls := by
  induction calls using List.reverseRecOn with
  | nil => decide
  | append_singleton calls c ih =>
      rw [dueId_concat]
      split
      · next id _ => exact id.le_toInt
      · split
        · omega
        · omega

/-- The fields that `calls` ask for when they come after the calls `before`. -/
def requestsAfter (before : List Call) : List Call → List Request
  | [] => []
  | c :: rest => (c.request? (dueId before)).toList ++ requestsAfter (before ++ [c]) rest

/-- The fields that a new draft is asked for, each with the id that is due for it. -/
def requests (calls : List Call) : List Request :=
  requestsAfter [] calls

/-- The requests of later calls depend on the calls before them. -/
theorem requestsAfter_append (before calls more : List Call) :
    requestsAfter before (calls ++ more) =
      requestsAfter before calls ++ requestsAfter (before ++ calls) more := by
  induction calls generalizing before with
  | nil => simp [requestsAfter]
  | cons c rest ih =>
      simp only [List.cons_append, requestsAfter, ih, List.append_assoc, List.nil_append]

/-- The requests of a history are those of its beginning, followed by the later ones. -/
theorem requests_append (calls more : List Call) :
    requests (calls ++ more) = requests calls ++ requestsAfter calls more :=
  requestsAfter_append [] calls more

theorem requests_concat (calls : List Call) (c : Call) :
    requests (calls ++ [c]) = requests calls ++ (c.request? (dueId calls)).toList := by
  rw [requests_append, requestsAfter, requestsAfter, List.append_nil]

/-- What a draft holds after some calls. -/
structure Records (calls : List Call) (d : Draft) : Prop where
  id_eq : d.id = specId calls
  nextId_eq : d.nextId = Width.int32? (dueId calls)
  names_eq : d.names = d.fields.map PartitionField.name
  exhausted_iff : d.exhausted = true ↔ ∃ r ∈ requests calls, 0x80000000 ≤ r.due
  -- After a lost field, a draft whose first field id is set again goes on placing fields.
  fields_eq : d.exhausted = false → d.fields = placed [] (requests calls)

namespace Records

variable {calls : List Call} {d : Draft}

/-- A new draft records that nothing was called. -/
theorem new : Records [] {} where
  id_eq := rfl
  nextId_eq := by decide
  names_eq := rfl
  exhausted_iff := by simp [requests, requestsAfter]
  fields_eq _ := rfl

/-- A call that adds a field is recorded as one more request, or as exhaustion when the due id is
out of range. -/
theorem add (h : Records calls d) {c : Call} {sourceId : Int32} {name : String}
    {transform : Transform} (hcall : d.call c = d.add sourceId name transform)
    (hid : c.id? = none) (hfirst : c.firstFieldId? = none) (hadds : c.adds = true)
    (hrequest : c.request? (dueId calls) = some ⟨dueId calls, sourceId, name, transform⟩) :
    Records (calls ++ [c]) (d.call c) := by
  have hspec : specId (calls ++ [c]) = specId calls := by rw [specId_concat, hid, Option.getD_none]
  have hdueNext : dueId (calls ++ [c]) = dueId calls + 1 := by
    rw [dueId_concat, hfirst, hadds]
    rfl
  have hrequests : requests (calls ++ [c]) =
      requests calls ++ [⟨dueId calls, sourceId, name, transform⟩] := by
    rw [requests_concat, hrequest, Option.toList_some]
  by_cases hdue : dueId calls < 0x80000000
  · have hfits : Width.int32? (dueId calls) = some (Int32.ofInt (dueId calls)) :=
      if_pos ⟨le_dueId calls, hdue⟩
    have hstep : d.call c = { d with
        fields := d.fields ++
          [⟨sourceId, Int32.ofInt (dueId calls), uniqueName d.names name, transform⟩]
        names := d.names ++ [uniqueName d.names name]
        nextId := Width.int32? (dueId calls + 1) } := by
      rw [hcall, Draft.add, h.nextId_eq, hfits]
      simp only [Int32.toInt_ofInt_of_le (le_dueId calls) hdue]
    rw [hstep]
    refine ⟨?_, ?_, ?_, ?_, ?_⟩
    · rw [hspec]
      exact h.id_eq
    · rw [hdueNext]
    · rw [List.map_append, h.names_eq]
      rfl
    · rw [hrequests]
      simp only [h.exhausted_iff, List.mem_append, List.mem_singleton, or_and_right, exists_or,
        exists_eq_left, Int.not_le.mpr hdue, or_false]
    · intro hopen
      rw [hrequests, placed_append, ← h.fields_eq hopen, ← h.names_eq]
      rfl
  · have hlost : Width.int32? (dueId calls) = none :=
      Width.int32?_eq_none_iff.mpr (Or.inr (by omega))
    have hstep : d.call c = { d with exhausted := true } := by
      rw [hcall, Draft.add, h.nextId_eq, hlost]
    rw [hstep]
    refine ⟨?_, ?_, h.names_eq, ?_, ?_⟩
    · rw [hspec]
      exact h.id_eq
    · rw [hdueNext, Width.int32?_eq_none_iff.mpr (Or.inr (by omega))]
      exact h.nextId_eq.trans hlost
    · rw [hrequests]
      refine iff_of_true rfl ⟨_, List.mem_append_right _ List.mem_cons_self, ?_⟩
      exact Int.not_lt.mp hdue
    · intro hopen
      cases hopen

/-- Every call is recorded, whichever draft it meets. -/
theorem call (h : Records calls d) (c : Call) : Records (calls ++ [c]) (d.call c) := by
  cases c with
  | withId id =>
      have hdue : dueId (calls ++ [.withId id]) = dueId calls :=
        (dueId_concat calls _).trans (Int.add_zero _)
      have hrequests : requests (calls ++ [.withId id]) = requests calls :=
        (requests_concat calls _).trans (List.append_nil _)
      refine ⟨?_, ?_, h.names_eq, ?_, ?_⟩
      · rw [specId_concat]
        rfl
      · rw [hdue]
        exact h.nextId_eq
      · rw [hrequests]
        exact h.exhausted_iff
      · rw [hrequests]
        exact h.fields_eq
  | withFirstFieldId id =>
      have hrequests : requests (calls ++ [.withFirstFieldId id]) = requests calls :=
        (requests_concat calls _).trans (List.append_nil _)
      refine ⟨?_, ?_, h.names_eq, ?_, ?_⟩
      · rw [specId_concat]
        exact h.id_eq
      · rw [dueId_concat]
        exact (Width.int32?_toInt id).symm
      · rw [hrequests]
        exact h.exhausted_iff
      · rw [hrequests]
        exact h.fields_eq
  | add sourceId name transform => exact h.add rfl rfl rfl rfl rfl
  | addUnbound f => exact h.add rfl rfl rfl rfl rfl

end Records

/-- What a history asked for can be read off the draft it leads to. -/
theorem records_run (calls : List Call) : Records calls (run calls) := by
  induction calls using List.reverseRecOn with
  | nil => exact Records.new
  | append_singleton calls c ih =>
      rw [run_concat]
      exact ih.call c

/-- A draft makes the spec of all its fields, unless one of them was due an id that is none. -/
theorem build_run_eq_ok_iff {calls : List Call} {spec : PartitionSpec} :
    (run calls).build = .ok spec ↔
      (∀ r ∈ requests calls, r.due < 0x80000000) ∧
        spec = ⟨specId calls, placed [] (requests calls)⟩ := by
  have h := records_run calls
  unfold Draft.build
  cases hexhausted : (run calls).exhausted with
  | true =>
      obtain ⟨r, hr, hdue⟩ := h.exhausted_iff.mp hexhausted
      rw [if_pos rfl]
      constructor
      · intro hok
        cases hok
      · rintro ⟨hfits, _⟩
        have hlt := hfits r hr
        omega
  | false =>
      rw [if_neg Bool.false_ne_true, Except.ok.injEq, h.id_eq, h.fields_eq hexhausted, eq_comm]
      refine (and_iff_right ?_).symm
      intro r hr
      by_contra hdue
      have htrue := h.exhausted_iff.mpr ⟨r, hr, Int.not_lt.mp hdue⟩
      rw [hexhausted] at htrue
      cases htrue

/-- Building fails exactly when an id beyond the range was asked for at any time. -/
theorem build_run_eq_error_iff {calls : List Call} :
    (run calls).build = .error .idsExhausted ↔ ∃ r ∈ requests calls, 0x80000000 ≤ r.due := by
  rw [← (records_run calls).exhausted_iff, Draft.build]
  split
  · next hexhausted => exact iff_of_true rfl hexhausted
  · next hopen => exact iff_of_false (fun herror => by cases herror) hopen

/-- A request asks for an id that was due at some point. -/
theorem exists_due_eq {before calls : List Call} :
    ∀ r ∈ requestsAfter before calls, ∃ prior, r.due = dueId prior := by
  induction calls generalizing before with
  | nil => simp [requestsAfter]
  | cons c rest ih =>
      intro r hr
      rw [requestsAfter] at hr
      obtain hr | hr := List.mem_append.mp hr
      · exact ⟨before, (Call.request?_eq_some (Option.mem_toList.mp hr)).1⟩
      · exact ih r hr

theorem le_due {calls : List Call} : ∀ r ∈ requests calls, -0x80000000 ≤ r.due := by
  intro r hr
  obtain ⟨prior, hdue⟩ := exists_due_eq r hr
  exact hdue ▸ le_dueId prior

/-- The fields of a spec stand beside the requests that they come from. -/
theorem places_of_build {calls : List Call} {spec : PartitionSpec}
    (h : (run calls).build = .ok spec) : List.Forall₂ Places (requests calls) spec.fields := by
  obtain ⟨hfits, rfl⟩ := build_run_eq_ok_iff.mp h
  exact forall₂_placed [] fun r hr => ⟨le_due r hr, hfits r hr⟩

/-- A draft fails exactly when some field was due an id beyond the last one, whatever is called
afterwards. Otherwise its spec has one field for each that was asked for, in the same order, with
the id that was due, and the id of the spec that was set last. -/
theorem build_places_every_field (calls : List Call) :
    ((run calls).build = .error .idsExhausted ↔ ∃ r ∈ requests calls, 0x7FFFFFFF < r.due) ∧
      ((∀ r ∈ requests calls, r.due ≤ 0x7FFFFFFF) →
        ∃ spec, (run calls).build = .ok spec ∧ spec.id = specId calls ∧
          List.Forall₂ Places (requests calls) spec.fields) := by
  constructor
  · exact build_run_eq_error_iff
  · intro hfits
    have hbuild := build_run_eq_ok_iff.mpr ⟨fun r hr => Int.lt_add_one_of_le (hfits r hr), rfl⟩
    exact ⟨_, hbuild, rfl, places_of_build hbuild⟩

/-- Setting the first field id again does not bring a lost field back. -/
theorem build_places_every_field_lastId :
    let lost : List Call := [.withFirstFieldId 2147483647, .add 2 "ts_day" .day,
      .add 2 "ts_hour" .hour, .withFirstFieldId 1000, .add 1 "id" .identity]
    let kept : List Call := [.withFirstFieldId 2147483647, .add 2 "ts_day" .day,
      .withFirstFieldId (-5), .withId 3, .addUnbound ⟨1, "id", "id", .identity⟩]
    (run lost).build = .error .idsExhausted ∧ (∀ r ∈ requests kept, r.due ≤ 0x7FFFFFFF) ∧
      ∃ spec, (run kept).build = .ok spec ∧ spec.id = specId kept ∧
        List.Forall₂ Places (requests kept) spec.fields := by
  intro lost kept
  have hlost : ∃ r ∈ requests lost, 0x7FFFFFFF < r.due := by decide
  have hkept : ∀ r ∈ requests kept, r.due ≤ 0x7FFFFFFF := by decide
  exact ⟨(build_places_every_field lost).1.mpr hlost, hkept, (build_places_every_field kept).2 hkept⟩

/-- The due ids grow as long as the first field id is not set again. -/
theorem requestsAfter_increasing (before : List Call) {after : List Call}
    (h : ∀ c ∈ after, c.firstFieldId? = none) :
    (requestsAfter before after).Pairwise (fun q r => q.due < r.due) ∧
      ∀ r ∈ requestsAfter before after, dueId before ≤ r.due := by
  induction after generalizing before with
  | nil => simp [requestsAfter]
  | cons c rest ih =>
      obtain ⟨hgrow, hlater⟩ := ih (before ++ [c]) fun d hd => h d (List.mem_cons_of_mem _ hd)
      have hdue : dueId (before ++ [c]) = dueId before + if c.adds then 1 else 0 := by
        rw [dueId_concat, h c List.mem_cons_self]
      rw [requestsAfter]
      cases hrequest : c.request? (dueId before) with
      | none =>
          refine ⟨hgrow, fun r hr => ?_⟩
          have hnext := hlater r hr
          split at hdue
          · omega
          · omega
      | some r =>
          obtain ⟨hr, hadds⟩ := Call.request?_eq_some hrequest
          rw [hadds, if_pos rfl] at hdue
          simp only [Option.toList_some, List.singleton_append, List.pairwise_cons,
            List.forall_mem_cons]
          refine ⟨⟨fun q hq => ?_, hgrow⟩, by omega, fun q hq => ?_⟩
          · have hnext := hlater q hq
            omega
          · have hnext := hlater q hq
            omega

/-- Field ids differ exactly when the ids that were due do. -/
theorem nodup_ids_iff {calls : List Call} {spec : PartitionSpec}
    (h : (run calls).build = .ok spec) :
    (spec.fields.map PartitionField.id).Nodup ↔ ((requests calls).map Request.due).Nodup := by
  have hdues : spec.fields.map (fun p => p.id.toInt) = (requests calls).map Request.due :=
    map_eq_of_forall₂ (places_of_build h) fun _ _ hplaces => hplaces.id_eq
  have hinjective : Function.Injective Int32.toInt := fun _ _ => Int32.toInt_inj.mp
  rw [← hdues, ← List.nodup_map_iff hinjective, List.map_map]
  rfl

/-- Setting the first field id a second time can give an id away again. -/
theorem field_ids_repeat :
    ∃ spec, (run [.add 2 "ts_day" .day, .withFirstFieldId 1000, .add 2 "ts_hour" .hour]).build =
      .ok spec ∧ ¬ (spec.fields.map PartitionField.id).Nodup := by
  refine ⟨⟨0, [⟨2, 1000, "ts_day", .day⟩, ⟨2, 1000, "ts_hour", .hour⟩]⟩, ?_⟩
  decide

/-- Calls that add nothing make no request. -/
theorem requestsAfter_eq_nil {before calls : List Call} (h : ∀ c ∈ calls, c.adds = false) :
    requestsAfter before calls = [] := by
  induction calls generalizing before with
  | nil => rfl
  | cons c rest ih =>
      rw [requestsAfter, ih fun d hd => h d (List.mem_cons_of_mem _ hd), List.append_nil]
      cases hrequest : c.request? (dueId before) with
      | none => rfl
      | some r =>
          have hadds := (Call.request?_eq_some hrequest).2
          rw [h c List.mem_cons_self] at hadds
          cases hadds

/-- The field ids of a spec are distinct exactly when no id was due twice, and so whenever the first
field id was not set again after a field had been added. -/
theorem field_ids_distinct_iff {calls : List Call} {spec : PartitionSpec}
    (h : (run calls).build = .ok spec) :
    ((spec.fields.map PartitionField.id).Nodup ↔ ((requests calls).map Request.due).Nodup) ∧
      ∀ before after, calls = before ++ after → (∀ c ∈ before, c.adds = false) →
        (∀ c ∈ after, c.firstFieldId? = none) → (spec.fields.map PartitionField.id).Nodup := by
  refine ⟨nodup_ids_iff h, ?_⟩
  rintro before after rfl hbefore hafter
  have hgrow := (requestsAfter_increasing before hafter).1
  have hnone : requests before = [] := requestsAfter_eq_nil hbefore
  rw [nodup_ids_iff h, requests_append, hnone, List.nil_append]
  exact List.pairwise_map.mpr (hgrow.imp Int.ne_of_lt)

theorem field_ids_distinct_laterStart :
    let before : List Call := [.withId 3, .withFirstFieldId 2000]
    let after : List Call := [.add 2 "ts_day" .day, .withId 4, .add 2 "ts_hour" .hour]
    let spec : PartitionSpec := ⟨4, [⟨2, 2000, "ts_day", .day⟩, ⟨2, 2001, "ts_hour", .hour⟩]⟩
    (run (before ++ after)).build = .ok spec ∧
      ((spec.fields.map PartitionField.id).Nodup ↔
        ((requests (before ++ after)).map Request.due).Nodup) ∧
      (∀ c ∈ before, c.adds = false) ∧ (∀ c ∈ after, c.firstFieldId? = none) ∧
      (spec.fields.map PartitionField.id).Nodup := by
  intro before after spec
  have hbuild : (run (before ++ after)).build = .ok spec := by decide
  have hbefore : ∀ c ∈ before, c.adds = false := by simp [before, Call.adds]
  have hafter : ∀ c ∈ after, c.firstFieldId? = none := by simp [after, Call.firstFieldId?]
  obtain ⟨hiff, hdistinct⟩ := field_ids_distinct_iff hbuild
  exact ⟨hbuild, hiff, hbefore, hafter, hdistinct before after rfl hbefore hafter⟩

/-- The names of a spec are distinct, and each is the requested name or the first free suffixed one
beside the names before it. So it depends on the requests up to its own only, and adding fields to
a draft renames none. -/
theorem field_names_minimal {calls : List Call} {spec : PartitionSpec}
    (h : (run calls).build = .ok spec) :
    (spec.fields.map PartitionField.name).Nodup ∧
      spec.fields.length = (requests calls).length ∧
      (∀ i r p, (requests calls)[i]? = some r → spec.fields[i]? = some p →
        ChosenName ((spec.fields.take i).map PartitionField.name) r.name p.name) ∧
      (∀ calls' spec' n, (run calls').build = .ok spec' →
        ((requests calls).map Request.name).take n = ((requests calls').map Request.name).take n →
          (spec.fields.map PartitionField.name).take n =
            (spec'.fields.map PartitionField.name).take n) ∧
      ∀ more spec', (run (calls ++ more)).build = .ok spec' → spec.fields <+: spec'.fields := by
  have hlength := (places_of_build h).length_eq
  obtain ⟨_, rfl⟩ := build_run_eq_ok_iff.mp h
  refine ⟨?_, hlength.symm, ?_, ?_, ?_⟩
  · rw [map_name_placed]
    exact (chosenNames_distinct [] _).1
  · intro i r p hr hp
    exact chosenName_of_placed [] hr hp
  · intro calls' spec' n h' hsame
    obtain ⟨_, rfl⟩ := build_run_eq_ok_iff.mp h'
    rw [map_name_placed, map_name_placed, chosenNames_take, chosenNames_take, hsame]
  · intro more spec' h'
    obtain ⟨_, rfl⟩ := build_run_eq_ok_iff.mp h'
    rw [requests_append, placed_append]
    exact List.prefix_append _ _

theorem field_names_minimal_suffixes :
    let calls : List Call := [.add 1 "id_bucket" (.bucket 4), .add 1 "id_bucket" (.bucket 8),
      .add 1 "id_bucket_2" (.truncate 3), .add 1 "id_bucket" (.bucket 2)]
    let spec : PartitionSpec := ⟨0, [⟨1, 1000, "id_bucket", .bucket 4⟩,
      ⟨1, 1001, "id_bucket_2", .bucket 8⟩, ⟨1, 1002, "id_bucket_2_2", .truncate 3⟩,
      ⟨1, 1003, "id_bucket_3", .bucket 2⟩]⟩
    (run calls).build = .ok spec ∧ (spec.fields.map PartitionField.name).Nodup ∧
      ChosenName ["id_bucket", "id_bucket_2"] "id_bucket_2" "id_bucket_2_2" ∧
      ChosenName ["id_bucket", "id_bucket_2", "id_bucket_2_2"] "id_bucket" "id_bucket_3" := by
  intro calls spec
  have hbuild : (run calls).build = .ok spec := by decide
  obtain ⟨hdistinct, _, hchosen, _⟩ := field_names_minimal hbuild
  exact ⟨hbuild, hdistinct, hchosen 2 _ _ rfl rfl, hchosen 3 _ _ rfl rfl⟩

/-- The requests of descriptors that come one after the other, from the due id on. -/
def numbered (due : Int) : List UnboundField → List Request
  | [] => []
  | u :: rest => ⟨due, u.sourceId, u.name, u.transform⟩ :: numbered (due + 1) rest

/-- Descriptors that are added one after the other ask for one id after the other. -/
theorem requestsAfter_addUnbound (before : List Call) (us : List UnboundField) :
    requestsAfter before (us.map .addUnbound) = numbered (dueId before) us := by
  induction us generalizing before with
  | nil => rfl
  | cons u rest ih =>
      have hdue : dueId (before ++ [.addUnbound u]) = dueId before + 1 := dueId_concat before _
      rw [List.map_cons, requestsAfter, ih, hdue]
      rfl

/-- The request at a position asks for the first id plus the position. -/
theorem numbered_getElem? (due : Int) (us : List UnboundField) (i : Nat) :
    (numbered due us)[i]? = us[i]?.map fun u => ⟨due + i, u.sourceId, u.name, u.transform⟩ := by
  induction us generalizing due i with
  | nil => rfl
  | cons u rest ih =>
      cases i with
      | zero => simp [numbered]
      | succ i =>
          have hdue : due + 1 + (i : Int) = due + ((i + 1 : Nat) : Int) := by omega
          rw [numbered, List.getElem?_cons_succ, List.getElem?_cons_succ, ih, hdue]

theorem length_numbered (due : Int) (us : List UnboundField) :
    (numbered due us).length = us.length := by
  induction us generalizing due with
  | nil => rfl
  | cons u rest ih => rw [numbered, List.length_cons, List.length_cons, ih]

/-- A run of ids is in range exactly when the id after its last one is at most one beyond it. -/
theorem numbered_fits_iff {due : Int} (hdue : due ≤ 0x80000000) {us : List UnboundField} :
    (∀ r ∈ numbered due us, r.due < 0x80000000) ↔ due + us.length ≤ 0x80000000 := by
  induction us generalizing due with
  | nil => simpa [numbered] using hdue
  | cons u rest ih =>
      rw [numbered, List.forall_mem_cons, List.length_cons]
      change due < 0x80000000 ∧ _ ↔ _
      constructor
      · rintro ⟨hhead, hrest⟩
        have hroom := (ih (by omega)).mp hrest
        omega
      · intro hroom
        exact ⟨by omega, (ih (by omega)).mpr (by omega)⟩

/-- The placed fields have the sources and transforms of the descriptors, in their order. -/
theorem forall₂_placed_numbered (taken : List String) (due : Int) (us : List UnboundField) :
    List.Forall₂ (fun u p => p.sourceId = u.sourceId ∧ p.transform = u.transform) us
      (placed taken (numbered due us)) := by
  induction us generalizing taken due with
  | nil => exact .nil
  | cons u rest ih => exact .cons ⟨rfl, rfl⟩ (ih _ _)

end Partitioning.PartitionSpec
