import ProfileOperator.Desired
import ProfileOperator.Proofs.Timestamps

/-!
# Resources that are read back

What is written of a specification or of a status is read as the same value again.  Every field has its
own way to be left out, and what reading takes a missing field for is what writing leaves out.  The one
value that is lost is a quota that is there and null, and reading never gives it.  Of the metadata around
them only the parts of seconds are lost.
-/

namespace ProfileOperator

namespace Json

variable {α β : Type}

/-- What is written of the value is read as the value, and is then written as before. -/
structure ReadsBack (decode : Json -> Option α) (encode : α -> Json) (value : α) : Prop where
  read : decode (encode value) = some value
  rewritten : (decode (encode value)).map encode = some (encode value)

theorem ReadsBack.of_read {decode : Json -> Option α} {encode : α -> Json} {value : α}
    (h : decode (encode value) = some value) : ReadsBack decode encode value where
  read := h
  rewritten := by rw [h, Option.map_some]

/-! ### Fields that are found -/

@[simp] theorem findField_nil (name : String) : findField name [] = none := rfl

@[simp] theorem findField_cons (name key : String) (value : Json) (rest : List (String × Json)) :
    findField name ((key, value) :: rest) =
      (findField name rest).or (if key = name then some value else none) := by
  rw [findField]
  cases findField name rest with
  | none => rfl
  | some found => rfl

@[simp] theorem findField_append (name : String) (first second : List (String × Json)) :
    findField name (first ++ second) = (findField name second).or (findField name first) := by
  induction first with
  | nil => rw [List.nil_append, findField, Option.or_none]
  | cons field rest ih => rw [List.cons_append, findField_cons, findField_cons, ih, Option.or_assoc]

@[simp] theorem findField_whenSome (name key : String) (encode : α -> Json) (value : Option α) :
    findField name (whenSome key encode value) = if key = name then value.map encode else none := by
  cases value with
  | none => simp [whenSome]
  | some v => simp [whenSome]

@[simp] theorem findField_skipIf (name key : String) (isEmpty : Bool) (encode : α -> Json) (value : α) :
    findField name (skipIf isEmpty key encode value) =
      if key = name ∧ isEmpty = false then some (encode value) else none := by
  cases isEmpty with
  | true => simp [skipIf]
  | false => simp [skipIf]

theorem whenSome_map (name : String) (encode : β -> Json) (f : α -> β) (value : Option α) :
    whenSome name encode (value.map f) = whenSome name (fun v => encode (f v)) value := by
  cases value with
  | none => rfl
  | some v => rfl

/-! ### Fields that are read back -/

theorem nullable_of_ne_null (decode : Json -> Option α) {j : Json} (h : j ≠ .null) :
    nullable decode j = (decode j).map some := by
  cases j with
  | null => exact absurd rfl h
  | _ => rfl

theorem optionalField_eq (name : String) (decode : Json -> Option α) (fields : List (String × Json)) :
    optionalField name decode fields =
      Slot.optional decode ((findField name fields).elim .unnamed .given) := by
  rw [optionalField]
  cases findField name fields with
  | none => rfl
  | some found => rfl

namespace Slot

@[simp] theorem optional_unnamed (decode : Json -> Option α) :
    optional decode unnamed = some none := rfl

@[simp] theorem required_given (decode : Json -> Option α) (value : Json) :
    required decode (given value) = decode value := rfl

@[simp] theorem defaulted_given (default : α) (decode : Json -> Option α) (value : Json) :
    defaulted default decode (given value) = decode value := rfl

theorem required_eq_some {decode : Json -> Option α} {slot : Slot} {value : α}
    (h : required decode slot = some value) : ∃ j, slot = given j ∧ decode j = some value := by
  cases slot with
  | given j => exact ⟨j, rfl, h⟩
  | unnamed => cases h
  | beyond => cases h

theorem optional_eq_some {decode : Json -> Option α} {slot : Slot} {value : Option α}
    (h : optional decode slot = some value) : ∀ v ∈ value, ∃ j ≠ .null, decode j = some v := by
  rintro v rfl
  cases slot with
  | given j =>
      have hnull : j ≠ .null := by
        rintro rfl
        cases h
      rw [optional, nullable_of_ne_null decode hnull, Option.map_eq_some_iff] at h
      obtain ⟨w, hw, hsome⟩ := h
      exact ⟨j, hnull, Option.some.inj hsome ▸ hw⟩
  | unnamed => cases h
  | beyond => cases h

/-- A field that is left out where there is no value is read as its values are if none is null. -/
theorem optional_map_of_read (decode : Json -> Option β) (encode : α -> Json) (kept : α -> β)
    (value : Option α) (h : ∀ v ∈ value, decode (encode v) = some (kept v) ∧ encode v ≠ .null) :
    optional decode ((value.map encode).elim unnamed given) = some (value.map kept) := by
  cases value with
  | none => rfl
  | some v =>
      obtain ⟨hread, hnull⟩ := h v rfl
      change nullable decode (encode v) = _
      rw [nullable_of_ne_null decode hnull, hread, Option.map_some, Option.map_some]

theorem optional_map (decode : Json -> Option α) (encode : α -> Json) (value : Option α)
    (h : ∀ v ∈ value, decode (encode v) = some v ∧ encode v ≠ .null) :
    optional decode ((value.map encode).elim unnamed given) = some value := by
  rw [optional_map_of_read decode encode id value h, Option.map_id, id]

/-- A field that is left out where it is empty is read back if it is empty by default. -/
theorem defaulted_unless {decode : Json -> Option α} (encode : α -> Json) {default value : α}
    {isEmpty : Bool} (hread : decode (encode value) = some value)
    (hempty : isEmpty = true -> value = default) :
    defaulted default decode
      ((if isEmpty = false then some (encode value) else none).elim unnamed given) = some value := by
  cases isEmpty with
  | true =>
      rw [hempty rfl]
      rfl
  | false => exact hread

end Slot

theorem optionalField_eq_some {name : String} {decode : Json -> Option α}
    {fields : List (String × Json)} {value : Option α}
    (h : optionalField name decode fields = some value) : ∀ v ∈ value, ∃ j ≠ .null, decode j = some v :=
  Slot.optional_eq_some (optionalField_eq name decode fields ▸ h)

theorem int64?_int {j : Json} {i : Int} (h : int64? j = some i) : int64? (int i) = some i := by
  cases j with
  | number n =>
      cases n with
      | whole k =>
          rw [int64?] at h
          split at h
          · next hrange =>
              cases h
              exact if_pos hrange
          · cases h
      | _ => cases h
  | _ => cases h

/-! ### Lists and dictionaries -/

theorem mapM_map_of_read {γ : Type} (decode : β -> Option γ) (encode : α -> β) (kept : α -> γ)
    (items : List α) (h : ∀ item ∈ items, decode (encode item) = some (kept item)) :
    (items.map encode).mapM decode = some (items.map kept) := by
  induction items with
  | nil => rfl
  | cons item rest ih =>
      obtain ⟨hitem, hrest⟩ := List.forall_mem_cons.1 h
      rw [List.map_cons, List.mapM_cons, hitem, ih hrest]
      rfl

theorem listOf_map_of_read (decode : Json -> Option β) (encode : α -> Json) (kept : α -> β)
    (items : List α) (h : ∀ item ∈ items, decode (encode item) = some (kept item)) :
    listOf decode (.array (items.map encode)) = some (items.map kept) :=
  mapM_map_of_read decode encode kept items h

theorem listOf_map (decode : Json -> Option α) (encode : α -> Json) (items : List α)
    (h : ∀ item ∈ items, decode (encode item) = some item) :
    listOf decode (.array (items.map encode)) = some items := by
  rw [listOf_map_of_read decode encode id items h, List.map_id]

theorem listOf_any (items : List Json) : listOf any (.array items) = some items := by
  have hread := listOf_map any id items fun _ _ => rfl
  rwa [List.map_id] at hread

theorem exists_of_mem_listOf {decode : Json -> Option α} {j : Json} {items : List α}
    (h : listOf decode j = some items) : ∀ item ∈ items, ∃ k, decode k = some item := by
  cases j with
  | array given =>
      change given.mapM decode = some items at h
      induction given generalizing items with
      | nil =>
          cases h
          exact fun _ hitem => absurd hitem List.not_mem_nil
      | cons first rest ih =>
          rw [List.mapM_cons] at h
          obtain ⟨item, hitem, h⟩ := Option.bind_eq_some_iff.1 h
          obtain ⟨others, hothers, h⟩ := Option.bind_eq_some_iff.1 h
          cases h
          exact List.forall_mem_cons.2 ⟨⟨first, hitem⟩, ih hothers⟩
  | _ => cases h

theorem dictOf_ofDict (d : Dict String) : dictOf string? (ofDict d) = some d := by
  have hread := mapM_map_of_read
    (fun field : String × Json => (string? field.2).map fun v => (field.1, v))
    (fun field : String × String => (field.1, string field.2)) id d.toList fun _ _ => rfl
  rw [List.map_id] at hread
  change Option.map Dict.ofList _ = some d
  rw [hread, Option.map_some, Dict.ofList_eq_of_mem fun _ => Iff.rfl]

end Json

theorem Dict.eq_empty_of_isEmpty {β : Type} {d : Dict β} (h : d.isEmpty = true) : d = {} := by
  apply Dict.ext_get?
  intro k
  rw [Dict.get?, List.isEmpty_iff.1 h]
  rfl

/-! ### Records -/

open ProfileOperator.Json (ReadsBack)

theorem Subject.decode_encode (s : Subject) : decode s.encode = some s := by
  have hslots : s.encode.slots ["kind", "name", "apiGroup"] = some [
      .given (.string s.kind), .given (.string s.name),
      (s.apiGroup.map .string).elim .unnamed .given] := by
    simp [encode, Json.slots]
  have hgroup := Json.Slot.optional_map Json.string? .string s.apiGroup
    fun _ _ => ⟨rfl, Json.noConfusion⟩
  simp only [decode, hslots, hgroup, Json.Slot.required_given, Json.string?, Option.bind_eq_bind,
    Option.bind_some]

theorem ProfileSpec.decode_encode {s : ProfileSpec} (h : s.resourceQuotaSpec ≠ some .null) :
    decode s.encode = some s := by
  have hslots : s.encode.slots ["owner", "resourceQuotaSpec", "plugins"] = some [
      (s.owner.map Subject.encode).elim .unnamed .given,
      (s.resourceQuotaSpec.map id).elim .unnamed .given,
      (if s.plugins.isEmpty = false then some (.array s.plugins) else none).elim .unnamed
        .given] := by
    simp [encode, Json.slots]
  have howner := Json.Slot.optional_map Subject.decode Subject.encode s.owner
    fun owner _ => ⟨owner.decode_encode, Json.noConfusion⟩
  have hnotNull : ∀ quota ∈ s.resourceQuotaSpec, Json.any (id quota) = some quota ∧
      id quota ≠ .null := by
    intro quota hquota
    refine ⟨rfl, fun hnull => ?_⟩
    rw [← hnull] at h
    exact h hquota
  have hquota := Json.Slot.optional_map Json.any id s.resourceQuotaSpec hnotNull
  have hplugins := Json.Slot.defaulted_unless .array (Json.listOf_any s.plugins)
    List.isEmpty_iff.1
  simp only [decode, hslots, howner, hquota, hplugins, Option.bind_eq_bind, Option.bind_some]

theorem Condition.decode_encode (c : Condition) : decode c.encode = some c := by
  have hslots : c.encode.slots ["type", "status", "message", "lastTransitionTime"] = some [
      .given (.string c.type), .given (.string c.status),
      (c.message.map .string).elim .unnamed .given,
      (c.lastTransitionTime.map fun t => .string t.text).elim .unnamed .given] := by
    simp [encode, Json.slots]
  have hmessage := Json.Slot.optional_map Json.string? .string c.message
    fun _ _ => ⟨rfl, Json.noConfusion⟩
  have hread : ∀ t : Time.Instant, Time.Instant.decode (.string t.text) = some t := by
    intro t
    rw [Time.Instant.decode, Json.string?, Option.bind_some, t.parse?_text]
  have htime := Json.Slot.optional_map Time.Instant.decode (fun t => .string t.text)
    c.lastTransitionTime fun t _ => ⟨hread t, Json.noConfusion⟩
  simp only [decode, hslots, hmessage, htime, Json.Slot.required_given, Json.string?,
    Option.bind_eq_bind, Option.bind_some]

theorem ProfileStatus.decode_encode (s : ProfileStatus) : decode s.encode = some s := by
  have hslots : s.encode.slots ["conditions"] = some [
      (if s.conditions.isEmpty = false then some (.array (s.conditions.map Condition.encode))
        else none).elim .unnamed .given] := by
    simp [encode, Json.slots]
  have hread := Json.listOf_map Condition.decode Condition.encode s.conditions
    fun c _ => c.decode_encode
  have hconditions := Json.Slot.defaulted_unless (fun l => .array (l.map Condition.encode)) hread
    List.isEmpty_iff.1
  simp only [decode, hslots, hconditions, Option.bind_eq_bind, Option.bind_some]

theorem PodSelector.decode_encode (s : PodSelector) : decode s.encode = some s := by
  have hslots : s.encode.slots ["matchLabels"] = some [
      (if s.matchLabels.isEmpty = false then some (Json.ofDict s.matchLabels) else none).elim
        .unnamed .given] := by
    simp [encode, Json.slots]
  have hlabels := Json.Slot.defaulted_unless Json.ofDict (Json.dictOf_ofDict s.matchLabels)
    Dict.eq_empty_of_isEmpty
  simp only [decode, hslots, hlabels, Option.bind_eq_bind, Option.bind_some]

theorem PodDefaultSpec.decode_encode (s : PodDefaultSpec) : decode s.encode = some s := by
  have hslots : s.encode.slots ["selector", "desc", "labels"] = some [
      .given s.selector.encode, .given (.string s.desc),
      (if s.labels.isEmpty = false then some (Json.ofDict s.labels) else none).elim
        .unnamed .given] := by
    simp [encode, Json.slots]
  have hlabels := Json.Slot.defaulted_unless Json.ofDict (Json.dictOf_ofDict s.labels)
    Dict.eq_empty_of_isEmpty
  simp only [decode, hslots, hlabels, Json.Slot.required_given, Json.Slot.defaulted_given,
    Json.string?, s.selector.decode_encode, Option.bind_eq_bind, Option.bind_some]

/-! ### Metadata -/

theorem OwnerReference.decode_encode (o : OwnerReference) : decode o.encode = some o := by
  have htext : ∀ s : String, Json.Slot.optional Json.string? (.given (.string s)) = some (some s) :=
    fun _ => rfl
  have hcontroller := Json.Slot.optional_map Json.bool? .bool o.controller
    fun _ _ => ⟨rfl, Json.noConfusion⟩
  have hblock := Json.Slot.optional_map Json.bool? .bool o.blockOwnerDeletion
    fun _ _ => ⟨rfl, Json.noConfusion⟩
  rw [Option.elim_map] at hcontroller hblock
  simp [decode, encode, Json.optionalField_eq, hcontroller, hblock, htext]

theorem Json.Slot.optional_text (value : Option String) :
    optional string? ((value.map Json.string).elim unnamed given) = some value :=
  optional_map string? .string value fun _ _ => ⟨rfl, Json.noConfusion⟩

theorem Json.Slot.optional_time (value : Option Time.Instant) :
    optional Time.Instant.decode
      ((value.map fun t => Json.string t.secondsText).elim unnamed given) =
        some (value.map Time.Instant.inSeconds) := by
  refine optional_map_of_read _ _ _ value fun t _ => ⟨?_, Json.noConfusion⟩
  rw [Time.Instant.decode, string?, Option.bind_some, t.parse?_secondsText]

namespace ManagedFields

def inSeconds (m : ManagedFields) : ManagedFields :=
  { m with time := m.time.map Time.Instant.inSeconds }

theorem decode_encode {m : ManagedFields} (h : m.fieldsV1 ≠ some .null) :
    decode m.encode = some m.inSeconds := by
  have hfields : Json.Slot.optional Json.any ((m.fieldsV1.map id).elim .unnamed .given) =
      some m.fieldsV1 := by
    refine Json.Slot.optional_map Json.any id m.fieldsV1 fun v hv => ⟨rfl, fun hnull => h ?_⟩
    rw [← show v = .null from hnull]
    exact hv
  simp only [decode, encode, inSeconds, Json.optionalField_eq, Json.findField_append,
    Json.findField_whenSome, String.reduceEq, reduceIte, Option.or_none, Option.none_or,
    Json.Slot.optional_text, Json.Slot.optional_time, hfields, Option.bind_eq_bind, Option.bind_some]

theorem encode_inSeconds (m : ManagedFields) : m.inSeconds.encode = m.encode := by
  simp only [encode, inSeconds, Json.whenSome_map]
  rfl

theorem fieldsV1_ne_null_of_decode {j : Json} {m : ManagedFields} (h : decode j = some m) :
    m.fieldsV1 ≠ some .null := by
  cases j with
  | object fields =>
      obtain ⟨_, _, h⟩ := Option.bind_eq_some_iff.1 h
      obtain ⟨_, _, h⟩ := Option.bind_eq_some_iff.1 h
      obtain ⟨given, hgiven, h⟩ := Option.bind_eq_some_iff.1 h
      simp only [Option.bind_eq_bind, Option.bind_eq_some_iff] at h
      obtain ⟨_, _, _, _, _, _, _, _, h⟩ := h
      cases h
      rintro rfl
      obtain ⟨value, hvalue, hany⟩ := Json.optionalField_eq_some hgiven .null rfl
      exact hvalue (Option.some.inj hany)
  | _ => cases h

end ManagedFields

namespace Metadata

/-- The metadata with its time stamps in whole seconds, as they are written. -/
def inSeconds (m : Metadata) : Metadata :=
  { m with
    creationTimestamp := m.creationTimestamp.map Time.Instant.inSeconds
    deletionTimestamp := m.deletionTimestamp.map Time.Instant.inSeconds
    managedFields := m.managedFields.map fun l => l.map ManagedFields.inSeconds }

/-- Metadata that is read back: its numbers fit a machine, and no fields are there and null. -/
structure IsReadable (m : Metadata) : Prop where
  grace : ∀ n ∈ m.deletionGracePeriodSeconds, Json.int64? (.int n) = some n
  generation : ∀ n ∈ m.generation, Json.int64? (.int n) = some n
  managed : ∀ l ∈ m.managedFields, ∀ f ∈ l, f.fieldsV1 ≠ some .null

theorem decode_encode {m : Metadata} (h : m.IsReadable) : decode m.encode = some m.inSeconds := by
  have htexts : ∀ value : Option (Dict String), Json.Slot.optional (Json.dictOf Json.string?)
      ((value.map Json.ofDict).elim .unnamed .given) = some value := fun value =>
    Json.Slot.optional_map _ Json.ofDict value fun d _ => ⟨Json.dictOf_ofDict d, Json.noConfusion⟩
  have hgrace := Json.Slot.optional_map Json.int64? Json.int m.deletionGracePeriodSeconds
    fun n hn => ⟨h.grace n hn, Json.noConfusion⟩
  have hgeneration := Json.Slot.optional_map Json.int64? Json.int m.generation
    fun n hn => ⟨h.generation n hn, Json.noConfusion⟩
  have hfinalizers := Json.Slot.optional_map (Json.listOf Json.string?) Json.strings m.finalizers
    fun l _ => ⟨Json.listOf_map Json.string? .string l fun _ _ => rfl, Json.noConfusion⟩
  have hmanaged := Json.Slot.optional_map_of_read (Json.listOf ManagedFields.decode)
    (fun l => .array (l.map ManagedFields.encode)) (fun l => l.map ManagedFields.inSeconds)
    m.managedFields fun l hl => ⟨Json.listOf_map_of_read _ _ _ l fun f hf =>
      ManagedFields.decode_encode (h.managed l hl f hf), Json.noConfusion⟩
  have howners := Json.Slot.optional_map (Json.listOf OwnerReference.decode)
    (fun l => .array (l.map OwnerReference.encode)) m.ownerReferences
    fun l _ => ⟨Json.listOf_map _ _ l fun o _ => o.decode_encode, Json.noConfusion⟩
  simp only [decode, encode, inSeconds, Json.optionalField_eq, Json.findField_append,
    Json.findField_whenSome, String.reduceEq, reduceIte, Option.or_none, Option.none_or,
    Json.Slot.optional_text, Json.Slot.optional_time, htexts, hgrace, hgeneration, hfinalizers,
    hmanaged, howners, Option.bind_eq_bind, Option.bind_some]

theorem encode_inSeconds (m : Metadata) : m.inSeconds.encode = m.encode := by
  have hmanaged : ManagedFields.encode ∘ ManagedFields.inSeconds = ManagedFields.encode :=
    funext ManagedFields.encode_inSeconds
  simp only [encode, inSeconds, Json.whenSome_map, List.map_map, hmanaged]
  rfl

theorem isReadable_of_decode {j : Json} {m : Metadata} (h : decode j = some m) : m.IsReadable := by
  have hint : ∀ {name fields value}, Json.optionalField name Json.int64? fields = some value ->
      ∀ n ∈ value, Json.int64? (.int n) = some n := by
    intro name fields value hvalue n hn
    obtain ⟨given, _, hgiven⟩ := Json.optionalField_eq_some hvalue n hn
    exact Json.int64?_int hgiven
  cases j with
  | object fields =>
      obtain ⟨_, _, h⟩ := Option.bind_eq_some_iff.1 h
      obtain ⟨_, _, h⟩ := Option.bind_eq_some_iff.1 h
      obtain ⟨_, hgrace, h⟩ := Option.bind_eq_some_iff.1 h
      obtain ⟨_, _, h⟩ := Option.bind_eq_some_iff.1 h
      obtain ⟨_, _, h⟩ := Option.bind_eq_some_iff.1 h
      obtain ⟨_, _, h⟩ := Option.bind_eq_some_iff.1 h
      obtain ⟨_, hgeneration, h⟩ := Option.bind_eq_some_iff.1 h
      obtain ⟨_, _, h⟩ := Option.bind_eq_some_iff.1 h
      obtain ⟨_, hmanaged, h⟩ := Option.bind_eq_some_iff.1 h
      simp only [Option.bind_eq_bind, Option.bind_eq_some_iff] at h
      obtain ⟨_, _, _, _, _, _, _, _, _, _, _, _, h⟩ := h
      cases h
      refine ⟨hint hgrace, hint hgeneration, fun l hl f hf => ?_⟩
      obtain ⟨given, _, hgiven⟩ := Json.optionalField_eq_some hmanaged l hl
      obtain ⟨k, hk⟩ := Json.exists_of_mem_listOf hgiven f hf
      exact ManagedFields.fieldsV1_ne_null_of_decode hk
  | _ => cases h

end Metadata

/-! ### Whole objects -/

/-- What is written of a PodDefault is read as the same one, with its time stamps in whole seconds. -/
theorem PodDefault.decode_encode {p : PodDefault} (h : p.metadata.IsReadable) :
    decode p.encode = some { p with metadata := p.metadata.inSeconds } := by
  have hslots : p.encode.slots ["metadata", "spec"] =
      some [.given p.metadata.encode, .given p.spec.encode] := by
    simp [encode, Json.slots]
  simp only [decode, hslots, Json.Slot.required_given, Metadata.decode_encode h, p.spec.decode_encode,
    Option.bind_eq_bind, Option.bind_some]

theorem Profile.decode_encode {p : Profile} (h : p.metadata.IsReadable)
    (hquota : p.spec.resourceQuotaSpec ≠ some .null) :
    decode p.encode = some { p with metadata := p.metadata.inSeconds } := by
  have hslots : p.encode.slots ["metadata", "spec", "status"] =
      some [.given p.metadata.encode, .given p.spec.encode,
        (p.status.map ProfileStatus.encode).elim .unnamed .given] := by
    simp [encode, Json.slots]
  have hstatus := Json.Slot.optional_map ProfileStatus.decode ProfileStatus.encode p.status
    fun status _ => ⟨status.decode_encode, Json.noConfusion⟩
  simp only [decode, hslots, Json.Slot.required_given, Metadata.decode_encode h,
    ProfileSpec.decode_encode hquota, hstatus, Option.bind_eq_bind, Option.bind_some]

/-! ### Specifications that are read -/

/-- A null quota is read as none at all. -/
theorem ProfileSpec.quota_ne_null_of_decode {j : Json} {s : ProfileSpec} (h : decode j = some s) :
    s.resourceQuotaSpec ≠ some .null := by
  obtain ⟨slots, _, h⟩ := Option.bind_eq_some_iff.1 h
  split at h
  · obtain ⟨_, _, h⟩ := Option.bind_eq_some_iff.1 h
    obtain ⟨quota, hquota, h⟩ := Option.bind_eq_some_iff.1 h
    obtain ⟨_, _, h⟩ := Option.bind_eq_some_iff.1 h
    cases h
    rintro rfl
    obtain ⟨value, hvalue, hany⟩ := Json.Slot.optional_eq_some hquota .null rfl
    exact hvalue (Option.some.inj hany)
  · cases h

/-- The metadata and the specification of a profile are read from their own places in the object. -/
theorem Profile.parts_of_decode {j : Json} {p : Profile} (h : decode j = some p) :
    ∃ metadata spec status,
      j.slots ["metadata", "spec", "status"] = some [.given metadata, .given spec, status] ∧
      Metadata.decode metadata = some p.metadata ∧ ProfileSpec.decode spec = some p.spec := by
  obtain ⟨slots, hslots, h⟩ := Option.bind_eq_some_iff.1 h
  split at h
  · obtain ⟨_, hmetadata, h⟩ := Option.bind_eq_some_iff.1 h
    obtain ⟨_, hspec, h⟩ := Option.bind_eq_some_iff.1 h
    obtain ⟨_, _, h⟩ := Option.bind_eq_some_iff.1 h
    cases h
    obtain ⟨metadata, rfl, hread⟩ := Json.Slot.required_eq_some hmetadata
    obtain ⟨spec, rfl, hread'⟩ := Json.Slot.required_eq_some hspec
    exact ⟨metadata, spec, _, hslots, hread, hread'⟩
  · cases h

theorem PodDefault.parts_of_decode {j : Json} {p : PodDefault} (h : decode j = some p) :
    ∃ metadata spec, j.slots ["metadata", "spec"] = some [.given metadata, .given spec] ∧
      Metadata.decode metadata = some p.metadata ∧ PodDefaultSpec.decode spec = some p.spec := by
  obtain ⟨slots, hslots, h⟩ := Option.bind_eq_some_iff.1 h
  split at h
  · obtain ⟨_, hmetadata, h⟩ := Option.bind_eq_some_iff.1 h
    obtain ⟨_, hspec, h⟩ := Option.bind_eq_some_iff.1 h
    cases h
    obtain ⟨metadata, rfl, hread⟩ := Json.Slot.required_eq_some hmetadata
    obtain ⟨spec, rfl, hread'⟩ := Json.Slot.required_eq_some hspec
    exact ⟨metadata, spec, hslots, hread, hread'⟩
  · cases h

/--
Reading and writing a specification or a status settles after the first time: whatever JSON a profile
or a PodDefault was read from, and whatever the value is, unless its quota is there and null, what is
written of it is read as the same value.  So it is within whole objects: what is written of an object that
was read is accepted again, with the same specification and status, and is then written as before.  Every
PodDefault that is made stays as it is.
-/
theorem written_resources_read_back :
    (∀ j p, Profile.decode j = some p ->
      ReadsBack ProfileSpec.decode ProfileSpec.encode p.spec ∧
        (∀ status ∈ p.status, ReadsBack ProfileStatus.decode ProfileStatus.encode status) ∧
        ∃ q, Profile.decode p.encode = some q ∧ q.spec = p.spec ∧ q.status = p.status ∧
          q.encode = p.encode) ∧
    (∀ j p, PodDefault.decode j = some p ->
      ReadsBack PodDefaultSpec.decode PodDefaultSpec.encode p.spec ∧
        (∃ metadata spec, j.slots ["metadata", "spec"] = some [.given metadata, .given spec] ∧
          PodDefaultSpec.decode spec = some p.spec) ∧
        ∃ q, PodDefault.decode p.encode = some q ∧ q.spec = p.spec ∧ q.encode = p.encode) ∧
    (∀ s : ProfileSpec, s.resourceQuotaSpec ≠ some .null ->
      ReadsBack ProfileSpec.decode ProfileSpec.encode s) ∧
    (∀ s : ProfileStatus, ReadsBack ProfileStatus.decode ProfileStatus.encode s) ∧
    (∀ s : PodDefaultSpec, ReadsBack PodDefaultSpec.decode PodDefaultSpec.encode s) ∧
    ∀ (t : Template) (p : Profile),
      ReadsBack PodDefaultSpec.decode PodDefaultSpec.encode (t.desired p).spec ∧
        ReadsBack PodDefault.decode PodDefault.encode (t.desired p) := by
  have hstatus : ∀ s : ProfileStatus, ReadsBack ProfileStatus.decode ProfileStatus.encode s :=
    fun s => .of_read s.decode_encode
  have hlabels : ∀ s : PodDefaultSpec, ReadsBack PodDefaultSpec.decode PodDefaultSpec.encode s :=
    fun s => .of_read s.decode_encode
  refine ⟨?_, ?_, fun s hs => .of_read (ProfileSpec.decode_encode hs), hstatus, hlabels, ?_⟩
  · intro j p hp
    obtain ⟨_, _, _, _, hmetadata, hspec⟩ := Profile.parts_of_decode hp
    have hquota := ProfileSpec.quota_ne_null_of_decode hspec
    have hread := Profile.decode_encode (Metadata.isReadable_of_decode hmetadata) hquota
    refine ⟨.of_read (ProfileSpec.decode_encode hquota), fun status _ => hstatus status,
      _, hread, rfl, rfl, ?_⟩
    simp only [Profile.encode, Metadata.encode_inSeconds]
  · intro j p hp
    obtain ⟨metadata, spec, hslots, hmetadata, hspec⟩ := PodDefault.parts_of_decode hp
    have hread := PodDefault.decode_encode (Metadata.isReadable_of_decode hmetadata)
    refine ⟨hlabels p.spec, ⟨metadata, spec, hslots, hspec⟩, _, hread, rfl, ?_⟩
    simp only [PodDefault.encode, Metadata.encode_inSeconds]
  · intro t p
    -- The metadata that is made has neither numbers nor time stamps.
    have hmetadata : (t.desired p).metadata.IsReadable :=
      ⟨(fun _ h => nomatch h), (fun _ h => nomatch h), fun _ h => nomatch h⟩
    exact ⟨hlabels (t.desired p).spec, .of_read (PodDefault.decode_encode hmetadata)⟩

/-- Records that come as arrays, a quota and a plugin that are null, and labels that are not there. -/
theorem written_resources_read_back_arrays :
    (∃ p, Profile.decode (.array [.object [],
        .array [.array [.string "User", .string "ann", .null], .null, .array [.null]], .null]) =
          some p ∧
      p.spec.encode = .object [
        ("owner", .object [("kind", .string "User"), ("name", .string "ann")]),
        ("plugins", .array [.null])] ∧
      ProfileSpec.decode p.spec.encode = some p.spec) ∧
    ∃ p, PodDefault.decode (.array [.object [],
        .array [.array [.object [("a", .string "true")]], .string "Add a labels"]]) = some p ∧
      p.spec.encode = .object [
        ("selector", .object [("matchLabels", .object [("a", .string "true")])]),
        ("desc", .string "Add a labels")] ∧
      PodDefaultSpec.decode p.spec.encode = some p.spec := by
  have hprofile : ∃ p, Profile.decode (.array [.object [],
        .array [.array [.string "User", .string "ann", .null], .null, .array [.null]], .null]) =
          some p ∧
      p.spec.encode = .object [
        ("owner", .object [("kind", .string "User"), ("name", .string "ann")]),
        ("plugins", .array [.null])] :=
    ⟨_, rfl, rfl⟩
  have hpodDefault : ∃ p, PodDefault.decode (.array [.object [],
        .array [.array [.object [("a", .string "true")]], .string "Add a labels"]]) = some p ∧
      p.spec.encode = .object [
        ("selector", .object [("matchLabels", .object [("a", .string "true")])]),
        ("desc", .string "Add a labels")] :=
    ⟨_, rfl, rfl⟩
  obtain ⟨p, hp, hwritten⟩ := hprofile
  obtain ⟨q, hq, hwritten'⟩ := hpodDefault
  exact ⟨⟨p, hp, hwritten, (written_resources_read_back.1 _ p hp).1.read⟩, q, hq, hwritten',
    (written_resources_read_back.2.1 _ q hq).1.read⟩

end ProfileOperator
