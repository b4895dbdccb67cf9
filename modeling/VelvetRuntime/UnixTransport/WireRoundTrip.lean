import VelvetRuntime.UnixTransport.Wire

open python python.str python.num python.json python.except velvet.distributed_work_coordinator
  velvet.distributed_work_service velvet.specialist_node_runner

namespace velvet.distributed_work_unix_transport

open PyObject

section checks

variable {name value : String}

theorem require_text_eq_ok_iff : require_text name value = .ok () ↔ ¬Blank value := by
  unfold require_text
  rw [guard_eq_ok, and_iff_left rfl]

theorem require_authority_none_eq_ok_iff {message : String} :
    require_authority_none value message = .ok () ↔ value = "none" := by
  unfold require_authority_none
  rw [guard_eq_ok, and_iff_left rfl, not_not]

theorem if_given_eq_ok_iff {check : String → Except Error Unit} {given : Option String} :
    if_given check given = .ok () ↔ ∀ value ∈ given, check value = .ok () := by
  cases given with
  | none => simp [if_given]
  | some value => simp [if_given]

variable [StrLower]

theorem require_normalized_eq_ok_iff : require_normalized name value = .ok () ↔ IsNormalized value := by
  unfold require_normalized IsNormalized
  rw [guard_eq_ok, guard_eq_ok, and_iff_left rfl, not_not, @eq_comm String value (normalized value)]

end checks

theorem json_data_text_values (texts : List String) : (text_values texts).json_data = some (text_list texts) := by
  refine Option.map_eq_some_iff.mpr ⟨texts.map Json.text, ?_, rfl⟩
  induction texts with
  | nil => rfl
  | cons text rest ih => exact Option.map_eq_some_iff.mpr ⟨_, ih, rfl⟩

/-- A mapping with distinct keys, and what of it arrives. -/
structure Transmission (message : List (String × PyObject)) (arrived : List (String × Json)) : Prop where
  distinct : (message.map Prod.fst).Nodup
  transmitted : transmit message = some arrived

variable {entries : List (String × PyObject)} {data : List (String × Json)}

namespace Transmission

variable {message : List (String × PyObject)} {arrived : List (String × Json)} {key : String}

theorem entry (hsent : Transmission message arrived) {value : PyObject} {data : Json} (hmem : (key, value) ∈ message)
    (hdata : value.json_data = some data) : entry_of arrived key = some (sorted data) := by
  obtain ⟨found, hfound, rfl⟩ := Option.map_eq_some_iff.mp hsent.transmitted
  have hdistinct : (found.map Prod.fst).Nodup := by
    rw [PyObject.encode_entries_keys hfound]
    exact hsent.distinct
  obtain ⟨written, hwritten, hwritten_mem⟩ := PyObject.encode_entries_mem hfound hmem
  have hsame : written = data := Option.some.inj (hwritten.symm.trans (PyObject.written_of_json_data hdata))
  unfold received
  rw [entry_of_sorted_object hdistinct, (entry_of_eq_some_iff hdistinct).mpr hwritten_mem, hsame]
  rfl

variable (hsent : Transmission message arrived)
include hsent

theorem integer (n : Int) (hmem : (key, .int n) ∈ message) : required_integer arrived key = .ok n :=
  required_integer_int (hsent.entry hmem rfl)

theorem number {value : JsonFloat} (hmem : (key, .float value) ∈ message) (hfinite : is_finite value = true) :
    required_number arrived key = .ok value := by
  cases value with
  | finite q => exact required_number_finite (hsent.entry hmem rfl)
  | inf | neg_inf | nan => cases hfinite

theorem mapping {entries : List (String × PyObject)} {data : List (String × Json)} (hmem : (key, .mapping entries) ∈ message)
    (hdata : PyObject.encode_entries (fun _ => none) entries = some data) :
    required_mapping arrived key = .ok (received data) :=
  required_mapping_object (hsent.entry hmem (Option.map_eq_some_iff.mpr ⟨data, hdata, rfl⟩))

variable {texts : List String}

variable [StrLower] {normal : Bool} {text : String}

end Transmission

section advertisements

variable [StrLower]

/-- An advertisement that its constructor accepts, with a contract that is normalised throughout. -/
structure AdvertisementAttributes.Normal (value : AdvertisementAttributes) : Prop where
  node_id : IsNormalized value.node_id
  body_id : IsNormalized value.body_id
  organ : IsNormalized value.organ
  capabilities : IsNormalizedTuple value.capabilities
  accepted_work_classes : IsNormalizedTuple value.accepted_work_classes
  refused_work_classes : IsNormalizedTuple value.refused_work_classes
  overflow_capabilities : IsNormalizedTuple value.overflow_capabilities
  temporary_absorption_capabilities : IsNormalizedTuple value.temporary_absorption_capabilities
  current_load : is_finite value.current_load = true
  health : is_finite value.health = true
  authority : value.authority = "none"
  accepted : value.post_init = .ok ()

end advertisements

section results

variable [StrLower]

/-- A result that its constructor accepts. -/
structure WorkResultAttributes.Normal (value : WorkResultAttributes) : Prop where
  work_id : IsNormalized value.work_id
  node_id : IsNormalized value.node_id
  result_status : result_state value.result_status ≠ none
  evidence_references : ∀ reference ∈ value.evidence_references, Trimmed reference
  authority : value.authority = "none"
  accepted : value.post_init = .ok ()

end results

section offers

variable [StrLower]

/-- What the constructor of an offer checks. -/
structure OfferAttributes.Valid (value : OfferAttributes) : Prop where
  work_id : IsNormalized value.work_id
  work_class : IsNormalized value.work_class
  node_id : IsNormalized value.node_id
  organ : IsNormalized value.organ
  handler_name : IsNormalized value.handler_name
  lease_id : ¬Blank value.lease_id
  lease_expires_at : value.lease_expires_at.lt 0 = false
  required_capabilities : IsNormalizedTuple value.required_capabilities ∧ value.required_capabilities ≠ []
  parameters : find_forbidden_entries "parameters" value.parameters = []
  transport_only : value.transport_only = true
  flags : ¬(value.canonical ∨ value.grants_authority ∨ value.grants_execution ∨ value.grants_actuation)
  authority : value.authority = "none"

variable {value : OfferAttributes}

end offers

section service_outcomes

section received

variable {entries : List (String × PyObject)} {data : List (String × Json)} (hdistinct : (entries.map Prod.fst).Nodup)
  (hdata : PyObject.encode_entries (fun _ => none) entries = some data)
include hdistinct hdata

omit hdistinct hdata in
theorem validate_transport_boundary_eq_ok_iff : validate_transport_boundary entries = .ok () ↔
    ∀ flag ∈ boundary_flags, matches_flag (value_of entries flag.1) flag.2.1 = true := by
  unfold validate_transport_boundary
  cases hfind : boundary_flags.find? (fun flag => !matches_flag (value_of entries flag.1) flag.2.1) with
  | none => simpa using hfind
  | some flag =>
    refine iff_of_false (fun hok => nomatch hok) (fun hall => ?_)
    have hmismatch := List.find?_some hfind
    rw [hall flag (List.mem_of_find?_eq_some hfind)] at hmismatch
    cases hmismatch

end received

variable [StrLower]

/-- A lifecycle event that its constructor accepts, with texts that are stripped and a payload of data. -/
structure LifecycleAttributes.Normal (value : LifecycleAttributes) : Prop where
  event_type : Trimmed value.event_type
  subject_id : IsNormalized value.subject_id
  receipt_id : Trimmed value.receipt_id
  distinct : (value.payload.map Prod.fst).Nodup
  data : ∀ entry ∈ value.payload, entry.2.IsData
  boundary : validate_transport_boundary value.payload = .ok ()

/-- A service outcome that its constructor accepts, with texts that are stripped and events that arrive. -/
structure ServiceOutcomeAttributes.Normal (value : ServiceOutcomeAttributes) : Prop where
  state : Trimmed value.state
  work_id : IsNormalized value.work_id
  node_id : ∀ node ∈ value.node_id, IsNormalized node
  lease_id : ∀ lease ∈ value.lease_id, Trimmed lease
  degradation : Trimmed value.degradation
  lifecycle : ∀ item ∈ value.lifecycle, item.Normal
  authority : value.authority = "none"
  accepted : value.post_init = .ok ()

end service_outcomes

section runner_outcomes

variable [StrLower]

/-- A runner outcome that its constructor accepts, whose texts are stripped apart from its errors. -/
structure RunnerOutcomeAttributes.Normal (value : RunnerOutcomeAttributes) : Prop where
  state : Trimmed value.state
  work_id : IsNormalized value.work_id
  node_id : IsNormalized value.node_id
  handler_name : IsNormalized value.handler_name
  service_state : ∀ state ∈ value.service_state, Trimmed state
  authority : value.authority = "none"
  accepted : value.post_init = .ok ()

section

variable {value : RunnerOutcomeAttributes} {arrived : List (String × Json)}

end

end runner_outcomes

end velvet.distributed_work_unix_transport
