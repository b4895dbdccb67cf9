import VelvetRuntime.UnixTransport.WireRoundTrip

open python python.str python.num python.json python.except velvet.distributed_work_coordinator
  velvet.distributed_work_service velvet.specialist_node_runner

namespace velvet.distributed_work_service

def EventType.value : EventType → String
  | .NODE_ADVERTISEMENT_PUBLISHED => "NODE_ADVERTISEMENT_PUBLISHED"
  | .WORK_OFFERED => "WORK_OFFERED"
  | .WORK_ACCEPTED => "WORK_ACCEPTED"
  | .WORK_REFUSED => "WORK_REFUSED"
  | .WORK_HANDOFF_REQUESTED => "WORK_HANDOFF_REQUESTED"
  | .WORK_COMPLETED => "WORK_COMPLETED"
  | .WORK_DEGRADED => "WORK_DEGRADED"
  | .WORK_RECOVERY_REASSIGNED => "WORK_RECOVERY_REASSIGNED"

def ResultState.value : ResultState → String
  | .COMPLETED => "completed"
  | .PARTIAL => "partial"
  | .FAILED => "failed"
  | .CANCELLED => "cancelled"

end velvet.distributed_work_service

namespace velvet.distributed_work_unix_transport

section payloads

/-- `**_TRANSPORT_FLAGS`. -/
def payload_flags : List (String × PyObject) := boundary_flags.map (fun flag => (flag.1, flag.2.1))

/-- The keyword values of a payload; one that is `None` sets nothing. -/
def given_entries (values : List (String × Option PyObject)) : List (String × PyObject) :=
  values.filterMap (fun entry => entry.2.map (fun value => (entry.1, value)))

/-- `_work_payload(proposal, **values)`. -/
def work_payload_entries (payload : WorkPayload) : List (String × PyObject) :=
  [("work_id", .text payload.work_id), ("work_class", .text payload.work_class),
    ("required_capabilities", text_values payload.required_capabilities), ("fallback_options", .list []),
    ("important_result", .bool payload.important_result), ("escalate_to_queen", .bool true),
    ("court_authorization_required", .bool payload.court_authorization_required)] ++ payload_flags ++
  given_entries [("node_id", payload.node_id.map PyObject.text), ("organ", payload.organ.map PyObject.text),
    ("placement_mode", payload.placement_mode.map (fun mode => .text mode.value)),
    ("lease_id", payload.lease_id.map PyObject.text),
    ("lease_expires_at", payload.lease_expires_at.map (fun time => .float (.finite time))),
    ("degradation_mode", payload.degradation_mode.map (fun mode => .text mode.value)),
    ("reason", payload.reason.map PyObject.text), ("from_node_id", payload.from_node_id.map PyObject.text),
    ("to_node_id", payload.to_node_id.map PyObject.text),
    ("result_status", payload.result_status.map (fun status => .text status.value))]

/-- `_node_payload(advertisement)`. -/
def node_payload_entries (payload : NodePayload) : List (String × PyObject) :=
  let advertisement := payload.advertisement
  [("node_id", .text advertisement.node_id), ("body_id", .text advertisement.body_id),
    ("organ", .text advertisement.organ), ("tier", .text advertisement.tier.value),
    ("capabilities", text_values advertisement.capabilities),
    ("current_load", .float (.finite advertisement.current_load)), ("health", .float (.finite advertisement.health)),
    ("availability", .text advertisement.availability.value),
    ("last_heartbeat", .float (.finite advertisement.last_heartbeat)),
    ("max_concurrent_tasks", .int advertisement.max_concurrent_tasks),
    ("current_tasks", .int advertisement.current_tasks),
    ("accepted_work_classes", text_values advertisement.accepted_work_classes),
    ("refused_work_classes", text_values advertisement.refused_work_classes),
    ("overflow_capabilities", text_values advertisement.overflow_capabilities),
    ("temporary_absorption_capabilities", text_values advertisement.temporary_absorption_capabilities),
    ("fallback_options", text_values payload.fallback_options), ("body_verified", .bool advertisement.body_verified),
    ("continuity_verified", .bool advertisement.continuity_verified)] ++ payload_flags

def payload_entries : Payload → List (String × PyObject)
  | .node payload => node_payload_entries payload
  | .work payload => work_payload_entries payload

theorem given_keys_sublist (values : List (String × Option PyObject)) :
    ((given_entries values).map Prod.fst).Sublist (values.map Prod.fst) := by
  unfold given_entries
  induction values with
  | nil => exact .slnil
  | cons entry rest ih =>
    obtain ⟨key, _ | value⟩ := entry
    · exact ih.cons key
    · exact ih.cons_cons key

theorem given_entries_data {values : List (String × Option PyObject)}
    (hdata : ∀ entry ∈ values, ∀ value ∈ entry.2, value.IsData) : ∀ entry ∈ given_entries values, entry.2.IsData := by
  intro entry hentry
  obtain ⟨original, horiginal, hgiven⟩ := List.mem_filterMap.mp hentry
  obtain ⟨value, hvalue, rfl⟩ := Option.map_eq_some_iff.mp hgiven
  exact hdata original horiginal value hvalue

theorem isData_map {α : Type} {f : α → PyObject} (hf : ∀ value, (f value).IsData) (given : Option α) :
    ∀ value ∈ given.map f, value.IsData := by
  intro value hvalue
  obtain ⟨original, -, rfl⟩ := Option.map_eq_some_iff.mp hvalue
  exact hf original

theorem isData_text_values (texts : List String) : (text_values texts).IsData :=
  PyObject.isData_iff.mpr ⟨_, json_data_text_values texts⟩

theorem payload_flags_data : ∀ entry ∈ payload_flags, entry.2.IsData := by
  unfold payload_flags boundary_flags
  simp [PyObject.isData_bool, PyObject.isData_text]

variable (payload : Payload)

theorem payload_entries_distinct : ((payload_entries payload).map Prod.fst).Nodup := by
  cases payload with
  | node payload =>
    unfold payload_entries node_payload_entries payload_flags boundary_flags
    simp
  | work payload =>
    unfold payload_entries work_payload_entries
    rw [List.map_append]
    refine (List.Sublist.append_left (given_keys_sublist _) _).nodup ?_
    unfold payload_flags boundary_flags
    simp

theorem payload_entries_data : ∀ entry ∈ payload_entries payload, entry.2.IsData := by
  cases payload with
  | node payload =>
    unfold payload_entries node_payload_entries
    dsimp only
    rw [List.forall_mem_append]
    refine ⟨?_, payload_flags_data⟩
    simp [PyObject.isData_bool, PyObject.isData_text, PyObject.isData_int, PyObject.isData_finite, isData_text_values]
  | work payload =>
    unfold payload_entries work_payload_entries
    rw [List.forall_mem_append, List.forall_mem_append]
    refine ⟨⟨?_, payload_flags_data⟩, given_entries_data ?_⟩
    · simp [PyObject.isData_bool, PyObject.isData_text, PyObject.isData_list_iff, isData_text_values]
    · have htext := isData_map PyObject.isData_text
      have hmode := isData_map (fun mode : PlacementMode => PyObject.isData_text mode.value)
      have hdegradation := isData_map (fun mode : DegradationMode => PyObject.isData_text mode.value)
      have hstatus := isData_map (fun status : ResultState => PyObject.isData_text status.value)
      simp only [List.forall_mem_cons, List.not_mem_nil, false_implies, implies_true, and_true]
      exact ⟨htext _, htext _, hmode _, htext _, isData_map PyObject.isData_finite _, hdegradation _, htext _, htext _,
        htext _, hstatus _⟩

theorem value_of_of_mem {entries : List (String × PyObject)} (hdistinct : (entries.map Prod.fst).Nodup) {key : String}
    {value : PyObject} (hmem : (key, value) ∈ entries) : value_of entries key = some value := by
  induction entries with
  | nil => cases hmem
  | cons entry rest ih =>
    rw [List.map_cons, List.nodup_cons] at hdistinct
    unfold value_of
    rcases List.mem_cons.mp hmem with rfl | hlater
    · simp
    · have hother : entry.1 ≠ key := fun hsame => hdistinct.1 (hsame ▸ List.mem_map_of_mem hlater)
      rw [List.find?_cons_of_neg (by simpa using hother)]
      exact ih hdistinct.2 hlater

theorem payload_flags_subset : payload_flags ⊆ payload_entries payload := by
  cases payload with
  | node payload => exact List.subset_append_right _ _
  | work payload => exact fun _ hmem => List.mem_append_left _ (List.mem_append_right _ hmem)

/-- Every payload carries the transport flags. -/
theorem payload_entries_boundary : validate_transport_boundary (payload_entries payload) = .ok () := by
  rw [validate_transport_boundary_eq_ok_iff]
  intro flag hflag
  have hmem : (flag.1, flag.2.1) ∈ payload_entries payload :=
    payload_flags_subset payload (List.mem_map_of_mem hflag)
  rw [value_of_of_mem (payload_entries_distinct payload) hmem]
  unfold boundary_flags at hflag
  simp only [List.mem_cons, List.not_mem_nil, or_false] at hflag
  rcases hflag with rfl | rfl | rfl | rfl | rfl | rfl <;> rfl

end payloads

section records

def work_result_attributes [StrLower] (result : WorkResult) : WorkResultAttributes where
  work_id := result.work_id
  node_id := result.node_id
  result_status := result.result_status.value
  summary := result.summary
  evidence_references := result.evidence_references
  important := result.important
  canonical := false
  execution_authorized := false
  actuation_authorized := false
  authority := "none"

def lifecycle_attributes (evidence : LifecycleEvidence) : LifecycleAttributes where
  event_type := evidence.event_type.value
  subject_id := evidence.subject_id
  receipt_id := evidence.receipt_id
  payload := payload_entries evidence.payload

def service_outcome_attributes (outcome : DistributedWorkServiceOutcome) : ServiceOutcomeAttributes where
  state := outcome.state
  work_id := outcome.work_id
  node_id := outcome.node_id
  lease_id := outcome.lease_id
  degradation := outcome.degradation.value
  lifecycle := outcome.lifecycle.map lifecycle_attributes
  accepted := outcome.accepted
  completed := outcome.completed
  escalated_to_queen := outcome.escalated_to_queen
  canonical := false
  execution_authorized := false
  actuation_authorized := false
  authority := "none"

/-- A runner outcome with the output of the task it is about. -/
def runner_outcome_attributes (outcome : RunnerOutcome) (output : Option (Dict String PyObject)) :
    RunnerOutcomeAttributes where
  state := outcome.state
  work_id := outcome.work_id
  node_id := outcome.node_id
  handler_name := outcome.handler_name
  output := output.map Dict.items
  errors := outcome.errors
  accepted := outcome.accepted
  completed := outcome.completed
  refused := outcome.refused
  pending_completion := outcome.pending_completion
  service_state := outcome.service_state
  canonical := false
  execution_authorized := false
  actuation_authorized := false
  authority := "none"

variable [StrLower]

/-- `SpecialistNodeRunner.advertisement` at a time that may be any float. -/
def runner_advertisement (self : SpecialistNodeRunner) (condition : NodeCondition) (now : JsonFloat) :
    Except Error AdvertisementAttributes :=
  if now.lt 0 then .error (value_error "now must be a non-negative number")
  else
    .ok {
      node_id := self.profile.node_id
      body_id := self.profile.body_id
      organ := self.profile.organ
      tier := self.profile.tier
      capabilities := self.profile.capabilities
      current_load := .finite (self.advertised_load condition)
      health := .finite condition.health
      availability := self.availability condition self.active.items.length
      last_heartbeat := now
      accepted_work_classes := self.profile.accepted_work_classes
      refused_work_classes := self.profile.refused_work_classes
      max_concurrent_tasks := self.profile.max_concurrent_tasks
      current_tasks := self.active.items.length
      overflow_capable := self.profile.overflow_capable
      overflow_capabilities := self.profile.overflow_capabilities
      temporary_absorption_capabilities := self.profile.temporary_absorption_capabilities
      body_verified := self.profile.body_verified
      continuity_verified := self.profile.continuity_verified
      authority := "none" }

section offers

variable (payload : List (String × PyObject)) (key : String)

def required_payload_text : Except Error String :=
  match value_of payload key with
  | some (.text text) => do
    require_normalized key text
    .ok text
  | _ => .error (value_error (key ++ " must be a non-empty normalized string"))

def required_payload_number : Except Error JsonFloat :=
  match value_of payload key with
  | some (.int n) =>
    match float_of_int n with
    | some q => .ok (.finite q)
    | none => .error ⟨.OverflowError, "int too large to convert to float"⟩
  | some (.float q) => .ok q
  | _ => .error (value_error (key ++ " must be numeric"))

def required_payload_text_tuple : Except Error (List String) :=
  match value_of payload key with
  | some (.list values) | some (.tuple values) => do
    let result ← values.mapM (fun
      | .text text => .ok text
      | _ => .error (value_error (key ++ " must be a non-empty normalized string")))
    require_normalized_tuple key result true
    .ok result
  | _ => .error (value_error (key ++ " must be a list or tuple"))

/-- `bool(payload.get(key, False))`. -/
def payload_flag : Bool := ((value_of payload key).map PyObject.truthy).getD false

end offers

/-- `SpecialistWorkOffer.from_service_outcome`. -/
def from_service_outcome (texts : PythonText) (outcome : DistributedWorkServiceOutcome) (handler_name : String)
    (parameters : Dict String PyObject) : Except Error OfferAttributes :=
  match outcome.lifecycle.filter (fun evidence => evidence.event_type = .WORK_OFFERED) with
  | [evidence] => do
    let payload := payload_entries evidence.payload
    let work_id ← required_payload_text payload "work_id"
    let work_class ← required_payload_text payload "work_class"
    let node_id ← required_payload_text payload "node_id"
    let organ ← required_payload_text payload "organ"
    let lease_id ← required_payload_text payload "lease_id"
    let lease_expires_at ← required_payload_number payload "lease_expires_at"
    let required_capabilities ← required_payload_text_tuple payload "required_capabilities"
    let offer : OfferAttributes := {
      work_id, work_class, node_id, organ, lease_id, lease_expires_at, required_capabilities
      handler_name := normalized handler_name
      parameters := parameters.items
      important_result := payload_flag payload "important_result"
      consequential := payload_flag payload "court_authorization_required"
      transport_only := (value_of payload "transport_only").any PyObject.is_true
      canonical := payload_flag payload "canonical"
      grants_authority := payload_flag payload "grants_authority"
      grants_execution := payload_flag payload "grants_execution"
      grants_actuation := payload_flag payload "grants_actuation"
      authority := ((value_of payload "authority").map texts.str_of).getD "" }
    offer.post_init texts
    .ok offer
  | _ => .error (value_error "service outcome must contain exactly one WORK_OFFERED event")

end records

end velvet.distributed_work_unix_transport
