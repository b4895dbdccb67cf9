import VelvetRuntime.BodyState.Bridge
import VelvetRuntime.BodyAdapter.Events

open python python.num python.str velvet.body_state_bridge

/-! The records of the adapters as the bridge reads them. -/

namespace velvet.body_adapter

theorem authority_free_append {first second : List (String × Json)} :
    AuthorityFreeEntries (first ++ second) ↔ AuthorityFreeEntries first ∧ AuthorityFreeEntries second := by
  induction first with
  | nil => simp [AuthorityFreeEntries]
  | cons entry rest ih => simp only [List.cons_append, AuthorityFreeEntries, ih, and_assoc]

theorem authority_free_values {values : List Json} : AuthorityFreeValues values ↔ ∀ value ∈ values, AuthorityFree value := by
  induction values with
  | nil => simp [AuthorityFreeValues]
  | cons value rest ih => rw [AuthorityFreeValues, ih, List.forall_mem_cons]

/-- The mapping around a payload carries no authority of its own. -/
theorem authority_free_envelope {identity : ModuleIdentity} {event_id : RecordId} {event_type family : String}
    {timestamp : ℚ} {payload : List (String × Json)} (hpayload : AuthorityFreeEntries payload) :
    AuthorityFree (envelope identity event_id event_type family timestamp payload) := by
  simp [envelope, AuthorityFree, AuthorityFreeEntries, FORBIDDEN_FIELDS, FALSE_ONLY_CLAIMS, float_json, hpayload]

theorem SensorEvent.authority_free {event : SensorEvent} (hinner : AuthorityFreeEntries event.inner) :
    AuthorityFree event.record := by
  refine authority_free_envelope ?_
  have hreason : AuthorityFreeEntries
      (event.degraded_reason.map (fun reason => ("degraded_reason", optional_text reason))).toList := by
    rcases event.degraded_reason with _ | _ | reason <;>
      simp [AuthorityFree, AuthorityFreeEntries, FORBIDDEN_FIELDS, FALSE_ONLY_CLAIMS, optional_text]
  unfold SensorEvent.payload
  rw [authority_free_append, authority_free_append]
  refine ⟨⟨?_, hreason⟩, ?_⟩ <;>
    simp [AuthorityFree, AuthorityFreeEntries, FORBIDDEN_FIELDS, FALSE_ONLY_CLAIMS, float_json, hinner]

theorem HealthEvent.authority_free {event : HealthEvent} (hdiagnostic : AuthorityFreeEntries event.diagnostic_payload) :
    AuthorityFree event.record := by
  refine authority_free_envelope ?_
  simp [HealthEvent.payload, AuthorityFree, AuthorityFreeEntries, FORBIDDEN_FIELDS, FALSE_ONLY_CLAIMS, float_json,
    hdiagnostic]

theorem is_given_text {text : String} (hgiven : ¬Blank text) : is_given (some (.text text)) = true :=
  is_given_iff.mpr ⟨text, rfl, hgiven⟩

theorem state_text_given (state : BodyState) : ¬Blank state.text := by cases state <;> decide

section lower

variable [StrLower]

theorem lower_sensor : StrLower.lower "sensor".toList = "sensor".toList := by
  rw [StrLower.lower_ascii _ (by decide)]
  decide

theorem lower_health : StrLower.lower "health".toList = "health".toList := by
  rw [StrLower.lower_ascii _ (by decide)]
  decide

theorem family_of_sensor : family_of (some (.text "sensor")) = some .sensor := by
  have hlower : StrLower.lower (strip "sensor".toList) = "sensor".toList := lower_sensor
  unfold family_of
  exact if_pos hlower

theorem family_of_health : family_of (some (.text "health")) = some .health := by
  have hlower : StrLower.lower (strip "health".toList) = "health".toList := lower_health
  unfold family_of
  dsimp only
  rw [hlower, if_neg (by decide), if_pos rfl]

end lower

variable [StrLower] [StrUpper] {body : BodyRecord}

section envelope

variable {identity : ModuleIdentity} {event_id : RecordId} {event_type family : String} {timestamp : ℚ}
  {payload : List (String × Json)}

section

variable (hdocument : body.document = envelope identity event_id event_type family timestamp payload)

include hdocument

theorem envelope_family :
    entry_of body.entries "family" = some (.text family) := by
  unfold BodyRecord.entries
  rw [hdocument]
  rfl

theorem envelope_payload :
    body.payload = payload := by
  unfold BodyRecord.payload BodyRecord.entries
  rw [hdocument]
  rfl

end

end envelope

namespace SensorEvent

variable {event : SensorEvent}

section

variable (hdocument : body.document = event.record)

include hdocument

theorem body_payload : body.payload = event.payload := envelope_payload hdocument

theorem body_filed_under : body.filed_under = .sensor := by
  unfold BodyRecord.filed_under
  rw [envelope_family hdocument]
  exact if_pos lower_sensor

theorem body_module_id : body.module_id = event.identity.module_id := by
  unfold BodyRecord.module_id
  rw [body_payload hdocument]
  rfl

theorem body_timestamp : body.timestamp = .finite event.timestamp := by
  unfold BodyRecord.timestamp
  rw [body_payload hdocument]
  rfl

end

end SensorEvent

namespace HealthEvent

variable {event : HealthEvent}

section

variable (hdocument : body.document = event.record)

include hdocument

theorem body_payload : body.payload = event.payload := envelope_payload hdocument

theorem body_filed_under : body.filed_under = .health := by
  unfold BodyRecord.filed_under
  rw [envelope_family hdocument]
  dsimp only
  rw [lower_health]
  exact if_neg (by decide)

theorem body_module_id : body.module_id = event.identity.module_id := by
  unfold BodyRecord.module_id
  rw [body_payload hdocument]
  rfl

theorem body_timestamp : body.timestamp = .finite event.timestamp := by
  unfold BodyRecord.timestamp
  rw [body_payload hdocument]
  rfl

end

end HealthEvent

/-- Names that the checks of a record ask for. -/
def ModuleIdentity.Given (identity : ModuleIdentity) : Prop :=
  ¬Blank identity.module_id ∧ ¬Blank identity.node_id ∧ ¬Blank identity.owning_handmaiden

theorem event_type_of_observation : event_type_of (some (.text "SENSOR_PACKET_OBSERVED")) =
    "SENSOR_PACKET_OBSERVED".toList := by
  have hstrip : strip "SENSOR_PACKET_OBSERVED".toList = "SENSOR_PACKET_OBSERVED".toList := by decide
  unfold event_type_of
  dsimp only
  rw [hstrip, StrUpper.upper_ascii _ (by decide)]
  decide

/-- A sensor event of a module with names is accepted when its calibration is named and its time is not negative. -/
theorem SensorEvent.accepted_iff {event : SensorEvent} (hidentity : event.identity.Given)
    (hsensor_type : ¬Blank event.sensor_type) (hinterface_type : ¬Blank event.interface_type)
    (hinner : AuthorityFreeEntries event.inner) :
    validate_body_record event.record = .ok event.record ↔ ¬Blank event.calibration_version ∧ 0 ≤ event.timestamp := by
  constructor
  · intro hvalid
    have haccepted := (⟨event.record, hvalid⟩ : BodyRecord).is_accepted
    have hfamily := haccepted.family_read
    rw [envelope_family rfl, family_of_sensor] at hfamily
    rw [SensorEvent.body_payload rfl, SensorEvent.body_timestamp rfl, ← Option.some.inj hfamily] at haccepted
    obtain ⟨text, htext, hgiven⟩ := is_given_iff.mp
      (haccepted.texts_given "calibration_version" (List.mem_append_right _ (by decide)))
    cases htext
    exact ⟨hgiven, by simpa [JsonFloat.lt] using haccepted.timestamp_not_negative⟩
  · rintro ⟨hcalibration, hpositive⟩
    obtain ⟨hmodule, hnode, hhandmaiden⟩ := hidentity
    refine validate_body_record_eq_ok_iff.mpr ⟨rfl, BodyRecord.entries_of event.record, event.payload, .sensor, .finite event.timestamp, rfl, ?_⟩
    exact {
      authority_free := SensorEvent.authority_free hinner
      family_read := family_of_sensor
      event_type_read := by
        have hread : entry_of (BodyRecord.entries_of event.record) "event_type" = some (.text "SENSOR_PACKET_OBSERVED") := rfl
        rw [hread, event_type_of_observation]
        unfold check_event_type
        exact if_pos rfl
      payload_read := rfl
      texts_given := by
        refine List.forall_mem_append.mpr ⟨?_, ?_⟩
        · refine List.forall_mem_cons.mpr ⟨is_given_text hmodule, List.forall_mem_cons.mpr ⟨is_given_text hnode, ?_⟩⟩
          refine List.forall_mem_cons.mpr ⟨is_given_text hhandmaiden, List.forall_mem_singleton.mpr ?_⟩
          exact is_given_text event.receipt_id.given
        · refine List.forall_mem_cons.mpr ⟨is_given_text hsensor_type, ?_⟩
          refine List.forall_mem_cons.mpr ⟨is_given_text hinterface_type, ?_⟩
          refine List.forall_mem_cons.mpr ⟨is_given_text (state_text_given _), List.forall_mem_singleton.mpr ?_⟩
          exact is_given_text hcalibration
      timestamp_is_number := rfl
      timestamp_read := rfl
      timestamp_not_negative := by simpa [JsonFloat.lt] using hpositive
      inner_read := ⟨event.inner, rfl⟩ }

/-- The types of the events that the adapters emit. -/
def EVENT_TYPES : List String := ["ONLINE", "DEGRADED", "FAILED", "RECOVERED", "STALE", "REJECTED", "RESTARTED"]

omit [StrLower] in
theorem event_type_of_health {event_type : String} (htype : event_type ∈ EVENT_TYPES) :
    "HEALTH_".toList <+: event_type_of (some (.text ("HEALTH_" ++ event_type))) := by
  have hascii : ∀ known ∈ EVENT_TYPES, (∀ c ∈ strip ("HEALTH_" ++ known).toList, c.toNat < 128) ∧
      "HEALTH_".toList <+: (strip ("HEALTH_" ++ known).toList).map Char.toUpper ∧ ¬Blank known := by decide
  obtain ⟨hcodes, hprefix, _⟩ := hascii event_type htype
  unfold event_type_of
  dsimp only
  rw [StrUpper.upper_ascii _ hcodes]
  exact hprefix

/-- A health event of a module with names is accepted when its time is not negative. -/
theorem HealthEvent.accepted_iff {event : HealthEvent} (hidentity : event.identity.Given)
    (htype : event.event_type ∈ EVENT_TYPES) (hseverity : ¬Blank event.severity)
    (hdiagnostic : AuthorityFreeEntries event.diagnostic_payload) :
    validate_body_record event.record = .ok event.record ↔ 0 ≤ event.timestamp := by
  constructor
  · intro hvalid
    have haccepted := (⟨event.record, hvalid⟩ : BodyRecord).is_accepted
    rw [HealthEvent.body_timestamp rfl] at haccepted
    simpa [JsonFloat.lt] using haccepted.timestamp_not_negative
  · intro hpositive
    obtain ⟨hmodule, hnode, hhandmaiden⟩ := hidentity
    have htype_given : ¬Blank event.event_type :=
      (by decide : ∀ known ∈ EVENT_TYPES, ¬Blank known) event.event_type htype
    refine validate_body_record_eq_ok_iff.mpr ⟨rfl, BodyRecord.entries_of event.record, event.payload, .health, .finite event.timestamp, rfl, ?_⟩
    exact {
      authority_free := HealthEvent.authority_free hdiagnostic
      family_read := family_of_health
      event_type_read := if_pos (event_type_of_health htype)
      payload_read := rfl
      texts_given := by
        refine List.forall_mem_append.mpr ⟨?_, ?_⟩
        · refine List.forall_mem_cons.mpr ⟨is_given_text hmodule, List.forall_mem_cons.mpr ⟨is_given_text hnode, ?_⟩⟩
          refine List.forall_mem_cons.mpr ⟨is_given_text hhandmaiden, List.forall_mem_singleton.mpr ?_⟩
          exact is_given_text event.event_id.given
        · refine List.forall_mem_cons.mpr ⟨is_given_text event.event_id.given, ?_⟩
          refine List.forall_mem_cons.mpr ⟨is_given_text htype_given, ?_⟩
          refine List.forall_mem_cons.mpr ⟨is_given_text hseverity, ?_⟩
          refine List.forall_mem_cons.mpr ⟨is_given_text (state_text_given _), List.forall_mem_singleton.mpr ?_⟩
          exact is_given_text (state_text_given _)
      timestamp_is_number := rfl
      timestamp_read := rfl
      timestamp_not_negative := by simpa [JsonFloat.lt] using hpositive
      inner_read := ⟨event.diagnostic_payload, rfl⟩ }

end velvet.body_adapter
