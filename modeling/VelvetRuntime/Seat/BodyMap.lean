import VelvetRuntime.Seat.Pressure

open python python.num python.str python.json velvet.body_adapter velvet.seat velvet.seat_pressure_pad

namespace velvet.seat_person_sense_body_map

/-- `_ROLES`. -/
inductive PadRole where
  | MAIN_LOAD
  | SIDE_BOLSTER
  | EDGE_MOTION
  deriving DecidableEq, Repr

def PadRole.text : PadRole → String
  | MAIN_LOAD => "MAIN_LOAD"
  | SIDE_BOLSTER => "SIDE_BOLSTER"
  | EDGE_MOTION => "EDGE_MOTION"

/-- `_SIDES`. -/
inductive PadSide where
  | LEFT
  | RIGHT
  | CENTER
  | BOTH
  | NA
  deriving DecidableEq, Repr

def PadSide.text : PadSide → String
  | LEFT => "LEFT"
  | RIGHT => "RIGHT"
  | CENTER => "CENTER"
  | BOTH => "BOTH"
  | NA => "NA"

structure SeatPadBinding where
  pad_id : String
  role : PadRole
  surface : String
  side : PadSide
  movement_weight : ℚ

/-- A topology as it is parsed. -/
structure SeatPersonSenseTopology where
  topology_id : String
  seat_id : String
  vehicle_profile : String
  calibration_version : String
  pads : List SeatPadBinding
  seat_id_valid : is_id seat_id = true
  pads_distinct : (pads.map SeatPadBinding.pad_id).Nodup
  weight_positive : 0 < (pads.map SeatPadBinding.movement_weight).sum

namespace SeatPersonSenseTopology

def pad_ids (topology : SeatPersonSenseTopology) : List String := topology.pads.map SeatPadBinding.pad_id

def movement_topology_complete (topology : SeatPersonSenseTopology) : Bool :=
  [PadRole.MAIN_LOAD, .SIDE_BOLSTER, .EDGE_MOTION].all (· ∈ topology.pads.map SeatPadBinding.role)

end SeatPersonSenseTopology

structure SeatPersonSenseBodyMapConfig where
  module_id : String
  node_id : String
  seat_id : String
  owning_handmaiden : String
  interface_type : String
  stale_after_ms : Int
  failure_threshold : Int
  ids_valid : ∀ id ∈ [module_id, node_id, seat_id, owning_handmaiden], is_id id = true
  interface_type_valid : ¬Blank interface_type ∧ is_text interface_type = true
  stale_after_bounds : 250 ≤ stale_after_ms ∧ stale_after_ms ≤ 600000
  threshold_bounds : 1 ≤ failure_threshold ∧ failure_threshold ≤ 100

/-- An adapter's configuration and topology, which are of the same seat. -/
structure SeatPersonSenseBodyMapAdapter where
  config : SeatPersonSenseBodyMapConfig
  topology : SeatPersonSenseTopology
  same_seat : config.seat_id = topology.seat_id

structure BodyMapState where
  health : SeatHealth
  last_active_by_pad : Option (Dict String Bool)

def BodyMapState.initial : BodyMapState := ⟨.initial, none⟩

def topology_error (message : String) : Error := ⟨.SeatPersonSenseTopologyError, message⟩

/-- `{pad.pad_id: pad.active for pad in pads}`. -/
def active_by_pad (pads : List PressurePadSample) : Dict String Bool :=
  pads.foldl (fun found pad => found.set pad.pad_id pad.active) .empty

/-- How often each text occurs, in the order of the first occurrences. -/
def counts (texts : List String) : List (String × Json) :=
  (texts.foldl (fun found text => found.set text ((found.get? text).getD 0 + 1)) (Dict.empty : Dict String Nat)).items.map
    (fun entry => (entry.1, .int entry.2))

namespace SeatPersonSenseBodyMapAdapter

variable (adapter : SeatPersonSenseBodyMapAdapter)

def identity : ModuleIdentity := ⟨adapter.config.module_id, adapter.config.node_id, adapter.config.owning_handmaiden⟩

def diagnostic (detail reason_code : String) : List (String × Json) := [
  ("detail", .text detail),
  ("reason_code", .text reason_code),
  ("seat_id", .text adapter.config.seat_id),
  ("sensor_kind", .text "seat_person_sense_body_map"),
  ("topology_id", .text adapter.topology.topology_id),
  ("read_only", .bool true),
  ("person_presence_inferred", .bool false),
  ("medical_state_inferred", .bool false),
  ("authority_granted", .bool false)]

def seat : SeatModule where
  identity := adapter.identity
  stale_after_ms := adapter.config.stale_after_ms
  failure_threshold := adapter.config.failure_threshold
  recovery_action := "continue observation-only seat person-sense monitoring"
  diagnostic := adapter.diagnostic
  failure_code := "SEAT_PERSON_SENSE_BODY_MAP_FAILURE"
  stale_detail := "Seat person-sense body map is stale"
  stale_code := "STALE_SEAT_PERSON_SENSE_BODY_MAP"

/-- The bindings whose pad changed since the last observation. -/
def changed_pads (state : BodyMapState) (observation : SeatPressureObservation) : List SeatPadBinding :=
  match state.last_active_by_pad with
  | none => []
  | some last =>
    adapter.topology.pads.filter (fun binding =>
      last.get? binding.pad_id ≠ (active_by_pad observation.pads).get? binding.pad_id)

def movement_intensity (state : BodyMapState) (observation : SeatPressureObservation) : ℚ :=
  match state.last_active_by_pad with
  | none => 0
  | some _ => min 1 (((adapter.changed_pads state observation).map SeatPadBinding.movement_weight).sum /
      (adapter.topology.pads.map SeatPadBinding.movement_weight).sum)

/-- The pads of the topology with what was observed of them. -/
def mapped_pads (observation : SeatPressureObservation) : List (SeatPadBinding × PressurePadSample) :=
  adapter.topology.pads.filterMap (fun binding =>
    (observation.pads.reverse.find? (fun pad => pad.pad_id = binding.pad_id)).map (fun pad => (binding, pad)))

def pad_record (entry : SeatPadBinding × PressurePadSample) : Json := .object [
  ("pad_id", .text entry.1.pad_id),
  ("role", .text entry.1.role.text),
  ("surface", .text entry.1.surface),
  ("side", .text entry.1.side.text),
  ("movement_weight", float_json entry.1.movement_weight),
  ("active", .bool entry.2.active),
  ("raw_value", optional_int entry.2.raw_value),
  ("normalized_load", optional_float entry.2.normalized_load)]

def confidence (observation : SeatPressureObservation) : ℚ :=
  let found := if adapter.topology.movement_topology_complete then 85 / 100 else 65 / 100
  if observation.sensor_health = .DEGRADED then min found (40 / 100) else found

def inner (state : BodyMapState) (observation : SeatPressureObservation) : List (String × Json) :=
  let changed := adapter.changed_pads state observation
  let mapped := adapter.mapped_pads observation
  let active := mapped.filter (fun entry => entry.2.active)
  let roles (entries : List (SeatPadBinding × PressurePadSample)) := entries.map (fun entry => entry.1.role.text)
  let sides (entries : List (SeatPadBinding × PressurePadSample)) := entries.map (fun entry => entry.1.side.text)
  let has_contact (role : PadRole) := active.any (fun entry => entry.1.role = role)
  [ ("seat_id", .text observation.seat_id),
    ("source_id", .text ("seat.person_sense.body_map." ++ observation.seat_id)),
    ("person_sense_family", .text "seat_person_sense"),
    ("fusion_role", .text "body_contact_and_movement_map"),
    ("topology_id", .text adapter.topology.topology_id),
    ("vehicle_profile", .text adapter.topology.vehicle_profile),
    ("topology_calibration_version", .text adapter.topology.calibration_version),
    ("pressure_calibration_version", .text observation.calibration_version),
    ("movement_topology_complete", .bool adapter.topology.movement_topology_complete),
    ("mapped_pads", .list (mapped.map pad_record)),
    ("pad_count", .int mapped.length),
    ("role_counts", .object (counts (roles mapped))),
    ("active_role_counts", .object (counts (roles active))),
    ("side_counts", .object (counts (sides mapped))),
    ("active_side_counts", .object (counts (sides active))),
    ("main_load_contact_detected", .bool (has_contact .MAIN_LOAD)),
    ("side_bolster_contact_detected", .bool (has_contact .SIDE_BOLSTER)),
    ("edge_motion_contact_detected", .bool (has_contact .EDGE_MOTION)),
    ("baseline_established", .bool state.last_active_by_pad.isSome),
    ("movement_detected", .bool (changed ≠ [])),
    ("movement_intensity", float_json (num.round 6 (adapter.movement_intensity state observation))),
    ("changed_pad_ids", .list (changed.map (fun binding => .text binding.pad_id))),
    ("changed_roles", .list ((LineFormat.sorted_texts (changed.map (fun binding => binding.role.text))).map .text)),
    ("changed_surfaces", .list ((LineFormat.sorted_texts (changed.map SeatPadBinding.surface)).map .text)),
    ("pressure_lateral_state", .text observation.lateral_state),
    ("pressure_lateral_shift_detected", .bool observation.lateral_shift_detected),
    ("pressure_lateral_shift_direction", .text observation.lateral_shift_direction),
    ("companion_evidence_expected",
      .list [.text "seat_presence_radar", .text "seat_heartbeat_signal", .text "camera_posture_evidence"]),
    ("heartbeat_observed_by_this_adapter", .bool false),
    ("missing_heartbeat_means_absent", .bool false),
    ("person_presence_inferred", .bool false),
    ("seat_occupancy_inferred", .bool false),
    ("occupant_posture_inferred", .bool false),
    ("occupant_identity_inferred", .bool false),
    ("heartbeat_measured_by_pressure", .bool false),
    ("medical_state_inferred", .bool false),
    ("emergency_condition_inferred", .bool false),
    ("grants_authority", .bool false),
    ("read_only", .bool true)]

/-- `_sensor_event`. -/
def sensor_event (state : BodyMapState) (observation : SeatPressureObservation) (receipt_id : RecordId)
    (wall monotonic : ℚ) (source_reference : String) : SensorEvent where
  identity := adapter.identity
  receipt_id
  timestamp := wall
  monotonic_time := monotonic
  sensor_type := "seat_person_sense_body_map"
  interface_type := adapter.config.interface_type
  health_state := observation.sensor_health.state
  confidence := adapter.confidence observation
  inner := adapter.inner state observation
  source_clock := "runtime-derived"
  stale_after_ms := adapter.config.stale_after_ms
  calibration_version := adapter.topology.calibration_version
  degraded_reason :=
    some (if adapter.topology.movement_topology_complete then none else some "PARTIAL_PERSON_SENSE_TOPOLOGY")
  raw_reference := source_reference

/-- The checks of `observe`, in their order. -/
def admission_of (platform : Platform) (observation : SeatPressureObservation) (call : ObserveCall) (ambient : Ambient) :
    Except Error Admission := do
  require (observation.node_id = adapter.config.node_id)
    (topology_error "pressure observation node does not match body-map adapter")
  require (observation.seat_id = adapter.config.seat_id)
    (topology_error "pressure observation seat does not match body-map adapter")
  let observed_ids := observation.pads.map PressurePadSample.pad_id
  let expected_ids := adapter.topology.pad_ids
  let missing := LineFormat.sorted_texts (expected_ids.filter (· ∉ observed_ids))
  let extra := LineFormat.sorted_texts (observed_ids.filter (· ∉ expected_ids))
  require (missing = [] ∧ extra = []) (topology_error ("pressure pads do not match topology; missing=" ++
    platform.repr_texts missing ++ " extra=" ++ platform.repr_texts extra))
  let wall ← reading "now_wall" call.now_wall ambient.time
  let monotonic ← reading "now_monotonic" call.now_monotonic ambient.monotonic
  let source_reference ← given_text (value_error "source_reference must be non-empty") call.source_reference
  pure ⟨wall, monotonic, source_reference⟩

/-- The event of a change of state. -/
def observed_event (state : BodyMapState) (observation : SeatPressureObservation) (ambient : Ambient) (wall : ℚ) :
    Option HealthEvent :=
  let previous := state.health.state
  let new_state := observation.sensor_health.state
  if previous ≠ new_state then
    let recovered := new_state = .ONLINE ∧ (previous = .DEGRADED ∨ previous = .FAILED)
    some (adapter.seat.health_event ambient.health_id wall (if recovered then "RECOVERED" else new_state.text)
      (if new_state = .ONLINE then "INFO" else "WARNING") previous new_state
      (if new_state = .ONLINE then "Seat person-sense body map online" else "Seat person-sense body map degraded")
      ((observation.degraded_reason.filter (· ≠ "")).getD ("BODY_MAP_" ++ new_state.text)) [])
  else none

/-- `observe(observation, now_wall, now_monotonic, source_reference)`. -/
def observe (platform : Platform) (state : BodyMapState) (observation : SeatPressureObservation) (call : ObserveCall)
    (ambient : Ambient) : BodyMapState × Except Error Cycle :=
  match adapter.admission_of platform observation call ambient with
  | .error error => (state, .error error)
  | .ok admission =>
    (⟨.seen observation.sensor_health.state admission.monotonic, some (active_by_pad observation.pads)⟩,
      .ok {
        sensor_event := some (adapter.sensor_event state observation ambient.sensor_id admission.wall
          admission.monotonic admission.source_reference)
        health_event := adapter.observed_event state observation ambient admission.wall })

end SeatPersonSenseBodyMapAdapter

/-- The public operations of the adapter. -/
inductive BodyMapOperation where
  | observe (observation : SeatPressureObservation) (call : ObserveCall) (ambient : Ambient)
  | mark_failure (reason : Json) (now_wall : Option Json) (ambient : Ambient)
  | check_stale (now_wall now_monotonic : Option Json) (ambient : Ambient)

def SeatPersonSenseBodyMapAdapter.perform (platform : Platform) (adapter : SeatPersonSenseBodyMapAdapter)
    (state : BodyMapState) : BodyMapOperation → BodyMapState × Except Error Cycle
  | .observe observation call ambient => adapter.observe platform state observation call ambient
  | .mark_failure reason now_wall ambient =>
    let (health, outcome) := state.health.mark_failure adapter.seat ambient reason now_wall
    ({ state with health }, outcome)
  | .check_stale now_wall now_monotonic ambient =>
    let (health, outcome) := state.health.check_stale adapter.seat ambient now_wall now_monotonic
    ({ state with health }, outcome)

end velvet.seat_person_sense_body_map
