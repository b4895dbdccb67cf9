import VelvetRuntime.Seat.Lines

open python python.num python.str python.json velvet.body_adapter velvet.seat

namespace velvet.seat_presence_node

def SEAT_NODE_SCHEMA : String := "velvet.seat_presence_node.v1"

def ALLOWED_FIELDS : List String :=
  ["schema", "node_id", "seat_id", "boot_id", "sequence", "uptime_ms", "sensor_model", "firmware_version",
    "calibration_version", "sensor_health", "degraded_reason", "presence_detected", "moving_target_detected",
    "stationary_target_detected", "detection_distance_cm", "moving_distance_cm", "stationary_distance_cm",
    "moving_energy", "stationary_energy"]

def seat_node_lines : LineFormat where
  error_kind := .SeatNodeProtocolError
  label := "seat-node"
  schema := SEAT_NODE_SCHEMA
  allowed_fields := ALLOWED_FIELDS
  seat_mismatch := "seat identity does not match configured seat"
  health_error := "sensor_health must be ONLINE or DEGRADED"
  degraded_error := "degraded sensor health requires degraded_reason"
  online_error := "online sensor health cannot carry degraded_reason"

structure SeatNodeObservation extends SeatReading where
  presence_detected : Bool
  moving_target_detected : Bool
  stationary_target_detected : Bool
  detection_distance_cm : Option Int
  moving_distance_cm : Option Int
  stationary_distance_cm : Option Int
  moving_energy : Int
  stationary_energy : Int
  deriving DecidableEq

def SeatNodeObservation.movement_state (observation : SeatNodeObservation) : String :=
  if observation.moving_target_detected ∧ observation.stationary_target_detected then "MOVING_AND_STATIONARY"
  else if observation.moving_target_detected then "MOVING"
  else if observation.stationary_target_detected then "STATIONARY"
  else "NO_RADAR_PRESENCE"

def parse_seat_node_line (platform : Platform) (expected : Expected) (line : Line) : Except Error SeatNodeObservation := do
  let format := seat_node_lines
  let document ← format.decode_unique_document platform line expected.max_line_bytes
  let header ← format.header platform expected document
  let presence ← format.required_bool document "presence_detected"
  let moving ← format.required_bool document "moving_target_detected"
  let stationary ← format.required_bool document "stationary_target_detected"
  format.check (presence = (moving || stationary)) "presence_detected must equal moving or stationary target detection"
  let detection_distance ← format.optional_integer document "detection_distance_cm" 0 600
  let moving_distance ← format.optional_integer document "moving_distance_cm" 0 600
  let stationary_distance ← format.optional_integer document "stationary_distance_cm" 0 600
  format.check (presence = true → detection_distance ≠ none) "detected presence requires detection_distance_cm"
  format.check (presence = false → detection_distance = none) "no detection must not carry detection_distance_cm"
  format.check (moving = moving_distance.isSome)
    "moving_distance_cm must exist exactly when moving target is detected"
  format.check (stationary = stationary_distance.isSome)
    "stationary_distance_cm must exist exactly when stationary target is detected"
  let observed ← format.build header document
  let moving_energy ← format.required_integer document "moving_energy" 0 100
  let stationary_energy ← format.required_integer document "stationary_energy" 0 100
  pure {
    toSeatReading := observed
    presence_detected := presence
    moving_target_detected := moving
    stationary_target_detected := stationary
    detection_distance_cm := detection_distance
    moving_distance_cm := moving_distance
    stationary_distance_cm := stationary_distance
    moving_energy
    stationary_energy }

/-- The configuration of the adapter has no fields of its own. -/
abbrev SeatPresenceAdapterConfig := SeatAdapterConfig

namespace SeatPresenceBodyAdapter

def diagnostic (config : SeatPresenceAdapterConfig) (detail reason_code : String) : List (String × Json) := [
  ("detail", .text detail),
  ("reason_code", .text reason_code),
  ("seat_id", .text config.seat_id),
  ("read_only", .bool true),
  ("seat_occupancy_inferred", .bool false),
  ("medical_state_inferred", .bool false),
  ("authority_granted", .bool false)]

def node (config : SeatPresenceAdapterConfig) : NodeModule where
  identity := config.identity
  stale_after_ms := config.stale_after_ms
  failure_threshold := config.failure_threshold
  recovery_action := "continue observation-only seat-node monitoring"
  diagnostic := diagnostic config
  failure_code := "SEAT_NODE_SOURCE_FAILURE"
  stale_detail := "Seat presence observation is stale"
  stale_code := "STALE_SEAT_NODE"
  seat_id := config.seat_id
  expected_sensor_model := config.expected_sensor_model
  protocol_error := .SeatNodeProtocolError
  replay_error := .SeatNodeReplayError
  node_mismatch := "observation identity does not match adapter"
  seat_mismatch := "observation identity does not match adapter"
  model_mismatch := "observation sensor model does not match adapter"
  sequence_repeated := "seat-node sequence repeated or regressed"
  uptime_regressed := "seat-node uptime regressed within one boot"
  restarted_detail := "Seat presence node boot identity changed; ordered sequence restarted"
  recovered_detail := "Seat presence node recovered"
  online_detail := "Seat presence node online"
  degraded_detail := "Seat presence node reports degraded sensor health"
  reason_prefix := "SEAT_NODE_"

def confidence (observation : SeatNodeObservation) : ℚ :=
  let found := if observation.presence_detected then 90 / 100 else 65 / 100
  if observation.sensor_health = .DEGRADED then min found (45 / 100) else found

def inner (observation : SeatNodeObservation) : List (String × Json) := [
  ("seat_id", .text observation.seat_id),
  ("source_id", .text ("seat.radar." ++ observation.seat_id)),
  ("sensor_model", .text observation.sensor_model),
  ("firmware_version", .text observation.firmware_version),
  ("node_boot_id", .text observation.boot_id),
  ("sequence", .int observation.sequence),
  ("node_uptime_ms", .int observation.uptime_ms),
  ("radar_presence_detected", .bool observation.presence_detected),
  ("moving_target_detected", .bool observation.moving_target_detected),
  ("stationary_target_detected", .bool observation.stationary_target_detected),
  ("movement_state", .text observation.movement_state),
  ("detection_distance_cm", optional_int observation.detection_distance_cm),
  ("moving_distance_cm", optional_int observation.moving_distance_cm),
  ("stationary_distance_cm", optional_int observation.stationary_distance_cm),
  ("moving_energy", .int observation.moving_energy),
  ("stationary_energy", .int observation.stationary_energy),
  ("no_detection_means_empty", .bool false),
  ("seat_occupancy_inferred", .bool false),
  ("occupant_identity_inferred", .bool false),
  ("heartbeat_measured", .bool false),
  ("medical_state_inferred", .bool false),
  ("emergency_condition_inferred", .bool false),
  ("grants_authority", .bool false),
  ("read_only", .bool true)]

/-- `_sensor_event`. -/
def sensor_event (config : SeatPresenceAdapterConfig) (observation : SeatNodeObservation) (receipt_id : RecordId)
    (wall monotonic : ℚ) (source_reference : String) : SensorEvent where
  identity := config.identity
  receipt_id
  timestamp := wall
  monotonic_time := monotonic
  sensor_type := "seat_presence_radar"
  interface_type := config.interface_type
  health_state := observation.sensor_health.state
  confidence := confidence observation
  inner := inner observation
  source_clock := "runtime-receive"
  stale_after_ms := config.stale_after_ms
  calibration_version := observation.calibration_version
  degraded_reason := some observation.degraded_reason
  raw_reference := source_reference

end SeatPresenceBodyAdapter

/-- The adapter that a configuration sets up. -/
def SeatPresenceBodyAdapter (config : SeatPresenceAdapterConfig) : SeatNode SeatNodeObservation where
  node := SeatPresenceBodyAdapter.node config
  reading := SeatNodeObservation.toSeatReading
  sensor_event := SeatPresenceBodyAdapter.sensor_event config

end velvet.seat_presence_node
