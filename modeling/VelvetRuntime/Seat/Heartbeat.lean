import VelvetRuntime.Seat.Lines

open python python.num python.str python.json velvet.body_adapter velvet.seat

namespace velvet.seat_heartbeat_signal

def SEAT_HEARTBEAT_NODE_SCHEMA : String := "velvet.seat_heartbeat_node.v1"

def ALLOWED_FIELDS : List String :=
  ["schema", "node_id", "seat_id", "boot_id", "sequence", "uptime_ms", "sensor_model", "firmware_version",
    "calibration_version", "sensor_health", "degraded_reason", "signal_detected", "heartbeat_bpm",
    "heartbeat_confidence", "signal_quality", "measurement_window_ms"]

def seat_heartbeat_lines : LineFormat where
  error_kind := .SeatHeartbeatProtocolError
  label := "seat-heartbeat"
  schema := SEAT_HEARTBEAT_NODE_SCHEMA
  allowed_fields := ALLOWED_FIELDS
  seat_mismatch := "seat-heartbeat identity does not match configured seat"
  health_error := "seat-heartbeat sensor_health must be ONLINE or DEGRADED"
  degraded_error := "degraded heartbeat sensor health requires degraded_reason"
  online_error := "online heartbeat sensor health cannot carry degraded_reason"

structure SeatHeartbeatObservation extends SeatReading where
  signal_detected : Bool
  heartbeat_bpm : Option ℚ
  heartbeat_confidence : ℚ
  signal_quality : ℚ
  measurement_window_ms : Int
  deriving DecidableEq

/-- The checks that tie the numbers to whether there is a signal. -/
def check_signal (signal_detected : Bool) (bpm : Option ℚ) (confidence quality : ℚ) : Except Error Unit := do
  let format := seat_heartbeat_lines
  if signal_detected then do
    format.check (bpm ≠ none) "detected heartbeat signal requires heartbeat_bpm"
    format.check (0 < confidence ∧ 0 < quality) "detected heartbeat signal requires positive confidence and quality"
  else do
    format.check (bpm = none) "no heartbeat signal must not carry heartbeat_bpm"
    format.check (confidence = 0) "no heartbeat signal must use zero heartbeat_confidence"

def parse_seat_heartbeat_line (platform : Platform) (expected : Expected) (line : Line) :
    Except Error SeatHeartbeatObservation := do
  let format := seat_heartbeat_lines
  let document ← format.decode_unique_document platform line expected.max_line_bytes
  let header ← format.header platform expected document
  let signal_detected ← format.required_bool document "signal_detected"
  let bpm ← format.optional_finite_number document "heartbeat_bpm" 1 300
  let confidence ← format.required_finite_number document "heartbeat_confidence" 0 1
  let quality ← format.required_finite_number document "signal_quality" 0 1
  check_signal signal_detected bpm confidence quality
  let observed ← format.build header document
  let measurement_window_ms ← format.required_integer document "measurement_window_ms" 100 60000
  pure {
    toSeatReading := observed
    signal_detected
    heartbeat_bpm := bpm
    heartbeat_confidence := confidence
    signal_quality := quality
    measurement_window_ms }

/-- The configuration of the adapter has no fields of its own. -/
abbrev SeatHeartbeatAdapterConfig := SeatAdapterConfig

namespace SeatHeartbeatBodyAdapter

def diagnostic (config : SeatHeartbeatAdapterConfig) (detail reason_code : String) : List (String × Json) := [
  ("detail", .text detail),
  ("reason_code", .text reason_code),
  ("seat_id", .text config.seat_id),
  ("sensor_kind", .text "seat_heartbeat_signal"),
  ("read_only", .bool true),
  ("missing_heartbeat_means_absent", .bool false),
  ("medical_state_inferred", .bool false),
  ("authority_granted", .bool false)]

def node (config : SeatHeartbeatAdapterConfig) : NodeModule where
  identity := config.identity
  stale_after_ms := config.stale_after_ms
  failure_threshold := config.failure_threshold
  recovery_action := "continue observation-only heartbeat monitoring"
  diagnostic := diagnostic config
  failure_code := "SEAT_HEARTBEAT_SOURCE_FAILURE"
  stale_detail := "Seat heartbeat observation is stale"
  stale_code := "STALE_SEAT_HEARTBEAT"
  seat_id := config.seat_id
  expected_sensor_model := config.expected_sensor_model
  protocol_error := .SeatHeartbeatProtocolError
  replay_error := .SeatHeartbeatReplayError
  node_mismatch := "heartbeat observation node does not match adapter"
  seat_mismatch := "heartbeat observation seat does not match adapter"
  model_mismatch := "heartbeat observation model does not match adapter"
  sequence_repeated := "seat-heartbeat sequence repeated or regressed"
  uptime_regressed := "seat-heartbeat uptime regressed within one boot"
  restarted_detail := "Seat heartbeat node boot identity changed; ordered sequence restarted"
  recovered_detail := "Seat heartbeat signal source online"
  online_detail := "Seat heartbeat signal source online"
  degraded_detail := "Seat heartbeat signal source degraded"
  reason_prefix := "SEAT_HEARTBEAT_"

def inner (observation : SeatHeartbeatObservation) : List (String × Json) := [
  ("seat_id", .text observation.seat_id),
  ("source_id", .text ("seat.heartbeat." ++ observation.seat_id)),
  ("person_sense_family", .text "seat_person_sense"),
  ("fusion_role", .text "heartbeat_signal"),
  ("sensor_model", .text observation.sensor_model),
  ("firmware_version", .text observation.firmware_version),
  ("node_boot_id", .text observation.boot_id),
  ("sequence", .int observation.sequence),
  ("node_uptime_ms", .int observation.uptime_ms),
  ("signal_detected", .bool observation.signal_detected),
  ("heartbeat_bpm", optional_float observation.heartbeat_bpm),
  ("heartbeat_confidence", float_json observation.heartbeat_confidence),
  ("signal_quality", float_json observation.signal_quality),
  ("measurement_window_ms", .int observation.measurement_window_ms),
  ("missing_heartbeat_means_absent", .bool false),
  ("heartbeat_signal_is_medical_diagnosis", .bool false),
  ("person_presence_inferred", .bool false),
  ("seat_occupancy_inferred", .bool false),
  ("occupant_identity_inferred", .bool false),
  ("medical_state_inferred", .bool false),
  ("emergency_condition_inferred", .bool false),
  ("grants_authority", .bool false),
  ("read_only", .bool true)]

/-- `_sensor_event`. -/
def sensor_event (config : SeatHeartbeatAdapterConfig) (observation : SeatHeartbeatObservation) (receipt_id : RecordId)
    (wall monotonic : ℚ) (source_reference : String) : SensorEvent where
  identity := config.identity
  receipt_id
  timestamp := wall
  monotonic_time := monotonic
  sensor_type := "seat_heartbeat_signal"
  interface_type := config.interface_type
  health_state := observation.sensor_health.state
  confidence :=
    if observation.sensor_health = .DEGRADED then min observation.heartbeat_confidence (40 / 100)
    else observation.heartbeat_confidence
  inner := inner observation
  source_clock := "runtime-receive"
  stale_after_ms := config.stale_after_ms
  calibration_version := observation.calibration_version
  degraded_reason := some observation.degraded_reason
  raw_reference := source_reference

end SeatHeartbeatBodyAdapter

/-- The adapter that a configuration sets up. -/
def SeatHeartbeatBodyAdapter (config : SeatHeartbeatAdapterConfig) : SeatNode SeatHeartbeatObservation where
  node := SeatHeartbeatBodyAdapter.node config
  reading := SeatHeartbeatObservation.toSeatReading
  sensor_event := SeatHeartbeatBodyAdapter.sensor_event config

end velvet.seat_heartbeat_signal
