import VelvetRuntime.Seat.Lines

open python python.num python.str python.json velvet.body_adapter velvet.seat

namespace velvet.seat_pressure_pad

def SEAT_PRESSURE_NODE_SCHEMA : String := "velvet.seat_pressure_node.v1"

def ALLOWED_FIELDS : List String :=
  ["schema", "node_id", "seat_id", "boot_id", "sequence", "uptime_ms", "sensor_model", "firmware_version",
    "calibration_version", "sensor_health", "degraded_reason", "pressure_mode", "pads", "contact_detected",
    "contact_stable_ms", "lateral_state", "lateral_shift_detected", "lateral_shift_direction",
    "total_load_kg_equivalent"]

def ALLOWED_PAD_FIELDS : List String := ["pad_id", "zone", "active", "raw_value", "normalized_load"]

def LATERAL_STATES : List String := ["LEFT", "CENTER", "RIGHT", "BALANCED", "MIXED", "NO_CONTACT", "UNKNOWN"]

def LATERAL_DIRECTIONS : List String := ["LEFT", "RIGHT", "NONE", "UNKNOWN"]

def seat_pressure_lines : LineFormat where
  error_kind := .SeatPressureProtocolError
  label := "seat-pressure"
  schema := SEAT_PRESSURE_NODE_SCHEMA
  allowed_fields := ALLOWED_FIELDS
  seat_mismatch := "seat-pressure identity does not match configured seat"
  health_error := "seat-pressure sensor_health must be ONLINE or DEGRADED"
  degraded_error := "degraded pressure sensor health requires degraded_reason"
  online_error := "online pressure sensor health cannot carry degraded_reason"

/-- `_PRESSURE_MODES`. -/
inductive PressureMode where
  | BINARY_CONTACT
  | CALIBRATED_LOAD
  deriving DecidableEq, Repr

def PressureMode.text : PressureMode → String
  | BINARY_CONTACT => "BINARY_CONTACT"
  | CALIBRATED_LOAD => "CALIBRATED_LOAD"

structure PressurePadSample where
  pad_id : String
  zone : String
  active : Bool
  raw_value : Option Int
  normalized_load : Option ℚ
  deriving DecidableEq

structure SeatPressureObservation extends SeatReading where
  pressure_mode : PressureMode
  pads : List PressurePadSample
  contact_detected : Bool
  contact_stable_ms : Int
  lateral_state : String
  lateral_shift_detected : Bool
  lateral_shift_direction : String
  total_load_kg_equivalent : Option ℚ
  deriving DecidableEq

def SeatPressureObservation.active_pad_count (observation : SeatPressureObservation) : Nat :=
  observation.pads.countP PressurePadSample.active

/-- The schema of a line, of which nothing else is checked. -/
def peek_seat_node_schema (platform : Platform) (line : Line) : Except Error String := do
  let document ← seat_pressure_lines.decode_unique_document platform line 4096
  match entry_of document "schema" with
  | some (.text schema) =>
    if is_text schema then pure schema else throw (seat_pressure_lines.error "seat-node schema must be bounded text")
  | _ => throw (seat_pressure_lines.error "seat-node schema must be bounded text")

/-- `_parse_pad(value, index, pressure_mode)`. -/
def parse_pad (platform : Platform) (pressure_mode : PressureMode) (index : Nat) (value : Json) :
    Except Error PressurePadSample :=
  let format := seat_pressure_lines
  match value with
  | .object pad => do
    let keys := pad.map Prod.fst
    let unknown := keys.filter (· ∉ ALLOWED_PAD_FIELDS)
    let missing := ALLOWED_PAD_FIELDS.filter (· ∉ keys)
    format.check (unknown = []) ("pressure pad " ++ toString index ++ " has unsupported fields: " ++
      platform.repr_texts (LineFormat.sorted_texts unknown))
    format.check (missing = []) ("pressure pad " ++ toString index ++ " is missing fields: " ++
      platform.repr_texts (LineFormat.sorted_texts missing))
    let normalized_load ← format.optional_finite_number pad "normalized_load" 0 1
    format.check (pressure_mode = .BINARY_CONTACT → normalized_load = none)
      "binary pressure pad cannot carry normalized_load"
    let pad_id ← format.required_id pad "pad_id"
    let zone ← format.required_id pad "zone"
    let active ← format.required_bool pad "active"
    let raw_value ← format.optional_integer pad "raw_value" 0 1000000000
    pure { pad_id, zone, active, raw_value, normalized_load }
  | _ => throw (format.error ("pressure pad " ++ toString index ++ " must be an object"))

/-- The loop over the pads, which have different ids. -/
def parse_pads (platform : Platform) (pressure_mode : PressureMode) (index : Nat) (seen : List String) :
    List Json → Except Error (List PressurePadSample)
  | [] => .ok []
  | value :: rest => do
    let pad ← parse_pad platform pressure_mode index value
    seat_pressure_lines.check (pad.pad_id ∉ seen) ("duplicate pressure pad_id: " ++ pad.pad_id)
    let pads ← parse_pads platform pressure_mode (index + 1) (seen ++ [pad.pad_id]) rest
    pure (pad :: pads)

def pads_of (platform : Platform) (document : List (String × Json)) (pressure_mode : PressureMode) :
    Except Error (List PressurePadSample) :=
  match entry_of document "pads" with
  | some (.list values) =>
    if 1 ≤ values.length ∧ values.length ≤ 8 then parse_pads platform pressure_mode 0 [] values
    else .error (seat_pressure_lines.error "pads must contain between one and eight pads")
  | _ => .error (seat_pressure_lines.error "pads must contain between one and eight pads")

/-- The checks of the load that belongs to a mode. -/
def check_load (pressure_mode : PressureMode) (total_load : Option ℚ) (pads : List PressurePadSample) :
    Except Error Unit := do
  let format := seat_pressure_lines
  match pressure_mode with
  | .BINARY_CONTACT => do
    format.check (total_load = none) "binary pressure pads cannot claim a kilogram-equivalent load"
    format.check (∀ pad ∈ pads, pad.normalized_load = none) "binary pressure pads cannot claim normalized load"
  | .CALIBRATED_LOAD => do
    format.check (total_load ≠ none) "calibrated load mode requires total_load_kg_equivalent"
    format.check (∀ pad ∈ pads, pad.normalized_load ≠ none) "calibrated load mode requires normalized_load for every pad"

def parse_seat_pressure_line (platform : Platform) (expected : Expected) (line : Line) :
    Except Error SeatPressureObservation := do
  let format := seat_pressure_lines
  let document ← format.decode_unique_document platform line expected.max_line_bytes
  let header ← format.header platform expected document
  let mode ← format.required_text document "pressure_mode"
  let pressure_mode ←
    if upper mode = "BINARY_CONTACT" then pure PressureMode.BINARY_CONTACT
    else if upper mode = "CALIBRATED_LOAD" then pure PressureMode.CALIBRATED_LOAD
    else throw (format.error "unsupported pressure_mode")
  let pads ← pads_of platform document pressure_mode
  let contact_detected ← format.required_bool document "contact_detected"
  format.check (contact_detected = pads.any PressurePadSample.active)
    "contact_detected must equal whether any pressure pad is active"
  let lateral ← format.required_text document "lateral_state"
  let lateral_state := upper lateral
  format.check (lateral_state ∈ LATERAL_STATES) "unsupported lateral_state"
  format.check (contact_detected = false → lateral_state = "NO_CONTACT")
    "no pressure contact must use lateral_state NO_CONTACT"
  format.check (contact_detected = true → lateral_state ≠ "NO_CONTACT")
    "pressure contact cannot use lateral_state NO_CONTACT"
  let lateral_shift_detected ← format.required_bool document "lateral_shift_detected"
  let direction ← format.required_text document "lateral_shift_direction"
  let lateral_shift_direction := upper direction
  format.check (lateral_shift_direction ∈ LATERAL_DIRECTIONS) "unsupported lateral_shift_direction"
  format.check (lateral_shift_detected = true → lateral_shift_direction ∈ ["LEFT", "RIGHT"])
    "detected lateral shift requires LEFT or RIGHT direction"
  format.check (lateral_shift_detected = false → lateral_shift_direction ∈ ["NONE", "UNKNOWN"])
    "no lateral shift must use NONE or UNKNOWN direction"
  format.check (contact_detected = false → lateral_shift_detected = false)
    "lateral shift cannot be detected without pressure contact"
  let total_load_kg_equivalent ← format.optional_finite_number document "total_load_kg_equivalent" 0 300
  check_load pressure_mode total_load_kg_equivalent pads
  let observed ← format.build header document
  let contact_stable_ms ← format.required_integer document "contact_stable_ms" 0 2147483647
  pure {
    toSeatReading := observed
    pressure_mode
    pads
    contact_detected
    contact_stable_ms
    lateral_state
    lateral_shift_detected
    lateral_shift_direction
    total_load_kg_equivalent }

structure SeatPressureAdapterConfig extends SeatAdapterConfig where
  contact_assert_ms : Int
  release_assert_ms : Int
  contact_assert_bounds : 0 ≤ contact_assert_ms ∧ contact_assert_ms ≤ 60000
  release_assert_bounds : 0 ≤ release_assert_ms ∧ release_assert_ms ≤ 600000
  release_not_shorter : contact_assert_ms ≤ release_assert_ms

inductive ContactState where
  | CONTACT_CONFIRMED
  | NO_CONTACT_CONFIRMED
  | TRANSITION
  deriving DecidableEq, Repr

def ContactState.text : ContactState → String
  | CONTACT_CONFIRMED => "CONTACT_CONFIRMED"
  | NO_CONTACT_CONFIRMED => "NO_CONTACT_CONFIRMED"
  | TRANSITION => "TRANSITION"

/-- `_contact_state`. -/
def contact_state (contact_detected : Bool) (stable_ms contact_assert_ms release_assert_ms : Int) : ContactState :=
  if contact_detected = true ∧ contact_assert_ms ≤ stable_ms then .CONTACT_CONFIRMED
  else if contact_detected = false ∧ release_assert_ms ≤ stable_ms then .NO_CONTACT_CONFIRMED
  else .TRANSITION

namespace SeatPressureBodyAdapter

def diagnostic (config : SeatPressureAdapterConfig) (detail reason_code : String) : List (String × Json) := [
  ("detail", .text detail),
  ("reason_code", .text reason_code),
  ("seat_id", .text config.seat_id),
  ("sensor_kind", .text "seat_pressure_array"),
  ("read_only", .bool true),
  ("seat_occupancy_inferred", .bool false),
  ("medical_state_inferred", .bool false),
  ("authority_granted", .bool false)]

def node (config : SeatPressureAdapterConfig) : NodeModule where
  identity := config.identity
  stale_after_ms := config.stale_after_ms
  failure_threshold := config.failure_threshold
  recovery_action := "continue observation-only seat pressure monitoring"
  diagnostic := diagnostic config
  failure_code := "SEAT_PRESSURE_SOURCE_FAILURE"
  stale_detail := "Seat pressure observation is stale"
  stale_code := "STALE_SEAT_PRESSURE"
  seat_id := config.seat_id
  expected_sensor_model := config.expected_sensor_model
  protocol_error := .SeatPressureProtocolError
  replay_error := .SeatPressureReplayError
  node_mismatch := "pressure observation identity does not match adapter"
  seat_mismatch := "pressure observation identity does not match adapter"
  model_mismatch := "pressure observation model does not match adapter"
  sequence_repeated := "seat-pressure sequence repeated or regressed"
  uptime_regressed := "seat-pressure uptime regressed within one boot"
  restarted_detail := "Seat pressure node boot identity changed; ordered sequence restarted"
  recovered_detail := "Seat pressure node recovered"
  online_detail := "Seat pressure node online"
  degraded_detail := "Seat pressure node reports degraded sensor health"
  reason_prefix := "SEAT_PRESSURE_"

def confidence (observation : SeatPressureObservation) (state : ContactState) : ℚ :=
  let calibrated := observation.pressure_mode = .CALIBRATED_LOAD
  let found := match state with
    | .CONTACT_CONFIRMED => if calibrated then 92 / 100 else 88 / 100
    | .NO_CONTACT_CONFIRMED => if calibrated then 70 / 100 else 60 / 100
    | .TRANSITION => 35 / 100
  if observation.sensor_health = .DEGRADED then min found (40 / 100) else found

def pad_record (pad : PressurePadSample) : Json := .object [
  ("pad_id", .text pad.pad_id),
  ("zone", .text pad.zone),
  ("active", .bool pad.active),
  ("raw_value", optional_int pad.raw_value),
  ("normalized_load", optional_float pad.normalized_load)]

def inner (config : SeatPressureAdapterConfig) (observation : SeatPressureObservation) (state : ContactState) :
    List (String × Json) := [
  ("seat_id", .text observation.seat_id),
  ("source_id", .text ("seat.pressure." ++ observation.seat_id)),
  ("sensor_model", .text observation.sensor_model),
  ("firmware_version", .text observation.firmware_version),
  ("node_boot_id", .text observation.boot_id),
  ("sequence", .int observation.sequence),
  ("node_uptime_ms", .int observation.uptime_ms),
  ("pressure_mode", .text observation.pressure_mode.text),
  ("pads", .list (observation.pads.map pad_record)),
  ("pad_count", .int observation.pads.length),
  ("active_pad_count", .int observation.active_pad_count),
  ("pressure_contact_detected_raw", .bool observation.contact_detected),
  ("pressure_contact_stable_ms", .int observation.contact_stable_ms),
  ("pressure_contact_state", .text state.text),
  ("pressure_contact_confirmed", .bool (state = .CONTACT_CONFIRMED)),
  ("pressure_release_confirmed", .bool (state = .NO_CONTACT_CONFIRMED)),
  ("contact_assert_ms", .int config.contact_assert_ms),
  ("release_assert_ms", .int config.release_assert_ms),
  ("lateral_state", .text observation.lateral_state),
  ("lateral_shift_detected", .bool observation.lateral_shift_detected),
  ("lateral_shift_direction", .text observation.lateral_shift_direction),
  ("total_load_kg_equivalent", optional_float observation.total_load_kg_equivalent),
  ("load_estimate_available", .bool observation.total_load_kg_equivalent.isSome),
  ("load_is_estimate", .bool observation.total_load_kg_equivalent.isSome),
  ("binary_contact_converted_to_load", .bool false),
  ("pressure_contact_means_occupied", .bool false),
  ("no_pressure_contact_means_empty", .bool false),
  ("seat_occupancy_inferred", .bool false),
  ("occupant_identity_inferred", .bool false),
  ("heartbeat_measured", .bool false),
  ("medical_state_inferred", .bool false),
  ("emergency_condition_inferred", .bool false),
  ("grants_authority", .bool false),
  ("read_only", .bool true)]

/-- `_sensor_event`. -/
def sensor_event (config : SeatPressureAdapterConfig) (observation : SeatPressureObservation) (receipt_id : RecordId)
    (wall monotonic : ℚ) (source_reference : String) : SensorEvent :=
  let state := contact_state observation.contact_detected observation.contact_stable_ms config.contact_assert_ms
    config.release_assert_ms
  { identity := config.identity
    receipt_id
    timestamp := wall
    monotonic_time := monotonic
    sensor_type := "seat_pressure_array"
    interface_type := config.interface_type
    health_state := observation.sensor_health.state
    confidence := confidence observation state
    inner := inner config observation state
    source_clock := "runtime-receive"
    stale_after_ms := config.stale_after_ms
    calibration_version := observation.calibration_version
    degraded_reason := some observation.degraded_reason
    raw_reference := source_reference }

end SeatPressureBodyAdapter

/-- The adapter that a configuration sets up. -/
def SeatPressureBodyAdapter (config : SeatPressureAdapterConfig) : SeatNode SeatPressureObservation where
  node := SeatPressureBodyAdapter.node config
  reading := SeatPressureObservation.toSeatReading
  sensor_event := SeatPressureBodyAdapter.sensor_event config

end velvet.seat_pressure_pad
