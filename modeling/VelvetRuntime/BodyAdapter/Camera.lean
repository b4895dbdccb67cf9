import VelvetRuntime.BodyAdapter.Events
import VelvetRuntime.Python.Except

open python python.num python.str velvet.body_adapter

namespace velvet.current_frame_publisher

structure CameraImageInfo where
  image_format : String
  width : Int
  height : Int
  byte_count : Int
  content_sha256 : String
  format_known : image_format ∈ ["jpeg", "png"]
  dimensions_positive : 0 < width ∧ 0 < height
  byte_count_bound : 8 ≤ byte_count
  digest_length : content_sha256.toList.length = 64

/-- A frame as it was published. Its receipt is the id of its sensor record. -/
structure PublishedCameraFrame where
  image : CameraImageInfo
  captured_at : ℚ
  published_at : ℚ
  target_path : String
  receipt_id : RecordId
  captured_at_positive : 0 < captured_at
  published_at_positive : 0 < published_at
  published_after : captured_at ≤ published_at + 5
  target_path_given : ¬Blank target_path

structure CameraFrameAdapterConfig where
  module_id : String
  node_id : String
  owning_handmaiden : String
  source_id : String
  interface_type : String
  stale_after_ms : Int
  calibration_version : String
  failure_threshold : Int
  texts_given : ∀ text ∈ [module_id, node_id, owning_handmaiden, source_id, interface_type, calibration_version],
    ¬Blank text
  stale_after_bounds : 250 ≤ stale_after_ms ∧ stale_after_ms ≤ 600000
  threshold_bounds : 1 ≤ failure_threshold ∧ failure_threshold ≤ 100

def CameraFrameAdapterConfig.identity (config : CameraFrameAdapterConfig) : ModuleIdentity :=
  ⟨config.module_id, config.node_id, config.owning_handmaiden⟩

structure CameraFrameBodyAdapter where
  state : BodyState
  consecutive_failures : Nat
  last_failure_detail : Option String

def CameraFrameBodyAdapter.initial : CameraFrameBodyAdapter := ⟨.UNKNOWN, 0, none⟩

/-- `_bounded_text(value, maximum)`. -/
def bounded_text (value : String) (maximum : Nat) : String :=
  String.ofList ((join (split (value.toList.filter (· ≠ '\x00')))).take maximum)

/-- `_health_event`. -/
def health_event (config : CameraFrameAdapterConfig) (event_id : RecordId) (event_type severity : String)
    (state_before state_after : BodyState) (detail reason_code : String) (timestamp : ℚ) (extra : List (String × Json)) :
    HealthEvent where
  identity := config.identity
  event_id
  event_type
  timestamp
  severity
  state_before
  state_after
  diagnostic_payload := [("detail", .text detail), ("reason_code", .text reason_code),
    ("source_id", .text config.source_id), ("read_only", .bool true), ("camera_control_granted", .bool false)] ++ extra
  recovery_action := "continue bounded current-frame capture"

def inner (config : CameraFrameAdapterConfig) (frame : PublishedCameraFrame) : List (String × Json) := [
  ("source_id", .text config.source_id),
  ("frame_available", .bool true),
  ("image_format", .text frame.image.image_format),
  ("width", .int frame.image.width),
  ("height", .int frame.image.height),
  ("byte_count", .int frame.image.byte_count),
  ("content_sha256", .text frame.image.content_sha256),
  ("captured_at", float_json frame.captured_at),
  ("published_at", float_json frame.published_at),
  ("capture_latency_ms", float_json (num.round 3 (max 0 (frame.published_at - frame.captured_at) * 1000))),
  ("ephemeral_latest_only", .bool true),
  ("history_retained", .bool false),
  ("scene_interpretation_performed", .bool false),
  ("camera_control_granted", .bool false),
  ("read_only", .bool true),
  ("actuation_granted", .bool false),
  ("actuation_performed", .bool false)]

/-- `_sensor_event`. -/
def sensor_event (config : CameraFrameAdapterConfig) (monotonic : ℚ) (frame : PublishedCameraFrame) : SensorEvent where
  identity := config.identity
  receipt_id := frame.receipt_id
  timestamp := frame.published_at
  monotonic_time := monotonic
  sensor_type := "camera_current_frame"
  interface_type := config.interface_type
  health_state := .ONLINE
  confidence := 1
  inner := inner config frame
  source_clock := "device"
  stale_after_ms := config.stale_after_ms
  calibration_version := config.calibration_version
  degraded_reason := some none
  raw_reference := frame.target_path

namespace CameraFrameBodyAdapter

variable (config : CameraFrameAdapterConfig) (adapter : CameraFrameBodyAdapter) (ambient : Ambient)

/-- The event of a change of state. -/
def observed_event (frame : PublishedCameraFrame) : Option HealthEvent :=
  match adapter.state with
  | .UNKNOWN => some (health_event config ambient.health_id "ONLINE" "INFO" adapter.state .ONLINE
      "Camera current-frame publisher is online" "CAMERA_FRAME_ONLINE" frame.published_at [])
  | .DEGRADED | .FAILED => some (health_event config ambient.health_id "RECOVERED" "NOTICE" adapter.state .ONLINE
      "Camera current-frame publication recovered" "CAMERA_FRAME_RECOVERED" frame.published_at [])
  | .ONLINE => none

/-- `observe`. -/
def observe (frame : PublishedCameraFrame) : CameraFrameBodyAdapter × Except Error Cycle :=
  (⟨.ONLINE, 0, none⟩,
    .ok ⟨some (sensor_event config ambient.monotonic frame), adapter.observed_event config ambient frame⟩)

/-- `mark_failure`. -/
def mark_failure (reason : String) (timestamp : Option Json) : CameraFrameBodyAdapter × Except Error Cycle :=
  let bounded := bounded_text reason 512
  let detail := if bounded = "" then "camera frame publication failed" else bounded
  let checked : Except Error ℚ := match timestamp with
    | none => .ok ambient.time
    | some value => finite_positive "timestamp" " must be finite and positive" value
  match checked with
  | .error error => (adapter, .error error)
  | .ok wall =>
    let failures := adapter.consecutive_failures + 1
    let new_state := if config.failure_threshold ≤ failures then BodyState.FAILED else .DEGRADED
    if adapter.state = new_state ∧ adapter.last_failure_detail = some detail then
      ({ adapter with consecutive_failures := failures }, .ok .empty)
    else
      (⟨new_state, failures, some detail⟩,
        .ok (.health (health_event config ambient.health_id (if new_state = .FAILED then "FAILED" else "DEGRADED")
          (if new_state = .FAILED then "ERROR" else "WARNING") adapter.state new_state detail
          "CAMERA_FRAME_CAPTURE_FAILURE" wall [("consecutive_failures", .int failures)])))

/-- The public operations of the adapter. -/
inductive Operation where
  | observe (frame : PublishedCameraFrame) (ambient : Ambient)
  | mark_failure (reason : String) (timestamp : Option Json) (ambient : Ambient)

def perform : Operation → CameraFrameBodyAdapter × Except Error Cycle
  | .observe frame ambient => adapter.observe config ambient frame
  | .mark_failure reason timestamp ambient => adapter.mark_failure config ambient reason timestamp

end CameraFrameBodyAdapter

end velvet.current_frame_publisher
