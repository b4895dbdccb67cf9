import VelvetRuntime.BodyAdapter.Events
import VelvetRuntime.Python.Except

open python python.num velvet.body_adapter

namespace velvet.microphone_input_health

/-- The part of a captured window that the adapter writes down. -/
structure CapturedPcmWindow where
  captured_at : ℚ
  device : String
  channels : Int
  sample_rate_hz : Int
  probe_seconds : Int
  captured_at_positive : 0 < captured_at
  device_given : ¬Blank device

inductive ChannelState where
  | ACTIVE
  | QUIET
  | DIGITAL_SILENCE
  | CLIPPING
  deriving DecidableEq, Repr

def ChannelState.text : ChannelState → String
  | ACTIVE => "ACTIVE"
  | QUIET => "QUIET"
  | DIGITAL_SILENCE => "DIGITAL_SILENCE"
  | CLIPPING => "CLIPPING"

structure MicrophoneChannelMetric where
  index : Nat
  label : String
  state : ChannelState
  peak_dbfs : ℚ
  rms_dbfs : ℚ
  clipping_ratio : ℚ
  nonzero_ratio : ℚ

def MicrophoneChannelMetric.to_dict (metric : MicrophoneChannelMetric) : Json := .object [
  ("index", .int metric.index),
  ("label", .text metric.label),
  ("state", .text metric.state.text),
  ("peak_dbfs", float_json (num.round 3 metric.peak_dbfs)),
  ("rms_dbfs", float_json (num.round 3 metric.rms_dbfs)),
  ("clipping_ratio", float_json (num.round 8 metric.clipping_ratio)),
  ("nonzero_ratio", float_json (num.round 8 metric.nonzero_ratio))]

/-- What `analyze_pcm_window` finds: the state and its reason follow from the channels. -/
structure MicrophoneInputAnalysis where
  channels : List MicrophoneChannelMetric
  frames_per_channel : Nat
  captured_byte_count : Nat

namespace MicrophoneInputAnalysis

def count (analysis : MicrophoneInputAnalysis) (state : ChannelState) : Nat :=
  analysis.channels.countP (fun metric => metric.state = state)

def reason_code (analysis : MicrophoneInputAnalysis) : Option String :=
  if 0 < analysis.count .CLIPPING then some "CHANNEL_CLIPPING"
  else if 0 < analysis.count .DIGITAL_SILENCE then some "CHANNEL_DIGITAL_SILENCE"
  else none

def state (analysis : MicrophoneInputAnalysis) : BodyState :=
  if 0 < analysis.count .CLIPPING ∨ 0 < analysis.count .DIGITAL_SILENCE then .DEGRADED else .ONLINE

end MicrophoneInputAnalysis

structure MicrophoneInputAdapterConfig where
  module_id : String
  node_id : String
  owning_handmaiden : String
  source_id : String
  interface_type : String
  stale_after_ms : Int
  calibration_version : String
  failure_threshold : Int
  texts_given : ∀ text ∈ [module_id, node_id, owning_handmaiden, source_id, interface_type, calibration_version],
    ¬Blank text
  stale_after_bounds : 1000 ≤ stale_after_ms ∧ stale_after_ms ≤ 600000
  threshold_bounds : 1 ≤ failure_threshold ∧ failure_threshold ≤ 100

def MicrophoneInputAdapterConfig.identity (config : MicrophoneInputAdapterConfig) : ModuleIdentity :=
  ⟨config.module_id, config.node_id, config.owning_handmaiden⟩

structure MicrophoneInputBodyAdapter where
  state : BodyState
  last_reason : Option String
  consecutive_failures : Nat

def MicrophoneInputBodyAdapter.initial : MicrophoneInputBodyAdapter := ⟨.UNKNOWN, none, 0⟩

/-- `_health_event`. -/
def health_event (config : MicrophoneInputAdapterConfig) (event_id : RecordId) (event_type severity : String)
    (state_before state_after : BodyState) (reason_code detail : String) (wall : ℚ) : HealthEvent where
  identity := config.identity
  event_id
  event_type
  timestamp := wall
  severity
  state_before
  state_after
  diagnostic_payload := [("detail", .text detail), ("reason_code", .text reason_code),
    ("source_id", .text config.source_id), ("audio_retained", .bool false), ("read_only", .bool true)]
  recovery_action := "continue bounded microphone input-health probing"

def inner (config : MicrophoneInputAdapterConfig) (captured : CapturedPcmWindow) (analysis : MicrophoneInputAnalysis) :
    List (String × Json) := [
  ("source_id", .text config.source_id),
  ("device_alias", .text captured.device),
  ("channel_count", .int captured.channels),
  ("sample_rate_hz", .int captured.sample_rate_hz),
  ("sample_format", .text "S16_LE"),
  ("probe_seconds", .int captured.probe_seconds),
  ("frames_per_channel", .int analysis.frames_per_channel),
  ("captured_byte_count", .int analysis.captured_byte_count),
  ("channels", .list (analysis.channels.map MicrophoneChannelMetric.to_dict)),
  ("active_channels", .int (analysis.count .ACTIVE)),
  ("quiet_channels", .int (analysis.count .QUIET)),
  ("digital_silence_channels", .int (analysis.count .DIGITAL_SILENCE)),
  ("clipping_channels", .int (analysis.count .CLIPPING)),
  ("audio_retained", .bool false),
  ("audio_persisted", .bool false),
  ("speech_recognition_performed", .bool false),
  ("wake_word_detection_performed", .bool false),
  ("command_interpreted", .bool false),
  ("voice_command_authority", .bool false),
  ("read_only", .bool true)]

/-- `_sensor_event`. -/
def sensor_event (config : MicrophoneInputAdapterConfig) (receipt_id : RecordId) (monotonic : ℚ)
    (captured : CapturedPcmWindow) (analysis : MicrophoneInputAnalysis) : SensorEvent where
  identity := config.identity
  receipt_id
  timestamp := captured.captured_at
  monotonic_time := monotonic
  sensor_type := "microphone_input_health"
  interface_type := config.interface_type
  health_state := analysis.state
  confidence := 1
  inner := inner config captured analysis
  source_clock := "device"
  stale_after_ms := config.stale_after_ms
  calibration_version := config.calibration_version
  degraded_reason := some analysis.reason_code
  raw_reference := captured.device

namespace MicrophoneInputBodyAdapter

variable (config : MicrophoneInputAdapterConfig) (adapter : MicrophoneInputBodyAdapter) (ambient : Ambient)

/-- The event of a first probe, of a recovery, or of a change of state or reason. -/
def observed_event (analysis : MicrophoneInputAnalysis) : Option HealthEvent :=
  let online := analysis.state = .ONLINE
  if adapter.state = .UNKNOWN then
    some (health_event config ambient.health_id (if online then "ONLINE" else "DEGRADED")
      (if online then "INFO" else "WARNING") adapter.state analysis.state (analysis.reason_code.getD "INPUT_HEALTHY")
      "Microphone input-health probe completed" ambient.time)
  else if adapter.state = .FAILED ∧ online then
    some (health_event config ambient.health_id "RECOVERED" "NOTICE" adapter.state .ONLINE "INPUT_RECOVERED"
      "Microphone capture path recovered" ambient.time)
  else if adapter.state ≠ analysis.state ∨ adapter.last_reason ≠ analysis.reason_code then
    some (health_event config ambient.health_id (if online then "RECOVERED" else "DEGRADED")
      (if online then "NOTICE" else "WARNING") adapter.state analysis.state
      (analysis.reason_code.getD "INPUT_RECOVERED") "Microphone input-health state changed" ambient.time)
  else none

/-- `observe`. -/
def observe (captured : CapturedPcmWindow) (analysis : MicrophoneInputAnalysis) :
    MicrophoneInputBodyAdapter × Except Error Cycle :=
  (⟨analysis.state, analysis.reason_code, 0⟩,
    .ok ⟨some (sensor_event config ambient.sensor_id ambient.monotonic captured analysis),
      adapter.observed_event config ambient analysis⟩)

/-- `mark_failure`. -/
def mark_failure (detail : Json) (timestamp : Option Json) : MicrophoneInputBodyAdapter × Except Error Cycle :=
  let checked := do
    let found ← given_text ⟨.ValueError, "detail must be non-empty text"⟩ detail
    let wall ← match timestamp with
      | none => pure ambient.time
      | some value => finite_positive "timestamp" " must be positive and finite" value
    pure (found, wall)
  match checked with
  | .error error => (adapter, .error error)
  | .ok (found, wall) =>
    let failures := adapter.consecutive_failures + 1
    let target := if config.failure_threshold ≤ failures then BodyState.FAILED else .DEGRADED
    if adapter.state = target ∧ adapter.last_reason = some "CAPTURE_FAILURE" then
      ({ adapter with consecutive_failures := failures }, .ok .empty)
    else
      (⟨target, some "CAPTURE_FAILURE", failures⟩,
        .ok (.health (health_event config ambient.health_id (if target = .FAILED then "FAILED" else "DEGRADED")
          (if target = .FAILED then "ERROR" else "WARNING") adapter.state target "CAPTURE_FAILURE"
          (String.ofList (found.toList.take 512)) wall)))

/-- The public operations of the adapter. -/
inductive Operation where
  | observe (captured : CapturedPcmWindow) (analysis : MicrophoneInputAnalysis) (ambient : Ambient)
  | mark_failure (detail : Json) (timestamp : Option Json) (ambient : Ambient)

def perform : Operation → MicrophoneInputBodyAdapter × Except Error Cycle
  | .observe captured analysis ambient => adapter.observe config ambient captured analysis
  | .mark_failure detail timestamp ambient => adapter.mark_failure config ambient detail timestamp

end MicrophoneInputBodyAdapter

end velvet.microphone_input_health
