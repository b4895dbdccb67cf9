import VelvetRuntime.BodyAdapter.Events
import VelvetRuntime.Python.Except

open python python.num velvet.body_adapter

namespace velvet.vehicle_power_adapter

structure VehiclePowerAdapterConfig where
  module_id : String
  node_id : String
  owning_handmaiden : String
  interface_type : String
  stale_after_ms : Int
  calibration_version : String
  critical_low_voltage_v : ℚ
  low_voltage_v : ℚ
  nominal_voltage_v : ℚ
  charging_voltage_v : ℚ
  high_voltage_v : ℚ
  maximum_voltage_v : ℚ
  texts_given : ∀ text ∈ [module_id, node_id, owning_handmaiden, interface_type, calibration_version], ¬Blank text
  stale_after_bounds : 250 ≤ stale_after_ms ∧ stale_after_ms ≤ 600000
  critical_low_positive : 0 < critical_low_voltage_v
  thresholds_increase : List.Pairwise (· < ·) [critical_low_voltage_v, low_voltage_v, nominal_voltage_v,
    charging_voltage_v, high_voltage_v, maximum_voltage_v]

def VehiclePowerAdapterConfig.identity (config : VehiclePowerAdapterConfig) : ModuleIdentity :=
  ⟨config.module_id, config.node_id, config.owning_handmaiden⟩

inductive VoltageBand where
  | CRITICAL_LOW
  | LOW
  | NORMAL
  | CHARGING
  | HIGH
  deriving DecidableEq, Repr

namespace VoltageBand

def text : VoltageBand → String
  | CRITICAL_LOW => "CRITICAL_LOW"
  | LOW => "LOW"
  | NORMAL => "NORMAL"
  | CHARGING => "CHARGING"
  | HIGH => "HIGH"

def is_healthy (band : VoltageBand) : Bool := band = NORMAL || band = CHARGING

/-- The state that goes with a band. -/
def state (band : VoltageBand) : BodyState := if band.is_healthy then .ONLINE else .DEGRADED

end VoltageBand

def classify_voltage (voltage : ℚ) (config : VehiclePowerAdapterConfig) : VoltageBand :=
  if voltage < config.critical_low_voltage_v then .CRITICAL_LOW
  else if voltage < config.low_voltage_v then .LOW
  else if voltage < config.charging_voltage_v then .NORMAL
  else if voltage < config.high_voltage_v then .CHARGING
  else .HIGH

structure VehiclePowerBodyAdapter where
  state : BodyState
  last_band : Option VoltageBand
  last_observation_monotonic : Option ℚ
  stale_reported : Bool

def VehiclePowerBodyAdapter.initial : VehiclePowerBodyAdapter := ⟨.UNKNOWN, none, none, false⟩

/-- `_health_event`. -/
def health_event (config : VehiclePowerAdapterConfig) (event_id : RecordId) (wall : ℚ) (event_type severity : String)
    (state_before state_after : BodyState) (detail reason_code : String) (extra : List (String × Json)) :
    HealthEvent where
  identity := config.identity
  event_id
  event_type
  timestamp := wall
  severity
  state_before
  state_after
  diagnostic_payload := [("detail", .text detail), ("reason_code", .text reason_code), ("read_only", .bool true)] ++ extra
  recovery_action := "continue read-only vehicle power observation"

/-- `_transition_health`. -/
def transition_health (config : VehiclePowerAdapterConfig) (event_id : RecordId) (wall : ℚ) (previous : BodyState)
    (band : VoltageBand) (voltage : ℚ) : HealthEvent :=
  let extra := [("voltage_v", float_json (num.round 4 voltage)), ("voltage_band", .text band.text)]
  if band.state = .ONLINE then
    let recovered := previous = .DEGRADED ∨ previous = .FAILED
    health_event config event_id wall (if recovered then "RECOVERED" else "ONLINE") "INFO" previous band.state
      (if recovered then "Vehicle power observation recovered" else "Vehicle power observation online")
      ("POWER_" ++ band.text) extra
  else
    health_event config event_id wall "DEGRADED" (if band = .CRITICAL_LOW ∨ band = .HIGH then "ERROR" else "WARNING")
      previous band.state "Vehicle supply voltage is outside the configured healthy band" ("VOLTAGE_" ++ band.text) extra

/-- `_sensor_event`. -/
def sensor_event (config : VehiclePowerAdapterConfig) (receipt_id : RecordId) (wall monotonic voltage : ℚ)
    (ignition_on : Bool) (band : VoltageBand) (source_reference : String) : SensorEvent where
  identity := config.identity
  receipt_id
  timestamp := wall
  monotonic_time := monotonic
  sensor_type := "vehicle_power_state"
  interface_type := config.interface_type
  health_state := band.state
  confidence := 98 / 100
  inner := [
    ("voltage_v", float_json (num.round 4 voltage)),
    ("ignition_on", .bool ignition_on),
    ("ignition_state", .text (if ignition_on then "ON" else "OFF")),
    ("voltage_band", .text band.text),
    ("nominal_voltage_v", float_json config.nominal_voltage_v),
    ("engine_running_inferred", .bool false),
    ("read_only", .bool true)]
  source_clock := "device"
  stale_after_ms := config.stale_after_ms
  calibration_version := config.calibration_version
  degraded_reason := some (if band.is_healthy then none else some ("VOLTAGE_" ++ band.text))
  raw_reference := source_reference

/-- What `observe` is called with. -/
structure PowerReading where
  voltage_v : Json
  ignition_on : Json
  source_reference : Json

namespace VehiclePowerBodyAdapter

variable (config : VehiclePowerAdapterConfig) (adapter : VehiclePowerBodyAdapter) (ambient : Ambient)

def required_bool (error : Error) : Json → Except Error Bool
  | .bool value => .ok value
  | _ => .error error

/-- `observe`. -/
def observe (power : PowerReading) (now_wall now_monotonic : Option Json) :
    VehiclePowerBodyAdapter × Except Error Cycle :=
  let checked := do
    let wall ← reading "now_wall" now_wall ambient.time
    let monotonic ← reading "now_monotonic" now_monotonic ambient.monotonic
    let voltage ← finite_non_negative "voltage_v" power.voltage_v
    require (voltage ≤ config.maximum_voltage_v) ⟨.ValueError, "vehicle voltage exceeds configured maximum"⟩
    let ignition_on ← required_bool ⟨.TypeError, "ignition_on must be boolean"⟩ power.ignition_on
    let source_reference ← given_text ⟨.ValueError, "source_reference must be non-empty"⟩ power.source_reference
    pure (wall, monotonic, voltage, ignition_on, source_reference)
  match checked with
  | .error error => (adapter, .error error)
  | .ok (wall, monotonic, voltage, ignition_on, source_reference) =>
    let band := classify_voltage voltage config
    (⟨band.state, some band, some monotonic, false⟩,
      .ok ⟨some (sensor_event config ambient.sensor_id wall monotonic voltage ignition_on band source_reference),
        if adapter.state ≠ band.state ∨ adapter.last_band ≠ some band then
          some (transition_health config ambient.health_id wall adapter.state band voltage)
        else none⟩)

/-- `check_stale`. -/
def check_stale (now_wall now_monotonic : Option Json) : VehiclePowerBodyAdapter × Except Error Cycle :=
  let checked := do
    let wall ← reading "now_wall" now_wall ambient.time
    let monotonic ← reading "now_monotonic" now_monotonic ambient.monotonic
    pure (wall, monotonic)
  match checked, adapter.last_observation_monotonic with
  | .error error, _ => (adapter, .error error)
  | .ok _, none => (adapter, .ok .empty)
  | .ok (wall, monotonic), some last =>
    let age_ms := (monotonic - last) * 1000
    if age_ms ≤ config.stale_after_ms ∨ adapter.stale_reported then (adapter, .ok .empty)
    else
      ({ adapter with state := .DEGRADED, stale_reported := true },
        .ok (.health (health_event config ambient.health_id wall "STALE" "WARNING" adapter.state .DEGRADED
          "Vehicle power observations are stale" "STALE_POWER_INPUT"
          [("age_ms", float_json (num.round 3 (max 0 age_ms)))])))

/-- `mark_failed`. A failure that is reported already is not reported again. -/
def mark_failed (reason : Json) (now_wall : Option Json) : VehiclePowerBodyAdapter × Except Error Cycle :=
  let checked := do
    let detail ← given_text ⟨.ValueError, "failure reason must be a non-empty string"⟩ reason
    if adapter.state = BodyState.FAILED then pure none
    else do
      let wall ← reading "now_wall" now_wall ambient.time
      pure (some (detail, wall))
  match checked with
  | .error error => (adapter, .error error)
  | .ok none => (adapter, .ok .empty)
  | .ok (some (detail, wall)) =>
    ({ adapter with state := .FAILED, last_band := none },
      .ok (.health (health_event config ambient.health_id wall "FAILED" "ERROR" adapter.state .FAILED detail
        "POWER_SOURCE_FAILURE" [])))

/-- The public operations of the adapter. -/
inductive Operation where
  | observe (power : PowerReading) (now_wall now_monotonic : Option Json) (ambient : Ambient)
  | check_stale (now_wall now_monotonic : Option Json) (ambient : Ambient)
  | mark_failed (reason : Json) (now_wall : Option Json) (ambient : Ambient)

def perform : Operation → VehiclePowerBodyAdapter × Except Error Cycle
  | .observe power now_wall now_monotonic ambient => adapter.observe config ambient power now_wall now_monotonic
  | .check_stale now_wall now_monotonic ambient => adapter.check_stale config ambient now_wall now_monotonic
  | .mark_failed reason now_wall ambient => adapter.mark_failed config ambient reason now_wall

end VehiclePowerBodyAdapter

end velvet.vehicle_power_adapter
