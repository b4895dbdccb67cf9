import VelvetRuntime.BodyAdapter.Events
import VelvetRuntime.Python.Except

open python python.num velvet.body_adapter

namespace velvet.gnss_body_adapter

structure GnssAdapterConfig where
  module_id : String
  node_id : String
  owning_handmaiden : String
  interface_type : String
  stale_after_ms : Int
  calibration_version : String
  max_sentence_length : Int
  texts_given : ∀ text ∈ [module_id, node_id, owning_handmaiden, interface_type, calibration_version], ¬Blank text
  stale_after_bounds : 250 ≤ stale_after_ms ∧ stale_after_ms ≤ 600000
  sentence_bounds : 32 ≤ max_sentence_length ∧ max_sentence_length ≤ 1024

def GnssAdapterConfig.identity (config : GnssAdapterConfig) : ModuleIdentity :=
  ⟨config.module_id, config.node_id, config.owning_handmaiden⟩

/-- What a sentence of one of the two supported types says. -/
inductive NmeaObservation where
  | gga (gnss_utc : Option String) (fix_quality satellites : Nat) (horizontal_dilution altitude_m : Option ℚ)
    (latitude longitude : Option ℚ)
  | rmc (gnss_utc : Option String) (active : Bool) (gnss_date : Option String) (speed_kmh course_deg : Option ℚ)
    (latitude longitude : Option ℚ)
  deriving DecidableEq

def NmeaObservation.sentence_type : NmeaObservation → String
  | gga .. => "GGA"
  | rmc .. => "RMC"

/-- `_fix`: what the sentences said so far. -/
structure Fix where
  latitude : Option ℚ
  longitude : Option ℚ
  fix_quality : Option Nat
  satellites : Option Nat
  horizontal_dilution : Option ℚ
  altitude_m : Option ℚ
  speed_kmh : Option ℚ
  course_deg : Option ℚ
  gnss_utc : Option String
  gnss_date : Option String
  has_fix : Bool

namespace Fix

def empty : Fix := ⟨none, none, none, none, none, none, none, none, none, none, false⟩

/-- `_merge_observation`. -/
def merge (fix : Fix) : NmeaObservation → Fix
  | .gga gnss_utc fix_quality satellites horizontal_dilution altitude_m latitude longitude =>
    { fix with
      latitude
      longitude
      fix_quality := some fix_quality
      satellites := some satellites
      horizontal_dilution
      altitude_m
      gnss_utc
      has_fix := fix_quality > 0 }
  | .rmc gnss_utc active gnss_date speed_kmh course_deg latitude longitude =>
    { fix with latitude, longitude, speed_kmh, course_deg, gnss_utc, gnss_date, has_fix := active }

/-- The fields of a payload that have a value. -/
def fields (entries : List (String × Json)) : List (String × Json) :=
  entries.filter (fun entry => match entry.2 with
    | .null => false
    | _ => true)

def optional_nat (value : Option Nat) : Json := optional_int (value.map Int.ofNat)

def inner (fix : Fix) (sentence_type : String) : List (String × Json) :=
  [("has_fix", .bool fix.has_fix), ("sentence_type", .text sentence_type)] ++
  if fix.has_fix then
    fields [("latitude", optional_float fix.latitude), ("longitude", optional_float fix.longitude),
      ("fix_quality", optional_nat fix.fix_quality), ("satellites", optional_nat fix.satellites),
      ("horizontal_dilution", optional_float fix.horizontal_dilution), ("altitude_m", optional_float fix.altitude_m),
      ("speed_kmh", optional_float fix.speed_kmh), ("course_deg", optional_float fix.course_deg),
      ("gnss_utc", optional_text fix.gnss_utc), ("gnss_date", optional_text fix.gnss_date)]
  else
    fields [("fix_quality", optional_nat fix.fix_quality), ("satellites", optional_nat fix.satellites),
      ("horizontal_dilution", optional_float fix.horizontal_dilution), ("gnss_utc", optional_text fix.gnss_utc)]

/-- `_fix_confidence`. -/
def confidence (fix : Fix) : ℚ :=
  if fix.has_fix = false then 2 / 10
  else
    let quality := (fix.fix_quality.filter (· ≠ 0)).getD 1
    let by_quality : ℚ := if quality ≥ 2 then 95 / 100 else 85 / 100
    let by_satellites := if fix.satellites.any (· < 4) then min by_quality (6 / 10) else by_quality
    if fix.horizontal_dilution.any (5 < ·) then min by_satellites (55 / 100) else by_satellites

end Fix

structure GnssBodyAdapter where
  last_observation_monotonic : Option ℚ
  state : BodyState
  fix : Fix
  stale_reported : Bool

def GnssBodyAdapter.initial : GnssBodyAdapter := ⟨none, .UNKNOWN, .empty, false⟩

/-- `_health_event`. -/
def health_event (config : GnssAdapterConfig) (event_id : RecordId) (wall : ℚ) (event_type severity : String)
    (state_before state_after : BodyState) (detail : String) (reason_code : Option String)
    (extra : List (String × Json)) : HealthEvent where
  identity := config.identity
  event_id
  event_type
  timestamp := wall
  severity
  state_before
  state_after
  diagnostic_payload := [("detail", .text detail), ("read_only", .bool true)] ++
    (reason_code.map (fun code => ("reason_code", Json.text code))).toList ++ extra
  recovery_action := "continue read-only GNSS observation"

/-- `_sensor_event`. -/
def sensor_event (config : GnssAdapterConfig) (receipt_id : RecordId) (wall monotonic : ℚ) (fix : Fix)
    (observation : NmeaObservation) : SensorEvent where
  identity := config.identity
  receipt_id
  timestamp := wall
  monotonic_time := monotonic
  sensor_type := "gnss_fix"
  interface_type := config.interface_type
  health_state := if fix.has_fix then .ONLINE else .DEGRADED
  confidence := fix.confidence
  inner := fix.inner observation.sentence_type
  source_clock := "gnss"
  stale_after_ms := config.stale_after_ms
  calibration_version := config.calibration_version
  degraded_reason := some (if fix.has_fix then none else some "NO_FIX")
  raw_reference := "nmea:" ++ observation.sentence_type

namespace GnssBodyAdapter

variable (config : GnssAdapterConfig) (adapter : GnssBodyAdapter) (ambient : Ambient)

/-- The event of a change of state. -/
def observed_event (new_state : BodyState) (wall : ℚ) : Option HealthEvent :=
  if adapter.state = new_state then none
  else if new_state = .ONLINE ∧ (adapter.state = .DEGRADED ∨ adapter.state = .FAILED) then
    some (health_event config ambient.health_id wall "RECOVERED" "INFO" adapter.state new_state "GNSS fix recovered" none [])
  else if new_state = .ONLINE then
    some (health_event config ambient.health_id wall "ONLINE" "INFO" adapter.state new_state
      "GNSS receiver online with valid fix" none [])
  else
    some (health_event config ambient.health_id wall "DEGRADED" "WARNING" adapter.state new_state
      "GNSS receiver has valid NMEA but no navigation fix" (some "NO_FIX") [])

/-- `observe_line`, with what `parse_nmea_sentence` makes of the line. -/
def observe_line (parsed : Except Error NmeaObservation) (now_wall now_monotonic : Option Json) :
    GnssBodyAdapter × Except Error Cycle :=
  let checked := do
    let wall ← reading "now_wall" now_wall ambient.time
    let monotonic ← reading "now_monotonic" now_monotonic ambient.monotonic
    let observation ← parsed
    pure (wall, monotonic, observation)
  match checked with
  | .error error => (adapter, .error error)
  | .ok (wall, monotonic, observation) =>
    let fix := adapter.fix.merge observation
    let new_state := if fix.has_fix then BodyState.ONLINE else .DEGRADED
    (⟨some monotonic, new_state, fix, false⟩,
      .ok ⟨some (sensor_event config ambient.sensor_id wall monotonic fix observation),
        adapter.observed_event config ambient new_state wall⟩)

/-- `check_stale`. -/
def check_stale (now_wall now_monotonic : Option Json) : GnssBodyAdapter × Except Error Cycle :=
  let checked := do
    let wall ← reading "now_wall" now_wall ambient.time
    let monotonic ← reading "now_monotonic" now_monotonic ambient.monotonic
    pure (wall, monotonic)
  match checked, adapter.last_observation_monotonic with
  | .error error, _ => (adapter, .error error)
  | .ok _, none => (adapter, .ok .empty)
  | .ok (wall, monotonic), some last =>
    let age_ms := (monotonic - last) * 1000
    if age_ms ≤ config.stale_after_ms ∨ adapter.stale_reported then (adapter, .ok .empty)
    else
      ({ adapter with state := .DEGRADED, stale_reported := true },
        .ok (.health (health_event config ambient.health_id wall "STALE" "WARNING" adapter.state .DEGRADED
          "GNSS NMEA observations are stale" (some "STALE_NMEA") [("age_ms", float_json (num.round 3 (max 0 age_ms)))])))

/-- `mark_failed`. -/
def mark_failed (reason : Json) (now_wall : Option Json) : GnssBodyAdapter × Except Error Cycle :=
  let checked := do
    let detail ← given_text ⟨.ValueError, "failure reason must be a non-empty string"⟩ reason
    let wall ← reading "now_wall" now_wall ambient.time
    pure (detail, wall)
  match checked with
  | .error error => (adapter, .error error)
  | .ok (detail, wall) =>
    ({ adapter with state := .FAILED },
      .ok (.health (health_event config ambient.health_id wall "FAILED" "ERROR" adapter.state .FAILED detail
        (some "SERIAL_FAILURE") [])))

/-- The public operations of the adapter. -/
inductive Operation where
  | observe_line (parsed : Except Error NmeaObservation) (now_wall now_monotonic : Option Json) (ambient : Ambient)
  | check_stale (now_wall now_monotonic : Option Json) (ambient : Ambient)
  | mark_failed (reason : Json) (now_wall : Option Json) (ambient : Ambient)

def perform : Operation → GnssBodyAdapter × Except Error Cycle
  | .observe_line parsed now_wall now_monotonic ambient =>
    adapter.observe_line config ambient parsed now_wall now_monotonic
  | .check_stale now_wall now_monotonic ambient => adapter.check_stale config ambient now_wall now_monotonic
  | .mark_failed reason now_wall ambient => adapter.mark_failed config ambient reason now_wall

end GnssBodyAdapter

end velvet.gnss_body_adapter
