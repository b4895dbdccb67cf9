import VelvetRuntime.Python.Json
import VelvetRuntime.Text
import VelvetRuntime.Error

open python python.num

/-! What the body adapters have in common: the records that they emit, and the readings of clocks that they take. Each
source module has its own copy of these helpers. -/

namespace velvet.body_adapter

/-- The states of an adapter. -/
inductive BodyState where
  | UNKNOWN
  | ONLINE
  | DEGRADED
  | FAILED
  deriving DecidableEq, Repr

def BodyState.text : BodyState → String
  | UNKNOWN => "UNKNOWN"
  | ONLINE => "ONLINE"
  | DEGRADED => "DEGRADED"
  | FAILED => "FAILED"

/-- The id of a record, such as `str(uuid4())`: text that is not blank. -/
structure RecordId where
  text : String
  given : ¬Blank text
  deriving DecidableEq

/-- What a call takes from its surroundings: the two clocks, and the ids of the records that it may emit. -/
structure Ambient where
  time : ℚ
  monotonic : ℚ
  sensor_id : RecordId
  health_id : RecordId
  deriving DecidableEq

/-- The names under which a module's records are filed. -/
structure ModuleIdentity where
  module_id : String
  node_id : String
  owning_handmaiden : String
  deriving DecidableEq

def float_json (value : ℚ) : Json := .float (.finite value)

def optional_text : Option String → Json
  | some text => .text text
  | none => .null

def optional_int : Option Int → Json
  | some value => .int value
  | none => .null

def optional_float : Option ℚ → Json
  | some value => float_json value
  | none => .null

/-- The mapping around the payload of a record. -/
def envelope (identity : ModuleIdentity) (event_id : RecordId) (event_type family : String) (timestamp : ℚ)
    (payload : List (String × Json)) : Json :=
  .object [
    ("event_id", .text event_id.text),
    ("event_type", .text event_type),
    ("source", .text identity.module_id),
    ("family", .text family),
    ("schema_version", .text "1.0"),
    ("timestamp", float_json timestamp),
    ("node_id", .text identity.node_id),
    ("organ_name", .text identity.owning_handmaiden),
    ("payload", .object payload)]

/-- What `_health_event` writes down. -/
structure HealthEvent where
  identity : ModuleIdentity
  event_id : RecordId
  event_type : String
  timestamp : ℚ
  severity : String
  state_before : BodyState
  state_after : BodyState
  diagnostic_payload : List (String × Json)
  recovery_action : String

namespace HealthEvent

def payload (event : HealthEvent) : List (String × Json) := [
  ("event_id", .text event.event_id.text),
  ("event_type", .text event.event_type),
  ("module_id", .text event.identity.module_id),
  ("node_id", .text event.identity.node_id),
  ("owning_handmaiden", .text event.identity.owning_handmaiden),
  ("timestamp", float_json event.timestamp),
  ("severity", .text event.severity),
  ("state_before", .text event.state_before.text),
  ("state_after", .text event.state_after.text),
  ("confidence", float_json 1),
  ("diagnostic_payload", .object event.diagnostic_payload),
  ("receipt_id", .text event.event_id.text),
  ("recovery_action", .text event.recovery_action),
  ("fallback_owner", .text "Velvet")]

def record (event : HealthEvent) : Json :=
  envelope event.identity event.event_id ("HEALTH_" ++ event.event_type) "health" event.timestamp event.payload

/-- The change of state that the event reports. -/
def change (event : HealthEvent) : BodyState × BodyState := (event.state_before, event.state_after)

end HealthEvent

/-- What `_sensor_event` writes down. `degraded_reason` is left out by the one adapter that does not write it. -/
structure SensorEvent where
  identity : ModuleIdentity
  receipt_id : RecordId
  timestamp : ℚ
  monotonic_time : ℚ
  sensor_type : String
  interface_type : String
  health_state : BodyState
  confidence : ℚ
  inner : List (String × Json)
  source_clock : String
  stale_after_ms : Int
  calibration_version : String
  degraded_reason : Option (Option String)
  raw_reference : String

namespace SensorEvent

def payload (event : SensorEvent) : List (String × Json) :=
  [("module_id", .text event.identity.module_id),
    ("node_id", .text event.identity.node_id),
    ("owning_handmaiden", .text event.identity.owning_handmaiden),
    ("timestamp", float_json event.timestamp),
    ("monotonic_time", float_json event.monotonic_time),
    ("sensor_type", .text event.sensor_type),
    ("interface_type", .text event.interface_type),
    ("health_state", .text event.health_state.text),
    ("confidence", float_json event.confidence),
    ("payload", .object event.inner),
    ("receipt_id", .text event.receipt_id.text),
    ("source_clock", .text event.source_clock),
    ("stale_after_ms", .int event.stale_after_ms),
    ("calibration_version", .text event.calibration_version)] ++
  (event.degraded_reason.map (fun reason => ("degraded_reason", optional_text reason))).toList ++
  [("raw_reference", .text event.raw_reference)]

def record (event : SensorEvent) : Json :=
  envelope event.identity event.receipt_id "SENSOR_PACKET_OBSERVED" "sensor" event.timestamp event.payload

end SensorEvent

/-- What one call emits. -/
structure Cycle where
  sensor_event : Option SensorEvent
  health_event : Option HealthEvent

namespace Cycle

def empty : Cycle := ⟨none, none⟩

def health (event : HealthEvent) : Cycle := ⟨none, some event⟩

/-- `records()`: the sensor event first. -/
def records (cycle : Cycle) : List Json :=
  (cycle.sensor_event.map SensorEvent.record).toList ++ (cycle.health_event.map HealthEvent.record).toList

end Cycle

/-- The state changes that a call reports; one that raises reports none. -/
def changes (outcome : Except Error Cycle) : List (BodyState × BodyState) :=
  match outcome with
  | .ok cycle => (cycle.health_event.map HealthEvent.change).toList
  | .error _ => []

/-- A check that raises when its condition does not hold. -/
def require (condition : Prop) [Decidable condition] (error : Error) : Except Error Unit :=
  if condition then .ok () else .error error

theorem require_eq_ok_iff {condition : Prop} [Decidable condition] {error : Error} :
    require condition error = .ok () ↔ condition := by
  unfold require
  split <;> simp_all

/-- `_finite_non_negative(value, label)`. -/
def finite_non_negative (label : String) : Json → Except Error ℚ
  | .int value =>
    match float_of_int value with
    | none => .error ⟨.OverflowError, "int too large to convert to float"⟩
    | some rounded => if rounded < 0 then .error ⟨.ValueError, label ++ " must be finite and non-negative"⟩ else .ok rounded
  | .float (.finite value) =>
    if value < 0 then .error ⟨.ValueError, label ++ " must be finite and non-negative"⟩ else .ok value
  | .float _ => .error ⟨.ValueError, label ++ " must be finite and non-negative"⟩
  | _ => .error ⟨.TypeError, label ++ " must be numeric"⟩

/-- `_finite_positive(value, label)`, whose modules word its error differently. -/
def finite_positive (label message : String) : Json → Except Error ℚ
  | .int value =>
    match float_of_int value with
    | none => .error ⟨.OverflowError, "int too large to convert to float"⟩
    | some rounded => if rounded ≤ 0 then .error ⟨.ValueError, label ++ message⟩ else .ok rounded
  | .float (.finite value) => if value ≤ 0 then .error ⟨.ValueError, label ++ message⟩ else .ok value
  | .float _ => .error ⟨.ValueError, label ++ message⟩
  | _ => .error ⟨.TypeError, label ++ " must be numeric"⟩

/-- `clock() if value is None else _finite_non_negative(value, label)`. -/
def reading (label : String) (value : Option Json) (clock : ℚ) : Except Error ℚ :=
  match value with
  | none => .ok clock
  | some value => finite_non_negative label value

/-- The check of a required text; the text is stripped. -/
def given_text (error : Error) : Json → Except Error String
  | .text value => if Blank value then .error error else .ok (stripped value)
  | _ => .error error

end velvet.body_adapter
