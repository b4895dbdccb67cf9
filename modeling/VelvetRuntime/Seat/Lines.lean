import VelvetRuntime.Python.JsonText
import VelvetRuntime.Seat.Node

open python python.num python.str python.json velvet.body_adapter

/-! The lines that the specialist nodes of a seat send. Each source module has its own copy of these readers: the texts in
which they differ are the fields of a `LineFormat`. -/

namespace velvet.seat

/-- What the interpreter provides: the text of floats, the text of the error that `json.loads` raises for a text (also when
its hook refuses a repeated key), and `repr` of a list of texts. -/
structure Platform where
  floats : FloatText
  json_error : String → String
  repr_texts : List String → String

/-- `json.loads(text, object_pairs_hook=_unique_object)`. -/
def Platform.reader (platform : Platform) : Reader where
  floats := platform.floats
  parse_constant constant := some (.float constant)
  object_of_pairs := unique_object

/-- One schema of lines, and the texts of its errors. -/
structure LineFormat where
  error_kind : ErrorKind
  label : String
  schema : String
  allowed_fields : List String
  seat_mismatch : String
  health_error : String
  degraded_error : String
  online_error : String

/-- What the caller expects of the lines. -/
structure Expected where
  node_id : String
  seat_id : String
  sensor_model : String
  max_line_bytes : Int

/-- `a line`, of which the caller holds the bytes. -/
abbrev Line := ByteArray

namespace LineFormat

variable (format : LineFormat) (platform : Platform)

def error (message : String) : Error := ⟨format.error_kind, message⟩

/-- The document of a line: one JSON object without repeated keys. -/
def decode_unique_document (line : Line) (max_line_bytes : Int) : Except Error (List (String × Json)) :=
  if line.size < 2 ∨ max_line_bytes < line.size then
    .error (format.error (format.label ++ " line size is outside bounds"))
  else if line.data.contains 0 then .error (format.error (format.label ++ " line contains NUL"))
  else
    match String.fromUTF8? line with
    | none => .error (format.error (format.label ++ " line is not valid UTF-8"))
    | some decoded =>
      if Blank decoded then .error (format.error (format.label ++ " line is empty"))
      else
        match loads platform.reader (stripped decoded) with
        | none =>
          .error (format.error
            (format.label ++ " line is not valid unique-key JSON: " ++ platform.json_error (stripped decoded)))
        | some (.object document) => .ok document
        | some _ => .error (format.error (format.label ++ " root must be an object"))

/-- `sorted(set(...))` of some keys. -/
def sorted_texts (texts : List String) : List String := texts.dedup.insertionSort (· ≤ ·)

/-- The check that a document has the allowed fields and no others. -/
def check_fields (document : List (String × Json)) : Except Error Unit :=
  let keys := document.map Prod.fst
  let unknown := keys.filter (· ∉ format.allowed_fields)
  let missing := format.allowed_fields.filter (· ∉ keys)
  if unknown ≠ [] then
    .error (format.error (format.label ++ " line has unsupported fields: " ++ platform.repr_texts (sorted_texts unknown)))
  else if missing ≠ [] then
    .error (format.error (format.label ++ " line is missing fields: " ++ platform.repr_texts (sorted_texts missing)))
  else .ok ()

section fields

variable (payload : List (String × Json)) (key : String)

def required_id : Except Error String :=
  match entry_of payload key with
  | some (.text value) =>
    if is_id value then .ok value else .error (format.error (key ++ " must be a bounded identifier"))
  | _ => .error (format.error (key ++ " must be a bounded identifier"))

def required_text : Except Error String :=
  match entry_of payload key with
  | some (.text value) =>
    if is_text value then .ok value else .error (format.error (key ++ " must be bounded printable ASCII text"))
  | _ => .error (format.error (key ++ " must be bounded printable ASCII text"))

def optional_text : Except Error (Option String) :=
  match entry_of payload key with
  | none | some .null => .ok none
  | some (.text value) =>
    if is_text value then .ok (some value) else .error (format.error (key ++ " must be null or bounded printable text"))
  | _ => .error (format.error (key ++ " must be null or bounded printable text"))

def required_bool : Except Error Bool :=
  match entry_of payload key with
  | some (.bool value) => .ok value
  | _ => .error (format.error (key ++ " must be boolean"))

def required_integer (minimum maximum : Int) : Except Error Int :=
  match entry_of payload key with
  | some (.int value) =>
    if minimum ≤ value ∧ value ≤ maximum then .ok value
    else .error (format.error (key ++ " is outside supported bounds"))
  | _ => .error (format.error (key ++ " must be an integer"))

/-- `_optional_integer`, in one module called `_optional_bounded_integer`. -/
def optional_integer (minimum maximum : Int) : Except Error (Option Int) :=
  match entry_of payload key with
  | none | some .null => .ok none
  | some (.int value) =>
    if minimum ≤ value ∧ value ≤ maximum then .ok (some value)
    else .error (format.error (key ++ " is outside supported bounds"))
  | _ => .error (format.error (key ++ " must be null or integer"))

/-- `float(value)` and its bounds. The conversion of an integer that is too large raises an error of its own. -/
def bounded_float (minimum maximum : ℚ) (value : Json) (type_error : String) : Except Error ℚ :=
  match value with
  | .int value =>
    match float_of_int value with
    | none => .error ⟨.OverflowError, "int too large to convert to float"⟩
    | some rounded =>
      if minimum ≤ rounded ∧ rounded ≤ maximum then .ok rounded
      else .error (format.error (key ++ " is outside supported bounds"))
  | .float (.finite value) =>
    if minimum ≤ value ∧ value ≤ maximum then .ok value
    else .error (format.error (key ++ " is outside supported bounds"))
  | .float _ => .error (format.error (key ++ " is outside supported bounds"))
  | _ => .error (format.error (key ++ type_error))

def required_finite_number (minimum maximum : ℚ) : Except Error ℚ :=
  format.bounded_float key minimum maximum ((entry_of payload key).getD .null) " must be numeric"

def optional_finite_number (minimum maximum : ℚ) : Except Error (Option ℚ) :=
  match entry_of payload key with
  | none | some .null => .ok none
  | some value => (format.bounded_float key minimum maximum value " must be null or numeric").map some

end fields

/-- `_validated_expected_id(value, label)`. -/
def validated_expected_id (value label : String) : Except Error String :=
  if is_id value then .ok value else .error (value_error (label ++ " must be a bounded identifier"))

/-- What every observation starts with. -/
structure Header where
  node_id : String
  seat_id : String
  sensor_model : String
  sensor_health : SensorHealth
  degraded_reason : Option String

def check (condition : Prop) [Decidable condition] (message : String) : Except Error Unit :=
  require condition (format.error message)

/-- The first checks of a document. -/
def header (expected : Expected) (document : List (String × Json)) : Except Error Header := do
  format.check_fields platform document
  format.check (entry_of document "schema" |>.getD .null |>.is_text format.schema) ("unsupported " ++ format.label ++ " schema")
  let node_id ← format.required_id document "node_id"
  let seat_id ← format.required_id document "seat_id"
  let expected_node ← validated_expected_id expected.node_id "expected_node_id"
  format.check (node_id = expected_node) (format.label ++ " identity does not match configured node")
  let expected_seat ← validated_expected_id expected.seat_id "expected_seat_id"
  format.check (seat_id = expected_seat) format.seat_mismatch
  let sensor_model ← format.required_text document "sensor_model"
  let expected_model ← required_expected_text "expected_sensor_model" (.text expected.sensor_model)
  format.check (sensor_model = expected_model) (format.label ++ " sensor model does not match configuration")
  let health ← format.required_text document "sensor_health"
  let sensor_health ←
    if upper health = "ONLINE" then pure SensorHealth.ONLINE
    else if upper health = "DEGRADED" then pure SensorHealth.DEGRADED
    else throw (format.error format.health_error)
  let degraded_reason ← format.optional_text document "degraded_reason"
  format.check (sensor_health = .DEGRADED → degraded_reason ≠ none) format.degraded_error
  format.check (sensor_health = .ONLINE → degraded_reason = none) format.online_error
  pure { node_id, seat_id, sensor_model, sensor_health, degraded_reason }

/-- The fields that are read when the observation is built. -/
def build (header : Header) (document : List (String × Json)) : Except Error SeatReading := do
  let boot_id ← format.required_id document "boot_id"
  let sequence ← format.required_integer document "sequence" 0 2147483647
  let uptime_ms ← format.required_integer document "uptime_ms" 0 9007199254740991
  let firmware_version ← format.required_text document "firmware_version"
  let calibration_version ← format.required_text document "calibration_version"
  pure {
    node_id := header.node_id
    seat_id := header.seat_id
    boot_id
    sequence
    uptime_ms
    sensor_model := header.sensor_model
    firmware_version
    calibration_version
    sensor_health := header.sensor_health
    degraded_reason := header.degraded_reason }

end LineFormat

end velvet.seat
