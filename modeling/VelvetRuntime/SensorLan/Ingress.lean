import VelvetRuntime.Python.Bytes
import VelvetRuntime.Python.Program
import VelvetRuntime.Error
import VelvetRuntime.Text

open python python.num python.json

namespace velvet.sensor_lan_ingress

open Program

def LAN_SENSOR_SCHEMA : String := "velvet.sensor-lan.v0.1"

def LAN_SENSOR_EVENT_TYPES : List String :=
  ["SENSOR_CAPABILITIES_REPORTED", "SENSOR_LIFECYCLE_REPORTED", "SENSOR_OBSERVATION_REPORTED"]

def REQUIRED_FIELDS : List String :=
  ["schema", "node_id", "session_id", "message_id", "sequence", "sent_at", "event_type", "payload", "signature"]

/-- What the interpreter and its library provide: the text of floats, and HMAC-SHA256. -/
structure Platform where
  floats : FloatText
  hmac_sha256 : ByteArray → ByteArray → Vector UInt8 32

structure SensorLanAdmission where
  node_id : String
  session_id : String
  message_id : String
  sequence : Int
  sent_at : JsonFloat
  event_type : String
  payload : List (String × Json)

structure SensorLanIngress where
  node_keys : Dict String ByteArray
  max_message_bytes : Int
  max_sessions : Int
  last_sequence : Dict (String × String) Int

def admission_error (message : String) : Error := ⟨.SensorLanAdmissionError, message⟩

def value_error (message : String) : Error := ⟨.ValueError, message⟩

/-- `_normalized_text`, with the check of `_require_text`. -/
def normalized_text (name : String) : Option Json → Except Error String
  | some (.text value) =>
    if Blank value then .error (value_error (name ++ " must be a non-empty string")) else .ok (stripped value)
  | _ => .error (value_error (name ++ " must be a non-empty string"))

namespace SensorLanIngress

/-- The keys under their trimmed node ids. -/
def normalize_keys : List (String × ByteArray) → Dict String ByteArray → Except Error (Dict String ByteArray)
  | [], normalized => .ok normalized
  | (node_id, key) :: rest, normalized => do
    let node_id ← normalized_text "node_id" (some (.text node_id))
    if key.size < 32 then .error (value_error "node keys must be bytes of at least 32 bytes")
    else normalize_keys rest (normalized.set node_id key)

/-- `__init__`. -/
def init (node_keys : List (String × ByteArray)) (max_message_bytes max_sessions : Int) :
    Except Error SensorLanIngress :=
  if node_keys.isEmpty then .error (value_error "node_keys must be a non-empty mapping")
  else do
    let normalized ← normalize_keys node_keys .empty
    if max_message_bytes ≤ 0 then .error (value_error "max_message_bytes must be positive")
    else if max_sessions ≤ 0 then .error (value_error "max_sessions must be positive")
    else .ok { node_keys := normalized, max_message_bytes, max_sessions, last_sequence := .empty }

def tracked_session_count (self : SensorLanIngress) : Nat := self.last_sequence.items.length

end SensorLanIngress

/-- A sequence number: an integer from zero on. -/
def sequence_of (error : Error) : Option Json → Except Error Int
  | some (.int sequence) => if sequence < 0 then .error error else .ok sequence
  | _ => .error error

/-- A time as a float that is not negative. -/
def sent_at_of (not_numeric negative : Error) : Option Json → Except Error JsonFloat
  | some (.float value) => if value.lt 0 then .error negative else .ok value
  | some (.int value) =>
    match float_of_int value with
    | none => .error ⟨.OverflowError, "int too large to convert to float"⟩
    | some value => if value < 0 then .error negative else .ok (.finite value)
  | _ => .error not_numeric

/-- `float(value)` of a JSON number. -/
def as_float : Json → Option JsonFloat
  | .float value => some value
  | .int value => (float_of_int value).map .finite
  | _ => none

section platform

variable (platform : Platform)

/-- `json.loads(text, parse_constant=_reject_json_constant)`. -/
def reader : Reader where
  floats := platform.floats
  parse_constant := fun _ => none
  object_of_pairs := dict_of_pairs

/-- `_canonical_json`. -/
def canonical_json (value : List (String × Json)) : Except Error ByteArray :=
  match dumps platform.floats false (.object value) with
  | none => .error (value_error "LAN sensor message must contain canonical JSON values")
  | some text => .ok text.toUTF8

def unsigned (message : List (String × Json)) : List (String × Json) :=
  message.filter (fun entry => entry.1 ≠ "signature")

/-- `_signature_for_message`: the hexadecimal digest. -/
def signature_for_message (message : List (String × Json)) (key : ByteArray) : Except Error (List Char) := do
  let body ← canonical_json platform (unsigned message)
  .ok (bytes.hex (platform.hmac_sha256 key body).toList)

/-- A SHA-256 digest in hexadecimal digits. -/
def signature_of : Option Json → Except Error String
  | some (.text signature) =>
    if signature.length ≠ 64 then .error (admission_error "signature must be a SHA-256 hex digest")
    else if bytes.fromhex signature.toList = none then .error (admission_error "signature must be hexadecimal")
    else .ok signature
  | _ => .error (admission_error "signature must be a SHA-256 hex digest")

namespace SensorLanIngress

/-- `admit` up to the check of the schema: the bytes as a JSON object with the fields of the contract. -/
def decode_message (self : SensorLanIngress) (raw_message : ByteArray) : Except Error (List (String × Json)) :=
  if raw_message.isEmpty then .error (admission_error "raw_message must not be empty")
  else if self.max_message_bytes < raw_message.size then
    .error (admission_error "LAN sensor message exceeds size limit")
  else
    match String.fromUTF8? raw_message with
    | none => .error (admission_error "LAN sensor message must be UTF-8")
    | some text =>
      match loads (reader platform) text with
      | none => .error (admission_error "LAN sensor message must be valid JSON")
      | some (.object message) =>
        if message.any (fun entry => entry.1 ∉ REQUIRED_FIELDS) ∨
            REQUIRED_FIELDS.any (fun name => name ∉ message.map Prod.fst) then
          .error (admission_error "LAN sensor message fields do not match contract")
        else if !((entry_of message "schema").getD .null).is_text LAN_SENSOR_SCHEMA then
          .error (admission_error "unsupported LAN sensor schema")
        else .ok message
      | some _ => .error (admission_error "LAN sensor message must be a JSON object")

/-- `admit` from there up to the check of the signature. -/
def verify_message (self : SensorLanIngress) (message : List (String × Json)) : Except Error SensorLanAdmission := do
  let node_id ← normalized_text "node_id" (entry_of message "node_id")
  let session_id ← normalized_text "session_id" (entry_of message "session_id")
  let message_id ← normalized_text "message_id" (entry_of message "message_id")
  let event_type ← normalized_text "event_type" (entry_of message "event_type")
  if event_type ∉ LAN_SENSOR_EVENT_TYPES then
    .error (admission_error "event_type is not admitted by sensor LAN ingress")
  else
    match self.node_keys.get? node_id with
    | none => .error (admission_error "unknown LAN sensor node")
    | some key => do
      let sequence ← sequence_of (admission_error "sequence must be a non-negative integer")
        (entry_of message "sequence")
      let sent_at ← sent_at_of (admission_error "sent_at must be numeric")
        (admission_error "sent_at cannot be negative") (entry_of message "sent_at")
      match entry_of message "payload" with
      | some (.object payload) => do
        let signature ← signature_of (entry_of message "signature")
        let expected ← signature_for_message platform message key
        -- The digits are ASCII, where every interpreter's `lower` agrees.
        if signature.toList.map Char.toLower ≠ expected then
          .error (admission_error "LAN sensor message signature is invalid")
        else .ok { node_id, session_id, message_id, sequence, sent_at, event_type, payload }
      | _ => .error (admission_error "payload must be a JSON object")

/-- Verify and admit one complete message. -/
def admit_message (raw_message : ByteArray) : Program Error SensorLanIngress SensorLanAdmission := do
  let self ← get
  let message ← of_except (self.decode_message platform raw_message)
  let admission ← of_except (self.verify_message platform message)
  match self.last_sequence.get? (admission.node_id, admission.session_id) with
  | none =>
    if self.max_sessions ≤ self.tracked_session_count then
      throw (admission_error "LAN sensor session table is full")
  | some previous =>
    if admission.sequence ≤ previous then
      throw (admission_error "LAN sensor message is replayed or out of order")
  set { self with last_sequence :=
    self.last_sequence.set (admission.node_id, admission.session_id) admission.sequence }
  return admission

end SensorLanIngress

/-- The arguments of `encode_sensor_lan_message`. -/
structure SensorLanMessage where
  node_id : Json
  session_id : Json
  message_id : Json
  sequence : Json
  sent_at : Json
  event_type : Json
  payload : Json
  key : ByteArray

namespace SensorLanMessage

/-- The checks of `encode_sensor_lan_message`, with the fields that they give. -/
def normalized_fields (self : SensorLanMessage) : Except Error SensorLanAdmission := do
  let node_id ← normalized_text "node_id" (some self.node_id)
  let session_id ← normalized_text "session_id" (some self.session_id)
  let message_id ← normalized_text "message_id" (some self.message_id)
  let event_type ← normalized_text "event_type" (some self.event_type)
  if event_type ∉ LAN_SENSOR_EVENT_TYPES then
    .error (value_error "event_type is not admitted by sensor LAN ingress")
  else do
    let sequence ← sequence_of (value_error "sequence must be a non-negative integer") (some self.sequence)
    let sent_at ← sent_at_of (value_error "sent_at must be a non-negative number")
      (value_error "sent_at must be a non-negative number") (some self.sent_at)
    match self.payload with
    | .object payload =>
      if self.key.size < 32 then .error (value_error "key must be bytes of at least 32 bytes")
      else .ok { node_id, session_id, message_id, sequence, sent_at, event_type, payload }
    | _ => .error (value_error "payload must be a mapping")

end SensorLanMessage

/-- The message without its signature. -/
def unsigned_fields (fields : SensorLanAdmission) : List (String × Json) :=
  [("schema", .text LAN_SENSOR_SCHEMA), ("node_id", .text fields.node_id), ("session_id", .text fields.session_id),
    ("message_id", .text fields.message_id), ("sequence", .int fields.sequence), ("sent_at", .float fields.sent_at),
    ("event_type", .text fields.event_type), ("payload", .object fields.payload)]

/-- Build one canonical message with its HMAC. -/
def encode_sensor_lan_message (self : SensorLanMessage) : Except Error ByteArray := do
  let fields ← self.normalized_fields
  let signature ← signature_for_message platform (unsigned_fields fields) self.key
  canonical_json platform (unsigned_fields fields ++ [("signature", .text (String.ofList signature))])

end platform

end velvet.sensor_lan_ingress
