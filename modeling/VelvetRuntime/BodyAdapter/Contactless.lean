import VelvetRuntime.BodyAdapter.Events
import VelvetRuntime.Python.Dict
import VelvetRuntime.Python.Except

open python python.num velvet.body_adapter

namespace velvet.contactless_token_adapter

structure ContactlessTokenAdapterConfig where
  module_id : String
  node_id : String
  owning_handmaiden : String
  reader_id : String
  reader_label : String
  location_id : String
  interface_type : String
  stale_after_ms : Int
  repeat_suppression_ms : Int
  calibration_version : String
  texts_given : ∀ text ∈ [module_id, node_id, owning_handmaiden, reader_id, reader_label, location_id, interface_type,
    calibration_version], ¬Blank text
  stale_after_bounds : 500 ≤ stale_after_ms ∧ stale_after_ms ≤ 600000
  suppression_bounds : 0 ≤ repeat_suppression_ms ∧ repeat_suppression_ms ≤ 60000

def ContactlessTokenAdapterConfig.identity (config : ContactlessTokenAdapterConfig) : ModuleIdentity :=
  ⟨config.module_id, config.node_id, config.owning_handmaiden⟩

/-- `_reader_state`. -/
inductive ReaderState where
  | UNKNOWN
  | ONLINE
  | FAILED
  deriving DecidableEq, Repr

def ReaderState.state : ReaderState → BodyState
  | UNKNOWN => .UNKNOWN
  | ONLINE => .ONLINE
  | FAILED => .FAILED

/-- A frame as it is parsed: ten hexadecimal digits in upper case. -/
structure Rdm6300Frame where
  data_hex : String
  digits : data_hex.toList.length = 10 ∧ ∀ c ∈ data_hex.toList, c ∈ "0123456789ABCDEF".toList

structure ContactlessTokenRecord where
  token_ref : String
  principal_ref : String
  label : String
  role_hint : String
  enabled : Bool

/-- `ContactlessTokenRegistry`, by the references of its tokens. -/
abbrev ContactlessTokenRegistry := Dict String ContactlessTokenRecord

/-- `hmac.new(secret, message, hashlib.sha256).hexdigest()`. -/
abbrev HmacHexdigest := ByteArray → ByteArray → String

/-- `derive_token_reference`. -/
def derive_token_reference (hmac : HmacHexdigest) (secret : ByteArray) (reader_id : String) (frame : Rdm6300Frame) :
    Except Error String := do
  require (32 ≤ secret.size) ⟨.ValueError, "contactless HMAC secret must contain at least 32 bytes"⟩
  let message := "velvet-contactless-v1\x00" ++ stripped reader_id ++ "\x00" ++ frame.data_hex
  pure ("hmac-sha256:" ++ hmac secret message.toUTF8)

structure ContactlessTokenAdapter where
  reader_state : ReaderState
  last_reference : Option String
  last_presentation_monotonic : Option ℚ

def ContactlessTokenAdapter.initial : ContactlessTokenAdapter := ⟨.UNKNOWN, none, none⟩

/-- `_health_event`. -/
def health_event (config : ContactlessTokenAdapterConfig) (event_id : RecordId) (wall : ℚ) (event_type severity : String)
    (state_before state_after : BodyState) (detail reason_code : String) : HealthEvent where
  identity := config.identity
  event_id
  event_type
  timestamp := wall
  severity
  state_before
  state_after
  diagnostic_payload := [
    ("detail", .text detail),
    ("reason_code", .text reason_code),
    ("reader_id", .text config.reader_id),
    ("reader_label", .text config.reader_label),
    ("location_id", .text config.location_id),
    ("read_only", .bool true)]
  recovery_action := "continue read-only contactless observation"

/-- What the registry says of a token. -/
def match_state : Option ContactlessTokenRecord → String
  | none => "UNKNOWN"
  | some record => if record.enabled then "MATCHED" else "DISABLED"

def factor_confidence : Option ContactlessTokenRecord → ℚ
  | none => 0
  | some record => if record.enabled then 55 / 100 else 0

def factor_payload (config : ContactlessTokenAdapterConfig) (presentation_id : RecordId) (token_ref : String)
    (record : Option ContactlessTokenRecord) : List (String × Json) :=
  [("factor_type", .text "contactless_static_identifier"),
    ("presentation_id", .text presentation_id.text),
    ("match_state", .text (match_state record)),
    ("token_ref", .text token_ref),
    ("reader_id", .text config.reader_id),
    ("reader_label", .text config.reader_label),
    ("location_id", .text config.location_id),
    ("factor_confidence", float_json (factor_confidence record)),
    ("static_identifier", .bool true),
    ("cryptographic_challenge", .bool false),
    ("verification_only", .bool true),
    ("presence_claimed", .bool false),
    ("grants_authority", .bool false),
    ("read_only", .bool true)] ++
  match record with
  | none => []
  | some record =>
    [("principal_ref", .text record.principal_ref), ("label", .text record.label), ("role_hint", .text record.role_hint),
      ("registry_enabled", .bool record.enabled)]

/-- The sensor event of a presentation. It has no reason for a degraded state. -/
def sensor_event (config : ContactlessTokenAdapterConfig) (receipt_id : RecordId) (wall monotonic : ℚ)
    (inner : List (String × Json)) : SensorEvent where
  identity := config.identity
  receipt_id
  timestamp := wall
  monotonic_time := monotonic
  sensor_type := "contactless_token_presentation"
  interface_type := config.interface_type
  health_state := .ONLINE
  confidence := 1
  inner
  source_clock := "device"
  stale_after_ms := config.stale_after_ms
  calibration_version := config.calibration_version
  degraded_reason := none
  raw_reference := "reader:" ++ config.reader_id

/-- What `observe` is called with. -/
structure Presentation where
  frame : Rdm6300Frame
  secret : ByteArray
  registry : ContactlessTokenRegistry
  presentation_id : RecordId

namespace ContactlessTokenAdapter

variable (hmac : HmacHexdigest) (config : ContactlessTokenAdapterConfig) (adapter : ContactlessTokenAdapter)
  (ambient : Ambient)

/-- `mark_ready`. -/
def mark_ready (now_wall : Option Json) : ContactlessTokenAdapter × Except Error Cycle :=
  match reading "now_wall" now_wall ambient.time with
  | .error error => (adapter, .error error)
  | .ok wall =>
    ({ adapter with reader_state := .ONLINE },
      .ok (if adapter.reader_state = .ONLINE then .empty
        else
          let recovered := adapter.reader_state = .FAILED
          .health (health_event config ambient.health_id wall (if recovered then "RECOVERED" else "READY") "INFO"
            adapter.reader_state.state .ONLINE
            (if recovered then "Contactless reader recovered" else "Contactless reader ready") "READER_READY")))

/-- Whether the token is the one presented last, and too soon after it. -/
def is_repeat (token_ref : String) (monotonic : ℚ) : Bool :=
  adapter.last_reference = some token_ref &&
    adapter.last_presentation_monotonic.any (fun last => (monotonic - last) * 1000 < config.repeat_suppression_ms)

/-- The event of a reader that comes online. -/
def observed_event (wall : ℚ) : Option HealthEvent :=
  match adapter.reader_state with
  | .FAILED => some (health_event config ambient.health_id wall "RECOVERED" "INFO" .FAILED .ONLINE
      "Contactless reader recovered on validated frame" "READER_RECOVERED")
  | .UNKNOWN => some (health_event config ambient.health_id wall "ONLINE" "INFO" .UNKNOWN .ONLINE
      "Contactless reader online" "READER_ONLINE")
  | .ONLINE => none

/-- `observe`. A repeat that is suppressed emits nothing. -/
def observe (presentation : Presentation) (now_wall now_monotonic : Option Json) :
    ContactlessTokenAdapter × Except Error Cycle :=
  let checked := do
    let wall ← reading "now_wall" now_wall ambient.time
    let monotonic ← reading "now_monotonic" now_monotonic ambient.monotonic
    let token_ref ← derive_token_reference hmac presentation.secret config.reader_id presentation.frame
    pure (wall, monotonic, token_ref)
  match checked with
  | .error error => (adapter, .error error)
  | .ok (wall, monotonic, token_ref) =>
    if adapter.is_repeat config token_ref monotonic then (adapter, .ok .empty)
    else
      let record := presentation.registry.get? token_ref
      (⟨.ONLINE, some token_ref, some monotonic⟩,
        .ok ⟨some (sensor_event config ambient.sensor_id wall monotonic
            (factor_payload config presentation.presentation_id token_ref record)),
          adapter.observed_event config ambient wall⟩)

/-- `mark_failed`. A failure that is reported already is not reported again. -/
def mark_failed (reason : Json) (now_wall : Option Json) : ContactlessTokenAdapter × Except Error Cycle :=
  let checked := do
    let detail ← given_text ⟨.ValueError, "failure reason must be non-empty"⟩ reason
    if adapter.reader_state = ReaderState.FAILED then pure none
    else do
      let wall ← reading "now_wall" now_wall ambient.time
      pure (some (detail, wall))
  match checked with
  | .error error => (adapter, .error error)
  | .ok none => (adapter, .ok .empty)
  | .ok (some (detail, wall)) =>
    (⟨.FAILED, none, none⟩,
      .ok (.health (health_event config ambient.health_id wall "FAILED" "ERROR" adapter.reader_state.state .FAILED detail
        "READER_FAILURE")))

/-- The public operations of the adapter. -/
inductive Operation where
  | mark_ready (now_wall : Option Json) (ambient : Ambient)
  | observe (presentation : Presentation) (now_wall now_monotonic : Option Json) (ambient : Ambient)
  | mark_failed (reason : Json) (now_wall : Option Json) (ambient : Ambient)

def perform : Operation → ContactlessTokenAdapter × Except Error Cycle
  | .mark_ready now_wall ambient => adapter.mark_ready config ambient now_wall
  | .observe presentation now_wall now_monotonic ambient =>
    adapter.observe hmac config ambient presentation now_wall now_monotonic
  | .mark_failed reason now_wall ambient => adapter.mark_failed config ambient reason now_wall

end ContactlessTokenAdapter

end velvet.contactless_token_adapter
