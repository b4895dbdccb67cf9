import VelvetRuntime.Python.JsonText
import VelvetRuntime.Text
import VelvetRuntime.Error

open python python.json

namespace velvet.speech_expression_egress

def SPEECH_EXPRESSION_EVENT : String := "language.expression.speech_requested"
def SPEECH_EXPRESSION_CONTRACT : String := "velvet.speech-expression.v1"
def SPEECH_EXPRESSION_SCHEMA_VERSION : String := "1.0"
def SPEECH_SOURCE : String := "velvet-language"
def RUNTIME_SPEECH_SOURCE : String := "velvet-runtime.speech-egress"

def METADATA_KEYS : List String := ["contract", "schema_version", "family", "authority", "expression_only"]

def PAYLOAD_KEYS : List String :=
  ["schema_version", "expression_id", "text", "severity", "audience", "requested_profile", "driving_load",
    "emergency_context", "quiet_requested", "social_allowed", "interrupt", "generator", "policy_version",
    "speech_approved", "command_authority", "actuation_authority", "hardware_selected", "synthesis_selected"]

def ALLOWED_SEVERITIES : List String := ["casual", "informational", "warning", "critical", "emergency"]

def ALLOWED_DRIVING_LOADS : List String := ["low", "medium", "high"]

/-- What the library functions answer that the module calls: `str.casefold`, the text of floats, and the digest of a
text in UTF-8 as hexadecimal digits. -/
structure Builtins where
  casefold : String → String
  floats : FloatText
  sha256 : String → String

/-- The attributes of an event; an attribute that is missing is `None`. -/
structure SpeechEvent where
  source : Json
  event_type : Json
  metadata : Json
  payload : Json

def validation_error (message : String) : Error := ⟨.SpeechExpressionValidationError, message⟩

def required_text (value : Json) (name : String) : Except Error String :=
  match value with
  | .text text =>
    if Blank text then .error (validation_error (name ++ " must be a non-empty string")) else .ok (stripped text)
  | _ => .error (validation_error (name ++ " must be a non-empty string"))

/-- `isinstance(value, Mapping) and set(value) == keys`. -/
def mapping_with_keys (value : Json) (keys : List String) : Option (List (String × Json)) :=
  match value with
  | .object entries =>
    if (entries.map Prod.fst).all (· ∈ keys) && keys.all (· ∈ entries.map Prod.fst) then some entries else none
  | _ => none

/-- `str(value).strip().casefold() in allowed`: only text can be among the allowed words. -/
def is_allowed (builtins : Builtins) (value : Option Json) (allowed : List String) : Bool :=
  match value with
  | some (.text text) => builtins.casefold (stripped text) ∈ allowed
  | _ => false

/-- `isinstance(value, bool)`. -/
def is_bool : Option Json → Bool
  | some (.bool _) => true
  | _ => false

def is_bool_value (value : Option Json) (expected : Bool) : Bool :=
  match value with
  | some (.bool found) => found = expected
  | _ => false

/-- `value == expected` for text. -/
def is_text (value : Option Json) (expected : String) : Bool := (value.getD .null).is_text expected

def check (condition : Bool) (message : String) : Except Error Unit :=
  if condition then .ok () else .error (validation_error message)

def validate_speech_metadata (entries : List (String × Json)) : Except Error Unit := do
  check (is_text (entry_of entries "contract") SPEECH_EXPRESSION_CONTRACT) "unexpected speech expression contract"
  check (is_text (entry_of entries "schema_version") SPEECH_EXPRESSION_SCHEMA_VERSION)
    "unexpected speech expression schema version"
  check (is_text (entry_of entries "family") "speech-expression") "unexpected speech expression family"
  check (is_text (entry_of entries "authority") "none" && is_bool_value (entry_of entries "expression_only") true)
    "speech metadata must remain expression-only and authority-free"

/-- The checks of the payload, and its expression id. -/
def validate_speech_payload (builtins : Builtins) (entries : List (String × Json)) : Except Error String := do
  check (is_text (entry_of entries "schema_version") SPEECH_EXPRESSION_SCHEMA_VERSION)
    "unexpected speech payload schema version"
  for name in ["expression_id", "text", "audience", "requested_profile", "generator", "policy_version"] do
    let _ ← required_text ((entry_of entries name).getD .null) name
  match entry_of entries "text" with
  | some (.text text) => check (text.length ≤ 4096) "spoken expression text exceeds 4096 characters"
  | _ => pure ()
  check (is_allowed builtins (entry_of entries "severity") ALLOWED_SEVERITIES) "unsupported speech expression severity"
  check (is_allowed builtins (entry_of entries "driving_load") ALLOWED_DRIVING_LOADS)
    "driving_load must be low, medium, or high"
  for name in ["emergency_context", "quiet_requested", "social_allowed", "interrupt"] do
    check (is_bool (entry_of entries name)) (name ++ " must be boolean")
  check (is_bool_value (entry_of entries "speech_approved") true) "speech expression must be approved"
  for name in ["command_authority", "actuation_authority", "hardware_selected", "synthesis_selected"] do
    check (is_bool_value (entry_of entries name) false) ("speech expression cannot carry " ++ name)
  match entry_of entries "expression_id" with
  | some (.text expression_id) => pure expression_id
  | _ => throw (validation_error "expression_id must be a non-empty string")

/-- An event that passed the checks: the mapping that is kept, and its expression id. -/
structure ValidatedSpeech where
  nested : Json
  expression_id : String

def validate_speech_expression_event (builtins : Builtins) (event : SpeechEvent) : Except Error ValidatedSpeech := do
  let source ← required_text event.source "source"
  let event_type ← required_text event.event_type "event_type"
  check (source = SPEECH_SOURCE) "speech source must be velvet-language"
  check (event_type = SPEECH_EXPRESSION_EVENT) "unexpected speech expression event type"
  match mapping_with_keys event.metadata METADATA_KEYS, mapping_with_keys event.payload PAYLOAD_KEYS with
  | none, _ => throw (validation_error "speech metadata fields do not match the shared contract")
  | _, none => throw (validation_error "speech payload fields do not match the shared contract")
  | some metadata, some payload => do
    validate_speech_metadata metadata
    let expression_id ← validate_speech_payload builtins payload
    pure {
      nested := .object [("event_type", .text event_type), ("source", .text source), ("metadata", .object metadata),
        ("payload", .object payload)]
      expression_id }

/-- `json.dumps(value, sort_keys=True, separators=(",", ":"), ensure_ascii=False)`. -/
def canonical_json (builtins : Builtins) (value : Json) : String :=
  String.ofList (encode builtins.floats false value)

/-- The text of the envelope that a record is sent in. -/
def envelope_of (builtins : Builtins) (record_id : Nat) (occurred_ns : Int) (nested : Json) : String :=
  canonical_json builtins (.object [
    ("event_type", .text SPEECH_EXPRESSION_EVENT),
    ("source_id", .text RUNTIME_SPEECH_SOURCE),
    ("sequence", .int record_id),
    ("occurred_at_monotonic_ns", .int occurred_ns),
    ("payload", .object [("speech_expression", nested)])])

inductive Status where
  | pending
  | delivered
  | quarantined
  deriving DecidableEq, Repr

/-- A row of the table `speech_egress`. -/
structure Row where
  id : Nat
  expression_id : String
  content_sha256 : String
  envelope_json : Option String
  idempotency_key : String
  status : Status
  attempt_count : Int
  next_attempt_monotonic_ns : Int
  last_error : Option String
  receipt_id : Option String
  created_at_unix_ns : Int
  updated_at_unix_ns : Int
  deriving DecidableEq

/-- The seconds that a retry waits, of which there are at most sixty. -/
def delay_seconds (attempt_count : Int) : Nat :=
  min 60 (2 ^ (min (max attempt_count 1) 6).toNat)

namespace Row

/-- The row of a new expression. -/
def enqueued (builtins : Builtins) (record_id : Nat) (speech : ValidatedSpeech) (occurred_ns now_ns : Int) : Row where
  id := record_id
  expression_id := speech.expression_id
  content_sha256 := builtins.sha256 (canonical_json builtins speech.nested)
  envelope_json := some (envelope_of builtins record_id occurred_ns speech.nested)
  idempotency_key := builtins.sha256 (envelope_of builtins record_id occurred_ns speech.nested)
  status := .pending
  attempt_count := 0
  next_attempt_monotonic_ns := 0
  last_error := none
  receipt_id := none
  created_at_unix_ns := now_ns
  updated_at_unix_ns := now_ns

/-- The row after `_finish`. -/
def finished (status : Status) (receipt_id detail : Option String) (unix_ns : Int) (row : Row) : Row :=
  { row with
    status
    envelope_json := none
    receipt_id
    last_error := detail
    updated_at_unix_ns := unix_ns }

/-- The row after `retry`. -/
def retried (attempt_count next_attempt : Int) (detail : String) (unix_ns : Int) (row : Row) : Row :=
  { row with
    attempt_count
    next_attempt_monotonic_ns := next_attempt
    last_error := some (String.ofList (detail.toList.take 512))
    updated_at_unix_ns := unix_ns }

end Row

/-- The greatest `INTEGER PRIMARY KEY`. -/
def MAX_ROW_ID : Nat := 2 ^ 63 - 1

/-- The database: its rows in the order of their ids, and the greatest id that `AUTOINCREMENT` has given out. -/
structure SqliteSpeechEgressOutbox where
  max_pending : Nat
  rows : List Row
  last_id : Nat
  max_pending_pos : 0 < max_pending
  ordered : (rows.map Row.id).Pairwise (· < ·)
  assigned : ∀ row ∈ rows, row.id ≤ last_id

/-- What `due` hands out. -/
structure SpeechEgressRecord where
  record_id : Nat
  expression_id : String
  envelope_json : String
  idempotency_key : String
  attempt_count : Int
  deriving DecidableEq

/-- The clocks that an operation reads. -/
structure Clocks where
  monotonic_ns : Nat
  unix_ns : Int

/-- An integer that is bound to a statement has 64 bits. -/
def sqlite_integer (value : Int) : Except Error Int :=
  if -2 ^ 63 ≤ value ∧ value < 2 ^ 63 then .ok value
  else .error ⟨.OverflowError, "Python int too large to convert to SQLite INTEGER"⟩

namespace SqliteSpeechEgressOutbox

def new (max_pending : { size : Nat // 0 < size }) : SqliteSpeechEgressOutbox where
  max_pending := max_pending.val
  rows := []
  last_id := 0
  max_pending_pos := max_pending.property
  ordered := .nil
  assigned := fun _ hrow => nomatch hrow

def pending (self : SqliteSpeechEgressOutbox) : List Row := self.rows.filter (fun row => row.status = .pending)

/-- An `UPDATE` of the pending row with an id. -/
def update_pending (self : SqliteSpeechEgressOutbox) (record_id : Nat) (change : Row → Row)
    (hid : ∀ row, (change row).id = row.id) : SqliteSpeechEgressOutbox where
  max_pending := self.max_pending
  rows := self.rows.map (fun row => if row.id = record_id ∧ row.status = .pending then change row else row)
  last_id := self.last_id
  max_pending_pos := self.max_pending_pos
  ordered := by
    rw [List.map_map]
    convert self.ordered using 2
    funext row
    simp only [Function.comp_apply]
    split <;> simp [hid]
  assigned := by
    intro row hrow
    obtain ⟨old, hold, rfl⟩ := List.mem_map.mp hrow
    have hbound := self.assigned old hold
    split <;> simp [hid, hbound]

/-- An `INSERT` under the next id. -/
def insert (self : SqliteSpeechEgressOutbox) (row : Row) (hid : row.id = self.last_id + 1) :
    SqliteSpeechEgressOutbox where
  max_pending := self.max_pending
  rows := self.rows ++ [row]
  last_id := row.id
  max_pending_pos := self.max_pending_pos
  ordered := by
    rw [List.map_append, List.pairwise_append]
    refine ⟨self.ordered, List.pairwise_singleton _ _, ?_⟩
    intro earlier hearlier last hlast
    obtain ⟨old, hold, rfl⟩ := List.mem_map.mp hearlier
    have hbound := self.assigned old hold
    rw [List.mem_singleton.mp hlast, hid]
    omega
  assigned := by
    intro other hother
    rcases List.mem_append.mp hother with hold | hnew
    · have hbound := self.assigned other hold
      omega
    · rw [List.mem_singleton.mp hnew]

/-- `enqueue`, where a database that fails leaves the table as it was. -/
def enqueue (builtins : Builtins) (event : SpeechEvent) (occurred_at_monotonic_ns : Option Int) (clocks : Clocks)
    (database : Except Error Unit) (self : SqliteSpeechEgressOutbox) : Except Error Nat × SqliteSpeechEgressOutbox :=
  match validate_speech_expression_event builtins event with
  | .error error => (.error error, self)
  | .ok speech =>
    let content_sha := builtins.sha256 (canonical_json builtins speech.nested)
    let occurred_ns := occurred_at_monotonic_ns.getD clocks.monotonic_ns
    if occurred_ns < 0 then (.error ⟨.ValueError, "occurred_at_monotonic_ns cannot be negative"⟩, self)
    else
      match database with
      | .error error => (.error error, self)
      | .ok () =>
        match self.rows.find? (fun row => row.expression_id = speech.expression_id) with
        | some existing =>
          if existing.content_sha256 ≠ content_sha then
            (.error (validation_error "expression_id was reused with different speech content"), self)
          else (.ok existing.id, self)
        | none =>
          if self.max_pending ≤ self.pending.length then
            (.error ⟨.SpeechEgressQueueFull, "speech egress outbox is full"⟩, self)
          else if MAX_ROW_ID ≤ self.last_id then (.error ⟨.DatabaseError, "database or disk is full"⟩, self)
          else
            let record_id := self.last_id + 1
            (.ok record_id, self.insert (.enqueued builtins record_id speech occurred_ns clocks.unix_ns) rfl)

/-- `due`: the first pending row whose next attempt has come. -/
def due (observed : Int) (database : Except Error Unit) (self : SqliteSpeechEgressOutbox) :
    Except Error (Option SpeechEgressRecord) := do
  let observed ← sqlite_integer observed
  database
  pure ((self.rows.find? (fun row => row.status = .pending && row.next_attempt_monotonic_ns ≤ observed)).map
    (fun row => {
      record_id := row.id
      expression_id := row.expression_id
      envelope_json := row.envelope_json.getD "None"
      idempotency_key := row.idempotency_key
      attempt_count := row.attempt_count }))

/-- A statement that changes the pending row with an id, once its arguments are bound. -/
def execute (arguments : List Int) (database : Except Error Unit) (self changed : SqliteSpeechEgressOutbox) :
    Except Error Unit × SqliteSpeechEgressOutbox :=
  match (do arguments.forM (fun argument => do let _ ← sqlite_integer argument); database) with
  | .error error => (.error error, self)
  | .ok () => (.ok (), changed)

/-- `_finish`. -/
def finish (record_id : Nat) (status : Status) (receipt_id detail : Option String) (unix_ns : Int)
    (database : Except Error Unit) (self : SqliteSpeechEgressOutbox) : Except Error Unit × SqliteSpeechEgressOutbox :=
  self.execute [unix_ns, record_id] database
    (self.update_pending record_id (Row.finished status receipt_id detail unix_ns) (fun _ => rfl))

def mark_delivered (record_id : Nat) (receipt_id : Option String) (unix_ns : Int) (database : Except Error Unit)
    (self : SqliteSpeechEgressOutbox) : Except Error Unit × SqliteSpeechEgressOutbox :=
  self.finish record_id .delivered receipt_id none unix_ns database

def quarantine (record_id : Nat) (detail : String) (unix_ns : Int) (database : Except Error Unit)
    (self : SqliteSpeechEgressOutbox) : Except Error Unit × SqliteSpeechEgressOutbox :=
  self.finish record_id .quarantined none (some detail) unix_ns database

def retry (record_id : Nat) (attempt_count : Int) (detail : String) (observed unix_ns : Int)
    (database : Except Error Unit) (self : SqliteSpeechEgressOutbox) : Except Error Unit × SqliteSpeechEgressOutbox :=
  let next_attempt := observed + delay_seconds attempt_count * 1000000000
  self.execute [attempt_count, next_attempt, unix_ns, record_id] database
    (self.update_pending record_id (Row.retried attempt_count next_attempt detail unix_ns) (fun _ => rfl))

end SqliteSpeechEgressOutbox

/-- How the Audio Studio answers a record that is sent. -/
structure SpeechTransportResult where
  accepted : Bool
  terminal : Bool
  receipt_id : Option String
  detail : Option String

/-- The operations on the database, each of which is one transaction. A clock reading that is not passed is taken when
the operation starts. -/
inductive Transaction where
  | enqueue (event : SpeechEvent) (occurred_at_monotonic_ns : Option Int)
  | due (observed_at_monotonic_ns : Option Int)
  | mark_delivered (record_id : Nat) (receipt_id : Option String)
  | quarantine (record_id : Nat) (detail : String)
  | retry (record_id : Nat) (attempt_count : Int) (detail : String) (observed_ns : Option Int)

/-- `SpeechExpressionEgress.poll`, after a record was sent: what is done about the answer. An answer without a detail
has an empty one or none, and both count as false. -/
def settle (record : SpeechEgressRecord) (result : SpeechTransportResult) : Transaction :=
  let detail := result.detail.filter (· ≠ "")
  if result.accepted then .mark_delivered record.record_id result.receipt_id
  else if result.terminal then .quarantine record.record_id (detail.getD "terminal Audio rejection")
  else .retry record.record_id (record.attempt_count + 1) (detail.getD "Audio delivery unavailable") none

/-- A transaction of some process, with the clocks it reads and how the database ends it. -/
structure Request where
  transaction : Transaction
  clocks : Clocks
  database : Except Error Unit

inductive Outcome where
  | enqueued (result : Except Error Nat)
  | found (result : Except Error (Option SpeechEgressRecord))
  | changed (result : Except Error Unit)

def perform (builtins : Builtins) (request : Request) (self : SqliteSpeechEgressOutbox) :
    Outcome × SqliteSpeechEgressOutbox :=
  let now := request.clocks.monotonic_ns
  let unix_ns := request.clocks.unix_ns
  match request.transaction with
  | .enqueue event occurred =>
    let (result, after) := self.enqueue builtins event occurred request.clocks request.database
    (.enqueued result, after)
  | .due observed => (.found (self.due (observed.getD now) request.database), self)
  | .mark_delivered record_id receipt_id =>
    let (result, after) := self.mark_delivered record_id receipt_id unix_ns request.database
    (.changed result, after)
  | .quarantine record_id detail =>
    let (result, after) := self.quarantine record_id detail unix_ns request.database
    (.changed result, after)
  | .retry record_id attempt_count detail observed =>
    let (result, after) := self.retry record_id attempt_count detail (observed.getD now) unix_ns request.database
    (.changed result, after)

end velvet.speech_expression_egress
