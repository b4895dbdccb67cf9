import VelvetRuntime.BodyState.Bridge
import VelvetRuntime.BodyAdapter.Events

open python python.num python.str velvet.body_state_bridge

namespace velvet.learning_mode_posture_sources

/-- `CriticalHealthPosture`. -/
inductive CriticalHealthPosture where
  | UNKNOWN
  | OK
  | BLOCKED
  deriving DecidableEq, Repr

def GOOD_STATES : List String := ["ONLINE", "OK", "HEALTHY"]

def BLOCKED_STATES : List String := ["DEGRADED", "FAILED", "RECOVERING", "STALE"]

/-- `str(value)` of a decoded value, which for text is the text itself. -/
class JsonStr where
  str : Json → String
  str_text : ∀ text, str (.text text) = text

/-- `str` of the values whose text is the same everywhere. -/
@[reducible] def JsonStr.of_texts : JsonStr where
  str
    | .text text => text
    | .null => "None"
    | .bool true => "True"
    | .bool false => "False"
    | .int value => toString value
    | _ => ""
  str_text _ := rfl

/-- `_normalized_ids`. -/
def normalized_ids (values : List String) : Except Error (List String) :=
  values.foldlM (fun output value =>
    if Blank value then .error ⟨.ValueError, "critical_module_ids must contain non-empty strings"⟩
    else if stripped value ∈ output then .error ⟨.ValueError, "critical_module_ids must not contain duplicates"⟩
    else .ok (output ++ [stripped value])) []

/-- The payload of a record, where it is a mapping. -/
def payload_of : Json → Option (List (String × Json))
  | .object entries =>
    match entry_of entries "payload" with
    | some (.object payload) => some payload
    | _ => none
  | _ => none

/-- A number that is finite and not negative. -/
def finite_time (value : Json) : Except Error (Option ℚ) :=
  if is_number value then do
    match ← float_of value with
    | .finite number => pure (if number < 0 then none else some number)
    | _ => pure none
  else pure none

/-- `_record_timestamp`. -/
def record_timestamp (record : Json) : Except Error (Option ℚ) :=
  match payload_of record with
  | some payload => finite_time ((entry_of payload "timestamp").getD .null)
  | none => pure none

/-- `_sensor_is_fresh`, once the present is known. -/
def sensor_is_fresh (payload : List (String × Json)) (now : ℚ) : Except Error Bool :=
  let timestamp := (entry_of payload "timestamp").getD .null
  match is_number timestamp, (entry_of payload "stale_after_ms").getD .null with
  | true, .int stale_after_ms =>
    if stale_after_ms ≤ 0 then pure false
    else do
      match ← finite_time timestamp with
      | none => pure false
      | some observed =>
        if now < observed then pure false
        else
          match float_of_int stale_after_ms with
          | none => throw ⟨.OverflowError, "int too large to convert to float"⟩
          | some bound => pure (decide ((now - observed) * 1000 ≤ bound))
  | _, _ => pure false

section

variable [StrLower] [StrUpper] [JsonStr]

/-- `str(mapping.get(key, ""))`. -/
def text_of (entries : List (String × Json)) (key : String) : String :=
  ((entry_of entries key).map JsonStr.str).getD ""

/-- `str(mapping.get(key, "")).upper()`. -/
def upper_of (entries : List (String × Json)) (key : String) : String :=
  String.ofList (StrUpper.upper (text_of entries key).toList)

/-- Whether a record is of the family and the module that are looked for. -/
def is_candidate (module_id family : String) : Json → Bool
  | .object entries =>
    String.ofList (StrLower.lower (text_of entries "family").toList) = family &&
      (payload_of (.object entries)).any (fun payload => text_of payload "module_id" = module_id)
  | _ => false

/-- The records that `_latest_record` considers, each with its timestamp. -/
def candidates (module_id family : String) : List Json → Except Error (List (ℚ × Json))
  | [] => pure []
  | record :: rest =>
    if is_candidate module_id family record then do
      let timestamp ← record_timestamp record
      let later ← candidates module_id family rest
      pure ((timestamp.map (fun time => (time, record))).toList ++ later)
    else candidates module_id family rest

/-- `_latest_record`. -/
def latest_record (records : List Json) (module_id family : String) : Except Error (Option Json) := do
  let found ← candidates module_id family records
  pure ((found.insertionSort (fun left right => left.1 ≤ right.1)).getLast?.map Prod.snd)

/-- The current state of a critical module, unless the evidence leaves it `UNKNOWN`. -/
def current_state (records : List Json) (now : ℚ) (module_id : String) : Except Error (Option String) := do
  match ← latest_record records module_id "sensor" with
  | none => pure none
  | some sensor =>
    match payload_of sensor with
    | none => pure none
    | some sensor_payload =>
      if ← sensor_is_fresh sensor_payload now then
        match ← record_timestamp sensor with
        | none => pure none
        | some sensor_time =>
          match ← latest_record records module_id "health" with
          | none => pure (some (upper_of sensor_payload "health_state"))
          | some health =>
            match ← record_timestamp health, payload_of health with
            | some health_time, some health_payload =>
              pure (some (if sensor_time ≤ health_time then upper_of health_payload "state_after"
                else upper_of sensor_payload "health_state"))
            | _, _ => pure none
      else pure none

/-- The loop over the critical modules. -/
def posture_of_modules (records : List Json) (now : ℚ) : List String → Except Error CriticalHealthPosture
  | [] => pure .OK
  | module_id :: rest => do
    match ← current_state records now module_id with
    | none => pure .UNKNOWN
    | some state =>
      if state ∈ BLOCKED_STATES then pure .BLOCKED
      else if state ∉ GOOD_STATES then pure .UNKNOWN
      else posture_of_modules records now rest

def reads_text (value : Option Json) (expected : String) : Bool :=
  match value with
  | some (.text text) => text = expected
  | _ => false

def reads_true : Option Json → Bool
  | some (.bool value) => value
  | _ => false

/-- `critical_health_posture_from_body_snapshot`. -/
def critical_health_posture_from_body_snapshot (snapshot : Json) (critical_module_ids : List String)
    (now_wall : Option Json) (time : ℚ) : Except Error CriticalHealthPosture := do
  let modules ← normalized_ids critical_module_ids
  if modules = [] then pure .UNKNOWN
  else
    match snapshot with
    | .object entries =>
      if !reads_text (entry_of entries "schema") BODY_STATE_SNAPSHOT_SCHEMA then pure .UNKNOWN
      else if !reads_true (entry_of entries "read_only") || !reads_text (entry_of entries "authority") "none" then
        throw ⟨.ValueError, "body-state snapshot must remain read-only and authority-free"⟩
      else
        match entry_of entries "records" with
        | some (.list records) => do
          let now ← velvet.body_adapter.reading "now_wall" now_wall time
          posture_of_modules records now modules
        | _ => pure .UNKNOWN
    | _ => throw ⟨.TypeError, "snapshot must be a mapping"⟩

end

end velvet.learning_mode_posture_sources
