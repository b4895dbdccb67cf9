import VelvetRuntime.Python.Json
import VelvetRuntime.Python.Except
import VelvetRuntime.Text
import VelvetRuntime.Error

open python python.num python.str

namespace velvet.body_state_bridge

def BODY_STATE_SNAPSHOT_SCHEMA : String := "velvet.runtime.body_state_snapshot.v1"

def FORBIDDEN_FIELDS : List String :=
  ["action", "actuate", "actuation", "capability", "capability_token", "command", "executor", "executor_name",
    "hardware_target", "route_id", "shell", "target", "token"]

def FALSE_ONLY_CLAIMS : List String :=
  ["actuation_granted", "actuation_performed", "actuation_authorized", "execution_authorized", "grants_authority",
    "grants_execution", "grants_actuation"]

def bridge_error (message : String) : Error := ⟨.BodyStateBridgeError, message⟩

/-- `item is False`. -/
def is_false : Json → Bool
  | .bool false => true
  | _ => false

mutual

/-- `_reject_authority`: no field below the value carries authority. -/
def reject_authority (path : String) : Json → Except Error Unit
  | .object entries => reject_entries path entries
  | .list values => reject_values path 0 values
  | _ => .ok ()

def reject_entries (path : String) : List (String × Json) → Except Error Unit
  | [] => .ok ()
  | (name, item) :: rest =>
    if name ∈ FORBIDDEN_FIELDS then
      .error (bridge_error ("body record contains forbidden authority field: " ++ path ++ "." ++ name))
    else if name ∈ FALSE_ONLY_CLAIMS ∧ is_false item = false then
      .error (bridge_error ("body record contains unsafe claim: " ++ path ++ "." ++ name))
    else do
      reject_authority (path ++ "." ++ name) item
      reject_entries path rest

def reject_values (path : String) (index : Nat) : List Json → Except Error Unit
  | [] => .ok ()
  | item :: rest => do
    reject_authority (path ++ "[" ++ toString index ++ "]") item
    reject_values path (index + 1) rest

end

mutual

/-- Whether a value carries no authority at any depth. -/
def AuthorityFree : Json → Prop
  | .object entries => AuthorityFreeEntries entries
  | .list values => AuthorityFreeValues values
  | _ => True

def AuthorityFreeEntries : List (String × Json) → Prop
  | [] => True
  | (name, item) :: rest =>
    name ∉ FORBIDDEN_FIELDS ∧ (name ∈ FALSE_ONLY_CLAIMS → is_false item = true) ∧ AuthorityFree item ∧
      AuthorityFreeEntries rest

def AuthorityFreeValues : List Json → Prop
  | [] => True
  | item :: rest => AuthorityFree item ∧ AuthorityFreeValues rest

end

mutual

/-- The path only says where the error is: a value is accepted exactly when it carries no authority. -/
theorem reject_authority_eq_ok_iff : ∀ (value : Json) (path : String),
    reject_authority path value = .ok () ↔ AuthorityFree value
  | .null, _ | .bool _, _ | .int _, _ | .float _, _ | .text _, _ => by simp [reject_authority, AuthorityFree]
  | .list values, path => by
    rw [reject_authority, AuthorityFree]
    exact reject_values_eq_ok_iff values path 0
  | .object entries, path => by
    rw [reject_authority, AuthorityFree]
    exact reject_entries_eq_ok_iff entries path

theorem reject_entries_eq_ok_iff : ∀ (entries : List (String × Json)) (path : String),
    reject_entries path entries = .ok () ↔ AuthorityFreeEntries entries
  | [], _ => by simp [reject_entries, AuthorityFreeEntries]
  | (name, item) :: rest, path => by
    rw [reject_entries, AuthorityFreeEntries, except.guard_eq_ok, except.guard_eq_ok, except.check_bind_eq_ok,
      reject_authority_eq_ok_iff item, reject_entries_eq_ok_iff rest, not_and, Bool.not_eq_false]

theorem reject_values_eq_ok_iff : ∀ (values : List Json) (path : String) (index : Nat),
    reject_values path index values = .ok () ↔ AuthorityFreeValues values
  | [], _, _ => by simp [reject_values, AuthorityFreeValues]
  | item :: rest, path, index => by
    rw [reject_values, AuthorityFreeValues, except.check_bind_eq_ok, reject_authority_eq_ok_iff item,
      reject_values_eq_ok_iff rest]

end

/-- The two families of body evidence. -/
inductive Family where
  | sensor
  | health
  deriving DecidableEq, Repr

/-- `str(value).strip().lower()` as the family of a record: nothing but text reads as one of the two. -/
def family_of [StrLower] : Option Json → Option Family
  | some (.text family) =>
    if StrLower.lower (strip family.toList) = "sensor".toList then some .sensor
    else if StrLower.lower (strip family.toList) = "health".toList then some .health
    else none
  | _ => none

/-- `str(value).strip().upper()`; what is not text never reads as an event type that is checked for. -/
def event_type_of [StrUpper] : Option Json → List Char
  | some (.text event_type) => StrUpper.upper (strip event_type.toList)
  | _ => []

/-- The check that an event type belongs to the family. -/
def check_event_type (family : Family) (event_type : List Char) : Except Error Unit :=
  match family with
  | .sensor =>
    if event_type = "SENSOR_PACKET_OBSERVED".toList then .ok ()
    else .error (bridge_error "sensor record has unexpected event_type")
  | .health =>
    if "HEALTH_".toList <+: event_type then .ok ()
    else .error (bridge_error "health record has unexpected event_type")

/-- Whether a field holds text with more than white space. -/
def is_given : Option Json → Bool
  | some (.text value) => !decide (Blank value)
  | _ => false

def required_text (payload : List (String × Json)) (key : String) : Except Error Unit :=
  if is_given (entry_of payload key) then .ok () else .error (bridge_error (key ++ " must be a non-empty string"))

/-- `float(value)` of a number. -/
def float_of : Json → Except Error JsonFloat
  | .float value => .ok value
  | .int value =>
    match float_of_int value with
    | some rounded => .ok (.finite rounded)
    | none => .error ⟨.OverflowError, "int too large to convert to float"⟩
  | _ => .error ⟨.TypeError, "float() argument must be a string or a real number"⟩

def is_number : Json → Bool
  | .int _ | .float _ => true
  | _ => false

def check_timestamp (timestamp : Json) : Except Error Unit :=
  if is_number timestamp then do
    let value ← float_of timestamp
    if value.lt 0 then .error (bridge_error "payload timestamp must be non-negative numeric") else .ok ()
  else .error (bridge_error "payload timestamp must be non-negative numeric")

/-- The entries of a field that must hold a mapping. -/
def mapping_of (value : Option Json) (message : String) : Except Error (List (String × Json)) :=
  match value with
  | some (.object entries) => .ok entries
  | _ => .error (bridge_error message)

/-- The texts that every payload must carry. -/
def PAYLOAD_TEXTS : List String := ["module_id", "node_id", "owning_handmaiden", "receipt_id"]

/-- The texts that the payload of a family must carry besides. -/
def Family.texts : Family → List String
  | sensor => ["sensor_type", "interface_type", "health_state", "calibration_version"]
  | health => ["event_id", "event_type", "severity", "state_before", "state_after"]

/-- The mapping inside the payload of a family. -/
def Family.inner : Family → String
  | sensor => "payload"
  | health => "diagnostic_payload"

def Family.inner_error : Family → String
  | sensor => "sensor payload must contain a payload mapping"
  | health => "health payload must contain diagnostic_payload mapping"

/-- `validate_body_record`. The copy that it returns is equal to the record. -/
def validate_body_record [StrLower] [StrUpper] (record : Json) : Except Error Json :=
  match record with
  | .object entries => do
    reject_authority "record" (.object entries)
    match family_of (entry_of entries "family") with
    | none => throw (bridge_error "body record family must be sensor or health")
    | some family => do
      check_event_type family (event_type_of (entry_of entries "event_type"))
      let payload ← mapping_of (entry_of entries "payload") "body record payload must be a mapping"
      PAYLOAD_TEXTS.forM (required_text payload)
      check_timestamp ((entry_of payload "timestamp").getD .null)
      family.texts.forM (required_text payload)
      let _ ← mapping_of (entry_of payload family.inner) family.inner_error
      pure record
  | _ => throw ⟨.TypeError, "body record must be a mapping"⟩

theorem required_text_eq_ok_iff {payload : List (String × Json)} {key : String} :
    required_text payload key = .ok () ↔ is_given (entry_of payload key) = true := by
  unfold required_text
  split <;> simp_all

theorem mapping_of_eq_ok_iff {value : Option Json} {message : String} {entries : List (String × Json)} :
    mapping_of value message = .ok entries ↔ value = some (.object entries) := by
  unfold mapping_of
  split <;> simp_all

theorem check_timestamp_eq_ok_iff {timestamp : Json} : check_timestamp timestamp = .ok () ↔
    is_number timestamp = true ∧ ∃ value, float_of timestamp = .ok value ∧ value.lt 0 = false := by
  unfold check_timestamp
  cases hnumber : is_number timestamp with
  | false => simp
  | true =>
    simp only [if_true, true_and, except.bind_eq_ok]
    refine exists_congr fun value => and_congr_right fun _ => ?_
    cases value.lt 0 <;> simp

theorem is_given_iff {value : Option Json} :
    is_given value = true ↔ ∃ text, value = some (.text text) ∧ ¬Blank text := by
  unfold is_given
  split <;> simp_all

section

variable [StrLower] [StrUpper]

/-- What the checks of a record establish. -/
structure Accepted (entries payload : List (String × Json)) (family : Family) (timestamp : JsonFloat) : Prop where
  authority_free : AuthorityFree (.object entries)
  family_read : family_of (entry_of entries "family") = some family
  event_type_read : check_event_type family (event_type_of (entry_of entries "event_type")) = .ok ()
  payload_read : entry_of entries "payload" = some (.object payload)
  texts_given : ∀ key ∈ PAYLOAD_TEXTS ++ family.texts, is_given (entry_of payload key) = true
  timestamp_is_number : is_number ((entry_of payload "timestamp").getD .null) = true
  timestamp_read : float_of ((entry_of payload "timestamp").getD .null) = .ok timestamp
  timestamp_not_negative : timestamp.lt 0 = false
  inner_read : ∃ inner, entry_of payload family.inner = some (.object inner)

/-- A record is accepted unchanged, and exactly when it is a mapping that carries what the checks ask for. -/
theorem validate_body_record_eq_ok_iff {record result : Json} : validate_body_record record = .ok result ↔
    result = record ∧ ∃ entries payload family timestamp, record = .object entries ∧
      Accepted entries payload family timestamp := by
  constructor
  · intro hvalid
    unfold validate_body_record at hvalid
    split at hvalid
    case h_2 => cases hvalid
    case h_1 entries =>
      obtain ⟨hauthority, hvalid⟩ := except.check_bind_eq_ok.mp hvalid
      split at hvalid
      case h_1 => cases hvalid
      case h_2 family hfamily =>
        obtain ⟨hevent, hvalid⟩ := except.check_bind_eq_ok.mp hvalid
        obtain ⟨payload, hpayload, hvalid⟩ := except.bind_eq_ok.mp hvalid
        obtain ⟨hcommon, hvalid⟩ := except.check_bind_eq_ok.mp hvalid
        obtain ⟨htimestamp, hvalid⟩ := except.check_bind_eq_ok.mp hvalid
        obtain ⟨hown, hvalid⟩ := except.check_bind_eq_ok.mp hvalid
        obtain ⟨inner, hinner, hvalid⟩ := except.bind_eq_ok.mp hvalid
        obtain ⟨hnumber, value, hvalue, hpositive⟩ := check_timestamp_eq_ok_iff.mp htimestamp
        refine ⟨(Except.ok.inj hvalid).symm, entries, payload, family, value, rfl, ?_⟩
        exact {
          authority_free := (reject_authority_eq_ok_iff _ _).mp hauthority
          family_read := hfamily
          event_type_read := hevent
          payload_read := mapping_of_eq_ok_iff.mp hpayload
          texts_given := by
            intro key hkey
            rcases List.mem_append.mp hkey with hkey | hkey
            · exact required_text_eq_ok_iff.mp (except.forM_eq_ok.mp hcommon key hkey)
            · exact required_text_eq_ok_iff.mp (except.forM_eq_ok.mp hown key hkey)
          timestamp_is_number := hnumber
          timestamp_read := hvalue
          timestamp_not_negative := hpositive
          inner_read := ⟨inner, mapping_of_eq_ok_iff.mp hinner⟩ }
  · rintro ⟨rfl, entries, payload, family, timestamp, rfl, haccepted⟩
    obtain ⟨inner, hinner⟩ := haccepted.inner_read
    have htexts := haccepted.texts_given
    unfold validate_body_record
    rw [except.check_bind_eq_ok]
    refine ⟨(reject_authority_eq_ok_iff _ _).mpr haccepted.authority_free, ?_⟩
    rw [haccepted.family_read]
    refine except.check_bind_eq_ok.mpr ⟨haccepted.event_type_read, ?_⟩
    refine except.bind_eq_ok.mpr ⟨payload, mapping_of_eq_ok_iff.mpr haccepted.payload_read, ?_⟩
    refine except.check_bind_eq_ok.mpr ⟨except.forM_eq_ok.mpr fun key hkey => ?_, ?_⟩
    · exact required_text_eq_ok_iff.mpr (htexts key (List.mem_append_left _ hkey))
    refine except.check_bind_eq_ok.mpr ⟨check_timestamp_eq_ok_iff.mpr ?_, ?_⟩
    · exact ⟨haccepted.timestamp_is_number, timestamp, haccepted.timestamp_read, haccepted.timestamp_not_negative⟩
    refine except.check_bind_eq_ok.mpr ⟨except.forM_eq_ok.mpr fun key hkey => ?_, ?_⟩
    · exact required_text_eq_ok_iff.mpr (htexts key (List.mem_append_right _ hkey))
    · exact except.bind_eq_ok.mpr ⟨inner, mapping_of_eq_ok_iff.mpr hinner, rfl⟩

/-- A record that passed the checks. -/
structure BodyRecord where
  document : Json
  accepted : validate_body_record document = .ok document

namespace BodyRecord

/-- The entries of a mapping; nothing of another value. -/
def entries_of : Json → List (String × Json)
  | .object entries => entries
  | _ => []

def entries (record : BodyRecord) : List (String × Json) := entries_of record.document

def payload (record : BodyRecord) : List (String × Json) :=
  entries_of ((entry_of record.entries "payload").getD .null)

/-- The family as the checks read it. -/
def family (record : BodyRecord) : Family := (family_of (entry_of record.entries "family")).getD .health

def module_id (record : BodyRecord) : String :=
  match entry_of record.payload "module_id" with
  | some (.text module_id) => module_id
  | _ => ""

/-- `float(payload["timestamp"])`. -/
def timestamp (record : BodyRecord) : JsonFloat :=
  match float_of ((entry_of record.payload "timestamp").getD .null) with
  | .ok value => value
  | .error _ => .nan

/-- The readings of a record are what the checks established. -/
theorem is_accepted (record : BodyRecord) :
    Accepted record.entries record.payload record.family record.timestamp := by
  obtain ⟨_, entries, payload, family, timestamp, hdocument, haccepted⟩ :=
    validate_body_record_eq_ok_iff.mp record.accepted
  have hentries : record.entries = entries := by rw [BodyRecord.entries, hdocument, entries_of]
  have hpayload : record.payload = payload := by
    rw [BodyRecord.payload, hentries, haccepted.payload_read, Option.getD_some, entries_of]
  have hfamily : record.family = family := by rw [BodyRecord.family, hentries, haccepted.family_read, Option.getD_some]
  have htimestamp : record.timestamp = timestamp := by
    rw [BodyRecord.timestamp, hpayload, haccepted.timestamp_read]
  rw [hentries, hpayload, hfamily, htimestamp]
  exact haccepted

theorem document_eq (record : BodyRecord) : record.document = .object record.entries := by
  obtain ⟨_, entries, _, _, _, hdocument, _⟩ := validate_body_record_eq_ok_iff.mp record.accepted
  rw [BodyRecord.entries, hdocument, entries_of]

end BodyRecord

/-- `validate_body_record` with the proof that goes with what it returns. -/
def validated (record : Json) : Except Error BodyRecord :=
  match hvalid : validate_body_record record with
  | .ok _ => .ok ⟨record, by rw [hvalid, (validate_body_record_eq_ok_iff.mp hvalid).1]⟩
  | .error error => .error error

theorem validated_eq_ok_iff {record : Json} {body : BodyRecord} : validated record = .ok body ↔ body.document = record := by
  unfold validated
  split
  case h_1 result hvalid =>
    constructor
    · rintro ⟨⟩
      rfl
    · rintro rfl
      rfl
  case h_2 error hvalid =>
    refine iff_of_false (fun hok => nomatch hok) fun hdocument => ?_
    rw [← hdocument, body.accepted] at hvalid
    cases hvalid

@[simp] theorem validated_document (record : BodyRecord) : validated record.document = .ok record :=
  validated_eq_ok_iff.mpr rfl

end

end velvet.body_state_bridge
