import VelvetRuntime.SensorLan.Replay

open python python.num python.json python.except

namespace velvet.sensor_lan_ingress

open Program SensorLanIngress

def recursion_error : Error := ⟨.RecursionError, "maximum recursion depth exceeded"⟩

/-- What a message says of itself up to its sequence, with the key of its node. -/
structure ClaimedFields where
  node_id : String
  session_id : String
  message_id : String
  event_type : String
  key : ByteArray
  sequence : Int

/-- The fields that are looked at after those. -/
structure EvidenceFields where
  sent_at : JsonFloat
  payload : List (String × Json)
  signature : String

/-- The checks of a decoded message up to its schema. -/
def contract_message : Json → Except Error (List (String × Json))
  | .object message =>
    if message.any (fun entry => entry.1 ∉ REQUIRED_FIELDS) ∨
        REQUIRED_FIELDS.any (fun name => name ∉ message.map Prod.fst) then
      .error (admission_error "LAN sensor message fields do not match contract")
    else if !((entry_of message "schema").getD .null).is_text LAN_SENSOR_SCHEMA then
      .error (admission_error "unsupported LAN sensor schema")
    else .ok message
  | _ => .error (admission_error "LAN sensor message must be a JSON object")

def evidence_fields (message : List (String × Json)) : Except Error EvidenceFields := do
  let sent_at ← sent_at_of (admission_error "sent_at must be numeric")
    (admission_error "sent_at cannot be negative") (entry_of message "sent_at")
  match entry_of message "payload" with
  | some (.object payload) => do
    let signature ← signature_of (entry_of message "signature")
    .ok { sent_at, payload, signature }
  | _ => .error (admission_error "payload must be a JSON object")

variable (platform : Platform) (limits : Limits)

/-- `_canonical_json` on an interpreter that does not nest without end. -/
def canonical_json_within (value : List (String × Json)) : Except Error ByteArray :=
  match dumps_within limits platform.floats false (.object value) with
  | .error .too_deep => .error recursion_error
  | .error .invalid | .error .too_many_digits =>
    .error (value_error "LAN sensor message must contain canonical JSON values")
  | .ok text => .ok text.toUTF8

namespace SensorLanIngress

def message_text (self : SensorLanIngress) (raw_message : ByteArray) : Except Error String :=
  if raw_message.isEmpty then .error (admission_error "raw_message must not be empty")
  else if self.max_message_bytes < raw_message.size then
    .error (admission_error "LAN sensor message exceeds size limit")
  else
    match String.fromUTF8? raw_message with
    | none => .error (admission_error "LAN sensor message must be UTF-8")
    | some text => .ok text

/-- `admit` up to the check of the schema; a `RecursionError` of `json.loads` is not caught. -/
def decode_within (self : SensorLanIngress) (raw_message : ByteArray) : Except Error (List (String × Json)) := do
  let text ← self.message_text raw_message
  match loads_within limits (reader platform) text with
  | .error .too_deep => .error recursion_error
  | .error .invalid | .error .too_many_digits => .error (admission_error "LAN sensor message must be valid JSON")
  | .ok value => contract_message value

def claimed_fields (self : SensorLanIngress) (message : List (String × Json)) : Except Error ClaimedFields := do
  let node_id ← normalized_text "node_id" (entry_of message "node_id")
  let session_id ← normalized_text "session_id" (entry_of message "session_id")
  let message_id ← normalized_text "message_id" (entry_of message "message_id")
  let event_type ← normalized_text "event_type" (entry_of message "event_type")
  if event_type ∉ LAN_SENSOR_EVENT_TYPES then
    .error (admission_error "event_type is not admitted by sensor LAN ingress")
  else
    match self.node_keys.get? node_id with
    | none => .error (admission_error "unknown LAN sensor node")
    | some key => do
      let sequence ← sequence_of (admission_error "sequence must be a non-negative integer")
        (entry_of message "sequence")
      .ok { node_id, session_id, message_id, event_type, key, sequence }

/-- `admit` from the check of the schema up to the check of the signature. -/
def verify_within (self : SensorLanIngress) (message : List (String × Json)) : Except Error SensorLanAdmission := do
  let claimed ← self.claimed_fields message
  let evidence ← evidence_fields message
  let body ← canonical_json_within platform limits (unsigned message)
  if evidence.signature.toList.map Char.toLower ≠ bytes.hex (platform.hmac_sha256 claimed.key body).toList then
    .error (admission_error "LAN sensor message signature is invalid")
  else .ok {
    node_id := claimed.node_id
    session_id := claimed.session_id
    message_id := claimed.message_id
    sequence := claimed.sequence
    sent_at := evidence.sent_at
    event_type := claimed.event_type
    payload := evidence.payload }

def check_sequence (self : SensorLanIngress) (admission : SensorLanAdmission) : Except Error Unit :=
  match self.last_sequence.get? (admission.node_id, admission.session_id) with
  | none =>
    if self.max_sessions ≤ self.tracked_session_count then
      .error (admission_error "LAN sensor session table is full")
    else .ok ()
  | some previous =>
    if admission.sequence ≤ previous then
      .error (admission_error "LAN sensor message is replayed or out of order")
    else .ok ()

/-- Every check of `admit`. -/
def checked_within (self : SensorLanIngress) (raw_message : ByteArray) : Except Error SensorLanAdmission := do
  let message ← self.decode_within platform limits raw_message
  let admission ← self.verify_within platform limits message
  self.check_sequence admission
  .ok admission

/-- `admit`. -/
def admit_within (raw_message : ByteArray) : Program Error SensorLanIngress SensorLanAdmission := do
  let self ← get
  let admission ← of_except (self.checked_within platform limits raw_message)
  set { self with last_sequence :=
    self.last_sequence.set (admission.node_id, admission.session_id) admission.sequence }
  return admission

end SensorLanIngress

variable {platform limits} {self : SensorLanIngress} {raw_message : ByteArray} {message : List (String × Json)}
  {admission : SensorLanAdmission}

theorem canonical_json_of_within {value : List (String × Json)} {body : ByteArray}
    (hbody : canonical_json_within platform limits value = .ok body) : canonical_json platform value = .ok body := by
  unfold canonical_json_within at hbody
  split at hbody
  · cases hbody
  · cases hbody
  · cases hbody
  · rename_i text hdumps
    cases hbody
    unfold canonical_json
    rw [(dumps_within_eq_ok.mp hdumps).1]

/-- What an interpreter decodes is what is decoded without limits. -/
theorem decode_message_of_within (hdecode : self.decode_within platform limits raw_message = .ok message) :
    self.decode_message platform raw_message = .ok message := by
  obtain ⟨text, htext, hdecode⟩ := bind_eq_ok.mp hdecode
  split at hdecode
  · cases hdecode
  · cases hdecode
  · cases hdecode
  rename_i value hloads
  have hloads := loads_of_loads_within hloads
  unfold message_text at htext
  unfold decode_message
  split at htext
  · cases htext
  rename_i hempty
  split at htext
  · cases htext
  rename_i hsize
  rw [if_neg hempty, if_neg hsize]
  split at htext
  · cases htext
  rename_i hutf8
  cases htext
  simp only [hutf8, hloads]
  cases value with
  | object entries => exact hdecode
  | null | bool _ | int _ | float _ | text _ | list _ => exact hdecode

/-- What an interpreter verifies is what is verified without limits. -/
theorem verify_message_of_within (hverify : self.verify_within platform limits message = .ok admission) :
    self.verify_message platform message = .ok admission := by
  obtain ⟨claimed, hclaimed, hverify⟩ := bind_eq_ok.mp hverify
  obtain ⟨evidence, hevidence, hverify⟩ := bind_eq_ok.mp hverify
  obtain ⟨body, hbody, hverify⟩ := bind_eq_ok.mp hverify
  obtain ⟨hlower, hadmission⟩ := guard_eq_ok.mp hverify
  obtain ⟨node_id, hnode, hclaimed⟩ := bind_eq_ok.mp hclaimed
  obtain ⟨session_id, hsession, hclaimed⟩ := bind_eq_ok.mp hclaimed
  obtain ⟨message_id, hid, hclaimed⟩ := bind_eq_ok.mp hclaimed
  obtain ⟨event_type, hevent, hclaimed⟩ := bind_eq_ok.mp hclaimed
  obtain ⟨hknown, hclaimed⟩ := guard_eq_ok.mp hclaimed
  split at hclaimed
  · cases hclaimed
  rename_i key hkey
  obtain ⟨sequence, hsequence, hclaimed⟩ := bind_eq_ok.mp hclaimed
  cases hclaimed
  obtain ⟨sent_at, hsent, hevidence⟩ := bind_eq_ok.mp hevidence
  split at hevidence
  swap
  · cases hevidence
  rename_i payload hpayload
  obtain ⟨signature, hsignature, hevidence⟩ := bind_eq_ok.mp hevidence
  cases hevidence
  cases hadmission
  exact verify_message_eq_ok.mpr ⟨key, body, signature, {
    node_id := normalized_text_eq_ok.mp hnode
    session_id := normalized_text_eq_ok.mp hsession
    message_id := normalized_text_eq_ok.mp hid
    event_type := normalized_text_eq_ok.mp hevent
    event_type_known := not_not.mp hknown
    key_of_node := hkey
    sequence := sequence_of_eq_ok.mp hsequence
    sent_at := sent_at_of_eq_ok.mp hsent
    payload := hpayload
    signature_field := (signature_of_eq_ok.mp hsignature).1
    body_canonical := canonical_json_of_within hbody
    signature_lower := not_not.mp hlower }⟩

theorem fresh_of_check_sequence (hcheck : self.check_sequence admission = .ok ()) : Fresh self admission := by
  unfold check_sequence at hcheck
  unfold Fresh
  cases hprevious : self.last_sequence.get? (admission.node_id, admission.session_id) with
  | none =>
    rw [hprevious] at hcheck
    exact not_le.mp (guard_eq_ok.mp hcheck).1
  | some previous =>
    rw [hprevious] at hcheck
    exact not_le.mp (guard_eq_ok.mp hcheck).1

namespace SensorLanIngress

theorem run_admit_within (self : SensorLanIngress) (raw_message : ByteArray) :
    (admit_within platform limits raw_message).run self =
      match self.checked_within platform limits raw_message with
      | .error error => .error error self
      | .ok admission => .ok admission (self.record admission) := by
  change (of_except (self.checked_within platform limits raw_message) >>= fun admission => _ :
    Program Error SensorLanIngress SensorLanAdmission).run self = _
  rw [run_bind]
  cases self.checked_within platform limits raw_message with
  | error error => rfl
  | ok admission => rfl

/-- What an interpreter admits is what is admitted without limits, and leaves the same table. -/
theorem admits_of_checked_within (hchecked : self.checked_within platform limits raw_message = .ok admission) :
    Admits platform self raw_message (.ok admission) (self.record admission) := by
  obtain ⟨message, hdecode, hchecked⟩ := bind_eq_ok.mp hchecked
  obtain ⟨found, hverify, hchecked⟩ := bind_eq_ok.mp hchecked
  obtain ⟨hsequence, hsame⟩ := check_bind_eq_ok.mp hchecked
  cases hsame
  exact .admitted (decode_message_of_within hdecode) (verify_message_of_within hverify)
    (fresh_of_check_sequence hsequence)

end SensorLanIngress

section raises

variable {raised : Error → Prop}

/-- The interpreter reads the text as a message with the fields of the contract. -/
def Reads (platform : Platform) (limits : Limits) (text : String) (message : List (String × Json)) : Prop :=
  ∃ value, loads_within limits (reader platform) text = .ok value ∧ contract_message value = .ok message

/-- The text keeps within what the interpreter takes: it does not nest too deep to be read, the time of a message from a
known node fits a float, and what is signed does not nest too deep to be written. -/
structure WithinLimits (platform : Platform) (limits : Limits) (ingress : SensorLanIngress) (text : String) : Prop where
  shallow : loads_within limits (reader platform) text ≠ .error .too_deep
  sized : ∀ message claimed value, Reads platform limits text message → ingress.claimed_fields message = .ok claimed →
    entry_of message "sent_at" = some (.int value) → float_of_int value ≠ none
  signable : ∀ message claimed evidence, Reads platform limits text message →
    ingress.claimed_fields message = .ok claimed → evidence_fields message = .ok evidence →
    dumps_fault (.object (unsigned message)) limits.encode_depth ≠ some .too_deep

theorem raises_only_normalized_text (hvalue : ∀ message, raised (value_error message)) (name : String)
    (value : Option Json) : RaisesOnly raised (normalized_text name value) := by
  unfold normalized_text
  split
  · simp [hvalue]
  · simp [hvalue]

theorem raises_only_sequence_of {error : Error} (herror : raised error) (value : Option Json) :
    RaisesOnly raised (sequence_of error value) := by
  unfold sequence_of
  split
  · simp [herror]
  · simp [herror]

section

variable (hadmission : ∀ message, raised (admission_error message))

include hadmission

theorem raises_only_contract_message (value : Json) :
    RaisesOnly raised (contract_message value) := by
  unfold contract_message
  split
  · simp [hadmission]
  · simp [hadmission]

theorem raises_only_message_text :
    RaisesOnly raised (self.message_text raw_message) := by
  unfold message_text
  split
  · simp [hadmission]
  split
  · simp [hadmission]
  split
  · simp [hadmission]
  · simp

theorem raises_only_claimed_fields
    (hvalue : ∀ message, raised (value_error message)) : RaisesOnly raised (self.claimed_fields message) := by
  unfold claimed_fields
  simp only [raises_only_bind, raises_only_normalized_text hvalue, true_and, raises_only_ite, raises_only_error,
    hadmission, implies_true]
  intro node_id _ _ _ _ _ _ _ _
  cases self.node_keys.get? node_id with
  | none => exact raises_only_error.mpr (hadmission _)
  | some key => simp [raises_only_sequence_of (hadmission _)]

end

/-- Only a time that is too large for a float is not refused as a bad time. -/
theorem raises_only_sent_at_of_iff {not_numeric negative : Error} (hnumeric : raised not_numeric)
    (hnegative : raised negative) (hoverflow : ¬raised ⟨.OverflowError, "int too large to convert to float"⟩)
    (field : Option Json) :
    RaisesOnly raised (sent_at_of not_numeric negative field) ↔
      ∀ value, field = some (.int value) → float_of_int value ≠ none := by
  unfold sent_at_of
  split
  · simp [hnegative]
  · rename_i value
    cases hfloat : float_of_int value with
    | none => simp [hoverflow, hfloat]
    | some q => simp [hnegative, hfloat]
  · rename_i hint
    simp only [raises_only_error, hnumeric, true_iff]
    exact fun value hvalue => absurd hvalue (hint value)

theorem raises_only_signature_of (hadmission : ∀ message, raised (admission_error message)) (field : Option Json) :
    RaisesOnly raised (signature_of field) := by
  unfold signature_of
  split
  · simp [hadmission]
  · simp [hadmission]

theorem raises_only_evidence_fields_iff (hadmission : ∀ message, raised (admission_error message))
    (hoverflow : ¬raised ⟨.OverflowError, "int too large to convert to float"⟩) :
    RaisesOnly raised (evidence_fields message) ↔
      ∀ value, entry_of message "sent_at" = some (.int value) → float_of_int value ≠ none := by
  unfold evidence_fields
  rw [raises_only_bind, raises_only_sent_at_of_iff (hadmission _) (hadmission _) hoverflow]
  refine and_iff_left fun sent_at _ => ?_
  split
  · simp [raises_only_signature_of hadmission]
  · exact raises_only_error.mpr (hadmission _)

theorem raises_only_canonical_json_iff (hvalue : ∀ message, raised (value_error message))
    (hrecursion : ¬raised recursion_error) (value : List (String × Json)) :
    RaisesOnly raised (canonical_json_within platform limits value) ↔
      dumps_fault (.object value) limits.encode_depth ≠ some .too_deep := by
  unfold canonical_json_within dumps_within
  cases dumps_fault (.object value) limits.encode_depth with
  | none => simp
  | some fault => cases fault with
    | invalid | too_many_digits => simp [hvalue]
    | too_deep => simp [hrecursion]

theorem raises_only_check_sequence (hadmission : ∀ message, raised (admission_error message)) :
    RaisesOnly raised (self.check_sequence admission) := by
  unfold check_sequence
  split
  · simp [hadmission]
  · simp [hadmission]

theorem raises_only_decode_within_iff (hadmission : ∀ message, raised (admission_error message))
    (hrecursion : ¬raised recursion_error) :
    RaisesOnly raised (self.decode_within platform limits raw_message) ↔
      ∀ text, self.message_text raw_message = .ok text →
        loads_within limits (reader platform) text ≠ .error .too_deep := by
  unfold decode_within
  rw [raises_only_bind, and_iff_right (raises_only_message_text hadmission)]
  refine forall₂_congr fun text _ => ?_
  cases loads_within limits (reader platform) text with
  | ok value => simp [raises_only_contract_message hadmission]
  | error fault => cases fault with
    | invalid | too_many_digits => simp [hadmission]
    | too_deep => simp [hrecursion]

section

variable (hadmission : ∀ message, raised (admission_error message)) (hvalue : ∀ message, raised (value_error message))
variable (hrecursion : ¬raised recursion_error)
variable (hoverflow : ¬raised ⟨.OverflowError, "int too large to convert to float"⟩)

include hadmission hvalue hrecursion hoverflow

theorem raises_only_verify_within_iff :
    RaisesOnly raised (self.verify_within platform limits message) ↔
      ∀ claimed, self.claimed_fields message = .ok claimed →
        (∀ value, entry_of message "sent_at" = some (.int value) → float_of_int value ≠ none) ∧
        ∀ evidence, evidence_fields message = .ok evidence →
          dumps_fault (.object (unsigned message)) limits.encode_depth ≠ some .too_deep := by
  unfold verify_within
  rw [raises_only_bind, and_iff_right (raises_only_claimed_fields hadmission hvalue)]
  refine forall₂_congr fun claimed _ => ?_
  rw [raises_only_bind, raises_only_evidence_fields_iff hadmission hoverflow]
  refine and_congr_right fun _ => forall₂_congr fun evidence _ => ?_
  rw [raises_only_bind, raises_only_canonical_json_iff hvalue hrecursion]
  exact and_iff_left fun body _ => by simp [hadmission]

/-- The checks of a message raise nothing but refusals exactly when its text keeps within the limits. -/
theorem raises_only_checked_within_iff :
    RaisesOnly raised (self.checked_within platform limits raw_message) ↔
      ∀ text, self.message_text raw_message = .ok text → WithinLimits platform limits self text := by
  have hdecoded (message : List (String × Json)) : self.decode_within platform limits raw_message = .ok message ↔
      ∃ text, self.message_text raw_message = .ok text ∧ Reads platform limits text message := by
    refine bind_eq_ok.trans (exists_congr fun text => and_congr_right fun _ => ?_)
    unfold Reads
    cases loads_within limits (reader platform) text with
    | ok value => simp
    | error fault => cases fault <;> simp
  unfold checked_within
  rw [raises_only_bind, raises_only_decode_within_iff hadmission hrecursion]
  have hrest (message : List (String × Json)) : RaisesOnly raised (do
      let admission ← self.verify_within platform limits message
      self.check_sequence admission
      .ok admission) ↔ RaisesOnly raised (self.verify_within platform limits message) := by
    rw [raises_only_bind]
    exact and_iff_left fun admission _ => by simp [raises_only_check_sequence hadmission]
  simp only [hrest, raises_only_verify_within_iff hadmission hvalue hrecursion hoverflow, hdecoded]
  constructor
  · rintro ⟨hshallow, hverified⟩ text htext
    refine ⟨hshallow text htext, ?_, ?_⟩
    · exact fun message claimed value hreads hclaimed => (hverified message ⟨text, htext, hreads⟩ claimed hclaimed).1 value
    · exact fun message claimed evidence hreads hclaimed =>
        (hverified message ⟨text, htext, hreads⟩ claimed hclaimed).2 evidence
  · intro hwithin
    refine ⟨fun text htext => (hwithin text htext).shallow, ?_⟩
    rintro message ⟨text, htext, hreads⟩ claimed hclaimed
    exact ⟨fun value => (hwithin text htext).sized message claimed value hreads hclaimed,
      fun evidence => (hwithin text htext).signable message claimed evidence hreads hclaimed⟩

end

end raises

end velvet.sensor_lan_ingress
