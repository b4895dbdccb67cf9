import VelvetRuntime.Python.JsonCanonical
import VelvetRuntime.SensorLan.Replay

open python python.num python.json python.except

namespace velvet.sensor_lan_ingress

open Program

theorem reader_builds (platform : Platform) : (reader platform).Builds := fun _ hnodup => dict_of_pairs_of_nodup hnodup

/-- The message with its signature, as it is sent. -/
def signed_fields (fields : SensorLanAdmission) (signature : List Char) : List (String × Json) :=
  unsigned_fields fields ++ [("signature", .text (String.ofList signature))]

/-- The message as it is read. -/
def received_fields (fields : SensorLanAdmission) (signature : List Char) : List (String × Json) :=
  sort_keys (sorted_entries (signed_fields fields signature))

variable (fields : SensorLanAdmission) (signature : List Char)

theorem keys_signed_fields : (signed_fields fields signature).map Prod.fst = REQUIRED_FIELDS := rfl

theorem nodup_sorted_fields : ((sorted_entries (signed_fields fields signature)).map Prod.fst).Nodup :=
  show REQUIRED_FIELDS.Nodup by decide

theorem nodup_received_fields : ((received_fields fields signature).map Prod.fst).Nodup :=
  ((sort_keys_perm _).map Prod.fst).nodup_iff.mpr (nodup_sorted_fields fields signature)

theorem mem_keys_received_fields (name : String) :
    name ∈ (received_fields fields signature).map Prod.fst ↔ name ∈ REQUIRED_FIELDS :=
  mem_keys_sorted_object (signed_fields fields signature) name

theorem entry_of_received_fields (name : String) :
    entry_of (received_fields fields signature) name =
      (entry_of (signed_fields fields signature) name).map sorted := by
  have hnodup : ((signed_fields fields signature).map Prod.fst).Nodup := by
    rw [keys_signed_fields]
    decide
  exact entry_of_sorted_object hnodup name

/-- The ingress signs the same bytes as the sender. -/
theorem canonical_json_received_fields (platform : Platform) (fields : SensorLanAdmission) (signature : List Char) :
    canonical_json platform (unsigned (received_fields fields signature)) =
      canonical_json platform (unsigned_fields fields) := by
  have hunsigned : (unsigned (received_fields fields signature)).Perm (sorted_entries (unsigned_fields fields)) :=
    (sort_keys_perm (sorted_entries (signed_fields fields signature))).filter (fun entry : String × Json => entry.1 ≠ "signature")
  have hnodup : ((unsigned (received_fields fields signature)).map Prod.fst).Nodup :=
    (nodup_received_fields fields signature).sublist (List.filter_sublist.map Prod.fst)
  have hsorted : dumps platform.floats false (.object (unsigned (received_fields fields signature))) =
      dumps platform.floats false (sorted (.object (unsigned_fields fields))) :=
    dumps_object_of_perm _ _ hnodup (hunsigned.trans (sort_keys_perm _).symm)
  unfold canonical_json
  rw [hsorted, dumps_sorted]

/-- The field is the text of the value, trimmed. -/
def TrimmedText (value : Json) (field : String) : Prop :=
  ∃ text, value = .text text ∧ ¬Blank text ∧ field = stripped text

/-- What the checks of the sender establish of the fields that it sends. -/
structure Normalized (message : SensorLanMessage) (fields : SensorLanAdmission) : Prop where
  node_id : TrimmedText message.node_id fields.node_id
  session_id : TrimmedText message.session_id fields.session_id
  message_id : TrimmedText message.message_id fields.message_id
  event_type : TrimmedText message.event_type fields.event_type
  event_type_known : fields.event_type ∈ LAN_SENSOR_EVENT_TYPES
  sequence : message.sequence = .int fields.sequence ∧ 0 ≤ fields.sequence
  sent_at : as_float message.sent_at = some fields.sent_at ∧ fields.sent_at.lt 0 = false
  payload : message.payload = .object fields.payload
  key : 32 ≤ message.key.size

theorem trimmedText_of_normalized_text {name field : String} {value : Json}
    (hfield : normalized_text name (some value) = .ok field) : TrimmedText value field := by
  obtain ⟨text, htext, hblank, hfield⟩ := normalized_text_eq_ok.mp hfield
  exact ⟨text, Option.some.inj htext, hblank, hfield⟩

theorem normalized_fields_eq_ok {message : SensorLanMessage} {fields : SensorLanAdmission}
    (hfields : message.normalized_fields = .ok fields) : Normalized message fields := by
  obtain ⟨node_id, hnode, hfields⟩ := bind_eq_ok.mp hfields
  obtain ⟨session_id, hsession, hfields⟩ := bind_eq_ok.mp hfields
  obtain ⟨message_id, hid, hfields⟩ := bind_eq_ok.mp hfields
  obtain ⟨event_type, hevent, hfields⟩ := bind_eq_ok.mp hfields
  split at hfields
  · cases hfields
  rename_i hknown
  obtain ⟨sequence, hsequence, hfields⟩ := bind_eq_ok.mp hfields
  obtain ⟨sent_at, hsent, hfields⟩ := bind_eq_ok.mp hfields
  obtain ⟨hsequence, hnonneg⟩ := sequence_of_eq_ok.mp hsequence
  split at hfields
  · rename_i payload hpayload
    split at hfields
    · cases hfields
    rename_i hkey
    cases hfields
    exact {
      node_id := trimmedText_of_normalized_text hnode
      session_id := trimmedText_of_normalized_text hsession
      message_id := trimmedText_of_normalized_text hid
      event_type := trimmedText_of_normalized_text hevent
      event_type_known := not_not.mp hknown
      sequence := ⟨Option.some.inj hsequence, hnonneg⟩
      sent_at := sent_at_of_eq_ok.mp hsent
      payload := hpayload
      key := not_lt.mp hkey }
  · cases hfields

theorem TrimmedText.trimmed {value : Json} {field : String} (htrimmed : TrimmedText value field)
    {message : List (String × Json)} {name : String} (hentry : entry_of message name = some (.text field)) :
    Trimmed message name field := by
  obtain ⟨text, _, hblank, rfl⟩ := htrimmed
  exact ⟨stripped text, hentry, fun hempty => hblank ((blank_stripped_iff text).mp hempty), (stripped_stripped text).symm⟩

/-- The fields as they are admitted: the payload has its entries in the order of their keys. -/
def admitted_fields (fields : SensorLanAdmission) : SensorLanAdmission :=
  { fields with payload := sort_keys (sorted_entries fields.payload) }

variable {platform : Platform} {ingress : SensorLanIngress} {message : SensorLanMessage} {fields : SensorLanAdmission}

theorem verified_received_fields (hnormalized : Normalized message fields)
    (hkey : ingress.node_keys.get? fields.node_id = some message.key) {body : ByteArray}
    (hbody : canonical_json platform (unsigned_fields fields) = .ok body) :
    Verified platform ingress
      (received_fields fields (bytes.hex (platform.hmac_sha256 message.key body).toList)) (admitted_fields fields)
      message.key body (String.ofList (bytes.hex (platform.hmac_sha256 message.key body).toList)) := by
  have hentry := entry_of_received_fields fields (bytes.hex (platform.hmac_sha256 message.key body).toList)
  refine {
    node_id := hnormalized.node_id.trimmed (hentry "node_id")
    session_id := hnormalized.session_id.trimmed (hentry "session_id")
    message_id := hnormalized.message_id.trimmed (hentry "message_id")
    event_type := hnormalized.event_type.trimmed (hentry "event_type")
    event_type_known := hnormalized.event_type_known
    key_of_node := hkey
    sequence := ⟨hentry "sequence", hnormalized.sequence.2⟩
    sent_at := ⟨by rw [hentry "sent_at"]; rfl, hnormalized.sent_at.2⟩
    payload := hentry "payload"
    signature_field := hentry "signature"
    body_canonical := by rw [canonical_json_received_fields, hbody]
    signature_lower := by rw [String.toList_ofList, bytes.lower_hex] }

theorem canonical_json_eq_ok {value : List (String × Json)} {body : ByteArray} :
    canonical_json platform value = .ok body ↔
      ∃ text, dumps platform.floats false (.object value) = some text ∧ body = text.toUTF8 := by
  unfold canonical_json
  cases dumps platform.floats false (.object value) with
  | none => exact ⟨fun herror => (by cases herror), fun hnone => (by cases hnone.choose_spec.1)⟩
  | some text =>
    constructor
    · intro hbody
      exact ⟨text, rfl, (Except.ok.inj hbody).symm⟩
    · rintro ⟨_, ⟨⟩, rfl⟩
      rfl

theorem distinct_signed_fields (hdistinct : Distinct (.object fields.payload)) (signature : List Char) :
    Distinct (.object (signed_fields fields signature)) :=
  ⟨(by decide : REQUIRED_FIELDS.Nodup), trivial, trivial, trivial, trivial, trivial, trivial, trivial, hdistinct, trivial,
    trivial⟩

theorem toUTF8_isEmpty {c : Char} {tail : List Char} : (String.ofList (c :: tail)).toUTF8.isEmpty = false := by
  refine decide_eq_false ?_
  change (String.ofList (c :: tail)).utf8ByteSize ≠ 0
  rw [Ne, String.utf8ByteSize_eq_zero_iff, ← String.toList_inj, String.toList_ofList]
  exact List.cons_ne_nil c tail

variable {raw_message : ByteArray}

/-- The ingress reads the message that was signed, with its entries in the order of their keys. -/
theorem decoded_received_fields (hdistinct : Distinct (.object fields.payload))
    (hreads : ∀ q, JsonFloat.finite q ∈ fields.sent_at :: floats_in (.object fields.payload) → platform.floats.Reads q)
    {signature : List Char}
    (hraw : canonical_json platform (signed_fields fields signature) = .ok raw_message)
    (hbounded : raw_message.size ≤ ingress.max_message_bytes) :
    Decoded platform ingress raw_message (received_fields fields signature) := by
  obtain ⟨text, hdumps, rfl⟩ := canonical_json_eq_ok.mp hraw
  have hloads := loads_dumps false (reader_builds platform) (distinct_signed_fields hdistinct signature) (by
    intro q hq
    refine hreads q ?_
    change JsonFloat.finite q ∈ fields.sent_at :: (floats_in_entries fields.payload ++ []) at hq
    rwa [List.append_nil] at hq) hdumps (List.forall_mem_nil _)
  rw [String.ofList_nil, String.append_empty] at hloads
  refine {
    nonempty := ?_
    bounded := hbounded
    decoded := ⟨text, bytes.fromUTF8_toUTF8 text, hloads⟩
    fields := mem_keys_received_fields fields signature
    schema := entry_of_received_fields fields signature "schema" }
  obtain ⟨_, rfl⟩ := (dumps_eq_some_iff _ _).mp hdumps
  rw [encode_object]
  exact toUTF8_isEmpty

/-- Whatever `encode_sensor_lan_message` returns is admitted by an ingress that has the key, takes that many bytes
and finds the message fresh: with the normalised fields, and with the payload up to the order of its entries. -/
theorem admit_encode (hdistinct : Distinct message.payload) (hfields : message.normalized_fields = .ok fields)
    (hreads : ∀ q, JsonFloat.finite q ∈ fields.sent_at :: floats_in message.payload → platform.floats.Reads q) (hencode : encode_sensor_lan_message platform message = .ok raw_message)
    (hbounded : raw_message.size ≤ ingress.max_message_bytes)
    (hkey : ingress.node_keys.get? fields.node_id = some message.key) (hfresh : Fresh ingress fields) :
    (SensorLanIngress.admit_message platform raw_message).result ingress = .ok (admitted_fields fields) := by
  have hnormalized := normalized_fields_eq_ok hfields
  obtain ⟨found, hfound, hencode⟩ := bind_eq_ok.mp hencode
  cases hfields.symm.trans hfound
  obtain ⟨expected, hexpected, hencode⟩ := bind_eq_ok.mp hencode
  obtain ⟨body, hbody, rfl⟩ := signature_for_message_eq_ok.mp hexpected
  rw [hnormalized.payload] at hdistinct hreads
  have hunsigned : unsigned (unsigned_fields fields) = unsigned_fields fields := rfl
  rw [hunsigned] at hbody
  have hdecoded := decoded_received_fields hdistinct hreads hencode hbounded
  have hverified := verified_received_fields hnormalized hkey hbody
  exact SensorLanIngress.result_admit_message_eq_ok.mpr ⟨_, decode_message_eq_ok.mpr hdecoded,
    verify_message_eq_ok.mpr ⟨_, _, _, hverified⟩, hfresh⟩

end velvet.sensor_lan_ingress
