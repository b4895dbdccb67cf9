import VelvetRuntime.SensorLan.Ingress

open python python.num python.json python.except

namespace velvet.sensor_lan_ingress

open Program SensorLanIngress

/-- The field is the text of the message under the name, trimmed. -/
def Trimmed (message : List (String × Json)) (name field : String) : Prop :=
  ∃ text, entry_of message name = some (.text text) ∧ ¬Blank text ∧ field = stripped text

/-- The bytes are the JSON text of an object with the fields of the contract. -/
structure Decoded (platform : Platform) (ingress : SensorLanIngress) (raw_message : ByteArray)
    (message : List (String × Json)) : Prop where
  nonempty : raw_message.isEmpty = false
  bounded : raw_message.size ≤ ingress.max_message_bytes
  decoded : ∃ text, String.fromUTF8? raw_message = some text ∧ loads (reader platform) text = some (.object message)
  fields : ∀ name, name ∈ message.map Prod.fst ↔ name ∈ REQUIRED_FIELDS
  schema : entry_of message "schema" = some (.text LAN_SENSOR_SCHEMA)

/-- The object that an admission is computed from: its fields are the trimmed fields of the object, whose signature
is the HMAC of the canonical form of the others under the key of the node. -/
structure Verified (platform : Platform) (ingress : SensorLanIngress) (message : List (String × Json))
    (admission : SensorLanAdmission) (key body : ByteArray) (signature : String) : Prop where
  node_id : Trimmed message "node_id" admission.node_id
  session_id : Trimmed message "session_id" admission.session_id
  message_id : Trimmed message "message_id" admission.message_id
  event_type : Trimmed message "event_type" admission.event_type
  event_type_known : admission.event_type ∈ LAN_SENSOR_EVENT_TYPES
  key_of_node : ingress.node_keys.get? admission.node_id = some key
  sequence : entry_of message "sequence" = some (.int admission.sequence) ∧ 0 ≤ admission.sequence
  sent_at : (entry_of message "sent_at").bind as_float = some admission.sent_at ∧ admission.sent_at.lt 0 = false
  payload : entry_of message "payload" = some (.object admission.payload)
  signature_field : entry_of message "signature" = some (.text signature)
  body_canonical : canonical_json platform (unsigned message) = .ok body
  signature_lower : signature.toList.map Char.toLower = bytes.hex (platform.hmac_sha256 key body).toList

variable {signature : String}

/-- The digits of the signature are the bytes of the HMAC. -/
theorem Verified.signature_hmac {platform : Platform} {self : SensorLanIngress} {message : List (String × Json)}
    {admission : SensorLanAdmission} {key body : ByteArray}
    (hverified : Verified platform self message admission key body signature) :
    bytes.fromhex signature.toList = some (platform.hmac_sha256 key body).toList :=
  bytes.fromhex_of_lower_eq hverified.signature_lower

variable {value : Option Json}

theorem normalized_text_eq_ok {name field : String} :
    normalized_text name value = .ok field ↔
      ∃ text, value = some (.text text) ∧ ¬Blank text ∧ field = stripped text := by
  unfold normalized_text
  constructor
  · intro hfield
    split at hfield
    · rename_i text
      split at hfield
      · cases hfield
      · rename_i hblank
        cases hfield
        exact ⟨text, rfl, hblank, rfl⟩
    · cases hfield
  · rintro ⟨text, rfl, hblank, rfl⟩
    exact if_neg hblank

theorem sequence_of_eq_ok {error : Error} {sequence : Int} :
    sequence_of error value = .ok sequence ↔ value = some (.int sequence) ∧ 0 ≤ sequence := by
  unfold sequence_of
  constructor
  · intro hsequence
    split at hsequence
    · split at hsequence
      · cases hsequence
      · rename_i hneg
        cases hsequence
        exact ⟨rfl, not_lt.mp hneg⟩
    · cases hsequence
  · rintro ⟨rfl, hle⟩
    exact if_neg (not_lt.mpr hle)

theorem sent_at_of_eq_ok {not_numeric negative : Error} {sent_at : JsonFloat} :
    sent_at_of not_numeric negative value = .ok sent_at ↔
      value.bind as_float = some sent_at ∧ sent_at.lt 0 = false := by
  unfold sent_at_of
  split
  · rename_i found
    change _ ↔ some found = some sent_at ∧ _
    split
    · rename_i hlt
      refine ⟨fun herror => (by cases herror), ?_⟩
      rintro ⟨hfound, hle⟩
      cases hfound
      cases hlt.symm.trans hle
    · rename_i hle
      rw [Option.some.injEq, Except.ok.injEq]
      refine ⟨?_, And.left⟩
      rintro rfl
      exact ⟨rfl, Bool.not_eq_true _ ▸ hle⟩
  · rename_i found
    change _ ↔ (float_of_int found).map JsonFloat.finite = some sent_at ∧ _
    cases hfloat : float_of_int found with
    | none => exact ⟨fun herror => (by cases herror), fun hnone => (by cases hnone.1)⟩
    | some q =>
      change (if q < 0 then _ else _) = _ ↔ some (JsonFloat.finite q) = some sent_at ∧ _
      split
      · rename_i hlt
        refine ⟨fun herror => (by cases herror), ?_⟩
        rintro ⟨hfound, hle⟩
        cases hfound
        exact absurd hlt (of_decide_eq_false hle)
      · rename_i hle
        rw [Option.some.injEq, Except.ok.injEq]
        refine ⟨?_, And.left⟩
        rintro rfl
        exact ⟨rfl, decide_eq_false hle⟩
  · rename_i hfloat hint
    refine ⟨fun herror => (by cases herror), ?_⟩
    rintro ⟨hvalue, _⟩
    obtain ⟨found, rfl, hfound⟩ := Option.bind_eq_some_iff.mp hvalue
    unfold as_float at hfound
    split at hfound
    · exact absurd rfl (hfloat _)
    · exact absurd rfl (hint _)
    · cases hfound

theorem signature_of_eq_ok :
    signature_of value = .ok signature ↔
      value = some (.text signature) ∧ signature.length = 64 ∧ bytes.fromhex signature.toList ≠ none := by
  unfold signature_of
  constructor
  · intro hsignature
    split at hsignature
    · split at hsignature
      · cases hsignature
      · rename_i hlength
        split at hsignature
        · cases hsignature
        · rename_i hhex
          cases hsignature
          exact ⟨rfl, not_not.mp hlength, hhex⟩
    · cases hsignature
  · rintro ⟨rfl, hlength, hhex⟩
    dsimp only
    rw [if_neg (not_not.mpr hlength), if_neg hhex]

section platform

variable {platform : Platform} {self : SensorLanIngress}

variable {message : List (String × Json)}

theorem signature_for_message_eq_ok {key : ByteArray} {expected : List Char} :
    signature_for_message platform message key = .ok expected ↔
      ∃ body, canonical_json platform (unsigned message) = .ok body ∧
        expected = bytes.hex (platform.hmac_sha256 key body).toList := by
  unfold signature_for_message
  rw [bind_eq_ok]
  constructor
  · rintro ⟨body, hbody, hexpected⟩
    exact ⟨body, hbody, (Except.ok.inj hexpected).symm⟩
  · rintro ⟨body, hbody, rfl⟩
    exact ⟨body, hbody, rfl⟩

theorem fields_differ_iff (message : List (String × Json)) :
    (message.any (fun entry => entry.1 ∉ REQUIRED_FIELDS) ∨
      REQUIRED_FIELDS.any (fun name => name ∉ message.map Prod.fst)) ↔
      ¬∀ name, name ∈ message.map Prod.fst ↔ name ∈ REQUIRED_FIELDS := by
  rw [List.any_eq_true, List.any_eq_true]
  constructor
  · rintro (⟨entry, hentry, hunknown⟩ | ⟨name, hname, hmissing⟩) hall
    · exact of_decide_eq_true hunknown ((hall entry.1).mp (List.mem_map_of_mem hentry))
    · exact of_decide_eq_true hmissing ((hall name).mpr hname)
  · intro hnot
    by_contra hneither
    refine hnot (fun name => ⟨fun hname => ?_, fun hname => ?_⟩)
    · obtain ⟨entry, hentry, rfl⟩ := List.mem_map.mp hname
      by_contra hunknown
      exact hneither (.inl ⟨entry, hentry, decide_eq_true hunknown⟩)
    · by_contra hmissing
      exact hneither (.inr ⟨name, hname, decide_eq_true hmissing⟩)

variable {raw_message : ByteArray}

theorem decode_message_eq_ok :
    self.decode_message platform raw_message = .ok message ↔ Decoded platform self raw_message message := by
  unfold decode_message
  constructor
  · intro hmessage
    split at hmessage
    · cases hmessage
    rename_i hnonempty
    split at hmessage
    · cases hmessage
    rename_i hbounded
    split at hmessage
    · cases hmessage
    rename_i text htext
    split at hmessage
    · cases hmessage
    · rename_i found hloads
      split at hmessage
      · cases hmessage
      rename_i hnames
      split at hmessage
      · cases hmessage
      rename_i hschema
      cases hmessage
      refine ⟨Bool.not_eq_true _ ▸ hnonempty, not_lt.mp hbounded, ⟨text, htext, hloads⟩, ?_, ?_⟩
      · exact not_not.mp (fun hnot => hnames ((fields_differ_iff message).mpr hnot))
      · rw [Bool.not_eq_true, Bool.not_eq_false'] at hschema
        exact Json.is_text_getD.mp hschema
    · cases hmessage
  · rintro ⟨hnonempty, hbounded, ⟨text, htext, hloads⟩, hnames, hschema⟩
    rw [if_neg (by rw [hnonempty]; exact Bool.false_ne_true), if_neg (not_lt.mpr hbounded), htext]
    dsimp only
    rw [hloads]
    dsimp only
    rw [if_neg (fun hnot => (fields_differ_iff message).mp hnot hnames), if_neg]
    rw [Json.is_text_getD.mpr hschema]
    exact Bool.false_ne_true

variable {admission : SensorLanAdmission}

theorem verify_message_eq_ok :
    self.verify_message platform message = .ok admission ↔
      ∃ key body signature, Verified platform self message admission key body signature := by
  unfold verify_message
  constructor
  · intro hadmission
    obtain ⟨node_id, hnode, hadmission⟩ := bind_eq_ok.mp hadmission
    obtain ⟨session_id, hsession, hadmission⟩ := bind_eq_ok.mp hadmission
    obtain ⟨message_id, hid, hadmission⟩ := bind_eq_ok.mp hadmission
    obtain ⟨event_type, hevent, hadmission⟩ := bind_eq_ok.mp hadmission
    split at hadmission
    · cases hadmission
    rename_i hknown
    split at hadmission
    · cases hadmission
    rename_i key hkey
    obtain ⟨sequence, hsequence, hadmission⟩ := bind_eq_ok.mp hadmission
    obtain ⟨sent_at, hsent, hadmission⟩ := bind_eq_ok.mp hadmission
    split at hadmission
    · rename_i payload hpayload
      obtain ⟨signature, hsignature, hadmission⟩ := bind_eq_ok.mp hadmission
      obtain ⟨expected, hexpected, hadmission⟩ := bind_eq_ok.mp hadmission
      split at hadmission
      · cases hadmission
      rename_i hlower
      cases hadmission
      obtain ⟨body, hbody, rfl⟩ := signature_for_message_eq_ok.mp hexpected
      exact ⟨key, body, signature, {
        node_id := normalized_text_eq_ok.mp hnode
        session_id := normalized_text_eq_ok.mp hsession
        message_id := normalized_text_eq_ok.mp hid
        event_type := normalized_text_eq_ok.mp hevent
        event_type_known := not_not.mp hknown
        key_of_node := hkey
        sequence := sequence_of_eq_ok.mp hsequence
        sent_at := sent_at_of_eq_ok.mp hsent
        payload := hpayload
        signature_field := (signature_of_eq_ok.mp hsignature).1
        body_canonical := hbody
        signature_lower := not_not.mp hlower }⟩
    · cases hadmission
  · rintro ⟨key, body, signature, hverified⟩
    have hlength : signature.length = 64 := by
      have hdigits := congrArg List.length hverified.signature_lower
      rw [List.length_map, bytes.length_hex, Vector.length_toList] at hdigits
      exact hdigits
    have hsignature : signature_of (entry_of message "signature") = .ok signature :=
      signature_of_eq_ok.mpr ⟨hverified.signature_field, hlength, by rw [hverified.signature_hmac]; simp⟩
    rw [normalized_text_eq_ok.mpr hverified.node_id, normalized_text_eq_ok.mpr hverified.session_id,
      normalized_text_eq_ok.mpr hverified.message_id, normalized_text_eq_ok.mpr hverified.event_type]
    dsimp only [bind, Except.bind]
    rw [if_neg (not_not.mpr hverified.event_type_known), hverified.key_of_node]
    dsimp only
    rw [sequence_of_eq_ok.mpr hverified.sequence]
    dsimp only
    rw [sent_at_of_eq_ok.mpr hverified.sent_at]
    dsimp only
    rw [hverified.payload]
    dsimp only
    rw [hsignature]
    dsimp only
    rw [signature_for_message_eq_ok.mpr ⟨body, hverified.body_canonical, rfl⟩]
    dsimp only
    rw [if_neg (not_not.mpr hverified.signature_lower)]

/-- Nothing that late was admitted in the session; a session that is new finds room. -/
def Fresh (self : SensorLanIngress) (admission : SensorLanAdmission) : Prop :=
  match self.last_sequence.get? (admission.node_id, admission.session_id) with
  | none => self.tracked_session_count < self.max_sessions
  | some previous => previous < admission.sequence

namespace SensorLanIngress

/-- The table after an admission. -/
def record (self : SensorLanIngress) (admission : SensorLanAdmission) : SensorLanIngress :=
  { self with last_sequence :=
    self.last_sequence.set (admission.node_id, admission.session_id) admission.sequence }

/-- The ways that a call of `admit` can end, and the table that it leaves. -/
inductive Admits (platform : Platform) (before : SensorLanIngress) (raw_message : ByteArray) :
    Except Error SensorLanAdmission → SensorLanIngress → Prop where
  | admitted {message : List (String × Json)} {admission : SensorLanAdmission}
    (hdecode : before.decode_message platform raw_message = .ok message)
    (hverify : before.verify_message platform message = .ok admission) (hfresh : Fresh before admission) :
    Admits platform before raw_message (.ok admission) (before.record admission)
  | rejected {error : Error} (hrejected : ¬∃ message admission,
      before.decode_message platform raw_message = .ok message ∧
      before.verify_message platform message = .ok admission ∧ Fresh before admission) :
    Admits platform before raw_message (.error error) before

/-- `admit` from the check of the sequence number on. -/
theorem run_admit_message (self : SensorLanIngress) (raw_message : ByteArray) :
    (admit_message platform raw_message).run self =
      match self.decode_message platform raw_message with
      | .error error => .error error self
      | .ok message =>
        match self.verify_message platform message with
        | .error error => .error error self
        | .ok admission =>
          match self.last_sequence.get? (admission.node_id, admission.session_id) with
          | none =>
            if self.max_sessions ≤ self.tracked_session_count then
              .error (admission_error "LAN sensor session table is full") self
            else .ok admission (self.record admission)
          | some previous =>
            if admission.sequence ≤ previous then
              .error (admission_error "LAN sensor message is replayed or out of order") self
            else .ok admission (self.record admission) := by
  unfold admit_message
  rw [run_bind]
  dsimp only [get, getThe, MonadStateOf.get, EStateM.get, EStateM.run]
  change EStateM.run (of_except (self.decode_message platform raw_message) >>= fun message => _) self = _
  rw [run_bind]
  cases self.decode_message platform raw_message with
  | error error => rfl
  | ok message =>
    change EStateM.run (of_except (self.verify_message platform message) >>= fun admission => _) self = _
    rw [run_bind]
    dsimp only
    cases self.verify_message platform message with
    | error error => rfl
    | ok admission =>
      dsimp only [of_except, pure, EStateM.pure, EStateM.run]
      cases self.last_sequence.get? (admission.node_id, admission.session_id) with
      | none =>
        dsimp only
        split
        · rfl
        · rfl
      | some previous =>
        dsimp only
        split
        · rfl
        · rfl

theorem admits_message (platform : Platform) (self : SensorLanIngress) (raw_message : ByteArray) :
    Admits platform self raw_message ((admit_message platform raw_message).result self)
      ((admit_message platform raw_message).after self) := by
  unfold Program.result Program.after
  rw [run_admit_message]
  cases hdecode : self.decode_message platform raw_message with
  | error error => exact .rejected (by rintro ⟨_, _, hfound, _⟩; cases hdecode.symm.trans hfound)
  | ok message =>
    dsimp only
    cases hverify : self.verify_message platform message with
    | error error =>
      refine .rejected ?_
      rintro ⟨found, _, hfound, hadmission, _⟩
      cases hdecode.symm.trans hfound
      cases hverify.symm.trans hadmission
    | ok admission =>
      have hrejected : ¬Fresh self admission → ¬∃ message admission,
          self.decode_message platform raw_message = .ok message ∧
          self.verify_message platform message = .ok admission ∧ Fresh self admission := by
        rintro hstale ⟨found, other, hfound, hother, hfresh⟩
        cases hdecode.symm.trans hfound
        cases hverify.symm.trans hother
        exact hstale hfresh
      unfold Fresh at hrejected
      dsimp only
      cases hprevious : self.last_sequence.get? (admission.node_id, admission.session_id) with
      | none =>
        rw [hprevious] at hrejected
        dsimp only at hrejected ⊢
        by_cases hfull : self.max_sessions ≤ self.tracked_session_count
        · rw [if_pos hfull]
          exact .rejected (hrejected (not_lt.mpr hfull))
        · rw [if_neg hfull]
          exact .admitted hdecode hverify (by unfold Fresh; rw [hprevious]; exact not_le.mp hfull)
      | some previous =>
        rw [hprevious] at hrejected
        dsimp only at hrejected ⊢
        by_cases hreplayed : admission.sequence ≤ previous
        · rw [if_pos hreplayed]
          exact .rejected (hrejected (not_lt.mpr hreplayed))
        · rw [if_neg hreplayed]
          exact .admitted hdecode hverify (by unfold Fresh; rw [hprevious]; exact not_le.mp hreplayed)

/-- A message is admitted if and only if it decodes, verifies and is fresh. -/
theorem result_admit_message_eq_ok {self : SensorLanIngress} {raw_message : ByteArray} {admission : SensorLanAdmission} :
    (admit_message platform raw_message).result self = .ok admission ↔
      ∃ message, self.decode_message platform raw_message = .ok message ∧
        self.verify_message platform message = .ok admission ∧ Fresh self admission := by
  have hadmits := admits_message platform self raw_message
  generalize (admit_message platform raw_message).result self = result at hadmits ⊢
  generalize (admit_message platform raw_message).after self = after at hadmits
  constructor
  · rintro rfl
    cases hadmits with
    | admitted hdecode hverify hfresh => exact ⟨_, hdecode, hverify, hfresh⟩
  · rintro ⟨message, hdecode, hverify, hfresh⟩
    cases hadmits with
    | admitted hfound hother _ =>
      cases hdecode.symm.trans hfound
      cases hverify.symm.trans hother
      rfl
    | rejected hrejected => exact absurd ⟨message, admission, hdecode, hverify, hfresh⟩ hrejected

end SensorLanIngress

/-- One call of `admit`, with the ingress before and after it. -/
structure Call where
  raw_message : ByteArray
  before : SensorLanIngress
  outcome : Except Error SensorLanAdmission
  after : SensorLanIngress

/-- The calls of one ingress for a sequence of messages. -/
def admit_all (platform : Platform) : SensorLanIngress → List ByteArray → List Call
  | _, [] => []
  | self, raw_message :: rest =>
    let call : Call := ⟨raw_message, self, (SensorLanIngress.admit_message platform raw_message).result self,
      (SensorLanIngress.admit_message platform raw_message).after self⟩
    call :: admit_all platform call.after rest

/-- No session is forgotten, and its last sequence does not go back. -/
def Remembers (before after : SensorLanIngress) : Prop :=
  ∀ session previous, before.last_sequence.get? session = some previous →
    ∃ current, after.last_sequence.get? session = some current ∧ previous ≤ current

theorem Remembers.refl (self : SensorLanIngress) : Remembers self self :=
  fun _ previous hprevious => ⟨previous, hprevious, le_rfl⟩

variable {first second third : SensorLanIngress}

theorem Remembers.trans (hfirst : Remembers first second)
    (hsecond : Remembers second third) : Remembers first third := by
  intro session previous hprevious
  obtain ⟨middle, hmiddle, hle⟩ := hfirst session previous hprevious
  obtain ⟨current, hcurrent, hle'⟩ := hsecond session middle hmiddle
  exact ⟨current, hcurrent, hle.trans hle'⟩

theorem Fresh.remembers (hfresh : Fresh self admission) :
    Remembers self (self.record admission) := by
  intro session previous hprevious
  unfold SensorLanIngress.record
  dsimp only
  by_cases hsession : session = (admission.node_id, admission.session_id)
  · subst hsession
    unfold Fresh at hfresh
    rw [hprevious] at hfresh
    exact ⟨admission.sequence, Dict.get?_set_self _ _ _, hfresh.le⟩
  · exact ⟨previous, by rw [Dict.get?_set_of_ne _ _ hsession]; exact hprevious, le_rfl⟩

/-- The table has room for what it holds. -/
def Bounded (self : SensorLanIngress) : Prop := self.tracked_session_count ≤ self.max_sessions

theorem Fresh.bounded (hfresh : Fresh self admission) (hbounded : Bounded self) :
    Bounded (self.record admission) := by
  unfold Bounded SensorLanIngress.record SensorLanIngress.tracked_session_count at *
  dsimp only
  unfold Fresh SensorLanIngress.tracked_session_count at hfresh
  cases hprevious : self.last_sequence.get? (admission.node_id, admission.session_id) with
  | none =>
    rw [hprevious] at hfresh
    rw [Dict.items_set_of_get?_none _ _ hprevious, List.length_append, List.length_singleton]
    push_cast
    omega
  | some previous =>
    rw [Dict.length_set_of_get?_some _ _ hprevious]
    exact hbounded

/-- The settings of an ingress, which no message changes. -/
def SameSettings (self other : SensorLanIngress) : Prop :=
  self.node_keys = other.node_keys ∧ self.max_message_bytes = other.max_message_bytes ∧
    self.max_sessions = other.max_sessions

variable {other : SensorLanIngress}

theorem Decoded.of_same_settings (hsame : SameSettings self other)
    (hdecoded : Decoded platform self raw_message message) : Decoded platform other raw_message message :=
  { hdecoded with bounded := hsame.2.1 ▸ hdecoded.bounded }

theorem Verified.of_same_settings (hsame : SameSettings self other) {key body : ByteArray}
    (hverified : Verified platform self message admission key body signature) :
    Verified platform other message admission key body signature :=
  { hverified with key_of_node := hsame.1 ▸ hverified.key_of_node }

/-- What a call keeps of the ingress, whether it admits the message or not. -/
structure Keeps (before after : SensorLanIngress) : Prop where
  settings : SameSettings before after
  remembers : Remembers before after
  bounded : Bounded before → Bounded after

theorem Keeps.refl (self : SensorLanIngress) : Keeps self self where
  settings := ⟨rfl, rfl, rfl⟩
  remembers := .refl self
  bounded := id

theorem Keeps.trans (hfirst : Keeps first second) (hsecond : Keeps second third) : Keeps first third where
  settings := ⟨hfirst.settings.1.trans hsecond.settings.1, hfirst.settings.2.1.trans hsecond.settings.2.1,
    hfirst.settings.2.2.trans hsecond.settings.2.2⟩
  remembers := hfirst.remembers.trans hsecond.remembers
  bounded := hsecond.bounded ∘ hfirst.bounded

theorem SensorLanIngress.Admits.keeps {before after : SensorLanIngress} {outcome : Except Error SensorLanAdmission}
    (hadmits : Admits platform before raw_message outcome after) :
    Keeps before after := by
  cases hadmits with
  | admitted _ _ hfresh => exact ⟨⟨rfl, rfl, rfl⟩, hfresh.remembers, hfresh.bounded⟩
  | rejected _ => exact .refl before

/-- The calls of a sequence: how each one ends, and what it finds of those before. -/
theorem mem_admit_all {self : SensorLanIngress} {raw_messages : List ByteArray} {call : Call}
    (hcall : call ∈ admit_all platform self raw_messages) :
    SensorLanIngress.Admits platform call.before call.raw_message call.outcome call.after ∧ Keeps self call.before := by
  induction raw_messages generalizing self with
  | nil => cases hcall
  | cons raw_message rest ih =>
    have hadmits := admits_message platform self raw_message
    rcases List.mem_cons.mp hcall with rfl | hcall
    · exact ⟨hadmits, .refl self⟩
    · exact ⟨(ih hcall).1, hadmits.keeps.trans (ih hcall).2⟩

theorem pairwise_admit_all (platform : Platform) (self : SensorLanIngress) (raw_messages : List ByteArray) :
    (admit_all platform self raw_messages).Pairwise (fun earlier later => Keeps earlier.after later.before) := by
  induction raw_messages generalizing self with
  | nil => exact .nil
  | cons raw_message rest ih => exact .cons (fun later hlater => (mem_admit_all hlater).2) (ih _)

/-- Of two admissions in one session the later one has the greater sequence. -/
theorem sequence_lt_of_admits {earlier later : Call} {first second : SensorLanAdmission}
    (hearlier : SensorLanIngress.Admits platform earlier.before earlier.raw_message earlier.outcome earlier.after)
    (hlater : SensorLanIngress.Admits platform later.before later.raw_message later.outcome later.after)
    (hkeeps : Keeps earlier.after later.before) (hfirst : earlier.outcome = .ok first)
    (hsecond : later.outcome = .ok second) (hnode : first.node_id = second.node_id)
    (hsession : first.session_id = second.session_id) : first.sequence < second.sequence := by
  obtain ⟨_, before, outcome, after⟩ := earlier
  obtain ⟨_, before', outcome', after'⟩ := later
  dsimp only at *
  subst hfirst hsecond
  cases hearlier with
  | admitted _ _ _ =>
    cases hlater with
    | admitted _ _ hfresh =>
      obtain ⟨current, hcurrent, hle⟩ := hkeeps.remembers (first.node_id, first.session_id) first.sequence
        (Dict.get?_set_self _ _ _)
      unfold Fresh at hfresh
      rw [← hnode, ← hsession, hcurrent] at hfresh
      exact hle.trans_lt hfresh

theorem Remembers.mem_keys {before after : SensorLanIngress} (hremembers : Remembers before after)
    {session : String × String} (hsession : session ∈ before.last_sequence.keys) :
    session ∈ after.last_sequence.keys := by
  rw [Dict.mem_keys_iff, Option.isSome_iff_exists] at hsession ⊢
  obtain ⟨previous, hprevious⟩ := hsession
  obtain ⟨current, hcurrent, _⟩ := hremembers session previous hprevious
  exact ⟨current, hcurrent⟩

variable {node_keys : List (String × ByteArray)}

theorem normalize_keys_spec {normalized result : Dict String ByteArray}
    (hresult : normalize_keys node_keys normalized = .ok result) {node_id : String} {key : ByteArray}
    (hkey : result.get? node_id = some key) :
    normalized.get? node_id = some key ∨ ∃ entry ∈ node_keys, stripped entry.1 = node_id ∧ entry.2 = key := by
  induction node_keys generalizing normalized with
  | nil =>
    cases hresult
    exact .inl hkey
  | cons entry rest ih =>
    obtain ⟨trimmed, htrimmed, hrest⟩ := bind_eq_ok.mp hresult
    split at hrest
    · cases hrest
    rcases ih hrest with hfound | ⟨other, hother, hnode⟩
    · by_cases hsame : node_id = trimmed
      · subst hsame
        rw [Dict.get?_set_self, Option.some.injEq] at hfound
        obtain ⟨_, htext, _, htrimmed⟩ := normalized_text_eq_ok.mp htrimmed
        cases htext
        exact .inr ⟨entry, List.mem_cons_self, htrimmed.symm, hfound⟩
      · rw [Dict.get?_set_of_ne _ _ hsame] at hfound
        exact .inl hfound
    · exact .inr ⟨other, List.mem_cons_of_mem _ hother, hnode⟩

theorem init_eq_ok {max_message_bytes max_sessions : Int}
    (hinit : init node_keys max_message_bytes max_sessions = .ok self) :
    normalize_keys node_keys .empty = .ok self.node_keys ∧ self.max_sessions = max_sessions ∧
      0 < max_sessions ∧ self.last_sequence = .empty := by
  unfold init at hinit
  split at hinit
  · cases hinit
  obtain ⟨normalized, hnormalized, hinit⟩ := bind_eq_ok.mp hinit
  split at hinit
  · cases hinit
  split at hinit
  · cases hinit
  rename_i hpositive
  cases hinit
  exact ⟨hnormalized, rfl, not_le.mp hpositive, rfl⟩

/-- Whatever messages an ingress is given: sequences only grow in a session, a message that is not admitted changes
nothing, the table is bounded and forgets no session, and an admission has the trimmed fields of an object that
is signed under the key of its node. -/
theorem admit_all_replay_safe (platform : Platform) {node_keys : List (String × ByteArray)}
    {max_message_bytes max_sessions : Int} {ingress : SensorLanIngress}
    (hinit : SensorLanIngress.init node_keys max_message_bytes max_sessions = .ok ingress)
    (raw_messages : List ByteArray) :
    (admit_all platform ingress raw_messages).Pairwise (fun earlier later => ∀ first second,
      earlier.outcome = .ok first → later.outcome = .ok second → first.node_id = second.node_id →
      first.session_id = second.session_id → first.sequence < second.sequence) ∧
    (admit_all platform ingress raw_messages).Pairwise (fun earlier later =>
      ∀ session ∈ earlier.after.last_sequence.keys, session ∈ later.after.last_sequence.keys) ∧
    ∀ call ∈ admit_all platform ingress raw_messages,
      (∀ error, call.outcome = .error error → call.after = call.before) ∧
      call.after.tracked_session_count ≤ max_sessions ∧
      (∀ session ∈ call.before.last_sequence.keys, session ∈ call.after.last_sequence.keys) ∧
      ∀ admission, call.outcome = .ok admission → ∃ message key body signature,
        Decoded platform ingress call.raw_message message ∧
        Verified platform ingress message admission key body signature ∧
        bytes.fromhex signature.toList = some (platform.hmac_sha256 key body).toList ∧
        ∃ entry ∈ node_keys, stripped entry.1 = admission.node_id ∧ entry.2 = key := by
  obtain ⟨hkeys, hsessions, hpositive, hempty⟩ := init_eq_ok hinit
  have hbounded : Bounded ingress := by
    unfold Bounded SensorLanIngress.tracked_session_count
    rw [hempty, hsessions]
    exact hpositive.le
  have hpairs := pairwise_admit_all platform ingress raw_messages
  refine ⟨?_, ?_, ?_⟩
  · refine hpairs.imp_of_mem ?_
    intro earlier later hearlier hlater hkeeps first second hfirst hsecond hnode hsession
    exact sequence_lt_of_admits (mem_admit_all hearlier).1 (mem_admit_all hlater).1 hkeeps hfirst hsecond hnode hsession
  · refine hpairs.imp_of_mem ?_
    intro earlier later _ hlater hkeeps session hsession
    exact (mem_admit_all hlater).1.keeps.remembers.mem_keys (hkeeps.remembers.mem_keys hsession)
  · intro call hcall
    obtain ⟨hadmits, hkept⟩ := mem_admit_all hcall
    have hafter := hkept.trans hadmits.keeps
    refine ⟨?_, ?_, fun session => hadmits.keeps.remembers.mem_keys, ?_⟩
    · intro error herror
      rw [herror] at hadmits
      generalize call.after = after at hadmits ⊢
      cases hadmits with
      | rejected _ => rfl
    · rw [← hsessions, hafter.settings.2.2]
      exact hafter.bounded hbounded
    · intro admission hadmission
      rw [hadmission] at hadmits
      generalize call.after = after at hadmits
      cases hadmits with
      | admitted hdecode hverify _ =>
        obtain ⟨key, body, signature, hverified⟩ := verify_message_eq_ok.mp hverify
        have hsettings : SameSettings call.before ingress :=
          ⟨hkept.settings.1.symm, hkept.settings.2.1.symm, hkept.settings.2.2.symm⟩
        have hverified := hverified.of_same_settings hsettings
        refine ⟨_, key, body, signature, (decode_message_eq_ok.mp hdecode).of_same_settings hsettings, hverified,
          hverified.signature_hmac, ?_⟩
        exact (normalize_keys_spec hkeys hverified.key_of_node).resolve_left (by rw [Dict.get?_empty]; simp)

end platform

/-- The text of a message up to its session id, where the signature follows in the order of the keys. -/
def door_text : String :=
  "\x7b\"event_type\":\"SENSOR_OBSERVATION_REPORTED\",\"message_id\":\"m1\"," ++
  "\"node_id\":\"cabin\",\"payload\":\x7b\"door\":\"left\",\"open\":true\x7d," ++
  "\"schema\":\"velvet.sensor-lan.v0.1\",\"sent_at\":1.5,\"sequence\":0," ++
  "\"session_id\":\"s1\""

def door_digest : Vector UInt8 32 :=
  #v[128, 154, 189, 247, 170, 0, 165, 114, 178, 220, 40, 208, 249, 189, 152, 246, 39, 123, 64, 207, 211, 149, 204, 71, 30,
    103, 178, 236, 247, 247, 95, 249]

def door_message : ByteArray :=
  (door_text ++ ",\"signature\":\"" ++ String.ofList (bytes.hex door_digest.toList) ++ "\"\x7d").toUTF8

def door_key : ByteArray := ⟨(Array.range 32).map UInt8.ofNat⟩

local instance bytes_decidable : DecidableEq ByteArray := ByteArray.instDecidableEq

/-- HMAC-SHA256 on the one message, and the floats that occur in it. -/
def door_platform : Platform where
  floats := ⟨fun q => if q = 3 / 2 then "1.5".toList else "0.0".toList,
    fun text => .finite (if text = "1.5".toList then 3 / 2 else 0)⟩
  hmac_sha256 := fun key body =>
    if key = door_key ∧ body = (door_text ++ "\x7d").toUTF8 then door_digest else .replicate 32 0

def door_ingress : SensorLanIngress where
  node_keys := Dict.empty.set "cabin" door_key
  max_message_bytes := 512
  max_sessions := 1
  last_sequence := .empty

/-- A message that comes twice is admitted at most once, and takes one place in the table. -/
theorem admit_all_replay_safe_door :
    (admit_all door_platform door_ingress [door_message, door_message]).Pairwise (fun earlier later =>
      ∀ first second, earlier.outcome = .ok first → later.outcome = .ok second → first.node_id = second.node_id →
        first.session_id = second.session_id → first.sequence < second.sequence) ∧
    ∀ call ∈ admit_all door_platform door_ingress [door_message, door_message], call.after.tracked_session_count ≤ 1 := by
  have hinit : SensorLanIngress.init [(" cabin", door_key)] 512 1 = .ok door_ingress := by with_unfolding_all rfl
  obtain ⟨hsequences, _, hcalls⟩ := admit_all_replay_safe door_platform hinit [door_message, door_message]
  exact ⟨hsequences, fun call hcall => by exact_mod_cast (hcalls call hcall).2.1⟩

end velvet.sensor_lan_ingress
