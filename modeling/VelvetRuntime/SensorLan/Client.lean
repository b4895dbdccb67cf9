import VelvetRuntime.SensorLan.RoundTrip

open python python.num python.json python.except
open velvet.sensor_lan_ingress

namespace velvet.sensor_lan_client

open Program

/-- What the client handed to a connection: the message, and its frame. -/
structure Transmission where
  message : SensorLanMessage
  frame : ByteArray

/-- The client, with what it handed to its connections so far. -/
structure SensorLanTcpClient where
  host : String
  port : Nat
  node_id : String
  key : ByteArray
  session_id : String
  max_frame_bytes : Int
  next_sequence : Int
  transmitted : List Transmission

structure SensorLanSendResult where
  node_id : String
  session_id : String
  message_id : String
  sequence : Int
  sent_at : JsonFloat
  event_type : String
  peer_host : String
  peer_port : Nat
  frame_bytes : Nat

/-- The arguments of `send`, with what the clock, the random source and the connection answer. -/
structure SendCall where
  event_type : Json
  payload : Json
  sent_at : Option Json
  message_id : Option Json
  now : ℚ
  uuid : String
  connection : Except Error Unit

/-- The event of a call, once it is checked. -/
structure SensorEvent where
  event_type : String
  message_id : String
  sent_at : Json
  payload : Json

/-- A text that defaults to a random id. -/
def text_or (name uuid : String) : Option Json → Except Error String
  | none => .ok uuid
  | some value => normalized_text name (some value)

/-- `send` up to the message: the time and the message id default to the clock and to a random id. -/
def SendCall.event (call : SendCall) : Except Error SensorEvent := do
  let event_type ← normalized_text "event_type" (some call.event_type)
  if event_type ∉ LAN_SENSOR_EVENT_TYPES then
    .error (value_error "event_type is not admitted by sensor LAN contract")
  else
    match call.payload with
    | .object _ => do
      let message_id ← text_or "message_id" call.uuid call.message_id
      .ok { event_type, message_id, sent_at := call.sent_at.getD (.float (.finite call.now)), payload := call.payload }
    | _ => .error (value_error "payload must be a mapping")

/-- Whether `except (socket.timeout, ConnectionError, OSError)` catches it. -/
def is_transmission_error (error : Error) : Bool := error.kind = .OSError

/-- `struct.Struct("!I").pack(size)`. -/
def header (size : Nat) : Except Error (List UInt8) :=
  if 2 ^ 32 ≤ size then .error ⟨.StructError, "'I' format requires 0 <= number <= 4294967295"⟩
  else .ok [UInt8.ofNat (size / 2 ^ 24), UInt8.ofNat (size / 2 ^ 16), UInt8.ofNat (size / 2 ^ 8), UInt8.ofNat size]

def encode_sensor_lan_tcp_frame (raw_message : ByteArray) (max_frame_bytes : Int) : Except Error ByteArray :=
  if raw_message.isEmpty then .error (value_error "raw_message must be non-empty bytes")
  else if max_frame_bytes ≤ 0 then .error (value_error "max_frame_bytes must be a positive integer")
  else if max_frame_bytes < raw_message.size then .error (value_error "sensor LAN TCP frame exceeds size limit")
  else do
    let header ← header raw_message.size
    .ok (⟨header.toArray⟩ ++ raw_message)

namespace SensorLanTcpClient

/-- `__init__`, with the random session id. -/
def init (host : String) (port : Int) (node_id : String) (key : ByteArray) (session_id : Option String) (uuid : String)
    (timeout_seconds : JsonFloat) (max_frame_bytes : Int) : Except Error SensorLanTcpClient := do
  let host ← normalized_text "host" (some (.text host))
  if port < 1 ∨ 65535 < port then .error (value_error "port must be an integer between 1 and 65535")
  else do
    let node_id ← normalized_text "node_id" (some (.text node_id))
    if key.size < 32 then .error (value_error "key must be bytes of at least 32 bytes")
    else do
      let session_id ← text_or "session_id" uuid (session_id.map .text)
      if timeout_seconds.lt 0 ∨ timeout_seconds = .finite 0 then
        .error (value_error "timeout_seconds must be positive")
      else if max_frame_bytes ≤ 0 then .error (value_error "max_frame_bytes must be a positive integer")
      else .ok { host, port := port.toNat, node_id, key, session_id, max_frame_bytes, next_sequence := 0, transmitted := [] }

/-- The message under the next sequence of the client. -/
def message (self : SensorLanTcpClient) (event : SensorEvent) : SensorLanMessage where
  node_id := .text self.node_id
  session_id := .text self.session_id
  message_id := .text event.message_id
  sequence := .int self.next_sequence
  sent_at := event.sent_at
  event_type := .text event.event_type
  payload := event.payload
  key := self.key

/-- How `send` ends once the frame was handed to the connection. -/
def send_result (self : SensorLanTcpClient) (event : SensorEvent) (frame : ByteArray) :
    Except Error Unit → Except Error SensorLanSendResult
  | .ok () =>
    match as_float event.sent_at with
    | some sent_at => .ok {
        node_id := self.node_id
        session_id := self.session_id
        message_id := event.message_id
        sequence := self.next_sequence
        sent_at
        event_type := event.event_type
        peer_host := self.host
        peer_port := self.port
        frame_bytes := frame.size }
    | none => .error ⟨.TypeError, "float() argument must be a string or a real number"⟩
  | .error error =>
    if is_transmission_error error then
      .error ⟨.SensorLanClientError, "sensor LAN transmission failed for sequence " ++ toString self.next_sequence⟩
    else .error error

variable (platform : Platform)

/-- Transmit one event, without a retry. -/
def send (call : SendCall) : Program Error SensorLanTcpClient SensorLanSendResult := do
  let self ← get
  let event ← of_except call.event
  let raw_message ← of_except (encode_sensor_lan_message platform (self.message event))
  let frame ← of_except (encode_sensor_lan_tcp_frame raw_message self.max_frame_bytes)
  -- The sequence is used up before the connection is made.
  set { self with next_sequence := self.next_sequence + 1 }
  modify (fun self' => { self' with transmitted := self.transmitted ++ [⟨self.message event, frame⟩] })
  of_except (self.send_result event frame call.connection)

/-- The client for a sequence of calls, whatever each of them ends in. -/
def send_all (self : SensorLanTcpClient) (calls : List SendCall) : SensorLanTcpClient :=
  calls.foldl (fun self call => (send platform call).after self) self

variable {platform : Platform}

/-- A message of the client under its next sequence, in its frame. -/
structure Framed (platform : Platform) (client : SensorLanTcpClient) (sequence : Int) (sent : Transmission) : Prop where
  node_id : sent.message.node_id = .text client.node_id
  session_id : sent.message.session_id = .text client.session_id
  key : sent.message.key = client.key
  sequence_eq : sent.message.sequence = .int sequence
  frame : ∃ raw_message, encode_sensor_lan_message platform sent.message = .ok raw_message ∧
    encode_sensor_lan_tcp_frame raw_message client.max_frame_bytes = .ok sent.frame

/-- What a call of `send` leaves: nothing new, or one message under a sequence that is used up. -/
inductive Sends (platform : Platform) (before : SensorLanTcpClient) : SensorLanTcpClient → Prop where
  | nothing : Sends platform before before
  | sent {sent : Transmission} (hframed : Framed platform before before.next_sequence sent) :
    Sends platform before { before with
      next_sequence := before.next_sequence + 1, transmitted := before.transmitted ++ [sent] }

variable (self : SensorLanTcpClient)

theorem wp_send (call : SendCall) :
    wp (send platform call) (fun _ => Sends platform self) (fun _ => Sends platform self) self := by
  unfold send
  simp only [wp_bind, wp_get, wp_of_except]
  cases call.event with
  | error error => exact .nothing
  | ok event =>
    dsimp only
    cases hencode : encode_sensor_lan_message platform (self.message event) with
    | error error => exact .nothing
    | ok raw_message =>
      dsimp only
      cases hframe : encode_sensor_lan_tcp_frame raw_message self.max_frame_bytes with
      | error error => exact .nothing
      | ok frame =>
        have hframed : Framed platform self self.next_sequence ⟨self.message event, frame⟩ :=
          ⟨rfl, rfl, rfl, rfl, raw_message, hencode, hframe⟩
        simp only [wp_set]
        cases self.send_result event frame call.connection with
        | error error => exact .sent hframed
        | ok result => exact .sent hframed

theorem sends_after (call : SendCall) :
    Sends platform self ((send platform call).after self) :=
  (wp_result_after (fun _ => Sends platform self)).mp (wp_send self call)

/-- What was transmitted in a session: messages of the client under different sequences that are used up. -/
structure Session (platform : Platform) (first client : SensorLanTcpClient) : Prop where
  same : client.node_id = first.node_id ∧ client.session_id = first.session_id ∧ client.key = first.key ∧
    client.max_frame_bytes = first.max_frame_bytes
  framed : ∀ sent ∈ client.transmitted, ∃ sequence < client.next_sequence, Framed platform first sequence sent
  increasing : client.transmitted.Pairwise (fun earlier later => ∃ before after : Int,
    earlier.message.sequence = .int before ∧ later.message.sequence = .int after ∧ before < after)

variable {first client : SensorLanTcpClient}

theorem Session.sends {first before after : SensorLanTcpClient} (hsession : Session platform first before)
    (hsends : Sends platform before after) : Session platform first after := by
  cases hsends with
  | nothing => exact hsession
  | sent hframed =>
    obtain ⟨hnode, hsame, hkey, hmax⟩ := hsession.same
    have hframed : Framed platform first before.next_sequence _ :=
      ⟨hnode ▸ hframed.node_id, hsame ▸ hframed.session_id, hkey ▸ hframed.key, hframed.sequence_eq,
        hmax ▸ hframed.frame⟩
    refine ⟨hsession.same, ?_, ?_⟩
    · intro sent hsent
      rcases List.mem_append.mp hsent with hsent | hsent
      · obtain ⟨sequence, hlt, hearlier⟩ := hsession.framed sent hsent
        exact ⟨sequence, Int.lt_add_one_of_le hlt.le, hearlier⟩
      · rw [List.mem_singleton.mp hsent]
        exact ⟨before.next_sequence, Int.lt_succ _, hframed⟩
    · refine List.pairwise_append.mpr ⟨hsession.increasing, List.pairwise_singleton _ _, ?_⟩
      intro earlier hearlier later hlater
      obtain ⟨sequence, hlt, hfirst⟩ := hsession.framed earlier hearlier
      rw [List.mem_singleton.mp hlater]
      exact ⟨sequence, before.next_sequence, hfirst.sequence_eq, hframed.sequence_eq, hlt⟩

theorem session_send_all (hsession : Session platform first client)
    (calls : List SendCall) : Session platform first (send_all platform client calls) := by
  induction calls generalizing client with
  | nil => exact hsession
  | cons call rest ih => exact ih (hsession.sends (sends_after client call))

theorem init_eq_ok {host node_id uuid : String} {port max_frame_bytes : Int} {key : ByteArray}
    {session_id : Option String} {timeout_seconds : JsonFloat} {client : SensorLanTcpClient}
    (hinit : init host port node_id key session_id uuid timeout_seconds max_frame_bytes = .ok client) :
    client.transmitted = [] := by
  obtain ⟨_, _, hinit⟩ := bind_eq_ok.mp hinit
  split at hinit
  · cases hinit
  obtain ⟨_, _, hinit⟩ := bind_eq_ok.mp hinit
  split at hinit
  · cases hinit
  obtain ⟨_, _, hinit⟩ := bind_eq_ok.mp hinit
  split at hinit
  · cases hinit
  split at hinit
  · cases hinit
  cases hinit
  rfl

end SensorLanTcpClient

/-- What is encoded is admitted again, and one client transmits each sequence at most once, whatever becomes of its
connections. -/
theorem sensor_lan_round_trip (platform : Platform) :
    (∀ {message : SensorLanMessage} {fields : SensorLanAdmission} {raw_message : ByteArray}
      {ingress : SensorLanIngress}, message.normalized_fields = .ok fields →
      encode_sensor_lan_message platform message = .ok raw_message → Distinct message.payload →
      (∀ q, JsonFloat.finite q ∈ fields.sent_at :: floats_in message.payload → platform.floats.Reads q) →
      raw_message.size ≤ ingress.max_message_bytes → ingress.node_keys.get? fields.node_id = some message.key →
      Fresh ingress fields →
      ∃ payload, (SensorLanIngress.admit_message platform raw_message).result ingress = .ok { fields with payload } ∧
        Same (.object payload) message.payload) ∧
    ∀ {host node_id uuid : String} {port max_frame_bytes : Int} {key : ByteArray} {session_id : Option String}
      {timeout_seconds : JsonFloat} {client : SensorLanTcpClient},
      SensorLanTcpClient.init host port node_id key session_id uuid timeout_seconds max_frame_bytes = .ok client →
      ∀ calls : List SendCall,
        (SensorLanTcpClient.send_all platform client calls).transmitted.Pairwise (fun earlier later =>
          ∃ before after : Int, earlier.message.sequence = .int before ∧ later.message.sequence = .int after ∧
            before < after) ∧
        ∀ sent ∈ (SensorLanTcpClient.send_all platform client calls).transmitted,
          ∃ sequence, SensorLanTcpClient.Framed platform client sequence sent := by
  constructor
  · intro message fields raw_message ingress hfields hencode hdistinct hreads hbounded hkey hfresh
    refine ⟨_, admit_encode hdistinct hfields hreads hencode hbounded hkey hfresh, ?_⟩
    rw [(normalized_fields_eq_ok hfields).payload]
    exact same_sorted (.object fields.payload)
  · intro host node_id uuid port max_frame_bytes key session_id timeout_seconds client hinit calls
    have hempty := SensorLanTcpClient.init_eq_ok hinit
    have hstart : SensorLanTcpClient.Session platform client client :=
      ⟨⟨rfl, rfl, rfl, rfl⟩, by rw [hempty]; exact fun _ hsent => (by cases hsent), by rw [hempty]; exact .nil⟩
    have hsession := SensorLanTcpClient.session_send_all hstart calls
    refine ⟨hsession.increasing, fun sent hsent => ?_⟩
    obtain ⟨sequence, _, hframed⟩ := hsession.framed sent hsent
    exact ⟨sequence, hframed⟩

def door_event : SensorLanMessage where
  node_id := .text " cabin"
  session_id := .text "s1"
  message_id := .text "m1"
  sequence := .int 0
  sent_at := .float (.finite (3 / 2))
  event_type := .text "SENSOR_OBSERVATION_REPORTED"
  payload := .object [("open", .bool true), ("door", .text "left")]
  key := door_key

def door_fields : SensorLanAdmission where
  node_id := "cabin"
  session_id := "s1"
  message_id := "m1"
  sequence := 0
  sent_at := .finite (3 / 2)
  event_type := "SENSOR_OBSERVATION_REPORTED"
  payload := [("open", .bool true), ("door", .text "left")]

theorem door_normalized : door_event.normalized_fields = .ok door_fields := by
  with_unfolding_all rfl

theorem door_encode : encode_sensor_lan_message door_platform door_event = .ok door_message := by
  have hbody : dumps door_platform.floats false (.object (unsigned (unsigned_fields door_fields))) =
      some (door_text ++ "\x7d") := by decide +kernel
  have hsigned : dumps door_platform.floats false
      (.object (signed_fields door_fields (bytes.hex door_digest.toList))) =
      some (door_text ++ ",\"signature\":\"" ++ String.ofList (bytes.hex door_digest.toList) ++ "\"\x7d") := by
    decide +kernel
  have hsignature : signature_for_message door_platform (unsigned_fields door_fields) door_key =
      .ok (bytes.hex door_digest.toList) := by
    refine signature_for_message_eq_ok.mpr ⟨_, canonical_json_eq_ok.mpr ⟨_, hbody, rfl⟩, ?_⟩
    exact congrArg (fun digest : Vector UInt8 32 => bytes.hex digest.toList) (if_pos ⟨rfl, rfl⟩).symm
  unfold encode_sensor_lan_message
  rw [door_normalized]
  dsimp only [bind, Except.bind]
  rw [show door_event.key = door_key from rfl, hsignature]
  exact canonical_json_eq_ok.mpr ⟨_, hsigned, rfl⟩

theorem door_floats (q : ℚ)
    (hq : JsonFloat.finite q ∈ door_fields.sent_at :: floats_in door_event.payload) : door_platform.floats.Reads q := by
  rw [List.mem_singleton.mp (show JsonFloat.finite q ∈ [JsonFloat.finite (3 / 2)] from hq) |> JsonFloat.finite.inj]
  exact ⟨[], ['1'], ['.', '5'], [], ⟨.inl rfl, by decide, by decide, by decide, .inr ⟨['5'], by decide⟩, .inl rfl⟩,
    by decide, by with_unfolding_all decide, by with_unfolding_all decide⟩

def door_client : SensorLanTcpClient where
  host := "10.0.0.2"
  port := 4460
  node_id := "cabin"
  key := door_key
  session_id := "s1"
  max_frame_bytes := 512
  next_sequence := 0
  transmitted := []

def door_call (connection : Except Error Unit) : SendCall where
  event_type := door_event.event_type
  payload := door_event.payload
  sent_at := some door_event.sent_at
  message_id := none
  now := 0
  uuid := "m1"
  connection

/-- The door message is read back, and a client whose first connection fails goes on to another sequence. -/
theorem sensor_lan_round_trip_door :
    (∃ payload, (SensorLanIngress.admit_message door_platform door_message).result door_ingress =
        .ok { door_fields with payload } ∧ Same (.object payload) door_event.payload) ∧
    (SensorLanTcpClient.send_all door_platform door_client
        [door_call (.error ⟨.OSError, "connection refused"⟩), door_call (.ok ())]).transmitted.Pairwise
      (fun earlier later => ∃ before after : Int, earlier.message.sequence = .int before ∧
        later.message.sequence = .int after ∧ before < after) := by
  have htrip := sensor_lan_round_trip door_platform
  have hinit : SensorLanTcpClient.init "10.0.0.2" 4460 "cabin " door_key (some "s1") "m0" (.finite 1) 512 =
      .ok door_client := by with_unfolding_all rfl
  refine ⟨?_, (htrip.2 hinit _).1⟩
  exact htrip.1 door_normalized door_encode ⟨by decide, trivial, trivial, trivial⟩ door_floats (by decide +kernel)
    (by with_unfolding_all decide) (show (0 : Int) < 1 by decide)

end velvet.sensor_lan_client
