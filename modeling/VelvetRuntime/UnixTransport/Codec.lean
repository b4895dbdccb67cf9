import VelvetRuntime.Python.Prefixed
import VelvetRuntime.SensorLan.Server
import VelvetRuntime.UnixTransport.Answers

open python python.num python.json python.socket python.except

namespace velvet.sensor_lan_transport

open velvet.sensor_lan_client

/-- The length of a frame that the listener takes. -/
def check_frame_size (max_frame_bytes : Int) (frame_size : Nat) : Except Error Unit :=
  if frame_size < 1 then .error (transport_error "sensor LAN TCP frame must not be empty")
  else if max_frame_bytes < frame_size then .error (transport_error "sensor LAN TCP frame exceeds size limit")
  else .ok ()

/-- `_receive_frame` on a connection. -/
def read_frame (max_frame_bytes : Int) : Program Error (List Arrival) ByteArray :=
  read_prefixed connection_ended (check_frame_size max_frame_bytes) (fun body => .ok body.toByteArray)

/-- The listener reads what the client has framed. -/
theorem framing (max_frame_bytes : Int) :
    Framing (encode_sensor_lan_tcp_frame · max_frame_bytes) (read_frame max_frame_bytes)
      (fun size => 1 ≤ size ∧ size ≤ max_frame_bytes) (fun received raw_message => received = raw_message) := by
  refine framing_read_prefixed ?_ ?_
  · intro raw_message frame hframe
    obtain ⟨hnonempty, hframe⟩ := guard_eq_ok.mp hframe
    obtain ⟨-, hframe⟩ := guard_eq_ok.mp hframe
    obtain ⟨hsmall, hframe⟩ := guard_eq_ok.mp hframe
    obtain ⟨head, hhead, hframe⟩ := bind_eq_ok.mp hframe
    cases hframe
    have hsize : raw_message.data.toList.length = raw_message.size := Array.length_toList
    have hpositive : ¬raw_message.size < 1 := fun hzero =>
      hnonempty (decide_eq_true (Nat.lt_one_iff.mp hzero))
    refine ⟨head, raw_message.data.toList, raw_message, by simp, hsize ▸ hhead, ?_, ?_, rfl⟩
    · unfold check_frame_size
      rw [hsize, if_neg hpositive, if_neg hsmall]
    · rw [toByteArray_toList]
  · intro size hrefused
    unfold check_frame_size
    by_cases hempty : size < 1
    · exact ⟨_, if_pos hempty⟩
    · rw [if_neg hempty, if_pos (by omega)]
      exact ⟨_, rfl⟩

end velvet.sensor_lan_transport

namespace velvet.distributed_work_unix_transport

section frames

variable (interpreter : Interpreter)

def check_frame_length (limit size : Nat) : Except Error Unit :=
  if size < 2 ∨ limit < size then .error (transport_error "Unix RPC frame length is invalid") else .ok ()

/-- `_receive_frame` on a connection. -/
def read_frame (limit : Nat) : Program Error (List Arrival) (Dict String Json) :=
  read_prefixed connection_closed (check_frame_length limit) (fun payload => decode_frame interpreter payload.toByteArray)

variable {interpreter} in
/-- What a server receives is what it reads on the connection. -/
theorem wp_read_frame (limit : Nat) (arrivals : List Arrival) :
    Program.wp (read_frame interpreter limit) (fun message _ => receive_frame interpreter limit arrivals = .ok message)
      (fun error _ => receive_frame interpreter limit arrivals = .error error) arrivals := by
  have hsame : receive_frame interpreter limit arrivals = receive_prefixed connection_closed
      (check_frame_length limit) (fun payload => decode_frame interpreter payload.toByteArray) arrivals := by
    unfold receive_frame receive_prefixed check_frame_length
    congr 1
    funext ⟨header, left⟩
    dsimp only
    split_ifs
    all_goals rfl
  rw [hsame]
  exact wp_read_prefixed_receive_prefixed _ _ _ arrivals

/-- A message of JSON data: its dicts have distinct keys, and its floats read back from their text. -/
structure JsonMessage where
  entries : List (String × Json)
  distinct : Distinct (.object entries)
  readable : ∀ q, .finite q ∈ floats_in (.object entries) → interpreter.floats.Reads q

def JsonMessage.message {interpreter : Interpreter} (self : JsonMessage interpreter) : WireMessage :=
  PyObject.of_json_entries self.entries

end frames

/-- The receiver writes floats as the sender does, reads as many digits, and may nest as deep to read a message as the
sender to write it. -/
structure Interpreter.Reads (receiver sender : Interpreter) : Prop where
  floats : receiver.floats = sender.floats
  digits : ReadsDigits sender.limits receiver.limits
  depth : sender.limits.encode_depth ≤ receiver.limits.scan_depth

variable {receiver sender : Interpreter}

/-- What is received equals what was sent, up to the order of the entries. -/
def EqualMessage (received : Dict String Json) (sent : JsonMessage sender) : Prop :=
  Same (.object received.items) (.object sent.entries)

/-- The dict of the pairs of an object that was read. -/
theorem items_of_pairs {pairs : List (String × Json)} (hnodup : (pairs.map Prod.fst).Nodup) :
    (pairs.foldl (fun message entry => message.set entry.1 entry.2) (Dict.empty : Dict String Json)).items = pairs := by
  have hdict := dict_of_pairs_of_nodup hnodup
  unfold dict_of_pairs at hdict
  exact Json.object.inj (Option.some.inj hdict)

theorem within_of_message {sent : JsonMessage sender}
    (hfault : (PyObject.mapping sent.message).fault sender.limits sender.limits.encode_depth = none) :
    Within sender.limits sender.limits.encode_depth (.object sent.entries) ∧
      (floats_in (.object sent.entries)).all is_finite = true := by
  refine PyObject.fault_of_json_eq_none_iff.mp ?_
  rw [PyObject.of_json]
  exact hfault

variable (sent : JsonMessage sender)

theorem written_of_message
    (hfault : (PyObject.mapping sent.message).fault sender.limits sender.limits.encode_depth = none) :
    (PyObject.mapping sent.message).written = some (.object sent.entries) := by
  have hdata := PyObject.written_of_json (within_of_message hfault).2
  rwa [PyObject.of_json] at hdata

/-- The text of a message decodes to its entries in the order of their keys, where the receiver takes what the sender
writes. -/
theorem decode_message (hreads : receiver.Reads sender) (sent : JsonMessage sender)
    (hfault : (PyObject.mapping sent.message).fault sender.limits sender.limits.encode_depth = none) :
    ∃ received, decode_frame receiver (String.ofList (message_text sender sent.message)).toUTF8 = .ok received ∧
      received.items = sort_keys (sorted_entries sent.entries) := by
  obtain ⟨hwithin, hfinite⟩ := within_of_message hfault
  have hwritten := written_of_message sent hfault
  have hreadable : Readable receiver.floats (floats_in (.object sent.entries)) := by
    rw [hreads.floats]
    intro float hfloat
    have hone := List.all_eq_true.mp hfinite float hfloat
    cases float with
    | finite q => exact ⟨q, rfl, sent.readable q hfloat⟩
    | inf | neg_inf | nan => cases hone
  have hloads : loads_within receiver.limits (reader receiver)
      (String.ofList (encode receiver.floats true (.object sent.entries) ++ [])) = .ok (sorted (.object sent.entries)) :=
    loads_within_encode (fun _ hnodup => dict_of_pairs_of_nodup hnodup) true sent.distinct hreadable
      (hwithin.mono hreads.digits hreads.depth) (List.forall_mem_nil _)
  have hnodup : ((sort_keys (sorted_entries sent.entries)).map Prod.fst).Nodup := by
    rw [((sort_keys_perm _).map Prod.fst).nodup_iff, sorted_entries_eq_map, List.map_map]
    exact sent.distinct.1
  rw [List.append_nil, hreads.floats] at hloads
  refine ⟨(sort_keys (sorted_entries sent.entries)).foldl (fun message entry => message.set entry.1 entry.2) .empty,
    ?_, items_of_pairs hnodup⟩
  unfold decode_frame message_text
  rw [bytes.fromUTF8_toUTF8, hwritten]
  dsimp only [Option.getD_some]
  rw [hloads]
  rfl

theorem two_le_size_of_message
    (hfault : (PyObject.mapping sent.message).fault sender.limits sender.limits.encode_depth = none) :
    2 ≤ (String.ofList (message_text sender sent.message)).toUTF8.size := by
  change 2 ≤ text_size (message_text sender sent.message)
  unfold message_text
  rw [written_of_message sent hfault]
  exact two_le_text_size_object sender.floats true sent.entries

/-- The server and the client of the Unix transport read what either has written, in the order of the keys. -/
theorem framing_sorted (hreads : receiver.Reads sender) (limit : Nat) :
    Framing (fun sent : JsonMessage sender => send_frame sender limit sent.message) (read_frame receiver limit)
      (fun size => 2 ≤ size ∧ size ≤ limit)
        (fun received sent => received.items = sort_keys (sorted_entries sent.entries)) := by
  refine framing_read_prefixed ?_ ?_
  · intro sent frame hframe
    obtain ⟨payload, hpayload, hframe⟩ := bind_eq_ok.mp hframe
    obtain ⟨hsize, hframe⟩ := guard_eq_ok.mp hframe
    obtain ⟨head, hhead, hframe⟩ := bind_eq_ok.mp hframe
    cases hframe
    unfold canonical_bytes at hpayload
    split at hpayload
    · cases hpayload
    rename_i hfault
    cases hpayload
    obtain ⟨received, hdecode, hequal⟩ := decode_message hreads sent hfault
    set payload := (String.ofList (message_text sender sent.message)).toUTF8
    have hlength : payload.data.toList.length = payload.size := Array.length_toList
    refine ⟨head, payload.data.toList, received, by simp, hlength ▸ hhead, ?_, ?_, hequal⟩
    · have htwo := two_le_size_of_message sent hfault
      have hlimit := (not_or.mp hsize).2
      rw [hlength]
      exact if_neg (not_or.mpr ⟨Nat.not_lt.mpr htwo, hlimit⟩)
    · rw [toByteArray_toList]
      exact hdecode
  · intro size hrefused
    refine ⟨_, if_pos ?_⟩
    omega

theorem framing (hreads : receiver.Reads sender) (limit : Nat) :
    Framing (fun sent : JsonMessage sender => send_frame sender limit sent.message) (read_frame receiver limit)
      (fun size => 2 ≤ size ∧ size ≤ limit) EqualMessage := by
  refine (framing_sorted hreads limit).mono fun received sent hitems => ?_
  unfold EqualMessage
  rw [hitems]
  exact same_sorted (.object sent.entries)

/-- A server receives a frame that was sent, in the order of its keys. -/
theorem receive_frame_of_sent (hreads : receiver.Reads sender) {limit : Nat} {sent : JsonMessage sender}
    {frame : ByteArray} (hframe : send_frame sender limit sent.message = .ok frame) {arrivals : List Arrival}
    {rest : List UInt8} (harrivals : delivered arrivals = frame.data.toList ++ rest) :
    ∃ received, receive_frame receiver limit arrivals = .ok received ∧
      received.items = sort_keys (sorted_entries sent.entries) := by
  have hread := (framing_sorted hreads limit).reads_back sent frame arrivals rest hframe harrivals
  have hboth := Program.wp_and (wp_read_frame limit arrivals) hread
  unfold Program.wp at hboth
  split at hboth
  · exact ⟨_, hboth.1, hboth.2.1⟩
  · exact hboth.2.elim

/-- Both transports read what they have written, however the bytes arrive and with nothing read beyond the frame, and
refuse a length outside of their limits with the body unread; and on every stream the loop that reads ends, with the
bytes that it was asked for or because they do not arrive. -/
theorem frames_read_back (hreads : receiver.Reads sender) :
    (∀ limit, Framing (fun sent : JsonMessage sender => send_frame sender limit sent.message) (read_frame receiver limit)
      (fun size => 2 ≤ size ∧ size ≤ limit) EqualMessage) ∧
    (∀ max_frame_bytes : Int, Framing (sensor_lan_client.encode_sensor_lan_tcp_frame · max_frame_bytes)
      (sensor_lan_transport.read_frame max_frame_bytes) (fun size => 1 ≤ size ∧ size ≤ max_frame_bytes)
        (fun received raw_message => received = raw_message)) ∧
    ∀ ended size arrivals, Program.wp (recv_exact ended size)
      (fun received left => received.length = size ∧ delivered arrivals = received ++ delivered left)
      (fun error _ => (delivered arrivals).length < size ∧ (error = ended ∨ error.kind = .OSError)) arrivals := by
  refine ⟨framing hreads, sensor_lan_transport.framing, fun ended size arrivals => ?_⟩
  refine wp_recv_exact (fun left hsize hleft => ?_) fun error _ hshort herror => ⟨hshort, herror⟩
  rw [hleft, List.take_append_drop, List.length_take]
  exact ⟨Nat.min_eq_left hsize, rfl⟩

/-- An interpreter with the usual limits. -/
def usual_interpreter : Interpreter where
  floats := ⟨fun _ => "0.0".toList, fun _ => .finite 0⟩
  limits := { scan_depth := 990, encode_depth := 990, int_digits := some 4300 }
  sha256 := id
  isalnum := Char.isAlphanum
  fault_text := fun _ => "maximum recursion depth exceeded"
  room := by decide

def short_message : JsonMessage usual_interpreter where
  entries := [("ok", .bool true), ("count", .list [.int 7, .null])]
  distinct := ⟨by decide, trivial, ⟨trivial, trivial, trivial⟩, trivial⟩
  readable := fun _ hnone => nomatch hnone

/-- A short message is read back, although each of its bytes arrives alone and another byte follows. -/
theorem short_message_read_back : ∃ frame, send_frame usual_interpreter 1024 short_message.message = .ok frame ∧
    Program.wp (read_frame usual_interpreter 1024)
      (fun received left => EqualMessage received short_message ∧ delivered left = [7]) (fun _ _ => False)
      ((frame.data.toList.map (fun byte => [byte])).map Arrival.bytes ++ [.bytes [7]]) := by
  have hreads : usual_interpreter.Reads usual_interpreter := ⟨rfl, fun _ hmany => hmany, Nat.le_refl 990⟩
  have hsize : text_size (message_text usual_interpreter short_message.message) = 28 := by
    rw [text_size_eq_sum]
    decide
  obtain ⟨frame, hframe⟩ : Sendable usual_interpreter 1024 short_message.message := by
    refine sendable_iff.mpr ⟨?_, ?_, ?_⟩
    · decide
    · rw [hsize]
      decide
    · rw [hsize]
      decide
  refine ⟨frame, hframe, ((frames_read_back hreads).1 1024).reads_back short_message frame _ [7] hframe ?_⟩
  rw [delivered_chunks (by simp), ← List.flatMap_def, List.flatMap_singleton']
  rfl

end velvet.distributed_work_unix_transport
