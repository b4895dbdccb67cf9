import VelvetRuntime.Python.JsonSize
import VelvetRuntime.UnixTransport.Frames

open python python.str python.num python.json python.socket python.except

namespace velvet.distributed_work_unix_transport

/-- How many bytes a frame has for its message: the limit of the server, and what the header can say. -/
def frame_room (limit : Nat) : Nat := min limit (2 ^ 32 - 1)

def quoted_size (text : String) : Nat := text_size (quote true text)

section sizes

variable (interpreter : Interpreter)

def data_size (data : Json) : Nat := text_size (encode interpreter.floats true data)

/-- A result fits when it is JSON data for the interpreter, one level down, and takes no more than the rest of its
response leaves. -/
structure ResultFits (room : Nat) (request_id : String) (result : PyObject) : Prop where
  encodable : result.fault interpreter.limits (interpreter.limits.encode_depth - 1) = none
  size : 254 + quoted_size request_id + data_size interpreter (result.written.getD .null) ≤ room

/-- An error fits a frame of 16 KiB whatever it says, and a smaller one when it takes no more than the rest of its
response leaves. -/
def ErrorFits (room : Nat) (request_id error_type error : String) : Prop :=
  16384 ≤ room ∨
    249 + quoted_size request_id + quoted_size (bounded_text error_type "RemoteError" 128) +
      quoted_size (bounded_text error "local endpoint rejected request" 1024) ≤ room

/-- The message can be made a frame. -/
def Sendable (limit : Nat) (message : WireMessage) : Prop := ∃ frame, send_frame interpreter limit message = .ok frame

end sizes

variable {interpreter : Interpreter} {limit : Nat} {message : WireMessage}

theorem sendable_iff : Sendable interpreter limit message ↔
    (PyObject.mapping message).fault interpreter.limits interpreter.limits.encode_depth = none ∧
      text_size (message_text interpreter message) ≠ 0 ∧
      text_size (message_text interpreter message) ≤ frame_room limit := by
  unfold Sendable send_frame canonical_bytes frame_room
  cases hfault : (PyObject.mapping message).fault interpreter.limits interpreter.limits.encode_depth with
  | some fault =>
    refine iff_of_false ?_ (fun hall => nomatch hall.1)
    rintro ⟨frame, hframe⟩
    obtain ⟨payload, hpayload, -⟩ := bind_eq_ok.mp hframe
    cases hpayload
  | none =>
    simp only [ok_bind, guard_eq_ok, true_and]
    change (∃ frame, ¬(text_size (message_text interpreter message) = 0 ∨
      limit < text_size (message_text interpreter message)) ∧
        (pack (text_size (message_text interpreter message)) >>= _) = _) ↔ _
    generalize hsize : text_size (message_text interpreter message) = size
    constructor
    · rintro ⟨frame, hlimit, hframe⟩
      obtain ⟨header, hheader, -⟩ := bind_eq_ok.mp hframe
      have hsmall := (guard_eq_ok.mp hheader).1
      omega
    · rintro ⟨hpositive, hroom⟩
      have hsmall : ¬2 ^ 32 ≤ size := by omega
      refine ⟨_, by omega, bind_eq_ok.mpr ⟨_, guard_eq_ok.mpr ⟨hsmall, rfl⟩, rfl⟩⟩

section data

/-- The data of a response. -/
def response_data (request_id : String) (ok : Bool) (result error_type error : Json) : List (String × Json) :=
  [("protocol", .text PROTOCOL), ("kind", .text "response"), ("request_id", .text request_id), ("ok", .bool ok),
    ("result", result), ("error_type", error_type), ("error", error)] ++
      TRANSPORT_FLAGS.map (fun flag => (flag.1, flag.2.1))

theorem quoted_size_eq_sum (text : String) : quoted_size text = ((quote true text).map Char.utf8Size).sum :=
  text_size_eq_sum _

theorem data_size_bool (value : Bool) : data_size interpreter (.bool value) = if value then 4 else 5 := by
  unfold data_size
  rw [encode, text_size_eq_sum]
  cases value <;> decide

theorem data_size_null : data_size interpreter .null = 4 := by
  unfold data_size
  rw [encode, text_size_eq_sum]
  decide

theorem data_size_empty : data_size interpreter (.object []) = 2 := by
  have hencode : encode interpreter.floats true (.object []) = ['\x7b', '\x7d'] := by
    rw [encode, encode_entries]
    rfl
  unfold data_size
  rw [hencode, text_size_eq_sum]
  decide

theorem data_size_text (value : String) : data_size interpreter (.text value) = quoted_size value := by
  unfold data_size quoted_size
  rw [encode]

/-- What a response takes, besides what it says. -/
theorem data_size_response (request_id : String) (ok : Bool) (result error_type error : Json) :
    data_size interpreter (.object (response_data request_id ok result error_type error)) =
      242 + data_size interpreter (.bool ok) + quoted_size request_id + data_size interpreter result +
        data_size interpreter error_type + data_size interpreter error := by
  have hentries : response_data request_id ok result error_type error ≠ [] := List.cons_ne_nil _ _
  have hkeys : (((response_data request_id ok result error_type error).map Prod.fst).map
      (fun key => text_size (quote true key) + 2)).sum = 177 := by
    simp only [text_size_eq_sum]
    change (["protocol", "kind", "request_id", "ok", "result", "error_type", "error", "transport_only", "canonical",
      "grants_authority", "grants_execution", "grants_actuation", "authority"].map
        (fun key => ((quote true key).map Char.utf8Size).sum + 2)).sum = 177
    decide
  have hvalues : ((response_data request_id ok result error_type error).map Prod.snd).map (data_size interpreter) =
      [quoted_size PROTOCOL, quoted_size "response", quoted_size request_id, data_size interpreter (.bool ok),
        data_size interpreter result, data_size interpreter error_type, data_size interpreter error, 4, 5, 5, 5, 5,
        quoted_size "none"] := by
    simp only [response_data, TRANSPORT_FLAGS, List.map_cons, List.map_nil, List.cons_append, List.nil_append,
      data_size_text, data_size_bool]
    rfl
  have hprotocol : quoted_size PROTOCOL = 24 := by
    rw [quoted_size_eq_sum]
    decide
  have hkind : quoted_size "response" = 10 := by
    rw [quoted_size_eq_sum]
    decide
  have hauthority : quoted_size "none" = 6 := by
    rw [quoted_size_eq_sum]
    decide
  have hobject := text_size_object interpreter.floats true hentries
  change _ = _ + (((response_data request_id ok result error_type error).map Prod.snd).map
    (data_size interpreter)).sum at hobject
  rw [hkeys, hvalues] at hobject
  simp only [List.sum_cons, List.sum_nil, hprotocol, hkind, hauthority] at hobject
  unfold data_size at hobject ⊢
  omega

end data

/-- A message is encodable when its values are, one level down. -/
theorem message_fault_eq_none_iff {depth : Nat} (hdepth : interpreter.limits.encode_depth = depth + 1) :
    (PyObject.mapping message).fault interpreter.limits interpreter.limits.encode_depth = none ↔
      ∀ entry ∈ PyObject.entry_faults interpreter.limits message depth, entry.2 = none := by
  rw [hdepth, PyObject.fault, List.findSome?_eq_none_iff]
  exact forall_congr' fun entry => imp_congr_left (List.mem_insertionSort _)

theorem text_size_of_written {data : Json} (hwritten : (PyObject.mapping message).written = some data) :
    text_size (message_text interpreter message) = data_size interpreter data := by
  unfold message_text
  rw [hwritten]
  rfl

theorem exists_encode_depth (interpreter : Interpreter) : ∃ depth, interpreter.limits.encode_depth = depth + 2 :=
  ⟨interpreter.limits.encode_depth - 2, by have := interpreter.room; omega⟩

theorem written_success_message {request_id : String} {result : PyObject} {data : Json}
    (hdata : result.written = some data) : (PyObject.mapping (success_message request_id result)).written =
      some (.object (response_data request_id true data .null .null)) := by
  unfold PyObject.written at hdata ⊢
  simp only [success_message, transport_flags, TRANSPORT_FLAGS, response_data, List.map_cons, List.map_nil,
    List.cons_append, List.nil_append, PyObject.encode_with, PyObject.encode_entries, hdata, PyObject.of_json,
    Option.bind_some, Option.map_some]

theorem sendable_success_iff {request_id : String} {result : PyObject} :
    Sendable interpreter limit (success_message request_id result) ↔
      ResultFits interpreter (frame_room limit) request_id result := by
  obtain ⟨depth, hdepth⟩ := exists_encode_depth interpreter
  have hfault : (PyObject.mapping (success_message request_id result)).fault interpreter.limits
      interpreter.limits.encode_depth = none ↔ result.fault interpreter.limits (depth + 1) = none := by
    rw [message_fault_eq_none_iff hdepth]
    simp [success_message, transport_flags, TRANSPORT_FLAGS, PyObject.entry_faults, PyObject.fault, PyObject.of_json]
  have hless : interpreter.limits.encode_depth - 1 = depth + 1 := by omega
  rw [sendable_iff, hfault]
  have hsize : ∀ data, result.written = some data →
      text_size (message_text interpreter (success_message request_id result)) =
        254 + quoted_size request_id + data_size interpreter data := by
    intro data hdata
    rw [text_size_of_written (written_success_message hdata), data_size_response, data_size_null, data_size_bool,
      if_pos rfl]
    omega
  constructor
  · rintro ⟨hresult, -, hroom⟩
    obtain ⟨data, hdata, -⟩ := PyObject.written_of_fault_eq_none hresult
    rw [hsize data hdata] at hroom
    exact ⟨hless ▸ hresult, by rwa [hdata]⟩
  · rintro ⟨hresult, hroom⟩
    rw [hless] at hresult
    obtain ⟨data, hdata, -⟩ := PyObject.written_of_fault_eq_none hresult
    rw [hdata] at hroom
    rw [hsize data hdata]
    exact ⟨hresult, by omega, hroom⟩

theorem length_bounded_text (text default : String) (size : Nat) : (bounded_text text default size).length ≤ size := by
  unfold bounded_text
  rw [String.length_ofList]
  exact List.length_take_le _ _

theorem written_error_message (request_id error_type error : String) :
    (PyObject.mapping (error_message request_id error_type error)).written =
      some (.object (response_data request_id false (.object []) (.text (bounded_text error_type "RemoteError" 128))
        (.text (bounded_text error "local endpoint rejected request" 1024)))) := by
  unfold PyObject.written
  simp only [error_message, transport_flags, TRANSPORT_FLAGS, response_data, List.map_cons, List.map_nil,
    List.cons_append, List.nil_append, PyObject.encode_with, PyObject.encode_entries, PyObject.of_json,
    Option.bind_some, Option.map_some]

/-- An error is always JSON data, and what it takes is bounded. -/
theorem sendable_error_iff {request_id error_type error : String} (hid : request_id.length ≤ 128) :
    Sendable interpreter limit (error_message request_id error_type error) ↔
      ErrorFits (frame_room limit) request_id error_type error := by
  obtain ⟨depth, hdepth⟩ := exists_encode_depth interpreter
  have hfault : (PyObject.mapping (error_message request_id error_type error)).fault interpreter.limits
      interpreter.limits.encode_depth = none := by
    rw [message_fault_eq_none_iff hdepth]
    simp [error_message, transport_flags, TRANSPORT_FLAGS, PyObject.entry_faults, PyObject.fault, PyObject.of_json,
      sort_keys]
  have hsize : text_size (message_text interpreter (error_message request_id error_type error)) =
      249 + quoted_size request_id + quoted_size (bounded_text error_type "RemoteError" 128) +
        quoted_size (bounded_text error "local endpoint rejected request" 1024) := by
    rw [text_size_of_written (written_error_message request_id error_type error), data_size_response, data_size_empty,
      data_size_bool, if_neg Bool.false_ne_true, data_size_text, data_size_text]
    omega
  have hbound : ∀ text size, text.length ≤ size → quoted_size text ≤ 12 * size + 2 := fun text size hlength =>
    (text_size_quote true text).trans (by omega)
  have hid := hbound request_id 128 hid
  have htype := hbound _ 128 (length_bounded_text error_type "RemoteError" 128)
  have herror := hbound _ 1024 (length_bounded_text error "local endpoint rejected request" 1024)
  rw [sendable_iff, hsize]
  unfold ErrorFits
  constructor
  · exact fun ⟨_, _, hroom⟩ => .inr hroom
  · intro hroom
    exact ⟨hfault, by omega, by omega⟩

end velvet.distributed_work_unix_transport
