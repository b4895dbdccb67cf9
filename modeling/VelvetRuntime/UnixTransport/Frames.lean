import VelvetRuntime.Python.Socket
import VelvetRuntime.Python.ValueLimits
import VelvetRuntime.UnixTransport.Server

open python python.str python.num python.json python.socket

namespace velvet.distributed_work_unix_transport

/-- The interpreter of a server: the text of floats, its limits, SHA-256, `str.isalnum` on one character, and the texts of
its own errors of `json`. It may write a few nested objects. -/
structure Interpreter where
  floats : FloatText
  limits : Limits
  sha256 : String → String
  isalnum : Char → Bool
  fault_text : Fault → String
  room : 2 ≤ limits.encode_depth

/-- A message as it is sent. -/
abbrev WireMessage : Type := List (String × PyObject)

def transport_error (message : String) : Error := ⟨.UnixTransportError, message⟩

def connection_closed : Error := transport_error "Unix RPC connection closed mid-frame"

/-- `**_TRANSPORT_FLAGS`. -/
def transport_flags : WireMessage := TRANSPORT_FLAGS.map (fun flag => (flag.1, PyObject.of_json flag.2.1))

/-- `_success_response`. -/
def success_message (request_id : String) (result : PyObject) : WireMessage :=
  [("protocol", .text PROTOCOL), ("kind", .text "response"), ("request_id", .text request_id), ("ok", .bool true),
    ("result", result), ("error_type", .null), ("error", .null)] ++ transport_flags

/-- `_error_response`. -/
def error_message (request_id error_type error : String) : WireMessage :=
  [("protocol", .text PROTOCOL), ("kind", .text "response"), ("request_id", .text request_id), ("ok", .bool false),
    ("result", .mapping []), ("error_type", .text (bounded_text error_type "RemoteError" 128)),
    ("error", .text (bounded_text error "local endpoint rejected request" 1024))] ++ transport_flags

/-- How the dispatch of a request ends: it returns any object, where a mapping is given as the `dict` of its entries, or
raises an exception of some class with some text, or one that `except Exception` does not catch. -/
inductive Dispatch where
  | returned (result : PyObject)
  | raised (error_type error : String)
  | interrupted (error : Error) (uncaught : error.is_exception = false)

/-- `isinstance(result, Mapping)`. -/
def is_mapping : PyObject → Bool
  | .mapping _ | .keyed _ _ => true
  | .null | .bool _ | .int _ | .float _ | .text _ | .list _ | .tuple _ | .foreign _ => false

/-- A client that connects: who it is, what arrives from it, how its request is dispatched if it is, and how sending the
response ends. -/
structure Client where
  credentials : PeerCredentials
  arrivals : List Arrival
  dispatch : Dispatch
  sent : Sent

section frames

variable (interpreter : Interpreter)

def reader : Reader where
  floats := interpreter.floats
  parse_constant := fun constant => some (.float constant)
  object_of_pairs := dict_of_pairs

/-- The errors of `json` that nothing renames. -/
def fault_error : Fault → Error
  | .too_deep => ⟨.RecursionError, interpreter.fault_text .too_deep⟩
  | fault => ⟨.ValueError, interpreter.fault_text fault⟩

/-- `json.loads` of a frame; only the errors of the decoder are renamed. -/
def decode_frame (payload : ByteArray) : Except Error (Dict String Json) :=
  match String.fromUTF8? payload with
  | none => .error (transport_error "Unix RPC frame is not valid UTF-8 JSON")
  | some text =>
    match loads_within interpreter.limits (reader interpreter) text with
    | .error .invalid => .error (transport_error "Unix RPC frame is not valid UTF-8 JSON")
    | .error fault => .error (fault_error interpreter fault)
    | .ok (.object entries) => .ok (entries.foldl (fun message entry => message.set entry.1 entry.2) .empty)
    | .ok _ => .error (transport_error "Unix RPC frame root must be a mapping")

def receive_frame (limit : Nat) (arrivals : List Arrival) : Except Error (Dict String Json) := do
  let (header, arrivals) ← receive_exact connection_closed 4 arrivals
  let size := unpack header
  if size < 2 ∨ limit < size then .error (transport_error "Unix RPC frame length is invalid")
  else do
    let (payload, _) ← receive_exact connection_closed size arrivals
    decode_frame interpreter payload.toByteArray

/-- `_canonical_bytes` when `json.dumps` raises: a `RecursionError` is passed on. -/
def canonical_error : Fault → Error
  | .too_deep => fault_error interpreter .too_deep
  | .invalid | .too_many_digits => transport_error "Unix RPC message is not canonical JSON data"

/-- `_canonical_bytes` of a message that was received. -/
def canonical_request (request : Dict String Json) : Except Error String :=
  match dumps_within interpreter.limits interpreter.floats true (.object request.items) with
  | .error fault => .error (canonical_error interpreter fault)
  | .ok text => .ok text

/-- The text of a message that is written. -/
def message_text (message : WireMessage) : List Char :=
  encode interpreter.floats true ((PyObject.mapping message).written.getD .null)

/-- `_canonical_bytes`. -/
def canonical_bytes (message : WireMessage) : Except Error ByteArray :=
  match (PyObject.mapping message).fault interpreter.limits interpreter.limits.encode_depth with
  | some fault => .error (canonical_error interpreter fault)
  | none => .ok (String.ofList (message_text interpreter message)).toUTF8

/-- `_send_frame`: the bytes for `sendall`. -/
def send_frame (limit : Nat) (message : WireMessage) : Except Error ByteArray := do
  let payload ← canonical_bytes interpreter message
  if payload.size = 0 ∨ limit < payload.size then .error (transport_error "Unix RPC frame exceeds configured limit")
  else do
    let header ← pack payload.size
    .ok (header.toByteArray ++ payload)

def builtins : Builtins where
  canonical_bytes := fun request => (canonical_request interpreter request).toOption
  sha256 := interpreter.sha256
  isalnum := interpreter.isalnum

end frames

/-- `UnixRpcServer` with the frames that it receives and sends. -/
structure FrameServer where
  allowed_uids : List Nat
  allowed_gids : List Nat
  request_cache_size : Nat
  max_frame_bytes : Nat
  cache : Dict String (String × WireMessage)
  cache_size_positive : 1 ≤ request_cache_size
  frame_limit : 1024 ≤ max_frame_bytes

section serving

variable [StrLower] (interpreter : Interpreter)

/-- The id and the canonical content of a request. -/
def identify (request : Dict String Json) : Except Error (String × String) := do
  let request_id ← validate_request (builtins interpreter) request
  let content ← canonical_request interpreter request
  .ok (request_id, content)

namespace FrameServer

def peer_allowed (self : FrameServer) (credentials : PeerCredentials) : Bool :=
  credentials.uid ∈ self.allowed_uids && (self.allowed_gids = [] || credentials.gid ∈ self.allowed_gids)

/-- The response of a dispatch; what `except Exception` does not catch is passed on. -/
def dispatch_response (request_id : String) : Dispatch → Except Error WireMessage
  | .returned result =>
    if is_mapping result then .ok (success_message request_id result)
    else .ok (error_message request_id "TypeError" "RPC dispatch must return a mapping")
  | .raised error_type error => .ok (error_message request_id error_type error)
  | .interrupted error _ => .error error

def reuse_message (request_id : String) : WireMessage :=
  error_message request_id "RequestIdReuseError" "request_id was reused with different content"

/-- A response is kept, and the oldest ones make room. -/
def keep (self : FrameServer) (request_id fingerprint : String) (response : WireMessage) : FrameServer :=
  { self with cache :=
    ((self.cache.pop request_id).set request_id (fingerprint, response)).keep_last self.request_cache_size }

def handle_request (self : FrameServer) (request : Dict String Json) (dispatch : Dispatch) :
    Except Error WireMessage × FrameServer :=
  match identify interpreter request with
  | .error error => (.error error, self)
  | .ok (request_id, content) =>
    match self.cache.get? request_id with
    | some (fingerprint, response) =>
      if fingerprint ≠ interpreter.sha256 content then (.ok (reuse_message request_id), self)
      else (.ok response, { self with cache := self.cache.move_to_end request_id })
    | none =>
      match dispatch_response request_id dispatch with
      | .error error => (.error error, self)
      | .ok response => (.ok response, self.keep request_id (interpreter.sha256 content) response)

/-- The response to an exception; what `except Exception` does not catch is passed on. -/
def failure_message (request_id : String) (error : Error) : Except Error WireMessage :=
  if error.is_exception then .ok (error_message request_id error.kind.name error.message) else .error error

/-- The response to a client that is allowed, before it is sent. -/
def respond (self : FrameServer) (client : Client) : Except Error WireMessage × FrameServer :=
  match receive_frame interpreter self.max_frame_bytes client.arrivals with
  | .error error => (failure_message "unknown" error, self)
  | .ok request =>
    match self.handle_request interpreter request client.dispatch with
    | (.ok response, self) => (.ok response, self)
    | (.error error, self) => (failure_message (safe_request_id request) error, self)

/-- `serve_once` once a client is accepted: sending is outside of what is caught, but for a peer that is gone. -/
def serve_once (self : FrameServer) (client : Client) : Except Error Bool × FrameServer :=
  if !self.peer_allowed client.credentials then (.ok true, self)
  else
    match self.respond interpreter client with
    | (.error error, self) => (.error error, self)
    | (.ok response, self) =>
      match send_frame interpreter self.max_frame_bytes response with
      | .error error => (.error error, self)
      | .ok _ =>
        match client.sent with
        | .raised error => (.error error, self)
        | .delivered | .lost => (.ok true, self)

/-- The loop of `serve_forever` over the clients that it accepts. -/
def serve_all (self : FrameServer) : List Client → Except Error Unit × FrameServer
  | [] => (.ok (), self)
  | client :: rest =>
    match self.serve_once interpreter client with
    | (.error error, self) => (.error error, self)
    | (.ok _, self) => self.serve_all rest

end FrameServer

end serving

end velvet.distributed_work_unix_transport
