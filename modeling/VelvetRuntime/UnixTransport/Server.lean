import VelvetRuntime.Python.Json
import VelvetRuntime.Python.Recency
import VelvetRuntime.Text
import VelvetRuntime.Error

open python python.str

namespace velvet.distributed_work_unix_transport

def PROTOCOL : String := "velvet.runtime.unix.v1"

/-- `_TRANSPORT_FLAGS`, each with the text of its value in an error message. -/
def TRANSPORT_FLAGS : List (String × Json × String) :=
  [("transport_only", .bool true, "True"), ("canonical", .bool false, "False"),
    ("grants_authority", .bool false, "False"), ("grants_execution", .bool false, "False"),
    ("grants_actuation", .bool false, "False"), ("authority", .text "none", "'none'")]

/-- What the transport uses of `json`, `hashlib` and `str`: the canonical encoding of a message (absent when
it is not canonical JSON data), the hash of an encoding, and `str.isalnum` on one character. -/
structure Builtins where
  canonical_bytes : Dict String Json → Option String
  sha256 : String → String
  isalnum : Char → Bool

structure PeerCredentials where
  pid : Nat
  uid : Nat
  gid : Nat

/-- A response: the result of the dispatch, or the type and the text of an error. -/
structure Response where
  request_id : String
  outcome : Except (String × String) (Dict String Json)

/-- How a dispatch ends. -/
inductive Dispatched where
  | returned (result : Dict String Json)
  | not_a_mapping
  | raised (error : Error)

/-- How sending a response ends: the peer may be gone, and an exception that is not caught is passed on. -/
inductive Sent where
  | delivered
  | lost
  | raised (error : Error)

/-- One connection that the server accepts: its peer, the frame it sends, how the dispatch ends if there is
one, and how sending the response ends. -/
structure Connection where
  credentials : Except Error PeerCredentials
  frame : Except Error (Dict String Json)
  dispatch : Dispatched
  sent : Sent

def value_error (message : String) : Error := ⟨.ValueError, message⟩

/-- `value == expected` for the values of the flags; `True` equals one and `False` equals zero. -/
def equals : Option Json → Json → Bool
  | some (.bool value), .bool expected => value = expected
  | some (.int value), .bool expected => value = if expected then 1 else 0
  | some (.float value), .bool expected => value = .finite (if expected then 1 else 0)
  | some (.text value), .text expected => value = expected
  | _, _ => false

def validate_envelope_flags (envelope : Dict String Json) : Except Error Unit :=
  match TRANSPORT_FLAGS.find? (fun flag => !equals (envelope.get? flag.1) flag.2.1) with
  | none => .ok ()
  | some (key, _, expected) => .error (value_error ("Unix RPC envelope " ++ key ++ " must be " ++ expected))

def required_text (name : String) : Option Json → Except Error String
  | some (.text value) =>
    if Blank value then .error (value_error (name ++ " must be a non-empty string")) else .ok (stripped value)
  | _ => .error (value_error (name ++ " must be a non-empty string"))

def request_id (value : Option Json) : Except Error String := do
  let text ← required_text "request_id" value
  if 128 < text.length ∨ text.toList.any (fun c => 127 < c.toNat) ∨ text.toList.any (fun c => c.toNat < 33) then
    .error (value_error "request_id must be printable ASCII up to 128 characters")
  else .ok text

def safe_request_id (request : Dict String Json) : String :=
  match request_id (request.get? "request_id") with
  | .ok text => text
  | .error _ => "unknown"

def success_response (request_id : String) (result : Dict String Json) : Response := ⟨request_id, .ok result⟩

/-- `str(text or default)[:limit]`. -/
def bounded_text (text default : String) (limit : Nat) : String :=
  String.ofList ((if text = "" then default else text).toList.take limit)

def error_response (request_id error_type error : String) : Response :=
  ⟨request_id, .error (bounded_text error_type "RemoteError" 128,
    bounded_text error "local endpoint rejected request" 1024)⟩

/-- The response to an exception; what `except Exception` does not catch is passed on. -/
def failure (request_id : String) (error : Error) : Except Error Response :=
  if error.is_exception then .ok (error_response request_id error.kind.name error.message) else .error error

/-- The response of a dispatch. -/
def dispatch_response (request_id : String) : Dispatched → Except Error Response
  | .returned result => .ok (success_response request_id result)
  | .not_a_mapping => failure request_id ⟨.TypeError, "RPC dispatch must return a mapping"⟩
  | .raised error => failure request_id error

def reuse_response (request_id : String) : Response :=
  error_response request_id "RequestIdReuseError" "request_id was reused with different content"

/-- The server, with the request ids it has dispatched. `closed` says that an exception has ended
`serve_forever`. -/
structure UnixRpcServer where
  allowed_uids : List Nat
  allowed_gids : List Nat
  request_cache_size : Nat
  cache : Dict String (String × Response)
  dispatches : List String
  closed : Bool
  cache_size_positive : 1 ≤ request_cache_size

section

variable [StrLower] (builtins : Builtins)

def required_operation (value : Option Json) : Except Error String := do
  let operation ← required_text "operation" value
  if operation ≠ normalized operation then .error (value_error "operation must already be normalized")
  else
    let letters := operation.toList.filter (· ≠ '_')
    if 64 < operation.length ∨ letters = [] ∨ letters.any (fun c => !builtins.isalnum c) then
      .error (value_error "operation contains unsupported characters")
    else .ok operation

/-- `_validate_request`; the operation and the payload go to the dispatch. -/
def validate_request (request : Dict String Json) : Except Error String := do
  validate_envelope_flags request
  if !equals (request.get? "protocol") (.text PROTOCOL) || !equals (request.get? "kind") (.text "request") then
    .error (value_error "unsupported Unix RPC request protocol")
  else do
    let identifier ← request_id (request.get? "request_id")
    let _ ← required_operation builtins (request.get? "operation")
    match request.get? "payload" with
    | some (.object _) => .ok identifier
    | _ => .error ⟨.TypeError, "Unix RPC request payload must be a mapping"⟩

namespace UnixRpcServer

def new (allowed_uids allowed_gids : List Nat) (request_cache_size : Nat)
    (cache_size_positive : 1 ≤ request_cache_size) : UnixRpcServer where
  allowed_uids
  allowed_gids
  request_cache_size
  cache := .empty
  dispatches := []
  closed := false
  cache_size_positive

def peer_allowed (self : UnixRpcServer) (credentials : PeerCredentials) : Bool :=
  credentials.uid ∈ self.allowed_uids && (self.allowed_gids = [] || credentials.gid ∈ self.allowed_gids)

/-- A request that is not in the cache: it is dispatched and its response is kept. -/
def dispatch_request (self : UnixRpcServer) (request_id fingerprint : String) (dispatch : Dispatched) :
    Except Error Response × UnixRpcServer :=
  let self := { self with dispatches := self.dispatches ++ [request_id] }
  match dispatch_response request_id dispatch with
  | .error error => (.error error, self)
  | .ok response =>
    (.ok response, { self with cache :=
      ((self.cache.pop request_id).set request_id (fingerprint, response)).keep_last self.request_cache_size })

def handle_request (self : UnixRpcServer) (request : Dict String Json) (dispatch : Dispatched) :
    Except Error Response × UnixRpcServer :=
  match validate_request builtins request with
  | .error error => (.error error, self)
  | .ok request_id =>
    match builtins.canonical_bytes request with
    | none => (.error ⟨.UnixTransportError, "Unix RPC message is not canonical JSON data"⟩, self)
    | some content =>
      match self.cache.get? request_id with
      | some (cached_fingerprint, cached_response) =>
        if cached_fingerprint ≠ builtins.sha256 content then (.ok (reuse_response request_id), self)
        else (.ok cached_response, { self with cache := self.cache.move_to_end request_id })
      | none => self.dispatch_request request_id (builtins.sha256 content) dispatch

/-- The response to a connection, before it is sent. A peer that is not allowed gets none. -/
def respond (self : UnixRpcServer) (connection : Connection) : Except Error (Option Response) × UnixRpcServer :=
  match connection.credentials with
  | .error error => (.error error, self)
  | .ok credentials =>
    if !self.peer_allowed credentials then (.ok none, self)
    else
      match connection.frame with
      | .error error => ((failure "unknown" error).map some, self)
      | .ok request =>
        match self.handle_request builtins request connection.dispatch with
        | (.ok response, self) => (.ok (some response), self)
        | (.error error, self) => ((failure (safe_request_id request) error).map some, self)

def serve_once (self : UnixRpcServer) (connection : Connection) : Except Error Bool × UnixRpcServer :=
  match self.respond builtins connection with
  | (.error error, self) => (.error error, self)
  | (.ok none, self) => (.ok true, self)
  | (.ok (some _), self) =>
    match connection.sent with
    | .raised error => (.error error, self)
    | .delivered | .lost => (.ok true, self)

/-- One turn of `serve_forever`: an exception ends it. -/
def serve (self : UnixRpcServer) (connection : Connection) : UnixRpcServer :=
  if self.closed then self
  else
    match self.serve_once builtins connection with
    | (.ok _, self) => self
    | (.error _, self) => { self with closed := true }

/-- The server after the connections of a run. -/
def run (self : UnixRpcServer) (connections : List Connection) : UnixRpcServer :=
  connections.foldl (fun self connection => self.serve builtins connection) self

end UnixRpcServer

end

end velvet.distributed_work_unix_transport
