import VelvetRuntime.Python.Program
import VelvetRuntime.Wake.Policy

open python velvet.wake_request_policy

namespace velvet.founder_wake_actuator

inductive WakeMethod where
  | wake_on_lan
  | power_button_contact
  deriving DecidableEq, Repr

structure WakeActuationResult where
  request_id : String
  target_body_id : String
  method : Option WakeMethod
  dispatched : Bool
  detail : String
  deriving DecidableEq

/-- The fixed routes from power states to wake methods. The proof is the constructor's check; a route
always names a backend. -/
structure FounderWakeDispatcher where
  target_body_id : String
  method_by_power_state : PowerState → Option WakeMethod
  awake_unrouted : method_by_power_state .awake = none

def actuation_error (message : String) : Error := ⟨.FounderWakeActuationError, message⟩

end velvet.founder_wake_actuator

namespace velvet.wake_power_supervisor

open velvet.founder_wake_actuator Program

def MAX_WAKE_TRANSPORT_PAYLOAD_BYTES : Nat := 4096

/-- What `json.loads` makes of the bytes of a payload. -/
inductive Decoded where
  | invalid
  | not_a_mapping
  | mapping (raw : Dict String Json)

/-- The bytes of a payload: how many there are, and what they decode to. -/
structure Payload where
  size : Nat
  decoded : Decoded

structure WakeSupervisorOutcome where
  decision : WakePolicyDecision
  actuation : Option WakeActuationResult
  deriving DecidableEq

/-- A transport envelope; a payload that is not bytes is absent. -/
structure Envelope where
  payload_type : String
  source_peer_id : String
  destination_peer_id : String
  payload : Option Payload

/-- One call of the receiver: the envelope, what the providers return, and how the wake backend (with the
text of its result) and the reason store end if they are called. -/
structure Delivery where
  envelope : Envelope
  now_ms : Int
  power_state : Option PowerState
  backend : Except Error String
  recording : Except Error Unit

/-- A receiver over a supervisor with its policy engine and its dispatcher. `dispatches` is the record of
the physical dispatches: for each the request id, and whether the backend returned. -/
structure AuthenticatedWakeEnvelopeReceiver where
  policy : WakeRequestPolicyEngine
  dispatcher : FounderWakeDispatcher
  has_reason_store : Bool
  local_peer_id : String
  last_outcome : Option WakeSupervisorOutcome
  last_error : Option String
  dispatches : List (String × Bool)
  same_body : policy.config.target_body_id = dispatcher.target_body_id

def decode_payload (payload : Payload) : Except Error (Dict String Json) :=
  if payload.size = 0 then .error (policy_error "wake transport payload must be non-empty bytes")
  else if MAX_WAKE_TRANSPORT_PAYLOAD_BYTES < payload.size then
    .error (policy_error "wake transport payload exceeds bounded size")
  else
    match payload.decoded with
    | .invalid => .error (policy_error "wake transport payload is not valid UTF-8 JSON")
    | .not_a_mapping => .error (policy_error "wake transport payload root must be a mapping")
    | .mapping raw =>
      if text_of raw "schema" ≠ some WAKE_REQUEST_SCHEMA then
        .error (policy_error "wake transport payload schema is unsupported")
      else .ok raw

def not_dispatched (decision : WakePolicyDecision) (detail : String) : WakeActuationResult :=
  ⟨decision.request_id, decision.target_body_id, none, false, detail⟩

/-- A dispatch through the backend of a method. -/
def backend_dispatch (method : WakeMethod) (decision : WakePolicyDecision) (backend : Except Error String) :
    Program Error AuthenticatedWakeEnvelopeReceiver WakeActuationResult := do
  modify (fun self => { self with dispatches := self.dispatches ++ [(decision.request_id, backend.isOk)] })
  match backend with
  | .error error => throw error
  | .ok detail => pure ⟨decision.request_id, decision.target_body_id, some method, true, detail⟩

/-- `FounderWakeDispatcher.dispatch`. -/
def dispatch (decision : WakePolicyDecision) (backend : Except Error String) :
    Program Error AuthenticatedWakeEnvelopeReceiver WakeActuationResult := do
  let self ← get
  if decision.target_body_id ≠ self.dispatcher.target_body_id then
    throw (actuation_error "wake decision targets a different body")
  else if !decision.accepted then
    throw (actuation_error "refused wake decisions cannot reach physical adapters")
  else if decision.state = .already_awake ∨ decision.power_state_before = .awake then
    pure (not_dispatched decision "body is already awake; no physical wake dispatched")
  else if decision.state ≠ .eligible then
    throw (actuation_error "only eligible accepted wake decisions may actuate")
  else
    match self.dispatcher.method_by_power_state decision.power_state_before with
    | none => pure (not_dispatched decision "no reviewed wake method is configured for this power state")
    | some method => backend_dispatch method decision backend

/-- What the supervisor does with a decision: only a new accepted one reaches the dispatcher. -/
def actuate (decision : WakePolicyDecision) (backend : Except Error String) (recording : Except Error Unit) :
    Program Error AuthenticatedWakeEnvelopeReceiver WakeSupervisorOutcome :=
  if !decision.accepted then pure ⟨decision, none⟩
  else if decision.state = .duplicate then pure ⟨decision, none⟩
  else do
    let actuation ← dispatch decision backend
    let self ← get
    if actuation.dispatched && self.has_reason_store then
      match recording with
      | .error error => throw error
      | .ok _ => pure ⟨decision, some actuation⟩
    else pure ⟨decision, some actuation⟩

section

variable (fingerprint_of : Dict String Json → String) (self : WakeRequestPolicyEngine)

theorem config_evaluate_new (request : ParsedWakeRequest) (now : Int)
    (power_state : PowerState) : (self.evaluate_new request now power_state).2.config = self.config := by
  unfold WakeRequestPolicyEngine.evaluate_new
  split
  · rfl
  · split
    · rfl
    · dsimp only
      split
      · rfl
      · split
        · rfl
        · split <;> rfl

variable (payload : Dict String Json)

theorem config_evaluate_request
    (request : ParsedWakeRequest) (now : Int) (power_state : PowerState) :
    (self.evaluate_request fingerprint_of payload request now power_state).2.config = self.config := by
  unfold WakeRequestPolicyEngine.evaluate_request
  split
  · split <;> rfl
  · dsimp only
    rw [WakeRequestPolicyEngine.config_remember]
    exact config_evaluate_new self request now power_state

theorem config_evaluate (now_ms : Int)
    (power_state : Option PowerState) :
    (self.evaluate fingerprint_of payload now_ms power_state).2.config = self.config := by
  unfold WakeRequestPolicyEngine.evaluate
  split
  · rfl
  · split
    · rfl
    · split
      · rfl
      · exact config_evaluate_request fingerprint_of self payload _ now_ms _

/-- A call of the policy engine. -/
def evaluate (payload : Dict String Json) (now_ms : Int) (power_state : Option PowerState) :
    Program Error AuthenticatedWakeEnvelopeReceiver WakePolicyDecision := do
  let self ← get
  set { self with
    policy := (self.policy.evaluate fingerprint_of payload now_ms power_state).2
    same_body := (congrArg WakePolicyConfig.target_body_id
      (config_evaluate fingerprint_of self.policy payload now_ms power_state)).trans self.same_body }
  match (self.policy.evaluate fingerprint_of payload now_ms power_state).1 with
  | .error error => throw error
  | .ok decision => pure decision

def handle_authenticated_payload (payload : Payload) (authenticated_source_peer_id : String)
    (delivery : Delivery) : Program Error AuthenticatedWakeEnvelopeReceiver WakeSupervisorOutcome :=
  match decode_payload payload with
  | .error error => throw error
  | .ok raw =>
    if text_of raw "source_peer_id" ≠ some authenticated_source_peer_id then
      throw (policy_error "wake payload source does not match authenticated peer")
    else do
      let decision ← evaluate fingerprint_of raw delivery.now_ms delivery.power_state
      actuate decision delivery.backend delivery.recording

/-- Whether the receiver's `except` clause names the class of an exception. -/
def caught : ErrorKind → Bool
  | .WakePolicyError | .FounderWakeActuationError | .ValueError | .TypeError => true
  | _ => false

/-- `(str(exc) or type(exc).__name__)[:256]` of an exception that is caught. -/
def error_text (error : Error) : String :=
  let name := match error.kind with
    | .WakePolicyError => "WakePolicyError"
    | .FounderWakeActuationError => "FounderWakeActuationError"
    | .ValueError => "ValueError"
    | _ => "TypeError"
  let text := if error.message = "" then name else error.message
  String.ofList (text.toList.take 256)

/-- What is wrong with the transport fields of an envelope. -/
def transport_error (local_peer_id : String) (envelope : Envelope) : Option String :=
  if envelope.payload_type ≠ WAKE_REQUEST_SCHEMA then some "transport payload is not a wake request"
  else if envelope.destination_peer_id ≠ local_peer_id then
    some "wake envelope targets a different supervisor peer"
  else if envelope.source_peer_id = "" then some "wake envelope source peer is invalid"
  else if envelope.payload.isNone then some "wake envelope payload must be bytes"
  else none

/-- The answer of the receiver to an outcome. -/
def acknowledge (outcome : WakeSupervisorOutcome) : Program Error AuthenticatedWakeEnvelopeReceiver Bool := do
  modify (fun self => { self with
    last_error := none
    last_outcome := some outcome })
  pure outcome.decision.accepted

/-- The answer of the receiver to an exception: one that is not named is passed on. -/
def reject (error : Error) : Program Error AuthenticatedWakeEnvelopeReceiver Bool :=
  if caught error.kind then do
    modify (fun self => { self with
      last_error := some (error_text error)
      last_outcome := none })
    pure false
  else throw error

/-- `AuthenticatedWakeEnvelopeReceiver.__call__`. -/
def receive (delivery : Delivery) : Program Error AuthenticatedWakeEnvelopeReceiver Bool := do
  let self ← get
  match transport_error self.local_peer_id delivery.envelope, delivery.envelope.payload with
  | some message, _ => do
    modify (fun self => { self with last_error := some message })
    pure false
  | none, none => pure false
  | none, some payload =>
    tryCatch
      (handle_authenticated_payload fingerprint_of payload delivery.envelope.source_peer_id delivery >>= acknowledge)
      reject

end

end velvet.wake_power_supervisor
