import VelvetRuntime.Python.Json
import VelvetRuntime.Python.Dict
import VelvetRuntime.Error

open python python.num

namespace velvet.wake_request_policy

def WAKE_REQUEST_SCHEMA : String := "velvet.communications.wake_request.v1"
def MAX_WAKE_REQUEST_TTL_MS : Int := 5 * 60 * 1000
def MAX_FUTURE_OBSERVATION_SKEW_MS : Int := 30000
def MAX_WAKE_EVIDENCE_REFS : Nat := 8
def MAX_WAKE_EVIDENCE_REF_CHARS : Nat := 160
def MAX_WAKE_SUMMARY_CHARS : Nat := 256
def MAX_POLICY_SOURCES : Nat := 64
def MAX_REASONS_PER_SOURCE : Nat := 16
def MAX_REQUEST_CACHE : Nat := 1024

inductive WakeReason where
  | security_motion
  | security_tamper
  | security_forced_entry
  | security_glass_break
  | security_video_anomaly
  | medical_alert
  | safety_alert
  | node_health
  | owner_request
  | scheduled
  deriving DecidableEq, Repr

inductive Severity where
  | attention
  | urgent
  | emergency
  deriving DecidableEq, Repr

def Severity.rank : Severity → Nat
  | .attention => 1
  | .urgent => 2
  | .emergency => 3

inductive PowerState where
  | awake
  | suspended
  | off
  | unknown
  deriving DecidableEq, Repr

/-- `_ID_RE.fullmatch(value)`. -/
def is_identifier (value : String) : Bool :=
  match value.toList with
  | [] => false
  | first :: rest =>
    first.isAlphanum && rest.length ≤ 127 && rest.all (fun c => c.isAlphanum || c ∈ ['.', '_', ':', '-'])

/-- A source's fixed policy. The proofs are the checks of `__post_init__`. -/
structure WakeSourcePolicy where
  source_peer_id : String
  allowed_reasons : List WakeReason
  minimum_severity : Severity
  evidence_required_reasons : List WakeReason
  max_requests_per_window : Nat
  window_ms : Nat
  cooldown_ms : Nat
  source_peer_id_valid : is_identifier source_peer_id = true
  allowed_nonempty : allowed_reasons ≠ []
  allowed_bounded : allowed_reasons.length ≤ MAX_REASONS_PER_SOURCE ∧ allowed_reasons.Nodup
  evidence_bounded : evidence_required_reasons.length ≤ MAX_REASONS_PER_SOURCE ∧ evidence_required_reasons.Nodup
  evidence_allowed : evidence_required_reasons ⊆ allowed_reasons
  max_requests_bounds : 1 ≤ max_requests_per_window ∧ max_requests_per_window ≤ 100
  window_bounds : 1 ≤ window_ms ∧ window_ms ≤ 24 * 60 * 60 * 1000
  cooldown_bounds : cooldown_ms ≤ window_ms

structure WakePolicyConfig where
  target_body_id : String
  sources : List WakeSourcePolicy
  target_body_id_valid : is_identifier target_body_id = true
  sources_nonempty : sources ≠ []
  sources_bounded : sources.length ≤ MAX_POLICY_SOURCES
  sources_distinct : (sources.map WakeSourcePolicy.source_peer_id).Nodup

structure ParsedWakeRequest where
  request_id : String
  source_peer_id : String
  target_body_id : String
  reason : WakeReason
  severity : Severity
  observed_at_ms : Int
  expires_at_ms : Int
  evidence_refs : List String
  summary : String
  deriving DecidableEq

inductive DecisionState where
  | eligible
  | already_awake
  | refused
  | duplicate
  deriving DecidableEq, Repr

structure WakePolicyDecision where
  request_id : String
  source_peer_id : String
  target_body_id : String
  reason : WakeReason
  severity : Severity
  accepted : Bool
  state : DecisionState
  detail : String
  evaluated_at_ms : Int
  power_state_before : PowerState
  evidence_refs : List String
  summary : String
  deriving DecidableEq

def policy_error (message : String) : Error := ⟨.WakePolicyError, message⟩

/-- `value == False`: zero counts as false. -/
def Json.equals_false : Option Json → Bool
  | some (.bool value) => !value
  | some (.int value) => value = 0
  | some (.float value) => value = .finite 0
  | _ => false

/-- A key that every wake document has to carry with its fixed value. -/
def fixed_value (payload : Dict String Json) (key : String) : Bool :=
  if key = "authority" then
    match payload.get? key with
    | some (.text value) => value = "none"
    | _ => false
  else Json.equals_false (payload.get? key)

def fixed_keys : List String :=
  ["canonical", "grants_authority", "grants_execution", "grants_actuation", "authority"]

def allowed_keys : List String :=
  ["schema", "request_id", "source_peer_id", "target_body_id", "reason", "severity", "observed_at_ms",
    "expires_at_ms", "evidence_refs", "summary", "canonical", "grants_authority", "grants_execution",
    "grants_actuation", "authority"]

/-- The value under a key when it is text. -/
def text_of (payload : Dict String Json) (key : String) : Option String :=
  match payload.get? key with
  | some (.text value) => some value
  | _ => none

def identifier (payload : Dict String Json) (name : String) : Except Error String :=
  match text_of payload name with
  | some value => if is_identifier value then .ok value else .error (policy_error ("invalid " ++ name))
  | none => .error (policy_error ("invalid " ++ name))

def reason_of_text : String → Option WakeReason
  | "security_motion" => some .security_motion
  | "security_tamper" => some .security_tamper
  | "security_forced_entry" => some .security_forced_entry
  | "security_glass_break" => some .security_glass_break
  | "security_video_anomaly" => some .security_video_anomaly
  | "medical_alert" => some .medical_alert
  | "safety_alert" => some .safety_alert
  | "node_health" => some .node_health
  | "owner_request" => some .owner_request
  | "scheduled" => some .scheduled
  | _ => none

def severity_of_text : String → Option Severity
  | "attention" => some .attention
  | "urgent" => some .urgent
  | "emergency" => some .emergency
  | _ => none

def non_negative_integer (payload : Dict String Json) (name : String) : Except Error Int :=
  match payload.get? name with
  | some (.int value) =>
    if value < 0 then .error (policy_error (name ++ " must be a non-negative integer")) else .ok value
  | _ => .error (policy_error (name ++ " must be a non-negative integer"))

/-- One evidence reference: printable ASCII of bounded length. -/
def evidence_ref : Json → Except Error String
  | .text value =>
    if value = "" ∨ MAX_WAKE_EVIDENCE_REF_CHARS < value.length then
      .error (policy_error "wake evidence reference is invalid")
    else if value.toList.any (fun c => c.toNat < 33 ∨ 126 < c.toNat) then
      .error (policy_error "wake evidence references must be printable ASCII")
    else .ok value
  | _ => .error (policy_error "wake evidence reference is invalid")

def evidence_refs (payload : Dict String Json) : Except Error (List String) :=
  match payload.get? "evidence_refs" with
  | none => .ok []
  | some (.list values) =>
    if MAX_WAKE_EVIDENCE_REFS < values.length then .error (policy_error "too many wake evidence references")
    else do
      let refs ← values.mapM evidence_ref
      if refs.Nodup then .ok refs
      else .error (policy_error "wake evidence references cannot contain duplicates")
  | some _ => .error (policy_error "wake evidence references must be a list")

def summary (payload : Dict String Json) : Except Error String :=
  match payload.get? "summary" with
  | none => .ok ""
  | some (.text value) =>
    if MAX_WAKE_SUMMARY_CHARS < value.length then .error (policy_error "wake summary exceeds bounded length")
    else if value.toList.any (fun c => c.toNat < 32 ∧ c ≠ '\t') then
      .error (policy_error "wake summary contains unsupported control characters")
    else .ok value
  | some _ => .error (policy_error "wake summary must be text")

/-- `_reason` and `_severity`: text from a fixed table. -/
def from_table {α : Type} (table : String → Option α) (message : String) (value : Option String) :
    Except Error α :=
  match value.bind table with
  | some found => .ok found
  | none => .error (policy_error message)

/-- The checks of `parse_wake_request` before it reads the fields. -/
def envelope_error (payload : Dict String Json) : Option Error :=
  if text_of payload "schema" ≠ some WAKE_REQUEST_SCHEMA then
    some (policy_error "wake request schema is unsupported")
  else if payload.keys.any (fun key => key ∉ allowed_keys) then
    some (policy_error "wake request contains unsupported fields")
  else
    (fixed_keys.find? (fun key => !fixed_value payload key)).map
      (fun key => policy_error ("wake request cannot change " ++ key))

def parse_wake_request (payload : Dict String Json) : Except Error ParsedWakeRequest :=
  match envelope_error payload with
  | some error => .error error
  | none => do
    let observed ← non_negative_integer payload "observed_at_ms"
    let expires ← non_negative_integer payload "expires_at_ms"
    if expires - observed < 1 ∨ MAX_WAKE_REQUEST_TTL_MS < expires - observed then
      .error (policy_error "wake request lifetime is outside the bounded limit")
    else do
      let refs ← evidence_refs payload
      let text ← summary payload
      let request_id ← identifier payload "request_id"
      let source_peer_id ← identifier payload "source_peer_id"
      let target_body_id ← identifier payload "target_body_id"
      let reason ← from_table reason_of_text "wake reason is unsupported" (text_of payload "reason")
      let severity ← from_table severity_of_text "wake severity is unsupported" (text_of payload "severity")
      pure {
        request_id
        source_peer_id
        target_body_id
        reason
        severity
        observed_at_ms := observed
        expires_at_ms := expires
        evidence_refs := refs
        summary := text }

/-- The tables of the policy engine. The remembered decisions are in the order of their insertion. -/
structure WakeRequestPolicyEngine where
  config : WakePolicyConfig
  attempts : Dict String (List Int)
  last_accepted : Dict String Int
  decisions : Dict String (String × WakePolicyDecision)

namespace WakeRequestPolicyEngine

def new (config : WakePolicyConfig) : WakeRequestPolicyEngine where
  config
  attempts := config.sources.foldl (fun attempts source => attempts.set source.source_peer_id []) .empty
  last_accepted := .empty
  decisions := .empty

def decision (request : ParsedWakeRequest) (now : Int) (power_state : PowerState) (accepted : Bool)
    (state : DecisionState) (detail : String) : WakePolicyDecision where
  request_id := request.request_id
  source_peer_id := request.source_peer_id
  target_body_id := request.target_body_id
  reason := request.reason
  severity := request.severity
  accepted
  state
  detail
  evaluated_at_ms := now
  power_state_before := power_state
  evidence_refs := request.evidence_refs
  summary := request.summary

def source_policy (self : WakeRequestPolicyEngine) (source_peer_id : String) : Option WakeSourcePolicy :=
  self.config.sources.find? (fun source => source.source_peer_id = source_peer_id)

/-- The attempts of a source that still count at a time. -/
def counted_attempts (self : WakeRequestPolicyEngine) (source : WakeSourcePolicy) (now : Int) : List Int :=
  ((self.attempts.get? source.source_peer_id).getD []).dropWhile (· ≤ now - source.window_ms)

/-- What is checked before the source's budget. -/
def refusal_before_budget (self : WakeRequestPolicyEngine) (request : ParsedWakeRequest) (now : Int) :
    Option String :=
  if request.target_body_id ≠ self.config.target_body_id then
    some "target body does not match this power supervisor"
  else if request.expires_at_ms ≤ now then some "wake request expired"
  else if now + MAX_FUTURE_OBSERVATION_SKEW_MS < request.observed_at_ms then
    some "wake observation is too far in the future"
  else none

/-- What is checked once the attempt has been counted. -/
def refusal_after_budget (self : WakeRequestPolicyEngine) (source : WakeSourcePolicy)
    (request : ParsedWakeRequest) (now : Int) : Option String :=
  if request.reason ∉ source.allowed_reasons then some "wake reason is not allowed for this source"
  else if request.severity.rank < source.minimum_severity.rank then
    some "wake severity is below the source policy floor"
  else if request.reason ∈ source.evidence_required_reasons ∧ request.evidence_refs = [] then
    some "wake reason requires an evidence reference"
  else
    match self.last_accepted.get? source.source_peer_id with
    | some last =>
      if now - last < source.cooldown_ms then some "wake source is inside its cooldown period" else none
    | none => none

def evaluate_new (self : WakeRequestPolicyEngine) (request : ParsedWakeRequest) (now : Int)
    (power_state : PowerState) : WakePolicyDecision × WakeRequestPolicyEngine :=
  match self.refusal_before_budget request now with
  | some detail => (decision request now power_state false .refused detail, self)
  | none =>
    match self.source_policy request.source_peer_id with
    | none => (decision request now power_state false .refused "wake source is not configured", self)
    | some source =>
      let counted := self.counted_attempts source now
      if source.max_requests_per_window ≤ counted.length then
        (decision request now power_state false .refused "wake source exceeded its bounded request budget",
          { self with attempts := self.attempts.set source.source_peer_id counted })
      else
        let self := { self with attempts := self.attempts.set source.source_peer_id (counted ++ [now]) }
        match self.refusal_after_budget source request now with
        | some detail => (decision request now power_state false .refused detail, self)
        | none =>
          let self := { self with last_accepted := self.last_accepted.set source.source_peer_id now }
          if power_state = .awake then
            (decision request now power_state true .already_awake "wake reason accepted; body is already awake", self)
          else
            (decision request now power_state true .eligible
              "wake request is eligible for the reviewed power adapter", self)

/-- `_remember`: the newest decision goes last, and the oldest ones go when there are too many. -/
def remember (self : WakeRequestPolicyEngine) (request_id fingerprint : String) (decision : WakePolicyDecision) :
    WakeRequestPolicyEngine :=
  { self with decisions :=
    ((self.decisions.pop request_id).set request_id (fingerprint, decision)).keep_last MAX_REQUEST_CACHE }

@[simp] theorem config_remember (self : WakeRequestPolicyEngine) (request_id fingerprint : String)
    (decision : WakePolicyDecision) : (self.remember request_id fingerprint decision).config = self.config := by
  unfold remember
  dsimp only

@[simp] theorem attempts_remember (self : WakeRequestPolicyEngine) (request_id fingerprint : String)
    (decision : WakePolicyDecision) : (self.remember request_id fingerprint decision).attempts = self.attempts := by
  unfold remember
  dsimp only

@[simp] theorem last_accepted_remember (self : WakeRequestPolicyEngine) (request_id fingerprint : String)
    (decision : WakePolicyDecision) :
    (self.remember request_id fingerprint decision).last_accepted = self.last_accepted := by
  unfold remember
  dsimp only

/-- Memory holds the decision that was put there last, or one that it held already. -/
theorem of_get?_remember {self : WakeRequestPolicyEngine} {request_id fingerprint key : String}
    {decision : WakePolicyDecision} {found : String × WakePolicyDecision}
    (hget : (self.remember request_id fingerprint decision).decisions.get? key = some found) :
    (key = request_id ∧ found = (fingerprint, decision)) ∨ self.decisions.get? key = some found := by
  have hset := Dict.get?_of_keep_last _ hget
  rw [Dict.get?_set] at hset
  split at hset
  · rename_i hkey
    exact Or.inl ⟨hkey, (Option.some.inj hset).symm⟩
  · rename_i hkey
    rw [Dict.get?_pop_of_ne _ hkey] at hset
    exact Or.inr hset

section

variable (fingerprint_of : Dict String Json → String)

/-- The policy on a parsed request: a request id that is remembered is answered from memory. -/
def evaluate_request (self : WakeRequestPolicyEngine) (payload : Dict String Json) (request : ParsedWakeRequest)
    (now : Int) (power_state : PowerState) : WakePolicyDecision × WakeRequestPolicyEngine :=
  match self.decisions.get? request.request_id with
  | some (cached_fingerprint, cached) =>
    if cached_fingerprint ≠ fingerprint_of payload then
      (decision request now power_state false .refused "request_id reused with different content", self)
    else (decision request now power_state cached.accepted .duplicate cached.detail, self)
  | none =>
    let (decision, self) := self.evaluate_new request now power_state
    (decision, self.remember request.request_id (fingerprint_of payload) decision)

/-- `evaluate`; the observed power state is absent when it is not one of the known ones. -/
def evaluate (self : WakeRequestPolicyEngine) (payload : Dict String Json) (now_ms : Int)
    (power_state : Option PowerState) : Except Error WakePolicyDecision × WakeRequestPolicyEngine :=
  if now_ms < 0 then (.error (policy_error "now_ms must be a non-negative integer"), self)
  else
    match power_state with
    | none => (.error (policy_error "power state is unsupported"), self)
    | some power_state =>
      match parse_wake_request payload with
      | .error error => (.error error, self)
      | .ok request =>
        let (decision, self) := self.evaluate_request fingerprint_of payload request now_ms power_state
        (.ok decision, self)

end

end WakeRequestPolicyEngine

end velvet.wake_request_policy
