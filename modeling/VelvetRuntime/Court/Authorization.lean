import VelvetRuntime.Court.Resolution
import VelvetRuntime.Execution.Contract

open python python.str

namespace velvet.court_intent

variable [StrLower]

/-- An intent that passed `validate_intent`. -/
structure ValidIntent where
  intent : Intent
  valid : validate_intent intent = []

/-- A text field without an error is normalised text. -/
theorem of_field_error {field : String × Option String} (herror : field_error field = none) :
    ∃ value, field.2 = some value ∧ ¬ Blank value ∧ value = normalized value := by
  unfold field_error at herror
  split at herror
  · cases herror
  · rename_i value hvalue
    split at herror
    · cases herror
    · rename_i hblank
      split at herror
      · cases herror
      · rename_i hnormal
        exact ⟨value, hvalue, hblank, not_not.mp hnormal⟩

/-- Every text field of a valid intent is normalised text. -/
theorem ValidIntent.field (self : ValidIntent) {field : String × Option String} (hfield : field ∈ self.intent.fields) :
    ∃ value, field.2 = some value ∧ ¬ Blank value ∧ value = normalized value := by
  have hnone := (List.append_eq_nil_iff.mp self.valid).1
  exact of_field_error (List.filterMap_eq_nil_iff.mp hnone field hfield)

theorem ValidIntent.isSome (self : ValidIntent) (name : String) {value : Option String}
    (hfield : (name, value) ∈ self.intent.fields) : value.isSome = true := by
  obtain ⟨value, hvalue, _⟩ := self.field hfield
  exact Option.isSome_of_eq_some hvalue

namespace ValidIntent

def intent_id (self : ValidIntent) : String :=
  self.intent.intent_id.get (self.isSome "intent_id" (by simp [Intent.fields]))

def capability (self : ValidIntent) : String :=
  self.intent.capability.get (self.isSome "capability" (by simp [Intent.fields]))

def target (self : ValidIntent) : String :=
  self.intent.target.get (self.isSome "target" (by simp [Intent.fields]))

def profile_id (self : ValidIntent) : String :=
  self.intent.profile_id.get (self.isSome "profile_id" (by simp [Intent.fields]))

def session_id (self : ValidIntent) : String :=
  self.intent.session_id.get (self.isSome "session_id" (by simp [Intent.fields]))

def body_id (self : ValidIntent) : String :=
  self.intent.body_id.get (self.isSome "body_id" (by simp [Intent.fields]))

def surface (self : ValidIntent) : String :=
  self.intent.surface.get (self.isSome "surface" (by simp [Intent.fields]))

end ValidIntent

end velvet.court_intent

namespace velvet.court_token

open velvet.court_intent

/-- The fields of a token before it has an id. -/
structure UnsignedFields where
  intent_id : String
  capability : String
  target : String
  profile_id : String
  session_id : String
  body_id : String
  surface : String
  issued_at : Int
  expires_at : Int
  policy_id : String

/-- What the token module computes from `json`, `hashlib` and `hmac`: the id of the unsigned fields, and the
signature of the fields under a key. -/
structure Signing where
  token_id : UnsignedFields → String
  sign : List UInt8 → TokenFields → String

section

variable [StrLower]

/-- The fields that a token takes from its intent, with its lifetime. -/
def unsigned_fields (intent : ValidIntent) (policy_id : String) (ttl_seconds issued_at : Int) : UnsignedFields where
  intent_id := intent.intent_id
  capability := intent.capability
  target := intent.target
  profile_id := intent.profile_id
  session_id := intent.session_id
  body_id := intent.body_id
  surface := intent.surface
  issued_at
  expires_at := issued_at + ttl_seconds
  policy_id

/-- The token of the unsigned fields: they get an id, and then a signature. -/
def signed_token (signing : Signing) (signing_key : List UInt8) (unsigned : UnsignedFields) : CapabilityToken :=
  let signed : TokenFields := {
    token_id := signing.token_id unsigned
    intent_id := unsigned.intent_id
    capability := unsigned.capability
    target := unsigned.target
    profile_id := unsigned.profile_id
    session_id := unsigned.session_id
    body_id := unsigned.body_id
    surface := unsigned.surface
    issued_at := unsigned.issued_at
    expires_at := unsigned.expires_at
    policy_id := unsigned.policy_id }
  { signed with signature := signing.sign signing_key signed }

/-- `issue_token` at a time; a key that is not bytes is absent. -/
def issue_token (signing : Signing) (intent : ValidIntent) (policy_id : String)
    (signing_key : Option (List UInt8)) (ttl_seconds issued_at : Int) : Except Error CapabilityToken :=
  match signing_key with
  | none => .error ⟨.ValueError, "Court signing key must contain at least 32 bytes"⟩
  | some signing_key =>
    if signing_key.length < 32 then .error ⟨.ValueError, "Court signing key must contain at least 32 bytes"⟩
    else if ¬ (1 ≤ ttl_seconds ∧ ttl_seconds ≤ 300) then
      .error ⟨.ValueError, "token_ttl_seconds must be between 1 and 300"⟩
    else .ok (signed_token signing signing_key (unsigned_fields intent policy_id ttl_seconds issued_at))

end

end velvet.court_token

namespace velvet.court_authorization

open velvet.court_intent velvet.court_authority velvet.court_policy_resolution velvet.court_token

inductive CourtReasonCode where
  | POLICY_MATCH
  | INVALID_INTENT
  | AUTHORIZATION_REQUIRED
  | AUTHORITY_CONFLICT
  | AUTHORITY_UNKNOWN
  | CONTEXT_MISMATCH
  | CAPABILITY_NOT_PROPOSED
  | POLICY_DENIED
  | TARGET_DENIED
  | RECEIPT_PERSISTENCE_FAILED
  deriving DecidableEq, Repr

structure CourtReason where
  code : CourtReasonCode
  summary : String
  details : List String
  deriving DecidableEq

/-- `_STATE_REASONS`. -/
def state_reason : CourtState → CourtReasonCode × String
  | .authorized => (.POLICY_MATCH, "Active context and policy permitted the request.")
  | .invalid_intent => (.INVALID_INTENT, "The intent failed schema or normalization checks.")
  | .invalid_capability_context =>
    (.AUTHORIZATION_REQUIRED, "The active capability context did not require Court authorization.")
  | .authority_conflict =>
    (.AUTHORITY_CONFLICT, "The active authority identity conflicted with the Court hierarchy.")
  | .authority_unknown => (.AUTHORITY_UNKNOWN, "Court could not recognize a verified authority identity.")
  | .context_mismatch =>
    (.CONTEXT_MISMATCH, "The intent identity did not match the active capability context.")
  | .capability_not_proposed =>
    (.CAPABILITY_NOT_PROPOSED, "The requested capability was outside the active proposed context.")
  | .policy_denied => (.POLICY_DENIED, "The active Court policy did not permit the requested capability.")
  | .target_denied => (.TARGET_DENIED, "The active Court policy did not permit the requested target.")
  | .authorization_unreceipted =>
    (.RECEIPT_PERSISTENCE_FAILED, "Authorization was withheld because its receipt could not be persisted.")

def reason_for_state (state : CourtState) (details : List String) : CourtReason :=
  ⟨(state_reason state).1, (state_reason state).2, details.filter (fun item => ¬ Blank item)⟩

structure CourtDecision where
  allowed : Bool
  state : CourtState
  policy_id : Option String
  token : Option CapabilityToken
  errors : List String
  receipt_persisted : Bool
  reason : CourtReason
  policy_ids : List String
  policy_findings : List PolicyFinding
  authority : Option AuthorityResolution

inductive EventType where
  | COURT_AUTHORIZED
  | COURT_DENIED
  deriving DecidableEq, Repr

structure CourtReceipt where
  event_type : EventType
  state : CourtState
  reason : CourtReason
  intent : Intent
  authority : Option AuthorityResolution
  policy_id : Option String
  policy_ids : List String
  policy_findings : List PolicyFinding
  token_id : Option String
  errors : List String

/-- How the sink ends for a receipt. -/
abbrev ReceiptSink := CourtReceipt → Except Error Unit

/-- `_persist`: the errors of a receipt that was not persisted. -/
def persist (sink : ReceiptSink) (receipt : CourtReceipt) : Except Error (Bool × List String) :=
  match sink receipt with
  | .ok _ => .ok (true, [])
  | .error error =>
    if error.is_exception then .ok (false, ["receipt persistence failed: " ++ error.message]) else .error error

def deny (sink : ReceiptSink) (state : CourtState) (intent : Intent) (policy_id : Option String)
    (policy_ids : List String) (findings : List PolicyFinding) (authority : Option AuthorityResolution)
    (errors : List String) : Except Error CourtDecision := do
  let reason := reason_for_state state errors
  let (persisted, persist_errors) ← persist sink
    ⟨.COURT_DENIED, state, reason, intent, authority, policy_id, policy_ids, findings, none, errors⟩
  .ok ⟨false, state, policy_id, none, errors ++ persist_errors, persisted, reason, policy_ids, findings, authority⟩

def authorization_details (resolution : PolicyResolution) (authority : AuthorityResolution) : List String :=
  ["authority '" ++ authority.selected_profile ++ "' resolved at rank " ++ toString authority.selected_rank,
    "all " ++ toString resolution.policy_ids.length ++ " active policies permitted the request",
    "token lifetime restricted to " ++ toString resolution.token_ttl_seconds ++ " seconds"]

section

variable [StrLower]

/-- `_CONTEXT_BINDINGS`: each label with the value of the context and that of the intent. -/
def context_bindings (context : CapabilityContext) (intent : ValidIntent) : List (String × Option Json × String) :=
  [("profile", context.profile_id, intent.profile_id), ("session", context.session_id, intent.session_id),
    ("body", context.body_id, intent.body_id), ("surface", context.surface, intent.surface)]

def binding_error (binding : String × Option Json × String) : Option String :=
  match binding with
  | (label, some (.text expected), value) =>
    if Blank expected then some ("capability context " ++ label ++ " identity is missing")
    else if normalized expected ≠ value then
      some ("intent " ++ label ++ " does not match active capability context")
    else none
  | (label, _, _) => some ("capability context " ++ label ++ " identity is missing")

def validate_context_binding (intent : ValidIntent) (context : CapabilityContext) : List String :=
  (context_bindings context intent).filterMap binding_error

/-- `set(getattr(capability_context, "proposed_capabilities", ()))`. -/
def proposed_capabilities (context : CapabilityContext) : Except Error (List Json) :=
  let configured := context.proposed_capabilities.getD (.list [])
  match configured.iterate with
  | none => .error (not_iterable configured)
  | some values =>
    match values.find? (fun value => !value.hashable) with
    | some value => .error ⟨.TypeError, "unhashable type: '" ++ value.type_name ++ "'"⟩
    | none => .ok values

/-- The receipt of an authorization. -/
def authorized_receipt (intent : ValidIntent) (resolution : PolicyResolution) (authority : AuthorityResolution)
    (token : CapabilityToken) : CourtReceipt :=
  ⟨.COURT_AUTHORIZED, .authorized, reason_for_state .authorized (authorization_details resolution authority),
    intent.intent, some authority, some resolution.policy_set_id, resolution.policy_ids, resolution.findings,
    some token.token_id, []⟩

variable (signing : Signing) (sink : ReceiptSink)

/-- The end of an authorization that the policies permit: a token, once its receipt is persisted. -/
def grant (intent : ValidIntent) (authority : AuthorityResolution) (resolution : PolicyResolution)
    (signing_key : Option (List UInt8)) (now : Int) : Except Error CourtDecision := do
  let token ← issue_token signing intent resolution.policy_set_id signing_key resolution.token_ttl_seconds now
  let receipt := authorized_receipt intent resolution authority token
  let (persisted, persist_errors) ← persist sink receipt
  if !persisted then
    .ok ⟨false, .authorization_unreceipted, some resolution.policy_set_id, none, persist_errors, false,
      reason_for_state .authorization_unreceipted persist_errors, resolution.policy_ids, resolution.findings,
      some authority⟩
  else
    .ok ⟨true, .authorized, some resolution.policy_set_id, some token, [], true, receipt.reason,
      resolution.policy_ids, resolution.findings, some authority⟩

/-- `authorize_intent` from the policies on: the authority is valid and the context is bound. -/
def authorize_bound (intent : ValidIntent) (authority : AuthorityResolution) (policy_ids : List String)
    (file : Except Error Json) (signing_key : Option (List UInt8)) (now : Int) : Except Error CourtDecision := do
  let resolution ← resolve_policy_set file policy_ids intent.capability intent.target
  if !resolution.allowed then
    deny sink (resolution.denial_state.getD .policy_denied) intent.intent (some resolution.policy_set_id)
      resolution.policy_ids resolution.findings (some authority)
      [resolution.denial_detail.getD "policy set denied request"]
  else grant signing sink intent authority resolution signing_key now

/-- `authorize_intent` of a valid intent. -/
def authorize_valid (intent : ValidIntent) (context : CapabilityContext) (file : Except Error Json)
    (signing_key : Option (List UInt8)) (now : Int) : Except Error CourtDecision := do
  let policy_ids ← policy_ids_from_context context
  let denied (state : CourtState) (authority : AuthorityResolution) (errors : List String) :=
    deny sink state intent.intent (some ("+".intercalate policy_ids)) policy_ids [] (some authority) errors
  let authority ← resolve_authority context
  if !authority.valid then
    denied (authority.state.getD .authority_unknown) authority
      [authority.detail.getD "authority resolution failed"]
  else
    match context.authorization_required.getD (.bool true) with
    | .bool true =>
      let context_errors := validate_context_binding intent context
      if context_errors ≠ [] then denied .context_mismatch authority context_errors
      else do
        let proposed ← proposed_capabilities context
        if ¬ proposed.any (fun value => value.is_text intent.capability) then
          denied .capability_not_proposed authority ["capability is outside the proposed context"]
        else authorize_bound signing sink intent authority policy_ids file signing_key now
    | _ => denied .invalid_capability_context authority ["authorization must be required"]

def authorize_intent (intent : Intent) (context : CapabilityContext) (file : Except Error Json)
    (signing_key : Option (List UInt8)) (now : Int) : Except Error CourtDecision :=
  if hvalid : validate_intent intent = [] then
    authorize_valid signing sink ⟨intent, hvalid⟩ context file signing_key now
  else deny sink .invalid_intent intent none [] [] none (validate_intent intent)

end

end velvet.court_authorization
