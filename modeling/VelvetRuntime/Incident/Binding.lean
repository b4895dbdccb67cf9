import VelvetRuntime.Court.Resolution
import VelvetRuntime.Incident.Policy

open python.str

namespace velvet.incident_action_resolver

open velvet.responder_action_intake velvet.emergency_action_eligibility velvet.incident_action_policy

inductive ResolutionState where
  | invalid_proposal_boundary
  | incident_context_mismatch
  | emergency_context_not_active_verified
  | invalid_policy_boundary
  | incident_policy_not_ready
  | policy_family_mismatch
  | target_resolution_required
  | action_not_resolver_mapped
  | logical_candidate_resolved
  deriving DecidableEq, Repr

/-- A resolution. The proofs are the checks of `__post_init__`. -/
structure IncidentActionResolution where
  resolved : Bool
  state : ResolutionState
  request_id : String
  incident_id : String
  action_name : String
  action_family : IncidentActionFamily
  capability : Option String
  logical_target : Option String
  priority_band : PriorityBand
  priority_rank : Nat
  authority : String
  requires_context_binding : Bool
  requires_runtime_court : Bool
  requires_safety_gate : Bool
  creates_intent : Bool
  court_authorized : Bool
  selects_executor : Bool
  token_issued : Bool
  execution_performed : Bool
  actuation_performed : Bool
  reason : String
  authority_none : authority = "none"
  gates_required : requires_context_binding = true ∧ requires_runtime_court = true ∧ requires_safety_gate = true
  nothing_created : creates_intent = false ∧ court_authorized = false ∧ selects_executor = false ∧
    token_issued = false ∧ execution_performed = false ∧ actuation_performed = false

/-- An action's family, capability and logical target. -/
structure Mapping where
  family : IncidentActionFamily
  capability : String
  logical_target : String

/-- `_ACTION_MAP`. -/
def ACTION_MAP : List (String × Mapping) :=
  [("hazards-on", ⟨.VISIBILITY, "visibility.request", "vehicle.visibility.hazards"⟩),
    ("cabin-light-on", ⟨.VISIBILITY, "visibility.request", "vehicle.visibility.cabin"⟩),
    ("exterior-light-on", ⟨.VISIBILITY, "visibility.request", "vehicle.visibility.exterior"⟩),
    ("unlock.driver-door", ⟨.RESCUE_ACCESS, "access.request", "vehicle.access.door.driver"⟩),
    ("unlock.passenger-door", ⟨.RESCUE_ACCESS, "access.request", "vehicle.access.door.passenger"⟩),
    ("unlock-all-doors", ⟨.RESCUE_ACCESS, "access.request", "vehicle.access.doors.all"⟩)]

/-- `_AMBIGUOUS_ACTIONS.get(action_name)`. -/
def ambiguous_family (action_name : String) : Option IncidentActionFamily :=
  if action_name = "unlock-door" then some .RESCUE_ACCESS else none

/-- `_ACTION_MAP.get(action_name)`. -/
def mapping_of (action_name : String) : Option Mapping :=
  (ACTION_MAP.find? (fun entry => entry.1 = action_name)).map Prod.snd

def unresolved (candidate : ResponderActionCandidate) (family : IncidentActionFamily) (state : ResolutionState)
    (reason : String) (emergency_established : Bool) : IncidentActionResolution where
  resolved := false
  state
  request_id := candidate.request_id
  incident_id := candidate.incident_id
  action_name := candidate.action_name
  action_family := family
  capability := none
  logical_target := none
  priority_band := if emergency_established then .life_safety else .ordinary
  priority_rank := if emergency_established then 0 else 100
  authority := "none"
  requires_context_binding := true
  requires_runtime_court := true
  requires_safety_gate := true
  creates_intent := false
  court_authorized := false
  selects_executor := false
  token_issued := false
  execution_performed := false
  actuation_performed := false
  reason
  authority_none := rfl
  gates_required := ⟨rfl, rfl, rfl⟩
  nothing_created := ⟨rfl, rfl, rfl, rfl, rfl, rfl⟩

/-- The resolution of an action that the table maps. -/
def resolved_candidate (candidate : ResponderActionCandidate) (mapped : Mapping) : IncidentActionResolution where
  resolved := true
  state := .logical_candidate_resolved
  request_id := candidate.request_id
  incident_id := candidate.incident_id
  action_name := candidate.action_name
  action_family := mapped.family
  capability := some mapped.capability
  logical_target := some mapped.logical_target
  priority_band := .life_safety
  priority_rank := 0
  authority := "none"
  requires_context_binding := true
  requires_runtime_court := true
  requires_safety_gate := true
  creates_intent := false
  court_authorized := false
  selects_executor := false
  token_issued := false
  execution_performed := false
  actuation_performed := false
  reason := "reviewed logical capability and target are ready for trusted context binding before Court intent construction"
  authority_none := rfl
  gates_required := ⟨rfl, rfl, rfl⟩
  nothing_created := ⟨rfl, rfl, rfl, rfl, rfl, rfl⟩

/-- The policy decision carries neither authority nor execution state. -/
def boundary_clean (policy : IncidentActionPolicyDecision) : Bool :=
  policy.authority = "none" && policy.requires_runtime_court && policy.requires_safety_gate &&
    !policy.creates_intent && !policy.selects_capability && !policy.selects_target && !policy.selects_executor

/-- The end of the resolution: the reviewed mapping of an action that may advance. -/
def resolve_mapped (candidate : ResponderActionCandidate) (policy : IncidentActionPolicyDecision) :
    IncidentActionResolution :=
  match ambiguous_family candidate.action_name with
  | some family =>
    if policy.action_family ≠ family then
      unresolved candidate policy.action_family .policy_family_mismatch
        "policy family does not match the ambiguous action mapping" true
    else
      unresolved candidate family .target_resolution_required
        "generic rescue-access request must not guess which door is intended" true
  | none =>
    match mapping_of candidate.action_name with
    | none =>
      unresolved candidate policy.action_family .action_not_resolver_mapped
        "eligible action has no reviewed capability/target mapping" true
    | some mapped =>
      if policy.action_family ≠ mapped.family then
        unresolved candidate policy.action_family .policy_family_mismatch
          "incident policy family does not match the resolver mapping" true
      else resolved_candidate candidate mapped

def resolve_incident_action (candidate : ResponderActionCandidate) (policy : IncidentActionPolicyDecision)
    (emergency_context : EmergencyIncidentContext) : IncidentActionResolution :=
  if candidate.authority ≠ "none" ∨ candidate.requires_runtime_court ≠ true then
    unresolved candidate policy.action_family .invalid_proposal_boundary
      "responder proposal boundary is no longer intact" false
  else if candidate.incident_id ≠ emergency_context.incident_id then
    unresolved candidate policy.action_family .incident_context_mismatch
      "proposal does not match the active emergency incident" false
  else if !emergency_context.active || !emergency_context.activation_verified then
    unresolved candidate policy.action_family .emergency_context_not_active_verified
      "resolver requires the same active verified emergency context" false
  else if !boundary_clean policy then
    unresolved candidate policy.action_family .invalid_policy_boundary
      "incident policy carries authority or execution state the resolver cannot accept" false
  else if !policy.may_advance then
    unresolved candidate policy.action_family .incident_policy_not_ready
      "incident action is still waiting on policy-required evidence"
      (policy.state = .specific_evidence_required && policy.priority_band = .life_safety && policy.priority_rank = 0)
  else if policy.state ≠ .eligible_for_governed_resolution ∨ policy.priority_band ≠ .life_safety ∨
      policy.priority_rank ≠ 0 then
    unresolved candidate policy.action_family .incident_policy_not_ready
      "incident action has not reached a clean eligible policy state" false
  else resolve_mapped candidate policy

end velvet.incident_action_resolver

namespace velvet.incident_court_binding

open velvet.responder_action_intake velvet.emergency_action_eligibility velvet.incident_action_resolver
open velvet.court_intent

def EMERGENCY_DEPLOYMENT_AUTHORITY : String := "verified_incident_emergency"
def EMERGENCY_COURT_AUTHORITY : String := "emergency"
def EMERGENCY_CONTEXT_KIND : String := "incident-emergency"
def RESPONDER_IDENTITY_STATE : String := "unresolved-responder"

/-- `EMERGENCY_COURT_POLICIES.get(capability)`. -/
def emergency_court_policy : String → Option String
  | "visibility.request" => some "emergency_visibility_default"
  | "access.request" => some "emergency_access_default"
  | _ => none

/-- What the binding takes of the active body. -/
structure ActiveBody where
  body_id : String
  surface : String

structure IncidentCourtContext where
  policy_id : String
  authority_profile : String
  court_authority : String
  profile_id : String
  session_id : String
  body_id : String
  surface : String
  proposed_capabilities : List String
  authority_profiles : List String
  court_authorities : List String
  authorization_required : Bool
  actuation_granted : Bool
  context_kind : String
  incident_id : String
  request_id : String
  request_source : String
  requester_identity_state : String
  activation : String

/-- A candidate for Court. The proofs are the checks of `__post_init__`. -/
structure IncidentCourtCandidate where
  incident_id : String
  request_id : String
  request_source : String
  priority_band : PriorityBand
  priority_rank : Nat
  intent : Intent
  capability_context : IncidentCourtContext
  priority_kept : priority_band = .life_safety ∧ priority_rank = 0

def value_error (message : String) : Error := ⟨.ValueError, message⟩

section

variable [StrLower]

/-- The labelled texts that have to be normalised already. -/
def check_normalized : List (String × String) → Except Error Unit
  | [] => .ok ()
  | (label, value) :: rest =>
    if value = "" ∨ normalized value ≠ value then
      .error (value_error (label ++ " must already be a normalized non-empty string"))
    else check_normalized rest

/-- The checks of `_validate_inputs` before it reads the capability, each with the message of its failure. -/
def input_checks (responder_candidate : ResponderActionCandidate) (resolution : IncidentActionResolution)
    (emergency_context : EmergencyIncidentContext) (requested_at : Int) : List (Bool × String) :=
  [(0 ≤ requested_at, "requested_at must be a non-negative integer"),
    (responder_candidate.source = "responder-conversation",
      "incident Court binding accepts only responder-conversation provenance"),
    (responder_candidate.authority = "none" && responder_candidate.requires_runtime_court,
      "responder proposal authority boundary is not intact"),
    (responder_candidate.incident_id = emergency_context.incident_id,
      "responder proposal does not match emergency incident"),
    (emergency_context.active && emergency_context.activation_verified,
      "incident Court binding requires an active verified emergency"),
    (resolution.resolved && resolution.state = .logical_candidate_resolved,
      "incident action must be logically resolved before Court binding"),
    (resolution.incident_id = responder_candidate.incident_id &&
        resolution.request_id = responder_candidate.request_id &&
        resolution.action_name = responder_candidate.action_name,
      "logical resolution provenance does not match responder proposal"),
    (resolution.priority_band = .life_safety && resolution.priority_rank = 0,
      "logical resolution lost emergency priority"),
    (resolution.authority = "none", "logical resolution may not carry requester authority"),
    (resolution.requires_context_binding && resolution.requires_runtime_court && resolution.requires_safety_gate,
      "logical resolution is missing required governance gates"),
    (!(resolution.creates_intent || resolution.court_authorized || resolution.selects_executor ||
        resolution.token_issued || resolution.execution_performed || resolution.actuation_performed),
      "logical resolution already contains forbidden authorization or execution state")]

/-- `_validate_inputs`: the capability and the target that are to be bound. -/
def validate_inputs (responder_candidate : ResponderActionCandidate) (resolution : IncidentActionResolution)
    (emergency_context : EmergencyIncidentContext) (body : ActiveBody) (requested_at : Int) :
    Except Error (String × String) :=
  match (input_checks responder_candidate resolution emergency_context requested_at).find? (fun check => !check.1) with
  | some check => .error (value_error check.2)
  | none =>
    match resolution.capability.filter (fun capability => capability ≠ "") with
    | none => .error (value_error "logical resolution requires a capability")
    | some capability =>
      match resolution.logical_target.filter (fun target => target ≠ "") with
      | none => .error (value_error "logical resolution requires a target")
      | some target => do
        check_normalized [("body_id", body.body_id), ("surface", body.surface), ("capability", capability),
          ("target", target), ("action", resolution.action_name)]
        pure (capability, target)

/-- The identities that the binding derives: the digest is that of `_digest`. -/
structure IncidentIdentity where
  profile_id : String
  session_id : String
  intent_id : String

def incident_identity (digest : String → String) (candidate : ResponderActionCandidate) : IncidentIdentity where
  profile_id := "emergency.incident." ++ digest candidate.incident_id
  session_id := "emergency.session." ++ digest candidate.incident_id
  intent_id := "emergency.request." ++ digest (candidate.incident_id ++ ":" ++ candidate.request_id)

def bind_incident_court_candidate (digest : String → String) (responder_candidate : ResponderActionCandidate)
    (resolution : IncidentActionResolution) (emergency_context : EmergencyIncidentContext) (body : ActiveBody)
    (requested_at : Int) : Except Error IncidentCourtCandidate := do
  let (capability, target) ← validate_inputs responder_candidate resolution emergency_context body requested_at
  match emergency_court_policy capability with
  | none => .error (value_error "resolved capability has no incident emergency Court policy")
  | some policy_id =>
    let identity := incident_identity digest responder_candidate
    pure {
      incident_id := responder_candidate.incident_id
      request_id := responder_candidate.request_id
      request_source := responder_candidate.source
      priority_band := .life_safety
      priority_rank := 0
      intent := {
        intent_id := some identity.intent_id
        action := some resolution.action_name
        capability := some capability
        target := some target
        profile_id := some identity.profile_id
        session_id := some identity.session_id
        body_id := some body.body_id
        surface := some body.surface
        requested_at := some requested_at }
      capability_context := {
        policy_id
        authority_profile := EMERGENCY_DEPLOYMENT_AUTHORITY
        court_authority := EMERGENCY_COURT_AUTHORITY
        profile_id := identity.profile_id
        session_id := identity.session_id
        body_id := body.body_id
        surface := body.surface
        proposed_capabilities := [capability]
        authority_profiles := [EMERGENCY_DEPLOYMENT_AUTHORITY]
        court_authorities := [EMERGENCY_COURT_AUTHORITY]
        authorization_required := true
        actuation_granted := false
        context_kind := EMERGENCY_CONTEXT_KIND
        incident_id := responder_candidate.incident_id
        request_id := responder_candidate.request_id
        request_source := responder_candidate.source
        requester_identity_state := RESPONDER_IDENTITY_STATE
        activation := emergency_context.activation.value }
      priority_kept := ⟨rfl, rfl⟩ }

end

end velvet.incident_court_binding
