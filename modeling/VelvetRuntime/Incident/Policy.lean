import VelvetRuntime.Error
import VelvetRuntime.Text

open python.str

namespace velvet.responder_action_intake

/-- An admitted proposal. The proofs are the checks of `__post_init__`. -/
structure ResponderActionCandidate where
  request_id : String
  incident_id : String
  action_name : String
  source : String
  authority : String
  requires_runtime_court : Bool
  authority_none : authority = "none"
  court_required : requires_runtime_court = true

/-- `ResponderActionCandidate(...)` with the defaults of the last two fields. -/
def ResponderActionCandidate.new (request_id incident_id action_name source : String) : ResponderActionCandidate where
  request_id
  incident_id
  action_name
  source
  authority := "none"
  requires_runtime_court := true
  authority_none := rfl
  court_required := rfl

end velvet.responder_action_intake

namespace velvet.emergency_action_eligibility

open velvet.responder_action_intake

inductive EmergencyActivation where
  | CONFIRMED_EMERGENCY
  | ACCIDENT
  | MANUAL_EMERGENCY_PROTOCOL
  deriving DecidableEq, Repr

def EmergencyActivation.value : EmergencyActivation → String
  | CONFIRMED_EMERGENCY => "confirmed-emergency"
  | ACCIDENT => "accident"
  | MANUAL_EMERGENCY_PROTOCOL => "manual-emergency-protocol"

inductive PriorityBand where
  | life_safety
  | ordinary
  deriving DecidableEq, Repr

/-- `_require_identifier`. -/
def is_identifier (value : String) : Bool :=
  value ≠ "" ∧ stripped value = value ∧ value.length ≤ 128 ∧
    value.toList.all (fun char => ¬(char.toNat < 32 ∨ char.toNat = 127))

structure EmergencyIncidentContext where
  incident_id : String
  active : Bool
  activation : EmergencyActivation
  activation_verified : Bool
  incident_id_valid : is_identifier incident_id = true

inductive EligibilityState where
  | invalid_proposal_boundary
  | incident_mismatch
  | incident_inactive
  | activation_unverified
  | emergency_first_eligible
  deriving DecidableEq, Repr

structure EmergencyEligibilityDecision where
  eligible : Bool
  state : EligibilityState
  priority_band : PriorityBand
  priority_rank : Nat
  preempts_ordinary_work : Bool
  expedited_policy_path : Bool
  requires_runtime_court : Bool
  bypasses_authority : Bool
  bypasses_safety : Bool
  reason : String

def deny (state : EligibilityState) (reason : String) : EmergencyEligibilityDecision where
  eligible := false
  state
  priority_band := .ordinary
  priority_rank := 100
  preempts_ordinary_work := false
  expedited_policy_path := false
  requires_runtime_court := true
  bypasses_authority := false
  bypasses_safety := false
  reason

def evaluate_emergency_first_eligibility (candidate : ResponderActionCandidate) (context : EmergencyIncidentContext) :
    EmergencyEligibilityDecision :=
  if candidate.authority ≠ "none" ∨ candidate.requires_runtime_court ≠ true then
    deny .invalid_proposal_boundary "proposal no longer preserves the responder authority boundary"
  else if candidate.incident_id ≠ context.incident_id then
    deny .incident_mismatch "proposal does not belong to the active emergency incident"
  else if !context.active then
    deny .incident_inactive "emergency-first eligibility requires an active incident"
  else if !context.activation_verified then
    deny .activation_unverified
      "emergency activation must already be verified by its trusted incident boundary"
  else {
    eligible := true
    state := .emergency_first_eligible
    priority_band := .life_safety
    priority_rank := 0
    preempts_ordinary_work := true
    expedited_policy_path := true
    requires_runtime_court := true
    bypasses_authority := false
    bypasses_safety := false
    reason := "verified active " ++ context.activation.value ++
      " incident receives first-priority policy evaluation before ordinary work" }

end velvet.emergency_action_eligibility

namespace velvet.incident_action_policy

open velvet.responder_action_intake velvet.emergency_action_eligibility

inductive IncidentActionFamily where
  | VISIBILITY
  | RESCUE_ACCESS
  | MOTION_OR_POWER
  | UNKNOWN
  deriving DecidableEq, Repr

def VISIBILITY_ACTIONS : List String := ["hazards-on", "cabin-light-on", "exterior-light-on"]

def RESCUE_ACCESS_ACTIONS : List String :=
  ["unlock-door", "unlock.driver-door", "unlock.passenger-door", "unlock-all-doors"]

def MOTION_OR_POWER_ACTIONS : List String :=
  ["start-engine", "stop-engine", "shift-gear", "release-parking-brake", "apply-throttle", "apply-brake", "steer",
    "drive", "propulsion-on", "propulsion-off"]

def MOTION_OR_POWER_PREFIXES : List String :=
  ["steer.", "throttle.", "brake.", "shift.", "drive.", "propulsion.", "powertrain."]

structure IncidentActionEvidence where
  vehicle_stationary_verified : Bool
  rescue_access_needed : Bool
  responder_on_scene_verified : Bool
  deriving DecidableEq

inductive RequiredEvidence where
  | vehicle_stationary_verified
  | rescue_access_needed
  | responder_on_scene_verified
  deriving DecidableEq, Repr

inductive PolicyState where
  | invalid_proposal_boundary
  | incident_context_mismatch
  | emergency_context_not_active_verified
  | emergency_first_not_established
  | separate_emergency_maneuver_policy_required
  | action_not_policy_mapped
  | specific_evidence_required
  | eligible_for_governed_resolution
  deriving DecidableEq, Repr

structure IncidentActionPolicyDecision where
  may_advance : Bool
  state : PolicyState
  action_family : IncidentActionFamily
  priority_band : PriorityBand
  priority_rank : Nat
  required_evidence : List RequiredEvidence
  missing_evidence : List RequiredEvidence
  requires_runtime_court : Bool
  requires_safety_gate : Bool
  authority : String
  creates_intent : Bool
  selects_capability : Bool
  selects_target : Bool
  selects_executor : Bool
  reason : String

def classify (action_name : String) : IncidentActionFamily :=
  if action_name ∈ VISIBILITY_ACTIONS then .VISIBILITY
  else if action_name ∈ RESCUE_ACCESS_ACTIONS then .RESCUE_ACCESS
  else if action_name ∈ MOTION_OR_POWER_ACTIONS ∨
      MOTION_OR_POWER_PREFIXES.any (fun start => start.toList.isPrefixOf action_name.toList) then .MOTION_OR_POWER
  else .UNKNOWN

def advance (action_family : IncidentActionFamily) (required_evidence : List RequiredEvidence) (reason : String) :
    IncidentActionPolicyDecision where
  may_advance := true
  state := .eligible_for_governed_resolution
  action_family
  priority_band := .life_safety
  priority_rank := 0
  required_evidence
  missing_evidence := []
  requires_runtime_court := true
  requires_safety_gate := true
  authority := "none"
  creates_intent := false
  selects_capability := false
  selects_target := false
  selects_executor := false
  reason

/-- `_deny`; the emergency priority is kept once the emergency is established. -/
def deny (state : PolicyState) (action_family : IncidentActionFamily) (reason : String)
    (emergency_established : Bool) : IncidentActionPolicyDecision where
  may_advance := false
  state
  action_family
  priority_band := if emergency_established then .life_safety else .ordinary
  priority_rank := if emergency_established then 0 else 100
  required_evidence := []
  missing_evidence := []
  requires_runtime_court := true
  requires_safety_gate := true
  authority := "none"
  creates_intent := false
  selects_capability := false
  selects_target := false
  selects_executor := false
  reason

def required : List RequiredEvidence :=
  [.vehicle_stationary_verified, .rescue_access_needed, .responder_on_scene_verified]

/-- Whether a fact is among the evidence. -/
def IncidentActionEvidence.gives (evidence : IncidentActionEvidence) : RequiredEvidence → Bool
  | .vehicle_stationary_verified => evidence.vehicle_stationary_verified
  | .rescue_access_needed => evidence.rescue_access_needed
  | .responder_on_scene_verified => evidence.responder_on_scene_verified

/-- The required facts that the evidence lacks, in their order. -/
def IncidentActionEvidence.missing (evidence : IncidentActionEvidence) : List RequiredEvidence :=
  required.filter (fun fact => !evidence.gives fact)

/-- The request waits with its priority for the facts that are missing. -/
def wait_for_evidence (family : IncidentActionFamily) (missing : List RequiredEvidence) :
    IncidentActionPolicyDecision where
  may_advance := false
  state := .specific_evidence_required
  action_family := family
  priority_band := .life_safety
  priority_rank := 0
  required_evidence := required
  missing_evidence := missing
  requires_runtime_court := true
  requires_safety_gate := true
  authority := "none"
  creates_intent := false
  selects_capability := false
  selects_target := false
  selects_executor := false
  reason := "rescue-access request stays first-priority while waiting only for its required evidence"

def evaluate_incident_action_policy (candidate : ResponderActionCandidate) (emergency : EmergencyEligibilityDecision)
    (emergency_context : EmergencyIncidentContext) (evidence : IncidentActionEvidence) :
    IncidentActionPolicyDecision :=
  let family := classify candidate.action_name
  if candidate.authority ≠ "none" ∨ candidate.requires_runtime_court ≠ true then
    deny .invalid_proposal_boundary family "proposal no longer preserves the responder authority boundary" false
  else if candidate.incident_id ≠ emergency_context.incident_id then
    deny .incident_context_mismatch family "responder proposal does not match the emergency incident context" false
  else if !emergency_context.active || !emergency_context.activation_verified then
    deny .emergency_context_not_active_verified family
      "incident action policy requires an active verified emergency context" false
  else if !emergency.eligible || emergency.priority_band ≠ .life_safety then
    deny .emergency_first_not_established family
      "responder action policy requires verified emergency-first eligibility" false
  else
    match family with
    | .MOTION_OR_POWER =>
      deny .separate_emergency_maneuver_policy_required family
        "motion and powertrain requests cannot advance from responder conversation policy" true
    | .UNKNOWN =>
      deny .action_not_policy_mapped family "unknown responder action has no incident policy mapping" true
    | .VISIBILITY =>
      advance family []
        "verified emergency visibility request may advance immediately to governed resolution"
    | .RESCUE_ACCESS =>
      if evidence.missing ≠ [] then wait_for_evidence family evidence.missing
      else
        advance family required "verified on-scene rescue-access request may advance to governed resolution"

end velvet.incident_action_policy
