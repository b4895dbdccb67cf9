import VelvetRuntime.Incident.Policy
import VelvetRuntime.Python.Value

open python python.str

namespace velvet.responder_action_intake

/-- `_PLAN_KEYS`. -/
def PLAN_KEYS : List String :=
  ["request_id", "action_name", "incident_id", "source", "authority", "requires_runtime_court"]

/-- `_SYMBOLIC_ACTION.fullmatch(action_name)`. -/
def is_symbolic_action (action_name : String) : Bool :=
  match action_name.toList with
  | [] => false
  | first :: rest => letter_or_digit first && rest.length ≤ 127 &&
      rest.all (fun char => letter_or_digit char || char = '.' || char = '_' || char = '-')
where
  letter_or_digit (char : Char) : Bool :=
    (97 ≤ char.toNat && char.toNat ≤ 122) || (48 ≤ char.toNat && char.toNat ≤ 57)

/-- What `_require_identifier` demands of a text. -/
def BoundedIdentifier (value : String) : Prop :=
  value.length ≤ 128 ∧ ∀ char ∈ value.toList, ¬(char.toNat < 32 ∨ char.toNat = 127)

/-- A proposal. The proofs are the checks of `__post_init__`. -/
structure ResponderActionProposal where
  request_id : String
  action_name : String
  incident_id : String
  source : String
  authority : String
  requires_runtime_court : Bool
  request_id_bounded : BoundedIdentifier request_id
  incident_id_bounded : BoundedIdentifier incident_id
  action_name_symbolic : is_symbolic_action action_name = true
  source_responder : source = "responder-conversation"
  authority_none : authority = "none"
  court_required : requires_runtime_court = true

structure ResponderActionIntakeDecision where
  admitted : Bool
  state : String
  reason : String
  candidate : Option ResponderActionCandidate

def value_error (message : String) : Error := ⟨.ValueError, message⟩

local instance any_char_decidable {p : Char → Prop} [DecidablePred p] (text : List Char) :
    Decidable (∃ char ∈ text, p char) := List.decidableBEx p text

/-- `_require_identifier(value, name)`. -/
def require_identifier (value name : String) : Except Error (PLift (BoundedIdentifier value)) :=
  if hlength : 128 < value.length then .error (value_error (name ++ " exceeds 128 characters"))
  else if hcontrol : ∃ char ∈ value.toList, char.toNat < 32 ∨ char.toNat = 127 then
    .error (value_error (name ++ " contains control characters"))
  else .ok ⟨Nat.le_of_not_lt hlength, fun char hchar hbad => hcontrol ⟨char, hchar, hbad⟩⟩

/-- `_required_text(value, name)`; the value is that of `plan.get(name)`. -/
def required_text (value : Option PyObject) (name : String) : Except Error String :=
  match value with
  | some (.text value) =>
    if value = "" ∨ stripped value ≠ value then .error (value_error (name ++ " must be a non-empty trimmed string"))
    else .ok value
  | _ => .error (value_error (name ++ " must be a non-empty trimmed string"))

/-- `ResponderActionProposal(...)`. -/
def ResponderActionProposal.new (request_id action_name incident_id source authority : String)
    (requires_runtime_court : Option PyObject) : Except Error ResponderActionProposal := do
  let hrequest ← require_identifier request_id "request_id"
  let hincident ← require_identifier incident_id "incident_id"
  if haction : is_symbolic_action action_name = true then
    if hsource : source = "responder-conversation" then
      if hauthority : authority = "none" then
        match requires_runtime_court with
        | some (.bool true) =>
          .ok ⟨request_id, action_name, incident_id, source, authority, true, hrequest.down, hincident.down, haction,
            hsource, hauthority, rfl⟩
        | _ => .error (value_error "responder action proposals must require Runtime/Court")
      else .error (value_error "responder action proposals cannot carry authority")
    else .error (value_error "responder action source must be responder-conversation")
  else
    .error (value_error
      "action_name must be a normalized symbolic action using lowercase letters, numbers, dots, underscores, or hyphens")

section

-- `repr` of a list of texts
variable (repr_texts : List String → String)

/-- The check that a plan has the fields of a proposal and no others. -/
def check_plan_keys (plan : Dict String PyObject) : Except Error Unit :=
  let unknown := plan.keys.filter (· ∉ PLAN_KEYS)
  let missing := PLAN_KEYS.filter (· ∉ plan.keys)
  if unknown ≠ [] then
    .error (value_error ("unsupported responder action fields: " ++ repr_texts (unknown.insertionSort (· ≤ ·))))
  else if missing ≠ [] then
    .error (value_error ("missing responder action fields: " ++ repr_texts (missing.insertionSort (· ≤ ·))))
  else .ok ()

def parse_responder_action_proposal (plan : Dict String PyObject) : Except Error ResponderActionProposal := do
  check_plan_keys repr_texts plan
  let request_id ← required_text (plan.get? "request_id") "request_id"
  let action_name ← required_text (plan.get? "action_name") "action_name"
  let incident_id ← required_text (plan.get? "incident_id") "incident_id"
  let source ← required_text (plan.get? "source") "source"
  let authority ← required_text (plan.get? "authority") "authority"
  ResponderActionProposal.new request_id action_name incident_id source authority (plan.get? "requires_runtime_court")

def refused (state reason : String) : ResponderActionIntakeDecision := ⟨false, state, reason, none⟩

def admit_responder_action_proposal (plan : Dict String PyObject) (incident_active : Bool)
    (active_incident_id : Option String) : Except Error ResponderActionIntakeDecision := do
  let proposal ← parse_responder_action_proposal repr_texts plan
  if !incident_active then
    return refused "no-active-incident" "responder action proposal requires an active incident"
  match active_incident_id with
  | none => return refused "active-incident-id-unavailable" "active incident identity is unavailable"
  | some active_incident_id =>
    let active_id ← required_text (some (.text active_incident_id)) "active_incident_id"
    let _ ← require_identifier active_id "active_incident_id"
    if proposal.incident_id ≠ active_id then
      return refused "incident-mismatch" "responder action proposal does not match the active incident"
    return ⟨true, "proposal-admitted", "proposal preserved for incident-action policy review",
      some (.new proposal.request_id proposal.incident_id proposal.action_name proposal.source)⟩

end

end velvet.responder_action_intake
