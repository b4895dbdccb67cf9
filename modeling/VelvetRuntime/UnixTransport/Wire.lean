import VelvetRuntime.SpecialistNode.Handlers
import VelvetRuntime.UnixTransport.Fields

open python python.str python.num python.json velvet.distributed_work_coordinator velvet.distributed_work_service
  velvet.specialist_node_runner

namespace velvet.distributed_work_unix_transport

/-- `_send_frame` and `_receive_frame` on a mapping of a message; nothing when it is not canonical JSON data. -/
def transmit (message : List (String × PyObject)) : Option (List (String × Json)) :=
  (PyObject.encode_entries Foreign.written message).map received

/-- Whether a mapping that arrives equals the one that was sent, lists standing for tuples. -/
def Carries (sent : List (String × PyObject)) (got : List (String × Json)) : Prop :=
  (PyObject.mapping sent).Equals (.object got)

/-- `list(values)` of texts. -/
def text_values (values : List String) : PyObject := .list (values.map PyObject.text)

def optional_text : Option String → PyObject
  | none => .null
  | some text => .text text

section checks

/-- `_require_text` of the constructors. -/
def require_text (name value : String) : Except Error Unit :=
  if Blank value then .error (value_error (name ++ " must be a non-empty string")) else .ok ()

def require_normalized [StrLower] (name value : String) : Except Error Unit :=
  if value = "" then .error (value_error (name ++ " must be a non-empty normalized string"))
  else if value ≠ normalized value then .error (value_error (name ++ " must already be normalized"))
  else .ok ()

def require_normalized_tuple [StrLower] (name : String) (values : List String) (required : Bool) :
    Except Error Unit := do
  if required ∧ values = [] then .error (value_error (name ++ " cannot be empty"))
  else do
    values.forM (require_normalized name)
    if ¬values.Nodup then .error (value_error (name ++ " cannot contain duplicates")) else .ok ()

def require_authority_none (authority message : String) : Except Error Unit :=
  if authority ≠ "none" then .error (value_error message) else .ok ()

end checks

section advertisements

/-- The attributes of a `NodeAdvertisement`. -/
structure AdvertisementAttributes where
  node_id : String
  body_id : String
  organ : String
  tier : NodeTier
  capabilities : List String
  current_load : JsonFloat
  health : JsonFloat
  availability : NodeAvailability
  last_heartbeat : JsonFloat
  accepted_work_classes : List String
  refused_work_classes : List String
  max_concurrent_tasks : Int
  current_tasks : Int
  overflow_capable : Bool
  overflow_capabilities : List String
  temporary_absorption_capabilities : List String
  body_verified : Bool
  continuity_verified : Bool
  authority : String

namespace AdvertisementAttributes

/-- `NodeAdvertisement.__post_init__`. -/
def post_init (self : AdvertisementAttributes) : Except Error Unit :=
  if Blank self.node_id ∨ Blank self.body_id ∨ Blank self.organ then
    .error (value_error "node_id, body_id, and organ are required")
  else if [self.current_load, self.health].any
      (fun value => !((JsonFloat.finite 0).le value && value.le (.finite 1))) then
    .error (value_error "load and health must be between 0 and 1")
  else if self.last_heartbeat.lt 0 then .error (value_error "last_heartbeat cannot be negative")
  else if self.max_concurrent_tasks < 1 then .error (value_error "max_concurrent_tasks must be at least one")
  else if ¬(0 ≤ self.current_tasks ∧ self.current_tasks ≤ self.max_concurrent_tasks) then
    .error (value_error "current_tasks must fit the declared task limit")
  else if ∃ value ∈ self.capabilities ++ self.accepted_work_classes ++ self.refused_work_classes ++
      self.overflow_capabilities ++ self.temporary_absorption_capabilities, Blank value then
    .error (value_error "advertised values cannot be blank")
  else require_authority_none self.authority "node advertisements cannot carry authority"

end AdvertisementAttributes

end advertisements

section results

/-- The attributes of a `WorkResult`. -/
structure WorkResultAttributes where
  work_id : String
  node_id : String
  result_status : String
  summary : String
  evidence_references : List String
  important : Bool
  canonical : Bool
  execution_authorized : Bool
  actuation_authorized : Bool
  authority : String

namespace WorkResultAttributes

/-- `WorkResult.__post_init__`. -/
def post_init [StrLower] (self : WorkResultAttributes) : Except Error Unit := do
  require_normalized "work_id" self.work_id
  require_normalized "node_id" self.node_id
  if result_state self.result_status = none then
    .error (value_error "unsupported distributed work result status")
  else do
    require_text "summary" self.summary
    self.evidence_references.forM (require_text "evidence_references")
    if self.canonical then .error (value_error "distributed work results are not canonical memory")
    else if self.execution_authorized ∨ self.actuation_authorized then
      .error (value_error "work results cannot authorize execution or actuation")
    else require_authority_none self.authority "work results cannot carry authority"

end WorkResultAttributes

end results

section offers

/-- The attributes of a `SpecialistWorkOffer`. -/
structure OfferAttributes where
  work_id : String
  work_class : String
  node_id : String
  organ : String
  lease_id : String
  lease_expires_at : JsonFloat
  required_capabilities : List String
  handler_name : String
  parameters : List (String × PyObject)
  important_result : Bool
  consequential : Bool
  transport_only : Bool
  canonical : Bool
  grants_authority : Bool
  grants_execution : Bool
  grants_actuation : Bool
  authority : String

namespace OfferAttributes

/-- `SpecialistWorkOffer.__post_init__`. -/
def post_init [StrLower] (texts : PythonText) (self : OfferAttributes) : Except Error Unit := do
  require_normalized "work_id" self.work_id
  require_normalized "work_class" self.work_class
  require_normalized "node_id" self.node_id
  require_normalized "organ" self.organ
  require_normalized "handler_name" self.handler_name
  require_text "lease_id" self.lease_id
  if self.lease_expires_at.lt 0 then .error (value_error "lease_expires_at cannot be negative")
  else do
    require_normalized_tuple "required_capabilities" self.required_capabilities true
    let forbidden := find_forbidden_entries "parameters" self.parameters
    if forbidden ≠ [] then
      .error (value_error ("offer parameters contain forbidden authority fields: " ++
        texts.list_text (sorted_set forbidden)))
    else if !self.transport_only then .error (value_error "specialist offers must remain transport-only")
    else if self.canonical ∨ self.grants_authority ∨ self.grants_execution ∨ self.grants_actuation then
      .error (value_error "specialist offers cannot grant downstream effects")
    else require_authority_none self.authority "specialist offers cannot carry authority"

end OfferAttributes

end offers

section service_outcomes

/-- The attributes of a `LifecycleEvidence`. -/
structure LifecycleAttributes where
  event_type : String
  subject_id : String
  receipt_id : String
  payload : List (String × PyObject)

/-- The flags that `_validate_transport_boundary` wants in a payload, in its order. -/
def boundary_flags : List (String × PyObject × String) :=
  [("transport_only", .bool true, "True"), ("canonical", .bool false, "False"), ("authority", .text "none", "'none'"),
    ("grants_authority", .bool false, "False"), ("grants_execution", .bool false, "False"),
    ("grants_actuation", .bool false, "False")]

/-- `mapping.get(key)`. -/
def value_of (entries : List (String × PyObject)) (key : String) : Option PyObject :=
  (entries.find? (fun entry => entry.1 = key)).map Prod.snd

/-- Whether `payload.get(key) == expected`. -/
def matches_flag : Option PyObject → PyObject → Bool
  | some (.bool value), .bool expected => value = expected
  | some (.int value), .bool expected => value = if expected then 1 else 0
  | some (.float value), .bool expected => value = .finite (if expected then 1 else 0)
  | some (.text value), .text expected => value = expected
  | _, _ => false

def validate_transport_boundary (payload : List (String × PyObject)) : Except Error Unit :=
  match boundary_flags.find? (fun flag => !matches_flag (value_of payload flag.1) flag.2.1) with
  | none => .ok ()
  | some (key, _, expected) => .error (value_error ("distributed work payload " ++ key ++ " must be " ++ expected))

/-- `LifecycleEvidence.__post_init__`. -/
def LifecycleAttributes.post_init [StrLower] (self : LifecycleAttributes) : Except Error Unit := do
  require_text "event_type" self.event_type
  require_normalized "subject_id" self.subject_id
  require_text "receipt_id" self.receipt_id
  validate_transport_boundary self.payload

/-- The attributes of a `DistributedWorkServiceOutcome`. -/
structure ServiceOutcomeAttributes where
  state : String
  work_id : String
  node_id : Option String
  lease_id : Option String
  degradation : String
  lifecycle : List LifecycleAttributes
  accepted : Bool
  completed : Bool
  escalated_to_queen : Bool
  canonical : Bool
  execution_authorized : Bool
  actuation_authorized : Bool
  authority : String

/-- A check of an attribute that may be missing. -/
def if_given (check : String → Except Error Unit) : Option String → Except Error Unit
  | none => .ok ()
  | some value => check value

/-- `DistributedWorkServiceOutcome.__post_init__`. -/
def ServiceOutcomeAttributes.post_init [StrLower] (self : ServiceOutcomeAttributes) : Except Error Unit := do
  require_text "state" self.state
  require_normalized "work_id" self.work_id
  if_given (require_normalized "node_id") self.node_id
  if_given (require_text "lease_id") self.lease_id
  if self.canonical ∨ self.execution_authorized ∨ self.actuation_authorized then
    .error (value_error "service outcomes cannot authorize downstream effects")
  else require_authority_none self.authority "service outcomes cannot carry authority"

end service_outcomes

section runner_outcomes

/-- The attributes of a `RunnerOutcome`. -/
structure RunnerOutcomeAttributes where
  state : String
  work_id : String
  node_id : String
  handler_name : String
  output : Option (List (String × PyObject))
  errors : List String
  accepted : Bool
  completed : Bool
  refused : Bool
  pending_completion : Bool
  service_state : Option String
  canonical : Bool
  execution_authorized : Bool
  actuation_authorized : Bool
  authority : String

/-- `RunnerOutcome.__post_init__`. -/
def RunnerOutcomeAttributes.post_init [StrLower] (self : RunnerOutcomeAttributes) : Except Error Unit := do
  require_text "state" self.state
  require_normalized "work_id" self.work_id
  require_normalized "node_id" self.node_id
  require_normalized "handler_name" self.handler_name
  if self.canonical ∨ self.execution_authorized ∨ self.actuation_authorized then
    .error (value_error "runner outcomes cannot authorize downstream effects")
  else require_authority_none self.authority "runner outcomes cannot carry authority"

end runner_outcomes

section messages

def OfferAttributes.Equals (sent got : OfferAttributes) : Prop :=
  ∃ decoded, got = { sent with parameters := PyObject.of_json_entries decoded } ∧ Carries sent.parameters decoded

def LifecycleAttributes.Equals (sent got : LifecycleAttributes) : Prop :=
  ∃ decoded, got = { sent with payload := PyObject.of_json_entries decoded } ∧ Carries sent.payload decoded

def ServiceOutcomeAttributes.Equals (sent got : ServiceOutcomeAttributes) : Prop :=
  got = { sent with lifecycle := got.lifecycle } ∧
    List.Forall₂ LifecycleAttributes.Equals sent.lifecycle got.lifecycle

def RunnerOutcomeAttributes.Equals (sent got : RunnerOutcomeAttributes) : Prop :=
  ∃ decoded, got = { sent with output := decoded.map PyObject.of_json_entries } ∧ Option.Rel Carries sent.output decoded

/-- A record that the transport encodes. -/
inductive Message where
  | advertisement (value : AdvertisementAttributes)
  | work_result (value : WorkResultAttributes)
  | offer (value : OfferAttributes)
  | service_outcome (value : ServiceOutcomeAttributes)
  | runner_outcome (value : RunnerOutcomeAttributes)

end messages

end velvet.distributed_work_unix_transport
