import Mathlib.Data.Finset.Sort
import Mathlib.Data.Prod.Lex
import VelvetRuntime.InvertedIndex
import VelvetRuntime.SensorLan.Ingress

open python python.num inverted_index
open velvet.sensor_lan_ingress (value_error normalized_text sent_at_of)

namespace velvet.sensor_fabric

open Program

inductive CommissioningMaturity where
  | observe
  | trust
  | advise
  | authorize
  deriving DecidableEq, Repr

namespace CommissioningMaturity

/-- `COMMISSIONING_RANK`. -/
def rank : CommissioningMaturity → Nat
  | observe => 0
  | trust => 1
  | advise => 2
  | authorize => 3

def text : CommissioningMaturity → String
  | observe => "observe"
  | trust => "trust"
  | advise => "advise"
  | authorize => "authorize"

def of_text : String → Option CommissioningMaturity
  | "observe" => some .observe
  | "trust" => some .trust
  | "advise" => some .advise
  | "authorize" => some .authorize
  | _ => none

end CommissioningMaturity

/-- `LIFECYCLE_STATES`. -/
inductive LifecycleState where
  | discovered
  | online
  | calibration_loaded
  | ready
  | degraded
  | blocked
  | offline
  | recovered
  | calibration_invalid
  deriving DecidableEq, Repr

def LifecycleState.of_text : String → Option LifecycleState
  | "discovered" => some .discovered
  | "online" => some .online
  | "calibration_loaded" => some .calibration_loaded
  | "ready" => some .ready
  | "degraded" => some .degraded
  | "blocked" => some .blocked
  | "offline" => some .offline
  | "recovered" => some .recovered
  | "calibration_invalid" => some .calibration_invalid
  | _ => none

/-- A consumer's request for evidence. The proofs are the checks of `__post_init__`. -/
@[ext] structure SensorSubscription where
  consumer_id : String
  capability : String
  use_profile : String
  minimum_maturity : CommissioningMaturity
  consumer_id_given : ¬Blank consumer_id
  capability_given : ¬Blank capability
  use_profile_given : ¬Blank use_profile

instance : DecidableEq SensorSubscription := fun _ _ => decidable_of_iff _ SensorSubscription.ext_iff.symm

/-- The key by which subscriptions are sorted. -/
def SensorSubscription.key (subscription : SensorSubscription) : String ×ₗ String ×ₗ String ×ₗ String :=
  toLex (subscription.consumer_id, toLex (subscription.capability,
    toLex (subscription.use_profile, subscription.minimum_maturity.text)))

structure SensorRecord where
  sensor_id : String
  sensor_family : String
  measurements : List String
  outputs : List String
  diagnostics : Dict String Bool
  timing : Dict String Bool
  lifecycle_state : LifecycleState
  health_state : String
  quality_state : String
  calibration_id : Option String
  latest_measured_at : Option JsonFloat
  latest_received_at : Option JsonFloat
  lifecycle_reasons : List String

/-- `SensorRecord(sensor_id=..., sensor_family=...)`, with the defaults of the other fields. -/
def SensorRecord.new (sensor_id sensor_family : String) : SensorRecord where
  sensor_id
  sensor_family
  measurements := []
  outputs := []
  diagnostics := .empty
  timing := .empty
  lifecycle_state := .discovered
  health_state := "unknown"
  quality_state := "unknown"
  calibration_id := none
  latest_measured_at := none
  latest_received_at := none
  lifecycle_reasons := []

def SensorRecord.capabilities (record : SensorRecord) : List String :=
  (record.measurements ++ record.outputs).dedup.insertionSort (· ≤ ·)

structure SensorDelivery where
  consumer_id : String
  sensor_id : String
  capability : String
  use_profile : String
  maturity : CommissioningMaturity
  envelope : List (String × Json)

structure SensorFabric where
  sensors : Dict String SensorRecord
  capability_sources : Dict String (Finset String)
  subscriptions : List SensorSubscription

def require_mapping (name : String) : Option Json → Except Error (List (String × Json))
  | some (.object entries) => .ok entries
  | _ => .error (value_error (name ++ " must be a mapping"))

def require_contract_flags (payload : List (String × Json)) (status : String) : Except Error Unit :=
  if ((entry_of payload "status").getD .null).is_text status then
    match entry_of payload "read_only" with
    | some (.bool true) => .ok ()
    | _ => .error (value_error "sensor contract payload must be read-only")
  else .error (value_error "unexpected sensor contract status")

def required_text (values : List (String × Json)) (key : String) : Except Error String :=
  normalized_text key (entry_of values key)

def optional_text (name : String) : Option Json → Except Error (Option String)
  | none | some .null => .ok none
  | some value => (normalized_text name (some value)).map some

/-- A value that no set can hold cannot be looked up in the table of ranks. -/
def require_maturity : Json → Except Error CommissioningMaturity
  | .text value =>
    match CommissioningMaturity.of_text value with
    | some maturity => .ok maturity
    | none => .error (value_error "invalid commissioning maturity")
  | value =>
    if value.hashable then .error (value_error "invalid commissioning maturity")
    else .error ⟨.TypeError, "unhashable type: '" ++ value.type_name ++ "'"⟩

def string_tuple (name : String) : Option Json → Except Error (List String)
  | some (.list items) => items.mapM (fun item => normalized_text name (some item))
  | _ => .error (value_error (name ++ " must be a list or tuple"))

def bool_entries (name : String) : List (String × Json) → Dict String Bool → Except Error (Dict String Bool)
  | [], result => .ok result
  | (key, item) :: rest, result => do
    let key ← normalized_text (name ++ " key") (some (.text key))
    match item with
    | .bool value => bool_entries name rest (result.set key value)
    | _ => .error (value_error (name ++ " values must be boolean"))

def bool_map (name : String) (value : Option Json) : Except Error (Dict String Bool) := do
  let entries ← require_mapping name value
  bool_entries name entries .empty

def nonnegative_number (name : String) (value : Option Json) : Except Error JsonFloat :=
  sent_at_of (value_error (name ++ " must be numeric")) (value_error (name ++ " cannot be negative")) value

structure Declaration where
  sensor_id : String
  sensor_family : String
  measurements : List String
  outputs : List String
  diagnostics : Dict String Bool
  timing : Dict String Bool

/-- What `register_capabilities` reads of a payload. -/
def read_declaration (payload : Json) : Except Error Declaration := do
  let payload ← require_mapping "payload" (some payload)
  require_contract_flags payload "declaration-only"
  let sensor_id ← required_text payload "sensor_id"
  let sensor_family ← required_text payload "sensor_family"
  let measurements ← string_tuple "measurements" (entry_of payload "measurements")
  let outputs ← string_tuple "outputs" (entry_of payload "outputs")
  if measurements = [] ∧ outputs = [] then
    .error (value_error "at least one measurement or output capability is required")
  else if ¬measurements.Nodup then .error (value_error "measurements must not contain duplicates")
  else if ¬outputs.Nodup then .error (value_error "outputs must not contain duplicates")
  else do
    let diagnostics ← bool_map "diagnostics" (some ((entry_of payload "diagnostics").getD (.object [])))
    let timing ← bool_map "timing" (some ((entry_of payload "timing").getD (.object [])))
    pure { sensor_id, sensor_family, measurements, outputs, diagnostics, timing }

structure LifecycleEvidence where
  sensor_id : String
  sensor_family : String
  state : LifecycleState
  occurred_at : JsonFloat
  reasons : List String
  calibration_id : Option String
  deriving DecidableEq

/-- What `apply_lifecycle` reads of a payload. -/
def read_lifecycle (payload : Json) : Except Error LifecycleEvidence := do
  let payload ← require_mapping "payload" (some payload)
  require_contract_flags payload "evidence-only"
  let sensor_id ← required_text payload "sensor_id"
  let sensor_family ← required_text payload "sensor_family"
  let state ← required_text payload "state"
  match LifecycleState.of_text state with
  | none => .error (value_error "invalid lifecycle state")
  | some state => do
    let occurred_at ← nonnegative_number "occurred_at" (entry_of payload "occurred_at")
    let reasons ← string_tuple "reasons" (some ((entry_of payload "reasons").getD (.list [])))
    let calibration_id ← optional_text "calibration_id" (entry_of payload "calibration_id")
    pure { sensor_id, sensor_family, state, occurred_at, reasons, calibration_id }

structure Observation where
  measured_at : JsonFloat
  received_at : JsonFloat
  health_state : String
  quality_state : String
  calibration_id : Option String
  commissioning : List (String × CommissioningMaturity)

/-- `commissioning.get(use_profile)`. -/
def Observation.maturity_for (observation : Observation) (use_profile : String) : Option CommissioningMaturity :=
  (observation.commissioning.find? (fun entry => entry.1 = use_profile)).map Prod.snd

/-- The sensor that an envelope names, and its family. -/
def read_source (envelope : List (String × Json)) : Except Error (String × String) :=
  if ((entry_of envelope "schema").getD .null).is_text "velvet.sensor-envelope" then do
    require_contract_flags envelope "observation-only"
    let sensor ← require_mapping "sensor" (entry_of envelope "sensor")
    let sensor_id ← required_text sensor "id"
    let sensor_family ← required_text sensor "family"
    pure (sensor_id, sensor_family)
  else .error (value_error "unsupported sensor envelope schema")

def read_observation (envelope : List (String × Json)) : Except Error Observation := do
  let time_block ← require_mapping "time" (entry_of envelope "time")
  let measured_at ← nonnegative_number "measurement" (entry_of time_block "measurement")
  let received_at ← nonnegative_number "received" (entry_of time_block "received")
  let health ← require_mapping "health" (entry_of envelope "health")
  let quality ← require_mapping "quality" (entry_of envelope "quality")
  let commissioning ← require_mapping "commissioning" (entry_of envelope "commissioning")
  let frame ← require_mapping "frame" (entry_of envelope "frame")
  let health_state ← required_text health "state"
  let quality_state ← required_text quality "state"
  let calibration_id ← optional_text "calibration_id" (entry_of frame "calibration_id")
  let commissioning ← commissioning.mapM (fun entry => do
    let _ ← normalized_text "commissioning use_profile" (some (.text entry.1))
    let maturity ← require_maturity entry.2
    pure (entry.1, maturity))
  pure { measured_at, received_at, health_state, quality_state, calibration_id, commissioning }

namespace SensorFabric

def new : SensorFabric where
  sensors := .empty
  capability_sources := .empty
  subscriptions := []

/-- `_remove_from_capability_index`. -/
def remove_from_capability_index (self : SensorFabric) (record : SensorRecord) : SensorFabric :=
  { self with capability_sources := remove_all record.sensor_id record.capabilities self.capability_sources }

/-- `_add_to_capability_index`. -/
def add_to_capability_index (self : SensorFabric) (record : SensorRecord) : SensorFabric :=
  { self with capability_sources := add_all record.sensor_id record.capabilities self.capability_sources }

/-- `self._sensors[sensor_id] = record`. -/
def store (self : SensorFabric) (sensor_id : String) (record : SensorRecord) : SensorFabric :=
  { self with sensors := self.sensors.set sensor_id record }

end SensorFabric

def register_capabilities (payload : Json) : Program Error SensorFabric SensorRecord := do
  let declared ← of_except (read_declaration payload)
  let fabric ← get
  match fabric.sensors.get? declared.sensor_id with
  | none => do
    let record := { SensorRecord.new declared.sensor_id declared.sensor_family with
      measurements := declared.measurements
      outputs := declared.outputs
      diagnostics := declared.diagnostics
      timing := declared.timing }
    modify (fun fabric => fabric.store declared.sensor_id record)
    modify (fun fabric => fabric.add_to_capability_index record)
    pure record
  | some previous =>
    if previous.sensor_family ≠ declared.sensor_family then
      throw (value_error "sensor_family cannot change for a registered sensor")
    else do
      modify (fun fabric => fabric.remove_from_capability_index previous)
      let record := { previous with
        measurements := declared.measurements
        outputs := declared.outputs
        diagnostics := declared.diagnostics
        timing := declared.timing }
      modify (fun fabric => fabric.store declared.sensor_id record)
      modify (fun fabric => fabric.add_to_capability_index record)
      pure record

def apply_lifecycle (payload : Json) : Program Error SensorFabric SensorRecord := do
  let evidence ← of_except (read_lifecycle payload)
  let fabric ← get
  match fabric.sensors.get? evidence.sensor_id with
  | none => do
    let record := { SensorRecord.new evidence.sensor_id evidence.sensor_family with
      lifecycle_state := evidence.state
      calibration_id := evidence.calibration_id
      lifecycle_reasons := evidence.reasons }
    modify (fun fabric => fabric.store evidence.sensor_id record)
    pure record
  | some previous =>
    if previous.sensor_family ≠ evidence.sensor_family then
      throw (value_error "sensor_family does not match registered sensor")
    else do
      let record := { previous with
        lifecycle_state := evidence.state
        calibration_id := evidence.calibration_id.or previous.calibration_id
        lifecycle_reasons := evidence.reasons }
      modify (fun fabric => fabric.store evidence.sensor_id record)
      pure record

def subscribe (subscription : SensorSubscription) : Program Error SensorFabric Unit := do
  let fabric ← get
  if subscription ∈ fabric.subscriptions then throw (value_error "subscription is already registered")
  else modify (fun fabric => { fabric with subscriptions := fabric.subscriptions ++ [subscription] })

def require_sensor (sensor_id : String) : Program Error SensorFabric SensorRecord := do
  let sensor_id ← of_except (normalized_text "sensor_id" (some (.text sensor_id)))
  let fabric ← get
  match fabric.sensors.get? sensor_id with
  | some record => pure record
  | none => throw ⟨.KeyError, "sensor is not registered: " ++ sensor_id⟩

/-- Whether the observation is not older than the live one. -/
def SensorRecord.updated_by (record : SensorRecord) (observation : Observation) : Bool :=
  match record.latest_received_at with
  | none => true
  | some latest => latest.le observation.received_at

/-- The delivery to a subscription, if the sensor's evidence is eligible for it. -/
def delivery_for (sensor_id : String) (record : SensorRecord) (observation : Observation)
    (envelope : List (String × Json)) (subscription : SensorSubscription) : Option SensorDelivery :=
  if subscription.capability ∉ record.capabilities then none
  else
    match observation.maturity_for subscription.use_profile with
    | none => none
    | some maturity =>
      if maturity.rank < subscription.minimum_maturity.rank then none
      else
        some {
          consumer_id := subscription.consumer_id
          sensor_id
          capability := subscription.capability
          use_profile := subscription.use_profile
          maturity
          envelope }

/-- `sorted(self._subscriptions, key=...)`. -/
def sorted_subscriptions (fabric : SensorFabric) : List SensorSubscription :=
  fabric.subscriptions.insertionSort (fun left right => left.key ≤ right.key)

/-- The live state follows the observation, unless the observation is older. -/
def record_observation (sensor_id : String) (record : SensorRecord) (observation : Observation) :
    Program Error SensorFabric SensorRecord :=
  if record.updated_by observation then do
    let record := { record with
      health_state := observation.health_state
      quality_state := observation.quality_state
      calibration_id := observation.calibration_id.or record.calibration_id
      latest_measured_at := some observation.measured_at
      latest_received_at := some observation.received_at }
    modify (fun fabric => fabric.store sensor_id record)
    pure record
  else pure record

def route_observation (envelope : Json) : Program Error SensorFabric (List SensorDelivery) := do
  let envelope ← of_except (require_mapping "envelope" (some envelope))
  let (sensor_id, sensor_family) ← of_except (read_source envelope)
  let record ← require_sensor sensor_id
  if record.sensor_family ≠ sensor_family then
    throw (value_error "sensor_family does not match registered sensor")
  else if record.capabilities = [] then throw (value_error "sensor has no registered capabilities")
  else do
    let observation ← of_except (read_observation envelope)
    let record ← record_observation sensor_id record observation
    let fabric ← get
    pure ((sorted_subscriptions fabric).filterMap (delivery_for sensor_id record observation envelope))

end velvet.sensor_fabric
