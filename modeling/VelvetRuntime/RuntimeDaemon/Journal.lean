import VelvetRuntime.DistributedWork.Service

open python velvet.distributed_work_service

namespace velvet.distributed_work_daemon

/-- What the state file of the Runtime keeps about an active work. -/
structure ActiveWork where
  event_type : EventType
  node_id : Option String
  organ : Option String
  lease_id : Option String
  receipt_id : String
  deriving DecidableEq

/-- The state of the Runtime daemon, as it is kept in its file. A key that is missing has its default. -/
structure RuntimeState where
  boot_id : Option String
  clean_shutdown : Bool
  active_work : Dict String ActiveWork
  prior_interrupted_work : List String
  recovery_required : Bool
  deriving DecidableEq

/-- `{"schema": _STATE_SCHEMA}`. -/
def RuntimeState.blank : RuntimeState := ⟨none, false, .empty, [], false⟩

/-- The state file of the Runtime: it may be absent, or not hold a state of the schema. -/
inductive RuntimeStateFile where
  | absent
  | unreadable (error : Error)
  | holds (state : RuntimeState)
  deriving DecidableEq

def RuntimeStateFile.load : RuntimeStateFile → Except Error RuntimeState
  | .absent => .ok .blank
  | .unreadable error => .error error
  | .holds state => .ok state

/-- The works that the file lists as active. -/
def RuntimeStateFile.active_work (file : RuntimeStateFile) : List String :=
  match file.load with
  | .error _ => []
  | .ok state => state.active_work.keys

def payload_node_id : Payload → Option String
  | .node payload => some payload.advertisement.node_id
  | .work payload => payload.node_id

def payload_organ : Payload → Option String
  | .node payload => some payload.advertisement.organ
  | .work payload => payload.organ

def payload_lease_id : Payload → Option String
  | .node _ => none
  | .work payload => payload.lease_id

/-- `not payload.get("node_id")`. -/
def names_no_node (payload : Payload) : Bool :=
  match payload_node_id payload with
  | none => true
  | some node_id => node_id = ""

namespace RuntimeLifecycleJournal

/-- What a lifecycle event makes of the active work. -/
def active_after (active : Dict String ActiveWork) (event_type : EventType) (subject_id : String)
    (payload : Payload) (receipt_id : String) : Dict String ActiveWork :=
  if event_type ∈ [.WORK_OFFERED, .WORK_ACCEPTED, .WORK_RECOVERY_REASSIGNED] then
    active.set subject_id
      { event_type
        node_id := payload_node_id payload
        organ := payload_organ payload
        lease_id := payload_lease_id payload
        receipt_id }
  else if event_type = .WORK_COMPLETED then active.pop subject_id
  else if event_type = .WORK_DEGRADED ∧ names_no_node payload = true then active.pop subject_id
  else active

/-- `__call__` on the state file. Its line in the lifecycle journal is written before, and read by nobody. -/
def call (file : RuntimeStateFile) (event_type : EventType) (subject_id : String) (payload : Payload)
    (receipt_id : String) : RuntimeStateFile :=
  match file.load with
  | .error _ => file
  | .ok state => .holds { state with
      active_work := active_after state.active_work event_type subject_id payload receipt_id
      clean_shutdown := false }

def mark_clean_shutdown (file : RuntimeStateFile) : RuntimeStateFile :=
  match file.load with
  | .error _ => file
  | .ok state => .holds { state with
      clean_shutdown := true
      recovery_required := !state.active_work.items.isEmpty }

/-- `self.interrupted_work`. -/
def interrupted_work (prior : RuntimeState) : List String :=
  prior.active_work.keys.insertionSort (· ≤ ·)

/-- The state that a start of the journal writes over the one it has read. -/
def started (boot_id : String) (interrupted : List String) : RuntimeState where
  boot_id := some boot_id
  clean_shutdown := false
  active_work := .empty
  prior_interrupted_work := interrupted
  recovery_required := false

end RuntimeLifecycleJournal

end velvet.distributed_work_daemon
