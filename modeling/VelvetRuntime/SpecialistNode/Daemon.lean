import VelvetRuntime.SpecialistNode.Runner

open python python.str velvet.distributed_work_coordinator velvet.distributed_work_service
open velvet.specialist_node_runner

namespace velvet.distributed_work_daemon

/-- The values that a specialist's state file holds. -/
inductive JsonValue where
  | bool (value : Bool)
  | text (value : String)
  | texts (values : List String)
  deriving DecidableEq

def STATE_SCHEMA : String := "velvet.runtime.daemon_state.v1"

/-- The state file: absent, or one JSON object. Its time stamp is left out. -/
abbrev StateFile := Option (Dict String JsonValue)

def StateFile.load (file : StateFile) : Except Error (Dict String JsonValue) :=
  match file with
  | none => .ok (Dict.empty.set "schema" (.text STATE_SCHEMA))
  | some raw =>
    if raw.get? "schema" ≠ some (.text STATE_SCHEMA) then
      .error ⟨.RuntimeError, "daemon state schema is unsupported"⟩
    else .ok raw

def StateFile.replace (payload : Dict String JsonValue) : StateFile :=
  some (payload.set "schema" (.text STATE_SCHEMA))

/-- `current.update(values)`. -/
def merged (current : Dict String JsonValue) (values : List (String × JsonValue)) : Dict String JsonValue :=
  values.foldl (fun current entry => current.set entry.1 entry.2) current

/-- A save of some keys; a file that cannot be loaded is left alone. -/
def StateFile.update (file : StateFile) (values : List (String × JsonValue)) : StateFile :=
  match file.load with
  | .error _ => file
  | .ok current => StateFile.replace (merged current values)

/-- `tuple(str(item) for item in prior.get("active_work_ids", ()))`. -/
def StateFile.listed_work (file : StateFile) : Except Error (List String) :=
  match file.load with
  | .error error => .error error
  | .ok prior =>
    match prior.get? "active_work_ids" with
    | none => .ok []
    | some (.texts values) => .ok values
    | some (.text value) => .ok (value.toList.map String.singleton)
    | some (.bool _) => .error ⟨.TypeError, "'bool' object is not iterable"⟩

/-- The persisted state lists active work. -/
def StateFile.lists (file : StateFile) : Bool :=
  match file.listed_work with
  | .ok (_ :: _) => true
  | _ => false

/-- A save that a method of the persistent runner makes after its call of the runner. -/
inductive SaveKind where
  | heartbeat (outcome_state : String) (receipt_ids : List String)
  | outcome (operation outcome_state : String)
  | failed (operation error : String)
  | plain (operation : String)
  | quarantined (reason : String)
  | quarantine_cleared
  | shutdown
  deriving DecidableEq

def SaveKind.last_operation : SaveKind → String
  | .heartbeat _ _ => "heartbeat"
  | .outcome operation _ => operation
  | .failed operation _ => operation
  | .plain operation => operation
  | .quarantined _ => "quarantined"
  | .quarantine_cleared => "quarantine-cleared"
  | .shutdown => "shutdown"

/-- The keyword values of the call of `_persist`. -/
def SaveKind.values : SaveKind → List (String × JsonValue)
  | .heartbeat outcome_state receipt_ids =>
    [("outcome_state", .text outcome_state), ("receipt_ids", .texts receipt_ids)]
  | .outcome _ outcome_state => [("outcome_state", .text outcome_state)]
  | .failed _ error => [("error", .text error)]
  | .plain _ => []
  | .quarantined reason => [("error", .text reason)]
  | .quarantine_cleared => [("recovery_required", .bool false)]
  | .shutdown => []

section

variable [StrLower]

/-- What a save writes, given the active work ids it has read. -/
def SaveKind.payload (kind : SaveKind) (profile : SpecialistNodeProfile) (active : List String) :
    List (String × JsonValue) :=
  match kind with
  | .shutdown =>
    [("clean_shutdown", .bool true), ("active_work_ids", .texts active),
      ("recovery_required", .bool (!active.isEmpty)), ("last_operation", .text "shutdown")]
  | kind =>
    [("role", .text "specialist"), ("node_id", .text profile.node_id), ("organ", .text profile.organ),
      ("clean_shutdown", .bool false), ("active_work_ids", .texts active),
      ("last_operation", .text kind.last_operation)] ++ kind.values

/-- A save in progress: the active work ids are read first, and written later. -/
structure Save where
  kind : SaveKind
  active : Option (List String)

/-- How far the constructor of the persistent runner has got: it has read the file, rewritten it,
quarantined itself, or returned. -/
inductive Stage where
  | loaded
  | replaced
  | quarantined
  | ready
  deriving DecidableEq

/-- A running daemon process: the runner, the calls of handlers and the saves that its threads are in the
middle of. -/
structure PersistentSpecialistNodeRunner where
  runner : SpecialistNodeRunner
  interrupted_work_ids : List String
  stage : Stage
  executing : List String
  saves : List Save

/-- One call of a method of the persistent runner, up to its save. A heartbeat leaves the runner alone and
is given by how it ended; `reply` is how the service answers the call that the method makes. -/
inductive RunnerCall where
  | heartbeat (ended : Except Error (String × List String))
  | receive_offer (offer : SpecialistWorkOffer) (now : ℚ) (reply : Except Error DistributedWorkServiceOutcome)
  | start_run (work_id : String) (reply : Except Error DistributedWorkServiceOutcome)
  | finish_run (work_id : String) (result : WorkResult) (reply : Except Error DistributedWorkServiceOutcome)
  | retry_completion (work_id : String) (reply : Except Error DistributedWorkServiceOutcome)
  | drain
  | resume
  | quarantine (reason : String)
  | clear_quarantine
  | mark_shutdown

/-- The save after a call that returned an outcome or raised. -/
def save_of (operation : String) : Except Error RunnerOutcome → SaveKind
  | .ok outcome => .outcome operation outcome.state
  | .error error => .failed (operation ++ "-failed") error.message

namespace PersistentSpecialistNodeRunner

def with_save (self : PersistentSpecialistNodeRunner) (runner : SpecialistNodeRunner) (kind : SaveKind) :
    PersistentSpecialistNodeRunner :=
  { self with
    runner
    saves := self.saves ++ [⟨kind, none⟩] }

def call (self : PersistentSpecialistNodeRunner) : RunnerCall → PersistentSpecialistNodeRunner
  | .heartbeat (.ok (state, receipt_ids)) => self.with_save self.runner (.heartbeat state receipt_ids)
  | .heartbeat (.error error) => self.with_save self.runner (.failed "heartbeat-failed" error.message)
  | .receive_offer offer now reply =>
    let (outcome, runner) := self.runner.receive_offer offer now reply
    self.with_save runner (save_of "receive-offer" outcome)
  | .start_run work_id reply =>
    match self.runner.start_run work_id reply with
    | (.ok none, runner) => { self with runner, executing := work_id :: self.executing }
    | (.ok (some outcome), runner) => self.with_save runner (save_of "run-accepted" (.ok outcome))
    | (.error error, runner) => self.with_save runner (save_of "run-accepted" (.error error))
  | .finish_run work_id result reply =>
    if work_id ∈ self.executing then
      let (outcome, runner) := self.runner.finish_run work_id result reply
      { self.with_save runner (save_of "run-accepted" outcome) with executing := self.executing.erase work_id }
    else self
  | .retry_completion work_id reply =>
    let (outcome, runner) := self.runner.retry_completion work_id reply
    self.with_save runner (save_of "retry-completion" outcome)
  | .drain => self.with_save self.runner.drain (.plain "draining")
  | .resume =>
    match self.runner.resume with
    | (.error _, runner) => { self with runner }
    | (.ok _, runner) => self.with_save runner (.plain "resumed")
  | .quarantine reason =>
    match self.runner.quarantine reason with
    | (.error _, runner) => { self with runner }
    | (.ok _, runner) => self.with_save runner (.quarantined reason)
  | .clear_quarantine => self.with_save self.runner.clear_quarantine .quarantine_cleared
  | .mark_shutdown => self.with_save self.runner .shutdown

/-- The file as the constructor writes it. -/
def startup_state (self : PersistentSpecialistNodeRunner) : List (String × JsonValue) :=
  [("role", .text "specialist"), ("node_id", .text self.runner.profile.node_id),
    ("organ", .text self.runner.profile.organ), ("clean_shutdown", .bool false), ("active_work_ids", .texts []),
    ("prior_interrupted_work", .texts self.interrupted_work_ids),
    ("recovery_required", .bool (!self.interrupted_work_ids.isEmpty)), ("last_operation", .text "startup")]

def startup_reason (self : PersistentSpecialistNodeRunner) : String :=
  "restart detected interrupted work: " ++ ", ".intercalate self.interrupted_work_ids

end PersistentSpecialistNodeRunner

/-- One specialist machine: its state file, and its daemon process while there is one. -/
structure Machine where
  file : StateFile
  process : Option PersistentSpecialistNodeRunner

/-- What can happen to the machine. A process starts by reading the file and goes through its constructor
step by step; then its threads make calls, read the active work ids for their saves, and write or fail to
write them. It can stop at any point. -/
inductive Event where
  | load (profile : SpecialistNodeProfile) (handlers : GhostHandlerRegistry)
  | construct
  | call (call : RunnerCall)
  | collect (index : Nat)
  | write (index : Nat)
  | lose (index : Nat)
  | stop

/-- `prior = state.load()` and what the constructor does before it writes. -/
def Machine.load (self : Machine) (profile : SpecialistNodeProfile) (handlers : GhostHandlerRegistry) : Machine :=
  match self.process, self.file.listed_work with
  | none, .ok listed =>
    { self with process := some ⟨.new profile handlers, listed.insertionSort (· ≤ ·), .loaded, [], []⟩ }
  | _, _ => self

/-- The next step of the constructor. -/
def Machine.construct (self : Machine) (process : PersistentSpecialistNodeRunner) : Machine :=
  match process.stage with
  | .loaded =>
    ⟨StateFile.replace (merged .empty process.startup_state), some { process with stage := .replaced }⟩
  | .replaced =>
    if process.interrupted_work_ids = [] then { self with process := some { process with stage := .ready } }
    else
      { self with process := some { process with
        runner := (process.runner.quarantine process.startup_reason).2
        stage := .quarantined } }
  | .quarantined =>
    ⟨self.file.update ((SaveKind.plain "startup-quarantined").payload process.runner.profile
      process.runner.active_work_ids), some { process with stage := .ready }⟩
  | .ready => self

/-- A step of one save of a process that is up. -/
def Machine.collect (self : Machine) (process : PersistentSpecialistNodeRunner) (index : Nat) : Machine :=
  { self with process := some { process with
    saves := process.saves.modify index (fun save => { save with active := some process.runner.active_work_ids }) } }

def Machine.write (self : Machine) (process : PersistentSpecialistNodeRunner) (index : Nat) : Machine :=
  match process.saves[index]? with
  | some ⟨kind, some active⟩ =>
    ⟨self.file.update (kind.payload process.runner.profile active),
      some { process with saves := process.saves.eraseIdx index }⟩
  | _ => self

/-- One event; an event that cannot happen now leaves the machine as it is. -/
def Machine.step (self : Machine) (event : Event) : Machine :=
  match event, self.process with
  | .load profile handlers, _ => self.load profile handlers
  | .construct, some process => self.construct process
  | .call call, some process =>
    if process.stage = .ready then { self with process := some (process.call call) } else self
  | .collect index, some process => if process.stage = .ready then self.collect process index else self
  | .write index, some process => if process.stage = .ready then self.write process index else self
  | .lose index, some process =>
    if process.stage = .ready then
      { self with process := some { process with saves := process.saves.eraseIdx index } }
    else self
  | .stop, some _ => { self with process := none }
  | _, none => self

end

end velvet.distributed_work_daemon
