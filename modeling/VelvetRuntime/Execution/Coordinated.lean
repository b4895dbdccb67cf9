import VelvetRuntime.Execution.Executor

open python python.str velvet.court_token velvet.execution_contract velvet.resource_coordinator
open velvet.token_replay_ledger velvet.approved_executor

namespace velvet.coordinated_executor

open Thread

variable [StrLower]

/-- The arguments of `execute_coordinated`. -/
structure CoordinatedExecution extends Execution where
  resource_coordinator : Nat

def resource_errors (decision : ResourceDecision) : List String :=
  decision.errors ++ decision.conflicts.map (fun conflict =>
    "resource '" ++ conflict.resource ++ "' is owned by '" ++ conflict.owner_id ++ "'")

namespace CoordinatedExecution

variable (self : CoordinatedExecution)

def owner_id : String := "execution:" ++ self.token.token_id

/-- The execution under the normalised executor name. -/
def named : Execution := { self.toExecution with executor_name := normalized self.executor_name }

/-- `_resource_receipt`. -/
def resource_receipt (event_type : EventType) (resources : List String) (decision : ResourceDecision)
    (errors : List String) : Receipt :=
  .resource event_type decision.state self.owner_id (normalized self.executor_name) self.token resources
    decision.conflicts errors

/-- What the end of the release makes of a result. -/
def after_release (release : ResourceDecision) (persisted : Bool) (result : ExecutionResult) : ExecutionResult :=
  if !release.granted then
    { result with
      state := .resource_release_failed
      errors := result.errors ++ ["resource lease release failed"] }
  else if !persisted then
    { result with
      state := .resource_release_unreceipted
      errors := result.errors ++ ["resource-release receipt could not be persisted"] }
  else result

variable (builtins : Builtins)

def preflight : Thread Error Requests (Option ExecutionState) := do
  if ← perform (I := Requests) (.contains self.used_token_ids self.token.token_id) then pure (some .token_replay)
  else if !(← self.verified builtins) then pure (some .invalid_token)
  else
    match ← attempt (perform (I := Requests) (.get self.registry (normalized self.executor_name))) with
    | .error error => if error.kind = .KeyError then pure (some .executor_not_registered) else raises error
    | .ok spec => pure ((self.refusal_of_spec spec).map Prod.fst)

/-- The `try` and `finally` statement: the lease is released whatever the end of the execution is. -/
def execute_leased (resources : List String) : Thread Error Requests ExecutionResult := do
  let result ← attempt (self.named.execute_authorized builtins)
  let release ← perform (I := Requests) (.release self.resource_coordinator self.owner_id)
  let persisted ← persist (self.resource_receipt
    (if release.granted then .RESOURCE_RELEASED else .RESOURCE_RELEASE_FAILED) resources release
    (resource_errors release))
  conclude (result.map (after_release release persisted))

/-- The acquisition of the executor's resources and what follows it. -/
def execute_exclusive (spec : ExecutorSpec) : Thread Error Requests ExecutionResult := do
  let name := normalized self.executor_name
  let resources := spec.contract.exclusive_resources
  let acquisition ← perform (I := Requests) (.acquire self.resource_coordinator self.owner_id resources)
  if !acquisition.granted then
    let errors := resource_errors acquisition
    let persisted ← persist (self.resource_receipt .RESOURCE_DENIED resources acquisition errors)
    pure ⟨false, .resource acquisition.state, name, self.token.token_id, none, false, persisted, errors,
      some spec.contract.contract_id⟩
  else
    let acquired ← persist (self.resource_receipt .RESOURCE_ACQUIRED resources acquisition [])
    if !acquired then
      let _ ← perform (I := Requests) (.release self.resource_coordinator self.owner_id)
      pure ⟨false, .resource_receipt_unpersisted, name, self.token.token_id, none, false, false,
        ["resource-acquisition receipt could not be persisted"], some spec.contract.contract_id⟩
    else self.execute_leased builtins resources

def execute_coordinated : Thread Error Requests ExecutionResult := do
  match ← self.preflight builtins with
  | some _ => self.named.execute_authorized builtins
  | none =>
    let spec ← perform (I := Requests) (.get self.registry (normalized self.executor_name))
    if spec.contract.exclusive_resources = [] then self.named.execute_authorized builtins
    else self.execute_exclusive builtins spec

end CoordinatedExecution

/-- The objects that calls share, with the files of the ledgers and the last reading of the clock. -/
structure World where
  registries : Nat → ExecutorRegistry
  ledgers : Nat → TokenReplayLedger
  plain_sets : Nat → List String
  coordinators : Nat → ResourceCoordinator
  files : String → Option (List Line)
  clock : Int

/-- What a step meets outside: the time, the end of a safety check, of a receipt sink and of a handler, and
how the ledger's file is accessed. -/
structure Outcome where
  time : Int
  safety : Except Error (Bool × String)
  sink : Except Error Unit
  access : Access
  output : Except Error (Dict Key Value)

/-- What may happen between the steps of calls: an executor is registered, or a ledger object is made anew
from its file. -/
inductive Surroundings where
  | register (registry : Nat) (spec : ExecutorSpec)
  | reload (ledger : Nat) (access : Access)

def serve (builtins : Builtins) (outcome : Outcome) :
    (request : Request) → World → Except Error request.Answer × World
  | .contains (.ledger object) token_id, world =>
    let ledger := world.ledgers object
    let (answer, ledger) := ledger.contains outcome.access (world.files ledger.path) token_id
    (answer, { world with ledgers := Function.update world.ledgers object ledger })
  | .contains (.plain_set object) token_id, world => (.ok (token_id ∈ world.plain_sets object), world)
  | .time, world => (.ok outcome.time, { world with clock := outcome.time })
  | .get registry name, world => ((world.registries registry).get builtins name, world)
  | .safety_check .., world => (outcome.safety, world)
  | .receipt_sink _, world => (outcome.sink, world)
  | .consume (.ledger object) token_id, world =>
    let path := (world.ledgers object).path
    let (answer, ledger, file) := (world.ledgers object).consume outcome.access (world.files path) token_id
    (answer, { world with
      ledgers := Function.update world.ledgers object ledger
      files := Function.update world.files path file })
  | .consume (.plain_set object) token_id, world =>
    if token_id ∈ world.plain_sets object then (.ok false, world)
    else
      (.ok true, { world with
        plain_sets := Function.update world.plain_sets object (world.plain_sets object ++ [token_id]) })
  | .start_handler .., world => (.ok (), world)
  | .finish_handler .., world => (outcome.output, world)
  | .acquire coordinator owner_id resources, world =>
    let (decision, after) := (world.coordinators coordinator).acquire owner_id resources
    (.ok decision, { world with coordinators := Function.update world.coordinators coordinator after })
  | .release coordinator owner_id, world =>
    let (decision, after) := (world.coordinators coordinator).release owner_id
    (.ok decision, { world with coordinators := Function.update world.coordinators coordinator after })

def react (builtins : Builtins) : Surroundings → World → World
  | .register registry spec, world =>
    match (world.registries registry).register builtins spec with
    | .error _ => world
    | .ok after => { world with registries := Function.update world.registries registry after }
  | .reload object access, world =>
    let ledger := world.ledgers object
    { world with
      ledgers := Function.update world.ledgers object (ledger.reload access (world.files ledger.path)) }

def semantics (builtins : Builtins) : Semantics Error Requests World Outcome Surroundings where
  serve := serve builtins
  react := react builtins

/-- A call of either executor. -/
inductive Call where
  | authorized (execution : Execution)
  | coordinated (execution : CoordinatedExecution)

def Call.execution : Call → Execution
  | .authorized execution => execution
  | .coordinated execution => execution.toExecution

def Call.thread (builtins : Builtins) : Call → Thread Error Requests ExecutionResult
  | .authorized execution => execution.execute_authorized builtins
  | .coordinated execution => execution.execute_coordinated builtins

/-- Calls that are about to be made in a world, any number of them. -/
def start (builtins : Builtins) (calls : Nat → Call) (world : World) :
    System Error Requests ExecutionResult World where
  state := world
  threads index := (calls index).thread builtins
  trace := []

end velvet.coordinated_executor
