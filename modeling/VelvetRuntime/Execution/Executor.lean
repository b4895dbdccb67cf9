import VelvetRuntime.Python.Thread
import VelvetRuntime.Execution.Contract
import VelvetRuntime.Execution.Ledger

open python python.str velvet.court_token velvet.execution_contract velvet.resource_coordinator
open velvet.token_replay_ledger

namespace velvet.approved_executor

/-- What the modules take from the standard library without looking into it: the HMAC of the canonical
JSON of a token's fields, and `repr` of a text. -/
structure Builtins where
  sign : List UInt8 → TokenFields → String
  repr : String → String

/-- The states of results and receipts. -/
inductive ExecutionState where
  | token_replay
  | invalid_token
  | executor_not_registered
  | executor_capability_mismatch
  | executor_target_mismatch
  | execution_contract_denied
  | safety_denied
  | started
  | start_receipt_unpersisted
  | replay_ledger_failed
  | failed
  | executor_failed
  | contract_completion_mismatch
  | completion (state : CompletionState)
  | completed_unreceipted
  | resource (state : ResourceState)
  | resource_receipt_unpersisted
  | resource_release_failed
  | resource_release_unreceipted
  deriving DecidableEq, Repr

structure ExecutionResult where
  executed : Bool
  state : ExecutionState
  executor_name : String
  token_id : String
  output : Option (Dict Key Value)
  start_receipt_persisted : Bool
  final_receipt_persisted : Bool
  errors : List String
  contract_id : Option String
  deriving DecidableEq

inductive EventType where
  | EXECUTION_STARTED
  | EXECUTION_COMPLETED
  | EXECUTION_FAILED
  | EXECUTION_DENIED
  | RESOURCE_DENIED
  | RESOURCE_ACQUIRED
  | RESOURCE_RELEASED
  | RESOURCE_RELEASE_FAILED
  deriving DecidableEq, Repr

/-- The `used_token_ids` of a call: one of the ledger objects, or one of the plain sets. -/
inductive UsedTokenIds where
  | ledger (object : Nat)
  | plain_set (object : Nat)
  deriving DecidableEq

section

variable [StrLower]

/-- A registered executor. Its handler is known by what it returns or raises. -/
structure ExecutorSpec where
  name : String
  capability : String
  targets : List String
  contract : ExecutionContract

structure ExecutorRegistry where
  executors : Dict String ExecutorSpec

def ExecutorRegistry.register (builtins : Builtins) (self : ExecutorRegistry) (spec : ExecutorSpec) :
    Except Error ExecutorRegistry :=
  let name := normalized spec.name
  let capability := normalized spec.capability
  let targets := sorted_texts spec.targets
  if name = "" ∨ capability = "" ∨ targets = [] then
    .error ⟨.ValueError, "executor name, capability, and targets are required"⟩
  else if (self.executors.get? name).isSome then
    .error ⟨.ValueError, "executor " ++ builtins.repr name ++ " is already registered"⟩
  else .ok ⟨self.executors.set name ⟨name, capability, targets, spec.contract⟩⟩

def ExecutorRegistry.get (builtins : Builtins) (self : ExecutorRegistry) (name : String) :
    Except Error ExecutorSpec :=
  match self.executors.get? (normalized name) with
  | some spec => .ok spec
  | none => .error ⟨.KeyError, "executor " ++ builtins.repr (normalized name) ++ " is not registered"⟩

/-- A receipt of the executor, and one of the coordinated executor. -/
inductive Receipt where
  | execution (event_type : EventType) (state : ExecutionState) (executor_name : String) (token : CapabilityToken)
    (contract : Option ExecutionContract) (output : Option (Dict Key Value)) (errors : List String)
    (actuation_performed : Option Bool)
  | resource (event_type : EventType) (state : ResourceState) (owner_id executor_name : String)
    (token : CapabilityToken) (resources : List String) (conflicts : List ResourceConflict) (errors : List String)

/-- What a call asks of the objects it shares with others, of the clock, of the safety check, of the
receipt sink and of the handler, whose start and end are two steps. -/
inductive Request where
  | contains (used_token_ids : UsedTokenIds) (token_id : String)
  | time
  | get (registry : Nat) (name : String)
  | safety_check (token : CapabilityToken) (parameters : Option (Dict Key Value))
  | receipt_sink (receipt : Receipt)
  | consume (used_token_ids : UsedTokenIds) (token_id : String)
  | start_handler (spec : ExecutorSpec) (token : CapabilityToken) (parameters : Option (Dict Key Value))
  | finish_handler (spec : ExecutorSpec) (token : CapabilityToken)
  | acquire (coordinator : Nat) (owner_id : String) (resources : List String)
  | release (coordinator : Nat) (owner_id : String)

/-- The answers; a safety check answers whether its first result is `True`, and the reason. -/
@[reducible] def Request.Answer : Request → Type
  | .contains .. => Bool
  | .time => Int
  | .get .. => ExecutorSpec
  | .safety_check .. => Bool × String
  | .receipt_sink _ => Unit
  | .consume .. => Bool
  | .start_handler .. => Unit
  | .finish_handler .. => Dict Key Value
  | .acquire .. => ResourceDecision
  | .release .. => ResourceDecision

@[reducible] def Requests : Interface where
  Request := Request
  Answer := Request.Answer

/-- The arguments of `execute_authorized`. -/
structure Execution where
  token : CapabilityToken
  executor_name : String
  parameters : Option (Dict Key Value)
  registry : Nat
  signing_key : List UInt8
  used_token_ids : UsedTokenIds
  now : Option Int

open Thread

/-- The end of the body of a `try` statement whose clause is `except Exception`: other exceptions pass. -/
def except_exception {α : Type} (body : Thread Error Requests α) : Thread Error Requests (Except Error α) := do
  match ← attempt body with
  | .ok value => pure (.ok value)
  | .error error => if error.is_exception then pure (.error error) else raises error

/-- `_persist`. -/
def persist (receipt : Receipt) : Thread Error Requests Bool := do
  match ← except_exception (perform (I := Requests) (.receipt_sink receipt)) with
  | .ok _ => pure true
  | .error _ => pure false

def deny (state : ExecutionState) (name : String) (token : CapabilityToken) (contract : Option ExecutionContract)
    (errors : List String) : Thread Error Requests ExecutionResult := do
  let persisted ← persist (.execution .EXECUTION_DENIED state name token contract none errors (some false))
  pure ⟨false, state, name, token.token_id, none, false, persisted, errors, contract.map (·.contract_id)⟩

/-- `_validate_completion`: what is wrong with the state that the output reports. -/
def validate_completion (contract : ExecutionContract) (output : Dict Key Value) : Option String :=
  match output.get? (.text "state") with
  | none => none
  | some .none => none
  | some reported =>
    let reported := match reported with
      | .text value => normalized value
      | _ => ""
    if reported = contract.expected_completion_state.text then none
    else some ("executor reported state '" ++ reported ++ "' but contract requires '" ++
      contract.expected_completion_state.text ++ "'")

/-- `bool(output.get("actuation_performed", False))`. -/
def actuation_performed (output : Dict Key Value) : Except Error Bool :=
  match output.get? (.text "actuation_performed") with
  | some value => value.truth
  | none => .ok false

namespace Execution

variable (self : Execution)

/-- The handler and what follows it. -/
def invoke (name : String) (spec : ExecutorSpec) : Thread Error Requests ExecutionResult := do
  let handled ← except_exception (do
    perform (I := Requests) (.start_handler spec self.token self.parameters)
    perform (I := Requests) (.finish_handler spec self.token))
  match handled with
  | .error error =>
    let persisted ← persist (.execution .EXECUTION_FAILED .failed spec.name self.token (some spec.contract) none
      [error.message] none)
    pure ⟨false, .executor_failed, name, self.token.token_id, none, true, persisted, [error.message],
      some spec.contract.contract_id⟩
  | .ok output =>
    match validate_completion spec.contract output with
    | some message =>
      let actuated ← conclude (actuation_performed output)
      let persisted ← persist (.execution .EXECUTION_FAILED .contract_completion_mismatch spec.name self.token
        (some spec.contract) (some output) [message] (some actuated))
      pure ⟨false, .contract_completion_mismatch, name, self.token.token_id, some output, true, persisted, [message],
        some spec.contract.contract_id⟩
    | none =>
      let state := .completion spec.contract.expected_completion_state
      let actuated ← conclude (actuation_performed output)
      let persisted ← persist (.execution .EXECUTION_COMPLETED state spec.name self.token (some spec.contract)
        (some output) [] (some actuated))
      pure ⟨true, if persisted then state else .completed_unreceipted, name, self.token.token_id, some output, true,
        persisted, if persisted then [] else ["final execution receipt could not be persisted"],
        some spec.contract.contract_id⟩

/-- The end of a call whose token was not consumed after the start receipt. -/
def deny_started (name : String) (spec : ExecutorSpec) (state : ExecutionState) (errors : List String) :
    Thread Error Requests ExecutionResult := do
  let persisted ← persist (.execution .EXECUTION_DENIED state spec.name self.token (some spec.contract) none errors
    (some false))
  pure ⟨false, state, name, self.token.token_id, none, true, persisted, errors, some spec.contract.contract_id⟩

/-- The safety check, the start receipt and the consumption of the token. -/
def begin_execution (name : String) (spec : ExecutorSpec) : Thread Error Requests ExecutionResult := do
  let (safe, reason) ← perform (I := Requests) (.safety_check self.token self.parameters)
  if !safe then
    deny .safety_denied name self.token (some spec.contract)
      [if reason = "" then "safety check denied execution" else reason]
  else
    let started ← persist (.execution .EXECUTION_STARTED .started spec.name self.token (some spec.contract) none []
      (some false))
    if !started then
      pure ⟨false, .start_receipt_unpersisted, name, self.token.token_id, none, false, false,
        ["execution-start receipt could not be persisted"], some spec.contract.contract_id⟩
    else
      match ← except_exception (perform (I := Requests) (.consume self.used_token_ids self.token.token_id)) with
      | .error error =>
        self.deny_started name spec .replay_ledger_failed ["token consumption could not be persisted: " ++ error.message]
      | .ok false =>
        self.deny_started name spec .token_replay ["capability token was consumed by another execution process"]
      | .ok true => self.invoke name spec

/-- How a registered executor refuses the token or the parameters. -/
def refusal_of_spec (spec : ExecutorSpec) : Option (ExecutionState × List String) :=
  if spec.capability ≠ self.token.capability then
    some (.executor_capability_mismatch, ["executor is not bound to token capability"])
  else if "*" ∉ spec.targets ∧ self.token.target ∉ spec.targets then
    some (.executor_target_mismatch, ["executor is not bound to token target"])
  else
    match validate_parameters spec.contract self.parameters with
    | [] => none
    | errors => some (.execution_contract_denied, errors)

variable (builtins : Builtins)

/-- `verify_token` at the given time, or at the time of the clock. -/
def verified : Thread Error Requests Bool := do
  let current ← match self.now with
    | some now => pure now
    | none => perform (I := Requests) .time
  conclude (verify_token builtins.sign self.token self.signing_key current)

def execute_authorized : Thread Error Requests ExecutionResult := do
  let name := normalized self.executor_name
  if ← perform (I := Requests) (.contains self.used_token_ids self.token.token_id) then
    deny .token_replay name self.token none ["capability token was already consumed"]
  else if !(← self.verified builtins) then
    deny .invalid_token name self.token none ["capability token failed signature or expiry verification"]
  else
    match ← attempt (perform (I := Requests) (.get self.registry name)) with
    | .error error =>
      if error.kind = .KeyError then
        deny .executor_not_registered name self.token none [builtins.repr error.message]
      else raises error
    | .ok spec =>
      match self.refusal_of_spec spec with
      | some (state, errors) => deny state name self.token (some spec.contract) errors
      | none => self.begin_execution name spec

end Execution

end

end velvet.approved_executor
