import VelvetRuntime.Execution.Protocols

open python python.str velvet.court_token velvet.execution_contract velvet.resource_coordinator
open velvet.token_replay_ledger velvet.approved_executor

namespace velvet.coordinated_executor

open Thread System

/-- How far a call has come with its token. -/
inductive Consumption where
  | unused
  | consumed
  | started
  deriving DecidableEq

section

variable [StrLower] (builtins : Builtins)

/-- A call consumes only its own token, and starts a handler only after its own consumption said yes, and
only once. -/
def consumption (execution : Execution) : Protocol Error Requests Consumption where
  allowed stage
    | .consume used token_id =>
      stage = .unused ∧ used = execution.used_token_ids ∧ token_id = execution.token.token_id
    | .start_handler _ token _ => stage = .consumed ∧ token = execution.token
    | _ => True
  answered _ _ _ := True
  next stage
    | .consume _ _, .ok true => .consumed
    | .start_handler _ _ _, _ => .started
    | _, _ => stage

/-- Whether a served request is the start of a handler for a token. -/
def invokes (token_id : String) (served : Served Error Requests) : Bool :=
  match served.request with
  | .start_handler _ token _ => token.token_id = token_id
  | _ => false

/-- How many handlers have been started for a token. -/
def invocations (token_id : String) (trace : List (Served Error Requests)) : Nat :=
  trace.countP (invokes token_id)

theorem follows_verified {execution : Execution} {P : Type} {protocol : Protocol Error Requests P} {stage : P}
    {returns : Bool → P → Prop} {raises : Error → P → Prop} (htime : Quiet protocol stage .time)
    (hreturns : ∀ valid, returns valid stage) (hraises : ∀ error, raises error stage) :
    (execution.verified builtins).Follows protocol returns raises stage := by
  have hconclude : ∀ current, (conclude (I := Requests)
      (verify_token builtins.sign execution.token execution.signing_key current)).Follows protocol returns raises
      stage := by
    intro current
    rw [follows_conclude]
    split
    · exact hreturns _
    · exact hraises _
  unfold Execution.verified
  cases execution.now with
  | some now => exact hconclude now
  | none =>
    rw [follows_bind]
    exact follows_perform_quiet htime hconclude hraises

theorem follows_execute_authorized (execution named : Execution) (htoken : named.token = execution.token)
    (hused : named.used_token_ids = execution.used_token_ids) :
    (named.execute_authorized builtins).Follows (consumption execution) (fun _ _ => True) (fun _ _ => True)
      .unused := by
  have hreceipts : ∀ stage receipt, receipt.of_execution = true →
      Quiet (consumption execution) stage (.receipt_sink receipt) := by
    intro stage receipt _
    exact ⟨trivial, fun _ => rfl⟩
  unfold Execution.execute_authorized
  rw [follows_bind]
  refine follows_perform_quiet ⟨trivial, fun _ => rfl⟩ ?_ (fun _ => trivial)
  intro used
  split
  · exact follows_deny (hreceipts _) (fun _ => trivial) (fun _ => trivial)
  · rw [follows_bind]
    refine follows_verified builtins ⟨trivial, fun _ => rfl⟩ ?_ (fun _ => trivial)
    intro valid
    split
    · exact follows_deny (hreceipts _) (fun _ => trivial) (fun _ => trivial)
    · rw [follows_bind, follows_attempt]
      refine follows_perform_quiet ⟨trivial, fun _ => rfl⟩ ?_ ?_
      · intro spec
        dsimp only
        split
        · exact follows_deny (hreceipts _) (fun _ => trivial) (fun _ => trivial)
        · refine Execution.follows_begin_execution ⟨trivial, fun _ => rfl⟩ hreceipts ⟨rfl, hused, ?_⟩
            (fun _ _ => ⟨fun _ => trivial, fun _ => trivial⟩) ?_ (fun _ => trivial) (fun _ => trivial)
          · rw [htoken]
          · exact Execution.follows_invoke ⟨rfl, htoken⟩ (fun _ => rfl) ⟨trivial, fun _ => rfl⟩ (hreceipts _)
              (fun _ => trivial) (fun _ => trivial)
      · intro error
        dsimp only
        split
        · exact follows_deny (hreceipts _) (fun _ => trivial) (fun _ => trivial)
        · trivial

theorem follows_execute_coordinated (execution : CoordinatedExecution) :
    (execution.execute_coordinated builtins).Follows (consumption execution.toExecution) (fun _ _ => True)
      (fun _ _ => True) .unused := by
  have hreceipts : ∀ stage receipt, Quiet (consumption execution.toExecution) stage (.receipt_sink receipt) := by
    intro stage receipt
    exact ⟨trivial, fun _ => rfl⟩
  have hauthorized := follows_execute_authorized builtins execution.toExecution execution.named rfl rfl
  unfold CoordinatedExecution.execute_coordinated
  rw [follows_bind]
  -- Nothing in the preflight moves the call on.
  have hpreflight : (execution.preflight builtins).Follows (consumption execution.toExecution)
      (fun _ stage => stage = .unused) (fun _ _ => True) .unused := by
    unfold CoordinatedExecution.preflight
    rw [follows_bind]
    refine follows_perform_quiet ⟨trivial, fun _ => rfl⟩ ?_ (fun _ => trivial)
    intro used
    split
    · rfl
    · rw [follows_bind]
      refine follows_verified builtins ⟨trivial, fun _ => rfl⟩ ?_ (fun _ => trivial)
      intro valid
      split
      · rfl
      · rw [follows_bind, follows_attempt]
        refine follows_perform_quiet ⟨trivial, fun _ => rfl⟩ (fun _ => rfl) ?_
        intro error
        dsimp only
        split
        · rfl
        · trivial
  refine hpreflight.mono ?_ (fun _ _ _ => trivial)
  rintro refusal stage rfl
  split
  · exact hauthorized
  · rw [follows_bind]
    refine follows_perform_quiet ⟨trivial, fun _ => rfl⟩ ?_ (fun _ => trivial)
    intro spec
    split
    · exact hauthorized
    · unfold CoordinatedExecution.execute_exclusive
      dsimp only
      rw [follows_bind]
      refine follows_perform_quiet ⟨trivial, fun _ => rfl⟩ ?_ (fun _ => trivial)
      intro acquisition
      split
      · rw [follows_bind]
        exact follows_persist (hreceipts _ _) (fun _ => trivial) (fun _ => trivial)
      · rw [follows_bind]
        refine follows_persist (hreceipts _ _) ?_ (fun _ => trivial)
        intro acquired
        split
        · rw [follows_bind]
          exact follows_perform_quiet ⟨trivial, fun _ => rfl⟩ (fun _ => trivial) (fun _ => trivial)
        · unfold CoordinatedExecution.execute_leased
          rw [follows_bind, follows_attempt]
          have hends : ∀ (result : Except Error ExecutionResult) (stage : Consumption),
              (do
                let release ← perform (I := Requests) (.release execution.resource_coordinator execution.owner_id)
                let persisted ← persist (execution.resource_receipt
                  (if release.granted then .RESOURCE_RELEASED else .RESOURCE_RELEASE_FAILED)
                  spec.contract.exclusive_resources release (resource_errors release))
                conclude (result.map (CoordinatedExecution.after_release release persisted))).Follows
                (consumption execution.toExecution) (fun _ _ => True) (fun _ _ => True) stage := by
            intro result stage
            rw [follows_bind]
            refine follows_perform_quiet ⟨trivial, fun _ => rfl⟩ ?_ (fun _ => trivial)
            intro release
            rw [follows_bind]
            refine follows_persist (hreceipts _ _) ?_ (fun _ => trivial)
            intro persisted
            rw [follows_conclude]
            split <;> trivial
          exact hauthorized.mono (fun _ _ _ => hends _ _) (fun _ _ _ => hends _ _)

/-- Every call follows the protocol of its own token. -/
theorem tracks_start (calls : Nat → Call) (world : World) :
    Tracks (fun index => consumption (calls index).execution) (start builtins calls world)
      (fun _ => Consumption.unused) := by
  intro index
  change ((calls index).thread builtins).Follows (consumption (calls index).execution) _ _ _
  cases calls index with
  | authorized execution => exact follows_execute_authorized builtins execution execution rfl rfl
  | coordinated execution => exact follows_execute_coordinated builtins execution

variable {builtins} {calls : Nat → Call} {path : String} {initial : List Line}

/-- The consumed tokens have records that were appended to the file, no token is consumed by two calls, and
the handlers that were started are those of calls that went on from their consumption. -/
structure OnceOnly (calls : Nat → Call) (path : String) (initial : List Line)
    (system : System Error Requests ExecutionResult World) (stages : Nat → Consumption) : Prop where
  paths : ∀ object, (system.state.ledgers object).path = path
  recorded : ∃ appended, (system.state.files path).getD [] = initial ++ appended ∧
    ∀ index, stages index ≠ .unused → consumed_line (calls index).execution.token.token_id ∈ appended
  distinct : ∀ left right, stages left ≠ .unused → stages right ≠ .unused →
    (calls left).execution.token.token_id = (calls right).execution.token.token_id → left = right
  invoked : ∀ token_id, invocations token_id system.trace ≤ 1
  starter : ∀ token_id, 0 < invocations token_id system.trace →
    ∃ index, stages index = .started ∧ (calls index).execution.token.token_id = token_id

/-- Serving anything but a consumption leaves the files as they are, and no request moves a ledger object
to another file. -/
theorem serve_files (builtins : Builtins) (outcome : Outcome) (request : Request) (world : World) :
    ((∀ used token_id, request ≠ .consume used token_id) → (serve builtins outcome request world).2.files =
      world.files) ∧
    ∀ object, ((serve builtins outcome request world).2.ledgers object).path = (world.ledgers object).path := by
  have hupdate : ∀ (target object : Nat) (ledger : TokenReplayLedger), ledger.path = (world.ledgers target).path →
      (Function.update world.ledgers target ledger object).path = (world.ledgers object).path := by
    intro target object ledger hsame
    by_cases hobject : object = target
    · rw [hobject, Function.update_self]
      exact hsame
    · rw [Function.update_of_ne hobject]
  cases request with
  | contains used token_id =>
    cases used with
    | ledger target => exact ⟨fun _ => rfl, fun object => hupdate target object _ (path_contains _ _ _ _)⟩
    | plain_set target => exact ⟨fun _ => rfl, fun _ => rfl⟩
  | consume used token_id =>
    refine ⟨fun hnot => absurd rfl (hnot used token_id), ?_⟩
    cases used with
    | ledger target => exact fun object => hupdate target object _ (path_consume _ _ _ _)
    | plain_set target =>
      intro object
      simp only [serve]
      split <;> rfl
  | time => exact ⟨fun _ => rfl, fun _ => rfl⟩
  | get registry name => exact ⟨fun _ => rfl, fun _ => rfl⟩
  | safety_check token parameters => exact ⟨fun _ => rfl, fun _ => rfl⟩
  | receipt_sink receipt => exact ⟨fun _ => rfl, fun _ => rfl⟩
  | start_handler spec token parameters => exact ⟨fun _ => rfl, fun _ => rfl⟩
  | finish_handler spec token => exact ⟨fun _ => rfl, fun _ => rfl⟩
  | acquire coordinator owner_id resources => exact ⟨fun _ => rfl, fun _ => rfl⟩
  | release coordinator owner_id => exact ⟨fun _ => rfl, fun _ => rfl⟩

variable {system : System Error Requests ExecutionResult World} {stages : Nat → Consumption} {index : Nat}
variable {next : System Error Requests ExecutionResult World}

/-- A step that at most adds lines to the file, and moves no call on. -/
theorem OnceOnly.extended (honce : OnceOnly calls path initial system stages) (lines : List Line)
    (hpaths : ∀ object, (next.state.ledgers object).path = (system.state.ledgers object).path)
    (hfile : (next.state.files path).getD [] = (system.state.files path).getD [] ++ lines)
    (htrace : ∀ token_id, invocations token_id next.trace = invocations token_id system.trace) :
    OnceOnly calls path initial next stages where
  paths object := (hpaths object).trans (honce.paths object)
  recorded := by
    obtain ⟨appended, hlines, hrecords⟩ := honce.recorded
    refine ⟨appended ++ lines, ?_, ?_⟩
    · rw [hfile, hlines, List.append_assoc]
    · intro other hother
      exact List.mem_append_left _ (hrecords other hother)
  distinct := honce.distinct
  invoked token_id := by
    rw [htrace]
    exact honce.invoked token_id
  starter token_id := by
    rw [htrace]
    exact honce.starter token_id

/-- A call consumes its token, of which the file has no record so far. -/
theorem OnceOnly.consume (honce : OnceOnly calls path initial system stages) (hunused : stages index = .unused)
    (hpaths : ∀ object, (next.state.ledgers object).path = (system.state.ledgers object).path)
    (hnew : consumed_line (calls index).execution.token.token_id ∉ (system.state.files path).getD [])
    (hfile : (next.state.files path).getD [] =
      (system.state.files path).getD [] ++ [consumed_line (calls index).execution.token.token_id])
    (htrace : ∀ token_id, invocations token_id next.trace = invocations token_id system.trace) :
    OnceOnly calls path initial next (Function.update stages index .consumed) := by
  obtain ⟨appended, hlines, hrecords⟩ := honce.recorded
  -- No call that has got further has the same token: its record would be in the file.
  have hother : ∀ other, other ≠ index → stages other ≠ .unused →
      (calls other).execution.token.token_id ≠ (calls index).execution.token.token_id := by
    intro other _ hstage hsame
    refine hnew ?_
    rw [hlines, ← hsame]
    exact List.mem_append_right _ (hrecords other hstage)
  refine ⟨fun object => (hpaths object).trans (honce.paths object), ?_, ?_, ?_, ?_⟩
  · refine ⟨appended ++ [consumed_line (calls index).execution.token.token_id], ?_, ?_⟩
    · rw [hfile, hlines, List.append_assoc]
    · intro other hstage
      by_cases hsame : other = index
      · rw [hsame]
        exact List.mem_append_right _ (List.mem_singleton_self _)
      · rw [Function.update_of_ne hsame] at hstage
        exact List.mem_append_left _ (hrecords other hstage)
  · intro left right hleft hright hsame
    by_cases hl : left = index
    · by_cases hr : right = index
      · rw [hl, hr]
      · rw [Function.update_of_ne hr] at hright
        rw [hl] at hsame
        exact absurd hsame.symm (hother right hr hright)
    · rw [Function.update_of_ne hl] at hleft
      by_cases hr : right = index
      · rw [hr] at hsame
        exact absurd hsame (hother left hl hleft)
      · rw [Function.update_of_ne hr] at hright
        exact honce.distinct left right hleft hright hsame
  · intro token_id
    rw [htrace]
    exact honce.invoked token_id
  · intro token_id hpositive
    rw [htrace] at hpositive
    obtain ⟨starter, hstarted, htoken⟩ := honce.starter token_id hpositive
    refine ⟨starter, ?_, htoken⟩
    have hne : starter ≠ index := by
      rintro rfl
      rw [hunused] at hstarted
      cases hstarted
    rw [Function.update_of_ne hne]
    exact hstarted

/-- A call that has consumed its token starts its handler. -/
theorem OnceOnly.start (honce : OnceOnly calls path initial system stages) (hconsumed : stages index = .consumed)
    (hstate : next.state = system.state)
    (htrace : ∀ token_id, invocations token_id next.trace = invocations token_id system.trace +
      if (calls index).execution.token.token_id = token_id then 1 else 0) :
    OnceOnly calls path initial next (Function.update stages index .started) := by
  have hstages : ∀ other, Function.update stages index Consumption.started other ≠ .unused →
      stages other ≠ .unused := by
    intro other hother
    by_cases hsame : other = index
    · rw [hsame, hconsumed]
      simp
    · rwa [Function.update_of_ne hsame] at hother
  -- A handler that was started before belongs to another call.
  have hnone : ∀ token_id, (calls index).execution.token.token_id = token_id →
      invocations token_id system.trace = 0 := by
    intro token_id htoken
    by_contra hnot
    obtain ⟨starter, hstarted, hsame⟩ := honce.starter token_id (by omega)
    have heq := honce.distinct starter index (by simp [hstarted]) (by simp [hconsumed]) (hsame.trans htoken.symm)
    rw [heq, hconsumed] at hstarted
    cases hstarted
  refine ⟨?_, ?_, ?_, ?_, ?_⟩
  · rw [hstate]
    exact honce.paths
  · obtain ⟨appended, hlines, hrecords⟩ := honce.recorded
    rw [hstate]
    exact ⟨appended, hlines, fun other hother => hrecords other (hstages other hother)⟩
  · intro left right hleft hright hsame
    exact honce.distinct left right (hstages left hleft) (hstages right hright) hsame
  · intro token_id
    rw [htrace]
    split
    · rename_i htoken
      rw [hnone token_id htoken]
    · exact honce.invoked token_id
  · intro token_id hpositive
    rw [htrace] at hpositive
    by_cases htoken : (calls index).execution.token.token_id = token_id
    · exact ⟨index, Function.update_self _ _ _, htoken⟩
    · rw [if_neg htoken, Nat.add_zero] at hpositive
      obtain ⟨starter, hstarted, hsame⟩ := honce.starter token_id hpositive
      refine ⟨starter, ?_, hsame⟩
      have hne : starter ≠ index := by
        rintro rfl
        exact htoken hsame
      rw [Function.update_of_ne hne]
      exact hstarted

theorem invocations_append (token_id : String) (trace : List (Served Error Requests))
    (served : Served Error Requests) : invocations token_id (trace ++ [served]) =
      invocations token_id trace + if invokes token_id served = true then 1 else 0 := by
  unfold invocations
  rw [List.countP_append, List.countP_singleton]

/-- One step of a call that is allowed by its protocol. -/
theorem OnceOnly.step (hledger : ∀ index, ∃ object, (calls index).execution.used_token_ids = .ledger object)
    (honce : OnceOnly calls path initial system stages) (outcome : Outcome) {request : Request}
    {rest : Except Error request.Answer → Thread Error Requests ExecutionResult}
    (hthread : system.threads index = .asks request rest)
    (hallowed : (consumption (calls index).execution).allowed (stages index) request) :
    OnceOnly calls path initial (system.step (semantics builtins) (.thread index outcome))
      (Function.update stages index ((consumption (calls index).execution).next (stages index) request
        (serve builtins outcome request system.state).1)) := by
  rw [step_of_request outcome hthread]
  obtain ⟨hfiles, hpaths⟩ := serve_files builtins outcome request system.state
  -- All but two kinds of request leave the files and the stage of the call as they are.
  have hother : (∀ used token_id, request ≠ .consume used token_id) →
      (∀ spec token parameters, request ≠ .start_handler spec token parameters) →
      OnceOnly calls path initial
        { state := (serve builtins outcome request system.state).2
          threads := Function.update system.threads index (rest (serve builtins outcome request system.state).1)
          trace := system.trace ++ [⟨index, request, (serve builtins outcome request system.state).1⟩] }
        (Function.update stages index ((consumption (calls index).execution).next (stages index) request
          (serve builtins outcome request system.state).1)) := by
    intro hconsume hstart
    have hstage : (consumption (calls index).execution).next (stages index) request
        (serve builtins outcome request system.state).1 = stages index := by
      cases request with
      | consume used token_id => exact absurd rfl (hconsume used token_id)
      | start_handler spec token parameters => exact absurd rfl (hstart spec token parameters)
      | _ => rfl
    rw [hstage, Function.update_eq_self]
    refine honce.extended [] hpaths ?_ ?_
    · rw [List.append_nil]
      exact congrArg (fun files => (files path).getD []) (hfiles hconsume)
    · intro token_id
      rw [invocations_append]
      cases request with
      | start_handler spec token parameters => exact absurd rfl (hstart spec token parameters)
      | _ => rfl
  cases request with
  | consume used token_id =>
    obtain ⟨hunused, rfl, rfl⟩ := hallowed
    obtain ⟨object, hobject⟩ := hledger index
    have htrace : ∀ token_id answer, invocations token_id (system.trace ++
        [⟨index, Request.consume (calls index).execution.used_token_ids (calls index).execution.token.token_id,
          answer⟩]) = invocations token_id system.trace := by
      intro token_id answer
      rw [invocations_append]
      rfl
    rw [hobject] at hpaths htrace ⊢
    have hsame := honce.paths object
    have hcases := consume_cases (system.state.ledgers object) outcome.access (system.state.files path)
      (calls index).execution.token.token_id
    have hfile : (serve builtins outcome (.consume (.ledger object) (calls index).execution.token.token_id)
        system.state).2.files path = ((system.state.ledgers object).consume outcome.access
          (system.state.files path) (calls index).execution.token.token_id).2.2 := by
      simp only [serve, hsame, Function.update_self]
    have hanswer : (serve builtins outcome (.consume (.ledger object) (calls index).execution.token.token_id)
        system.state).1 = ((system.state.ledgers object).consume outcome.access
          (system.state.files path) (calls index).execution.token.token_id).1 := by
      simp only [serve, hsame]
    rcases hcases with ⟨hyes, _, hnew, hafter⟩ | ⟨hno, hafter⟩
    · rw [hanswer, hyes]
      refine honce.consume hunused hpaths hnew ?_ (fun _ => htrace _ _)
      exact congrArg (fun file => file.getD []) (hfile.trans hafter)
    · have hstage : (consumption (calls index).execution).next (stages index)
          (.consume (.ledger object) (calls index).execution.token.token_id)
          (serve builtins outcome (.consume (.ledger object) (calls index).execution.token.token_id)
            system.state).1 = stages index := by
        rw [hanswer]
        cases hresult : ((system.state.ledgers object).consume outcome.access (system.state.files path)
          (calls index).execution.token.token_id).1 with
        | error error => rfl
        | ok answer =>
          cases answer with
          | false => rfl
          | true => exact absurd hresult hno
      rw [hstage, Function.update_eq_self]
      rcases hafter with hkept | hadded
      · refine honce.extended [] hpaths ?_ (fun _ => htrace _ _)
        rw [List.append_nil]
        exact (congrArg (fun file => file.getD []) hfile).trans hkept
      · refine honce.extended [consumed_line (calls index).execution.token.token_id] hpaths ?_ (fun _ => htrace _ _)
        exact (congrArg (fun file => file.getD []) hfile).trans hadded
  | start_handler spec token parameters =>
    obtain ⟨hconsumed, rfl⟩ := hallowed
    refine honce.start hconsumed rfl ?_
    intro token_id
    rw [invocations_append]
    simp [invokes]
  | _ => exact hother (by simp) (by simp)

/-- Nothing between the steps of calls changes a ledger's file or the file a ledger object reads. -/
theorem OnceOnly.react (honce : OnceOnly calls path initial system stages) (input : Surroundings) :
    OnceOnly calls path initial (system.step (semantics builtins) (.surroundings input)) stages := by
  have hkept : (coordinated_executor.react builtins input system.state).files = system.state.files ∧
      ∀ object, ((coordinated_executor.react builtins input system.state).ledgers object).path =
        (system.state.ledgers object).path := by
    cases input with
    | register registry spec =>
      simp only [coordinated_executor.react]
      split <;> exact ⟨rfl, fun _ => rfl⟩
    | reload target access =>
      refine ⟨rfl, ?_⟩
      intro object
      simp only [coordinated_executor.react]
      by_cases hobject : object = target
      · rw [hobject, Function.update_self, path_reload]
      · rw [Function.update_of_ne hobject]
  refine honce.extended [] hkept.2 ?_ (fun _ => rfl)
  rw [List.append_nil]
  exact congrArg (fun files => (files path).getD []) hkept.1

/-- The calls share one ledger file. Over every interleaving of their steps, with executors registered and
ledger objects made anew in between, at most one handler is started for a token id, and when it is started
a consumption record of the id has been appended to the file. -/
theorem handler_started_at_most_once (builtins : Builtins) (calls : Nat → Call) (world : World) (path : String)
    (hledger : ∀ index, ∃ object, (calls index).execution.used_token_ids = .ledger object)
    (hpath : ∀ object, (world.ledgers object).path = path) (moves : List (Move Outcome Surroundings)) :
    (∀ token_id, invocations token_id ((start builtins calls world).run (semantics builtins) moves).trace ≤ 1) ∧
    ∀ earlier later index outcome spec token parameters, moves = earlier ++ .thread index outcome :: later →
      (((start builtins calls world).run (semantics builtins) earlier).threads index).pending =
        some (.start_handler spec token parameters) →
      ∃ appended, (((start builtins calls world).run (semantics builtins) earlier).state.files path).getD [] =
          (world.files path).getD [] ++ appended ∧ consumed_line token.token_id ∈ appended := by
  have hinitial : OnceOnly calls path ((world.files path).getD []) (start builtins calls world)
      (fun _ => .unused) := by
    refine ⟨hpath, ⟨[], by simp [start], by simp⟩, by simp, ?_, ?_⟩
    · intro token_id
      exact Nat.zero_le 1
    · intro token_id hpositive
      exact absurd hpositive (lt_irrefl 0)
  have hrun : ∀ moves, ∃ stages,
      OnceOnly calls path ((world.files path).getD []) ((start builtins calls world).run (semantics builtins) moves)
        stages ∧
      Tracks (fun index => consumption (calls index).execution)
        ((start builtins calls world).run (semantics builtins) moves) stages := by
    intro moves
    have halways : Always (semantics builtins) (fun _ _ => True) (start builtins calls world) moves :=
      always_of_forall (fun _ _ => trivial)
    refine invariant_of_steps ?_ ?_ hinitial (tracks_start builtins calls world) halways
    · intro system stages index outcome request rest honce hthread hallowed _
      exact ⟨trivial, honce.step hledger outcome hthread hallowed⟩
    · intro system stages input honce _
      exact honce.react input
  constructor
  · obtain ⟨stages, honce, _⟩ := hrun moves
    exact honce.invoked
  · intro earlier later index outcome spec token parameters _ hpending
    obtain ⟨stages, honce, htracks⟩ := hrun earlier
    obtain ⟨hconsumed, rfl⟩ := htracks.allowed hpending
    obtain ⟨appended, hlines, hrecords⟩ := honce.recorded
    exact ⟨appended, hlines, hrecords index (by rw [hconsumed]; simp)⟩

/-- The cabin's comfort executor, which needs the air conditioning for itself. -/
def comfort_contract (hid : normalized "cabin-comfort.v1" = "cabin-comfort.v1")
    (hresources : resources_of ["hvac"] = ["hvac"]) : ExecutionContract where
  contract_id := "cabin-comfort.v1"
  parameters := []
  allow_extra_parameters := true
  exclusive_resources := ["hvac"]
  expected_completion_state := .completed
  contract_id_valid := ⟨hid, by decide⟩
  parameters_valid := by simp
  parameters_distinct := List.nodup_nil
  resources_valid := hresources

def comfort_token (token_id : String) : CapabilityToken where
  token_id
  intent_id := "intent-1"
  capability := "comfort.request"
  target := "cabin"
  profile_id := "owner"
  session_id := "session-1"
  body_id := "body"
  surface := "drive"
  issued_at := 100
  expires_at := 130
  policy_id := "owner-default"
  signature := "signed"

def plain_builtins : Builtins where
  sign _ _ := "signed"
  repr text := text

/-- Everything goes well outside. -/
def plain_outcome : Outcome where
  time := 110
  safety := .ok (true, "")
  sink := .ok ()
  access := ⟨none, none⟩
  output := .ok .empty

/-- A call for a token, with a ledger object of its own on the common file. -/
def comfort_execution (token_id : String) (ledger : Nat) : CoordinatedExecution where
  token := comfort_token token_id
  executor_name := "cabin-comfort"
  parameters := some .empty
  registry := 0
  signing_key := []
  used_token_ids := .ledger ledger
  now := some 110
  resource_coordinator := 0

/-- One registered executor, and ledger objects on a file that is not there yet. -/
def comfort_world (contract : ExecutionContract) : World where
  registries _ := ⟨Dict.empty.set "cabin-comfort" ⟨"cabin-comfort", "comfort.request", ["cabin"], contract⟩⟩
  ledgers _ := ⟨"replay.jsonl", []⟩
  plain_sets _ := []
  coordinators _ := .new
  files _ := none
  clock := 0

def steps (index count : Nat) : List (Move Outcome Surroundings) :=
  List.replicate count (.thread index plain_outcome)

end

/-- Two calls for one token: the first one's handler has started when the second one makes its steps. -/
theorem second_call_not_started :
    letI := StrLower.ascii
    let world := comfort_world (comfort_contract (by decide) (by decide))
    let system := (start plain_builtins (fun index => .coordinated (comfort_execution "t1" index)) world).run
      (semantics plain_builtins) (steps 0 11 ++ .surroundings (.reload 1 ⟨none, none⟩) :: steps 1 20)
    invocations "t1" system.trace = 1 ∧ ∀ token_id, invocations token_id system.trace ≤ 1 := by
  let := StrLower.ascii
  refine ⟨by decide, ?_⟩
  exact (handler_started_at_most_once plain_builtins (fun index => .coordinated (comfort_execution "t1" index))
    (comfort_world (comfort_contract (by decide) (by decide))) "replay.jsonl" (fun index => ⟨index, rfl⟩)
    (fun _ => rfl) (steps 0 11 ++ .surroundings (.reload 1 ⟨none, none⟩) :: steps 1 20)).1

end velvet.coordinated_executor
