import VelvetRuntime.DistributedWork.Recovery
import VelvetRuntime.DistributedWork.Service

open python python.str velvet.distributed_work_coordinator

namespace velvet.distributed_work_service

open Program

section

variable [StrLower]

/-- The service over the plain coordinator. -/
abbrev Runtime := World DistributedWorkCoordinator

def Runtime.lease_of (world : Runtime) (work : String) : Option WorkLease :=
  world.coordinator.leases.get? work

inductive Operation where
  | register_node (advertisement : NodeAdvertisement)
  | submit (proposal : WorkProposal) (now lease_seconds : ℚ)
  | accept (work_id node_id : String)
  | refuse (work_id node_id reason : String) (now lease_seconds : ℚ)
  | complete (result : WorkResult)
  | recover (now max_heartbeat_age lease_seconds : ℚ)

variable (sinks : Sinks)

/-- One call of the service, with the outcomes it returns. -/
def perform : Operation → Program Error Runtime (List DistributedWorkServiceOutcome)
  | .register_node advertisement => do
    let _ ← register_node sinks advertisement
    pure []
  | .submit proposal now lease_seconds => do
    let outcome ← submit sinks proposal now lease_seconds
    pure [outcome]
  | .accept work_id node_id => do
    let outcome ← accept sinks work_id node_id
    pure [outcome]
  | .refuse work_id node_id reason now lease_seconds => do
    let outcome ← refuse sinks work_id node_id reason now lease_seconds
    pure [outcome]
  | .complete work_result => do
    let outcome ← complete sinks work_result
    pure [outcome]
  | .recover now max_heartbeat_age lease_seconds => recover sinks now max_heartbeat_age lease_seconds

/-- One call in a run, with the state before and after it and how it ended. -/
structure Entry where
  before : Runtime
  operation : Operation
  result : Except Error (List DistributedWorkServiceOutcome)
  after : Runtime

def entry_of (world : Runtime) (operation : Operation) : Entry :=
  ⟨world, operation, (perform sinks operation).result world, (perform sinks operation).after world⟩

/-- The calls of a run in order. A call that raises leaves its changes and the run goes on. -/
def history : Runtime → List Operation → List Entry
  | _, [] => []
  | world, operation :: rest =>
    entry_of sinks world operation :: history (entry_of sinks world operation).after rest

/-- The state a run ends in. -/
def run (world : Runtime) (operations : List Operation) : Runtime :=
  operations.foldl (fun world operation => (perform sinks operation).after world) world

variable (world : Runtime) (first second : List Operation)

theorem history_append :
    history sinks world (first ++ second) =
      history sinks world first ++ history sinks (run sinks world first) second := by
  induction first generalizing world with
  | nil => rfl
  | cons operation rest ih =>
    rw [List.cons_append, history, history, List.cons_append, ih]
    rfl

theorem run_append :
    run sinks world (first ++ second) = run sinks (run sinks world first) second :=
  List.foldl_append

/-- The events receipted between two states include no completion. -/
def Quiet (before after : Runtime) : Prop :=
  ∃ events, after.journal = before.journal ++ events ∧
    ∀ evidence ∈ events, evidence.event_type ≠ .WORK_COMPLETED

theorem Quiet.refl : Quiet world world := ⟨[], by simp, by simp⟩

variable {before after : Runtime}

theorem Quiet.of_eq (hjournal : after.journal = before.journal) :
    Quiet before after := ⟨[], by simp [hjournal], by simp⟩

/-- An emission of anything but a completion is quiet. -/
theorem Quiet.of_emit {evidence : LifecycleEvidence}
    (hjournal : after.journal = before.journal ++ [evidence])
    (htype : evidence.event_type ≠ .WORK_COMPLETED) : Quiet before after :=
  ⟨[evidence], hjournal, by simpa using htype⟩

theorem Quiet.trans {first second third : Runtime} (hfirst : Quiet first second)
    (hsecond : Quiet second third) : Quiet first third := by
  obtain ⟨events, hevents, hquiet⟩ := hfirst
  obtain ⟨more, hmore, hquiet'⟩ := hsecond
  refine ⟨events ++ more, by rw [hmore, hevents, List.append_assoc], ?_⟩
  intro evidence hmem
  rcases List.mem_append.mp hmem with hmem | hmem
  · exact hquiet evidence hmem
  · exact hquiet' evidence hmem

/-- Whether the lifecycle sink answers a call with a receipt. -/
def Sinks.receipts (sinks : Sinks) (number : Nat) : Bool :=
  match sinks.lifecycle number with
  | .ok receipt_id => !decide (Blank receipt_id)
  | .error _ => false

section

variable {C : Type} [WorkCoordinator C] {sinks} {event_type : EventType} {subject_id : String} {payload : Payload}
  {world : World C} {returns : LifecycleEvidence → World C → Prop} {raises : Error → World C → Prop}

/-- An emission either appends its evidence to the journal or raises and leaves the tables alone;
which of the two is up to the sink. -/
theorem wp_emit
    (hreturns : sinks.receipts world.lifecycle_calls = true → ∀ evidence : LifecycleEvidence,
      evidence.event_type = event_type → evidence.subject_id = normalized subject_id →
      evidence.payload = payload →
      returns evidence { world with
        lifecycle_calls := world.lifecycle_calls + 1
        journal := world.journal ++ [evidence] })
    (hraises : sinks.receipts world.lifecycle_calls = false → ∀ error,
      raises error { world with lifecycle_calls := world.lifecycle_calls + 1 }) :
    wp (emit sinks event_type subject_id payload) returns raises world := by
  unfold emit
  unfold Sinks.receipts at hreturns hraises
  simp only [wp_bind, wp_get, wp_set]
  cases hreply : sinks.lifecycle world.lifecycle_calls with
  | error error =>
    rw [hreply] at hraises
    exact hraises rfl error
  | ok receipt_id =>
    rw [hreply] at hreturns hraises
    by_cases hblank : Blank receipt_id
    · simp only [hblank, if_true, wp_throw]
      exact hraises (by simp [hblank]) _
    · simp only [hblank, if_false, wp_bind, wp_modify, wp_pure]
      exact hreturns (by simp [hblank]) _ rfl rfl rfl

theorem wp_call {α : Type} {method : C → Except Error α × C} {returns : α → World C → Prop}
    (hreturns : ∀ value, (method world.coordinator).1 = .ok value →
      returns value { world with coordinator := (method world.coordinator).2 })
    (hraises : ∀ error, (method world.coordinator).1 = .error error →
      raises error { world with coordinator := (method world.coordinator).2 }) :
    wp (call method) returns raises world := by
  unfold call
  simp only [wp_bind, wp_get, wp_set]
  cases hmethod : (method world.coordinator).1 with
  | ok value => exact hreturns value hmethod
  | error error => exact hraises error hmethod

/-- A call of a coordinator method that is a program of its own. -/
theorem wp_call_program {α : Type} {program : Program Error C α} {returns : α → World C → Prop}
    (hprogram : wp program (fun value coordinator => returns value { world with coordinator })
      (fun error coordinator => raises error { world with coordinator }) world.coordinator) :
    wp (call (fun coordinator : C => (program.result coordinator, program.after coordinator))) returns raises world := by
  apply wp_call
  · exact fun value hvalue => wp_of_result_ok hprogram hvalue
  · exact fun error herror => wp_of_result_error hprogram herror

theorem wp_required_proposal {work_id : String} {returns : WorkProposal → World C → Prop}
    (hreturns : ∀ proposal, world.proposals.get? (normalized work_id) = some proposal → returns proposal world)
    (hraises : world.proposals.get? (normalized work_id) = none → ∀ error, raises error world) :
    wp (required_proposal work_id) returns raises world := by
  unfold required_proposal
  simp only [wp_bind, wp_get]
  cases hget : world.proposals.get? (normalized work_id) with
  | none => exact hraises hget _
  | some proposal => exact hreturns proposal hget

/-- The lease of a work that a node holds; anyone else is turned away. -/
theorem wp_owned_lease {work_id node_id : String} {returns : WorkLease → World C → Prop}
    (hreturns : ∀ lease, WorkCoordinator.lease_for world.coordinator (normalized work_id) = some lease →
      lease.node_id = normalized node_id → returns lease world)
    (hraises : (∀ lease, WorkCoordinator.lease_for world.coordinator (normalized work_id) = some lease →
      lease.node_id ≠ normalized node_id) → ∀ error, raises error world) :
    wp (required_owned_lease work_id node_id) returns raises world := by
  unfold required_owned_lease
  simp only [wp_bind, wp_get]
  cases hget : WorkCoordinator.lease_for world.coordinator (normalized work_id) with
  | none => exact hraises (by simp [hget]) _
  | some lease =>
    dsimp only
    by_cases hnode : lease.node_id = normalized node_id
    · rw [if_neg (not_not_intro hnode)]
      exact hreturns lease hget hnode
    · rw [if_pos hnode]
      exact hraises (by simpa [hget] using hnode) _

end

theorem wp_required_owned_lease {world : Runtime} {raises : Error → Runtime → Prop} {work_id node_id : String}
    {returns : WorkLease → Runtime → Prop}
    (hreturns : ∀ lease, world.coordinator.leases.get? (normalized (normalized work_id)) = some lease →
      lease.node_id = normalized node_id → returns lease world) (hraises : ∀ error, raises error world) :
    wp (required_owned_lease work_id node_id) returns raises world :=
  wp_owned_lease hreturns (fun _ => hraises)

end

end velvet.distributed_work_service
