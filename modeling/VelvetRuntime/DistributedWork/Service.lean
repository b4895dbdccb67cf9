import VelvetRuntime.Python.Program
import VelvetRuntime.DistributedWork.Coordinator

open python python.str velvet.distributed_work_coordinator

namespace velvet.distributed_work_service

/-- The coordinator surface the service delegates to: the plain coordinator and its resource-aware
wrapper both present it. -/
class WorkCoordinator (C : Type) [StrLower] where
  registry : C → VerifiedNodeRegistry
  with_registry : C → VerifiedNodeRegistry → C
  place : C → WorkRequirement → ℚ → ℚ → Except Error WorkPlacementDecision × C
  refuse_and_reassign : C → String → String → String → ℚ → ℚ → Except Error WorkPlacementDecision × C
  complete : C → String → String → Bool × C
  recover_unavailable_nodes : C → ℚ → ℚ → ℚ → Except Error (List WorkPlacementDecision) × C
  lease_for : C → String → Option WorkLease
  snapshot : C → List WorkLease

instance [StrLower] : WorkCoordinator DistributedWorkCoordinator where
  registry := DistributedWorkCoordinator.registry
  with_registry := fun coordinator registry => { coordinator with registry }
  place := fun coordinator requirement now lease_seconds => coordinator.place requirement now lease_seconds []
  refuse_and_reassign := DistributedWorkCoordinator.refuse_and_reassign
  complete := DistributedWorkCoordinator.complete
  recover_unavailable_nodes := DistributedWorkCoordinator.recover_unavailable_nodes
  lease_for := DistributedWorkCoordinator.lease_for
  snapshot := DistributedWorkCoordinator.snapshot

inductive EventType where
  | NODE_ADVERTISEMENT_PUBLISHED
  | WORK_OFFERED
  | WORK_ACCEPTED
  | WORK_REFUSED
  | WORK_HANDOFF_REQUESTED
  | WORK_COMPLETED
  | WORK_DEGRADED
  | WORK_RECOVERY_REASSIGNED
  deriving DecidableEq, Repr

inductive ResultState where
  | COMPLETED
  | PARTIAL
  | FAILED
  | CANCELLED
  deriving DecidableEq, Repr

/-- The check of `_require_normalized`. -/
def IsNormalized [StrLower] (value : String) : Prop :=
  value ≠ "" ∧ normalized value = value

/-- The check of `_require_normalized_tuple`. -/
def IsNormalizedTuple [StrLower] (values : List String) : Prop :=
  (∀ value ∈ values, IsNormalized value) ∧ values.Nodup

variable {value : String}

theorem IsNormalized.not_blank [StrLower] (hnormal : IsNormalized value) :
    ¬ Blank value := by
  intro hblank
  apply hnormal.1
  rw [← hnormal.2]
  exact (normalized_eq_empty_iff value).mpr hblank

/-- ASCII text in lower case with single spaces is normalised, whatever `lower` does elsewhere. -/
theorem IsNormalized.of_ascii [StrLower] (hne : value ≠ "")
    (hascii : ∀ c ∈ value.toList, c.toNat < 128 ∧ c.toLower = c)
    (hjoined : join (split value.toList) = value.toList) : IsNormalized value :=
  ⟨hne, normalized_eq_self_of_ascii hascii hjoined⟩

theorem IsNormalizedTuple.singleton [StrLower] (hnormal : IsNormalized value) :
    IsNormalizedTuple [value] := by
  refine ⟨?_, List.nodup_singleton _⟩
  intro other hother
  rw [List.mem_singleton.mp hother]
  exact hnormal

theorem IsNormalizedTuple.nil [StrLower] : IsNormalizedTuple [] := ⟨by simp, List.nodup_nil⟩

/-- A proposal-only work description. The proofs are the checks of `__post_init__`. -/
structure WorkProposal [StrLower] where
  proposal_id : String
  work_class : String
  objective : String
  required_capabilities : List String
  preferred_capabilities : List String
  evidence_references : List String
  constraints : List String
  min_health : ℚ
  max_load : ℚ
  allow_overflow : Bool
  allow_temporary_absorption : Bool
  allow_partial : Bool
  partial_result_useful : Bool
  allow_queen_fallback : Bool
  observe_only_capability : Option String
  whole_system_coordination : Bool
  consequential : Bool
  proposal_id_normal : IsNormalized proposal_id
  work_class_normal : IsNormalized work_class
  objective_text : ¬ Blank objective
  required_normal : IsNormalizedTuple required_capabilities
  required_nonempty : required_capabilities ≠ []
  preferred_normal : IsNormalizedTuple preferred_capabilities
  evidence_references_text : ∀ value ∈ evidence_references, ¬ Blank value
  constraints_text : ∀ value ∈ constraints, ¬ Blank value
  min_health_bounds : 0 ≤ min_health ∧ min_health ≤ 1
  max_load_bounds : 0 ≤ max_load ∧ max_load ≤ 1
  observe_only_normal : ∀ value ∈ observe_only_capability, IsNormalized value
  partial_useful : allow_partial = true → partial_result_useful = true

def WorkProposal.to_requirement [StrLower] (self : WorkProposal) : WorkRequirement where
  work_id := self.proposal_id
  work_class := self.work_class
  required_capabilities := self.required_capabilities
  preferred_capabilities := self.preferred_capabilities
  min_health := self.min_health
  max_load := self.max_load
  allow_overflow := self.allow_overflow
  allow_temporary_absorption := self.allow_temporary_absorption
  allow_partial := self.allow_partial
  partial_result_useful := self.partial_result_useful
  allow_queen_fallback := self.allow_queen_fallback
  observe_only_capability := self.observe_only_capability
  whole_system_coordination := self.whole_system_coordination
  consequential := self.consequential
  work_id_text := self.proposal_id_normal.not_blank
  work_class_text := self.work_class_normal.not_blank
  required_nonempty := self.required_nonempty
  capabilities_text := by
    intro value hvalue
    rcases List.mem_append.mp hvalue with hrequired | hpreferred
    · exact (self.required_normal.1 value hrequired).not_blank
    · exact (self.preferred_normal.1 value hpreferred).not_blank
  observe_only_text := fun value hvalue => (self.observe_only_normal value hvalue).not_blank
  min_health_bounds := self.min_health_bounds
  max_load_bounds := self.max_load_bounds

/-- A specialist's result against an accepted lease. -/
@[ext] structure WorkResult [StrLower] where
  work_id : String
  node_id : String
  result_status : ResultState
  summary : String
  evidence_references : List String
  important : Bool
  work_id_normal : IsNormalized work_id
  node_id_normal : IsNormalized node_id
  summary_text : ¬ Blank summary
  evidence_references_text : ∀ value ∈ evidence_references, ¬ Blank value

instance [StrLower] : DecidableEq WorkResult := fun _ _ => decidable_of_iff _ WorkResult.ext_iff.symm

/-- The payload of a node event: the advertisement and the fallback options derived from it. -/
structure NodePayload where
  advertisement : NodeAdvertisement
  fallback_options : List String
  deriving DecidableEq

/-- The payload of a work event; keys that the caller leaves out are absent. -/
structure WorkPayload where
  work_id : String
  work_class : String
  required_capabilities : List String
  important_result : Bool
  court_authorization_required : Bool
  node_id : Option String
  organ : Option String
  placement_mode : Option PlacementMode
  lease_id : Option String
  lease_expires_at : Option ℚ
  degradation_mode : Option DegradationMode
  reason : Option String
  from_node_id : Option String
  to_node_id : Option String
  result_status : Option ResultState
  deriving DecidableEq

inductive Payload where
  | node (payload : NodePayload)
  | work (payload : WorkPayload)
  deriving DecidableEq

structure LifecycleEvidence where
  event_type : EventType
  subject_id : String
  receipt_id : String
  payload : Payload
  deriving DecidableEq

structure DistributedWorkServiceOutcome where
  state : String
  work_id : String
  node_id : Option String
  lease_id : Option String
  degradation : DegradationMode
  lifecycle : List LifecycleEvidence
  accepted : Bool
  completed : Bool
  escalated_to_queen : Bool
  deriving DecidableEq

def node_payload (advertisement : NodeAdvertisement) : Payload :=
  .node ⟨advertisement,
    sorted_set (advertisement.overflow_capabilities ++ advertisement.temporary_absorption_capabilities)⟩

def work_payload [StrLower] (proposal : WorkProposal) : WorkPayload where
  work_id := proposal.proposal_id
  work_class := proposal.work_class
  required_capabilities := proposal.required_capabilities
  important_result := false
  court_authorization_required := proposal.consequential
  node_id := none
  organ := none
  placement_mode := none
  lease_id := none
  lease_expires_at := none
  degradation_mode := none
  reason := none
  from_node_id := none
  to_node_id := none
  result_status := none

/-- The keys that describe a lease in an offer, an acceptance or a reassignment. -/
def WorkPayload.with_lease (payload : WorkPayload) (lease : WorkLease) : WorkPayload :=
  { payload with
    node_id := some lease.node_id
    organ := some lease.organ
    placement_mode := some lease.mode
    lease_id := some lease.lease_id
    lease_expires_at := some lease.expires_at }

/-- `values.discard(value)` on a set kept as a list. -/
def discard (values : List String) (value : String) : List String :=
  values.filter (· ≠ value)

@[simp] theorem mem_discard {values : List String} {value other : String} :
    other ∈ discard values value ↔ other ∈ values ∧ other ≠ value := by
  simp [discard]

/-- How the two injected ports answer their calls, numbered from zero over a whole run: with a
receipt, by returning, or by raising. -/
structure Sinks where
  lifecycle : Nat → Except Error String
  queen : Option (Nat → Except Error Unit)

/-- The tables of `DistributedWorkService`. -/
structure DistributedWorkService (C : Type) [StrLower] where
  coordinator : C
  proposals : Dict String WorkProposal
  accepted : List String
  pending_completion : Dict String (WorkResult × LifecycleEvidence)

/-- The service with what its ports have seen: the evidence receipted so far and the number of
calls made. -/
structure World (C : Type) [StrLower] extends DistributedWorkService C where
  journal : List LifecycleEvidence
  lifecycle_calls : Nat
  queen_calls : Nat

section

variable [StrLower] {C : Type} [WorkCoordinator C]

def World.new (coordinator : C) : World C where
  coordinator
  proposals := .empty
  accepted := []
  pending_completion := .empty
  journal := []
  lifecycle_calls := 0
  queen_calls := 0

/-- A call of a coordinator method. -/
def call {α : Type} (method : C → Except Error α × C) : Program Error (World C) α := do
  let world ← get
  set { world with coordinator := (method world.coordinator).2 }
  match (method world.coordinator).1 with
  | .ok value => pure value
  | .error error => throw error

def required_proposal (work_id : String) : Program Error (World C) WorkProposal := do
  let world ← get
  match world.proposals.get? (normalized work_id) with
  | some proposal => pure proposal
  | none => throw ⟨.ValueError, "unknown active distributed work"⟩

def required_owned_lease (work_id node_id : String) : Program Error (World C) WorkLease := do
  let world ← get
  match WorkCoordinator.lease_for world.coordinator (normalized work_id) with
  | none => throw ⟨.ValueError, "no active workload lease"⟩
  | some lease =>
    if lease.node_id ≠ normalized node_id then
      throw ⟨.ValueError, "node does not own the active workload lease"⟩
    else pure lease

def outcome_from_decision (decision : WorkPlacementDecision) (lease : WorkLease) (state : String)
    (lifecycle : List LifecycleEvidence) : DistributedWorkServiceOutcome where
  state
  work_id := lease.work_id
  node_id := some lease.node_id
  lease_id := some lease.lease_id
  degradation := decision.degradation
  lifecycle
  accepted := false
  completed := false
  escalated_to_queen := false

/-- The outcome of work that found no node. -/
def unplaced_outcome (decision : WorkPlacementDecision) (work : String)
    (lifecycle : List LifecycleEvidence) : DistributedWorkServiceOutcome where
  state := decision.state
  work_id := work
  node_id := none
  lease_id := none
  degradation := decision.degradation
  lifecycle
  accepted := false
  completed := false
  escalated_to_queen := false

variable (sinks : Sinks)

def emit (event_type : EventType) (subject_id : String) (payload : Payload) :
    Program Error (World C) LifecycleEvidence := do
  let world ← get
  set { world with lifecycle_calls := world.lifecycle_calls + 1 }
  match sinks.lifecycle world.lifecycle_calls with
  | .error error => throw error
  | .ok receipt_id =>
    if Blank receipt_id then
      throw ⟨.RuntimeError, "lifecycle sink must return a receipt identifier"⟩
    else do
      let evidence : LifecycleEvidence := ⟨event_type, normalized subject_id, stripped receipt_id, payload⟩
      modify (fun world => { world with journal := world.journal ++ [evidence] })
      pure evidence

/-- A call of the Queen result sink, when there is one. -/
def send_to_queen : Program Error (World C) Unit :=
  match sinks.queen with
  | none => throw ⟨.RuntimeError, "important result requires a Queen result sink"⟩
  | some queen => do
    let world ← get
    set { world with queen_calls := world.queen_calls + 1 }
    match queen world.queen_calls with
    | .ok _ => pure ()
    | .error error => throw error

def register_node (advertisement : NodeAdvertisement) :
    Program Error (World C) (NodeRegistrationDecision × List LifecycleEvidence) := do
  let world ← get
  let (decision, registry) := (WorkCoordinator.registry world.coordinator).register advertisement
  set { world with coordinator := WorkCoordinator.with_registry world.coordinator registry }
  if !decision.accepted then pure (decision, [])
  else do
    let evidence ← tryCatch
      (emit sinks .NODE_ADVERTISEMENT_PUBLISHED advertisement.node_id (node_payload advertisement))
      (fun error => do
        modify (fun world => { world with
          coordinator := WorkCoordinator.with_registry world.coordinator
            ((WorkCoordinator.registry world.coordinator).remove advertisement.node_id) })
        throw error)
    pure (decision, [evidence])

/-- The events of a placed submission: the offer, and its degradation if there is one. -/
def emit_offer (proposal : WorkProposal) (decision : WorkPlacementDecision) (lease : WorkLease) :
    Program Error (World C) (List LifecycleEvidence) := do
  let offered ← emit sinks .WORK_OFFERED proposal.proposal_id (.work ((work_payload proposal).with_lease lease))
  if decision.degradation ≠ .NONE then do
    let degraded ← emit sinks .WORK_DEGRADED proposal.proposal_id (.work { work_payload proposal with
      node_id := some lease.node_id
      organ := some lease.organ
      degradation_mode := some decision.degradation
      reason := some "Runtime placed work through a declared fallback mode" })
    pure [offered, degraded]
  else pure [offered]

def submit (proposal : WorkProposal) (now lease_seconds : ℚ) :
    Program Error (World C) DistributedWorkServiceOutcome := do
  if now < 0 then throw ⟨.ValueError, "now cannot be negative"⟩
  else do
    let world ← get
    if (world.proposals.get? proposal.proposal_id).isSome then
      throw ⟨.ValueError, "proposal_id is already active"⟩
    else do
      let decision ← call (fun coordinator : C =>
        WorkCoordinator.place coordinator proposal.to_requirement now lease_seconds)
      match decision.lease with
      | none => do
        let degraded ← emit sinks .WORK_DEGRADED proposal.proposal_id (.work { work_payload proposal with
          degradation_mode := some decision.degradation
          reason := some ("; ".intercalate decision.reasons) })
        pure (unplaced_outcome decision proposal.proposal_id [degraded])
      | some lease => do
        modify (fun world => { world with proposals := world.proposals.set proposal.proposal_id proposal })
        let lifecycle ← tryCatch (emit_offer sinks proposal decision lease) (fun error => do
          modify (fun world => { world with
            coordinator := (WorkCoordinator.complete world.coordinator proposal.proposal_id lease.node_id).2
            proposals := world.proposals.pop proposal.proposal_id })
          throw error)
        pure (outcome_from_decision decision lease "offered" lifecycle)

def accept (work_id node_id : String) : Program Error (World C) DistributedWorkServiceOutcome := do
  let work := normalized work_id
  let node := normalized node_id
  let proposal ← required_proposal work
  let lease ← required_owned_lease work node
  let evidence ← emit sinks .WORK_ACCEPTED work (.work ((work_payload proposal).with_lease lease))
  modify (fun world => { world with accepted := world.accepted.insert work })
  pure {
    state := "accepted"
    work_id := work
    node_id := some lease.node_id
    lease_id := some lease.lease_id
    degradation := lease.degradation
    lifecycle := [evidence]
    accepted := true
    completed := false
    escalated_to_queen := false }

def refuse (work_id node_id reason : String) (now lease_seconds : ℚ) :
    Program Error (World C) DistributedWorkServiceOutcome := do
  let work := normalized work_id
  let node := normalized node_id
  if Blank reason then throw ⟨.ValueError, "reason must be a non-empty string"⟩
  else do
    let refusal_reason := stripped reason
    let proposal ← required_proposal work
    let old_lease ← required_owned_lease work node
    let refused ← emit sinks .WORK_REFUSED work (.work { work_payload proposal with
      node_id := some old_lease.node_id
      organ := some old_lease.organ
      reason := some refusal_reason })
    let requested ← emit sinks .WORK_HANDOFF_REQUESTED work (.work { work_payload proposal with
      node_id := some old_lease.node_id
      organ := some old_lease.organ
      from_node_id := some old_lease.node_id
      reason := some refusal_reason })
    let decision ← call (fun coordinator : C =>
      WorkCoordinator.refuse_and_reassign coordinator work node refusal_reason now lease_seconds)
    modify (fun world => { world with accepted := discard world.accepted work })
    match decision.lease with
    | none => do
      let degraded ← emit sinks .WORK_DEGRADED work (.work { work_payload proposal with
        degradation_mode := some decision.degradation
        reason := some ("; ".intercalate decision.reasons)
        from_node_id := some old_lease.node_id })
      pure (unplaced_outcome decision work [refused, requested, degraded])
    | some new_lease => do
      let offered ← emit sinks .WORK_OFFERED work (.work { (work_payload proposal).with_lease new_lease with
        from_node_id := some old_lease.node_id
        to_node_id := some new_lease.node_id
        reason := some refusal_reason })
      pure (outcome_from_decision decision new_lease "reassigned_offered" [refused, requested, offered])

/-- The completion evidence of a result: emitted now and kept as pending, or, on a retry with the
same result, the evidence that is already pending. -/
def completion_evidence (proposal : WorkProposal) (lease : WorkLease) (result : WorkResult) :
    Program Error (World C) LifecycleEvidence := do
  let world ← get
  match world.pending_completion.get? result.work_id with
  | none => do
    let completion ← emit sinks .WORK_COMPLETED result.work_id (.work { work_payload proposal with
      node_id := some lease.node_id
      organ := some lease.organ
      placement_mode := some lease.mode
      lease_id := some lease.lease_id
      result_status := some result.result_status
      important_result := result.important })
    modify (fun world => { world with
      pending_completion := world.pending_completion.set result.work_id (result, completion) })
    pure completion
  | some (pending_result, completion) =>
    if pending_result ≠ result then throw ⟨.ValueError, "completion retry must use the same result"⟩
    else pure completion

/-- An important result against a lease that escalates goes to the Queen. -/
def escalate (lease : WorkLease) (result : WorkResult) : Program Error (World C) Bool :=
  if result.important && lease.escalate_results_to_queen then do
    send_to_queen sinks
    pure true
  else pure false

/-- What follows the completion evidence: an important result goes to the Queen, the coordinator
closes the lease, and the work leaves the service's tables. -/
def close_completed (lease : WorkLease) (result : WorkResult) (completion : LifecycleEvidence) :
    Program Error (World C) DistributedWorkServiceOutcome := do
  let escalated ← escalate sinks lease result
  let closed ← call (fun coordinator : C =>
    let (closed, coordinator) := WorkCoordinator.complete coordinator result.work_id result.node_id
    (.ok closed, coordinator))
  if !closed then throw ⟨.RuntimeError, "Runtime could not close the completed workload lease"⟩
  else do
    modify (fun world => { world with
      accepted := discard world.accepted result.work_id
      proposals := world.proposals.pop result.work_id
      pending_completion := world.pending_completion.pop result.work_id })
    pure {
      state := "completed"
      work_id := result.work_id
      node_id := some result.node_id
      lease_id := some lease.lease_id
      degradation := lease.degradation
      lifecycle := [completion]
      accepted := true
      completed := true
      escalated_to_queen := escalated }

def complete (result : WorkResult) : Program Error (World C) DistributedWorkServiceOutcome := do
  let proposal ← required_proposal result.work_id
  let lease ← required_owned_lease result.work_id result.node_id
  let world ← get
  if result.work_id ∉ world.accepted then
    throw ⟨.ValueError, "work must be accepted before completion"⟩
  else do
    let completion ← completion_evidence sinks proposal lease result
    close_completed sinks lease result completion

end

/-- `reason.split(":", 1)[1]` of a reason that starts with `recovery-from:`. -/
def recovery_node (reason : String) : Option String :=
  if "recovery-from:".toList.isPrefixOf reason.toList then
    some (String.ofList (reason.toList.drop "recovery-from:".length))
  else none

def recovery_nodes (decision : WorkPlacementDecision) : List String :=
  decision.reasons.filterMap recovery_node

/-- `{lease.work_id: lease for lease in snapshot}`. -/
def prior_leases (snapshot : List WorkLease) : Dict String WorkLease :=
  snapshot.foldl (fun prior lease => prior.set lease.work_id lease) .empty

def work_id_from_recovery_reason (decision : WorkPlacementDecision) (prior : Dict String WorkLease) :
    Except Error String :=
  match (prior.items.filter (fun entry => entry.2.node_id ∈ recovery_nodes decision)).map Prod.fst with
  | [work_id] => .ok work_id
  | _ => .error ⟨.RuntimeError, "could not identify degraded recovery work"⟩

section

variable [StrLower] {C : Type} [WorkCoordinator C] (sinks : Sinks)

/-- The work a recovery decision is about. -/
def recovered_work (decision : WorkPlacementDecision) (prior : Dict String WorkLease) : Except Error String :=
  match decision.lease with
  | some lease => .ok lease.work_id
  | none => work_id_from_recovery_reason decision prior

/-- One pass of the loop of `recover`. -/
def recover_decision (prior : Dict String WorkLease) (decision : WorkPlacementDecision) :
    Program Error (World C) DistributedWorkServiceOutcome := do
  match recovered_work decision prior with
  | .error error => throw error
  | .ok work => do
    let proposal ← required_proposal work
    match prior.get? work with
    | none => throw ⟨.KeyError, work⟩
    | some old_lease => do
      modify (fun world => { world with accepted := discard world.accepted work })
      match decision.lease with
      | some lease => do
        let evidence ← emit sinks .WORK_RECOVERY_REASSIGNED work
          (.work { (work_payload proposal).with_lease lease with
            from_node_id := some old_lease.node_id
            to_node_id := some lease.node_id
            reason := some "source node unavailable or stale" })
        pure (outcome_from_decision decision lease "recovery_reassigned" [evidence])
      | none => do
        let evidence ← emit sinks .WORK_DEGRADED work (.work { work_payload proposal with
          from_node_id := some old_lease.node_id
          degradation_mode := some decision.degradation
          reason := some ("; ".intercalate decision.reasons) })
        pure (unplaced_outcome decision work [evidence])

def recover_decisions (prior : Dict String WorkLease) :
    List WorkPlacementDecision → Program Error (World C) (List DistributedWorkServiceOutcome)
  | [] => pure []
  | decision :: rest => do
    let outcome ← recover_decision sinks prior decision
    let outcomes ← recover_decisions prior rest
    pure (outcome :: outcomes)

def recover (now max_heartbeat_age lease_seconds : ℚ) :
    Program Error (World C) (List DistributedWorkServiceOutcome) := do
  let world ← get
  let prior := prior_leases (WorkCoordinator.snapshot world.coordinator)
  let decisions ← call (fun coordinator : C =>
    WorkCoordinator.recover_unavailable_nodes coordinator now max_heartbeat_age lease_seconds)
  recover_decisions sinks prior decisions

end

end velvet.distributed_work_service
