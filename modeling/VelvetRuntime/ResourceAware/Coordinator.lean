import VelvetRuntime.BodyResource.Service
import VelvetRuntime.ResourceReservations.Ledger
import VelvetRuntime.DistributedWork.Service

open python python.str velvet.distributed_work_coordinator

namespace velvet.body_capacity

/-- `_requirement_met`. -/
def requirement_met (resources : List ResourceAdvertisement) (requirement : ResourceRequirement) : Bool :=
  resources.any (fun resource => resource.offers requirement && requirement.minimum_available ≤ resource.available)

variable [StrLower]

/-- The plain coordinator inside resource bounds: the resource view, and the requirements of each work. -/
structure ResourceAwareWorkCoordinator where
  coordinator : DistributedWorkCoordinator
  resources : NodeResourceRegistry
  requirements : Dict String (List ResourceRequirement)

/-- `_node_meets`; the lookup may forget an advertisement whose proof is no longer current. -/
def node_meets (resources : NodeResourceRegistry) (node_id : String) (requirements : List ResourceRequirement) :
    Bool × NodeResourceRegistry :=
  (match (resources.get node_id).1 with
    | none => false
    | some advertisement => requirements.all (requirement_met advertisement.resources),
    (resources.get node_id).2)

/-- The nodes that `place` excludes since they do not meet the requirements. -/
def unmet_nodes (requirements : List ResourceRequirement) :
    List NodeAdvertisement → NodeResourceRegistry → List String × NodeResourceRegistry
  | [], resources => ([], resources)
  | node :: rest, resources =>
    let (meets, resources) := node_meets resources node.node_id requirements
    let (excluded, resources) := unmet_nodes requirements rest resources
    (if meets then excluded else normalized node.node_id :: excluded, resources)

namespace ResourceAwareWorkCoordinator

/-- The requirements on record for a work. -/
def requirements_of (self : ResourceAwareWorkCoordinator) (work_id : String) : List ResourceRequirement :=
  (self.requirements.get? (normalized work_id)).getD []

/-- A call of a coordinator method. -/
def coordinate {α : Type} (method : DistributedWorkCoordinator → Except Error α × DistributedWorkCoordinator) :
    Program Error ResourceAwareWorkCoordinator α := do
  let self ← get
  set { self with coordinator := (method self.coordinator).2 }
  Program.of_except (method self.coordinator).1

def place (requirement : WorkRequirement) (resource_requirements : List ResourceRequirement)
    (now lease_seconds : ℚ) (exclude_nodes : List String) :
    Program Error ResourceAwareWorkCoordinator WorkPlacementDecision := do
  let self ← get
  let excluded := (exclude_nodes.map normalized).filter (· ≠ "")
  let (unmet, resources) :=
    if resource_requirements = [] then ([], self.resources)
    else unmet_nodes resource_requirements self.coordinator.registry.snapshot self.resources
  set { self with
    resources
    requirements := self.requirements.set (normalized requirement.work_id) resource_requirements }
  coordinate (fun coordinator => coordinator.place requirement now lease_seconds (sorted_set (excluded ++ unmet)))

/-- Whether a registered node under this id meets the requirements. -/
def meets (node_id : String) (requirements : List ResourceRequirement) :
    Program Error ResourceAwareWorkCoordinator Bool := do
  let self ← get
  match self.coordinator.registry.get node_id with
  | none => pure false
  | some node => do
    set { self with resources := (node_meets self.resources node.node_id requirements).2 }
    pure (node_meets self.resources node.node_id requirements).1

/-- The loop of `_ensure_resource_eligible` with the attempts that are left. -/
def ensure_resource_eligible (now lease_seconds : ℚ) :
    Nat → WorkPlacementDecision → Program Error ResourceAwareWorkCoordinator WorkPlacementDecision
  | 0, current => pure current
  | attempts + 1, current =>
    match current.lease with
    | none => pure current
    | some lease => do
      let self ← get
      if self.requirements_of lease.work_id = [] then pure current
      else do
        let eligible ← meets lease.node_id (self.requirements_of lease.work_id)
        if eligible then pure current
        else do
          let next ← coordinate (fun coordinator => coordinator.refuse_and_reassign lease.work_id lease.node_id
            "resource-requirement-unmet" now lease_seconds)
          ensure_resource_eligible now lease_seconds attempts next

/-- `max(1, len(registry.snapshot()))`. -/
def max_attempts (self : ResourceAwareWorkCoordinator) : Nat := max 1 self.coordinator.registry.snapshot.length

def refuse_and_reassign (work_id node_id reason : String) (now lease_seconds : ℚ) :
    Program Error ResourceAwareWorkCoordinator WorkPlacementDecision := do
  let decision ← coordinate (fun coordinator =>
    coordinator.refuse_and_reassign work_id node_id reason now lease_seconds)
  let self ← get
  ensure_resource_eligible now lease_seconds self.max_attempts decision

/-- A lease that no longer meets its requirements moves; `None` when it stays. -/
def revalidate (work_id : String) (now lease_seconds : ℚ) :
    Program Error ResourceAwareWorkCoordinator (Option WorkPlacementDecision) := do
  let self ← get
  match self.coordinator.lease_for work_id with
  | none => pure none
  | some lease =>
    if self.requirements_of work_id = [] then pure none
    else do
      let eligible ← meets lease.node_id (self.requirements_of work_id)
      if eligible then pure none
      else do
        let decision ← refuse_and_reassign work_id lease.node_id "resource-requirement-no-longer-met" now
          lease_seconds
        pure (some decision)

def complete (self : ResourceAwareWorkCoordinator) (work_id node_id : String) :
    Bool × ResourceAwareWorkCoordinator :=
  let (completed, coordinator) := self.coordinator.complete work_id node_id
  (completed, { self with
    coordinator
    requirements := if completed then self.requirements.pop (normalized work_id) else self.requirements })

end ResourceAwareWorkCoordinator

end velvet.body_capacity

namespace velvet.resource_aware_work_proposals

open velvet.body_capacity velvet.body_resource_transport velvet.resource_reservations
open velvet.distributed_work_service (WorkCoordinator WorkProposal DistributedWorkServiceOutcome World Sinks call submit)

variable [StrLower]

/-- The coordinator and the resource view, with the requirements that placed and unplaced works have, the
reservations of the leases, and the requirements that wait for a placement. -/
structure LiveResourceAwareCoordinator where
  coordinator : DistributedWorkCoordinator
  resource_service : BodyResourceService
  requirements : Dict String (List ResourceRequirement)
  reservations : ResourceReservationLedger
  declared : Dict String (List ResourceRequirement)

namespace LiveResourceAwareCoordinator

def new (coordinator : DistributedWorkCoordinator) (resource_service : BodyResourceService) :
    LiveResourceAwareCoordinator :=
  ⟨coordinator, resource_service, .empty, .new, .empty⟩

/-- The inner coordinator; it shares the plain coordinator and the resource registry. -/
def resource_coordinator (self : LiveResourceAwareCoordinator) : ResourceAwareWorkCoordinator :=
  ⟨self.coordinator, self.resource_service.registry, self.requirements⟩

def set_resource_coordinator (self : LiveResourceAwareCoordinator) (inner : ResourceAwareWorkCoordinator) :
    LiveResourceAwareCoordinator :=
  { self with
    coordinator := inner.coordinator
    resource_service := { self.resource_service with registry := inner.resources }
    requirements := inner.requirements }

/-- A call of the inner coordinator. -/
def within {α : Type} (call : Program Error ResourceAwareWorkCoordinator α) :
    Program Error LiveResourceAwareCoordinator α := fun self =>
  match call.run self.resource_coordinator with
  | .ok value inner => .ok value (self.set_resource_coordinator inner)
  | .error error inner => .error error (self.set_resource_coordinator inner)

def declare (work_id : String) (requirements : List ResourceRequirement) :
    Program Error LiveResourceAwareCoordinator Unit := do
  let key := normalized work_id
  let self ← get
  if key = "" then throw ⟨.ValueError, "work_id is required"⟩
  else if requirements = [] then throw ⟨.ValueError, "resource_requirements cannot be empty"⟩
  else if (self.coordinator.lease_for key).isSome then
    throw ⟨.ValueError, "cannot add resource requirements to active work"⟩
  else if (self.declared.get? key).isSome then
    throw ⟨.ValueError, "resource requirements are already declared for work"⟩
  else set { self with declared := self.declared.set key requirements }

/-- `self.reservations.release(work_id)`. -/
def release (self : LiveResourceAwareCoordinator) (work_id : String) : LiveResourceAwareCoordinator :=
  { self with reservations := (self.reservations.release work_id).2 }

def cancel_declaration (self : LiveResourceAwareCoordinator) (work_id : String) : LiveResourceAwareCoordinator :=
  { self with
    declared := self.declared.pop (normalized work_id)
    requirements := self.requirements.pop (normalized work_id) }.release (normalized work_id)

/-- `_prune`: first the resource view, then the reservations. -/
def prune (now : ℚ) : Program Error LiveResourceAwareCoordinator Unit := do
  let self ← get
  let (pruned, resource_service) := self.resource_service.prune (.finite now)
  set { self with resource_service }
  let _ ← Program.of_except pruned
  let self ← get
  let (expired, reservations) := self.reservations.prune now
  set { self with reservations }
  let _ ← Program.of_except expired
  pure ()

/-- The `reserve` call for a lease. -/
def reserve_request (lease : WorkLease) (advertisement : NodeResourceAdvertisement)
    (requirements : List ResourceRequirement) : ReserveRequest :=
  ⟨lease.work_id, lease.lease_id, lease.node_id, lease.expires_at, advertisement, requirements⟩

/-- Whether the lease gets its reservation; an unavailable resource is no error. -/
def try_reserve (lease : WorkLease) (requirements : List ResourceRequirement) :
    Program Error LiveResourceAwareCoordinator Bool := do
  let self ← get
  let (advertisement, registry) := self.resource_service.registry.get lease.node_id
  let self := { self with resource_service := { self.resource_service with registry } }
  set self
  match advertisement with
  | none => pure false
  | some advertisement =>
    let (reserved, reservations) := self.reservations.reserve (reserve_request lease advertisement requirements)
    match reserved with
    | .ok _ => do
      set { self with reservations }
      pure true
    | .error error =>
      if error.kind = .ResourceReservationUnavailable then pure false else throw error

/-- The loop of `_ensure_reserved` with the attempts that are left. -/
def ensure_reserved (now lease_seconds : ℚ) :
    Nat → WorkPlacementDecision → Program Error LiveResourceAwareCoordinator WorkPlacementDecision
  | attempts, current =>
    match current.lease with
    | none => pure current
    | some lease => do
      let self ← get
      let requirements := self.resource_coordinator.requirements_of lease.work_id
      if requirements = [] then pure current
      else do
        let reserved ← try_reserve lease requirements
        if reserved then pure current
        else
          match attempts with
          | 0 => throw ⟨.RuntimeError, "resource reservation reassignment exceeded node bound"⟩
          | attempts + 1 => do
            let next ← within (ResourceAwareWorkCoordinator.refuse_and_reassign lease.work_id lease.node_id
              "resource-reservation-unavailable" now lease_seconds)
            ensure_reserved now lease_seconds attempts next

/-- `_ensure_reserved`. -/
def reserved (now lease_seconds : ℚ) (decision : WorkPlacementDecision) :
    Program Error LiveResourceAwareCoordinator WorkPlacementDecision := do
  let self ← get
  ensure_reserved now lease_seconds self.resource_coordinator.max_attempts decision

def place (requirement : WorkRequirement) (now lease_seconds : ℚ) (exclude_nodes : List String) :
    Program Error LiveResourceAwareCoordinator WorkPlacementDecision := do
  prune now
  let work_id := normalized requirement.work_id
  let self ← get
  let resource_requirements := (self.declared.get? work_id).getD []
  set { self with declared := self.declared.pop work_id }
  let decision ← within
    (ResourceAwareWorkCoordinator.place requirement resource_requirements now lease_seconds exclude_nodes)
  reserved now lease_seconds decision

/-- Also `handoff`, which passes its arguments on. -/
def refuse_and_reassign (work_id node_id reason : String) (now lease_seconds : ℚ) :
    Program Error LiveResourceAwareCoordinator WorkPlacementDecision := do
  prune now
  let self ← get
  if (self.coordinator.lease_for work_id).any (fun lease => lease.node_id = normalized node_id) then
    set (self.release work_id)
  let decision ← within
    (ResourceAwareWorkCoordinator.refuse_and_reassign work_id node_id reason now lease_seconds)
  reserved now lease_seconds decision

def complete (self : LiveResourceAwareCoordinator) (work_id node_id : String) :
    Bool × LiveResourceAwareCoordinator :=
  let self := { self with declared := self.declared.pop (normalized work_id) }
  let (completed, inner) := self.resource_coordinator.complete work_id node_id
  let self := self.set_resource_coordinator inner
  (completed, if completed then self.release work_id else self)

/-- The stale nodes, and those that are offline or quarantined under the ids that they advertise. -/
def failed_nodes (self : LiveResourceAwareCoordinator) (now max_heartbeat_age : ℚ) : Except Error (List String) :=
  (self.coordinator.registry.expired_node_ids now max_heartbeat_age).map (fun stale =>
    stale ++ (self.coordinator.registry.snapshot.filter (fun node =>
      node.availability = .OFFLINE ∨ node.availability = .QUARANTINED)).map (·.node_id))

/-- The works with an unexpired lease on one of the nodes, in order; a lease is filed under its work id. -/
def affected_work_ids (self : LiveResourceAwareCoordinator) (failed : List String) (now : ℚ) : List String :=
  (self.coordinator.leases.sorted_items.filter (fun entry =>
    now < entry.2.expires_at ∧ entry.2.node_id ∈ failed)).map Prod.fst

/-- The decision about a recovered work, bounded by the resources of its new node. -/
def rebind (now lease_seconds : ℚ) (decision : WorkPlacementDecision) :
    Program Error LiveResourceAwareCoordinator WorkPlacementDecision :=
  match decision.lease with
  | none => pure decision
  | some lease => do
    let replacement ← within (ResourceAwareWorkCoordinator.revalidate lease.work_id now lease_seconds)
    reserved now lease_seconds (replacement.getD decision)

/-- The loop over the recovered works. -/
def rebind_works (now lease_seconds : ℚ) :
    List (String × WorkPlacementDecision) → Program Error LiveResourceAwareCoordinator (List WorkPlacementDecision)
  | [] => pure []
  | (work_id, decision) :: rest => do
    modify (fun self => self.release work_id)
    let current ← rebind now lease_seconds decision
    let bounded ← rebind_works now lease_seconds rest
    pure (current :: bounded)

def diverged : Error := ⟨.RuntimeError, "resource recovery work count diverged from coordinator"⟩

def recover_unavailable_nodes (now max_heartbeat_age lease_seconds : ℚ) :
    Program Error LiveResourceAwareCoordinator (List WorkPlacementDecision) := do
  prune now
  let self ← get
  let failed ← Program.of_except (self.failed_nodes now max_heartbeat_age)
  let affected := self.affected_work_ids failed now
  let decisions ← within (ResourceAwareWorkCoordinator.coordinate (fun coordinator =>
    coordinator.recover_unavailable_nodes now max_heartbeat_age lease_seconds))
  if decisions.length ≠ affected.length then throw diverged
  else rebind_works now lease_seconds (affected.zip decisions)

end LiveResourceAwareCoordinator

open LiveResourceAwareCoordinator in
instance : WorkCoordinator LiveResourceAwareCoordinator where
  registry := fun self => self.coordinator.registry
  with_registry := fun self registry => { self with coordinator := { self.coordinator with registry } }
  place := fun self requirement now lease_seconds =>
    ((place requirement now lease_seconds []).result self, (place requirement now lease_seconds []).after self)
  refuse_and_reassign := fun self work_id node_id reason now lease_seconds =>
    ((refuse_and_reassign work_id node_id reason now lease_seconds).result self,
      (refuse_and_reassign work_id node_id reason now lease_seconds).after self)
  complete := LiveResourceAwareCoordinator.complete
  recover_unavailable_nodes := fun self now max_heartbeat_age lease_seconds =>
    ((recover_unavailable_nodes now max_heartbeat_age lease_seconds).result self,
      (recover_unavailable_nodes now max_heartbeat_age lease_seconds).after self)
  lease_for := fun self work_id => self.coordinator.lease_for work_id
  snapshot := fun self => self.coordinator.snapshot

/-- A proposal with the resources that it needs; the constructor refuses it without any. -/
structure ResourceAwareWorkProposal where
  proposal : WorkProposal
  resource_requirements : List ResourceRequirement
  requirements_nonempty : resource_requirements ≠ []

open LiveResourceAwareCoordinator in
/-- `ResourceAwareProposalSubmitter.submit`: the coordinator is armed with the requirements for the intake of the
service, and disarmed when no lease comes of it. -/
def submit_resource_aware (sinks : Sinks) (proposal : ResourceAwareWorkProposal) (now lease_seconds : ℚ) :
    Program Error (World LiveResourceAwareCoordinator) DistributedWorkServiceOutcome := do
  let work_id := proposal.proposal.proposal_id
  let cancelled : Program Error (World LiveResourceAwareCoordinator) Unit :=
    modify (fun world => { world with coordinator := world.coordinator.cancel_declaration work_id })
  call (fun live : LiveResourceAwareCoordinator => ((declare work_id proposal.resource_requirements).result live,
    (declare work_id proposal.resource_requirements).after live))
  let outcome ← tryCatch (submit sinks proposal.proposal now lease_seconds) (fun error => do
    cancelled
    throw error)
  if outcome.node_id.getD "" = "" ∨ outcome.lease_id.getD "" = "" then cancelled
  pure outcome

/-- The live coordinator takes the place of the plain one before any work exists. -/
def bind_live_resource_placement (service : World DistributedWorkCoordinator) (resource_service : BodyResourceService) :
    Except Error (World LiveResourceAwareCoordinator) :=
  if service.coordinator.snapshot ≠ [] then
    .error ⟨.RuntimeError, "resource placement must bind before workload leases exist"⟩
  else if service.proposals.items ≠ [] then
    .error ⟨.RuntimeError, "resource placement must bind before active proposals exist"⟩
  else if service.coordinator.registry.body_id ≠ resource_service.registry.body_id then
    .error ⟨.ValueError, "functional and resource registries must describe one body"⟩
  else .ok {
    coordinator := .new service.coordinator resource_service
    proposals := service.proposals
    accepted := service.accepted
    pending_completion := service.pending_completion
    journal := service.journal
    lifecycle_calls := service.lifecycle_calls
    queen_calls := service.queen_calls }

end velvet.resource_aware_work_proposals
