import VelvetRuntime.DistributedWork.Tables
import VelvetRuntime.ResourceAware.Recovery

open python python.str python.Program velvet.body_capacity velvet.distributed_work_coordinator
open velvet.body_resource_transport velvet.resource_reservations
open DistributedWorkCoordinator (Placed Named NewLease lease_of unexpired)
open ResourceAwareWorkCoordinator (Moved)

namespace velvet.resource_aware_work_proposals

open LiveResourceAwareCoordinator

section

variable [StrLower]

/-- The operations of the live coordinator, and the changes that others make to the registries between them. A handoff
is a refusal. -/
inductive Operation where
  | declare (work_id : String) (requirements : List ResourceRequirement)
  | place (requirement : WorkRequirement) (now lease_seconds : ℚ) (exclude_nodes : List String)
  | refuse_and_reassign (work_id node_id reason : String) (now lease_seconds : ℚ)
  | complete (work_id node_id : String)
  | recover_unavailable_nodes (now max_heartbeat_age lease_seconds : ℚ)
  | registry (registry : VerifiedNodeRegistry)
  | resource_service (resource_service : BodyResourceService)

/-- One operation. An operation that raises keeps the changes it has made. -/
def perform : Operation → Program Error LiveResourceAwareCoordinator Unit
  | .declare work_id requirements => declare work_id requirements
  | .place requirement now lease_seconds exclude_nodes => do
    let _ ← place requirement now lease_seconds exclude_nodes
    pure ()
  | .refuse_and_reassign work_id node_id reason now lease_seconds => do
    let _ ← refuse_and_reassign work_id node_id reason now lease_seconds
    pure ()
  | .complete work_id node_id => modify (fun self => (self.complete work_id node_id).2)
  | .recover_unavailable_nodes now max_heartbeat_age lease_seconds => do
    let _ ← recover_unavailable_nodes now max_heartbeat_age lease_seconds
    pure ()
  | .registry registry => modify (fun self => { self with coordinator := { self.coordinator with registry } })
  | .resource_service resource_service => modify (fun self => { self with resource_service })

/-- The time that an operation is given. -/
def Operation.now : Operation → Option ℚ
  | .place _ now _ _ | .refuse_and_reassign _ _ _ now _ | .recover_unavailable_nodes now _ _ => some now
  | .declare _ _ | .complete _ _ | .registry _ | .resource_service _ => none

/-- When an operation keeps the correspondence. A work is not placed again while it holds a lease with requirements;
a refusal by the owner of such a lease gives a reason; and a recovery that affects a lease has a positive duration and
finds the node of the lease under the id that the node advertises. -/
def Sound (live : LiveResourceAwareCoordinator) : Operation → Prop
  | .place requirement now _ _ => ∀ lease, live.lease_at (normalized requirement.work_id) = some lease →
    now < lease.expires_at → live.requirements_of (normalized requirement.work_id) = []
  | .refuse_and_reassign work_id node_id reason now _ => Blank reason →
    ∀ lease, live.lease_at (normalized work_id) = some lease → lease.node_id = normalized node_id →
      now < lease.expires_at → live.requirements_of (normalized work_id) = []
  | .recover_unavailable_nodes now max_heartbeat_age lease_seconds =>
    ∀ failed, live.failed_nodes now max_heartbeat_age = .ok failed → ∀ work lease, live.lease_at work = some lease →
      now < lease.expires_at → lease.node_id ∈ failed.map normalized → lease.node_id ∈ failed ∧ 0 < lease_seconds
  | .declare _ _ | .complete _ _ | .registry _ | .resource_service _ => True

/-- What ties the tables of one work together at a time. -/
structure Tied (clock : ℚ) (live : LiveResourceAwareCoordinator) (work : String) : Prop where
  reserved : ∀ lease, live.lease_at work = some lease → clock < lease.expires_at → live.requirements_of work ≠ [] →
    ∃ reservation, live.reservation_of work = some reservation ∧ Fits reservation lease
  leased : ∀ reservation, live.reservation_of work = some reservation → live.requirements_of work ≠ [] ∧
    clock < reservation.expires_at ∧ ∃ lease, live.lease_at work = some lease ∧ Named lease ∧ Fits reservation lease
  declared : ∀ requirements, live.declared.get? work = some requirements → live.lease_at work = none

variable {live : LiveResourceAwareCoordinator} {clock : ℚ}

/-- The ties of a work depend on its own entries only. -/
theorem Tied.congr {clock : ℚ} {before after : LiveResourceAwareCoordinator} {work : String}
    (htied : Tied clock before work) (hlease : after.lease_at work = before.lease_at work)
    (hrequirements : after.requirements_of work = before.requirements_of work)
    (hreservation : after.reservation_of work = before.reservation_of work)
    (hdeclared : ∀ requirements, after.declared.get? work = some requirements →
      before.declared.get? work = some requirements) : Tied clock after work := by
  constructor
  · intro lease
    rw [hlease, hrequirements, hreservation]
    exact htied.reserved lease
  · intro reservation
    rw [hlease, hrequirements, hreservation]
    exact htied.leased reservation
  · intro requirements hget
    rw [hlease]
    exact htied.declared requirements (hdeclared requirements hget)

variable {now lease_seconds : ℚ} {work : String} {outcome : Option WorkLease}

variable {requirements : List ResourceRequirement}

variable {requirement : WorkRequirement} {exclude_nodes : List String}

variable {work_id node_id reason : String}

end

theorem byte_nonneg : (0 : ℚ) ≤ 1 := by norm_num

theorem byte_positive : (0 : ℚ) < 1 := by norm_num

theorem byte_le : (1 : ℚ) ≤ 1 := le_refl 1

theorem text_bytes : ¬ Blank "bytes" := by decide

theorem local_only : [ResourceScope.LOCAL] ≠ [] := by simp

theorem skew_positive : (0 : ℚ) < 5 := by decide

theorem nothing_keyed [StrLower] : ∀ entry ∈ (Dict.empty : Dict String NodeResourceAdvertisement).items,
    normalized entry.2.node_id = entry.1 := by simp [Dict.empty]

/-- One byte of memory. -/
def one_byte : ResourceRequirement where
  kind := .MEMORY
  minimum_available := 1
  unit := "bytes"
  accepted_scopes := [.LOCAL]
  required_capabilities := []
  minimum_nonneg := byte_nonneg
  unit_text := text_bytes
  scopes_nonempty := local_only
  required_capabilities_text := no_blank_nil

/-- A node with one byte of memory. -/
def one_byte_node (node_id : String) (htext : ¬ Blank node_id) : NodeResourceAdvertisement where
  node_id
  body_id := "body"
  observed_at := 0
  resources := [{
    resource_id := "ram", kind := .MEMORY, scope := .LOCAL, capacity := 1, available := 1, unit := "bytes"
    capabilities := [], online := true, resource_id_text := by decide, capacity_positive := byte_positive
    available_nonneg := byte_nonneg, available_le := byte_le, unit_text := text_bytes
    capabilities_text := no_blank_nil }]
  body_verified := true
  continuity_verified := true
  boot_id := "00000000-0000-4000-8000-000000000000"
  node_id_text := htext
  body_id_text := text_body
  observed_at_nonneg := zero_beat
  resource_ids_unique := by simp

/-- The resource view of the node, valid for 100 seconds. -/
def one_byte_service [StrLower] (node_id : String) (htext : ¬ Blank node_id) : BodyResourceService where
  registry := NodeResourceRegistry.store
    { body_id := "body"
      check := ⟨0, 100, some (fun _ => true)⟩
      nodes := .empty
      keyed := nothing_keyed } (one_byte_node node_id htext)
  max_age_seconds := 100
  max_future_skew_seconds := 5
  max_age_positive := by decide
  max_future_skew_positive := skew_positive

open velvet.distributed_work_service (plain_node plain_proposal)

end velvet.resource_aware_work_proposals
