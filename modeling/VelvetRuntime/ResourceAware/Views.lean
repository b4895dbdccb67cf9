import VelvetRuntime.BodyResource.Isolation
import VelvetRuntime.ResourceAware.Reserved

open python python.str python.num python.Program velvet.body_capacity velvet.distributed_work_coordinator
open velvet.body_resource_transport velvet.resource_reservations

namespace velvet.body_capacity

variable [StrLower]

namespace NodeResourceRegistry

/-- What the registry answers about a node. -/
def view (self : NodeResourceRegistry) (node_id : String) : Option NodeResourceAdvertisement := (self.get node_id).1

variable (self : NodeResourceRegistry)

theorem view_eq (node_id : String) :
    self.view node_id = (self.nodes.get? (normalized node_id)).filter self.check.proof_is_current := by
  unfold view get
  cases self.nodes.get? (normalized node_id) with
  | none => rfl
  | some item =>
    dsimp only
    cases hcurrent : self.check.proof_is_current item with
    | true => simp [Option.filter, hcurrent]
    | false => simp [Option.filter, hcurrent]

/-- A lookup forgets only what it does not answer with. -/
theorem view_get (other : String) : (self.get other).2.view = self.view := by
  funext node_id
  unfold get
  cases hother : self.nodes.get? (normalized other) with
  | none => rfl
  | some item =>
    dsimp only
    cases hcurrent : self.check.proof_is_current item with
    | true => rfl
    | false =>
      simp only [Bool.false_eq_true, if_false]
      rw [view_eq, view_eq]
      change ((self.nodes.pop (normalized other)).get? (normalized node_id)).filter self.check.proof_is_current = _
      rw [Dict.get?_pop]
      by_cases hsame : normalized node_id = normalized other
      · rw [if_pos hsame, hsame, hother]
        simp [Option.filter, hcurrent]
      · rw [if_neg hsame]

end NodeResourceRegistry

theorem view_node_meets (resources : NodeResourceRegistry) (node_id : String) (requirements : List ResourceRequirement) :
    (node_meets resources node_id requirements).2.view = resources.view :=
  resources.view_get node_id

namespace ResourceAwareWorkCoordinator

/-- The resource views of the nodes. -/
def views (self : ResourceAwareWorkCoordinator) : String → Option NodeResourceAdvertisement := self.resources.view

variable {now lease_seconds : ℚ}

theorem preserves_coordinate {α : Type}
    (method : DistributedWorkCoordinator → Except Error α × DistributedWorkCoordinator) :
    Preserves views (coordinate method) := by
  rw [preserves_iff_wp]
  intro self
  apply wp_coordinate
  · exact fun _ _ => rfl
  · exact fun _ _ => rfl

theorem preserves_meets (node_id : String) (requirements : List ResourceRequirement) :
    Preserves views (meets node_id requirements) := by
  rw [preserves_iff_wp]
  intro self
  unfold meets
  simp only [wp_bind, wp_get]
  cases self.coordinator.registry.get node_id with
  | none => exact rfl
  | some node => exact view_node_meets self.resources node.node_id requirements

theorem preserves_ensure_resource_eligible (attempts : Nat) (current : WorkPlacementDecision) :
    Preserves views (ensure_resource_eligible now lease_seconds attempts current) := by
  induction attempts generalizing current with
  | zero => exact preserves_pure current
  | succ attempts ih =>
    unfold ensure_resource_eligible
    cases current.lease with
    | none => exact preserves_pure current
    | some lease =>
      refine preserves_get_bind fun self => ?_
      split
      · rfl
      · refine ((preserves_meets _ _).bind fun eligible => ?_) self
        split
        · exact preserves_pure current
        · exact (preserves_coordinate _).bind ih

theorem preserves_refuse_and_reassign (work_id node_id reason : String) :
    Preserves views (refuse_and_reassign work_id node_id reason now lease_seconds) := by
  unfold refuse_and_reassign
  refine (preserves_coordinate _).bind fun decision => preserves_get_bind fun self => ?_
  exact preserves_ensure_resource_eligible self.max_attempts decision self

end ResourceAwareWorkCoordinator

end velvet.body_capacity

namespace velvet.body_resource_transport.BodyResourceService

variable [StrLower]

/-- At a time `prune` accepts, the views go that are stale at that time, and no others. -/
theorem view_prune (self : BodyResourceService) {now : JsonFloat} (hnow : now.lt 0 = false) (node_id : String) :
    (self.prune now).2.registry.view node_id =
      (self.registry.view node_id).filter (fun advertisement => !self.stale now advertisement) := by
  rw [NodeResourceRegistry.view_eq, NodeResourceRegistry.view_eq, prune_check]
  cases hget : self.registry.nodes.get? (normalized node_id) with
  | none =>
    rw [prune_get?_of_not_current hnow (by simp [hget])]
    rfl
  | some entry =>
    cases hcurrent : self.registry.check.proof_is_current entry with
    | true =>
      rw [prune_get?_of_current hnow hget hcurrent]
      cases hstale : self.stale now entry with
      | true => simp [Option.filter, hcurrent, hstale]
      | false => simp [Option.filter, hcurrent, hstale]
    | false =>
      rw [prune_get?_of_not_current hnow (by simp [hget, hcurrent])]
      simp [Option.filter, hcurrent]

end velvet.body_resource_transport.BodyResourceService

namespace velvet.resource_aware_work_proposals.LiveResourceAwareCoordinator

open ResourceAwareWorkCoordinator (preserves_refuse_and_reassign)

variable [StrLower] {now lease_seconds : ℚ}

/-- The resource views of the nodes. -/
def views (self : LiveResourceAwareCoordinator) : String → Option NodeResourceAdvertisement :=
  self.resource_service.registry.view

theorem preserves_within {α : Type} {call : Program Error ResourceAwareWorkCoordinator α}
    (hcall : Preserves ResourceAwareWorkCoordinator.views call) : Preserves views (within call) := by
  rw [preserves_iff_wp]
  intro self
  rw [wp_within]
  exact preserves_iff_wp.mp hcall self.resource_coordinator

theorem preserves_try_reserve (lease : WorkLease) (requirements : List ResourceRequirement) :
    Preserves views (try_reserve lease requirements) := by
  rw [preserves_iff_wp]
  intro self
  have hview := self.resource_service.registry.view_get lease.node_id
  unfold try_reserve
  simp only [wp_bind, wp_get, wp_set]
  split
  · exact hview
  · split
    · exact hview
    · split
      · exact hview
      · exact hview

theorem preserves_ensure_reserved (attempts : Nat) (current : WorkPlacementDecision) :
    Preserves views (ensure_reserved now lease_seconds attempts current) := by
  induction attempts generalizing current with
  | zero =>
    unfold ensure_reserved
    cases current.lease with
    | none => exact preserves_pure current
    | some lease =>
      refine preserves_get_bind fun self => ?_
      dsimp only
      split
      · rfl
      · refine ((preserves_try_reserve _ _).bind fun reserved => ?_) self
        split
        · exact preserves_pure current
        · exact preserves_throw _
  | succ attempts ih =>
    unfold ensure_reserved
    cases current.lease with
    | none => exact preserves_pure current
    | some lease =>
      refine preserves_get_bind fun self => ?_
      dsimp only
      split
      · rfl
      · refine ((preserves_try_reserve _ _).bind fun reserved => ?_) self
        split
        · exact preserves_pure current
        · exact (preserves_within (preserves_refuse_and_reassign _ _ _)).bind ih

theorem preserves_reserved (decision : WorkPlacementDecision) :
    Preserves views (reserved now lease_seconds decision) := by
  unfold reserved
  exact preserves_get_bind fun self => preserves_ensure_reserved self.resource_coordinator.max_attempts decision self

variable (self : LiveResourceAwareCoordinator)

theorem views_pruned (hnow : 0 ≤ now) (node_id : String) : (self.pruned now).views node_id =
      (self.views node_id).filter (fun advertisement => !self.resource_service.stale (.finite now) advertisement) :=
  self.resource_service.view_prune (by simpa [JsonFloat.lt] using hnow) node_id

theorem reservation_of_pruned (hnow : 0 ≤ now) (work : String) :
    (self.pruned now).reservation_of work =
      (self.reservation_of work).filter (fun reservation => now < reservation.expires_at) := by
  unfold pruned reservation_of ResourceReservationLedger.prune
  rw [if_neg (not_lt.mpr hnow), Dict.get?_filter]
  congr 1
  funext reservation
  rw [Bool.eq_iff_iff]
  simp

end velvet.resource_aware_work_proposals.LiveResourceAwareCoordinator
