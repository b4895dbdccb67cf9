import VelvetRuntime.Python.Relational
import VelvetRuntime.ResourceAware.Recovery

open python python.str python.Program

namespace velvet.distributed_work_coordinator.DistributedWorkCoordinator

variable [StrLower]

/-- Two coordinators over the same nodes and leases, where the same registered nodes have refused a work. -/
structure Akin (work : String) (left right : DistributedWorkCoordinator) : Prop where
  registry : left.registry = right.registry
  leases : left.leases = right.leases
  refused : ∀ node_id ∈ left.registered_ids, node_id ∈ left.refused_by work ↔ node_id ∈ right.refused_by work

/-- They also have the same requirement on record for the work. -/
structure Alike (work : String) (left right : DistributedWorkCoordinator) : Prop extends Akin work left right where
  requirement : left.requirements.get? work = right.requirements.get? work

variable {left right : DistributedWorkCoordinator} {work : String} {requirement : WorkRequirement}
  {now lease_seconds : ℚ}

variable {excluded excluded' : List String}

/-- What the placement loop makes of a node depends on the leases and on whether the node is excluded. -/
theorem consider_congr (hleases : left.leases = right.leases) {node : NodeAdvertisement}
    (hsame : normalized node.node_id ∈ excluded ↔ normalized node.node_id ∈ excluded') :
    left.consider requirement excluded node = right.consider requirement excluded' node := by
  have hcount : ∀ node_id, left.active_count node_id = right.active_count node_id := by
    intro node_id
    unfold active_count
    rw [hleases]
  unfold consider
  dsimp only
  rw [hcount]
  by_cases hin : normalized node.node_id ∈ excluded
  · rw [if_pos hin, if_pos (hsame.mp hin)]
  · rw [if_neg hin, if_neg (fun hin' => hin (hsame.mpr hin'))]

theorem candidates_congr (requirement : WorkRequirement) (hregistry : left.registry = right.registry)
    (hleases : left.leases = right.leases)
    (hsame : ∀ node_id ∈ left.registered_ids, node_id ∈ excluded ↔ node_id ∈ excluded') :
    left.candidates requirement excluded = right.candidates requirement excluded' ∧
      left.exclusions requirement excluded = right.exclusions requirement excluded' := by
  have hconsider : ∀ node ∈ left.registry.snapshot,
      left.consider requirement excluded node = right.consider requirement excluded' node :=
    fun node hnode => consider_congr hleases (hsame _ (List.mem_map_of_mem hnode))
  unfold candidates exclusions
  rw [← hregistry]
  constructor
  · apply List.filterMap_congr
    intro node hnode
    rw [hconsider node hnode]
  · apply List.filterMap_congr
    intro node hnode
    rw [hconsider node hnode]

variable {self : DistributedWorkCoordinator}

/-- Placement without a candidate. -/
theorem place_locked_unplaced (hrecorded : self.Recorded requirement)
    {excluded : List String} (hranked : ranked (self.candidates requirement excluded) = []) :
    self.place_locked requirement hrecorded now lease_seconds excluded =
      (.ok (unplaced_decision (self.exclusions requirement excluded)), self) := by
  unfold place_locked
  split
  · rfl
  · rename_i chosen rest hcons
    rw [hranked] at hcons
    cases hcons

/-- Placement on the first of the candidates. -/
theorem place_locked_chosen (now lease_seconds : ℚ) (hrecorded : self.Recorded requirement)
    {excluded : List String} {chosen : WorkCandidate} {rest : List WorkCandidate}
    (hranked : ranked (self.candidates requirement excluded) = chosen :: rest) :
    (∃ error, new_lease requirement chosen now lease_seconds = .error error ∧
      self.place_locked requirement hrecorded now lease_seconds excluded = (.error error, self)) ∨
    ∃ lease hrecord, new_lease requirement chosen now lease_seconds = .ok lease ∧
      self.place_locked requirement hrecorded now lease_seconds excluded =
        (.ok (placed_decision lease chosen rest (self.exclusions requirement excluded)),
          self.store_lease lease hrecord) := by
  unfold place_locked
  split
  · rename_i hnil
    rw [hranked] at hnil
    cases hnil
  · rename_i first others hcons
    rw [hranked] at hcons
    cases hcons
    split
    · rename_i error herror
      exact Or.inl ⟨error, herror, rfl⟩
    · rename_i lease hlease
      exact Or.inr ⟨lease, lease_on_record hrecorded hranked hlease, hlease, rfl⟩

/-- Two placements with the same exclusions among the registered nodes end alike. -/
theorem place_locked_alike (now lease_seconds : ℚ) (halike : Alike work left right)
    (hleft : left.Recorded requirement) (hright : right.Recorded requirement)
    (hsame : ∀ node_id ∈ left.registered_ids, node_id ∈ excluded ↔ node_id ∈ excluded') :
    (left.place_locked requirement hleft now lease_seconds excluded).1 =
        (right.place_locked requirement hright now lease_seconds excluded').1 ∧
      Alike work (left.place_locked requirement hleft now lease_seconds excluded).2
        (right.place_locked requirement hright now lease_seconds excluded').2 := by
  obtain ⟨hcandidates, hexclusions⟩ :=
    candidates_congr requirement halike.registry halike.leases hsame
  cases hranked : ranked (left.candidates requirement excluded) with
  | nil =>
    rw [place_locked_unplaced hleft hranked,
      place_locked_unplaced hright (hcandidates ▸ hranked), hexclusions]
    exact ⟨rfl, halike⟩
  | cons chosen rest =>
    have hranked' : ranked (right.candidates requirement excluded') = chosen :: rest := hcandidates ▸ hranked
    rcases place_locked_chosen now lease_seconds hleft hranked with
      ⟨error, herror, hplaced⟩ | ⟨lease, hrecord, hlease, hplaced⟩
    · rcases place_locked_chosen now lease_seconds hright hranked' with
        ⟨error', herror', hplaced'⟩ | ⟨lease', hrecord', hlease', hplaced'⟩
      · rw [hplaced, hplaced']
        cases herror.symm.trans herror'
        exact ⟨rfl, halike⟩
      · cases herror.symm.trans hlease'
    · rcases place_locked_chosen now lease_seconds hright hranked' with
        ⟨error', herror', hplaced'⟩ | ⟨lease', hrecord', hlease', hplaced'⟩
      · cases hlease.symm.trans herror'
      · cases hlease.symm.trans hlease'
        rw [hplaced, hplaced', hexclusions]
        refine ⟨rfl, ⟨halike.registry, ?_, halike.refused⟩, halike.requirement⟩
        rw [leases_store_lease, leases_store_lease, halike.leases]

/-- Placement of a work without a lease ends alike; with the requirement it puts on record, the coordinators are alike
afterwards. -/
theorem place_alike (now lease_seconds : ℚ) (hakin : Akin work left right) (hwork : normalized requirement.work_id = work)
    (hnone : left.leases.get? work = none) (exclude_nodes : List String) :
    (left.place requirement now lease_seconds exclude_nodes).1 =
        (right.place requirement now lease_seconds exclude_nodes).1 ∧
      ∀ decision, (left.place requirement now lease_seconds exclude_nodes).1 = .ok decision →
        Alike work (left.place requirement now lease_seconds exclude_nodes).2
            (right.place requirement now lease_seconds exclude_nodes).2 ∧
          (left.place requirement now lease_seconds exclude_nodes).2.leases.get? work = decision.lease := by
  subst hwork
  have hexpired : (left.expire_leases_locked now).leases = (right.expire_leases_locked now).leases :=
    congrArg (fun leases => leases.filter fun _ lease => !decide (lease.expires_at ≤ now)) hakin.leases
  have hleft : (left.expire_leases_locked now).leases.get? (normalized requirement.work_id) = none := by
    rw [expire_leases_get?, hnone]
    rfl
  have hown : ∀ decision, (left.place requirement now lease_seconds exclude_nodes).1 = .ok decision →
      (left.place requirement now lease_seconds exclude_nodes).2.leases.get? (normalized requirement.work_id) =
        decision.lease := by
    intro decision hdecision
    rcases place_placed rfl hleft lease_seconds exclude_nodes with ⟨error, herror⟩ | hplaced
    · rw [herror] at hdecision
      cases hdecision
    · rw [hdecision] at hplaced
      exact hplaced.own
  suffices hrest : (left.place requirement now lease_seconds exclude_nodes).1 =
        (right.place requirement now lease_seconds exclude_nodes).1 ∧
      ∀ decision, (left.place requirement now lease_seconds exclude_nodes).1 = .ok decision →
        Alike (normalized requirement.work_id) (left.place requirement now lease_seconds exclude_nodes).2
          (right.place requirement now lease_seconds exclude_nodes).2 from
    ⟨hrest.1, fun decision hdecision => ⟨hrest.2 decision hdecision, hown decision hdecision⟩⟩
  unfold place
  by_cases hseconds : lease_seconds ≤ 0
  · rw [if_pos hseconds, if_pos hseconds]
    refine ⟨rfl, ?_⟩
    intro decision hdecision
    cases hdecision
  · rw [if_neg hseconds, if_neg hseconds]
    dsimp only
    rw [← hexpired, hleft]
    have halike : Alike (normalized requirement.work_id) ((left.expire_leases_locked now).set_requirement requirement)
        ((right.expire_leases_locked now).set_requirement requirement) := by
      refine ⟨⟨hakin.registry, hexpired, hakin.refused⟩, ?_⟩
      exact (Dict.get?_set_self _ _ _).trans (Dict.get?_set_self _ _ _).symm
    obtain ⟨hresult, hafter⟩ := place_locked_alike now lease_seconds halike
      (recorded_set_requirement _ requirement) (recorded_set_requirement _ requirement) (fun node_id hnode =>
        show node_id ∈ (exclude_nodes.map normalized).filter (· ≠ "") ++
            (left.expire_leases_locked now).refused_by (normalized requirement.work_id) ↔
          node_id ∈ (exclude_nodes.map normalized).filter (· ≠ "") ++
            (right.expire_leases_locked now).refused_by (normalized requirement.work_id) by
          rw [List.mem_append, List.mem_append]
          exact or_congr_right (hakin.refused node_id hnode))
    exact ⟨hresult, fun _ _ => hafter⟩

/-- The refusal of a lease by its node ends alike, and the work has the lease of the decision. -/
theorem refuse_and_reassign_alike (now lease_seconds : ℚ) (halike : Alike work left right) {lease : WorkLease}
    (hlease : left.leases.get? work = some lease) {reason : String} (hreason : ¬ Blank reason) :
    (left.refuse_and_reassign work lease.node_id reason now lease_seconds).1 =
        (right.refuse_and_reassign work lease.node_id reason now lease_seconds).1 ∧
      Alike work (left.refuse_and_reassign work lease.node_id reason now lease_seconds).2
        (right.refuse_and_reassign work lease.node_id reason now lease_seconds).2 ∧
      (left.refuse_and_reassign work lease.node_id reason now lease_seconds).2.leases.get? work =
        lease_of (left.refuse_and_reassign work lease.node_id reason now lease_seconds).1 := by
  obtain ⟨requirement, hget, hleft⟩ := refuse_and_reassign_eq hlease rfl hreason now lease_seconds
  obtain ⟨requirement', hget', hright⟩ :=
    refuse_and_reassign_eq (halike.leases ▸ hlease) rfl hreason now lease_seconds
  have hown := (refuse_and_reassign_placed hlease rfl hreason now lease_seconds).1.own
  cases hget.symm.trans (halike.requirement.trans hget')
  have hwithdrawn : Alike work (left.withdraw work lease.node_id) (right.withdraw work lease.node_id) := by
    refine ⟨⟨halike.registry, ?_, ?_⟩, halike.requirement⟩
    · rw [leases_withdraw, leases_withdraw, halike.leases]
    · intro node_id hnode
      rw [refused_by_withdraw, refused_by_withdraw, if_pos rfl, if_pos rfl, List.mem_insert_iff, List.mem_insert_iff]
      exact or_congr_right (halike.refused node_id hnode)
  obtain ⟨hresult, hafter⟩ := place_locked_alike now lease_seconds hwithdrawn
    (recorded_of_get? (left.withdraw work lease.node_id) hget)
    (recorded_of_get? (right.withdraw work lease.node_id) hget') hwithdrawn.refused
  refine ⟨?_, ?_, hown⟩
  · rw [hleft, hright]
    unfold reassign_locked
    dsimp only
    rw [hresult]
  · rw [hleft, hright]
    exact hafter

end velvet.distributed_work_coordinator.DistributedWorkCoordinator

namespace velvet.body_capacity.ResourceAwareWorkCoordinator

open velvet.distributed_work_coordinator

variable [StrLower] {work : String} {now lease_seconds : ℚ}

/-- The same, with the same resource view and the same resource requirements of the work. -/
structure Alike (work : String) (left right : ResourceAwareWorkCoordinator) : Prop where
  coordinator : DistributedWorkCoordinator.Alike work left.coordinator right.coordinator
  resources : left.resources = right.resources
  requirements : left.requirements_of work = right.requirements_of work

/-- The lease of a decision is the one that the work holds. -/
def Decided (work : String) (decision : WorkPlacementDecision) (left right : ResourceAwareWorkCoordinator) : Prop :=
  Alike work left right ∧ left.coordinator.leases.get? work = decision.lease

variable {left right : ResourceAwareWorkCoordinator}

theorem agree_coordinate {α : Type} {relates : α → ResourceAwareWorkCoordinator → ResourceAwareWorkCoordinator → Prop}
    {method : DistributedWorkCoordinator → Except Error α × DistributedWorkCoordinator}
    (hsame : (method left.coordinator).1 = (method right.coordinator).1)
    (hrelates : ∀ value, (method left.coordinator).1 = .ok value →
      relates value { left with coordinator := (method left.coordinator).2 }
        { right with coordinator := (method right.coordinator).2 }) :
    Agree relates (coordinate method) (coordinate method) left right := by
  unfold coordinate
  apply agree_get
  apply agree_set
  rw [← hsame]
  exact agree_of_except _ hrelates

theorem agree_meets (halike : Alike work left right) (node_id : String) (requirements : List ResourceRequirement) :
    Agree (fun _ left' right' => Alike work left' right' ∧ left'.coordinator = left.coordinator)
      (meets node_id requirements) (meets node_id requirements) left right := by
  unfold meets
  apply agree_get
  rw [← halike.coordinator.registry, ← halike.resources]
  cases left.coordinator.registry.get node_id with
  | none => exact agree_pure ⟨halike, rfl⟩
  | some node =>
    apply agree_set
    exact agree_pure ⟨⟨halike.coordinator, rfl, halike.requirements⟩, rfl⟩

/-- A refusal by the node of the lease. -/
theorem agree_coordinate_refuse (halike : Alike work left right) {lease : WorkLease}
    (hlease : left.coordinator.leases.get? work = some lease) {reason : String} (hreason : ¬ Blank reason) :
    Agree (Decided work)
      (coordinate (fun coordinator => coordinator.refuse_and_reassign work lease.node_id reason now lease_seconds))
      (coordinate (fun coordinator => coordinator.refuse_and_reassign work lease.node_id reason now lease_seconds))
      left right := by
  obtain ⟨hresult, hafter, hown⟩ := DistributedWorkCoordinator.refuse_and_reassign_alike now
    lease_seconds halike.coordinator hlease hreason
  refine agree_coordinate hresult ?_
  intro decision hdecision
  rw [hdecision] at hown
  exact ⟨⟨hafter, halike.resources, halike.requirements⟩, hown⟩

theorem agree_ensure_resource_eligible (attempts : Nat) (current : WorkPlacementDecision)
    {left right : ResourceAwareWorkCoordinator} (hdecided : Decided work current left right) :
    Agree (Decided work) (ensure_resource_eligible now lease_seconds attempts current)
      (ensure_resource_eligible now lease_seconds attempts current) left right := by
  induction attempts generalizing current left right with
  | zero => exact agree_pure hdecided
  | succ attempts ih =>
    unfold ensure_resource_eligible
    cases hlease : current.lease with
    | none => exact agree_pure hdecided
    | some lease =>
      obtain ⟨halike, hown⟩ := hdecided
      rw [hlease] at hown
      have hwork : lease.work_id = work := (left.coordinator.record_of_lease hown).work_id_eq
      apply agree_get
      rw [hwork, ← halike.requirements]
      split
      · exact agree_pure ⟨halike, hown.trans hlease.symm⟩
      · refine (agree_meets halike lease.node_id _).bind ?_
        rintro eligible left' right' ⟨halike', hcoordinator⟩
        rw [← hcoordinator] at hown
        split
        · exact agree_pure ⟨halike', hown.trans hlease.symm⟩
        · refine (agree_coordinate_refuse halike' hown (by decide)).bind ?_
          intro next left'' right'' hnext
          exact ih next hnext

theorem agree_refuse_and_reassign (halike : Alike work left right) {lease : WorkLease}
    (hlease : left.coordinator.leases.get? work = some lease) {reason : String} (hreason : ¬ Blank reason) :
    Agree (Decided work) (refuse_and_reassign work lease.node_id reason now lease_seconds)
      (refuse_and_reassign work lease.node_id reason now lease_seconds) left right := by
  unfold refuse_and_reassign
  refine (agree_coordinate_refuse halike hlease hreason).bind ?_
  intro decision left' right' hdecided
  apply agree_get
  have hattempts : left'.max_attempts = right'.max_attempts := by
    unfold max_attempts
    rw [hdecided.1.coordinator.registry]
  rw [← hattempts]
  exact agree_ensure_resource_eligible _ decision hdecided

/-- Placement of a work without a lease. -/
theorem agree_place (hakin : DistributedWorkCoordinator.Akin work left.coordinator right.coordinator)
    (hresources : left.resources = right.resources) {requirement : WorkRequirement}
    (hwork : normalized requirement.work_id = work) (hnone : left.coordinator.leases.get? work = none)
    (resource_requirements : List ResourceRequirement) (exclude_nodes : List String) :
    Agree (Decided work) (place requirement resource_requirements now lease_seconds exclude_nodes)
      (place requirement resource_requirements now lease_seconds exclude_nodes) left right := by
  have hrecords : ∀ inner : ResourceAwareWorkCoordinator,
      ((inner.requirements.set work resource_requirements).get? (normalized work)).getD [] =
        resource_requirements := by
    intro inner
    rw [← hwork, normalized_normalized, Dict.get?_set_self]
    rfl
  unfold place
  apply agree_get
  rw [← hakin.registry, ← hresources]
  apply agree_set
  obtain ⟨hresult, hafter⟩ := DistributedWorkCoordinator.place_alike now lease_seconds hakin hwork hnone
    (sorted_set ((exclude_nodes.map normalized).filter (· ≠ "") ++
      (if resource_requirements = [] then ([], left.resources)
        else unmet_nodes resource_requirements left.coordinator.registry.snapshot left.resources).1))
  refine agree_coordinate hresult ?_
  intro decision hdecision
  obtain ⟨halike, hown⟩ := hafter decision hdecision
  refine ⟨⟨halike, rfl, ?_⟩, hown⟩
  rw [hwork]
  exact (hrecords left).trans (hrecords right).symm

end velvet.body_capacity.ResourceAwareWorkCoordinator

namespace velvet.resource_aware_work_proposals.LiveResourceAwareCoordinator

open velvet.distributed_work_coordinator velvet.body_capacity

variable [StrLower] {work : String} {now lease_seconds : ℚ}

/-- The same, with the same reservations. -/
structure Alike (work : String) (left right : LiveResourceAwareCoordinator) : Prop where
  inner : ResourceAwareWorkCoordinator.Alike work left.resource_coordinator right.resource_coordinator
  resource_service : left.resource_service = right.resource_service
  reservations : left.reservations = right.reservations

def Decided (work : String) (decision : WorkPlacementDecision) (left right : LiveResourceAwareCoordinator) : Prop :=
  Alike work left right ∧ left.lease_at work = decision.lease

variable {left right : LiveResourceAwareCoordinator}

theorem run_within {α : Type} (call : Program Error ResourceAwareWorkCoordinator α)
    (self : LiveResourceAwareCoordinator) :
    (within call).run self = match call.run self.resource_coordinator with
      | .ok value inner => .ok value (self.set_resource_coordinator inner)
      | .error error inner => .error error (self.set_resource_coordinator inner) := rfl

/-- A call within two live coordinators with the same resource view and reservations. -/
theorem agree_within {call : Program Error ResourceAwareWorkCoordinator WorkPlacementDecision}
    (hservice : left.resource_service = right.resource_service) (hreservations : left.reservations = right.reservations)
    (hagree : Agree (ResourceAwareWorkCoordinator.Decided work) call call left.resource_coordinator
      right.resource_coordinator) :
    Agree (Decided work) (within call) (within call) left right := by
  unfold Agree
  rw [run_within, run_within]
  rcases hagree with ⟨decision, inner, inner', hfirst, hsecond, hdecided⟩ | ⟨error, inner, inner', hfirst, hsecond⟩
  · rw [hfirst, hsecond]
    refine Or.inl ⟨decision, _, _, rfl, rfl, ⟨hdecided.1, ?_, hreservations⟩, hdecided.2⟩
    change { left.resource_service with registry := inner.resources } =
      { right.resource_service with registry := inner'.resources }
    rw [hservice, hdecided.1.resources]
  · rw [hfirst, hsecond]
    exact Or.inr ⟨error, _, _, rfl, rfl⟩

theorem agree_try_reserve (halike : Alike work left right) (lease : WorkLease)
    (requirements : List ResourceRequirement) :
    Agree (fun _ left' right' => Alike work left' right' ∧ left'.coordinator = left.coordinator)
      (try_reserve lease requirements) (try_reserve lease requirements) left right := by
  unfold try_reserve
  apply agree_get
  rw [← halike.resource_service, ← halike.reservations]
  have hlooked : ∀ registry reservations, Alike work
      { left with resource_service := { left.resource_service with registry }, reservations }
      { right with resource_service := { left.resource_service with registry }, reservations } :=
    fun registry reservations => ⟨⟨halike.inner.coordinator, rfl, halike.inner.requirements⟩, rfl, rfl⟩
  generalize left.resource_service.registry.get lease.node_id = looked
  obtain ⟨advertisement, registry⟩ := looked
  apply agree_set
  cases advertisement with
  | none => exact agree_pure ⟨hlooked registry left.reservations, rfl⟩
  | some advertisement =>
    dsimp only
    generalize left.reservations.reserve (reserve_request lease advertisement requirements) = outcome
    obtain ⟨reserved, reservations⟩ := outcome
    cases reserved with
    | ok reservation =>
      apply agree_set
      exact agree_pure ⟨hlooked registry reservations, rfl⟩
    | error error =>
      dsimp only
      split
      · exact agree_pure ⟨hlooked registry left.reservations, rfl⟩
      · exact agree_throw error

theorem agree_ensure_reserved (attempts : Nat) (current : WorkPlacementDecision)
    {left right : LiveResourceAwareCoordinator} (hdecided : Decided work current left right) :
    Agree (Decided work) (ensure_reserved now lease_seconds attempts current)
      (ensure_reserved now lease_seconds attempts current) left right := by
  induction attempts using Nat.strong_induction_on generalizing current left right with
  | _ attempts ih =>
    unfold ensure_reserved
    cases hlease : current.lease with
    | none => exact agree_pure hdecided
    | some lease =>
      obtain ⟨halike, hown⟩ := hdecided
      rw [hlease] at hown
      have hwork : lease.work_id = work := (left.coordinator.record_of_lease hown).work_id_eq
      apply agree_get
      dsimp only
      rw [hwork, ← halike.inner.requirements]
      split
      · exact agree_pure ⟨halike, hown.trans hlease.symm⟩
      · refine (agree_try_reserve halike lease _).bind ?_
        rintro reserved left' right' ⟨halike', hcoordinator⟩
        have hown' : left'.lease_at work = some lease := by
          rw [lease_at, hcoordinator]
          exact hown
        split
        · exact agree_pure ⟨halike', hown'.trans hlease.symm⟩
        · cases attempts with
          | zero => exact agree_throw _
          | succ attempts =>
            refine (agree_within halike'.resource_service halike'.reservations
              (ResourceAwareWorkCoordinator.agree_refuse_and_reassign halike'.inner hown' (by decide))).bind ?_
            intro next left'' right'' hnext
            exact ih attempts (Nat.lt_succ_self attempts) next hnext

theorem agree_reserved {decision : WorkPlacementDecision} (hdecided : Decided work decision left right) :
    Agree (Decided work) (reserved now lease_seconds decision) (reserved now lease_seconds decision) left right := by
  unfold reserved
  apply agree_get
  have hattempts : left.resource_coordinator.max_attempts = right.resource_coordinator.max_attempts := by
    unfold ResourceAwareWorkCoordinator.max_attempts
    rw [hdecided.1.inner.coordinator.registry]
  rw [← hattempts]
  exact agree_ensure_reserved _ decision hdecided

/-- Two live coordinators that a placement of the work cannot tell apart. -/
structure Akin (work : String) (left right : LiveResourceAwareCoordinator) : Prop where
  coordinator : DistributedWorkCoordinator.Akin work left.coordinator right.coordinator
  resource_service : left.resource_service = right.resource_service
  reservations : left.reservations = right.reservations
  declared : left.declared.get? work = right.declared.get? work

theorem agree_prune (hakin : Akin work left right) :
    Agree (fun _ left' right' => Akin work left' right' ∧ left'.coordinator = left.coordinator) (prune now) (prune now)
      left right := by
  unfold prune
  apply agree_get
  rw [← hakin.resource_service]
  generalize left.resource_service.prune (.finite now) = outcome
  obtain ⟨pruned, resource_service⟩ := outcome
  apply agree_set
  apply agree_of_except_bind
  intro _ _
  apply agree_get
  dsimp only
  rw [← hakin.reservations]
  generalize left.reservations.prune now = outcome
  obtain ⟨expired, reservations⟩ := outcome
  apply agree_set
  apply agree_of_except_bind
  intro _ _
  exact agree_pure ⟨⟨hakin.coordinator, rfl, rfl, hakin.declared⟩, rfl⟩

/-- Placement of a work without a lease ends alike. -/
theorem agree_place (hakin : Akin work left right) {requirement : WorkRequirement}
    (hwork : normalized requirement.work_id = work) (hnone : left.lease_at work = none)
    (exclude_nodes : List String) :
    Agree (Decided work) (place requirement now lease_seconds exclude_nodes)
      (place requirement now lease_seconds exclude_nodes) left right := by
  unfold place
  refine (agree_prune hakin).bind ?_
  rintro _ left' right' ⟨hakin', hcoordinator⟩
  apply agree_get
  dsimp only
  rw [hwork, ← hakin'.declared]
  apply agree_set
  have hplaced : Agree (Decided work)
      (within (ResourceAwareWorkCoordinator.place requirement ((left'.declared.get? work).getD []) now lease_seconds
        exclude_nodes))
      (within (ResourceAwareWorkCoordinator.place requirement ((left'.declared.get? work).getD []) now lease_seconds
        exclude_nodes))
      { left' with declared := left'.declared.pop work } { right' with declared := right'.declared.pop work } := by
    refine agree_within hakin'.resource_service hakin'.reservations
      (ResourceAwareWorkCoordinator.agree_place hakin'.coordinator ?_ hwork ?_ _ exclude_nodes)
    · exact congrArg (·.registry) hakin'.resource_service
    · change left'.coordinator.leases.get? work = none
      rw [hcoordinator]
      exact hnone
  refine hplaced.bind ?_
  intro decision left'' right'' hdecided
  exact agree_reserved hdecided

end velvet.resource_aware_work_proposals.LiveResourceAwareCoordinator
