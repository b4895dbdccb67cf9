import VelvetRuntime.DistributedWork.Modes

open python python.str python.num

namespace velvet.distributed_work_coordinator

open DistributedWorkCoordinator (preferred_group ranked)

variable {mode : PlacementMode}

variable {candidates : List WorkCandidate} {candidate : WorkCandidate} {rank : Nat}

namespace VerifiedNodeRegistry

section

variable [StrLower] {self other : VerifiedNodeRegistry}

/-- Both registries are for the same body and have the same nodes. -/
structure Alike (left right : VerifiedNodeRegistry) : Prop where
  body_id_eq : left.body_id = right.body_id
  lookup : ∀ key, left.nodes.get? key = right.nodes.get? key

theorem get?_register (self : VerifiedNodeRegistry) (node : NodeAdvertisement) (key : String) :
    (self.register node).2.nodes.get? key =
      if self.rejection_reasons node = [] ∧ key = normalized node.node_id then some node
      else self.nodes.get? key := by
  unfold register
  dsimp only
  split
  · rename_i haccepted
    simp only [Dict.get?_set, haccepted, true_and]
  · rename_i hrejected
    simp only [hrejected, false_and, if_false]

theorem body_id_register (self : VerifiedNodeRegistry) (node : NodeAdvertisement) :
    (self.register node).2.body_id = self.body_id := by
  unfold register
  dsimp only
  split
  · rfl
  · rfl

theorem rejection_reasons_congr (hbody : self.body_id = other.body_id) (node : NodeAdvertisement) :
    self.rejection_reasons node = other.rejection_reasons node := by
  unfold rejection_reasons
  rw [hbody]

theorem Alike.register (halike : Alike self other) (node : NodeAdvertisement) :
    Alike (self.register node).2 (other.register node).2 := by
  refine ⟨?_, fun key => ?_⟩
  · rw [body_id_register, body_id_register, halike.body_id_eq]
  · rw [get?_register, get?_register, rejection_reasons_congr halike.body_id_eq, halike.lookup]

end

end VerifiedNodeRegistry

namespace DistributedWorkCoordinator

section

variable [StrLower] {self : DistributedWorkCoordinator}

/-- The decision of a placement, from its ranking. -/
def decision_of (requirement : WorkRequirement) (now lease_seconds : ℚ) (exclusions : List String) :
    List WorkCandidate → Except Error WorkPlacementDecision
  | [] => .ok (unplaced_decision exclusions)
  | chosen :: rest =>
    (new_lease requirement chosen now lease_seconds).map fun lease => placed_decision lease chosen rest exclusions

theorem place_locked_decision (self : DistributedWorkCoordinator) (requirement : WorkRequirement)
    (hrecorded : self.Recorded requirement) (now lease_seconds : ℚ) (excluded : List String) :
    (self.place_locked requirement hrecorded now lease_seconds excluded).1 =
      decision_of requirement now lease_seconds (self.exclusions requirement excluded)
        (ranked (self.candidates requirement excluded)) := by
  unfold place_locked
  split
  · rename_i hranked
    rw [hranked]
    rfl
  · rename_i chosen rest hranked
    refine Eq.trans ?_ (congrArg (decision_of requirement now lease_seconds _) hranked).symm
    have hdecided : ∀ issued, new_lease requirement chosen now lease_seconds = issued →
        decision_of requirement now lease_seconds (self.exclusions requirement excluded) (chosen :: rest) =
          issued.map fun lease => placed_decision lease chosen rest (self.exclusions requirement excluded) := by
      rintro _ rfl
      rfl
    split
    · rename_i error herror
      exact (hdecided _ herror).symm
    · rename_i lease hlease
      exact (hdecided _ hlease).symm

/-- The nodes that a placement leaves out, under their normalised ids. -/
def left_out (self : DistributedWorkCoordinator) (requirement : WorkRequirement) (exclude_nodes : List String) :
    List String :=
  (exclude_nodes.map normalized).filter (· ≠ "") ++ self.refused_by (normalized requirement.work_id)

/-- Placing work without a lease ranks the candidates. -/
theorem place_decision {requirement : WorkRequirement} {now lease_seconds : ℚ} (hseconds : 0 < lease_seconds)
    (hunleased : (self.expire_leases_locked now).leases.get? (normalized requirement.work_id) = none)
    (exclude_nodes : List String) :
    (self.place requirement now lease_seconds exclude_nodes).1 =
      decision_of requirement now lease_seconds
        ((self.expire_leases_locked now).exclusions requirement (self.left_out requirement exclude_nodes))
        (ranked ((self.expire_leases_locked now).candidates requirement (self.left_out requirement exclude_nodes))) := by
  unfold place
  rw [if_neg (not_le.mpr hseconds)]
  dsimp only
  split
  · rename_i existing hexisting
    rw [hunleased] at hexisting
    cases hexisting
  · exact place_locked_decision _ _ _ _ _ _

/-- A candidate for the work: a registered node that is not left out and is eligible, as placement rates it. -/
def Eligible (self : DistributedWorkCoordinator) (requirement : WorkRequirement) (now : ℚ) (exclude_nodes : List String)
    (candidate : WorkCandidate) : Prop :=
  ∃ node, self.registry.get candidate.node_id = some node ∧
    (∀ excluded ∈ exclude_nodes, normalized excluded ≠ candidate.node_id) ∧
    candidate.node_id ∉ self.refused_by (normalized requirement.work_id) ∧
    exclusion_reason requirement node ((self.expire_leases_locked now).active_count candidate.node_id) = none ∧
    candidate_for requirement node ((self.expire_leases_locked now).active_count candidate.node_id) = some candidate

variable {requirement : WorkRequirement} {exclude_nodes : List String}

theorem mem_left_out_iff {node_id : String} (hnonempty : node_id ≠ "") :
    node_id ∉ self.left_out requirement exclude_nodes ↔
      (∀ excluded ∈ exclude_nodes, normalized excluded ≠ node_id) ∧
        node_id ∉ self.refused_by (normalized requirement.work_id) := by
  unfold left_out
  rw [List.mem_append, not_or, List.mem_filter, decide_eq_true_eq, List.mem_map]
  simp only [hnonempty, ne_eq, not_false_eq_true, and_true, not_exists, not_and]

/-- The candidates of a placement are those that are eligible. -/
theorem eligible_iff {now : ℚ} :
    self.Eligible requirement now exclude_nodes candidate ↔
      candidate ∈ (self.expire_leases_locked now).candidates requirement (self.left_out requirement exclude_nodes) := by
  rw [mem_candidates_iff]
  unfold Eligible
  constructor
  · rintro ⟨node, hget, hexcluded, hrefused, hreason, hcandidate⟩
    have hid := candidate_node_id hcandidate
    have hnonempty : candidate.node_id ≠ "" := by
      rw [hid]
      exact fun hempty => node.node_id_text ((normalized_eq_empty_iff _).mp hempty)
    refine ⟨node, ?_, ?_, ?_, ?_⟩
    · unfold VerifiedNodeRegistry.get at hget
      rw [hid, normalized_normalized] at hget
      exact VerifiedNodeRegistry.mem_snapshot_iff.mpr hget
    · rw [← hid]
      exact (mem_left_out_iff hnonempty).mpr ⟨hexcluded, hrefused⟩
    · rw [← hid]
      exact hreason
    · rw [← hid]
      exact hcandidate
  · rintro ⟨node, hnode, hallowed, hreason, hcandidate⟩
    have hid := candidate_node_id hcandidate
    have hnonempty : normalized node.node_id ≠ "" :=
      fun hempty => node.node_id_text ((normalized_eq_empty_iff _).mp hempty)
    obtain ⟨hexcluded, hrefused⟩ := (mem_left_out_iff hnonempty).mp hallowed
    rw [← hid] at hexcluded hrefused hreason hcandidate
    refine ⟨node, ?_, hexcluded, hrefused, hreason, hcandidate⟩
    unfold VerifiedNodeRegistry.get
    rw [hid, normalized_normalized]
    exact VerifiedNodeRegistry.mem_snapshot_iff.mp hnode

/-- Work without a running lease is leased to a node that is eligible for it. -/
theorem eligible_of_place {now lease_seconds : ℚ} {decision : WorkPlacementDecision} {lease : WorkLease}
    (hunleased : (self.expire_leases_locked now).leases.get? (normalized requirement.work_id) = none)
    (hdecision : (self.place requirement now lease_seconds exclude_nodes).1 = .ok decision)
    (hlease : decision.lease = some lease) :
    lease.work_id = normalized requirement.work_id ∧
      ∃ candidate, self.Eligible requirement now exclude_nodes candidate ∧ lease.node_id = candidate.node_id := by
  unfold place at hdecision
  split at hdecision
  · cases hdecision
  · dsimp only at hdecision
    split at hdecision
    · rename_i existing hexisting
      cases hunleased.symm.trans hexisting
    · obtain ⟨chosen, hmem, hissued⟩ := chosen_of_placed hdecision hlease
      exact ⟨(new_lease_ok hissued).1, chosen, eligible_iff.mpr (mem_ranked hmem), (new_lease_ok hissued).2.1⟩

/-- A decision that was made from a ranking: the first of it is chosen and the others are the alternatives, or there is
none and the work is unplaced. -/
structure Follows (decision : WorkPlacementDecision) (ranking : List WorkCandidate) : Prop where
  unplaced : decision.placed = false ↔ ranking = []
  chosen : ∀ lease, decision.lease = some lease → ∃ chosen, ranking.head? = some chosen ∧
    lease.node_id = chosen.node_id ∧ lease.organ = chosen.organ ∧ lease.mode = chosen.mode ∧
    lease.matched_capabilities = chosen.matched_capabilities ∧ lease.missing_capabilities = chosen.missing_capabilities
  alternatives : decision.alternatives = ranking.tail.map WorkCandidate.node_id

theorem follows_decision_of {requirement : WorkRequirement} {now lease_seconds : ℚ} (hseconds : 0 < lease_seconds)
    (exclusions : List String) (ranking : List WorkCandidate) :
    ∃ decision, decision_of requirement now lease_seconds exclusions ranking = .ok decision ∧
      Follows decision ranking := by
  cases ranking with
  | nil =>
    refine ⟨unplaced_decision exclusions, rfl, ⟨iff_of_true rfl rfl, ?_, rfl⟩⟩
    intro lease hlease
    cases hlease
  | cons chosen rest =>
    unfold decision_of new_lease
    dsimp only
    rw [dif_pos (lt_add_of_pos_right now hseconds)]
    refine ⟨_, rfl, ⟨iff_of_false (by simp [placed_decision]) (by simp), ?_, rfl⟩⟩
    intro lease hlease
    cases hlease
    exact ⟨chosen, rfl, rfl, rfl, rfl, rfl, rfl⟩

/-- Placement raises exactly when it refuses the duration of the lease, whatever is excluded. -/
theorem place_returns_iff (self : DistributedWorkCoordinator) (requirement : WorkRequirement) (now lease_seconds : ℚ)
    (exclude_nodes : List String) :
    (∃ decision, (self.place requirement now lease_seconds exclude_nodes).1 = .ok decision) ↔ 0 < lease_seconds := by
  constructor
  · rintro ⟨decision, hdecision⟩
    unfold place at hdecision
    by_contra hseconds
    rw [if_pos (not_lt.mp hseconds)] at hdecision
    cases hdecision
  · intro hseconds
    cases hleased : (self.expire_leases_locked now).leases.get? (normalized requirement.work_id) with
    | none =>
      rw [place_decision hseconds hleased]
      obtain ⟨decision, hdecision, _⟩ := @follows_decision_of _ requirement now lease_seconds hseconds
        ((self.expire_leases_locked now).exclusions requirement (self.left_out requirement exclude_nodes))
        (ranked ((self.expire_leases_locked now).candidates requirement (self.left_out requirement exclude_nodes)))
      exact ⟨decision, hdecision⟩
    | some existing =>
      unfold place
      rw [if_neg (not_le.mpr hseconds)]
      dsimp only
      rw [hleased]
      exact ⟨_, rfl⟩

end

open velvet.distributed_work_service (IsNormalized plain_node plain_proposal)

end DistributedWorkCoordinator

end velvet.distributed_work_coordinator
