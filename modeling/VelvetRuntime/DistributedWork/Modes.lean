import VelvetRuntime.DistributedWork.LiveHolders

open python python.str python.num

namespace velvet.distributed_work_coordinator

/-- What the mode of a placement says about the capabilities it matches and misses. -/
structure ModeLaw (requirement : WorkRequirement) (mode : PlacementMode) (matched missing : List String) : Prop where
  full : mode ∈ [.PRIMARY, .QUEEN_FALLBACK, .OVERFLOW, .TEMPORARY_ABSORPTION] ↔
    missing = [] ∧ matched = sorted_set requirement.required_capabilities
  partly : mode = .PARTIAL → matched ≠ [] ∧ missing ≠ [] ∧ matched.Disjoint missing ∧
    ∀ capability, capability ∈ requirement.required_capabilities ↔ capability ∈ matched ∨ capability ∈ missing
  observe_only : mode = .OBSERVE_ONLY → ∀ capability ∈ requirement.required_capabilities, capability ∈ missing

/-- The node has all that is required in its overflow and temporary capabilities together, but not with only one of
them beside its own, and the work would take a partial result. -/
def OnlyJointlyCovered (requirement : WorkRequirement) (node : NodeAdvertisement) : Prop :=
  requirement.allow_partial = true ∧ requirement.partial_result_useful = true ∧
    (requirement.allow_overflow && node.overflow_capable) = true ∧ requirement.allow_temporary_absorption = true ∧
    requirement.required_capabilities ⊆
      node.capabilities ++ node.overflow_capabilities ++ node.temporary_absorption_capabilities ∧
    ¬ requirement.required_capabilities ⊆ node.capabilities ++ node.overflow_capabilities ∧
    ¬ requirement.required_capabilities ⊆ node.capabilities ++ node.temporary_absorption_capabilities

variable {requirement : WorkRequirement} {node : NodeAdvertisement}

theorem sorted_set_required_ne_nil (requirement : WorkRequirement) :
    sorted_set requirement.required_capabilities ≠ [] :=
  fun hempty => requirement.required_nonempty (sorted_set_eq_nil_iff.mp hempty)

/-- A full match obeys the law. -/
theorem modeLaw_full {mode : PlacementMode}
    (hmode : mode ∈ [PlacementMode.PRIMARY, .QUEEN_FALLBACK, .OVERFLOW, .TEMPORARY_ABSORPTION]) :
    ModeLaw requirement mode (sorted_set requirement.required_capabilities) [] := by
  refine ⟨iff_of_true hmode ⟨rfl, rfl⟩, ?_, ?_⟩
  · rintro rfl
    simp at hmode
  · rintro rfl
    simp at hmode

theorem modeLaw_observe_only (capability : String) :
    ModeLaw requirement .OBSERVE_ONLY [capability] (sorted_set requirement.required_capabilities) := by
  refine ⟨iff_of_false (by simp) ?_, by simp, fun _ other hother => mem_sorted_set.mpr hother⟩
  rintro ⟨hempty, _⟩
  exact sorted_set_required_ne_nil requirement hempty

/-- A partial match obeys the law, exactly when something is missing. -/
theorem modeLaw_partial_iff {pool : List String}
    (hmatched : requirement.required_capabilities.filter (· ∈ pool) ≠ []) :
    ModeLaw requirement .PARTIAL (sorted_set (requirement.required_capabilities.filter (· ∈ pool)))
      (sorted_set (requirement.required_capabilities.filter (· ∉ pool))) ↔
      ¬ requirement.required_capabilities ⊆ pool := by
  have hmissing : sorted_set (requirement.required_capabilities.filter (· ∉ pool)) = [] ↔
      requirement.required_capabilities ⊆ pool := by
    rw [sorted_set_eq_nil_iff, List.filter_eq_nil_iff]
    simp [List.subset_def]
  constructor
  · intro hlaw hcovered
    exact (hlaw.partly rfl).2.1 (hmissing.mpr hcovered)
  · intro huncovered
    refine ⟨iff_of_false (by simp) fun hall => huncovered (hmissing.mp hall.1), fun _ => ⟨?_, ?_, ?_, ?_⟩, by simp⟩
    · rwa [Ne, sorted_set_eq_nil_iff]
    · rwa [Ne, hmissing]
    · intro capability hin hout
      rw [mem_sorted_set, List.mem_filter] at hin hout
      simp_all
    · intro capability
      rw [mem_sorted_set, mem_sorted_set, List.mem_filter, List.mem_filter]
      by_cases hpool : capability ∈ pool
      · simp [hpool]
      · simp [hpool]

/-- The capabilities that the node has for this work while overflow is allowed. -/
def overflow_pool (requirement : WorkRequirement) (node : NodeAdvertisement) : List String :=
  if requirement.allow_overflow && node.overflow_capable then node.capabilities ++ node.overflow_capabilities
  else node.capabilities

/-- The capabilities that the node has for this work while temporary absorption is allowed. -/
def temporary_pool (requirement : WorkRequirement) (node : NodeAdvertisement) : List String :=
  if requirement.allow_temporary_absorption then node.capabilities ++ node.temporary_absorption_capabilities
  else node.capabilities

/-- Only joint coverage, in terms of the pools: together they cover the requirement, and none is enough. -/
theorem onlyJointlyCovered_iff : OnlyJointlyCovered requirement node ↔
    (requirement.allow_partial = true ∧ requirement.partial_result_useful = true ∧
      requirement.required_capabilities ⊆ overflow_pool requirement node ++ temporary_pool requirement node) ∧
    ¬ requirement.required_capabilities ⊆ node.capabilities ∧
    ¬ ((requirement.allow_overflow && node.overflow_capable) = true ∧
      requirement.required_capabilities ⊆ overflow_pool requirement node) ∧
    ¬ (requirement.allow_temporary_absorption = true ∧
      requirement.required_capabilities ⊆ temporary_pool requirement node) := by
  unfold OnlyJointlyCovered overflow_pool temporary_pool
  cases hoverflow : requirement.allow_overflow && node.overflow_capable with
  | false =>
    cases htemporary : requirement.allow_temporary_absorption with
    | false => simp [List.subset_def]
    | true =>
      simp only [Bool.false_eq_true, false_and, and_false, if_false, if_true, true_and, false_iff, not_and, not_not,
        not_false_eq_true]
      rintro ⟨_, _, hcovered⟩ _ capability hcapability
      have := hcovered hcapability
      simp only [List.mem_append] at this ⊢
      tauto
  | true =>
    cases htemporary : requirement.allow_temporary_absorption with
    | false =>
      simp only [Bool.false_eq_true, false_and, and_false, if_false, if_true, true_and, false_iff, not_and, not_not,
        not_false_eq_true, and_true]
      rintro ⟨_, _, hcovered⟩ _ capability hcapability
      have := hcovered hcapability
      simp only [List.mem_append] at this ⊢
      tauto
    | true =>
      have hunion : ∀ capability, capability ∈ node.capabilities ++ node.overflow_capabilities ++
          node.temporary_absorption_capabilities ↔ capability ∈ node.capabilities ++ node.overflow_capabilities ++
            (node.capabilities ++ node.temporary_absorption_capabilities) := by
        intro capability
        simp only [List.mem_append]
        tauto
      simp only [if_true, true_and, List.subset_def, hunion]
      constructor
      · rintro ⟨hallows, huseful, hcovered, hoverflow, htemporary⟩
        refine ⟨⟨hallows, huseful, hcovered⟩, ?_, hoverflow, htemporary⟩
        exact fun hnormal => hoverflow fun hcapability => List.mem_append_left _ (hnormal hcapability)
      · rintro ⟨⟨hallows, huseful, hcovered⟩, _, hoverflow, htemporary⟩
        exact ⟨hallows, huseful, hcovered, hoverflow, htemporary⟩

/-- The mode that a node is given obeys the law, unless the node covers the requirement only jointly. -/
theorem placement_mode_law_iff {mode : PlacementMode} {matched missing : List String}
    (hmode : placement_mode requirement node = some (mode, matched, missing)) :
    ModeLaw requirement mode matched missing ↔ ¬ OnlyJointlyCovered requirement node := by
  unfold placement_mode at hmode
  dsimp only at hmode
  rw [← overflow_pool, ← temporary_pool] at hmode
  rw [onlyJointlyCovered_iff]
  generalize overflow_pool requirement node ++ temporary_pool requirement node = fallback_pool at hmode ⊢
  by_cases hnormal : requirement.required_capabilities ⊆ node.capabilities
  · rw [if_pos hnormal] at hmode
    cases hmode
    refine iff_of_true (modeLaw_full ?_) (fun hjointly => hjointly.2.1 hnormal)
    split
    · simp
    · simp
  by_cases hoverflow : (requirement.allow_overflow && node.overflow_capable) = true ∧
      requirement.required_capabilities ⊆ overflow_pool requirement node
  · rw [if_neg hnormal, if_pos hoverflow] at hmode
    cases hmode
    exact iff_of_true (modeLaw_full (by simp)) (fun hjointly => hjointly.2.2.1 hoverflow)
  by_cases htemporary : requirement.allow_temporary_absorption = true ∧
      requirement.required_capabilities ⊆ temporary_pool requirement node
  · rw [if_neg hnormal, if_neg hoverflow, if_pos htemporary] at hmode
    cases hmode
    exact iff_of_true (modeLaw_full (by simp)) (fun hjointly => hjointly.2.2.2 htemporary)
  rw [if_neg hnormal, if_neg hoverflow, if_neg htemporary] at hmode
  split at hmode
  · rename_i hallows
    obtain ⟨hallowed, huseful, hmatched⟩ := hallows
    cases hmode
    rw [modeLaw_partial_iff hmatched]
    simp only [hallowed, huseful, hnormal, hoverflow, htemporary, true_and, and_true, not_false_eq_true]
  · rename_i hnot
    -- what is required and covered would be matched
    have hjointly : ¬ (requirement.allow_partial = true ∧ requirement.partial_result_useful = true ∧
        requirement.required_capabilities ⊆ fallback_pool) := by
      rintro ⟨hallowed, huseful, hcovered⟩
      refine hnot ⟨hallowed, huseful, ?_⟩
      rw [List.filter_eq_self.mpr (fun capability hcapability => by simpa using hcovered hcapability)]
      exact requirement.required_nonempty
    cases hobserve : requirement.observe_only_capability with
    | none =>
      rw [hobserve] at hmode
      cases hmode
    | some capability =>
      rw [hobserve] at hmode
      dsimp only at hmode
      split at hmode
      · cases hmode
        exact iff_of_true (modeLaw_observe_only capability) (fun hall => hjointly hall.1)
      · cases hmode

namespace DistributedWorkCoordinator

section

variable [StrLower]

/-- The lease stands for what placement makes of its node for the requirement. -/
def Serves (registry : VerifiedNodeRegistry) (requirement : WorkRequirement) (lease : WorkLease) : Prop :=
  ∃ node, registry.get lease.node_id = some node ∧
    placement_mode requirement node = some (lease.mode, lease.matched_capabilities, lease.missing_capabilities)

variable {self : DistributedWorkCoordinator}

theorem serves_of_placed {requirement : WorkRequirement} {hrecorded : self.Recorded requirement}
    {now lease_seconds : ℚ} {excluded : List String} {decision : WorkPlacementDecision} {lease : WorkLease}
    (hdecision : (self.place_locked requirement hrecorded now lease_seconds excluded).1 = .ok decision)
    (hlease : decision.lease = some lease) :
    lease.work_id = normalized requirement.work_id ∧ Serves self.registry requirement lease := by
  obtain ⟨chosen, hmem, hissued⟩ := chosen_of_placed hdecision hlease
  obtain ⟨node, hnode, _, _, hcandidate⟩ := (self.mem_candidates_iff _ _ _).mp (mem_ranked hmem)
  obtain ⟨⟨mode, matched, missing⟩, hmode, rfl⟩ := Option.map_eq_some_iff.mp hcandidate
  refine ⟨(new_lease_ok hissued).1, node, ?_, ?_⟩
  · unfold VerifiedNodeRegistry.get
    rw [(new_lease_ok hissued).2.1, normalized_normalized]
    exact VerifiedNodeRegistry.mem_snapshot_iff.mp hnode
  · unfold new_lease at hissued
    split at hissued
    · cases hissued
      exact hmode
    · cases hissued

variable {lease : WorkLease} {now lease_seconds : ℚ}

theorem serves_of_reassigned {work node reason : String} {requirement : WorkRequirement}
    {hget : self.requirements.get? work = some requirement} {decision : WorkPlacementDecision}
    (hdecision : (self.reassign_locked work node reason requirement hget now lease_seconds).1 = .ok decision)
    (hlease : decision.lease = some lease) : lease.work_id = work ∧ Serves self.registry requirement lease := by
  obtain ⟨placed, hplaced, rfl⟩ := except.map_eq_ok.mp hdecision
  have hserves := @serves_of_placed _ (self.withdraw work node) requirement
    (recorded_of_get? (self.withdraw work node) hget) now lease_seconds _ placed lease hplaced hlease
  rw [self.requirement_keyed hget] at hserves
  exact hserves

/-- Every pass of the loop has the registry and the requirements that the loop starts with. -/
theorem recovery_turns_frame (now lease_seconds : ℚ) (affected : List (String × WorkLease)) :
    ∀ turn ∈ self.recovery_turns now lease_seconds affected,
      turn.coordinator.registry = self.registry ∧ turn.coordinator.requirements = self.requirements := by
  induction affected generalizing self with
  | nil => simp [recovery_turns]
  | cons entry rest ih =>
    obtain ⟨work_id, old_lease⟩ := entry
    unfold recovery_turns
    split
    · exact @ih (self.pop_lease work_id)
    · rename_i requirement hget
      have hresult := RecoveryTurn.reassign_result ⟨self, work_id, old_lease, requirement, hget⟩ now lease_seconds
      dsimp only
      rw [List.forall_mem_cons]
      refine ⟨⟨rfl, rfl⟩, fun turn hturn => ?_⟩
      obtain ⟨hregistry, hrequirements⟩ := ih turn hturn
      exact ⟨hregistry.trans hresult.registry_eq, hrequirements.trans hresult.leases.2.2.2⟩

/-- The lease serves the requirement on record for its work. -/
def ServesRecorded (self : DistributedWorkCoordinator) (lease : WorkLease) : Prop :=
  ∃ requirement, self.requirements.get? lease.work_id = some requirement ∧ Serves self.registry requirement lease

omit [StrLower] in
theorem mem_issued_by {call : Except Error WorkPlacementDecision} (hmem : lease ∈ issued_by call) :
    ∃ decision, call = .ok decision ∧ decision.state ≠ "already_leased" ∧ decision.lease = some lease := by
  cases call with
  | error error => cases hmem
  | ok decision =>
    obtain ⟨_, hdecision, hlease⟩ := List.mem_filterMap.mp hmem
    rw [List.mem_singleton.mp hdecision] at hlease
    unfold issued_lease at hlease
    split at hlease
    · cases hlease
    · rename_i hstate
      exact ⟨decision, rfl, hstate, hlease⟩

theorem serves_of_place {requirement : WorkRequirement} {exclude_nodes : List String}
    (hmem : lease ∈ issued_by (self.place requirement now lease_seconds exclude_nodes).1) :
    ServesRecorded (self.place requirement now lease_seconds exclude_nodes).2 lease := by
  revert hmem
  unfold place
  dsimp only
  split
  · intro hmem
    obtain ⟨decision, hdecision, _, _⟩ := mem_issued_by hmem
    cases hdecision
  · split
    · intro hmem
      obtain ⟨decision, hdecision, hstate, _⟩ := mem_issued_by hmem
      cases hdecision
      exact absurd rfl hstate
    · intro hmem
      obtain ⟨decision, hdecision, _, hlease⟩ := mem_issued_by hmem
      obtain ⟨hwork, hserves⟩ := serves_of_placed hdecision hlease
      obtain ⟨hregistry, hrequirements⟩ := place_locked_frame
        ((self.expire_leases_locked now).set_requirement requirement) requirement
        (recorded_set_requirement (self.expire_leases_locked now) requirement) now lease_seconds
        ((exclude_nodes.map normalized).filter (· ≠ "") ++
          (self.expire_leases_locked now).refused_by (normalized requirement.work_id))
      refine ⟨requirement, ?_, ?_⟩
      · rw [hrequirements, hwork]
        exact Dict.get?_set_self _ _ _
      · rw [hregistry]
        exact hserves

theorem serves_of_refuse_and_reassign {work_id node_id reason : String}
    (hmem : lease ∈ issued_by (self.refuse_and_reassign work_id node_id reason now lease_seconds).1) :
    ServesRecorded (self.refuse_and_reassign work_id node_id reason now lease_seconds).2 lease := by
  revert hmem
  unfold refuse_and_reassign
  dsimp only
  split
  · intro hmem
    obtain ⟨decision, hdecision, _, _⟩ := mem_issued_by hmem
    cases hdecision
  · split
    · rename_i held requirement hheld hget
      split
      · intro hmem
        obtain ⟨decision, hdecision, _, hlease⟩ := mem_issued_by hmem
        cases hdecision
        cases hlease
      · intro hmem
        obtain ⟨decision, hdecision, _, hlease⟩ := mem_issued_by hmem
        obtain ⟨hwork, hserves⟩ := serves_of_reassigned hdecision hlease
        have hresult := self.reassign_locked_result (normalized node_id)
          (normalized node_id ++ " refused:" ++ normalized reason) hget now lease_seconds
        refine ⟨requirement, ?_, ?_⟩
        · rw [hresult.leases.2.2.2, hwork]
          exact hget
        · rw [hresult.registry_eq]
          exact hserves
    · intro hmem
      obtain ⟨decision, hdecision, _, hlease⟩ := mem_issued_by hmem
      cases hdecision
      cases hlease

theorem serves_of_recovery {now max_heartbeat_age lease_seconds : ℚ}
    (hmem : lease ∈ issued_leases (self.recover_unavailable_nodes now max_heartbeat_age lease_seconds).1) :
    ServesRecorded (self.recover_unavailable_nodes now max_heartbeat_age lease_seconds).2 lease := by
  cases hreturned : (self.recover_unavailable_nodes now max_heartbeat_age lease_seconds).1 with
  | error error =>
    rw [hreturned] at hmem
    cases hmem
  | ok decisions =>
    rw [hreturned] at hmem
    obtain ⟨decision, hdecision, hissued⟩ := List.mem_filterMap.mp hmem
    have hlease : decision.lease = some lease := by
      unfold issued_lease at hissued
      split at hissued
      · cases hissued
      · exact hissued
    cases hfailed : self.failed_nodes now max_heartbeat_age with
    | error error =>
      unfold recover_unavailable_nodes at hreturned
      rw [hfailed] at hreturned
      cases hreturned
    | ok failed =>
      obtain ⟨_, _, hdecided⟩ := recover_unavailable_nodes_turns hfailed lease_seconds
      obtain ⟨turn, hturn, hreassigned⟩ := exists_left_of_forall₂ (hdecided decisions hreturned) hdecision
      obtain ⟨hwork, hserves⟩ := serves_of_reassigned hreassigned hlease
      unfold turns_of_recovery at hturn
      rw [hfailed] at hturn
      obtain ⟨hregistry, hrequirements⟩ := recovery_turns_frame now lease_seconds (self.recovery_leases failed now) turn hturn
      obtain ⟨hloop_registry, hloop_requirements⟩ := recover_works_frame now lease_seconds
        ((self.mark_offline failed).expire_leases_locked now) (self.recovery_leases failed now)
      have hafter : self.recover_unavailable_nodes now max_heartbeat_age lease_seconds =
          recover_works now lease_seconds ((self.mark_offline failed).expire_leases_locked now)
            (self.recovery_leases failed now) := by
        unfold recover_unavailable_nodes
        rw [hfailed]
        rfl
      rw [hafter]
      refine ⟨turn.requirement, ?_, ?_⟩
      · rw [hloop_requirements, ← hrequirements, hwork]
        exact turn.required
      · rw [hloop_registry, ← hregistry]
        exact hserves

/-- Every lease that a call of the coordinator issues serves the requirement on record for its work. -/
theorem serves_of_issued {operation : Operation} (hmem : lease ∈ issued_leases (self.perform operation).1) :
    ServesRecorded (self.perform operation).2 lease := by
  cases operation with
  | register advertisement => cases hmem
  | remove node_id => cases hmem
  | set_availability node_id availability => cases hmem
  | complete work_id node_id => cases hmem
  | place requirement now lease_seconds exclude_nodes => exact serves_of_place hmem
  | refuse_and_reassign work_id node_id reason now lease_seconds => exact serves_of_refuse_and_reassign hmem
  | handoff work_id from_node_id reason now lease_seconds => exact serves_of_refuse_and_reassign hmem
  | recover_unavailable_nodes now max_heartbeat_age lease_seconds => exact serves_of_recovery hmem

/-- A lease that the coordinator issues obeys the law of the modes, exactly when its node does not cover the requirement
only jointly. -/
theorem issued_lease_mode_law_iff (self : DistributedWorkCoordinator) (operation : Operation) (lease : WorkLease)
    (hissued : lease ∈ issued_leases (self.perform operation).1) :
    ∃ requirement node, (self.perform operation).2.requirements.get? lease.work_id = some requirement ∧
      (self.perform operation).2.registry.get lease.node_id = some node ∧
      (ModeLaw requirement lease.mode lease.matched_capabilities lease.missing_capabilities ↔
        ¬ OnlyJointlyCovered requirement node) := by
  obtain ⟨requirement, hrequirement, node, hnode, hmode⟩ := serves_of_issued hissued
  exact ⟨requirement, node, hrequirement, hnode, placement_mode_law_iff hmode⟩

end

open velvet.distributed_work_service (IsNormalized plain_node plain_proposal)

/-- `a` has `x` in its overflow capabilities only, and `y` in its temporary ones only. -/
def split_node : NodeAdvertisement :=
  { plain_node "a" 1 0 .AVAILABLE 2 text_a full_health zero_beat Nat.two_pos with
    overflow_capable := true
    overflow_capabilities := ["x"]
    temporary_absorption_capabilities := ["y"]
    values_text := by decide }

/-- Work that needs the given capabilities, or takes a partial result. -/
def split_requirement (required : List String) (hrequired : required ≠ []) (htext : ∀ value ∈ required, ¬ Blank value) :
    WorkRequirement where
  work_id := "w1"
  work_class := "sensing"
  required_capabilities := required
  preferred_capabilities := []
  min_health := 1 / 2
  max_load := 85 / 100
  allow_overflow := true
  allow_temporary_absorption := true
  allow_partial := true
  partial_result_useful := true
  allow_queen_fallback := true
  observe_only_capability := none
  whole_system_coordination := false
  consequential := false
  work_id_text := by decide
  work_class_text := by decide
  required_nonempty := hrequired
  capabilities_text := by simpa using htext
  observe_only_text := by simp
  min_health_bounds := half_health
  max_load_bounds := usual_load

/-- Work that needs `x` and `z` gets a partial lease on `a`, and the lease obeys the law. -/
theorem partial_lease_obeys :
    letI := StrLower.ascii
    let coordinator := (new (VerifiedNodeRegistry.new "body")).run [.register split_node]
    let operation := Operation.place (split_requirement ["x", "z"] (by decide) (by decide)) 0 60 []
    ∃ lease ∈ issued_leases (coordinator.perform operation).1, lease.mode = .PARTIAL ∧
      ∃ requirement node, (coordinator.perform operation).2.requirements.get? lease.work_id = some requirement ∧
        (coordinator.perform operation).2.registry.get lease.node_id = some node ∧
        (ModeLaw requirement lease.mode lease.matched_capabilities lease.missing_capabilities ↔
          ¬ OnlyJointlyCovered requirement node) := by
  have hissued : letI := StrLower.ascii
      ((issued_leases (((new (VerifiedNodeRegistry.new "body")).run [.register split_node]).perform
        (.place (split_requirement ["x", "z"] (by decide) (by decide)) 0 60 [])).1).map WorkLease.mode) = [.PARTIAL] := by
    with_unfolding_all decide
  let := StrLower.ascii
  have hallows := List.mem_singleton_self PlacementMode.PARTIAL
  rw [← hissued] at hallows
  obtain ⟨lease, hmem, hmode⟩ := List.mem_map.mp hallows
  exact ⟨lease, hmem, hmode, issued_lease_mode_law_iff _ _ lease hmem⟩

/-- Work that needs `x` and `y` gets a partial lease on `a` that misses nothing. -/
theorem partial_lease_misses_nothing :
    letI := StrLower.ascii
    let coordinator := (new (VerifiedNodeRegistry.new "body")).run [.register split_node]
    let requirement := split_requirement ["x", "y"] (by decide) (by decide)
    (issued_leases (coordinator.perform (.place requirement 0 60 [])).1).map
        (fun lease => (lease.mode, lease.matched_capabilities, lease.missing_capabilities)) =
      [(.PARTIAL, ["x", "y"], [])] ∧ ¬ ModeLaw requirement .PARTIAL ["x", "y"] [] := by
  refine ⟨by with_unfolding_all decide, fun hlaw => ?_⟩
  exact (hlaw.partly rfl).2.1 rfl

end DistributedWorkCoordinator

end velvet.distributed_work_coordinator
