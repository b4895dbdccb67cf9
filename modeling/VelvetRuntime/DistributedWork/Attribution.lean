import VelvetRuntime.DistributedWork.Tables

open python python.str velvet.distributed_work_coordinator

namespace velvet.distributed_work_service

open Program DistributedWorkCoordinator

section

variable [StrLower]

/-- Whether a registered node counts as failed at a time: it is stale, offline or quarantined. -/
def FailedNode (registry : VerifiedNodeRegistry) (now max_heartbeat_age : ℚ) (node_id : String) : Prop :=
  ∃ node ∈ registry.snapshot, normalized node.node_id = node_id ∧
    (max_heartbeat_age ≤ now - node.last_heartbeat ∨ node.availability = .OFFLINE ∨
      node.availability = .QUARANTINED)

/-- The nodes that the reasons of a pass name when it finds no node: the failed node itself, and what
follows `recovery-from:` in an exclusion. -/
def named_nodes (turn : RecoveryTurn) : List String :=
  turn.old_lease.node_id :: turn.exclusions.filterMap recovery_node

/-- When recovery can tell whose decision is whose: at every pass that finds no node, the work is the only
one with a lease, running or not, on the nodes that the reasons name. -/
def Attributable (world : Runtime) (now max_heartbeat_age lease_seconds : ℚ) : Prop :=
  0 < max_heartbeat_age ∧
    ∀ turn ∈ world.coordinator.turns_of_recovery now max_heartbeat_age lease_seconds,
      (turn.Replaceable → 0 < lease_seconds) ∧
      (¬ turn.Replaceable → ∀ entry ∈ world.coordinator.leases.items, entry.2.node_id ∈ named_nodes turn →
        entry.1 = turn.work)

instance (world : Runtime) (now max_heartbeat_age lease_seconds : ℚ) :
    Decidable (Attributable world now max_heartbeat_age lease_seconds) :=
  inferInstanceAs (Decidable (_ ∧ ∀ turn ∈ _, (_ → _) ∧ (_ → ∀ entry ∈ _, _ → _)))

variable {failed : List String}

/-- The failed nodes of the coordinator are the registered nodes that count as failed. -/
theorem mem_failed_nodes_iff {coordinator : DistributedWorkCoordinator} {now max_heartbeat_age : ℚ}
    (hfailed : coordinator.failed_nodes now max_heartbeat_age = .ok failed)
    (node_id : String) : node_id ∈ failed ↔ FailedNode coordinator.registry now max_heartbeat_age node_id := by
  unfold failed_nodes VerifiedNodeRegistry.expired_node_ids at hfailed
  split at hfailed
  · cases hfailed
  · cases hfailed
    unfold sorted_set
    rw [(List.perm_insertionSort _ _).mem_iff, List.mem_dedup]
    unfold FailedNode VerifiedNodeRegistry.snapshot
    simp only [List.mem_map, List.mem_append, List.mem_filter, decide_eq_true_eq]
    constructor
    · rintro ⟨value, ⟨entry, ⟨hentry, hstale⟩, rfl⟩ | ⟨node, ⟨⟨entry, hentry, rfl⟩, hdown⟩, rfl⟩, rfl⟩
      · have hkeyed := (coordinator.registry.members entry ((Dict.mem_sorted_items _ _).mp hentry)).keyed
        refine ⟨entry.2, ⟨entry, hentry, rfl⟩, ?_, .inl hstale⟩
        rw [← hkeyed, normalized_normalized]
      · exact ⟨entry.2, ⟨entry, hentry, rfl⟩, rfl, .inr hdown⟩
    · rintro ⟨node, ⟨entry, hentry, rfl⟩, rfl, hstale | hdown⟩
      · have hkeyed := (coordinator.registry.members entry ((Dict.mem_sorted_items _ _).mp hentry)).keyed
        refine ⟨entry.1, .inl ⟨entry, ⟨hentry, hstale⟩, rfl⟩, ?_⟩
        rw [← hkeyed, normalized_normalized]
      · exact ⟨entry.2.node_id, .inr ⟨entry.2, ⟨⟨entry, hentry, rfl⟩, hdown⟩, rfl⟩, rfl⟩

omit [StrLower] in
theorem recovery_node_of_prefix (node_id : String) : recovery_node ("recovery-from:" ++ node_id) = some node_id := by
  unfold recovery_node
  have hlength : "recovery-from:".length = 14 := by decide
  rw [String.toList_append, hlength]
  simp

omit [StrLower] in
theorem recovery_nodes_unplaced (exclusions : List String) (node_id : String) :
    recovery_nodes ((unplaced_decision exclusions).with_reason ("recovery-from:" ++ node_id)) =
      node_id :: exclusions.filterMap recovery_node := by
  have hgeneral : recovery_node "no verified healthy organ can satisfy the work" = none := by decide
  unfold recovery_nodes WorkPlacementDecision.with_reason unplaced_decision
  rw [List.filterMap_cons, recovery_node_of_prefix, List.filterMap_cons, hgeneral]

variable {decision : WorkPlacementDecision} {prior : Dict String WorkLease} {work : String}

omit [StrLower] in
/-- The works that held a lease on the nodes that the reasons name. -/
theorem mem_matches_iff :
    work ∈ (prior.items.filter (fun entry => entry.2.node_id ∈ recovery_nodes decision)).map Prod.fst ↔
      ∃ entry ∈ prior.items, entry.2.node_id ∈ recovery_nodes decision ∧ entry.1 = work := by
  simp only [List.mem_map, List.mem_filter, decide_eq_true_eq, and_assoc]

variable {lease : WorkLease}

omit [StrLower] in
/-- A search that succeeds finds the work itself, which then is the only match. -/
theorem unique_of_work_id_from_recovery_reason {work found : String} (hlease : prior.get? work = some lease)
    (hnamed : lease.node_id ∈ recovery_nodes decision)
    (hfound : work_id_from_recovery_reason decision prior = .ok found) :
    found = work ∧ ∀ entry ∈ prior.items, entry.2.node_id ∈ recovery_nodes decision → entry.1 = work := by
  have hmem := mem_matches_iff.mpr
    ⟨(work, lease), (Dict.get?_eq_some_iff prior work lease).mp hlease, hnamed, rfl⟩
  unfold work_id_from_recovery_reason at hfound
  split at hfound
  · rename_i only honly
    cases hfound
    rw [honly, List.mem_singleton] at hmem
    refine ⟨hmem.symm, ?_⟩
    intro entry hentry hother
    have hentry_mem := mem_matches_iff.mpr ⟨entry, hentry, hother, rfl⟩
    rw [honly, List.mem_singleton] at hentry_mem
    exact hentry_mem.trans hmem.symm
  · cases hfound

omit [StrLower] in
/-- The search finds a work that is the only match. -/
theorem work_id_from_recovery_reason_of_unique (hlease : prior.get? work = some lease)
    (hnamed : lease.node_id ∈ recovery_nodes decision)
    (hunique : ∀ entry ∈ prior.items, entry.2.node_id ∈ recovery_nodes decision → entry.1 = work) :
    work_id_from_recovery_reason decision prior = .ok work := by
  have hmem := mem_matches_iff.mpr
    ⟨(work, lease), (Dict.get?_eq_some_iff prior work lease).mp hlease, hnamed, rfl⟩
  have hnodup : ((prior.items.filter (fun entry => entry.2.node_id ∈ recovery_nodes decision)).map
      Prod.fst).Nodup := prior.nodup.sublist (List.filter_sublist.map _)
  have hsame : ∀ other ∈ (prior.items.filter (fun entry => entry.2.node_id ∈ recovery_nodes decision)).map
      Prod.fst, other = work := by
    intro other hother
    obtain ⟨entry, hentry, hmatch, rfl⟩ := mem_matches_iff.mp hother
    exact hunique entry hentry hmatch
  unfold work_id_from_recovery_reason
  generalize (prior.items.filter (fun entry => entry.2.node_id ∈ recovery_nodes decision)).map Prod.fst =
    found at hmem hnodup hsame
  have hreplicate := List.eq_replicate_of_mem hsame
  have hlength : found.length = 1 := by
    have hpos := List.length_pos_of_mem hmem
    rw [hreplicate, List.nodup_replicate] at hnodup
    omega
  rw [hreplicate, hlength]
  rfl

/-- The decision of a pass is traced back to its own work or to none; it is traced back exactly when a
node was found or no other work held a lease on the nodes that the reasons name. -/
theorem recovered_work_of_turn {turn : RecoveryTurn} {now lease_seconds : ℚ}
    (hdecision : (turn.reassign now lease_seconds).1 = .ok decision)
    (hprior : prior.get? turn.work = some turn.old_lease) :
    (∀ found, recovered_work decision prior = .ok found → found = turn.work) ∧
    ((∃ found, recovered_work decision prior = .ok found) ↔
      (¬ turn.Replaceable → ∀ entry ∈ prior.items, entry.2.node_id ∈ named_nodes turn → entry.1 = turn.work)) := by
  have hresult := turn.reassign_result now lease_seconds
  generalize turn.reassign now lease_seconds = result at hresult hdecision
  unfold recovered_work
  cases hresult with
  | refused hreplaceable hseconds error => cases hdecision
  | placed hreplaceable found lease hlease hnew hnode hrecord =>
    cases hdecision
    rw [hlease]
    refine ⟨?_, fun _ hother => absurd hreplaceable hother, fun _ => ⟨_, rfl⟩⟩
    intro work hwork
    cases hwork
    exact hnew.work_id_eq
  | unplaced hreplaceable =>
    cases hdecision
    have hnodes : recovery_nodes ((unplaced_decision turn.exclusions).with_reason
        ("recovery-from:" ++ turn.old_lease.node_id)) = named_nodes turn := recovery_nodes_unplaced _ _
    have hnamed : turn.old_lease.node_id ∈ recovery_nodes ((unplaced_decision turn.exclusions).with_reason
        ("recovery-from:" ++ turn.old_lease.node_id)) := by simp [hnodes, named_nodes]
    rw [← hnodes]
    refine ⟨fun found hfound => (unique_of_work_id_from_recovery_reason hprior hnamed hfound).1, ?_, ?_⟩
    · rintro ⟨found, hfound⟩ _
      exact (unique_of_work_id_from_recovery_reason hprior hnamed hfound).2
    · intro hunique
      exact ⟨turn.work, work_id_from_recovery_reason_of_unique hprior hnamed (hunique hreplaceable)⟩

variable {sinks : Sinks} {world : Runtime}

variable {now max_heartbeat_age lease_seconds : ℚ} {outcomes : List DistributedWorkServiceOutcome}

theorem failed_nodes_ok_iff (coordinator : DistributedWorkCoordinator) (now max_heartbeat_age : ℚ) :
    (∃ failed, coordinator.failed_nodes now max_heartbeat_age = .ok failed) ↔ 0 < max_heartbeat_age := by
  unfold failed_nodes VerifiedNodeRegistry.expired_node_ids
  split
  · rename_i hage
    constructor
    · rintro ⟨failed, hfailed⟩
      cases hfailed
    · intro hpositive
      exact absurd hpositive (not_lt.mpr hage)
  · rename_i hage
    exact ⟨fun _ => not_le.mp hage, fun _ => ⟨_, rfl⟩⟩

/-- The passes of the loop are about the leases that recovery reads. -/
theorem prior_of_turn
    (hfailed : world.coordinator.failed_nodes now max_heartbeat_age = .ok failed) {turn : RecoveryTurn}
    (hturn : turn ∈ world.coordinator.turns_of_recovery now max_heartbeat_age lease_seconds) :
    world.prior.get? turn.work = some turn.old_lease := by
  have hmem := List.mem_map_of_mem (f := fun turn : RecoveryTurn => (turn.work, turn.old_lease)) hturn
  rw [(recover_unavailable_nodes_turns hfailed lease_seconds).1] at hmem
  rw [prior_get?]
  exact ((world.coordinator.mem_recovery_leases_iff failed now turn.work turn.old_lease).mp hmem).1

variable {decisions : List WorkPlacementDecision}

/-- The loop of `recover` leaves the acceptances of works that none of its decisions is about. -/
theorem recover_decisions_spares (prior : Dict String WorkLease) (decisions : List WorkPlacementDecision)
    (world : Runtime) (hmem : work ∈ world.accepted)
    (hspared : ∀ decision ∈ decisions, recovered_work decision prior ≠ .ok work) :
    wp (recover_decisions sinks prior decisions) (fun _ after => work ∈ after.accepted)
      (fun _ after => work ∈ after.accepted) world := by
  induction decisions generalizing world with
  | nil => exact hmem
  | cons decision rest ih =>
    have hrest := fun next hnext => ih next hnext (fun other hother => hspared other (List.mem_cons_of_mem _ hother))
    unfold recover_decisions
    rw [wp_bind]
    unfold recover_decision
    cases hfound : recovered_work decision prior with
    | error error => exact hmem
    | ok found =>
      have hother : found ≠ work := fun hsame => hspared decision (by simp) (hsame ▸ hfound)
      have hkept : work ∈ discard world.accepted found := mem_discard.mpr ⟨hmem, hother.symm⟩
      dsimp only
      rw [wp_bind]
      apply wp_required_proposal
      · intro proposal _
        cases hold : prior.get? found with
        | none => exact hmem
        | some old_lease =>
          dsimp only
          rw [wp_bind, wp_modify]
          cases hlease : decision.lease with
          | none =>
            dsimp only
            rw [wp_bind]
            apply wp_emit
            · intro _ evidence _ _ _
              rw [wp_pure, wp_bind]
              exact hrest _ hkept
            · intro _ error
              exact hkept
          | some lease =>
            dsimp only
            rw [wp_bind]
            apply wp_emit
            · intro _ evidence _ _ _
              rw [wp_pure, wp_bind]
              exact hrest _ hkept
            · intro _ error
              exact hkept
      · intro _ error
        exact hmem

/-- A work that a recovery decision is traced back to has lost its lease. -/
theorem lease_moved_of_recovered_work
    (hdecisions : (world.coordinator.recover_unavailable_nodes now max_heartbeat_age lease_seconds).1 =
      .ok decisions) (hmem : decision ∈ decisions) (hwork : recovered_work decision world.prior = .ok work)
    (hbefore : world.lease_of work = some lease) :
    (world.coordinator.recover_unavailable_nodes now max_heartbeat_age lease_seconds).2.leases.get? work ≠
      some lease := by
  rcases world.coordinator.recover_unavailable_nodes_leases now max_heartbeat_age lease_seconds with
    ⟨error, herror⟩ | ⟨failed, hfailed, _, hrecovered, _⟩
  · rw [herror] at hdecisions
    cases hdecisions
  · obtain ⟨hmap, _, hdecided⟩ := recover_unavailable_nodes_turns hfailed lease_seconds
    have hleased := hrecovered decisions hdecisions
    rw [← hmap, List.forall₂_map_left_iff] at hleased
    obtain ⟨turn, hturn, hmoved, hreassign⟩ := exists_left_of_forall₂
      (hleased.mp (fun _ _ => And.intro) (hdecided decisions hdecisions)) hmem
    have hprior := prior_of_turn hfailed hturn
    have hsame := (recovered_work_of_turn hreassign hprior).1 work hwork
    rw [prior_get?, ← hsame, hbefore] at hprior
    cases hprior
    intro hafter
    rw [hsame, hmoved.lease_eq] at hafter
    exact hmoved.moved _ hafter rfl

/-- An acceptance lasts as long as its lease does. -/
theorem accepted_of_lease_kept (htied : Tied world.toDistributedWorkService) (operation : Operation)
    (hmem : work ∈ world.accepted) (hbefore : world.lease_of work = some lease)
    (hlease : ((perform sinks operation).after world).lease_of work = some lease) :
    work ∈ ((perform sinks operation).after world).accepted := by
  have heffect := perform_effect sinks htied operation
  generalize hresult : (perform sinks operation).result world = result at heffect
  generalize hafter : (perform sinks operation).after world = after at heffect hlease ⊢
  unfold Runtime.lease_of at hbefore hlease
  cases heffect with
  | unchanged hsame hquiet => rwa [hsame]
  | registered registry htables hquiet => rwa [htables]
  | not_offered hnew hunplaced htables hquiet => rwa [htables]
  | offered decision issued hnew hdecision hissued htables hquiet => rwa [htables]
  | offer_withdrawn decision issued hnew hdecision hissued htables hquiet => rwa [htables]
  | accepted owned hactive howned hnode htables hquiet =>
    rw [htables]
    exact List.mem_insert_of_mem hmem
  | @reassigned work_id node_id reason now lease_seconds _ _ _ owned howned hnode hreason hrefused hrequested htables hquiet =>
    rw [htables] at hlease ⊢
    dsimp only at hlease ⊢
    obtain ⟨_, hok, _⟩ := refusal_leases howned hnode hreason now lease_seconds
    split
    · rename_i decision hdecision
      refine mem_discard.mpr ⟨hmem, ?_⟩
      rintro rfl
      obtain ⟨hown, hmoved⟩ := hok decision hdecision
      cases howned.symm.trans hbefore
      exact (hmoved lease (hown.symm.trans hlease)).2 hnode
    · exact hmem
  | completion_pending owned evidence howned hnode hmember hnone htables hjournal htype hsubject => rwa [htables]
  | @completed work_result _ _ _ owned howned hnode hmember htables hjournal =>
    rw [htables] at hlease ⊢
    dsimp only at hlease ⊢
    refine mem_discard.mpr ⟨hmem, ?_⟩
    rintro rfl
    rw [complete_owned howned hnode] at hlease
    change (world.coordinator.leases.pop work_result.work_id).get? work_result.work_id = _ at hlease
    rw [Dict.get?_pop_self] at hlease
    cases hlease
  | @recovered now max_heartbeat_age lease_seconds _ _ _ accepted htables hsubset hdiscarded hquiet =>
    have hcoordinator := congrArg DistributedWorkService.coordinator htables
    dsimp only at hcoordinator
    rw [hcoordinator] at hlease
    have hwp : wp (perform sinks (.recover now max_heartbeat_age lease_seconds))
        (fun _ after => work ∈ after.accepted) (fun _ after => work ∈ after.accepted) world := by
      unfold perform recover
      rw [wp_bind, wp_get]
      dsimp only
      rw [wp_bind]
      apply wp_call
      · intro decisions hdecisions
        apply recover_decisions_spares
        · exact hmem
        · intro decision hdecision hwork
          exact lease_moved_of_recovered_work hdecisions hdecision hwork hbefore hlease
      · intro error _
        exact hmem
    rw [← hafter]
    exact (wp_result_after (fun _ (after : Runtime) => work ∈ after.accepted)).mp hwp

end

end velvet.distributed_work_service
