import VelvetRuntime.DistributedWork.Attribution
import VelvetRuntime.DistributedWork.Rollback

open python python.str python.num

namespace velvet.distributed_work_coordinator.DistributedWorkCoordinator

open VerifiedNodeRegistry

open velvet.distributed_work_service (FailedNode mem_failed_nodes_iff failed_nodes_ok_iff)

section

variable {requirement : WorkRequirement}

theorem online_of_exclusion_reason {node : NodeAdvertisement} {active_leases : Nat}
    (hreason : exclusion_reason requirement node active_leases = none) :
    node.availability ≠ .OFFLINE ∧ node.availability ≠ .QUARANTINED := by
  have hnot : node.availability ∉ [.SATURATED, .DRAINING, .OFFLINE, .QUARANTINED] := by
    intro hdown
    unfold exclusion_reason at hreason
    cases hbody : node.body_verified <;> cases hcontinuity : node.continuity_verified <;>
      simp only [hbody, hcontinuity, hdown, if_true, Bool.not_true, Bool.not_false, Bool.false_eq_true, if_false,
        reduceCtorEq] at hreason
  constructor
  · intro hoffline
    exact hnot (by simp [hoffline])
  · intro hquarantined
    exact hnot (by simp [hquarantined])

variable [StrLower]

/-- The node is registered and takes part in the work of the body. -/
def Online (registry : VerifiedNodeRegistry) (node_id : String) : Prop :=
  ∃ node, registry.get node_id = some node ∧ node.availability ≠ .OFFLINE ∧ node.availability ≠ .QUARANTINED

/-- The node is online, and its heartbeat is not stale. -/
def Live (registry : VerifiedNodeRegistry) (now max_heartbeat_age : ℚ) (node_id : String) : Prop :=
  ∃ node, registry.get node_id = some node ∧ now - node.last_heartbeat < max_heartbeat_age ∧
    node.availability ≠ .OFFLINE ∧ node.availability ≠ .QUARANTINED

/-- Every lease is held by a registered node. -/
def HoldersRegistered (self : DistributedWorkCoordinator) : Prop :=
  ∀ work lease, self.leases.get? work = some lease → (self.registry.get lease.node_id).isSome = true

variable {self after : DistributedWorkCoordinator}

/-- Work is placed on a node that is online. -/
theorem place_locked_online {requirement : WorkRequirement} {hrecorded : self.Recorded requirement}
    {now lease_seconds : ℚ} {excluded : List String} {decision : WorkPlacementDecision} {lease : WorkLease}
    (hdecision : (self.place_locked requirement hrecorded now lease_seconds excluded).1 = .ok decision)
    (hlease : decision.lease = some lease) : Online self.registry lease.node_id := by
  obtain ⟨chosen, hmem, hissued⟩ := chosen_of_placed hdecision hlease
  obtain ⟨node, hnode, _, hreason, hcandidate⟩ := (self.mem_candidates_iff _ _ _).mp (mem_ranked hmem)
  refine ⟨node, ?_, online_of_exclusion_reason hreason⟩
  unfold VerifiedNodeRegistry.get
  rw [(new_lease_ok hissued).2.1, candidate_node_id hcandidate, normalized_normalized]
  exact mem_snapshot_iff.mp hnode

variable {work node reason : String}

theorem reassign_locked_online {requirement : WorkRequirement}
    {hget : self.requirements.get? work = some requirement} {now lease_seconds : ℚ} {decision : WorkPlacementDecision}
    {lease : WorkLease}
    (hdecision : (self.reassign_locked work node reason requirement hget now lease_seconds).1 = .ok decision)
    (hlease : decision.lease = some lease) : Online self.registry lease.node_id := by
  obtain ⟨placed, hplaced, rfl⟩ := except.map_eq_ok.mp hdecision
  have honline := @place_locked_online _ (self.withdraw work node) requirement
    (recorded_of_get? (self.withdraw work node) hget) now lease_seconds _ placed lease hplaced hlease
  exact honline

theorem ReassignResult.registry_eq {now lease_seconds : ℚ}
    {result : Except Error WorkPlacementDecision × DistributedWorkCoordinator}
    (hresult : ReassignResult self work node reason requirement now lease_seconds result) :
    result.2.registry = self.registry := by
  cases hresult with
  | unplaced => rfl
  | refused => rfl
  | placed => rfl

theorem recover_works_frame (now lease_seconds : ℚ) (self : DistributedWorkCoordinator)
    (affected : List (String × WorkLease)) :
    (self.recover_works now lease_seconds affected).2.registry = self.registry ∧
      (self.recover_works now lease_seconds affected).2.requirements = self.requirements := by
  induction affected generalizing self with
  | nil => exact ⟨rfl, rfl⟩
  | cons entry rest ih =>
    obtain ⟨work_id, old_lease⟩ := entry
    unfold recover_works
    split
    · exact ih _
    · rename_i requirement hget
      have hresult := self.reassign_locked_result old_lease.node_id ("recovery-from:" ++ old_lease.node_id) hget now
        lease_seconds
      have hregistry := hresult.registry_eq
      have hrequirements := hresult.leases.2.2.2
      split
      · rename_i error next hreassigned
        rw [hreassigned] at hregistry hrequirements
        exact ⟨hregistry, hrequirements⟩
      · rename_i decision next hreassigned
        rw [hreassigned] at hregistry hrequirements
        exact ⟨(ih next).1.trans hregistry, (ih next).2.trans hrequirements⟩

/-- What holds of every new lease of a node that is online, and of the leases that a recovery leaves alone, holds of
all leases after the loop. -/
theorem recover_works_holds {now lease_seconds : ℚ} {affected : List (String × WorkLease)} (holds : WorkLease → Prop)
    (hnew : ∀ work lease, NewLease work now lease_seconds lease → Online self.registry lease.node_id → holds lease)
    (hleased : ∀ entry ∈ affected, ∃ requirement, self.requirements.get? entry.1 = some requirement)
    (hkept : ∀ work lease, self.leases.get? work = some lease → work ∉ affected.map Prod.fst → holds lease)
    {decisions : List WorkPlacementDecision}
    (hreturned : (self.recover_works now lease_seconds affected).1 = .ok decisions) (work : String) (lease : WorkLease)
    (hlease : (self.recover_works now lease_seconds affected).2.leases.get? work = some lease) : holds lease := by
  induction affected generalizing self decisions with
  | nil => exact hkept work lease hlease List.not_mem_nil
  | cons entry rest ih =>
    obtain ⟨work_id, old_lease⟩ := entry
    rw [List.forall_mem_cons] at hleased
    obtain ⟨⟨requirement, hget⟩, hrest⟩ := hleased
    rw [recover_works_cons hget] at hreturned hlease
    have hresult := self.reassign_locked_result old_lease.node_id ("recovery-from:" ++ old_lease.node_id) hget now
      lease_seconds
    have hplaced := @reassign_locked_online _ self work_id old_lease.node_id ("recovery-from:" ++ old_lease.node_id)
      requirement hget now lease_seconds
    generalize self.reassign_locked work_id old_lease.node_id ("recovery-from:" ++ old_lease.node_id) requirement hget now
      lease_seconds = result at hresult hplaced hreturned hlease
    obtain ⟨outcome, next⟩ := result
    obtain ⟨hothers, hown, _, hrequirements⟩ := hresult.leases
    have hregistry : next.registry = self.registry := hresult.registry_eq
    cases outcome with
    | error error => cases hreturned
    | ok decision =>
      dsimp only at hreturned hlease
      obtain ⟨remaining, hremaining, _⟩ := except.map_eq_ok.mp hreturned
      refine @ih next (by rwa [hregistry]) (fun entry hentry => by rw [hrequirements]; exact hrest entry hentry) ?_
        remaining hremaining hlease
      -- the lease of this pass is new, and the others are where they were
      intro other held hheld hlater
      by_cases hother : other = work_id
      · subst hother
        have hissued := (hown decision rfl).1.symm.trans hheld
        exact hnew other held ((hown decision rfl).2 held hissued).1 (hplaced rfl hissued)
      · refine hkept other held ((hothers other hother).symm.trans hheld) ?_
        rw [List.map_cons, List.mem_cons, not_or]
        exact ⟨hother, hlater⟩

/-- The nodes that are online once the failed nodes are marked offline are live. -/
theorem live_of_online_marked {now max_heartbeat_age : ℚ} {failed : List String}
    (hfailed : self.failed_nodes now max_heartbeat_age = .ok failed) {node_id : String}
    (honline : Online (self.mark_offline failed).registry node_id) :
    Live (self.mark_offline failed).registry now max_heartbeat_age node_id := by
  obtain ⟨node, hget, havailable⟩ := honline
  refine ⟨node, hget, ?_, havailable⟩
  have hsame : (self.mark_offline failed).registry.nodes.get? (normalized node_id) = some node := hget
  rw [get?_mark_offline (normalized_of_failed hfailed)] at hsame
  split at hsame
  · obtain ⟨old, _, rfl⟩ := Option.map_eq_some_iff.mp hsame
    exact absurd rfl havailable.1
  · rename_i hsound
    rw [mem_failed_nodes_iff hfailed] at hsound
    by_contra hstale
    have hkeyed := keyed_of_get? hsame
    rw [← hkeyed] at hsame
    exact hsound ⟨node, mem_snapshot_iff.mpr hsame, hkeyed, .inl (not_lt.mp hstale)⟩

variable {now max_heartbeat_age lease_seconds : ℚ}

/-- A recovery that returns leaves no lease that has expired, and none with a node that has failed. -/
theorem settled_of_recovery {decisions : List WorkPlacementDecision}
    (hreturned : (self.recover_unavailable_nodes now max_heartbeat_age lease_seconds).1 = .ok decisions)
    {work : String}
    {lease : WorkLease}
    (hlease : (self.recover_unavailable_nodes now max_heartbeat_age lease_seconds).2.leases.get? work = some lease) :
    now < lease.expires_at ∧
      ¬FailedNode (self.recover_unavailable_nodes now max_heartbeat_age lease_seconds).2.registry now max_heartbeat_age
        lease.node_id := by
  unfold recover_unavailable_nodes at hreturned hlease ⊢
  cases hfailed : self.failed_nodes now max_heartbeat_age with
  | error error =>
    rw [hfailed] at hreturned
    cases hreturned
  | ok failed =>
    rw [hfailed] at hreturned hlease
    dsimp only at hreturned hlease ⊢
    rw [(recover_works_frame _ _ _ _).1]
    refine recover_works_holds (fun lease => now < lease.expires_at ∧
      ¬FailedNode (self.mark_offline failed).registry now max_heartbeat_age lease.node_id)
      ?_ ?_ ?_ hreturned work lease hlease
    · intro _ lease hnew honline
      refine ⟨by rw [hnew.expires_at_eq]; exact lt_add_of_pos_right _ hnew.seconds_pos, ?_⟩
      obtain ⟨node, hget, hfresh, hoffline, hquarantined⟩ := live_of_online_marked hfailed honline
      rintro ⟨other, hmem, hid, hdown⟩
      have hother := mem_snapshot_iff.mp hmem
      have hnormal := normalized_normalized other.node_id
      rw [hid] at hother hnormal
      unfold VerifiedNodeRegistry.get at hget
      rw [hnormal, hother] at hget
      cases hget
      exact hdown.elim (fun hstale => absurd hfresh (not_lt.mpr hstale)) fun hdown => hdown.elim hoffline hquarantined
    · rintro ⟨key, held⟩ hmem
      exact (self.record_of_lease ((self.mem_recovery_leases_iff failed now key held).mp hmem).1).required
    · intro key held hheld hunaffected
      rw [expire_leases_get?, Option.filter_eq_some_iff, unexpired_iff] at hheld
      refine ⟨hheld.2, ?_⟩
      rintro ⟨node, hmem, hid, hdown⟩
      have hsound : held.node_id ∉ failed := fun hfails => hunaffected
        (List.mem_map_of_mem ((self.mem_recovery_leases_iff failed now key held).mpr ⟨hheld.1, hheld.2, hfails⟩))
      have hnode := mem_snapshot_iff.mp hmem
      rw [hid, get?_mark_offline (normalized_of_failed hfailed), if_neg hsound, ← hid] at hnode
      exact hsound ((mem_failed_nodes_iff hfailed _).mpr ⟨node, mem_snapshot_iff.mpr hnode, hid, hdown⟩)

/-- A recovery that has returned has nothing to do again: another one at the same time decides nothing and leaves the
tables as they are. -/
theorem recovery_settles {decisions : List WorkPlacementDecision}
    (hreturned : (self.recover_unavailable_nodes now max_heartbeat_age lease_seconds).1 = .ok decisions)
    (seconds : ℚ) :
    let recovered := (self.recover_unavailable_nodes now max_heartbeat_age lease_seconds).2
    let again := recovered.recover_unavailable_nodes now max_heartbeat_age seconds
    again.1 = .ok [] ∧ again.2.leases = recovered.leases ∧ again.2.requirements = recovered.requirements ∧
      again.2.refusals = recovered.refusals := by
  have hage : 0 < max_heartbeat_age := by
    refine (failed_nodes_ok_iff self now max_heartbeat_age).mp ?_
    unfold recover_unavailable_nodes at hreturned
    cases hfailed : self.failed_nodes now max_heartbeat_age with
    | error error =>
      rw [hfailed] at hreturned
      cases hreturned
    | ok failed => exact ⟨failed, rfl⟩
  have hsettled := @settled_of_recovery _ self _ _ _ _ hreturned
  generalize (self.recover_unavailable_nodes now max_heartbeat_age lease_seconds).2 = recovered at hsettled
  obtain ⟨failed, hfailed⟩ := (failed_nodes_ok_iff recovered now max_heartbeat_age).mpr hage
  have hnone : recovered.recovery_leases failed now = [] := by
    refine List.eq_nil_iff_forall_not_mem.mpr fun entry hentry => ?_
    obtain ⟨hlease, _, hfails⟩ := (recovered.mem_recovery_leases_iff _ _ entry.1 entry.2).mp hentry
    exact (hsettled hlease).2 ((mem_failed_nodes_iff hfailed _).mp hfails)
  have hagain : recovered.recover_unavailable_nodes now max_heartbeat_age seconds =
      (.ok [], (recovered.mark_offline failed).expire_leases_locked now) := by
    unfold recover_unavailable_nodes
    rw [hfailed]
    change recover_works now seconds _ (recovered.recovery_leases failed now) = _
    rw [hnone]
    rfl
  dsimp only
  rw [hagain]
  refine ⟨rfl, Dict.eq_of_items (List.filter_eq_self.mpr fun entry hentry => ?_), rfl, rfl⟩
  exact unexpired_iff.mpr (hsettled ((Dict.get?_eq_some_iff _ _ _).mpr hentry)).1

/-- With a positive heartbeat age and a positive duration for the leases, recovery returns. -/
theorem recovery_returns (self : DistributedWorkCoordinator) (now : ℚ) {max_heartbeat_age lease_seconds : ℚ}
    (hage : 0 < max_heartbeat_age) (hseconds : 0 < lease_seconds) :
    ∃ decisions, (self.recover_unavailable_nodes now max_heartbeat_age lease_seconds).1 = .ok decisions := by
  obtain ⟨failed, hfailed⟩ := (failed_nodes_ok_iff self now max_heartbeat_age).mpr hage
  cases hresult : (self.recover_unavailable_nodes now max_heartbeat_age lease_seconds).1 with
  | ok decisions => exact ⟨decisions, rfl⟩
  | error error =>
    rcases self.recover_unavailable_nodes_leases now max_heartbeat_age lease_seconds with
      ⟨_, hsame⟩ | ⟨_, _, _, _, hraises⟩
    · -- it would have withdrawn a work, and the table is as before
      obtain ⟨⟨work, lease⟩, hentry, hlost⟩ := recover_unavailable_nodes_raises hfailed hresult
      have hlease := ((self.mem_recovery_leases_iff failed now work lease).mp hentry).1
      rw [hsame, hlease] at hlost
      cases hlost
    · exact absurd (hraises error hresult).1 (not_le.mpr hseconds)

section

variable (hregistered : self.HoldersRegistered)

include hregistered

/-- Leases that go, and nodes that stay, keep the holders registered. -/
theorem HoldersRegistered.of_subset
    (hleases : ∀ work lease, after.leases.get? work = some lease → self.leases.get? work = some lease)
    (hnodes : ∀ node_id, (self.registry.get node_id).isSome = true → (after.registry.get node_id).isSome = true) :
    after.HoldersRegistered :=
  fun work lease hlease => hnodes _ (hregistered work lease (hleases work lease hlease))

theorem HoldersRegistered.store_lease {lease : WorkLease}
    (hrecord : LeaseOnRecord self.requirements lease.work_id lease) (hissued : Issued self requirement lease) :
    (self.store_lease lease hrecord).HoldersRegistered := by
  intro work held hheld
  rw [leases_store_lease, Dict.get?_set] at hheld
  split at hheld
  · cases hheld
    obtain ⟨node, hnode, hid, _⟩ := hissued.room
    have hget := mem_snapshot_iff.mp hnode
    rw [hid, ← hrecord.node_normal] at hget
    exact Option.isSome_iff_exists.mpr ⟨node, hget⟩
  · exact hregistered work held hheld

theorem HoldersRegistered.withdraw (work node : String) :
    (self.withdraw work node).HoldersRegistered := by
  refine hregistered.of_subset ?_ (fun _ hnode => hnode)
  intro other lease hlease
  rw [leases_withdraw, Dict.get?_pop] at hlease
  split at hlease
  · cases hlease
  · exact hlease

end

variable {issued : List WorkLease}

theorem HoldersRegistered.shift (hregistered : self.HoldersRegistered) (hshift : Shift self issued after) :
    after.HoldersRegistered := by
  cases hshift with
  | availability node_id availability =>
    refine hregistered.of_subset (fun _ _ hlease => hlease) ?_
    intro other hother
    change ((self.registry.set_availability node_id availability).nodes.get? (normalized other)).isSome = true
    rw [get?_set_availability]
    split
    · rw [Option.isSome_map]
      exact hother
    · exact hother
  | dropped keep =>
    refine hregistered.of_subset ?_ (fun _ hnode => hnode)
    intro work lease hlease
    exact (Dict.get?_eq_some_iff _ _ _).mpr (List.mem_of_mem_filter ((Dict.get?_eq_some_iff _ _ _).mp hlease))
  | withdrawn work lease hlease => exact hregistered.withdraw work lease.node_id
  | replaced work old_lease hold requirement lease hrecord hwork hissued =>
    exact (hregistered.withdraw work old_lease.node_id).store_lease hrecord hissued

theorem HoldersRegistered.move (hregistered : self.HoldersRegistered) (hmove : Move self issued after) :
    after.HoldersRegistered := by
  cases hmove with
  | shifted issued after hshift => exact hregistered.shift hshift
  | required requirement hunleased => exact hregistered.of_subset (fun _ _ hlease => hlease) (fun _ hnode => hnode)
  | placed requirement lease hrecord hissued => exact hregistered.store_lease hrecord hissued

theorem HoldersRegistered.moves (hregistered : self.HoldersRegistered) (hmoves : Moves self issued after) :
    after.HoldersRegistered :=
  hmoves.invariant (fun _ _ _ hbefore hmove => hbefore.move hmove) hregistered

theorem HoldersRegistered.complete (hregistered : self.HoldersRegistered) (work_id node_id : String) :
    (self.complete work_id node_id).2.HoldersRegistered := by
  rcases self.complete_cases work_id node_id with hsame | ⟨lease, _, hcompleted⟩
  · rw [hsame]
    exact hregistered
  · rw [hcompleted]
    refine hregistered.of_subset ?_ (fun _ hnode => hnode)
    intro other held hheld
    change (self.leases.pop (normalized work_id)).get? other = some held at hheld
    rw [Dict.get?_pop] at hheld
    split at hheld
    · cases hheld
    · exact hheld

end

end velvet.distributed_work_coordinator.DistributedWorkCoordinator

namespace velvet.distributed_work_service

open DistributedWorkService

open Program velvet.distributed_work_coordinator DistributedWorkCoordinator

section

variable [StrLower]

/-- A registration is receipted, or turned away, or concerns a node that holds no lease. -/
def KeepsHolders (sinks : Sinks) (world : Runtime) : Operation → Prop
  | .register_node advertisement =>
    sinks.receipts world.lifecycle_calls = true ∨
      world.coordinator.registry.rejection_reasons advertisement ≠ [] ∨
      ∀ work lease, world.lease_of work = some lease → lease.node_id ≠ normalized advertisement.node_id
  | _ => True

variable {sinks : Sinks} {world : Runtime}

section

variable (htied : Tied world.toDistributedWorkService) (hregistered : world.coordinator.HoldersRegistered)

include htied hregistered

end

end

/-- `a` holds `w1`, and advertises itself again. -/
def readvertised [StrLower] (hwork : IsNormalized "w1") : List Operation :=
  let node := plain_node "a" 1 0 .AVAILABLE 2 text_a full_health zero_beat Nat.two_pos
  [.register_node node, .submit (plain_proposal "w1" hwork) 0 1000, .register_node node]

theorem readvertised_recovery_settles :
    letI := StrLower.ascii
    let coordinator := (run (sinks_failing_at none none) (start (.new "body")) (readvertised (by decide))).coordinator
    ((coordinator.recover_unavailable_nodes 60 50 60).2.recover_unavailable_nodes 60 50 60).1 = .ok [] := by
  let := StrLower.ascii
  intro coordinator
  obtain ⟨_, hreturned⟩ := @recovery_returns _ coordinator 60 50 60 (by norm_num) (by norm_num)
  exact (recovery_settles hreturned 60).1

end velvet.distributed_work_service
