import VelvetRuntime.DistributedWork.Moves
import VelvetRuntime.DistributedWork.Tables
import VelvetRuntime.Python.Except

open python python.str python.num
open velvet.distributed_work_service (plain_node plain_proposal)

namespace velvet.distributed_work_coordinator.DistributedWorkCoordinator

section

variable [StrLower]

/-- What holds of a lease that is stored for a work. -/
structure LeaseSound (coordinator : DistributedWorkCoordinator) (work : String) (lease : WorkLease) : Prop where
  work_id_eq : lease.work_id = work
  required : ∃ requirement, coordinator.requirements.get? work = some requirement ∧
    lease.court_authorization_required = requirement.consequential
  not_refused : lease.node_id ∉ coordinator.refused_by work
  degradation_eq : lease.degradation = degradation lease.mode
  not_authorized : lease.court_authorized = false ∧ lease.execution_authorized = false ∧ lease.authority = "none"

def LeasesSound (self : DistributedWorkCoordinator) : Prop :=
  ∀ work lease, self.leases.get? work = some lease → self.LeaseSound work lease

/-- In this call the node loses the work: it refuses it or hands it off, or recovery finds that it has failed. -/
def LosesWork (self : DistributedWorkCoordinator) (work node : String) : Operation → Prop
  | .refuse_and_reassign work_id node_id reason _ _ | .handoff work_id node_id reason _ _ =>
    normalized work_id = work ∧ normalized node_id = node ∧ normalized reason ≠ "" ∧
      ∃ lease, self.leases.get? work = some lease ∧ lease.node_id = node
  | .recover_unavailable_nodes now max_heartbeat_age lease_seconds =>
    (∃ decisions, (self.recover_unavailable_nodes now max_heartbeat_age lease_seconds).1 = .ok decisions) ∧
      ∃ failed lease, self.failed_nodes now max_heartbeat_age = .ok failed ∧ node ∈ failed ∧
        self.leases.get? work = some lease ∧ lease.node_id = node ∧ now < lease.expires_at
  | _ => False

/-- The call completes the work. -/
def Completes (self : DistributedWorkCoordinator) (work : String) : Operation → Prop
  | .complete work_id node_id => normalized work_id = work ∧ (self.complete work_id node_id).1 = true
  | _ => False

/-- No call of the run completes the work. -/
def NeverCompletes (work : String) : DistributedWorkCoordinator → List Operation → Prop
  | _, [] => True
  | self, operation :: rest =>
    ¬ self.Completes work operation ∧ NeverCompletes work (self.perform operation).2 rest

variable {self after : DistributedWorkCoordinator} {issued : List WorkLease}

theorem LeasesSound.withdraw (hsound : self.LeasesSound) (lost node : String) :
    (self.withdraw lost node).LeasesSound := by
  intro work lease hlease
  rw [leases_withdraw, Dict.get?_pop] at hlease
  split at hlease
  · cases hlease
  · rename_i hother
    obtain ⟨hwork, hrequired, hrefused, hdegradation, hflags⟩ := hsound work lease hlease
    refine ⟨hwork, hrequired, ?_, hdegradation, hflags⟩
    rw [refused_by_withdraw, if_neg hother]
    exact hrefused

variable {requirement : WorkRequirement}

theorem LeasesSound.store_lease (hsound : self.LeasesSound) {new_lease : WorkLease}
    (hrecord : LeaseOnRecord self.requirements new_lease.work_id new_lease)
    (hissued : Issued self requirement new_lease) : (self.store_lease new_lease hrecord).LeasesSound := by
  intro work lease hlease
  rw [leases_store_lease, Dict.get?_set] at hlease
  split at hlease
  · rename_i hwork
    cases hlease
    subst hwork
    exact ⟨rfl, ⟨requirement, hissued.recorded, hissued.court_eq⟩, hissued.not_refused, hissued.degradation_eq,
      new_lease.not_authorized.1, new_lease.not_authorized.2,
      new_lease.no_authority⟩
  · obtain ⟨hwork, hrequired, hrefused, hdegradation, hflags⟩ := hsound work lease hlease
    exact ⟨hwork, hrequired, hrefused, hdegradation, hflags⟩

theorem LeasesSound.shift (hsound : self.LeasesSound) (hshift : Shift self issued after) : after.LeasesSound := by
  cases hshift with
  | availability node_id availability =>
    intro work lease hlease
    obtain ⟨hwork, hrequired, hrefused, hdegradation, hflags⟩ := hsound work lease hlease
    exact ⟨hwork, hrequired, hrefused, hdegradation, hflags⟩
  | dropped keep =>
    intro work lease hlease
    change (self.leases.filter keep).get? work = some lease at hlease
    rw [Dict.get?_filter, Option.filter_eq_some_iff] at hlease
    obtain ⟨hwork, hrequired, hrefused, hdegradation, hflags⟩ := hsound work lease hlease.1
    exact ⟨hwork, hrequired, hrefused, hdegradation, hflags⟩
  | withdrawn work lease hlease => exact hsound.withdraw work lease.node_id
  | replaced work old_lease hold requirement lease hrecord hwork hissued =>
    exact (hsound.withdraw work old_lease.node_id).store_lease hrecord hissued

theorem LeasesSound.move (hsound : self.LeasesSound) (hmove : Move self issued after) : after.LeasesSound := by
  cases hmove with
  | shifted issued after hshift => exact hsound.shift hshift
  | required requirement hunleased =>
    intro work lease hlease
    obtain ⟨hwork, ⟨found, hget, hcourt⟩, hrefused, hdegradation, hflags⟩ := hsound work lease hlease
    have hother : work ≠ normalized requirement.work_id := by
      rintro rfl
      cases hunleased.symm.trans hlease
    exact ⟨hwork, ⟨found, (Dict.get?_set_of_ne _ _ hother).trans hget, hcourt⟩, hrefused, hdegradation, hflags⟩
  | placed requirement lease hrecord hissued => exact hsound.store_lease hrecord hissued

theorem LeasesSound.moves (hsound : self.LeasesSound) (hmoves : Moves self issued after) : after.LeasesSound :=
  hmoves.invariant (fun _ _ _ hbefore hmove => hbefore.move hmove) hsound

theorem LeasesSound.perform (hsound : self.LeasesSound) (operation : Operation) :
    (self.perform operation).2.LeasesSound := by
  have hperformed := self.perform_performed operation
  generalize issued_leases (self.perform operation).1 = issued at hperformed
  generalize (self.perform operation).2 = after at hperformed ⊢
  intro work lease hlease
  cases hperformed with
  | registered advertisement =>
    obtain ⟨hwork, hrequired, hrefused, hdegradation, hflags⟩ := hsound work lease hlease
    exact ⟨hwork, hrequired, hrefused, hdegradation, hflags⟩
  | removed node_id =>
    obtain ⟨hwork, hrequired, hrefused, hdegradation, hflags⟩ := hsound work lease hlease
    exact ⟨hwork, hrequired, hrefused, hdegradation, hflags⟩
  | completed work_id node_id old_lease hold hcompletes =>
    change (self.leases.pop (normalized work_id)).get? work = some lease at hlease
    rw [Dict.get?_pop] at hlease
    split at hlease
    · cases hlease
    · rename_i hother
      obtain ⟨hwork, ⟨found, hget, hcourt⟩, hrefused, hdegradation, hflags⟩ := hsound work lease hlease
      refine ⟨hwork, ⟨found, (Dict.get?_pop_of_ne _ hother).trans hget, hcourt⟩, ?_, hdegradation, hflags⟩
      change lease.node_id ∉ ((self.refusals.pop (normalized work_id)).get? work).getD []
      rw [Dict.get?_pop_of_ne _ hother]
      exact hrefused
  | moved _ _ _ hmoves => exact hsound.moves hmoves work lease hlease

theorem leases_sound_run (registry : VerifiedNodeRegistry) (operations : List Operation) :
    ((new registry).run operations).LeasesSound := by
  induction operations using List.reverseRecOn with
  | nil =>
    intro work lease hlease
    cases hlease
  | append_singleton operations operation ih =>
    rw [run_append]
    exact ih.perform operation

variable {work node : String}

section

variable (hrefused : node ∈ self.refused_by work)

include hrefused

theorem refused_withdraw (lost lost_by : String) :
    node ∈ (self.withdraw lost lost_by).refused_by work := by
  rw [refused_by_withdraw]
  split
  · rename_i hsame
    rw [hsame] at hrefused
    exact List.mem_insert_of_mem hrefused
  · exact hrefused

theorem refused_shift (hshift : Shift self issued after) :
    node ∈ after.refused_by work := by
  cases hshift with
  | availability node_id availability => exact hrefused
  | dropped keep => exact hrefused
  | withdrawn lost lease hlease => exact refused_withdraw hrefused lost lease.node_id
  | replaced lost lease hlease requirement new_lease hrecord hwork hissued =>
    exact refused_withdraw hrefused lost lease.node_id

/-- A refusal outlives every change but the completion of its work. -/
theorem refused_moves (hmoves : Moves self issued after) :
    node ∈ after.refused_by work := by
  have hkeeps : ∀ before made after, node ∈ before.refused_by work → Move before made after →
      node ∈ after.refused_by work := by
    intro before made after hbefore hmove
    cases hmove with
    | shifted made after hshift => exact refused_shift hbefore hshift
    | required requirement hunleased => exact hbefore
    | placed requirement lease hrecord hissued => exact hbefore
  have hkept := hmoves.invariant hkeeps
  exact hkept hrefused

theorem refused_perform {operation : Operation}
    (hcompletes : ¬ self.Completes work operation) : node ∈ (self.perform operation).2.refused_by work := by
  have hperformed := self.perform_performed operation
  generalize issued_leases (self.perform operation).1 = issued at hperformed
  generalize (self.perform operation).2 = after at hperformed ⊢
  cases hperformed with
  | registered advertisement => exact hrefused
  | removed node_id => exact hrefused
  | completed work_id node_id lease hlease hcompleted =>
    have hother : work ≠ normalized work_id := fun hsame => hcompletes ⟨hsame.symm, hcompleted⟩
    change node ∈ ((self.refusals.pop (normalized work_id)).get? work).getD []
    rw [Dict.get?_pop_of_ne _ hother]
    exact hrefused
  | moved _ _ _ hmoves => exact refused_moves hrefused hmoves

theorem refused_run (operations : List Operation)
    (hnever : NeverCompletes work self operations) : node ∈ (self.run operations).refused_by work := by
  induction operations generalizing self with
  | nil => exact hrefused
  | cons operation rest ih => exact ih (refused_perform hrefused hnever.1) hnever.2

end

/-- A work that is reassigned is refused by its node from then on. -/
theorem refused_by_reassign {work : String} (node reason : String)
    (hget : self.requirements.get? work = some requirement) (now lease_seconds : ℚ) :
    node ∈ (self.reassign_locked work node reason requirement hget now lease_seconds).2.refused_by work := by
  have hresult := self.reassign_locked_result node reason hget now lease_seconds
  have hwithdrawn := self.mem_refused_by_withdraw work node
  generalize self.reassign_locked work node reason requirement hget now lease_seconds = result at hresult ⊢
  cases hresult with
  | unplaced hreplaceable => exact hwithdrawn
  | refused hreplaceable hseconds error => exact hwithdrawn
  | placed hreplaceable decision lease hdecision hnew hnode hrecord => exact hwithdrawn

theorem refused_by_refusal {work_id node_id reason : String} {lease : WorkLease}
    (hlease : self.leases.get? (normalized work_id) = some lease) (hnode : lease.node_id = normalized node_id)
    (hreason : normalized reason ≠ "") (now lease_seconds : ℚ) :
    normalized node_id ∈ (self.refuse_and_reassign work_id node_id reason now lease_seconds).2.refused_by
      (normalized work_id) := by
  obtain ⟨requirement, hget⟩ := (self.record_of_lease hlease).required
  unfold refuse_and_reassign
  dsimp only
  rw [if_neg hreason]
  split
  · rename_i owned found howned hfound
    cases howned.symm.trans hlease
    rw [if_neg (not_not_intro hnode)]
    exact refused_by_reassign _ _ hfound now lease_seconds
  · rename_i hother
    exact absurd hget (hother lease requirement hlease)

variable {decisions : List WorkPlacementDecision}

/-- Recovery that returns has every work that it withdraws refused by the failed node. -/
theorem refused_by_recover_works (now lease_seconds : ℚ) (affected : List (String × WorkLease))
    (self : DistributedWorkCoordinator) (hnodup : (affected.map Prod.fst).Nodup)
    (hheld : ∀ entry ∈ affected, self.leases.get? entry.1 = some entry.2)
    (hreturned : (self.recover_works now lease_seconds affected).1 = .ok decisions) :
    ∀ entry ∈ affected, entry.2.node_id ∈ (self.recover_works now lease_seconds affected).2.refused_by entry.1 := by
  induction affected generalizing self decisions with
  | nil =>
    intro entry hentry
    cases hentry
  | cons first rest ih =>
    obtain ⟨work_id, old_lease⟩ := first
    rw [List.map_cons, List.nodup_cons] at hnodup
    obtain ⟨hfresh, hrest_nodup⟩ := hnodup
    have hlease := hheld _ List.mem_cons_self
    obtain ⟨requirement, hget⟩ := (self.record_of_lease hlease).required
    rw [recover_works_cons hget now lease_seconds rest] at hreturned ⊢
    have hrefused := refused_by_reassign old_lease.node_id ("recovery-from:" ++ old_lease.node_id) hget now lease_seconds
    have hrest_held := held_after_reassign hget old_lease.node_id ("recovery-from:" ++ old_lease.node_id) now
      lease_seconds hfresh (fun entry hentry => hheld entry (List.mem_cons_of_mem _ hentry))
    generalize self.reassign_locked work_id old_lease.node_id ("recovery-from:" ++ old_lease.node_id)
      requirement hget now lease_seconds = result at hrefused hrest_held hreturned ⊢
    obtain ⟨outcome, next⟩ := result
    cases outcome with
    | error error => cases hreturned
    | ok decision =>
      dsimp only at hreturned hrefused ⊢
      obtain ⟨others, hothers, _⟩ := except.map_eq_ok.mp hreturned
      intro entry hentry
      rcases List.mem_cons.mp hentry with rfl | hlater
      · exact refused_moves hrefused
          (moves_of_shifts (recover_works_shifts now lease_seconds rest next hrest_nodup hrest_held))
      · exact ih next hrest_nodup hrest_held hothers entry hlater

theorem refused_by_recovery {work : String} {lease : WorkLease} {now max_heartbeat_age lease_seconds : ℚ}
    {failed : List String} (hfailed : self.failed_nodes now max_heartbeat_age = .ok failed)
    (hlease : self.leases.get? work = some lease) (hnode : lease.node_id ∈ failed) (hruns : now < lease.expires_at)
    (hreturned : (self.recover_unavailable_nodes now max_heartbeat_age lease_seconds).1 = .ok decisions) :
    lease.node_id ∈ (self.recover_unavailable_nodes now max_heartbeat_age lease_seconds).2.refused_by work := by
  have hentry := (self.mem_recovery_leases_iff failed now work lease).mpr ⟨hlease, hruns, hnode⟩
  unfold recover_unavailable_nodes at hreturned ⊢
  rw [hfailed] at hreturned ⊢
  refine refused_by_recover_works now lease_seconds (self.recovery_leases failed now)
    ((self.mark_offline failed).expire_leases_locked now) (self.nodup_recovery_leases failed now) ?_ hreturned
    (work, lease) hentry
  intro entry hmem
  have hstored : entry ∈ ((self.mark_offline failed).expire_leases_locked now).leases.sorted_items :=
    List.mem_of_mem_filter hmem
  exact (Dict.get?_eq_some_iff _ _ _).mpr ((Dict.mem_sorted_items _ _).mp hstored)

theorem LosesWork.refused {operation : Operation} (hloses : self.LosesWork work node operation) :
    node ∈ (self.perform operation).2.refused_by work := by
  cases operation with
  | refuse_and_reassign work_id node_id reason now lease_seconds =>
    obtain ⟨rfl, rfl, hreason, lease, hlease, hnode⟩ := hloses
    exact refused_by_refusal hlease hnode hreason now lease_seconds
  | handoff work_id from_node_id reason now lease_seconds =>
    obtain ⟨rfl, rfl, hreason, lease, hlease, hnode⟩ := hloses
    exact refused_by_refusal hlease hnode hreason now lease_seconds
  | recover_unavailable_nodes now max_heartbeat_age lease_seconds =>
    obtain ⟨⟨decisions, hreturned⟩, failed, lease, hfailed, hmem, hlease, rfl, hruns⟩ := hloses
    exact refused_by_recovery hfailed hlease hmem hruns hreturned
  | register advertisement => cases hloses
  | remove node_id => cases hloses
  | set_availability node_id availability => cases hloses
  | place requirement now lease_seconds exclude_nodes => cases hloses
  | complete work_id node_id => cases hloses

/-- In every reachable state every lease is sound, and a node that has refused a work, handed it off or failed it
never holds it again until the work is completed. -/
theorem leases_sound_and_never_returned (registry : VerifiedNodeRegistry) (operations : List Operation) :
    ((new registry).run operations).LeasesSound ∧
    ∀ earlier operation later work node, operations = earlier ++ operation :: later →
      ((new registry).run earlier).LosesWork work node operation →
      NeverCompletes work (((new registry).run earlier).perform operation).2 later →
      ∀ lease, ((new registry).run operations).leases.get? work = some lease → lease.node_id ≠ node := by
  have hsound := leases_sound_run registry operations
  refine ⟨hsound, ?_⟩
  intro earlier operation later work node hsplit hloses hnever lease hlease hnode
  have hrefused := refused_run hloses.refused later hnever
  have hreached : (new registry).run operations = (((new registry).run earlier).perform operation).2.run later := by
    rw [hsplit, run_append]
    rfl
  rw [← hreached] at hrefused
  exact (hsound work lease hlease).not_refused (hnode ▸ hrefused)

end

/-- `w1` goes to `a`, which refuses it at 10; the lease of `b` runs out, and `w1` is placed again at 200. -/
def refused_then_placed_again [StrLower] (hwork : velvet.distributed_work_service.IsNormalized "w1") :
    List Operation × Operation × List Operation :=
  ([.register (plain_node "a" 1 0 .AVAILABLE 2 text_a full_health zero_beat Nat.two_pos),
    .register (plain_node "b" (1 / 2) 0 .AVAILABLE 2 text_b half_health zero_beat Nat.two_pos),
    .place (plain_proposal "w1" hwork).to_requirement 0 100 []],
    .refuse_and_reassign "w1" "a" "busy" 10 100, [.place (plain_proposal "w1" hwork).to_requirement 200 100 []])

/-- The second placement does not go back to `a`, the better node. -/
theorem refused_node_left_out :
    letI := StrLower.ascii
    let calls := refused_then_placed_again (by decide)
    let reached := (new (VerifiedNodeRegistry.new "body")).run (calls.1 ++ calls.2.1 :: calls.2.2)
    reached.LeasesSound ∧
      (reached.leases.get? "w1").map (fun lease => (lease.node_id, lease.issued_at)) = some ("b", 200) ∧
      ∀ lease, reached.leases.get? "w1" = some lease → lease.node_id ≠ "a" := by
  have hheld : letI := StrLower.ascii
      (((new (VerifiedNodeRegistry.new "body")).run (refused_then_placed_again (by decide)).1).leases.get? "w1").map
        WorkLease.node_id = some "a" := by decide +kernel
  have hplaced : letI := StrLower.ascii
      (((new (VerifiedNodeRegistry.new "body")).run ((refused_then_placed_again (by decide)).1 ++
        (refused_then_placed_again (by decide)).2.1 :: (refused_then_placed_again (by decide)).2.2)).leases.get?
        "w1").map (fun lease => (lease.node_id, lease.issued_at)) = some ("b", 200) := by decide +kernel
  have hnormal : letI := StrLower.ascii
      normalized "w1" = "w1" ∧ normalized "a" = "a" ∧ normalized "busy" ≠ "" := by decide
  let := StrLower.ascii
  obtain ⟨lease, hlease, hnode⟩ := Option.map_eq_some_iff.mp hheld
  obtain ⟨hsound, hnever⟩ := leases_sound_and_never_returned (VerifiedNodeRegistry.new "body")
    ((refused_then_placed_again (by decide)).1 ++
      (refused_then_placed_again (by decide)).2.1 :: (refused_then_placed_again (by decide)).2.2)
  refine ⟨hsound, hplaced, ?_⟩
  exact hnever _ _ _ "w1" "a" rfl ⟨hnormal.1, hnormal.2.1, hnormal.2.2, lease, hlease, hnode⟩ ⟨fun hno => hno, trivial⟩

end velvet.distributed_work_coordinator.DistributedWorkCoordinator
