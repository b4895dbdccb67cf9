import VelvetRuntime.DistributedWork.Changes
import VelvetRuntime.ResourceAware.Alike
import VelvetRuntime.ResourceAware.Correspondence

open python python.str python.Program velvet.body_capacity velvet.distributed_work_coordinator
open velvet.body_resource_transport velvet.resource_reservations
open DistributedWorkCoordinator (unexpired)

namespace velvet.resource_aware_work_proposals

namespace LiveResourceAwareCoordinator

variable [StrLower] {now lease_seconds : ℚ} {live : LiveResourceAwareCoordinator}

/-- A work without a lease and without a reservation. -/
structure Absent (live : LiveResourceAwareCoordinator) (work : String) : Prop where
  lease : live.lease_at work = none
  reservation : live.reservation_of work = none

/-- A step keeps the works absent that are, but for one. -/
def Spares (before after : LiveResourceAwareCoordinator) (work : String) : Prop :=
  ∀ key, key ≠ work → Absent before key → Absent after key

theorem Absent.pruned {key : String} (habsent : Absent live key) (resource_service : BodyResourceService) (now : ℚ) :
    Absent { live with resource_service, reservations := (live.reservations.prune now).2 } key := by
  refine ⟨habsent.lease, ?_⟩
  unfold reservation_of ResourceReservationLedger.prune
  split
  · exact habsent.reservation
  · rw [Dict.get?_filter, show live.reservations.by_work.get? key = none from habsent.reservation]
    rfl

theorem Absent.expired {key : String} (habsent : Absent live key) (resource_service : BodyResourceService)
    (work : String) (resource_requirements : List ResourceRequirement) (now : ℚ) :
    Absent (live.expired resource_service work resource_requirements now) key := by
  refine ⟨?_, habsent.reservation⟩
  refine (live.coordinator.expire_leases_get? now key).trans ?_
  rw [show live.coordinator.leases.get? key = none from habsent.lease]
  rfl

variable {work : String}

theorem Settled.spares {before after : LiveResourceAwareCoordinator} {outcome : Option WorkLease}
    (hsettled : Settled before after work now lease_seconds outcome) : Spares before after work := by
  intro key hkey habsent
  refine ⟨(hsettled.moved.placed.others key hkey).trans habsent.lease, ?_⟩
  exact (hsettled.others key hkey).trans habsent.reservation

/-- The placement of an absent work gives it the lease of the decision, and no reservation without a lease. -/
theorem wp_place_absent (now lease_seconds : ℚ) {requirement : WorkRequirement} (exclude_nodes : List String) (hwork : normalized requirement.work_id = work) (habsent : Absent live work) :
    wp (place requirement now lease_seconds exclude_nodes)
      (fun decision after => Spares live after work ∧ after.lease_at work = decision.lease ∧
        (decision.lease = none → after.reservation_of work = none) ∧ after.declared = live.declared.pop work)
      (fun _ after => Spares live after work ∧ Absent after work ∧
        (after.declared = live.declared ∨ after.declared = live.declared.pop work)) live := by
  unfold place
  rw [wp_bind]
  apply wp_prune
  · intro hnow resource_service
    have hpruned : ∀ key, Absent live key → Absent
        { live with
          resource_service
          reservations := (live.reservations.prune now).2
          declared := live.declared.pop work } key := by
      intro key hkey
      have hkept := hkey.pruned resource_service now
      exact ⟨hkept.lease, hkept.reservation⟩
    rw [wp_bind, wp_get, wp_bind, wp_set, hwork]
    have hunleased := (hpruned work habsent).expired resource_service work [] now
    refine wp_mono (wp_place_unleased hnow hwork hunleased.lease (hpruned work habsent).reservation) ?_ ?_
    · rintro decision after ⟨service, hsettled, hbacked⟩
      refine ⟨?_, hsettled.moved.placed.own, ?_, hsettled.declared⟩
      · intro key hkey hgone
        exact hsettled.spares key hkey ((hpruned key hgone).expired service work _ now)
      · intro hnone
        rw [hnone] at hbacked
        exact hbacked
    · rintro error after ⟨service, ⟨hsettled, hgone⟩ | rfl⟩
      · refine ⟨?_, ⟨hsettled.moved.placed.own, hgone⟩, Or.inr hsettled.declared⟩
        intro key hkey hgone
        exact hsettled.spares key hkey ((hpruned key hgone).expired service work _ now)
      · refine ⟨fun key _ hgone => ?_, ?_, Or.inr rfl⟩
        · exact ⟨(hpruned key hgone).lease, (hpruned key hgone).reservation⟩
        · exact ⟨(hpruned work habsent).lease, (hpruned work habsent).reservation⟩
  · intro _ error _
    exact ⟨fun _ _ hgone => hgone, habsent, Or.inl rfl⟩

/-- A refusal spares the other works. -/
theorem refuse_spares (live : LiveResourceAwareCoordinator) (work_id node_id reason : String) (now lease_seconds : ℚ) :
    Spares live ((refuse_and_reassign work_id node_id reason now lease_seconds).after live) (normalized work_id) ∧
      ((refuse_and_reassign work_id node_id reason now lease_seconds).after live).declared = live.declared := by
  apply (wp_result_after (fun _ after => Spares live after (normalized work_id) ∧ after.declared = live.declared)).mp
  unfold refuse_and_reassign
  rw [wp_bind]
  apply wp_prune
  · intro hnow resource_service
    let pruned : LiveResourceAwareCoordinator :=
      { live with resource_service, reservations := (live.reservations.prune now).2 }
    have hpruned : ∀ key, Absent live key → Absent pruned key := fun key hgone => hgone.pruned resource_service now
    have hreleased : Spares pruned (pruned.release work_id) (normalized work_id) :=
      fun key hkey hgone => ⟨hgone.lease, (Dict.get?_pop_of_ne _ hkey).trans hgone.reservation⟩
    have hsettled : ∀ after outcome,
        Settled (pruned.release work_id) after (normalized work_id) now lease_seconds outcome →
        Spares live after (normalized work_id) ∧ after.declared = live.declared :=
      fun after outcome hsettled => ⟨fun key hkey hgone =>
        hsettled.spares key hkey (hreleased key hkey (hpruned key hgone)), hsettled.declared⟩
    rw [wp_bind, wp_get]
    by_cases howned : (pruned.coordinator.lease_for work_id).any (fun lease => lease.node_id = normalized node_id) = true
    · rw [if_pos howned, wp_bind, wp_set]
      obtain ⟨lease, hlease, hnode⟩ := (Option.any_eq_true _ _).mp howned
      have hfound : pruned.lease_at (normalized work_id) = some lease := hlease
      refine wp_mono (wp_refuse_owned hnow hfound (by simpa using hnode)) ?_ ?_
      · exact fun decision after hend => hsettled after _ hend.1
      · rintro error after (⟨_, rfl⟩ | hend)
        · exact ⟨fun key hkey hgone => hreleased key hkey (hpruned key hgone), rfl⟩
        · exact hsettled after _ hend.1
    · have hnot : ∀ lease, pruned.lease_at (normalized work_id) = some lease → lease.node_id ≠ normalized node_id := by
        intro lease hlease hnode
        exact howned ((Option.any_eq_true _ _).mpr ⟨lease, hlease, by simpa using hnode⟩)
      rw [if_neg howned]
      refine wp_mono (wp_refuse_not_owned hnot) ?_ ?_
      · rintro decision after rfl
        exact ⟨fun key _ hgone => hpruned key hgone, rfl⟩
      · rintro error after rfl
        exact ⟨fun key _ hgone => hpruned key hgone, rfl⟩
  · intro _ error _
    exact ⟨fun _ _ hgone => hgone, rfl⟩

theorem Absent.closed {key : String} (habsent : Absent live key) (work : String) : Absent (live.closed work) key := by
  by_cases hkey : key = work
  · rw [hkey]
    exact ⟨Dict.get?_pop_self _ _, Dict.get?_pop_self _ _⟩
  · exact ⟨(Dict.get?_pop_of_ne _ hkey).trans habsent.lease, (Dict.get?_pop_of_ne _ hkey).trans habsent.reservation⟩

theorem Absent.complete {key : String} (habsent : Absent live key) (work_id node_id : String) :
    Absent (live.complete work_id node_id).2 key := by
  rcases live.complete_cases work_id node_id with ⟨_, _, _, hcomplete⟩ | ⟨_, hcomplete⟩
  · rw [hcomplete]
    exact habsent.closed _
  · rw [hcomplete]
    exact ⟨habsent.lease, habsent.reservation⟩

theorem complete_declared (live : LiveResourceAwareCoordinator) (work_id node_id : String) :
    (live.complete work_id node_id).2.declared = live.declared.pop (normalized work_id) := by
  rcases live.complete_cases work_id node_id with ⟨_, _, _, hcomplete⟩ | ⟨_, hcomplete⟩
  · rw [hcomplete]
    rfl
  · rw [hcomplete]

/-- A closed work is absent. -/
theorem complete_absent {work_id node_id : String} (hclosed : (live.complete work_id node_id).1 = true) :
    Absent (live.complete work_id node_id).2 (normalized work_id) := by
  rcases live.complete_cases work_id node_id with ⟨_, _, _, hcomplete⟩ | ⟨_, hcomplete⟩
  · rw [hcomplete]
    exact ⟨Dict.get?_pop_self _ _, Dict.get?_pop_self _ _⟩
  · rw [hcomplete] at hclosed
    cases hclosed

/-- The owner of a lease closes it. -/
theorem complete_closed {lease : WorkLease} (hlease : live.lease_at work = some lease) :
    (live.complete work lease.node_id).1 = true := by
  obtain ⟨_, hnormal, hnode, _⟩ := live.coordinator.record_of_lease hlease
  rcases live.complete_cases work lease.node_id with ⟨_, _, _, hcomplete⟩ | ⟨hnot, _⟩
  · rw [hcomplete]
  · exact absurd hnode.symm (hnot lease (by rw [hnormal]; exact hlease))

/-- Recovery spares every work. -/
theorem recover_spares (live : LiveResourceAwareCoordinator) (now max_heartbeat_age lease_seconds : ℚ) :
    (∀ key, Absent live key →
      Absent ((recover_unavailable_nodes now max_heartbeat_age lease_seconds).after live) key) ∧
      ((recover_unavailable_nodes now max_heartbeat_age lease_seconds).after live).declared = live.declared := by
  apply (wp_result_after (fun _ after =>
    (∀ key, Absent live key → Absent after key) ∧ after.declared = live.declared)).mp
  unfold recover_unavailable_nodes
  rw [wp_bind]
  apply wp_prune
  · intro hnow resource_service
    let pruned : LiveResourceAwareCoordinator :=
      { live with resource_service, reservations := (live.reservations.prune now).2 }
    have hpruned : ∀ key, Absent live key → Absent pruned key := fun key hgone => hgone.pruned resource_service now
    rw [wp_bind, wp_get, wp_bind, wp_of_except]
    cases hfailed : pruned.failed_nodes now max_heartbeat_age with
    | error error => exact ⟨hpruned, rfl⟩
    | ok failed =>
      refine wp_mono (wp_recover_pruned hnow hfailed) ?_ ?_
      · rintro _ after ⟨expired, hrebound, _, hdeclared, hreservations, hleases⟩
        refine ⟨fun key hgone => ?_, hrebound.declared.trans hdeclared⟩
        have hkept := hpruned key hgone
        have hkey : key ∉ pruned.recovered_works failed now := by
          intro hin
          obtain ⟨entry, hentry, rfl⟩ := List.mem_map.mp hin
          have hlease := ((pruned.coordinator.mem_recovery_leases_iff _ _ entry.1 entry.2).mp hentry).1
          cases hlease.symm.trans hkept.lease
        refine ⟨(hrebound.leases key hkey).trans ?_, (hrebound.reservations key hkey).trans ?_⟩
        · rw [hleases key hkey, hkept.lease]
          rfl
        · unfold reservation_of
          rw [hreservations]
          exact hkept.reservation
      · rintro error after ⟨_, hdeclared, hreservations, hleases⟩
        refine ⟨fun key hgone => ⟨hleases key (hpruned key hgone).lease, ?_⟩, hdeclared⟩
        unfold reservation_of
        rw [hreservations]
        exact (hpruned key hgone).reservation
  · intro _ error _
    exact ⟨fun _ hgone => hgone, rfl⟩

end LiveResourceAwareCoordinator

open LiveResourceAwareCoordinator
open velvet.distributed_work_service (World Sinks WorkProposal WorkResult DistributedWorkServiceOutcome WorkCoordinator
  Change Changed call wp_call)

section

variable [StrLower]

/-- The requests to a service over the live coordinator, and the changes that others make to the registries between
them. -/
inductive Request where
  | register_node (advertisement : NodeAdvertisement)
  | submit (proposal : WorkProposal) (now lease_seconds : ℚ)
  | submit_resource_aware (proposal : ResourceAwareWorkProposal) (now lease_seconds : ℚ)
  | accept (work_id node_id : String)
  | refuse (work_id node_id reason : String) (now lease_seconds : ℚ)
  | complete (work_result : WorkResult)
  | recover (now max_heartbeat_age lease_seconds : ℚ)
  | registry (registry : VerifiedNodeRegistry)
  | resource_service (resource_service : BodyResourceService)

variable (sinks : Sinks)

/-- One request. A request that raises keeps the changes it has made. -/
def serve : Request → Program Error (World LiveResourceAwareCoordinator) Unit
  | .register_node advertisement => do
    let _ ← distributed_work_service.register_node sinks advertisement
    pure ()
  | .submit proposal now lease_seconds => do
    let _ ← distributed_work_service.submit sinks proposal now lease_seconds
    pure ()
  | .submit_resource_aware proposal now lease_seconds => do
    let _ ← submit_resource_aware sinks proposal now lease_seconds
    pure ()
  | .accept work_id node_id => do
    let _ ← distributed_work_service.accept sinks work_id node_id
    pure ()
  | .refuse work_id node_id reason now lease_seconds => do
    let _ ← distributed_work_service.refuse sinks work_id node_id reason now lease_seconds
    pure ()
  | .complete work_result => do
    let _ ← distributed_work_service.complete sinks work_result
    pure ()
  | .recover now max_heartbeat_age lease_seconds => do
    let _ ← distributed_work_service.recover sinks now max_heartbeat_age lease_seconds
    pure ()
  | .registry registry => modify (fun world => { world with
      coordinator := WorkCoordinator.with_registry world.coordinator registry })
  | .resource_service resource_service => modify (fun world => { world with
      coordinator := { world.coordinator with resource_service } })

/-- The state after requests. -/
def served (world : World LiveResourceAwareCoordinator) (requests : List Request) :
    World LiveResourceAwareCoordinator :=
  requests.foldl (fun world request => (serve sinks request).after world) world

/-- Work that is not active has no lease and no reservation. -/
def Idle (live : LiveResourceAwareCoordinator) (proposals : Dict String WorkProposal) : Prop :=
  ∀ work, proposals.get? work = none → Absent live work

variable {sinks} {world : World LiveResourceAwareCoordinator}

variable {live : LiveResourceAwareCoordinator} {proposal : WorkProposal}

/-- How the placement of an absent work ends for the tables. -/
theorem place_absent (habsent : Absent live proposal.proposal_id) (now lease_seconds : ℚ) :
    Spares live (WorkCoordinator.place live proposal.to_requirement now lease_seconds).2 proposal.proposal_id ∧
    ((∀ decision, (WorkCoordinator.place live proposal.to_requirement now lease_seconds).1 = .ok decision →
        decision.lease = none) →
      Absent (WorkCoordinator.place live proposal.to_requirement now lease_seconds).2 proposal.proposal_id) ∧
    ∀ decision, (WorkCoordinator.place live proposal.to_requirement now lease_seconds).1 = .ok decision →
      (WorkCoordinator.place live proposal.to_requirement now lease_seconds).2.lease_at proposal.proposal_id =
          decision.lease ∧
        (WorkCoordinator.place live proposal.to_requirement now lease_seconds).2.declared =
          live.declared.pop proposal.proposal_id := by
  have hnormal : normalized proposal.to_requirement.work_id = proposal.proposal_id := proposal.proposal_id_normal.2
  have hwp := wp_place_absent now lease_seconds [] hnormal habsent
  cases hresult : (place proposal.to_requirement now lease_seconds []).result live with
  | ok decision =>
    obtain ⟨hspares, hlease, hreservation, hdeclared⟩ := wp_of_result_ok hwp hresult
    refine ⟨hspares, ?_, ?_⟩
    · intro hnone
      have hunplaced := hnone decision hresult
      exact ⟨hlease.trans hunplaced, hreservation hunplaced⟩
    · intro found hfound
      cases hresult.symm.trans hfound
      exact ⟨hlease, hdeclared⟩
  | error error =>
    obtain ⟨hspares, hgone, _⟩ := wp_of_result_error hwp hresult
    refine ⟨hspares, fun _ => hgone, ?_⟩
    intro found hfound
    cases hresult.symm.trans hfound

/-- What one call of the service does keeps inactive work idle. -/
theorem Idle.change {proposals : Dict String WorkProposal} (hidle : Idle world.coordinator world.proposals)
    (hchange : Change world.toDistributedWorkService live proposals) : Idle live proposals := by
  cases hchange with
  | kept => exact hidle
  | registered registry => exact fun work hwork => ⟨(hidle work hwork).lease, (hidle work hwork).reservation⟩
  | unregistered registry registry' =>
    exact fun work hwork => ⟨(hidle work hwork).lease, (hidle work hwork).reservation⟩
  | placed proposal now lease_seconds decision lease hinactive hdecision hlease =>
    intro work hwork
    have hkey : work ≠ proposal.proposal_id := by
      rintro rfl
      cases (Dict.get?_set_self world.proposals _ proposal).symm.trans hwork
    rw [Dict.get?_set_of_ne _ _ hkey] at hwork
    exact (place_absent (hidle _ hinactive) now lease_seconds).1 work hkey (hidle work hwork)
  | unplaced proposal now lease_seconds hinactive hnone =>
    obtain ⟨hspares, hunplaced, _⟩ := place_absent (hidle _ hinactive) now lease_seconds
    intro work hwork
    by_cases hkey : work = proposal.proposal_id
    · rw [hkey]
      exact hunplaced hnone
    · exact hspares work hkey (hidle work hwork)
  | undone proposal now lease_seconds decision lease hinactive hdecision hlease =>
    obtain ⟨hspares, _, hleased⟩ := place_absent (hidle _ hinactive) now lease_seconds
    intro work hwork
    by_cases hkey : work = proposal.proposal_id
    · rw [hkey]
      have hclosed := complete_absent (complete_closed ((hleased decision hdecision).1.trans hlease))
      rw [proposal.proposal_id_normal.2] at hclosed
      exact hclosed
    · exact (hspares work hkey (hidle work hwork)).complete _ _
  | refused active node reason now lease_seconds proposal hactive hnormal =>
    intro work hwork
    have hkey : work ≠ normalized active := by
      rw [hnormal]
      rintro rfl
      cases hactive.symm.trans hwork
    exact (refuse_spares world.coordinator active node reason now lease_seconds).1 work hkey (hidle work hwork)
  | unclosed active node proposal hactive => exact fun work hwork => (hidle work hwork).complete _ _
  | completed active node hnormal hclosed =>
    intro work hwork
    by_cases hkey : work = active
    · rw [hkey]
      have hgone := complete_absent hclosed
      rw [hnormal] at hgone
      exact hgone
    · rw [Dict.get?_pop_of_ne _ hkey] at hwork
      exact (hidle work hwork).complete _ _
  | recovered now max_heartbeat_age lease_seconds =>
    exact fun work hwork =>
      (recover_spares world.coordinator now max_heartbeat_age lease_seconds).1 work (hidle work hwork)

variable {key : String}

omit [StrLower] in
theorem pop_undeclared {declared : Dict String (List ResourceRequirement)}
    (hnone : declared.get? key = none) (work : String) : (declared.pop work).get? key = none := by
  rw [Dict.get?_pop]
  split
  · rfl
  · exact hnone

theorem place_undeclared (habsent : Absent live proposal.proposal_id)
    (hnone : live.declared.get? key = none) (now lease_seconds : ℚ) :
    (WorkCoordinator.place live proposal.to_requirement now lease_seconds).2.declared.get? key = none := by
  have hnormal : normalized proposal.to_requirement.work_id = proposal.proposal_id := proposal.proposal_id_normal.2
  have hwp := wp_place_absent now lease_seconds [] hnormal habsent
  refine (wp_result_after (fun _ after => after.declared.get? key = none)).mp (wp_mono hwp ?_ ?_)
  · rintro decision after ⟨_, _, _, hdeclared⟩
    rw [hdeclared]
    exact pop_undeclared hnone _
  · rintro error after ⟨_, _, hdeclared | hdeclared⟩
    · rw [hdeclared]
      exact hnone
    · rw [hdeclared]
      exact pop_undeclared hnone _

/-- No call of the service declares requirements. -/
theorem Idle.undeclared {proposals : Dict String WorkProposal}
    (hidle : Idle world.coordinator world.proposals) (hchange : Change world.toDistributedWorkService live proposals)
    (hnone : world.coordinator.declared.get? key = none) : live.declared.get? key = none := by
  have hcomplete : ∀ (live : LiveResourceAwareCoordinator) work node, live.declared.get? key = none →
      (live.complete work node).2.declared.get? key = none := by
    intro live work node hnone
    rw [complete_declared]
    exact pop_undeclared hnone _
  cases hchange with
  | kept => exact hnone
  | registered registry => exact hnone
  | unregistered registry registry' => exact hnone
  | placed proposal now lease_seconds decision lease hinactive hdecision hlease =>
    exact place_undeclared (hidle _ hinactive) hnone now lease_seconds
  | unplaced proposal now lease_seconds hinactive hunplaced =>
    exact place_undeclared (hidle _ hinactive) hnone now lease_seconds
  | undone proposal now lease_seconds decision lease hinactive hdecision hlease =>
    exact hcomplete _ _ _ (place_undeclared (hidle _ hinactive) hnone now lease_seconds)
  | refused active node reason now lease_seconds proposal hactive hnormal =>
    change ((refuse_and_reassign active node reason now lease_seconds).after world.coordinator).declared.get? key = none
    rw [(refuse_spares world.coordinator active node reason now lease_seconds).2]
    exact hnone
  | unclosed active node proposal hactive => exact hcomplete _ _ _ hnone
  | completed active node hnormal hclosed => exact hcomplete _ _ _ hnone
  | recovered now max_heartbeat_age lease_seconds =>
    change ((recover_unavailable_nodes now max_heartbeat_age lease_seconds).after world.coordinator).declared.get? key =
      none
    rw [(recover_spares world.coordinator now max_heartbeat_age lease_seconds).2]
    exact hnone

/-- What holds between requests: inactive work is idle, and no requirements wait for a placement. -/
structure Clear (world : World LiveResourceAwareCoordinator) : Prop where
  idle : Idle world.coordinator world.proposals
  undeclared : ∀ work, world.coordinator.declared.get? work = none

theorem Clear.changed {after : World LiveResourceAwareCoordinator} (hclear : Clear world)
    (hchanged : Changed world after) : Clear after :=
  ⟨hclear.idle.change hchanged, fun work => hclear.idle.undeclared hchanged (hclear.undeclared work)⟩

/-- A declaration raises without effect, or it files the requirements. -/
theorem wp_declare {work_id : String} {requirements : List ResourceRequirement}
    {returns : Unit → LiveResourceAwareCoordinator → Prop} {raises : Error → LiveResourceAwareCoordinator → Prop}
    (hreturns : returns () { live with declared := live.declared.set (normalized work_id) requirements })
    (hraises : ∀ error, raises error live) : wp (declare work_id requirements) returns raises live := by
  unfold declare
  rw [wp_bind, wp_get]
  split
  · exact hraises _
  · split
    · exact hraises _
    · split
      · exact hraises _
      · split
        · exact hraises _
        · exact hreturns

/-- The withdrawal of a declaration clears the work again. -/
theorem Clear.cancelled (hidle : Idle world.coordinator world.proposals)
    (hundeclared : ∀ work, work ≠ proposal.proposal_id → world.coordinator.declared.get? work = none) :
    Clear { world with coordinator := world.coordinator.cancel_declaration proposal.proposal_id } := by
  have hnormal := proposal.proposal_id_normal.2
  constructor
  · intro work hwork
    refine ⟨(hidle work hwork).lease, ?_⟩
    change (world.coordinator.reservations.by_work.pop _).get? work = none
    rw [Dict.get?_pop]
    split
    · rfl
    · exact (hidle work hwork).reservation
  · intro work
    change (world.coordinator.declared.pop (normalized proposal.proposal_id)).get? work = none
    rw [hnormal]
    by_cases hwork : work = proposal.proposal_id
    · rw [hwork]
      exact Dict.get?_pop_self _ _
    · exact pop_undeclared (hundeclared work hwork) _

theorem submit_resource_aware_clear (hclear : Clear world) (proposal : ResourceAwareWorkProposal)
    (now lease_seconds : ℚ) :
    wp (submit_resource_aware sinks proposal now lease_seconds) (fun _ => Clear) (fun _ => Clear) world := by
  have hnormal := proposal.proposal.proposal_id_normal.2
  unfold submit_resource_aware
  dsimp only
  rw [wp_bind]
  refine distributed_work_service.wp_call_program (wp_declare ?_ ?_)
  · -- The declaration is on file while the service takes the proposal in.
    let armed : World LiveResourceAwareCoordinator := { world with coordinator := { world.coordinator with
      declared := world.coordinator.declared.set (normalized proposal.proposal.proposal_id)
        proposal.resource_requirements } }
    have hidle : Idle armed.coordinator armed.proposals :=
      fun work hwork => ⟨(hclear.idle work hwork).lease, (hclear.idle work hwork).reservation⟩
    have hothers : ∀ work, work ≠ proposal.proposal.proposal_id → armed.coordinator.declared.get? work = none := by
      intro work hwork
      rw [← hnormal] at hwork
      exact (Dict.get?_set_of_ne _ _ hwork).trans (hclear.undeclared work)
    have hcancelled : ∀ after, Changed armed after → Clear { after with
        coordinator := after.coordinator.cancel_declaration proposal.proposal.proposal_id } := fun after hchanged =>
      Clear.cancelled (hidle.change hchanged) (fun work hwork => hidle.undeclared hchanged (hothers work hwork))
    rw [wp_bind, wp_tryCatch]
    refine wp_mono (distributed_work_service.submit_changed proposal.proposal now lease_seconds) ?_ ?_
    · rintro outcome after ⟨hchanged, hinactive, ⟨decision, hdecision⟩, hcoordinator⟩
      split
      · exact hcancelled after hchanged
      · refine ⟨hidle.change hchanged, fun work => ?_⟩
        by_cases hwork : work = proposal.proposal.proposal_id
        · obtain ⟨_, _, hplaced⟩ := place_absent (hidle _ hinactive) now lease_seconds
          rw [hwork, hcoordinator, (hplaced decision hdecision).2]
          exact Dict.get?_pop_self _ _
        · exact hidle.undeclared hchanged (hothers work hwork)
    · intro error after hchanged
      exact hcancelled after hchanged
  · exact fun _ => hclear

theorem serve_clear (hclear : Clear world) (request : Request) : Clear ((serve sinks request).after world) := by
  refine (wp_result_after (fun _ after => Clear after)).mp ?_
  cases request with
  | register_node advertisement =>
    unfold serve
    rw [wp_bind]
    exact wp_mono (distributed_work_service.register_node_changed advertisement)
      (fun _ _ => hclear.changed) (fun _ _ => hclear.changed)
  | submit proposal now lease_seconds =>
    unfold serve
    rw [wp_bind]
    exact wp_mono (distributed_work_service.submit_changed proposal now lease_seconds)
      (fun _ _ hend => hclear.changed hend.1) (fun _ _ => hclear.changed)
  | submit_resource_aware proposal now lease_seconds =>
    unfold serve
    rw [wp_bind]
    exact submit_resource_aware_clear hclear proposal now lease_seconds
  | accept work_id node_id =>
    unfold serve
    rw [wp_bind]
    exact wp_mono (distributed_work_service.accept_changed work_id node_id)
      (fun _ _ => hclear.changed) (fun _ _ => hclear.changed)
  | refuse work_id node_id reason now lease_seconds =>
    unfold serve
    rw [wp_bind]
    exact wp_mono (distributed_work_service.refuse_changed work_id node_id reason now lease_seconds)
      (fun _ _ => hclear.changed) (fun _ _ => hclear.changed)
  | complete work_result =>
    unfold serve
    rw [wp_bind]
    exact wp_mono (distributed_work_service.complete_changed work_result)
      (fun _ _ => hclear.changed) (fun _ _ => hclear.changed)
  | recover now max_heartbeat_age lease_seconds =>
    unfold serve
    rw [wp_bind]
    exact wp_mono (distributed_work_service.recover_changed now max_heartbeat_age lease_seconds)
      (fun _ _ => hclear.changed) (fun _ _ => hclear.changed)
  | registry registry => exact hclear.changed (.registered registry)
  | resource_service resource_service =>
    exact ⟨fun work hwork => ⟨(hclear.idle work hwork).lease, (hclear.idle work hwork).reservation⟩,
      hclear.undeclared⟩

/-- Over every run, inactive work is idle and nothing waits for a placement. -/
theorem served_clear (hclear : Clear world) (requests : List Request) : Clear (served sinks world requests) := by
  induction requests generalizing world with
  | nil => exact hclear
  | cons request rest ih => exact ih (serve_clear hclear request)

/-- The service starts without leases, proposals and declarations. -/
theorem bind_clear {service : World DistributedWorkCoordinator} {resource_service : BodyResourceService}
    (hbound : bind_live_resource_placement service resource_service = .ok world) : Clear world := by
  unfold bind_live_resource_placement at hbound
  split at hbound
  · cases hbound
  · rename_i hsnapshot
    split at hbound
    · cases hbound
    · split at hbound
      · cases hbound
      · cases hbound
        refine ⟨fun work _ => ⟨?_, rfl⟩, fun _ => rfl⟩
        have hnil : service.coordinator.leases.sorted_items = [] := List.map_eq_nil_iff.mp (not_not.mp hsnapshot)
        change service.coordinator.leases.get? work = none
        cases hlease : service.coordinator.leases.get? work with
        | none => rfl
        | some lease =>
          have hmem := (Dict.mem_sorted_items _ _).mpr ((Dict.get?_eq_some_iff _ _ _).mp hlease)
          rw [hnil] at hmem
          cases hmem

/-- The state in which a work was never submitted: no table has an entry of it. -/
def without (world : World LiveResourceAwareCoordinator) (work : String) : World LiveResourceAwareCoordinator :=
  { world with
    coordinator := world.coordinator.closed work
    proposals := world.proposals.pop work
    accepted := distributed_work_service.discard world.accepted work
    pending_completion := world.pending_completion.pop work }

/-- No registered node is on record as having refused a work. -/
def Unrefused (live : LiveResourceAwareCoordinator) (work : String) : Prop :=
  ∀ node_id ∈ live.coordinator.registered_ids, node_id ∉ live.coordinator.refused_by work

/-- A placement cannot tell an idle work without refusals from one that was never submitted. -/
theorem akin_closed {work : String} (habsent : Absent live work) (hundeclared : live.declared.get? work = none)
    (hunrefused : Unrefused live work) :
    LiveResourceAwareCoordinator.Akin work live (live.closed work) where
  coordinator := by
    refine ⟨rfl, (Dict.pop_of_get?_none _ habsent.lease).symm, ?_⟩
    intro node_id hnode
    refine iff_of_false (hunrefused node_id hnode) ?_
    change node_id ∉ ((live.coordinator.refusals.pop work).get? work).getD []
    rw [Dict.get?_pop_self]
    exact List.not_mem_nil
  resource_service := rfl
  reservations := congrArg ResourceReservationLedger.mk (Dict.pop_of_get?_none _ habsent.reservation).symm
  declared := hundeclared.trans (Dict.get?_pop_self _ _).symm

open velvet.distributed_work_service (emit emit_offer LifecycleEvidence EventType Payload)

variable {left right : World LiveResourceAwareCoordinator}

/-- A call of a coordinator method that is a program of its own. -/
theorem agree_call {α : Type} {program : Program Error LiveResourceAwareCoordinator α}
    {relates : α → LiveResourceAwareCoordinator → LiveResourceAwareCoordinator → Prop}
    (hagree : Agree relates program program left.coordinator right.coordinator) :
    Agree (fun value left' right' => ∃ live live', relates value live live' ∧
        left' = { left with coordinator := live } ∧ right' = { right with coordinator := live' })
      (call (fun live : LiveResourceAwareCoordinator => (program.result live, program.after live)))
      (call (fun live : LiveResourceAwareCoordinator => (program.result live, program.after live))) left right := by
  unfold call
  apply agree_get
  apply agree_set
  unfold result after
  dsimp only
  rcases hagree with ⟨value, live, live', hfirst, hsecond, hrelates⟩ | ⟨error, live, live', hfirst, hsecond⟩
  · rw [hfirst, hsecond]
    exact agree_pure ⟨live, live', hrelates, rfl, rfl⟩
  · rw [hfirst, hsecond]
    exact agree_throw error

theorem agree_emit {event_type : EventType} {subject_id : String} {payload : Payload}
    (hcalls : left.lifecycle_calls = right.lifecycle_calls) :
    Agree (fun _ left' right' => left'.lifecycle_calls = right'.lifecycle_calls)
      (emit sinks event_type subject_id payload) (emit sinks event_type subject_id payload) left right := by
  unfold emit
  apply agree_get
  apply agree_set
  rw [← hcalls]
  split
  · exact agree_throw _
  · split
    · exact agree_throw _
    · apply agree_modify
      exact agree_pure rfl

theorem agree_emit_offer (proposal : WorkProposal) (decision : WorkPlacementDecision) (lease : WorkLease)
    (hcalls : left.lifecycle_calls = right.lifecycle_calls) :
    Agree (fun _ _ _ => True) (emit_offer sinks proposal decision lease) (emit_offer sinks proposal decision lease)
      left right := by
  unfold emit_offer
  refine (agree_emit hcalls).bind ?_
  intro offered left' right' hcalls'
  split
  · refine (agree_emit hcalls').bind ?_
    exact fun _ _ _ _ => agree_pure trivial
  · exact agree_pure trivial

/-- The submission of a work to two services that it cannot tell apart ends alike. -/
theorem agree_submit (hinactive : left.proposals.get? proposal.proposal_id = none)
    (hinactive' : right.proposals.get? proposal.proposal_id = none)
    (hcalls : left.lifecycle_calls = right.lifecycle_calls)
    (hakin : LiveResourceAwareCoordinator.Akin proposal.proposal_id left.coordinator right.coordinator)
    (hlease : left.coordinator.lease_at proposal.proposal_id = none) (now lease_seconds : ℚ) :
    Agree (fun _ _ _ => True) (distributed_work_service.submit sinks proposal now lease_seconds)
      (distributed_work_service.submit sinks proposal now lease_seconds) left right := by
  have hnormal : normalized proposal.to_requirement.work_id = proposal.proposal_id := proposal.proposal_id_normal.2
  unfold distributed_work_service.submit
  split
  · exact agree_throw _
  · apply agree_get
    rw [hinactive, hinactive', if_neg (by simp)]
    refine (agree_call (agree_place hakin hnormal hlease [])).bind ?_
    rintro decision left' right' ⟨live, live', _, hleft, hright⟩
    have hcalls' : left'.lifecycle_calls = right'.lifecycle_calls := by
      rw [hleft, hright]
      exact hcalls
    split
    · refine (agree_emit hcalls').bind ?_
      exact fun _ _ _ _ => agree_pure trivial
    · rename_i lease _
      apply agree_modify
      refine Agree.bind (Agree.tryCatch (agree_emit_offer proposal decision lease hcalls') ?_) ?_
      · intro error left'' right''
        apply agree_modify
        exact agree_throw error
      · exact fun _ _ _ _ => agree_pure trivial

theorem agree_declare {left right : LiveResourceAwareCoordinator} {work : String}
    (hakin : LiveResourceAwareCoordinator.Akin work left right) (hnormal : normalized work = work)
    (requirements : List ResourceRequirement) :
    Agree (fun _ left' right' => LiveResourceAwareCoordinator.Akin work left' right' ∧
        left'.coordinator = left.coordinator) (declare work requirements) (declare work requirements) left right := by
  have hlease : left.coordinator.lease_for work = right.coordinator.lease_for work := by
    unfold DistributedWorkCoordinator.lease_for
    rw [hakin.coordinator.leases]
  unfold declare
  apply agree_get
  rw [hnormal, ← hlease, ← hakin.declared]
  split
  · exact agree_throw _
  · split
    · exact agree_throw _
    · split
      · exact agree_throw _
      · split
        · exact agree_throw _
        · refine Or.inl ⟨(), _, _, rfl, rfl, ⟨hakin.coordinator, hakin.resource_service, hakin.reservations, ?_⟩, rfl⟩
          exact (Dict.get?_set_self _ _ _).trans (Dict.get?_set_self _ _ _).symm

theorem agree_submit_resource_aware (proposal : ResourceAwareWorkProposal)
    (hinactive : left.proposals.get? proposal.proposal.proposal_id = none)
    (hinactive' : right.proposals.get? proposal.proposal.proposal_id = none)
    (hcalls : left.lifecycle_calls = right.lifecycle_calls)
    (hakin : LiveResourceAwareCoordinator.Akin proposal.proposal.proposal_id left.coordinator right.coordinator)
    (hlease : left.coordinator.lease_at proposal.proposal.proposal_id = none) (now lease_seconds : ℚ) :
    Agree (fun _ _ _ => True) (submit_resource_aware sinks proposal now lease_seconds)
      (submit_resource_aware sinks proposal now lease_seconds) left right := by
  unfold submit_resource_aware
  refine (agree_call (agree_declare hakin proposal.proposal.proposal_id_normal.2 _)).bind ?_
  rintro _ left' right' ⟨live, live', ⟨hakin', hcoordinator⟩, hleft, hright⟩
  have hsubmitted : Agree (fun _ _ _ => True)
      (distributed_work_service.submit sinks proposal.proposal now lease_seconds)
      (distributed_work_service.submit sinks proposal.proposal now lease_seconds) left' right' := by
    refine agree_submit ?_ ?_ ?_ ?_ ?_ now lease_seconds
    · rw [hleft]
      exact hinactive
    · rw [hright]
      exact hinactive'
    · rw [hleft, hright]
      exact hcalls
    · rw [hleft, hright]
      exact hakin'
    · rw [hleft]
      change live.coordinator.leases.get? _ = none
      rw [hcoordinator]
      exact hlease
  refine Agree.bind (Agree.tryCatch hsubmitted ?_) ?_
  · intro error left' right'
    apply agree_modify
    exact agree_throw error
  · intro outcome left' right' _
    split
    · apply agree_modify
      exact agree_pure trivial
    · exact agree_pure trivial

/-- In every run, a submission of inactive work that no registered node is on record as having refused is decided as if
the work had never been submitted, with and without resource requirements. -/
theorem submission_leaves_no_residue (service : World DistributedWorkCoordinator) (resource_service : BodyResourceService)
    (start : World LiveResourceAwareCoordinator)
    (hbound : bind_live_resource_placement service resource_service = .ok start) (requests : List Request)
    (proposal : WorkProposal)
    (hinactive : (served sinks start requests).proposals.get? proposal.proposal_id = none)
    (hunrefused : Unrefused (served sinks start requests).coordinator proposal.proposal_id) (now lease_seconds : ℚ) :
    (distributed_work_service.submit sinks proposal now lease_seconds).result (served sinks start requests) =
        (distributed_work_service.submit sinks proposal now lease_seconds).result
          (without (served sinks start requests) proposal.proposal_id) ∧
      ∀ requirements hnonempty,
        (submit_resource_aware sinks ⟨proposal, requirements, hnonempty⟩ now lease_seconds).result
            (served sinks start requests) =
          (submit_resource_aware sinks ⟨proposal, requirements, hnonempty⟩ now lease_seconds).result
            (without (served sinks start requests) proposal.proposal_id) := by
  have hclear : Clear (served sinks start requests) := served_clear (bind_clear hbound) requests
  have habsent := hclear.idle _ hinactive
  have hakin := akin_closed habsent (hclear.undeclared _) hunrefused
  have hinactive' : (without (served sinks start requests) proposal.proposal_id).proposals.get? proposal.proposal_id =
      none := Dict.get?_pop_self _ _
  constructor
  · exact (agree_submit hinactive hinactive' rfl hakin habsent.lease now lease_seconds).result_eq
  · intro requirements hnonempty
    exact (agree_submit_resource_aware ⟨proposal, requirements, hnonempty⟩ hinactive hinactive' rfl hakin
      habsent.lease now lease_seconds).result_eq

end

open velvet.distributed_work_service (plain_node plain_proposal plain_result sinks_failing_at)

/-- A service for a body without nodes yet, in whose resource view node `a` has one byte of memory. -/
def unregistered_service [StrLower] : World DistributedWorkCoordinator := .new (.new (.new "body"))

def bound_service [StrLower] : World LiveResourceAwareCoordinator :=
  .new (.new (.new (.new "body")) (one_byte_service "a" text_a))

/-- A proposal that needs the byte. -/
def one_byte_proposal [StrLower] (proposal_id : String) (hnormal : distributed_work_service.IsNormalized proposal_id) :
    ResourceAwareWorkProposal := ⟨plain_proposal proposal_id hnormal, [one_byte], by simp⟩

def register_a [StrLower] : Request :=
  .register_node (plain_node "a" 1 0 .AVAILABLE 2 text_a full_health zero_beat Nat.two_pos)

/-- A work that was submitted before there was a node gets the node that registers later, as if it were new. -/
theorem submitted_before_node :
    letI := StrLower.ascii
    let sinks := sinks_failing_at none none
    let world := served sinks bound_service
      [.submit_resource_aware (one_byte_proposal "w1" (by decide)) 0 60, register_a]
    ((submit_resource_aware sinks (one_byte_proposal "w1" (by decide)) 0 60).result bound_service).toOption.map
        (fun outcome => outcome.node_id) = some none ∧
      (submit_resource_aware sinks (one_byte_proposal "w1" (by decide)) 0 60).result world =
        (submit_resource_aware sinks (one_byte_proposal "w1" (by decide)) 0 60).result (without world "w1") ∧
      ((submit_resource_aware sinks (one_byte_proposal "w1" (by decide)) 0 60).result world).toOption.map
        (fun outcome => outcome.node_id) = some (some "a") := by
  have hfacts : letI := StrLower.ascii
      let sinks := sinks_failing_at none none
      let world := served sinks bound_service
        [.submit_resource_aware (one_byte_proposal "w1" (by decide)) 0 60, register_a]
      (world.proposals.get? "w1").isNone = true ∧
        ∀ node_id ∈ world.coordinator.coordinator.registered_ids,
          node_id ∉ world.coordinator.coordinator.refused_by "w1" := by decide
  have hplaced : letI := StrLower.ascii
      let sinks := sinks_failing_at none none
      let world := served sinks bound_service
        [.submit_resource_aware (one_byte_proposal "w1" (by decide)) 0 60, register_a]
      ((submit_resource_aware sinks (one_byte_proposal "w1" (by decide)) 0 60).result bound_service).toOption.map
          (fun outcome => outcome.node_id) = some none ∧
        ((submit_resource_aware sinks (one_byte_proposal "w1" (by decide)) 0 60).result world).toOption.map
          (fun outcome => outcome.node_id) = some (some "a") := by decide +kernel
  let := StrLower.ascii
  have hsame := (submission_leaves_no_residue unregistered_service (one_byte_service "a" (by decide)) bound_service rfl
    [.submit_resource_aware (one_byte_proposal "w1" (by decide)) 0 60, register_a]
    (plain_proposal "w1" (by decide)) (Option.isNone_iff_eq_none.mp hfacts.1) hfacts.2 0 60).2 [one_byte] (by simp)
  exact ⟨hplaced.1, hsame, hplaced.2⟩

/-- Work `w1` holds the byte while `w2` is submitted, so that `w2` stays unplaced; then `w1` completes. The node is free
again, but a new submission of `w2` finds no node, since the node counts as having refused it; in a state that never saw
`w2`, the node gets it. -/
theorem refusals_outlive_submission :
    letI := StrLower.ascii
    let sinks := sinks_failing_at none none
    let submitted := served sinks bound_service
      [register_a, .submit_resource_aware (one_byte_proposal "w1" (by decide)) 0 60]
    let world := served sinks submitted [.submit_resource_aware (one_byte_proposal "w2" (by decide)) 0 60,
      .accept "w1" "a", .complete (plain_result "w1" "a" false (by decide) (by decide))]
    bind_live_resource_placement unregistered_service (one_byte_service "a" (by decide)) = .ok bound_service ∧
      ((submit_resource_aware sinks (one_byte_proposal "w2" (by decide)) 0 60).result submitted).toOption.map
        (fun outcome => outcome.node_id) = some none ∧
      (world.proposals.get? "w2").isNone = true ∧
      ((submit_resource_aware sinks (one_byte_proposal "w2" (by decide)) 0 60).result world).toOption.map
        (fun outcome => outcome.node_id) = some none ∧
      ((submit_resource_aware sinks (one_byte_proposal "w2" (by decide)) 0 60).result
        (without world "w2")).toOption.map (fun outcome => outcome.node_id) = some (some "a") := by
  refine ⟨rfl, ?_⟩
  decide +kernel

end velvet.resource_aware_work_proposals
