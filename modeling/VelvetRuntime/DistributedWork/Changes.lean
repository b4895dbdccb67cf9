import VelvetRuntime.DistributedWork.Runs

open python python.str python.Program velvet.distributed_work_coordinator

namespace velvet.distributed_work_service

variable [StrLower] {C : Type} [WorkCoordinator C]

/-- What one call of the service makes of its coordinator and of the active proposals, over any coordinator. -/
inductive Change (before : DistributedWorkService C) : C → Dict String WorkProposal → Prop where
  | kept : Change before before.coordinator before.proposals
  | registered (registry : VerifiedNodeRegistry) :
    Change before (WorkCoordinator.with_registry before.coordinator registry) before.proposals
  | unregistered (registry registry' : VerifiedNodeRegistry) :
    Change before (WorkCoordinator.with_registry (WorkCoordinator.with_registry before.coordinator registry) registry')
      before.proposals
  | placed (proposal : WorkProposal) (now lease_seconds : ℚ) (decision : WorkPlacementDecision) (lease : WorkLease)
    (hinactive : before.proposals.get? proposal.proposal_id = none)
    (hdecision : (WorkCoordinator.place before.coordinator proposal.to_requirement now lease_seconds).1 = .ok decision)
    (hlease : decision.lease = some lease) :
    Change before (WorkCoordinator.place before.coordinator proposal.to_requirement now lease_seconds).2
      (before.proposals.set proposal.proposal_id proposal)
  | unplaced (proposal : WorkProposal) (now lease_seconds : ℚ)
    (hinactive : before.proposals.get? proposal.proposal_id = none)
    (hnone : ∀ decision, (WorkCoordinator.place before.coordinator proposal.to_requirement now lease_seconds).1 =
      .ok decision → decision.lease = none) :
    Change before (WorkCoordinator.place before.coordinator proposal.to_requirement now lease_seconds).2 before.proposals
  | undone (proposal : WorkProposal) (now lease_seconds : ℚ) (decision : WorkPlacementDecision) (lease : WorkLease)
    (hinactive : before.proposals.get? proposal.proposal_id = none)
    (hdecision : (WorkCoordinator.place before.coordinator proposal.to_requirement now lease_seconds).1 = .ok decision)
    (hlease : decision.lease = some lease) :
    Change before (WorkCoordinator.complete
      (WorkCoordinator.place before.coordinator proposal.to_requirement now lease_seconds).2 proposal.proposal_id
      lease.node_id).2 before.proposals
  | refused (work node reason : String) (now lease_seconds : ℚ) (proposal : WorkProposal)
    (hactive : before.proposals.get? work = some proposal) (hnormal : normalized work = work) :
    Change before (WorkCoordinator.refuse_and_reassign before.coordinator work node reason now lease_seconds).2
      before.proposals
  | unclosed (work node : String) (proposal : WorkProposal) (hactive : before.proposals.get? work = some proposal) :
    Change before (WorkCoordinator.complete before.coordinator work node).2 before.proposals
  | completed (work node : String) (hnormal : normalized work = work)
    (hclosed : (WorkCoordinator.complete before.coordinator work node).1 = true) :
    Change before (WorkCoordinator.complete before.coordinator work node).2 (before.proposals.pop work)
  | recovered (now max_heartbeat_age lease_seconds : ℚ) :
    Change before
      (WorkCoordinator.recover_unavailable_nodes before.coordinator now max_heartbeat_age lease_seconds).2
      before.proposals

/-- The change from one state to another. -/
def Changed (before after : World C) : Prop :=
  Change before.toDistributedWorkService after.coordinator after.proposals

variable {sinks : Sinks} {world : World C} {raises : Error → World C → Prop}

/-- An emission leaves the coordinator and the proposals alone, whatever comes of it. -/
theorem wp_emit_tables {event_type : EventType} {subject_id : String} {payload : Payload}
    {returns : LifecycleEvidence → World C → Prop}
    (hreturns : ∀ evidence after, after.coordinator = world.coordinator → after.proposals = world.proposals →
      returns evidence after)
    (hraises : ∀ error after, after.coordinator = world.coordinator → after.proposals = world.proposals →
      raises error after) :
    wp (emit sinks event_type subject_id payload) returns raises world := by
  apply wp_emit
  · intro _ evidence _ _ _
    exact hreturns evidence _ rfl rfl
  · intro _ error
    exact hraises error _ rfl rfl

theorem register_node_changed (advertisement : NodeAdvertisement) :
    wp (register_node sinks advertisement) (fun _ => Changed world) (fun _ => Changed world) world := by
  unfold register_node
  simp only [wp_bind, wp_get, wp_set]
  split
  · exact .registered _
  · rw [wp_bind, wp_tryCatch]
    apply wp_emit
    · intro _ evidence _ _ _
      exact .registered _
    · intro _ error
      exact .unregistered _ _

variable (proposal : WorkProposal)

theorem emit_offer_tables (decision : WorkPlacementDecision) (lease : WorkLease) :
    wp (emit_offer sinks proposal decision lease)
      (fun _ after => after.coordinator = world.coordinator ∧ after.proposals = world.proposals)
      (fun _ after => after.coordinator = world.coordinator ∧ after.proposals = world.proposals) world := by
  unfold emit_offer
  rw [wp_bind]
  apply wp_emit_tables
  · intro offered after hcoordinator hproposals
    split
    · rw [wp_bind]
      apply wp_emit_tables
      · intro degraded last hcoordinator' hproposals'
        exact ⟨hcoordinator'.trans hcoordinator, hproposals'.trans hproposals⟩
      · intro error last hcoordinator' hproposals'
        exact ⟨hcoordinator'.trans hcoordinator, hproposals'.trans hproposals⟩
    · exact ⟨hcoordinator, hproposals⟩
  · intro error after hcoordinator hproposals
    exact ⟨hcoordinator, hproposals⟩

/-- A submission that returns has placed the work, or found no node for it. -/
theorem submit_changed (now lease_seconds : ℚ) :
    wp (submit sinks proposal now lease_seconds)
      (fun _ after => Changed world after ∧ world.proposals.get? proposal.proposal_id = none ∧
        (∃ decision, (WorkCoordinator.place world.coordinator proposal.to_requirement now lease_seconds).1 =
          .ok decision) ∧
        after.coordinator =
          (WorkCoordinator.place world.coordinator proposal.to_requirement now lease_seconds).2)
      (fun _ => Changed world) world := by
  unfold submit
  split
  · exact .kept
  · simp only [wp_bind, wp_get]
    split
    · exact .kept
    · rename_i hactive
      have hinactive : world.proposals.get? proposal.proposal_id = none := by simpa using hactive
      rw [wp_bind]
      apply wp_call
      · intro decision hdecision
        cases hlease : decision.lease with
        | none =>
          have hnone : ∀ found, (WorkCoordinator.place world.coordinator proposal.to_requirement now lease_seconds).1 =
              .ok found → found.lease = none := by
            intro found hfound
            cases hdecision.symm.trans hfound
            exact hlease
          dsimp only
          rw [wp_bind]
          apply wp_emit_tables
          · intro degraded after hcoordinator hproposals
            refine ⟨?_, hinactive, ⟨decision, hdecision⟩, hcoordinator⟩
            unfold Changed
            rw [hcoordinator, hproposals]
            exact .unplaced proposal now lease_seconds hinactive hnone
          · intro error after hcoordinator hproposals
            unfold Changed
            rw [hcoordinator, hproposals]
            exact .unplaced proposal now lease_seconds hinactive hnone
        | some lease =>
          simp only [wp_bind, wp_modify, wp_tryCatch]
          refine wp_mono (emit_offer_tables proposal decision lease) ?_ ?_
          · rintro lifecycle after ⟨hcoordinator, hproposals⟩
            refine ⟨?_, hinactive, ⟨decision, hdecision⟩, hcoordinator⟩
            unfold Changed
            rw [hcoordinator, hproposals]
            exact .placed proposal now lease_seconds decision lease hinactive hdecision hlease
          · rintro error after ⟨hcoordinator, hproposals⟩
            change Change _ _ _
            dsimp only
            rw [hcoordinator, hproposals, Dict.pop_set_self, Dict.pop_of_get?_none _ hinactive]
            exact .undone proposal now lease_seconds decision lease hinactive hdecision hlease
      · intro error herror
        refine .unplaced proposal now lease_seconds hinactive ?_
        intro decision hdecision
        cases herror.symm.trans hdecision

/-- The proposal and the lease that a request about active work needs. -/
theorem wp_required_lease {work_id node_id : String} {returns : WorkLease → World C → Prop}
    (hreturns : ∀ lease, returns lease world) (hraises : ∀ error, raises error world) :
    wp (required_owned_lease work_id node_id) returns raises world := by
  unfold required_owned_lease
  simp only [wp_bind, wp_get]
  split
  · exact hraises _
  · split
    · exact hraises _
    · exact hreturns _

theorem accept_changed (work_id node_id : String) :
    wp (accept sinks work_id node_id) (fun _ => Changed world) (fun _ => Changed world) world := by
  unfold accept
  dsimp only
  rw [wp_bind]
  apply wp_required_proposal
  · intro proposal hactive
    rw [wp_bind]
    apply wp_required_lease
    · intro lease
      rw [wp_bind]
      apply wp_emit_tables
      · intro evidence after hcoordinator hproposals
        change Change _ after.coordinator after.proposals
        rw [hcoordinator, hproposals]
        exact .kept
      · intro error after hcoordinator hproposals
        unfold Changed
        rw [hcoordinator, hproposals]
        exact .kept
    · exact fun _ => .kept
  · exact fun _ _ => .kept

theorem refuse_changed (work_id node_id reason : String) (now lease_seconds : ℚ) :
    wp (refuse sinks work_id node_id reason now lease_seconds) (fun _ => Changed world) (fun _ => Changed world)
      world := by
  have hkept : ∀ after : World C, after.coordinator = world.coordinator → after.proposals = world.proposals →
      Changed world after := by
    intro after hcoordinator hproposals
    unfold Changed
    rw [hcoordinator, hproposals]
    exact .kept
  unfold refuse
  dsimp only
  split
  · exact .kept
  · rw [wp_bind]
    apply wp_required_proposal
    · intro proposal hactive
      rw [normalized_normalized] at hactive
      rw [wp_bind]
      apply wp_required_lease
      · intro lease
        rw [wp_bind]
        apply wp_emit_tables
        · intro refused first hcoordinator hproposals
          rw [wp_bind]
          apply wp_emit_tables
          · intro requested second hcoordinator' hproposals'
            have hfirst : second.coordinator = world.coordinator := hcoordinator'.trans hcoordinator
            have hsecond : second.proposals = world.proposals := hproposals'.trans hproposals
            have hrefused : ∀ after : World C, after.coordinator = (WorkCoordinator.refuse_and_reassign
                second.coordinator (normalized work_id) (normalized node_id) (stripped reason) now lease_seconds).2 →
                after.proposals = second.proposals → Changed world after := by
              intro after hafter hsame
              unfold Changed
              rw [hafter, hsame, hfirst, hsecond]
              exact .refused _ _ _ now lease_seconds proposal hactive (normalized_normalized _)
            rw [wp_bind]
            apply wp_call
            · intro decision _
              rw [wp_bind, wp_modify]
              split
              · rw [wp_bind]
                apply wp_emit_tables
                · exact fun _ after => hrefused after
                · exact fun _ after => hrefused after
              · rw [wp_bind]
                apply wp_emit_tables
                · exact fun _ after => hrefused after
                · exact fun _ after => hrefused after
            · intro error _
              exact hrefused _ rfl rfl
          · intro error after hcoordinator' hproposals'
            exact hkept after (hcoordinator'.trans hcoordinator) (hproposals'.trans hproposals)
        · exact fun _ after => hkept after
      · exact fun _ => .kept
    · exact fun _ _ => .kept

theorem completion_evidence_tables (lease : WorkLease) (work_result : WorkResult) :
    wp (completion_evidence sinks proposal lease work_result)
      (fun _ after => after.coordinator = world.coordinator ∧ after.proposals = world.proposals)
      (fun _ after => after.coordinator = world.coordinator ∧ after.proposals = world.proposals) world := by
  unfold completion_evidence
  rw [wp_bind, wp_get]
  split
  · rw [wp_bind]
    apply wp_emit_tables
    · intro completion after hcoordinator hproposals
      exact ⟨hcoordinator, hproposals⟩
    · intro error after hcoordinator hproposals
      exact ⟨hcoordinator, hproposals⟩
  · split
    · exact ⟨rfl, rfl⟩
    · exact ⟨rfl, rfl⟩

omit [WorkCoordinator C] in
theorem escalate_tables (lease : WorkLease) (work_result : WorkResult) :
    wp (escalate sinks lease work_result)
      (fun _ after => after.coordinator = world.coordinator ∧ after.proposals = world.proposals)
      (fun _ after => after.coordinator = world.coordinator ∧ after.proposals = world.proposals) world := by
  unfold escalate
  split
  · rw [wp_bind]
    unfold send_to_queen
    split
    · exact ⟨rfl, rfl⟩
    · simp only [wp_bind, wp_get, wp_set]
      split
      · exact ⟨rfl, rfl⟩
      · exact ⟨rfl, rfl⟩
  · exact ⟨rfl, rfl⟩

theorem complete_changed (work_result : WorkResult) :
    wp (complete sinks work_result) (fun _ => Changed world) (fun _ => Changed world) world := by
  have hkept : ∀ after : World C, after.coordinator = world.coordinator ∧ after.proposals = world.proposals →
      Changed world after := by
    rintro after ⟨hcoordinator, hproposals⟩
    unfold Changed
    rw [hcoordinator, hproposals]
    exact .kept
  unfold complete
  rw [wp_bind]
  apply wp_required_proposal
  · intro proposal hactive
    rw [work_result.work_id_normal.2] at hactive
    rw [wp_bind]
    apply wp_required_lease
    · intro lease
      rw [wp_bind, wp_get]
      split
      · exact .kept
      · rw [wp_bind]
        refine wp_mono (completion_evidence_tables proposal lease work_result) ?_ (fun _ after => hkept after)
        rintro completion first ⟨hfirst, hfirst'⟩
        unfold close_completed
        rw [wp_bind]
        refine wp_mono (escalate_tables lease work_result) ?_ ?_
        · rintro escalated second ⟨hsecond, hsecond'⟩
          rw [wp_bind]
          apply wp_call
          · intro closed hclosed
            cases hclosed
            dsimp only
            rw [hsecond, hfirst]
            split
            · change Change _ _ second.proposals
              rw [hsecond', hfirst']
              exact .unclosed _ _ proposal hactive
            · rename_i hopen
              change Change _ _ (second.proposals.pop _)
              rw [hsecond', hfirst']
              rw [Bool.not_eq_true, Bool.not_eq_false'] at hopen
              exact .completed _ _ work_result.work_id_normal.2 hopen
          · intro error herror
            cases herror
        · rintro error after ⟨hcoordinator, hproposals⟩
          exact hkept after ⟨hcoordinator.trans hfirst, hproposals.trans hfirst'⟩
    · exact fun _ => .kept
  · exact fun _ _ => .kept

theorem recover_decisions_tables (prior : Dict String WorkLease) (decisions : List WorkPlacementDecision)
    (world : World C) :
    wp (recover_decisions sinks prior decisions)
      (fun _ after => after.coordinator = world.coordinator ∧ after.proposals = world.proposals)
      (fun _ after => after.coordinator = world.coordinator ∧ after.proposals = world.proposals) world := by
  induction decisions generalizing world with
  | nil => exact ⟨rfl, rfl⟩
  | cons decision rest ih =>
    have hdecision : wp (recover_decision sinks prior decision)
        (fun _ after => after.coordinator = world.coordinator ∧ after.proposals = world.proposals)
        (fun _ after => after.coordinator = world.coordinator ∧ after.proposals = world.proposals) world := by
      unfold recover_decision
      split
      · exact ⟨rfl, rfl⟩
      · rw [wp_bind]
        apply wp_required_proposal
        · intro proposal _
          split
          · exact ⟨rfl, rfl⟩
          · rw [wp_bind, wp_modify]
            split
            · rw [wp_bind]
              apply wp_emit_tables
              · exact fun _ _ hcoordinator hproposals => ⟨hcoordinator, hproposals⟩
              · exact fun _ _ hcoordinator hproposals => ⟨hcoordinator, hproposals⟩
            · rw [wp_bind]
              apply wp_emit_tables
              · exact fun _ _ hcoordinator hproposals => ⟨hcoordinator, hproposals⟩
              · exact fun _ _ hcoordinator hproposals => ⟨hcoordinator, hproposals⟩
        · exact fun _ _ => ⟨rfl, rfl⟩
    unfold recover_decisions
    rw [wp_bind]
    refine wp_mono hdecision ?_ (fun _ _ hend => hend)
    rintro outcome after ⟨hcoordinator, hproposals⟩
    rw [wp_bind]
    refine wp_mono (ih after) ?_ ?_
    · rintro outcomes last ⟨hcoordinator', hproposals'⟩
      exact ⟨hcoordinator'.trans hcoordinator, hproposals'.trans hproposals⟩
    · rintro error last ⟨hcoordinator', hproposals'⟩
      exact ⟨hcoordinator'.trans hcoordinator, hproposals'.trans hproposals⟩

theorem recover_changed (now max_heartbeat_age lease_seconds : ℚ) :
    wp (recover sinks now max_heartbeat_age lease_seconds) (fun _ => Changed world) (fun _ => Changed world) world := by
  unfold recover
  simp only [wp_bind, wp_get]
  apply wp_call
  · intro decisions _
    refine wp_mono (recover_decisions_tables _ decisions _) ?_ ?_
    · rintro outcomes after ⟨hcoordinator, hproposals⟩
      unfold Changed
      rw [hcoordinator, hproposals]
      exact .recovered now max_heartbeat_age lease_seconds
    · rintro error after ⟨hcoordinator, hproposals⟩
      unfold Changed
      rw [hcoordinator, hproposals]
      exact .recovered now max_heartbeat_age lease_seconds
  · intro error _
    exact .recovered now max_heartbeat_age lease_seconds

end velvet.distributed_work_service
