import VelvetRuntime.DistributedWork.Runs

open python python.str velvet.distributed_work_coordinator

namespace velvet.distributed_work_service

open Program DistributedWorkCoordinator

section

variable [StrLower]

/-- What ties the service's tables to the coordinator's: leases, acceptances and pending
completions only exist for active proposals. -/
structure Tied (service : DistributedWorkService DistributedWorkCoordinator) : Prop where
  keyed : ∀ key proposal, service.proposals.get? key = some proposal → proposal.proposal_id = key
  leased : ∀ key lease, service.coordinator.leases.get? key = some lease →
    (service.proposals.get? key).isSome = true
  accepted : ∀ work ∈ service.accepted, (service.proposals.get? work).isSome = true
  pending : ∀ work entry, service.pending_completion.get? work = some entry →
    (service.proposals.get? work).isSome = true ∧ entry.1.work_id = work

/-- The decisions after the one at which the loop of `recover` stops, counting lifecycle calls from
the given number. -/
def unreached (sinks : Sinks) (prior : Dict String WorkLease) :
    Nat → List WorkPlacementDecision → List WorkPlacementDecision
  | _, [] => []
  | calls, decision :: rest =>
    if (recovered_work decision prior).isOk && sinks.receipts calls then unreached sinks prior (calls + 1) rest
    else rest

/-- The leases as `recover` reads them before it calls the coordinator. -/
def Runtime.prior (world : Runtime) : Dict String WorkLease :=
  prior_leases world.coordinator.snapshot

omit [StrLower] in
/-- The comprehension over a snapshot keeps its leases in order. -/
theorem items_prior_leases (leases : List WorkLease) (prior : Dict String WorkLease)
    (hnodup : (leases.map WorkLease.work_id).Nodup) (hfresh : ∀ lease ∈ leases, prior.get? lease.work_id = none) :
    (leases.foldl (fun prior lease => prior.set lease.work_id lease) prior).items =
      prior.items ++ leases.map (fun lease => (lease.work_id, lease)) := by
  induction leases generalizing prior with
  | nil => simp
  | cons lease rest ih =>
    rw [List.map_cons, List.nodup_cons] at hnodup
    rw [List.foldl_cons, ih _ hnodup.2, Dict.items_set_of_get?_none _ _ (hfresh lease (by simp))]
    · simp
    · intro other hother
      have hne : other.work_id ≠ lease.work_id := by
        intro hsame
        exact hnodup.1 (hsame ▸ List.mem_map_of_mem hother)
      rw [Dict.get?_set_of_ne _ _ hne]
      exact hfresh other (List.mem_cons_of_mem _ hother)

/-- The leases `recover` reads are those of the coordinator's table. -/
theorem items_prior (world : Runtime) : world.prior.items = world.coordinator.leases.sorted_items := by
  have hkeys : world.coordinator.leases.sorted_items.map (fun entry => (entry.2.work_id, entry.2)) =
      world.coordinator.leases.sorted_items := by
    refine (List.map_congr_left ?_).trans (List.map_id _)
    intro entry hentry
    have hrecord := world.coordinator.leases_on_record entry ((Dict.mem_sorted_items _ _).mp hentry)
    exact Prod.ext hrecord.work_id_eq rfl
  have hnodup : (world.coordinator.snapshot.map WorkLease.work_id).Nodup := by
    have hfirst := congrArg (List.map Prod.fst) hkeys
    rw [List.map_map] at hfirst
    unfold DistributedWorkCoordinator.snapshot
    rw [List.map_map]
    exact hfirst ▸ Dict.nodup_sorted_items _
  unfold Runtime.prior prior_leases
  rw [items_prior_leases _ _ hnodup (fun _ _ => rfl)]
  unfold DistributedWorkCoordinator.snapshot
  rw [List.map_map]
  exact hkeys

theorem prior_get? (world : Runtime) (work : String) : world.prior.get? work = world.lease_of work := by
  apply Dict.get?_congr
  intro lease
  rw [items_prior, Dict.mem_sorted_items]

/-- Everything one call can do to the tables of the service. -/
inductive Effect (sinks : Sinks) :
    Operation → Runtime → Except Error (List DistributedWorkServiceOutcome) → Runtime → Prop where
  | unchanged {operation : Operation} {before after : Runtime} {error : Error}
    (hsame : after.toDistributedWorkService = before.toDistributedWorkService) (hquiet : Quiet before after) :
    Effect sinks operation before (.error error) after
  | registered {advertisement : NodeAdvertisement} {before after : Runtime}
    {result : Except Error (List DistributedWorkServiceOutcome)} (registry : VerifiedNodeRegistry)
    (hafter : after.toDistributedWorkService = { before.toDistributedWorkService with
      coordinator := { before.coordinator with registry } })
    (hquiet : Quiet before after) :
    Effect sinks (.register_node advertisement) before result after
  | not_offered {proposal : WorkProposal} {now lease_seconds : ℚ} {before after : Runtime}
    {result : Except Error (List DistributedWorkServiceOutcome)}
    (hnew : before.proposals.get? proposal.proposal_id = none)
    (hunplaced : ∀ decision, (before.coordinator.place proposal.to_requirement now lease_seconds []).1 =
      .ok decision → decision.lease = none)
    (hafter : after.toDistributedWorkService = { before.toDistributedWorkService with
      coordinator := (before.coordinator.place proposal.to_requirement now lease_seconds []).2 })
    (hquiet : Quiet before after) :
    Effect sinks (.submit proposal now lease_seconds) before result after
  | offered {proposal : WorkProposal} {now lease_seconds : ℚ} {before after : Runtime}
    {outcome : DistributedWorkServiceOutcome} (decision : WorkPlacementDecision) (lease : WorkLease)
    (hnew : before.proposals.get? proposal.proposal_id = none)
    (hdecision : (before.coordinator.place proposal.to_requirement now lease_seconds []).1 = .ok decision)
    (hlease : decision.lease = some lease)
    (hafter : after.toDistributedWorkService = { before.toDistributedWorkService with
      coordinator := (before.coordinator.place proposal.to_requirement now lease_seconds []).2
      proposals := before.proposals.set proposal.proposal_id proposal })
    (hquiet : Quiet before after) :
    Effect sinks (.submit proposal now lease_seconds) before (.ok [outcome]) after
  | offer_withdrawn {proposal : WorkProposal} {now lease_seconds : ℚ} {before after : Runtime}
    {error : Error} (decision : WorkPlacementDecision) (lease : WorkLease)
    (hnew : before.proposals.get? proposal.proposal_id = none)
    (hdecision : (before.coordinator.place proposal.to_requirement now lease_seconds []).1 = .ok decision)
    (hlease : decision.lease = some lease)
    (hafter : after.toDistributedWorkService = { before.toDistributedWorkService with
      coordinator := ((before.coordinator.place proposal.to_requirement now lease_seconds []).2.complete
        proposal.proposal_id lease.node_id).2
      proposals := (before.proposals.set proposal.proposal_id proposal).pop proposal.proposal_id })
    (hquiet : Quiet before after) :
    Effect sinks (.submit proposal now lease_seconds) before (.error error) after
  | accepted {work_id node_id : String} {before after : Runtime} {outcome : DistributedWorkServiceOutcome}
    (lease : WorkLease) (hactive : (before.proposals.get? (normalized work_id)).isSome = true)
    (hlease : before.lease_of (normalized work_id) = some lease) (hnode : lease.node_id = normalized node_id)
    (hafter : after.toDistributedWorkService = { before.toDistributedWorkService with
      accepted := before.accepted.insert (normalized work_id) })
    (hquiet : Quiet before after) :
    Effect sinks (.accept work_id node_id) before (.ok [outcome]) after
  | reassigned {work_id node_id reason : String} {now lease_seconds : ℚ} {before after : Runtime}
    {result : Except Error (List DistributedWorkServiceOutcome)} (lease : WorkLease)
    (hlease : before.lease_of (normalized work_id) = some lease) (hnode : lease.node_id = normalized node_id)
    (hreason : ¬ Blank reason) (hrefused : sinks.receipts before.lifecycle_calls = true)
    (hrequested : sinks.receipts (before.lifecycle_calls + 1) = true)
    (hafter : after.toDistributedWorkService = { before.toDistributedWorkService with
      coordinator := (before.coordinator.refuse_and_reassign (normalized work_id) (normalized node_id)
        (stripped reason) now lease_seconds).2
      accepted := match (before.coordinator.refuse_and_reassign (normalized work_id) (normalized node_id)
          (stripped reason) now lease_seconds).1 with
        | .ok _ => discard before.accepted (normalized work_id)
        | .error _ => before.accepted })
    (hquiet : Quiet before after) :
    Effect sinks (.refuse work_id node_id reason now lease_seconds) before result after
  | completion_pending {work_result : WorkResult} {before after : Runtime} {error : Error} (lease : WorkLease)
    (evidence : LifecycleEvidence) (hlease : before.lease_of work_result.work_id = some lease)
    (hnode : lease.node_id = work_result.node_id) (haccepted : work_result.work_id ∈ before.accepted)
    (hnone : before.pending_completion.get? work_result.work_id = none)
    (hafter : after.toDistributedWorkService = { before.toDistributedWorkService with
      pending_completion := before.pending_completion.set work_result.work_id (work_result, evidence) })
    (hjournal : after.journal = before.journal ++ [evidence])
    (htype : evidence.event_type = .WORK_COMPLETED) (hsubject : evidence.subject_id = work_result.work_id) :
    Effect sinks (.complete work_result) before (.error error) after
  | completed {work_result : WorkResult} {before after : Runtime} {outcome : DistributedWorkServiceOutcome}
    (lease : WorkLease) (hlease : before.lease_of work_result.work_id = some lease)
    (hnode : lease.node_id = work_result.node_id) (haccepted : work_result.work_id ∈ before.accepted)
    (hafter : after.toDistributedWorkService =
      { coordinator := (before.coordinator.complete work_result.work_id work_result.node_id).2
        proposals := before.proposals.pop work_result.work_id
        accepted := discard before.accepted work_result.work_id
        pending_completion := before.pending_completion.pop work_result.work_id })
    (hjournal : (∃ evidence, before.pending_completion.get? work_result.work_id = some (work_result, evidence) ∧
        after.journal = before.journal) ∨
      (∃ evidence, before.pending_completion.get? work_result.work_id = none ∧
        after.journal = before.journal ++ [evidence] ∧ evidence.event_type = .WORK_COMPLETED ∧
        evidence.subject_id = work_result.work_id)) :
    Effect sinks (.complete work_result) before (.ok [outcome]) after
  | recovered {now max_heartbeat_age lease_seconds : ℚ} {before after : Runtime}
    {result : Except Error (List DistributedWorkServiceOutcome)} (accepted : List String)
    (hafter : after.toDistributedWorkService = { before.toDistributedWorkService with
      coordinator := (before.coordinator.recover_unavailable_nodes now max_heartbeat_age lease_seconds).2
      accepted })
    (hsubset : ∀ work ∈ accepted, work ∈ before.accepted)
    (hdiscarded : ∀ decisions,
      (before.coordinator.recover_unavailable_nodes now max_heartbeat_age lease_seconds).1 = .ok decisions →
      ∀ decision ∈ decisions, ∀ lease, decision.lease = some lease → lease.work_id ∈ accepted →
        decision ∈ unreached sinks before.prior before.lifecycle_calls decisions)
    (hquiet : Quiet before after) :
    Effect sinks (.recover now max_heartbeat_age lease_seconds) before result after

variable {sinks : Sinks} {world : Runtime}

theorem register_node_effect (advertisement : NodeAdvertisement) :
    wp (register_node sinks advertisement)
      (fun _ => Effect sinks (.register_node advertisement) world (.ok []))
      (fun error => Effect sinks (.register_node advertisement) world (.error error)) world := by
  unfold register_node
  simp only [wp_bind, wp_get, wp_set]
  split
  · exact .registered _ rfl (.of_eq rfl)
  · rw [wp_bind, wp_tryCatch]
    apply wp_emit
    · intro _ evidence htype _ _
      exact .registered _ rfl (.of_emit rfl (by simp [htype]))
    · intro _ error
      exact .registered _ rfl (.of_eq rfl)

variable (proposal : WorkProposal)

/-- The two emissions of a placed submission leave the tables alone. -/
theorem emit_offer_frame (decision : WorkPlacementDecision) (lease : WorkLease) :
    wp (emit_offer sinks proposal decision lease)
      (fun _ after => after.toDistributedWorkService = world.toDistributedWorkService ∧ Quiet world after)
      (fun _ after => after.toDistributedWorkService = world.toDistributedWorkService ∧ Quiet world after)
      world := by
  unfold emit_offer
  rw [wp_bind]
  apply wp_emit
  · intro _ offered hoffered _ _
    have htype : offered.event_type ≠ .WORK_COMPLETED := by simp [hoffered]
    split
    · rw [wp_bind]
      apply wp_emit
      · intro _ degraded hdegraded _ _
        exact ⟨rfl, (Quiet.of_emit rfl htype).trans (.of_emit rfl (by simp [hdegraded]))⟩
      · intro _ error
        exact ⟨rfl, .of_emit rfl htype⟩
    · exact ⟨rfl, .of_emit rfl htype⟩
  · intro _ error
    exact ⟨rfl, .of_eq rfl⟩

theorem submit_effect (now lease_seconds : ℚ) :
    wp (submit sinks proposal now lease_seconds)
      (fun outcome => Effect sinks (.submit proposal now lease_seconds) world (.ok [outcome]))
      (fun error => Effect sinks (.submit proposal now lease_seconds) world (.error error)) world := by
  unfold submit
  split
  · exact .unchanged rfl (.refl world)
  · rw [wp_bind, wp_get]
    split
    · exact .unchanged rfl (.refl world)
    · rename_i hnew
      rw [Bool.not_eq_true, Option.isSome_eq_false_iff, Option.isNone_iff_eq_none] at hnew
      rw [wp_bind]
      apply wp_call
      · intro decision hdecision
        cases hlease : decision.lease with
        | none =>
          have hunplaced : ∀ other, (world.coordinator.place proposal.to_requirement now lease_seconds []).1 =
              .ok other → other.lease = none := by
            intro other hother
            cases hother.symm.trans hdecision
            exact hlease
          rw [wp_bind]
          apply wp_emit
          · intro _ degraded hdegraded _ _
            exact .not_offered hnew hunplaced rfl (.of_emit rfl (by simp [hdegraded]))
          · intro _ error
            exact .not_offered hnew hunplaced rfl (.of_eq rfl)
        | some lease =>
          dsimp only
          rw [wp_bind, wp_modify, wp_bind, wp_tryCatch]
          apply wp_mono (emit_offer_frame proposal decision lease)
          · rintro lifecycle after ⟨htables, hquiet⟩
            exact .offered decision lease hnew hdecision hlease htables hquiet
          · rintro error after ⟨htables, hquiet⟩
            rw [wp_bind, wp_modify, wp_throw]
            refine .offer_withdrawn decision lease hnew hdecision hlease ?_ (hquiet.trans (.of_eq rfl))
            have hcoordinator := congrArg DistributedWorkService.coordinator htables
            have hproposals := congrArg DistributedWorkService.proposals htables
            have haccepted := congrArg DistributedWorkService.accepted htables
            have hpending := congrArg DistributedWorkService.pending_completion htables
            dsimp only at hcoordinator hproposals haccepted hpending ⊢
            rw [hcoordinator, hproposals, haccepted, hpending]
            rfl
      · intro error herror
        refine .not_offered hnew ?_ rfl (.of_eq rfl)
        intro decision hdecision
        cases hdecision.symm.trans herror

theorem accept_effect (work_id node_id : String) :
    wp (accept sinks work_id node_id)
      (fun outcome => Effect sinks (.accept work_id node_id) world (.ok [outcome]))
      (fun error => Effect sinks (.accept work_id node_id) world (.error error)) world := by
  unfold accept
  rw [wp_bind]
  apply wp_required_proposal
  · intro proposal hproposal
    rw [wp_bind]
    apply wp_required_owned_lease
    · intro lease hlease hnode
      simp only [normalized_normalized] at hproposal hlease hnode
      rw [wp_bind]
      apply wp_emit
      · intro _ evidence htype _ _
        exact .accepted lease (by simp [hproposal]) hlease hnode rfl (.of_emit rfl (by simp [htype]))
      · intro _ error
        exact .unchanged rfl (.of_eq rfl)
    · intro error
      exact .unchanged rfl (.refl world)
  · intro _ error
    exact .unchanged rfl (.refl world)

theorem refuse_effect (work_id node_id reason : String) (now lease_seconds : ℚ) :
    wp (refuse sinks work_id node_id reason now lease_seconds)
      (fun outcome => Effect sinks (.refuse work_id node_id reason now lease_seconds) world (.ok [outcome]))
      (fun error => Effect sinks (.refuse work_id node_id reason now lease_seconds) world (.error error))
      world := by
  unfold refuse
  dsimp only
  split
  · exact .unchanged rfl (.refl world)
  · rename_i hreason
    rw [wp_bind]
    apply wp_required_proposal
    · intro proposal hproposal
      rw [wp_bind]
      apply wp_required_owned_lease
      · intro lease hlease hnode
        simp only [normalized_normalized] at hlease hnode
        rw [wp_bind]
        apply wp_emit
        · intro hfirst refused hrefused _ _
          rw [wp_bind]
          apply wp_emit
          · intro hsecond requested hrequested _ _
            have hquiet : ∀ after : Runtime, after.journal = world.journal ++ [refused] ++ [requested] →
                Quiet world after := by
              intro after hjournal
              refine ⟨[refused, requested], by simp [hjournal], ?_⟩
              simp [hrefused, hrequested]
            rw [wp_bind]
            apply wp_call
            · intro decision hdecision
              replace hdecision : (world.coordinator.refuse_and_reassign (normalized work_id)
                (normalized node_id) (stripped reason) now lease_seconds).1 = .ok decision := hdecision
              rw [wp_bind, wp_modify]
              cases hplaced : decision.lease with
              | none =>
                rw [wp_bind]
                apply wp_emit
                · intro _ degraded hdegraded _ _
                  refine .reassigned lease hlease hnode hreason hfirst hsecond ?_
                    ((hquiet _ rfl).trans (.of_emit rfl (by simp [hdegraded])))
                  rw [hdecision]
                  rfl
                · intro _ error
                  refine .reassigned lease hlease hnode hreason hfirst hsecond ?_ (hquiet _ rfl)
                  rw [hdecision]
                  rfl
              | some new_lease =>
                rw [wp_bind]
                apply wp_emit
                · intro _ offered hoffered _ _
                  refine .reassigned lease hlease hnode hreason hfirst hsecond ?_
                    ((hquiet _ rfl).trans (.of_emit rfl (by simp [hoffered])))
                  rw [hdecision]
                  rfl
                · intro _ error
                  refine .reassigned lease hlease hnode hreason hfirst hsecond ?_ (hquiet _ rfl)
                  rw [hdecision]
                  rfl
            · intro error herror
              replace herror : (world.coordinator.refuse_and_reassign (normalized work_id)
                (normalized node_id) (stripped reason) now lease_seconds).1 = .error error := herror
              refine .reassigned lease hlease hnode hreason hfirst hsecond ?_ (hquiet _ rfl)
              rw [herror]
              rfl
          · intro _ error
            exact .unchanged rfl (.of_emit rfl (by simp [hrefused]))
        · intro _ error
          exact .unchanged rfl (.of_eq rfl)
      · intro error
        exact .unchanged rfl (.refl world)
    · intro _ error
      exact .unchanged rfl (.refl world)

variable {work_result : WorkResult}

/-- The completion evidence is either emitted now and kept as pending, or it is the pending one. -/
theorem wp_completion_evidence {proposal : WorkProposal} {lease : WorkLease}
    {returns : LifecycleEvidence → Runtime → Prop} {raises : Error → Runtime → Prop}
    (hfresh : world.pending_completion.get? work_result.work_id = none → ∀ evidence : LifecycleEvidence,
      evidence.event_type = .WORK_COMPLETED → evidence.subject_id = work_result.work_id →
      returns evidence { world with
        lifecycle_calls := world.lifecycle_calls + 1
        journal := world.journal ++ [evidence]
        pending_completion := world.pending_completion.set work_result.work_id (work_result, evidence) })
    (hretry : ∀ evidence, world.pending_completion.get? work_result.work_id = some (work_result, evidence) →
      returns evidence world)
    (hraises : ∀ error after, after.toDistributedWorkService = world.toDistributedWorkService →
      Quiet world after → raises error after) :
    wp (completion_evidence sinks proposal lease work_result) returns raises world := by
  unfold completion_evidence
  rw [wp_bind, wp_get]
  cases hpending : world.pending_completion.get? work_result.work_id with
  | none =>
    dsimp only
    rw [wp_bind]
    apply wp_emit
    · intro _ evidence htype hsubject _
      rw [work_result.work_id_normal.2] at hsubject
      exact hfresh hpending evidence htype hsubject
    · intro _ error
      exact hraises error _ rfl (.of_eq rfl)
  | some entry =>
    obtain ⟨pending_result, evidence⟩ := entry
    dsimp only
    by_cases hsame : pending_result = work_result
    · subst hsame
      rw [if_neg (not_not_intro rfl)]
      exact hretry evidence hpending
    · rw [if_pos hsame]
      exact hraises _ world rfl (.refl world)

/-- The Queen's sink does not touch the service. -/
theorem send_to_queen_frame :
    wp (send_to_queen sinks) (fun _ after => after = { world with queen_calls := after.queen_calls })
      (fun _ after => after = { world with queen_calls := after.queen_calls }) world := by
  unfold send_to_queen
  split
  · rfl
  · rename_i queen hqueen
    simp only [wp_bind, wp_get, wp_set]
    split <;> rfl

/-- After the completion evidence the Queen may fail; if she does not, the lease is closed and the
work leaves the tables. -/
theorem close_completed_effect {lease : WorkLease} (completion : LifecycleEvidence)
    (hlease : world.lease_of work_result.work_id = some lease) (hnode : lease.node_id = work_result.node_id) :
    wp (close_completed sinks lease work_result completion)
      (fun _ after => after.journal = world.journal ∧ after.toDistributedWorkService =
        { coordinator := (world.coordinator.complete work_result.work_id work_result.node_id).2
          proposals := world.proposals.pop work_result.work_id
          accepted := discard world.accepted work_result.work_id
          pending_completion := world.pending_completion.pop work_result.work_id })
      (fun _ after => after.journal = world.journal ∧
        after.toDistributedWorkService = world.toDistributedWorkService) world := by
  have hqueen : wp (escalate sinks lease work_result)
      (fun _ after => after = { world with queen_calls := after.queen_calls })
      (fun _ after => after = { world with queen_calls := after.queen_calls }) world := by
    unfold escalate
    split
    · rw [wp_bind]
      exact send_to_queen_frame
    · rfl
  unfold close_completed
  rw [wp_bind]
  apply wp_mono hqueen
  · intro _ after hafter
    rw [hafter, wp_bind]
    apply wp_call
    · intro closed hclosed
      have hcomplete := DistributedWorkCoordinator.complete_owned hlease hnode
      have htrue : closed = true := by
        change Except.ok (world.coordinator.complete work_result.work_id work_result.node_id).1 = _ at hclosed
        rw [hcomplete] at hclosed
        cases hclosed
        rfl
      subst htrue
      exact ⟨rfl, rfl⟩
    · intro error herror
      cases herror
  · intro error after hafter
    rw [hafter]
    exact ⟨rfl, rfl⟩

theorem complete_effect (work_result : WorkResult) :
    wp (complete sinks work_result)
      (fun outcome => Effect sinks (.complete work_result) world (.ok [outcome]))
      (fun error => Effect sinks (.complete work_result) world (.error error)) world := by
  unfold complete
  rw [wp_bind]
  apply wp_required_proposal
  · intro proposal hproposal
    rw [wp_bind]
    apply wp_required_owned_lease
    · intro lease hlease hnode
      rw [normalized_normalized, work_result.work_id_normal.2] at hlease
      rw [work_result.node_id_normal.2] at hnode
      rw [wp_bind, wp_get]
      split
      · exact .unchanged rfl (.refl world)
      · rename_i haccepted
        rw [not_not] at haccepted
        rw [wp_bind]
        apply wp_completion_evidence
        · intro hnone evidence htype hsubject
          apply wp_mono (close_completed_effect evidence (by exact hlease) hnode)
          · rintro outcome after ⟨hjournal, htables⟩
            refine .completed lease hlease hnode haccepted ?_ (.inr ⟨evidence, hnone, hjournal, htype, hsubject⟩)
            rw [htables]
            simp
          · rintro error after ⟨hjournal, htables⟩
            exact .completion_pending lease evidence hlease hnode haccepted hnone htables hjournal htype hsubject
        · intro evidence hpending
          apply wp_mono (close_completed_effect evidence hlease hnode)
          · rintro outcome after ⟨hjournal, htables⟩
            exact .completed lease hlease hnode haccepted htables (.inl ⟨evidence, hpending, hjournal⟩)
          · rintro error after ⟨hjournal, htables⟩
            exact .unchanged htables (.of_eq hjournal)
        · intro error after hsame hquiet
          exact .unchanged hsame hquiet
    · intro error
      exact .unchanged rfl (.refl world)
  · intro _ error
    exact .unchanged rfl (.refl world)

variable {decision : WorkPlacementDecision}

/-- A pass of the recovery loop that knows its work discards the acceptance, whether or not its
evidence is receipted afterwards. -/
theorem wp_recover_decision {prior : Dict String WorkLease} {work : String}
    {returns : DistributedWorkServiceOutcome → Runtime → Prop} {raises : Error → Runtime → Prop}
    (hwork : recovered_work decision prior = .ok work)
    (hactive : (world.proposals.get? (normalized work)).isSome = true) (hprior : (prior.get? work).isSome = true)
    (hreturns : sinks.receipts world.lifecycle_calls = true → ∀ (outcome : DistributedWorkServiceOutcome)
      (evidence : LifecycleEvidence), evidence.event_type ≠ .WORK_COMPLETED → outcome.work_id = work →
      outcome.node_id = decision.lease.map WorkLease.node_id →
      returns outcome { world with
        accepted := discard world.accepted work
        lifecycle_calls := world.lifecycle_calls + 1
        journal := world.journal ++ [evidence] })
    (hraises : sinks.receipts world.lifecycle_calls = false → ∀ error, raises error { world with
      accepted := discard world.accepted work
      lifecycle_calls := world.lifecycle_calls + 1 }) :
    wp (recover_decision sinks prior decision) returns raises world := by
  obtain ⟨old_lease, hold⟩ := Option.isSome_iff_exists.mp hprior
  unfold recover_decision
  rw [hwork]
  dsimp only
  rw [wp_bind]
  apply wp_required_proposal
  · intro proposal _
    rw [hold]
    dsimp only
    rw [wp_bind, wp_modify]
    cases hlease : decision.lease with
    | none =>
      dsimp only
      rw [wp_bind]
      apply wp_emit
      · intro hreceipt evidence htype _ _
        exact hreturns hreceipt _ evidence (by simp [htype]) rfl (by simp [hlease, unplaced_outcome])
      · intro hfail error
        exact hraises hfail error
    | some lease =>
      have hsame : lease.work_id = work := by
        unfold recovered_work at hwork
        rw [hlease] at hwork
        cases hwork
        rfl
      dsimp only
      rw [wp_bind]
      apply wp_emit
      · intro hreceipt evidence htype _ _
        exact hreturns hreceipt _ evidence (by simp [htype]) hsame (by simp [hlease, outcome_from_decision])
      · intro hfail error
        exact hraises hfail error
  · intro hnone
    rw [hnone] at hactive
    cases hactive

/-- What the recovery loop leaves of the acceptances: no work of a decision it got to. -/
def Swept (sinks : Sinks) (prior : Dict String WorkLease) (decisions : List WorkPlacementDecision)
    (before after : Runtime) : Prop :=
  ∃ accepted, after.toDistributedWorkService = { before.toDistributedWorkService with accepted } ∧
    (∀ work ∈ accepted, work ∈ before.accepted) ∧
    (∀ decision ∈ decisions, ∀ work, recovered_work decision prior = .ok work → work ∈ accepted →
      decision ∈ unreached sinks prior before.lifecycle_calls decisions) ∧
    Quiet before after

theorem recover_decisions_swept (sinks : Sinks) (prior : Dict String WorkLease) (decisions : List WorkPlacementDecision)
    (world : Runtime) (hknown : ∀ decision ∈ decisions, ∀ work, recovered_work decision prior = .ok work →
      (world.proposals.get? (normalized work)).isSome = true ∧ (prior.get? work).isSome = true) :
    wp (recover_decisions sinks prior decisions) (fun _ => Swept sinks prior decisions world)
      (fun _ => Swept sinks prior decisions world) world := by
  induction decisions generalizing world with
  | nil => exact ⟨world.accepted, rfl, fun _ hmem => hmem, by simp, .refl world⟩
  | cons decision rest ih =>
    unfold recover_decisions
    rw [wp_bind]
    cases hwork : recovered_work decision prior with
    | error error =>
      unfold recover_decision
      rw [hwork]
      refine ⟨world.accepted, rfl, fun _ hmem => hmem, ?_, .refl world⟩
      intro other hother work hok _
      rw [unreached, hwork]
      rcases List.mem_cons.mp hother with rfl | hrest
      · rw [hwork] at hok
        cases hok
      · exact hrest
    | ok work =>
      obtain ⟨hactive, hprior⟩ := hknown decision (by simp) work hwork
      apply wp_recover_decision hwork hactive hprior
      · intro hreceipt outcome evidence htype _ _
        rw [wp_bind]
        have hrest := ih { world with
          accepted := discard world.accepted work
          lifecycle_calls := world.lifecycle_calls + 1
          journal := world.journal ++ [evidence] }
          (fun other hother => hknown other (List.mem_cons_of_mem _ hother))
        -- The rest of the loop starts without this work among the acceptances.
        have hswept : ∀ after, Swept sinks prior rest { world with
            accepted := discard world.accepted work
            lifecycle_calls := world.lifecycle_calls + 1
            journal := world.journal ++ [evidence] } after → Swept sinks prior (decision :: rest) world after := by
          rintro after ⟨accepted, htables, hsubset, hunreached, hquiet⟩
          refine ⟨accepted, htables, ?_, ?_, (Quiet.of_emit rfl htype).trans hquiet⟩
          · intro other hother
            exact (mem_discard.mp (hsubset other hother)).1
          · intro other hother found hfound hmem
            rw [unreached, hwork, hreceipt]
            rcases List.mem_cons.mp hother with rfl | hother
            · rw [hwork] at hfound
              cases hfound
              exact absurd rfl (mem_discard.mp (hsubset _ hmem)).2
            · exact hunreached other hother found hfound hmem
        apply wp_mono hrest
        · intro outcomes after hafter
          exact hswept after hafter
        · intro error after hafter
          exact hswept after hafter
      · intro hfail error
        refine ⟨discard world.accepted work, rfl, fun _ hmem => (mem_discard.mp hmem).1, ?_, .of_eq rfl⟩
        intro other hother found hfound hmem
        rw [unreached, hwork, hfail]
        rcases List.mem_cons.mp hother with rfl | hrest
        · rw [hwork] at hfound
          cases hfound
          exact absurd rfl (mem_discard.mp hmem).2
        · exact hrest

omit [StrLower] in
/-- An unplaced decision is attributed to a work that held a lease. -/
theorem get?_of_work_id_from_recovery_reason {prior : Dict String WorkLease} {work : String}
    (hwork : work_id_from_recovery_reason decision prior = .ok work) : (prior.get? work).isSome = true := by
  unfold work_id_from_recovery_reason at hwork
  split at hwork
  · rename_i found hmatches
    cases hwork
    have hmem : work ∈ (prior.items.filter (fun entry =>
        entry.2.node_id ∈ recovery_nodes decision)).map Prod.fst := by simp [hmatches]
    obtain ⟨entry, hentry, rfl⟩ := List.mem_map.mp hmem
    have hget := (Dict.get?_eq_some_iff prior entry.1 entry.2).mpr (List.mem_of_mem_filter hentry)
    simp [hget]
  · cases hwork

variable {now max_heartbeat_age lease_seconds : ℚ} {decisions : List WorkPlacementDecision}

/-- Whatever work a recovery decision is about, it held a lease before. -/
theorem lease_of_recovered_work
    {work : String}
    (hdecisions : (world.coordinator.recover_unavailable_nodes now max_heartbeat_age lease_seconds).1 =
      .ok decisions) (hmem : decision ∈ decisions) (hwork : recovered_work decision world.prior = .ok work) :
    (world.lease_of work).isSome = true := by
  rw [← prior_get?]
  unfold recovered_work at hwork
  cases hlease : decision.lease with
  | none =>
    rw [hlease] at hwork
    exact get?_of_work_id_from_recovery_reason hwork
  | some lease =>
    rw [hlease] at hwork
    cases hwork
    rcases world.coordinator.recover_unavailable_nodes_leases now max_heartbeat_age lease_seconds with
      ⟨error, herror⟩ | ⟨failed, _, _, hok, _⟩
    · rw [herror] at hdecisions
      cases hdecisions
    · obtain ⟨entry, hentry, hrecovered⟩ :=
        exists_left_of_forall₂ (hok decisions hdecisions) hmem
      have hleased := ((world.coordinator.mem_recovery_leases_iff failed now entry.1 entry.2).mp hentry).1
      rw [prior_get?, (hrecovered.new_lease lease hlease).work_id_eq]
      exact Option.isSome_of_eq_some hleased

/-- The works that recovery decisions are about are active. -/
theorem recovered_work_known (htied : Tied world.toDistributedWorkService)
    (hdecisions : (world.coordinator.recover_unavailable_nodes now max_heartbeat_age lease_seconds).1 =
      .ok decisions) :
    ∀ decision ∈ decisions, ∀ work, recovered_work decision world.prior = .ok work →
      (world.proposals.get? (normalized work)).isSome = true ∧ (world.prior.get? work).isSome = true := by
  intro decision hmem work hwork
  obtain ⟨lease, hlease⟩ := Option.isSome_iff_exists.mp (lease_of_recovered_work hdecisions hmem hwork)
  rw [(world.coordinator.record_of_lease hlease).normal, prior_get?, hlease]
  exact ⟨htied.leased work lease hlease, rfl⟩

theorem recover_effect (htied : Tied world.toDistributedWorkService) (now max_heartbeat_age lease_seconds : ℚ) :
    wp (recover sinks now max_heartbeat_age lease_seconds)
      (fun outcomes => Effect sinks (.recover now max_heartbeat_age lease_seconds) world (.ok outcomes))
      (fun error => Effect sinks (.recover now max_heartbeat_age lease_seconds) world (.error error))
      world := by
  unfold recover
  rw [wp_bind, wp_get]
  dsimp only
  rw [wp_bind]
  apply wp_call
  · intro decisions hdecisions
    replace hdecisions : (world.coordinator.recover_unavailable_nodes now max_heartbeat_age lease_seconds).1 =
      .ok decisions := hdecisions
    have hswept := recover_decisions_swept sinks world.prior decisions { world with
      coordinator := (world.coordinator.recover_unavailable_nodes now max_heartbeat_age lease_seconds).2 }
      (recovered_work_known htied hdecisions)
    have heffect : ∀ after result, Swept sinks world.prior decisions { world with
          coordinator := (world.coordinator.recover_unavailable_nodes now max_heartbeat_age lease_seconds).2 }
          after →
        Effect sinks (.recover now max_heartbeat_age lease_seconds) world result after := by
      rintro after result ⟨accepted, htables, hsubset, hunreached, hquiet⟩
      refine .recovered accepted htables hsubset ?_ hquiet
      intro others hothers decision hmem lease hlease haccepted
      cases hothers.symm.trans hdecisions
      exact hunreached decision hmem lease.work_id (by simp [recovered_work, hlease]) haccepted
    apply wp_mono hswept
    · intro outcomes after hafter
      exact heffect after _ hafter
    · intro error after hafter
      exact heffect after _ hafter
  · intro error herror
    refine .recovered world.accepted rfl (fun _ hmem => hmem) ?_ (.of_eq rfl)
    intro decisions hdecisions
    cases hdecisions.symm.trans herror

/-- Every call of the service, on tied tables, has one of the effects. -/
theorem perform_effect (sinks : Sinks) {world : Runtime} (htied : Tied world.toDistributedWorkService) (operation : Operation) :
    Effect sinks operation world ((perform sinks operation).result world)
      ((perform sinks operation).after world) := by
  rw [← wp_result_after (Effect sinks operation world)]
  cases operation with
  | register_node advertisement =>
    unfold perform
    rw [wp_bind]
    exact register_node_effect advertisement
  | submit proposal now lease_seconds =>
    unfold perform
    rw [wp_bind]
    exact submit_effect proposal now lease_seconds
  | accept work_id node_id =>
    unfold perform
    rw [wp_bind]
    exact accept_effect work_id node_id
  | refuse work_id node_id reason now lease_seconds =>
    unfold perform
    rw [wp_bind]
    exact refuse_effect work_id node_id reason now lease_seconds
  | complete work_result =>
    unfold perform
    rw [wp_bind]
    exact complete_effect work_result
  | recover now max_heartbeat_age lease_seconds =>
    exact recover_effect htied now max_heartbeat_age lease_seconds

end

end velvet.distributed_work_service
