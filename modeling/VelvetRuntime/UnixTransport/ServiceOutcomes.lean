import VelvetRuntime.DistributedWork.Moves
import VelvetRuntime.DistributedWork.Tables
import VelvetRuntime.UnixTransport.Fields

open python python.str python.Program velvet.distributed_work_coordinator velvet.distributed_work_service

namespace velvet.distributed_work_unix_transport

open DistributedWorkCoordinator

variable [StrLower]

/-- A lease whose identifiers are normalised and make up its lease id. -/
structure Labelled (lease : WorkLease) : Prop where
  work_id : IsNormalized lease.work_id
  node_id : IsNormalized lease.node_id
  lease_id_eq : lease.lease_id = lease.work_id ++ ":" ++ lease.node_id

theorem isNormalized_of_not_blank {text : String} (htext : ¬Blank text) : IsNormalized (normalized text) :=
  ⟨fun hempty => htext ((normalized_eq_empty_iff text).mp hempty), normalized_normalized text⟩

theorem Labelled.lease_id {lease : WorkLease} (hlabelled : Labelled lease) : Trimmed lease.lease_id := by
  obtain ⟨⟨first, hfirst, hfirst_space⟩, -⟩ := (trimmed_iff _).mp (Trimmed.of_normalized hlabelled.work_id)
  obtain ⟨-, last, hlast, hlast_space⟩ := (trimmed_iff _).mp (Trimmed.of_normalized hlabelled.node_id)
  rw [hlabelled.lease_id_eq, trimmed_iff, String.toList_append, String.toList_append, List.append_assoc,
    List.head?_append, hfirst, List.getLast?_append, List.getLast?_append, hlast]
  exact ⟨⟨first, rfl, hfirst_space⟩, last, rfl, hlast_space⟩

/-- What a decision hands on: a stripped state, and a lease with proper identifiers if there is one. -/
structure Marked (decision : WorkPlacementDecision) : Prop where
  state : Trimmed decision.state
  lease : ∀ lease ∈ decision.lease, Labelled lease

variable {decision : WorkPlacementDecision} {now lease_seconds : ℚ} {requirement : WorkRequirement}
variable {coordinator : DistributedWorkCoordinator}

theorem place_locked_marked (hrecorded : coordinator.Recorded requirement)
    {excluded : List String}
    (hdecision : (coordinator.place_locked requirement hrecorded now lease_seconds excluded).1 = .ok decision) :
    Marked decision := by
  unfold place_locked at hdecision
  split at hdecision
  · cases hdecision
    have hstate : Trimmed "capability_unavailable" := by decide
    exact ⟨hstate, fun lease hlease => nomatch hlease⟩
  · rename_i chosen rest hranked
    split at hdecision
    · cases hdecision
    · rename_i issued hissued
      cases hdecision
      have hmem : chosen ∈ ranked (coordinator.candidates requirement excluded) := by simp [hranked]
      obtain ⟨node, -, -, -, hcandidate⟩ := (coordinator.mem_candidates_iff _ _ _).mp (mem_ranked hmem)
      obtain ⟨hwork, hnode, -, -⟩ := new_lease_ok hissued
      refine ⟨?_, ?_⟩
      · unfold placed_decision
        dsimp only
        split
        · decide
        · decide
      · intro lease hlease
        cases hlease
        refine ⟨?_, ?_, (new_lease_issued hissued).1⟩
        · rw [hwork]
          exact isNormalized_of_not_blank requirement.work_id_text
        · rw [hnode, candidate_node_id hcandidate]
          exact isNormalized_of_not_blank node.node_id_text

theorem reassign_locked_marked {work node reason : String}
    {hget : coordinator.requirements.get? work = some requirement}
    (hdecision : (coordinator.reassign_locked work node reason requirement hget now lease_seconds).1 = .ok decision) :
    Marked decision := by
  obtain ⟨placed, hplaced, rfl⟩ := except.map_eq_ok.mp hdecision
  have hmarked := place_locked_marked (recorded_of_get? (coordinator.withdraw work node) hget) hplaced
  exact ⟨hmarked.state, hmarked.lease⟩

/-- All leases of the table have proper identifiers. -/
def AllLabelled (coordinator : DistributedWorkCoordinator) : Prop :=
  ∀ work lease, coordinator.leases.get? work = some lease → Labelled lease

variable {coordinator after : DistributedWorkCoordinator}

theorem AllLabelled.place_marked (hlabelled : AllLabelled coordinator) {exclude_nodes : List String}
    (hdecision : (coordinator.place requirement now lease_seconds exclude_nodes).1 = .ok decision) :
    Marked decision := by
  unfold place at hdecision
  split at hdecision
  · cases hdecision
  · dsimp only at hdecision
    split at hdecision
    · rename_i existing hexisting
      cases hdecision
      have hstate : Trimmed "already_leased" := by decide
      refine ⟨hstate, ?_⟩
      intro lease hlease
      cases hlease
      rw [expire_leases_get?, Option.filter_eq_some_iff] at hexisting
      exact hlabelled _ _ hexisting.1
    · exact place_locked_marked (recorded_set_requirement _ requirement) hdecision

theorem refuse_and_reassign_marked {work_id node_id reason : String}
    (hdecision : (coordinator.refuse_and_reassign work_id node_id reason now lease_seconds).1 = .ok decision) :
    Marked decision := by
  have hunowned : Marked lease_not_owned := ⟨by decide, fun lease hlease => nomatch hlease⟩
  unfold refuse_and_reassign at hdecision
  dsimp only at hdecision
  split at hdecision
  · cases hdecision
  · split at hdecision
    · split at hdecision
      · cases hdecision
        exact hunowned
      · exact reassign_locked_marked hdecision
    · cases hdecision
      exact hunowned

variable {decisions : List WorkPlacementDecision}

theorem recover_marked {now max_heartbeat_age lease_seconds : ℚ}
    (hdecisions : (coordinator.recover_unavailable_nodes now max_heartbeat_age lease_seconds).1 = .ok decisions) :
    ∀ decision ∈ decisions, Marked decision := by
  cases hfailed : coordinator.failed_nodes now max_heartbeat_age with
  | error error =>
    unfold recover_unavailable_nodes at hdecisions
    rw [hfailed] at hdecisions
    cases hdecisions
  | ok failed =>
    intro decision hdecision
    have hturns := (recover_unavailable_nodes_turns hfailed lease_seconds).2.2 decisions hdecisions
    obtain ⟨turn, -, hturn⟩ := exists_left_of_forall₂ hturns hdecision
    exact reassign_locked_marked hturn

section tables

theorem AllLabelled.new (registry : VerifiedNodeRegistry) : AllLabelled (DistributedWorkCoordinator.new registry) :=
  fun _ _ hlease => nomatch hlease

theorem Labelled.of_issued {requirement : WorkRequirement} {lease : WorkLease}
    (hrecord : LeaseOnRecord coordinator.requirements lease.work_id lease)
    (hissued : Issued coordinator requirement lease) : Labelled lease := by
  obtain ⟨node, -, hnode, -⟩ := hissued.room
  refine ⟨⟨?_, hrecord.normal⟩, ⟨?_, hrecord.node_normal⟩, hissued.lease_id_eq⟩
  · rw [← coordinator.requirement_keyed hissued.recorded]
    exact (isNormalized_of_not_blank requirement.work_id_text).1
  · rw [← hnode]
    exact (isNormalized_of_not_blank node.node_id_text).1

section

variable (hlabelled : AllLabelled coordinator)

include hlabelled

theorem AllLabelled.store_lease {lease : WorkLease}
    (hrecord : LeaseOnRecord coordinator.requirements lease.work_id lease) (hlease : Labelled lease) :
    AllLabelled (coordinator.store_lease lease hrecord) := by
  intro work found hfound
  rw [leases_store_lease, Dict.get?_set] at hfound
  split at hfound
  · cases hfound
    exact hlease
  · exact hlabelled work found hfound

theorem AllLabelled.withdraw (work node : String) :
    AllLabelled (coordinator.withdraw work node) := by
  intro other found hfound
  rw [leases_withdraw, Dict.get?_pop] at hfound
  split at hfound
  · cases hfound
  · exact hlabelled other found hfound

theorem AllLabelled.move {issued : List WorkLease}
    (hmove : Move coordinator issued after) : AllLabelled after := by
  cases hmove with
  | shifted _ _ hshift =>
    cases hshift with
    | availability node_id availability => exact hlabelled
    | dropped keep =>
      intro work found hfound
      rw [show (coordinator.keep_leases keep).leases = coordinator.leases.filter keep from rfl, Dict.get?_filter,
        Option.filter_eq_some_iff] at hfound
      exact hlabelled work found hfound.1
    | withdrawn work lease hlease => exact hlabelled.withdraw work lease.node_id
    | replaced work old_lease hold requirement lease hrecord hwork hissued =>
      exact (hlabelled.withdraw work old_lease.node_id).store_lease hrecord (.of_issued hrecord hissued)
  | required requirement hunleased => exact hlabelled
  | placed requirement lease hrecord hissued => exact hlabelled.store_lease hrecord (.of_issued hrecord hissued)

end

theorem AllLabelled.moves (hlabelled : AllLabelled coordinator) {issued : List WorkLease}
    (hmoves : Moves coordinator issued after) : AllLabelled after :=
  hmoves.invariant (fun _ _ _ hbefore hmove => hbefore.move hmove) hlabelled

theorem AllLabelled.complete (hlabelled : AllLabelled coordinator) (work node : String) :
    AllLabelled (coordinator.complete work node).2 := by
  rcases coordinator.complete_cases work node with hopen | ⟨lease, -, hclosed⟩
  · rw [hopen]
    exact hlabelled
  · rw [hclosed]
    intro other found hfound
    rw [show (coordinator.forget_work (normalized work)).leases = coordinator.leases.pop (normalized work) from rfl,
      Dict.get?_pop] at hfound
    split at hfound
    · cases hfound
    · exact hlabelled other found hfound

theorem AllLabelled.effect {sinks : Sinks} {operation : distributed_work_service.Operation} {before last : Runtime}
    {result : Except Error (List DistributedWorkServiceOutcome)} (hlabelled : AllLabelled before.coordinator)
    (heffect : Effect sinks operation before result last) : AllLabelled last.coordinator := by
  cases heffect with
  | unchanged hsame => rw [hsame]; exact hlabelled
  | registered registry hafter => rw [hafter]; exact hlabelled
  | not_offered hnew hunplaced hafter => rw [hafter]; exact hlabelled.moves (place_moves _ _ _ _ _)
  | offered decision lease hnew hdecision hlease hafter => rw [hafter]; exact hlabelled.moves (place_moves _ _ _ _ _)
  | offer_withdrawn decision lease hnew hdecision hlease hafter =>
    rw [hafter]
    exact (hlabelled.moves (place_moves _ _ _ _ _)).complete _ _
  | accepted lease hactive hlease hnode hafter => rw [hafter]; exact hlabelled
  | reassigned lease hlease hnode hreason hrefused hrequested hafter =>
    rw [hafter]
    exact hlabelled.moves (moves_of_shifts (refuse_and_reassign_shifts _ _ _ _ _ _))
  | completion_pending lease evidence hlease hnode haccepted hnone hafter => rw [hafter]; exact hlabelled
  | completed lease hlease hnode haccepted hafter => rw [hafter]; exact hlabelled.complete _ _
  | recovered accepted hafter =>
    rw [hafter]
    exact hlabelled.moves (moves_of_shifts (recover_unavailable_nodes_shifts _ _ _ _))

end tables

/-- Evidence with a proper subject and a stripped receipt. -/
structure Evidenced (evidence : LifecycleEvidence) : Prop where
  subject_id : IsNormalized evidence.subject_id
  receipt_id : Trimmed evidence.receipt_id

/-- An outcome whose texts pass a stripping decoder as they are. -/
structure Shippable (outcome : DistributedWorkServiceOutcome) : Prop where
  state : Trimmed outcome.state
  work_id : IsNormalized outcome.work_id
  node_id : ∀ node ∈ outcome.node_id, IsNormalized node
  lease_id : ∀ lease ∈ outcome.lease_id, Trimmed lease
  lifecycle : ∀ evidence ∈ outcome.lifecycle, Evidenced evidence

variable {lifecycle : List LifecycleEvidence}

theorem outcome_from_decision_shippable {lease : WorkLease} {state : String}
    (hlease : Labelled lease) (hstate : Trimmed state) (hlifecycle : ∀ evidence ∈ lifecycle, Evidenced evidence) :
    Shippable (outcome_from_decision decision lease state lifecycle) where
  state := hstate
  work_id := hlease.work_id
  node_id := fun node hnode => (by cases hnode; exact hlease.node_id)
  lease_id := fun found hfound => (by cases hfound; exact hlease.lease_id)
  lifecycle := hlifecycle

theorem unplaced_outcome_shippable {work : String} (hdecision : Marked decision)
    (hwork : IsNormalized work) (hlifecycle : ∀ evidence ∈ lifecycle, Evidenced evidence) :
    Shippable (unplaced_outcome decision work lifecycle) where
  state := hdecision.state
  work_id := hwork
  node_id := fun _ hnode => nomatch hnode
  lease_id := fun _ hlease => nomatch hlease
  lifecycle := hlifecycle

/-- The tables are tied, and what they hold can be shipped. -/
structure Sound (world : Runtime) : Prop where
  tied : Tied world.toDistributedWorkService
  labelled : AllLabelled world.coordinator
  pending : ∀ work entry, world.pending_completion.get? work = some entry → Evidenced entry.2

section calls

variable {sinks : Sinks} {world : Runtime}

theorem wp_emit_evidenced {event_type : EventType} {subject_id : String} {payload : Payload}
    {returns : LifecycleEvidence → Runtime → Prop} {raises : Error → Runtime → Prop} (hsubject : IsNormalized subject_id)
    (hreturns : ∀ evidence last, Evidenced evidence →
      last.toDistributedWorkService = world.toDistributedWorkService → returns evidence last)
    (hraises : ∀ error last, last.toDistributedWorkService = world.toDistributedWorkService → raises error last) :
    wp (emit sinks event_type subject_id payload) returns raises world := by
  unfold emit
  simp only [wp_bind, wp_get, wp_set]
  cases sinks.lifecycle world.lifecycle_calls with
  | error error => exact hraises error _ rfl
  | ok receipt_id =>
    by_cases hblank : Blank receipt_id
    · simp only [hblank, if_true, wp_throw]
      exact hraises _ _ rfl
    · simp only [hblank, if_false, wp_bind, wp_modify, wp_pure]
      refine hreturns _ _ ⟨?_, ?_⟩ rfl
      · exact isNormalized_of_not_blank hsubject.not_blank
      · exact ⟨stripped_stripped receipt_id, fun hempty => hblank ((blank_stripped_iff receipt_id).mp hempty)⟩

/-- An active proposal is filed under its normalised id. -/
theorem Sound.work_normalized (hsound : Sound world) {work : String} {proposal : WorkProposal}
    (hactive : world.proposals.get? work = some proposal) : IsNormalized work := by
  rw [← hsound.tied.keyed work proposal hactive]
  exact proposal.proposal_id_normal

theorem emit_offer_evidenced (proposal : WorkProposal) (decision : WorkPlacementDecision) (lease : WorkLease) :
    wp (emit_offer sinks proposal decision lease) (fun lifecycle _ => ∀ evidence ∈ lifecycle, Evidenced evidence)
      (fun _ _ => True) world := by
  unfold emit_offer
  rw [wp_bind]
  apply wp_emit_evidenced proposal.proposal_id_normal
  · intro offered middle hoffered _
    split
    · rw [wp_bind]
      apply wp_emit_evidenced proposal.proposal_id_normal
      · intro degraded last hdegraded _
        simp [hoffered, hdegraded]
      · exact fun _ _ _ => trivial
    · simp [hoffered]
  · exact fun _ _ _ => trivial

theorem Sound.submit (hsound : Sound world) (proposal : WorkProposal) (now lease_seconds : ℚ) :
    wp (submit sinks proposal now lease_seconds) (fun outcome _ => Shippable outcome) (fun _ _ => True) world := by
  unfold distributed_work_service.submit
  split
  · trivial
  · rw [wp_bind, wp_get]
    split
    · trivial
    · rw [wp_bind]
      apply wp_call
      · intro decision hdecision
        have hmarked : Marked decision := hsound.labelled.place_marked hdecision
        cases hlease : decision.lease with
        | none =>
          dsimp only
          rw [wp_bind]
          apply wp_emit_evidenced proposal.proposal_id_normal
          · intro degraded last hdegraded _
            exact unplaced_outcome_shippable hmarked proposal.proposal_id_normal (by simp [hdegraded])
          · exact fun _ _ _ => trivial
        | some lease =>
          dsimp only
          simp only [wp_bind, wp_modify, wp_tryCatch]
          refine wp_mono (emit_offer_evidenced proposal decision lease) ?_ ?_
          · intro lifecycle last hlifecycle
            have hstate : Trimmed "offered" := by decide
            exact outcome_from_decision_shippable (hmarked.lease lease hlease) hstate hlifecycle
          · exact fun _ _ _ => trivial
      · exact fun _ _ => trivial

theorem Sound.accept (hsound : Sound world) (work_id node_id : String) :
    wp (accept sinks work_id node_id) (fun outcome _ => Shippable outcome) (fun _ _ => True) world := by
  unfold distributed_work_service.accept
  dsimp only
  rw [wp_bind]
  apply wp_required_proposal
  · intro proposal hproposal
    rw [normalized_normalized] at hproposal
    have hwork := hsound.work_normalized hproposal
    rw [wp_bind]
    apply wp_required_owned_lease
    · intro lease hlease _
      have hlabelled := hsound.labelled _ _ hlease
      rw [wp_bind]
      apply wp_emit_evidenced hwork
      · intro evidence last hevidence _
        have hstate : Trimmed "accepted" := by decide
        exact ⟨hstate, hwork, fun node hnode => (by cases hnode; exact hlabelled.node_id),
          fun found hfound => (by cases hfound; exact hlabelled.lease_id), by simp [hevidence]⟩
      · exact fun _ _ _ => trivial
    · exact fun _ => trivial
  · exact fun _ _ => trivial

theorem Sound.refuse (hsound : Sound world) (work_id node_id reason : String) (now lease_seconds : ℚ) :
    wp (refuse sinks work_id node_id reason now lease_seconds) (fun outcome _ => Shippable outcome) (fun _ _ => True)
      world := by
  unfold distributed_work_service.refuse
  dsimp only
  split
  · trivial
  · rw [wp_bind]
    apply wp_required_proposal
    · intro proposal hproposal
      rw [normalized_normalized] at hproposal
      have hwork := hsound.work_normalized hproposal
      rw [wp_bind]
      apply wp_required_owned_lease
      · intro old_lease _ _
        rw [wp_bind]
        apply wp_emit_evidenced hwork
        · intro refused second hrefused _
          rw [wp_bind]
          apply wp_emit_evidenced hwork
          · intro requested third hrequested _
            rw [wp_bind]
            apply wp_call
            · intro decision hdecision
              have hmarked : Marked decision := refuse_and_reassign_marked hdecision
              simp only [wp_bind, wp_modify]
              cases hlease : decision.lease with
              | none =>
                dsimp only
                rw [wp_bind]
                apply wp_emit_evidenced hwork
                · intro degraded last hdegraded _
                  exact unplaced_outcome_shippable hmarked hwork (by simp [hrefused, hrequested, hdegraded])
                · exact fun _ _ _ => trivial
              | some new_lease =>
                dsimp only
                rw [wp_bind]
                apply wp_emit_evidenced hwork
                · intro offered last hoffered _
                  have hstate : Trimmed "reassigned_offered" := by decide
                  exact outcome_from_decision_shippable (hmarked.lease new_lease hlease) hstate
                    (by simp [hrefused, hrequested, hoffered])
                · exact fun _ _ _ => trivial
            · exact fun _ _ => trivial
          · exact fun _ _ _ => trivial
        · exact fun _ _ _ => trivial
      · exact fun _ => trivial
    · exact fun _ _ => trivial

/-- What is pending after a completion can be shipped as before. -/
abbrev PendingEvidenced (last : Runtime) : Prop :=
  ∀ work entry, last.pending_completion.get? work = some entry → Evidenced entry.2

theorem completion_evidence_evidenced (hpending : PendingEvidenced world) (proposal : WorkProposal) (lease : WorkLease)
    (work_result : WorkResult) :
    wp (completion_evidence sinks proposal lease work_result)
      (fun completion last => Evidenced completion ∧ PendingEvidenced last) (fun _ last => PendingEvidenced last)
      world := by
  unfold completion_evidence
  rw [wp_bind, wp_get]
  cases hentry : world.pending_completion.get? work_result.work_id with
  | none =>
    dsimp only
    rw [wp_bind]
    apply wp_emit_evidenced work_result.work_id_normal
    · intro completion last hcompletion hlast
      simp only [wp_bind, wp_modify, wp_pure]
      refine ⟨hcompletion, ?_⟩
      intro work entry hget
      dsimp only at hget
      rw [Dict.get?_set] at hget
      split at hget
      · cases hget
        exact hcompletion
      · rw [hlast] at hget
        exact hpending work entry hget
    · intro error last hlast
      unfold PendingEvidenced
      rwa [hlast]
  | some entry =>
    obtain ⟨pending_result, completion⟩ := entry
    dsimp only
    split
    · exact hpending
    · exact ⟨hpending _ _ hentry, hpending⟩

theorem close_completed_shippable (hpending : PendingEvidenced world) {lease : WorkLease} (hlease : Trimmed lease.lease_id)
    (work_result : WorkResult) {completion : LifecycleEvidence} (hcompletion : Evidenced completion) :
    wp (close_completed sinks lease work_result completion)
      (fun outcome last => Shippable outcome ∧ PendingEvidenced last) (fun _ last => PendingEvidenced last) world := by
  have hstate : Trimmed "completed" := by decide
  have hescalate : wp (escalate sinks lease work_result) (fun _ => PendingEvidenced) (fun _ => PendingEvidenced) world := by
    unfold escalate
    split
    · rw [wp_bind]
      refine wp_mono send_to_queen_frame ?_ ?_
      · intro _ last hlast
        rw [hlast]
        exact hpending
      · intro _ last hlast
        rw [hlast]
        exact hpending
    · exact hpending
  unfold close_completed
  rw [wp_bind]
  refine wp_mono hescalate ?_ (fun _ _ hkept => hkept)
  intro escalated middle hmiddle
  rw [wp_bind]
  apply wp_call
  · intro closed _
    split
    · exact hmiddle
    · simp only [wp_bind, wp_modify, wp_pure]
      refine ⟨⟨hstate, work_result.work_id_normal, fun node hnode => (by cases hnode; exact work_result.node_id_normal),
        fun found hfound => (by cases hfound; exact hlease), by simp [hcompletion]⟩, ?_⟩
      intro work entry hget
      dsimp only at hget
      rw [Dict.get?_pop] at hget
      split at hget
      · cases hget
      · exact hmiddle work entry hget
  · exact fun _ _ => hmiddle

theorem Sound.complete (hsound : Sound world) (work_result : WorkResult) :
    wp (complete sinks work_result) (fun outcome last => Shippable outcome ∧ PendingEvidenced last)
      (fun _ last => PendingEvidenced last) world := by
  unfold distributed_work_service.complete
  rw [wp_bind]
  apply wp_required_proposal
  · intro proposal _
    rw [wp_bind]
    apply wp_required_owned_lease
    · intro lease hlease _
      rw [wp_bind, wp_get]
      split
      · exact hsound.pending
      · rw [wp_bind]
        refine wp_mono (completion_evidence_evidenced hsound.pending proposal lease work_result) ?_ ?_
        · rintro completion last ⟨hcompletion, hpending⟩
          exact close_completed_shippable hpending (hsound.labelled _ _ hlease).lease_id work_result hcompletion
        · exact fun _ _ hpending => hpending
    · exact fun _ => hsound.pending
  · exact fun _ _ => hsound.pending

variable {prior : Dict String WorkLease}

section

variable (hprior : ∀ work lease, prior.get? work = some lease → IsNormalized work)

include hprior

/-- One pass of the loop of `recover`; the works of `prior` have normalised ids. -/
theorem recover_decision_shippable {decision : WorkPlacementDecision}
    (hmarked : Marked decision) :
    wp (recover_decision sinks prior decision) (fun outcome _ => Shippable outcome) (fun _ _ => True) world := by
  unfold recover_decision
  split
  · trivial
  · rename_i work _
    rw [wp_bind]
    apply wp_required_proposal
    · intro proposal _
      split
      · trivial
      · rename_i old_lease hold
        have hwork := hprior work old_lease hold
        simp only [wp_bind, wp_modify]
        cases hlease : decision.lease with
        | none =>
          dsimp only
          rw [wp_bind]
          apply wp_emit_evidenced hwork
          · intro degraded last hdegraded _
            exact unplaced_outcome_shippable hmarked hwork (by simp [hdegraded])
          · exact fun _ _ _ => trivial
        | some lease =>
          dsimp only
          rw [wp_bind]
          apply wp_emit_evidenced hwork
          · intro reassigned last hreassigned _
            have hstate : Trimmed "recovery_reassigned" := by decide
            exact outcome_from_decision_shippable (hmarked.lease lease hlease) hstate (by simp [hreassigned])
          · exact fun _ _ _ => trivial
    · exact fun _ _ => trivial

theorem recover_decisions_shippable
    (hmarked : ∀ decision ∈ decisions, Marked decision) :
    wp (recover_decisions sinks prior decisions) (fun outcomes _ => ∀ outcome ∈ outcomes, Shippable outcome)
      (fun _ _ => True) world := by
  induction decisions generalizing world with
  | nil => exact fun _ hmem => nomatch hmem
  | cons decision rest ih =>
    obtain ⟨hfirst, hrest⟩ := List.forall_mem_cons.mp hmarked
    unfold recover_decisions
    rw [wp_bind]
    refine wp_mono (recover_decision_shippable hprior hfirst) ?_ (fun _ _ _ => trivial)
    intro outcome middle houtcome
    rw [wp_bind]
    refine wp_mono (ih hrest) ?_ (fun _ _ _ => trivial)
    exact fun outcomes last houtcomes => List.forall_mem_cons.mpr ⟨houtcome, houtcomes⟩

end

theorem Sound.recover (hsound : Sound world) (now max_heartbeat_age lease_seconds : ℚ) :
    wp (recover sinks now max_heartbeat_age lease_seconds) (fun outcomes _ => ∀ outcome ∈ outcomes, Shippable outcome)
      (fun _ _ => True) world := by
  unfold distributed_work_service.recover
  rw [wp_bind, wp_get]
  dsimp only
  rw [wp_bind]
  apply wp_call
  · intro decisions hdecisions
    apply recover_decisions_shippable
    · intro work lease hlease
      have hheld : world.coordinator.leases.get? work = some lease := (prior_get? world work).symm.trans hlease
      rw [← (world.coordinator.record_of_lease hheld).work_id_eq]
      exact (hsound.labelled work lease hheld).work_id
    · exact recover_marked hdecisions
  · exact fun _ _ => trivial

/-- Every outcome of a call passes a stripping decoder. -/
theorem Sound.outcomes (hsound : Sound world) {operation : distributed_work_service.Operation}
    {outcomes : List DistributedWorkServiceOutcome} (hresult : (perform sinks operation).result world = .ok outcomes) :
    ∀ outcome ∈ outcomes, Shippable outcome := by
  have hone : ∀ {call : Program Error Runtime DistributedWorkServiceOutcome},
      wp call (fun outcome _ => Shippable outcome) (fun _ _ => True) world →
      wp (call >>= fun outcome => pure [outcome]) (fun outcomes _ => ∀ outcome ∈ outcomes, Shippable outcome)
        (fun _ _ => True) world := by
    intro call hcall
    rw [wp_bind]
    refine wp_mono hcall ?_ (fun _ _ _ => trivial)
    intro outcome last houtcome
    simp [houtcome]
  have hwp : wp (perform sinks operation) (fun outcomes _ => ∀ outcome ∈ outcomes, Shippable outcome) (fun _ _ => True)
      world := by
    cases operation with
    | register_node advertisement =>
      unfold distributed_work_service.perform
      rw [wp_bind]
      refine wp_mono (register_node_effect advertisement) ?_ (fun _ _ _ => trivial)
      intro _ _ _ outcome hmem
      cases hmem
    | submit proposal now lease_seconds => exact hone (hsound.submit proposal now lease_seconds)
    | accept work_id node_id => exact hone (hsound.accept work_id node_id)
    | refuse work_id node_id reason now lease_seconds => exact hone (hsound.refuse work_id node_id reason now lease_seconds)
    | complete work_result =>
      exact hone (wp_mono (hsound.complete work_result) (fun _ _ hboth => hboth.1) (fun _ _ _ => trivial))
    | recover now max_heartbeat_age lease_seconds => exact hsound.recover now max_heartbeat_age lease_seconds
  exact wp_of_result_ok hwp hresult

/-- Only a completion changes what is pending. -/
theorem pending_effect {operation : distributed_work_service.Operation} {last : Runtime}
    {result : Except Error (List DistributedWorkServiceOutcome)} (heffect : Effect sinks operation world result last) :
    last.pending_completion = world.pending_completion ∨ ∃ work_result, operation = .complete work_result := by
  cases heffect with
  | unchanged hsame => exact .inl (by rw [hsame])
  | registered registry hafter => exact .inl (by rw [hafter])
  | not_offered hnew hunplaced hafter => exact .inl (by rw [hafter])
  | offered decision lease hnew hdecision hlease hafter => exact .inl (by rw [hafter])
  | offer_withdrawn decision lease hnew hdecision hlease hafter => exact .inl (by rw [hafter])
  | accepted lease hactive hlease hnode hafter => exact .inl (by rw [hafter])
  | reassigned lease hlease hnode hreason hrefused hrequested hafter => exact .inl (by rw [hafter])
  | completion_pending => exact .inr ⟨_, rfl⟩
  | completed => exact .inr ⟨_, rfl⟩
  | recovered accepted hafter => exact .inl (by rw [hafter])

theorem Sound.perform (hsound : Sound world) (operation : distributed_work_service.Operation) :
    Sound ((perform sinks operation).after world) := by
  have heffect := perform_effect sinks hsound.tied operation
  refine ⟨hsound.tied.effect heffect, hsound.labelled.effect heffect, ?_⟩
  rcases pending_effect heffect with hsame | ⟨work_result, rfl⟩
  · rw [hsame]
    exact hsound.pending
  · refine (wp_result_after (fun _ last => PendingEvidenced last)).mp ?_
    unfold distributed_work_service.perform
    rw [wp_bind]
    exact wp_mono (hsound.complete work_result) (fun _ _ hboth => hboth.2) (fun _ _ hpending => hpending)

theorem sound_run (sinks : Sinks) (registry : VerifiedNodeRegistry) (operations : List distributed_work_service.Operation) :
    Sound (run sinks (start registry) operations) := by
  induction operations using List.reverseRecOn with
  | nil => exact ⟨Tied.new registry, .new registry, fun _ _ hget => nomatch hget⟩
  | append_singleton operations operation ih =>
    rw [distributed_work_service.run_append]
    exact ih.perform operation

end calls

end velvet.distributed_work_unix_transport
