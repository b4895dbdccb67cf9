import Mathlib.Tactic.NormNum
import VelvetRuntime.DistributedWork.Effects

open python python.str velvet.distributed_work_coordinator

namespace velvet

/-! The side conditions of the nodes and proposals in the worked examples. -/

theorem full_health : (0 : ℚ) ≤ 1 ∧ (1 : ℚ) ≤ 1 := by decide

theorem half_health : (0 : ℚ) ≤ 1 / 2 ∧ (1 / 2 : ℚ) ≤ 1 := by norm_num

theorem idle_load : (0 : ℚ) ≤ 0 ∧ (0 : ℚ) ≤ 1 := by decide

theorem usual_load : (0 : ℚ) ≤ 85 / 100 ∧ (85 / 100 : ℚ) ≤ 1 := by norm_num

theorem zero_beat : (0 : ℚ) ≤ 0 := le_refl 0

theorem ninety_beat : (0 : ℚ) ≤ 90 := by decide

end velvet

namespace velvet.distributed_work_service

open Program DistributedWorkCoordinator

section

variable [StrLower]

theorem Tied.new (registry : VerifiedNodeRegistry) :
    Tied (World.new (DistributedWorkCoordinator.new registry)).toDistributedWorkService := by
  refine ⟨?_, ?_, ?_, ?_⟩
  · intro key proposal hget
    cases hget
  · intro key lease hget
    cases hget
  · intro work hmem
    cases hmem
  · intro work entry hget
    cases hget

variable {sinks : Sinks} {before after : Runtime} {work : String}

/-- A proposal that is not active holds no lease. -/
theorem Tied.unleased {service : DistributedWorkService DistributedWorkCoordinator} (htied : Tied service) (hnone : service.proposals.get? work = none) :
    service.coordinator.leases.get? work = none := by
  cases hlease : service.coordinator.leases.get? work with
  | none => rfl
  | some lease =>
    have hactive := htied.leased work lease hlease
    rw [hnone] at hactive
    cases hactive

/-- What placing a new proposal does to the lease table. -/
theorem Tied.place {service : DistributedWorkService DistributedWorkCoordinator} (htied : Tied service)
    {proposal : WorkProposal} (hnone : service.proposals.get? proposal.proposal_id = none)
    (now lease_seconds : ℚ) :
    (∃ error, service.coordinator.place proposal.to_requirement now lease_seconds [] =
      (.error error, service.coordinator)) ∨
    ∃ decision, (service.coordinator.place proposal.to_requirement now lease_seconds []).1 = .ok decision ∧
      (∀ key, key ≠ proposal.proposal_id →
        (service.coordinator.place proposal.to_requirement now lease_seconds []).2.leases.get? key =
          (service.coordinator.leases.get? key).filter (unexpired now)) ∧
      (service.coordinator.place proposal.to_requirement now lease_seconds []).2.leases.get?
        proposal.proposal_id = decision.lease ∧
      (∀ lease, decision.lease = some lease →
        NewLease proposal.proposal_id now lease_seconds lease) := by
  have hwork : normalized proposal.to_requirement.work_id = proposal.proposal_id :=
    proposal.proposal_id_normal.2
  have hplace := place_of_unleased service.coordinator proposal.to_requirement now lease_seconds
    (by rw [hwork]; exact htied.unleased hnone)
  rw [hwork] at hplace
  exact hplace

variable {lease : WorkLease}

/-- What a refusal by the lease's owner does to the lease table. -/
theorem refusal_leases {coordinator : DistributedWorkCoordinator} {work node reason : String}
    (hlease : coordinator.leases.get? work = some lease) (hnode : lease.node_id = node) (hreason : ¬ Blank reason)
    (now lease_seconds : ℚ) :
    (∀ key, key ≠ work →
      (coordinator.refuse_and_reassign work node (stripped reason) now lease_seconds).2.leases.get? key =
        coordinator.leases.get? key) ∧
    (∀ decision, (coordinator.refuse_and_reassign work node (stripped reason) now lease_seconds).1 =
      .ok decision →
      (coordinator.refuse_and_reassign work node (stripped reason) now lease_seconds).2.leases.get? work =
        decision.lease ∧
      ∀ new_lease, decision.lease = some new_lease →
        NewLease work now lease_seconds new_lease ∧ new_lease.node_id ≠ node) ∧
    (∀ error, (coordinator.refuse_and_reassign work node (stripped reason) now lease_seconds).1 =
      .error error →
      (coordinator.refuse_and_reassign work node (stripped reason) now lease_seconds).2.leases.get? work =
        none) := by
  obtain ⟨requirement, _, hresult⟩ := refuse_and_reassign_owned hlease hnode
    (fun hblank => hreason ((blank_stripped_iff reason).mp hblank)) now lease_seconds
  obtain ⟨hothers, hok, herror, _⟩ := hresult.leases
  exact ⟨hothers, hok, fun error hraised => (herror error hraised).1⟩

variable {result : Except Error (List DistributedWorkServiceOutcome)} {operation : Operation}

/-- The tables stay tied through every call. -/
theorem Tied.effect
    (htied : Tied before.toDistributedWorkService) (heffect : Effect sinks operation before result after) :
    Tied after.toDistributedWorkService := by
  obtain ⟨hkeyed, hleased, haccepted, hpending⟩ := id htied
  cases heffect with
  | unchanged hsame hquiet => rw [hsame]; exact htied
  | registered registry hafter hquiet =>
    rw [hafter]
    exact ⟨hkeyed, hleased, haccepted, hpending⟩
  | @not_offered proposal now lease_seconds _ _ _ hnew hunplaced hafter hquiet =>
    rw [hafter]
    refine ⟨hkeyed, ?_, haccepted, hpending⟩
    intro key lease hlease
    dsimp only at hlease ⊢
    rcases htied.place hnew now lease_seconds with ⟨error, herror⟩ | ⟨decision, hdecision, hothers, hown, _⟩
    · rw [herror] at hlease
      exact hleased key lease hlease
    · by_cases hkey : key = proposal.proposal_id
      · rw [hkey, hown, hunplaced decision hdecision] at hlease
        cases hlease
      · rw [hothers key hkey, Option.filter_eq_some_iff] at hlease
        exact hleased key lease hlease.1
  | @offered proposal now lease_seconds _ _ _ decision lease hnew hdecision hlease hafter hquiet =>
    rw [hafter]
    have hactive : ∀ key, (before.proposals.get? key).isSome = true →
        ((before.proposals.set proposal.proposal_id proposal).get? key).isSome = true := by
      intro key hsome
      rw [Dict.get?_set]
      split
      · rfl
      · exact hsome
    refine ⟨?_, ?_, fun work hmem => hactive work (haccepted work hmem), ?_⟩
    · intro key found hget
      dsimp only at hget
      rw [Dict.get?_set] at hget
      split at hget
      · rename_i hkey
        cases hget
        exact hkey.symm
      · exact hkeyed key found hget
    · intro key found hfound
      dsimp only at hfound ⊢
      by_cases hkey : key = proposal.proposal_id
      · rw [hkey, Dict.get?_set_self]
        rfl
      · apply hactive
        rcases htied.place hnew now lease_seconds with ⟨error, herror⟩ | ⟨_, _, hothers, _⟩
        · rw [herror] at hdecision
          cases hdecision
        · rw [hothers key hkey, Option.filter_eq_some_iff] at hfound
          exact hleased key found hfound.1
    · intro work entry hget
      exact ⟨hactive work (hpending work entry hget).1, (hpending work entry hget).2⟩
  | @offer_withdrawn proposal now lease_seconds _ _ _ decision lease hnew hdecision hlease hafter hquiet =>
    rw [hafter]
    have hsame : ∀ key, ((before.proposals.set proposal.proposal_id proposal).pop proposal.proposal_id).get? key =
        before.proposals.get? key := by
      intro key
      rw [Dict.pop_set_self, Dict.get?_pop]
      split
      · rename_i hkey
        rw [hkey, hnew]
      · rfl
    refine ⟨?_, ?_, ?_, ?_⟩
    · intro key found hget
      exact hkeyed key found ((hsame key).symm.trans hget)
    · intro key found hfound
      dsimp only at hfound ⊢
      rw [hsame]
      rcases htied.place hnew now lease_seconds with ⟨error, herror⟩ | ⟨_, hplaced, hothers, hown, _⟩
      · rw [herror] at hdecision
        cases hdecision
      · cases hplaced.symm.trans hdecision
        rw [complete_owned (hown.trans hlease) rfl] at hfound
        change ((_ : Dict String WorkLease).pop proposal.proposal_id).get? key = _ at hfound
        rw [Dict.get?_pop] at hfound
        split at hfound
        · cases hfound
        · rename_i hkey
          rw [hothers key hkey, Option.filter_eq_some_iff] at hfound
          exact hleased key found hfound.1
    · intro work hmem
      rw [hsame]
      exact haccepted work hmem
    · intro work entry hget
      rw [hsame]
      exact hpending work entry hget
  | accepted lease hactive hlease hnode hafter hquiet =>
    rw [hafter]
    refine ⟨hkeyed, hleased, ?_, hpending⟩
    intro work hmem
    rcases List.mem_insert_iff.mp hmem with rfl | hmem
    · exact hactive
    · exact haccepted work hmem
  | @reassigned work_id node_id reason now lease_seconds _ _ _ lease hlease hnode hreason hrefused hrequested hafter hquiet =>
    rw [hafter]
    refine ⟨hkeyed, ?_, ?_, hpending⟩
    · intro key found hfound
      by_cases hkey : key = normalized work_id
      · rw [hkey]
        exact hleased _ lease hlease
      · dsimp only at hfound
        rw [(refusal_leases hlease hnode hreason now lease_seconds).1 key hkey] at hfound
        exact hleased key found hfound
    · intro work hmem
      dsimp only at hmem ⊢
      split at hmem
      · exact haccepted work (mem_discard.mp hmem).1
      · exact haccepted work hmem
  | @completion_pending work_result _ _ _ lease evidence hlease hnode hmember hnone hafter hjournal htype hsubject =>
    rw [hafter]
    refine ⟨hkeyed, hleased, haccepted, ?_⟩
    intro work entry hget
    dsimp only at hget ⊢
    rw [Dict.get?_set] at hget
    split at hget
    · rename_i hwork
      cases hget
      exact ⟨hwork ▸ haccepted _ hmember, hwork.symm⟩
    · exact hpending work entry hget
  | @completed work_result _ _ _ lease hlease hnode hmember hafter hjournal =>
    rw [hafter]
    refine ⟨?_, ?_, ?_, ?_⟩
    · intro key found hget
      dsimp only at hget
      rw [Dict.get?_pop] at hget
      split at hget
      · cases hget
      · exact hkeyed key found hget
    · intro key found hfound
      dsimp only at hfound ⊢
      rw [complete_owned hlease hnode] at hfound
      change ((_ : Dict String WorkLease).pop work_result.work_id).get? key = _ at hfound
      rw [Dict.get?_pop] at hfound
      split at hfound
      · cases hfound
      · rename_i hkey
        rw [Dict.get?_pop_of_ne _ hkey]
        exact hleased key found hfound
    · intro work hmem
      obtain ⟨hold, hne⟩ := mem_discard.mp hmem
      dsimp only
      rw [Dict.get?_pop_of_ne _ hne]
      exact haccepted work hold
    · intro work entry hget
      dsimp only at hget ⊢
      rw [Dict.get?_pop] at hget
      split at hget
      · cases hget
      · rename_i hwork
        rw [Dict.get?_pop_of_ne _ hwork]
        exact hpending work entry hget
  | @recovered now max_heartbeat_age lease_seconds _ _ _ accepted hafter hsubset hdiscarded hquiet =>
    rw [hafter]
    refine ⟨hkeyed, ?_, fun work hmem => haccepted work (hsubset work hmem), hpending⟩
    intro key found hfound
    obtain ⟨old_lease, hold, _⟩ := recovery_lease_cases hfound
    exact hleased key old_lease hold

/-- Where a lease that a work holds after a call comes from: it was there before, or the call issued
it to new work, to refused work or to recovered work. -/
inductive LeaseOrigin (operation : Operation) (before : Runtime) (work : String) (lease : WorkLease) : Prop where
  | kept (hlease : before.lease_of work = some lease)
  | offered (proposal : WorkProposal) (now lease_seconds : ℚ)
    (hoperation : operation = .submit proposal now lease_seconds) (hwork : proposal.proposal_id = work)
    (hnew : before.proposals.get? work = none)
  | reassigned (work_id node_id reason : String) (now lease_seconds : ℚ) (old_lease : WorkLease)
    (decision : WorkPlacementDecision)
    (hoperation : operation = .refuse work_id node_id reason now lease_seconds)
    (hwork : normalized work_id = work) (hold : before.lease_of work = some old_lease)
    (hdecision : (before.coordinator.refuse_and_reassign (normalized work_id) (normalized node_id)
      (stripped reason) now lease_seconds).1 = .ok decision)
    (hlease : decision.lease = some lease) (hmoved : lease.node_id ≠ old_lease.node_id)
  | recovered (now max_heartbeat_age lease_seconds : ℚ) (old_lease : WorkLease)
    (decisions : List WorkPlacementDecision) (decision : WorkPlacementDecision)
    (hoperation : operation = .recover now max_heartbeat_age lease_seconds)
    (hold : before.lease_of work = some old_lease)
    (hdecisions : (before.coordinator.recover_unavailable_nodes now max_heartbeat_age lease_seconds).1 =
      .ok decisions)
    (hdecision : decision ∈ decisions) (hlease : decision.lease = some lease)
    (hwork : lease.work_id = work) (hmoved : lease.node_id ≠ old_lease.node_id)

/-- Every lease after a call has one of the origins. -/
theorem lease_origin
    (htied : Tied before.toDistributedWorkService) (heffect : Effect sinks operation before result after) (hlease : after.lease_of work = some lease) :
    LeaseOrigin operation before work lease := by
  -- Placing a proposal leaves the other leases in place or lets them expire.
  have hplaced : ∀ (proposal : WorkProposal) (now lease_seconds : ℚ),
      before.proposals.get? proposal.proposal_id = none → work ≠ proposal.proposal_id →
      (before.coordinator.place proposal.to_requirement now lease_seconds []).2.leases.get? work = some lease →
      before.lease_of work = some lease := by
    intro proposal now lease_seconds hnew hother hget
    rcases htied.place hnew now lease_seconds with ⟨error, herror⟩ | ⟨_, _, hothers, _⟩
    · rw [herror] at hget
      exact hget
    · rw [hothers work hother, Option.filter_eq_some_iff] at hget
      exact hget.1
  unfold Runtime.lease_of at hlease
  cases heffect with
  | unchanged hsame hquiet =>
    rw [hsame] at hlease
    exact .kept hlease
  | registered registry hafter hquiet =>
    rw [hafter] at hlease
    exact .kept hlease
  | @not_offered proposal now lease_seconds _ _ _ hnew hunplaced hafter hquiet =>
    rw [hafter] at hlease
    by_cases hwork : work = proposal.proposal_id
    · exact .offered proposal now lease_seconds rfl hwork.symm (hwork ▸ hnew)
    · exact .kept (hplaced proposal now lease_seconds hnew hwork hlease)
  | @offered proposal now lease_seconds _ _ _ decision issued hnew hdecision hissued hafter hquiet =>
    rw [hafter] at hlease
    by_cases hwork : work = proposal.proposal_id
    · exact .offered proposal now lease_seconds rfl hwork.symm (hwork ▸ hnew)
    · exact .kept (hplaced proposal now lease_seconds hnew hwork hlease)
  | @offer_withdrawn proposal now lease_seconds _ _ _ decision issued hnew hdecision hissued hafter hquiet =>
    rw [hafter] at hlease
    by_cases hwork : work = proposal.proposal_id
    · exact .offered proposal now lease_seconds rfl hwork.symm (hwork ▸ hnew)
    · refine .kept (hplaced proposal now lease_seconds hnew hwork ?_)
      rcases htied.place hnew now lease_seconds with ⟨error, herror⟩ | ⟨_, hplace, _, hown, _⟩
      · rw [herror] at hdecision
        cases hdecision
      · cases hplace.symm.trans hdecision
        dsimp only at hlease
        rw [complete_owned (hown.trans hissued) rfl] at hlease
        exact (Dict.get?_pop_of_ne _ hwork).symm.trans hlease
  | accepted owned hactive howned hnode hafter hquiet =>
    rw [hafter] at hlease
    exact .kept hlease
  | @reassigned work_id node_id reason now lease_seconds _ _ _ owned howned hnode hreason hrefused hrequested hafter hquiet =>
    rw [hafter] at hlease
    dsimp only at hlease
    obtain ⟨hothers, hok, herror⟩ := refusal_leases howned hnode hreason now lease_seconds
    by_cases hwork : work = normalized work_id
    · subst hwork
      cases hdecision : (before.coordinator.refuse_and_reassign (normalized work_id) (normalized node_id)
          (stripped reason) now lease_seconds).1 with
      | ok decision =>
        obtain ⟨hown, hnew⟩ := hok decision hdecision
        have hissued : decision.lease = some lease := hown.symm.trans hlease
        exact .reassigned work_id node_id reason now lease_seconds owned decision rfl rfl howned hdecision
          hissued (hnode ▸ (hnew lease hissued).2)
      | error error =>
        rw [herror error hdecision] at hlease
        cases hlease
    · rw [hothers work hwork] at hlease
      exact .kept hlease
  | completion_pending owned evidence howned hnode hmember hnone hafter hjournal htype hsubject =>
    rw [hafter] at hlease
    exact .kept hlease
  | @completed work_result _ _ _ owned howned hnode hmember hafter hjournal =>
    rw [hafter] at hlease
    dsimp only at hlease
    rw [complete_owned howned hnode] at hlease
    change (before.coordinator.leases.pop work_result.work_id).get? work = _ at hlease
    rw [Dict.get?_pop] at hlease
    split at hlease
    · cases hlease
    · exact .kept hlease
  | @recovered now max_heartbeat_age lease_seconds _ _ _ accepted hafter hsubset hdiscarded hquiet =>
    rw [hafter] at hlease
    obtain ⟨old_lease, hold, rfl | ⟨decisions, hdecisions, decision, hdecision, hissued, hwork, hmoved⟩⟩ :=
      recovery_lease_cases hlease
    · exact .kept hold
    · exact .recovered now max_heartbeat_age lease_seconds old_lease decisions decision rfl hold hdecisions
        hdecision hissued hwork hmoved

/-- A run from the start: a new service over an empty coordinator and some registry. -/
def start (registry : VerifiedNodeRegistry) : Runtime :=
  World.new (DistributedWorkCoordinator.new registry)

theorem tied_run (sinks : Sinks) (registry : VerifiedNodeRegistry) (operations : List Operation) :
    Tied (run sinks (start registry) operations).toDistributedWorkService := by
  induction operations using List.reverseRecOn with
  | nil => exact Tied.new registry
  | append_singleton operations operation ih =>
    rw [run_append]
    exact ih.effect (perform_effect sinks ih operation)

/-- Some earlier call was of the given kind, and the lease has been the work's lease from then on. -/
def SinceUnderLease (past : List Entry) (work : String) (lease : WorkLease) (kind : Entry → Prop) : Prop :=
  ∃ earlier entry later, past = earlier ++ entry :: later ∧ kind entry ∧
    ∀ step ∈ entry :: later, step.after.lease_of work = some lease

theorem SinceUnderLease.start {work : String} {kind : Entry → Prop} (past : List Entry) {entry : Entry}
    (hkind : kind entry) (hlease : entry.after.lease_of work = some lease) :
    SinceUnderLease (past ++ [entry]) work lease kind := by
  refine ⟨past, entry, [], rfl, hkind, ?_⟩
  intro step hstep
  rw [List.mem_singleton.mp hstep]
  exact hlease

theorem SinceUnderLease.extend {past : List Entry} {kind : Entry → Prop}
    (hsince : SinceUnderLease past work lease kind) {entry : Entry} (hlease : entry.after.lease_of work = some lease) :
    SinceUnderLease (past ++ [entry]) work lease kind := by
  obtain ⟨earlier, first, later, rfl, hkind, hheld⟩ := hsince
  refine ⟨earlier, first, later ++ [entry], by simp, hkind, ?_⟩
  intro step hstep
  rw [← List.cons_append, List.mem_append, List.mem_singleton] at hstep
  rcases hstep with hstep | rfl
  · exact hheld step hstep
  · exact hlease

theorem history_operations (sinks : Sinks) (world : Runtime) (operations : List Operation) :
    (history sinks world operations).map Entry.operation = operations := by
  induction operations generalizing world with
  | nil => rfl
  | cons operation rest ih => rw [history, List.map_cons, ih]; rfl

end

instance [StrLower] (value : String) : Decidable (IsNormalized value) :=
  inferInstanceAs (Decidable (_ ∧ _))

/-- A node of the body `body` that can `sense` and take the given number of works. -/
def plain_node (node_id : String) (health last_heartbeat : ℚ) (availability : NodeAvailability) (limit : Nat)
    (htext : ¬ Blank node_id) (hhealth : 0 ≤ health ∧ health ≤ 1) (hheartbeat : 0 ≤ last_heartbeat)
    (hlimit : 1 ≤ limit) : NodeAdvertisement where
  node_id
  body_id := "body"
  organ := "eye"
  tier := .SPECIALIST_LINUX
  capabilities := ["sense"]
  current_load := 0
  health
  availability
  last_heartbeat
  accepted_work_classes := []
  refused_work_classes := []
  max_concurrent_tasks := limit
  current_tasks := 0
  overflow_capable := false
  overflow_capabilities := []
  temporary_absorption_capabilities := []
  body_verified := true
  continuity_verified := true
  node_id_text := htext
  body_id_text := text_body
  organ_text := by decide
  current_load_bounds := idle_load
  health_bounds := hhealth
  last_heartbeat_nonneg := hheartbeat
  max_concurrent_tasks_positive := hlimit
  current_tasks_le := Nat.zero_le _
  values_text := by decide

/-- A proposal that needs only the capability `sense`. -/
def plain_proposal [StrLower] (proposal_id : String) (hnormal : IsNormalized proposal_id) : WorkProposal where
  proposal_id
  work_class := "sensing"
  objective := "look"
  required_capabilities := ["sense"]
  preferred_capabilities := []
  evidence_references := []
  constraints := []
  min_health := 1 / 2
  max_load := 85 / 100
  allow_overflow := true
  allow_temporary_absorption := true
  allow_partial := false
  partial_result_useful := false
  allow_queen_fallback := true
  observe_only_capability := none
  whole_system_coordination := false
  consequential := false
  proposal_id_normal := hnormal
  work_class_normal := ⟨by decide, normalized_eq_self_of_ascii (by decide) (by decide)⟩
  objective_text := by decide
  required_normal := by
    refine ⟨?_, List.nodup_singleton _⟩
    intro value hvalue
    rw [List.mem_singleton.mp hvalue]
    exact ⟨by decide, normalized_eq_self_of_ascii (by decide) (by decide)⟩
  required_nonempty := sense_nonempty
  preferred_normal := ⟨by simp, List.nodup_nil⟩
  evidence_references_text := no_blank_nil
  constraints_text := no_blank_nil
  min_health_bounds := half_health
  max_load_bounds := usual_load
  observe_only_normal := by simp
  partial_useful := by simp

/-- A result for the work by the node. -/
def plain_result [StrLower] (work_id node_id : String) (important : Bool) (hwork : IsNormalized work_id)
    (hnode : IsNormalized node_id) : WorkResult where
  work_id
  node_id
  result_status := .COMPLETED
  summary := "done"
  evidence_references := []
  important
  work_id_normal := hwork
  node_id_normal := hnode
  summary_text := by decide
  evidence_references_text := no_blank_nil

/-- Sinks whose lifecycle port raises at one call and whose Queen port raises at one call; all other
calls succeed. -/
def sinks_failing_at (lifecycle_call queen_call : Option Nat) : Sinks where
  lifecycle := fun number =>
    if lifecycle_call = some number then .error ⟨.OSError, "lifecycle sink failed"⟩ else .ok "receipt"
  queen := some (fun number =>
    if queen_call = some number then .error ⟨.OSError, "queen sink failed"⟩ else .ok ())

end velvet.distributed_work_service
