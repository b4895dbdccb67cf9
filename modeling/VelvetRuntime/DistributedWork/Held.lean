import VelvetRuntime.DistributedWork.Tables

open python python.str velvet.distributed_work_coordinator

namespace velvet.distributed_work_service

open Program DistributedWorkCoordinator

section

variable [StrLower]

/-- What happens in a timed run: time passes, or a call is made. -/
inductive Moment where
  | tick (now : ℚ)
  | call (operation : Operation)

/-- The time a call brings with it. -/
def Operation.now : Operation → Option ℚ
  | .submit _ now _ => some now
  | .refuse _ _ _ now _ => some now
  | .recover now _ _ => some now
  | _ => none

/-- The service at a time. -/
structure Timed where
  world : Runtime
  clock : ℚ

def Moment.time (clock : ℚ) : Moment → ℚ
  | .tick now => now
  | .call operation => operation.now.getD clock

def Timed.advance (sinks : Sinks) (timed : Timed) (moment : Moment) : Timed where
  world :=
    match moment with
    | .tick _ => timed.world
    | .call operation => (perform sinks operation).after timed.world
  clock := moment.time timed.clock

/-- The state a timed run ends in. -/
def Timed.run (sinks : Sinks) (timed : Timed) (moments : List Moment) : Timed :=
  moments.foldl (Timed.advance sinks) timed

/-- Every work the service keeps as active has a lease that is still running. -/
def Timed.AllHeld (timed : Timed) : Prop :=
  ∀ work, (timed.world.proposals.get? work).isSome = true →
    ∃ lease, timed.world.lease_of work = some lease ∧ timed.clock < lease.expires_at

/-- A refusal that reaches the coordinator finds another node and may lease the work to it. -/
def RefusalReplaced (sinks : Sinks) (world : Runtime) (work node reason : String) (lease_seconds : ℚ) : Prop :=
  ¬ Blank reason → sinks.receipts world.lifecycle_calls = true →
  sinks.receipts (world.lifecycle_calls + 1) = true →
  ∀ lease ∈ world.lease_of work, lease.node_id = node →
  ∀ requirement ∈ world.coordinator.requirements.get? work,
    world.coordinator.Replaceable work node requirement ∧ 0 < lease_seconds

/-- A step that strands no work: no lease runs out on the way, and work that a node refuses or that is
recovered from a failed node finds another one. -/
def Timed.StrandsNone (sinks : Sinks) (timed : Timed) (moment : Moment) : Prop :=
  (∀ lease ∈ timed.world.coordinator.leases.values, moment.time timed.clock < lease.expires_at) ∧
  match moment with
  | .call (.refuse work_id node_id reason _ lease_seconds) =>
    RefusalReplaced sinks timed.world (normalized work_id) (normalized node_id) reason lease_seconds
  | .call (.recover now max_heartbeat_age lease_seconds) =>
    ∀ turn ∈ timed.world.coordinator.turns_of_recovery now max_heartbeat_age lease_seconds,
      turn.Replaceable ∧ 0 < lease_seconds
  | _ => True

/-- Every step of a timed run strands no work. -/
def Timed.StrandsNever (sinks : Sinks) : Timed → List Moment → Prop
  | _, [] => True
  | timed, moment :: rest => timed.StrandsNone sinks moment ∧ StrandsNever sinks (timed.advance sinks moment) rest

instance (sinks : Sinks) (world : Runtime) (work node reason : String) (lease_seconds : ℚ) :
    Decidable (RefusalReplaced sinks world work node reason lease_seconds) :=
  inferInstanceAs (Decidable (¬ Blank reason → _ → _ → ∀ lease ∈ world.lease_of work, _ → ∀ requirement ∈ _, _))

instance (sinks : Sinks) (timed : Timed) (moment : Moment) : Decidable (timed.StrandsNone sinks moment) :=
  match moment with
  | .tick _ => inferInstanceAs (Decidable ((∀ lease ∈ _, _) ∧ True))
  | .call operation =>
    match operation with
    | .refuse .. => inferInstanceAs (Decidable ((∀ lease ∈ _, _) ∧ RefusalReplaced ..))
    | .recover .. => inferInstanceAs (Decidable ((∀ lease ∈ _, _) ∧ ∀ turn ∈ turns_of_recovery .., _))
    | .register_node .. | .submit .. | .accept .. | .complete .. =>
      inferInstanceAs (Decidable ((∀ lease ∈ _, _) ∧ True))

instance decidable_strands_never (sinks : Sinks) :
    (timed : Timed) → (moments : List Moment) → Decidable (timed.StrandsNever sinks moments)
  | _, [] => inferInstanceAs (Decidable True)
  | timed, moment :: rest =>
    have := decidable_strands_never sinks (timed.advance sinks moment) rest
    inferInstanceAs (Decidable (_ ∧ _))

variable {sinks : Sinks} {before after : Runtime} {lease : WorkLease} {proposal : WorkProposal}

/-- Placing a proposal keeps the leases that still run. -/
theorem Tied.place_keeps {service : DistributedWorkService DistributedWorkCoordinator} (htied : Tied service) (hnew : service.proposals.get? proposal.proposal_id = none) {now : ℚ}
    (lease_seconds : ℚ) {work : String} (hwork : work ≠ proposal.proposal_id)
    (hlease : service.coordinator.leases.get? work = some lease) (hruns : now < lease.expires_at) :
    (service.coordinator.place proposal.to_requirement now lease_seconds []).2.leases.get? work = some lease := by
  rcases htied.place hnew now lease_seconds with ⟨error, herror⟩ | ⟨_, _, hothers, _⟩
  · rw [herror]
    exact hlease
  · rw [hothers work hwork, hlease, Option.filter_some, if_pos (unexpired_iff.mpr hruns)]

variable {coordinator : DistributedWorkCoordinator}

/-- Recovery that finds another node for every work leaves every running lease running. -/
theorem recovery_keeps {now max_heartbeat_age lease_seconds : ℚ}
    (hturns : ∀ turn ∈ coordinator.turns_of_recovery now max_heartbeat_age lease_seconds,
      turn.Replaceable ∧ 0 < lease_seconds)
    {work : String} (hlease : coordinator.leases.get? work = some lease)
    (hruns : now < lease.expires_at) :
    ∃ kept, (coordinator.recover_unavailable_nodes now max_heartbeat_age lease_seconds).2.leases.get? work =
      some kept ∧ now < kept.expires_at := by
  rcases coordinator.recover_unavailable_nodes_leases now max_heartbeat_age lease_seconds with
    ⟨error, herror⟩ | ⟨failed, hfailed, hothers, hok, _⟩
  · rw [herror]
    exact ⟨lease, hlease, hruns⟩
  · obtain ⟨hmap, hreturns, hdecided⟩ := recover_unavailable_nodes_turns hfailed lease_seconds
    obtain ⟨decisions, hdecisions⟩ := hreturns.mpr (fun turn hturn _ => (hturns turn hturn).2)
    by_cases hwork : work ∈ (coordinator.recovery_leases failed now).map Prod.fst
    · -- The work was on a failed node, and its decision names a new lease.
      obtain ⟨entry, hentry, rfl⟩ := List.mem_map.mp hwork
      obtain ⟨decision, hmem, hrecovered⟩ := exists_right_of_forall₂ (hok decisions hdecisions) hentry
      obtain ⟨turn, hturn, hreassign⟩ := exists_left_of_forall₂ (hdecided decisions hdecisions) hmem
      have hplaced := (RecoveryTurn.lease_isSome_iff hreassign).mpr (hturns turn hturn).1
      obtain ⟨kept, hkept⟩ := Option.isSome_iff_exists.mp hplaced
      have hnew := hrecovered.new_lease kept hkept
      refine ⟨kept, hrecovered.lease_eq.trans hkept, ?_⟩
      rw [hnew.expires_at_eq]
      have hseconds := hnew.seconds_pos
      linarith
    · refine ⟨lease, ?_, hruns⟩
      rw [hothers work hwork, hlease, Option.filter_some, if_pos (unexpired_iff.mpr hruns)]

variable {now lease_seconds : ℚ}

/-- A refusal that finds another node leaves the work leased there. -/
theorem refusal_keeps {work node reason : String} (hlease : coordinator.leases.get? work = some lease) (hnode : lease.node_id = node)
    (hreason : ¬ Blank reason)
    (hreplaced : ∀ requirement, coordinator.requirements.get? work = some requirement →
      coordinator.Replaceable work node requirement ∧ 0 < lease_seconds) :
    ∃ kept, (coordinator.refuse_and_reassign work node (stripped reason) now lease_seconds).2.leases.get? work =
      some kept ∧ now < kept.expires_at := by
  obtain ⟨requirement, hget, hresult⟩ := refuse_and_reassign_owned hlease hnode
    (fun hblank => hreason ((blank_stripped_iff reason).mp hblank)) now lease_seconds
  obtain ⟨hreplaceable, hpositive⟩ := hreplaced requirement hget
  generalize coordinator.refuse_and_reassign work node (stripped reason) now lease_seconds = result at hresult
  cases hresult with
  | unplaced hother => exact absurd hreplaceable hother
  | refused _ hseconds error => exact absurd hpositive (not_lt.mpr hseconds)
  | placed _ decision kept hdecision hnew hmoved hrecord =>
    refine ⟨kept, ?_, ?_⟩
    · rw [leases_store_lease, hnew.work_id_eq]
      exact Dict.get?_set_self _ _ _
    · rw [hnew.expires_at_eq]
      linarith

/-- A call that strands no work leaves every active work held. -/
theorem all_held_call {operation : Operation} {result : Except Error (List DistributedWorkServiceOutcome)}
    {clock : ℚ} (htied : Tied before.toDistributedWorkService)
    (heffect : Effect sinks operation before result after) (hheld : Timed.AllHeld ⟨before, clock⟩)
    (hstrands : Timed.StrandsNone sinks ⟨before, clock⟩ (.call operation)) :
    Timed.AllHeld ⟨after, operation.now.getD clock⟩ := by
  obtain ⟨hruns, hreplaced⟩ := hstrands
  -- Every active work has its lease, and the lease still runs at the new time.
  have hleased : ∀ work, (before.proposals.get? work).isSome = true → ∃ lease,
      before.lease_of work = some lease ∧ operation.now.getD clock < lease.expires_at := by
    intro work hactive
    obtain ⟨lease, hlease, _⟩ := hheld work hactive
    exact ⟨lease, hlease, hruns lease (Dict.mem_values_of_get? hlease)⟩
  intro work hactive
  unfold Runtime.lease_of at hleased ⊢
  dsimp only at hactive ⊢
  cases heffect with
  | unchanged hsame hquiet =>
    rw [hsame] at hactive ⊢
    exact hleased work hactive
  | registered registry hafter hquiet =>
    rw [hafter] at hactive ⊢
    exact hleased work hactive
  | @not_offered proposal now lease_seconds _ _ _ hnew hunplaced hafter hquiet =>
    rw [hafter] at hactive ⊢
    obtain ⟨lease, hlease, hexpires⟩ := hleased work hactive
    have hwork : work ≠ proposal.proposal_id := by
      rintro rfl
      rw [hnew] at hactive
      cases hactive
    exact ⟨lease, htied.place_keeps hnew lease_seconds hwork hlease hexpires, hexpires⟩
  | @offered proposal now lease_seconds _ _ _ decision issued hnew hdecision hissued hafter hquiet =>
    rw [hafter] at hactive ⊢
    dsimp only at hactive ⊢
    by_cases hwork : work = proposal.proposal_id
    · subst hwork
      rcases htied.place hnew now lease_seconds with ⟨error, herror⟩ | ⟨found, hfound, _, hown, hfresh⟩
      · rw [herror] at hdecision
        cases hdecision
      · cases hfound.symm.trans hdecision
        refine ⟨issued, hown.trans hissued, ?_⟩
        have hseconds := (hfresh issued hissued).seconds_pos
        change now < issued.expires_at
        rw [(hfresh issued hissued).expires_at_eq]
        linarith
    · rw [Dict.get?_set_of_ne _ _ hwork] at hactive
      obtain ⟨lease, hlease, hexpires⟩ := hleased work hactive
      exact ⟨lease, htied.place_keeps hnew lease_seconds hwork hlease hexpires, hexpires⟩
  | @offer_withdrawn proposal now lease_seconds _ _ _ decision issued hnew hdecision hissued hafter hquiet =>
    rw [hafter] at hactive ⊢
    dsimp only at hactive ⊢
    rw [Dict.pop_set_self, Dict.get?_pop] at hactive
    split at hactive
    · cases hactive
    · rename_i hwork
      obtain ⟨lease, hlease, hexpires⟩ := hleased work hactive
      refine ⟨lease, ?_, hexpires⟩
      rcases htied.place hnew now lease_seconds with ⟨error, herror⟩ | ⟨_, hfound, _, hown, _⟩
      · rw [herror] at hdecision
        cases hdecision
      · cases hfound.symm.trans hdecision
        rw [complete_owned (hown.trans hissued) rfl]
        exact (Dict.get?_pop_of_ne _ hwork).trans (htied.place_keeps hnew lease_seconds hwork hlease hexpires)
  | accepted owned hknown howned hnode hafter hquiet =>
    rw [hafter] at hactive ⊢
    exact hleased work hactive
  | @reassigned work_id node_id reason now lease_seconds _ _ _ owned howned hnode hreason hrefused hrequested hafter hquiet =>
    rw [hafter] at hactive ⊢
    by_cases hwork : work = normalized work_id
    · subst hwork
      exact refusal_keeps howned hnode hreason
        (fun requirement hget => hreplaced hreason hrefused hrequested owned howned hnode requirement hget)
    · obtain ⟨lease, hlease, hexpires⟩ := hleased work hactive
      exact ⟨lease, ((refusal_leases howned hnode hreason now lease_seconds).1 work hwork).trans hlease, hexpires⟩
  | completion_pending owned evidence howned hnode hmember hnone hafter hjournal htype hsubject =>
    rw [hafter] at hactive ⊢
    exact hleased work hactive
  | @completed work_result _ _ _ owned howned hnode hmember hafter hjournal =>
    rw [hafter] at hactive ⊢
    dsimp only at hactive ⊢
    rw [Dict.get?_pop] at hactive
    split at hactive
    · cases hactive
    · rename_i hwork
      obtain ⟨lease, hlease, hexpires⟩ := hleased work hactive
      refine ⟨lease, ?_, hexpires⟩
      rw [complete_owned howned hnode]
      exact (Dict.get?_pop_of_ne _ hwork).trans hlease
  | @recovered now max_heartbeat_age lease_seconds _ _ _ accepted hafter hsubset hdiscarded hquiet =>
    rw [hafter] at hactive ⊢
    obtain ⟨lease, hlease, hexpires⟩ := hleased work hactive
    exact recovery_keeps hreplaced hlease hexpires

theorem Timed.AllHeld.advance {timed : Timed} {moment : Moment} (htied : Tied timed.world.toDistributedWorkService)
    (hheld : timed.AllHeld) (hstrands : timed.StrandsNone sinks moment) : (timed.advance sinks moment).AllHeld := by
  cases moment with
  | tick now =>
    intro work hactive
    obtain ⟨lease, hlease, _⟩ := hheld work hactive
    exact ⟨lease, hlease, hstrands.1 lease (Dict.mem_values_of_get? hlease)⟩
  | call operation => exact all_held_call htied (perform_effect sinks htied operation) hheld hstrands

theorem Timed.tied_advance {timed : Timed} (moment : Moment) (htied : Tied timed.world.toDistributedWorkService) :
    Tied (timed.advance sinks moment).world.toDistributedWorkService := by
  cases moment with
  | tick now => exact htied
  | call operation => exact htied.effect (perform_effect sinks htied operation)

theorem Timed.AllHeld.run {timed : Timed} (htied : Tied timed.world.toDistributedWorkService)
    (hheld : timed.AllHeld) (moments : List Moment) (hstrands : timed.StrandsNever sinks moments) :
    (timed.run sinks moments).AllHeld := by
  induction moments generalizing timed with
  | nil => exact hheld
  | cons moment rest ih =>
    exact ih (timed.tied_advance moment htied) (hheld.advance htied hstrands.1) hstrands.2

theorem Timed.StrandsNever.of_append {timed : Timed} {earlier later : List Moment}
    (hstrands : timed.StrandsNever sinks (earlier ++ later)) : timed.StrandsNever sinks earlier := by
  induction earlier generalizing timed with
  | nil => trivial
  | cons moment rest ih => exact ⟨hstrands.1, ih hstrands.2⟩

end

end velvet.distributed_work_service
