import VelvetRuntime.DistributedWork.Tables

open python python.str velvet.distributed_work_coordinator

namespace velvet.distributed_work_service

open Program DistributedWorkCoordinator

section

variable [StrLower] {sinks : Sinks}

/-- The node of this lease accepted the work, and the lease has been the work's lease from then
on. -/
def AcceptedUnder (past : List Entry) (work : String) (lease : WorkLease) : Prop :=
  SinceUnderLease past work lease (fun entry => ∃ work_id node_id outcomes,
    entry.operation = .accept work_id node_id ∧ entry.result = .ok outcomes ∧ normalized work_id = work ∧
    normalized node_id = lease.node_id)

/-- A recovery that stops early leaves no accepted work among those it has moved but not got to. -/
def HandlesAccepted (sinks : Sinks) (entry : Entry) : Prop :=
  ∀ now max_heartbeat_age lease_seconds, entry.operation = .recover now max_heartbeat_age lease_seconds →
    ∀ decisions,
      (entry.before.coordinator.recover_unavailable_nodes now max_heartbeat_age lease_seconds).1 =
        .ok decisions →
      ∀ decision ∈ unreached sinks entry.before.prior entry.before.lifecycle_calls decisions,
        ∀ lease, decision.lease = some lease → lease.work_id ∉ entry.before.accepted

variable {result : Except Error (List DistributedWorkServiceOutcome)} {before after : Runtime} {operation : Operation}

/-- An acceptance after a call was there before, unless the call is this acceptance. -/
theorem accepted_origin
    (heffect : Effect sinks operation before result after) {work : String} (hmem : work ∈ after.accepted) :
    work ∈ before.accepted ∨
    (∃ work_id node_id outcomes lease, operation = .accept work_id node_id ∧ result = .ok outcomes ∧
      normalized work_id = work ∧ normalized node_id = lease.node_id ∧ after.lease_of work = some lease) := by
  unfold Runtime.lease_of
  cases heffect with
  | unchanged hsame hquiet => exact .inl (hsame ▸ hmem)
  | registered registry hafter hquiet => rw [hafter] at hmem; exact .inl hmem
  | not_offered hnew hunplaced hafter hquiet => rw [hafter] at hmem; exact .inl hmem
  | offered decision lease hnew hdecision hlease hafter hquiet => rw [hafter] at hmem; exact .inl hmem
  | offer_withdrawn decision lease hnew hdecision hlease hafter hquiet => rw [hafter] at hmem; exact .inl hmem
  | @accepted work_id node_id _ _ outcome lease hactive hlease hnode hafter hquiet =>
    rw [hafter] at hmem ⊢
    rcases List.mem_insert_iff.mp hmem with rfl | hold
    · exact .inr ⟨work_id, node_id, [outcome], lease, rfl, rfl, rfl, hnode.symm, hlease⟩
    · exact .inl hold
  | reassigned lease hlease hnode hreason hrefused hrequested hafter hquiet =>
    rw [hafter] at hmem
    dsimp only at hmem
    split at hmem
    · exact .inl (mem_discard.mp hmem).1
    · exact .inl hmem
  | completion_pending lease evidence hlease hnode hmember hnone hafter hjournal htype hsubject =>
    rw [hafter] at hmem
    exact .inl hmem
  | completed lease hlease hnode hmember hafter hjournal =>
    rw [hafter] at hmem
    exact .inl (mem_discard.mp hmem).1
  | recovered accepted hafter hsubset hdiscarded hquiet =>
    rw [hafter] at hmem
    exact .inl (hsubset work hmem)

/-- A call that gives accepted work another lease takes the acceptance away. -/
theorem lease_kept_of_accepted
    (htied : Tied before.toDistributedWorkService) (heffect : Effect sinks operation before result after)
    (hhandles : HandlesAccepted sinks ⟨before, operation, result, after⟩) {work : String} {lease : WorkLease}
    (hbefore : work ∈ before.accepted) (hmem : work ∈ after.accepted)
    (hlease : after.lease_of work = some lease) : before.lease_of work = some lease := by
  cases lease_origin htied heffect hlease with
  | kept hkept => exact hkept
  | offered proposal now lease_seconds hoperation hwork hnew =>
    have hactive := htied.accepted work hbefore
    rw [hnew] at hactive
    cases hactive
  | reassigned work_id node_id reason now lease_seconds old_lease decision hoperation hwork hold hdecision
      hissued hmoved =>
    subst hoperation hwork
    cases heffect with
    | unchanged hsame hquiet =>
      unfold Runtime.lease_of at hlease ⊢
      rw [hsame] at hlease
      exact hlease
    | reassigned owned howned hnode hreason hrefused hrequested hafter hquiet =>
      rw [hafter] at hmem
      dsimp only at hmem
      rw [hdecision] at hmem
      exact absurd rfl (mem_discard.mp hmem).2
  | recovered now max_heartbeat_age lease_seconds old_lease decisions decision hoperation hold hdecisions
      hdecision hissued hwork hmoved =>
    subst hoperation
    cases heffect with
    | unchanged hsame hquiet =>
      unfold Runtime.lease_of at hlease ⊢
      rw [hsame] at hlease
      exact hlease
    | recovered accepted hafter hsubset hdiscarded hquiet =>
      rw [hafter] at hmem
      have hunreached := hdiscarded decisions hdecisions decision hdecision lease hissued (hwork ▸ hmem)
      exact absurd hbefore (hwork ▸ hhandles now max_heartbeat_age lease_seconds rfl decisions hdecisions
        decision hunreached lease hissued)

/-- Every acceptance that stands next to a lease is an acceptance under that lease. -/
def AcceptancesCurrent (past : List Entry) (world : Runtime) : Prop :=
  ∀ work ∈ world.accepted, ∀ lease, world.lease_of work = some lease → AcceptedUnder past work lease

theorem AcceptancesCurrent.step {past : List Entry} {world : Runtime} {operation : Operation}
    (htied : Tied world.toDistributedWorkService) (hcurrent : AcceptancesCurrent past world)
    (hhandles : HandlesAccepted sinks (entry_of sinks world operation)) :
    AcceptancesCurrent (past ++ [entry_of sinks world operation]) (entry_of sinks world operation).after := by
  intro work hmem lease hlease
  have heffect := perform_effect sinks htied operation
  rcases accepted_origin heffect hmem with
    hbefore | ⟨work_id, node_id, outcomes, found, hoperation, hresult, hwork, hnode, hfound⟩
  · have hkept := lease_kept_of_accepted htied heffect hhandles hbefore hmem hlease
    exact (hcurrent work hbefore lease hkept).extend hlease
  · cases hfound.symm.trans hlease
    exact .start past ⟨work_id, node_id, outcomes, hoperation, hresult, hwork, hnode⟩ hlease

theorem acceptances_current (registry : VerifiedNodeRegistry) (operations : List Operation)
    (hhandles : ∀ entry ∈ history sinks (start registry) operations, HandlesAccepted sinks entry) :
    AcceptancesCurrent (history sinks (start registry) operations)
      (run sinks (start registry) operations) := by
  induction operations using List.reverseRecOn with
  | nil =>
    intro work hmem
    cases hmem
  | append_singleton operations operation ih =>
    rw [history_append] at hhandles ⊢
    rw [run_append]
    refine (ih ?_).step (tied_run sinks registry operations) ?_
    · intro entry hentry
      exact hhandles entry (List.mem_append_left _ hentry)
    · exact hhandles _ (List.mem_append_right _ (by simp [history]))

/-- Recovery clears the acceptances in a loop that can stop early, after the coordinator has already
moved all the affected works. After every run where no recovery stops before an accepted work that
it has moved, whoever completes a work holds its lease and has accepted it under this very lease. -/
theorem completion_needs_own_acceptance (sinks : Sinks) (registry : VerifiedNodeRegistry)
    (operations : List Operation)
    (hhandles : ∀ entry ∈ history sinks (start registry) operations, HandlesAccepted sinks entry)
    (work_result : WorkResult) (outcomes : List DistributedWorkServiceOutcome)
    (hresult : (perform sinks (.complete work_result)).result (run sinks (start registry) operations) =
      .ok outcomes) :
    ∃ lease, (run sinks (start registry) operations).lease_of work_result.work_id = some lease ∧
      lease.node_id = work_result.node_id ∧
      AcceptedUnder (history sinks (start registry) operations) work_result.work_id lease := by
  have hcurrent := acceptances_current registry operations hhandles
  have heffect := perform_effect sinks (tied_run sinks registry operations) (.complete work_result)
  rw [hresult] at heffect
  cases heffect with
  | completed lease hlease hnode hmember hafter hjournal =>
    exact ⟨lease, hlease, hnode, hcurrent work_result.work_id hmember lease hlease⟩

end

/-- The work `w1` offered to the node `a`, which accepts it. -/
def work_accepted_by_a [StrLower] (hwork : IsNormalized "w1") : List Operation :=
  [.register_node (plain_node "a" 1 0 .AVAILABLE 1 text_a full_health zero_beat Nat.one_pos),
    .submit (plain_proposal "w1" hwork) 10 1000, .accept "w1" "a"]

/-- `a` accepts `w1` and completes it under the lease it accepted. -/
theorem acceptor_completes :
    letI := StrLower.ascii
    let sinks := sinks_failing_at none none
    let past := history sinks (start (VerifiedNodeRegistry.new "body")) (work_accepted_by_a (by decide))
    let world := run sinks (start (VerifiedNodeRegistry.new "body")) (work_accepted_by_a (by decide))
    let work_result := plain_result "w1" "a" false (by decide) (by decide)
    ((perform sinks (.complete work_result)).result world).isOk = true ∧
      ∃ lease, world.lease_of "w1" = some lease ∧ lease.node_id = "a" ∧ AcceptedUnder past "w1" lease := by
  let := StrLower.ascii
  have hok : ((perform (sinks_failing_at none none)
      (.complete (plain_result "w1" "a" false (by decide) (by decide)))).result
      (run (sinks_failing_at none none) (start (VerifiedNodeRegistry.new "body"))
        (work_accepted_by_a (by decide)))).isOk = true := by with_unfolding_all decide
  refine ⟨hok, ?_⟩
  cases hresult : (perform (sinks_failing_at none none)
      (.complete (plain_result "w1" "a" false (by decide) (by decide)))).result
      (run (sinks_failing_at none none) (start (VerifiedNodeRegistry.new "body"))
        (work_accepted_by_a (by decide))) with
  | error error =>
    rw [hresult] at hok
    cases hok
  | ok outcomes =>
    refine completion_needs_own_acceptance _ _ _ ?_ _ outcomes hresult
    intro entry hentry now max_heartbeat_age lease_seconds hoperation
    have hmem := List.mem_map_of_mem (f := Entry.operation) hentry
    rw [history_operations, hoperation] at hmem
    simp [work_accepted_by_a] at hmem

/-- Two works accepted by `a`, which then falls silent while `b` is alive. -/
def two_works_on_a [StrLower] (hfirst : IsNormalized "w1") (hsecond : IsNormalized "w2") : List Operation :=
  [.register_node (plain_node "a" 1 0 .AVAILABLE 2 text_a full_health zero_beat Nat.two_pos),
    .register_node (plain_node "b" (1 / 2) 90 .BUSY 2 text_b half_health ninety_beat Nat.two_pos),
    .submit (plain_proposal "w1" hfirst) 10 1000, .submit (plain_proposal "w2" hsecond) 10 1000,
    .accept "w1" "a", .accept "w2" "a", .recover 100 50 1000]

/-- The lifecycle sink fails on the reassignment of `w1`, after the coordinator has moved both works
to `b`. The acceptance of `w2` by `a` stays, and `b` completes `w2` without ever accepting it. -/
theorem replacement_completes_unaccepted :
    letI := StrLower.ascii
    let sinks := sinks_failing_at (some 6) none
    let world := run sinks (start (VerifiedNodeRegistry.new "body")) (two_works_on_a (by decide) (by decide))
    let past := history sinks (start (VerifiedNodeRegistry.new "body")) (two_works_on_a (by decide) (by decide))
    ((perform sinks (.complete (plain_result "w2" "b" false (by decide) (by decide)))).result world).isOk = true ∧
      ¬ ∃ lease, world.lease_of "w2" = some lease ∧ lease.node_id = "b" ∧ AcceptedUnder past "w2" lease := by
  let := StrLower.ascii
  refine ⟨by decide +kernel, ?_⟩
  rintro ⟨lease, _, hnode, earlier, entry, later, hpast, ⟨work_id, node_id, outcomes, hoperation, _, _, hsame⟩, _⟩
  have hmem : entry.operation ∈ two_works_on_a (by decide) (by decide) := by
    rw [← history_operations (sinks_failing_at (some 6) none) (start (VerifiedNodeRegistry.new "body"))
      (two_works_on_a _ _), hpast]
    simp
  rw [hoperation] at hmem
  rw [hnode] at hsame
  simp [two_works_on_a] at hmem
  rcases hmem with ⟨_, rfl⟩ | ⟨_, rfl⟩
  · exact absurd hsame (by decide)
  · exact absurd hsame (by decide)

end velvet.distributed_work_service
