import VelvetRuntime.DistributedWork.Tables

open python python.str velvet.distributed_work_coordinator

namespace velvet.distributed_work_service

open Program DistributedWorkCoordinator

section

variable [StrLower] {sinks : Sinks}

def LifecycleEvidence.completes (work : String) (evidence : LifecycleEvidence) : Bool :=
  evidence.event_type = .WORK_COMPLETED && evidence.subject_id = work

/-- The completion events for a work that a call adds to the journal. -/
def Entry.completions (work : String) (entry : Entry) : Nat :=
  ((entry.after.journal.drop entry.before.journal.length).filter (LifecycleEvidence.completes work)).length

/-- Whether a call submits the work and does not raise. -/
def Entry.submits (work : String) (entry : Entry) : Bool :=
  match entry.operation with
  | .submit proposal _ _ => proposal.proposal_id = work && entry.result.isOk
  | _ => false

/-- The completion events for a work since it was last submitted. -/
def completions_since_submit (work : String) (past : List Entry) : Nat :=
  past.foldl (fun count entry => if entry.submits work then 0 else count + entry.completions work) 0

theorem completions_of_quiet {entry : Entry} (hquiet : Quiet entry.before entry.after) (work : String) :
    entry.completions work = 0 := by
  obtain ⟨events, hevents, hnone⟩ := hquiet
  unfold Entry.completions
  rw [hevents, List.drop_left, List.length_eq_zero_iff, List.filter_eq_nil_iff]
  intro evidence hmem
  simp [LifecycleEvidence.completes, hnone evidence hmem]

variable {evidence : LifecycleEvidence}

theorem completions_of_emitted {entry : Entry} {subject : String}
    (hjournal : entry.after.journal = entry.before.journal ++ [evidence])
    (htype : evidence.event_type = .WORK_COMPLETED) (hsubject : evidence.subject_id = subject) (work : String) :
    entry.completions work = if subject = work then 1 else 0 := by
  unfold Entry.completions
  rw [hjournal, List.drop_left]
  by_cases hwork : subject = work
  · simp [LifecycleEvidence.completes, htype, hsubject, hwork]
  · simp [LifecycleEvidence.completes, htype, hsubject, hwork]

/-- A work has at most one completion event since its submission, and none while it is active
without a pending completion. -/
structure CompletedOnce (service : DistributedWorkService DistributedWorkCoordinator) (work : String)
    (count : Nat) : Prop where
  at_most_one : count ≤ 1
  none_yet : (service.proposals.get? work).isSome = true → service.pending_completion.get? work = none → count = 0

variable {result : Except Error (List DistributedWorkServiceOutcome)} {operation : Operation} {before after : Runtime}
variable {work : String}

theorem CompletedOnce.effect {count : Nat} (htied : Tied before.toDistributedWorkService)
    (heffect : Effect sinks operation before result after)
    (honce : CompletedOnce before.toDistributedWorkService work count) :
    CompletedOnce after.toDistributedWorkService work
      (if (Entry.mk before operation result after).submits work then 0
        else count + (Entry.mk before operation result after).completions work) := by
  obtain ⟨hbound, hnone_yet⟩ := id honce
  split
  · exact ⟨by omega, fun _ _ => rfl⟩
  · rename_i hsubmits
    -- A quiet call that keeps the two tables keeps the count.
    have hkeeps : Quiet before after →
        ((after.proposals.get? work).isSome = true → (before.proposals.get? work).isSome = true) →
        (after.pending_completion.get? work = none → before.pending_completion.get? work = none) →
        CompletedOnce after.toDistributedWorkService work
          (count + (Entry.mk before operation result after).completions work) := by
      intro hquiet hproposals hpending
      rw [completions_of_quiet hquiet work]
      exact ⟨hbound, fun hactive hnone => hnone_yet (hproposals hactive) (hpending hnone)⟩
    cases heffect with
    | unchanged hsame hquiet =>
      apply hkeeps hquiet
      · rw [hsame]; exact id
      · rw [hsame]; exact id
    | registered registry hafter hquiet =>
      apply hkeeps hquiet
      · rw [hafter]; exact id
      · rw [hafter]; exact id
    | not_offered hnew hunplaced hafter hquiet =>
      apply hkeeps hquiet
      · rw [hafter]; exact id
      · rw [hafter]; exact id
    | @offered proposal now lease_seconds _ _ outcome decision lease hnew hdecision hlease hafter hquiet =>
      have hother : work ≠ proposal.proposal_id := by
        rintro rfl
        exact hsubmits (by simp [Entry.submits, Except.isOk, Except.toBool])
      apply hkeeps hquiet
      · rw [hafter]
        dsimp only
        rw [Dict.get?_set_of_ne _ _ hother]
        exact id
      · rw [hafter]; exact id
    | @offer_withdrawn proposal now lease_seconds _ _ _ decision lease hnew hdecision hlease hafter hquiet =>
      apply hkeeps hquiet
      · rw [hafter]
        dsimp only
        rw [Dict.pop_set_self, Dict.get?_pop]
        split
        · intro hsome
          cases hsome
        · exact id
      · rw [hafter]; exact id
    | accepted lease hactive hlease hnode hafter hquiet =>
      apply hkeeps hquiet
      · rw [hafter]; exact id
      · rw [hafter]; exact id
    | reassigned lease hlease hnode hreason hrefused hrequested hafter hquiet =>
      apply hkeeps hquiet
      · rw [hafter]; exact id
      · rw [hafter]; exact id
    | @completion_pending work_result _ _ _ lease evidence hlease hnode hmember hnone hafter hjournal htype
        hsubject =>
      rw [completions_of_emitted hjournal htype hsubject work]
      rw [hafter]
      by_cases hwork : work_result.work_id = work
      · subst hwork
        have hzero := hnone_yet (htied.accepted _ hmember) hnone
        rw [if_pos rfl, hzero]
        refine ⟨le_refl 1, ?_⟩
        intro _ habsurd
        dsimp only at habsurd
        rw [Dict.get?_set_self] at habsurd
        cases habsurd
      · rw [if_neg hwork]
        refine ⟨hbound, ?_⟩
        intro hactive hstill
        dsimp only at hactive hstill
        rw [Dict.get?_set_of_ne _ _ (Ne.symm hwork)] at hstill
        exact hnone_yet hactive hstill
    | @completed work_result _ _ outcome lease hlease hnode hmember hafter hjournal =>
      -- The work leaves the proposals, so only the bound is left to show.
      by_cases hwork : work_result.work_id = work
      · subst hwork
        refine ⟨?_, ?_⟩
        · rcases hjournal with ⟨evidence, _, hsame⟩ | ⟨evidence, hnone, hemitted, htype, hsubject⟩
          · rw [completions_of_quiet (Quiet.of_eq hsame)]
            exact hbound
          · rw [completions_of_emitted hemitted htype hsubject, if_pos rfl,
              hnone_yet (htied.accepted _ hmember) hnone]
        · rw [hafter]
          dsimp only
          rw [Dict.get?_pop_self]
          intro habsurd
          cases habsurd
      · have hzero : (Entry.mk before (.complete work_result) (.ok [outcome]) after).completions work = 0 := by
          rcases hjournal with ⟨evidence, _, hsame⟩ | ⟨evidence, hnone, hemitted, htype, hsubject⟩
          · exact completions_of_quiet (Quiet.of_eq hsame) work
          · rw [completions_of_emitted hemitted htype hsubject, if_neg hwork]
        rw [hzero, hafter]
        refine ⟨hbound, ?_⟩
        dsimp only
        rw [Dict.get?_pop_of_ne _ (Ne.symm hwork), Dict.get?_pop_of_ne _ (Ne.symm hwork)]
        exact hnone_yet
    | recovered accepted hafter hsubset hdiscarded hquiet =>
      apply hkeeps hquiet
      · rw [hafter]; exact id
      · rw [hafter]; exact id

theorem completed_once (sinks : Sinks) (registry : VerifiedNodeRegistry) (operations : List Operation)
    (work : String) :
    CompletedOnce (run sinks (start registry) operations).toDistributedWorkService work
      (completions_since_submit work (history sinks (start registry) operations)) := by
  induction operations using List.reverseRecOn with
  | nil => exact ⟨by simp [completions_since_submit, history], fun _ _ => rfl⟩
  | append_singleton operations operation ih =>
    have htied := tied_run sinks registry operations
    rw [history_append, run_append]
    unfold completions_since_submit at ih ⊢
    rw [List.foldl_append]
    exact ih.effect htied (perform_effect sinks htied operation)

/-- The holder of this lease had a completion event receipted for the work, and the lease has been
the work's lease from then on. -/
def EmittedUnder (past : List Entry) (work : String) (lease : WorkLease) : Prop :=
  SinceUnderLease past work lease (fun entry => ∃ work_result, entry.operation = .complete work_result ∧
    work_result.work_id = work ∧ work_result.node_id = lease.node_id ∧ entry.completions work = 1)

/-- The call does not hand a work whose completion is pending to another node: neither a refusal
that reaches the coordinator nor a recovery finds a node for it. -/
def KeepsPending (sinks : Sinks) (entry : Entry) : Prop :=
  match entry.operation with
  | .refuse work_id node_id reason now lease_seconds =>
    sinks.receipts entry.before.lifecycle_calls = true →
    sinks.receipts (entry.before.lifecycle_calls + 1) = true →
    (entry.before.pending_completion.get? (normalized work_id)).isSome = true →
    ∀ decision, (entry.before.coordinator.refuse_and_reassign (normalized work_id) (normalized node_id)
      (stripped reason) now lease_seconds).1 = .ok decision → decision.lease = none
  | .recover now max_heartbeat_age lease_seconds =>
    ∀ decisions,
      (entry.before.coordinator.recover_unavailable_nodes now max_heartbeat_age lease_seconds).1 =
        .ok decisions →
      ∀ decision ∈ decisions, ∀ lease, decision.lease = some lease →
        entry.before.pending_completion.get? lease.work_id = none
  | _ => True

/-- A pending completion after a call was pending before, unless the call is the completion that
leaves it pending. -/
theorem pending_origin (heffect : Effect sinks operation before result after)
    {pending : WorkResult × LifecycleEvidence} (hpending : after.pending_completion.get? work = some pending) :
    before.pending_completion.get? work = some pending ∨
    (∃ work_result lease, operation = .complete work_result ∧ work_result.work_id = work ∧
      work_result.node_id = lease.node_id ∧ after.lease_of work = some lease ∧
      (Entry.mk before operation result after).completions work = 1) := by
  unfold Runtime.lease_of
  cases heffect with
  | unchanged hsame hquiet => exact .inl (hsame ▸ hpending)
  | registered registry hafter hquiet => rw [hafter] at hpending; exact .inl hpending
  | not_offered hnew hunplaced hafter hquiet => rw [hafter] at hpending; exact .inl hpending
  | offered decision lease hnew hdecision hlease hafter hquiet => rw [hafter] at hpending; exact .inl hpending
  | offer_withdrawn decision lease hnew hdecision hlease hafter hquiet =>
    rw [hafter] at hpending
    exact .inl hpending
  | accepted lease hactive hlease hnode hafter hquiet => rw [hafter] at hpending; exact .inl hpending
  | reassigned lease hlease hnode hreason hrefused hrequested hafter hquiet =>
    rw [hafter] at hpending
    exact .inl hpending
  | @completion_pending work_result _ _ _ lease evidence hlease hnode hmember hnone hafter hjournal htype
      hsubject =>
    rw [hafter] at hpending ⊢
    dsimp only at hpending
    rw [Dict.get?_set] at hpending
    split at hpending
    · rename_i hwork
      refine .inr ⟨work_result, lease, rfl, hwork.symm, hnode.symm, hwork ▸ hlease, ?_⟩
      rw [completions_of_emitted hjournal htype hsubject, if_pos hwork.symm]
    · exact .inl hpending
  | completed lease hlease hnode hmember hafter hjournal =>
    rw [hafter] at hpending
    dsimp only at hpending
    rw [Dict.get?_pop] at hpending
    split at hpending
    · cases hpending
    · exact .inl hpending
  | recovered accepted hafter hsubset hdiscarded hquiet => rw [hafter] at hpending; exact .inl hpending

/-- A call that keeps pending works with their nodes keeps their leases. -/
theorem lease_kept_of_pending (htied : Tied before.toDistributedWorkService)
    (heffect : Effect sinks operation before result after)
    (hkeeps : KeepsPending sinks ⟨before, operation, result, after⟩) {lease : WorkLease}
    (hpending : (before.pending_completion.get? work).isSome = true) (hlease : after.lease_of work = some lease) :
    before.lease_of work = some lease := by
  obtain ⟨pending, hget⟩ := Option.isSome_iff_exists.mp hpending
  cases lease_origin htied heffect hlease with
  | kept hkept => exact hkept
  | offered proposal now lease_seconds hoperation hwork hnew =>
    have hactive := (htied.pending work pending hget).1
    rw [hnew] at hactive
    cases hactive
  | reassigned work_id node_id reason now lease_seconds old_lease decision hoperation hwork hold hdecision
      hissued hmoved =>
    subst hoperation hwork
    cases heffect with
    | unchanged hsame hquiet =>
      unfold Runtime.lease_of at hlease ⊢
      rw [hsame] at hlease
      exact hlease
    | reassigned owned howned hnode hreason hrefused hrequested hafter hquiet =>
      rw [hkeeps hrefused hrequested hpending decision hdecision] at hissued
      cases hissued
  | recovered now max_heartbeat_age lease_seconds old_lease decisions decision hoperation hold hdecisions
      hdecision hissued hwork hmoved =>
    subst hoperation hwork
    rw [hkeeps decisions hdecisions decision hdecision lease hissued] at hget
    cases hget

/-- Every pending completion of a leased work was emitted under its lease. -/
def PendingCurrent (past : List Entry) (world : Runtime) : Prop :=
  ∀ work, (world.pending_completion.get? work).isSome = true → ∀ lease, world.lease_of work = some lease →
    EmittedUnder past work lease

theorem PendingCurrent.step {past : List Entry} {world : Runtime} (htied : Tied world.toDistributedWorkService)
    (hcurrent : PendingCurrent past world) (hkeeps : KeepsPending sinks (entry_of sinks world operation)) :
    PendingCurrent (past ++ [entry_of sinks world operation]) (entry_of sinks world operation).after := by
  intro work hsome lease hlease
  have heffect := perform_effect sinks htied operation
  obtain ⟨pending, hpending⟩ := Option.isSome_iff_exists.mp hsome
  rcases pending_origin heffect hpending with
    hbefore | ⟨work_result, found, hoperation, hwork, hnode, hfound, hemitted⟩
  · have hold := Option.isSome_of_eq_some hbefore
    have hkept := lease_kept_of_pending htied heffect hkeeps hold hlease
    exact (hcurrent work hold lease hkept).extend hlease
  · cases hfound.symm.trans hlease
    exact .start past ⟨work_result, hoperation, hwork, hnode, hemitted⟩ hlease

theorem pending_current (registry : VerifiedNodeRegistry) (operations : List Operation)
    (hkeeps : ∀ entry ∈ history sinks (start registry) operations, KeepsPending sinks entry) :
    PendingCurrent (history sinks (start registry) operations) (run sinks (start registry) operations) := by
  induction operations using List.reverseRecOn with
  | nil =>
    intro work hsome
    cases hsome
  | append_singleton operations operation ih =>
    rw [history_append] at hkeeps ⊢
    rw [run_append]
    refine (ih ?_).step (tied_run sinks registry operations) ?_
    · intro entry hentry
      exact hkeeps entry (List.mem_append_left _ hentry)
    · exact hkeeps _ (List.mem_append_right _ (by simp [history]))

/-- A call for a result that differs from the pending one is refused on that ground. -/
theorem complete_refused_as_different {world : Runtime} (htied : Tied world.toDistributedWorkService)
    {work_result pending_result : WorkResult} {lease : WorkLease}
    (hlease : world.lease_of work_result.work_id = some lease) (hnode : lease.node_id = work_result.node_id)
    (haccepted : work_result.work_id ∈ world.accepted)
    (hpending : world.pending_completion.get? work_result.work_id = some (pending_result, evidence))
    (hdifferent : pending_result ≠ work_result) :
    (perform sinks (.complete work_result)).result world =
      .error ⟨.ValueError, "completion retry must use the same result"⟩ := by
  obtain ⟨proposal, hproposal⟩ := Option.isSome_iff_exists.mp (htied.leased _ lease hlease)
  have hnormal := work_result.work_id_normal.2
  have hfor : WorkCoordinator.lease_for world.coordinator work_result.work_id = some lease := by
    change world.coordinator.leases.get? (normalized work_result.work_id) = some lease
    rw [hnormal]
    exact hlease
  apply (wp_result_after (fun (result : Except Error (List DistributedWorkServiceOutcome)) (_ : Runtime) =>
    result = .error ⟨.ValueError, "completion retry must use the same result"⟩)).mp
  simp [perform, complete, required_proposal, required_owned_lease, completion_evidence, hnormal, hproposal,
    hfor, hnode, work_result.node_id_normal.2, haccepted, hpending, hdifferent]

/-- Over every run, a submitted proposal gets at most one completion event. The holder of a lease that
has accepted it can still be refused its completion, because a result is pending for the work that
another node left behind: a pending completion survives a refusal and a recovery. In every run where
no such call hands a work with a pending completion to another node, a holder is refused this way only
after it had a completion event receipted under this very lease. -/
theorem completion_refused_after_own_evidence (sinks : Sinks) (registry : VerifiedNodeRegistry)
    (operations : List Operation) :
    (∀ work, completions_since_submit work (history sinks (start registry) operations) ≤ 1) ∧
    ∀ (work_result pending_result : WorkResult) (lease : WorkLease) (evidence : LifecycleEvidence),
      (run sinks (start registry) operations).lease_of work_result.work_id = some lease →
      lease.node_id = work_result.node_id →
      work_result.work_id ∈ (run sinks (start registry) operations).accepted →
      (run sinks (start registry) operations).pending_completion.get? work_result.work_id =
        some (pending_result, evidence) →
      pending_result ≠ work_result →
      (perform sinks (.complete work_result)).result (run sinks (start registry) operations) =
        .error ⟨.ValueError, "completion retry must use the same result"⟩ ∧
      ((∀ entry ∈ history sinks (start registry) operations, KeepsPending sinks entry) →
        EmittedUnder (history sinks (start registry) operations) work_result.work_id lease) := by
  refine ⟨fun work => (completed_once sinks registry operations work).at_most_one, ?_⟩
  intro work_result pending_result lease evidence hlease hnode haccepted hpending hdifferent
  refine ⟨complete_refused_as_different (tied_run sinks registry operations) hlease hnode haccepted hpending
    hdifferent, ?_⟩
  intro hkeeps
  exact pending_current registry operations hkeeps work_result.work_id (Option.isSome_of_eq_some hpending)
    lease hlease

end

/-- `a` accepts `w1` and completes it with an important result while the Queen cannot be reached. -/
def completion_pending_on_a [StrLower] (hwork : IsNormalized "w1") (hnode : IsNormalized "a") :
    List Operation :=
  [.register_node (plain_node "a" 1 0 .AVAILABLE 1 text_a full_health zero_beat Nat.one_pos),
    .submit (plain_proposal "w1" hwork) 10 1000, .accept "w1" "a",
    .complete (plain_result "w1" "a" true hwork hnode)]

/-- A retry by `a` with another result is refused, and `a` had emitted a completion under its
lease. -/
theorem retry_with_other_result_refused :
    letI := StrLower.ascii
    let sinks := sinks_failing_at none (some 0)
    let operations := completion_pending_on_a (by decide) (by decide)
    let world := run sinks (start (VerifiedNodeRegistry.new "body")) operations
    let past := history sinks (start (VerifiedNodeRegistry.new "body")) operations
    let work_result := plain_result "w1" "a" false (by decide) (by decide)
    (perform sinks (.complete work_result)).result world =
        .error ⟨.ValueError, "completion retry must use the same result"⟩ ∧
      ∀ lease, world.lease_of "w1" = some lease → EmittedUnder past "w1" lease := by
  let := StrLower.ascii
  refine ⟨by with_unfolding_all decide, ?_⟩
  intro lease hlease
  have hholder : ((run (sinks_failing_at none (some 0)) (start (VerifiedNodeRegistry.new "body"))
      (completion_pending_on_a (by decide) (by decide))).lease_of "w1").map WorkLease.node_id = some "a" := by
    with_unfolding_all decide
  have himportant : ((run (sinks_failing_at none (some 0)) (start (VerifiedNodeRegistry.new "body"))
      (completion_pending_on_a (by decide) (by decide))).pending_completion.get? "w1").map
        (fun pending => pending.1.important) = some true := by
    with_unfolding_all decide
  obtain ⟨⟨pending_result, evidence⟩, hpending, hpending_important⟩ := Option.map_eq_some_iff.mp himportant
  rw [hlease] at hholder
  have hlaw := (completion_refused_after_own_evidence (sinks_failing_at none (some 0))
    (VerifiedNodeRegistry.new "body") (completion_pending_on_a (by decide) (by decide))).2
    (plain_result "w1" "a" false (by decide) (by decide)) pending_result lease evidence
  have hmember : "w1" ∈ (run (sinks_failing_at none (some 0)) (start (VerifiedNodeRegistry.new "body"))
      (completion_pending_on_a (by decide) (by decide))).accepted := by with_unfolding_all decide
  have hdifferent : pending_result ≠ plain_result "w1" "a" false (by decide) (by decide) := by
    rintro rfl
    cases hpending_important
  refine (hlaw hlease (Option.some.inj hholder) hmember hpending hdifferent).2 ?_
  intro entry hentry
  have hmem := List.mem_map_of_mem (f := Entry.operation) hentry
  rw [history_operations] at hmem
  unfold KeepsPending
  simp only [completion_pending_on_a, List.mem_cons, List.not_mem_nil, or_false] at hmem
  rcases hmem with hmem | hmem | hmem | hmem
  · rw [hmem]
    trivial
  · rw [hmem]
    trivial
  · rw [hmem]
    trivial
  · rw [hmem]
    trivial

/-- `a` completes `w1` with an important result while the Queen cannot be reached, then refuses the
work, which goes to `b`, and `b` accepts it. -/
def completion_left_behind [StrLower] (hwork : IsNormalized "w1") (hnode : IsNormalized "a") :
    List Operation :=
  [.register_node (plain_node "a" 1 0 .AVAILABLE 1 text_a full_health zero_beat Nat.one_pos),
    .register_node (plain_node "b" (1 / 2) 0 .AVAILABLE 1 text_b half_health zero_beat Nat.one_pos),
    .submit (plain_proposal "w1" hwork) 10 1000, .accept "w1" "a",
    .complete (plain_result "w1" "a" true hwork hnode), .refuse "w1" "a" "overloaded" 20 1000, .accept "w1" "b"]

/-- `b` holds the lease and has accepted it, but its completion is refused because of the result that
`a` left pending; `b` itself never emitted a completion. -/
theorem completion_refused_for_left_behind :
    letI := StrLower.ascii
    let sinks := sinks_failing_at none (some 0)
    let operations := completion_left_behind (by decide) (by decide)
    let world := run sinks (start (VerifiedNodeRegistry.new "body")) operations
    let past := history sinks (start (VerifiedNodeRegistry.new "body")) operations
    let work_result := plain_result "w1" "b" true (by decide) (by decide)
    (world.lease_of "w1").map WorkLease.node_id = some "b" ∧ "w1" ∈ world.accepted ∧
      ((world.pending_completion.get? "w1").map (fun pending => pending.1.node_id)) = some "a" ∧
      (perform sinks (.complete work_result)).result world =
        .error ⟨.ValueError, "completion retry must use the same result"⟩ ∧
      ∀ lease, world.lease_of "w1" = some lease → ¬ EmittedUnder past "w1" lease := by
  let := StrLower.ascii
  have hholder : ((run (sinks_failing_at none (some 0)) (start (VerifiedNodeRegistry.new "body"))
      (completion_left_behind (by decide) (by decide))).lease_of "w1").map WorkLease.node_id = some "b" := by
    decide +kernel
  refine ⟨hholder, by decide +kernel, by decide +kernel, by decide +kernel, ?_⟩
  rintro lease hlease ⟨earlier, entry, later, hpast, ⟨work_result, hoperation, _, hnode, _⟩, _⟩
  have hmem : entry.operation ∈ completion_left_behind (by decide) (by decide) := by
    rw [← history_operations (sinks_failing_at none (some 0)) (start (VerifiedNodeRegistry.new "body"))
      (completion_left_behind _ _), hpast]
    simp
  rw [hlease] at hholder
  rw [hoperation] at hmem
  simp [completion_left_behind] at hmem
  subst hmem
  have hb : lease.node_id = "b" := Option.some.inj hholder
  rw [hb] at hnode
  exact absurd hnode (by decide)

end velvet.distributed_work_service
