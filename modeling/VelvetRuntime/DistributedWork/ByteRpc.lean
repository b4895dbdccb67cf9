import VelvetRuntime.DistributedWork.Changes

open python python.str python.Program velvet.distributed_work_coordinator velvet.distributed_work_service

namespace velvet.distributed_work_byte_rpc

section

variable [StrLower]

/-- A decoded request of a specialist with what its decoding checks; its numbers are finite. -/
inductive Message where
  | register_node (advertisement : NodeAdvertisement) (node_id_normal : IsNormalized advertisement.node_id)
  | accept (work_id node_id : String) (work_id_normal : IsNormalized work_id) (node_id_normal : IsNormalized node_id)
  | refuse (work_id node_id reason : String) (now lease_seconds : ℚ) (work_id_normal : IsNormalized work_id)
    (node_id_normal : IsNormalized node_id) (reason_text : ¬ Blank reason)
  | complete (work_result : WorkResult)

/-- The node that a message names as its own. -/
def Message.node_id : Message → String
  | .register_node advertisement _ => advertisement.node_id
  | .accept _ node_id _ _ => node_id
  | .refuse _ node_id _ _ _ _ _ _ => node_id
  | .complete work_result => work_result.node_id

def binding_error (claimed_node_id : String) : Error :=
  ⟨.PermissionError, "authenticated peer cannot act as node_id " ++ claimed_node_id⟩

/-- `_bind_node`. -/
def bind_node (authenticated_peer_id claimed_node_id : String) : Except Error Unit :=
  if authenticated_peer_id ≠ claimed_node_id then .error (binding_error claimed_node_id) else .ok ()

/-- What the service answers a request with. -/
inductive Reply where
  | registration (decision : NodeRegistrationDecision) (lifecycle : List LifecycleEvidence)
  | outcome (outcome : DistributedWorkServiceOutcome)

variable {C : Type} [WorkCoordinator C] (sinks : Sinks)

/-- The service call for a message. -/
def serve_message : Message → Program Error (World C) Reply
  | .register_node advertisement _ => do
    let (decision, lifecycle) ← register_node sinks advertisement
    pure (.registration decision lifecycle)
  | .accept work_id node_id _ _ => do
    let outcome ← accept sinks work_id node_id
    pure (.outcome outcome)
  | .refuse work_id node_id reason now lease_seconds _ _ _ => do
    let outcome ← refuse sinks work_id node_id reason now lease_seconds
    pure (.outcome outcome)
  | .complete work_result => do
    let outcome ← complete sinks work_result
    pure (.outcome outcome)

/-- `DistributedWorkServiceByteEndpoint._dispatch`: each operation binds the peer to the node id of its message before
it calls the service. -/
def dispatch (source_peer_id : String) (message : Message) : Program Error (World C) Reply := do
  Program.of_except (bind_node source_peer_id message.node_id)
  serve_message sinks message

variable {source_peer_id : String}

/-- Under any name but its own a peer gets nothing but the refusal. -/
theorem run_dispatch_of_ne {message : Message} (hne : source_peer_id ≠ message.node_id)
    (world : World C) :
    (dispatch sinks source_peer_id message).run world = .error (binding_error message.node_id) world := by
  have hbound : bind_node source_peer_id message.node_id = .error (binding_error message.node_id) := if_pos hne
  unfold dispatch
  rw [run_bind, hbound]
  rfl

theorem run_dispatch_of_eq {message : Message} (heq : source_peer_id = message.node_id)
    (world : World C) : (dispatch sinks source_peer_id message).run world = (serve_message sinks message).run world := by
  have hbound : bind_node source_peer_id message.node_id = .ok () := if_neg (not_not_intro heq)
  unfold dispatch
  rw [run_bind, hbound]
  rfl

/-- The node that an event comes from. -/
def origin : Payload → Option String
  | .node payload => some payload.advertisement.node_id
  | .work payload => payload.from_node_id.or payload.node_id

/-- What a call does for one node about one work: the service's tables change for that work only, and the events come
from the node. -/
structure About (work node : String) (before after : World C) : Prop where
  proposals : ∀ key, key ≠ work → after.proposals.get? key = before.proposals.get? key
  accepted : ∀ key, key ≠ work → (key ∈ after.accepted ↔ key ∈ before.accepted)
  pending : ∀ key, key ≠ work → after.pending_completion.get? key = before.pending_completion.get? key
  journal : ∃ events, after.journal = before.journal ++ events ∧ ∀ evidence ∈ events, origin evidence.payload = some node

variable {work node : String} {sinks} {world : World C}

omit [WorkCoordinator C] in
theorem About.trans {first second third : World C} (hfirst : About work node first second)
    (hsecond : About work node second third) : About work node first third := by
  obtain ⟨events, hevents, hfrom⟩ := hfirst.journal
  obtain ⟨more, hmore, hfrom'⟩ := hsecond.journal
  refine ⟨fun key hkey => (hsecond.proposals key hkey).trans (hfirst.proposals key hkey),
    fun key hkey => (hsecond.accepted key hkey).trans (hfirst.accepted key hkey),
    fun key hkey => (hsecond.pending key hkey).trans (hfirst.pending key hkey),
    events ++ more, by rw [hmore, hevents, List.append_assoc], ?_⟩
  intro evidence hmem
  rcases List.mem_append.mp hmem with hmem | hmem
  · exact hfrom evidence hmem
  · exact hfrom' evidence hmem

omit [WorkCoordinator C] in
/-- A call without events that leaves the tables alone. -/
theorem About.quiet {before after : World C} (hproposals : after.proposals = before.proposals)
    (haccepted : after.accepted = before.accepted) (hpending : after.pending_completion = before.pending_completion)
    (hjournal : after.journal = before.journal) : About work node before after := by
  refine ⟨?_, ?_, ?_, [], by simpa using hjournal, by simp⟩
  · intro key _
    rw [hproposals]
  · intro key _
    rw [haccepted]
  · intro key _
    rw [hpending]

omit [WorkCoordinator C] in
theorem About.refl (world : World C) : About work node world world := .quiet rfl rfl rfl rfl

/-- An emission by the node. -/
theorem wp_emit_about (work : String) {event_type : EventType} {subject_id : String} {payload : Payload}
    (horigin : origin payload = some node) {returns : LifecycleEvidence → World C → Prop}
    {raises : Error → World C → Prop}
    (hreturns : sinks.receipts world.lifecycle_calls = true → ∀ evidence after, About work node world after →
      after.toDistributedWorkService = world.toDistributedWorkService →
      after.lifecycle_calls = world.lifecycle_calls + 1 → returns evidence after)
    (hraises : sinks.receipts world.lifecycle_calls = false → ∀ error after, About work node world after →
      after.toDistributedWorkService = world.toDistributedWorkService → raises error after) :
    wp (emit sinks event_type subject_id payload) returns raises world := by
  apply wp_emit
  · intro hreceipt evidence _ _ hpayload
    refine hreturns hreceipt evidence _ ⟨fun _ _ => rfl, fun _ _ => Iff.rfl, fun _ _ => rfl, [evidence], rfl, ?_⟩ rfl rfl
    intro found hfound
    rw [List.mem_singleton.mp hfound, hpayload]
    exact horigin
  · intro hreceipt error
    exact hraises hreceipt error _ (.quiet rfl rfl rfl rfl) rfl

/-- A work that a node holds a lease of. -/
def Holds (world : World C) (work node : String) : Prop :=
  ∃ lease, WorkCoordinator.lease_for world.coordinator work = some lease ∧ lease.node_id = node

theorem accept_about (sinks : Sinks) (world : World C) {work_id node_id : String} (hwork : normalized work_id = work_id)
    (hnode : normalized node_id = node_id) :
    (accept sinks work_id node_id).after world = world ∨
      Holds world work_id node_id ∧ About work_id node_id world ((accept sinks work_id node_id).after world) ∧
        ((accept sinks work_id node_id).after world).coordinator = world.coordinator := by
  apply (wp_result_after (fun _ after => after = world ∨ Holds world work_id node_id ∧
    About work_id node_id world after ∧ after.coordinator = world.coordinator)).mp
  unfold accept
  dsimp only
  rw [hwork, hnode, wp_bind]
  apply wp_required_proposal
  · intro proposal _
    rw [wp_bind]
    apply wp_owned_lease
    · intro lease hlease hheld
      rw [hwork] at hlease
      rw [hnode] at hheld
      have hholds : Holds world work_id node_id := ⟨lease, hlease, hheld⟩
      have horigin : origin (.work ((work_payload proposal).with_lease lease)) = some node_id := congrArg some hheld
      rw [wp_bind]
      apply wp_emit_about work_id horigin
      · intro _ evidence after habout hsame _
        rw [wp_bind, wp_modify]
        refine Or.inr ⟨hholds, habout.trans ⟨fun _ _ => rfl, ?_, fun _ _ => rfl, [], by simp, by simp⟩,
          congrArg (·.coordinator) hsame⟩
        intro key hkey
        exact List.mem_insert_iff.trans (or_iff_right hkey)
      · intro _ error after habout hsame
        exact Or.inr ⟨hholds, habout, congrArg (·.coordinator) hsame⟩
    · exact fun _ _ => Or.inl rfl
  · exact fun _ _ => Or.inl rfl

/-- Whether a refusal gets as far as the coordinator: the work is active, the node holds its lease, and both events
that come first get their receipts. -/
structure Refuses (sinks : Sinks) (world : World C) (work node : String) : Prop where
  active : (world.proposals.get? work).isSome = true
  holds : Holds world work node
  refused : sinks.receipts world.lifecycle_calls = true
  requested : sinks.receipts (world.lifecycle_calls + 1) = true

theorem refuse_about (sinks : Sinks) (world : World C) {work_id node_id reason : String} (now lease_seconds : ℚ) (hwork : normalized work_id = work_id)
    (hnode : normalized node_id = node_id) (hreason : ¬ Blank reason) :
    let after := (refuse sinks work_id node_id reason now lease_seconds).after world
    (after = world ∨ Holds world work_id node_id ∧ About work_id node_id world after) ∧
      (Refuses sinks world work_id node_id ∧ after.coordinator = (WorkCoordinator.refuse_and_reassign world.coordinator
        work_id node_id (stripped reason) now lease_seconds).2 ∨
      ¬ Refuses sinks world work_id node_id ∧ after.coordinator = world.coordinator) := by
  apply (wp_result_after (fun _ after =>
    (after = world ∨ Holds world work_id node_id ∧ About work_id node_id world after) ∧
      (Refuses sinks world work_id node_id ∧ after.coordinator = (WorkCoordinator.refuse_and_reassign world.coordinator
        work_id node_id (stripped reason) now lease_seconds).2 ∨
      ¬ Refuses sinks world work_id node_id ∧ after.coordinator = world.coordinator))).mp
  unfold refuse
  dsimp only
  rw [if_neg hreason, hwork, hnode, wp_bind]
  apply wp_required_proposal
  · intro proposal hproposal
    rw [hwork] at hproposal
    rw [wp_bind]
    apply wp_owned_lease
    · intro lease hlease hheld
      rw [hwork] at hlease
      rw [hnode] at hheld
      have hholds : Holds world work_id node_id := ⟨lease, hlease, hheld⟩
      have hnode_id : some lease.node_id = some node_id := congrArg some hheld
      rw [wp_bind]
      apply wp_emit_about work_id (by exact hnode_id)
      · intro hrefused refused first hfirst htables hcalls
        rw [wp_bind]
        apply wp_emit_about work_id (by exact hnode_id)
        · intro hrequested requested second hsecond htables' _
          rw [hcalls] at hrequested
          have hreaches : Refuses sinks world work_id node_id :=
            ⟨by rw [hproposal]; rfl, hholds, hrefused, hrequested⟩
          have hcoordinator : second.coordinator = world.coordinator :=
            congrArg (·.coordinator) (htables'.trans htables)
          have habout := hfirst.trans hsecond
          -- What follows the coordinator's call keeps its outcome.
          have hends : ∀ after : World C, About work_id node_id second after →
              after.coordinator = (WorkCoordinator.refuse_and_reassign second.coordinator work_id node_id
                (stripped reason) now lease_seconds).2 →
              (after = world ∨ Holds world work_id node_id ∧ About work_id node_id world after) ∧
                (Refuses sinks world work_id node_id ∧ after.coordinator = (WorkCoordinator.refuse_and_reassign
                  world.coordinator work_id node_id (stripped reason) now lease_seconds).2 ∨
                ¬ Refuses sinks world work_id node_id ∧ after.coordinator = world.coordinator) := by
            intro after hlast hafter
            rw [hcoordinator] at hafter
            exact ⟨Or.inr ⟨hholds, habout.trans hlast⟩, Or.inl ⟨hreaches, hafter⟩⟩
          rw [wp_bind]
          apply wp_call
          · intro decision _
            rw [wp_bind, wp_modify]
            have hdiscarded : About work_id node_id second { second with
                coordinator := (WorkCoordinator.refuse_and_reassign second.coordinator work_id node_id
                  (stripped reason) now lease_seconds).2
                accepted := discard second.accepted work_id } := by
              refine ⟨fun _ _ => rfl, ?_, fun _ _ => rfl, [], by simp, by simp⟩
              intro key hkey
              exact mem_discard.trans (and_iff_left hkey)
            split
            · rw [wp_bind]
              apply wp_emit_about work_id (by exact hnode_id)
              · intro _ _ after hlast hsame _
                exact hends after (hdiscarded.trans hlast) (congrArg (·.coordinator) hsame)
              · intro _ _ after hlast hsame
                exact hends after (hdiscarded.trans hlast) (congrArg (·.coordinator) hsame)
            · rw [wp_bind]
              apply wp_emit_about work_id (by exact hnode_id)
              · intro _ _ after hlast hsame _
                exact hends after (hdiscarded.trans hlast) (congrArg (·.coordinator) hsame)
              · intro _ _ after hlast hsame
                exact hends after (hdiscarded.trans hlast) (congrArg (·.coordinator) hsame)
          · intro error _
            exact hends _ (.quiet rfl rfl rfl rfl) rfl
        · intro hfails error after hsecond htables'
          rw [hcalls] at hfails
          refine ⟨Or.inr ⟨hholds, hfirst.trans hsecond⟩, Or.inr ⟨fun hreaches => ?_, ?_⟩⟩
          · rw [hreaches.requested] at hfails
            cases hfails
          · exact congrArg (·.coordinator) (htables'.trans htables)
      · intro hfails error after hfirst htables
        refine ⟨Or.inr ⟨hholds, hfirst⟩, Or.inr ⟨fun hreaches => ?_, congrArg (·.coordinator) htables⟩⟩
        rw [hreaches.refused] at hfails
        cases hfails
    · intro hnot error
      refine ⟨Or.inl rfl, Or.inr ⟨fun hreaches => ?_, rfl⟩⟩
      obtain ⟨lease, hlease, hheld⟩ := hreaches.holds
      exact hnot lease (by rw [hwork]; exact hlease) (by rw [hnode]; exact hheld)
  · intro hnone error
    rw [hwork] at hnone
    refine ⟨Or.inl rfl, Or.inr ⟨fun hreaches => ?_, rfl⟩⟩
    have hactive := hreaches.active
    rw [hnone] at hactive
    cases hactive

/-- The completion evidence comes from the node that holds the lease. -/
theorem completion_evidence_about {proposal : WorkProposal} {lease : WorkLease} {work_result : WorkResult}
    (hheld : lease.node_id = node) :
    wp (completion_evidence sinks proposal lease work_result)
      (fun _ after => About work_result.work_id node world after ∧ after.coordinator = world.coordinator)
      (fun _ after => About work_result.work_id node world after ∧ after.coordinator = world.coordinator) world := by
  unfold completion_evidence
  rw [wp_bind, wp_get]
  split
  · rw [wp_bind]
    have hnode_id : some lease.node_id = some node := congrArg some hheld
    apply wp_emit_about work_result.work_id (by exact hnode_id)
    · intro _ completion after habout hsame _
      rw [wp_bind, wp_modify]
      refine ⟨habout.trans ⟨fun _ _ => rfl, fun _ _ => Iff.rfl, ?_, [], by simp, by simp⟩,
        congrArg (·.coordinator) hsame⟩
      exact fun key hkey => Dict.get?_set_of_ne _ _ hkey
    · exact fun _ error after habout hsame => ⟨habout, congrArg (·.coordinator) hsame⟩
  · split
    · exact ⟨.refl world, rfl⟩
    · exact ⟨.refl world, rfl⟩

omit [WorkCoordinator C] in
theorem escalate_about (work node : String) (lease : WorkLease) (work_result : WorkResult) :
    wp (escalate sinks lease work_result)
      (fun _ after => About work node world after ∧ after.coordinator = world.coordinator)
      (fun _ after => About work node world after ∧ after.coordinator = world.coordinator) world := by
  have hquiet : ∀ after : World C, after.toDistributedWorkService = world.toDistributedWorkService →
      after.journal = world.journal → About work node world after ∧ after.coordinator = world.coordinator := by
    intro after hsame hjournal
    exact ⟨.quiet (congrArg (·.proposals) hsame) (congrArg (·.accepted) hsame)
      (congrArg (·.pending_completion) hsame) hjournal, congrArg (·.coordinator) hsame⟩
  unfold escalate
  split
  · rw [wp_bind]
    unfold send_to_queen
    split
    · exact hquiet _ rfl rfl
    · simp only [wp_bind, wp_get, wp_set]
      split
      · exact hquiet _ rfl rfl
      · exact hquiet _ rfl rfl
  · exact hquiet _ rfl rfl

theorem complete_about (sinks : Sinks) (world : World C) (work_result : WorkResult) :
    let after := (complete sinks work_result).after world
    after = world ∨ Holds world work_result.work_id work_result.node_id ∧
      About work_result.work_id work_result.node_id world after ∧
      (after.coordinator = world.coordinator ∨ after.coordinator =
        (WorkCoordinator.complete world.coordinator work_result.work_id work_result.node_id).2) := by
  have hwork := work_result.work_id_normal.2
  have hnode := work_result.node_id_normal.2
  apply (wp_result_after (fun _ after => after = world ∨ Holds world work_result.work_id work_result.node_id ∧
    About work_result.work_id work_result.node_id world after ∧
    (after.coordinator = world.coordinator ∨ after.coordinator =
      (WorkCoordinator.complete world.coordinator work_result.work_id work_result.node_id).2))).mp
  unfold complete
  rw [wp_bind]
  apply wp_required_proposal
  · intro proposal _
    rw [wp_bind]
    apply wp_owned_lease
    · intro lease hlease hheld
      rw [hwork] at hlease
      rw [hnode] at hheld
      have hholds : Holds world work_result.work_id work_result.node_id := ⟨lease, hlease, hheld⟩
      rw [wp_bind, wp_get]
      split
      · exact Or.inl rfl
      · rw [wp_bind]
        refine wp_mono (completion_evidence_about hheld) ?_ ?_
        · rintro completion first ⟨hfirst, hcoordinator⟩
          unfold close_completed
          rw [wp_bind]
          refine wp_mono (escalate_about work_result.work_id work_result.node_id lease work_result) ?_ ?_
          · rintro escalated second ⟨hsecond, hcoordinator'⟩
            have hsame : second.coordinator = world.coordinator := hcoordinator'.trans hcoordinator
            rw [wp_bind]
            apply wp_call
            · intro closed hclosed
              cases hclosed
              have hcalled : About work_result.work_id work_result.node_id world { second with coordinator :=
                  (WorkCoordinator.complete second.coordinator work_result.work_id work_result.node_id).2 } :=
                (hfirst.trans hsecond).trans (.quiet rfl rfl rfl rfl)
              dsimp only
              split
              · exact Or.inr ⟨hholds, hcalled, Or.inr (by rw [← hsame])⟩
              · rw [wp_bind, wp_modify]
                refine Or.inr ⟨hholds, hcalled.trans ⟨?_, ?_, ?_, [], by simp, by simp⟩, Or.inr (by rw [← hsame])⟩
                · exact fun key hkey => Dict.get?_pop_of_ne _ hkey
                · exact fun key hkey => mem_discard.trans (and_iff_left hkey)
                · exact fun key hkey => Dict.get?_pop_of_ne _ hkey
            · intro error herror
              cases herror
          · rintro error after ⟨hsecond, hcoordinator'⟩
            exact Or.inr ⟨hholds, hfirst.trans hsecond, Or.inl (hcoordinator'.trans hcoordinator)⟩
        · rintro error after ⟨habout, hcoordinator⟩
          exact Or.inr ⟨hholds, habout, Or.inl hcoordinator⟩
    · exact fun _ _ => Or.inl rfl
  · exact fun _ _ => Or.inl rfl

end

end velvet.distributed_work_byte_rpc
