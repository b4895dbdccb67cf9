import VelvetRuntime.DistributedWork.Acceptance
import VelvetRuntime.DistributedWork.Attribution
import VelvetRuntime.Python.Except
import VelvetRuntime.SpecialistNode.Joint
import VelvetRuntime.SpecialistNode.Quarantine

open python python.str velvet.distributed_work_coordinator velvet.distributed_work_service
open velvet.distributed_work_daemon (plain_profile plain_handlers plain_offer)

namespace velvet.specialist_node_runner

namespace Joint

section

variable [StrLower]

/-- The service has recorded the acceptance of this lease. -/
def Recorded (self : Joint) (work : String) (lease : WorkLease) : Prop :=
  work ∈ self.service.accepted ∧ AcceptedUnder self.past work lease

/-- The service has recorded the acceptance of the lease under which the runner's node holds the work, or it
does not lease the work to this node. -/
def Agreed (self : Joint) (work : String) : Prop :=
  ∀ lease, self.service.lease_of work = some lease → lease.node_id = self.runner.profile.node_id →
    self.Recorded work lease

/-- Every lease that a step newly gives to the runner's node is of a work that the runner does not keep, neither
as active nor as completed. -/
def IssuesFresh (before after : Joint) : Prop :=
  ∀ entry ∈ after.service.coordinator.leases.items, entry.2.node_id = before.runner.profile.node_id →
    before.service.lease_of entry.1 ≠ some entry.2 →
    before.runner.active.get? entry.1 = none ∧ entry.1 ∉ before.runner.completed

instance (before after : Joint) : Decidable (IssuesFresh before after) :=
  inferInstanceAs (Decidable (∀ entry ∈ _, _ → _ → _ ∧ _))

/-- Every step of a run issues leases of works only that the runner does not keep. -/
def AllFresh (sinks : Sinks) : Joint → List JointOperation → Prop
  | _, [] => True
  | joint, operation :: rest =>
    IssuesFresh joint (joint.step sinks operation) ∧ AllFresh sinks (joint.step sinks operation) rest

/-- The tasks of the runner are recorded at the service, and its completed works are not leased to it. -/
structure Faithful (joint : Joint) : Prop where
  sound : joint.Sound
  active : ∀ work task, joint.runner.active.get? work = some task → joint.Agreed work
  completed : ∀ work ∈ joint.runner.completed, ∀ lease, joint.service.lease_of work = some lease →
    lease.node_id ≠ joint.runner.profile.node_id

variable {sinks : Sinks} {self : Joint} {lease : WorkLease}

/-- What was recorded stays recorded while the lease stays. -/
theorem Recorded.perform (htied : Tied self.service.toDistributedWorkService) {work : String}
    (hrecorded : self.Recorded work lease) (operation : Operation) (hbefore : self.service.lease_of work = some lease)
    (hlease : (self.perform sinks operation).service.lease_of work = some lease) :
    (self.perform sinks operation).Recorded work lease :=
  ⟨accepted_of_lease_kept htied operation hrecorded.1 hbefore hlease, hrecorded.2.extend hlease⟩

theorem Faithful.perform (hfaithful : self.Faithful) (operation : Operation)
    (hfresh : IssuesFresh self (self.perform sinks operation)) : (self.perform sinks operation).Faithful where
  sound := hfaithful.sound.step (.kept _ _ _ (.inr ⟨operation, rfl⟩) rfl rfl rfl)
  active := by
    intro work task htask lease hlease hnode
    by_cases hbefore : self.service.lease_of work = some lease
    · exact (hfaithful.active work task htask lease hbefore hnode).perform hfaithful.sound.tied operation hbefore hlease
    · have hnone := (hfresh (work, lease) ((Dict.get?_eq_some_iff _ _ _).mp hlease) hnode hbefore).1
      cases htask.symm.trans hnone
  completed := by
    intro work hmem lease hlease hnode
    by_cases hbefore : self.service.lease_of work = some lease
    · exact hfaithful.completed work hmem lease hbefore hnode
    · exact (hfresh (work, lease) ((Dict.get?_eq_some_iff _ _ _).mp hlease) hnode hbefore).2 hmem

theorem Faithful.asked (hfaithful : self.Faithful) (asked : Joint)
    (hasked : asked = self ∨ ∃ operation, asked = self.perform sinks operation) (hfresh : IssuesFresh self asked) :
    asked.Faithful ∧ asked.runner = self.runner := by
  rcases hasked with rfl | ⟨operation, rfl⟩
  · exact ⟨hfaithful, rfl⟩
  · exact ⟨hfaithful.perform operation hfresh, rfl⟩

variable {outcome : DistributedWorkServiceOutcome}

section

variable (htied : Tied self.service.toDistributedWorkService)

include htied

/-- An acceptance that returns is recorded for the lease that the work then has. -/
theorem recorded_of_acceptance {work_id node_id : String}
    (hresult : (velvet.distributed_work_service.perform sinks (.accept work_id node_id)).result self.service =
      .ok [outcome])
    (hlease : (self.perform sinks (.accept work_id node_id)).service.lease_of (normalized work_id) = some lease) :
    (self.perform sinks (.accept work_id node_id)).Recorded (normalized work_id) lease := by
  have heffect := perform_effect sinks htied (.accept work_id node_id)
  have hentry : (entry_of sinks self.service (.accept work_id node_id)).result = .ok [outcome] := hresult
  rw [hresult] at heffect
  cases heffect with
  | accepted owned hactive howned hnode hafter hquiet =>
    have haccepted := congrArg DistributedWorkService.accepted hafter
    have hcoordinator := congrArg DistributedWorkService.coordinator hafter
    have hsame : owned = lease := by
      change (entry_of sinks self.service (.accept work_id node_id)).after.coordinator.leases.get? _ = _ at hlease
      change (entry_of sinks self.service (.accept work_id node_id)).after.coordinator = _ at hcoordinator
      rw [hcoordinator] at hlease
      exact Option.some.inj (howned.symm.trans hlease)
    refine ⟨?_, .start self.past ⟨work_id, node_id, [outcome], rfl, hentry, rfl, ?_⟩ hlease⟩
    · change normalized work_id ∈ (entry_of sinks self.service (.accept work_id node_id)).after.accepted
      exact haccepted ▸ List.mem_insert_self
    · rw [← hnode, hsame]

/-- A refusal that returns leaves the work without a lease on the node that refused. -/
theorem moved_of_refusal {work_id node_id reason : String}
    {now lease_seconds : ℚ}
    (hresult : (velvet.distributed_work_service.perform sinks
      (.refuse work_id node_id reason now lease_seconds)).result self.service = .ok [outcome])
    (hlease : (self.perform sinks (.refuse work_id node_id reason now lease_seconds)).service.lease_of
      (normalized work_id) = some lease) : lease.node_id ≠ normalized node_id := by
  have heffect := perform_effect sinks htied (.refuse work_id node_id reason now lease_seconds)
  rw [hresult] at heffect
  cases heffect with
  | reassigned owned howned hnode hreason hrefused hrequested hafter hquiet =>
    have hcoordinator := congrArg DistributedWorkService.coordinator hafter
    change (entry_of sinks self.service _).after.coordinator.leases.get? _ = _ at hlease
    change (entry_of sinks self.service _).after.coordinator = _ at hcoordinator
    rw [hcoordinator] at hlease
    obtain ⟨_, hok, herror⟩ := refusal_leases howned hnode hreason now lease_seconds
    cases hdecision : (self.service.coordinator.refuse_and_reassign (normalized work_id) (normalized node_id)
        (stripped reason) now lease_seconds).1 with
    | ok decision =>
      obtain ⟨hown, hmoved⟩ := hok decision hdecision
      exact (hmoved lease (hown.symm.trans hlease)).2
    | error error =>
      rw [herror error hdecision] at hlease
      cases hlease

/-- A completion that returns leaves the work without a lease. -/
theorem unleased_of_completion {result : WorkResult}
    (hresult : (velvet.distributed_work_service.perform sinks (.complete result)).result self.service =
      .ok [outcome]) : (self.perform sinks (.complete result)).service.lease_of result.work_id = none := by
  have heffect := perform_effect sinks htied (.complete result)
  rw [hresult] at heffect
  cases heffect with
  | completed owned howned hnode hmember hafter hjournal =>
    have hcoordinator := congrArg DistributedWorkService.coordinator hafter
    change (entry_of sinks self.service _).after.coordinator = _ at hcoordinator
    change (entry_of sinks self.service _).after.coordinator.leases.get? _ = _
    rw [hcoordinator]
    dsimp only
    rw [DistributedWorkCoordinator.complete_owned howned hnode]
    exact Dict.get?_pop_self _ _

end

/-- A step that issues leases of works only that the runner does not keep preserves the invariant. -/
theorem Faithful.step (hfaithful : self.Faithful) {after : Joint} (hmove : Move sinks self after)
    (hfresh : IssuesFresh self after) : after.Faithful := by
  have hsound := hfaithful.sound.step hmove
  cases hmove with
  | kept asked runner executing hasked hprofile hactive hcompleted =>
    obtain ⟨⟨_, hagreed, hunleased⟩, hrunner⟩ := hfaithful.asked asked hasked hfresh
    rw [← hrunner] at hprofile hactive hcompleted
    refine ⟨hsound, ?_, ?_⟩
    · intro work task htask lease hlease hnode
      dsimp only at htask hnode
      rw [hactive] at htask
      rw [hprofile] at hnode
      exact hagreed work task htask lease hlease hnode
    · intro work hmem lease hlease
      dsimp only at hmem ⊢
      rw [hcompleted] at hmem
      rw [hprofile]
      exact hunleased work hmem lease hlease
  | accepted offer outcome hresult hnone hroom =>
    obtain ⟨_, hagreed, hunleased⟩ := hfaithful.perform _ hfresh
    refine ⟨hsound, ?_, hunleased⟩
    intro work task htask lease hlease hnode
    change (self.runner.active.set offer.work_id ⟨offer, outcome, none⟩).get? work = _ at htask
    rw [Dict.get?_set] at htask
    split at htask
    · rename_i hwork
      subst hwork
      have hnormal := offer.work_id_normal.2
      have hheld : (self.perform sinks (.accept offer.work_id self.runner.profile.node_id)).service.lease_of
          (normalized offer.work_id) = some lease := by
        rw [hnormal]
        exact hlease
      have hrecorded := recorded_of_acceptance hfaithful.sound.tied hresult hheld
      rw [hnormal] at hrecorded
      exact hrecorded
    · exact hagreed work task htask lease hlease hnode
  | stored asked executing key kept own hasked hkept hwork hnode =>
    obtain ⟨⟨_, hagreed, hunleased⟩, hrunner⟩ := hfaithful.asked asked hasked hfresh
    refine ⟨hsound, ?_, ?_⟩
    · intro work task htask lease hlease hsame
      change (self.runner.active.set key { kept with result := some own }).get? work = _ at htask
      rw [Dict.get?_set] at htask
      split at htask
      · rename_i hkey
        subst hkey
        exact hagreed work kept (by rw [hrunner]; exact hkept) lease hlease (by rw [hrunner]; exact hsame)
      · exact hagreed work task (by rw [hrunner]; exact htask) lease hlease (by rw [hrunner]; exact hsame)
    · intro work hmem lease hlease
      rw [hrunner] at hunleased
      exact hunleased work hmem lease hlease
  | closed runner executing result outcome hresult hprofile hactive hcompleted =>
    obtain ⟨_, hagreed, hunleased⟩ := hfaithful.perform _ hfresh
    refine ⟨hsound, ?_, ?_⟩
    · intro work task htask lease hlease hnode
      dsimp only at htask hnode
      rw [hactive, Dict.get?_pop] at htask
      rw [hprofile] at hnode
      split at htask
      · cases htask
      · exact hagreed work task htask lease hlease hnode
    · intro work hmem lease hlease
      dsimp only at hmem ⊢
      rw [hcompleted] at hmem
      rw [hprofile]
      rcases List.mem_insert_iff.mp hmem with rfl | hold
      · cases (unleased_of_completion hfaithful.sound.tied hresult).symm.trans hlease
      · exact hunleased work hold lease hlease

theorem faithful_run (registry : VerifiedNodeRegistry) (profile : SpecialistNodeProfile)
    (handlers : GhostHandlerRegistry) (operations : List JointOperation)
    (hfresh : AllFresh sinks (start registry profile handlers) operations) :
    ((start registry profile handlers).run sinks operations).Faithful := by
  have hstart : (start registry profile handlers).Faithful := by
    refine ⟨sound_start registry profile handlers, ?_, ?_⟩
    · intro work task htask
      cases htask
    · intro work hmem
      cases hmem
  generalize start registry profile handlers = joint at hstart hfresh ⊢
  induction operations generalizing joint with
  | nil => exact hstart
  | cons operation rest ih =>
    exact ih _ (hstart.step (hstart.sound.move sinks operation) hfresh.1) hfresh.2

/-- An answer to an offer, from a faithful state. -/
theorem Faithful.agreed_of_answer (hfaithful : self.Faithful) {offer : SpecialistWorkOffer}
    {now refusal_lease_seconds : ℚ} {delivery : Delivery} {outcome : RunnerOutcome}
    (haddressed : offer.node_id = self.runner.profile.node_id ∧ offer.organ = self.runner.profile.organ)
    (hreturned : (self.receive_offer sinks offer now refusal_lease_seconds delivery).1 = .ok outcome) :
    (self.receive_offer sinks offer now refusal_lease_seconds delivery).2.Agreed offer.work_id := by
  have hprofile := (hfaithful.sound.move sinks
    (.receive_offer offer now refusal_lease_seconds delivery)).profile_eq
  change (self.receive_offer sinks offer now refusal_lease_seconds delivery).2.runner.profile = _ at hprofile
  intro lease hlease hnode
  rw [hprofile] at hnode
  unfold receive_offer at hreturned hlease ⊢
  dsimp only at hreturned hlease
  have hanswer := self.runner.receive_offer_answer offer now refusal_lease_seconds
    (self.ask sinks delivery (self.runner.offer_call offer now refusal_lease_seconds)).1
  generalize self.runner.offer_call offer now refusal_lease_seconds = call at hanswer hreturned hlease ⊢
  generalize self.runner.receive_offer offer now (self.ask sinks delivery call).1 = answer at hanswer hreturned ⊢
  have hwork := offer.work_id_normal.2
  have hself := self.runner.profile.node_id_normal.2
  cases hanswer with
  | negative_time error => cases hreturned
  | not_addressed found hother =>
    rcases hother with hother | hother
    · exact absurd haddressed.1 hother
    · exact absurd haddressed.2 hother
  | already_completed found hcompleted =>
    exact absurd hnode (hfaithful.completed _ hcompleted lease hlease)
  | already_accepted found task htask => exact hfaithful.active _ task htask lease hlease hnode
  | refused reason =>
    cases hreply : (self.ask sinks delivery (some (.refuse offer.work_id self.runner.profile.node_id reason now
        refusal_lease_seconds))).1 with
    | error error =>
      rw [hreply] at hreturned
      cases hreturned
    | ok found =>
      obtain ⟨hresult, hasked⟩ := ask_returned hreply
      rw [hasked] at hlease
      have hheld : (self.perform sinks (.refuse offer.work_id self.runner.profile.node_id reason now
          refusal_lease_seconds)).service.lease_of (normalized offer.work_id) = some lease := by
        rw [hwork]
        exact hlease
      exact absurd (hnode.trans hself.symm) (moved_of_refusal hfaithful.sound.tied hresult hheld)
  | accepted hfresh hroom =>
    cases hreply : (self.ask sinks delivery (some (.accept offer.work_id self.runner.profile.node_id))).1 with
    | error error =>
      rw [hreply] at hreturned
      cases hreturned
    | ok found =>
      obtain ⟨hresult, hasked⟩ := ask_returned hreply
      change (self.ask sinks delivery (some (.accept offer.work_id self.runner.profile.node_id))).2.Recorded
        offer.work_id lease
      rw [hasked] at hlease ⊢
      have hheld : (self.perform sinks (.accept offer.work_id self.runner.profile.node_id)).service.lease_of
          (normalized offer.work_id) = some lease := by
        rw [hwork]
        exact hlease
      have hrecorded := recorded_of_acceptance hfaithful.sound.tied hresult hheld
      rw [hwork] at hrecorded
      exact hrecorded

/-- The runner answers for a work id that it keeps whatever lease it is offered, so a lease that the service
gives its node for a work id that it keeps can go unanswered. In every run whose steps issue leases to the node
only of works that the runner does not keep, an answer to an offer that names the runner and returns leaves the
acceptance of the node's lease recorded, or no such lease. -/
theorem offer_answer_agrees (sinks : Sinks) (registry : VerifiedNodeRegistry) (profile : SpecialistNodeProfile)
    (handlers : GhostHandlerRegistry) (operations : List JointOperation)
    (hfresh : AllFresh sinks (start registry profile handlers) operations) (offer : SpecialistWorkOffer)
    (now refusal_lease_seconds : ℚ) (delivery : Delivery) (outcome : RunnerOutcome)
    (haddressed : offer.node_id = profile.node_id ∧ offer.organ = profile.organ)
    (hreturned : (((start registry profile handlers).run sinks operations).receive_offer sinks offer now
      refusal_lease_seconds delivery).1 = .ok outcome) :
    (((start registry profile handlers).run sinks operations).receive_offer sinks offer now refusal_lease_seconds
      delivery).2.Agreed offer.work_id := by
  have hfaithful := faithful_run registry profile handlers operations hfresh
  have hprofile := (sound_run sinks registry profile handlers operations).2
  refine hfaithful.agreed_of_answer ?_ hreturned
  rw [hprofile]
  exact haddressed

end

/-- A node without load and in good health. -/
def plain_condition : NodeCondition where
  current_load := 0
  health := 1
  availability := .AVAILABLE
  current_load_bounds := idle_load
  health_bounds := full_health

/-- A handler that has found nothing of note. -/
def plain_output : HandlerOutput where
  result_status := .COMPLETED
  summary := "look completed"
  evidence_references := []
  important := false
  summary_text := by decide
  evidence_references_text := no_blank_nil

/-- The service and the runner of `a`, at the start. -/
def plain_start [StrLower] : Joint := start (VerifiedNodeRegistry.new "body") plain_profile plain_handlers

/-- `a` announces itself and is given `w1` until 1000. -/
def work_offered_to_a [StrLower] (hwork : IsNormalized "w1") : List JointOperation :=
  [.heartbeat plain_condition 0 (.answered id), .service (.submit (plain_proposal "w1" hwork) 10 990)]

/-- The offer of the lease is accepted, and the service has recorded it. -/
theorem offered_work_accepted :
    letI := StrLower.ascii
    let sinks := sinks_failing_at none none
    let joint := plain_start.run sinks (work_offered_to_a (by decide))
    let answer := joint.receive_offer sinks plain_offer 20 60 (.answered id)
    answer.1.map RunnerOutcome.state = .ok "accepted" ∧
      (answer.2.service.lease_of "w1").map WorkLease.node_id = some "a" ∧ answer.2.Agreed "w1" := by
  have hstate : letI := StrLower.ascii
      ((plain_start.run (sinks_failing_at none none) (work_offered_to_a (by decide))).receive_offer
        (sinks_failing_at none none) plain_offer 20 60 (.answered id)).1.map RunnerOutcome.state = .ok "accepted" := by
    with_unfolding_all decide
  have hleased : letI := StrLower.ascii
      (((plain_start.run (sinks_failing_at none none) (work_offered_to_a (by decide))).receive_offer
        (sinks_failing_at none none) plain_offer 20 60 (.answered id)).2.service.lease_of "w1").map
        WorkLease.node_id = some "a" := by with_unfolding_all decide
  have hfresh : letI := StrLower.ascii
      AllFresh (sinks_failing_at none none) plain_start (work_offered_to_a (by decide)) := by
    refine ⟨?_, ?_, trivial⟩
    · decide
    · with_unfolding_all decide
  let := StrLower.ascii
  obtain ⟨outcome, houtcome, _⟩ := except.map_eq_ok.mp hstate
  exact ⟨hstate, hleased, offer_answer_agrees (sinks_failing_at none none) (VerifiedNodeRegistry.new "body")
    plain_profile plain_handlers (work_offered_to_a (by decide)) hfresh plain_offer 20 60 (.answered id) outcome
    ⟨rfl, rfl⟩ houtcome⟩

/-- `a` completes `w1`, which is then submitted again and leased to `a` again until 1000. -/
def work_resubmitted [StrLower] (hwork : IsNormalized "w1") : List JointOperation :=
  work_offered_to_a hwork ++
    [.receive_offer plain_offer 20 60 (.answered id), .start_run "w1" (.answered id),
      .finish_run 0 plain_output (.answered id), .service (.submit (plain_proposal "w1" hwork) 30 970)]

/-- The runner answers the offer of the second lease as completed. The service leases `w1` to `a`, and nobody
has accepted this lease. -/
theorem second_lease_unanswered :
    letI := StrLower.ascii
    let sinks := sinks_failing_at none none
    let joint := plain_start.run sinks (work_resubmitted (by decide))
    let answer := joint.receive_offer sinks plain_offer 40 60 (.answered id)
    (joint.service.lease_of "w1").map (fun lease => (lease.node_id, lease.lease_id, lease.expires_at)) =
        some (plain_offer.node_id, plain_offer.lease_id, plain_offer.lease_expires_at) ∧
      answer.1.map RunnerOutcome.state = .ok "already-completed" ∧ ¬ answer.2.Agreed "w1" := by
  have hoffered : letI := StrLower.ascii
      ((plain_start.run (sinks_failing_at none none) (work_resubmitted (by decide))).service.lease_of "w1").map
        (fun lease => (lease.node_id, lease.lease_id, lease.expires_at)) =
      some (plain_offer.node_id, plain_offer.lease_id, plain_offer.lease_expires_at) := by with_unfolding_all decide
  have hstate : letI := StrLower.ascii
      ((plain_start.run (sinks_failing_at none none) (work_resubmitted (by decide))).receive_offer
        (sinks_failing_at none none) plain_offer 40 60 (.answered id)).1.map RunnerOutcome.state =
      .ok "already-completed" := by with_unfolding_all decide
  have hheld : letI := StrLower.ascii
      (((plain_start.run (sinks_failing_at none none) (work_resubmitted (by decide))).receive_offer
        (sinks_failing_at none none) plain_offer 40 60 (.answered id)).2.service.lease_of "w1").map
        WorkLease.node_id = some "a" := by with_unfolding_all decide
  have hunaccepted : letI := StrLower.ascii
      "w1" ∉ ((plain_start.run (sinks_failing_at none none) (work_resubmitted (by decide))).receive_offer
        (sinks_failing_at none none) plain_offer 40 60 (.answered id)).2.service.accepted := by
    with_unfolding_all decide
  have hself : letI := StrLower.ascii
      ((plain_start.run (sinks_failing_at none none) (work_resubmitted (by decide))).receive_offer
        (sinks_failing_at none none) plain_offer 40 60 (.answered id)).2.runner.profile.node_id = "a" := by
    with_unfolding_all decide
  let := StrLower.ascii
  refine ⟨hoffered, hstate, ?_⟩
  intro hagreed
  obtain ⟨lease, hlease, hnode⟩ := Option.map_eq_some_iff.mp hheld
  exact hunaccepted (hagreed lease hlease (hnode.trans hself.symm)).1

end Joint

end velvet.specialist_node_runner
