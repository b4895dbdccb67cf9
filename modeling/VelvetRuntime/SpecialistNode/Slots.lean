import VelvetRuntime.SpecialistNode.Agreement

open python python.str velvet.distributed_work_coordinator velvet.distributed_work_service
open velvet.distributed_work_daemon (plain_profile plain_handlers plain_offer)

namespace velvet.specialist_node_runner

namespace SpecialistNodeRunner

variable [StrLower]

/-- A report frees the slot of its task exactly when the service answers it without an exception. -/
theorem isSome_active_report {self : SpecialistNodeRunner} {work : String}
    (htask : (self.active.get? work).isSome = true) (reply : Except Error DistributedWorkServiceOutcome) :
    ((self.report work reply).active.get? work).isSome = !reply.isOk := by
  cases reply with
  | error error => exact htask
  | ok outcome =>
    change ((self.active.pop work).get? work).isSome = false
    rw [Dict.get?_pop_self]
    rfl

end SpecialistNodeRunner

namespace Joint

section

variable [StrLower]

/-- The service leases the work to the runner's node. -/
def Leased (self : Joint) (work : String) : Prop :=
  ∃ lease, self.service.lease_of work = some lease ∧ lease.node_id = self.runner.profile.node_id

/-- The work takes a slot of the runner only if the service leases it to the runner's node. -/
def SlotOwed (self : Joint) (work : String) : Prop :=
  (self.runner.active.get? work).isSome = true → self.Leased work

/-- The operation is a call of `run_accepted` or `retry_completion` whose report of the work is processed and
answered. -/
def Reports (self : Joint) (work : String) : JointOperation → Prop
  | .start_run work_id (.answered _) => normalized work_id = work ∧ (self.runner.pending_call work_id).isSome = true
  | .retry_completion work_id (.answered _) =>
    normalized work_id = work ∧ (self.runner.pending_call work_id).isSome = true
  | .finish_run index _ (.answered _) =>
    ∃ offer, self.executing[index]? = some offer ∧ offer.work_id = work ∧
      (self.runner.active.get? work).isSome = true
  | _ => False

variable {self : Joint} (sinks : Sinks)

/-- The service completes a work only for the node that it leases it to; a report that raises leaves every
lease in place. -/
theorem completion_cases (htied : Tied self.service.toDistributedWorkService) (result : WorkResult) :
    ((∃ outcome, (velvet.distributed_work_service.perform sinks (.complete result)).result self.service =
        .ok [outcome]) ∧
      ∃ lease, self.service.lease_of result.work_id = some lease ∧ lease.node_id = result.node_id) ∨
    ((∃ error, (velvet.distributed_work_service.perform sinks (.complete result)).result self.service =
        .error error) ∧
      (self.perform sinks (.complete result)).service.coordinator = self.service.coordinator) := by
  have heffect := perform_effect sinks htied (.complete result)
  change Effect sinks _ _ _ (self.perform sinks (.complete result)).service at heffect
  generalize (velvet.distributed_work_service.perform sinks (.complete result)).result self.service = ended at heffect ⊢
  generalize (self.perform sinks (.complete result)).service = after at heffect ⊢
  cases heffect with
  | @unchanged _ _ _ error hsame hquiet => exact .inr ⟨⟨error, rfl⟩, congrArg DistributedWorkService.coordinator hsame⟩
  | @completion_pending _ _ _ error lease evidence hlease hnode hmember hnone hafter hjournal htype hsubject =>
    have hcoordinator := congrArg DistributedWorkService.coordinator hafter
    exact .inr ⟨⟨error, rfl⟩, hcoordinator⟩
  | @completed _ _ _ outcome lease hlease hnode hmember hafter hjournal =>
    exact .inl ⟨⟨outcome, rfl⟩, lease, hlease, hnode⟩

/-- What `start_run` does to the runner and to the service. -/
theorem start_run_parts (work_id : String) (delivery : Delivery) :
    (self.start_run sinks work_id delivery).2.runner = (self.runner.start_run work_id
      (self.ask sinks delivery (self.runner.pending_call work_id)).1).2 ∧
    (self.start_run sinks work_id delivery).2.service =
      (self.ask sinks delivery (self.runner.pending_call work_id)).2.service := by
  unfold start_run
  dsimp only
  split
  · rename_i runner hrun
    rw [hrun]
    exact ⟨rfl, rfl⟩
  · rename_i outcome runner hanswered hrun
    rw [hrun]
    exact ⟨rfl, rfl⟩

/-- The reply to an answered report is an exception exactly when the completion raises at the service. -/
theorem isOk_answered (raised : Error → Error) (result : WorkResult) :
    (self.ask sinks (.answered raised) (some (.complete result))).1.isOk =
      ((velvet.distributed_work_service.perform sinks (.complete result)).result self.service).isOk := by
  change (((Call.complete result).program sinks).result self.service |>.mapError raised).isOk = _
  have hresult := Call.result_operation sinks (.complete result) self.service
  change (velvet.distributed_work_service.perform sinks (.complete result)).result self.service = _ at hresult
  rw [hresult]
  cases ((Call.complete result).program sinks).result self.service with
  | ok outcome => rfl
  | error error => rfl

variable {runner : SpecialistNodeRunner}

/-- The slot of a task that is reported, after the answer. -/
theorem isSome_active_answered (self : Joint) (sinks : Sinks) {work : String}
    (htask : (runner.active.get? work).isSome = true) (raised : Error → Error) (result : WorkResult) :
    ((runner.report work (self.ask sinks (.answered raised) (some (.complete result))).1).active.get? work).isSome =
      !((velvet.distributed_work_service.perform sinks (.complete result)).result self.service).isOk := by
  rw [SpecialistNodeRunner.isSome_active_report htask, isOk_answered]

theorem isSome_active_of_pending {work_id : String}
    (hpending : (runner.pending_call work_id).isSome = true) :
    (runner.active.get? (normalized work_id)).isSome = true := by
  unfold SpecialistNodeRunner.pending_call at hpending
  cases htask : runner.active.get? (normalized work_id) with
  | none =>
    rw [htask] at hpending
    cases hpending
  | some task => rfl

/-- A report that is answered is a completion of the work by the runner's node, and frees the slot when the
service completes the work. -/
theorem Reports.completes (sinks : Sinks) (hsound : self.Sound) {work : String} {operation : JointOperation}
    (hreports : self.Reports work operation) :
    ∃ result : WorkResult, result.work_id = work ∧ result.node_id = self.runner.profile.node_id ∧
      (self.step sinks operation).service = (self.perform sinks (.complete result)).service ∧
      ((self.step sinks operation).runner.active.get? work).isSome =
        !((velvet.distributed_work_service.perform sinks (.complete result)).result self.service).isOk := by
  -- Only three methods report, and only an answered report counts.
  cases operation with
  | start_run work_id delivery =>
    cases delivery with
    | answered raised =>
      obtain ⟨rfl, hpending⟩ := hreports
      obtain ⟨call, hcall⟩ := Option.isSome_iff_exists.mp hpending
      obtain ⟨result, rfl, hwork, hnode⟩ := hsound.pending hcall
      obtain ⟨hrunner, hservice⟩ := self.start_run_parts sinks work_id (.answered raised)
      refine ⟨result, hwork, hnode, ?_, ?_⟩
      · change (self.start_run sinks work_id (.answered raised)).2.service = _
        rw [hservice, hcall]
        rfl
      · change ((self.start_run sinks work_id (.answered raised)).2.runner.active.get? _).isSome = _
        rw [hrunner, SpecialistNodeRunner.start_run_report, if_pos hpending, hcall]
        exact self.isSome_active_answered sinks (isSome_active_of_pending hpending) raised result
    | reply_lost error => cases hreports
    | request_lost error => cases hreports
  | retry_completion work_id delivery =>
    cases delivery with
    | answered raised =>
      obtain ⟨rfl, hpending⟩ := hreports
      obtain ⟨call, hcall⟩ := Option.isSome_iff_exists.mp hpending
      obtain ⟨result, rfl, hwork, hnode⟩ := hsound.pending hcall
      refine ⟨result, hwork, hnode, ?_, ?_⟩
      · change (self.ask sinks (.answered raised) (self.runner.pending_call work_id)).2.service = _
        rw [hcall]
        rfl
      · change ((self.runner.retry_completion work_id
          (self.ask sinks (.answered raised) (self.runner.pending_call work_id)).1).2.active.get? _).isSome = _
        rw [SpecialistNodeRunner.retry_completion_report, if_pos hpending, hcall]
        exact self.isSome_active_answered sinks (isSome_active_of_pending hpending) raised result
    | reply_lost error => cases hreports
    | request_lost error => cases hreports
  | finish_run index output delivery =>
    cases delivery with
    | answered raised =>
      obtain ⟨offer, hoffer, rfl, hactive⟩ := hreports
      have hstep : self.step sinks (.finish_run index output (.answered raised)) =
          (self.finish_run sinks index offer output (.answered raised)).2 := by
        unfold step
        dsimp only
        rw [hoffer]
      have hnormal := offer.work_id_normal.2
      rw [hstep]
      unfold finish_run
      dsimp only
      rcases self.runner.finish_run_report offer.work_id (self.runner.execute_handler offer output)
        (self.ask sinks (.answered raised)
          (self.runner.finish_call offer.work_id (self.runner.execute_handler offer output))).1 with
        ⟨_, hcall⟩ | ⟨task, htask, hcall, hreport⟩
      · unfold SpecialistNodeRunner.finish_call at hcall
        rw [hnormal, Option.map_eq_none_iff] at hcall
        rw [hcall] at hactive
        cases hactive
      · refine ⟨self.runner.execute_handler offer output, rfl, rfl, ?_, ?_⟩
        · rw [hcall]
          rfl
        · rw [hreport, hcall]
          have hstored : ((self.runner.set_result (normalized offer.work_id) task htask
              (self.runner.execute_handler offer output)).active.get? (normalized offer.work_id)).isSome = true := by
            change ((self.runner.active.set (normalized offer.work_id) _).get? (normalized offer.work_id)).isSome = true
            rw [Dict.get?_set_self]
            rfl
          have hslot := self.isSome_active_answered sinks hstored raised (self.runner.execute_handler offer output)
          exact (congrArg (fun key => (Dict.get? _ key).isSome) hnormal.symm).trans hslot
    | reply_lost error => cases hreports
    | request_lost error => cases hreports
  | service operation => cases hreports
  | heartbeat condition now delivery => cases hreports
  | receive_offer offer now refusal_lease_seconds delivery => cases hreports
  | drain => cases hreports
  | resume => cases hreports
  | quarantine reason => cases hreports
  | clear_quarantine => cases hreports

/-- The runner keeps a task whenever its report raises, also when the service no longer knows the work. In
every reachable state a report that is answered leaves the work in its slot unowed exactly when the service
does not lease the work to the node as the report arrives. -/
theorem slot_owed_iff (sinks : Sinks) (registry : VerifiedNodeRegistry) (profile : SpecialistNodeProfile)
    (handlers : GhostHandlerRegistry) (operations : List JointOperation) (operation : JointOperation) (work : String)
    (hreports : ((start registry profile handlers).run sinks operations).Reports work operation) :
    (((start registry profile handlers).run sinks operations).step sinks operation).SlotOwed work ↔
      ((start registry profile handlers).run sinks operations).Leased work := by
  obtain ⟨hsound, _⟩ := sound_run sinks registry profile handlers operations
  generalize (start registry profile handlers).run sinks operations = joint at hsound hreports ⊢
  have hprofile := (hsound.move sinks operation).profile_eq
  obtain ⟨result, hwork, hnode, hservice, hslot⟩ := hreports.completes sinks hsound
  unfold SlotOwed Leased
  rw [hslot, hservice, hprofile]
  rcases completion_cases sinks hsound.tied result with
    ⟨⟨outcome, hresult⟩, lease, hlease, howner⟩ | ⟨⟨error, hresult⟩, hsame⟩
  · rw [hwork] at hlease
    constructor
    · intro _
      exact ⟨lease, hlease, howner.trans hnode⟩
    · intro _ hactive
      rw [hresult] at hactive
      cases hactive
  · unfold Runtime.lease_of
    rw [hsame, hresult]
    constructor
    · intro howed
      exact howed rfl
    · intro hleased _
      exact hleased

end

/-- `a` runs `w1`, and the answer to its report is lost. -/
def work_completed_unanswered [StrLower] (hwork : IsNormalized "w1") : List JointOperation :=
  work_offered_to_a hwork ++
    [.receive_offer plain_offer 20 60 (.answered id), .start_run "w1" (.answered id),
      .finish_run 0 plain_output (.reply_lost ⟨.OSError, "connection lost"⟩)]

/-- The retry reports a work that the service has already forgotten. It is answered with an exception, and the
only slot of `a` stays taken: every later offer meets the task limit. -/
theorem slot_kept_after_lost_reply :
    letI := StrLower.ascii
    let sinks := sinks_failing_at none none
    let joint := plain_start.run sinks (work_completed_unanswered (by decide))
    let retried := joint.retry_completion sinks "w1" (.answered id)
    joint.Reports "w1" (.retry_completion "w1" (.answered id)) ∧
      retried.1.map RunnerOutcome.errors = .ok ["unknown active distributed work"] ∧
      ¬ retried.2.SlotOwed "w1" ∧
      retried.2.runner.refusal_reason plain_offer 40 = some "node task limit is reached" := by
  have hreports : letI := StrLower.ascii
      normalized "w1" = "w1" ∧ ((plain_start.run (sinks_failing_at none none)
        (work_completed_unanswered (by decide))).runner.pending_call "w1").isSome = true := by
    with_unfolding_all decide
  have herrors : letI := StrLower.ascii
      ((plain_start.run (sinks_failing_at none none) (work_completed_unanswered (by decide))).retry_completion
        (sinks_failing_at none none) "w1" (.answered id)).1.map RunnerOutcome.errors =
      .ok ["unknown active distributed work"] := by with_unfolding_all decide
  have hactive : letI := StrLower.ascii
      (((plain_start.run (sinks_failing_at none none) (work_completed_unanswered (by decide))).retry_completion
        (sinks_failing_at none none) "w1" (.answered id)).2.runner.active.get? "w1").isSome = true := by
    with_unfolding_all decide
  have hunleased : letI := StrLower.ascii
      ((plain_start.run (sinks_failing_at none none) (work_completed_unanswered (by decide))).retry_completion
        (sinks_failing_at none none) "w1" (.answered id)).2.service.lease_of "w1" = none := by
    with_unfolding_all decide
  have hlimit : letI := StrLower.ascii
      ((plain_start.run (sinks_failing_at none none) (work_completed_unanswered (by decide))).retry_completion
        (sinks_failing_at none none) "w1" (.answered id)).2.runner.refusal_reason plain_offer 40 =
      some "node task limit is reached" := by with_unfolding_all decide
  let := StrLower.ascii
  refine ⟨hreports, herrors, ?_, hlimit⟩
  intro howed
  obtain ⟨lease, hlease, _⟩ := howed hactive
  cases hunleased.symm.trans hlease

/-- `a` has accepted `w1` and is running its handler. -/
def work_running [StrLower] (hwork : IsNormalized "w1") : List JointOperation :=
  work_offered_to_a hwork ++ [.receive_offer plain_offer 20 60 (.answered id), .start_run "w1" (.answered id)]

/-- The service leases the work to `a` as its report arrives, so the slot is owed or free. -/
theorem running_work_reported :
    letI := StrLower.ascii
    let sinks := sinks_failing_at none none
    let joint := plain_start.run sinks (work_running (by decide))
    joint.Leased "w1" ∧ (joint.step sinks (.finish_run 0 plain_output (.answered id))).SlotOwed "w1" := by
  have hleased : letI := StrLower.ascii
      (((plain_start.run (sinks_failing_at none none) (work_running (by decide))).service.lease_of "w1").map
        WorkLease.node_id = some "a") ∧
      (plain_start.run (sinks_failing_at none none) (work_running (by decide))).runner.profile.node_id = "a" := by
    with_unfolding_all decide
  have hexecuting : letI := StrLower.ascii
      ((plain_start.run (sinks_failing_at none none) (work_running (by decide))).executing[0]?).map
        SpecialistWorkOffer.work_id = some "w1" := by with_unfolding_all decide
  have hactive : letI := StrLower.ascii
      ((plain_start.run (sinks_failing_at none none) (work_running (by decide))).runner.active.get? "w1").isSome =
        true := by with_unfolding_all decide
  have hheld : letI := StrLower.ascii
      (plain_start.run (sinks_failing_at none none) (work_running (by decide))).Leased "w1" := by
    obtain ⟨lease, hlease, hnode⟩ := Option.map_eq_some_iff.mp hleased.1
    exact ⟨lease, hlease, hnode.trans hleased.2.symm⟩
  let := StrLower.ascii
  obtain ⟨offer, hoffer, hwork⟩ := Option.map_eq_some_iff.mp hexecuting
  exact ⟨hheld, (slot_owed_iff (sinks_failing_at none none) (VerifiedNodeRegistry.new "body") plain_profile
    plain_handlers (work_running (by decide)) (.finish_run 0 plain_output (.answered id)) "w1"
    ⟨offer, hoffer, hwork, hactive⟩).mpr hheld⟩

end Joint

end velvet.specialist_node_runner
