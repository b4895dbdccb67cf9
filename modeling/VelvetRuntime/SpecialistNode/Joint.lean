import VelvetRuntime.DistributedWork.Tables
import VelvetRuntime.SpecialistNode.Runner

open python python.str velvet.distributed_work_coordinator velvet.distributed_work_service

namespace velvet.specialist_node_runner

open Program

/-- How one request of the runner to the service fares. It is processed and answered, where `raised` is what
the transport makes of an exception; or it is processed and the answer is lost; or it never arrives. -/
inductive Delivery where
  | answered (raised : Error → Error)
  | reply_lost (error : Error)
  | request_lost (error : Error)

/-- What a reviewed handler comes to: the fields that `_execute_handler` takes from its output, or those of a
handler that failed. -/
structure HandlerOutput where
  result_status : ResultState
  summary : String
  evidence_references : List String
  important : Bool
  summary_text : ¬ Blank summary
  evidence_references_text : ∀ value ∈ evidence_references, ¬ Blank value

section

variable [StrLower]

/-- The requests that a runner makes about work. -/
inductive Call where
  | accept (work_id node_id : String)
  | refuse (work_id node_id reason : String) (now lease_seconds : ℚ)
  | complete (result : WorkResult)

def Call.operation : Call → Operation
  | .accept work_id node_id => .accept work_id node_id
  | .refuse work_id node_id reason now lease_seconds => .refuse work_id node_id reason now lease_seconds
  | .complete result => .complete result

def Call.program (sinks : Sinks) : Call → Program Error Runtime DistributedWorkServiceOutcome
  | .accept work_id node_id => velvet.distributed_work_service.accept sinks work_id node_id
  | .refuse work_id node_id reason now lease_seconds =>
    velvet.distributed_work_service.refuse sinks work_id node_id reason now lease_seconds
  | .complete result => velvet.distributed_work_service.complete sinks result

/-- A request that is answered without an exception is a call that returns one outcome. -/
theorem Call.result_operation (sinks : Sinks) (call : Call) (service : Runtime) :
    (perform sinks call.operation).result service =
      ((call.program sinks).result service).map (fun outcome => [outcome]) := by
  have hperform : perform sinks call.operation = (do
      let outcome ← call.program sinks
      pure [outcome]) := by
    cases call with
    | accept work_id node_id => rfl
    | refuse work_id node_id reason now lease_seconds => rfl
    | complete result => rfl
  rw [hperform]
  exact result_bind_pure _ _ _

namespace SpecialistNodeRunner

/-- The request that `receive_offer` makes, if it makes one. -/
def offer_call (self : SpecialistNodeRunner) (offer : SpecialistWorkOffer) (now refusal_lease_seconds : ℚ) :
    Option Call :=
  if now < 0 then none
  else if offer.node_id ≠ self.profile.node_id ∨ offer.organ ≠ self.profile.organ then none
  else if offer.work_id ∈ self.completed then none
  else
    match self.active.get? offer.work_id with
    | some _ => none
    | none =>
      match self.refusal_reason offer now with
      | some reason => some (.refuse offer.work_id self.profile.node_id reason now refusal_lease_seconds)
      | none => some (.accept offer.work_id self.profile.node_id)

/-- The request that `run_accepted` makes before it runs a handler, and that `retry_completion` makes: the
report of a result that the task has already. -/
def pending_call (self : SpecialistNodeRunner) (work_id : String) : Option Call :=
  ((self.active.get? (normalized work_id)).bind ActiveTask.result).map Call.complete

/-- The request that `run_accepted` makes after the handler. -/
def finish_call (self : SpecialistNodeRunner) (work_id : String) (result : WorkResult) : Option Call :=
  (self.active.get? (normalized work_id)).map (fun _ => Call.complete result)

/-- The result that `_execute_handler` builds. -/
def execute_handler (self : SpecialistNodeRunner) (offer : SpecialistWorkOffer) (output : HandlerOutput) :
    WorkResult where
  work_id := offer.work_id
  node_id := self.profile.node_id
  result_status := output.result_status
  summary := output.summary
  evidence_references := output.evidence_references
  important := offer.important_result || output.important
  work_id_normal := offer.work_id_normal
  node_id_normal := self.profile.node_id_normal
  summary_text := output.summary_text
  evidence_references_text := output.evidence_references_text

/-- How an offer is answered, and after which request. -/
inductive OfferAnswer (self : SpecialistNodeRunner) (offer : SpecialistWorkOffer) (now refusal_lease_seconds : ℚ)
    (reply : Except Error DistributedWorkServiceOutcome) :
    Option Call → Except Error RunnerOutcome × SpecialistNodeRunner → Prop where
  | negative_time (error : Error) : OfferAnswer self offer now refusal_lease_seconds reply none (.error error, self)
  | not_addressed (outcome : RunnerOutcome)
    (hother : offer.node_id ≠ self.profile.node_id ∨ offer.organ ≠ self.profile.organ) :
    OfferAnswer self offer now refusal_lease_seconds reply none (.ok outcome, self)
  | already_completed (outcome : RunnerOutcome) (hcompleted : offer.work_id ∈ self.completed) :
    OfferAnswer self offer now refusal_lease_seconds reply none (.ok outcome, self)
  | already_accepted (outcome : RunnerOutcome) (task : ActiveTask)
    (htask : self.active.get? offer.work_id = some task) :
    OfferAnswer self offer now refusal_lease_seconds reply none (.ok outcome, self)
  | refused (reason : String) :
    OfferAnswer self offer now refusal_lease_seconds reply
      (some (.refuse offer.work_id self.profile.node_id reason now refusal_lease_seconds))
      (self.refuse_offer offer reason reply, self)
  | accepted (hfresh : self.active.get? offer.work_id = none)
    (hroom : self.active.items.length < self.profile.max_concurrent_tasks) :
    OfferAnswer self offer now refusal_lease_seconds reply (some (.accept offer.work_id self.profile.node_id))
      (self.accept_offer offer hfresh hroom reply)

variable (self : SpecialistNodeRunner)

theorem receive_offer_answer (offer : SpecialistWorkOffer)
    (now refusal_lease_seconds : ℚ) (reply : Except Error DistributedWorkServiceOutcome) :
    OfferAnswer self offer now refusal_lease_seconds reply (self.offer_call offer now refusal_lease_seconds)
      (self.receive_offer offer now reply) := by
  unfold offer_call receive_offer
  by_cases htime : now < 0
  · rw [if_pos htime, if_pos htime]
    exact .negative_time _
  · rw [if_neg htime, if_neg htime]
    by_cases hother : offer.node_id ≠ self.profile.node_id ∨ offer.organ ≠ self.profile.organ
    · rw [if_pos hother, if_pos hother]
      exact .not_addressed _ hother
    · rw [if_neg hother, if_neg hother]
      by_cases hcompleted : offer.work_id ∈ self.completed
      · rw [if_pos hcompleted, if_pos hcompleted]
        exact .already_completed _ hcompleted
      · rw [if_neg hcompleted, if_neg hcompleted]
        split
        · rename_i task htask
          split
          · exact .already_accepted _ task htask
          · rename_i hfresh
            cases htask.symm.trans hfresh
        · rename_i hfresh
          split
          · rename_i reason hreason
            split
            · rename_i task htask
              cases htask.symm.trans hfresh
            · split
              · rename_i found hfound
                cases hfound.symm.trans hreason
                exact .refused reason
              · rename_i hfound
                cases hfound.symm.trans hreason
          · rename_i hreason
            split
            · rename_i task htask
              cases htask.symm.trans hfresh
            · split
              · rename_i found hfound
                cases hfound.symm.trans hreason
              · exact .accepted hfresh _

/-- What the end of a report does to the runner: the task is closed, or kept when the report raises. -/
def report (self : SpecialistNodeRunner) (work : String) (reply : Except Error DistributedWorkServiceOutcome) :
    SpecialistNodeRunner :=
  match reply with
  | .error _ => self
  | .ok _ => self.close_task work

theorem retry_completion_locked_report (task : ActiveTask)
    (reply : Except Error DistributedWorkServiceOutcome) :
    (self.retry_completion_locked task reply).2 = self.report task.offer.work_id reply := by
  cases reply with
  | error error => rfl
  | ok outcome => rfl

theorem offer_of_task {self : SpecialistNodeRunner} {work : String} {task : ActiveTask}
    (htask : self.active.get? work = some task) : task.offer.work_id = work :=
  self.active_keyed (work, task) ((Dict.get?_eq_some_iff _ _ _).mp htask)

variable (work_id : String) (reply : Except Error DistributedWorkServiceOutcome)

/-- A task that has a result already is reported again, by `run_accepted` as by `retry_completion`. -/
theorem start_run_report :
    (self.start_run work_id reply).2 =
      if (self.pending_call work_id).isSome then self.report (normalized work_id) reply else self := by
  unfold start_run pending_call
  cases htask : self.active.get? (normalized work_id) with
  | none => rfl
  | some task =>
    cases hresult : task.result with
    | none =>
      simp only [hresult, Option.bind_some, Option.map_none, Option.isSome_none]
      cases self.handlers.get task.offer.handler_name with
      | none => rfl
      | some spec => rfl
    | some result =>
      simp only [hresult, Option.bind_some, Option.map_some, Option.isSome_some, if_true]
      rw [retry_completion_locked_report, offer_of_task htask]

theorem retry_completion_report :
    (self.retry_completion work_id reply).2 =
      if (self.pending_call work_id).isSome then self.report (normalized work_id) reply else self := by
  unfold retry_completion pending_call
  cases htask : self.active.get? (normalized work_id) with
  | none => rfl
  | some task =>
    cases hresult : task.result with
    | none => simp [hresult]
    | some result =>
      simp only [hresult, Option.bind_some, Option.map_some, Option.isSome_some, Option.isNone_some, if_true,
        Bool.false_eq_true, if_false]
      rw [retry_completion_locked_report, offer_of_task htask]

/-- The result of a handler is kept with its task and reported. -/
theorem finish_run_report (result : WorkResult)
    (reply : Except Error DistributedWorkServiceOutcome) :
    ((self.finish_run work_id result reply).2 = self ∧ self.finish_call work_id result = none) ∨
      ∃ task, ∃ htask : self.active.get? (normalized work_id) = some task,
        self.finish_call work_id result = some (.complete result) ∧
        (self.finish_run work_id result reply).2 =
          (self.set_result (normalized work_id) task htask result).report (normalized work_id) reply := by
  unfold finish_run finish_call
  split
  · rename_i hnone
    exact .inl ⟨rfl, by rw [hnone]; rfl⟩
  · rename_i task htask
    refine .inr ⟨task, htask, by rw [htask]; rfl, ?_⟩
    dsimp only
    rw [retry_completion_locked_report, offer_of_task htask]

end SpecialistNodeRunner

/-- The service and the runner of one node, with the offers whose handlers the runner's threads are in the
middle of, and with all calls that the service has processed so far. -/
structure Joint where
  service : Runtime
  runner : SpecialistNodeRunner
  executing : List SpecialistWorkOffer
  past : List Entry

namespace Joint

variable (sinks : Sinks)

/-- The service processes a call. -/
def perform (self : Joint) (operation : Operation) : Joint :=
  { self with
    service := (entry_of sinks self.service operation).after
    past := self.past ++ [entry_of sinks self.service operation] }

/-- A request of the runner, with what the runner gets as its reply. -/
def request (self : Joint) (delivery : Delivery) (call : Call) :
    Except Error DistributedWorkServiceOutcome × Joint :=
  match delivery with
  | .answered raised =>
    (((call.program sinks).result self.service).mapError raised, self.perform sinks call.operation)
  | .reply_lost error => (.error error, self.perform sinks call.operation)
  | .request_lost error => (.error error, self)

/-- The request that a method makes, if it makes one. A method that makes none reads no reply. -/
def ask (self : Joint) (delivery : Delivery) : Option Call → Except Error DistributedWorkServiceOutcome × Joint
  | none => (.error ⟨.RuntimeError, ""⟩, self)
  | some call => self.request sinks delivery call

def heartbeat (self : Joint) (condition : NodeCondition) (now : ℚ) (delivery : Delivery) : Joint :=
  if hnow : 0 ≤ now then
    match delivery with
    | .request_lost _ => self
    | _ => self.perform sinks (.register_node (self.runner.advertisement condition now hnow))
  else self

def receive_offer (self : Joint) (offer : SpecialistWorkOffer) (now refusal_lease_seconds : ℚ)
    (delivery : Delivery) : Except Error RunnerOutcome × Joint :=
  let (reply, asked) := self.ask sinks delivery (self.runner.offer_call offer now refusal_lease_seconds)
  let (outcome, runner) := self.runner.receive_offer offer now reply
  (outcome, { asked with runner })

/-- `run_accepted` up to its handler; it answers at once when the task has a result already. -/
def start_run (self : Joint) (work_id : String) (delivery : Delivery) :
    Except Error (Option RunnerOutcome) × Joint :=
  let (reply, asked) := self.ask sinks delivery (self.runner.pending_call work_id)
  match self.runner.start_run work_id reply with
  | (.ok none, runner) =>
    (.ok none, { asked with
      runner
      executing := asked.executing ++
        ((self.runner.active.get? (normalized work_id)).map ActiveTask.offer).toList })
  | (outcome, runner) => (outcome, { asked with runner })

/-- The rest of one `run_accepted`, after its handler. -/
def finish_run (self : Joint) (index : Nat) (offer : SpecialistWorkOffer) (output : HandlerOutput)
    (delivery : Delivery) : Except Error RunnerOutcome × Joint :=
  let result := self.runner.execute_handler offer output
  let (reply, asked) := self.ask sinks delivery (self.runner.finish_call offer.work_id result)
  let (outcome, runner) := self.runner.finish_run offer.work_id result reply
  (outcome, { asked with
    runner
    executing := asked.executing.eraseIdx index })

def retry_completion (self : Joint) (work_id : String) (delivery : Delivery) :
    Except Error RunnerOutcome × Joint :=
  let (reply, asked) := self.ask sinks delivery (self.runner.pending_call work_id)
  let (outcome, runner) := self.runner.retry_completion work_id reply
  (outcome, { asked with runner })

end Joint

/-- What can happen next: the service processes a call of somebody else, or a method of the runner is
called. -/
inductive JointOperation where
  | service (operation : Operation)
  | heartbeat (condition : NodeCondition) (now : ℚ) (delivery : Delivery)
  | receive_offer (offer : SpecialistWorkOffer) (now refusal_lease_seconds : ℚ) (delivery : Delivery)
  | start_run (work_id : String) (delivery : Delivery)
  | finish_run (index : Nat) (output : HandlerOutput) (delivery : Delivery)
  | retry_completion (work_id : String) (delivery : Delivery)
  | drain
  | resume
  | quarantine (reason : String)
  | clear_quarantine

namespace Joint

variable (sinks : Sinks)

def step (self : Joint) : JointOperation → Joint
  | .service operation => self.perform sinks operation
  | .heartbeat condition now delivery => self.heartbeat sinks condition now delivery
  | .receive_offer offer now refusal_lease_seconds delivery =>
    (self.receive_offer sinks offer now refusal_lease_seconds delivery).2
  | .start_run work_id delivery => (self.start_run sinks work_id delivery).2
  | .finish_run index output delivery =>
    match self.executing[index]? with
    | none => self
    | some offer => (self.finish_run sinks index offer output delivery).2
  | .retry_completion work_id delivery => (self.retry_completion sinks work_id delivery).2
  | .drain => { self with runner := self.runner.drain }
  | .resume => { self with runner := self.runner.resume.2 }
  | .quarantine reason => { self with runner := (self.runner.quarantine reason).2 }
  | .clear_quarantine => { self with runner := self.runner.clear_quarantine }

/-- The state a run ends in. -/
def run (self : Joint) (operations : List JointOperation) : Joint :=
  operations.foldl (step sinks) self

/-- The service over an empty coordinator, and a runner that has just been built. -/
def start (registry : VerifiedNodeRegistry) (profile : SpecialistNodeProfile) (handlers : GhostHandlerRegistry) :
    Joint :=
  ⟨velvet.distributed_work_service.start registry, .new profile handlers, [], []⟩

theorem run_append (self : Joint) (first second : List JointOperation) :
    self.run sinks (first ++ second) = (self.run sinks first).run sinks second :=
  List.foldl_append

/-- A request leaves the runner's side alone; it is processed or it is lost. -/
theorem ask_cases (self : Joint) (delivery : Delivery) (call : Option Call) :
    (self.ask sinks delivery call).2 = self ∨
      ∃ operation, (self.ask sinks delivery call).2 = self.perform sinks operation := by
  cases call with
  | none => exact .inl rfl
  | some call =>
    cases delivery with
    | answered raised => exact .inr ⟨call.operation, rfl⟩
    | reply_lost error => exact .inr ⟨call.operation, rfl⟩
    | request_lost error => exact .inl rfl

variable {sinks} {self : Joint}

/-- A request that returns to the runner has been processed, and returned at the service. -/
theorem ask_returned {delivery : Delivery} {call : Call} {outcome : DistributedWorkServiceOutcome}
    (hreply : (self.ask sinks delivery (some call)).1 = .ok outcome) :
    (velvet.distributed_work_service.perform sinks call.operation).result self.service = .ok [outcome] ∧
      (self.ask sinks delivery (some call)).2 = self.perform sinks call.operation := by
  cases delivery with
  | answered raised =>
    refine ⟨?_, rfl⟩
    change ((call.program sinks).result self.service).mapError raised = .ok outcome at hreply
    rw [call.result_operation]
    cases hresult : (call.program sinks).result self.service with
    | ok found =>
      rw [hresult] at hreply
      cases hreply
      rfl
    | error error =>
      rw [hresult] at hreply
      cases hreply
  | reply_lost error => cases hreply
  | request_lost error => cases hreply

/-- Everything one step can do: the service processes a call or none, and the runner keeps its tasks, takes
one on that the service has accepted, stores a result of its own, or closes a task that the service has
completed. -/
inductive Move (sinks : Sinks) (before : Joint) : Joint → Prop where
  | kept (asked : Joint) (runner : SpecialistNodeRunner) (executing : List SpecialistWorkOffer)
    (hasked : asked = before ∨ ∃ operation, asked = before.perform sinks operation)
    (hprofile : runner.profile = before.runner.profile) (hactive : runner.active = before.runner.active)
    (hcompleted : runner.completed = before.runner.completed) :
    Move sinks before { asked with runner, executing }
  | accepted (offer : SpecialistWorkOffer) (outcome : DistributedWorkServiceOutcome)
    (hresult : (velvet.distributed_work_service.perform sinks
      (.accept offer.work_id before.runner.profile.node_id)).result before.service = .ok [outcome])
    (hfresh : before.runner.active.get? offer.work_id = none)
    (hroom : before.runner.active.items.length < before.runner.profile.max_concurrent_tasks) :
    Move sinks before { before.perform sinks (.accept offer.work_id before.runner.profile.node_id) with
      runner := before.runner.add_task offer outcome hfresh hroom }
  | stored (asked : Joint) (executing : List SpecialistWorkOffer) (work : String) (task : ActiveTask)
    (result : WorkResult) (hasked : asked = before ∨ ∃ operation, asked = before.perform sinks operation)
    (htask : before.runner.active.get? work = some task) (hwork : result.work_id = work)
    (hnode : result.node_id = before.runner.profile.node_id) :
    Move sinks before { asked with runner := before.runner.set_result work task htask result, executing }
  | closed (runner : SpecialistNodeRunner) (executing : List SpecialistWorkOffer) (result : WorkResult)
    (outcome : DistributedWorkServiceOutcome)
    (hresult : (velvet.distributed_work_service.perform sinks (.complete result)).result before.service =
      .ok [outcome])
    (hprofile : runner.profile = before.runner.profile)
    (hactive : runner.active = before.runner.active.pop result.work_id)
    (hcompleted : runner.completed = before.runner.completed.insert result.work_id) :
    Move sinks before { before.perform sinks (.complete result) with runner, executing }

/-- The tables of the service are tied, and the results that the runner keeps are its own. -/
structure Sound (joint : Joint) : Prop where
  tied : Tied joint.service.toDistributedWorkService
  results : ∀ work task result, joint.runner.active.get? work = some task → task.result = some result →
    result.work_id = work ∧ result.node_id = joint.runner.profile.node_id

theorem sound_start (registry : VerifiedNodeRegistry) (profile : SpecialistNodeProfile)
    (handlers : GhostHandlerRegistry) : (start registry profile handlers).Sound where
  tied := Tied.new registry
  results := by
    intro work task result htask
    cases htask

/-- A pending report is about a result that its task keeps. -/
theorem Sound.pending (hsound : self.Sound) {work_id : String} {call : Call}
    (hcall : self.runner.pending_call work_id = some call) :
    ∃ result, call = .complete result ∧ result.work_id = normalized work_id ∧
      result.node_id = self.runner.profile.node_id := by
  unfold SpecialistNodeRunner.pending_call at hcall
  obtain ⟨result, hresult, rfl⟩ := Option.map_eq_some_iff.mp hcall
  obtain ⟨task, htask, hresult⟩ := Option.bind_eq_some_iff.mp hresult
  obtain ⟨hwork, hnode⟩ := hsound.results _ task result htask hresult
  exact ⟨result, rfl, hwork, hnode⟩

/-- A report of a result closes its task or leaves it. -/
theorem Sound.report_move (hsound : self.Sound) (sinks : Sinks) (work_id : String) (delivery : Delivery)
    (executing : List SpecialistWorkOffer) :
    Move sinks self { (self.ask sinks delivery (self.runner.pending_call work_id)).2 with
      runner := if (self.runner.pending_call work_id).isSome then
        self.runner.report (normalized work_id) (self.ask sinks delivery (self.runner.pending_call work_id)).1
        else self.runner
      executing } := by
  cases hcall : self.runner.pending_call work_id with
  | none => exact .kept self self.runner executing (.inl rfl) rfl rfl rfl
  | some call =>
    obtain ⟨result, rfl, hwork, hnode⟩ := hsound.pending hcall
    rw [Option.isSome_some, if_pos rfl]
    cases hreply : (self.ask sinks delivery (some (.complete result))).1 with
    | error error =>
      exact .kept _ self.runner executing (self.ask_cases sinks delivery (some (.complete result))) rfl rfl rfl
    | ok outcome =>
      obtain ⟨hresult, hasked⟩ := ask_returned hreply
      rw [hasked, ← hwork]
      exact .closed _ executing result outcome hresult rfl rfl rfl

/-- The result of a handler is the runner's own; it is stored with its task, which is closed if the service
completes the work. -/
theorem finish_move (index : Nat) (offer : SpecialistWorkOffer) (output : HandlerOutput) (delivery : Delivery) :
    Move sinks self (self.finish_run sinks index offer output delivery).2 := by
  unfold finish_run
  dsimp only
  have hasked := self.ask_cases sinks delivery
    (self.runner.finish_call offer.work_id (self.runner.execute_handler offer output))
  rcases self.runner.finish_run_report offer.work_id (self.runner.execute_handler offer output)
    (self.ask sinks delivery
      (self.runner.finish_call offer.work_id (self.runner.execute_handler offer output))).1 with
    ⟨hsame, hcall⟩ | ⟨task, htask, hcall, hreport⟩
  · rw [hsame]
    exact .kept _ _ _ hasked rfl rfl rfl
  · rw [hreport, hcall]
    rw [hcall] at hasked
    have hwork : (self.runner.execute_handler offer output).work_id = normalized offer.work_id :=
      offer.work_id_normal.2.symm
    cases hreply : (self.ask sinks delivery
        (some (.complete (self.runner.execute_handler offer output)))).1 with
    | error error => exact .stored _ _ _ task _ hasked htask hwork rfl
    | ok outcome =>
      obtain ⟨hresult, hprocessed⟩ := ask_returned hreply
      rw [hprocessed]
      refine .closed _ _ _ outcome hresult rfl ?_ ?_
      · rw [hwork]
        exact Dict.pop_set_self _ _ _
      · rw [hwork]
        rfl

/-- What one step can do, from a sound state. -/
theorem Sound.move (hsound : self.Sound) (sinks : Sinks) (operation : JointOperation) :
    Move sinks self (self.step sinks operation) := by
  cases operation with
  | service operation => exact .kept _ _ _ (.inr ⟨operation, rfl⟩) rfl rfl rfl
  | heartbeat condition now delivery =>
    change Move sinks self (self.heartbeat sinks condition now delivery)
    unfold heartbeat
    split
    · cases delivery with
      | answered raised => exact .kept _ _ _ (.inr ⟨_, rfl⟩) rfl rfl rfl
      | reply_lost error => exact .kept _ _ _ (.inr ⟨_, rfl⟩) rfl rfl rfl
      | request_lost error => exact .kept self _ _ (.inl rfl) rfl rfl rfl
    · exact .kept self _ _ (.inl rfl) rfl rfl rfl
  | receive_offer offer now refusal_lease_seconds delivery =>
    change Move sinks self
      { (self.ask sinks delivery (self.runner.offer_call offer now refusal_lease_seconds)).2 with
        runner := (self.runner.receive_offer offer now
          (self.ask sinks delivery (self.runner.offer_call offer now refusal_lease_seconds)).1).2 }
    have hanswer := self.runner.receive_offer_answer offer now refusal_lease_seconds
      (self.ask sinks delivery (self.runner.offer_call offer now refusal_lease_seconds)).1
    generalize self.runner.offer_call offer now refusal_lease_seconds = call at hanswer ⊢
    generalize self.runner.receive_offer offer now (self.ask sinks delivery call).1 = answer at hanswer ⊢
    have hasked := self.ask_cases sinks delivery call
    cases hanswer with
    | negative_time error => exact .kept _ _ _ hasked rfl rfl rfl
    | not_addressed outcome hother => exact .kept _ _ _ hasked rfl rfl rfl
    | already_completed outcome hcompleted => exact .kept _ _ _ hasked rfl rfl rfl
    | already_accepted outcome task htask => exact .kept _ _ _ hasked rfl rfl rfl
    | refused reason => exact .kept _ _ _ hasked rfl rfl rfl
    | accepted hfresh hroom =>
      unfold SpecialistNodeRunner.accept_offer
      cases hreply : (self.ask sinks delivery
          (some (.accept offer.work_id self.runner.profile.node_id))).1 with
      | error error => exact .kept _ _ _ hasked rfl rfl rfl
      | ok outcome =>
        dsimp only
        split
        · exact .kept _ _ _ hasked rfl rfl rfl
        · obtain ⟨hresult, hsame⟩ := ask_returned hreply
          rw [hsame]
          exact .accepted offer outcome hresult hfresh hroom
  | start_run work_id delivery =>
    change Move sinks self (self.start_run sinks work_id delivery).2
    have hreport := hsound.report_move sinks work_id delivery
    rw [← SpecialistNodeRunner.start_run_report] at hreport
    unfold start_run
    dsimp only
    split
    · rename_i runner hrun
      rw [hrun] at hreport
      exact hreport _
    · rename_i outcome runner hanswered hrun
      rw [hrun] at hreport
      exact hreport _
  | finish_run index output delivery =>
    unfold step
    dsimp only
    split
    · exact .kept self _ _ (.inl rfl) rfl rfl rfl
    · rename_i offer _
      exact finish_move index offer output delivery
  | retry_completion work_id delivery =>
    have hreport := hsound.report_move sinks work_id delivery
      (self.ask sinks delivery (self.runner.pending_call work_id)).2.executing
    rw [← SpecialistNodeRunner.retry_completion_report] at hreport
    exact hreport
  | drain => exact .kept self _ _ (.inl rfl) rfl rfl rfl
  | resume =>
    change Move sinks self { self with runner := self.runner.resume.2 }
    unfold SpecialistNodeRunner.resume
    split
    · exact .kept self _ _ (.inl rfl) rfl rfl rfl
    · exact .kept self _ _ (.inl rfl) rfl rfl rfl
  | quarantine reason =>
    change Move sinks self { self with runner := (self.runner.quarantine reason).2 }
    unfold SpecialistNodeRunner.quarantine
    split
    · exact .kept self _ _ (.inl rfl) rfl rfl rfl
    · exact .kept self _ _ (.inl rfl) rfl rfl rfl
  | clear_quarantine => exact .kept self _ _ (.inl rfl) rfl rfl rfl

theorem Move.profile_eq {after : Joint} (hmove : Move sinks self after) :
    after.runner.profile = self.runner.profile := by
  cases hmove with
  | kept asked runner executing hasked hprofile hactive hcompleted => exact hprofile
  | accepted offer outcome hresult hfresh hroom => rfl
  | stored asked executing work task result hasked htask hwork hnode => rfl
  | closed runner executing result outcome hresult hprofile hactive hcompleted => exact hprofile

theorem tied_perform (htied : Tied self.service.toDistributedWorkService) (operation : Operation) :
    Tied (self.perform sinks operation).service.toDistributedWorkService :=
  htied.effect (perform_effect sinks htied operation)

theorem tied_asked (asked : Joint) (htied : Tied self.service.toDistributedWorkService)
    (hasked : asked = self ∨ ∃ operation, asked = self.perform sinks operation) :
    Tied asked.service.toDistributedWorkService := by
  rcases hasked with rfl | ⟨operation, rfl⟩
  · exact htied
  · exact tied_perform htied operation

theorem Sound.step (hsound : self.Sound) {after : Joint} (hmove : Move sinks self after) : after.Sound := by
  have hprofile := hmove.profile_eq
  obtain ⟨htied, hresults⟩ := hsound
  cases hmove with
  | kept asked runner executing hasked hsame hactive hcompleted =>
    refine ⟨tied_asked asked htied hasked, ?_⟩
    intro work task result htask hresult
    dsimp only at htask ⊢
    rw [hactive] at htask
    rw [hsame]
    exact hresults work task result htask hresult
  | accepted offer outcome hreturned hfresh hroom =>
    refine ⟨tied_perform htied _, ?_⟩
    intro work task result htask hresult
    change (self.runner.active.set offer.work_id ⟨offer, outcome, none⟩).get? work = _ at htask
    rw [Dict.get?_set] at htask
    split at htask
    · cases htask
      cases hresult
    · exact hresults work task result htask hresult
  | stored asked executing key kept own hasked hkept hwork hnode =>
    refine ⟨tied_asked asked htied hasked, ?_⟩
    intro work task result htask hresult
    change (self.runner.active.set key { kept with result := some own }).get? work = _ at htask
    rw [Dict.get?_set] at htask
    split at htask
    · rename_i hkey
      cases htask
      cases hresult
      exact ⟨hwork.trans hkey.symm, hnode⟩
    · exact hresults work task result htask hresult
  | closed runner executing own outcome hreturned hsame hactive hcompleted =>
    refine ⟨tied_perform htied _, ?_⟩
    intro work task result htask hresult
    dsimp only at htask ⊢
    rw [hactive, Dict.get?_pop] at htask
    rw [hsame]
    split at htask
    · cases htask
    · exact hresults work task result htask hresult

/-- Every state that a run reaches is sound. -/
theorem sound_run (sinks : Sinks) (registry : VerifiedNodeRegistry) (profile : SpecialistNodeProfile)
    (handlers : GhostHandlerRegistry) (operations : List JointOperation) :
    ((start registry profile handlers).run sinks operations).Sound ∧
      ((start registry profile handlers).run sinks operations).runner.profile = profile := by
  induction operations using List.reverseRecOn with
  | nil => exact ⟨sound_start registry profile handlers, rfl⟩
  | append_singleton operations operation ih =>
    rw [run_append]
    have hmove := ih.1.move sinks operation
    exact ⟨ih.1.step hmove, hmove.profile_eq.trans ih.2⟩

end Joint

end

end velvet.specialist_node_runner
