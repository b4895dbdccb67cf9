import VelvetRuntime.SpecialistNode.Joint
import VelvetRuntime.SpecialistNode.Quarantine

open python python.str velvet.distributed_work_coordinator velvet.distributed_work_service
open velvet.distributed_work_daemon (plain_profile plain_handlers plain_offer plain_acceptance)

namespace velvet.specialist_node_runner

open SpecialistNodeRunner

section

variable [StrLower]

/-- A runner that several threads call, with the offers whose handlers are running, and with a record of what has
happened: which work was accepted, for which the handler was called, in which calls the handler ended the thread
instead of returning, what the handlers came to, and what was reported again later. -/
structure Threads where
  runner : SpecialistNodeRunner
  executing : List SpecialistWorkOffer
  accepted : List String
  executed : List String
  aborted : List String
  produced : List WorkResult
  reported : List WorkResult

/-- What a thread does next. The sections under the lock are single steps, and the handler runs between `start_run`
and `finish_run`. `process_offer` is `receive_offer` followed by `run_accepted`. -/
inductive ThreadStep where
  | receive_offer (offer : SpecialistWorkOffer) (now : ℚ) (reply : Except Error DistributedWorkServiceOutcome)
  | start_run (work_id : String) (reply : Except Error DistributedWorkServiceOutcome)
  | finish_run (index : Nat) (output : HandlerOutput) (reply : Except Error DistributedWorkServiceOutcome)
  | abort_run (index : Nat)
  | retry_completion (work_id : String) (reply : Except Error DistributedWorkServiceOutcome)

namespace Threads

def start (profile : SpecialistNodeProfile) (handlers : GhostHandlerRegistry) : Threads :=
  ⟨.new profile handlers, [], [], [], [], [], []⟩

/-- The result that a task has already. -/
def pending_result (self : Threads) (work_id : String) : Option WorkResult :=
  (self.runner.active.get? (normalized work_id)).bind ActiveTask.result

/-- An offer that makes a new task is accepted. -/
def receive_offer (self : Threads) (offer : SpecialistWorkOffer) (now : ℚ)
    (reply : Except Error DistributedWorkServiceOutcome) : Threads :=
  let runner := (self.runner.receive_offer offer now reply).2
  { self with
    runner
    accepted := if (self.runner.active.get? offer.work_id).isNone && (runner.active.get? offer.work_id).isSome then
      self.accepted ++ [offer.work_id] else self.accepted }

/-- `run_accepted` up to its handler: it calls the handler, or answers with a result that is there already. -/
def start_run (self : Threads) (work_id : String) (reply : Except Error DistributedWorkServiceOutcome) : Threads :=
  match self.runner.start_run work_id reply, self.runner.active.get? (normalized work_id) with
  | (.ok none, runner), some task =>
    { self with
      runner
      executing := self.executing ++ [task.offer]
      executed := self.executed ++ [task.offer.work_id] }
  | (_, runner), _ => { self with runner, reported := self.reported ++ (self.pending_result work_id).toList }

/-- The rest of one `run_accepted`, once its handler has come to a result. -/
def finish_run (self : Threads) (index : Nat) (output : HandlerOutput)
    (reply : Except Error DistributedWorkServiceOutcome) : Threads :=
  match self.executing[index]? with
  | none => self
  | some offer =>
    let result := self.runner.execute_handler offer output
    { self with
      runner := (self.runner.finish_run offer.work_id result reply).2
      executing := self.executing.eraseIdx index
      produced := self.produced ++ [result] }

/-- The handler raises what `except Exception` does not catch, and the thread ends. -/
def abort_run (self : Threads) (index : Nat) : Threads :=
  match self.executing[index]? with
  | none => self
  | some offer =>
    { self with
      executing := self.executing.eraseIdx index
      aborted := self.aborted ++ [offer.work_id] }

def retry_completion (self : Threads) (work_id : String) (reply : Except Error DistributedWorkServiceOutcome) :
    Threads :=
  { self with
    runner := (self.runner.retry_completion work_id reply).2
    reported := self.reported ++ (self.pending_result work_id).toList }

def step (self : Threads) : ThreadStep → Threads
  | .receive_offer offer now reply => self.receive_offer offer now reply
  | .start_run work_id reply => self.start_run work_id reply
  | .finish_run index output reply => self.finish_run index output reply
  | .abort_run index => self.abort_run index
  | .retry_completion work_id reply => self.retry_completion work_id reply

/-- The handler of the work is running, or has ended its thread. -/
def Entered (self : Threads) (work : String) : Prop :=
  work ∈ self.executing.map SpecialistWorkOffer.work_id ∨ work ∈ self.aborted

/-- A call of `run_accepted` does not find the handler of its work running, or ended with its thread. -/
def StartsAlone (self : Threads) : ThreadStep → Prop
  | .start_run work_id _ => ¬self.Entered (normalized work_id)
  | _ => True

/-- In every step of the run the handlers are started alone. -/
def AloneAlways : Threads → List ThreadStep → Prop
  | _, [] => True
  | self, next :: rest => self.StartsAlone next ∧ AloneAlways (self.step next) rest

/-- An offer is accepted once, its handler is called at most once, and what is reported of a work later is the result
that its handler came to. -/
structure OnceOnly (threads : Threads) : Prop where
  accepted_once : ∀ work, threads.accepted.count work ≤ 1
  executed_once : ∀ work, threads.executed.count work ≤ threads.accepted.count work
  reported_produced : ∀ result ∈ threads.reported, result ∈ threads.produced ∧
    ∀ other ∈ threads.produced, other.work_id = result.work_id → other = result

/-- In every state of the run. -/
def OnceAlways : Threads → List ThreadStep → Prop
  | self, [] => self.OnceOnly
  | self, next :: rest => self.OnceOnly ∧ OnceAlways (self.step next) rest

end Threads

namespace SpecialistNodeRunner

variable (self : SpecialistNodeRunner)

/-- An offer is answered without a new task, or it is taken on. A work that is completed is not taken on again. -/
theorem receive_offer_task (offer : SpecialistWorkOffer) (now : ℚ)
    (reply : Except Error DistributedWorkServiceOutcome) :
    (self.receive_offer offer now reply).2 = self ∨
      ∃ outcome, ∃ hfresh : self.active.get? offer.work_id = none, ∃ hroom, offer.work_id ∉ self.completed ∧
        (self.receive_offer offer now reply).2 = self.add_task offer outcome hfresh hroom := by
  by_cases hcompleted : offer.work_id ∈ self.completed
  · left
    unfold receive_offer
    split
    · rfl
    · split
      · rfl
      · rfl
  · have hanswer := self.receive_offer_answer offer now 0 reply
    generalize self.receive_offer offer now reply = answer at hanswer ⊢
    generalize self.offer_call offer now 0 = call at hanswer
    cases hanswer with
    | negative_time error => exact .inl rfl
    | not_addressed outcome hother => exact .inl rfl
    | already_completed outcome hfound => exact .inl rfl
    | already_accepted outcome task htask => exact .inl rfl
    | refused reason => exact .inl rfl
    | accepted hfresh hroom =>
      cases reply with
      | error error => exact .inl rfl
      | ok outcome =>
        cases haccepted : outcome.accepted with
        | false => exact .inl (by simp [accept_offer, haccepted])
        | true => exact .inr ⟨outcome, hfresh, hroom, hcompleted, by simp [accept_offer, haccepted]⟩

/-- A handler is called for a task that has no result and names a registered handler. -/
theorem start_run_calls {self runner : SpecialistNodeRunner} {work_id : String}
    {reply : Except Error DistributedWorkServiceOutcome} (hstart : self.start_run work_id reply = (.ok none, runner)) :
    runner = self ∧ ∃ task, self.active.get? (normalized work_id) = some task ∧ task.result = none ∧
      (self.handlers.get task.offer.handler_name).isSome = true := by
  unfold start_run at hstart
  split at hstart
  · cases hstart
  · rename_i task htask
    split at hstart
    · cases hstart
    · rename_i hresult
      split at hstart
      · cases hstart
      · rename_i spec hspec
        cases hstart
        refine ⟨rfl, task, htask, by simpa using hresult, by rw [hspec]; rfl⟩

@[simp] theorem handlers_report (work : String)
    (reply : Except Error DistributedWorkServiceOutcome) : (self.report work reply).handlers = self.handlers := by
  cases reply with
  | error error => rfl
  | ok outcome => rfl

end SpecialistNodeRunner

namespace Threads

/-- Everything one step can do. -/
inductive Move (before : Threads) : Threads → Prop where
  | stays : Move before before
  | accepts (offer : SpecialistWorkOffer) (outcome : DistributedWorkServiceOutcome)
    (hfresh : before.runner.active.get? offer.work_id = none)
    (hroom : before.runner.active.items.length < before.runner.profile.max_concurrent_tasks)
    (hopen : offer.work_id ∉ before.runner.completed) :
    Move before { before with
      runner := before.runner.add_task offer outcome hfresh hroom
      accepted := before.accepted ++ [offer.work_id] }
  | calls (work : String) (task : ActiveTask) (htask : before.runner.active.get? work = some task)
    (hresult : task.result = none)
    (hhandler : (before.runner.handlers.get task.offer.handler_name).isSome = true)
    (halone : ¬before.Entered work) :
    Move before { before with
      executing := before.executing ++ [task.offer]
      executed := before.executed ++ [task.offer.work_id] }
  | reports (work : String) (task : ActiveTask) (result : WorkResult)
    (reply : Except Error DistributedWorkServiceOutcome) (htask : before.runner.active.get? work = some task)
    (hresult : task.result = some result) :
    Move before { before with
      runner := before.runner.report work reply
      reported := before.reported ++ [result] }
  | returns (index : Nat) (offer : SpecialistWorkOffer) (task : ActiveTask) (result : WorkResult)
    (reply : Except Error DistributedWorkServiceOutcome) (hindex : before.executing[index]? = some offer)
    (htask : before.runner.active.get? offer.work_id = some task) (hwork : result.work_id = offer.work_id) :
    Move before { before with
      runner := (before.runner.set_result offer.work_id task htask result).report offer.work_id reply
      executing := before.executing.eraseIdx index
      produced := before.produced ++ [result] }
  | disappears (index : Nat) (offer : SpecialistWorkOffer) (result : WorkResult)
    (hindex : before.executing[index]? = some offer) (htask : before.runner.active.get? offer.work_id = none) :
    Move before { before with
      executing := before.executing.eraseIdx index
      produced := before.produced ++ [result] }
  | aborts (index : Nat) (offer : SpecialistWorkOffer) (hindex : before.executing[index]? = some offer) :
    Move before { before with
      executing := before.executing.eraseIdx index
      aborted := before.aborted ++ [offer.work_id] }

theorem receive_offer_move (self : Threads) (offer : SpecialistWorkOffer) (now : ℚ)
    (reply : Except Error DistributedWorkServiceOutcome) : Move self (self.receive_offer offer now reply) := by
  obtain hkept | ⟨outcome, hfresh, hroom, hopen, htaken⟩ := self.runner.receive_offer_task offer now reply
  · have hstays : self.receive_offer offer now reply = self := by
      simp only [receive_offer, hkept]
      split
      · rename_i hnew
        cases hfound : self.runner.active.get? offer.work_id with
        | none => simp [hfound] at hnew
        | some task => simp [hfound] at hnew
      · rfl
    rw [hstays]
    exact .stays
  · have haccepts : self.receive_offer offer now reply = { self with
        runner := self.runner.add_task offer outcome hfresh hroom
        accepted := self.accepted ++ [offer.work_id] } := by
      simp [receive_offer, htaken, hfresh, add_task]
    rw [haccepts]
    exact .accepts offer outcome hfresh hroom hopen

/-- A report of a result that is pending, by `run_accepted` as by `retry_completion`. -/
theorem report_move (self : Threads) (work_id : String) (reply : Except Error DistributedWorkServiceOutcome)
    (runner : SpecialistNodeRunner)
    (hrunner : runner =
      if (self.runner.pending_call work_id).isSome then self.runner.report (normalized work_id) reply
      else self.runner) :
    Move self { self with runner, reported := self.reported ++ (self.pending_result work_id).toList } := by
  subst hrunner
  cases htask : self.runner.active.get? (normalized work_id) with
  | none =>
    simp only [pending_call, pending_result, htask, Option.bind_none, Option.map_none,
      Option.isSome_none, Bool.false_eq_true, if_false, Option.toList_none, List.append_nil]
    exact .stays
  | some task =>
    cases hresult : task.result with
    | none =>
      simp only [pending_call, pending_result, htask, hresult, Option.bind_some,
        Option.map_none, Option.isSome_none, Bool.false_eq_true, if_false, Option.toList_none, List.append_nil]
      exact .stays
    | some result =>
      simp only [pending_call, pending_result, htask, hresult, Option.bind_some,
        Option.map_some, Option.isSome_some, if_true, Option.toList_some]
      exact .reports (normalized work_id) task result reply htask hresult

theorem start_run_move (self : Threads) (work_id : String) (reply : Except Error DistributedWorkServiceOutcome)
    (halone : ¬self.Entered (normalized work_id)) : Move self (self.start_run work_id reply) := by
  unfold start_run
  split
  · rename_i runner task hstart htask
    obtain ⟨rfl, found, hfound, hresult, hhandler⟩ := start_run_calls hstart
    cases hfound.symm.trans htask
    exact .calls (normalized work_id) task htask hresult hhandler halone
  · rename_i answer runner hstart hcalls
    apply report_move
    have hreport := self.runner.start_run_report work_id reply
    rw [hstart] at hreport
    exact hreport

theorem finish_run_move (self : Threads) (index : Nat) (output : HandlerOutput)
    (reply : Except Error DistributedWorkServiceOutcome) : Move self (self.finish_run index output reply) := by
  unfold finish_run
  split
  · exact .stays
  · rename_i offer hindex
    obtain ⟨hrunner, hcall⟩ | ⟨task, htask, -, hrunner⟩ :=
      self.runner.finish_run_report offer.work_id (self.runner.execute_handler offer output) reply
    · dsimp only
      rw [hrunner]
      refine .disappears index offer _ hindex ?_
      rw [finish_call, offer.work_id_normal.2] at hcall
      exact Option.map_eq_none_iff.mp hcall
    · simp only [offer.work_id_normal.2] at htask hrunner
      dsimp only
      rw [hrunner]
      exact .returns index offer task _ reply hindex htask rfl

theorem abort_run_move (self : Threads) (index : Nat) : Move self (self.abort_run index) := by
  unfold abort_run
  split
  · exact .stays
  · rename_i offer hindex
    exact .aborts index offer hindex

variable {self : Threads}

theorem step_move {next : ThreadStep} (halone : self.StartsAlone next) :
    Move self (self.step next) := by
  cases next with
  | receive_offer offer now reply => exact self.receive_offer_move offer now reply
  | start_run work_id reply => exact self.start_run_move work_id reply halone
  | finish_run index output reply => exact self.finish_run_move index output reply
  | abort_run index => exact self.abort_run_move index
  | retry_completion work_id reply =>
    exact self.report_move work_id reply _ (self.runner.retry_completion_report work_id reply)

/-- What a state says about one work. -/
structure View where
  task : Option ActiveTask
  completed : Bool
  running : Nat
  aborted : Nat
  accepted : Nat
  executed : Nat
  produced : List WorkResult
  reported : List WorkResult

def view (self : Threads) (work : String) : View where
  task := self.runner.active.get? work
  completed := self.runner.completed.contains work
  running := (self.executing.map SpecialistWorkOffer.work_id).count work
  aborted := self.aborted.count work
  accepted := self.accepted.count work
  executed := self.executed.count work
  produced := self.produced.filter (fun result => result.work_id = work)
  reported := self.reported.filter (fun result => result.work_id = work)

/-- Where a work is between its offer and its completion, as long as handlers are started alone. -/
inductive Phase (handlers : GhostHandlerRegistry) (work : String) : View → Prop where
  | unknown : Phase handlers work ⟨none, false, 0, 0, 0, 0, [], []⟩
  | waiting (task : ActiveTask) (hresult : task.result = none) :
    Phase handlers work ⟨some task, false, 0, 0, 1, 0, [], []⟩
  | running (task : ActiveTask) (hresult : task.result = none)
    (hhandler : (handlers.get task.offer.handler_name).isSome = true) :
    Phase handlers work ⟨some task, false, 1, 0, 1, 1, [], []⟩
  | aborted (task : ActiveTask) (hresult : task.result = none)
    (hhandler : (handlers.get task.offer.handler_name).isSome = true) :
    Phase handlers work ⟨some task, false, 0, 1, 1, 1, [], []⟩
  | returned (task : ActiveTask) (result : WorkResult) (reported : List WorkResult)
    (hresult : task.result = some result) (hwork : result.work_id = work)
    (hreported : ∀ other ∈ reported, other = result) :
    Phase handlers work ⟨some task, false, 0, 0, 1, 1, [result], reported⟩
  | completed (result : WorkResult) (reported : List WorkResult) (hwork : result.work_id = work)
    (hreported : ∀ other ∈ reported, other = result) :
    Phase handlers work ⟨none, true, 0, 0, 1, 1, [result], reported⟩

namespace Phase

variable {handlers : GhostHandlerRegistry} {work : String} {seen : View}

section

variable (hphase : Phase handlers work seen)

include hphase

theorem of_open (htask : seen.task = none) (hopen : seen.completed = false) :
    seen = ⟨none, false, 0, 0, 0, 0, [], []⟩ := by
  cases hphase with
  | unknown => rfl
  | waiting => cases htask
  | running => cases htask
  | aborted => cases htask
  | returned => cases htask
  | completed => cases hopen

/-- The handler of a task without a result has not been called, or it is running, or it has ended its thread. -/
theorem of_no_result {task : ActiveTask} (htask : seen.task = some task)
    (hresult : task.result = none) :
    seen = ⟨some task, false, 0, 0, 1, 0, [], []⟩ ∨
      (handlers.get task.offer.handler_name).isSome = true ∧
        (seen = ⟨some task, false, 1, 0, 1, 1, [], []⟩ ∨ seen = ⟨some task, false, 0, 1, 1, 1, [], []⟩) := by
  cases hphase with
  | unknown => cases htask
  | waiting other hother =>
    cases htask
    exact .inl rfl
  | running other hother hhandler =>
    cases htask
    exact .inr ⟨hhandler, .inl rfl⟩
  | aborted other hother hhandler =>
    cases htask
    exact .inr ⟨hhandler, .inr rfl⟩
  | returned other result reported hother =>
    cases htask
    cases hresult.symm.trans hother
  | completed => cases htask

theorem of_result {task : ActiveTask} {result : WorkResult}
    (htask : seen.task = some task) (hresult : task.result = some result) :
    result.work_id = work ∧ ∃ reported, (∀ other ∈ reported, other = result) ∧
      seen = ⟨some task, false, 0, 0, 1, 1, [result], reported⟩ := by
  cases hphase with
  | unknown => cases htask
  | waiting other hother =>
    cases htask
    cases hother.symm.trans hresult
  | running other hother hhandler =>
    cases htask
    cases hother.symm.trans hresult
  | aborted other hother hhandler =>
    cases htask
    cases hother.symm.trans hresult
  | returned other found reported hother hwork hreported =>
    cases htask
    cases hother.symm.trans hresult
    exact ⟨hwork, reported, hreported, rfl⟩
  | completed => cases htask

theorem of_running (hrunning : 0 < seen.running) :
    ∃ task, task.result = none ∧ (handlers.get task.offer.handler_name).isSome = true ∧
      seen = ⟨some task, false, 1, 0, 1, 1, [], []⟩ := by
  cases hphase with
  | unknown => cases hrunning
  | waiting => cases hrunning
  | running task hresult hhandler => exact ⟨task, hresult, hhandler, rfl⟩
  | aborted => cases hrunning
  | returned => cases hrunning
  | completed => cases hrunning

theorem of_aborted (haborted : 0 < seen.aborted) :
    ∃ task, task.result = none ∧ (handlers.get task.offer.handler_name).isSome = true ∧
      seen = ⟨some task, false, 0, 1, 1, 1, [], []⟩ := by
  cases hphase with
  | unknown => cases haborted
  | waiting => cases haborted
  | running => cases haborted
  | aborted task hresult hhandler => exact ⟨task, hresult, hhandler, rfl⟩
  | returned => cases haborted
  | completed => cases haborted

end

end Phase

/-- Every work is in one of its phases. -/
def Ordered (self : Threads) : Prop :=
  ∀ work, Phase self.runner.handlers work (self.view work)

theorem ordered_start (profile : SpecialistNodeProfile) (handlers : GhostHandlerRegistry) :
    (start profile handlers).Ordered := fun _ => .unknown

section

variable {before : Threads} {index : Nat} {offer : SpecialistWorkOffer}
  (hindex : before.executing[index]? = some offer)
include hindex

/-- A call that ends takes one running handler of its work away. -/
theorem count_eraseIdx (work : String) :
    ((before.executing.eraseIdx index).map SpecialistWorkOffer.work_id).count work =
      (before.view work).running - if offer.work_id = work then 1 else 0 := by
  obtain ⟨hlt, hget⟩ := List.getElem?_eq_some_iff.mp hindex
  have hperm := (List.getElem_cons_eraseIdx_perm hlt).map SpecialistWorkOffer.work_id
  have hcount := hperm.count_eq work
  rw [hget, List.map_cons, List.count_cons] at hcount
  simp only [beq_iff_eq] at hcount
  simp only [view]
  omega

theorem running_pos : 0 < (before.view offer.work_id).running := by
  simp only [view, List.count_pos_iff]
  exact List.mem_map_of_mem (List.mem_of_getElem? hindex)

end

namespace Ordered

variable {before : Threads} (hordered : before.Ordered)
include hordered

variable {offer : SpecialistWorkOffer}

theorem accepts {outcome : DistributedWorkServiceOutcome} {hfresh : before.runner.active.get? offer.work_id = none}
    {hroom : before.runner.active.items.length < before.runner.profile.max_concurrent_tasks}
    (hopen : offer.work_id ∉ before.runner.completed) :
    Ordered { before with
      runner := before.runner.add_task offer outcome hfresh hroom
      accepted := before.accepted ++ [offer.work_id] } := by
  intro work
  by_cases hwork : offer.work_id = work
  · subst hwork
    have hseen := (hordered offer.work_id).of_open hfresh (by simpa [view] using hopen)
    have hafter : view { before with
        runner := before.runner.add_task offer outcome hfresh hroom
        accepted := before.accepted ++ [offer.work_id] } offer.work_id =
        { before.view offer.work_id with
          task := some ⟨offer, outcome, none⟩
          accepted := (before.view offer.work_id).accepted + 1 } := by
      simp [view, SpecialistNodeRunner.add_task]
    rw [hafter, hseen]
    exact .waiting _ rfl
  · have hafter : view { before with
        runner := before.runner.add_task offer outcome hfresh hroom
        accepted := before.accepted ++ [offer.work_id] } work = before.view work := by
      simp [view, SpecialistNodeRunner.add_task, hwork, Ne.symm hwork]
    rw [hafter]
    exact hordered work

theorem calls {work : String} {task : ActiveTask} (htask : before.runner.active.get? work = some task)
    (hresult : task.result = none)
    (hhandler : (before.runner.handlers.get task.offer.handler_name).isSome = true)
    (halone : ¬before.Entered work) :
    Ordered { before with
      executing := before.executing ++ [task.offer]
      executed := before.executed ++ [task.offer.work_id] } := by
  have hname := SpecialistNodeRunner.offer_of_task htask
  intro other
  by_cases hother : work = other
  · subst hother
    have hafter : view { before with
        executing := before.executing ++ [task.offer]
        executed := before.executed ++ [task.offer.work_id] } work =
        { before.view work with
          running := (before.view work).running + 1
          executed := (before.view work).executed + 1 } := by
      simp [view, hname]
    obtain hseen | ⟨-, hseen | hseen⟩ := (hordered work).of_no_result htask hresult
    · rw [hafter, hseen]
      exact .running task hresult hhandler
    · have hrunning : 0 < (before.view work).running := by rw [hseen]; exact Nat.one_pos
      exact absurd (.inl (List.count_pos_iff.mp hrunning)) halone
    · have haborted : 0 < (before.view work).aborted := by rw [hseen]; exact Nat.one_pos
      exact absurd (.inr (List.count_pos_iff.mp haborted)) halone
  · have hafter : view { before with
        executing := before.executing ++ [task.offer]
        executed := before.executed ++ [task.offer.work_id] } other = before.view other := by
      simp [view, hname, hother]
    rw [hafter]
    exact hordered other

/-- A report of a stored result closes the task or leaves it. -/
theorem reports {work : String} {task : ActiveTask} {result : WorkResult}
    (reply : Except Error DistributedWorkServiceOutcome) (htask : before.runner.active.get? work = some task)
    (hresult : task.result = some result) :
    Ordered { before with
      runner := before.runner.report work reply
      reported := before.reported ++ [result] } := by
  obtain ⟨hname, reported, hreported, hseen⟩ := (hordered work).of_result htask hresult
  have hagain : ∀ other ∈ reported ++ [result], other = result := by
    intro other hother
    obtain hother | hother := List.mem_append.mp hother
    · exact hreported other hother
    · exact List.mem_singleton.mp hother
  intro other
  rw [SpecialistNodeRunner.handlers_report]
  by_cases hother : work = other
  · subst hother
    cases reply with
    | error error =>
      have hafter : view { before with
          runner := before.runner.report work (.error error)
          reported := before.reported ++ [result] } work =
          { before.view work with reported := (before.view work).reported ++ [result] } := by
        simp [view, SpecialistNodeRunner.report, hname]
      rw [hafter, hseen]
      exact .returned task result _ hresult hname hagain
    | ok outcome =>
      have hafter : view { before with
          runner := before.runner.report work (.ok outcome)
          reported := before.reported ++ [result] } work =
          { before.view work with
            task := none
            completed := true
            reported := (before.view work).reported ++ [result] } := by
        simp [view, SpecialistNodeRunner.report, SpecialistNodeRunner.close_task, hname]
      rw [hafter, hseen]
      exact .completed result _ hname hagain
  · have hafter : view { before with
        runner := before.runner.report work reply
        reported := before.reported ++ [result] } other = before.view other := by
      cases reply with
      | error error => simp [view, SpecialistNodeRunner.report, hname, hother]
      | ok outcome =>
        simp [view, SpecialistNodeRunner.report, SpecialistNodeRunner.close_task, hname, hother, Ne.symm hother]
    rw [hafter]
    exact hordered other

/-- The result that a handler comes to is stored, and reported at once. -/
theorem returns {index : Nat} {task : ActiveTask} {result : WorkResult}
    (reply : Except Error DistributedWorkServiceOutcome) (hindex : before.executing[index]? = some offer)
    (htask : before.runner.active.get? offer.work_id = some task) (hwork : result.work_id = offer.work_id) :
    Ordered { before with
      runner := (before.runner.set_result offer.work_id task htask result).report offer.work_id reply
      executing := before.executing.eraseIdx index
      produced := before.produced ++ [result] } := by
  intro work
  rw [SpecialistNodeRunner.handlers_report]
  have hcount := count_eraseIdx hindex work
  by_cases hother : offer.work_id = work
  · subst hother
    obtain ⟨found, -, -, hseen⟩ := (hordered offer.work_id).of_running (running_pos hindex)
    rw [if_pos rfl] at hcount
    cases reply with
    | error error =>
      have hafter : view { before with
          runner := (before.runner.set_result offer.work_id task htask result).report offer.work_id (.error error)
          executing := before.executing.eraseIdx index
          produced := before.produced ++ [result] } offer.work_id =
          { before.view offer.work_id with
            task := some { task with result := some result }
            running := (before.view offer.work_id).running - 1
            produced := (before.view offer.work_id).produced ++ [result] } := by
        simp [view, hcount, SpecialistNodeRunner.report, SpecialistNodeRunner.set_result, hwork]
      rw [hafter, hseen]
      exact .returned _ result [] rfl hwork (by simp)
    | ok outcome =>
      have hafter : view { before with
          runner := (before.runner.set_result offer.work_id task htask result).report offer.work_id (.ok outcome)
          executing := before.executing.eraseIdx index
          produced := before.produced ++ [result] } offer.work_id =
          { before.view offer.work_id with
            task := none
            completed := true
            running := (before.view offer.work_id).running - 1
            produced := (before.view offer.work_id).produced ++ [result] } := by
        simp [view, hcount, SpecialistNodeRunner.report, SpecialistNodeRunner.close_task,
          SpecialistNodeRunner.set_result, hwork]
      rw [hafter, hseen]
      exact .completed result [] hwork (by simp)
  · rw [if_neg hother, Nat.sub_zero] at hcount
    have hafter : view { before with
        runner := (before.runner.set_result offer.work_id task htask result).report offer.work_id reply
        executing := before.executing.eraseIdx index
        produced := before.produced ++ [result] } work = before.view work := by
      cases reply with
      | error error =>
        simp [view, hcount, SpecialistNodeRunner.report, SpecialistNodeRunner.set_result, hwork, hother,
          Ne.symm hother]
      | ok outcome =>
        simp [view, hcount, SpecialistNodeRunner.report, SpecialistNodeRunner.close_task,
          SpecialistNodeRunner.set_result, hwork, hother, Ne.symm hother]
    rw [hafter]
    exact hordered work

theorem aborts {index : Nat} (hindex : before.executing[index]? = some offer) :
    Ordered { before with
      executing := before.executing.eraseIdx index
      aborted := before.aborted ++ [offer.work_id] } := by
  intro work
  have hcount := count_eraseIdx hindex work
  by_cases hother : offer.work_id = work
  · subst hother
    obtain ⟨task, hresult, hhandler, hseen⟩ := (hordered offer.work_id).of_running (running_pos hindex)
    rw [if_pos rfl] at hcount
    have hafter : view { before with
        executing := before.executing.eraseIdx index
        aborted := before.aborted ++ [offer.work_id] } offer.work_id =
        { before.view offer.work_id with
          running := (before.view offer.work_id).running - 1
          aborted := (before.view offer.work_id).aborted + 1 } := by
      simp [view, hcount]
    rw [hafter, hseen]
    exact .aborted task hresult hhandler
  · rw [if_neg hother, Nat.sub_zero] at hcount
    have hafter : view { before with
        executing := before.executing.eraseIdx index
        aborted := before.aborted ++ [offer.work_id] } work = before.view work := by
      simp [view, hcount, hother]
    rw [hafter]
    exact hordered work

/-- A step that starts no second handler keeps the works in their phases. -/
theorem step {after : Threads} (hmove : Move before after) : after.Ordered := by
  cases hmove with
  | stays => exact hordered
  | accepts offer outcome hfresh hroom hopen => exact hordered.accepts hopen
  | calls work task htask hresult hhandler halone => exact hordered.calls htask hresult hhandler halone
  | reports work task result reply htask hresult => exact hordered.reports reply htask hresult
  | returns index offer task result reply hindex htask hwork => exact hordered.returns reply hindex htask hwork
  | disappears index offer result hindex htask =>
    obtain ⟨task, -, -, hseen⟩ := (hordered offer.work_id).of_running (running_pos hindex)
    have hfound : (before.view offer.work_id).task = none := htask
    rw [hseen] at hfound
    cases hfound
  | aborts index offer hindex => exact hordered.aborts hindex

end Ordered

/-- What the phases say about counts and reports. -/
theorem Phase.once {handlers : GhostHandlerRegistry} {work : String} {seen : View}
    (hphase : Phase handlers work seen) :
    seen.accepted ≤ 1 ∧ seen.executed ≤ seen.accepted ∧
      ∀ result ∈ seen.reported, result ∈ seen.produced ∧ ∀ other ∈ seen.produced, other = result := by
  have hreports : ∀ (result : WorkResult) (reported : List WorkResult), (∀ other ∈ reported, other = result) →
      ∀ found ∈ reported, found ∈ [result] ∧ ∀ other ∈ [result], other = found := by
    intro result reported hreported found hfound
    rw [hreported found hfound]
    exact ⟨List.mem_singleton_self _, fun other hother => List.mem_singleton.mp hother⟩
  cases hphase with
  | unknown => simp
  | waiting task hresult => simp
  | running task hresult hhandler => simp
  | aborted task hresult hhandler => simp
  | returned task result reported hresult hwork hreported =>
    exact ⟨le_refl 1, le_refl 1, hreports result reported hreported⟩
  | completed result reported hwork hreported =>
    exact ⟨le_refl 1, le_refl 1, hreports result reported hreported⟩

theorem Ordered.once_only (hordered : self.Ordered) : self.OnceOnly where
  accepted_once work := (hordered work).once.1
  executed_once work := (hordered work).once.2.1
  reported_produced := by
    intro result hreported
    have hsame := (hordered result.work_id).once.2.2 result (List.mem_filter.mpr ⟨hreported, by simp⟩)
    refine ⟨List.mem_of_mem_filter hsame.1, ?_⟩
    intro other hother hwork
    exact hsame.2 other (List.mem_filter.mpr ⟨hother, by simpa using hwork⟩)

/-- A call that finds the handler of its work entered calls it again. -/
theorem Ordered.called_twice (hordered : self.Ordered) {work_id : String}
    (hentered : self.Entered (normalized work_id)) (reply : Except Error DistributedWorkServiceOutcome) :
    ¬(self.start_run work_id reply).OnceOnly := by
  have hseen : ∃ task, self.runner.active.get? (normalized work_id) = some task ∧ task.result = none ∧
      (self.runner.handlers.get task.offer.handler_name).isSome = true ∧
      self.accepted.count (normalized work_id) = 1 ∧ self.executed.count (normalized work_id) = 1 := by
    have hphase := hordered (normalized work_id)
    obtain hrunning | haborted := hentered
    · obtain ⟨task, hresult, hhandler, hview⟩ := hphase.of_running (List.count_pos_iff.mpr hrunning)
      exact ⟨task, congrArg View.task hview, hresult, hhandler, congrArg View.accepted hview,
        congrArg View.executed hview⟩
    · obtain ⟨task, hresult, hhandler, hview⟩ := hphase.of_aborted (List.count_pos_iff.mpr haborted)
      exact ⟨task, congrArg View.task hview, hresult, hhandler, congrArg View.accepted hview,
        congrArg View.executed hview⟩
  obtain ⟨task, htask, hresult, hhandler, haccepted, hexecuted⟩ := hseen
  intro honce
  have hcount := honce.executed_once (normalized work_id)
  obtain ⟨spec, hspec⟩ := Option.isSome_iff_exists.mp hhandler
  have hcalled : self.runner.start_run work_id reply = (.ok none, self.runner) := by
    simp [SpecialistNodeRunner.start_run, htask, hresult, hspec]
  simp only [start_run, hcalled, htask,
    offer_of_task htask, List.count_append, List.count_singleton_self, haccepted,
    hexecuted] at hcount
  omega

theorem OnceAlways.first {steps : List ThreadStep} (honce : OnceAlways self steps) :
    self.OnceOnly := by
  cases steps with
  | nil => exact honce
  | cons next rest => exact honce.1

theorem once_always_iff (hordered : self.Ordered) (steps : List ThreadStep) :
    OnceAlways self steps ↔ AloneAlways self steps := by
  induction steps generalizing self with
  | nil => exact ⟨fun _ => trivial, fun _ => hordered.once_only⟩
  | cons next rest ih =>
    constructor
    · rintro ⟨-, hrest⟩
      have halone : self.StartsAlone next := by
        cases next with
        | start_run work_id reply =>
          intro hentered
          exact hordered.called_twice hentered reply hrest.first
        | receive_offer offer now reply => trivial
        | finish_run index output reply => trivial
        | abort_run index => trivial
        | retry_completion work_id reply => trivial
      exact ⟨halone, (ih (hordered.step (step_move halone))).mp hrest⟩
    · rintro ⟨halone, hrest⟩
      exact ⟨hordered.once_only, (ih (hordered.step (step_move halone))).mpr hrest⟩

/-- Offers are executed once, and reported with what the execution came to, in exactly those interleavings in which
no call of `run_accepted` reaches its check while the handler of its work runs in another thread, or after the
handler has ended its thread. -/
theorem handler_once_iff (profile : SpecialistNodeProfile) (handlers : GhostHandlerRegistry)
    (steps : List ThreadStep) :
    OnceAlways (start profile handlers) steps ↔ AloneAlways (start profile handlers) steps :=
  once_always_iff (ordered_start profile handlers) steps

/-- Two threads run the accepted `w1`, the second before the handler of the first has returned. -/
def run_by_two_threads : List ThreadStep :=
  [.receive_offer plain_offer 10 (.ok plain_acceptance), .start_run "w1" (.ok plain_acceptance),
    .start_run "w1" (.ok plain_acceptance)]

theorem OnceAlways.last {steps : List ThreadStep} (honce : OnceAlways self steps) :
    (steps.foldl step self).OnceOnly := by
  induction steps generalizing self with
  | nil => exact honce
  | cons next rest ih => exact ih honce.2

end Threads

end

/-- The handler is called twice for one accepted offer. -/
theorem handler_called_by_both_threads :
    letI := StrLower.ascii
    let threads := Threads.start plain_profile plain_handlers
    let reached := Threads.run_by_two_threads.foldl Threads.step threads
    ¬Threads.OnceAlways threads Threads.run_by_two_threads ∧
      reached.accepted = ["w1"] ∧ reached.executed = ["w1", "w1"] := by
  let := StrLower.ascii
  have haccepted : letI := StrLower.ascii
      (Threads.run_by_two_threads.foldl Threads.step (Threads.start plain_profile plain_handlers)).accepted =
        ["w1"] := by decide
  have hexecuted : letI := StrLower.ascii
      (Threads.run_by_two_threads.foldl Threads.step (Threads.start plain_profile plain_handlers)).executed =
        ["w1", "w1"] := by decide
  refine ⟨?_, haccepted, hexecuted⟩
  intro honce
  have hcount := honce.last.executed_once "w1"
  rw [haccepted, hexecuted] at hcount
  exact absurd hcount (by decide)

end velvet.specialist_node_runner
