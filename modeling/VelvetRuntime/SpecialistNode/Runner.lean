import VelvetRuntime.DistributedWork.Service

open python python.str python.num velvet.distributed_work_coordinator velvet.distributed_work_service

namespace velvet.specialist_node_runner

open Program

/-- What the local supervisor reports about the node. -/
structure NodeCondition where
  current_load : ℚ
  health : ℚ
  availability : NodeAvailability
  current_load_bounds : 0 ≤ current_load ∧ current_load ≤ 1
  health_bounds : 0 ≤ health ∧ health ≤ 1

section

variable [StrLower]

/-- The static contract of one Linux organ. The proofs are the checks of `__post_init__`. -/
structure SpecialistNodeProfile where
  node_id : String
  body_id : String
  organ : String
  capabilities : List String
  accepted_work_classes : List String
  tier : NodeTier
  max_concurrent_tasks : Nat
  refused_work_classes : List String
  overflow_capable : Bool
  overflow_capabilities : List String
  temporary_absorption_capabilities : List String
  body_verified : Bool
  continuity_verified : Bool
  node_id_normal : IsNormalized node_id
  body_id_normal : IsNormalized body_id
  organ_normal : IsNormalized organ
  capabilities_normal : IsNormalizedTuple capabilities
  capabilities_nonempty : capabilities ≠ []
  accepted_normal : IsNormalizedTuple accepted_work_classes
  accepted_nonempty : accepted_work_classes ≠ []
  refused_normal : IsNormalizedTuple refused_work_classes
  overflow_normal : IsNormalizedTuple overflow_capabilities
  temporary_normal : IsNormalizedTuple temporary_absorption_capabilities
  linux_tier : tier = .SPECIALIST_LINUX ∨ tier = .HEAVY_LINUX
  max_concurrent_tasks_positive : 1 ≤ max_concurrent_tasks

/-- The contract of a reviewed handler. The handler itself is not part of the model: what it returns is
given to `finish_run`. -/
structure GhostHandlerSpec where
  name : String
  work_classes : List String
  capabilities : List String
  allowed_parameters : List String
  name_normal : IsNormalized name
  work_classes_normal : IsNormalizedTuple work_classes
  work_classes_nonempty : work_classes ≠ []
  capabilities_normal : IsNormalizedTuple capabilities
  capabilities_nonempty : capabilities ≠ []
  allowed_parameters_normal : IsNormalizedTuple allowed_parameters

structure GhostHandlerRegistry where
  handlers : Dict String GhostHandlerSpec

def GhostHandlerRegistry.get (self : GhostHandlerRegistry) (name : String) : Option GhostHandlerSpec :=
  self.handlers.get? (normalized name)

/-- One workload lease as it reaches its organ; of the parameters only the names are read here. -/
structure SpecialistWorkOffer where
  work_id : String
  work_class : String
  node_id : String
  organ : String
  lease_id : String
  lease_expires_at : ℚ
  required_capabilities : List String
  handler_name : String
  parameters : List String
  important_result : Bool
  consequential : Bool
  work_id_normal : IsNormalized work_id
  work_class_normal : IsNormalized work_class
  node_id_normal : IsNormalized node_id
  organ_normal : IsNormalized organ
  handler_name_normal : IsNormalized handler_name
  lease_id_text : ¬ Blank lease_id
  lease_expires_at_nonneg : 0 ≤ lease_expires_at
  required_normal : IsNormalizedTuple required_capabilities
  required_nonempty : required_capabilities ≠ []

structure RunnerOutcome where
  state : String
  work_id : String
  node_id : String
  handler_name : String
  errors : List String
  accepted : Bool
  completed : Bool
  refused : Bool
  pending_completion : Bool
  service_state : Option String
  deriving DecidableEq

structure ActiveTask where
  offer : SpecialistWorkOffer
  accepted_outcome : DistributedWorkServiceOutcome
  result : Option WorkResult

/-- The state of one specialist: its accepted tasks under their work ids, never more than the profile
allows. -/
structure SpecialistNodeRunner where
  profile : SpecialistNodeProfile
  handlers : GhostHandlerRegistry
  active : Dict String ActiveTask
  completed : List String
  draining : Bool
  quarantine_reason : Option String
  active_keyed : ∀ entry ∈ active.items, entry.2.offer.work_id = entry.1
  active_bounded : active.items.length ≤ profile.max_concurrent_tasks

namespace SpecialistNodeRunner

def new (profile : SpecialistNodeProfile) (handlers : GhostHandlerRegistry) : SpecialistNodeRunner where
  profile
  handlers
  active := .empty
  completed := []
  draining := false
  quarantine_reason := none
  active_keyed := by simp [Dict.empty]
  active_bounded := by simp [Dict.empty]

/-- `tuple(sorted(self._active))`. -/
def active_work_ids (self : SpecialistNodeRunner) : List String :=
  self.active.keys.insertionSort (· ≤ ·)

def availability (self : SpecialistNodeRunner) (condition : NodeCondition) (current_tasks : Nat) :
    NodeAvailability :=
  if self.quarantine_reason.isSome then .QUARANTINED
  else if self.draining then .DRAINING
  else if self.profile.max_concurrent_tasks ≤ current_tasks then .SATURATED
  else if 0 < current_tasks then .BUSY
  else if condition.health < 1 / 2 ∧ condition.availability = .AVAILABLE then .DEGRADED
  else condition.availability

/-- The load of an advertisement: what the supervisor reports, or the share of the task limit in use. -/
def advertised_load (self : SpecialistNodeRunner) (condition : NodeCondition) : ℚ :=
  round 4 (max condition.current_load (min 1 (self.active.items.length / self.profile.max_concurrent_tasks)))

theorem advertised_load_bounds (self : SpecialistNodeRunner) (condition : NodeCondition) :
    0 ≤ self.advertised_load condition ∧ self.advertised_load condition ≤ 1 := by
  apply round_bounds
  · exact le_trans condition.current_load_bounds.1 (le_max_left _ _)
  · exact max_le condition.current_load_bounds.2 (min_le_left _ _)

/-- The advertisement of the node at a time that is not negative. Its proofs say that it passes the checks
of `NodeAdvertisement`. -/
def advertisement (self : SpecialistNodeRunner) (condition : NodeCondition) (now : ℚ) (hnow : 0 ≤ now) :
    NodeAdvertisement where
  node_id := self.profile.node_id
  body_id := self.profile.body_id
  organ := self.profile.organ
  tier := self.profile.tier
  capabilities := self.profile.capabilities
  current_load := self.advertised_load condition
  health := condition.health
  availability := self.availability condition self.active.items.length
  last_heartbeat := now
  accepted_work_classes := self.profile.accepted_work_classes
  refused_work_classes := self.profile.refused_work_classes
  max_concurrent_tasks := self.profile.max_concurrent_tasks
  current_tasks := self.active.items.length
  overflow_capable := self.profile.overflow_capable
  overflow_capabilities := self.profile.overflow_capabilities
  temporary_absorption_capabilities := self.profile.temporary_absorption_capabilities
  body_verified := self.profile.body_verified
  continuity_verified := self.profile.continuity_verified
  node_id_text := self.profile.node_id_normal.not_blank
  body_id_text := self.profile.body_id_normal.not_blank
  organ_text := self.profile.organ_normal.not_blank
  current_load_bounds := self.advertised_load_bounds condition
  health_bounds := condition.health_bounds
  last_heartbeat_nonneg := hnow
  max_concurrent_tasks_positive := self.profile.max_concurrent_tasks_positive
  current_tasks_le := self.active_bounded
  values_text := by
    intro value hvalue
    simp only [List.mem_append] at hvalue
    rcases hvalue with (((hvalue | hvalue) | hvalue) | hvalue) | hvalue
    · exact (self.profile.capabilities_normal.1 value hvalue).not_blank
    · exact (self.profile.accepted_normal.1 value hvalue).not_blank
    · exact (self.profile.refused_normal.1 value hvalue).not_blank
    · exact (self.profile.overflow_normal.1 value hvalue).not_blank
    · exact (self.profile.temporary_normal.1 value hvalue).not_blank

/-- `sorted(set(wanted) - set(offered))`. -/
def missing (wanted offered : List String) : List String :=
  sorted_set (wanted.filter (· ∉ offered))

/-- What speaks against a handler for an offer. -/
def handler_refusal (spec : GhostHandlerSpec) (offer : SpecialistWorkOffer) : Option String :=
  if offer.work_class ∉ spec.work_classes then some "handler is not bound to the offered work class"
  else if missing offer.required_capabilities spec.capabilities ≠ [] then
    some ("handler lacks required capabilities: " ++
      ", ".intercalate (missing offer.required_capabilities spec.capabilities))
  else if missing offer.parameters spec.allowed_parameters ≠ [] then
    some ("handler parameters are unsupported: " ++
      ", ".intercalate (missing offer.parameters spec.allowed_parameters))
  else none

def refusal_reason (self : SpecialistNodeRunner) (offer : SpecialistWorkOffer) (now : ℚ) : Option String :=
  if offer.lease_expires_at ≤ now then some "workload lease expired before node acceptance"
  else
    match self.quarantine_reason with
    | some reason => some ("node is quarantined: " ++ reason)
    | none =>
      if self.draining then some "node is draining and refuses new work"
      else if self.profile.max_concurrent_tasks ≤ self.active.items.length then some "node task limit is reached"
      else if offer.consequential then some "Ghost-safe runner cannot accept consequential work"
      else if offer.work_class ∉ self.profile.accepted_work_classes then
        some "work class is outside the node contract"
      else if offer.work_class ∈ self.profile.refused_work_classes then
        some "work class is explicitly refused by the node"
      else if missing offer.required_capabilities self.profile.capabilities ≠ [] then
        some ("node lacks required capabilities: " ++
          ", ".intercalate (missing offer.required_capabilities self.profile.capabilities))
      else
        match self.handlers.get offer.handler_name with
        | none => some "requested Ghost handler is not registered"
        | some spec => handler_refusal spec offer

variable {self : SpecialistNodeRunner}

/-- An offer is only accepted by a runner that is not quarantined and has room. -/
theorem room_of_no_refusal {offer : SpecialistWorkOffer} {now : ℚ}
    (hreason : self.refusal_reason offer now = none) :
    self.quarantine_reason = none ∧ self.active.items.length < self.profile.max_concurrent_tasks := by
  unfold refusal_reason at hreason
  split at hreason
  · cases hreason
  · split at hreason
    · cases hreason
    · rename_i hquarantine
      refine ⟨hquarantine, ?_⟩
      by_contra hfull
      rw [not_lt] at hfull
      simp only [hfull, if_true] at hreason
      split at hreason
      · cases hreason
      · cases hreason

/-- `self._active[offer.work_id] = _ActiveTask(offer, accepted)`. -/
def add_task (self : SpecialistNodeRunner) (offer : SpecialistWorkOffer)
    (accepted_outcome : DistributedWorkServiceOutcome) (hfresh : self.active.get? offer.work_id = none)
    (hroom : self.active.items.length < self.profile.max_concurrent_tasks) : SpecialistNodeRunner :=
  { self with
    active := self.active.set offer.work_id ⟨offer, accepted_outcome, none⟩
    active_keyed := by
      intro entry hentry
      rcases (Dict.mem_items_set_iff _ _ _ _).mp hentry with rfl | ⟨_, hold⟩
      · rfl
      · exact self.active_keyed entry hold
    active_bounded := by
      rw [Dict.items_set_of_get?_none _ _ hfresh, List.length_append]
      exact hroom }

/-- `current.result = result`. -/
def set_result (self : SpecialistNodeRunner) (work : String) (task : ActiveTask)
    (htask : self.active.get? work = some task) (result : WorkResult) : SpecialistNodeRunner :=
  { self with
    active := self.active.set work { task with result := some result }
    active_keyed := by
      intro entry hentry
      rcases (Dict.mem_items_set_iff _ _ _ _).mp hentry with rfl | ⟨_, hold⟩
      · exact self.active_keyed (work, task) ((Dict.get?_eq_some_iff _ _ _).mp htask)
      · exact self.active_keyed entry hold
    active_bounded := by
      rw [Dict.length_set_of_get?_some _ _ htask]
      exact self.active_bounded }

/-- The task leaves the active table and is remembered as completed. -/
def close_task (self : SpecialistNodeRunner) (work : String) : SpecialistNodeRunner :=
  { self with
    active := self.active.pop work
    completed := self.completed.insert work
    active_keyed := fun entry hentry => self.active_keyed entry (List.mem_of_mem_filter hentry)
    active_bounded := (List.length_filter_le _ _).trans self.active_bounded }

/-- An outcome about an offer with every flag down. -/
def outcome_for (self : SpecialistNodeRunner) (offer : SpecialistWorkOffer) (state : String) : RunnerOutcome where
  state
  work_id := offer.work_id
  node_id := self.profile.node_id
  handler_name := offer.handler_name
  errors := []
  accepted := false
  completed := false
  refused := false
  pending_completion := false
  service_state := none

/-- The answer to an offer that nothing speaks against; `reply` is how the service answers the call of
`accept`. -/
def accept_offer (self : SpecialistNodeRunner) (offer : SpecialistWorkOffer)
    (hfresh : self.active.get? offer.work_id = none)
    (hroom : self.active.items.length < self.profile.max_concurrent_tasks)
    (reply : Except Error DistributedWorkServiceOutcome) : Except Error RunnerOutcome × SpecialistNodeRunner :=
  match reply with
  | .error error => (.error error, self)
  | .ok accepted =>
    if !accepted.accepted then
      (.ok { self.outcome_for offer "service-did-not-accept" with
        errors := ["Runtime service did not confirm node acceptance"]
        service_state := some accepted.state }, self)
    else
      (.ok { self.outcome_for offer "accepted" with
        accepted := true
        service_state := some accepted.state }, self.add_task offer accepted hfresh hroom)

/-- The answer to an offer that is refused; `reply` is how the service answers the call of `refuse`. -/
def refuse_offer (self : SpecialistNodeRunner) (offer : SpecialistWorkOffer) (reason : String)
    (reply : Except Error DistributedWorkServiceOutcome) : Except Error RunnerOutcome :=
  reply.map (fun outcome => { self.outcome_for offer "refused" with
    errors := [reason]
    refused := true
    service_state := some outcome.state })

def receive_offer (self : SpecialistNodeRunner) (offer : SpecialistWorkOffer) (now : ℚ)
    (reply : Except Error DistributedWorkServiceOutcome) : Except Error RunnerOutcome × SpecialistNodeRunner :=
  if now < 0 then (.error ⟨.ValueError, "now must be a non-negative number"⟩, self)
  else if offer.node_id ≠ self.profile.node_id ∨ offer.organ ≠ self.profile.organ then
    (.ok { self.outcome_for offer "not-addressed-to-this-node" with
      errors := ["offer node or organ does not match this runner"] }, self)
  else if offer.work_id ∈ self.completed then
    (.ok { self.outcome_for offer "already-completed" with completed := true }, self)
  else
    match hactive : self.active.get? offer.work_id with
    | some _ => (.ok { self.outcome_for offer "already-accepted" with accepted := true }, self)
    | none =>
      match hreason : self.refusal_reason offer now with
      | some reason => (self.refuse_offer offer reason reply, self)
      | none => self.accept_offer offer hactive (room_of_no_refusal hreason).2 reply

/-- A report of a finished task; `reply` is how the service answers the call of `complete`. -/
def retry_completion_locked (self : SpecialistNodeRunner) (task : ActiveTask)
    (reply : Except Error DistributedWorkServiceOutcome) : RunnerOutcome × SpecialistNodeRunner :=
  match reply with
  | .error error =>
    ({ self.outcome_for task.offer "pending-completion" with
      errors := [error.message]
      accepted := true
      pending_completion := true }, self)
  | .ok completed =>
    ({ self.outcome_for task.offer "completed" with
      accepted := true
      completed := true
      service_state := some completed.state }, self.close_task task.offer.work_id)

/-- The first half of `run_accepted`, up to the call of the handler. It answers at once when the task has
a result already. -/
def start_run (self : SpecialistNodeRunner) (work_id : String)
    (reply : Except Error DistributedWorkServiceOutcome) :
    Except Error (Option RunnerOutcome) × SpecialistNodeRunner :=
  match self.active.get? (normalized work_id) with
  | none => (.error ⟨.ValueError, "work is not accepted by this runner"⟩, self)
  | some task =>
    if task.result.isSome then
      let (outcome, self) := self.retry_completion_locked task reply
      (.ok (some outcome), self)
    else
      match self.handlers.get task.offer.handler_name with
      | none => (.error ⟨.KeyError, "Ghost handler is not registered: " ++ task.offer.handler_name⟩, self)
      | some _ => (.ok none, self)

/-- The second half of `run_accepted`, with the result that the handler came to. -/
def finish_run (self : SpecialistNodeRunner) (work_id : String) (result : WorkResult)
    (reply : Except Error DistributedWorkServiceOutcome) : Except Error RunnerOutcome × SpecialistNodeRunner :=
  match htask : self.active.get? (normalized work_id) with
  | none => (.error ⟨.RuntimeError, "accepted work disappeared before completion"⟩, self)
  | some task =>
    let (outcome, self) := (self.set_result (normalized work_id) task htask result).retry_completion_locked
      { task with result := some result } reply
    (.ok outcome, self)

def retry_completion (self : SpecialistNodeRunner) (work_id : String)
    (reply : Except Error DistributedWorkServiceOutcome) : Except Error RunnerOutcome × SpecialistNodeRunner :=
  match self.active.get? (normalized work_id) with
  | none => (.error ⟨.ValueError, "work has no pending runner state"⟩, self)
  | some task =>
    if task.result.isNone then (.error ⟨.ValueError, "work has not run yet"⟩, self)
    else
      let (outcome, self) := self.retry_completion_locked task reply
      (.ok outcome, self)

def drain (self : SpecialistNodeRunner) : SpecialistNodeRunner :=
  { self with draining := true }

def resume (self : SpecialistNodeRunner) : Except Error Unit × SpecialistNodeRunner :=
  if self.quarantine_reason.isSome then (.error ⟨.RuntimeError, "quarantined runner cannot resume"⟩, self)
  else (.ok (), { self with draining := false })

def quarantine (self : SpecialistNodeRunner) (reason : String) : Except Error Unit × SpecialistNodeRunner :=
  if Blank reason then (.error ⟨.ValueError, "reason must be a non-empty string"⟩, self)
  else (.ok (), { self with quarantine_reason := some (stripped reason) })

def clear_quarantine (self : SpecialistNodeRunner) : SpecialistNodeRunner :=
  { self with
    quarantine_reason := none
    draining := false }

/-- A quarantined runner takes no offer on. -/
theorem receive_offer_of_quarantined
    (hquarantine : self.quarantine_reason.isSome = true) (offer : SpecialistWorkOffer) (now : ℚ)
    (reply : Except Error DistributedWorkServiceOutcome) : (self.receive_offer offer now reply).2 = self := by
  unfold receive_offer
  split
  · rfl
  · split
    · rfl
    · split
      · rfl
      · split
        · rfl
        · split
          · rfl
          · rename_i hreason
            rw [(room_of_no_refusal hreason).1] at hquarantine
            cases hquarantine

section

variable {self : SpecialistNodeRunner} (hidle : self.active.items = [])
include hidle

theorem get?_active_of_idle (work : String) : self.active.get? work = none := by
  simp [Dict.get?, hidle]

variable (work_id : String) (reply : Except Error DistributedWorkServiceOutcome)

/-- A runner without tasks has nothing to run or to report. -/
theorem start_run_of_idle :
    self.start_run work_id reply = (.error ⟨.ValueError, "work is not accepted by this runner"⟩, self) := by
  unfold start_run
  rw [get?_active_of_idle hidle]

theorem finish_run_of_idle (result : WorkResult)
    (reply : Except Error DistributedWorkServiceOutcome) : (self.finish_run work_id result reply).2 = self := by
  unfold finish_run
  split
  · rfl
  · rename_i task htask
    rw [get?_active_of_idle hidle] at htask
    cases htask

theorem retry_completion_of_idle :
    (self.retry_completion work_id reply).2 = self := by
  unfold retry_completion
  rw [get?_active_of_idle hidle]

theorem active_work_ids_of_idle : self.active_work_ids = [] := by
  simp [active_work_ids, Dict.keys, hidle]

end

end SpecialistNodeRunner

end

end velvet.specialist_node_runner
