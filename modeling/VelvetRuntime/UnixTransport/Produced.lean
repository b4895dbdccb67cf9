import VelvetRuntime.SpecialistNode.Quarantine
import VelvetRuntime.UnixTransport.Records
import VelvetRuntime.UnixTransport.ServiceOutcomes

open python python.str python.num python.json python.except velvet.distributed_work_coordinator
  velvet.distributed_work_service velvet.specialist_node_runner

namespace velvet.distributed_work_unix_transport

open PyObject

section work_results

variable {texts : PythonText} {spec_name : String} {output : Dict String PyObject} {returned : HandlerReturn}

variable {failure : HandlerFailure}

end work_results

section

variable [StrLower]

/-- An outcome that the service returns somewhere in a run. -/
def Served (outcome : DistributedWorkServiceOutcome) : Prop :=
  ∃ sinks registry operations operation outcomes,
    (perform sinks operation).result (run sinks (start registry) operations) = .ok outcomes ∧ outcome ∈ outcomes

/-- A reply of the service, or any exception that the client makes of a request. -/
def FromService (reply : Except Error DistributedWorkServiceOutcome) : Prop := ∀ outcome, reply = .ok outcome → Served outcome

/-- The reason for which a runner refuses an offer, if it refuses it. -/
def refusal (self : SpecialistNodeRunner) (offer : SpecialistWorkOffer) (now : ℚ) : Option String :=
  if offer.node_id ≠ self.profile.node_id ∨ offer.organ ≠ self.profile.organ ∨ offer.work_id ∈ self.completed ∨
      (self.active.get? offer.work_id).isSome then none
  else self.refusal_reason offer now

/-- How a record that the transport encodes comes about, from any state of the runner it is about. -/
inductive Production where
  | advertisement (self : SpecialistNodeRunner) (condition : NodeCondition) (now : JsonFloat)
  /-- The result of a handler execution. -/
  | work_result (self : SpecialistNodeRunner) (offer : SpecialistWorkOffer) (spec : GhostHandlerSpec)
    (returned : HandlerReturn)
  | offered (outcome : DistributedWorkServiceOutcome) (handler_name : String) (parameters : Dict String PyObject)
  | service_outcome (outcome : DistributedWorkServiceOutcome) (hserved : Served outcome)
  /-- The outcome of `receive_offer`. -/
  | answer (self : SpecialistNodeRunner) (offer : SpecialistWorkOffer) (now : ℚ)
    (reply : Except Error DistributedWorkServiceOutcome) (hreply : FromService reply)
  /-- The outcome of `run_accepted` and of `retry_completion`, with the output of the execution. -/
  | report (self : SpecialistNodeRunner) (task : ActiveTask) (spec : GhostHandlerSpec) (returned : HandlerReturn)
    (reply : Except Error DistributedWorkServiceOutcome) (hreply : FromService reply)

namespace Production

variable (texts : PythonText)

/-- The record, unless the code that builds it raises. -/
def message : Production → Except Error Message
  | advertisement self condition now => (runner_advertisement self condition now).map .advertisement
  | work_result self offer spec returned =>
    .ok (.work_result (work_result_attributes (self.execute_handler offer (bounded_output texts spec.name returned).2)))
  | offered outcome handler_name parameters => (from_service_outcome texts outcome handler_name parameters).map .offer
  | service_outcome outcome _ => .ok (.service_outcome (service_outcome_attributes outcome))
  | answer self offer now reply _ =>
    (self.receive_offer offer now reply).1.map (fun outcome =>
      .runner_outcome (runner_outcome_attributes outcome none))
  | report self task spec returned reply _ =>
    .ok (.runner_outcome (runner_outcome_attributes (self.retry_completion_locked task reply).1
      (some (bounded_output texts spec.name returned).1)))

end Production

section advertisements

variable {value : AdvertisementAttributes} {self : SpecialistNodeRunner} {condition : NodeCondition}

section

variable {now : JsonFloat} (hvalue : runner_advertisement self condition now = .ok value)

include hvalue

end

end advertisements

section work_results

end work_results

section offers

variable {texts : PythonText} {payload : List (String × PyObject)} {key : String}

variable {outcome : DistributedWorkServiceOutcome} {parameters : Dict String PyObject} {offer : OfferAttributes}
variable {handler_name : String}

section

variable (hoffer : from_service_outcome texts outcome handler_name parameters = .ok offer)

include hoffer

end

end offers

section service_outcomes

omit [StrLower] in
theorem event_type_trimmed (event_type : EventType) : Trimmed event_type.value := by
  cases event_type <;> decide

omit [StrLower] in
theorem degradation_trimmed (degradation : DegradationMode) : Trimmed degradation.value := by
  cases degradation <;> decide

theorem Shippable.normal {outcome : DistributedWorkServiceOutcome} (hshippable : Shippable outcome) :
    (service_outcome_attributes outcome).Normal := by
  refine ⟨hshippable.state, hshippable.work_id, hshippable.node_id, hshippable.lease_id, degradation_trimmed _, ?_, rfl,
    ?_⟩
  · intro item hitem
    obtain ⟨evidence, hevidence, rfl⟩ := List.mem_map.mp hitem
    have hshipped := hshippable.lifecycle evidence hevidence
    exact ⟨event_type_trimmed _, hshipped.subject_id, hshipped.receipt_id, payload_entries_distinct _,
      payload_entries_data _, payload_entries_boundary _⟩
  · unfold ServiceOutcomeAttributes.post_init
    simp only [check_bind_eq_ok, guard_eq_ok, if_given_eq_ok_iff, require_normalized_eq_ok_iff, require_text_eq_ok_iff,
      require_authority_none_eq_ok_iff]
    exact ⟨hshippable.state.2, hshippable.work_id, hshippable.node_id,
      fun lease hlease => (hshippable.lease_id lease hlease).2, by simp [service_outcome_attributes], rfl⟩

end service_outcomes

section runner_outcomes

variable {reply : Except Error DistributedWorkServiceOutcome} {self : SpecialistNodeRunner}
variable {offer : SpecialistWorkOffer} {outcome : RunnerOutcome}

section

variable {now : ℚ} (houtcome : (self.receive_offer offer now reply).1 = .ok outcome)

include houtcome

end

end runner_outcomes

end

open distributed_work_daemon

end velvet.distributed_work_unix_transport
