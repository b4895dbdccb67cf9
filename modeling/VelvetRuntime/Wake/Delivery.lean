import VelvetRuntime.Wake.Supervisor

open python velvet.wake_request_policy velvet.founder_wake_actuator

namespace velvet.wake_power_supervisor

open Program

/-- The mapping that an envelope carries, when its payload decodes. -/
def raw_of (delivery : Delivery) : Option (Dict String Json) :=
  match delivery.envelope.payload with
  | none => none
  | some payload => (decode_payload payload).toOption

/-- How one call of the receiver leaves the policy and the physical dispatches. -/
inductive Effect (fingerprint_of : Dict String Json → String) (before : AuthenticatedWakeEnvelopeReceiver)
    (delivery : Delivery) : Except Error Bool → AuthenticatedWakeEnvelopeReceiver → Prop where
  | ignored {result : Except Error Bool} {after : AuthenticatedWakeEnvelopeReceiver} (hresult : result ≠ .ok true)
    (hdispatcher : after.dispatcher = before.dispatcher)
    (hpolicy : after.policy = before.policy) (hdispatches : after.dispatches = before.dispatches) :
    Effect fingerprint_of before delivery result after
  | recalled {after : AuthenticatedWakeEnvelopeReceiver} (raw : Dict String Json) (request : ParsedWakeRequest)
    (power_state : PowerState) (fingerprint : String) (decision : WakePolicyDecision)
    (hraw : raw_of delivery = some raw) (hrequest : parse_wake_request raw = .ok request)
    (hstate : delivery.power_state = some power_state)
    (hremembered : before.policy.decisions.get? request.request_id = some (fingerprint, decision))
    (hdispatcher : after.dispatcher = before.dispatcher)
    (hpolicy : after.policy = before.policy) (hdispatches : after.dispatches = before.dispatches) :
    Effect fingerprint_of before delivery (.ok (decide (fingerprint = fingerprint_of raw) && decision.accepted)) after
  | decided {result : Except Error Bool} {after : AuthenticatedWakeEnvelopeReceiver} (raw : Dict String Json)
    (request : ParsedWakeRequest) (power_state : PowerState) (decision : WakePolicyDecision)
    (policy : WakeRequestPolicyEngine)
    (hraw : raw_of delivery = some raw) (hrequest : parse_wake_request raw = .ok request)
    (hstate : delivery.power_state = some power_state)
    (hnew : before.policy.decisions.get? request.request_id = none)
    (hdecision : before.policy.evaluate_new request delivery.now_ms power_state = (decision, policy))
    (hdispatcher : after.dispatcher = before.dispatcher)
    (hpolicy : after.policy = policy.remember request.request_id (fingerprint_of raw) decision)
    (hdispatches : after.dispatches = before.dispatches ++
      if decision.accepted ∧ (before.dispatcher.method_by_power_state power_state).isSome then
        [(request.request_id, delivery.backend.isOk)]
      else [])
    (hresult : result = .ok true → decision.accepted = true ∧
      ((before.dispatcher.method_by_power_state power_state).isSome = true → delivery.backend.isOk = true)) :
    Effect fingerprint_of before delivery result after

variable {decision : WakePolicyDecision}

/-- What a new decision says about its request. -/
theorem evaluate_new_decision (policy : WakeRequestPolicyEngine) (request : ParsedWakeRequest) (now : Int)
    (power_state : PowerState) {next : WakeRequestPolicyEngine}
    (hdecision : policy.evaluate_new request now power_state = (decision, next)) :
    decision.request_id = request.request_id ∧ decision.power_state_before = power_state ∧
      next.decisions = policy.decisions ∧ decision.state ≠ .duplicate ∧
      (decision.accepted = true → decision.target_body_id = policy.config.target_body_id ∧
        decision.state = if power_state = .awake then .already_awake else .eligible) := by
  unfold WakeRequestPolicyEngine.evaluate_new at hdecision
  split at hdecision
  · cases hdecision
    exact ⟨rfl, rfl, rfl, by simp [WakeRequestPolicyEngine.decision], by simp [WakeRequestPolicyEngine.decision]⟩
  · rename_i hbody
    -- The target body is the first thing that is checked.
    have htarget : request.target_body_id = policy.config.target_body_id := by
      unfold WakeRequestPolicyEngine.refusal_before_budget at hbody
      split at hbody
      · cases hbody
      · rename_i hsame
        exact not_not.mp hsame
    split at hdecision
    · cases hdecision
      exact ⟨rfl, rfl, rfl, by simp [WakeRequestPolicyEngine.decision], by simp [WakeRequestPolicyEngine.decision]⟩
    · dsimp only at hdecision
      split at hdecision
      · cases hdecision
        exact ⟨rfl, rfl, rfl, by simp [WakeRequestPolicyEngine.decision], by simp [WakeRequestPolicyEngine.decision]⟩
      · split at hdecision
        · cases hdecision
          exact ⟨rfl, rfl, rfl, by simp [WakeRequestPolicyEngine.decision],
            by simp [WakeRequestPolicyEngine.decision]⟩
        · split at hdecision
          · rename_i hawake
            cases hdecision
            refine ⟨rfl, rfl, rfl, by simp [WakeRequestPolicyEngine.decision], fun _ => ⟨htarget, ?_⟩⟩
            rw [if_pos hawake]
            rfl
          · rename_i hasleep
            cases hdecision
            refine ⟨rfl, rfl, rfl, by simp [WakeRequestPolicyEngine.decision], fun _ => ⟨htarget, ?_⟩⟩
            rw [if_neg hasleep]
            rfl

variable {fingerprint_of : Dict String Json → String} {world : AuthenticatedWakeEnvelopeReceiver}

variable {raises : Error → AuthenticatedWakeEnvelopeReceiver → Prop}

/-- What the dispatcher does with an accepted decision for its own body: it calls the backend when the
body is not awake and a method is configured. -/
theorem wp_dispatch {backend : Except Error String}
    {returns : WakeActuationResult → AuthenticatedWakeEnvelopeReceiver → Prop}
    (htarget : decision.target_body_id = world.dispatcher.target_body_id) (haccepted : decision.accepted = true)
    (hstate : decision.state = if decision.power_state_before = .awake then .already_awake else .eligible)
    (hunrouted : (world.dispatcher.method_by_power_state decision.power_state_before) = none →
      ∀ result, returns result world)
    (hreturns : (world.dispatcher.method_by_power_state decision.power_state_before).isSome = true →
      backend.isOk = true → ∀ result, returns result
        { world with dispatches := world.dispatches ++ [(decision.request_id, true)] })
    (hraises : (world.dispatcher.method_by_power_state decision.power_state_before).isSome = true →
      backend.isOk = false → ∀ error, raises error
        { world with dispatches := world.dispatches ++ [(decision.request_id, false)] }) :
    wp (dispatch decision backend) returns raises world := by
  unfold dispatch
  rw [wp_bind, wp_get, if_neg (not_not_intro htarget), haccepted]
  by_cases hawake : decision.power_state_before = .awake
  · have hnone := world.dispatcher.awake_unrouted
    rw [← hawake] at hnone
    simp only [Bool.not_true, Bool.false_eq_true, if_false, hawake, or_true, if_true, wp_pure]
    exact hunrouted hnone _
  · rw [if_neg hawake] at hstate
    have hnot : ¬ (decision.state = .already_awake ∨ decision.power_state_before = .awake) := by
      simp [hstate, hawake]
    rw [if_neg (by simp), if_neg hnot, if_neg (not_not_intro hstate)]
    cases hmethod : world.dispatcher.method_by_power_state decision.power_state_before with
    | none => exact hunrouted hmethod _
    | some method =>
      have hsome := Option.isSome_of_eq_some hmethod
      unfold backend_dispatch
      rw [wp_bind, wp_modify]
      cases backend with
      | error error => exact hraises hsome rfl error
      | ok detail => exact hreturns hsome rfl _

theorem wp_reject {error : Error} {returns : Bool → AuthenticatedWakeEnvelopeReceiver → Prop}
    (hreturns : ∀ after, after.dispatcher = world.dispatcher → after.policy = world.policy →
      after.dispatches = world.dispatches → returns false after) (hraises : raises error world) :
    wp (reject error) returns raises world := by
  unfold reject
  split
  · rw [wp_bind, wp_modify, wp_pure]
    exact hreturns _ rfl rfl rfl
  · exact hraises

/-- A call of the engine raises and changes nothing, or evaluates a request that parses. -/
theorem wp_evaluate {payload : Dict String Json} {now_ms : Int} {power_state : Option PowerState}
    {returns : WakePolicyDecision → AuthenticatedWakeEnvelopeReceiver → Prop}
    (hreturns : ∀ request state, parse_wake_request payload = .ok request → power_state = some state → ∀ after,
      after.policy = (world.policy.evaluate_request fingerprint_of payload request now_ms state).2 →
      after.dispatcher = world.dispatcher → after.dispatches = world.dispatches →
      returns (world.policy.evaluate_request fingerprint_of payload request now_ms state).1 after)
    (hraises : ∀ error after, after.dispatcher = world.dispatcher → after.policy = world.policy →
      after.dispatches = world.dispatches → raises error after) :
    wp (evaluate fingerprint_of payload now_ms power_state) returns raises world := by
  unfold evaluate
  rw [wp_bind, wp_get, wp_bind, wp_set]
  generalize hafter : AuthenticatedWakeEnvelopeReceiver.mk _ _ _ _ _ _ _ _ = after
  have hpolicy : after.policy = (world.policy.evaluate fingerprint_of payload now_ms power_state).2 := by rw [← hafter]
  have hdispatcher : after.dispatcher = world.dispatcher := by rw [← hafter]
  have hdispatches : after.dispatches = world.dispatches := by rw [← hafter]
  clear hafter
  unfold WakeRequestPolicyEngine.evaluate at hpolicy ⊢
  by_cases hnow : now_ms < 0
  · rw [if_pos hnow] at hpolicy ⊢
    exact hraises _ _ hdispatcher hpolicy hdispatches
  · rw [if_neg hnow] at hpolicy ⊢
    cases power_state with
    | none => exact hraises _ _ hdispatcher hpolicy hdispatches
    | some state =>
      cases hrequest : parse_wake_request payload with
      | error error =>
        rw [hrequest] at hpolicy
        exact hraises _ _ hdispatcher hpolicy hdispatches
      | ok request =>
        rw [hrequest] at hpolicy
        exact hreturns request state hrequest rfl after hpolicy hdispatcher hdispatches

/-- The end of a dispatch that returned: the reason is recorded, which may fail. -/
theorem wp_recorded {decision : WakePolicyDecision} {actuation : WakeActuationResult} {recording : Except Error Unit}
    {returns : WakeSupervisorOutcome → AuthenticatedWakeEnvelopeReceiver → Prop}
    (hreturns : returns ⟨decision, some actuation⟩ world) (hraises : ∀ error, raises error world) :
    wp (do
        let self ← get
        if actuation.dispatched && self.has_reason_store then
          match recording with
          | .error error => throw error
          | .ok _ => pure ⟨decision, some actuation⟩
        else pure ⟨decision, some actuation⟩) returns raises world := by
  rw [wp_bind, wp_get]
  split
  · cases recording with
    | error error => exact hraises error
    | ok _ => exact hreturns
  · exact hreturns

/-- What the supervisor and the receiver do with a new decision. -/
theorem wp_actuate_decided {before : AuthenticatedWakeEnvelopeReceiver} {delivery : Delivery} {raw : Dict String Json}
    {request : ParsedWakeRequest} {power_state : PowerState} {policy : WakeRequestPolicyEngine}
    (hraw : raw_of delivery = some raw) (hrequest : parse_wake_request raw = .ok request)
    (hstate : delivery.power_state = some power_state) (hnew : before.policy.decisions.get? request.request_id = none)
    (hdecision : before.policy.evaluate_new request delivery.now_ms power_state = (decision, policy))
    (hpolicy : world.policy = policy.remember request.request_id (fingerprint_of raw) decision)
    (hdispatcher : world.dispatcher = before.dispatcher) (hdispatches : world.dispatches = before.dispatches) :
    wp (actuate decision delivery.backend delivery.recording >>= acknowledge)
      (fun answer => Effect fingerprint_of before delivery (.ok answer))
      (fun error after => wp (reject error) (fun answer => Effect fingerprint_of before delivery (.ok answer))
        (fun error => Effect fingerprint_of before delivery (.error error)) after) world := by
  obtain ⟨hid, hbefore, _, hfresh, hwhen⟩ := evaluate_new_decision _ _ _ _ hdecision
  have hends : ∀ (result : Except Error Bool) (after : AuthenticatedWakeEnvelopeReceiver),
      after.dispatcher = world.dispatcher → after.policy = world.policy → after.dispatches = before.dispatches ++
        (if decision.accepted ∧ (before.dispatcher.method_by_power_state power_state).isSome then
          [(request.request_id, delivery.backend.isOk)] else []) →
      (result = .ok true → decision.accepted = true ∧
        ((before.dispatcher.method_by_power_state power_state).isSome = true → delivery.backend.isOk = true)) →
      Effect fingerprint_of before delivery result after := by
    intro result after hrouted hsame hafter hresult
    exact .decided raw request power_state decision policy hraw hrequest hstate hnew hdecision
      (hrouted.trans hdispatcher) (hsame.trans hpolicy) hafter hresult
  have hrejects : ∀ error after, after.dispatcher = world.dispatcher → after.policy = world.policy →
      after.dispatches = before.dispatches ++
        (if decision.accepted ∧ (before.dispatcher.method_by_power_state power_state).isSome then
          [(request.request_id, delivery.backend.isOk)] else []) →
      wp (reject error) (fun answer => Effect fingerprint_of before delivery (.ok answer))
        (fun error => Effect fingerprint_of before delivery (.error error)) after := by
    intro error after hrouted hsame hafter
    apply wp_reject
    · intro next hnext_routed hnext hnext_dispatches
      exact hends _ next (hnext_routed.trans hrouted) (hnext.trans hsame) (hnext_dispatches.trans hafter) (by simp)
    · exact hends _ after hrouted hsame hafter (by simp)
  have hreturned : ∀ (actuation : WakeActuationResult) (after : AuthenticatedWakeEnvelopeReceiver),
      decision.accepted = true → after.dispatcher = world.dispatcher → after.policy = world.policy →
      after.dispatches = before.dispatches ++
        (if decision.accepted ∧ (before.dispatcher.method_by_power_state power_state).isSome then
          [(request.request_id, delivery.backend.isOk)] else []) →
      ((before.dispatcher.method_by_power_state power_state).isSome = true → delivery.backend.isOk = true) →
      wp (acknowledge ⟨decision, some actuation⟩) (fun answer => Effect fingerprint_of before delivery (.ok answer))
          (fun error after => wp (reject error) (fun answer => Effect fingerprint_of before delivery (.ok answer))
            (fun error => Effect fingerprint_of before delivery (.error error)) after) after ∧
        ∀ error, wp (reject error) (fun answer => Effect fingerprint_of before delivery (.ok answer))
          (fun error => Effect fingerprint_of before delivery (.error error)) after := by
    intro actuation after haccepted hrouted hsame hafter hbackend
    exact ⟨hends _ _ hrouted hsame hafter (fun _ => ⟨haccepted, hbackend⟩),
      fun error => hrejects error after hrouted hsame hafter⟩
  rw [wp_bind]
  unfold actuate
  cases haccepted : decision.accepted with
  | false =>
    refine hends _ _ rfl rfl ?_ ?_
    · simp [haccepted, hdispatches]
    · simp [haccepted]
  | true =>
    obtain ⟨htarget, hkind⟩ := hwhen haccepted
    rw [if_neg (by simp), if_neg hfresh, wp_bind]
    apply wp_dispatch
    · rw [hdispatcher]
      exact htarget.trans before.same_body
    · exact haccepted
    · rw [hbefore]
      exact hkind
    · intro hnone actuation
      rw [hdispatcher, hbefore] at hnone
      have hdone := hreturned actuation world haccepted rfl rfl (by simp [hnone, hdispatches]) (by simp [hnone])
      exact wp_recorded hdone.1 hdone.2
    · intro hsome hok actuation
      rw [hdispatcher, hbefore] at hsome
      have hdone := hreturned actuation { world with dispatches := world.dispatches ++ [(decision.request_id, true)] }
        haccepted rfl rfl (by simp [haccepted, hsome, hok, hdispatches, hid]) (fun _ => hok)
      exact wp_recorded hdone.1 hdone.2
    · intro hsome hfails error
      rw [hdispatcher, hbefore] at hsome
      refine hrejects error _ rfl rfl ?_
      simp [haccepted, hsome, hfails, hdispatches, hid]

theorem receive_effect (delivery : Delivery) :
    Effect fingerprint_of world delivery ((receive fingerprint_of delivery).result world)
      ((receive fingerprint_of delivery).after world) := by
  rw [← wp_result_after (Effect fingerprint_of world delivery)]
  have hrejects : ∀ error after, after.dispatcher = world.dispatcher → after.policy = world.policy →
      after.dispatches = world.dispatches →
      wp (reject error) (fun answer => Effect fingerprint_of world delivery (.ok answer))
        (fun error => Effect fingerprint_of world delivery (.error error)) after := by
    intro error after hrouted hpolicy hdispatches
    apply wp_reject
    · intro next hnext_routed hnext hnext_dispatches
      exact .ignored (by simp) (hnext_routed.trans hrouted) (hnext.trans hpolicy)
        (hnext_dispatches.trans hdispatches)
    · exact .ignored (by simp) hrouted hpolicy hdispatches
  unfold receive
  rw [wp_bind, wp_get]
  split
  · exact .ignored (by simp) rfl rfl rfl
  · exact .ignored (by simp) rfl rfl rfl
  · rename_i payload _ hpayload
    rw [wp_tryCatch, wp_bind]
    unfold handle_authenticated_payload
    cases hdecode : decode_payload payload with
    | error error => exact hrejects error world rfl rfl rfl
    | ok raw =>
      have hraw : raw_of delivery = some raw := by
        unfold raw_of
        rw [hpayload]
        dsimp only
        rw [hdecode]
        rfl
      dsimp only
      split
      · rw [wp_throw]
        exact hrejects _ world rfl rfl rfl
      · rw [wp_bind]
        apply wp_evaluate
        · intro request state hrequest hstate after hpolicy hdispatcher hdispatches
          unfold WakeRequestPolicyEngine.evaluate_request at hpolicy ⊢
          cases hremembered : world.policy.decisions.get? request.request_id with
          | some remembered =>
            obtain ⟨fingerprint, decision⟩ := remembered
            have hrecalled : ∀ answer after, answer = (decide (fingerprint = fingerprint_of raw) && decision.accepted) →
                after.dispatcher = world.dispatcher → after.policy = world.policy →
                after.dispatches = world.dispatches → Effect fingerprint_of world delivery (.ok answer) after := by
              rintro answer after rfl hrouted hsame hafter
              exact .recalled raw request state fingerprint decision hraw hrequest hstate hremembered hrouted hsame
                hafter
            rw [hremembered] at hpolicy
            dsimp only at hpolicy ⊢
            by_cases hsame : fingerprint = fingerprint_of raw
            · rw [if_neg (not_not_intro hsame)] at hpolicy ⊢
              unfold actuate
              cases haccepted : decision.accepted with
              | false =>
                refine hrecalled _ _ ?_ hdispatcher hpolicy hdispatches
                simp [haccepted, WakeRequestPolicyEngine.decision]
              | true =>
                refine hrecalled _ _ ?_ hdispatcher hpolicy hdispatches
                simp [hsame, haccepted, WakeRequestPolicyEngine.decision]
            · rw [if_pos hsame] at hpolicy ⊢
              refine hrecalled _ _ ?_ hdispatcher hpolicy hdispatches
              simp [hsame, WakeRequestPolicyEngine.decision]
          | none =>
            rw [hremembered] at hpolicy
            rw [← wp_bind]
            exact wp_actuate_decided hraw hrequest hstate hremembered rfl hpolicy hdispatcher hdispatches
        · intro error after hdispatcher hpolicy hdispatches
          exact hrejects error after hdispatcher hpolicy hdispatches

section

variable (fingerprint_of : Dict String Json → String)

/-- A receiver as it is constructed. -/
def AuthenticatedWakeEnvelopeReceiver.new (config : WakePolicyConfig) (dispatcher : FounderWakeDispatcher)
    (has_reason_store : Bool) (local_peer_id : String)
    (same_body : config.target_body_id = dispatcher.target_body_id) : AuthenticatedWakeEnvelopeReceiver where
  policy := .new config
  dispatcher
  has_reason_store
  local_peer_id
  last_outcome := none
  last_error := none
  dispatches := []
  same_body

/-- The receiver after a run of calls. -/
def AuthenticatedWakeEnvelopeReceiver.run (receiver : AuthenticatedWakeEnvelopeReceiver)
    (deliveries : List Delivery) : AuthenticatedWakeEnvelopeReceiver :=
  deliveries.foldl (fun receiver delivery => (receive fingerprint_of delivery).after receiver) receiver

/-- The request id of a delivery that memory accepts, with the remembered decision. -/
def accepted_from_memory (receiver : AuthenticatedWakeEnvelopeReceiver) (delivery : Delivery) :
    Option (String × WakePolicyDecision) := do
  let raw ← raw_of delivery
  let request ← (parse_wake_request raw).toOption
  let (fingerprint, decision) ← receiver.policy.decisions.get? request.request_id
  if fingerprint = fingerprint_of raw ∧ decision.accepted then some (request.request_id, decision) else none

/-- Whether the last physical dispatch for a request returned. -/
def last_dispatch (receiver : AuthenticatedWakeEnvelopeReceiver) (request_id : String) : Option Bool :=
  ((receiver.dispatches.filter (fun dispatch => dispatch.1 = request_id)).getLast?).map Prod.snd

/-- When memory accepts a delivery in a power state with a wake method, the remembered decision was made
in a power state with a wake method too, and the last dispatch for the request did not raise. -/
def Covered (receiver : AuthenticatedWakeEnvelopeReceiver) (delivery : Delivery) : Prop :=
  ∀ remembered ∈ accepted_from_memory fingerprint_of receiver delivery, ∀ power_state ∈ delivery.power_state,
    (receiver.dispatcher.method_by_power_state power_state).isSome = true →
    (receiver.dispatcher.method_by_power_state remembered.2.power_state_before).isSome = true ∧
      last_dispatch receiver remembered.1 ≠ some false

/-- Every delivery of a run is covered. -/
def CoveredAlways : AuthenticatedWakeEnvelopeReceiver → List Delivery → Prop
  | _, [] => True
  | receiver, delivery :: rest => Covered fingerprint_of receiver delivery ∧
    CoveredAlways ((receive fingerprint_of delivery).after receiver) rest

instance (receiver : AuthenticatedWakeEnvelopeReceiver) (delivery : Delivery) :
    Decidable (Covered fingerprint_of receiver delivery) :=
  inferInstanceAs (Decidable (∀ remembered ∈ _, ∀ power_state ∈ _, _ → _))

instance decidable_covered_always : (receiver : AuthenticatedWakeEnvelopeReceiver) → (deliveries : List Delivery) →
    Decidable (CoveredAlways fingerprint_of receiver deliveries)
  | _, [] => inferInstanceAs (Decidable True)
  | receiver, delivery :: rest =>
    have := decidable_covered_always ((receive fingerprint_of delivery).after receiver) rest
    inferInstanceAs (Decidable (_ ∧ _))

/-- The receiver does not answer yes to a wake that never left it: in a power state that is not awake and
has a wake method, the answer means that a physical dispatch for the request has returned. -/
def NotSwallowed (receiver : AuthenticatedWakeEnvelopeReceiver) (delivery : Delivery) : Prop :=
  (receive fingerprint_of delivery).result receiver = .ok true →
  ∀ power_state, delivery.power_state = some power_state → power_state ≠ .awake →
    (receiver.dispatcher.method_by_power_state power_state).isSome = true →
    ∃ raw request, raw_of delivery = some raw ∧ parse_wake_request raw = .ok request ∧
      (request.request_id, true) ∈ ((receive fingerprint_of delivery).after receiver).dispatches

end

/-- Every remembered acceptance that called for a physical wake was followed by a dispatch. -/
def Attempted (receiver : AuthenticatedWakeEnvelopeReceiver) : Prop :=
  ∀ request_id fingerprint decision, receiver.policy.decisions.get? request_id = some (fingerprint, decision) →
    decision.accepted = true →
    (receiver.dispatcher.method_by_power_state decision.power_state_before).isSome = true →
    ∃ returned, (request_id, returned) ∈ receiver.dispatches

variable {receiver : AuthenticatedWakeEnvelopeReceiver}

theorem CoveredAlways.of_append {earlier later : List Delivery}
    (hcovered : CoveredAlways fingerprint_of receiver (earlier ++ later)) :
    CoveredAlways fingerprint_of (receiver.run fingerprint_of earlier) later := by
  induction earlier generalizing receiver with
  | nil => exact hcovered
  | cons delivery rest ih => exact ih hcovered.2

/-- One call keeps the remembered acceptances attempted. -/
theorem Attempted.receive (hattempted : Attempted receiver) (delivery : Delivery) :
    Attempted ((receive fingerprint_of delivery).after receiver) := by
  generalize hresult : (wake_power_supervisor.receive fingerprint_of delivery).result receiver = result
  generalize hafter : (wake_power_supervisor.receive fingerprint_of delivery).after receiver = after
  have heffect := @receive_effect fingerprint_of receiver delivery
  rw [hresult, hafter] at heffect
  intro request_id fingerprint decision hget haccepted hmethod
  cases heffect with
  | ignored _ hdispatcher hpolicy hdispatches =>
    rw [hpolicy] at hget
    rw [hdispatcher] at hmethod
    rw [hdispatches]
    exact hattempted request_id fingerprint decision hget haccepted hmethod
  | recalled _ _ _ _ _ _ _ _ _ hdispatcher hpolicy hdispatches =>
    rw [hpolicy] at hget
    rw [hdispatcher] at hmethod
    rw [hdispatches]
    exact hattempted request_id fingerprint decision hget haccepted hmethod
  | decided raw request power_state made policy _ _ _ _ hdecision hdispatcher hpolicy hdispatches _ =>
    obtain ⟨_, hbefore, hdecisions, _, _⟩ := evaluate_new_decision _ _ _ _ hdecision
    rw [hdispatcher] at hmethod
    rw [hpolicy] at hget
    rw [hdispatches]
    rcases WakeRequestPolicyEngine.of_get?_remember hget with ⟨rfl, hmade⟩ | hold
    · -- The decision is the one of this call, which dispatched it.
      cases hmade
      rw [hbefore] at hmethod
      refine ⟨delivery.backend.isOk, List.mem_append_right _ ?_⟩
      rw [if_pos ⟨haccepted, hmethod⟩]
      exact List.mem_singleton_self _
    · rw [hdecisions] at hold
      obtain ⟨returned, hmem⟩ := hattempted request_id fingerprint decision hold haccepted hmethod
      exact ⟨returned, List.mem_append_left _ hmem⟩

theorem Attempted.run {receiver : AuthenticatedWakeEnvelopeReceiver} (hattempted : Attempted receiver)
    (deliveries : List Delivery) : Attempted (receiver.run fingerprint_of deliveries) := by
  induction deliveries generalizing receiver with
  | nil => exact hattempted
  | cons delivery rest ih => exact ih (hattempted.receive delivery)

/-- A request that was dispatched, the last time without raising, has a dispatch that returned. -/
theorem returned_of_last_dispatch {request_id : String}
    (hattempted : ∃ returned, (request_id, returned) ∈ receiver.dispatches)
    (hlast : last_dispatch receiver request_id ≠ some false) : (request_id, true) ∈ receiver.dispatches := by
  obtain ⟨returned, hmem⟩ := hattempted
  unfold last_dispatch at hlast
  cases hfound : (receiver.dispatches.filter (fun dispatch => dispatch.1 = request_id)).getLast? with
  | none =>
    have hnone := List.getLast?_eq_none_iff.mp hfound
    have hkept : (request_id, returned) ∈ receiver.dispatches.filter (fun dispatch => dispatch.1 = request_id) :=
      List.mem_filter.mpr ⟨hmem, by simp⟩
    rw [hnone] at hkept
    cases hkept
  | some dispatch =>
    obtain ⟨id, ended⟩ := dispatch
    obtain ⟨hin, hid⟩ := List.mem_filter.mp (List.mem_of_getLast? hfound)
    have hsame : id = request_id := by simpa using hid
    rw [hfound] at hlast
    cases ended with
    | false => exact absurd rfl hlast
    | true =>
      rw [← hsame]
      exact hin

/-- A covered call swallows no wake. -/
theorem Attempted.not_swallowed (hattempted : Attempted receiver) {delivery : Delivery}
    (hcovered : Covered fingerprint_of receiver delivery) :
    NotSwallowed fingerprint_of receiver delivery := by
  intro htrue power_state hstate hasleep hmethod
  generalize hafter : (wake_power_supervisor.receive fingerprint_of delivery).after receiver = after
  have heffect := @receive_effect fingerprint_of receiver delivery
  rw [hafter] at heffect
  generalize hresult : (wake_power_supervisor.receive fingerprint_of delivery).result receiver = result at heffect htrue
  cases heffect with
  | ignored hnot _ _ _ => exact absurd htrue hnot
  | recalled raw request observed fingerprint decision hraw hrequest hobserved hremembered _ _ hdispatches =>
    obtain ⟨hfingerprint, haccepted⟩ : fingerprint = fingerprint_of raw ∧ decision.accepted = true := by
      simpa using htrue
    have hmemory : accepted_from_memory fingerprint_of receiver delivery = some (request.request_id, decision) := by
      simp [accepted_from_memory, hraw, hrequest, hremembered, hfingerprint, haccepted, Except.toOption]
    obtain ⟨hbefore, hlast⟩ := hcovered _ hmemory power_state hstate hmethod
    refine ⟨raw, request, hraw, hrequest, ?_⟩
    rw [hdispatches]
    exact returned_of_last_dispatch (hattempted _ _ _ hremembered haccepted hbefore) hlast
  | decided raw request observed decision policy hraw hrequest hobserved _ _ _ _ hdispatches hanswer =>
    obtain ⟨haccepted, hreturned⟩ := hanswer htrue
    have hsame : observed = power_state := Option.some.inj (hobserved.symm.trans hstate)
    rw [hsame] at hreturned hdispatches
    refine ⟨raw, request, hraw, hrequest, ?_⟩
    rw [hdispatches, if_pos ⟨haccepted, hmethod⟩, hreturned hmethod]
    exact List.mem_append_right _ (List.mem_singleton_self _)

/-- The policy remembers an acceptance before anything is dispatched, and answers a retransmission from
it. In every run whose retransmissions are covered, every call that answers yes in a power state that is
not awake and has a wake method comes after a physical dispatch for its request that returned. -/
theorem acknowledged_wake_dispatched (fingerprint_of : Dict String Json → String) (config : WakePolicyConfig)
    (dispatcher : FounderWakeDispatcher) (has_reason_store : Bool) (local_peer_id : String)
    (same_body : config.target_body_id = dispatcher.target_body_id) (deliveries : List Delivery)
    (hcovered : CoveredAlways fingerprint_of (.new config dispatcher has_reason_store local_peer_id same_body)
      deliveries)
    (earlier later : List Delivery) (delivery : Delivery) (hcall : deliveries = earlier ++ delivery :: later) :
    NotSwallowed fingerprint_of
      ((AuthenticatedWakeEnvelopeReceiver.new config dispatcher has_reason_store local_peer_id same_body).run
        fingerprint_of earlier) delivery := by
  have hinitial : Attempted (.new config dispatcher has_reason_store local_peer_id same_body) := by
    intro request_id fingerprint decision hget
    cases hget
  rw [hcall] at hcovered
  exact (hinitial.run earlier).not_swallowed hcovered.of_append.1

/-- One source that may ask for anything, once a minute at most. -/
def plain_source : WakeSourcePolicy where
  source_peer_id := "door-camera"
  allowed_reasons := [.security_motion]
  minimum_severity := .attention
  evidence_required_reasons := []
  max_requests_per_window := 10
  window_ms := 600000
  cooldown_ms := 60000
  source_peer_id_valid := by decide
  allowed_nonempty := by decide
  allowed_bounded := by decide
  evidence_bounded := by decide
  evidence_allowed := by decide
  max_requests_bounds := by decide
  window_bounds := by decide
  cooldown_bounds := by decide

def plain_config : WakePolicyConfig where
  target_body_id := "founder"
  sources := [plain_source]
  target_body_id_valid := by decide
  sources_nonempty := by decide
  sources_bounded := by decide
  sources_distinct := by decide

/-- Wake-on-LAN for a suspended body, and nothing else. -/
def plain_dispatcher : FounderWakeDispatcher where
  target_body_id := "founder"
  method_by_power_state
    | .suspended => some .wake_on_lan
    | _ => none
  awake_unrouted := rfl

def plain_receiver : AuthenticatedWakeEnvelopeReceiver :=
  .new plain_config plain_dispatcher false "supervisor" rfl

def motion_request : Dict String Json where
  items :=
    [("schema", .text WAKE_REQUEST_SCHEMA), ("request_id", .text "r1"), ("source_peer_id", .text "door-camera"),
      ("target_body_id", .text "founder"), ("reason", .text "security_motion"), ("severity", .text "attention"),
      ("observed_at_ms", .int 1000), ("expires_at_ms", .int 61000), ("canonical", .bool false),
      ("grants_authority", .bool false), ("grants_execution", .bool false), ("grants_actuation", .bool false),
      ("authority", .text "none")]
  nodup := by decide

/-- The request of the camera, sent to a suspended body. -/
def motion_delivery (now_ms : Int) (backend : Except Error String) : Delivery where
  envelope := ⟨WAKE_REQUEST_SCHEMA, "door-camera", "supervisor", some ⟨400, .mapping motion_request⟩⟩
  now_ms
  power_state := some .suspended
  backend
  recording := .ok ()

/-- The first dispatch returns; the retransmission is answered yes, and the wake did leave. -/
theorem retransmission_after_dispatch :
    (receive (fun _ => "f") (motion_delivery 3000 (.ok "sent"))).result
        (plain_receiver.run (fun _ => "f") [motion_delivery 2000 (.ok "sent")]) = .ok true ∧
      ∃ raw request, raw_of (motion_delivery 3000 (.ok "sent")) = some raw ∧ parse_wake_request raw = .ok request ∧
        (request.request_id, true) ∈ ((receive (fun _ => "f") (motion_delivery 3000 (.ok "sent"))).after
          (plain_receiver.run (fun _ => "f") [motion_delivery 2000 (.ok "sent")])).dispatches := by
  have htrue : (receive (fun _ => "f") (motion_delivery 3000 (.ok "sent"))).result
      (plain_receiver.run (fun _ => "f") [motion_delivery 2000 (.ok "sent")]) = .ok true := by decide
  exact ⟨htrue, acknowledged_wake_dispatched (fun _ => "f") plain_config plain_dispatcher false "supervisor" rfl
    [motion_delivery 2000 (.ok "sent"), motion_delivery 3000 (.ok "sent")] (by decide)
    [motion_delivery 2000 (.ok "sent")] [] (motion_delivery 3000 (.ok "sent")) rfl htrue .suspended rfl (by decide)
    (by decide)⟩

/-- The first dispatch raises and the call answers no; the retransmission is answered yes, and no physical
wake has left. -/
theorem retransmission_swallowed :
    let failing := motion_delivery 2000 (.error (actuation_error "wake packet was not sent"))
    let again := motion_delivery 3000 (.ok "sent")
    (receive (fun _ => "f") failing).result plain_receiver = .ok false ∧
      ¬ NotSwallowed (fun _ => "f") (plain_receiver.run (fun _ => "f") [failing]) again := by
  intro failing again
  have htrue : (receive (fun _ => "f") again).result (plain_receiver.run (fun _ => "f") [failing]) = .ok true := by
    decide
  have hdispatches : ((receive (fun _ => "f") again).after
      (plain_receiver.run (fun _ => "f") [failing])).dispatches = [("r1", false)] := by decide
  refine ⟨by decide, ?_⟩
  intro hnot
  obtain ⟨_, request, _, _, hmem⟩ := hnot htrue .suspended rfl (by decide) (by decide)
  rw [hdispatches] at hmem
  simp at hmem

end velvet.wake_power_supervisor
