import VelvetRuntime.Wake.Delivery

open python velvet.wake_request_policy velvet.founder_wake_actuator

namespace velvet.wake_power_supervisor

open WakeRequestPolicyEngine

open Program

/-- What a call of the receiver hands to the policy: the mapping, the request it parses to and the
observed power state. -/
def considered (receiver : AuthenticatedWakeEnvelopeReceiver) (delivery : Delivery) :
    Option (Dict String Json × ParsedWakeRequest × PowerState) :=
  if (transport_error receiver.local_peer_id delivery.envelope).isSome then none
  else
    match raw_of delivery, delivery.power_state with
    | some raw, some power_state =>
      if text_of raw "source_peer_id" ≠ some delivery.envelope.source_peer_id ∨ delivery.now_ms < 0 then none
      else (parse_wake_request raw).toOption.map (fun request => (raw, request, power_state))
    | _, _ => none

/-- `_evaluate_new`'s checks of the clock: the request has not expired, and its observation is not too far
in the future. -/
def Fresh (request : ParsedWakeRequest) (now : Int) : Prop :=
  now < request.expires_at_ms ∧ request.observed_at_ms ≤ now + MAX_FUTURE_OBSERVATION_SKEW_MS

/-- The request id whose decision leaves the memory when a call adds its own: the oldest, when the
memory is full and the request of the call is new. -/
def forgotten (receiver : AuthenticatedWakeEnvelopeReceiver) (delivery : Delivery) : Option String :=
  match considered receiver delivery with
  | none => none
  | some (_, request, _) =>
    if (receiver.policy.decisions.get? request.request_id).isNone ∧
        MAX_REQUEST_CACHE ≤ receiver.policy.decisions.items.length then
      receiver.policy.decisions.keys.head?
    else none

section

variable (fingerprint_of : Dict String Json → String)

/-- The request for which a call of the receiver dispatches a physical wake. -/
def woken (receiver : AuthenticatedWakeEnvelopeReceiver) (delivery : Delivery) : Option ParsedWakeRequest :=
  if ((receive fingerprint_of delivery).after receiver).dispatches.length = receiver.dispatches.length then none
  else (considered receiver delivery).map (fun evaluated => evaluated.2.1)

/-- While a request that was dispatched is fresh, no later call of the run makes the memory forget it. -/
def KeepsWoken (receiver : AuthenticatedWakeEnvelopeReceiver) (deliveries : List Delivery) : Prop :=
  ∀ before first between call after request, deliveries = before ++ first :: (between ++ call :: after) →
    woken fingerprint_of (receiver.run fingerprint_of before) first = some request →
    Fresh request call.now_ms →
    forgotten (receiver.run fingerprint_of (before ++ first :: between)) call ≠ some request.request_id

/-- While a request that was dispatched is fresh, no later call of the run dispatches its request id. -/
def WokenOnce (receiver : AuthenticatedWakeEnvelopeReceiver) (deliveries : List Delivery) : Prop :=
  ∀ before first between again after request repeated,
    deliveries = before ++ first :: (between ++ again :: after) →
    woken fingerprint_of (receiver.run fingerprint_of before) first = some request →
    Fresh request again.now_ms →
    woken fingerprint_of (receiver.run fingerprint_of (before ++ first :: between)) again = some repeated →
    repeated.request_id ≠ request.request_id

end

variable {fingerprint_of : Dict String Json → String} {world : AuthenticatedWakeEnvelopeReceiver}

variable {holds : AuthenticatedWakeEnvelopeReceiver → Prop} {decision : WakePolicyDecision}
variable {backend : Except Error String}

/-- A dispatch changes neither the policy nor the peer id. -/
theorem wp_dispatch_frame (hframe : ∀ dispatches, holds { world with dispatches }) :
    wp (dispatch decision backend) (fun _ => holds) (fun _ => holds) world := by
  have hworld : holds world := hframe world.dispatches
  unfold dispatch
  rw [wp_bind, wp_get]
  split
  · exact hworld
  · split
    · exact hworld
    · split
      · exact hworld
      · split
        · exact hworld
        · split
          · exact hworld
          · unfold backend_dispatch
            rw [wp_bind, wp_modify]
            cases backend with
            | error error => exact hframe _
            | ok detail => exact hframe _

theorem wp_actuate_frame {recording : Except Error Unit}
    (hframe : ∀ dispatches, holds { world with dispatches }) :
    wp (actuate decision backend recording) (fun _ => holds) (fun _ => holds) world := by
  have hworld : holds world := hframe world.dispatches
  unfold actuate
  split
  · exact hworld
  · split
    · exact hworld
    · rw [wp_bind]
      refine wp_mono (wp_dispatch_frame hframe) ?_ (fun _ _ hafter => hafter)
      intro actuation after hafter
      rw [wp_bind, wp_get]
      split
      · cases recording with
        | error error => exact hafter
        | ok _ => exact hafter
      · exact hafter

/-- Answering an exception changes neither the policy nor the peer id. -/
theorem wp_reject_frame {error : Error}
    (hframe : ∀ last_error last_outcome, holds { world with last_error, last_outcome }) :
    wp (reject error) (fun _ => holds) (fun _ => holds) world := by
  unfold reject
  split
  · exact hframe _ _
  · exact hframe world.last_error world.last_outcome

/-- The policy after a call of the receiver: it is evaluated on what the call hands to it. -/
def policy_after (fingerprint_of : Dict String Json → String) (receiver : AuthenticatedWakeEnvelopeReceiver)
    (delivery : Delivery) : WakeRequestPolicyEngine :=
  match considered receiver delivery with
  | none => receiver.policy
  | some (raw, request, power_state) =>
    (receiver.policy.evaluate_request fingerprint_of raw request delivery.now_ms power_state).2

/-- How a call of the receiver leaves its peer id and its policy. -/
def Handed (fingerprint_of : Dict String Json → String) (receiver : AuthenticatedWakeEnvelopeReceiver)
    (delivery : Delivery) (after : AuthenticatedWakeEnvelopeReceiver) : Prop :=
  after.local_peer_id = receiver.local_peer_id ∧ after.policy = policy_after fingerprint_of receiver delivery

variable (receiver : AuthenticatedWakeEnvelopeReceiver)

theorem receive_handed (delivery : Delivery) :
    Handed fingerprint_of receiver delivery ((receive fingerprint_of delivery).after receiver) := by
  have hrejects : ∀ error after, Handed fingerprint_of receiver delivery after →
      wp (reject error) (fun _ => Handed fingerprint_of receiver delivery)
        (fun _ => Handed fingerprint_of receiver delivery) after :=
    fun error after hafter => wp_reject_frame (fun _ _ => hafter)
  have hunchanged : considered receiver delivery = none → Handed fingerprint_of receiver delivery receiver :=
    fun hnone => ⟨rfl, by simp [policy_after, hnone]⟩
  refine (wp_result_after (fun _ => Handed fingerprint_of receiver delivery)).mp ?_
  unfold receive
  rw [wp_bind, wp_get]
  split
  · rename_i message payload htransport
    exact hunchanged (by simp [considered, htransport])
  · rename_i htransport hpayload
    exact hunchanged (by simp [considered, raw_of, hpayload])
  · rename_i payload htransport hpayload
    rw [wp_tryCatch, wp_bind]
    unfold handle_authenticated_payload
    cases hdecode : decode_payload payload with
    | error error =>
      have hconsidered : considered receiver delivery = none := by
        simp [considered, raw_of, hpayload, hdecode, Except.toOption]
      exact hrejects error receiver (hunchanged hconsidered)
    | ok raw =>
      have hraw : raw_of delivery = some raw := by simp [raw_of, hpayload, hdecode, Except.toOption]
      dsimp only
      split
      · rename_i hsource
        have hconsidered : considered receiver delivery = none := by
          cases hstate : delivery.power_state <;> simp [considered, htransport, hraw, hsource, hstate]
        rw [wp_throw]
        exact hrejects _ receiver (hunchanged hconsidered)
      · rename_i hsource
        have hpolicy : (receiver.policy.evaluate fingerprint_of raw delivery.now_ms delivery.power_state).2 =
            policy_after fingerprint_of receiver delivery := by
          unfold WakeRequestPolicyEngine.evaluate policy_after considered
          rw [htransport, hraw]
          by_cases hnow : delivery.now_ms < 0
          · cases delivery.power_state <;> simp [hnow]
          · cases delivery.power_state with
            | none => simp [hnow]
            | some power_state =>
              cases hparse : parse_wake_request raw <;> simp [hnow, not_not.mp hsource, hparse, Except.toOption]
        rw [wp_bind]
        unfold evaluate
        rw [wp_bind, wp_get, wp_bind, wp_set]
        cases (receiver.policy.evaluate fingerprint_of raw delivery.now_ms delivery.power_state).1 with
        | error error => exact hrejects error _ ⟨rfl, hpolicy⟩
        | ok decision =>
          have hactuates : ∀ world, Handed fingerprint_of receiver delivery world →
              wp (actuate decision delivery.backend delivery.recording)
                (fun _ => Handed fingerprint_of receiver delivery)
                (fun _ => Handed fingerprint_of receiver delivery) world :=
            fun world hworld => wp_actuate_frame (fun _ => hworld)
          dsimp only
          rw [wp_pure]
          refine wp_mono (hactuates _ ?_) (fun _ _ hafter => hafter) hrejects
          exact ⟨rfl, hpolicy⟩

theorem dispatcher_receive (delivery : Delivery) :
    ((receive fingerprint_of delivery).after receiver).dispatcher = receiver.dispatcher := by
  have heffect := @receive_effect fingerprint_of receiver delivery
  generalize (receive fingerprint_of delivery).result receiver = result at heffect
  cases heffect with
  | ignored _ hdispatcher _ _ => exact hdispatcher
  | recalled _ _ _ _ _ _ _ _ _ hdispatcher _ _ => exact hdispatcher
  | decided _ _ _ _ _ _ _ _ _ _ hdispatcher _ _ _ => exact hdispatcher

variable {receiver : AuthenticatedWakeEnvelopeReceiver} {request : ParsedWakeRequest} {delivery : Delivery}
variable {power_state : PowerState}

theorem of_considered {raw : Dict String Json}
    (hconsidered : considered receiver delivery = some (raw, request, power_state)) :
    raw_of delivery = some raw ∧ parse_wake_request raw = .ok request ∧ delivery.power_state = some power_state := by
  unfold considered at hconsidered
  split at hconsidered
  · cases hconsidered
  · split at hconsidered
    · rename_i found state hraw hstate
      split at hconsidered
      · cases hconsidered
      · obtain ⟨parsed, hparsed, hsame⟩ := Option.map_eq_some_iff.mp hconsidered
        cases hsame
        cases hparse : parse_wake_request raw with
        | error error => simp [hparse, Except.toOption] at hparsed
        | ok request => simpa [hparse, Except.toOption, hraw, hstate] using hparsed
    · cases hconsidered

variable {policy : WakeRequestPolicyEngine} {request_id fingerprint : String}

/-- A new request id is appended to the memory, and the oldest ones go when there are too many. -/
theorem items_remember
    {decision : WakePolicyDecision} (hnew : policy.decisions.get? request_id = none) :
    (policy.remember request_id fingerprint decision).decisions.items =
      (policy.decisions.items ++ [(request_id, fingerprint, decision)]).drop
        (policy.decisions.items.length + 1 - MAX_REQUEST_CACHE) := by
  have hitems := policy.decisions.items_set_of_get?_none (fingerprint, decision) hnew
  unfold remember Dict.keep_last
  dsimp only
  rw [Dict.pop_of_get?_none _ hnew, hitems, List.length_append, List.length_singleton]

theorem mem_keys_remember
    (hnew : policy.decisions.get? request_id = none) :
    request_id ∈ (policy.remember request_id fingerprint decision).decisions.keys := by
  have hroom : 0 < MAX_REQUEST_CACHE := by decide
  have hkept : policy.decisions.items.length + 1 - MAX_REQUEST_CACHE ≤ policy.decisions.items.length := by omega
  unfold Dict.keys
  rw [items_remember hnew, List.drop_append_of_le_length hkept, List.map_append]
  exact List.mem_append_right _ (List.mem_singleton_self _)

/-- A call leaves the memory as it is, or adds the decision on a new request. -/
theorem decisions_receive (receiver : AuthenticatedWakeEnvelopeReceiver) (delivery : Delivery) :
    ((receive fingerprint_of delivery).after receiver).policy.decisions = receiver.policy.decisions ∨
      ∃ raw request power_state decision, considered receiver delivery = some (raw, request, power_state) ∧
        receiver.policy.decisions.get? request.request_id = none ∧
        ((receive fingerprint_of delivery).after receiver).policy.decisions.items =
          (receiver.policy.decisions.items ++ [(request.request_id, fingerprint_of raw, decision)]).drop
            (receiver.policy.decisions.items.length + 1 - MAX_REQUEST_CACHE) := by
  rw [(receive_handed receiver delivery).2]
  unfold policy_after
  cases hconsidered : considered receiver delivery with
  | none => exact Or.inl rfl
  | some evaluated =>
    obtain ⟨raw, request, power_state⟩ := evaluated
    dsimp only
    unfold evaluate_request
    cases hget : receiver.policy.decisions.get? request.request_id with
    | some remembered =>
      left
      dsimp only
      split <;> rfl
    | none =>
      right
      dsimp only
      generalize hmade : receiver.policy.evaluate_new request delivery.now_ms power_state = made
      obtain ⟨decision, policy⟩ := made
      obtain ⟨_, _, hsame, _, _⟩ := evaluate_new_decision _ _ _ _ hmade
      refine ⟨raw, request, power_state, decision, rfl, hget, ?_⟩
      rw [← hsame] at hget ⊢
      exact items_remember hget

/-- The memory has room for `MAX_REQUEST_CACHE` decisions. -/
theorem length_decisions_receive (receiver : AuthenticatedWakeEnvelopeReceiver) (delivery : Delivery)
    (hsize : receiver.policy.decisions.items.length ≤ MAX_REQUEST_CACHE) :
    ((receive fingerprint_of delivery).after receiver).policy.decisions.items.length ≤ MAX_REQUEST_CACHE := by
  rcases @decisions_receive fingerprint_of receiver delivery with hsame | ⟨_, _, _, _, _, _, hitems⟩
  · rw [hsame]
    exact hsize
  · rw [hitems, List.length_drop, List.length_append, List.length_singleton]
    omega

/-- A request id that a call does not make the memory forget is remembered after it. -/
theorem remembered_receive {request_id : String}
    (hsize : receiver.policy.decisions.items.length ≤ MAX_REQUEST_CACHE)
    (hkept : forgotten receiver delivery ≠ some request_id) (hin : request_id ∈ receiver.policy.decisions.keys) :
    request_id ∈ ((receive fingerprint_of delivery).after receiver).policy.decisions.keys := by
  rcases @decisions_receive fingerprint_of receiver delivery with
    hsame | ⟨raw, request, power_state, decision, hconsidered, hnew, hitems⟩
  · rw [hsame]
    exact hin
  · unfold Dict.keys at hin ⊢
    rw [hitems, List.map_drop, List.map_append]
    by_cases hfull : MAX_REQUEST_CACHE ≤ receiver.policy.decisions.items.length
    · -- The memory is full: exactly the oldest entry goes.
      have hone : receiver.policy.decisions.items.length + 1 - MAX_REQUEST_CACHE = 1 := by omega
      have hhead : receiver.policy.decisions.keys.head? ≠ some request_id := by
        simpa [forgotten, hconsidered, hnew, hfull] using hkept
      unfold Dict.keys at hhead
      rw [hone]
      cases hkeys : receiver.policy.decisions.items.map Prod.fst with
      | nil =>
        rw [hkeys] at hin
        cases hin
      | cons oldest rest =>
        rw [hkeys] at hin hhead
        rcases List.mem_cons.mp hin with rfl | hrest
        · exact absurd rfl hhead
        · exact List.mem_append_left _ hrest
    · have hzero : receiver.policy.decisions.items.length + 1 - MAX_REQUEST_CACHE = 0 := by omega
      rw [hzero]
      exact List.mem_append_left _ hin

/-- Only a fresh request is accepted. -/
theorem fresh_of_accepted {policy next : WakeRequestPolicyEngine} {now : Int}
    (hdecision : policy.evaluate_new request now power_state = (decision, next))
    (haccepted : decision.accepted = true) :
    Fresh request now := by
  unfold evaluate_new at hdecision
  split at hdecision
  · cases hdecision
    cases haccepted
  · rename_i hrefusal
    unfold refusal_before_budget at hrefusal
    split at hrefusal
    · cases hrefusal
    · split at hrefusal
      · cases hrefusal
      · split at hrefusal
        · cases hrefusal
        · exact ⟨by omega, by omega⟩

/-- A call dispatches a wake only for a request that is new and fresh, and it remembers the request. -/
theorem of_woken (hwoken : woken fingerprint_of receiver delivery = some request) :
    receiver.policy.decisions.get? request.request_id = none ∧ Fresh request delivery.now_ms ∧
      request.request_id ∈ ((receive fingerprint_of delivery).after receiver).policy.decisions.keys := by
  unfold woken at hwoken
  split at hwoken
  · cases hwoken
  · rename_i hgrown
    obtain ⟨⟨raw, parsed, power_state⟩, hconsidered, rfl⟩ := Option.map_eq_some_iff.mp hwoken
    obtain ⟨hraw, hparse, _⟩ := of_considered hconsidered
    have heffect := @receive_effect fingerprint_of receiver delivery
    generalize (receive fingerprint_of delivery).result receiver = result at heffect
    generalize hafter : (receive fingerprint_of delivery).after receiver = after at heffect hgrown ⊢
    cases heffect with
    | ignored _ _ _ hdispatches => exact absurd (congrArg List.length hdispatches) hgrown
    | recalled _ _ _ _ _ _ _ _ _ _ _ hdispatches => exact absurd (congrArg List.length hdispatches) hgrown
    | decided found request state decision policy hfound hrequest _ hnew hdecision _ hpolicy hdispatches _ =>
      -- The request that was decided is the one that was handed to the policy.
      cases Option.some.inj (hraw.symm.trans hfound)
      cases Except.ok.inj (hparse.symm.trans hrequest)
      have haccepted : decision.accepted = true := by
        by_contra hrefused
        rw [if_neg (fun hboth => hrefused hboth.1), List.append_nil] at hdispatches
        exact hgrown (congrArg List.length hdispatches)
      refine ⟨hnew, fresh_of_accepted hdecision haccepted, ?_⟩
      obtain ⟨_, _, hsame, _, _⟩ := evaluate_new_decision _ _ _ _ hdecision
      rw [← hsame] at hnew
      rw [hpolicy]
      exact mem_keys_remember hnew

theorem length_decisions_run (receiver : AuthenticatedWakeEnvelopeReceiver) (deliveries : List Delivery)
    (hsize : receiver.policy.decisions.items.length ≤ MAX_REQUEST_CACHE) :
    (receiver.run fingerprint_of deliveries).policy.decisions.items.length ≤ MAX_REQUEST_CACHE := by
  induction deliveries generalizing receiver with
  | nil => exact hsize
  | cons delivery rest ih => exact ih _ (length_decisions_receive receiver delivery hsize)

variable {deliveries : List Delivery}

/-- A request id that no call makes the memory forget is remembered after the calls. -/
theorem remembered_run {request_id : String}
    (hsize : receiver.policy.decisions.items.length ≤ MAX_REQUEST_CACHE)
    (hin : request_id ∈ receiver.policy.decisions.keys)
    (hkept : ∀ earlier call later, deliveries = earlier ++ call :: later →
      forgotten (receiver.run fingerprint_of earlier) call ≠ some request_id) :
    request_id ∈ (receiver.run fingerprint_of deliveries).policy.decisions.keys := by
  induction deliveries using List.reverseRecOn with
  | nil => exact hin
  | append_singleton earlier call ih =>
    have hbefore := ih (fun first other later hsplit => hkept first other (later ++ [call]) (by simp [hsplit]))
    have hcall := hkept earlier call [] rfl
    unfold AuthenticatedWakeEnvelopeReceiver.run at hbefore hcall ⊢
    rw [List.foldl_append]
    exact remembered_receive (length_decisions_run receiver earlier hsize) hcall hbefore

theorem run_append (receiver : AuthenticatedWakeEnvelopeReceiver) (earlier later : List Delivery) :
    receiver.run fingerprint_of (earlier ++ later) =
      (receiver.run fingerprint_of earlier).run fingerprint_of later := by
  unfold AuthenticatedWakeEnvelopeReceiver.run
  rw [List.foldl_append]

/-- A request that is fresh at two times is fresh between them. -/
theorem Fresh.between {first time last : Int} (hfirst : Fresh request first) (hlast : Fresh request last)
    (hafter : first ≤ time) (hbefore : time ≤ last) : Fresh request time := by
  obtain ⟨_, hobserved⟩ := hfirst
  obtain ⟨hexpires, _⟩ := hlast
  exact ⟨by omega, by omega⟩

/-- In a run with nondecreasing times no call is made before an earlier one. -/
theorem now_le_of_split {deliveries before rest : List Delivery} {call later : Delivery}
    (hclock : (deliveries.map Delivery.now_ms).Pairwise (· ≤ ·)) (hsplit : deliveries = before ++ call :: rest)
    (hlater : later ∈ rest) : call.now_ms ≤ later.now_ms := by
  rw [hsplit, List.pairwise_map, List.pairwise_append, List.pairwise_cons] at hclock
  exact hclock.2.1.1 later hlater

/-- The memory of the policy holds the decisions on the last `MAX_REQUEST_CACHE` request ids, refused
ones included, however long the requests stay fresh. In every run of a new receiver with nondecreasing
times whose calls forget no dispatched request while it is fresh, no request id is dispatched again
while the request it was dispatched for is fresh. -/
theorem woken_once_while_fresh (fingerprint_of : Dict String Json → String) (config : WakePolicyConfig)
    (dispatcher : FounderWakeDispatcher) (has_reason_store : Bool) (local_peer_id : String)
    (same_body : config.target_body_id = dispatcher.target_body_id) (deliveries : List Delivery)
    (hclock : (deliveries.map Delivery.now_ms).Pairwise (· ≤ ·))
    (hkept : KeepsWoken fingerprint_of (.new config dispatcher has_reason_store local_peer_id same_body) deliveries) :
    WokenOnce fingerprint_of (.new config dispatcher has_reason_store local_peer_id same_body) deliveries := by
  intro before first between again after request repeated hsplit hfirst hfresh hagain hid
  obtain ⟨_, hfresh_first, hin⟩ := of_woken hfirst
  obtain ⟨hnew, _, _⟩ := of_woken hagain
  set start := AuthenticatedWakeEnvelopeReceiver.new config dispatcher has_reason_store local_peer_id same_body
  have hsize := @length_decisions_run fingerprint_of start (before ++ [first]) (Nat.zero_le _)
  have hprefix : ∀ calls, start.run fingerprint_of (before ++ first :: calls) =
      (start.run fingerprint_of (before ++ [first])).run fingerprint_of calls := by
    intro calls
    rw [← run_append, List.append_assoc, List.singleton_append]
  have hremembered : request.request_id ∈
      ((start.run fingerprint_of (before ++ [first])).run fingerprint_of between).policy.decisions.keys := by
    refine remembered_run hsize ?_ ?_
    · rw [run_append]
      exact hin
    · intro earlier call later hbetween
      rw [← hprefix]
      refine hkept before first earlier call (later ++ again :: after) request ?_ hfirst ?_
      · rw [hsplit, hbetween, List.append_assoc, List.cons_append]
      · -- The call is made between the first dispatch and the last one.
        refine hfresh_first.between hfresh (now_le_of_split hclock hsplit ?_)
          (@now_le_of_split _ (before ++ first :: earlier) (later ++ again :: after) _ _ hclock ?_ ?_)
        · simp [hbetween]
        · simp [hsplit, hbetween]
        · simp
  rw [hid, hprefix] at hnew
  exact (Dict.get?_eq_none_iff _ _).mp hnew hremembered

/-- A run adds at most one decision for each of its calls. -/
theorem length_decisions_le (receiver : AuthenticatedWakeEnvelopeReceiver) (deliveries : List Delivery) :
    (receiver.run fingerprint_of deliveries).policy.decisions.items.length ≤
      receiver.policy.decisions.items.length + deliveries.length := by
  induction deliveries generalizing receiver with
  | nil => exact Nat.le_refl _
  | cons delivery rest ih =>
    have hone : ((receive fingerprint_of delivery).after receiver).policy.decisions.items.length ≤
        receiver.policy.decisions.items.length + 1 := by
      rcases @decisions_receive fingerprint_of receiver delivery with hsame | ⟨_, _, _, _, _, _, hitems⟩
      · rw [hsame]
        exact Nat.le_succ _
      · rw [hitems, List.length_drop, List.length_append, List.length_singleton]
        exact Nat.sub_le _ _
    have hrest := ih ((receive fingerprint_of delivery).after receiver)
    rw [List.length_cons]
    change (((receive fingerprint_of delivery).after receiver).run fingerprint_of rest).policy.decisions.items.length ≤ _
    omega

/-- A run that is no longer than the memory forgets nothing. -/
theorem keeps_woken_of_length
    (hlength : receiver.policy.decisions.items.length + deliveries.length ≤ MAX_REQUEST_CACHE) :
    KeepsWoken fingerprint_of receiver deliveries := by
  intro before first between call after request hsplit _ _
  have hsize := @length_decisions_le fingerprint_of receiver (before ++ first :: between)
  have hroom : (receiver.run fingerprint_of (before ++ first :: between)).policy.decisions.items.length <
      MAX_REQUEST_CACHE := by
    rw [hsplit] at hlength
    simp only [List.length_append, List.length_cons] at hlength hsize
    omega
  unfold forgotten
  split
  · simp
  · rw [if_neg (fun hfull => Nat.not_le.mpr hroom hfull.2)]
    simp

/-- The camera's request is dispatched, and its retransmission is not dispatched again. -/
theorem retransmission_not_woken :
    (woken (fun _ => "f") plain_receiver (motion_delivery 2000 (.ok "sent"))).isSome = true ∧
      WokenOnce (fun _ => "f") plain_receiver
        [motion_delivery 2000 (.ok "sent"), motion_delivery 3000 (.ok "sent")] :=
  ⟨by decide, woken_once_while_fresh (fun _ => "f") plain_config plain_dispatcher false "supervisor" rfl
    [motion_delivery 2000 (.ok "sent"), motion_delivery 3000 (.ok "sent")] (by decide)
    (keeps_woken_of_length (by decide))⟩

/-- The camera without a cooldown. -/
def eager_config : WakePolicyConfig where
  target_body_id := "founder"
  sources := [{ plain_source with
    cooldown_ms := 0
    cooldown_bounds := by decide }]
  target_body_id_valid := plain_config.target_body_id_valid
  sources_nonempty := by decide
  sources_bounded := by decide
  sources_distinct := by decide

def eager_receiver : AuthenticatedWakeEnvelopeReceiver :=
  .new eager_config plain_dispatcher false "supervisor" rfl

/-- Request ids that differ in how many letters of each kind they have. -/
def flood_id (index : Nat) : String :=
  String.ofList ('f' :: (List.replicate (index / 32) 'x' ++ List.replicate (index % 32) 'y'))

theorem flood_id_injective {left right : Nat} (hsame : flood_id left = flood_id right) : left = right := by
  have hlists := String.ofList_injective hsame
  have hx := congrArg (List.count 'x') hlists
  have hy := congrArg (List.count 'y') hlists
  simp [List.count_replicate] at hx hy
  omega

variable {index : Nat}

theorem is_identifier_flood_id (hindex : index < 1024) : is_identifier (flood_id index) = true := by
  have hlength : index / 32 + index % 32 ≤ 127 := by omega
  unfold is_identifier flood_id
  rw [String.toList_ofList]
  simp [hlength]

/-- A request of a peer that the policy does not know. -/
def flood_request (index : Nat) : Dict String Json where
  items :=
    [("schema", .text WAKE_REQUEST_SCHEMA), ("request_id", .text (flood_id index)), ("source_peer_id", .text "garage"),
      ("target_body_id", .text "founder"), ("reason", .text "security_motion"), ("severity", .text "attention"),
      ("observed_at_ms", .int 1000), ("expires_at_ms", .int 61000), ("canonical", .bool false),
      ("grants_authority", .bool false), ("grants_execution", .bool false), ("grants_actuation", .bool false),
      ("authority", .text "none")]
  nodup := by simp

def flood_parsed (index : Nat) : ParsedWakeRequest where
  request_id := flood_id index
  source_peer_id := "garage"
  target_body_id := "founder"
  reason := .security_motion
  severity := .attention
  observed_at_ms := 1000
  expires_at_ms := 61000
  evidence_refs := []
  summary := ""

def flood_delivery (index : Nat) : Delivery where
  envelope := ⟨WAKE_REQUEST_SCHEMA, "garage", "supervisor", some ⟨400, .mapping (flood_request index)⟩⟩
  now_ms := 3000
  power_state := some .suspended
  backend := .ok "sent"
  recording := .ok ()

theorem parse_flood_request (hindex : index < 1024) :
    parse_wake_request (flood_request index) = .ok (flood_parsed index) := by
  have hid : identifier (flood_request index) "request_id" = .ok (flood_id index) := by
    change (if is_identifier (flood_id index) then _ else _) = _
    rw [if_pos (is_identifier_flood_id hindex)]
  have henvelope : envelope_error (flood_request index) = none := rfl
  have hobserved : non_negative_integer (flood_request index) "observed_at_ms" = .ok 1000 := rfl
  have hexpires : non_negative_integer (flood_request index) "expires_at_ms" = .ok 61000 := rfl
  have hsource : identifier (flood_request index) "source_peer_id" = .ok "garage" := rfl
  have htarget : identifier (flood_request index) "target_body_id" = .ok "founder" := rfl
  unfold parse_wake_request
  rw [henvelope, hobserved, hexpires, hid, hsource, htarget]
  rfl

theorem considered_flood (hindex : index < 1024) (hpeer : receiver.local_peer_id = "supervisor") :
    considered receiver (flood_delivery index) = some (flood_request index, flood_parsed index, .suspended) := by
  have htransport : transport_error receiver.local_peer_id (flood_delivery index).envelope = none := by
    rw [hpeer]
    rfl
  have hraw : raw_of (flood_delivery index) = some (flood_request index) := rfl
  have hstate : (flood_delivery index).power_state = some .suspended := rfl
  have hsource : ¬ (text_of (flood_request index) "source_peer_id" ≠ some (flood_delivery index).envelope.source_peer_id ∨
      (flood_delivery index).now_ms < 0) := by
    rintro (hne | hnow)
    · exact hne rfl
    · have hnever : ¬ (3000 : Int) < 0 := by decide
      exact hnever hnow
  unfold considered
  rw [htransport, hraw, hstate]
  dsimp only
  rw [if_neg hsource, parse_flood_request hindex]
  rfl

/-- A flood delivery is refused, whatever the memory holds. -/
theorem evaluate_flood (index : Nat) (hconfig : policy.config = eager_config) :
    policy.evaluate_new (flood_parsed index) 3000 .suspended =
      (WakeRequestPolicyEngine.decision (flood_parsed index) 3000 .suspended false .refused
        "wake source is not configured", policy) := by
  have hbefore : policy.refusal_before_budget (flood_parsed index) 3000 = none := by
    unfold refusal_before_budget
    rw [hconfig]
    rfl
  have hsource : policy.source_policy (flood_parsed index).source_peer_id = none := by
    unfold source_policy
    rw [hconfig]
    rfl
  unfold evaluate_new
  rw [hbefore, hsource]

/-- The receiver after the camera's request, with other decisions in its memory. -/
def Flooded (receiver : AuthenticatedWakeEnvelopeReceiver) (keys : List String) : Prop :=
  receiver.local_peer_id = "supervisor" ∧ receiver.dispatcher = plain_dispatcher ∧
    receiver.policy.decisions.keys = keys ∧
    ∃ decisions, receiver.policy =
      { (eager_receiver.run (fun _ => "f") [motion_delivery 2000 (.ok "sent")]).policy with decisions }

/-- A flood delivery with a new request id only changes the memory. -/
theorem Flooded.receive {keys : List String} {index : Nat} (hflooded : Flooded receiver keys) (hindex : index < 1024)
    (hnew : flood_id index ∉ keys) :
    Flooded ((receive (fun _ => "f") (flood_delivery index)).after receiver)
      ((keys ++ [flood_id index]).drop (keys.length + 1 - MAX_REQUEST_CACHE)) := by
  obtain ⟨hpeer, hdispatcher, hkeys, decisions, hpolicy⟩ := hflooded
  have hconsidered := considered_flood hindex hpeer
  have hconfig : receiver.policy.config = eager_config := by
    rw [hpolicy]
    rfl
  have hget : receiver.policy.decisions.get? (flood_parsed index).request_id = none := by
    rw [Dict.get?_eq_none_iff, hkeys]
    exact hnew
  obtain ⟨hsame, hafter⟩ := @receive_handed (fun _ => "f") receiver (flood_delivery index)
  have hremembered : ((wake_power_supervisor.receive (fun _ => "f") (flood_delivery index)).after receiver).policy =
      receiver.policy.remember (flood_id index) "f" (WakeRequestPolicyEngine.decision (flood_parsed index) 3000
        .suspended false .refused "wake source is not configured") := by
    rw [hafter, policy_after, hconsidered]
    dsimp only
    unfold WakeRequestPolicyEngine.evaluate_request
    rw [hget]
    dsimp only
    have hrefused := evaluate_flood index hconfig
    change receiver.policy.evaluate_new (flood_parsed index) (flood_delivery index).now_ms .suspended = _ at hrefused
    rw [hrefused]
    rfl
  refine ⟨hsame.trans hpeer, (dispatcher_receive receiver _).trans hdispatcher, ?_, ?_⟩
  · rw [hremembered, ← hkeys]
    unfold Dict.keys
    rw [@items_remember _ (flood_id index) _ _ hget, List.map_drop, List.map_append, List.length_map]
    rfl
  · refine ⟨((wake_power_supervisor.receive (fun _ => "f") (flood_delivery index)).after receiver).policy.decisions, ?_⟩
    rw [hremembered]
    unfold WakeRequestPolicyEngine.remember
    dsimp only
    rw [hpolicy]

theorem Flooded.run {count : Nat} (hcount : count ≤ 1024) :
    Flooded (eager_receiver.run (fun _ => "f")
        (motion_delivery 2000 (.ok "sent") :: (List.range count).map flood_delivery))
      (("r1" :: (List.range count).map flood_id).drop (count + 1 - MAX_REQUEST_CACHE)) := by
  induction count with
  | zero => exact ⟨rfl, rfl, by decide, _, rfl⟩
  | succ count ih =>
    have hbefore := ih (by omega)
    have hlength : ("r1" :: (List.range count).map flood_id).length = count + 1 := by simp
    have hroom : count + 1 - MAX_REQUEST_CACHE = 0 := Nat.sub_eq_zero_of_le hcount
    rw [hroom, List.drop_zero] at hbefore
    have hnew : flood_id count ∉ "r1" :: (List.range count).map flood_id := by
      intro hmem
      rcases List.mem_cons.mp hmem with hfirst | hearlier
      · have hletters := congrArg String.toList hfirst
        simp [flood_id] at hletters
      · obtain ⟨index, hindex, hsame⟩ := List.mem_map.mp hearlier
        have heq := flood_id_injective hsame
        have hless := List.mem_range.mp hindex
        omega
    have hafter := hbefore.receive (by omega) hnew
    rw [hlength] at hafter
    rw [List.range_succ, List.map_append, List.map_append, ← List.cons_append, ← List.cons_append, run_append]
    exact hafter

def motion_parsed : ParsedWakeRequest where
  request_id := "r1"
  source_peer_id := "door-camera"
  target_body_id := "founder"
  reason := .security_motion
  severity := .attention
  observed_at_ms := 1000
  expires_at_ms := 61000
  evidence_refs := []
  summary := ""

theorem considered_motion (hpeer : receiver.local_peer_id = "supervisor") :
    considered receiver (motion_delivery 4000 (.ok "sent")) = some (motion_request, motion_parsed, .suspended) := by
  have htransport : transport_error receiver.local_peer_id (motion_delivery 4000 (.ok "sent")).envelope = none := by
    rw [hpeer]
    rfl
  unfold considered
  rw [htransport]
  rfl

/-- Once the memory has forgotten the camera's request, its retransmission is dispatched again. -/
theorem Flooded.woken {keys : List String} (hflooded : Flooded receiver keys) (hforgotten : "r1" ∉ keys) :
    woken (fun _ => "f") receiver (motion_delivery 4000 (.ok "sent")) = some motion_parsed := by
  obtain ⟨hpeer, hdispatcher, hkeys, decisions, hpolicy⟩ := hflooded
  have hconsidered := considered_motion hpeer
  have hget : receiver.policy.decisions.get? motion_parsed.request_id = none := by
    rw [Dict.get?_eq_none_iff, hkeys]
    exact hforgotten
  have haccepted : (receiver.policy.evaluate_new motion_parsed 4000 .suspended).1.accepted = true := by
    rw [hpolicy]
    rfl
  have hgrown : ((wake_power_supervisor.receive (fun _ => "f") (motion_delivery 4000 (.ok "sent"))).after
      receiver).dispatches.length ≠ receiver.dispatches.length := by
    have hremembered : "r1" ∈ ((wake_power_supervisor.receive (fun _ => "f") (motion_delivery 4000 (.ok "sent"))).after
        receiver).policy.decisions.keys := by
      obtain ⟨_, _, hsame, _, _⟩ := evaluate_new_decision receiver.policy motion_parsed 4000 .suspended rfl
      rw [(receive_handed receiver _).2, policy_after, hconsidered]
      dsimp only
      unfold evaluate_request
      rw [hget]
      rw [← hsame] at hget
      exact mem_keys_remember hget
    have heffect := @receive_effect (fun _ => "f") receiver (motion_delivery 4000 (.ok "sent"))
    generalize (wake_power_supervisor.receive (fun _ => "f") (motion_delivery 4000 (.ok "sent"))).result receiver =
      result at heffect
    generalize (wake_power_supervisor.receive (fun _ => "f") (motion_delivery 4000 (.ok "sent"))).after receiver =
      after at heffect hremembered ⊢
    cases heffect with
    | ignored _ _ hunchanged _ =>
      rw [hunchanged, hkeys] at hremembered
      exact absurd hremembered hforgotten
    | recalled _ _ _ _ _ _ _ _ _ _ hunchanged _ =>
      rw [hunchanged, hkeys] at hremembered
      exact absurd hremembered hforgotten
    | decided raw request power_state decision policy hraw hrequest hstate _ hdecision _ _ hdispatches _ =>
      cases hraw
      cases Except.ok.inj (hrequest.symm.trans (show parse_wake_request motion_request = .ok motion_parsed from rfl))
      cases hstate
      have hyes : decision.accepted = true := by
        have hfirst := congrArg Prod.fst hdecision
        change (receiver.policy.evaluate_new motion_parsed 4000 .suspended).1 = decision at hfirst
        rw [← hfirst]
        exact haccepted
      rw [hdispatches, hdispatcher, if_pos ⟨hyes, rfl⟩, List.length_append]
      simp
  unfold wake_power_supervisor.woken
  rw [if_neg hgrown, hconsidered]
  rfl

theorem flood_clock (count : Nat) :
    ((motion_delivery 2000 (.ok "sent") :: (List.range count).map flood_delivery ++
      [motion_delivery 4000 (.ok "sent")]).map Delivery.now_ms).Pairwise (· ≤ ·) := by
  simp only [List.cons_append, List.map_cons, List.map_append, List.map_nil, List.map_map, List.pairwise_cons,
    List.pairwise_append, List.mem_append, List.mem_map, List.mem_singleton]
  refine ⟨?_, ?_, by simp, ?_⟩
  · rintro time (⟨index, _, rfl⟩ | rfl) <;> simp [motion_delivery, flood_delivery]
  · exact List.pairwise_map.mpr (List.pairwise_of_forall (fun _ _ => Int.le_refl _))
  · rintro earlier ⟨index, _, rfl⟩ later rfl
    simp [motion_delivery, flood_delivery]

/-- The camera's request is dispatched. 1024 requests of an unknown peer are refused, but their decisions
fill the memory, and the retransmission of the camera's request, which is still fresh, is dispatched again. -/
theorem forgotten_request_woken_again :
    let deliveries := motion_delivery 2000 (.ok "sent") :: (List.range 1024).map flood_delivery ++
      [motion_delivery 4000 (.ok "sent")]
    (deliveries.map Delivery.now_ms).Pairwise (· ≤ ·) ∧ ¬ WokenOnce (fun _ => "f") eager_receiver deliveries := by
  intro deliveries
  refine ⟨?_, ?_⟩
  · exact flood_clock 1024
  · intro honce
    have hflooded := @Flooded.run 1024 (Nat.le_refl _)
    have hforgotten : "r1" ∉ ("r1" :: (List.range 1024).map flood_id).drop (1024 + 1 - MAX_REQUEST_CACHE) := by
      change "r1" ∉ (List.range 1024).map flood_id
      intro hmem
      obtain ⟨index, _, hsame⟩ := List.mem_map.mp hmem
      have hletters := congrArg String.toList hsame
      simp [flood_id] at hletters
    refine honce [] (motion_delivery 2000 (.ok "sent")) ((List.range 1024).map flood_delivery)
      (motion_delivery 4000 (.ok "sent")) [] motion_parsed motion_parsed rfl ?_ ?_ (hflooded.woken hforgotten) rfl
    · decide
    · exact ⟨by decide, by decide⟩

end velvet.wake_power_supervisor
