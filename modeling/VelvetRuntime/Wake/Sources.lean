import VelvetRuntime.Wake.Delivery

open python

namespace velvet.wake_request_policy.WakeRequestPolicyEngine

/-- A call of `evaluate`. -/
structure Call where
  payload : Dict String Json
  now_ms : Int
  power_state : Option PowerState

/-- The request that the policy evaluates, with the power state; without one the call raises. -/
def Call.evaluated (call : Call) : Option (ParsedWakeRequest × PowerState) :=
  if call.now_ms < 0 then none
  else call.power_state.bind (fun power_state =>
    (parse_wake_request call.payload).toOption.map (fun request => (request, power_state)))

/-- The payload is a well-formed request of the source. -/
def Call.sent_by (call : Call) (source : String) : Bool :=
  (parse_wake_request call.payload).toOption.any (fun request => request.source_peer_id = source)

/-- The request ids of a source's own newest requests, as many as the policy remembers. -/
def own_after (source : String) (own : List String) (call : Call) : List String :=
  match call.evaluated with
  | some (request, _) =>
    if request.source_peer_id = source ∧ request.request_id ∉ own then
      (own ++ [request.request_id]).drop (own.length + 1 - MAX_REQUEST_CACHE)
    else own
  | none => own

/-- If the call is a request of the source, its id is remembered exactly if it is one of the source's own newest
requests, and then as a request of that source. -/
def RecallsOwn (self : WakeRequestPolicyEngine) (source : String) (own : List String) (call : Call) : Prop :=
  ∀ evaluated ∈ call.evaluated, evaluated.1.source_peer_id = source →
    (self.decisions.get? evaluated.1.request_id).map (fun entry => entry.2.source_peer_id) =
      if evaluated.1.request_id ∈ own then some source else none

instance (self : WakeRequestPolicyEngine) (source : String) (own : List String) (call : Call) :
    Decidable (self.RecallsOwn source own call) :=
  inferInstanceAs (Decidable (∀ evaluated ∈ call.evaluated, _))

section

variable (fingerprint_of : Dict String Json → String)

def respond (self : WakeRequestPolicyEngine) (call : Call) :
    Except Error WakePolicyDecision × WakeRequestPolicyEngine :=
  self.evaluate fingerprint_of call.payload call.now_ms call.power_state

/-- Every call of the run recalls what the source has sent. -/
def RunRecallsOwn (source : String) (own : List String) : WakeRequestPolicyEngine → List Call → Prop
  | _, [] => True
  | self, call :: rest => self.RecallsOwn source own call ∧
    RunRecallsOwn source (own_after source own call) (self.respond fingerprint_of call).2 rest

instance decidable_run_recalls_own (source : String) (own : List String) (self : WakeRequestPolicyEngine)
    (calls : List Call) : Decidable (RunRecallsOwn fingerprint_of source own self calls) :=
  match calls with
  | [] => inferInstanceAs (Decidable True)
  | call :: rest =>
    have := decidable_run_recalls_own source (own_after source own call) (self.respond fingerprint_of call).2 rest
    inferInstanceAs (Decidable (_ ∧ _))

/-- What a run answers to the requests of a source. -/
def answers_to (source : String) : WakeRequestPolicyEngine → List Call → List (Except Error WakePolicyDecision)
  | _, [] => []
  | self, call :: rest =>
    let (answer, next) := self.respond fingerprint_of call
    if call.sent_by source then answer :: answers_to source next rest else answers_to source next rest

end

/-- Two states of the policy that a source cannot tell apart, as long as what it sent is remembered. -/
structure Agrees (source : String) (left right : WakeRequestPolicyEngine) : Prop where
  config_eq : left.config = right.config
  attempts_eq : left.attempts.get? source = right.attempts.get? source
  last_accepted_eq : left.last_accepted.get? source = right.last_accepted.get? source
  remembered_eq : ∀ request_id found other, left.decisions.get? request_id = some found →
    right.decisions.get? request_id = some other → found.2.source_peer_id = source →
    other.2.source_peer_id = source → found = other

variable {fingerprint_of : Dict String Json → String} {source : String} {left right : WakeRequestPolicyEngine}

theorem Agrees.symm (hagrees : Agrees source left right) : Agrees source right left := by
  obtain ⟨hconfig, hattempts, hlast, hremembered⟩ := hagrees
  refine ⟨hconfig.symm, hattempts.symm, hlast.symm, ?_⟩
  intro request_id found other hfound hother hfound_source hother_source
  exact (hremembered request_id other found hother hfound hother_source hfound_source).symm

/-- A new request only changes what is counted for its own source. -/
structure Confined (request : ParsedWakeRequest) (before after : WakeRequestPolicyEngine) : Prop where
  config_eq : after.config = before.config
  decisions_eq : after.decisions = before.decisions
  attempts_eq : ∀ source, source ≠ request.source_peer_id → after.attempts.get? source = before.attempts.get? source
  last_accepted_eq : ∀ source, source ≠ request.source_peer_id →
    after.last_accepted.get? source = before.last_accepted.get? source

theorem source_peer_id_of_source_policy {self : WakeRequestPolicyEngine} {policy : WakeSourcePolicy}
    (hpolicy : self.source_policy source = some policy) : policy.source_peer_id = source := by
  have hfound := List.find?_some hpolicy
  simpa using hfound

variable (self : WakeRequestPolicyEngine) (request : ParsedWakeRequest)

theorem evaluate_new_confined (now : Int)
    (power_state : PowerState) : Confined request self (self.evaluate_new request now power_state).2 := by
  unfold evaluate_new
  split
  · exact ⟨rfl, rfl, fun _ _ => rfl, fun _ _ => rfl⟩
  · split
    · exact ⟨rfl, rfl, fun _ _ => rfl, fun _ _ => rfl⟩
    · rename_i policy hpolicy
      have hsource := source_peer_id_of_source_policy hpolicy
      have hattempts : ∀ counted, ∀ source, source ≠ request.source_peer_id →
          (self.attempts.set policy.source_peer_id counted).get? source = self.attempts.get? source := by
        intro counted source hother
        rw [hsource]
        exact Dict.get?_set_of_ne _ _ hother
      have hlast : ∀ source, source ≠ request.source_peer_id →
          (self.last_accepted.set policy.source_peer_id now).get? source = self.last_accepted.get? source := by
        intro source hother
        rw [hsource]
        exact Dict.get?_set_of_ne _ _ hother
      dsimp only
      split
      · exact ⟨rfl, rfl, hattempts _, fun _ _ => rfl⟩
      · split
        · exact ⟨rfl, rfl, hattempts _, fun _ _ => rfl⟩
        · split
          · exact ⟨rfl, rfl, hattempts _, hlast⟩
          · exact ⟨rfl, rfl, hattempts _, hlast⟩

theorem source_peer_id_evaluate_new (now : Int)
    (power_state : PowerState) :
    (self.evaluate_new request now power_state).1.source_peer_id = request.source_peer_id := by
  unfold evaluate_new
  split
  · rfl
  · split
    · rfl
    · dsimp only
      split
      · rfl
      · split
        · rfl
        · split
          · rfl
          · rfl

variable {request : ParsedWakeRequest}

/-- A new request is decided on what is counted for its own source. -/
theorem Agrees.evaluate_new (hagrees : Agrees request.source_peer_id left right)
    (now : Int) (power_state : PowerState) :
    (left.evaluate_new request now power_state).1 = (right.evaluate_new request now power_state).1 ∧
      (left.evaluate_new request now power_state).2.attempts.get? request.source_peer_id =
        (right.evaluate_new request now power_state).2.attempts.get? request.source_peer_id ∧
      (left.evaluate_new request now power_state).2.last_accepted.get? request.source_peer_id =
        (right.evaluate_new request now power_state).2.last_accepted.get? request.source_peer_id := by
  obtain ⟨hconfig, hattempts, hlast, _⟩ := hagrees
  have hbefore : left.refusal_before_budget request now = right.refusal_before_budget request now := by
    unfold refusal_before_budget
    rw [hconfig]
  have hpolicy : left.source_policy request.source_peer_id = right.source_policy request.source_peer_id := by
    unfold source_policy
    rw [hconfig]
  unfold WakeRequestPolicyEngine.evaluate_new
  rw [hbefore, hpolicy]
  cases right.refusal_before_budget request now with
  | some detail => exact ⟨rfl, hattempts, hlast⟩
  | none =>
    dsimp only
    cases hfound : right.source_policy request.source_peer_id with
    | none => exact ⟨rfl, hattempts, hlast⟩
    | some policy =>
      have hsource := source_peer_id_of_source_policy hfound
      have hcounted : left.counted_attempts policy now = right.counted_attempts policy now := by
        unfold counted_attempts
        rw [hsource, hattempts]
      dsimp only
      rw [hcounted, hsource]
      split
      · exact ⟨rfl, by simp, hlast⟩
      · have hafter : ∀ counted other, { left with attempts := counted }.refusal_after_budget policy request now =
            { right with attempts := other }.refusal_after_budget policy request now :=
          fun counted other => by unfold refusal_after_budget; rw [hsource, hlast]
        rw [hafter _ (right.attempts.set request.source_peer_id (right.counted_attempts policy now ++ [now]))]
        split
        · exact ⟨rfl, by simp, hlast⟩
        · split
          · exact ⟨rfl, by simp, by simp⟩
          · exact ⟨rfl, by simp, by simp⟩

/-- A call either raises the same error in every state, or evaluates its request. -/
theorem respond_cases (fingerprint_of : Dict String Json → String) (call : Call) :
    (call.evaluated = none ∧ ∃ error, ∀ self : WakeRequestPolicyEngine, self.respond fingerprint_of call =
      (.error error, self)) ∨
    ∃ request power_state, call.evaluated = some (request, power_state) ∧
      call.sent_by request.source_peer_id = true ∧
      (∀ source, call.sent_by source = true → source = request.source_peer_id) ∧
      ∀ self : WakeRequestPolicyEngine, self.respond fingerprint_of call =
        (.ok (self.evaluate_request fingerprint_of call.payload request call.now_ms power_state).1,
          (self.evaluate_request fingerprint_of call.payload request call.now_ms power_state).2) := by
  unfold respond evaluate Call.evaluated Call.sent_by
  split
  · exact .inl ⟨rfl, _, fun _ => rfl⟩
  · cases call.power_state with
    | none => exact .inl ⟨rfl, _, fun _ => rfl⟩
    | some power_state =>
      cases hparsed : parse_wake_request call.payload with
      | error error => exact .inl ⟨rfl, error, fun _ => rfl⟩
      | ok request =>
        refine .inr ⟨request, power_state, rfl, ?_, ?_, fun _ => rfl⟩
        · simp [Except.toOption]
        · intro source hsource
          simpa [Except.toOption, eq_comm] using hsource

variable {call : Call}

/-- A call of another source changes nothing that the source can tell. -/
theorem Agrees.other (hagrees : Agrees source left right) (hother : call.sent_by source = false) :
    Agrees source (left.respond fingerprint_of call).2 right := by
  rcases respond_cases fingerprint_of call with
    ⟨_, error, hraises⟩ | ⟨request, power_state, _, hsent, _, hrespond⟩
  · rw [hraises]
    exact hagrees
  · have hne : source ≠ request.source_peer_id := by
      rintro rfl
      cases hother.symm.trans hsent
    rw [hrespond]
    unfold evaluate_request
    dsimp only
    split
    · split
      · exact hagrees
      · exact hagrees
    · obtain ⟨hconfig, hdecisions, hattempts, hlast⟩ := left.evaluate_new_confined request call.now_ms power_state
      have hsource := left.source_peer_id_evaluate_new request call.now_ms power_state
      refine ⟨?_, ?_, ?_, ?_⟩
      · rw [config_remember, hconfig]
        exact hagrees.config_eq
      · rw [attempts_remember, hattempts source hne]
        exact hagrees.attempts_eq
      · rw [last_accepted_remember, hlast source hne]
        exact hagrees.last_accepted_eq
      · intro request_id found other hfound hother hfound_source hother_source
        rcases of_get?_remember hfound with ⟨_, rfl⟩ | hold
        · exact absurd (hfound_source.symm.trans hsource) hne
        · rw [hdecisions] at hold
          exact hagrees.remembered_eq request_id found other hold hother hfound_source hother_source

/-- A request of the source that both states recall alike is answered alike. -/
theorem Agrees.evaluate_request (hagrees : Agrees request.source_peer_id left right)
    (payload : Dict String Json) (now : Int) (power_state : PowerState)
    (hrecalls : (left.decisions.get? request.request_id = none ∧ right.decisions.get? request.request_id = none) ∨
      ∃ entry, left.decisions.get? request.request_id = some entry ∧
        right.decisions.get? request.request_id = some entry) :
    (left.evaluate_request fingerprint_of payload request now power_state).1 =
        (right.evaluate_request fingerprint_of payload request now power_state).1 ∧
      Agrees request.source_peer_id (left.evaluate_request fingerprint_of payload request now power_state).2
        (right.evaluate_request fingerprint_of payload request now power_state).2 := by
  unfold WakeRequestPolicyEngine.evaluate_request
  rcases hrecalls with ⟨hleft, hright⟩ | ⟨⟨fingerprint, cached⟩, hleft, hright⟩
  · rw [hleft, hright]
    obtain ⟨hdecision, hattempts, hlast⟩ := hagrees.evaluate_new now power_state
    obtain ⟨hleft_config, hleft_decisions, _, _⟩ := left.evaluate_new_confined request now power_state
    obtain ⟨hright_config, hright_decisions, _, _⟩ := right.evaluate_new_confined request now power_state
    refine ⟨hdecision, ?_, ?_, ?_, ?_⟩
    · dsimp only
      rw [config_remember, config_remember, hleft_config, hright_config]
      exact hagrees.config_eq
    · dsimp only
      rw [attempts_remember, attempts_remember]
      exact hattempts
    · dsimp only
      rw [last_accepted_remember, last_accepted_remember]
      exact hlast
    · intro request_id found other hfound hother hfound_source hother_source
      rcases of_get?_remember hfound with ⟨rfl, rfl⟩ | hfound_old
      · rcases of_get?_remember hother with ⟨_, rfl⟩ | hother_old
        · rw [hdecision]
        · rw [hright_decisions, hright] at hother_old
          cases hother_old
      · rcases of_get?_remember hother with ⟨rfl, rfl⟩ | hother_old
        · rw [hleft_decisions, hleft] at hfound_old
          cases hfound_old
        · rw [hleft_decisions] at hfound_old
          rw [hright_decisions] at hother_old
          exact hagrees.remembered_eq request_id found other hfound_old hother_old hfound_source hother_source
  · rw [hleft, hright]
    dsimp only
    split
    · exact ⟨rfl, hagrees⟩
    · exact ⟨rfl, hagrees⟩

theorem Agrees.own {own : List String} (hagrees : Agrees source left right) (hsent : call.sent_by source = true)
    (hleft : left.RecallsOwn source own call) (hright : right.RecallsOwn source own call) :
    (left.respond fingerprint_of call).1 = (right.respond fingerprint_of call).1 ∧
      Agrees source (left.respond fingerprint_of call).2 (right.respond fingerprint_of call).2 := by
  rcases respond_cases fingerprint_of call with
    ⟨_, error, hraises⟩ | ⟨request, power_state, hevaluated, _, honly, hrespond⟩
  · rw [hraises, hraises]
    exact ⟨rfl, hagrees⟩
  · cases honly source hsent
    have hleft_entry := hleft _ hevaluated rfl
    have hright_entry := hright _ hevaluated rfl
    dsimp only at hleft_entry hright_entry
    have hrecalls : (left.decisions.get? request.request_id = none ∧
        right.decisions.get? request.request_id = none) ∨
        ∃ entry, left.decisions.get? request.request_id = some entry ∧
          right.decisions.get? request.request_id = some entry := by
      split at hleft_entry
      · rename_i hown
        rw [if_pos hown] at hright_entry
        obtain ⟨found, hfound, hfound_source⟩ := Option.map_eq_some_iff.mp hleft_entry
        obtain ⟨other, hother, hother_source⟩ := Option.map_eq_some_iff.mp hright_entry
        have hsame := hagrees.remembered_eq _ found other hfound hother hfound_source hother_source
        exact .inr ⟨found, hfound, hsame ▸ hother⟩
      · rename_i hown
        rw [if_neg hown] at hright_entry
        exact .inl ⟨Option.map_eq_none_iff.mp hleft_entry, Option.map_eq_none_iff.mp hright_entry⟩
    obtain ⟨hdecision, hafter⟩ := hagrees.evaluate_request call.payload call.now_ms power_state hrecalls
    rw [hrespond, hrespond]
    exact ⟨congrArg Except.ok hdecision, hafter⟩

/-- The call says nothing about what the source itself has sent. -/
theorem own_after_other {own : List String} (hother : call.sent_by source = false) :
    own_after source own call = own := by
  rcases respond_cases (fun _ => "") call with
    ⟨hnone, _⟩ | ⟨request, power_state, hevaluated, hsent, _, _⟩
  · unfold own_after
    rw [hnone]
  · have hne : request.source_peer_id ≠ source := by
      rintro rfl
      cases hother.symm.trans hsent
    unfold own_after
    rw [hevaluated]
    exact if_neg (fun hboth => hne hboth.1)

theorem answers_to_of_sent (hsent : call.sent_by source = true) (self : WakeRequestPolicyEngine) (rest : List Call) :
    answers_to fingerprint_of source self (call :: rest) =
      (self.respond fingerprint_of call).1 :: answers_to fingerprint_of source (self.respond fingerprint_of call).2 rest :=
  if_pos hsent

theorem answers_to_of_other (hother : call.sent_by source = false) (self : WakeRequestPolicyEngine) (rest : List Call) :
    answers_to fingerprint_of source self (call :: rest) =
      answers_to fingerprint_of source (self.respond fingerprint_of call).2 rest :=
  if_neg (by simp [hother])

/-- Two runs that recall what the source has sent, with the same requests of the source, answer them alike. -/
theorem answers_agree {own : List String} (hagrees : Agrees source left right) {first second : List Call}
    (hsame : first.filter (fun call => call.sent_by source) = second.filter (fun call => call.sent_by source))
    (hfirst : RunRecallsOwn fingerprint_of source own left first)
    (hsecond : RunRecallsOwn fingerprint_of source own right second) :
    answers_to fingerprint_of source left first = answers_to fingerprint_of source right second := by
  induction first generalizing left right second own with
  | nil =>
    induction second generalizing right with
    | nil => rfl
    | cons other later ih =>
      have hother : other.sent_by source = false := by
        by_contra hsent
        rw [List.filter_cons_of_pos (by simpa using hsent)] at hsame
        cases hsame
      rw [List.filter_cons_of_neg (by simp [hother])] at hsame
      have hlater := hsecond.2
      rw [own_after_other hother] at hlater
      rw [answers_to_of_other hother]
      exact ih (hagrees.symm.other hother).symm hsame hlater
  | cons call rest ih =>
    cases hcall : call.sent_by source with
    | false =>
      rw [List.filter_cons_of_neg (by simp [hcall])] at hsame
      have hrest := hfirst.2
      rw [own_after_other hcall] at hrest
      rw [answers_to_of_other hcall]
      exact ih (hagrees.other hcall) hsame hrest hsecond
    | true =>
      rw [List.filter_cons_of_pos (by simpa using hcall)] at hsame
      induction second generalizing right with
      | nil => cases hsame
      | cons other later ih_second =>
        cases hother : other.sent_by source with
        | false =>
          rw [List.filter_cons_of_neg (by simp [hother])] at hsame
          have hlater := hsecond.2
          rw [own_after_other hother] at hlater
          rw [answers_to_of_other hother]
          exact ih_second (hagrees.symm.other hother).symm hsame hlater
        | true =>
          rw [List.filter_cons_of_pos (by simpa using hother)] at hsame
          obtain ⟨rfl, hrest⟩ := List.cons.inj hsame
          obtain ⟨hanswer, hafter⟩ := hagrees.own hcall hfirst.1 hsecond.1
          rw [answers_to_of_sent hcall, answers_to_of_sent hcall, hanswer, ih hafter hrest hfirst.2 hsecond.2]

/-- Where every request of a source finds its id remembered exactly if it is one of the source's own newest requests,
the other requests of a run make no difference to the answers that the source gets. -/
theorem sources_do_not_interfere (fingerprint_of : Dict String Json → String) (config : WakePolicyConfig)
    (source : String) (first second : List Call)
    (hsame : first.filter (fun call => call.sent_by source) = second.filter (fun call => call.sent_by source))
    (hfirst : RunRecallsOwn fingerprint_of source [] (new config) first)
    (hsecond : RunRecallsOwn fingerprint_of source [] (new config) second) :
    answers_to fingerprint_of source (new config) first = answers_to fingerprint_of source (new config) second := by
  refine answers_agree ⟨rfl, rfl, rfl, ?_⟩ hsame hfirst hsecond
  intro request_id found other hfound
  cases hfound

/-- A request for a suspended body. -/
def motion_call (request_id source_peer_id : String) (now_ms : Int) : Call where
  payload :=
    { items :=
        [("schema", .text WAKE_REQUEST_SCHEMA), ("request_id", .text request_id),
          ("source_peer_id", .text source_peer_id), ("target_body_id", .text "founder"),
          ("reason", .text "security_motion"), ("severity", .text "attention"), ("observed_at_ms", .int 1000),
          ("expires_at_ms", .int 61000), ("canonical", .bool false), ("grants_authority", .bool false),
          ("grants_execution", .bool false), ("grants_actuation", .bool false), ("authority", .text "none")]
      nodup := by simp }
  now_ms
  power_state := some .suspended

/-- The identities of a request stand for its fingerprint. -/
def identity_fingerprint (payload : Dict String Json) : String :=
  (text_of payload "source_peer_id").getD "" ++ "/" ++ (text_of payload "request_id").getD ""

/-- The camera's request `r1` is eligible, unless an unknown peer has used the id `r1` before. -/
theorem request_id_shadowed :
    let alone := [motion_call "r1" "door-camera" 2000]
    let shadowed := motion_call "r1" "garage" 1500 :: alone
    let decided := fun calls => (answers_to identity_fingerprint "door-camera"
      (new velvet.wake_power_supervisor.plain_config) calls).map
        (fun answer => answer.toOption.map (fun decision => (decision.accepted, decision.detail)))
    alone.filter (fun call => call.sent_by "door-camera") = shadowed.filter (fun call => call.sent_by "door-camera") ∧
      decided alone = [some (true, "wake request is eligible for the reviewed power adapter")] ∧
      decided shadowed = [some (false, "request_id reused with different content")] := by
  refine ⟨(List.filter_cons_of_neg (by decide)).symm, by decide, by decide⟩

/-- A request `g1` of the unknown peer between the camera's request and its retransmission makes no difference. -/
theorem other_request_unnoticed :
    answers_to identity_fingerprint "door-camera" (new velvet.wake_power_supervisor.plain_config)
        [motion_call "r1" "door-camera" 2000, motion_call "r1" "door-camera" 3000] =
      answers_to identity_fingerprint "door-camera" (new velvet.wake_power_supervisor.plain_config)
        [motion_call "r1" "door-camera" 2000, motion_call "g1" "garage" 2500, motion_call "r1" "door-camera" 3000] :=
  sources_do_not_interfere identity_fingerprint velvet.wake_power_supervisor.plain_config "door-camera" _ _
    (by rfl) (by decide) (by decide)

end velvet.wake_request_policy.WakeRequestPolicyEngine
