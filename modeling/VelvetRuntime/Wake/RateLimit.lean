import VelvetRuntime.SlidingWindow
import VelvetRuntime.Wake.Sources

open python sliding_window

namespace velvet.wake_request_policy.WakeRequestPolicyEngine

/-- A new request is counted when it passes the checks before the budget and there is room in the budget. -/
def counts (self : WakeRequestPolicyEngine) (request : ParsedWakeRequest) (now : Int) : Bool :=
  (self.refusal_before_budget request now).isNone && (self.source_policy request.source_peer_id).any (fun policy =>
    (self.counted_attempts policy now).length < policy.max_requests_per_window)

/-- The attempts that a call adds to the budget of a source: the time of the call, or none. -/
def counted_by (self : WakeRequestPolicyEngine) (source : String) (call : Call) : List Int :=
  match call.evaluated with
  | some (request, _) =>
    if request.source_peer_id = source ∧ (self.decisions.get? request.request_id).isNone ∧
        self.counts request call.now_ms then [call.now_ms]
    else []
  | none => []

/-- The time of an answer that accepts a request of a source, and is not the answer to a duplicate. -/
def accepted_in (source : String) : Except Error WakePolicyDecision → List Int
  | .ok decision =>
    if decision.source_peer_id = source ∧ decision.accepted ∧ decision.state ≠ .duplicate then [decision.evaluated_at_ms]
    else []
  | .error _ => []

section

variable (fingerprint_of : Dict String Json → String) (source : String)

/-- The times of the counted attempts of a source in a run. -/
def counted_times : WakeRequestPolicyEngine → List Call → List Int
  | _, [] => []
  | self, call :: rest => self.counted_by source call ++ counted_times (self.respond fingerprint_of call).2 rest

/-- The times at which requests of a source are accepted in a run, duplicates apart. -/
def accepted_times : WakeRequestPolicyEngine → List Call → List Int
  | _, [] => []
  | self, call :: rest =>
    accepted_in source (self.respond fingerprint_of call).1 ++ accepted_times (self.respond fingerprint_of call).2 rest

end

/-- What is stored for a source, against everything that was counted and accepted for it up to a time. -/
structure Budget (engine : WakeRequestPolicyEngine) (policy : WakeSourcePolicy) (counted accepted : List Int)
    (clock : Int) : Prop where
  known : engine.source_policy policy.source_peer_id = some policy
  trimmed : Trimmed policy.window_ms counted ((engine.attempts.get? policy.source_peer_id).getD []) clock
  bounded : Bounded policy.window_ms policy.max_requests_per_window counted
  accepted_counted : accepted.Sublist counted
  spaced : accepted.Pairwise (fun earlier later : Int => earlier + policy.cooldown_ms ≤ later)
  last : engine.last_accepted.get? policy.source_peer_id = accepted.getLast?

variable {self : WakeRequestPolicyEngine} {policy : WakeSourcePolicy}
  {counted accepted : List Int} {clock now : Int}

/-- What the budget of a source depends on. -/
theorem Budget.congr {after : WakeRequestPolicyEngine} (hbudget : self.Budget policy counted accepted clock)
    (hconfig : after.config = self.config)
    (hattempts : after.attempts.get? policy.source_peer_id = self.attempts.get? policy.source_peer_id)
    (hlast : after.last_accepted.get? policy.source_peer_id = self.last_accepted.get? policy.source_peer_id) :
    after.Budget policy counted accepted clock := by
  obtain ⟨hknown, htrimmed, hbounded, hcounted, hspaced, hold⟩ := hbudget
  refine ⟨?_, hattempts ▸ htrimmed, hbounded, hcounted, hspaced, hlast.trans hold⟩
  unfold source_policy at hknown ⊢
  rw [hconfig]
  exact hknown

theorem Budget.later (hbudget : self.Budget policy counted accepted clock) (hnow : clock ≤ now) :
    self.Budget policy counted accepted now :=
  { hbudget with trimmed := hbudget.trimmed.later hnow }

/-- An accepted request keeps its distance from all that were accepted before. -/
theorem Budget.accepted_before (hbudget : self.Budget policy counted accepted clock)
    (hcooldown : ∀ last, self.last_accepted.get? policy.source_peer_id = some last → policy.cooldown_ms ≤ now - last) :
    ∀ earlier ∈ accepted, earlier + policy.cooldown_ms ≤ now := by
  intro earlier hearlier
  have hspaced := hbudget.spaced
  have hlast := hbudget.last
  cases List.eq_nil_or_concat accepted with
  | inl hnil =>
    rw [hnil] at hearlier
    cases hearlier
  | inr hconcat =>
    obtain ⟨front, newest, rfl⟩ := hconcat
    rw [List.concat_eq_append] at hearlier hspaced hlast
    rw [List.getLast?_concat] at hlast
    have hnewest := hcooldown newest hlast
    rcases List.mem_append.mp hearlier with hfront | hsame
    · have hbetween := (List.pairwise_append.mp hspaced).2.2 earlier hfront newest (List.mem_singleton_self _)
      have hcooldown_nonneg : (0 : Int) ≤ policy.cooldown_ms := Int.natCast_nonneg _
      omega
    · rw [List.mem_singleton.mp hsame]
      omega

/-- A new request of the source, with what it adds. -/
theorem Budget.evaluate_new {request : ParsedWakeRequest} (hbudget : self.Budget policy counted accepted now)
    (hsource : request.source_peer_id = policy.source_peer_id) (power_state : PowerState) :
    (self.evaluate_new request now power_state).2.Budget policy
      (counted ++ if self.counts request now then [now] else [])
      (accepted ++ accepted_in policy.source_peer_id (.ok (self.evaluate_new request now power_state).1)) now := by
  have hknown := hbudget.known
  have hrefused : ∀ detail, accepted_in policy.source_peer_id
      (.ok (decision request now power_state false .refused detail)) = [] := by
    intro detail
    simp [accepted_in, decision]
  have haccepted : ∀ state detail, state ≠ .duplicate → accepted_in policy.source_peer_id
      (.ok (decision request now power_state true state detail)) = [now] := by
    intro state detail hstate
    simp [accepted_in, decision, hsource, hstate]
  unfold WakeRequestPolicyEngine.evaluate_new counts
  rw [hsource, hknown]
  cases hbefore : self.refusal_before_budget request now with
  | some detail =>
    dsimp only
    rw [hrefused]
    simpa using hbudget
  | none =>
    dsimp only
    by_cases hfull : policy.max_requests_per_window ≤ (self.counted_attempts policy now).length
    · rw [if_pos hfull, hrefused]
      simp only [Option.isNone_none, Option.any_some, Bool.true_and, decide_eq_true_eq, not_lt.mpr hfull, if_false,
        List.append_nil]
      refine { hbudget with known := hknown, trimmed := ?_ }
      rw [Dict.get?_set_self]
      exact hbudget.trimmed.trim
    · have hroom := not_le.mp hfull
      have hconcat := hbudget.trimmed.trim.concat now
      have hbounded := hbudget.bounded.concat hbudget.trimmed.trim hroom
      rw [if_neg hfull]
      simp only [Option.isNone_none, Option.any_some, Bool.true_and, decide_eq_true_eq, hroom, if_true]
      split
      · rw [hrefused, List.append_nil]
        refine ⟨hknown, ?_, hbounded, hbudget.accepted_counted.trans (List.sublist_append_left _ _), hbudget.spaced,
          hbudget.last⟩
        rw [Dict.get?_set_self]
        exact hconcat
      · rename_i hpasses
        have hcooldown : ∀ last, self.last_accepted.get? policy.source_peer_id = some last →
            policy.cooldown_ms ≤ now - last := by
          intro last hlast
          unfold refusal_after_budget at hpasses
          dsimp only at hpasses
          rw [hlast] at hpasses
          split at hpasses
          · cases hpasses
          · split at hpasses
            · cases hpasses
            · split at hpasses
              · cases hpasses
              · dsimp only at hpasses
                split at hpasses
                · cases hpasses
                · rename_i hspaced
                  exact not_lt.mp hspaced
        have hspaced : (accepted ++ [now]).Pairwise (fun earlier later : Int => earlier + policy.cooldown_ms ≤ later) := by
          refine List.pairwise_append.mpr ⟨hbudget.spaced, List.pairwise_singleton _ _, ?_⟩
          intro earlier hearlier later hlater
          rw [List.mem_singleton.mp hlater]
          exact hbudget.accepted_before hcooldown earlier hearlier
        have hboth : ∀ state detail, state ≠ .duplicate → Budget
            { self with
              attempts := self.attempts.set policy.source_peer_id (self.counted_attempts policy now ++ [now])
              last_accepted := self.last_accepted.set policy.source_peer_id now }
            policy (counted ++ [now])
            (accepted ++ accepted_in policy.source_peer_id (.ok (decision request now power_state true state detail)))
            now := by
          intro state detail hstate
          rw [haccepted state detail hstate]
          refine ⟨hknown, ?_, hbounded, hbudget.accepted_counted.append (List.Sublist.refl _), hspaced, ?_⟩
          · rw [Dict.get?_set_self]
            exact hconcat
          · rw [Dict.get?_set_self, List.getLast?_concat]
        split
        · exact hboth .already_awake _ (by decide)
        · exact hboth .eligible _ (by decide)

theorem accepted_in_of_source_ne {source : String} {decision : WakePolicyDecision}
    (hsource : decision.source_peer_id ≠ source) : accepted_in source (.ok decision) = [] :=
  if_neg (fun hall => hsource hall.1)

/-- A call adds to the budget of a source what it counts and what it accepts. -/
theorem Budget.respond (fingerprint_of : Dict String Json → String) {call : Call} (hbudget : self.Budget policy counted accepted call.now_ms) :
    (self.respond fingerprint_of call).2.Budget policy
      (counted ++ self.counted_by policy.source_peer_id call)
      (accepted ++ accepted_in policy.source_peer_id (self.respond fingerprint_of call).1) call.now_ms := by
  rcases respond_cases fingerprint_of call with
    ⟨hnone, error, hraises⟩ | ⟨request, power_state, hevaluated, _, _, hrespond⟩
  · rw [hraises]
    unfold counted_by accepted_in
    rw [hnone]
    simpa using hbudget
  · rw [hrespond]
    unfold counted_by evaluate_request
    rw [hevaluated]
    cases hremembered : self.decisions.get? request.request_id with
    | some entry =>
      -- Both answers from memory count nothing and accept nothing anew.
      have hnothing : ∀ accepted_before state detail, accepted_before = false ∨ state = .duplicate →
          accepted_in policy.source_peer_id
            (.ok (decision request call.now_ms power_state accepted_before state detail)) = [] := by
        rintro accepted_before state detail (rfl | rfl)
        · simp [accepted_in, decision]
        · simp [accepted_in, decision]
      have hcounted : ¬(request.source_peer_id = policy.source_peer_id ∧ (some entry).isNone ∧
          self.counts request call.now_ms) := by simp
      dsimp only
      rw [hremembered, if_neg hcounted, List.append_nil]
      split
      · rw [hnothing _ _ _ (.inl rfl), List.append_nil]
        exact hbudget
      · rw [hnothing _ _ _ (.inr rfl), List.append_nil]
        exact hbudget
    | none =>
      dsimp only
      rw [hremembered]
      by_cases hsource : request.source_peer_id = policy.source_peer_id
      · have hafter := hbudget.evaluate_new hsource power_state
        simp only [hsource, Option.isNone_none, true_and]
        refine hafter.congr ?_ ?_ ?_
        · rw [config_remember]
        · rw [attempts_remember]
        · rw [last_accepted_remember]
      · have hconfined := self.evaluate_new_confined request call.now_ms power_state
        have hother := self.source_peer_id_evaluate_new request call.now_ms power_state
        rw [if_neg (fun hall => hsource hall.1), accepted_in_of_source_ne (hother ▸ hsource), List.append_nil,
          List.append_nil]
        refine hbudget.congr ?_ ?_ ?_
        · rw [config_remember, hconfined.config_eq]
        · rw [attempts_remember, hconfined.attempts_eq _ (Ne.symm hsource)]
        · rw [last_accepted_remember, hconfined.last_accepted_eq _ (Ne.symm hsource)]

/-- A run adds to the budget of a source all that its calls count and accept, where the clock never goes back. -/
theorem Budget.run (fingerprint_of : Dict String Json → String) {calls : List Call} (hbudget : self.Budget policy counted accepted clock)
    (hclock : ∀ call ∈ calls, clock ≤ call.now_ms) (hmonotone : (calls.map Call.now_ms).Pairwise (· ≤ ·)) :
    ∃ last clock, Budget last policy (counted ++ counted_times fingerprint_of policy.source_peer_id self calls)
      (accepted ++ accepted_times fingerprint_of policy.source_peer_id self calls) clock := by
  induction calls generalizing self counted accepted clock with
  | nil => exact ⟨self, clock, by simpa [counted_times, accepted_times] using hbudget⟩
  | cons call rest ih =>
    obtain ⟨hfirst, hrest⟩ := List.pairwise_cons.mp hmonotone
    have hstep := (hbudget.later (hclock call List.mem_cons_self)).respond fingerprint_of
    unfold counted_times accepted_times
    rw [← List.append_assoc, ← List.append_assoc]
    exact ih hstep (fun later hlater => hfirst _ (List.mem_map_of_mem hlater)) hrest

/-- At the start nothing is stored for any source. -/
theorem attempts_new (config : WakePolicyConfig) (source : String) :
    (((new config).attempts.get? source).getD []) = [] := by
  have hfold : ∀ (sources : List WakeSourcePolicy) (attempts : Dict String (List Int)),
      (attempts.get? source).getD [] = [] →
      ((sources.foldl (fun attempts policy => attempts.set policy.source_peer_id []) attempts).get? source).getD []
        = [] := by
    intro sources
    induction sources with
    | nil => exact fun _ hempty => hempty
    | cons policy rest ih =>
      intro attempts hempty
      refine ih _ ?_
      rw [Dict.get?_set]
      split
      · rfl
      · exact hempty
  exact hfold config.sources .empty rfl

variable {config : WakePolicyConfig}

theorem source_policy_new (hpolicy : policy ∈ config.sources) :
    (new config).source_policy policy.source_peer_id = some policy := by
  unfold source_policy new
  dsimp only
  cases hfind : config.sources.find? (fun source => source.source_peer_id = policy.source_peer_id) with
  | none =>
    rw [List.find?_eq_none] at hfind
    exact absurd (hfind policy hpolicy) (by simp)
  | some found =>
    have hmem := List.mem_of_find?_eq_some hfind
    have hname : found.source_peer_id = policy.source_peer_id := by simpa using List.find?_some hfind
    rw [List.inj_on_of_nodup_map config.sources_distinct hmem hpolicy hname]

theorem budget_new (hpolicy : policy ∈ config.sources) (clock : Int) :
    (new config).Budget policy [] [] clock := by
  refine ⟨source_policy_new hpolicy, ?_, bounded_nil _ _, List.Sublist.refl _, List.Pairwise.nil, rfl⟩
  rw [attempts_new]
  exact trimmed_nil _ _

/-- In every run whose clock never goes back, no half-open window of a source's window length holds more counted attempts
of the source than its policy allows, nor more accepted requests; and accepted requests keep the source's cooldown. -/
theorem wake_rate_is_bounded (fingerprint_of : Dict String Json → String) (config : WakePolicyConfig)
    (policy : WakeSourcePolicy) (hpolicy : policy ∈ config.sources) (calls : List Call)
    (hmonotone : (calls.map Call.now_ms).Pairwise (· ≤ ·)) :
    (∀ start, (within policy.window_ms
      (counted_times fingerprint_of policy.source_peer_id (new config) calls) start).length ≤
        policy.max_requests_per_window) ∧
    (∀ start, (within policy.window_ms
      (accepted_times fingerprint_of policy.source_peer_id (new config) calls) start).length ≤
        policy.max_requests_per_window) ∧
    (accepted_times fingerprint_of policy.source_peer_id (new config) calls).Pairwise
      (fun earlier later : Int => earlier + policy.cooldown_ms ≤ later) := by
  obtain ⟨clock, hclock⟩ : ∃ clock : Int, ∀ call ∈ calls, clock ≤ call.now_ms := by
    cases calls with
    | nil => exact ⟨0, fun _ hcall => nomatch hcall⟩
    | cons call rest =>
      refine ⟨call.now_ms, List.forall_mem_cons.mpr ⟨le_refl _, fun later hlater => ?_⟩⟩
      exact (List.pairwise_cons.mp hmonotone).1 _ (List.mem_map_of_mem hlater)
  obtain ⟨_, _, hbudget⟩ := (budget_new hpolicy clock).run fingerprint_of hclock hmonotone
  rw [List.nil_append, List.nil_append] at hbudget
  exact ⟨hbudget.bounded, hbudget.bounded.sublist hbudget.accepted_counted, hbudget.spaced⟩

/-- The camera asks three times; the second request comes too early to be accepted, and still counts. -/
theorem camera_rate_is_bounded :
    let calls := [motion_call "r1" "door-camera" 900, motion_call "r2" "door-camera" 1500,
      motion_call "r3" "door-camera" 60950]
    let config := velvet.wake_power_supervisor.plain_config
    counted_times identity_fingerprint "door-camera" (new config) calls = [900, 1500, 60950] ∧
      accepted_times identity_fingerprint "door-camera" (new config) calls = [900, 60950] ∧
      ∀ start, (within 600000 (counted_times identity_fingerprint "door-camera" (new config) calls) start).length ≤ 10 := by
  intro calls config
  exact ⟨by decide, by decide, (wake_rate_is_bounded identity_fingerprint config
    velvet.wake_power_supervisor.plain_source (List.mem_singleton_self _) calls (by decide)).1⟩

end velvet.wake_request_policy.WakeRequestPolicyEngine
