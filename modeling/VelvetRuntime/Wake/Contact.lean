import VelvetRuntime.Wake.Supervisor

open python velvet.wake_request_policy

namespace velvet.founder_wake_actuator

open Program

def MIN_POWER_BUTTON_PULSE_MS : Nat := 100
def MAX_POWER_BUTTON_PULSE_MS : Nat := 1000

/-- The power-button adapter with its injected contact driver and sleeper, each of which acts on the world and
returns or raises there. The proof is the constructor's check. -/
structure PowerButtonContactActuator (ω : Type) where
  set_contact_closed : Bool → Program Error ω Unit
  sleep : ℚ → Program Error ω Unit
  pulse_ms : Nat
  pulse_bounds : MIN_POWER_BUTTON_PULSE_MS ≤ pulse_ms ∧ pulse_ms ≤ MAX_POWER_BUTTON_PULSE_MS

/-- One wake in progress: the world, the contact operations attempted so far, and the local flag of `dispatch`. -/
structure ContactWake (ω : Type) where
  world : ω
  attempts : List Bool
  close_started : Bool

/-- The wake before its first statement. -/
def ContactWake.start {ω : Type} (world : ω) : ContactWake ω := ⟨world, [], false⟩

/-- Every attempt to close the contact is followed by an attempt to open it. -/
def Reopened (attempts : List Bool) : Prop :=
  ∀ front back, attempts = front ++ true :: back → false ∈ back

/-- `_eligible_decision`; the grants and the authority of a decision are fixed. -/
def eligible_decision (decision : WakePolicyDecision) : Except Error WakePolicyDecision :=
  if !decision.accepted ∨ decision.state ≠ .eligible then
    .error (actuation_error "only eligible accepted wake decisions may actuate")
  else .ok decision

/-- A call of the injected hardware. -/
def in_world {ω α : Type} (call : Program Error ω α) : Program Error (ContactWake ω) α := fun wake =>
  match call wake.world with
  | .ok value world => .ok value { wake with world }
  | .error error world => .error error { wake with world }

/-- `except Exception as exc: raise FounderWakeActuationError(text % exc) from exc`. -/
def raised_as {ω α : Type} (text : String) (error : Error) : Program Error (ContactWake ω) α :=
  if error.is_exception then throw (actuation_error (text ++ error.message)) else throw error

namespace PowerButtonContactActuator

variable {ω : Type} (self : PowerButtonContactActuator ω)

/-- A call of the contact driver. -/
def attempt (closed : Bool) : Program Error (ContactWake ω) Unit := do
  modify (fun wake => { wake with attempts := wake.attempts ++ [closed] })
  in_world (self.set_contact_closed closed)

/-- The body of the `try`. -/
def pulse : Program Error (ContactWake ω) Unit := do
  self.attempt true
  modify (fun wake => { wake with close_started := true })
  in_world (self.sleep ((self.pulse_ms : ℚ) / 1000))

/-- The body of the `finally`. -/
def release : Program Error (ContactWake ω) Unit := do
  let wake ← get
  if wake.close_started then
    tryCatch (self.attempt false) (raised_as "power-button contact could not be released: ")
  else pure ()

def dispatch (decision : WakePolicyDecision) : Program Error (ContactWake ω) WakeActuationResult := do
  let decision ← of_except (eligible_decision decision)
  modify (fun wake => { wake with close_started := false })
  tryFinally (tryCatch self.pulse (raised_as "power-button contact pulse failed: ")) self.release
  pure ⟨decision.request_id, decision.target_body_id, some .power_button_contact, true,
    "Founder power-button contact pulsed for " ++ toString self.pulse_ms ++ " ms"⟩

/-- The contact operations that a wake attempts, however it ends. -/
def attempts_of (decision : WakePolicyDecision) (world : ω) : List Bool :=
  ((self.dispatch decision).after (.start world)).attempts

/-- Whether the driver's call that closes the contact returns. -/
def close_returns (world : ω) : Bool := ((self.set_contact_closed true).result world).isOk

end PowerButtonContactActuator

section

variable {ω α : Type} {wake : ContactWake ω} {returns : α → ContactWake ω → Prop}

/-- A call of the hardware changes the world only. -/
@[simp] theorem wp_in_world {call : Program Error ω α}
    {raises : Error → ContactWake ω → Prop} :
    wp (in_world call) returns raises wake ↔
      wp call (fun value world => returns value { wake with world }) (fun error world => raises error { wake with world })
        wake.world := by
  unfold wp EStateM.run in_world
  cases call wake.world with
  | ok value world => rfl
  | error error world => rfl

/-- An exception that is raised again under another class leaves the wake as it is. -/
theorem wp_raised_as {text : String} {error : Error} {holds : ContactWake ω → Prop}
    (hholds : holds wake) : wp (raised_as text error) returns (fun _ => holds) wake := by
  unfold raised_as
  by_cases hexception : error.is_exception
  · rw [if_pos hexception]
    exact hholds
  · rw [if_neg hexception]
    exact hholds

/-- A wake that attempted nothing leaves nothing to reopen. -/
theorem reopened_nil : Reopened [] := by
  intro front back hnil
  simp at hnil

theorem reopened_pulse : Reopened [true, false] := by
  intro front back hpulse
  rcases front with _ | ⟨first, front⟩
  · cases hpulse
    exact List.mem_singleton.mpr rfl
  · rcases front with _ | ⟨second, front⟩ <;> simp at hpulse

theorem not_reopened_close : ¬Reopened [true] := fun hreopened => List.not_mem_nil (hreopened [] [] rfl)

end

namespace PowerButtonContactActuator

variable {ω : Type} (self : PowerButtonContactActuator ω) {wake : ContactWake ω}

/-- The pulse attempts to close the contact, and its flag says whether that call returned. -/
theorem pulse_spec (hstarted : wake.close_started = false) :
    wp self.pulse
      (fun _ after => after.attempts = wake.attempts ++ [true] ∧ after.close_started = self.close_returns wake.world)
      (fun _ after => after.attempts = wake.attempts ++ [true] ∧ after.close_started = self.close_returns wake.world)
      wake := by
  simp only [pulse, attempt, wp_bind, wp_modify, wp_in_world]
  unfold close_returns result wp
  cases (self.set_contact_closed true).run wake.world with
  | error error world => exact ⟨trivial, hstarted⟩
  | ok _ world =>
    dsimp only
    cases (self.sleep ((self.pulse_ms : ℚ) / 1000)).run world with
    | error error world => exact ⟨trivial, rfl⟩
    | ok _ world => exact ⟨trivial, rfl⟩

/-- The contact is opened if it was closed, whatever the driver does. -/
theorem release_spec :
    wp self.release
      (fun _ after => after.attempts = wake.attempts ++ if wake.close_started then [false] else [])
      (fun _ after => after.attempts = wake.attempts ++ if wake.close_started then [false] else []) wake := by
  simp only [release, wp_bind, wp_get]
  cases wake.close_started with
  | false =>
    simp only [Bool.false_eq_true, if_false, wp_pure]
    exact (List.append_nil _).symm
  | true =>
    simp only [if_true, wp_tryCatch, attempt, wp_bind, wp_modify, wp_in_world]
    unfold wp
    cases (self.set_contact_closed false).run wake.world with
    | ok _ world => trivial
    | error error world => exact wp_raised_as rfl

/-- The pulse and the opening after it, as one statement. -/
theorem pulse_release_spec (hstarted : wake.close_started = false) :
    wp (tryFinally (tryCatch self.pulse (raised_as "power-button contact pulse failed: ")) self.release)
      (fun _ after => after.attempts = wake.attempts ++ [true] ++ if self.close_returns wake.world then [false] else [])
      (fun _ after => after.attempts = wake.attempts ++ [true] ++ if self.close_returns wake.world then [false] else [])
      wake := by
  have hrelease : ∀ pulsed : ContactWake ω,
      pulsed.attempts = wake.attempts ++ [true] ∧ pulsed.close_started = self.close_returns wake.world →
      wp self.release
        (fun _ after => after.attempts = wake.attempts ++ [true] ++ if self.close_returns wake.world then [false] else [])
        (fun _ after => after.attempts = wake.attempts ++ [true] ++ if self.close_returns wake.world then [false] else [])
        pulsed := by
    rintro pulsed ⟨hattempts, hflag⟩
    rw [← hattempts, ← hflag]
    exact self.release_spec
  rw [wp_tryFinally, wp_tryCatch]
  refine wp_mono (self.pulse_spec hstarted) (fun _ pulsed => hrelease pulsed) ?_
  intro error pulsed hpulsed
  exact wp_raised_as (hrelease pulsed hpulsed)

/-- What a wake attempts: nothing for a decision that is not eligible, and the opening of the contact only
where the call that closes it returned. -/
theorem attempts_of_eq (decision : WakePolicyDecision) (world : ω) :
    self.attempts_of decision world =
      if decision.accepted ∧ decision.state = .eligible then
        [true] ++ (if self.close_returns world then [false] else [])
      else [] := by
  by_cases heligible : decision.accepted ∧ decision.state = .eligible
  · rw [if_pos heligible]
    apply (wp_result_after (fun _ (wake : ContactWake ω) => wake.attempts = _)).mp
    unfold dispatch eligible_decision
    rw [if_neg (by simp [heligible])]
    simp only [wp_bind, wp_of_except, wp_modify]
    exact self.pulse_release_spec rfl
  · rw [if_neg heligible]
    apply (wp_result_after (fun _ (wake : ContactWake ω) => wake.attempts = _)).mp
    unfold dispatch eligible_decision
    rw [if_pos (by simpa [imp_iff_not_or] using heligible)]
    simp only [wp_bind, wp_of_except]
    rfl

/-- **Power contact is always reopened**, for every driver and sleeper: of an eligible decision exactly when the
call that closes the contact returns. A driver that raises after it closed the contact leaves it closed. -/
theorem contact_reopened_iff (decision : WakePolicyDecision) (world : ω) :
    Reopened (self.attempts_of decision world) ↔
      (decision.accepted = true ∧ decision.state = .eligible → self.close_returns world = true) := by
  rw [attempts_of_eq]
  by_cases heligible : decision.accepted ∧ decision.state = .eligible
  · rw [if_pos heligible]
    cases hcloses : self.close_returns world with
    | true => simpa [heligible] using reopened_pulse
    | false => simpa [heligible] using not_reopened_close
  · rw [if_neg heligible]
    exact ⟨fun _ hthen => absurd hthen heligible, fun _ => reopened_nil⟩

end PowerButtonContactActuator

/-- A contact, which is the world here, whose driver loses its device after it closed the contact. -/
def failing_after_close : PowerButtonContactActuator Bool where
  set_contact_closed closed := do
    set closed
    if closed then throw ⟨.OSError, "device not configured"⟩ else pure ()
  sleep _ := pure ()
  pulse_ms := 250
  pulse_bounds := by decide

/-- The decision to wake a body that is off. -/
def wake_for_motion : WakePolicyDecision :=
  ⟨"wake-1", "seat-node", "founder", .security_motion, .urgent, true, .eligible, "wake request is eligible", 12000, .off,
    [], "motion"⟩

/-- The contact stays closed: no attempt to open it follows the one that closed it. -/
theorem contact_left_closed :
    ¬Reopened (failing_after_close.attempts_of wake_for_motion false) ∧
      ((failing_after_close.dispatch wake_for_motion).after (.start false)).world = true := by
  have hattempts : failing_after_close.attempts_of wake_for_motion false = [true] := rfl
  exact ⟨hattempts ▸ not_reopened_close, rfl⟩

end velvet.founder_wake_actuator
