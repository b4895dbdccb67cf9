import VelvetRuntime.BodyAdapter.Events
import VelvetRuntime.Python.Except

open python python.num python.str velvet.body_adapter

/-! What the four seat adapters have in common. Each source module has its own copy of these functions: the texts in which
they differ are the fields of a `SeatModule`. -/

namespace velvet.seat

/-- `_ID_PATTERN`. -/
def is_id (text : String) : Bool :=
  1 ≤ text.toList.length && text.toList.length ≤ 64 && text.toList.all (fun c => c.isAlphanum || c ∈ ['_', '.', ':', '-'])

/-- `_TEXT_PATTERN`: printable ASCII. -/
def is_text (text : String) : Bool :=
  1 ≤ text.toList.length && text.toList.length ≤ 96 && text.toList.all (fun c => ' ' ≤ c && c ≤ '~')

def value_error (message : String) : Error := ⟨.ValueError, message⟩

/-- `.upper()` of text that is printable ASCII. -/
def upper (text : String) : String := String.ofList (text.toList.map Char.toUpper)

/-- `_required_expected_text(value, label)`. -/
def required_expected_text (label : String) : Json → Except Error String
  | .text value =>
    if Blank value ∨ is_text value = false then .error (value_error (label ++ " must be bounded printable ASCII text"))
    else .ok (stripped value)
  | _ => .error (value_error (label ++ " must be bounded printable ASCII text"))

/-- What sets one module apart from the others: its names and bounds, and the texts that it writes. -/
structure SeatModule where
  identity : ModuleIdentity
  stale_after_ms : Int
  failure_threshold : Int
  recovery_action : String
  diagnostic : String → String → List (String × Json)
  failure_code : String
  stale_detail : String
  stale_code : String

/-- `_health_event`. -/
def SeatModule.health_event (seat : SeatModule) (event_id : RecordId) (wall : ℚ) (event_type severity : String)
    (state_before state_after : BodyState) (detail reason_code : String) (extra : List (String × Json)) : HealthEvent where
  identity := seat.identity
  event_id
  event_type
  timestamp := wall
  severity
  state_before
  state_after
  diagnostic_payload := seat.diagnostic detail reason_code ++ extra
  recovery_action := seat.recovery_action

/-- The part of an adapter's state that every seat adapter has. `last_reason` is `_last_rejection_reason`, and in the body
map `_last_failure_reason`. -/
structure SeatHealth where
  state : BodyState
  last_seen_monotonic : Option ℚ
  stale_reported : Bool
  consecutive_failures : Nat
  last_reason : Option String
  deriving DecidableEq

namespace SeatHealth

def initial : SeatHealth := ⟨.UNKNOWN, none, false, 0, none⟩

/-- The state after an accepted observation. -/
def seen (new_state : BodyState) (monotonic : ℚ) : SeatHealth where
  state := new_state
  last_seen_monotonic := some monotonic
  stale_reported := false
  consecutive_failures := 0
  last_reason := none

variable (seat : SeatModule) (health : SeatHealth) (ambient : Ambient)

/-- `reject_observation(reason_code, detail, now_wall)`. -/
def reject_observation (reason_code detail : Json) (now_wall : Option Json) : SeatHealth × Except Error Cycle :=
  let checked := do
    let reason ← required_expected_text "reason_code" reason_code
    let message ← required_expected_text "detail" detail
    if health.last_reason = some (upper reason) then pure none
    else do
      let wall ← reading "now_wall" now_wall ambient.time
      pure (some (upper reason, message, wall))
  match checked with
  | .error error => (health, .error error)
  | .ok none => (health, .ok .empty)
  | .ok (some (reason, message, wall)) =>
    ({ health with state := .DEGRADED, last_reason := some reason },
      .ok (.health (seat.health_event ambient.health_id wall "REJECTED" "WARNING" health.state .DEGRADED message reason [])))

/-- The state that a failure leads to. -/
def failure_state : BodyState :=
  if seat.failure_threshold ≤ (health.consecutive_failures + 1 : Nat) then .FAILED else .DEGRADED

/-- `mark_failure(reason, now_wall)`. A failure that is reported already is still counted. -/
def mark_failure (reason : Json) (now_wall : Option Json) : SeatHealth × Except Error Cycle :=
  let checked := do
    let detail ← required_expected_text "failure reason" reason
    let wall ← reading "now_wall" now_wall ambient.time
    pure (detail, wall)
  match checked with
  | .error error => (health, .error error)
  | .ok (detail, wall) =>
    let counted := { health with consecutive_failures := health.consecutive_failures + 1 }
    let new_state := health.failure_state seat
    if health.state = new_state ∧ health.last_reason = some detail then (counted, .ok .empty)
    else
      ({ counted with state := new_state, last_reason := some detail },
        .ok (.health (seat.health_event ambient.health_id wall (if new_state = .FAILED then "FAILED" else "DEGRADED")
          (if new_state = .FAILED then "ERROR" else "WARNING") health.state new_state detail seat.failure_code
          [("consecutive_failures", .int counted.consecutive_failures)])))

/-- `check_stale(now_wall, now_monotonic)`. -/
def check_stale (now_wall now_monotonic : Option Json) : SeatHealth × Except Error Cycle :=
  match health.last_seen_monotonic, health.stale_reported with
  | none, _ | _, true => (health, .ok .empty)
  | some last_seen, false =>
    let checked := do
      let wall ← reading "now_wall" now_wall ambient.time
      let monotonic ← reading "now_monotonic" now_monotonic ambient.monotonic
      pure (wall, monotonic)
    match checked with
    | .error error => (health, .error error)
    | .ok (wall, monotonic) =>
      let age_ms := max 0 ((monotonic - last_seen) * 1000)
      if age_ms ≤ seat.stale_after_ms then (health, .ok .empty)
      else
        ({ health with state := .DEGRADED, stale_reported := true },
          .ok (.health (seat.health_event ambient.health_id wall "STALE" "WARNING" health.state .DEGRADED seat.stale_detail
            seat.stale_code [("age_ms", float_json (num.round 3 age_ms))])))

/-- A rejection raises, or finds its reason reported already, or degrades the module. -/
theorem reject_observation_cases (reason_code detail : Json) (now_wall : Option Json) :
    (∃ error, health.reject_observation seat ambient reason_code detail now_wall = (health, .error error)) ∨
      health.reject_observation seat ambient reason_code detail now_wall = (health, .ok .empty) ∨
      ∃ reason message wall, health.last_reason ≠ some (upper reason) ∧
        required_expected_text "reason_code" reason_code = .ok reason ∧
        required_expected_text "detail" detail = .ok message ∧
        reading "now_wall" now_wall ambient.time = .ok wall ∧
        health.reject_observation seat ambient reason_code detail now_wall =
          ({ health with state := .DEGRADED, last_reason := some (upper reason) },
            .ok (.health (seat.health_event ambient.health_id wall "REJECTED" "WARNING" health.state .DEGRADED message
              (upper reason) []))) := by
  unfold reject_observation
  cases hreason : required_expected_text "reason_code" reason_code with
  | error error => exact .inl ⟨error, rfl⟩
  | ok reason =>
    cases hmessage : required_expected_text "detail" detail with
    | error error => exact .inl ⟨error, rfl⟩
    | ok message =>
      by_cases hsame : health.last_reason = some (upper reason)
      · exact .inr (.inl (by simp [hsame, except.ok_bind, pure, Except.pure]))
      · cases hwall : reading "now_wall" now_wall ambient.time with
        | error error => exact .inl ⟨error, by simp [hsame, except.ok_bind, Bind.bind, Except.bind]⟩
        | ok wall =>
          refine .inr (.inr ⟨reason, message, wall, hsame, rfl, rfl, rfl, ?_⟩)
          simp [hsame, except.ok_bind, pure, Except.pure]

/-- A failure raises, or is counted only, or is reported. -/
theorem mark_failure_cases (reason : Json) (now_wall : Option Json) :
    (∃ error, health.mark_failure seat ambient reason now_wall = (health, .error error)) ∨
      (health.state = health.failure_state seat ∧ health.mark_failure seat ambient reason now_wall =
        ({ health with consecutive_failures := health.consecutive_failures + 1 }, .ok .empty)) ∨
      ∃ detail wall, required_expected_text "failure reason" reason = .ok detail ∧
        reading "now_wall" now_wall ambient.time = .ok wall ∧
        health.mark_failure seat ambient reason now_wall =
          ({ health with
              state := health.failure_state seat
              consecutive_failures := health.consecutive_failures + 1
              last_reason := some detail },
            .ok (.health (seat.health_event ambient.health_id wall
              (if health.failure_state seat = .FAILED then "FAILED" else "DEGRADED")
              (if health.failure_state seat = .FAILED then "ERROR" else "WARNING") health.state
              (health.failure_state seat) detail seat.failure_code
              [("consecutive_failures", .int (health.consecutive_failures + 1 : Nat))]))) := by
  unfold mark_failure
  cases hreason : required_expected_text "failure reason" reason with
  | error error => exact .inl ⟨error, rfl⟩
  | ok detail =>
    cases hwall : reading "now_wall" now_wall ambient.time with
    | error error => exact .inl ⟨error, rfl⟩
    | ok wall =>
      by_cases hsame : health.state = health.failure_state seat ∧ health.last_reason = some detail
      · exact .inr (.inl ⟨hsame.1, if_pos hsame⟩)
      · exact .inr (.inr ⟨detail, wall, rfl, rfl, if_neg hsame⟩)

/-- The check for staleness raises, or finds nothing to report, or degrades the module. -/
theorem check_stale_cases (now_wall now_monotonic : Option Json) :
    (∃ error, health.check_stale seat ambient now_wall now_monotonic = (health, .error error)) ∨
      health.check_stale seat ambient now_wall now_monotonic = (health, .ok .empty) ∨
      ∃ last_seen wall monotonic, health.last_seen_monotonic = some last_seen ∧ health.stale_reported = false ∧
        reading "now_wall" now_wall ambient.time = .ok wall ∧
        reading "now_monotonic" now_monotonic ambient.monotonic = .ok monotonic ∧
        seat.stale_after_ms < max 0 ((monotonic - last_seen) * 1000) ∧
        health.check_stale seat ambient now_wall now_monotonic =
          ({ health with state := .DEGRADED, stale_reported := true },
            .ok (.health (seat.health_event ambient.health_id wall "STALE" "WARNING" health.state .DEGRADED
              seat.stale_detail seat.stale_code
              [("age_ms", float_json (num.round 3 (max 0 ((monotonic - last_seen) * 1000))))]))) := by
  unfold check_stale
  cases hseen : health.last_seen_monotonic with
  | none => exact .inr (.inl rfl)
  | some last_seen =>
    cases hreported : health.stale_reported with
    | true => exact .inr (.inl rfl)
    | false =>
      cases hwall : reading "now_wall" now_wall ambient.time with
      | error error => exact .inl ⟨error, rfl⟩
      | ok wall =>
        cases hmonotonic : reading "now_monotonic" now_monotonic ambient.monotonic with
        | error error => exact .inl ⟨error, rfl⟩
        | ok monotonic =>
          by_cases hfresh : max 0 ((monotonic - last_seen) * 1000) ≤ (seat.stale_after_ms : ℚ)
          · exact .inr (.inl (if_pos hfresh))
          · exact .inr (.inr ⟨last_seen, wall, monotonic, rfl, rfl, rfl, rfl, not_le.mp hfresh, if_neg hfresh⟩)

end SeatHealth

end velvet.seat
