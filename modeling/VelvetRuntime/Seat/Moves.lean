import VelvetRuntime.Seat.BodyMap

open python python.num velvet.body_adapter velvet.seat_pressure_pad

namespace velvet.seat

variable {seat : SeatModule} {health after : SeatHealth} {outcome : Except Error Cycle}

/-- What one operation of a seat adapter can do to what is common to all of them, and what it answers. An event that it
emits carries the wall clock of the call. -/
inductive Move (seat : SeatModule) (clock : Except Error ℚ) (health : SeatHealth) :
    SeatHealth → Except Error Cycle → Prop where
  | raised (error : Error) : Move seat clock health health (.error error)
  | quiet : Move seat clock health health (.ok .empty)
  | counted (hstate : health.state = health.failure_state seat) :
    Move seat clock health { health with consecutive_failures := health.consecutive_failures + 1 } (.ok .empty)
  | rejected (event : HealthEvent) (reason : String) (hchange : event.change = (health.state, .DEGRADED))
    (hidentity : event.identity = seat.identity) (htimestamp : clock = .ok event.timestamp) :
    Move seat clock health { health with state := .DEGRADED, last_reason := some reason } (.ok (.health event))
  | failed (event : HealthEvent) (detail : String)
    (hchange : event.change = (health.state, health.failure_state seat)) (hidentity : event.identity = seat.identity)
    (htimestamp : clock = .ok event.timestamp) :
    Move seat clock health
      { health with
        state := health.failure_state seat
        consecutive_failures := health.consecutive_failures + 1
        last_reason := some detail } (.ok (.health event))
  | stale (event : HealthEvent) (hchange : event.change = (health.state, .DEGRADED))
    (hidentity : event.identity = seat.identity) (htimestamp : clock = .ok event.timestamp) :
    Move seat clock health { health with state := .DEGRADED, stale_reported := true } (.ok (.health event))
  | observed (sensor : SensorEvent) (event : Option HealthEvent) (new_state : BodyState) (monotonic : ℚ)
    (hnew_state : new_state = .ONLINE ∨ new_state = .DEGRADED)
    (hsensor : sensor.identity = seat.identity ∧ sensor.health_state = new_state ∧
      sensor.stale_after_ms = seat.stale_after_ms)
    (htimestamp : clock = .ok sensor.timestamp)
    (hunchanged : event = none → health.state = new_state)
    (hchange : ∀ found, event = some found → found.change = (health.state, new_state) ∧ found.identity = seat.identity ∧
      found.timestamp = sensor.timestamp) :
    Move seat clock health (.seen new_state monotonic) (.ok ⟨some sensor, event⟩)

theorem SensorHealth.state_cases (health : SensorHealth) : health.state = .ONLINE ∨ health.state = .DEGRADED := by
  cases health
  · exact .inl rfl
  · exact .inr rfl

variable (ambient : Ambient)

theorem reject_observation_move (reason_code detail : Json) (now_wall : Option Json) :
    Move seat (reading "now_wall" now_wall ambient.time) health
      (health.reject_observation seat ambient reason_code detail now_wall).1
      (health.reject_observation seat ambient reason_code detail now_wall).2 := by
  rcases SeatHealth.reject_observation_cases seat health ambient reason_code detail
    now_wall with ⟨error, hcall⟩ | hcall | ⟨reason, message, wall, _, _, _, hwall, hcall⟩
  · rw [hcall]
    exact .raised error
  · rw [hcall]
    exact .quiet
  · rw [hcall]
    exact .rejected _ _ rfl rfl hwall

theorem mark_failure_move (reason : Json) (now_wall : Option Json) :
    Move seat (reading "now_wall" now_wall ambient.time) health
      (health.mark_failure seat ambient reason now_wall).1
      (health.mark_failure seat ambient reason now_wall).2 := by
  rcases SeatHealth.mark_failure_cases seat health ambient reason now_wall with
    ⟨error, hcall⟩ | ⟨hstate, hcall⟩ | ⟨detail, wall, _, hwall, hcall⟩
  · rw [hcall]
    exact .raised error
  · rw [hcall]
    exact .counted hstate
  · rw [hcall]
    exact .failed _ detail rfl rfl hwall

theorem check_stale_move (now_wall now_monotonic : Option Json) :
    Move seat (reading "now_wall" now_wall ambient.time) health
      (health.check_stale seat ambient now_wall now_monotonic).1
      (health.check_stale seat ambient now_wall now_monotonic).2 := by
  rcases SeatHealth.check_stale_cases seat health ambient now_wall now_monotonic with
    ⟨error, hcall⟩ | hcall | ⟨last_seen, wall, monotonic, _, _, hwall, _, _, hcall⟩
  · rw [hcall]
    exact .raised error
  · rw [hcall]
    exact .quiet
  · rw [hcall]
    exact .stale _ rfl rfl hwall

section node

variable {Observation : Type} {node : SeatNode Observation} {adapter : NodeAdapter}

/-- The sensor events of a node carry the names and the bound of its module, and the health of their observation. -/
structure SeatNode.Faithful (node : SeatNode Observation) : Prop where
  identity : ∀ observation receipt_id wall monotonic source,
    (node.sensor_event observation receipt_id wall monotonic source).identity = node.node.identity
  health_state : ∀ observation receipt_id wall monotonic source,
    (node.sensor_event observation receipt_id wall monotonic source).health_state =
      (node.reading observation).sensor_health.state
  stale_after_ms : ∀ observation receipt_id wall monotonic source,
    (node.sensor_event observation receipt_id wall monotonic source).stale_after_ms = node.node.stale_after_ms
  timestamp : ∀ observation receipt_id wall monotonic source,
    (node.sensor_event observation receipt_id wall monotonic source).timestamp = wall

/-- A change of state is always reported, and a report is of the change from the present state. -/
theorem observed_event_spec (module : NodeModule) (adapter : NodeAdapter) (observed : SeatReading) (ambient : Ambient)
    (wall : ℚ) :
    (observed_event module adapter observed ambient wall = none → adapter.health.state = observed.sensor_health.state) ∧
      ∀ event, observed_event module adapter observed ambient wall = some event →
        event.change = (adapter.health.state, observed.sensor_health.state) ∧ event.identity = module.identity ∧
          event.timestamp = wall := by
  unfold observed_event
  dsimp only
  split
  · refine ⟨(fun hnone => nomatch hnone), fun event hevent => ?_⟩
    cases hevent
    exact ⟨rfl, rfl, rfl⟩
  · split
    · refine ⟨(fun hnone => nomatch hnone), fun event hevent => ?_⟩
      cases hevent
      exact ⟨rfl, rfl, rfl⟩
    · rename_i hsame
      exact ⟨fun _ => not_not.mp hsame, (fun event hevent => nomatch hevent)⟩

/-- An observation that is accepted has read the wall clock. -/
theorem wall_of_admission {module : NodeModule} {observed : SeatReading} {call : ObserveCall} {ambient : Ambient}
    {admission : Admission} (hadmission : admission_of module adapter observed call ambient = .ok admission) :
    reading "now_wall" call.now_wall ambient.time = .ok admission.wall := by
  unfold admission_of at hadmission
  obtain ⟨_, hadmission⟩ := except.check_bind_eq_ok.mp hadmission
  obtain ⟨_, hadmission⟩ := except.check_bind_eq_ok.mp hadmission
  obtain ⟨_, hadmission⟩ := except.check_bind_eq_ok.mp hadmission
  obtain ⟨wall, hwall, hadmission⟩ := except.bind_eq_ok.mp hadmission
  obtain ⟨_, _, hadmission⟩ := except.bind_eq_ok.mp hadmission
  obtain ⟨_, _, hadmission⟩ := except.bind_eq_ok.mp hadmission
  obtain ⟨_, hadmission⟩ := except.check_bind_eq_ok.mp hadmission
  cases hadmission
  exact hwall

theorem observe_move (hfaithful : node.Faithful) (observation : Observation) (call : ObserveCall) (ambient : Ambient) :
    Move node.node.toSeatModule (reading "now_wall" call.now_wall ambient.time) adapter.health
      (node.observe adapter observation call ambient).1.health (node.observe adapter observation call ambient).2 := by
  unfold SeatNode.observe
  dsimp only
  split
  case h_1 error _ => exact .raised error
  case h_2 admission hadmission =>
    have hspec := observed_event_spec node.node adapter (node.reading observation) ambient admission.wall
    have hclock : reading "now_wall" call.now_wall ambient.time = .ok (node.sensor_event observation ambient.sensor_id
        admission.wall admission.monotonic admission.source_reference).timestamp := by
      rw [hfaithful.timestamp]
      exact wall_of_admission hadmission
    refine .observed _ _ _ _ (SensorHealth.state_cases _) ⟨hfaithful.identity .., hfaithful.health_state ..,
      hfaithful.stale_after_ms ..⟩ hclock hspec.1 fun found hfound => ?_
    obtain ⟨hchange, hidentity, htimestamp⟩ := hspec.2 found hfound
    exact ⟨hchange, hidentity, htimestamp.trans (hfaithful.timestamp ..).symm⟩

/-- The wall clock as a call reads it. -/
def NodeOperation.clock : NodeOperation Observation → Except Error ℚ
  | .observe _ call ambient => reading "now_wall" call.now_wall ambient.time
  | .reject_observation _ _ now_wall ambient => reading "now_wall" now_wall ambient.time
  | .mark_failure _ now_wall ambient => reading "now_wall" now_wall ambient.time
  | .check_stale now_wall _ ambient => reading "now_wall" now_wall ambient.time

/-- Every operation of a node's adapter is one of the moves. -/
theorem perform_move (hfaithful : node.Faithful) (operation : NodeOperation Observation) :
    Move node.node.toSeatModule operation.clock adapter.health (node.perform adapter operation).1.health
      (node.perform adapter operation).2 := by
  cases operation with
  | observe observation call ambient => exact observe_move hfaithful observation call ambient
  | reject_observation reason_code detail now_wall ambient =>
    exact reject_observation_move ambient reason_code detail now_wall
  | mark_failure reason now_wall ambient => exact mark_failure_move ambient reason now_wall
  | check_stale now_wall now_monotonic ambient => exact check_stale_move ambient now_wall now_monotonic

end node

end velvet.seat

namespace velvet.seat_person_sense_body_map

open velvet.seat

variable {platform : Platform} {adapter : SeatPersonSenseBodyMapAdapter} {state : BodyMapState}

/-- The wall clock as a call reads it. -/
def BodyMapOperation.clock : BodyMapOperation → Except Error ℚ
  | .observe _ call ambient => reading "now_wall" call.now_wall ambient.time
  | .mark_failure _ now_wall ambient => reading "now_wall" now_wall ambient.time
  | .check_stale now_wall _ ambient => reading "now_wall" now_wall ambient.time

namespace SeatPersonSenseBodyMapAdapter

theorem observed_event_spec (adapter : SeatPersonSenseBodyMapAdapter) (state : BodyMapState)
    (observation : SeatPressureObservation) (ambient : Ambient) (wall : ℚ) :
    (adapter.observed_event state observation ambient wall = none →
        state.health.state = observation.sensor_health.state) ∧
      ∀ event, adapter.observed_event state observation ambient wall = some event →
        event.change = (state.health.state, observation.sensor_health.state) ∧
          event.identity = adapter.seat.identity ∧ event.timestamp = wall := by
  unfold observed_event
  dsimp only
  split
  · refine ⟨(fun hnone => nomatch hnone), fun event hevent => ?_⟩
    cases hevent
    exact ⟨rfl, rfl, rfl⟩
  · rename_i hsame
    exact ⟨fun _ => not_not.mp hsame, (fun event hevent => nomatch hevent)⟩

theorem wall_of_admission {observation : SeatPressureObservation} {call : ObserveCall} {ambient : Ambient}
    {admission : Admission} (hadmission : adapter.admission_of platform observation call ambient = .ok admission) :
    reading "now_wall" call.now_wall ambient.time = .ok admission.wall := by
  unfold admission_of at hadmission
  obtain ⟨_, hadmission⟩ := except.check_bind_eq_ok.mp hadmission
  obtain ⟨_, hadmission⟩ := except.check_bind_eq_ok.mp hadmission
  obtain ⟨_, hadmission⟩ := except.check_bind_eq_ok.mp hadmission
  obtain ⟨wall, hwall, hadmission⟩ := except.bind_eq_ok.mp hadmission
  obtain ⟨_, _, hadmission⟩ := except.bind_eq_ok.mp hadmission
  obtain ⟨_, _, hadmission⟩ := except.bind_eq_ok.mp hadmission
  cases hadmission
  exact hwall

/-- Every operation of the body map is one of the moves. -/
theorem perform_move (operation : BodyMapOperation) :
    Move adapter.seat operation.clock state.health (adapter.perform platform state operation).1.health
      (adapter.perform platform state operation).2 := by
  cases operation with
  | observe observation call ambient =>
    unfold perform observe
    dsimp only
    split
    case h_1 error _ => exact .raised error
    case h_2 admission hadmission =>
      have hspec := observed_event_spec adapter state observation ambient admission.wall
      exact .observed _ _ _ _ (SensorHealth.state_cases _) ⟨rfl, rfl, rfl⟩ (wall_of_admission hadmission) hspec.1 hspec.2
  | mark_failure reason now_wall ambient => exact mark_failure_move ambient reason now_wall
  | check_stale now_wall now_monotonic ambient => exact check_stale_move ambient now_wall now_monotonic

end SeatPersonSenseBodyMapAdapter

end velvet.seat_person_sense_body_map
