import VelvetRuntime.Seat.Health

open python python.num python.str velvet.body_adapter

/-! The adapters of the three specialist nodes of a seat, which send ordered observations. -/

namespace velvet.seat

/-- `sensor_health` of an observation. -/
inductive SensorHealth where
  | ONLINE
  | DEGRADED
  deriving DecidableEq, Repr

def SensorHealth.state : SensorHealth → BodyState
  | ONLINE => .ONLINE
  | DEGRADED => .DEGRADED

/-- What the observations of the three nodes have in common. -/
structure SeatReading where
  node_id : String
  seat_id : String
  boot_id : String
  sequence : Int
  uptime_ms : Int
  sensor_model : String
  firmware_version : String
  calibration_version : String
  sensor_health : SensorHealth
  degraded_reason : Option String
  deriving DecidableEq

/-- The fields that the configurations of the three adapters have in common, with the checks of `__post_init__`. -/
structure SeatAdapterConfig where
  module_id : String
  node_id : String
  seat_id : String
  owning_handmaiden : String
  interface_type : String
  stale_after_ms : Int
  failure_threshold : Int
  expected_sensor_model : String
  ids_valid : ∀ id ∈ [module_id, node_id, seat_id, owning_handmaiden], is_id id = true
  texts_valid : ∀ text ∈ [interface_type, expected_sensor_model], ¬Blank text ∧ is_text text = true
  stale_after_bounds : 250 ≤ stale_after_ms ∧ stale_after_ms ≤ 600000
  threshold_bounds : 1 ≤ failure_threshold ∧ failure_threshold ≤ 100

def SeatAdapterConfig.identity (config : SeatAdapterConfig) : ModuleIdentity :=
  ⟨config.module_id, config.node_id, config.owning_handmaiden⟩

/-- What sets one node's adapter apart from the others. -/
structure NodeModule extends SeatModule where
  seat_id : String
  expected_sensor_model : String
  protocol_error : ErrorKind
  replay_error : ErrorKind
  node_mismatch : String
  seat_mismatch : String
  model_mismatch : String
  sequence_repeated : String
  uptime_regressed : String
  restarted_detail : String
  recovered_detail : String
  online_detail : String
  degraded_detail : String
  reason_prefix : String

/-- What an adapter remembers of the last observation. -/
structure Replay where
  last_boot_id : Option String
  last_sequence : Option Int
  last_uptime_ms : Option Int
  deriving DecidableEq

namespace Replay

def initial : Replay := ⟨none, none, none⟩

def of_reading (reading : SeatReading) : Replay := ⟨some reading.boot_id, some reading.sequence, some reading.uptime_ms⟩

def rebooted (replay : Replay) (reading : SeatReading) : Bool :=
  replay.last_boot_id.isSome && replay.last_boot_id ≠ some reading.boot_id

/-- The checks of an observation of the boot that was seen last. -/
def check (replay : Replay) (node : NodeModule) (reading : SeatReading) : Except Error Unit :=
  if replay.rebooted reading = false ∧ replay.last_boot_id = some reading.boot_id then
    if replay.last_sequence.any (fun last => reading.sequence ≤ last) then
      .error ⟨node.replay_error, node.sequence_repeated⟩
    else if replay.last_uptime_ms.any (fun last => reading.uptime_ms < last) then
      .error ⟨node.replay_error, node.uptime_regressed⟩
    else .ok ()
  else .ok ()

end Replay

/-- The state of an adapter. -/
structure NodeAdapter where
  health : SeatHealth
  replay : Replay
  deriving DecidableEq

def NodeAdapter.initial : NodeAdapter := ⟨.initial, .initial⟩

/-- The arguments of `observe` beside the observation. -/
structure ObserveCall where
  now_wall : Option Json
  now_monotonic : Option Json
  source_reference : Json

/-- The adapter of a node, as its configuration sets it up. -/
structure SeatNode (Observation : Type) where
  node : NodeModule
  reading : Observation → SeatReading
  sensor_event : Observation → RecordId → ℚ → ℚ → String → SensorEvent

/-- What `observe` knows once it accepts an observation: the clocks and the source. -/
structure Admission where
  wall : ℚ
  monotonic : ℚ
  source_reference : String

section observe

variable (node : NodeModule) (adapter : NodeAdapter) (observed : SeatReading) (call : ObserveCall) (ambient : Ambient)

/-- The checks of `observe`, in their order. -/
def admission_of : Except Error Admission := do
  require (observed.node_id = node.identity.node_id) ⟨node.protocol_error, node.node_mismatch⟩
  require (observed.seat_id = node.seat_id) ⟨node.protocol_error, node.seat_mismatch⟩
  require (observed.sensor_model = node.expected_sensor_model) ⟨node.protocol_error, node.model_mismatch⟩
  let wall ← reading "now_wall" call.now_wall ambient.time
  let monotonic ← reading "now_monotonic" call.now_monotonic ambient.monotonic
  let source_reference ← given_text (value_error "source_reference must be non-empty") call.source_reference
  adapter.replay.check node observed
  pure ⟨wall, monotonic, source_reference⟩

/-- The event of a restart, else of a change of state. -/
def observed_event (wall : ℚ) : Option HealthEvent :=
  let previous := adapter.health.state
  let new_state := observed.sensor_health.state
  if adapter.replay.rebooted observed then
    some (node.health_event ambient.health_id wall "RESTARTED" "INFO" previous new_state node.restarted_detail
      "NODE_BOOT_CHANGED" [("boot_id", .text observed.boot_id)])
  else if previous ≠ new_state then
    let recovered := new_state = .ONLINE ∧ (previous = .DEGRADED ∨ previous = .FAILED)
    some (node.health_event ambient.health_id wall (if recovered then "RECOVERED" else new_state.text)
      (if new_state = .ONLINE then "INFO" else "WARNING") previous new_state
      (if recovered then node.recovered_detail else if new_state = .ONLINE then node.online_detail
        else node.degraded_detail)
      ((observed.degraded_reason.filter (· ≠ "")).getD (node.reason_prefix ++ new_state.text)) [])
  else none

end observe

variable {Observation : Type}

/-- `observe(observation, now_wall, now_monotonic, source_reference)`. -/
def SeatNode.observe (seat : SeatNode Observation) (adapter : NodeAdapter) (observation : Observation)
    (call : ObserveCall) (ambient : Ambient) : NodeAdapter × Except Error Cycle :=
  let observed := seat.reading observation
  match admission_of seat.node adapter observed call ambient with
  | .error error => (adapter, .error error)
  | .ok admission =>
    (⟨.seen observed.sensor_health.state admission.monotonic, .of_reading observed⟩,
      .ok {
        sensor_event := some (seat.sensor_event observation ambient.sensor_id admission.wall admission.monotonic
          admission.source_reference)
        health_event := observed_event seat.node adapter observed ambient admission.wall })

/-- The public operations of an adapter. -/
inductive NodeOperation (Observation : Type) where
  | observe (observation : Observation) (call : ObserveCall) (ambient : Ambient)
  | reject_observation (reason_code detail : Json) (now_wall : Option Json) (ambient : Ambient)
  | mark_failure (reason : Json) (now_wall : Option Json) (ambient : Ambient)
  | check_stale (now_wall now_monotonic : Option Json) (ambient : Ambient)

def SeatNode.perform (seat : SeatNode Observation) (adapter : NodeAdapter) :
    NodeOperation Observation → NodeAdapter × Except Error Cycle
  | .observe observation call ambient => seat.observe adapter observation call ambient
  | .reject_observation reason_code detail now_wall ambient =>
    let (health, outcome) := adapter.health.reject_observation seat.node.toSeatModule ambient reason_code detail now_wall
    ({ adapter with health }, outcome)
  | .mark_failure reason now_wall ambient =>
    let (health, outcome) := adapter.health.mark_failure seat.node.toSeatModule ambient reason now_wall
    ({ adapter with health }, outcome)
  | .check_stale now_wall now_monotonic ambient =>
    let (health, outcome) := adapter.health.check_stale seat.node.toSeatModule ambient now_wall now_monotonic
    ({ adapter with health }, outcome)

end velvet.seat
