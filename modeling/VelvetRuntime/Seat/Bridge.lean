import VelvetRuntime.Python.Program
import VelvetRuntime.Seat.BodyMap
import VelvetRuntime.Seat.Heartbeat
import VelvetRuntime.Seat.Presence

open python python.num python.str python.json velvet.body_adapter velvet.seat velvet.seat_presence_node
  velvet.seat_pressure_pad velvet.seat_person_sense_body_map velvet.seat_heartbeat_signal

/-! The loop that brings the lines of one seat's serial link to its adapters and publishes what they emit. -/

namespace velvet.seat_presence_body_state_bridge

open Program

inductive Adapter where
  | radar
  | pressure
  | body_map
  | heartbeat
  deriving DecidableEq, Repr

/-- The adapters in the order in which the loop goes through them. -/
def adapters : List Adapter := [.radar, .pressure, .body_map, .heartbeat]

/-- What `main` sets up from the arguments, beside the interpreter's texts. -/
structure Settings where
  platform : Platform
  device : String
  once : Bool
  radar : SeatPresenceAdapterConfig
  pressure : Option SeatPressureAdapterConfig
  body_map : Option SeatPersonSenseBodyMapAdapter
  heartbeat : Option SeatHeartbeatAdapterConfig
  topology_requires_pressure : body_map.isSome = true → pressure.isSome = true

/-- What the parsers are told to expect: the arguments from which the adapter is configured. -/
def expected_of (config : SeatAdapterConfig) : Expected :=
  ⟨config.node_id, config.seat_id, config.expected_sensor_model, 4096⟩

/-- A line that was read: an observation of a configured adapter, or one that no adapter takes. -/
inductive Content where
  | radar (observation : SeatNodeObservation)
  | pressure (config : SeatPressureAdapterConfig) (observation : SeatPressureObservation)
  | heartbeat (config : SeatHeartbeatAdapterConfig) (observation : SeatHeartbeatObservation)
  | not_configured
  | unsupported (schema : String)

namespace Settings

variable (settings : Settings)

/-- The schema of a line, and what the parser of this schema makes of the line. -/
def read_line (line : Line) : Except Error Content := do
  let schema ← peek_seat_node_schema settings.platform line
  if schema = SEAT_NODE_SCHEMA then
    let observation ← parse_seat_node_line settings.platform (expected_of settings.radar) line
    pure (.radar observation)
  else if schema = SEAT_PRESSURE_NODE_SCHEMA then
    match settings.pressure with
    | none => pure .not_configured
    | some config =>
      let observation ← parse_seat_pressure_line settings.platform (expected_of config.toSeatAdapterConfig) line
      pure (.pressure config observation)
  else if schema = SEAT_HEARTBEAT_NODE_SCHEMA then
    match settings.heartbeat with
    | none => pure .not_configured
    | some config =>
      let observation ← parse_seat_heartbeat_line settings.platform (expected_of config) line
      pure (.heartbeat config observation)
  else pure (.unsupported schema)

/-- The module of an adapter, when it is configured. -/
def seat_module : Adapter → Option SeatModule
  | .radar => some (SeatPresenceBodyAdapter settings.radar).node.toSeatModule
  | .pressure => settings.pressure.map fun config => (SeatPressureBodyAdapter config).node.toSeatModule
  | .body_map => settings.body_map.map SeatPersonSenseBodyMapAdapter.seat
  | .heartbeat => settings.heartbeat.map fun config => (SeatHeartbeatBodyAdapter config).node.toSeatModule

/-- How the loop calls `observe`. -/
def observe_call (suffix : String) : ObserveCall := ⟨none, none, .text ("serial:" ++ settings.device ++ suffix)⟩

end Settings

/-- A call by which the loop reports a rejected line or a failure, and how it ended. -/
inductive ReportCall where
  | reject_observation
  | mark_failure
  deriving DecidableEq, Repr

structure Report where
  adapter : Adapter
  call : ReportCall
  ending : Except Error Unit

/-- The adapters, whether the last line was accepted, and the reports so far. The state of an adapter that is not
configured is never used. -/
structure Bridge where
  radar : NodeAdapter
  pressure : NodeAdapter
  body_map : BodyMapState
  heartbeat : NodeAdapter
  accepted_sensor : Bool
  reports : List Report

namespace Bridge

def initial : Bridge := ⟨.initial, .initial, .initial, .initial, false, []⟩

def health (self : Bridge) : Adapter → SeatHealth
  | .radar => self.radar.health
  | .pressure => self.pressure.health
  | .body_map => self.body_map.health
  | .heartbeat => self.heartbeat.health

def with_health (self : Bridge) (adapter : Adapter) (health : SeatHealth) : Bridge :=
  match adapter with
  | .radar => { self with radar := { self.radar with health } }
  | .pressure => { self with pressure := { self.pressure with health } }
  | .body_map => { self with body_map := { self.body_map with health } }
  | .heartbeat => { self with heartbeat := { self.heartbeat with health } }

end Bridge

/-- What `readline` does, or the opening of the device before it. -/
inductive Reading where
  | line (line : Line)
  | timed_out
  | raises (error : Error)

/-- The places where one turn of the loop calls an adapter and publishes what it emits. -/
inductive Site where
  | observe
  | observe_body_map
  | topology_failure
  | reject
  | check_stale (adapter : Adapter)
  | source_failure (adapter : Adapter)

/-- What one turn of the loop meets: what is read, and for each place the surroundings of the call and how
`publish_many` ends. -/
structure Turn where
  reading : Reading
  ambient : Site → Ambient
  publish : Site → Except Error Unit

/-- The kinds that `except (ReadOnlyJsonSerialError, OSError, ValueError)` catches. -/
def is_source_error (error : Error) : Bool :=
  error.kind ∈ [.ReadOnlyJsonSerialError, .OSError, .PermissionError, .ValueError, .BodyStateBridgeError,
    .SeatNodeProtocolError, .SeatNodeReplayError, .SeatPressureProtocolError, .SeatPressureReplayError,
    .SeatHeartbeatProtocolError, .SeatHeartbeatReplayError, .SeatPersonSenseTopologyError, .WakePolicyError,
    .ModulePackageError, .ModuleManifestError, .ModuleIntegrityError, .ModuleAdmissionError, .ModuleLifecycleError,
    .ModuleTrustRegistryError, .ModuleTrustDeniedError, .ModuleTrustMismatchError, .SensorLanAdmissionError,
    .SpeechExpressionValidationError, .GnssParseError, .ContactlessRegistryError]

/-- The `except` clauses around a line: the adapter that rejects it, and the reason. -/
def rejection_of (error : Error) : Option (Adapter × String) :=
  match error.kind with
  | .SeatNodeReplayError => some (.radar, "REPLAYED_SEAT_NODE_SEQUENCE")
  | .SeatNodeProtocolError => some (.radar, "INVALID_SEAT_NODE_MESSAGE")
  | .SeatPressureReplayError => some (.pressure, "REPLAYED_SEAT_PRESSURE_SEQUENCE")
  | .SeatPressureProtocolError => some (.pressure, "INVALID_SEAT_PRESSURE_MESSAGE")
  | .SeatHeartbeatReplayError => some (.heartbeat, "REPLAYED_SEAT_HEARTBEAT_SEQUENCE")
  | .SeatHeartbeatProtocolError => some (.heartbeat, "INVALID_SEAT_HEARTBEAT_MESSAGE")
  | _ => none

def bounded_detail (error : Error) : String :=
  let text := stripped (String.ofList (error.message.toList.map fun c => if c = '\n' ∨ c = '\r' then ' ' else c))
  if text = "" then error.kind.name else String.ofList (text.toList.take 384)

section

variable (settings : Settings) (turn : Turn)

def publish_cycle (site : Site) (cycle : Cycle) : Program Error Bridge Unit :=
  if cycle.records.isEmpty then pure () else of_except (turn.publish site)

/-- A call that an adapter answers from what all adapters have in common, when the adapter is configured. -/
def call_adapter (site : Site) (adapter : Adapter) (report : Option ReportCall)
    (call : SeatModule → SeatHealth → Ambient → SeatHealth × Except Error Cycle) : Program Error Bridge Unit :=
  match settings.seat_module adapter with
  | none => pure ()
  | some seat => do
    let self ← get
    let called := call seat (self.health adapter) (turn.ambient site)
    set { self.with_health adapter called.1 with
      reports := self.reports ++ (report.map fun call => Report.mk adapter call (called.2.map fun _ => ())).toList }
    let cycle ← of_except called.2
    publish_cycle turn site cycle

def reject_observation (adapter : Adapter) (reason_code detail : String) : Program Error Bridge Unit :=
  call_adapter settings turn .reject adapter (some .reject_observation) fun seat health ambient =>
    health.reject_observation seat ambient (.text reason_code) (.text detail) none

def mark_failure (site : Site) (adapter : Adapter) (reason : String) : Program Error Bridge Unit :=
  call_adapter settings turn site adapter (some .mark_failure) fun seat health ambient =>
    health.mark_failure seat ambient (.text reason) none

def check_stale (adapter : Adapter) : Program Error Bridge Unit :=
  call_adapter settings turn (.check_stale adapter) adapter none fun seat health ambient =>
    health.check_stale seat ambient none none

/-- An observation of the adapter that is kept at one place of the state. -/
def observe_node {Observation : Type} (seat : SeatNode Observation) (kept : Bridge → NodeAdapter)
    (keep : Bridge → NodeAdapter → Bridge) (observation : Observation) : Program Error Bridge Unit := do
  let self ← get
  let called := seat.observe (kept self) observation (settings.observe_call "") (turn.ambient .observe)
  set (keep self called.1)
  let cycle ← of_except called.2
  publish_cycle turn .observe cycle
  modify fun self => { self with accepted_sensor := cycle.sensor_event.isSome }

/-- The body map observes what the pressure pads observed; that its topology refuses it is a failure. -/
def observe_body_map (adapter : SeatPersonSenseBodyMapAdapter) (observation : SeatPressureObservation) :
    Program Error Bridge Unit :=
  tryCatch
    (do
      let self ← get
      let called := adapter.observe settings.platform self.body_map observation
        (settings.observe_call "#pressure-body-map") (turn.ambient .observe_body_map)
      set { self with body_map := called.1 }
      let cycle ← of_except called.2
      publish_cycle turn .observe_body_map cycle)
    (fun error =>
      if error.kind = .SeatPersonSenseTopologyError then
        mark_failure settings turn .topology_failure .body_map
          ("Seat person-sense topology rejected pressure observation: " ++ bounded_detail error)
      else throw error)

/-- What is done with a line. -/
def take_line (line : Line) : Program Error Bridge Unit := do
  let content ← of_except (settings.read_line line)
  match content with
  | .radar observation =>
    observe_node settings turn (SeatPresenceBodyAdapter settings.radar) Bridge.radar
      (fun self radar => { self with radar }) observation
  | .pressure config observation => do
    observe_node settings turn (SeatPressureBodyAdapter config) Bridge.pressure
      (fun self pressure => { self with pressure }) observation
    match settings.body_map with
    | none => pure ()
    | some adapter => observe_body_map settings turn adapter observation
  | .heartbeat config observation =>
    observe_node settings turn (SeatHeartbeatBodyAdapter config) Bridge.heartbeat
      (fun self heartbeat => { self with heartbeat }) observation
  | .not_configured => pure ()
  | .unsupported schema =>
    reject_observation settings turn .radar "UNKNOWN_SEAT_NODE_SCHEMA" ("Unsupported seat-node schema: " ++ schema)

/-- What is done with what was read. A value is the exit code with which `main` returns. -/
def take_reading : Program Error Bridge (Option Nat) := do
  match turn.reading with
  | .raises error => throw error
  | .timed_out =>
    adapters.forM (check_stale settings turn)
    pure (if settings.once then some 3 else none)
  | .line line =>
    modify fun self => { self with accepted_sensor := false }
    tryCatch (take_line settings turn line) fun error =>
      match rejection_of error with
      | some (adapter, reason_code) => reject_observation settings turn adapter reason_code error.message
      | none => throw error
    let self ← get
    pure (if settings.once && self.accepted_sensor then some 0 else none)

/-- One turn of the loop. -/
def take_turn : Program Error Bridge (Option Nat) :=
  tryCatch (take_reading settings turn) fun error =>
    if is_source_error error then do
      adapters.forM fun adapter => mark_failure settings turn (.source_failure adapter) adapter
        ("Seat-node serial source unavailable: " ++ bounded_detail error)
      pure (if settings.once then some 2 else none)
    else throw error

end

/-- The loop over some turns: the state it reaches, and how `main` has ended, if it has. -/
def run (settings : Settings) (bridge : Bridge) : List Turn → Bridge × Option (Except Error Nat)
  | [] => (bridge, none)
  | turn :: rest =>
    let after := (take_turn settings turn).after bridge
    match (take_turn settings turn).result bridge with
    | .error error => (after, some (.error error))
    | .ok (some code) => (after, some (.ok code))
    | .ok none => run settings after rest

end velvet.seat_presence_body_state_bridge
