import VelvetRuntime.Seat.Refusals
import VelvetRuntime.Seat.Replay

open python python.num python.str python.json python.except velvet.body_adapter velvet.seat
  velvet.seat_presence_node velvet.seat_pressure_pad velvet.seat_person_sense_body_map velvet.seat_heartbeat_signal

namespace velvet.seat

namespace SeatHealth

variable (seat : SeatModule) (health : SeatHealth) (ambient : Ambient)

end SeatHealth

/-- The errors with which an adapter refuses an observation that the clocks of the system date. -/
def NodeModule.refusals (node : NodeModule) : List Error :=
  [⟨node.protocol_error, node.node_mismatch⟩, ⟨node.protocol_error, node.seat_mismatch⟩,
    ⟨node.protocol_error, node.model_mismatch⟩, ⟨node.replay_error, node.sequence_repeated⟩,
    ⟨node.replay_error, node.uptime_regressed⟩]

variable {source_reference : String}

end velvet.seat

namespace velvet.seat_presence_body_state_bridge

open Program

/-- The state of an adapter is as before. -/
def Bridge.Keeps (before after : Bridge) : Adapter → Prop
  | .radar => after.radar = before.radar
  | .pressure => after.pressure = before.pressure
  | .body_map => after.body_map = before.body_map
  | .heartbeat => after.heartbeat = before.heartbeat

section

variable (settings : Settings) (turn : Turn) (before : Bridge)

end

variable {settings : Settings} {turn : Turn} {before : Bridge}

variable {returns : Unit → Bridge → Prop}

variable {adapter : Adapter}

/-- An error that one of the `except` clauses around a line reports to an adapter, in texts that it takes. -/
def Told (adapter : Adapter) (error : Error) : Prop :=
  ∃ reason_code, rejection_of error = some (adapter, reason_code) ∧ Reportable reason_code ∧ Reportable error.message

variable {line : Line}

section

variable (hpublish : ∀ site, turn.publish site = .ok ())

include hpublish

end

end velvet.seat_presence_body_state_bridge
