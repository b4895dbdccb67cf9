import VelvetRuntime.Seat.Moves
import VelvetRuntime.Seat.Replay
import VelvetRuntime.BodyAdapter.Gnss
import VelvetRuntime.BodyAdapter.VehiclePower
import VelvetRuntime.BodyAdapter.Microphone
import VelvetRuntime.BodyAdapter.Camera
import VelvetRuntime.BodyAdapter.Contactless

open python transitions velvet.body_adapter

namespace velvet.seat

theorem NodeKind.faithful (kind : NodeKind) : kind.adapter.Faithful := by
  cases kind with
  | presence config => exact ⟨fun _ _ _ _ _ => rfl, fun _ _ _ _ _ => rfl, fun _ _ _ _ _ => rfl, fun _ _ _ _ _ => rfl⟩
  | pressure config => exact ⟨fun _ _ _ _ _ => rfl, fun _ _ _ _ _ => rfl, fun _ _ _ _ _ => rfl, fun _ _ _ _ _ => rfl⟩
  | heartbeat config => exact ⟨fun _ _ _ _ _ => rfl, fun _ _ _ _ _ => rfl, fun _ _ _ _ _ => rfl, fun _ _ _ _ _ => rfl⟩

end velvet.seat

namespace velvet.gnss_body_adapter

variable (config : GnssAdapterConfig) (adapter : GnssBodyAdapter)

end velvet.gnss_body_adapter

namespace velvet.vehicle_power_adapter

variable (config : VehiclePowerAdapterConfig)

end velvet.vehicle_power_adapter

namespace velvet.microphone_input_health

variable (config : MicrophoneInputAdapterConfig) (adapter : MicrophoneInputBodyAdapter)

end velvet.microphone_input_health

namespace velvet.current_frame_publisher

end velvet.current_frame_publisher

namespace velvet.contactless_token_adapter

end velvet.contactless_token_adapter

namespace velvet.body_adapter

open velvet.seat

/-- An adapter as a machine: its operations, what each of them does, and the state that is seen of it. -/
structure Machine where
  State : Type
  Operation : Type
  initial : State
  perform : State → Operation → State × Except Error Cycle
  state : State → BodyState

/-- The adapters of the body, each with what sets it up. -/
inductive BodyAdapter where
  | seat_node (kind : NodeKind)
  | body_map (platform : Platform) (adapter : seat_person_sense_body_map.SeatPersonSenseBodyMapAdapter)
  | gnss (config : gnss_body_adapter.GnssAdapterConfig)
  | vehicle_power (config : vehicle_power_adapter.VehiclePowerAdapterConfig)
  | microphone (config : microphone_input_health.MicrophoneInputAdapterConfig)
  | camera_frame (config : current_frame_publisher.CameraFrameAdapterConfig)
  | contactless_token (hmac : contactless_token_adapter.HmacHexdigest)
    (config : contactless_token_adapter.ContactlessTokenAdapterConfig)

namespace BodyAdapter

def machine : BodyAdapter → Machine
  | seat_node kind => ⟨_, _, NodeAdapter.initial, kind.adapter.perform, fun adapter => adapter.health.state⟩
  | body_map platform adapter =>
    ⟨_, _, seat_person_sense_body_map.BodyMapState.initial, adapter.perform platform, fun state => state.health.state⟩
  | gnss config =>
    ⟨_, _, gnss_body_adapter.GnssBodyAdapter.initial, gnss_body_adapter.GnssBodyAdapter.perform config,
      gnss_body_adapter.GnssBodyAdapter.state⟩
  | vehicle_power config =>
    ⟨_, _, vehicle_power_adapter.VehiclePowerBodyAdapter.initial,
      vehicle_power_adapter.VehiclePowerBodyAdapter.perform config,
      vehicle_power_adapter.VehiclePowerBodyAdapter.state⟩
  | microphone config =>
    ⟨_, _, microphone_input_health.MicrophoneInputBodyAdapter.initial,
      microphone_input_health.MicrophoneInputBodyAdapter.perform config,
      microphone_input_health.MicrophoneInputBodyAdapter.state⟩
  | camera_frame config =>
    ⟨_, _, current_frame_publisher.CameraFrameBodyAdapter.initial,
      current_frame_publisher.CameraFrameBodyAdapter.perform config,
      current_frame_publisher.CameraFrameBodyAdapter.state⟩
  | contactless_token hmac config =>
    ⟨_, _, contactless_token_adapter.ContactlessTokenAdapter.initial,
      contactless_token_adapter.ContactlessTokenAdapter.perform hmac config,
      fun adapter => adapter.reader_state.state⟩

end BodyAdapter

end velvet.body_adapter
