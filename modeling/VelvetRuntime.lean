import VelvetRuntime.BodyAdapter.CameraImage
import VelvetRuntime.BodyAdapter.Failure
import VelvetRuntime.BodyAdapter.NmeaCorruption
import VelvetRuntime.BodyAdapter.Position
import VelvetRuntime.BodyAdapter.Posture
import VelvetRuntime.BodyState.Batch
import VelvetRuntime.BodyState.Following
import VelvetRuntime.Court.Composition
import VelvetRuntime.Court.Owner
import VelvetRuntime.Court.Token
import VelvetRuntime.DistributedWork.LeaseIds
import VelvetRuntime.DistributedWork.Limits
import VelvetRuntime.DistributedWork.Refusals
import VelvetRuntime.Execution.Ownership
import VelvetRuntime.Execution.Parameters
import VelvetRuntime.Execution.Restored
import VelvetRuntime.Incident.Identity
import VelvetRuntime.ModulePackage.Budget
import VelvetRuntime.ModulePackage.Failure
import VelvetRuntime.ModulePackage.Restore
import VelvetRuntime.ModulePackage.TrustRoundTrip
import VelvetRuntime.ResourceAware.Confinement
import VelvetRuntime.ResourceAware.Eligible
import VelvetRuntime.ResourceReservations.Capacity
import VelvetRuntime.RuntimeDaemon.MirrorRecovery
import VelvetRuntime.RuntimeDaemon.Restart
import VelvetRuntime.Seat.Survival
import VelvetRuntime.Seat.TopologyLine
import VelvetRuntime.SensorFabric.Lifecycle
import VelvetRuntime.SensorLan.Publications
import VelvetRuntime.Serial.LineFraming
import VelvetRuntime.Serial.Resync
import VelvetRuntime.SpecialistNode.Screening
import VelvetRuntime.SpecialistNode.Slots
import VelvetRuntime.SpecialistNode.Threads
import VelvetRuntime.SpeechEgress.Backoff
import VelvetRuntime.UnixTransport.Produced
import VelvetRuntime.UnixTransport.Replay
import VelvetRuntime.UnixTransport.Survival
import VelvetRuntime.Wake.Contact
import VelvetRuntime.Wake.Once
import VelvetRuntime.Wake.RateLimit
