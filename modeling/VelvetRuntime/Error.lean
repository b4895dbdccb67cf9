import Mathlib.Init

namespace velvet

/-- The exception classes raised by the modelled services. `BaseException` stands for what `except Exception`
does not catch, such as `KeyboardInterrupt` and `SystemExit`. -/
inductive ErrorKind where
  | ValueError
  | TypeError
  | RuntimeError
  | KeyError
  | PermissionError
  | OSError
  | ResourceReservationUnavailable
  | WakePolicyError
  | FounderWakeActuationError
  | UnixTransportError
  | ModulePackageError
  | ModuleManifestError
  | ModuleIntegrityError
  | ModuleAdmissionError
  | ModuleLifecycleError
  | ModuleTrustRegistryError
  | ModuleTrustDeniedError
  | ModuleTrustMismatchError
  | SensorLanAdmissionError
  | SensorLanClientError
  | OverflowError
  | StructError
  | SpeechExpressionValidationError
  | SpeechEgressQueueFull
  | DatabaseError
  | BodyStateBridgeError
  | SeatNodeProtocolError
  | SeatNodeReplayError
  | SeatPressureProtocolError
  | SeatPressureReplayError
  | SeatHeartbeatProtocolError
  | SeatHeartbeatReplayError
  | SeatPersonSenseTopologyError
  | ReadOnlyJsonSerialError
  | GnssParseError
  | ContactlessRegistryError
  | Rdm6300Error
  | SensorLanTransportError
  | RecursionError
  | CameraFrameError
  | BaseException
  deriving DecidableEq, Repr

/-- `type(exc).__name__`. -/
def ErrorKind.name : ErrorKind → String
  | ValueError => "ValueError"
  | TypeError => "TypeError"
  | RuntimeError => "RuntimeError"
  | KeyError => "KeyError"
  | PermissionError => "PermissionError"
  | OSError => "OSError"
  | ResourceReservationUnavailable => "ResourceReservationUnavailable"
  | WakePolicyError => "WakePolicyError"
  | FounderWakeActuationError => "FounderWakeActuationError"
  | UnixTransportError => "UnixTransportError"
  | ModulePackageError => "ModulePackageError"
  | ModuleManifestError => "ModuleManifestError"
  | ModuleIntegrityError => "ModuleIntegrityError"
  | ModuleAdmissionError => "ModuleAdmissionError"
  | ModuleLifecycleError => "ModuleLifecycleError"
  | ModuleTrustRegistryError => "ModuleTrustRegistryError"
  | ModuleTrustDeniedError => "ModuleTrustDeniedError"
  | ModuleTrustMismatchError => "ModuleTrustMismatchError"
  | SensorLanAdmissionError => "SensorLanAdmissionError"
  | SensorLanClientError => "SensorLanClientError"
  | OverflowError => "OverflowError"
  | StructError => "error"
  | SpeechExpressionValidationError => "SpeechExpressionValidationError"
  | SpeechEgressQueueFull => "SpeechEgressQueueFull"
  | DatabaseError => "DatabaseError"
  | BodyStateBridgeError => "BodyStateBridgeError"
  | SeatNodeProtocolError => "SeatNodeProtocolError"
  | SeatNodeReplayError => "SeatNodeReplayError"
  | SeatPressureProtocolError => "SeatPressureProtocolError"
  | SeatPressureReplayError => "SeatPressureReplayError"
  | SeatHeartbeatProtocolError => "SeatHeartbeatProtocolError"
  | SeatHeartbeatReplayError => "SeatHeartbeatReplayError"
  | SeatPersonSenseTopologyError => "SeatPersonSenseTopologyError"
  | ReadOnlyJsonSerialError => "ReadOnlyJsonSerialError"
  | GnssParseError => "GnssParseError"
  | ContactlessRegistryError => "ContactlessRegistryError"
  | Rdm6300Error => "Rdm6300Error"
  | SensorLanTransportError => "SensorLanTransportError"
  | RecursionError => "RecursionError"
  | CameraFrameError => "CameraFrameError"
  | BaseException => "BaseException"

/-- A raised exception: its class and its message. -/
structure Error where
  kind : ErrorKind
  message : String
  deriving DecidableEq, Repr

/-- Whether `except Exception` catches it. -/
def Error.is_exception (error : Error) : Bool := error.kind ≠ .BaseException

end velvet
