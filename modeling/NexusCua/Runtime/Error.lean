import NexusCua.Protocol.Identifiers

/-!
# Runtime errors

Driver failures and their projection to the public error envelope.
-/

namespace NexusCua.Runtime

open NexusCua.Protocol

inductive DriverErrorKind where
  | userActive
  | sessionUnavailable
  | busy
  | permissionRequired
  | unsupported
  | targetUnavailable
  | targetUnresponsive
  | foregroundRequired
  | staleObservation
  | staleClipboard
  | platform
  deriving DecidableEq, Repr

structure DriverError where
  kind : DriverErrorKind
  message : String
  retryable : Bool
  recoveryAction : Option String
  mutationStatus : MutationStatus
  deriving DecidableEq, Repr

namespace DriverError

def new (kind : DriverErrorKind) (message : String) : DriverError where
  kind := kind
  message := message
  retryable := false
  recoveryAction := none
  mutationStatus := .notApplicable

def retryableAfter (error : DriverError) (recoveryAction : String) : DriverError :=
  { error with retryable := true, recoveryAction := some recoveryAction }

def mutationNotDispatched (error : DriverError) : DriverError :=
  { error with mutationStatus := .notDispatched }

def mutationIndeterminate (error : DriverError) : DriverError :=
  { error with mutationStatus := .indeterminate }

end DriverError

def DriverErrorKind.toErrorCode : DriverErrorKind → ErrorCode
  | .userActive => .userActive
  | .sessionUnavailable => .sessionUnavailable
  | .busy => .busy
  | .permissionRequired => .permissionRequired
  | .unsupported => .unsupported
  | .targetUnavailable => .targetUnavailable
  | .targetUnresponsive => .targetUnresponsive
  | .foregroundRequired => .foregroundRequired
  | .staleObservation => .staleObservation
  | .staleClipboard => .staleClipboard
  | .platform => .driverFailure

/-- The conversion `CuaError::from(DriverError)`; it keeps the driver's disposition. -/
def DriverError.toCuaError (error : DriverError) : CuaError where
  code := error.kind.toErrorCode
  message := error.message
  retryable := error.retryable
  recoveryAction := error.recoveryAction
  mutationStatus := error.mutationStatus

def publicError (code : ErrorCode) (message : String) (retryable : Bool)
    (recoveryAction : Option String) : CuaError where
  code := code
  message := message
  retryable := retryable
  recoveryAction := recoveryAction
  mutationStatus := .notApplicable

end NexusCua.Runtime
