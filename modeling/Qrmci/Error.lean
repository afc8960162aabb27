import Mathlib.Order.Lattice

namespace Qrmci

/-- What a caller of the pipeline dispatches on. -/
inductive Error.Kind
  | noBackendAvailable | unsupportedFormat | compilationFailed | submissionFailed | deviceError
  | messagingFailed | internal | configError | driverUnavailable | shutdownRequested
  deriving DecidableEq, Repr

structure Error where
  kind : Error.Kind
  detail : String
  deriving DecidableEq, Repr

/-- The error codes of the submitter library. -/
inductive ErrorCode
  | fatal | outOfMem | notImplemented | libNotFound | notFound | outOfRange | invalidArgument
  | permissionDenied | notSupported | badState | timeout | warnGeneral
  deriving DecidableEq, Repr

/-- A failure as the submitter library reports it. -/
structure SubmitterError where
  code : ErrorCode
  message : String
  deriving DecidableEq, Repr

def submitterErrorCodeName : ErrorCode → String
  | .fatal => "Fatal"
  | .outOfMem => "OutOfMem"
  | .notImplemented => "NotImplemented"
  | .libNotFound => "LibNotFound"
  | .notFound => "NotFound"
  | .outOfRange => "OutOfRange"
  | .invalidArgument => "InvalidArgument"
  | .permissionDenied => "PermissionDenied"
  | .notSupported => "NotSupported"
  | .badState => "BadState"
  | .timeout => "Timeout"
  | .warnGeneral => "WarnGeneral"

def toQrmciError (kind : Error.Kind) (error : SubmitterError) : Error :=
  ⟨kind, submitterErrorCodeName error.code ++ ": " ++ error.message⟩

end Qrmci
