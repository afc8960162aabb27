import Qrmci.Error

namespace Qrmci

/-- A steady-clock reading or duration, as an exact count of nanoseconds. -/
abbrev Time := Int

/-- The contents of a circuit file: a `std::string` used as a plain sequence of bytes. -/
abbrev Bytes := List UInt8

/-- The wire enumeration of circuit formats. A protobuf enumeration is open, so a message
may also hold a number that this repository has no name for. -/
inductive CircuitFormat
  | unspecified | iqmjson | qasm2 | qasm3
  | qirBaseString | qirBaseModule | qirAdaptiveString | qirAdaptiveModule
  | other (number : Int)
  deriving DecidableEq, Repr

inductive BackendType
  | unspecified
  | other (number : Int)
  deriving DecidableEq, Repr

inductive BackendStatus
  | unspecified | idle | busy | offline | maintenance | calibration | error
  | other (number : Int)
  deriving DecidableEq, Repr

/-- The generated `*_IsValid` functions of the protocol build. The enumerators named in this
repository are valid in every build; which other numbers are is the build's own matter. -/
structure ProtocolBuild where
  formatKnown : Int → Bool
  typeKnown : Int → Bool
  statusKnown : Int → Bool

def CircuitFormat.isValid (build : ProtocolBuild) : CircuitFormat → Bool
  | .other number => build.formatKnown number
  | _ => true

def BackendType.isValid (build : ProtocolBuild) : BackendType → Bool
  | .other number => build.typeKnown number
  | _ => true

def BackendStatus.isValid (build : ProtocolBuild) : BackendStatus → Bool
  | .other number => build.statusKnown number
  | _ => true

def mapProtoCircuitFormat (build : ProtocolBuild) (format : CircuitFormat) : CircuitFormat :=
  if format.isValid build then format else .unspecified

def mapProtoBackendType (build : ProtocolBuild) (type : BackendType) : BackendType :=
  if type.isValid build then type else .unspecified

def mapProtoBackendStatus (build : ProtocolBuild) (status : BackendStatus) : BackendStatus :=
  if status.isValid build then status else .unspecified

def isOnlineBackendStatus (status : BackendStatus) : Bool :=
  status == .idle || status == .busy

/-- A published backend status. `currentLoad` is the bit pattern of the message's float, which
the pipeline only ever copies. -/
structure Backend where
  name : String
  numQubits : UInt32
  type : BackendType
  status : BackendStatus
  queueLength : UInt32
  currentLoad : UInt32
  queueName : String
  instructions : List String
  connectivity : List (UInt32 × UInt32)
  supportedCircuitFormats : List CircuitFormat
  deriving DecidableEq, Repr

/-- What an idle five-qubit device `alpha` publishes for the queue `compiler.alpha`. -/
def Backend.alpha : Backend :=
  ⟨"alpha", 5, .unspecified, .idle, 0, 0, "compiler.alpha", ["cz"], [(0, 1)], [.qirBaseString]⟩

structure QuantumTask where
  taskId : Int
  nQbits : Int
  nShots : Int
  circuitFiles : List Bytes
  circuitFileType : String
  resultDestination : String
  preferredQpu : String
  scheduledQpu : String
  restrictedResourceNames : List String
  priority : Int
  optimisationLevel : Int
  noModify : Bool
  deriving DecidableEq, Repr

/-- A two-qubit quake task for whichever backend can run it. -/
def QuantumTask.quake : QuantumTask :=
  ⟨7, 2, 100, [[113]], "quake", "results-queue", "", "", [], 0, 1, false⟩

/-- The same task for `alpha` and no other backend. -/
def QuantumTask.quakeOnAlpha : QuantumTask := { QuantumTask.quake with restrictedResourceNames := ["alpha"] }

/-- One circuit's bitstring counts, as a protobuf map in insertion order. -/
abbrev ResultCounts := List (String × Int32)

structure QuantumResult where
  taskId : Int
  destination : String
  executedQpu : String
  executionStatus : Bool
  additionalInformation : String
  results : List ResultCounts
  deriving DecidableEq, Repr

end Qrmci
