import Qrmci.CircuitFormatPolicy
import Qrmci.Lib.Except

namespace Qrmci

/-- One backend's capabilities, as read from a device or from a published status. -/
structure BackendWrapper where
  name : String
  numQubits : UInt32
  type : BackendType
  status : BackendStatus
  queueLength : UInt32
  currentLoad : UInt32
  queueName : String
  instructions : List String
  qubitConnectivity : List (UInt32 × UInt32)
  supportedCircuitFormats : List CircuitFormat
  deriving DecidableEq, Repr

/-- What the device answers to the five property queries of one reading. -/
structure DeviceReading where
  qubitsNum : Except SubmitterError UInt64
  status : Except SubmitterError BackendStatus
  operationNames : Except SubmitterError (List String)
  couplingMap : Except SubmitterError (List (UInt64 × UInt64))
  supportedPayloadFormats : Except SubmitterError (List CircuitFormat)

/-- A reading of a small idle device that takes QIR. -/
def DeviceReading.idle : DeviceReading where
  qubitsNum := .ok 5
  status := .ok .idle
  operationNames := .ok ["cz"]
  couplingMap := .ok [(0, 1)]
  supportedPayloadFormats := .ok [.qirBaseString]

/-- `asDeviceError`, applied to a query's outcome. -/
def asDeviceError {α : Type} (query : Except SubmitterError α) : Except Error α :=
  query.mapError (toQrmciError .deviceError)

/-- An unsupported coupling map counts as an empty one. -/
def readCouplingMap : Except SubmitterError (List (UInt64 × UInt64)) → Except Error (List (UInt64 × UInt64))
  | .ok couplingMap => .ok couplingMap
  | .error error => if error.code = .notSupported then .ok [] else .error (toQrmciError .deviceError error)

def BackendWrapper.fromSubmitter (deviceId : String) (device : DeviceReading) (dispatchQueue : String) :
    Except Error BackendWrapper := do
  let numQubits ← asDeviceError device.qubitsNum
  let status ← asDeviceError device.status
  let instructions ← asDeviceError device.operationNames
  let couplingMap ← readCouplingMap device.couplingMap
  let formats ← asDeviceError device.supportedPayloadFormats
  return {
    name := deviceId
    numQubits := numQubits.toUInt32
    type := .unspecified
    status := status
    queueLength := 0
    currentLoad := 0
    queueName := dispatchQueue
    instructions := instructions
    qubitConnectivity := couplingMap.map fun pair => (pair.1.toUInt32, pair.2.toUInt32)
    supportedCircuitFormats := formats }

/-- The unvalidated constructor: it only normalizes the three wire enumerations. -/
def BackendWrapper.ofBackend (build : ProtocolBuild) (backend : Backend) : BackendWrapper where
  name := backend.name
  numQubits := backend.numQubits
  type := mapProtoBackendType build backend.type
  status := mapProtoBackendStatus build backend.status
  queueLength := backend.queueLength
  currentLoad := backend.currentLoad
  queueName := backend.queueName
  instructions := backend.instructions
  qubitConnectivity := backend.connectivity
  supportedCircuitFormats := backend.supportedCircuitFormats.map (mapProtoCircuitFormat build)

def BackendWrapper.fromPublishedStatus (build : ProtocolBuild) (backend : Backend) :
    Except Error BackendWrapper :=
  if backend.name = "" then
    .error ⟨.messagingFailed, "Published backend status has an empty name."⟩
  else if backend.queueName = "" then
    .error ⟨.messagingFailed,
      "Published backend status for '" ++ backend.name ++ "' has an empty queue_name."⟩
  else .ok (.ofBackend build backend)

def BackendWrapper.toBackend (wrapper : BackendWrapper) : Backend where
  name := wrapper.name
  numQubits := wrapper.numQubits
  type := wrapper.type
  status := wrapper.status
  queueLength := wrapper.queueLength
  currentLoad := wrapper.currentLoad
  queueName := wrapper.queueName
  instructions := wrapper.instructions
  connectivity := wrapper.qubitConnectivity
  supportedCircuitFormats := wrapper.supportedCircuitFormats

def BackendWrapper.isOnline (wrapper : BackendWrapper) : Bool :=
  isOnlineBackendStatus wrapper.status

def BackendWrapper.canRun (supportedInputFormats : List String) (wrapper : BackendWrapper)
    (task : QuantumTask) : Bool :=
  if task.nQbits < 0 ∨ task.nQbits.toNat.toUInt32 > wrapper.numQubits then false
  else if task.restrictedResourceNames ≠ [] ∧ ¬ task.restrictedResourceNames.contains wrapper.name then false
  else canPrepareTaskForBackend supportedInputFormats task wrapper.supportedCircuitFormats

def BackendWrapper.compilerTarget (wrapper : BackendWrapper) : Except Error CompilerTarget :=
  chooseCompilerTarget wrapper.supportedCircuitFormats

theorem BackendWrapper.fromSubmitter_ok {deviceId dispatchQueue : String} {device : DeviceReading}
    {wrapper : BackendWrapper} (read : fromSubmitter deviceId device dispatchQueue = .ok wrapper) :
    wrapper.name = deviceId ∧ wrapper.queueName = dispatchQueue := by
  obtain ⟨_, _, read⟩ := Except.bind_eq_ok_iff.mp read
  obtain ⟨_, _, read⟩ := Except.bind_eq_ok_iff.mp read
  obtain ⟨_, _, read⟩ := Except.bind_eq_ok_iff.mp read
  obtain ⟨_, _, read⟩ := Except.bind_eq_ok_iff.mp read
  obtain ⟨_, _, read⟩ := Except.bind_eq_ok_iff.mp read
  cases read
  exact ⟨rfl, rfl⟩

/-- Only a status with both routing strings becomes a wrapper, and it keeps them. -/
theorem BackendWrapper.fromPublishedStatus_ok {build : ProtocolBuild} {backend : Backend}
    {wrapper : BackendWrapper} (accepted : fromPublishedStatus build backend = .ok wrapper) :
    backend.name ≠ "" ∧ backend.queueName ≠ "" ∧ wrapper = .ofBackend build backend := by
  unfold fromPublishedStatus at accepted
  split at accepted
  · cases accepted
  · split at accepted
    · cases accepted
    · cases accepted
      exact ⟨by assumption, by assumption, rfl⟩

/-- The allow-list is part of what `canRun` checks. -/
theorem BackendWrapper.canRun_restricted {supportedInputFormats : List String} {wrapper : BackendWrapper}
    {task : QuantumTask} (able : wrapper.canRun supportedInputFormats task = true) :
    task.restrictedResourceNames = [] ∨ wrapper.name ∈ task.restrictedResourceNames := by
  unfold canRun at able
  split at able
  · cases able
  · split at able
    · cases able
    · rename_i allowed
      by_cases unrestricted : task.restrictedResourceNames = []
      · exact Or.inl unrestricted
      · right
        simpa [unrestricted] using allowed

end Qrmci
