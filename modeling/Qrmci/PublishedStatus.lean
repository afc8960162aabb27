import Mathlib.Data.List.Find
import Qrmci.ConfigLayers

namespace Qrmci

/-- The status and the formats that the device reports are enumerators of the protocol build. -/
structure DeviceReading.Known (build : ProtocolBuild) (device : DeviceReading) : Prop where
  status : ∀ status, device.status = .ok status → status.isValid build = true
  formats : ∀ formats, device.supportedPayloadFormats = .ok formats → ∀ format ∈ formats, format.isValid build = true

/-- Every enumeration value in the message is an enumerator of the protocol build. -/
structure Backend.Known (build : ProtocolBuild) (message : Backend) : Prop where
  type : message.type.isValid build = true
  status : message.status.isValid build = true
  formats : ∀ format ∈ message.supportedCircuitFormats, format.isValid build = true

/-- The message with exactly its unknown enumeration values replaced, each in its place. -/
structure Backend.NormalizedTo (build : ProtocolBuild) (message normalized : Backend) : Prop where
  others : normalized = { message with
    type := normalized.type
    status := normalized.status
    supportedCircuitFormats := normalized.supportedCircuitFormats }
  type : normalized.type = if message.type.isValid build then message.type else .unspecified
  status : normalized.status = if message.status.isValid build then message.status else .unspecified
  count : normalized.supportedCircuitFormats.length = message.supportedCircuitFormats.length
  formats : ∀ place : Nat, normalized.supportedCircuitFormats[place]? =
    message.supportedCircuitFormats[place]?.map fun format =>
      if format.isValid build then format else .unspecified

/-- What the wrapper would hold if it took the message's enumeration values as they are. -/
def BackendWrapper.unnormalized (message : Backend) : BackendWrapper where
  name := message.name
  numQubits := message.numQubits
  type := message.type
  status := message.status
  queueLength := message.queueLength
  currentLoad := message.currentLoad
  queueName := message.queueName
  instructions := message.instructions
  qubitConnectivity := message.connectivity
  supportedCircuitFormats := message.supportedCircuitFormats

/-- The two wrappers answer the selector's questions alike. -/
structure BackendWrapper.Agrees (one other : BackendWrapper) : Prop where
  isOnline : one.isOnline = other.isOnline
  canRun : ∀ inputFormats task, one.canRun inputFormats task = other.canRun inputFormats task
  compilerTarget : one.compilerTarget = other.compilerTarget
  queueName : one.queueName = other.queueName

variable {build : ProtocolBuild} {message : Backend}

theorem mapProtoCircuitFormat_of_isValid {format : CircuitFormat} (known : format.isValid build = true) :
    mapProtoCircuitFormat build format = format := by
  simp only [mapProtoCircuitFormat, known, if_true]

theorem mapProtoCircuitFormat_isValid (build : ProtocolBuild) (format : CircuitFormat) :
    (mapProtoCircuitFormat build format).isValid build = true := by
  unfold mapProtoCircuitFormat
  split
  · assumption
  · rfl

theorem mapProtoBackendType_isValid (build : ProtocolBuild) (type : BackendType) :
    (mapProtoBackendType build type).isValid build = true := by
  unfold mapProtoBackendType
  split
  · assumption
  · rfl

theorem mapProtoBackendStatus_isValid (build : ProtocolBuild) (status : BackendStatus) :
    (mapProtoBackendStatus build status).isValid build = true := by
  unfold mapProtoBackendStatus
  split
  · assumption
  · rfl

/-- A message of known values goes through the wrapper unchanged. -/
theorem Backend.Known.ofBackend (known : message.Known build) :
    BackendWrapper.ofBackend build message = .unnormalized message := by
  have formats : message.supportedCircuitFormats.map (mapProtoCircuitFormat build) =
      message.supportedCircuitFormats := by
    refine (List.map_congr_left ?_).trans (List.map_id _)
    intro format member
    exact mapProtoCircuitFormat_of_isValid (known.formats format member)
  simp only [BackendWrapper.ofBackend, BackendWrapper.unnormalized, mapProtoBackendType, mapProtoBackendStatus,
    known.type, known.status, if_true, formats]

/-- Whatever the message held, the wrapper holds known values. -/
theorem ofBackend_toBackend_known (build : ProtocolBuild) (message : Backend) :
    (BackendWrapper.ofBackend build message).toBackend.Known build := by
  refine ⟨mapProtoBackendType_isValid build _, mapProtoBackendStatus_isValid build _, ?_⟩
  intro format member
  obtain ⟨sent, _, mapped⟩ := List.mem_map.mp member
  rw [← mapped]
  exact mapProtoCircuitFormat_isValid build sent

theorem ofBackend_normalizes (build : ProtocolBuild) (message : Backend) :
    message.NormalizedTo build (BackendWrapper.ofBackend build message).toBackend where
  others := rfl
  type := rfl
  status := rfl
  count := List.length_map _
  formats _ := List.getElem?_map

theorem unnormalized_toBackend (wrapper : BackendWrapper) :
    BackendWrapper.unnormalized wrapper.toBackend = wrapper := rfl

theorem fromPublishedStatus_of_routed (named : message.name ≠ "") (queued : message.queueName ≠ "") :
    BackendWrapper.fromPublishedStatus build message = .ok (.ofBackend build message) := by
  simp only [BackendWrapper.fromPublishedStatus, named, queued, if_false]

/-- Replacing an unknown format neither adds nor removes one that is known and specified. -/
theorem mem_map_mapProtoCircuitFormat {formats : List CircuitFormat} {format : CircuitFormat}
    (known : format.isValid build = true) (specified : format ≠ .unspecified) :
    format ∈ formats.map (mapProtoCircuitFormat build) ↔ format ∈ formats := by
  constructor
  · intro member
    obtain ⟨sent, listed, mapped⟩ := List.mem_map.mp member
    unfold mapProtoCircuitFormat at mapped
    split at mapped
    · rw [← mapped]
      exact listed
    · exact absurd mapped.symm specified
  · intro listed
    exact List.mem_map.mpr ⟨format, listed, mapProtoCircuitFormat_of_isValid known⟩

theorem mapTaskCircuitTypeToCircuitFormat_isValid (build : ProtocolBuild) (circuitType : String) :
    (mapTaskCircuitTypeToCircuitFormat circuitType).isValid build = true := by
  unfold mapTaskCircuitTypeToCircuitFormat
  split_ifs <;> rfl

theorem compilerTargetPriority_isValid (build : ProtocolBuild) {target : CompilerTarget}
    (listed : target ∈ compilerTargetPriority) :
    target.circuitFormat.isValid build = true := by
  have specified := compilerTargetPriority_label listed
  rw [← specified.1]
  exact mapTaskCircuitTypeToCircuitFormat_isValid build _

theorem chooseCompilerTarget_map (build : ProtocolBuild) (formats : List CircuitFormat) :
    chooseCompilerTarget (formats.map (mapProtoCircuitFormat build)) = chooseCompilerTarget formats := by
  have same : compilerTargetPriority.find? (fun target =>
      (formats.map (mapProtoCircuitFormat build)).contains target.circuitFormat) =
      compilerTargetPriority.find? (fun target => formats.contains target.circuitFormat) := by
    apply List.find?_congr
    intro target listed
    rw [Bool.eq_iff_iff, List.contains_iff_mem, List.contains_iff_mem]
    exact mem_map_mapProtoCircuitFormat (compilerTargetPriority_isValid build listed)
      (compilerTargetPriority_label listed).2
  simp only [chooseCompilerTarget, same]

theorem canPrepareTaskForBackend_map (build : ProtocolBuild) (inputFormats : List String) (task : QuantumTask)
    (formats : List CircuitFormat) :
    canPrepareTaskForBackend inputFormats task (formats.map (mapProtoCircuitFormat build)) =
      canPrepareTaskForBackend inputFormats task formats := by
  simp only [canPrepareTaskForBackend, chooseCompilerTarget_map]
  split
  · by_cases unspecified : mapTaskCircuitTypeToCircuitFormat task.circuitFileType = .unspecified
    · simp only [unspecified, bne_self_eq_false, Bool.false_and]
    · congr 1
      rw [Bool.eq_iff_iff, List.contains_iff_mem, List.contains_iff_mem]
      exact mem_map_mapProtoCircuitFormat (mapTaskCircuitTypeToCircuitFormat_isValid build _) unspecified
  · rfl

/-- An unknown status is not an online one, and neither is the one it is replaced with. -/
theorem isOnlineBackendStatus_map (build : ProtocolBuild) (status : BackendStatus) :
    isOnlineBackendStatus (mapProtoBackendStatus build status) = isOnlineBackendStatus status := by
  cases status with
  | other number =>
    unfold mapProtoBackendStatus
    split <;> rfl
  | _ => rfl

theorem canRun_congr {one other : BackendWrapper} {inputFormats : List String} {task : QuantumTask}
    (name : one.name = other.name) (numQubits : one.numQubits = other.numQubits)
    (prepares : canPrepareTaskForBackend inputFormats task one.supportedCircuitFormats =
      canPrepareTaskForBackend inputFormats task other.supportedCircuitFormats) :
    one.canRun inputFormats task = other.canRun inputFormats task := by
  simp only [BackendWrapper.canRun, name, numQubits, prepares]

/-- Replacing unknown values changes no answer the selector asks for. -/
theorem ofBackend_agrees (build : ProtocolBuild) (message : Backend) :
    (BackendWrapper.ofBackend build message).Agrees (.unnormalized message) where
  isOnline := isOnlineBackendStatus_map build message.status
  canRun inputFormats task := canRun_congr rfl rfl
    (canPrepareTaskForBackend_map build inputFormats task message.supportedCircuitFormats)
  compilerTarget := chooseCompilerTarget_map build message.supportedCircuitFormats
  queueName := rfl

theorem asDeviceError_ok {α : Type} {query : Except SubmitterError α} {value : α}
    (read : asDeviceError query = .ok value) : query = .ok value := by
  cases query with
  | error error => cases read
  | ok answer =>
    cases read
    rfl

/-- A reading of known values makes a wrapper that publishes known values. -/
theorem fromSubmitter_toBackend_known {deviceId dispatchQueue : String} {device : DeviceReading}
    {wrapper : BackendWrapper} (known : device.Known build)
    (read : BackendWrapper.fromSubmitter deviceId device dispatchQueue = .ok wrapper) :
    wrapper.toBackend.Known build := by
  obtain ⟨_, _, read⟩ := Except.bind_eq_ok_iff.mp read
  obtain ⟨status, reportedStatus, read⟩ := Except.bind_eq_ok_iff.mp read
  obtain ⟨_, _, read⟩ := Except.bind_eq_ok_iff.mp read
  obtain ⟨_, _, read⟩ := Except.bind_eq_ok_iff.mp read
  obtain ⟨formats, reportedFormats, read⟩ := Except.bind_eq_ok_iff.mp read
  cases read
  exact ⟨rfl, known.status status (asDeviceError_ok reportedStatus),
    known.formats formats (asDeviceError_ok reportedFormats)⟩

/-- A status with known values and both routing strings is received as it was sent. -/
theorem fromPublishedStatus_toBackend {wrapper : BackendWrapper} (known : wrapper.toBackend.Known build)
    (named : wrapper.name ≠ "") (queued : wrapper.queueName ≠ "") :
    BackendWrapper.fromPublishedStatus build wrapper.toBackend = .ok wrapper := by
  refine (fromPublishedStatus_of_routed named queued).trans ?_
  rw [known.ofBackend, unnormalized_toBackend]

/-- Everything a worker publishes comes from a reading of its own device, under its own identity. -/
theorem worker_publishes {S : Type} {settings : WorkerSettings} {bag : Bag S Ticket} {acts : List WorkerAct}
    {s : WorkerState S} (run : WorkerRun settings bag acts s) {head : TurnHead} {status : Backend}
    (published : WorkerAct.turnHead head (some status) ∈ acts) :
    ∃ wrapper, BackendWrapper.fromSubmitter settings.deviceId head.device settings.compilerQueue = .ok wrapper ∧
      status = wrapper.toBackend := by
  induction run with
  | start => cases published
  | @next _ before _ _ _ step ih =>
    rcases List.mem_cons.mp published with here | earlier
    · cases step with
      | turnHead turn =>
        obtain ⟨sameHead, sent⟩ := WorkerAct.turnHead.inj here
        subst sameHead
        rcases runTurnHead_cases settings.own head before.availableBackends before.throttle with
          ⟨_, _, _, _, ran⟩ | ⟨_, ⟨_, _, ran⟩ | ⟨wrapper, read, ran⟩⟩
        · rw [ran] at sent
          cases sent
        · rw [ran] at sent
          cases sent
        · rw [ran] at sent
          exact ⟨wrapper, read, Option.some.inj sent⟩
      | _ => cases here
    · exact ih earlier

/-- An accepted configuration gives a worker a name and a queue to publish. -/
theorem loadConfig_identity {toml : TomlLibrary} {env : Environment} {file : String → ConfigFile} {configFile : String}
    {config : Config} (accepted : loadConfig toml env file configFile = .ok config) :
    config.submitter.qdmiDeviceId ≠ "" ∧ config.compiler.queue ≠ "" := by
  obtain ⟨entries, _, assembled⟩ := Except.bind_eq_ok_iff.mp accepted
  obtain ⟨conditions, same⟩ := assembleConfig_ok assembled
  rw [same]
  exact ⟨conditions.required .qdmiDeviceId (by decide), conditions.required .compilerQueue (by decide)⟩

/-- A backend status survives its publication: what a wrapper of a device publishes is received as that
very wrapper; what a configured worker publishes is never rejected; and a message from any peer comes
through with exactly its unknown values replaced, which changes no answer about it. -/
theorem backend_status_survives_publication (build : ProtocolBuild) :
    (∀ deviceId device dispatchQueue wrapper,
      BackendWrapper.fromSubmitter deviceId device dispatchQueue = .ok wrapper → device.Known build →
      wrapper.name ≠ "" → wrapper.queueName ≠ "" →
      ∃ received, BackendWrapper.fromPublishedStatus build wrapper.toBackend = .ok received ∧
        received = wrapper ∧ received.Agrees wrapper) ∧
    (∀ toml env file configFile config, loadConfig toml env file configFile = .ok config →
      ∀ (S : Type) (bag : Bag S Ticket) (acts : List WorkerAct) (s : WorkerState S),
        WorkerRun (config.workerSettings config.submitter.qdmiDeviceId) bag acts s →
        ∀ head status, WorkerAct.turnHead head (some status) ∈ acts →
          ∃ received, BackendWrapper.fromPublishedStatus build status = .ok received) ∧
    (∀ message : Backend, message.name ≠ "" → message.queueName ≠ "" →
      ∃ wrapper, BackendWrapper.fromPublishedStatus build message = .ok wrapper ∧
        message.NormalizedTo build wrapper.toBackend ∧
        (message.Known build → wrapper.toBackend = message) ∧
        BackendWrapper.fromPublishedStatus build wrapper.toBackend = .ok wrapper ∧
        wrapper.Agrees (.unnormalized message)) := by
  refine ⟨?_, ?_, ?_⟩
  · intro deviceId device dispatchQueue wrapper read known named queued
    have received := fromPublishedStatus_toBackend (fromSubmitter_toBackend_known known read) named queued
    exact ⟨wrapper, received, rfl, rfl, fun _ _ => rfl, rfl, rfl⟩
  · intro toml env file configFile config accepted S bag acts s run head status published
    obtain ⟨named, queued⟩ := loadConfig_identity accepted
    obtain ⟨wrapper, read, same⟩ := worker_publishes run published
    obtain ⟨name, queue⟩ := BackendWrapper.fromSubmitter_ok read
    subst same
    have statusNamed : wrapper.toBackend.name ≠ "" := ne_of_eq_of_ne name named
    have statusQueued : wrapper.toBackend.queueName ≠ "" := ne_of_eq_of_ne queue queued
    exact ⟨_, fromPublishedStatus_of_routed statusNamed statusQueued⟩
  · intro message named queued
    have known := ofBackend_toBackend_known build message
    refine ⟨_, fromPublishedStatus_of_routed named queued, ofBackend_normalizes build message, ?_,
      fromPublishedStatus_toBackend known named queued, ofBackend_agrees build message⟩
    intro messageKnown
    rw [messageKnown.ofBackend]
    rfl

end Qrmci
