import Qrmci.Protocol

namespace Qrmci

/-- The result formats the compiler can be asked to emit. -/
inductive ResultFormat
  | iqmjson | openqasm2 | qirBase | qirAdaptive
  deriving DecidableEq, Repr

/-- What the compiler is asked for, the wire format its output is submitted as, and the
circuit type a compiled task carries afterwards. -/
structure CompilerTarget where
  compilerFormat : ResultFormat
  circuitFormat : CircuitFormat
  taskCircuitType : String
  deriving DecidableEq, Repr

def compilerTargetPriority : List CompilerTarget :=
  [⟨.iqmjson, .iqmjson, "iqmjson"⟩,
   ⟨.openqasm2, .qasm2, "qasm2"⟩,
   ⟨.qirBase, .qirBaseString, "qirbase"⟩,
   ⟨.qirAdaptive, .qirAdaptiveString, "qiradaptive"⟩]

/-- The compiler's own names for the task circuit types it can read. -/
def taskCircuitTypeToCompilerInputFormatMapping : List (String × String) :=
  [("quake", "cudaq-quake"), ("catalyst", "catalyst-quantum")]

def mapTaskCircuitTypeToCircuitFormat (format : String) : CircuitFormat :=
  if format = "iqmjson" then .iqmjson
  else if format = "qasm" ∨ format = "qasm2" then .qasm2
  else if format = "qasm3" then .qasm3
  else if format = "qir" ∨ format = "qirbase" ∨ format = "quake" ∨ format = "catalyst" then
    -- quake and catalyst have no wire format of their own
    .qirBaseString
  else if format = "qiradaptive" then .qirAdaptiveString
  else .unspecified

def chooseCompilerTarget (backendFormats : List CircuitFormat) : Except Error CompilerTarget :=
  match compilerTargetPriority.find? (fun target => backendFormats.contains target.circuitFormat) with
  | some target => .ok target
  | none => .error ⟨.unsupportedFormat, "No compatible result format found"⟩

def validateInputFormatIsSupportedCircuitFormat (circuitFileFormat : String)
    (supportedInputFormats : List String) : Except Error Unit :=
  match taskCircuitTypeToCompilerInputFormatMapping.find? (fun mapping => mapping.1 == circuitFileFormat) with
  | some inputFormat =>
    if supportedInputFormats.contains inputFormat.2 then .ok ()
    else .error ⟨.unsupportedFormat, "Unsupported circuit file format: " ++ circuitFileFormat⟩
  | none => .error ⟨.unsupportedFormat, "Unsupported circuit file format: " ++ circuitFileFormat⟩

/-- `supportedInputFormats` is what the compiler's `getSupportedInputFormats()` returns. -/
def canPrepareTaskForBackend (supportedInputFormats : List String) (task : QuantumTask)
    (backendFormats : List CircuitFormat) : Bool :=
  if task.noModify then
    let directFormat := mapTaskCircuitTypeToCircuitFormat task.circuitFileType
    directFormat != .unspecified && backendFormats.contains directFormat
  else
    (validateInputFormatIsSupportedCircuitFormat task.circuitFileType supportedInputFormats).isOk &&
      (chooseCompilerTarget backendFormats).isOk

theorem chooseCompilerTarget_ok {backendFormats : List CircuitFormat} {target : CompilerTarget}
    (chosen : chooseCompilerTarget backendFormats = .ok target) :
    target ∈ compilerTargetPriority ∧ target.circuitFormat ∈ backendFormats := by
  unfold chooseCompilerTarget at chosen
  split at chosen
  · rename_i found
    cases chosen
    have offered := List.find?_some found
    exact ⟨List.mem_of_find?_eq_some found, by simpa using offered⟩
  · cases chosen

theorem chooseCompilerTarget_error_kind {backendFormats : List CircuitFormat} {error : Error}
    (failed : chooseCompilerTarget backendFormats = .error error) : error.kind = .unsupportedFormat := by
  unfold chooseCompilerTarget at failed
  split at failed
  · cases failed
  · cases failed
    rfl

theorem validateInputFormat_error_kind {circuitFileFormat : String} {supportedInputFormats : List String}
    {error : Error}
    (failed : validateInputFormatIsSupportedCircuitFormat circuitFileFormat supportedInputFormats = .error error) :
    error.kind = .unsupportedFormat := by
  unfold validateInputFormatIsSupportedCircuitFormat at failed
  split at failed
  · split at failed
    · cases failed
    · cases failed
      rfl
  · cases failed
    rfl

/-- The label a compiled task is given maps back to the format it was compiled to, for every
row of the priority table. -/
theorem compilerTargetPriority_label {target : CompilerTarget} (listed : target ∈ compilerTargetPriority) :
    mapTaskCircuitTypeToCircuitFormat target.taskCircuitType = target.circuitFormat ∧
      target.circuitFormat ≠ .unspecified := by
  have rows : ∀ row ∈ compilerTargetPriority,
      mapTaskCircuitTypeToCircuitFormat row.taskCircuitType = row.circuitFormat ∧
        row.circuitFormat ≠ .unspecified := by decide
  exact rows target listed

end Qrmci
