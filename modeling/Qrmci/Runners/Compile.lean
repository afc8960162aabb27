import Qrmci.BackendWrapper

namespace Qrmci

inductive OptLevel
  | o1 | o2 | o3
  deriving DecidableEq, Repr

/-- Level 0 is what proto3 sends for an omitted field, so it means the lowest level. -/
def getCompilerOptimizationLevel (level : Int) : Except Error OptLevel :=
  if level = 0 ∨ level = 1 then .ok .o1
  else if level = 2 then .ok .o2
  else if level = 3 then .ok .o3
  else .error ⟨.compilationFailed, "Invalid optimisation level " ++ toString level ++ "; expected 0-3."⟩

structure CompilerOptions where
  optimizationLevel : OptLevel
  resultFormat : ResultFormat
  deriving DecidableEq, Repr

/-- The arguments of one `compileSource` call. -/
structure CompileCall where
  source : Bytes
  backendName : String
  instructions : List String
  connectivity : List (UInt32 × UInt32)
  options : CompilerOptions
  deriving DecidableEq, Repr

inductive CompileOutcome
  | output (compiled : Bytes)
  | failure
  | thrown (what : String)
  deriving DecidableEq, Repr

/-- The external compiler, as far as one `compileQuantumTask` can observe it: the input formats
it lists, and its answer to the n-th `compileSource` call. Two calls with the same arguments may
be answered differently. -/
structure MQSSCompiler where
  supportedInputFormats : List String
  compileSource : Nat → CompileCall → CompileOutcome

/-- A compiler for quake circuits that hands every circuit back as it is. -/
def MQSSCompiler.echo : MQSSCompiler := ⟨["cudaq-quake"], fun _ call => .output call.source⟩

/-- The compilation loop. `staged` is the staging vector, whose size numbers the circuit files;
the calls made are returned beside the result. -/
def compileCircuits (compiler : MQSSCompiler) (backendInfo : BackendWrapper) (options : CompilerOptions) :
    List Bytes → List Bytes → Except Error (List Bytes) × List CompileCall
  | staged, [] => (.ok staged, [])
  | staged, circuitFile :: rest =>
    let index := staged.length
    if circuitFile.isEmpty then
      (.error ⟨.compilationFailed,
        "Compilation failed for circuit file " ++ toString index ++ ": circuit is empty."⟩, [])
    else
      let call : CompileCall :=
        ⟨circuitFile, backendInfo.name, backendInfo.instructions, backendInfo.qubitConnectivity, options⟩
      match compiler.compileSource index call with
      | .thrown what => (.error ⟨.compilationFailed, "Compilation failed: " ++ what⟩, [call])
      | .failure =>
        (.error ⟨.compilationFailed, "Compilation failed for circuit file " ++ toString index ++ "."⟩, [call])
      | .output compiled =>
        let remaining := compileCircuits compiler backendInfo options (staged ++ [compiled]) rest
        (remaining.1, call :: remaining.2)

/-- What `compileQuantumTask` leaves behind: the task, mutated or not, the returned value, and the
compiler calls it made. -/
structure CompileRun where
  task : QuantumTask
  result : Except Error Unit
  calls : List CompileCall

/-- The write-back of a full staging vector, and the relabelling. -/
def relabelCompiled (task : QuantumTask) (target : CompilerTarget) (compiledCircuits : List Bytes) : QuantumTask :=
  { task with
    circuitFiles := compiledCircuits ++ task.circuitFiles.drop compiledCircuits.length
    circuitFileType := target.taskCircuitType }

def compileQuantumTask (task : QuantumTask) (backendInfo : BackendWrapper) (compiler : MQSSCompiler) : CompileRun :=
  if task.noModify then ⟨task, .ok (), []⟩
  else
    match validateInputFormatIsSupportedCircuitFormat task.circuitFileType compiler.supportedInputFormats with
    | .error error => ⟨task, .error error, []⟩
    | .ok () =>
      match backendInfo.compilerTarget with
      | .error error => ⟨task, .error error, []⟩
      | .ok target =>
        match getCompilerOptimizationLevel task.optimisationLevel with
        | .error error => ⟨task, .error error, []⟩
        | .ok level =>
          match compileCircuits compiler backendInfo ⟨level, target.compilerFormat⟩ [] task.circuitFiles with
          | (.error error, calls) => ⟨task, .error error, calls⟩
          | (.ok compiledCircuits, calls) => ⟨relabelCompiled task target compiledCircuits, .ok (), calls⟩

variable {task : QuantumTask} {backendInfo : BackendWrapper} {compiler : MQSSCompiler}

theorem getCompilerOptimizationLevel_error_kind {level : Int} {error : Error}
    (failed : getCompilerOptimizationLevel level = .error error) : error.kind = .compilationFailed := by
  unfold getCompilerOptimizationLevel at failed
  split at failed
  · cases failed
  · split at failed
    · cases failed
    · split at failed
      · cases failed
      · cases failed
        rfl

theorem compileCircuits_error_kind {options : CompilerOptions} {staged files : List Bytes} {error : Error}
    (failed : (compileCircuits compiler backendInfo options staged files).1 = .error error) :
    error.kind = .compilationFailed := by
  induction files generalizing staged with
  | nil => cases failed
  | cons circuitFile rest ih =>
    simp only [compileCircuits] at failed
    split at failed
    · cases failed
      rfl
    · split at failed
      · cases failed
        rfl
      · cases failed
        rfl
      · exact ih failed

/-- A loop that goes through adds one compiled circuit for each circuit file. -/
theorem compileCircuits_length {options : CompilerOptions} {staged files compiled : List Bytes}
    (done : (compileCircuits compiler backendInfo options staged files).1 = .ok compiled) :
    compiled.length = staged.length + files.length := by
  induction files generalizing staged with
  | nil =>
    cases done
    rfl
  | cons circuitFile rest ih =>
    simp only [compileCircuits] at done
    split at done
    · cases done
    · split at done
      · cases done
      · cases done
      · have grown := ih done
        simp only [List.length_append, List.length_cons, List.length_nil] at grown ⊢
        omega

theorem compileCircuits_options {options : CompilerOptions} {staged files : List Bytes} {call : CompileCall}
    (made : call ∈ (compileCircuits compiler backendInfo options staged files).2) : call.options = options := by
  induction files generalizing staged with
  | nil => cases made
  | cons circuitFile rest ih =>
    simp only [compileCircuits] at made
    split at made
    · cases made
    · split at made
      · cases List.mem_singleton.mp made
        rfl
      · cases List.mem_singleton.mp made
        rfl
      · rcases List.mem_cons.mp made with same | later
        · cases same
          rfl
        · exact ih later

/-- The ways through `compileQuantumTask`: the task goes through as it is, it is refused before
or during compilation and left alone, or it comes out compiled for the backend's target. -/
theorem compileQuantumTask_cases (task : QuantumTask) (backendInfo : BackendWrapper) (compiler : MQSSCompiler) :
    (task.noModify = true ∧ compileQuantumTask task backendInfo compiler = ⟨task, .ok (), []⟩) ∨
    (task.noModify = false ∧
      canPrepareTaskForBackend compiler.supportedInputFormats task backendInfo.supportedCircuitFormats = false ∧
      ∃ error, error.kind = .unsupportedFormat ∧
        compileQuantumTask task backendInfo compiler = ⟨task, .error error, []⟩) ∨
    (task.noModify = false ∧
      canPrepareTaskForBackend compiler.supportedInputFormats task backendInfo.supportedCircuitFormats = true ∧
      ∃ target, backendInfo.compilerTarget = .ok target ∧
        ((∃ error calls, error.kind = .compilationFailed ∧
            compileQuantumTask task backendInfo compiler = ⟨task, .error error, calls⟩) ∨
          ∃ level compiledCircuits calls,
            compileCircuits compiler backendInfo ⟨level, target.compilerFormat⟩ [] task.circuitFiles =
              (.ok compiledCircuits, calls) ∧
            compileQuantumTask task backendInfo compiler =
              ⟨relabelCompiled task target compiledCircuits, .ok (), calls⟩)) := by
  by_cases direct : task.noModify = true
  · exact Or.inl ⟨direct, by simp [compileQuantumTask, direct]⟩
  · have compiled : task.noModify = false := by simpa using direct
    right
    cases valid : validateInputFormatIsSupportedCircuitFormat task.circuitFileType compiler.supportedInputFormats with
    | error error =>
      left
      refine ⟨compiled, ?_, error, validateInputFormat_error_kind valid, ?_⟩
      · simp [canPrepareTaskForBackend, compiled, valid, Except.isOk, Except.toBool]
      · simp [compileQuantumTask, compiled, valid]
    | ok =>
      cases chosen : backendInfo.compilerTarget with
      | error error =>
        have kind := chooseCompilerTarget_error_kind chosen
        unfold BackendWrapper.compilerTarget at chosen
        left
        refine ⟨compiled, ?_, error, kind, ?_⟩
        · simp [canPrepareTaskForBackend, compiled, chosen, Except.isOk, Except.toBool]
        · simp [compileQuantumTask, compiled, valid, BackendWrapper.compilerTarget, chosen]
      | ok target =>
        right
        have able : canPrepareTaskForBackend compiler.supportedInputFormats task
            backendInfo.supportedCircuitFormats = true := by
          unfold BackendWrapper.compilerTarget at chosen
          simp [canPrepareTaskForBackend, compiled, valid, chosen, Except.isOk, Except.toBool]
        refine ⟨compiled, able, target, rfl, ?_⟩
        cases optimised : getCompilerOptimizationLevel task.optimisationLevel with
        | error error =>
          left
          refine ⟨error, [], getCompilerOptimizationLevel_error_kind optimised, ?_⟩
          simp [compileQuantumTask, compiled, valid, chosen, optimised]
        | ok level =>
          cases run : compileCircuits compiler backendInfo ⟨level, target.compilerFormat⟩ [] task.circuitFiles with
          | mk outcome calls =>
            cases outcome with
            | error error =>
              left
              refine ⟨error, calls, compileCircuits_error_kind (by rw [run]), ?_⟩
              simp [compileQuantumTask, compiled, valid, chosen, optimised, run]
            | ok compiledCircuits =>
              right
              refine ⟨level, compiledCircuits, calls, run, ?_⟩
              simp [compileQuantumTask, compiled, valid, chosen, optimised, run]

end Qrmci
