import Qrmci.Runners.Compile

namespace Qrmci

/-- The request one circuit file becomes. -/
structure JobRequest where
  format : CircuitFormat
  payload : Bytes
  numShots : UInt64
  deriving DecidableEq, Repr

def validateSubmission (task : QuantumTask) : Except Error CircuitFormat :=
  if task.circuitFiles.isEmpty then
    .error ⟨.submissionFailed, "Task carries no circuit files to submit."⟩
  else if task.nShots ≤ 0 then
    .error ⟨.submissionFailed, "Task requests a non-positive number of shots."⟩
  else
    let format := mapTaskCircuitTypeToCircuitFormat task.circuitFileType
    if format = .unspecified then
      .error ⟨.submissionFailed,
        "Task's circuit file type has no known submission format: " ++ task.circuitFileType⟩
    else .ok format

def makeJobRequest (task : QuantumTask) (circuitIndex : Nat) (format : CircuitFormat) : JobRequest where
  format := format
  payload := task.circuitFiles.getD circuitIndex []
  numShots := UInt64.ofInt task.nShots

theorem validateSubmission_error_kind {task : QuantumTask} {error : Error}
    (refused : validateSubmission task = .error error) : error.kind = .submissionFailed := by
  unfold validateSubmission at refused
  split at refused
  · cases refused
    rfl
  · split at refused
    · cases refused
      rfl
    · dsimp only at refused
      split at refused
      · cases refused
        rfl
      · cases refused

theorem validateSubmission_shots {task : QuantumTask} {format : CircuitFormat}
    (valid : validateSubmission task = .ok format) : 0 < task.nShots := by
  unfold validateSubmission at valid
  split at valid
  · cases valid
  · split at valid
    · cases valid
    · omega

/-- What a successful compilation leaves is labelled with a format the backend advertises. A task
that was compiled carries the label of the target the compiler was asked for. -/
theorem compileQuantumTask_format {task : QuantumTask} {backendInfo : BackendWrapper} {compiler : MQSSCompiler}
    (able : canPrepareTaskForBackend compiler.supportedInputFormats task
      backendInfo.supportedCircuitFormats = true)
    (compiled : (compileQuantumTask task backendInfo compiler).result = .ok ()) :
    let format := mapTaskCircuitTypeToCircuitFormat (compileQuantumTask task backendInfo compiler).task.circuitFileType
    format ≠ .unspecified ∧ format ∈ backendInfo.supportedCircuitFormats ∧
      (task.noModify = false → ∃ target, backendInfo.compilerTarget = .ok target ∧
        format = target.circuitFormat ∧
        ∀ call ∈ (compileQuantumTask task backendInfo compiler).calls,
          call.options.resultFormat = target.compilerFormat) := by
  rcases compileQuantumTask_cases task backendInfo compiler with
    ⟨direct, run⟩ | ⟨_, unable, _⟩ | ⟨modified, _, target, chosen, failed | success⟩
  · simp only [canPrepareTaskForBackend, direct, if_true, Bool.and_eq_true, bne_iff_ne, ne_eq,
      List.contains_iff_mem] at able
    simp only [run, direct, Bool.true_eq_false, false_implies, and_true]
    exact able
  · rw [able] at unable
    cases unable
  · obtain ⟨error, calls, _, run⟩ := failed
    rw [run] at compiled
    cases compiled
  · obtain ⟨level, compiledCircuits, calls, loop, run⟩ := success
    obtain ⟨listed, offered⟩ := chooseCompilerTarget_ok chosen
    obtain ⟨label, known⟩ := compilerTargetPriority_label listed
    simp only [run, relabelCompiled, label]
    refine ⟨known, offered, fun _ => ⟨target, chosen, rfl, ?_⟩⟩
    intro call made
    have logged : call ∈ (compileCircuits compiler backendInfo ⟨level, target.compilerFormat⟩ []
        task.circuitFiles).2 := by
      rw [loop]
      exact made
    rw [compileCircuits_options logged]

end Qrmci
