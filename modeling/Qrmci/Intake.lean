import Qrmci.Daemon
import Qrmci.Lib.Bag

namespace Qrmci

/-- The task as an accepted intake leaves it: assigned to a backend, and compiled for it circuit by
circuit unless it is not to be modified. -/
structure QuantumTask.PreparedAs (task prepared : QuantumTask) (qpu : String) : Prop where
  others : prepared = { task with
    scheduledQpu := qpu
    circuitFiles := prepared.circuitFiles
    circuitFileType := prepared.circuitFileType }
  count : prepared.circuitFiles.length = task.circuitFiles.length
  unmodified : task.noModify = true →
    prepared.circuitFiles = task.circuitFiles ∧ prepared.circuitFileType = task.circuitFileType

/-- A failed compilation leaves the task alone; a successful one keeps its circuits' number. -/
theorem compileQuantumTask_atomic (task : QuantumTask) (backendInfo : BackendWrapper) (compiler : MQSSCompiler) :
    (∀ error, (compileQuantumTask task backendInfo compiler).result = .error error →
      (compileQuantumTask task backendInfo compiler).task = task) ∧
    ((compileQuantumTask task backendInfo compiler).result = .ok () →
      task.PreparedAs (compileQuantumTask task backendInfo compiler).task task.scheduledQpu) := by
  rcases compileQuantumTask_cases task backendInfo compiler with
    ⟨_, run⟩ | ⟨_, _, _, _, run⟩ | ⟨modified, _, target, _, ⟨_, _, _, run⟩ | ⟨_, compiledCircuits, _, loop, run⟩⟩
  · rw [run]
    exact ⟨nofun, fun _ => ⟨rfl, rfl, fun _ => ⟨rfl, rfl⟩⟩⟩
  · rw [run]
    exact ⟨fun _ _ => rfl, nofun⟩
  · rw [run]
    exact ⟨fun _ _ => rfl, nofun⟩
  · rw [run]
    have length : compiledCircuits.length = task.circuitFiles.length := by
      have grown := compileCircuits_length (congrArg Prod.fst loop)
      simpa using grown
    refine ⟨nofun, fun _ => ⟨rfl, ?_, ?_⟩⟩
    · simp only [relabelCompiled, List.length_append, List.length_drop]
      omega
    · intro kept
      cases modified.symm.trans kept

variable {S : Type} (bag : Bag S QuantumTask)

/-- The intake of a task that is already assigned to a backend: nothing happens, or the task joins the
scheduler as it was prepared. -/
theorem compileAndSchedule_atomic (task : QuantumTask) (backends : BackendRegistry) (compiler : MQSSCompiler)
    (scheduler : S) :
    let run := compileAndSchedule bag.put task backends compiler scheduler
    (∀ error, run.result = .error error → run.scheduler = scheduler ∧ run.task = task) ∧
    (run.result = .ok () → bag.content run.scheduler = run.task ::ₘ bag.content scheduler ∧
      task.PreparedAs run.task task.scheduledQpu) := by
  cases located : backends.find task.scheduledQpu with
  | none =>
    rw [compileAndSchedule_unregistered located]
    refine ⟨fun _ _ => ⟨rfl, rfl⟩, ?_⟩
    intro succeeded
    cases succeeded
  | some backendInfo =>
    obtain ⟨onError, onSuccess⟩ := compileQuantumTask_atomic task backendInfo compiler
    simp only [compileAndSchedule, located]
    cases outcome : (compileQuantumTask task backendInfo compiler).result with
    | error error =>
      refine ⟨fun _ _ => ⟨rfl, onError error outcome⟩, ?_⟩
      intro succeeded
      cases succeeded
    | ok =>
      refine ⟨?_, fun _ => ⟨bag.content_put _ _, onSuccess outcome⟩⟩
      intro error failed
      cases failed

/-- Intake is atomic: a failed stage leaves the scheduler alone and the task as it was, but for the
backend that was chosen for it; a successful one adds the prepared task and nothing else. -/
theorem intake_atomic (task : QuantumTask) (backends : BackendRegistry) (compiler : MQSSCompiler) (scheduler : S)
    (policy : BackendSelectionPolicy) :
    let selection := chooseBackend compiler.supportedInputFormats task backends policy
    let assigned := compileAndSchedule bag.put task backends compiler scheduler
    let selected := selectCompileAndSchedule bag.put task backends compiler scheduler policy
    ((∀ error, assigned.result = .error error → assigned.scheduler = scheduler ∧ assigned.task = task) ∧
      (assigned.result = .ok () → bag.content assigned.scheduler = assigned.task ::ₘ bag.content scheduler ∧
        task.PreparedAs assigned.task task.scheduledQpu)) ∧
    (∀ error, selected.result = .error error → selected.scheduler = scheduler ∧
      ((selection = .error error ∧ selected.task = task) ∨
        ∃ chosen, selection = .ok chosen ∧ selected.task = { task with scheduledQpu := chosen })) ∧
    (selected.result = .ok () → bag.content selected.scheduler = selected.task ::ₘ bag.content scheduler ∧
      ∃ chosen, selection = .ok chosen ∧ task.PreparedAs selected.task chosen) := by
  intro selection assigned selected
  refine ⟨compileAndSchedule_atomic bag task backends compiler scheduler, ?_⟩
  simp only [selected, selection, selectCompileAndSchedule]
  cases chooseBackend compiler.supportedInputFormats task backends policy with
  | error error =>
    refine ⟨?_, nofun⟩
    rintro _ ⟨⟩
    exact ⟨rfl, Or.inl ⟨rfl, rfl⟩⟩
  | ok chosen =>
    obtain ⟨onError, onSuccess⟩ :=
      compileAndSchedule_atomic bag { task with scheduledQpu := chosen } backends compiler scheduler
    constructor
    · intro error failed
      obtain ⟨kept, same⟩ := onError error failed
      exact ⟨kept, Or.inr ⟨chosen, rfl, same⟩⟩
    · intro done
      obtain ⟨gained, prepared⟩ := onSuccess done
      exact ⟨gained, chosen, rfl, prepared.others, prepared.count, prepared.unmodified⟩

/-- With `alpha` registered, a quake task is assigned to it, compiled and scheduled. -/
example :
    let registered := (BackendRegistry.new 1).insertOrRefresh
      (.ofBackend ⟨fun _ => false, fun _ => false, fun _ => false⟩ .alpha) 0
    let run := selectCompileAndSchedule (Bag.fifo QuantumTask).put .quake registered.2 .echo [] .lowestName
    run.result.isOk = true ∧ run.scheduler = [run.task] ∧ run.task.scheduledQpu = "alpha" ∧
      run.task.circuitFileType = "qirbase" := by
  decide +kernel

end Qrmci
