import Qrmci.Runners.Choose
import Qrmci.Runners.Collect
import Qrmci.PublicationThrottle

namespace Qrmci

def registerOwnDevice (deviceId : String) (device : DeviceReading) (backends : BackendRegistry)
    (dispatchQueue : String) (now : Time) : Except Error Unit × BackendRegistry :=
  match BackendWrapper.fromSubmitter deviceId device dispatchQueue with
  | .error error => (.error error, backends)
  | .ok backend => (.ok (), (backends.insertOrRefresh backend now).2)

/-- The status to publish, if a slot was due and the device could be read, with the registry and
the throttle as they are afterwards. The claim and the refresh each read the clock. -/
def refreshOwnDeviceStatus (deviceId : String) (device : DeviceReading) (backends : BackendRegistry)
    (throttle : PublicationThrottle) (dispatchQueue : String) (claimedAt refreshedAt : Time) :
    Option Backend × BackendRegistry × PublicationThrottle :=
  match throttle.claim claimedAt with
  | (false, throttle) => (none, backends, throttle)
  | (true, throttle) =>
    match BackendWrapper.fromSubmitter deviceId device dispatchQueue with
    | .error _ => (none, backends, throttle)
    | .ok refreshed => (some refreshed.toBackend, (backends.insertOrRefresh refreshed refreshedAt).2, throttle)

/-- What an intake stage leaves behind: the task, mutated or not, the returned value, and the
scheduler. -/
structure IntakeRun (S : Type) where
  task : QuantumTask
  result : Except Error Unit
  scheduler : S

section Intake

variable {S : Type} (scheduleTask : QuantumTask → S → S)

def compileAndSchedule (task : QuantumTask) (backends : BackendRegistry) (compiler : MQSSCompiler) (scheduler : S) :
    IntakeRun S :=
  match backends.find task.scheduledQpu with
  | none =>
    ⟨task, .error ⟨.noBackendAvailable,
      "Backend '" ++ task.scheduledQpu ++ "' is not registered with this process."⟩, scheduler⟩
  | some backendInfo =>
    let compiled := compileQuantumTask task backendInfo compiler
    match compiled.result with
    | .error error => ⟨compiled.task, .error error, scheduler⟩
    | .ok () => ⟨compiled.task, .ok (), scheduleTask compiled.task scheduler⟩

def selectCompileAndSchedule (task : QuantumTask) (backends : BackendRegistry) (compiler : MQSSCompiler)
    (scheduler : S) (policy : BackendSelectionPolicy) : IntakeRun S :=
  match chooseBackend compiler.supportedInputFormats task backends policy with
  | .error error => ⟨task, .error error, scheduler⟩
  | .ok chosenBackend =>
    compileAndSchedule scheduleTask { task with scheduledQpu := chosenBackend } backends compiler scheduler

end Intake

/-- The parts of a task that no stage of the pipeline touches. -/
structure QuantumTask.SameRequest (task other : QuantumTask) : Prop where
  taskId : task.taskId = other.taskId
  resultDestination : task.resultDestination = other.resultDestination
  restrictedResourceNames : task.restrictedResourceNames = other.restrictedResourceNames

namespace QuantumTask.SameRequest

theorem refl (task : QuantumTask) : task.SameRequest task := ⟨rfl, rfl, rfl⟩

theorem trans {task middle other : QuantumTask} (first : task.SameRequest middle)
    (second : middle.SameRequest other) : task.SameRequest other :=
  ⟨first.taskId.trans second.taskId, first.resultDestination.trans second.resultDestination,
    first.restrictedResourceNames.trans second.restrictedResourceNames⟩

end QuantumTask.SameRequest

theorem compileQuantumTask_sameRequest (task : QuantumTask) (backendInfo : BackendWrapper) (compiler : MQSSCompiler) :
    (compileQuantumTask task backendInfo compiler).task.SameRequest task ∧
      (compileQuantumTask task backendInfo compiler).task.scheduledQpu = task.scheduledQpu := by
  rcases compileQuantumTask_cases task backendInfo compiler with
    ⟨_, run⟩ | ⟨_, _, _, _, run⟩ | ⟨_, _, _, _, ⟨_, _, _, run⟩ | ⟨_, _, _, _, run⟩⟩
  all_goals
    rw [run]
    exact ⟨⟨rfl, rfl, rfl⟩, rfl⟩

variable {S : Type} {scheduleTask : QuantumTask → S → S} {task : QuantumTask} {backends : BackendRegistry}
  {compiler : MQSSCompiler} {scheduler : S}

/-- The two ends of `compileAndSchedule`: the task joins the scheduler, compiled for the
registered backend it names, or the scheduler is left alone. -/
theorem compileAndSchedule_cases (run : IntakeRun S)
    (ran : compileAndSchedule scheduleTask task backends compiler scheduler = run) :
    run.task.SameRequest task ∧ run.task.scheduledQpu = task.scheduledQpu ∧
      ((run.result = .ok () ∧ run.scheduler = scheduleTask run.task scheduler ∧
          ∃ backendInfo, backends.find task.scheduledQpu = some backendInfo) ∨
        ∃ error, run.result = .error error ∧ error.kind ≠ .shutdownRequested ∧ run.scheduler = scheduler) := by
  subst ran
  unfold compileAndSchedule
  cases located : backends.find task.scheduledQpu with
  | none => exact ⟨.refl task, rfl, Or.inr ⟨_, rfl, nofun, rfl⟩⟩
  | some backendInfo =>
    obtain ⟨same, assigned⟩ := compileQuantumTask_sameRequest task backendInfo compiler
    dsimp only
    cases outcome : (compileQuantumTask task backendInfo compiler).result with
    | ok => exact ⟨same, assigned, Or.inl ⟨rfl, rfl, backendInfo, rfl⟩⟩
    | error error =>
      refine ⟨same, assigned, Or.inr ⟨error, rfl, ?_, rfl⟩⟩
      rcases compileQuantumTask_cases task backendInfo compiler with
        ⟨_, run⟩ | ⟨_, _, other, kind, run⟩ | ⟨_, _, _, _, ⟨other, _, kind, run⟩ | ⟨_, _, _, _, run⟩⟩
      all_goals
        rw [run] at outcome
        cases outcome
      · rw [kind]; nofun
      · rw [kind]; nofun

/-- A backend this process does not hold is reported as such, and nothing else happens. -/
theorem compileAndSchedule_unregistered (absent : backends.find task.scheduledQpu = none) :
    compileAndSchedule scheduleTask task backends compiler scheduler =
      ⟨task, .error ⟨.noBackendAvailable,
        "Backend '" ++ task.scheduledQpu ++ "' is not registered with this process."⟩, scheduler⟩ := by
  simp only [compileAndSchedule, absent]

/-- A backend this process holds is never reported as missing. -/
theorem compileAndSchedule_registered {backendInfo : BackendWrapper} {error : Error}
    (located : backends.find task.scheduledQpu = some backendInfo)
    (failed : (compileAndSchedule scheduleTask task backends compiler scheduler).result = .error error) :
    error.kind ≠ .noBackendAvailable := by
  simp only [compileAndSchedule, located] at failed
  rcases compileQuantumTask_cases task backendInfo compiler with
    ⟨_, run⟩ | ⟨_, _, other, kind, run⟩ | ⟨_, _, _, _, ⟨other, _, kind, run⟩ | ⟨_, _, _, _, run⟩⟩
  all_goals
    rw [run] at failed
    cases failed
  · rw [kind]; nofun
  · rw [kind]; nofun

theorem selectCompileAndSchedule_cases {policy : BackendSelectionPolicy} (run : IntakeRun S)
    (ran : selectCompileAndSchedule scheduleTask task backends compiler scheduler policy = run) :
    run.task.SameRequest task ∧
      ((run.result = .ok () ∧ run.scheduler = scheduleTask run.task scheduler) ∨
        ∃ error, run.result = .error error ∧ error.kind ≠ .shutdownRequested ∧ run.scheduler = scheduler) := by
  subst ran
  unfold selectCompileAndSchedule
  cases chosen : chooseBackend compiler.supportedInputFormats task backends policy with
  | error error =>
    refine ⟨.refl task, Or.inr ⟨error, rfl, ?_, rfl⟩⟩
    rw [chooseBackend_error_kind chosen]
    nofun
  | ok name =>
    obtain ⟨same, _, outcome⟩ := compileAndSchedule_cases
      (compileAndSchedule scheduleTask { task with scheduledQpu := name } backends compiler scheduler) rfl
    refine ⟨same.trans ⟨rfl, rfl, rfl⟩, ?_⟩
    rcases outcome with ⟨done, scheduled, _⟩ | failed
    · exact Or.inl ⟨done, scheduled⟩
    · exact Or.inr failed

end Qrmci
