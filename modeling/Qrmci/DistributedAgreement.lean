import Qrmci.DistributedContents
import Qrmci.Selection

namespace Qrmci

section Intake

variable {S : Type} {own : OwnIdentity} {backends : BackendRegistry} {backendInfo : BackendWrapper}

/-- A daemon that knows no device but its own chooses it exactly if it is eligible. -/
theorem OwnOnly.chooses (only : OwnOnly own backends) (located : backends.find own.deviceId = some backendInfo)
    (inputFormats : List String) (task : QuantumTask) (policy : BackendSelectionPolicy) :
    chooseBackend inputFormats task backends policy =
      if eligible inputFormats task backendInfo then .ok own.deviceId
      else .error ⟨.noBackendAvailable, "No suitable backend found"⟩ := by
  cases chosen : chooseBackend inputFormats task backends policy with
  | ok name =>
    obtain ⟨backend, found, _, able⟩ := chooseBackend_ok chosen
    have here := only.find found
    subst here
    cases located.symm.trans found
    rw [if_pos able]
  | error error =>
    rw [chooseBackend_error chosen, if_neg]
    intro able
    have named := BackendRegistry.find_name located
    have usable : Usable inputFormats task backends backendInfo := by
      refine ⟨?_, able⟩
      rw [BackendRegistry.Registers, named]
      exact located
    by_cases preference : PreferenceUsable inputFormats task backends
    · obtain ⟨asked, preferred, called, preferable⟩ := preference
      cases chosen.symm.trans (chooseBackend_of_preferred policy asked called preferable)
    · rcases chooseBackend_by_policy policy preference with ⟨nobody, _⟩ | ⟨winner, _, won⟩
      · exact nobody backendInfo usable
      · cases chosen.symm.trans won

/-- So it takes a task in as one that is assigned to its device, or refuses it. -/
theorem OwnOnly.selects (only : OwnOnly own backends) (located : backends.find own.deviceId = some backendInfo)
    (scheduleTask : QuantumTask → S → S) (task : QuantumTask) (compiler : MQSSCompiler) (scheduler : S)
    (policy : BackendSelectionPolicy) :
    selectCompileAndSchedule scheduleTask task backends compiler scheduler policy =
      if eligible compiler.supportedInputFormats task backendInfo then
        compileAndSchedule scheduleTask { task with scheduledQpu := own.deviceId } backends compiler scheduler
      else ⟨task, .error ⟨.noBackendAvailable, "No suitable backend found"⟩, scheduler⟩ := by
  have choice := only.chooses located compiler.supportedInputFormats task policy
  unfold selectCompileAndSchedule
  by_cases able : eligible compiler.supportedInputFormats task backendInfo = true
  · rw [if_pos able] at choice ⊢
    rw [choice]
  · rw [if_neg able] at choice ⊢
    rw [choice]

end Intake

section System

variable {ι S : Type} {deployment : Deployment ι} {bag : Bag S Ticket} {profile : ι → BackendWrapper} {d : Distributed ι S}

/-- What the worker's device is read as qualifies for the same tasks as the profile. -/
def Qualifies (deployment : Deployment ι) (profile : ι → BackendWrapper) (worker : ι) (device : DeviceReading) : Prop :=
  ∀ wrapper, BackendWrapper.fromSubmitter (deployment.workers worker).deviceId device
      (deployment.workers worker).compilerQueue = .ok wrapper →
    ∀ inputFormats task, eligible inputFormats task wrapper = eligible inputFormats task (profile worker)

theorem ReadBy.qualifies {worker : ι} {wrapper : BackendWrapper}
    (read : ReadBy deployment (Qualifies deployment profile) worker wrapper) (inputFormats : List String)
    (task : QuantumTask) : eligible inputFormats task wrapper = eligible inputFormats task (profile worker) := by
  obtain ⟨device, qualifies, taken⟩ := read
  exact qualifies wrapper taken inputFormats task

/-- A dispatched task that its worker finds a backend for is still eligible for it. -/
theorem Authentic.eligible (separate : deployment.Separate)
    (authentic : Authentic deployment (Qualifies deployment profile) d) {worker : ι}
    (only : OwnOnly (deployment.workers worker).own (d.workers worker).availableBackends) {ticket : Ticket}
    {backendInfo : BackendWrapper} (waits : ticket ∈ d.queues (deployment.workers worker).compilerQueue)
    (located : (d.workers worker).availableBackends.find ticket.task.scheduledQpu = some backendInfo) :
    Qrmci.eligible deployment.selector.inputFormats ticket.task backendInfo = true := by
  obtain ⟨entry, present, same⟩ := Option.map_eq_some_iff.mp located
  have here := authentic.own worker _ entry present
  rw [same] at here
  obtain ⟨other, wrapper, routed⟩ := authentic.queued _ (separate.intake worker) ticket waits
  have mine : other = worker := separate.distinct (routed.assigned.symm.trans (only.find located))
  subst mine
  rw [here.qualifies, ← routed.read.qualifies]
  exact routed.able

variable [DecidableEq ι] {acts : List (DistributedAct ι)}

/-- The two deployments take tasks in alike. For a task that waits for a worker whose device is registered, what a
standalone daemon that knows what the worker knows would make of the injected task, under either policy, is what the
worker makes of the dispatched one if its device is eligible, and a refusal otherwise. As long as no two workers own
the same device, none consumes from the intake queue, only the workers publish statuses, what each device qualifies for
does not change and the compiler reads what the selector believes it reads, the device is eligible, and the two
agree. -/
theorem deployments_take_in_alike (run : DistributedRun deployment bag acts d) {worker : ι} {ticket : Ticket}
    {backendInfo : BackendWrapper} (waits : ticket ∈ d.queues (deployment.workers worker).compilerQueue)
    (located : (d.workers worker).availableBackends.find ticket.task.scheduledQpu = some backendInfo)
    (compiler : MQSSCompiler) (policy : BackendSelectionPolicy) :
    ∃ task, d.injected[ticket.number]? = some task ∧
      selectCompileAndSchedule (fun prepared => bag.put ⟨ticket.number, prepared⟩) task
          (d.workers worker).availableBackends compiler (d.workers worker).scheduler policy =
        (if eligible compiler.supportedInputFormats task backendInfo then (d.workers worker).intake bag ticket compiler
          else ⟨task, .error ⟨.noBackendAvailable, "No suitable backend found"⟩, (d.workers worker).scheduler⟩) ∧
      (deployment.Separate → ∀ profile, (∀ act ∈ acts, act.Honest (Qualifies deployment profile)) →
        compiler.supportedInputFormats = deployment.selector.inputFormats →
        eligible compiler.supportedInputFormats task backendInfo = true) := by
  have unaltered := run.unaltered
  have only := unaltered.only worker
  obtain ⟨task, listed, same⟩ := unaltered.queued _ ticket waits
  have assigned := only.find located
  refine ⟨task, listed, ?_, ?_⟩
  · rw [assigned] at located
    rw [only.selects located]
    have carried : ticket.task = { task with scheduledQpu := (deployment.workers worker).own.deviceId } := by
      rw [same, assigned]
    rw [WorkerState.intake, ← carried]
  · intro separate profile honest formats
    have able := (run.authentic honest).eligible separate only waits located
    rw [formats]
    rw [same] at able
    exact able

/-- The quake task that waits for `alpha` is taken in as a standalone daemon over `alpha` would. -/
theorem deployments_take_in_alike_quake :
    ∃ acts d, DistributedRun .single (Bag.fifo Ticket) acts d ∧
      ∃ ticket ∈ d.queues "compiler.alpha", ∀ policy,
        selectCompileAndSchedule (fun prepared => (Bag.fifo Ticket).put ⟨ticket.number, prepared⟩) .quake
            (d.workers ()).availableBackends .echo (d.workers ()).scheduler policy =
          (d.workers ()).intake (Bag.fifo Ticket) ticket .echo := by
  obtain ⟨acts, d, run, injected, waits, registered, honest⟩ := single_dispatches_quake
  obtain ⟨backendInfo, located⟩ := Option.isSome_iff_exists.mp registered
  refine ⟨acts, d, run, _, waits, ?_⟩
  intro policy
  obtain ⟨wrapper, read⟩ :
      ∃ wrapper, BackendWrapper.fromSubmitter "alpha" .idle "compiler.alpha" = .ok wrapper := ⟨_, rfl⟩
  have qualifies : ∀ (worker : Unit) device, device = .idle → Qualifies .single (fun _ => wrapper) worker device := by
    intro worker device idle other taken
    subst idle
    cases read.symm.trans taken
    exact fun _ _ => rfl
  obtain ⟨task, listed, alike, able⟩ := deployments_take_in_alike run waits located .echo policy
  rw [injected] at listed
  cases listed
  rw [alike, if_pos (able Deployment.single_separate _ (fun act member => (honest act member).mono qualifies) rfl)]

end System

end Qrmci
