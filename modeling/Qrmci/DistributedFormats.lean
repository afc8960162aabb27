import Qrmci.DistributedRouting

namespace Qrmci

/-- The task's circuits have a wire format, and it is one of those listed. -/
def QuantumTask.Fits (task : QuantumTask) (formats : List CircuitFormat) : Prop :=
  mapTaskCircuitTypeToCircuitFormat task.circuitFileType ≠ .unspecified ∧
    mapTaskCircuitTypeToCircuitFormat task.circuitFileType ∈ formats

section Compile

variable {task : QuantumTask} {backendInfo : BackendWrapper} {compiler : MQSSCompiler} {inputFormats : List String}

/-- Whatever compiles for a backend that could be found able fits that backend, whichever compiler
library was asked: a task that is not compiled depends on none. -/
theorem compileQuantumTask_fits
    (able : canPrepareTaskForBackend inputFormats task backendInfo.supportedCircuitFormats = true)
    (compiled : (compileQuantumTask task backendInfo compiler).result = .ok ()) :
    (compileQuantumTask task backendInfo compiler).task.Fits backendInfo.supportedCircuitFormats := by
  have ready : canPrepareTaskForBackend compiler.supportedInputFormats task
      backendInfo.supportedCircuitFormats = true := by
    rcases compileQuantumTask_cases task backendInfo compiler with
      ⟨direct, _⟩ | ⟨_, _, error, _, run⟩ | ⟨_, ready, _⟩
    · simp only [canPrepareTaskForBackend, direct, if_true] at able ⊢
      exact able
    · rw [run] at compiled
      cases compiled
    · exact ready
  obtain ⟨known, offered, _⟩ := compileQuantumTask_format ready compiled
  exact ⟨known, offered⟩

/-- A compiler with the input formats that the selector asked about does not refuse the format. -/
theorem compileQuantumTask_supported {error : Error}
    (able : canPrepareTaskForBackend compiler.supportedInputFormats task backendInfo.supportedCircuitFormats = true)
    (failed : (compileQuantumTask task backendInfo compiler).result = .error error) :
    error.kind ≠ .unsupportedFormat := by
  rcases compileQuantumTask_cases task backendInfo compiler with
    ⟨_, run⟩ | ⟨_, unable, _⟩ | ⟨_, _, _, _, ⟨other, _, kind, run⟩ | ⟨_, _, _, _, run⟩⟩
  · rw [run] at failed
    cases failed
  · rw [able] at unable
    cases unable
  · rw [run] at failed
    cases failed
    rw [kind]
    decide
  · rw [run] at failed
    cases failed

theorem BackendWrapper.fromSubmitter_formats {deviceId dispatchQueue : String} {device : DeviceReading}
    {wrapper : BackendWrapper} (read : fromSubmitter deviceId device dispatchQueue = .ok wrapper) :
    device.supportedPayloadFormats = .ok wrapper.supportedCircuitFormats := by
  obtain ⟨_, _, read⟩ := Except.bind_eq_ok_iff.mp read
  obtain ⟨_, _, read⟩ := Except.bind_eq_ok_iff.mp read
  obtain ⟨_, _, read⟩ := Except.bind_eq_ok_iff.mp read
  obtain ⟨_, _, read⟩ := Except.bind_eq_ok_iff.mp read
  obtain ⟨formats, listed, read⟩ := Except.bind_eq_ok_iff.mp read
  cases read
  exact asDeviceError_ok listed

end Compile

section Worker

variable {S : Type} {settings : WorkerSettings} {bag : Bag S Ticket} {act : WorkerAct} {s t : WorkerState S}

/-- What a step can do to the scheduler: nothing, hand out the task it submits, or take in what the
intake stage has made of a received one. -/
theorem WorkerStep.scheduler_cases (step : WorkerStep settings bag s act t) :
    (t.scheduler = s.scheduler ∧ act.submission = none) ∨
    (∃ ticket, act.submission = some ticket ∧ bag.take s.scheduler = some (ticket, t.scheduler)) ∨
    ∃ ticket compiler, act.consumed = some ticket ∧ act.submission = none ∧
      t.scheduler = (s.intake bag ticket compiler).scheduler := by
  cases step with
  | receive ticket compiler => exact Or.inr (Or.inr ⟨ticket, compiler, rfl, rfl, rfl⟩)
  | submit around before after ticket rest outcome phase take =>
    have same : (s.submitted ticket rest (around.terminationFlag after) outcome).scheduler = rest := by
      unfold WorkerState.submitted
      split
      · rfl
      · split <;> rfl
    exact Or.inr (Or.inl ⟨ticket, rfl, by rw [same]; exact take⟩)
  | collect around slices before after ticket jobs rest outcome =>
    have same : (s.collected rest (around.terminationFlag after) outcome).scheduler = s.scheduler := by
      unfold WorkerState.collected
      split
      · rfl
      · split <;> rfl
    exact Or.inl ⟨same, rfl⟩
  | _ => exact Or.inl ⟨rfl, rfl⟩

end Worker

section System

variable {ι S : Type} {deployment : Deployment ι} {bag : Bag S Ticket} {formats : ι → List CircuitFormat}
  {d e : Distributed ι S}

/-- A reading of the worker's device lists the formats it always lists, or none at all. -/
def Lists (formats : ι → List CircuitFormat) (worker : ι) (device : DeviceReading) : Prop :=
  ∀ listed, device.supportedPayloadFormats = .ok listed → listed = formats worker

theorem ReadBy.listed {worker : ι} {wrapper : BackendWrapper} (read : ReadBy deployment (Lists formats) worker wrapper) :
    wrapper.supportedCircuitFormats = formats worker := by
  obtain ⟨device, lists, taken⟩ := read
  exact lists _ (BackendWrapper.fromSubmitter_formats taken)

/-- A task that a worker receives, and finds a backend for, can be prepared for that backend: it was
dispatched to this worker, and the device has not changed its formats since. -/
theorem Authentic.able (separate : deployment.Separate) (authentic : Authentic deployment (Lists formats) d)
    {worker : ι} (only : OwnOnly (deployment.workers worker).own (d.workers worker).availableBackends)
    {ticket : Ticket} {backendInfo : BackendWrapper}
    (waits : ticket ∈ d.queues (deployment.workers worker).compilerQueue)
    (located : (d.workers worker).availableBackends.find ticket.task.scheduledQpu = some backendInfo) :
    backendInfo.supportedCircuitFormats = formats worker ∧
      canPrepareTaskForBackend deployment.selector.inputFormats ticket.task backendInfo.supportedCircuitFormats =
        true := by
  obtain ⟨entry, present, same⟩ := Option.map_eq_some_iff.mp located
  have listed := (authentic.own worker _ entry present).listed
  rw [same] at listed
  obtain ⟨other, wrapper, routed⟩ := authentic.queued _ (separate.intake worker) ticket waits
  have mine : other = worker := separate.distinct (routed.assigned.symm.trans (only.find located))
  subst mine
  have prepares := eligible_prepares routed.able
  rw [routed.read.listed] at prepares
  rw [listed]
  exact ⟨rfl, prepares⟩

/-- What waits in a worker's scheduler fits its device, and so did what was handed to the device. -/
structure Fitting (formats : ι → List CircuitFormat) (bag : Bag S Ticket) (d : Distributed ι S) : Prop where
  scheduled : ∀ worker, ∀ ticket ∈ bag.content (d.workers worker).scheduler, ticket.task.Fits (formats worker)
  submissions : ∀ worker ticket, (worker, ticket) ∈ d.submissions → ticket.task.Fits (formats worker)

theorem Fitting.intake (separate : deployment.Separate) (fitting : Fitting formats bag d)
    (authentic : Authentic deployment (Lists formats) d) {worker : ι}
    (only : OwnOnly (deployment.workers worker).own (d.workers worker).availableBackends) {ticket : Ticket}
    (waits : ticket ∈ d.queues (deployment.workers worker).compilerQueue) (compiler : MQSSCompiler) :
    ∀ other ∈ bag.content ((d.workers worker).intake bag ticket compiler).scheduler, other.task.Fits (formats worker) := by
  have before := fitting.scheduled worker
  unfold WorkerState.intake compileAndSchedule
  cases located : (d.workers worker).availableBackends.find ticket.task.scheduledQpu with
  | none => exact before
  | some backendInfo =>
    obtain ⟨listed, able⟩ := authentic.able separate only waits located
    dsimp only
    cases compiled : (compileQuantumTask ticket.task backendInfo compiler).result with
    | error error => exact before
    | ok =>
      have fits := compileQuantumTask_fits able compiled
      rw [listed] at fits
      exact bag.forall_put before fits

theorem Fitting.selected (fitting : Fitting formats bag d) (act : SelectorAct) (acked : Bool) (t : SelectorState) :
    Fitting formats bag (d.selected deployment act acked t) := by
  obtain ⟨workers, _, submissions⟩ := Distributed.selected_frame deployment d act acked t
  exact ⟨by rw [workers]; exact fitting.scheduled, by rw [submissions]; exact fitting.submissions⟩

variable [DecidableEq ι] {acts : List (DistributedAct ι)}

theorem Fitting.worked (separate : deployment.Separate) (fitting : Fitting formats bag d)
    (authentic : Authentic deployment (Lists formats) d) {worker : ι}
    (only : OwnOnly (deployment.workers worker).own (d.workers worker).availableBackends) {act : WorkerAct}
    {t : WorkerState S} (acked delivered : Bool)
    (step : WorkerStep (deployment.workers worker) bag (d.workers worker) act t)
    (onQueue : ∀ ticket, act.consumed = some ticket → ticket ∈ d.queues (deployment.workers worker).compilerQueue) :
    Fitting formats bag (d.worked deployment worker act acked delivered t) := by
  have kept : (∀ ticket ∈ bag.content t.scheduler, ticket.task.Fits (formats worker)) ∧
      ∀ ticket, act.submission = some ticket → ticket.task.Fits (formats worker) := by
    rcases step.scheduler_cases with ⟨same, none⟩ | ⟨handed, submits, take⟩ | ⟨ticket, compiler, received, none, after⟩
    · rw [same, none]
      refine ⟨fitting.scheduled worker, ?_⟩
      intro ticket absent
      cases absent
    · obtain ⟨fits, left⟩ := bag.forall_take (fitting.scheduled worker) take
      refine ⟨left, ?_⟩
      intro ticket submitted
      cases submits.symm.trans submitted
      exact fits
    · rw [after, none]
      refine ⟨fitting.intake separate authentic only (onQueue ticket received) compiler, ?_⟩
      intro ticket absent
      cases absent
  refine ⟨Distributed.forall_worked
    (fun each w => ∀ ticket ∈ bag.content w.scheduler, ticket.task.Fits (formats each)) fitting.scheduled kept.1, ?_⟩
  intro each ticket member
  rcases Distributed.mem_worked_submissions.mp member with old | ⟨same, handed⟩
  · exact fitting.submissions each ticket old
  · subst same
    exact kept.2 ticket handed

theorem DistributedRun.fitting (separate : deployment.Separate) (run : DistributedRun deployment bag acts d)
    (honest : ∀ act ∈ acts, act.Honest (Lists formats)) : Fitting formats bag d := by
  induction run with
  | start first =>
    obtain ⟨selectorClock, clocks, rfl⟩ := first
    refine ⟨?_, ?_⟩
    · intro worker ticket member
      change ticket ∈ bag.content bag.empty at member
      rw [bag.content_empty] at member
      exact absurd member (Multiset.notMem_zero ticket)
    · intro worker ticket member
      exact absurd member List.not_mem_nil
  | next previous step ih =>
    obtain ⟨_, earlier⟩ := List.forall_mem_cons.mp honest
    have fitting := ih earlier
    cases step with
    | inject task => exact ⟨fitting.scheduled, fitting.submissions⟩
    | forge => exact ⟨fitting.scheduled, fitting.submissions⟩
    | selector act acked => exact fitting.selected act acked _
    | worker worker act acked delivered step onQueue =>
      have authentic := DistributedRun.authentic previous earlier
      have safe := DistributedRun.routedSafely separate previous
      exact fitting.worked separate authentic (safe.workers worker).only acked delivered step onQueue

/-- As long as only the workers publish statuses and no device changes the formats it lists, a device
is only ever handed circuits in a format it lists, and a worker whose compiler reads what the
selector believes it reads never refuses a dispatched task for its format. -/
theorem submissions_fit_device (separate : deployment.Separate) (run : DistributedRun deployment bag acts d)
    (honest : ∀ act ∈ acts, act.Honest (Lists formats)) :
    (∀ worker ticket, (worker, ticket) ∈ d.submissions →
      mapTaskCircuitTypeToCircuitFormat ticket.task.circuitFileType ≠ .unspecified ∧
        mapTaskCircuitTypeToCircuitFormat ticket.task.circuitFileType ∈ formats worker) ∧
    ∀ worker ticket compiler error, ticket ∈ d.queues (deployment.workers worker).compilerQueue →
      compiler.supportedInputFormats = deployment.selector.inputFormats →
      ((d.workers worker).intake bag ticket compiler).result = .error error → error.kind ≠ .unsupportedFormat := by
  refine ⟨(run.fitting separate honest).submissions, ?_⟩
  intro worker ticket compiler error waits same failed
  have only := ((run.routedSafely separate).workers worker).only
  unfold WorkerState.intake compileAndSchedule at failed
  cases located : (d.workers worker).availableBackends.find ticket.task.scheduledQpu with
  | none =>
    rw [located] at failed
    cases failed
    intro impossible
    cases impossible
  | some backendInfo =>
    obtain ⟨_, able⟩ := (run.authentic honest).able separate only waits located
    rw [← same] at able
    rw [located] at failed
    dsimp only at failed
    cases compiled : (compileQuantumTask ticket.task backendInfo compiler).result with
    | error other =>
      rw [compiled] at failed
      cases failed
      exact compileQuantumTask_supported able compiled
    | ok =>
      rw [compiled] at failed
      cases failed

/-- The one worker publishes a status, gets the one task, hands it to its device as QIR and answers it. -/
theorem single_serves_quake :
    ∃ acts d, DistributedRun .single (Bag.fifo Ticket) acts d ∧ d.injected = [.quake] ∧
      ((), ⟨0, { QuantumTask.quake with scheduledQpu := "alpha", circuitFileType := "qirbase" }⟩) ∈ d.submissions ∧
      (∃ answer ∈ d.answers, answer.ticket = 0 ∧ answer.send.result.executionStatus = true) ∧
      ∀ act ∈ acts, act.Honest fun _ device => device = .idle := by
  have start : DistributedRun .single (Bag.fifo Ticket) [] (.initial .single (Bag.fifo Ticket) 0 fun _ => 0) :=
    .start ⟨0, fun _ => 0, rfl⟩
  have run := start
    |>.next (.inject .quake)
    |>.next (.worker () _ true true (.register .idle rfl (by decide +kernel)) nofun)
    |>.next (.worker () _ true true (.turnHead ⟨.idle, 0, 0, 0⟩ rfl rfl ⟨by decide, by decide, by decide⟩) nofun)
    |>.next (.selector .enter true (.enter rfl rfl) nofun nofun)
    |>.next (.selector (.status .alpha) true (.status .alpha rfl rfl) (by rintro _ ⟨⟩; decide +kernel) nofun)
    |>.next (.selector .expire true (.expire rfl) nofun nofun)
    |>.next (.selector (.task ⟨0, .quake⟩ true) true (.task _ true rfl rfl) nofun (by rintro _ _ ⟨⟩; decide +kernel))
    |>.next (.worker () _ true true (.receive ⟨0, { QuantumTask.quake with scheduledQpu := "alpha" }⟩ .echo
      (by decide +kernel) (by decide +kernel)) (by rintro _ ⟨⟩; decide +kernel))
    |>.next (.worker () _ true true (.submit .calm () ()
      ⟨0, { QuantumTask.quake with scheduledQpu := "alpha", circuitFileType := "qirbase" }⟩ [] (.ok [1])
      (by decide +kernel) (by decide +kernel) Surroundings.calm_latched (by decide +kernel) (by decide +kernel)) nofun)
    |>.next (.worker () _ true true (.submitted (by decide +kernel) (by decide +kernel)) nofun)
    |>.next (.worker () _ true true (.collect .calm 1 () ()
      ⟨0, { QuantumTask.quake with scheduledQpu := "alpha", circuitFileType := "qirbase" }⟩ [1] []
      (.ok ⟨7, "results-queue", "alpha", true, "COMPLETED", [[("00", 100)]]⟩) (by decide +kernel) (by decide +kernel)
      Surroundings.calm_latched (by decide +kernel) (by decide +kernel)) nofun)
  refine ⟨_, _, run, by decide +kernel, List.mem_cons_self .., ⟨_, List.mem_cons_self .., rfl, rfl⟩, ?_⟩
  simp [DistributedAct.Honest, WorkerAct.reading]

theorem submissions_fit_device_quake :
    ∃ acts d, DistributedRun .single (Bag.fifo Ticket) acts d ∧ ∃ ticket, ((), ticket) ∈ d.submissions ∧
      mapTaskCircuitTypeToCircuitFormat ticket.task.circuitFileType ∈ [CircuitFormat.qirBaseString] := by
  obtain ⟨acts, d, run, _, submitted, _, honest⟩ := single_serves_quake
  have lists : ∀ (worker : Unit) device, device = .idle → Lists (fun _ => [.qirBaseString]) worker device := by
    intro worker device idle listed read
    subst idle
    cases read
    rfl
  have fits := (submissions_fit_device Deployment.single_separate run
    fun act member => (honest act member).mono lists).1
  exact ⟨acts, d, run, _, submitted, (fits () _ submitted).2⟩

end System

end Qrmci
