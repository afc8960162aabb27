import Qrmci.Distributed

namespace Qrmci

/-- The task's allow-list is empty or names the backend the task is assigned to. -/
def QuantumTask.Admitted (task : QuantumTask) : Prop :=
  task.restrictedResourceNames = [] ∨ task.scheduledQpu ∈ task.restrictedResourceNames

/-- The task is assigned to this worker's device and may run there. -/
structure Mine (settings : WorkerSettings) (task : QuantumTask) : Prop where
  assigned : task.scheduledQpu = settings.deviceId
  admitted : task.Admitted

section Worker

variable {S : Type} {settings : WorkerSettings} {bag : Bag S Ticket} {act : WorkerAct}

/-- Every task a worker holds is its own. -/
structure HoldsOwn (settings : WorkerSettings) (bag : Bag S Ticket) (scheduler : S) (batch : List (Ticket × List Job)) :
    Prop where
  scheduled : ∀ ticket ∈ bag.content scheduler, Mine settings ticket.task
  batched : ∀ pair ∈ batch, Mine settings pair.1.task

variable {backends : BackendRegistry} {scheduler rest : S} {batch : List (Ticket × List Job)} {ticket : Ticket}

theorem HoldsOwn.put (held : HoldsOwn settings bag scheduler batch) (mine : Mine settings ticket.task) :
    HoldsOwn settings bag (bag.put ticket scheduler) batch :=
  ⟨bag.forall_put held.scheduled mine, held.batched⟩

theorem HoldsOwn.take (held : HoldsOwn settings bag scheduler batch) (take : bag.take scheduler = some (ticket, rest)) :
    Mine settings ticket.task ∧ HoldsOwn settings bag rest batch := by
  obtain ⟨mine, left⟩ := bag.forall_take held.scheduled take
  exact ⟨mine, left, held.batched⟩

/-- A task that a worker finds a backend for is its own, also after compilation. -/
theorem OwnOnly.mine {task prepared : QuantumTask} {backend : BackendWrapper} (only : OwnOnly settings.own backends)
    (located : backends.find task.scheduledQpu = some backend) (admitted : task.Admitted)
    (same : prepared.SameRequest task) (assigned : prepared.scheduledQpu = task.scheduledQpu) :
    Mine settings prepared := by
  refine ⟨assigned.trans (only.find located), ?_⟩
  unfold QuantumTask.Admitted
  rw [same.restrictedResourceNames, assigned]
  exact admitted

/-- The tickets a step leaves are the worker's own, so is the one it submits, and a success it
reports names its device. -/
theorem HoldsOwn.step {scheduler' : S} {batch' : List (Ticket × List Job)}
    (held : HoldsOwn settings bag scheduler batch) (only : OwnOnly settings.own backends)
    (step : TicketStep bag backends scheduler batch act scheduler' batch')
    (incoming : ∀ ticket, act.consumed = some ticket → ticket.task.Admitted) :
    HoldsOwn settings bag scheduler' batch' ∧
      (∀ ticket, act.submission = some ticket → Mine settings ticket.task) ∧
      ∀ number send, act.reply = some (number, send) → send.result.executionStatus = true →
        send.result.executedQpu = settings.deviceId := by
  have unsubmitted : ∀ ticket : Ticket, none = some ticket → Mine settings ticket.task := by
    intro ticket absent
    cases absent
  have unreplied : ∀ (number : Nat) (send : ResultSend), none = some (number, send) →
      send.result.executionStatus = true → send.result.executedQpu = settings.deviceId := by
    intro number send absent
    cases absent
  cases step with
  | idle consumed submission reply =>
    rw [submission, reply]
    exact ⟨held, unsubmitted, unreplied⟩
  | scheduled located same assigned =>
    exact ⟨held.put (only.mine located (incoming _ rfl) same assigned), unsubmitted, unreplied⟩
  | refused _ status =>
    refine ⟨held, unsubmitted, ?_⟩
    rintro number send ⟨⟩ success
    rw [status] at success
    cases success
  | submitted take =>
    obtain ⟨mine, left⟩ := held.take take
    refine ⟨⟨left.scheduled, ?_⟩, ?_, unreplied⟩
    · intro pair member
      rcases List.mem_append.mp member with old | new
      · exact held.batched pair old
      · rw [List.mem_singleton.mp new]
        exact mine
    · rintro ticket ⟨⟩
      exact mine
  | rejected take _ status =>
    obtain ⟨mine, left⟩ := held.take take
    refine ⟨left, ?_, ?_⟩
    · rintro ticket ⟨⟩
      exact mine
    · rintro number send ⟨⟩ success
      rw [status] at success
      cases success
  | abandoned take =>
    obtain ⟨mine, left⟩ := held.take take
    refine ⟨left, ?_, unreplied⟩
    rintro ticket ⟨⟩
    exact mine
  | collected listed _ labelled =>
    have mine := held.batched
    rw [listed] at mine
    refine ⟨⟨held.scheduled, fun pair member => mine pair (List.mem_cons_of_mem _ member)⟩, unsubmitted, ?_⟩
    rintro number send ⟨⟩ _
    exact labelled.trans (mine _ (List.mem_cons_self ..)).assigned
  | dropped => exact ⟨⟨held.scheduled, fun _ member => absurd member List.not_mem_nil⟩, unsubmitted, unreplied⟩

variable {s t : WorkerState S}

/-- A worker knows no device but its own, and holds no task but its own. -/
structure WorkerOwn (settings : WorkerSettings) (bag : Bag S Ticket) (s : WorkerState S) : Prop where
  only : OwnOnly settings.own s.availableBackends
  held : HoldsOwn settings bag s.scheduler s.batch

theorem WorkerOwn.initial (settings : WorkerSettings) (bag : Bag S Ticket) (clock : Time) :
    WorkerOwn settings bag (.initial settings bag clock) := by
  refine ⟨.new _ _, ?_, nofun⟩
  intro ticket member
  change ticket ∈ bag.content bag.empty at member
  rw [bag.content_empty] at member
  cases member

theorem OwnOnly.workerStep (only : OwnOnly settings.own s.availableBackends) (step : WorkerStep settings bag s act t) :
    OwnOnly settings.own t.availableBackends := by
  rcases step.registry_cases with ⟨_, registry, _⟩ | ⟨_, moved⟩ | ⟨device, _, _, registered⟩ | ⟨head, _, _, headed⟩
  · rw [registry]
    exact only
  · rw [moved]
    exact only
  · rw [registered]
    exact only.registerOwnDevice
  · rw [headed]
    exact only.runTurnHead

/-- A task for another device is cancelled at once and joins neither the scheduler nor the batch. -/
theorem WorkerOwn.misassigned {reply : Option ResultSend} (own : WorkerOwn settings bag s)
    (step : WorkerStep settings bag s (.receive ticket reply) t)
    (other : ticket.task.scheduledQpu ≠ settings.deviceId) :
    reply = some (sendFailure ticket.task ⟨.noBackendAvailable,
        "Backend '" ++ ticket.task.scheduledQpu ++ "' is not registered with this process."⟩) ∧
      t.scheduler = s.scheduler ∧ t.batch = s.batch := by
  have absent : s.availableBackends.find ticket.task.scheduledQpu = none := by
    cases located : s.availableBackends.find ticket.task.scheduledQpu with
    | none => rfl
    | some backend => exact absurd (own.only.find located) other
  cases step with
  | receive ticket compiler =>
    have run : s.intake bag ticket compiler = _ := compileAndSchedule_unregistered absent
    refine ⟨?_, ?_, rfl⟩
    · rw [run]
      rfl
    · change (s.intake bag ticket compiler).scheduler = s.scheduler
      rw [run]

end Worker

section System

variable {ι S : Type} {deployment : Deployment ι} {bag : Bag S Ticket} {acts : List (DistributedAct ι)}
  {act : DistributedAct ι} {d e : Distributed ι S}

/-- The selector only forwards what the chosen backend may run. -/
theorem handleTask_admitted {settings : SelectorSettings} {availableBackends : BackendRegistry}
    {task forwarded : QuantumTask} {queue : String}
    (sent : handleTask settings availableBackends task = .forward queue forwarded) : forwarded.Admitted := by
  rcases handleTask_cases settings availableBackends task with ⟨_, _, refused⟩ | ⟨backend, _, able, _, forwards⟩
  · cases refused.symm.trans sent
  · cases forwards.symm.trans sent
    simp only [eligible, Bool.and_eq_true] at able
    exact BackendWrapper.canRun_restricted able.2

/-- What holds in every reachable state: what waits on a dispatch queue may run where it is
assigned to, and no worker holds, submits or reports a success of a task but its own. -/
structure RoutedSafely (deployment : Deployment ι) (bag : Bag S Ticket) (d : Distributed ι S) : Prop where
  queued : ∀ name, name ≠ deployment.selector.qrmciQueue → ∀ ticket ∈ d.queues name, ticket.task.Admitted
  workers : ∀ worker, WorkerOwn (deployment.workers worker) bag (d.workers worker)
  submissions : ∀ worker ticket, (worker, ticket) ∈ d.submissions → Mine (deployment.workers worker) ticket.task
  answers : ∀ answer ∈ d.answers, ∀ worker, answer.sender = some worker →
    answer.send.result.executionStatus = true →
    answer.send.result.executedQpu = (deployment.workers worker).deviceId

theorem RoutedSafely.inject (safe : RoutedSafely deployment bag d) (task : QuantumTask) :
    RoutedSafely deployment bag (d.inject deployment task) := by
  refine ⟨?_, safe.workers, safe.submissions, safe.answers⟩
  intro name other ticket member
  simp only [Distributed.inject] at member
  rcases Queues.mem_put member with old | ⟨same, _⟩
  · exact safe.queued name other ticket old
  · exact absurd same other

theorem RoutedSafely.selected (safe : RoutedSafely deployment bag d) (act : SelectorAct) (acked : Bool)
    (t : SelectorState) : RoutedSafely deployment bag (d.selected deployment act acked t) := by
  cases act with
  | task ticket delivered =>
    have left (name : String) (other : name ≠ deployment.selector.qrmciQueue) (kept : Ticket)
        (member : kept ∈ d.queues.consume deployment.selector.qrmciQueue ticket acked name) : kept.task.Admitted :=
      safe.queued name other kept (Queues.mem_consume member)
    cases sent : handleTask deployment.selector d.selector.availableBackends ticket.task with
    | forward queue forwarded =>
      simp only [Distributed.selected, sent]
      refine ⟨?_, safe.workers, safe.submissions, safe.answers⟩
      intro name other kept member
      rcases Queues.mem_put member with old | ⟨_, new⟩
      · exact left name other kept old
      · rw [new]
        exact handleTask_admitted sent
    | refuse failure =>
      simp only [Distributed.selected, sent]
      refine ⟨left, safe.workers, safe.submissions, ?_⟩
      intro answer member worker sender
      rcases List.mem_cons.mp member with new | old
      · rw [new] at sender
        cases sender
      · exact safe.answers answer old worker sender
  | _ => exact ⟨safe.queued, safe.workers, safe.submissions, safe.answers⟩

variable [DecidableEq ι]

theorem RoutedSafely.worked (separate : deployment.Separate) (safe : RoutedSafely deployment bag d) {worker : ι}
    {act : WorkerAct} {t : WorkerState S} (acked delivered : Bool)
    (step : WorkerStep (deployment.workers worker) bag (d.workers worker) act t)
    (onQueue : ∀ ticket, act.consumed = some ticket → ticket ∈ d.queues (deployment.workers worker).compilerQueue) :
    RoutedSafely deployment bag (d.worked deployment worker act acked delivered t) := by
  obtain ⟨only, held⟩ := safe.workers worker
  obtain ⟨kept, submitted, replied⟩ := held.step only step.tickets
    (fun ticket consumed => safe.queued _ (separate.intake worker) ticket (onQueue ticket consumed))
  refine ⟨?_, ?_, ?_, ?_⟩
  · intro name other ticket member
    simp only [Distributed.worked] at member
    cases consumed : act.consumed with
    | none =>
      rw [consumed] at member
      exact safe.queued name other ticket member
    | some received =>
      rw [consumed] at member
      exact safe.queued name other ticket (Queues.mem_consume member)
  · intro each
    by_cases same : each = worker
    · subst same
      simp only [Distributed.worked, Function.update_self]
      exact ⟨only.workerStep step, kept⟩
    · simp only [Distributed.worked, Function.update_of_ne same]
      exact safe.workers each
  · intro each ticket member
    simp only [Distributed.worked] at member
    split at member
    · rename_i handed
      rcases List.mem_cons.mp member with new | old
      · cases new
        exact submitted ticket handed
      · exact safe.submissions each ticket old
    · exact safe.submissions each ticket member
  · intro answer member each sender success
    simp only [Distributed.worked] at member
    split at member
    · rename_i sent
      rcases List.mem_cons.mp member with new | old
      · subst new
        cases sender
        exact replied _ _ sent success
      · exact safe.answers answer old each sender success
    · exact safe.answers answer member each sender success

theorem RoutedSafely.step (separate : deployment.Separate) (safe : RoutedSafely deployment bag d)
    (step : DistributedStep deployment bag d act e) : RoutedSafely deployment bag e := by
  cases step with
  | inject task => exact safe.inject task
  | forge => exact ⟨safe.queued, safe.workers, safe.submissions, safe.answers⟩
  | selector act acked => exact safe.selected act acked _
  | worker worker act acked delivered step onQueue => exact safe.worked separate acked delivered step onQueue

theorem DistributedRun.routedSafely (separate : deployment.Separate) (run : DistributedRun deployment bag acts d) :
    RoutedSafely deployment bag d := by
  refine Trace.invariant (RoutedSafely deployment bag) ?_ ?_ run
  · rintro _ ⟨selectorClock, clocks, rfl⟩
    refine ⟨?_, fun worker => .initial _ _ _, nofun, nofun⟩
    intro name _ ticket member
    cases member
  · intro d act e step safe
    exact safe.step separate step

/-- In every reachable state of the distributed system a worker has only ever submitted tasks that
are assigned to its own device and may run there, its successes name that device, and a task for
another device is cancelled on arrival and nothing else is done with it. -/
theorem workers_run_own_tasks (separate : deployment.Separate) (run : DistributedRun deployment bag acts d) :
    (∀ worker ticket, (worker, ticket) ∈ d.submissions →
      ticket.task.scheduledQpu = (deployment.workers worker).deviceId ∧
      (ticket.task.restrictedResourceNames = [] ∨
        (deployment.workers worker).deviceId ∈ ticket.task.restrictedResourceNames)) ∧
    (∀ answer ∈ d.answers, ∀ worker, answer.sender = some worker → answer.send.result.executionStatus = true →
      answer.send.result.executedQpu = (deployment.workers worker).deviceId) ∧
    (∀ worker ticket reply acked delivered e,
      DistributedStep deployment bag d (.worker worker (.receive ticket reply) acked delivered) e →
      ticket.task.scheduledQpu ≠ (deployment.workers worker).deviceId →
      let failure := sendFailure ticket.task ⟨.noBackendAvailable,
        "Backend '" ++ ticket.task.scheduledQpu ++ "' is not registered with this process."⟩
      e.answers = ⟨some worker, ticket.number, failure, delivered⟩ :: d.answers ∧
        e.submissions = d.submissions ∧
        (e.workers worker).scheduler = (d.workers worker).scheduler ∧
        (e.workers worker).batch = (d.workers worker).batch) := by
  have safe := run.routedSafely separate
  refine ⟨?_, safe.answers, ?_⟩
  · intro worker ticket submitted
    obtain ⟨assigned, admitted⟩ := safe.submissions worker ticket submitted
    unfold QuantumTask.Admitted at admitted
    rw [assigned] at admitted
    exact ⟨assigned, admitted⟩
  · intro worker ticket reply acked delivered e step other
    cases step with
    | worker _ _ _ _ step =>
      obtain ⟨cancelled, scheduler, batch⟩ := (safe.workers worker).misassigned step other
      subst cancelled
      refine ⟨rfl, rfl, ?_, ?_⟩
      · simpa only [Distributed.worked, Function.update_self] using scheduler
      · simpa only [Distributed.worked, Function.update_self] using batch

/-- A task for `alpha` goes through the selector to a queue that `beta` could take it from as well;
`alpha` takes it and submits it. -/
theorem workers_run_own_tasks_alpha :
    ∃ acts d, DistributedRun .shared (Bag.fifo Ticket) acts d ∧
      ∃ ticket, (true, ticket) ∈ d.submissions ∧ ticket.task.scheduledQpu = "alpha" := by
  have start : DistributedRun .shared (Bag.fifo Ticket) [] (.initial .shared (Bag.fifo Ticket) 0 fun _ => 0) :=
    .start ⟨0, fun _ => 0, rfl⟩
  have run := start
    |>.next (.inject .quakeOnAlpha)
    |>.next (.forge .alpha)
    |>.next (.selector .enter true (.enter rfl rfl) nofun nofun)
    |>.next (.selector (.status .alpha) true (.status .alpha rfl rfl) (by rintro _ ⟨⟩; decide +kernel) nofun)
    |>.next (.selector .expire true (.expire rfl) nofun nofun)
    |>.next (.selector (.task ⟨0, .quakeOnAlpha⟩ true) true (.task _ true rfl rfl) nofun
      (by rintro _ _ ⟨⟩; decide +kernel))
    |>.next (.worker true _ true true (.register .idle (by decide +kernel) (by decide +kernel)) nofun)
    |>.next (.worker true _ true true (.turnHead ⟨.idle, 0, 0, 0⟩ (by decide +kernel) (by decide +kernel)
      ⟨by decide +kernel, by decide, by decide⟩) nofun)
    |>.next (.worker true _ true true (.receive ⟨0, { QuantumTask.quakeOnAlpha with scheduledQpu := "alpha" }⟩ .echo
      (by decide +kernel) (by decide +kernel)) (by rintro _ ⟨⟩; decide +kernel))
    |>.next (.worker true _ true true (.submit .calm () ()
      ⟨0, { QuantumTask.quakeOnAlpha with scheduledQpu := "alpha", circuitFileType := "qirbase" }⟩ [] (.ok [1])
      (by decide +kernel) (by decide +kernel) Surroundings.calm_latched (by decide +kernel) (by decide +kernel)) nofun)
  have submitted := (workers_run_own_tasks Deployment.shared_separate run).1 true _ (List.mem_cons_self ..)
  exact ⟨_, _, run, _, List.mem_cons_self .., submitted.1⟩

end System

end Qrmci
