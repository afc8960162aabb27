import Qrmci.DistributedFormats
import Qrmci.Intake

namespace Qrmci

/-- The ticket carries the task that was injected under its number, up to the backend it is assigned to. -/
def Ticket.AsInjected (ticket : Ticket) (injected : List QuantumTask) : Prop :=
  ∃ task, injected[ticket.number]? = some task ∧ ticket.task = { task with scheduledQpu := ticket.task.scheduledQpu }

/-- The ticket carries what the compilation for some backend has made of the injected task, assigned to the device. -/
def Ticket.AsCompiled (ticket : Ticket) (injected : List QuantumTask) (deviceId : String) : Prop :=
  ∃ task backendInfo compiler, injected[ticket.number]? = some task ∧
    (compileQuantumTask { task with scheduledQpu := deviceId } backendInfo compiler).result = .ok () ∧
    ticket.task = (compileQuantumTask { task with scheduledQpu := deviceId } backendInfo compiler).task

section Tickets

variable {ticket : Ticket} {injected : List QuantumTask} {deviceId : String}

theorem Ticket.AsInjected.append (carries : ticket.AsInjected injected) (more : List QuantumTask) :
    ticket.AsInjected (injected ++ more) := by
  obtain ⟨task, listed, same⟩ := carries
  exact ⟨task, getElem?_append_of_some listed more, same⟩

theorem Ticket.AsCompiled.append (carries : ticket.AsCompiled injected deviceId) (more : List QuantumTask) :
    ticket.AsCompiled (injected ++ more) deviceId := by
  obtain ⟨task, backendInfo, compiler, listed, compiled⟩ := carries
  exact ⟨task, backendInfo, compiler, getElem?_append_of_some listed more, compiled⟩

theorem Ticket.AsInjected.assign (carries : ticket.AsInjected injected) (qpu : String) :
    Ticket.AsInjected ⟨ticket.number, { ticket.task with scheduledQpu := qpu }⟩ injected := by
  obtain ⟨task, listed, same⟩ := carries
  refine ⟨task, listed, ?_⟩
  rw [same]

/-- The compilation only replaces the circuits and their format, one circuit for each, and leaves a task that is not
to be modified alone. -/
theorem Ticket.AsCompiled.prepared (carries : ticket.AsCompiled injected deviceId) :
    ∃ task, injected[ticket.number]? = some task ∧ task.PreparedAs ticket.task deviceId := by
  obtain ⟨task, backendInfo, compiler, listed, compiled, same⟩ := carries
  obtain ⟨others, count, unmodified⟩ := (compileQuantumTask_atomic _ backendInfo compiler).2 compiled
  rw [← same] at others count unmodified
  exact ⟨task, listed, others, count, unmodified⟩

end Tickets

section Worker

variable {S : Type} {settings : WorkerSettings} {bag : Bag S Ticket} {injected : List QuantumTask} {act : WorkerAct}
  {s t : WorkerState S}

/-- A worker that receives what was injected schedules, and hands over, what its compiler has made of it. -/
theorem WorkerStep.contents (step : WorkerStep settings bag s act t) (only : OwnOnly settings.own s.availableBackends)
    (scheduled : ∀ ticket ∈ bag.content s.scheduler, ticket.AsCompiled injected settings.deviceId)
    (incoming : ∀ ticket, act.consumed = some ticket → ticket.AsInjected injected) :
    (∀ ticket ∈ bag.content t.scheduler, ticket.AsCompiled injected settings.deviceId) ∧
      ∀ ticket, act.submission = some ticket → ticket.AsCompiled injected settings.deviceId := by
  rcases step.scheduler_cases with ⟨same, none⟩ | ⟨handed, submits, take⟩ | ⟨received, compiler, consumed, none, after⟩
  · rw [same, none]
    refine ⟨scheduled, ?_⟩
    intro ticket absent
    cases absent
  · obtain ⟨compiled, left⟩ := bag.forall_take scheduled take
    refine ⟨left, ?_⟩
    intro ticket submitted
    cases submits.symm.trans submitted
    exact compiled
  · rw [after, none]
    refine ⟨?_, fun ticket absent => by cases absent⟩
    obtain ⟨task, listed, same⟩ := incoming received consumed
    unfold WorkerState.intake compileAndSchedule
    cases located : s.availableBackends.find received.task.scheduledQpu with
    | none => exact scheduled
    | some backendInfo =>
      have assigned : received.task = { task with scheduledQpu := settings.deviceId } := by
        rw [same, only.find located]
        rfl
      dsimp only
      cases outcome : (compileQuantumTask received.task backendInfo compiler).result with
      | error error => exact scheduled
      | ok =>
        rw [assigned] at outcome ⊢
        exact bag.forall_put scheduled ⟨task, backendInfo, compiler, listed, outcome, rfl⟩

end Worker

section System

variable {ι S : Type} {deployment : Deployment ι} {bag : Bag S Ticket} {d e : Distributed ι S}

/-- What waits was injected, and what is scheduled or has been handed over is its compilation. -/
structure Unaltered (deployment : Deployment ι) (bag : Bag S Ticket) (d : Distributed ι S) : Prop where
  queued : ∀ name, ∀ ticket ∈ d.queues name, ticket.AsInjected d.injected
  only : ∀ worker, OwnOnly (deployment.workers worker).own (d.workers worker).availableBackends
  scheduled : ∀ worker, ∀ ticket ∈ bag.content (d.workers worker).scheduler,
    ticket.AsCompiled d.injected (deployment.workers worker).deviceId
  submissions : ∀ worker ticket, (worker, ticket) ∈ d.submissions →
    ticket.AsCompiled d.injected (deployment.workers worker).deviceId

theorem Unaltered.inject (unaltered : Unaltered deployment bag d) (task : QuantumTask) :
    Unaltered deployment bag (d.inject deployment task) where
  queued name ticket member := by
    rcases Distributed.mem_inject member with old | ⟨_, new⟩
    · exact (unaltered.queued name ticket old).append _
    · subst new
      exact ⟨task, by simp [Distributed.inject], rfl⟩
  only := unaltered.only
  scheduled worker ticket member := (unaltered.scheduled worker ticket member).append _
  submissions worker ticket member := (unaltered.submissions worker ticket member).append _

theorem Unaltered.selected (unaltered : Unaltered deployment bag d) {act : SelectorAct} (acked : Bool) (t : SelectorState)
    (onQueue : ∀ ticket delivered, act = .task ticket delivered → ticket ∈ d.queues deployment.selector.qrmciQueue) :
    Unaltered deployment bag (d.selected deployment act acked t) := by
  obtain ⟨workers, injected, submissions⟩ := Distributed.selected_frame deployment d act acked t
  refine ⟨?_, by rw [workers]; exact unaltered.only, by rw [workers, injected]; exact unaltered.scheduled,
    by rw [submissions, injected]; exact unaltered.submissions⟩
  intro name ticket member
  rw [injected]
  rcases Distributed.mem_selected member with old | ⟨received, delivered, backend, taken, _, _, _, new⟩
  · exact unaltered.queued name ticket old
  · subst new
    exact (unaltered.queued _ received (onQueue received delivered taken)).assign backend.name

variable [DecidableEq ι] {acts : List (DistributedAct ι)}

theorem Unaltered.worked (unaltered : Unaltered deployment bag d) {worker : ι} {act : WorkerAct} {t : WorkerState S}
    (acked delivered : Bool) (step : WorkerStep (deployment.workers worker) bag (d.workers worker) act t)
    (onQueue : ∀ ticket, act.consumed = some ticket → ticket ∈ d.queues (deployment.workers worker).compilerQueue) :
    Unaltered deployment bag (d.worked deployment worker act acked delivered t) := by
  obtain ⟨scheduled, submitted⟩ := step.contents (unaltered.only worker) (unaltered.scheduled worker)
    fun ticket consumed => unaltered.queued _ ticket (onQueue ticket consumed)
  refine ⟨?_, Distributed.forall_worked (fun each w => OwnOnly (deployment.workers each).own w.availableBackends)
    unaltered.only ((unaltered.only worker).workerStep step), Distributed.forall_worked (fun each w =>
      ∀ ticket ∈ bag.content w.scheduler, ticket.AsCompiled d.injected (deployment.workers each).deviceId)
    unaltered.scheduled scheduled, ?_⟩
  · intro name ticket member
    exact unaltered.queued name ticket (Distributed.mem_worked member)
  · intro each ticket member
    rcases Distributed.mem_worked_submissions.mp member with old | ⟨same, handed⟩
    · exact unaltered.submissions each ticket old
    · subst same
      exact submitted ticket handed

theorem DistributedRun.unaltered (run : DistributedRun deployment bag acts d) : Unaltered deployment bag d := by
  refine Trace.invariant (Unaltered deployment bag) ?_ ?_ run
  · intro d first
    obtain ⟨selectorClock, clocks, rfl⟩ := first
    refine ⟨?_, fun worker => .new _ _, ?_, ?_⟩
    · intro name ticket member
      exact absurd member (Multiset.notMem_zero ticket)
    · intro worker ticket member
      change ticket ∈ bag.content bag.empty at member
      rw [bag.content_empty] at member
      exact absurd member (Multiset.notMem_zero ticket)
    · intro worker ticket member
      exact absurd member List.not_mem_nil
  · intro d act e step unaltered
    cases step with
    | inject task => exact unaltered.inject task
    | forge => exact ⟨unaltered.queued, unaltered.only, unaltered.scheduled, unaltered.submissions⟩
    | selector act acked step _ onQueue => exact unaltered.selected acked _ onQueue
    | worker worker act acked delivered step onQueue => exact unaltered.worked acked delivered step onQueue

end System

end Qrmci
