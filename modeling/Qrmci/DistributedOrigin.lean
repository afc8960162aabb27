import Qrmci.DistributedCensus
import Qrmci.DistributedMembers

namespace Qrmci

variable {ι S : Type} {bag : Bag S Ticket} {injected : List QuantumTask}

section Worker

variable {settings : WorkerSettings} {act : WorkerAct} {s t : WorkerState S}

theorem HoldsGenuine.initial (settings : WorkerSettings) (bag : Bag S Ticket) (clock : Time)
    (injected : List QuantumTask) : HoldsGenuine bag injected (.initial settings bag clock) where
  scheduled ticket member := by
    change ticket ∈ bag.content bag.empty at member
    rw [bag.content_empty] at member
    exact absurd member (Multiset.notMem_zero ticket)
  batched pair member := absurd member List.not_mem_nil

theorem HoldsGenuine.append (held : HoldsGenuine bag injected s) (more : List QuantumTask) :
    HoldsGenuine bag (injected ++ more) s where
  scheduled ticket member := (held.scheduled ticket member).append more
  batched pair member := (held.batched pair member).append more

/-- A worker that only receives genuine tickets holds, submits and answers no others. -/
theorem HoldsGenuine.step (held : HoldsGenuine bag injected s) (step : WorkerStep settings bag s act t)
    (incoming : ∀ ticket, act.consumed = some ticket → ticket.Genuine injected) :
    HoldsGenuine bag injected t ∧ (∀ ticket, act.submission = some ticket → ticket.Genuine injected) ∧
      ∀ number send, act.reply = some (number, send) → send.AnswersOne number injected := by
  obtain ⟨scheduled, batched⟩ := held
  have tickets := step.tickets
  have unsubmitted : ∀ ticket : Ticket, none = some ticket → ticket.Genuine injected := by
    intro ticket absent
    cases absent
  have unreplied : ∀ (number : Nat) (send : ResultSend), none = some (number, send) →
      send.AnswersOne number injected := by
    intro number send absent
    cases absent
  -- The two fields are all that matters of the state after the step.
  suffices genuine : (∀ ticket ∈ bag.content t.scheduler, ticket.Genuine injected) ∧
      (∀ pair ∈ t.batch, pair.1.Genuine injected) ∧ (∀ ticket, act.submission = some ticket → ticket.Genuine injected) ∧
      ∀ number send, act.reply = some (number, send) → send.AnswersOne number injected from
    ⟨⟨genuine.1, genuine.2.1⟩, genuine.2.2⟩
  generalize t.scheduler = scheduler', t.batch = batch' at tickets ⊢
  cases tickets with
  | idle _ submission reply =>
    rw [submission, reply]
    exact ⟨scheduled, batched, unsubmitted, unreplied⟩
  | scheduled _ same =>
    exact ⟨bag.forall_put scheduled ((incoming _ rfl).transfer same), batched, unsubmitted, unreplied⟩
  | refused answers =>
    refine ⟨scheduled, batched, unsubmitted, ?_⟩
    intro number send sent
    cases sent
    exact (incoming _ rfl).answered answers
  | submitted take =>
    obtain ⟨taken, left⟩ := bag.forall_take scheduled take
    refine ⟨left, ?_, ?_, unreplied⟩
    · intro pair member
      rcases List.mem_append.mp member with old | new
      · exact batched pair old
      · rw [List.mem_singleton.mp new]
        exact taken
    · intro ticket handed
      cases handed
      exact taken
  | rejected take answers =>
    obtain ⟨taken, left⟩ := bag.forall_take scheduled take
    refine ⟨left, batched, ?_, ?_⟩
    · intro ticket handed
      cases handed
      exact taken
    · intro number send sent
      cases sent
      exact taken.answered answers
  | abandoned take =>
    obtain ⟨taken, left⟩ := bag.forall_take scheduled take
    refine ⟨left, batched, ?_, unreplied⟩
    intro ticket handed
    cases handed
    exact taken
  | collected listed answers =>
    rw [listed] at batched
    refine ⟨scheduled, fun pair member => batched pair (List.mem_cons_of_mem _ member), unsubmitted, ?_⟩
    intro number send sent
    cases sent
    exact (batched _ (List.mem_cons_self ..)).answered answers
  | dropped => exact ⟨scheduled, fun _ member => absurd member List.not_mem_nil, unsubmitted, unreplied⟩

end Worker

/-- Whatever waits, is held, has been handed to a device or has been answered stands for the task
that was injected under its number. -/
structure Truthful (bag : Bag S Ticket) (d : Distributed ι S) : Prop where
  queued : ∀ name, ∀ ticket ∈ d.queues name, ticket.Genuine d.injected
  held : ∀ worker, HoldsGenuine bag d.injected (d.workers worker)
  submissions : ∀ worker ticket, (worker, ticket) ∈ d.submissions → ticket.Genuine d.injected
  answers : ∀ answer ∈ d.answers, answer.send.AnswersOne answer.ticket d.injected

variable {deployment : Deployment ι} {d e : Distributed ι S}

theorem Truthful.inject (truthful : Truthful bag d) (task : QuantumTask) :
    Truthful bag (d.inject deployment task) where
  queued name ticket member := by
    rcases Distributed.mem_inject member with old | ⟨_, new⟩
    · exact (truthful.queued name ticket old).append _
    · subst new
      exact ⟨task, by simp [Distributed.inject], .refl task⟩
  held worker := (truthful.held worker).append _
  submissions worker ticket member := (truthful.submissions worker ticket member).append _
  answers answer member := (truthful.answers answer member).append _

theorem Truthful.selected (truthful : Truthful bag d) {act : SelectorAct} (acked : Bool) (t : SelectorState)
    (onQueue : ∀ ticket delivered, act = .task ticket delivered → ticket ∈ d.queues deployment.selector.qrmciQueue) :
    Truthful bag (d.selected deployment act acked t) := by
  obtain ⟨workers, injected, submissions⟩ := Distributed.selected_frame deployment d act acked t
  refine ⟨?_, by rw [workers, injected]; exact truthful.held, by rw [submissions, injected]; exact truthful.submissions,
    ?_⟩
  · intro name ticket member
    rw [injected]
    rcases Distributed.mem_selected member with old | ⟨received, delivered, backend, taken, _, _, _, new⟩
    · exact truthful.queued name ticket old
    · subst new
      exact (truthful.queued _ received (onQueue received delivered taken)).transfer ⟨rfl, rfl, rfl⟩
  · intro answer member
    rw [injected]
    rcases Distributed.mem_selected_answers member with old | ⟨received, delivered, error, taken, new⟩
    · exact truthful.answers answer old
    · subst new
      exact (truthful.queued _ received (onQueue received delivered taken)).answered
        (sendFailure_answers received.task error)

variable [DecidableEq ι]

theorem Truthful.worked (truthful : Truthful bag d) {worker : ι} {act : WorkerAct} {t : WorkerState S}
    (acked delivered : Bool) (step : WorkerStep (deployment.workers worker) bag (d.workers worker) act t)
    (onQueue : ∀ ticket, act.consumed = some ticket → ticket ∈ d.queues (deployment.workers worker).compilerQueue) :
    Truthful bag (d.worked deployment worker act acked delivered t) := by
  obtain ⟨kept, submitted, replied⟩ := (truthful.held worker).step step
    (fun ticket consumed => truthful.queued _ ticket (onQueue ticket consumed))
  refine ⟨?_, Distributed.forall_worked (fun _ => HoldsGenuine bag d.injected) truthful.held kept, ?_, ?_⟩
  · intro name ticket member
    exact truthful.queued name ticket (Distributed.mem_worked member)
  · intro each ticket member
    rcases Distributed.mem_worked_submissions.mp member with old | ⟨_, handed⟩
    · exact truthful.submissions each ticket old
    · exact submitted ticket handed
  · intro answer member
    rcases Distributed.mem_worked_answers member with old | ⟨_, sent⟩
    · exact truthful.answers answer old
    · exact replied _ _ sent

variable {acts : List (DistributedAct ι)}

theorem DistributedRun.truthful (run : DistributedRun deployment bag acts d) : Truthful bag d := by
  refine Trace.invariant (Truthful bag) ?_ ?_ run
  · intro d first
    obtain ⟨selectorClock, clocks, rfl⟩ := first
    refine ⟨?_, fun worker => .initial _ bag _ [], ?_, ?_⟩
    · intro name ticket member
      exact absurd member (Multiset.notMem_zero ticket)
    · intro worker ticket member
      exact absurd member List.not_mem_nil
    · intro answer member
      exact absurd member List.not_mem_nil
  · intro d act e step truthful
    cases step with
    | inject task => exact truthful.inject task
    | forge => exact ⟨truthful.queued, truthful.held, truthful.submissions, truthful.answers⟩
    | selector act acked step _ onQueue => exact truthful.selected acked _ onQueue
    | worker worker act acked delivered step onQueue => exact truthful.worked acked delivered step onQueue

/-- Whatever the broker refuses and whoever shuts down, a task is handed to a device, and answered,
at most once for each time the broker has delivered it; what is handed over is the injected task and
every answer goes to its destination, under its id. -/
theorem task_handed_over_once_per_delivery (run : DistributedRun deployment bag acts d) (number : Nat)
    (task : QuantumTask) (injected : d.injected[number]? = some task) :
    d.submissionCount number ≤ 1 + redeliveries number acts ∧
      (d.answers.countP fun answer => answer.ticket == number) ≤ 1 + redeliveries number acts ∧
      (∀ worker ticket, (worker, ticket) ∈ d.submissions → ticket.number = number → ticket.task.SameRequest task) ∧
      ∀ answer ∈ d.answers, answer.ticket = number →
        answer.send.queue = task.resultDestination ∧ answer.send.result.taskId = task.taskId := by
  have truthful := run.truthful
  obtain ⟨copies, balanced⟩ := run.balanced number
  obtain ⟨live, _⟩ := List.getElem?_eq_some_iff.mp injected
  have one : d.entered number = 1 := if_pos live
  refine ⟨?_, ?_, ?_, ?_⟩
  · have submitted := balanced.submitted
    omega
  · have seen : (d.answers.countP fun answer => answer.ticket == number) = (d.content bag .answered).count number := by
      simp only [Distributed.content, Multiset.coe_count, List.count, List.countP_map]
      rfl
    have within := balanced.census.count_le_card .answered
    have bounded := balanced.bounded
    omega
  · intro worker ticket member numbered
    obtain ⟨origin, listed, same⟩ := truthful.submissions worker ticket member
    rw [numbered] at listed
    cases listed.symm.trans injected
    exact same
  · intro answer member numbered
    obtain ⟨origin, listed, answers⟩ := truthful.answers answer member
    rw [numbered] at listed
    cases listed.symm.trans injected
    exact ⟨answers.queue, answers.taskId⟩

/-- The bound is reached: a task whose acknowledgement fails once is handed to the device twice, and answered
after each time. -/
theorem task_handed_over_once_per_delivery_twice :
    ∃ acts d, DistributedRun .shared (Bag.fifo Ticket) acts d ∧ redeliveries 0 acts = 1 ∧ d.submissionCount 0 = 2 ∧
      d.submissionCount 0 ≤ 2 ∧ (d.answers.countP fun answer => answer.ticket == 0) ≤ 2 := by
  have start : DistributedRun .shared (Bag.fifo Ticket) [] (.initial .shared (Bag.fifo Ticket) 0 fun _ => 0) :=
    .start ⟨0, fun _ => 0, rfl⟩
  have dispatched := start
    |>.next (.inject .quake)
    |>.next (.forge .alpha)
    |>.next (.selector .enter true (.enter rfl rfl) nofun nofun)
    |>.next (.selector (.status .alpha) true (.status .alpha rfl rfl) (by rintro _ ⟨⟩; decide +kernel) nofun)
    |>.next (.selector .expire true (.expire rfl) nofun nofun)
    |>.next (.selector (.task ⟨0, .quake⟩ true) true (.task _ true rfl rfl) nofun (by rintro _ _ ⟨⟩; decide +kernel))
  have handedOver := dispatched
    |>.next (.worker true _ true true (.register .idle (by decide +kernel) (by decide +kernel)) nofun)
    |>.next (.worker true _ true true (.turnHead ⟨.idle, 0, 0, 0⟩ (by decide +kernel) (by decide +kernel)
      ⟨by decide +kernel, by decide, by decide⟩) nofun)
    |>.next (.worker true _ false true (.receive ⟨0, { QuantumTask.quake with scheduledQpu := "alpha" }⟩ .echo
      (by decide +kernel) (by decide +kernel)) (by rintro _ ⟨⟩; decide +kernel))
    |>.next (.worker true _ true true (.submit .calm () ()
      ⟨0, { QuantumTask.quake with scheduledQpu := "alpha", circuitFileType := "qirbase" }⟩ [] (.ok [1])
      (by decide +kernel) (by decide +kernel) Surroundings.calm_latched (by decide +kernel) (by decide +kernel)) nofun)
  have run := handedOver
    |>.next (.worker true _ true true (.submitted (by decide +kernel) (by decide +kernel)) nofun)
    |>.next (.worker true _ true true (.collect .calm 1 () ()
      ⟨0, { QuantumTask.quake with scheduledQpu := "alpha", circuitFileType := "qirbase" }⟩ [1] []
      (.ok ⟨7, "results-queue", "alpha", true, "COMPLETED", [[("00", 100)]]⟩)
      (by decide +kernel) (by decide +kernel) Surroundings.calm_latched (by decide +kernel) (by decide +kernel)) nofun)
    |>.next (.worker true _ true true (.turnEnd (by decide +kernel) (by decide +kernel)) nofun)
    |>.next (.worker true _ true true (.turnHead ⟨.idle, 0, 0, 0⟩ (by decide +kernel) (by decide +kernel)
      ⟨by decide +kernel, by decide, by decide⟩) nofun)
    |>.next (.worker true _ true true (.receive ⟨0, { QuantumTask.quake with scheduledQpu := "alpha" }⟩ .echo
      (by decide +kernel) (by decide +kernel)) (by rintro _ ⟨⟩; decide +kernel))
    |>.next (.worker true _ true true (.submit .calm () ()
      ⟨0, { QuantumTask.quake with scheduledQpu := "alpha", circuitFileType := "qirbase" }⟩ [] (.ok [1])
      (by decide +kernel) (by decide +kernel) Surroundings.calm_latched (by decide +kernel) (by decide +kernel)) nofun)
  obtain ⟨submitted, answered, _⟩ := task_handed_over_once_per_delivery run 0 .quake (by decide +kernel)
  exact ⟨_, _, run, by decide +kernel, by decide +kernel, submitted, answered⟩

end Qrmci
