import Qrmci.DistributedContents
import Qrmci.DistributedOrigin

namespace Qrmci

/-- The result says that the task was cancelled, and why, and holds nothing else. -/
structure QuantumResult.Cancelled (result : QuantumResult) : Prop where
  status : result.executionStatus = false
  reason : ∃ reason, result.additionalInformation = "CANCELLED: " ++ reason
  empty : result.results = []

/-- The result says that the task was completed, and holds an entry for each of so many circuits. -/
structure QuantumResult.Completed (result : QuantumResult) (circuits : Nat) : Prop where
  status : result.executionStatus = true
  information : result.additionalInformation = "COMPLETED"
  entries : result.results.length = circuits

theorem sendFailure_cancelled (task : QuantumTask) (failure : Error) : (sendFailure task failure).result.Cancelled :=
  ⟨rfl, ⟨failure.detail, rfl⟩, rfl⟩

theorem buildQuantumResult_completed {task : QuantumTask} {histogram : List (Option Counts)} {result : QuantumResult}
    (built : buildQuantumResult task histogram = .ok result) : result.Completed task.circuitFiles.length := by
  simp only [buildQuantumResult] at built
  split at built
  · cases built
  · rename_i expected
    split at built
    · cases built
    · cases built
      exact ⟨rfl, rfl, (List.length_map _).trans (not_not.mp expected)⟩

theorem collectQuantumResult_completed {σ : Type} {around : Surroundings σ} {slices : Nat} {task : QuantumTask}
    {jobs : List Job} {waitTimeout : Int64} {s after : σ} {result : QuantumResult}
    (run : collectQuantumResult around slices task jobs waitTimeout s = some (.ok result, after)) :
    result.Completed task.circuitFiles.length := by
  unfold collectQuantumResult at run
  split at run
  · cases run
  · cases run
  · simp only [Option.some.injEq, Prod.mk.injEq] at run
    exact buildQuantumResult_completed run.1

section Worker

variable {S : Type} {settings : WorkerSettings} {bag : Bag S Ticket} {act : WorkerAct} {s t : WorkerState S}

/-- What a worker replies: that a task is cancelled, or what the jobs of a task in its batch have given. -/
theorem WorkerStep.reply_cases {number : Nat} {send : ResultSend} (step : WorkerStep settings bag s act t)
    (replied : act.reply = some (number, send)) :
    send.result.destination = send.queue ∧ (send.result.Cancelled ∨
      ∃ ticket jobs, (ticket, jobs) ∈ s.batch ∧ ticket.number = number ∧
        send.result.Completed ticket.task.circuitFiles.length ∧ send.result.executedQpu = ticket.task.scheduledQpu) := by
  have failed (task : QuantumTask) (error : Error) (sent : sendFailure task error = send) :
      send.result.destination = send.queue ∧ (send.result.Cancelled ∨
        ∃ ticket jobs, (ticket, jobs) ∈ s.batch ∧ ticket.number = number ∧
          send.result.Completed ticket.task.circuitFiles.length ∧
          send.result.executedQpu = ticket.task.scheduledQpu) := by
    subst sent
    exact ⟨rfl, Or.inl (sendFailure_cancelled task error)⟩
  cases step with
  | receive ticket compiler =>
    cases outcome : (s.intake bag ticket compiler).result with
    | ok =>
      simp only [settleIntake, outcome, WorkerAct.reply] at replied
      cases replied
    | error error =>
      simp only [settleIntake, outcome, WorkerAct.reply, Option.some.injEq, Prod.mk.injEq] at replied
      exact failed _ error replied.2
  | submit around before after ticket rest outcome =>
    cases outcome with
    | ok jobs => cases replied
    | error error =>
      by_cases stopped : error.kind = .shutdownRequested
      · simp only [settleSubmission, if_pos stopped, WorkerAct.reply] at replied
        cases replied
      · simp only [settleSubmission, if_neg stopped, WorkerAct.reply, Option.some.injEq, Prod.mk.injEq] at replied
        exact failed _ error replied.2
  | collect around slices before after ticket jobs rest outcome phase listed latched flag run =>
    cases outcome with
    | ok result =>
      simp only [settleExecution, WorkerAct.reply, Option.some.injEq, Prod.mk.injEq] at replied
      obtain ⟨numbered, sent⟩ := replied
      subst sent
      obtain ⟨_, destination, executed, _⟩ := collectQuantumResult_ok run
      refine ⟨destination, Or.inr ⟨ticket, jobs, ?_, numbered, collectQuantumResult_completed run, executed⟩⟩
      rw [listed]
      exact List.mem_cons_self ..
    | error error =>
      by_cases stopped : error.kind = .shutdownRequested
      · simp only [settleExecution, if_pos stopped, WorkerAct.reply] at replied
        cases replied
      · simp only [settleExecution, if_neg stopped, WorkerAct.reply, Option.some.injEq, Prod.mk.injEq] at replied
        exact failed _ error replied.2
  | _ => cases replied

/-- What is in the batch was there, or has just been submitted. -/
theorem WorkerStep.mem_batch {pair : Ticket × List Job} (step : WorkerStep settings bag s act t) (member : pair ∈ t.batch) :
    pair ∈ s.batch ∨ act.submission = some pair.1 := by
  have tickets := step.tickets
  generalize t.batch = batch', t.scheduler = scheduler' at tickets member
  cases tickets with
  | submitted take =>
    rcases List.mem_append.mp member with old | new
    · exact Or.inl old
    · rw [List.mem_singleton.mp new]
      exact Or.inr rfl
  | collected listed =>
    rw [listed]
    exact Or.inl (List.mem_cons_of_mem _ member)
  | dropped => exact absurd member List.not_mem_nil
  | _ => exact Or.inl member

end Worker

section System

variable {ι S : Type} {deployment : Deployment ι} {bag : Bag S Ticket} {d e : Distributed ι S}

/-- The answer cancels the task, or reports what the device of the worker that sent it has made of it. -/
def Answer.Backed (submissions : List (ι × Ticket)) (answer : Answer ι) : Prop :=
  answer.send.result.destination = answer.send.queue ∧ (answer.send.result.Cancelled ∨
    ∃ worker ticket, answer.sender = some worker ∧ (worker, ticket) ∈ submissions ∧ ticket.number = answer.ticket ∧
      answer.send.result.Completed ticket.task.circuitFiles.length ∧
      answer.send.result.executedQpu = ticket.task.scheduledQpu)

theorem Answer.Backed.mono {submissions more : List (ι × Ticket)} {answer : Answer ι} (backed : answer.Backed submissions)
    (grows : submissions ⊆ more) : answer.Backed more := by
  obtain ⟨addressed, cancelled | ⟨worker, ticket, sender, member, rest⟩⟩ := backed
  · exact ⟨addressed, Or.inl cancelled⟩
  · exact ⟨addressed, Or.inr ⟨worker, ticket, sender, grows member, rest⟩⟩

/-- What a worker waits for it has handed to its device, and what is answered is backed by that. -/
structure WellAnswered (d : Distributed ι S) : Prop where
  batched : ∀ worker, ∀ pair ∈ (d.workers worker).batch, (worker, pair.1) ∈ d.submissions
  answers : ∀ answer ∈ d.answers, answer.Backed d.submissions

theorem WellAnswered.selected (answered : WellAnswered d) (act : SelectorAct) (acked : Bool) (t : SelectorState) :
    WellAnswered (d.selected deployment act acked t) := by
  obtain ⟨workers, _, submissions⟩ := Distributed.selected_frame deployment d act acked t
  refine ⟨by rw [workers, submissions]; exact answered.batched, ?_⟩
  intro answer member
  rw [submissions]
  rcases Distributed.mem_selected_answers member with old | ⟨received, delivered, error, _, new⟩
  · exact answered.answers answer old
  · subst new
    exact ⟨rfl, Or.inl (sendFailure_cancelled received.task error)⟩

variable [DecidableEq ι] {acts : List (DistributedAct ι)}

theorem WellAnswered.worked (answered : WellAnswered d) {worker : ι} {act : WorkerAct} {t : WorkerState S}
    (acked delivered : Bool) (step : WorkerStep (deployment.workers worker) bag (d.workers worker) act t) :
    WellAnswered (d.worked deployment worker act acked delivered t) := by
  have grows : d.submissions ⊆ (d.worked deployment worker act acked delivered t).submissions := by
    intro each member
    exact Distributed.mem_worked_submissions.mpr (Or.inl member)
  refine ⟨?_, ?_⟩
  · refine Distributed.forall_worked (fun each w => ∀ pair ∈ w.batch,
      (each, pair.1) ∈ (d.worked deployment worker act acked delivered t).submissions) ?_ ?_
    · intro each pair member
      exact grows (answered.batched each pair member)
    · intro pair member
      rcases step.mem_batch member with old | new
      · exact grows (answered.batched worker pair old)
      · exact Distributed.mem_worked_submissions.mpr (Or.inr ⟨rfl, new⟩)
  · intro answer member
    rcases Distributed.mem_worked_answers member with old | ⟨sender, sent⟩
    · exact (answered.answers answer old).mono grows
    · obtain ⟨addressed, cancelled | ⟨ticket, jobs, listed, numbered, completed, executed⟩⟩ := step.reply_cases sent
      · exact ⟨addressed, Or.inl cancelled⟩
      · exact ⟨addressed, Or.inr ⟨worker, ticket, sender, grows (answered.batched worker _ listed), numbered, completed,
          executed⟩⟩

theorem DistributedRun.wellAnswered (run : DistributedRun deployment bag acts d) : WellAnswered d := by
  refine Trace.invariant WellAnswered ?_ ?_ run
  · intro d first
    obtain ⟨selectorClock, clocks, rfl⟩ := first
    exact ⟨fun worker pair member => absurd member List.not_mem_nil, fun answer member => absurd member List.not_mem_nil⟩
  · intro d act e step answered
    cases step with
    | inject task => exact ⟨answered.batched, answered.answers⟩
    | forge => exact ⟨answered.batched, answered.answers⟩
    | selector act acked => exact answered.selected act acked _
    | worker worker act acked delivered step => exact answered.worked acked delivered step

/-- What the submitter of a task is told is true. Every answer goes to the destination of an injected task, under its
id; either it cancels the task, with a reason and no results, or it reports one result for each of the injected
circuits, and then it comes from a worker that has handed just this task to its own device, which it names. -/
theorem answers_tell_the_truth (run : DistributedRun deployment bag acts d) :
    ∀ answer ∈ d.answers, ∃ task, d.injected[answer.ticket]? = some task ∧ answer.send.queue = task.resultDestination ∧
      answer.send.result.taskId = task.taskId ∧ answer.send.result.destination = task.resultDestination ∧
      (answer.send.result.Cancelled ∨
        answer.send.result.Completed task.circuitFiles.length ∧
          ∃ worker ticket, answer.sender = some worker ∧ (worker, ticket) ∈ d.submissions ∧
            ticket.number = answer.ticket ∧
            answer.send.result.executedQpu = (deployment.workers worker).deviceId) := by
  intro answer member
  obtain ⟨task, listed, answers⟩ := run.truthful.answers answer member
  obtain ⟨addressed, outcome⟩ := run.wellAnswered.answers answer member
  refine ⟨task, listed, answers.queue, answers.taskId, addressed.trans answers.queue, ?_⟩
  rcases outcome with cancelled | ⟨worker, ticket, sender, submitted, numbered, completed, executed⟩
  · exact Or.inl cancelled
  · obtain ⟨injected, origin, prepared⟩ := (run.unaltered.submissions worker ticket submitted).prepared
    rw [numbered, listed] at origin
    cases origin
    refine Or.inr ⟨by rw [← prepared.count]; exact completed, worker, ticket, sender, submitted, numbered, ?_⟩
    rw [executed, prepared.others]

theorem answers_tell_the_truth_quake :
    ∃ acts d, DistributedRun .single (Bag.fifo Ticket) acts d ∧ ∃ answer ∈ d.answers,
      answer.send.result.Completed 1 ∧ answer.send.result.executedQpu = "alpha" := by
  obtain ⟨acts, d, run, injected, _, ⟨answer, member, numbered, succeeded⟩, _⟩ := single_serves_quake
  obtain ⟨task, listed, _, _, _, outcome⟩ := answers_tell_the_truth run answer member
  rw [injected, numbered] at listed
  cases listed
  rcases outcome with cancelled | ⟨completed, worker, ticket, _, _, _, executed⟩
  · cases succeeded.symm.trans cancelled.status
  · exact ⟨acts, d, run, answer, member, completed, executed⟩

end System

end Qrmci
