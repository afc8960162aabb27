import Qrmci.Distributed

namespace Qrmci

variable {ι S : Type} {deployment : Deployment ι} {d : Distributed ι S} {name : String} {ticket : Ticket}

/-- What waits after an injection waited before, or has just been injected. -/
theorem Distributed.mem_inject {task : QuantumTask} (member : ticket ∈ (d.inject deployment task).queues name) :
    ticket ∈ d.queues name ∨ name = deployment.selector.qrmciQueue ∧ ticket = ⟨d.injected.length, task⟩ := by
  simp only [Distributed.inject] at member
  exact Queues.mem_put member

section Selected

variable {act : SelectorAct} {acked : Bool} {t : SelectorState}

/-- What waits after a step of the selector waited before, or has just been forwarded to a backend that
is registered and can run it. -/
theorem Distributed.mem_selected (member : ticket ∈ (d.selected deployment act acked t).queues name) :
    ticket ∈ d.queues name ∨ ∃ received delivered backend, act = .task received delivered ∧
      d.selector.availableBackends.find backend.name = some backend ∧
      eligible deployment.selector.inputFormats received.task backend = true ∧ name = backend.queueName ∧
      ticket = ⟨received.number, { received.task with scheduledQpu := backend.name }⟩ := by
  cases act with
  | task received delivered =>
    rcases handleTask_cases deployment.selector d.selector.availableBackends received.task with
      ⟨error, _, refused⟩ | ⟨backend, located, able, _, forwards⟩
    · simp only [Distributed.selected, refused] at member
      exact Or.inl (Queues.mem_consume member)
    · simp only [Distributed.selected, forwards] at member
      rcases Queues.mem_put member with old | ⟨same, new⟩
      · exact Or.inl (Queues.mem_consume old)
      · exact Or.inr ⟨received, delivered, backend, rfl, located, able, same, new⟩
  | _ => exact Or.inl member

/-- The selector answers the tasks that it refuses, and no others. -/
theorem Distributed.mem_selected_answers {answer : Answer ι}
    (member : answer ∈ (d.selected deployment act acked t).answers) :
    answer ∈ d.answers ∨ ∃ received delivered error, act = .task received delivered ∧
      answer = ⟨none, received.number, sendFailure received.task error, delivered⟩ := by
  cases act with
  | task received delivered =>
    rcases handleTask_cases deployment.selector d.selector.availableBackends received.task with
      ⟨error, _, refused⟩ | ⟨backend, _, _, _, forwards⟩
    · simp only [Distributed.selected, refused] at member
      rcases List.mem_cons.mp member with new | old
      · exact Or.inr ⟨received, delivered, error, rfl, new⟩
      · exact Or.inl old
    · simp only [Distributed.selected, forwards] at member
      exact Or.inl member
  | _ => exact Or.inl member

@[simp] theorem Distributed.selected_selector (deployment : Deployment ι) (d : Distributed ι S) (act : SelectorAct)
    (acked : Bool) (t : SelectorState) : (d.selected deployment act acked t).selector = t := by
  unfold Distributed.selected
  split
  · rfl
  · dsimp only
    split <;> rfl
  · rfl

/-- A step of the selector is none of the workers' business. -/
theorem Distributed.selected_frame (deployment : Deployment ι) (d : Distributed ι S) (act : SelectorAct) (acked : Bool)
    (t : SelectorState) : (d.selected deployment act acked t).workers = d.workers ∧
      (d.selected deployment act acked t).injected = d.injected ∧
      (d.selected deployment act acked t).submissions = d.submissions := by
  unfold Distributed.selected
  split
  · exact ⟨rfl, rfl, rfl⟩
  · dsimp only
    split <;> exact ⟨rfl, rfl, rfl⟩
  · exact ⟨rfl, rfl, rfl⟩

end Selected

section Worked

variable [DecidableEq ι] {worker : ι} {act : WorkerAct} {acked delivered : Bool} {t : WorkerState S}

/-- A worker puts no task on a queue. -/
theorem Distributed.mem_worked (member : ticket ∈ (d.worked deployment worker act acked delivered t).queues name) :
    ticket ∈ d.queues name := by
  simp only [Distributed.worked] at member
  cases consumed : act.consumed with
  | none =>
    rw [consumed] at member
    exact member
  | some received =>
    rw [consumed] at member
    exact Queues.mem_consume member

theorem Distributed.mem_worked_submissions {each : ι} :
    (each, ticket) ∈ (d.worked deployment worker act acked delivered t).submissions ↔
      (each, ticket) ∈ d.submissions ∨ each = worker ∧ act.submission = some ticket := by
  simp only [Distributed.worked]
  cases submitted : act.submission with
  | none => simp
  | some handed => simp [eq_comm, or_comm]

theorem Distributed.mem_worked_answers {answer : Answer ι}
    (member : answer ∈ (d.worked deployment worker act acked delivered t).answers) :
    answer ∈ d.answers ∨ answer.sender = some worker ∧ act.reply = some (answer.ticket, answer.send) := by
  simp only [Distributed.worked] at member
  split at member
  · rename_i sent
    rcases List.mem_cons.mp member with new | old
    · subst new
      exact Or.inr ⟨rfl, sent⟩
    · exact Or.inl old
  · exact Or.inl member

/-- What holds of every worker still does if it holds of the one that has taken the step. -/
theorem Distributed.forall_worked (holds : ι → WorkerState S → Prop) (all : ∀ each, holds each (d.workers each))
    (stepped : holds worker t) (each : ι) :
    holds each ((d.worked deployment worker act acked delivered t).workers each) := by
  by_cases same : each = worker
  · subst same
    simp only [Distributed.worked, Function.update_self]
    exact stepped
  · simp only [Distributed.worked, Function.update_of_ne same]
    exact all each

end Worked

end Qrmci
