import Qrmci.Daemon

namespace Qrmci

/-- A task message, with the number of its arrival in the pipeline. The number is bookkeeping
only: no function of the pipeline reads it. -/
structure Ticket where
  number : Nat
  task : QuantumTask
  deriving DecidableEq, Repr

/-- One result message handed to the broker, and the queue it is sent to. -/
structure ResultSend where
  queue : String
  result : QuantumResult
  deriving DecidableEq, Repr

def sendFailure (task : QuantumTask) (failure : Error) : ResultSend :=
  ⟨task.resultDestination, cancelQuantumTask task failure.detail⟩

def sendResult (task : QuantumTask) (result : QuantumResult) : ResultSend :=
  ⟨task.resultDestination, result⟩

/-- What a work loop sends once a task's execution has come back: its result, its failure, or,
after a shutdown request, nothing at all. -/
def settleExecution (task : QuantumTask) : Except Error QuantumResult → Option ResultSend
  | .ok result => some (sendResult task result)
  | .error error => if error.kind = .shutdownRequested then none else some (sendFailure task error)

/-- What a worker sends once a submission has come back: nothing yet for one that has gone through. -/
def settleSubmission (task : QuantumTask) : Except Error (List Job) → Option ResultSend
  | .ok _ => none
  | .error error => if error.kind = .shutdownRequested then none else some (sendFailure task error)

/-- What a work loop sends after an intake stage: only a failure is reported. -/
def settleIntake {S : Type} (run : IntakeRun S) : Option ResultSend :=
  match run.result with
  | .ok () => none
  | .error error => some (sendFailure run.task error)

/-- The message answers the task: it goes to the task's own destination and names the task. -/
structure ResultSend.Answers (send : ResultSend) (task : QuantumTask) : Prop where
  queue : send.queue = task.resultDestination
  taskId : send.result.taskId = task.taskId

theorem sendFailure_answers (task : QuantumTask) (failure : Error) : (sendFailure task failure).Answers task :=
  ⟨rfl, rfl⟩

theorem ResultSend.Answers.transfer {send : ResultSend} {task other : QuantumTask} (answers : send.Answers task)
    (same : task.SameRequest other) : send.Answers other :=
  ⟨answers.queue.trans same.resultDestination, answers.taskId.trans same.taskId⟩

/-- The message answers the task that came under the number. -/
def ResultSend.AnswersOne (send : ResultSend) (number : Nat) (arrived : List QuantumTask) : Prop :=
  ∃ task, arrived[number]? = some task ∧ send.Answers task

/-- The ticket stands for the task that came under its number. -/
def Ticket.Genuine (ticket : Ticket) (arrived : List QuantumTask) : Prop :=
  ∃ task, arrived[ticket.number]? = some task ∧ ticket.task.SameRequest task

variable {arrived : List QuantumTask} {ticket : Ticket} {send : ResultSend}

theorem getElem?_append_of_some {number : Nat} {task : QuantumTask} (before : arrived[number]? = some task)
    (more : List QuantumTask) : (arrived ++ more)[number]? = some task := by
  obtain ⟨bound, _⟩ := List.getElem?_eq_some_iff.mp before
  rw [List.getElem?_append_left bound]
  exact before

theorem ResultSend.AnswersOne.append {number : Nat} (answers : send.AnswersOne number arrived)
    (more : List QuantumTask) : send.AnswersOne number (arrived ++ more) := by
  obtain ⟨task, listed, answered⟩ := answers
  exact ⟨task, getElem?_append_of_some listed more, answered⟩

theorem Ticket.Genuine.append (genuine : ticket.Genuine arrived) (more : List QuantumTask) :
    ticket.Genuine (arrived ++ more) := by
  obtain ⟨task, listed, same⟩ := genuine
  exact ⟨task, getElem?_append_of_some listed more, same⟩

theorem Ticket.Genuine.transfer {task : QuantumTask} (genuine : ticket.Genuine arrived)
    (same : task.SameRequest ticket.task) : Ticket.Genuine ⟨ticket.number, task⟩ arrived := by
  obtain ⟨origin, listed, stands⟩ := genuine
  exact ⟨origin, listed, same.trans stands⟩

/-- An answer to a genuine ticket answers the task it stands for. -/
theorem Ticket.Genuine.answered (genuine : ticket.Genuine arrived) (answers : send.Answers ticket.task) :
    send.AnswersOne ticket.number arrived := by
  obtain ⟨origin, listed, stands⟩ := genuine
  exact ⟨origin, listed, answers.transfer stands⟩

end Qrmci
