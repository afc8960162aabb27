import Qrmci.Worker

namespace Qrmci

variable {S : Type}

/-- The task that a step of a worker takes from its queue. -/
def WorkerAct.consumed : WorkerAct → Option Ticket
  | .receive ticket _ => some ticket
  | _ => none

/-- The task that a step of a worker hands to `submitQuantumTask`. -/
def WorkerAct.submission : WorkerAct → Option Ticket
  | .submit ticket _ _ => some ticket
  | _ => none

/-- The result message that a step of a worker sends, with the number of its task. -/
def WorkerAct.reply : WorkerAct → Option (Nat × ResultSend)
  | .receive ticket (some send) => some (ticket.number, send)
  | .submit ticket (some send) _ => some (ticket.number, send)
  | .collect ticket (some send) _ => some (ticket.number, send)
  | _ => none

/-- Whether a shutdown is requested by the end of a step. -/
def WorkerAct.raised : WorkerAct → Bool
  | .signal => true
  | .submit _ _ raised => raised
  | .collect _ _ raised => raised
  | _ => false

/-- What a step of a worker can do to the tasks it holds: leave them alone, schedule or refuse a
received task, submit a scheduled one, refuse it or give it up, answer a submitted one or give up
what is left of the batch. -/
inductive TicketStep (bag : Bag S Ticket) (backends : BackendRegistry) (scheduler : S)
    (batch : List (Ticket × List Job)) : WorkerAct → S → List (Ticket × List Job) → Prop
  | idle {act} : act.consumed = none → act.submission = none → act.reply = none →
      TicketStep bag backends scheduler batch act scheduler batch
  | scheduled {ticket : Ticket} {prepared : QuantumTask} {backend} :
      backends.find ticket.task.scheduledQpu = some backend →
      prepared.SameRequest ticket.task → prepared.scheduledQpu = ticket.task.scheduledQpu →
      TicketStep bag backends scheduler batch (.receive ticket none) (bag.put ⟨ticket.number, prepared⟩ scheduler) batch
  | refused {ticket send} : send.Answers ticket.task → send.result.executionStatus = false →
      TicketStep bag backends scheduler batch (.receive ticket (some send)) scheduler batch
  | submitted {ticket rest jobs raised} : bag.take scheduler = some (ticket, rest) →
      TicketStep bag backends scheduler batch (.submit ticket none raised) rest (batch ++ [(ticket, jobs)])
  | rejected {ticket rest send raised} : bag.take scheduler = some (ticket, rest) →
      send.Answers ticket.task → send.result.executionStatus = false →
      TicketStep bag backends scheduler batch (.submit ticket (some send) raised) rest batch
  | abandoned {ticket rest} : bag.take scheduler = some (ticket, rest) →
      TicketStep bag backends scheduler batch (.submit ticket none true) rest batch
  | collected {ticket jobs rest send raised} : batch = (ticket, jobs) :: rest → send.Answers ticket.task →
      send.result.executedQpu = ticket.task.scheduledQpu →
      TicketStep bag backends scheduler batch (.collect ticket (some send) raised) scheduler rest
  | dropped {ticket jobs rest} : batch = (ticket, jobs) :: rest →
      TicketStep bag backends scheduler batch (.collect ticket none true) scheduler []

variable {settings : WorkerSettings} {bag : Bag S Ticket} {act : WorkerAct} {s t : WorkerState S}

theorem TicketStep.received (s : WorkerState S) (bag : Bag S Ticket) (ticket : Ticket) (compiler : MQSSCompiler) :
    TicketStep bag s.availableBackends s.scheduler s.batch
      (.receive ticket (settleIntake (s.intake bag ticket compiler)))
      (s.intake bag ticket compiler).scheduler s.batch := by
  generalize ran : s.intake bag ticket compiler = run
  obtain ⟨same, assigned, ⟨done, scheduled, _, located⟩ | ⟨error, failed, _, kept⟩⟩ :=
    compileAndSchedule_cases run ran
  · simp only [settleIntake, done, scheduled]
    exact .scheduled located same assigned
  · simp only [settleIntake, failed, kept]
    exact .refused ((sendFailure_answers run.task error).transfer same) rfl

theorem TicketStep.submitting (s : WorkerState S) {ticket : Ticket} {rest : S} {raised : Bool}
    {outcome : Except Error (List Job)} (take : bag.take s.scheduler = some (ticket, rest))
    (shutdown : ∀ error, outcome = .error error → error.kind = .shutdownRequested → raised = true) :
    TicketStep bag s.availableBackends s.scheduler s.batch
      (.submit ticket (settleSubmission ticket.task outcome) raised)
      (s.submitted ticket rest raised outcome).scheduler (s.submitted ticket rest raised outcome).batch := by
  cases outcome with
  | ok jobs => exact .submitted take
  | error error =>
    by_cases stopped : error.kind = .shutdownRequested
    · have up := shutdown error rfl stopped
      subst up
      simp only [settleSubmission, WorkerState.submitted, if_pos stopped]
      exact .abandoned take
    · simp only [settleSubmission, WorkerState.submitted, if_neg stopped]
      exact .rejected take (sendFailure_answers ticket.task error) rfl

theorem TicketStep.collecting (s : WorkerState S) {ticket : Ticket} {jobs : List Job}
    {rest : List (Ticket × List Job)} {raised : Bool} {outcome : Except Error QuantumResult}
    (held : s.batch = (ticket, jobs) :: rest)
    (labelled : ∀ result, outcome = .ok result →
      result.taskId = ticket.task.taskId ∧ result.executedQpu = ticket.task.scheduledQpu)
    (shutdown : ∀ error, outcome = .error error → error.kind = .shutdownRequested → raised = true) :
    TicketStep bag s.availableBackends s.scheduler s.batch
      (.collect ticket (settleExecution ticket.task outcome) raised)
      (s.collected rest raised outcome).scheduler (s.collected rest raised outcome).batch := by
  cases outcome with
  | ok result =>
    obtain ⟨taskId, executedQpu⟩ := labelled result rfl
    exact .collected held ⟨rfl, taskId⟩ executedQpu
  | error error =>
    by_cases stopped : error.kind = .shutdownRequested
    · have up := shutdown error rfl stopped
      subst up
      simp only [settleExecution, WorkerState.collected, if_pos stopped]
      exact .dropped held
    · simp only [settleExecution, WorkerState.collected, if_neg stopped]
      exact .collected held (sendFailure_answers ticket.task error) rfl

/-- Every step of a worker is a step of its tickets. -/
theorem WorkerStep.tickets (step : WorkerStep settings bag s act t) :
    TicketStep bag s.availableBackends s.scheduler s.batch act t.scheduler t.batch := by
  cases step with
  | receive ticket compiler => exact .received s bag ticket compiler
  | submit around before after ticket rest outcome phase take latched flag run =>
    refine .submitting s take ?_
    intro error failed stopped
    subst failed
    exact submitQuantumTask_shutdown latched run stopped
  | collect around slices before after ticket jobs rest outcome phase held latched flag run =>
    refine .collecting s held ?_ ?_
    · intro result done
      subst done
      obtain ⟨taskId, _, executedQpu, _⟩ := collectQuantumResult_ok run
      exact ⟨taskId, executedQpu⟩
    · intro error failed stopped
      subst failed
      exact collectQuantumResult_shutdown run stopped
  | signal => exact .idle rfl rfl rfl
  | pass => exact .idle rfl rfl rfl
  | register => exact .idle rfl rfl rfl
  | registerFailed => exact .idle rfl rfl rfl
  | turnHead => exact .idle rfl rfl rfl
  | exit => exact .idle rfl rfl rfl
  | receiveNothing => exact .idle rfl rfl rfl
  | submitted => exact .idle rfl rfl rfl
  | turnEnd => exact .idle rfl rfl rfl

end Qrmci
