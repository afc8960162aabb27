import Qrmci.Pipelining
import Qrmci.Standalone
import Qrmci.WorkerTickets

namespace Qrmci

variable {σ S : Type} {around : Surroundings σ} {bag : Bag S Ticket} {slices : Nat}

/-- The result messages that a worker's acts have sent, first to last; the acts stand latest first. -/
def WorkerAct.sent (acts : List WorkerAct) : List ResultSend :=
  acts.reverse.filterMap fun act => act.reply.map Prod.snd

theorem WorkerAct.sent_append (later earlier : List WorkerAct) :
    sent (later ++ earlier) = sent earlier ++ sent later := by
  unfold sent
  rw [List.reverse_append, List.filterMap_append]

/-- What a shutdown leaves unanswered. -/
theorem settleExecution_eq_none {task : QuantumTask} {outcome : Except Error QuantumResult}
    (settled : settleExecution task outcome = none) :
    ∃ error, outcome = .error error ∧ error.kind = .shutdownRequested := by
  cases outcome with
  | ok result => cases settled
  | error error =>
    simp only [settleExecution] at settled
    split at settled
    · rename_i kind
      exact ⟨error, rfl, kind⟩
    · cases settled

section Worker

variable {settings : WorkerSettings} {acts : List WorkerAct} {w : WorkerState S} {s : σ}

/-- The submission loop is what a worker's runs do between the receipt and the collection. -/
theorem submitReadyTasks_run (latched : around.Latched) {scheduler : S} (run : WorkerRun settings bag acts w)
    (phase : w.phase = .submitting) (holds : w.scheduler = scheduler)
    (flag : around.terminationFlag s = w.terminationRequested) :
    ∃ more after, WorkerRun settings bag (more ++ acts) after ∧ after.phase = .collecting ∧
      after.batch = w.batch ++ (submitReadyTasks around bag scheduler s).batch ∧
      after.scheduler = (submitReadyTasks around bag scheduler s).scheduler ∧
      around.terminationFlag (submitReadyTasks around bag scheduler s).state = after.terminationRequested ∧
      WorkerAct.sent more = (submitReadyTasks around bag scheduler s).sent := by
  fun_induction submitReadyTasks around bag scheduler s generalizing acts w with
  | case1 scheduler s taken =>
    subst holds
    exact ⟨[.submitted], _, run.next (.submitted phase taken), rfl, (List.append_nil _).symm, rfl, flag, rfl⟩
  | case2 scheduler s nextTask rest taken jobs next submission later =>
    rename_i ih
    subst holds
    have step : WorkerStep settings bag w _ _ :=
      .submit around s next nextTask rest (.ok jobs) phase taken latched flag submission
    obtain ⟨more, after, continued, collecting, batch, left, raised, sent⟩ := ih (run.next step) phase rfl rfl
    refine ⟨more ++ [.submit nextTask none (around.terminationFlag next)], after, ?_, collecting, ?_, left, raised, ?_⟩
    · rw [List.append_assoc]
      exact continued
    · rw [batch]
      exact List.append_assoc ..
    · rw [WorkerAct.sent_append, sent]
      rfl
  | case3 scheduler s nextTask rest taken error next submission kind =>
    subst holds
    have step : WorkerStep settings bag w _ _ :=
      .submit around s next nextTask rest (.error error) phase taken latched flag submission
    simp only [settleSubmission, WorkerState.submitted, if_pos kind] at step
    exact ⟨[.submit nextTask none (around.terminationFlag next)], _, run.next step, rfl, (List.append_nil _).symm, rfl,
      rfl, rfl⟩
  | case4 scheduler s nextTask rest taken error next submission kind later =>
    rename_i ih
    subst holds
    have step : WorkerStep settings bag w _ _ :=
      .submit around s next nextTask rest (.error error) phase taken latched flag submission
    simp only [settleSubmission, WorkerState.submitted, if_neg kind] at step
    obtain ⟨more, after, continued, collecting, batch, left, raised, sent⟩ := ih (run.next step) phase rfl rfl
    refine ⟨more ++ [.submit nextTask (some (sendFailure nextTask.task error)) (around.terminationFlag next)], after, ?_,
      collecting, batch, left, raised, ?_⟩
    · rw [List.append_assoc]
      exact continued
    · rw [WorkerAct.sent_append, sent]
      rfl

theorem WorkerState.collected_settled {ticket : Ticket} {outcome : Except Error QuantumResult} {send : ResultSend}
    {rest : List (Ticket × List Job)} {raised : Bool} (settled : settleExecution ticket.task outcome = some send) :
    w.collected rest raised outcome = { w with terminationRequested := raised, batch := rest } := by
  rcases settleExecution_cases settled with ⟨result, rfl, _⟩ | ⟨error, rfl, other, _⟩
  · rfl
  · exact if_neg other

/-- The collection loop is what they do from there to the end of the turn. -/
theorem collectSubmittedJobs_run (latched : around.Latched) {batch : List (Ticket × List Job)} {last : σ}
    {sent : List ResultSend} (run : WorkerRun settings bag acts w) (phase : w.phase = .collecting)
    (holds : w.batch = batch) (flag : around.terminationFlag s = w.terminationRequested)
    (collected : collectSubmittedJobs around slices settings.jobWaitTimeout batch s = some (sent, last)) :
    ∃ more after, WorkerRun settings bag (more ++ acts) after ∧ after.phase = .turnHead ∧
      after.scheduler = w.scheduler ∧ WorkerAct.sent more = sent := by
  induction batch generalizing acts w s sent with
  | nil =>
    cases collected
    exact ⟨[.turnEnd], _, run.next (.turnEnd phase holds), rfl, rfl, rfl⟩
  | cons entry rest ih =>
    obtain ⟨ticket, jobs⟩ := entry
    cases collection : collectQuantumResult around slices ticket.task jobs settings.jobWaitTimeout s with
    | none =>
      rw [collectSubmittedJobs, collection] at collected
      cases collected
    | some answer =>
      obtain ⟨outcome, next⟩ := answer
      have step : WorkerStep settings bag w _ _ :=
        .collect around slices s next ticket jobs rest outcome phase holds latched flag collection
      cases settled : settleExecution ticket.task outcome with
      | some send =>
        rw [settled, WorkerState.collected_settled settled] at step
        rw [collectSubmittedJobs_settled collection settled] at collected
        obtain ⟨⟨later, last'⟩, remaining, same⟩ := Option.map_eq_some_iff.mp collected
        cases same
        obtain ⟨more, after, continued, ended, left, sent⟩ := ih (run.next step) phase rfl rfl remaining
        refine ⟨more ++ [.collect ticket (some send) (around.terminationFlag next)], after, ?_, ended, left, ?_⟩
        · rw [List.append_assoc]
          exact continued
        · rw [WorkerAct.sent_append, sent]
          rfl
      | none =>
        -- a shutdown drops the rest of the batch, and the turn ends there
        obtain ⟨error, rfl, kind⟩ := settleExecution_eq_none settled
        simp only [settled, WorkerState.collected, if_pos kind] at step
        simp only [collectSubmittedJobs, collection, if_pos kind] at collected
        cases collected
        exact ⟨[.turnEnd, .collect ticket none (around.terminationFlag last)], _,
          (run.next step).next (.turnEnd phase rfl), rfl, rfl, rfl⟩

/-- One pass of a worker is the part of its runs from the receipt of a task to the end of the turn. -/
theorem workerPass_run (latched : around.Latched) {sent : List ResultSend} (run : WorkerRun settings bag acts w)
    (phase : w.phase = .submitting) (fresh : w.batch = []) (flag : around.terminationFlag s = w.terminationRequested)
    (pass : workerPass around bag slices settings.jobWaitTimeout w.scheduler s = some sent) :
    ∃ more after, WorkerRun settings bag (more ++ acts) after ∧ after.phase = .turnHead ∧
      WorkerAct.sent more = sent := by
  obtain ⟨⟨collectedSends, last⟩, collected, same⟩ := Option.map_eq_some_iff.mp pass
  obtain ⟨first, middle, submitted, collecting, batch, _, raised, failures⟩ :=
    submitReadyTasks_run latched run phase rfl flag
  rw [fresh, List.nil_append] at batch
  obtain ⟨second, after, continued, ended, _, answers⟩ :=
    collectSubmittedJobs_run latched submitted collecting batch raised collected
  refine ⟨second ++ first, after, ?_, ended, ?_⟩
  · rw [List.append_assoc]
    exact continued
  · rw [WorkerAct.sent_append, failures, answers]
    exact same

end Worker

section Standalone

variable {settings : StandaloneSettings} {acts : List StandaloneAct} {d : StandaloneState S} {s : σ}

/-- The result messages the standalone daemon has sent, first to last. -/
def StandaloneState.sent (d : StandaloneState S) : List ResultSend :=
  d.history.replies.reverse.map Reply.send

/-- One pass of the standalone daemon is the part of its runs from the end of a drain to the end of the turn. -/
theorem standalonePass_run (latched : around.Latched) {scheduler : S} {sent : List ResultSend}
    (run : StandaloneRun settings bag acts d) (phase : d.phase = .executing) (holds : d.scheduler = scheduler)
    (flag : around.terminationFlag s = d.terminationRequested)
    (pass : standalonePass around bag slices settings.jobWaitTimeout scheduler s = some sent) :
    ∃ more after, StandaloneRun settings bag (more ++ acts) after ∧ after.phase = .turnEnd ∧
      after.sent = d.sent ++ sent := by
  fun_induction standalonePass around bag slices settings.jobWaitTimeout scheduler s generalizing acts d sent with
  | case1 scheduler s taken =>
    subst holds
    cases pass
    exact ⟨[.executed], _, run.next (.executed phase taken), rfl, (List.append_nil _).symm⟩
  | case2 scheduler s nextTask rest taken stuck => cases pass
  | case3 scheduler s nextTask rest taken result next executed =>
    rename_i ih
    subst holds
    obtain ⟨later, remaining, rfl⟩ := Option.map_eq_some_iff.mp pass
    have step : StandaloneStep settings bag d _ _ :=
      .execute around slices s next nextTask rest (.ok result) phase taken latched flag executed
    obtain ⟨more, after, continued, ended, sent⟩ := ih (run.next step) phase rfl rfl remaining
    refine ⟨more ++ [.execute nextTask], after, ?_, ended, ?_⟩
    · rw [List.append_assoc]
      exact continued
    · rw [sent]
      simp [StandaloneState.sent, StandaloneState.settled]
  | case4 scheduler s nextTask rest taken error next executed kind =>
    subst holds
    cases pass
    have step : StandaloneStep settings bag d _ _ :=
      .execute around slices s next nextTask rest (.error error) phase taken latched flag executed
    simp only [StandaloneState.settled, if_pos kind] at step
    exact ⟨[.execute nextTask], _, run.next step, rfl, (List.append_nil _).symm⟩
  | case5 scheduler s nextTask rest taken error next executed kind =>
    rename_i ih
    subst holds
    obtain ⟨later, remaining, rfl⟩ := Option.map_eq_some_iff.mp pass
    have step : StandaloneStep settings bag d _ _ :=
      .execute around slices s next nextTask rest (.error error) phase taken latched flag executed
    simp only [StandaloneState.settled, if_neg kind] at step
    obtain ⟨more, after, continued, ended, sent⟩ := ih (run.next step) phase rfl rfl remaining
    refine ⟨more ++ [.execute nextTask], after, ?_, ended, ?_⟩
    · rw [List.append_assoc]
      exact continued
    · rw [sent]
      simp [StandaloneState.sent]

end Standalone

/-- A turn of a worker and a turn of the standalone daemon, with the same tasks scheduled and the same
per-call device before them, can both be run to their ends, and they send the same messages. -/
theorem turns_send_alike {device : PerCallDevice} {view : DeviceView σ} (perCall : around.PerCall device view)
    {worker : WorkerSettings} {standalone : StandaloneSettings} {acts : List WorkerAct} {w : WorkerState S}
    {daemonActs : List StandaloneAct} {d : StandaloneState S} {s : σ} {sent : List ResultSend}
    (workerRun : WorkerRun worker bag acts w) (submitting : w.phase = .submitting) (fresh : w.batch = [])
    (unsignalled : w.terminationRequested = false)
    (daemonRun : StandaloneRun standalone bag daemonActs d) (executing : d.phase = .executing)
    (untold : d.terminationRequested = false) (scheduled : w.scheduler = d.scheduler)
    (timeouts : worker.jobWaitTimeout = standalone.jobWaitTimeout)
    (pass : standalonePass around bag slices standalone.jobWaitTimeout d.scheduler s = some sent) :
    ∃ more after moreDaemonActs daemonAfter,
      WorkerRun worker bag (more ++ acts) after ∧ after.phase = .turnHead ∧
      StandaloneRun standalone bag (moreDaemonActs ++ daemonActs) daemonAfter ∧ daemonAfter.phase = .turnEnd ∧
      daemonAfter.sent = d.sent ++ sent ∧ Multiset.ofList (WorkerAct.sent more) = Multiset.ofList sent := by
  have same : (workerPass around bag slices worker.jobWaitTimeout w.scheduler s).map Multiset.ofList =
      some (Multiset.ofList sent) := by
    rw [timeouts, scheduled, workerPass_eq_standalonePass perCall, pass, Option.map_some]
  obtain ⟨workerSent, workerPassed, equal⟩ := Option.map_eq_some_iff.mp same
  have flag : around.terminationFlag s = false := perCall.lowered s
  obtain ⟨more, after, continued, ended, answers⟩ :=
    workerPass_run perCall.latched workerRun submitting fresh (flag.trans unsignalled.symm) workerPassed
  obtain ⟨moreDaemonActs, daemonAfter, daemonContinued, daemonEnded, daemonAnswers⟩ :=
    standalonePass_run perCall.latched daemonRun executing rfl (flag.trans untold.symm) pass
  refine ⟨more, after, moreDaemonActs, daemonAfter, continued, ended, daemonContinued, daemonEnded, daemonAnswers, ?_⟩
  rw [answers]
  exact equal

end Qrmci
