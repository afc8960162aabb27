import Qrmci.StandaloneLedger

namespace Qrmci

variable {S : Type} {settings : StandaloneSettings} {bag : Bag S Ticket} {acts : List StandaloneAct}
  {act : StandaloneAct} {s t : StandaloneState S}

theorem StandaloneState.received_ledger (settings : StandaloneSettings) (bag : Bag S Ticket)
    (s : StandaloneState S) (task : QuantumTask) (compiler : MQSSCompiler) :
    LedgerStep bag s.ledger (s.received settings bag task compiler).ledger := by
  generalize ran : selectCompileAndSchedule (fun task => bag.put ⟨s.history.consumed.length, task⟩) task
    s.availableBackends compiler s.scheduler settings.selectionPolicy = run
  obtain ⟨same, ⟨done, scheduled⟩ | ⟨error, failed, kind, kept⟩⟩ := selectCompileAndSchedule_cases run ran
  · have after : (s.received settings bag task compiler).ledger = { s.ledger with
        scheduler := bag.put ⟨s.ledger.consumed.length, run.task⟩ s.ledger.scheduler
        consumed := s.ledger.consumed ++ [task] } := by
      simp only [StandaloneState.received, StandaloneState.ledger, ran, done, scheduled]
    rw [after]
    exact .scheduled same
  · have after : (s.received settings bag task compiler).ledger = { s.ledger with
        consumed := s.ledger.consumed ++ [task]
        replies := ⟨s.ledger.consumed.length, sendFailure run.task error, some error⟩ :: s.ledger.replies } := by
      simp only [StandaloneState.received, StandaloneState.ledger, ran, failed, kept]
    rw [after]
    exact .refused ((sendFailure_answers run.task error).transfer same) rfl kind

/-- Every step of the daemon is a step of the ledger. -/
theorem StandaloneStep.ledger (step : StandaloneStep settings bag s act t) : LedgerStep bag s.ledger t.ledger := by
  cases step with
  | signal => exact .same
  | pass => exact .same
  | register => exact .same
  | registerFailed => exact .same
  | turnHead => exact .same
  | exit => exact .same
  | receive task compiler => exact s.received_ledger settings bag task compiler
  | drained => exact .same
  | @execute σ around slices before after ticket rest outcome phase take latched flag run =>
    cases outcome with
    | ok result =>
      obtain ⟨taskId, _, _, status⟩ := executeQuantumTask_ok run
      exact .answered take ⟨rfl, taskId⟩ status nofun
    | error error =>
      by_cases shutdown : error.kind = .shutdownRequested
      · simp only [StandaloneState.settled, if_pos shutdown]
        exact .abandoned take
      · simp only [StandaloneState.settled, if_neg shutdown]
        refine .answered take (sendFailure_answers ticket.task error) rfl ?_
        rintro _ ⟨⟩
        exact shutdown
  | executed => exact .same
  | nextTurn => exact .same

theorem StandaloneRun.ledgerOk (run : StandaloneRun settings bag acts s) : LedgerOk bag s.ledger := by
  refine Trace.invariant (fun s => LedgerOk bag s.ledger) ?_ ?_ run
  · rintro _ ⟨clock, rfl⟩
    exact LedgerOk.start bag
  · intro s act t step ok
    exact ok.step step.ledger

/-- How a shutdown shows: a turn that ends without having read a raised flag has emptied the
scheduler, and after a task was abandoned the loop can only leave. -/
structure ShutdownOk (bag : Bag S Ticket) (s : StandaloneState S) : Prop where
  clean : s.phase = .turnEnd → s.history.sawTermination = false → bag.content s.scheduler = 0
  abandoned : s.history.abandoned ≠ [] → s.terminationRequested = true ∧
    ((s.phase = .turnEnd ∧ s.history.sawTermination = true) ∨ s.phase = .turnHead ∨ s.phase = .stopped)
  single : s.history.abandoned.length ≤ 1

/-- Where the loop still works, nothing has been abandoned yet. -/
theorem ShutdownOk.none_abandoned (ok : ShutdownOk bag s)
    (working : s.phase ≠ .turnEnd ∧ s.phase ≠ .turnHead ∧ s.phase ≠ .stopped) : s.history.abandoned = [] := by
  by_contra some
  rcases (ok.abandoned some).2 with ⟨atEnd, _⟩ | atHead | atStop
  · exact working.1 atEnd
  · exact working.2.1 atHead
  · exact working.2.2 atStop

/-- A step into a phase where the loop works, from a state without abandoned tasks. -/
theorem ShutdownOk.of_none (phase : t.phase ≠ .turnEnd) (none : t.history.abandoned = []) : ShutdownOk bag t where
  clean atEnd := absurd atEnd phase
  abandoned some := absurd none some
  single := by rw [none]; exact Nat.zero_le 1

theorem ShutdownOk.settled (ok : ShutdownOk bag s) {ticket : Ticket} {rest : S} {raised : Bool}
    {outcome : Except Error QuantumResult} (phase : s.phase = .executing)
    (latched : ∀ error, outcome = .error error → error.kind = .shutdownRequested → raised = true) :
    ShutdownOk bag (s.settled ticket rest raised outcome) := by
  have none := ok.none_abandoned (by rw [phase]; decide)
  have working : s.phase ≠ .turnEnd := by rw [phase]; decide
  cases outcome with
  | ok result => exact .of_none working none
  | error error =>
    by_cases shutdown : error.kind = .shutdownRequested
    · have up := latched error rfl shutdown
      simp only [StandaloneState.settled, if_pos shutdown]
      refine ⟨?_, ?_, ?_⟩
      · intro _ unseen
        cases unseen
      · intro _
        exact ⟨up, Or.inl ⟨rfl, rfl⟩⟩
      · simp [none]
    · simp only [StandaloneState.settled, if_neg shutdown]
      exact .of_none working none

theorem ShutdownOk.step (ok : ShutdownOk bag s) (step : StandaloneStep settings bag s act t) : ShutdownOk bag t := by
  cases step with
  | signal => exact ⟨ok.clean, fun some => ⟨rfl, (ok.abandoned some).2⟩, ok.single⟩
  | pass => exact ⟨ok.clean, ok.abandoned, ok.single⟩
  | register device phase => exact .of_none nofun (ok.none_abandoned (by rw [phase]; decide))
  | registerFailed device phase => exact .of_none nofun (ok.none_abandoned (by rw [phase]; decide))
  | turnHead head phase lowered =>
    refine .of_none nofun ?_
    by_contra some
    have raised := (ok.abandoned some).1
    rw [lowered] at raised
    cases raised
  | exit phase raised => exact ⟨nofun, fun _ => ⟨raised, Or.inr (Or.inr rfl)⟩, ok.single⟩
  | receive task compiler phase =>
    refine .of_none ?_ (ok.none_abandoned (by rw [phase]; decide))
    change s.phase ≠ .turnEnd
    rw [phase]
    decide
  | drained phase => exact .of_none nofun (ok.none_abandoned (by rw [phase]; decide))
  | @execute σ around slices before after ticket rest outcome phase take latched flag run =>
    refine ok.settled phase ?_
    intro error failed shutdown
    subst failed
    exact executeQuantumTask_shutdown latched run shutdown
  | executed phase take =>
    have none := ok.none_abandoned (by rw [phase]; decide)
    exact ⟨fun _ _ => bag.take_none _ take, fun some => absurd none some, ok.single⟩
  | nextTurn phase =>
    refine ⟨nofun, ?_, ok.single⟩
    intro some
    exact ⟨(ok.abandoned some).1, Or.inr (Or.inl rfl)⟩

theorem StandaloneRun.shutdownOk (run : StandaloneRun settings bag acts s) : ShutdownOk bag s := by
  refine Trace.invariant (ShutdownOk bag) ?_ ?_ run
  · rintro _ ⟨clock, rfl⟩
    exact .of_none nofun rfl
  · intro s act t step ok
    exact ok.step step

/-- A consumed task without a reply is abandoned or still scheduled. -/
theorem LedgerOk.unanswered_iff {l : Ledger S} (ok : LedgerOk bag l) {number : Nat} (live : number < l.consumed.length) :
    number ∉ l.replies.map Reply.ticket ↔
      number ∈ l.abandoned ∨ number ∈ (bag.content l.scheduler).map Ticket.number := by
  obtain ⟨place, single, elsewhere⟩ := ok.placed.placed number live
  have here : number ∈ l.content bag place := Multiset.count_pos.mp (by omega)
  constructor
  · intro unanswered
    cases place with
    | scheduler => exact Or.inr here
    | replied => exact absurd (by simpa [Ledger.content] using here) unanswered
    | abandoned => exact Or.inl (by simpa [Ledger.content] using here)
  · intro left replied
    have answered : number ∈ l.content bag .replied := by simpa [Ledger.content] using replied
    have only := (ok.placed.count_eq_one answered).2
    rcases left with abandoned | scheduled
    · exact only .abandoned (by decide) (by simpa [Ledger.content] using abandoned)
    · exact only .scheduler (by decide) scheduled

/-- Every task the standalone daemon consumes is answered at most once and truthfully; a turn
without a raised flag leaves nothing unanswered; and what is unanswered when the loop has left is
the one task abandoned on shutdown, if any, and what is still scheduled. -/
theorem standalone_answers_once (run : StandaloneRun settings bag acts s) :
    (∀ number, (s.history.replies.map Reply.ticket).count number ≤ 1) ∧
    (∀ reply ∈ s.history.replies, ∃ task, s.history.consumed[reply.ticket]? = some task ∧
      reply.send.queue = task.resultDestination ∧ reply.send.result.taskId = task.taskId ∧
      (reply.send.result.executionStatus = true ↔ (reply.ticket, true) ∈ s.history.executed)) ∧
    (s.phase = .turnEnd → s.history.sawTermination = false → bag.content s.scheduler = 0 ∧
      ∀ number < s.history.consumed.length, (s.history.replies.map Reply.ticket).count number = 1) ∧
    (s.phase = .stopped → s.history.abandoned.length ≤ 1 ∧
      ∀ number < s.history.consumed.length, number ∉ s.history.replies.map Reply.ticket ↔
        number ∈ s.history.abandoned ∨ number ∈ (bag.content s.scheduler).map Ticket.number) ∧
    (∀ reply ∈ s.history.replies, ∀ error, reply.failure = some error → error.kind ≠ .shutdownRequested) := by
  have ledger := run.ledgerOk
  have shutdown := run.shutdownOk
  have atMostOnce (number : Nat) : (s.history.replies.map Reply.ticket).count number ≤ 1 := by
    have once := ledger.placed.count_le_one number .replied
    simpa [Ledger.content, StandaloneState.ledger] using once
  refine ⟨atMostOnce, ?_, ?_, ?_, ledger.failures⟩
  · intro reply listed
    obtain ⟨task, consumed, answers⟩ := ledger.answers reply listed
    exact ⟨task, consumed, answers.queue, answers.taskId, ledger.status reply listed⟩
  · intro atEnd unseen
    have empty := shutdown.clean atEnd unseen
    refine ⟨empty, ?_⟩
    intro number live
    have none : s.history.abandoned = [] := by
      by_contra some
      rcases (shutdown.abandoned some).2 with ⟨_, seen⟩ | atHead | atStop
      · rw [unseen] at seen
        cases seen
      · rw [atEnd] at atHead
        cases atHead
      · rw [atEnd] at atStop
        cases atStop
    have answered : number ∈ s.history.replies.map Reply.ticket := by
      by_contra unanswered
      rcases (ledger.unanswered_iff live).mp unanswered with abandoned | scheduled
      · change number ∈ s.history.abandoned at abandoned
        rw [none] at abandoned
        cases abandoned
      · change number ∈ (bag.content s.scheduler).map Ticket.number at scheduled
        rw [empty] at scheduled
        cases scheduled
    have positive := List.count_pos_iff.mpr answered
    have bound := atMostOnce number
    omega
  · intro _
    exact ⟨shutdown.single, fun number live => ledger.unanswered_iff live⟩

/-- One turn with one quake task: it is scheduled, executed and answered. -/
theorem standalone_answers_quake :
    ∃ s, StandaloneRun .alpha (Bag.fifo Ticket)
        [.executed, .execute ⟨0, { QuantumTask.quake with scheduledQpu := "alpha", circuitFileType := "qirbase" }⟩,
          .drained, .receive .quake, .turnHead ⟨.idle, 1, 1, 1⟩, .register .idle] s ∧
      s.history.consumed = [.quake] ∧ (s.history.replies.map Reply.ticket).count 0 = 1 := by
  have start : StandaloneRun .alpha (Bag.fifo Ticket) [] (.initial .alpha (Bag.fifo Ticket) 0) := .start ⟨0, rfl⟩
  have executed := start
    |>.next (.register .idle rfl (by decide +kernel))
    |>.next (.turnHead ⟨.idle, 1, 1, 1⟩ rfl rfl ⟨by decide, by decide, by decide⟩)
    |>.next (.receive .quake .echo rfl rfl)
    |>.next (.drained rfl)
    |>.next (.execute .calm 1 () () ⟨0, { QuantumTask.quake with scheduledQpu := "alpha", circuitFileType := "qirbase" }⟩ []
      (.ok ⟨7, "results-queue", "alpha", true, "COMPLETED", [[("00", 100)]]⟩) rfl (by decide +kernel)
      Surroundings.calm_latched rfl (by decide +kernel))
    |>.next (.executed rfl rfl)
  refine ⟨_, executed, rfl, ?_⟩
  exact ((standalone_answers_once executed).2.2.1 rfl rfl).2 0 (Nat.zero_lt_one)

end Qrmci
