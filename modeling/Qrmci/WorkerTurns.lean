import Qrmci.Runners.Advance
import Qrmci.WorkerTickets

namespace Qrmci

variable {S : Type}

/-- A worker has at most one task in hand: it waits in the scheduler only while the turn submits, it
is in the batch only until the turn has collected, and between two turns there is none. -/
structure Holding (bag : Bag S Ticket) (s : WorkerState S) (waiting : List Ticket) : Prop where
  content : bag.content s.scheduler = (waiting : Multiset Ticket)
  few : waiting.length + s.batch.length ≤ 1
  scheduled : s.phase ≠ .submitting → waiting = []
  batched : s.phase ≠ .submitting → s.phase ≠ .collecting → s.batch = []

/-- What is in the scheduler and in the batch. -/
def WorkerState.hand (s : WorkerState S) (waiting : List Ticket) : List Ticket := waiting ++ s.batch.map Prod.fst

/-- What a step can do to the one task in hand: keep it, take one and schedule or refuse it, answer
it, or give it up on a shutdown. -/
inductive HandStep (act : WorkerAct) (raised : Bool) : List Ticket → List Ticket → Prop
  | kept {hand} : act.consumed = none → act.reply = none → HandStep act raised hand hand
  | scheduled {ticket : Ticket} {prepared : QuantumTask} : act.consumed = some ticket → act.reply = none →
      prepared.SameRequest ticket.task → HandStep act raised [] [⟨ticket.number, prepared⟩]
  | refused {ticket : Ticket} {send} : act.consumed = some ticket → act.reply = some (ticket.number, send) →
      send.Answers ticket.task → HandStep act raised [] []
  | answered {ticket : Ticket} {send} : act.consumed = none → act.reply = some (ticket.number, send) →
      send.Answers ticket.task → HandStep act raised [ticket] []
  | givenUp {ticket : Ticket} : act.consumed = none → act.reply = none → raised = true →
      HandStep act raised [ticket] []

variable {bag : Bag S Ticket} {settings : WorkerSettings} {act : WorkerAct} {s t : WorkerState S}
  {waiting : List Ticket}

theorem Holding.initial (settings : WorkerSettings) (bag : Bag S Ticket) (clock : Time) :
    Holding bag (.initial settings bag clock) [] where
  content := bag.content_empty
  few := Nat.zero_le 1
  scheduled _ := rfl
  batched _ _ := rfl

theorem Holding.card (holding : Holding bag s waiting) :
    (s.hand waiting).length = (bag.content s.scheduler).card + s.batch.length := by
  rw [WorkerState.hand, List.length_append, List.length_map, holding.content, Multiset.coe_card]

/-- A step that leaves the tickets alone may move on to a phase that allows for them. -/
theorem Holding.kept (holding : Holding bag s waiting) (scheduler : t.scheduler = s.scheduler) (batch : t.batch = s.batch)
    (scheduled : t.phase ≠ .submitting → waiting = [])
    (batched : t.phase ≠ .submitting → t.phase ≠ .collecting → s.batch = [])
    (consumed : act.consumed = none) (reply : act.reply = none) :
    ∃ left, Holding bag t left ∧ HandStep act t.terminationRequested (s.hand waiting) (t.hand left) := by
  refine ⟨waiting, ⟨?_, ?_, scheduled, ?_⟩, ?_⟩
  · rw [scheduler, holding.content]
  · rw [batch]
    exact holding.few
  · rw [batch]
    exact batched
  · simp only [WorkerState.hand, batch]
    exact .kept consumed reply

/-- What is taken from the scheduler is the one task that waits there, and nothing is in the batch. -/
theorem Holding.take (holding : Holding bag s waiting) {ticket : Ticket} {rest : S}
    (take : bag.take s.scheduler = some (ticket, rest)) :
    waiting = [ticket] ∧ s.batch = [] ∧ bag.content rest = (([] : List Ticket) : Multiset Ticket) := by
  have content := holding.content
  have few := holding.few
  rw [bag.content_take _ _ _ take] at content
  have total := congrArg Multiset.card content
  rw [Multiset.card_cons, Multiset.coe_card] at total
  have empty : bag.content rest = 0 := Multiset.card_eq_zero.mp (by omega)
  rw [empty] at content
  exact ⟨Multiset.coe_eq_singleton.mp content.symm, List.eq_nil_of_length_eq_zero (by omega), empty⟩

/-- A turn that receives a task has none in hand: it is scheduled, or refused at once. -/
theorem Holding.received (holding : Holding bag s waiting) (phase : s.phase = .receiving) (ticket : Ticket)
    (compiler : MQSSCompiler) :
    ∃ left, Holding bag (s.received bag ticket compiler) left ∧
      HandStep (.receive ticket (settleIntake (s.intake bag ticket compiler))) s.terminationRequested (s.hand waiting)
        ((s.received bag ticket compiler).hand left) := by
  have none : waiting = [] := holding.scheduled (by rw [phase]; decide)
  have empty : s.batch = [] := holding.batched (by rw [phase]; decide) (by rw [phase]; decide)
  have content := holding.content
  subst none
  have before : s.hand [] = [] := by simp [WorkerState.hand, empty]
  generalize ran : s.intake bag ticket compiler = run
  obtain ⟨same, _, ⟨done, scheduled, _⟩ | ⟨error, failed, _, kept⟩⟩ := compileAndSchedule_cases run ran
  · have after : (s.received bag ticket compiler).scheduler = bag.put ⟨ticket.number, run.task⟩ s.scheduler := by
      simp only [WorkerState.received, ran, scheduled]
    have hand : (s.received bag ticket compiler).hand [⟨ticket.number, run.task⟩] = [⟨ticket.number, run.task⟩] := by
      simp [WorkerState.hand, WorkerState.received, empty]
    refine ⟨[⟨ticket.number, run.task⟩], ⟨?_, ?_, ?_, ?_⟩, ?_⟩
    · rw [after, bag.content_put, content]
      rfl
    · simp [WorkerState.received, empty]
    · intro other
      exact absurd rfl other
    · intro other
      exact absurd rfl other
    · rw [before, hand, settleIntake, done]
      exact .scheduled rfl rfl same
  · have after : (s.received bag ticket compiler).scheduler = s.scheduler := by
      simp only [WorkerState.received, ran, kept]
    have hand : (s.received bag ticket compiler).hand [] = [] := by
      simp [WorkerState.hand, WorkerState.received, empty]
    refine ⟨[], ⟨?_, ?_, fun _ => rfl, fun _ _ => empty⟩, ?_⟩
    · rw [after, content]
    · simp [WorkerState.received, empty]
    · rw [before, hand, settleIntake, failed]
      exact .refused rfl rfl ((sendFailure_answers run.task error).transfer same)

/-- The one task that waits is submitted, refused, or given up on a shutdown. -/
theorem Holding.submitted (holding : Holding bag s waiting) (phase : s.phase = .submitting) {ticket : Ticket} {rest : S}
    (take : bag.take s.scheduler = some (ticket, rest)) (raised : Bool) (outcome : Except Error (List Job))
    (shutdown : ∀ error, outcome = .error error → error.kind = .shutdownRequested → raised = true) :
    Holding bag (s.submitted ticket rest raised outcome) [] ∧
      HandStep (.submit ticket (settleSubmission ticket.task outcome) raised) raised (s.hand waiting)
        ((s.submitted ticket rest raised outcome).hand []) := by
  obtain ⟨one, empty, left⟩ := holding.take take
  subst one
  have before : s.hand [ticket] = [ticket] := by simp [WorkerState.hand, empty]
  rw [before]
  cases outcome with
  | ok jobs =>
    refine ⟨⟨left, ?_, fun _ => rfl, ?_⟩, ?_⟩
    · simp [WorkerState.submitted, empty]
    · intro other
      exact absurd phase other
    · simp only [WorkerState.hand, WorkerState.submitted, empty, settleSubmission]
      exact .kept rfl rfl
  | error error =>
    by_cases stopped : error.kind = .shutdownRequested
    · simp only [WorkerState.submitted, WorkerState.hand, settleSubmission, if_pos stopped, empty]
      refine ⟨⟨left, Nat.zero_le 1, fun _ => rfl, fun _ _ => rfl⟩, ?_⟩
      exact .givenUp rfl rfl (shutdown error rfl stopped)
    · simp only [WorkerState.submitted, WorkerState.hand, settleSubmission, if_neg stopped, empty]
      refine ⟨⟨left, Nat.zero_le 1, fun _ => rfl, fun _ _ => rfl⟩, ?_⟩
      exact .answered rfl rfl (sendFailure_answers ticket.task error)

/-- The one task in the batch is answered, or given up on a shutdown. -/
theorem Holding.collected (holding : Holding bag s waiting) (phase : s.phase = .collecting) {ticket : Ticket}
    {jobs : List Job} {rest : List (Ticket × List Job)} (listed : s.batch = (ticket, jobs) :: rest) (raised : Bool)
    (outcome : Except Error QuantumResult)
    (labelled : ∀ result, outcome = .ok result → result.taskId = ticket.task.taskId)
    (shutdown : ∀ error, outcome = .error error → error.kind = .shutdownRequested → raised = true) :
    Holding bag (s.collected rest raised outcome) [] ∧
      HandStep (.collect ticket (settleExecution ticket.task outcome) raised) raised (s.hand waiting)
        ((s.collected rest raised outcome).hand []) := by
  have none : waiting = [] := holding.scheduled (by rw [phase]; decide)
  have few := holding.few
  rw [listed, List.length_cons] at few
  have last : rest = [] := List.eq_nil_of_length_eq_zero (by omega)
  subst none last
  have before : s.hand [] = [ticket] := by simp [WorkerState.hand, listed]
  rw [before]
  have content := holding.content
  cases outcome with
  | ok result =>
    refine ⟨⟨content, Nat.zero_le 1, fun _ => rfl, fun _ _ => rfl⟩, ?_⟩
    exact .answered rfl rfl ⟨rfl, labelled result rfl⟩
  | error error =>
    by_cases stopped : error.kind = .shutdownRequested
    · simp only [WorkerState.collected, settleExecution, if_pos stopped]
      refine ⟨⟨content, Nat.zero_le 1, fun _ => rfl, fun _ _ => rfl⟩, ?_⟩
      exact .givenUp rfl rfl (shutdown error rfl stopped)
    · simp only [WorkerState.collected, settleExecution, if_neg stopped]
      refine ⟨⟨content, Nat.zero_le 1, fun _ => rfl, fun _ _ => rfl⟩, ?_⟩
      exact .answered rfl rfl (sendFailure_answers ticket.task error)

theorem WorkerState.submitted_flag (s : WorkerState S) (ticket : Ticket) (rest : S) (raised : Bool)
    (outcome : Except Error (List Job)) : (s.submitted ticket rest raised outcome).terminationRequested = raised := by
  unfold WorkerState.submitted
  split
  · rfl
  · split <;> rfl

theorem WorkerState.collected_flag (s : WorkerState S) (rest : List (Ticket × List Job)) (raised : Bool)
    (outcome : Except Error QuantumResult) : (s.collected rest raised outcome).terminationRequested = raised := by
  unfold WorkerState.collected
  split
  · rfl
  · split <;> rfl

/-- Every step keeps at most one task in hand. -/
theorem Holding.step (holding : Holding bag s waiting) (step : WorkerStep settings bag s act t) :
    ∃ left, Holding bag t left ∧ HandStep act t.terminationRequested (s.hand waiting) (t.hand left) := by
  -- Outside the two loops of a turn nothing is in hand.
  have idle (one : s.phase ≠ .submitting) (other : s.phase ≠ .collecting) : waiting = [] ∧ s.batch = [] :=
    ⟨holding.scheduled one, holding.batched one other⟩
  cases step with
  | signal => exact holding.kept rfl rfl holding.scheduled holding.batched rfl rfl
  | pass now => exact holding.kept rfl rfl holding.scheduled holding.batched rfl rfl
  | register device phase =>
    obtain ⟨none, empty⟩ := idle (by rw [phase]; decide) (by rw [phase]; decide)
    exact holding.kept rfl rfl (fun _ => none) (fun _ _ => empty) rfl rfl
  | registerFailed device phase =>
    obtain ⟨none, empty⟩ := idle (by rw [phase]; decide) (by rw [phase]; decide)
    exact holding.kept rfl rfl (fun _ => none) (fun _ _ => empty) rfl rfl
  | turnHead head phase =>
    obtain ⟨none, empty⟩ := idle (by rw [phase]; decide) (by rw [phase]; decide)
    exact holding.kept rfl rfl (fun _ => none) (fun _ _ => empty) rfl rfl
  | exit phase =>
    obtain ⟨none, empty⟩ := idle (by rw [phase]; decide) (by rw [phase]; decide)
    exact holding.kept rfl rfl (fun _ => none) (fun _ _ => empty) rfl rfl
  | receiveNothing phase =>
    obtain ⟨none, empty⟩ := idle (by rw [phase]; decide) (by rw [phase]; decide)
    exact holding.kept rfl rfl (fun _ => none) (fun _ _ => empty) rfl rfl
  | receive ticket compiler phase => exact holding.received phase ticket compiler
  | submit around before after ticket rest outcome phase take latched flag run =>
    rw [s.submitted_flag]
    refine ⟨[], holding.submitted phase take (around.terminationFlag after) outcome ?_⟩
    intro error failed stopped
    subst failed
    exact submitQuantumTask_shutdown latched run stopped
  | submitted phase take =>
    have none : waiting = [] := by
      have content := holding.content
      rw [bag.take_none _ take] at content
      exact (Multiset.coe_eq_zero waiting).mp content.symm
    exact holding.kept rfl rfl (fun _ => none) (fun _ other => absurd rfl other) rfl rfl
  | collect around slices before after ticket jobs rest outcome phase listed latched flag run =>
    rw [s.collected_flag]
    refine ⟨[], holding.collected phase listed (around.terminationFlag after) outcome ?_ ?_⟩
    · intro result done
      subst done
      exact (collectQuantumResult_ok run).1
    · intro error failed stopped
      subst failed
      exact collectQuantumResult_shutdown run stopped
  | turnEnd phase empty =>
    have none := holding.scheduled (by rw [phase]; decide)
    exact holding.kept rfl rfl (fun _ => none) (fun _ _ => empty) rfl rfl

/-- A worker that has been asked to stop takes no task any more. -/
theorem WorkerStep.staysUp (step : WorkerStep settings bag s act t) (raised : s.terminationRequested = true) :
    t.terminationRequested = true ∧ act.consumed = none := by
  have lowered {P : Prop} (down : s.terminationRequested = false) : P := by
    rw [raised] at down
    cases down
  cases step with
  | signal => exact ⟨rfl, rfl⟩
  | turnHead _ _ down => exact lowered down
  | receive _ _ _ down => exact lowered down
  | submit around before after ticket rest outcome phase take latched flag run =>
    have up := submitQuantumTask_advances latched.staysUp ticket.task before (flag.trans raised)
    rw [run] at up
    exact ⟨(s.submitted_flag ..).trans up, rfl⟩
  | collect around slices before after ticket jobs rest outcome phase listed latched flag run =>
    have up : around.terminationFlag after = true :=
      collectQuantumResult_advances latched.staysUp run (flag.trans raised)
    exact ⟨(s.collected_flag ..).trans up, rfl⟩
  | _ => exact ⟨raised, rfl⟩

/-- The result answers the received task, under its number. -/
def AnswersTicket (reply : Nat × ResultSend) (ticket : Ticket) : Prop :=
  reply.1 = ticket.number ∧ reply.2.Answers ticket.task

/-- The ticket in hand stands for the one received. -/
def StandsFor (inHand received : Ticket) : Prop :=
  inHand.number = received.number ∧ inHand.task.SameRequest received.task

/-- The tasks taken so far, latest first, are those answered, in the same order, and before them the
one in hand or the one given up on a shutdown. -/
structure Answering (bag : Bag S Ticket) (acts : List WorkerAct) (s : WorkerState S)
    (waiting held answered : List Ticket) : Prop where
  holding : Holding bag s waiting
  taken : acts.filterMap WorkerAct.consumed = held ++ answered
  replies : List.Forall₂ AnswersTicket (acts.filterMap WorkerAct.reply) answered
  unanswered : List.Forall₂ StandsFor (s.hand waiting) held ∨
    s.terminationRequested = true ∧ s.hand waiting = [] ∧ held.length = 1

variable {acts : List WorkerAct}

theorem Answering.step {held answered : List Ticket} (answering : Answering bag acts s waiting held answered)
    (step : WorkerStep settings bag s act t) :
    ∃ left held answered, Answering bag (act :: acts) t left held answered := by
  obtain ⟨left, holding, moved⟩ := answering.holding.step step
  have taken := answering.taken
  have replies := answering.replies
  -- A task is only taken while the flag is down, so nothing has been given up then.
  have free (ticket : Ticket) (consumed : act.consumed = some ticket) (empty : s.hand waiting = []) : held = [] := by
    rcases answering.unanswered with stands | ⟨raised, _⟩
    · rw [empty] at stands
      exact List.forall₂_nil_left_iff.mp stands
    · rw [(step.staysUp raised).2] at consumed
      cases consumed
  generalize before : s.hand waiting = hand at moved
  generalize after : t.hand left = hand' at moved
  cases moved with
  | kept consumed reply =>
    refine ⟨left, held, answered, holding, ?_, ?_, ?_⟩
    · rw [List.filterMap_cons_none consumed, taken]
    · rw [List.filterMap_cons_none reply]
      exact replies
    · rw [after, ← before]
      rcases answering.unanswered with stands | ⟨raised, empty, one⟩
      · exact Or.inl stands
      · exact Or.inr ⟨(step.staysUp raised).1, empty, one⟩
  | @scheduled ticket prepared consumed reply same =>
    have none := free ticket consumed before
    subst none
    refine ⟨left, [ticket], answered, holding, ?_, ?_, Or.inl ?_⟩
    · rw [List.filterMap_cons_some consumed, taken]
      rfl
    · rw [List.filterMap_cons_none reply]
      exact replies
    · rw [after]
      exact .cons ⟨rfl, same⟩ .nil
  | @refused ticket send consumed reply answers =>
    have none := free ticket consumed before
    subst none
    refine ⟨left, [], ticket :: answered, holding, ?_, ?_, Or.inl ?_⟩
    · rw [List.filterMap_cons_some consumed, taken]
      rfl
    · rw [List.filterMap_cons_some reply]
      exact .cons ⟨rfl, answers⟩ replies
    · rw [after]
      exact .nil
  | @answered ticket send consumed reply answers =>
    rcases answering.unanswered with stands | ⟨_, empty, _⟩
    · rw [before] at stands
      obtain ⟨received, none, ⟨number, same⟩, nothing, listed⟩ := List.forall₂_cons_left_iff.mp stands
      cases List.forall₂_nil_left_iff.mp nothing
      refine ⟨left, [], received :: answered, holding, ?_, ?_, Or.inl ?_⟩
      · rw [List.filterMap_cons_none consumed, taken, listed]
        rfl
      · rw [List.filterMap_cons_some reply]
        exact .cons ⟨number, answers.transfer same⟩ replies
      · rw [after]
        exact .nil
    · rw [before] at empty
      cases empty
  | @givenUp ticket consumed reply raised =>
    rcases answering.unanswered with stands | ⟨_, empty, _⟩
    · rw [before] at stands
      refine ⟨left, held, answered, holding, ?_, ?_, Or.inr ⟨raised, after, stands.length_eq.symm⟩⟩
      · rw [List.filterMap_cons_none consumed, taken]
      · rw [List.filterMap_cons_none reply]
        exact replies
    · rw [before] at empty
      cases empty

theorem WorkerRun.answering (run : WorkerRun settings bag acts s) :
    ∃ waiting held answered, Answering bag acts s waiting held answered := by
  induction run with
  | start first =>
    obtain ⟨clock, rfl⟩ := first
    exact ⟨[], [], [], .initial settings bag clock, rfl, .nil, Or.inl .nil⟩
  | next _ step ih =>
    obtain ⟨waiting, held, answered, answering⟩ := ih
    exact answering.step step

/-- While no shutdown is requested, just what is in hand is unanswered. -/
theorem Answering.held_length {held answered : List Ticket} (answering : Answering bag acts s waiting held answered)
    (lowered : s.terminationRequested = false) : held.length = (bag.content s.scheduler).card + s.batch.length := by
  rcases answering.unanswered with stands | ⟨raised, _⟩
  · rw [← stands.length_eq, answering.holding.card]
  · rw [raised] at lowered
    cases lowered

theorem Holding.inHand_le (holding : Holding bag s waiting) : (bag.content s.scheduler).card + s.batch.length ≤ 1 := by
  have total := holding.few
  rw [holding.content, Multiset.coe_card]
  exact total

theorem Answering.held_le {held answered : List Ticket} (answering : Answering bag acts s waiting held answered) :
    held.length ≤ 1 := by
  rcases answering.unanswered with stands | ⟨_, _, one⟩
  · rw [← stands.length_eq, answering.holding.card]
    exact answering.holding.inHand_le
  · exact one.le

/-- Between two turns nothing is in hand. -/
theorem Holding.atHead (holding : Holding bag s waiting) (phase : s.phase = .turnHead) :
    bag.content s.scheduler = 0 ∧ s.batch = [] := by
  have content := holding.content
  rw [holding.scheduled (by rw [phase]; decide)] at content
  exact ⟨content, holding.batched (by rw [phase]; decide) (by rw [phase]; decide)⟩

/-- A worker deals with one task at a time: it never holds two, and between two turns it holds none.
The results it sends answer the tasks it has taken one by one, in the order it took them; the only
one without an answer is the one in hand, or the one that a shutdown has made it give up. -/
theorem worker_answers_one_by_one (run : WorkerRun settings bag acts s) :
    (bag.content s.scheduler).card + s.batch.length ≤ 1 ∧
      (s.phase = .turnHead → bag.content s.scheduler = 0 ∧ s.batch = []) ∧
      ∃ held answered, acts.filterMap WorkerAct.consumed = held ++ answered ∧
        List.Forall₂ (fun reply ticket => reply.1 = ticket.number ∧ reply.2.Answers ticket.task)
          (acts.filterMap WorkerAct.reply) answered ∧
        held.length ≤ 1 ∧
        (s.terminationRequested = false → held.length = (bag.content s.scheduler).card + s.batch.length) := by
  obtain ⟨waiting, held, answered, answering⟩ := run.answering
  exact ⟨answering.holding.inHand_le, answering.holding.atHead, held, answered, answering.taken, answering.replies,
    answering.held_le, answering.held_length⟩

/-- A worker that has taken its first task and scheduled it has one task to answer. -/
theorem worker_answers_one_by_one_alpha :
    ∃ acts s, WorkerRun .alpha (Bag.fifo Ticket) acts s ∧
      ∃ held answered : List Ticket, acts.filterMap WorkerAct.consumed = held ++ answered ∧ held.length = 1 := by
  have start : WorkerRun .alpha (Bag.fifo Ticket) [] (.initial .alpha (Bag.fifo Ticket) 0) := .start ⟨0, rfl⟩
  have run := start
    |>.next (.register .idle rfl (by decide +kernel))
    |>.next (.turnHead ⟨.idle, 0, 0, 0⟩ rfl rfl ⟨by decide, by decide, by decide⟩)
    |>.next (.receive ⟨7, { QuantumTask.quake with scheduledQpu := "alpha" }⟩ .echo rfl rfl)
  obtain ⟨_, _, held, answered, taken, _, _, length⟩ := worker_answers_one_by_one run
  exact ⟨_, _, run, held, answered, taken, (length rfl).trans (by decide +kernel)⟩

end Qrmci
