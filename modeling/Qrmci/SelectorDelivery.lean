import Qrmci.Selector

namespace Qrmci

/-- The task that a step of the selector consumes, and whether its one send reaches the broker. -/
def SelectorAct.consumed : SelectorAct → Option (Nat × Bool)
  | .task ticket delivered => some (ticket.number, delivered)
  | _ => none

/-- The task is on the chosen backend's dispatch queue, or its submitter has been written to. -/
def Attempt.PlacedOrTold (attempt : Attempt) (task : QuantumTask) : Prop :=
  (∃ queue forwarded, attempt.dispatch = .forward queue forwarded ∧ attempt.delivered = true) ∨
    ∃ failure, attempt.dispatch = .refuse failure ∧ failure.queue = task.resultDestination

variable {settings : SelectorSettings} {acts later earlier : List SelectorAct} {s : SelectorState} {ticket : Ticket}
  {delivered : Bool}

/-- A step makes one attempt if it consumes a task, and none otherwise. -/
theorem SelectorStep.attempts {act : SelectorAct} {t : SelectorState} (step : SelectorStep settings s act t) :
    t.attempts = s.attempts ∨ ∃ attempt, t.attempts = attempt :: s.attempts := by
  cases step with
  | task ticket delivered => exact Or.inr ⟨_, rfl⟩
  | _ => exact Or.inl rfl

theorem SelectorRun.attempts_consumed (run : SelectorRun settings acts s) :
    s.attempts.map (fun attempt => (attempt.ticket, attempt.delivered)) = acts.filterMap SelectorAct.consumed := by
  induction run with
  | start first =>
    obtain ⟨clock, rfl⟩ := first
    rfl
  | next _ step ih =>
    cases step with
    | task ticket delivered =>
      rw [List.map_cons, ih]
      rfl
    | _ => exact ih

/-- What was attempted for a consumed task stays on record, on top of the attempts of the state it
was decided in. -/
theorem SelectorRun.attempted (run : SelectorRun settings (later ++ .task ticket delivered :: earlier) s) :
    ∃ before newer, SelectorRun settings earlier before ∧
      s.attempts = newer ++
        ⟨ticket.number, handleTask settings before.availableBackends ticket.task, delivered⟩ :: before.attempts := by
  induction later generalizing s with
  | nil =>
    rcases run with _ | ⟨previous, step⟩
    cases step
    exact ⟨_, [], previous, rfl⟩
  | cons act later ih =>
    rcases run with _ | ⟨previous, step⟩
    obtain ⟨before, newer, reached, recorded⟩ := ih previous
    rcases step.attempts with same | ⟨attempt, grown⟩
    · exact ⟨before, newer, reached, by rw [same, recorded]⟩
    · exact ⟨before, attempt :: newer, reached, by rw [grown, recorded, List.cons_append]⟩

/-- A forward that the broker refuses: the task is nowhere, and nothing is sent to its submitter. -/
theorem selector_forward_lost :
    ¬ ∀ (settings : SelectorSettings) (acts : List SelectorAct) (s : SelectorState), SelectorRun settings acts s →
      ∀ ticket delivered, .task ticket delivered ∈ acts →
        ∃ attempt ∈ s.attempts, attempt.ticket = ticket.number ∧ attempt.PlacedOrTold ticket.task := by
  intro always
  have start : SelectorRun .plain [] (.initial .plain 0) := .start ⟨0, rfl⟩
  have run := start
    |>.next (.enter rfl rfl)
    |>.next (.status .alpha rfl rfl)
    |>.next (.expire rfl)
    |>.next (.task ⟨0, .quake⟩ false rfl rfl)
  obtain ⟨attempt, listed, _, settled⟩ := always _ _ _ run ⟨0, .quake⟩ false (List.mem_cons_self ..)
  rw [List.mem_singleton.mp listed] at settled
  rcases settled with ⟨_, _, _, sent⟩ | ⟨failure, refused, _⟩
  · cases sent
  · have forwards : handleTask .plain ((handleStatus SelectorSettings.plain.build (.new 10000000000) .alpha 0).2.expire 0).2
        .quake = .forward "compiler.alpha" { QuantumTask.quake with scheduledQpu := "alpha" } := by decide +kernel
    have impossible := forwards.symm.trans refused
    cases impossible

/-- The selector makes exactly one send for every task it consumes: the task itself, assigned, to
the queue of the backend chosen for it, or a cancellation to the task's own destination. Only a
forward that the broker refuses leaves the task neither placed nor its submitter told. -/
theorem selector_attempts_once (run : SelectorRun settings (later ++ .task ticket delivered :: earlier) s) :
    s.attempts.map (fun attempt => (attempt.ticket, attempt.delivered)) =
      (later ++ .task ticket delivered :: earlier).filterMap SelectorAct.consumed ∧
    ∃ before attempt newer, SelectorRun settings earlier before ∧ s.attempts = newer ++ attempt :: before.attempts ∧
      attempt.ticket = ticket.number ∧ attempt.delivered = delivered ∧
      ((∃ error, chooseBackend settings.inputFormats ticket.task before.availableBackends settings.selectionPolicy =
            .error error ∧
          attempt.dispatch =
            .refuse ⟨ticket.task.resultDestination, cancelQuantumTask ticket.task error.detail⟩) ∨
        ∃ backend, before.availableBackends.find backend.name = some backend ∧
          chooseBackend settings.inputFormats ticket.task before.availableBackends settings.selectionPolicy =
            .ok backend.name ∧
          attempt.dispatch = .forward backend.queueName { ticket.task with scheduledQpu := backend.name }) ∧
      (attempt.PlacedOrTold ticket.task ↔ delivered = true ∨
        ∃ error, chooseBackend settings.inputFormats ticket.task before.availableBackends settings.selectionPolicy =
          .error error) := by
  refine ⟨run.attempts_consumed, ?_⟩
  obtain ⟨before, newer, reached, recorded⟩ := run.attempted
  refine ⟨before, _, newer, reached, recorded, rfl, rfl, ?_, ?_⟩
  · rcases handleTask_cases settings before.availableBackends ticket.task with
      ⟨error, failed, refused⟩ | ⟨backend, located, _, chosen, forwards⟩
    · exact Or.inl ⟨error, failed, refused⟩
    · exact Or.inr ⟨backend, located, chosen, forwards⟩
  · rcases handleTask_cases settings before.availableBackends ticket.task with
      ⟨error, failed, refused⟩ | ⟨backend, located, _, chosen, forwards⟩
    · have told : Attempt.PlacedOrTold
          ⟨ticket.number, handleTask settings before.availableBackends ticket.task, delivered⟩ ticket.task :=
        Or.inr ⟨_, refused, rfl⟩
      exact ⟨fun _ => Or.inr ⟨error, failed⟩, fun _ => told⟩
    · constructor
      · rintro (⟨_, _, _, sent⟩ | ⟨failure, refused, _⟩)
        · exact Or.inl sent
        · cases forwards.symm.trans refused
      · rintro (sent | ⟨error, failed⟩)
        · exact Or.inl ⟨_, _, forwards, sent⟩
        · cases chosen.symm.trans failed

/-- A task that no backend is there for is answered with a cancellation, and one that comes after `alpha` has
published its status is forwarded to it. -/
theorem selector_attempts_once_alpha :
    ∃ s, SelectorRun .plain [.task ⟨1, .quake⟩ true, .expire, .status .alpha, .enter, .rest, .task ⟨0, .quake⟩ true,
        .expire, .enter] s ∧
      s.attempts.map (fun attempt => (attempt.ticket, attempt.delivered)) = [(1, true), (0, true)] ∧
      ∃ attempt ∈ s.attempts, attempt.ticket = 1 ∧ attempt.PlacedOrTold .quake ∧
        attempt.dispatch = .forward "compiler.alpha" { QuantumTask.quake with scheduledQpu := "alpha" } := by
  have start : SelectorRun .plain [] (.initial .plain 0) := .start ⟨0, rfl⟩
  have run := start
    |>.next (.enter rfl rfl)
    |>.next (.expire rfl)
    |>.next (.task ⟨0, .quake⟩ true rfl rfl)
    |>.next (.rest rfl)
    |>.next (.enter rfl rfl)
    |>.next (.status .alpha rfl rfl)
    |>.next (.expire rfl)
    |>.next (.task ⟨1, .quake⟩ true rfl rfl)
  have split : SelectorRun .plain ([] ++ .task ⟨1, .quake⟩ true :: [.expire, .status .alpha, .enter, .rest,
      .task ⟨0, .quake⟩ true, .expire, .enter]) _ := run
  obtain ⟨sends, before, attempt, newer, _, recorded, numbered, _, _, placed⟩ := selector_attempts_once split
  refine ⟨_, run, sends, attempt, by rw [recorded]; simp, numbered, placed.mpr (Or.inl rfl), ?_⟩
  have member : attempt ∈ newer ++ attempt :: before.attempts := by simp
  rw [← recorded] at member
  rcases List.mem_cons.mp member with latest | older
  · rw [latest]
    decide +kernel
  · rw [List.mem_singleton.mp older] at numbered
    cases numbered

end Qrmci
