import Qrmci.Runners.Events
import Qrmci.Runners.Submit

namespace Qrmci

variable {σ : Type}

/-- Each of the jobs is cancelled once and in order, whatever the cancels return. -/
theorem cancelJobs_events (around : Surroundings σ) (jobs : List Job) (s : σ) :
    ∃ answers, answers.length = jobs.length ∧
      around.Plays s (List.zipWith Event.cancel jobs answers) (cancelJobs around jobs s) ∧
      ∀ log, cancelJobs around.recorded jobs (s, log) =
        (cancelJobs around jobs s, log ++ calls (List.zipWith Event.cancel jobs answers)) := by
  induction jobs generalizing s with
  | nil => exact ⟨[], rfl, rfl, fun log => by simp [cancelJobs, calls]⟩
  | cons submitted rest ih =>
    obtain ⟨answers, length, played, record⟩ := ih (around.cancel submitted s).2
    refine ⟨(around.cancel submitted s).1 :: answers, by simp [length], ⟨_, rfl, played⟩, ?_⟩
    intro log
    simp only [cancelJobs, Surroundings.recorded_cancel, record, List.zipWith_cons_cons, calls_cons, Event.isCall,
      if_true, List.append_assoc, List.cons_append, List.nil_append]

/-- What the submission of jobs for the first circuits looks like: before each of them the flag is read
as lowered, and each is taken. -/
def submissions (task : QuantumTask) (format : CircuitFormat) (placement : Placement) (jobs : List Job) : List Event :=
  jobs.zipIdx.flatMap fun numbered =>
    [.flag false, .submitJob (makeJobRequest task numbered.2 format) placement (.ok numbered.1)]

theorem submissions_append (task : QuantumTask) (format : CircuitFormat) (placement : Placement) (jobs : List Job)
    (job : Job) :
    submissions task format placement (jobs ++ [job]) = submissions task format placement jobs ++
      [.flag false, .submitJob (makeJobRequest task jobs.length format) placement (.ok job)] := by
  simp [submissions, List.zipIdx_append]

/-- The ways a submission loop ends: every circuit has its job, the flag is raised before the next circuit
and every job so far is cancelled once, or the next circuit is refused. -/
inductive SubmissionTrace (task : QuantumTask) (format : CircuitFormat) (placement : Placement) :
    List Event → Except Error (List Job) → Prop
  | complete (jobs : List Job) : jobs.length = task.circuitFiles.length →
      SubmissionTrace task format placement (submissions task format placement jobs) (.ok jobs)
  | shutdown (jobs : List Job) (answers : List (Except SubmitterError Unit)) :
      jobs.length < task.circuitFiles.length → answers.length = jobs.length →
      SubmissionTrace task format placement
        (submissions task format placement jobs ++ .flag true :: List.zipWith Event.cancel jobs answers)
        (.error ⟨.shutdownRequested, "Shutdown requested during task submission."⟩)
  | refused (jobs : List Job) (error : SubmitterError) : jobs.length < task.circuitFiles.length →
      SubmissionTrace task format placement
        (submissions task format placement jobs ++
          [.flag false, .submitJob (makeJobRequest task jobs.length format) placement (.error error)])
        (.error (toQrmciError .submissionFailed error))

/-- The loop goes on from the jobs it has to one of the three ends. -/
theorem submitCircuits_events (around : Surroundings σ) (task : QuantumTask) (format : CircuitFormat)
    (placement : Placement) (remaining : Nat) (jobs : List Job) (s : σ)
    (total : jobs.length + remaining = task.circuitFiles.length) :
    ∃ events result after,
      submitCircuits around task format placement remaining jobs.length jobs s = (result, after) ∧
      around.Plays s events after ∧
      (∀ log, submitCircuits around.recorded task format placement remaining jobs.length jobs (s, log) =
        (result, after, log ++ calls events)) ∧
      SubmissionTrace task format placement (submissions task format placement jobs ++ events) result := by
  induction remaining generalizing jobs s with
  | zero =>
    refine ⟨[], .ok jobs, s, rfl, rfl, fun log => by simp [submitCircuits, calls], ?_⟩
    rw [List.append_nil]
    exact .complete jobs (by omega)
  | succ remaining ih =>
    cases raised : around.terminationFlag s with
    | true =>
      obtain ⟨answers, length, played, record⟩ := cancelJobs_events around jobs s
      refine ⟨.flag true :: List.zipWith Event.cancel jobs answers, _, cancelJobs around jobs s, ?_,
        ⟨s, ⟨raised, rfl⟩, played⟩, ?_, .shutdown jobs answers (by omega) length⟩
      · simp only [submitCircuits, raised, if_true]
      · intro log
        simp only [submitCircuits, Surroundings.recorded_flag, raised, if_true, record, calls_cons, Event.isCall,
          Bool.false_eq_true, if_false]
    | false =>
      cases asked : around.submitJob (makeJobRequest task jobs.length format) placement s with
      | mk answer next =>
        cases answer with
        | error error =>
          refine ⟨[.flag false, .submitJob (makeJobRequest task jobs.length format) placement (.error error)],
            .error (toQrmciError .submissionFailed error), next, ?_, ⟨s, ⟨raised, rfl⟩, next, asked, rfl⟩, ?_,
            .refused jobs error (by omega)⟩
          · simp only [submitCircuits, raised, Bool.false_eq_true, if_false, asked]
          · intro log
            simp [submitCircuits, raised, asked, Event.isCall]
        | ok job =>
          have length : (jobs ++ [job]).length = jobs.length + 1 := by simp
          obtain ⟨events, result, after, run, played, record, trace⟩ := ih (jobs ++ [job]) next (by omega)
          rw [length] at run record
          refine ⟨.flag false :: .submitJob (makeJobRequest task jobs.length format) placement (.ok job) :: events,
            result, after, ?_, ⟨s, ⟨raised, rfl⟩, next, asked, played⟩, ?_, ?_⟩
          · simp only [submitCircuits, raised, Bool.false_eq_true, if_false, asked, run]
          · intro log
            simp [submitCircuits, raised, asked, record, Event.isCall]
          · simpa only [submissions_append, List.append_assoc, List.cons_append, List.nil_append] using trace

/-- One place for all the jobs of a task: the first child if there is one, else the device itself. -/
inductive PlacedBy : Except SubmitterError (List Child) → Placement → Prop
  | child (first : Child) (others : List Child) : PlacedBy (.ok (first :: others)) (.on first)
  | childless : PlacedBy (.ok []) .self
  | unsupported (error : SubmitterError) : error.code = .notSupported → PlacedBy (.error error) .self

/-- The whole submission: nothing is called for a task that is not valid, no job is submitted after a failed
discovery, and otherwise the circuits are submitted one after the other to one place. -/
inductive TaskSubmissionTrace (task : QuantumTask) : List Event → Except Error (List Job) → Prop
  | invalid (error : Error) : validateSubmission task = .error error → TaskSubmissionTrace task [] (.error error)
  | undiscovered (format : CircuitFormat) (error : SubmitterError) : validateSubmission task = .ok format →
      error.code ≠ .notSupported →
      TaskSubmissionTrace task [.children (.error error)] (.error (toQrmciError .submissionFailed error))
  | submitted (format : CircuitFormat) (answer : Except SubmitterError (List Child)) (placement : Placement)
      (events : List Event) (result : Except Error (List Job)) : validateSubmission task = .ok format →
      PlacedBy answer placement → SubmissionTrace task format placement events result →
      TaskSubmissionTrace task (.children answer :: events) result

theorem choosePlacement_cases (answer : Except SubmitterError (List Child)) :
    (∃ placement, choosePlacement answer = .ok placement ∧ PlacedBy answer placement) ∨
      ∃ error, answer = .error error ∧ error.code ≠ .notSupported ∧
        choosePlacement answer = .error (toQrmciError .submissionFailed error) := by
  cases answer with
  | ok discovered =>
    cases discovered with
    | nil => exact Or.inl ⟨.self, rfl, .childless⟩
    | cons first others => exact Or.inl ⟨.on first, rfl, .child first others⟩
  | error error =>
    by_cases unsupported : error.code = .notSupported
    · exact Or.inl ⟨.self, by simp only [choosePlacement, unsupported, if_true], .unsupported error unsupported⟩
    · exact Or.inr ⟨error, rfl, unsupported, by simp only [choosePlacement, unsupported, if_false]⟩

theorem submitQuantumTask_events (around : Surroundings σ) (task : QuantumTask) (s : σ) :
    ∃ events result after, submitQuantumTask around task s = (result, after) ∧ around.Plays s events after ∧
      submitQuantumTask around.recorded task (s, []) = (result, after, calls events) ∧
      TaskSubmissionTrace task events result := by
  cases valid : validateSubmission task with
  | error error =>
    refine ⟨[], .error error, s, ?_, rfl, ?_, .invalid error valid⟩
    · simp only [submitQuantumTask, valid]
    · simp only [submitQuantumTask, valid, calls_nil]
  | ok format =>
    cases discovered : around.children s with
    | mk answer next =>
      rcases choosePlacement_cases answer with ⟨placement, chosen, placed⟩ | ⟨error, failed, other, refused⟩
      · obtain ⟨events, result, after, run, played, record, trace⟩ :=
          submitCircuits_events around task format placement task.circuitFiles.length [] next (by simp)
        refine ⟨.children answer :: events, result, after, ?_, ⟨next, discovered, played⟩, ?_,
          .submitted format answer placement events result valid placed ?_⟩
        · simpa only [submitQuantumTask, valid, discovered, chosen, List.length_nil] using run
        · have recorded := record [.children answer]
          simpa only [submitQuantumTask, valid, Surroundings.recorded_children, discovered, chosen, calls_cons,
            Event.isCall, if_true, List.nil_append, List.cons_append, List.length_nil] using recorded
        · simpa [submissions] using trace
      · refine ⟨[.children answer], .error (toQrmciError .submissionFailed error), next, ?_,
          ⟨next, discovered, rfl⟩, ?_, ?_⟩
        · simp only [submitQuantumTask, valid, discovered, refused]
        · simp [submitQuantumTask, valid, discovered, refused, Event.isCall]
        · rw [failed]
          exact .undiscovered format error valid other

/-- The request carries one circuit file of a valid task: its bytes as they are, the validated format, and
the shots of the task, which the wire holds as a 32-bit integer. -/
structure RequestsCircuit (task : QuantumTask) (circuitIndex : Nat) (request : JobRequest) : Prop where
  payload : task.circuitFiles[circuitIndex]? = some request.payload
  format : validateSubmission task = .ok request.format
  shots : 0 < task.nShots ∧ (task.nShots ≤ 2147483647 → (request.numShots.toNat : Int) = task.nShots)

theorem makeJobRequest_requests {task : QuantumTask} {format : CircuitFormat} {circuitIndex : Nat}
    (valid : validateSubmission task = .ok format) (within : circuitIndex < task.circuitFiles.length) :
    RequestsCircuit task circuitIndex (makeJobRequest task circuitIndex format) := by
  have positive := validateSubmission_shots valid
  refine ⟨?_, valid, positive, ?_⟩
  · rw [makeJobRequest, List.getD_eq_getElem?_getD, List.getElem?_eq_getElem within, Option.getD_some]
  · intro fits
    have small : (task.nShots % 2 ^ 64).toNat < 2 ^ 64 := by omega
    simp only [makeJobRequest, UInt64.ofInt, UInt64.toNat_ofNat', Nat.mod_eq_of_lt small]
    omega

theorem not_mem_submissions {task : QuantumTask} {format : CircuitFormat} {placement : Placement} {jobs : List Job}
    {event : Event} (notLowered : event ≠ .flag false)
    (notTaken : ∀ request job, event ≠ .submitJob request placement (.ok job)) :
    event ∉ submissions task format placement jobs := by
  intro member
  obtain ⟨numbered, _, listed⟩ := List.mem_flatMap.mp member
  rcases List.mem_cons.mp listed with read | rest
  · exact notLowered read
  · exact notTaken _ _ (List.mem_singleton.mp rest)

/-- Jobs come back exactly if nothing on the way speaks against it. -/
theorem TaskSubmissionTrace.ok_iff {task : QuantumTask} {events : List Event} {result : Except Error (List Job)}
    (trace : TaskSubmissionTrace task events result) :
    (∃ jobs, result = .ok jobs) ↔ (∃ format, validateSubmission task = .ok format) ∧
      (∀ error, .children (.error error) ∈ events → error.code = .notSupported) ∧ .flag true ∉ events ∧
      ∀ request placement error, .submitJob request placement (.error error) ∉ events := by
  cases trace with
  | invalid error invalid =>
    refine ⟨nofun, ?_⟩
    rintro ⟨⟨format, valid⟩, _⟩
    cases invalid.symm.trans valid
  | undiscovered format error valid other =>
    refine ⟨nofun, ?_⟩
    rintro ⟨_, discovered, _⟩
    exact absurd (discovered error (List.mem_singleton.mpr rfl)) other
  | submitted format answer placement events result valid placed trace =>
    have discovered : ∀ error, .children (.error error) ∈ Event.children answer :: events →
        Event.children (.error error) ∉ events → error.code = .notSupported := by
      intro error member later
      rcases List.mem_cons.mp member with here | there
      · cases here
        cases placed with
        | unsupported _ code => exact code
      · exact absurd there later
    cases trace with
    | complete jobs length =>
      refine ⟨fun _ => ⟨⟨format, valid⟩, ?_, ?_, ?_⟩, fun _ => ⟨jobs, rfl⟩⟩
      · intro error member
        exact discovered error member (not_mem_submissions nofun nofun)
      · exact List.not_mem_cons_of_ne_of_not_mem nofun (not_mem_submissions nofun nofun)
      · intro request place error
        exact List.not_mem_cons_of_ne_of_not_mem nofun (not_mem_submissions nofun nofun)
    | shutdown jobs answers =>
      refine ⟨nofun, ?_⟩
      rintro ⟨_, _, lowered, _⟩
      exact absurd (by simp) lowered
    | refused jobs error =>
      refine ⟨nofun, ?_⟩
      rintro ⟨_, _, _, taken⟩
      exact absurd (by simp) (taken (makeJobRequest task jobs.length format) placement error)

/-- What `submitQuantumTask` does to its surroundings, whatever they answer. The events are what the flag
and the calls show along the run, and the calls among them are all the calls it makes. -/
theorem submission_calls (around : Surroundings σ) (task : QuantumTask) (s : σ) :
    (∃ events result after, submitQuantumTask around task s = (result, after) ∧ around.Plays s events after ∧
      submitQuantumTask around.recorded task (s, []) = (result, after, calls events) ∧
      TaskSubmissionTrace task events result ∧
      ((∃ jobs, result = .ok jobs) ↔ (∃ format, validateSubmission task = .ok format) ∧
        (∀ error, .children (.error error) ∈ events → error.code = .notSupported) ∧ .flag true ∉ events ∧
        ∀ request placement error, .submitJob request placement (.error error) ∉ events)) ∧
    ∀ format circuitIndex, validateSubmission task = .ok format → circuitIndex < task.circuitFiles.length →
      RequestsCircuit task circuitIndex (makeJobRequest task circuitIndex format) := by
  refine ⟨?_, fun format circuitIndex valid within => makeJobRequest_requests valid within⟩
  obtain ⟨events, result, after, run, played, record, trace⟩ := submitQuantumTask_events around task s
  exact ⟨events, result, after, run, played, record, trace, trace.ok_iff⟩

end Qrmci
