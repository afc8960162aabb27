import Mathlib.Logic.Function.Basic
import Qrmci.DaemonMessaging
import Qrmci.Lib.Bag

namespace Qrmci

variable {σ S : Type}

section Loops

variable (around : Surroundings σ) (bag : Bag S Ticket) (slices : Nat) (jobWaitTimeout : Int64)

/-- What a worker's submission loop leaves behind: the batch to collect, the failures it has sent, and the
scheduler, which is not empty after a shutdown. -/
structure SubmittedBatch (S σ : Type) where
  batch : List (Ticket × List Job)
  sent : List ResultSend
  scheduler : S
  state : σ

/-- The worker's first loop: every ready task is submitted, and what cannot be submitted is reported. -/
def submitReadyTasks (scheduler : S) (s : σ) : SubmittedBatch S σ :=
  match _taken : bag.take scheduler with
  | none => ⟨[], [], scheduler, s⟩
  | some (nextTask, rest) =>
    match submitQuantumTask around nextTask.task s with
    | (.ok jobs, after) =>
      let later := submitReadyTasks rest after
      { later with batch := (nextTask, jobs) :: later.batch }
    | (.error error, after) =>
      if error.kind = .shutdownRequested then ⟨[], [], rest, after⟩
      else
        let later := submitReadyTasks rest after
        { later with sent := sendFailure nextTask.task error :: later.sent }
termination_by (bag.content scheduler).card
decreasing_by
  all_goals
    rw [bag.content_take _ _ _ _taken, Multiset.card_cons]
    omega

/-- The worker's second loop: the batch is collected in the order of its submission. -/
def collectSubmittedJobs : List (Ticket × List Job) → σ → Option (List ResultSend × σ)
  | [], s => some ([], s)
  | (submittedTask, jobs) :: rest, s =>
    match collectQuantumResult around slices submittedTask.task jobs jobWaitTimeout s with
    | none => none
    | some (.ok result, after) =>
      (collectSubmittedJobs rest after).map fun later => (sendResult submittedTask.task result :: later.1, later.2)
    | some (.error error, after) =>
      if error.kind = .shutdownRequested then some ([], after)
      else
        (collectSubmittedJobs rest after).map fun later =>
          (sendFailure submittedTask.task error :: later.1, later.2)

/-- One pass of a worker over its scheduler: what it sends, unless a wait goes on beyond the slices. -/
def workerPass (scheduler : S) (s : σ) : Option (List ResultSend) :=
  let submitted := submitReadyTasks around bag scheduler s
  (collectSubmittedJobs around slices jobWaitTimeout submitted.batch submitted.state).map fun collected =>
    submitted.sent ++ collected.1

/-- One pass of the standalone daemon over its scheduler: one task is executed after the other. -/
def standalonePass (scheduler : S) (s : σ) : Option (List ResultSend) :=
  match _taken : bag.take scheduler with
  | none => some []
  | some (nextTask, rest) =>
    match executeQuantumTask around slices nextTask.task jobWaitTimeout s with
    | none => none
    | some (.ok result, after) =>
      (standalonePass rest after).map fun later => sendResult nextTask.task result :: later
    | some (.error error, after) =>
      if error.kind = .shutdownRequested then some []
      else (standalonePass rest after).map fun later => sendFailure nextTask.task error :: later
termination_by (bag.content scheduler).card
decreasing_by
  all_goals
    rw [bag.content_take _ _ _ _taken, Multiset.card_cons]
    omega

end Loops

/-- A device whose answers are determined per call: the children are always the same, a submission is
answered by its number and its request, the slices of a job and the time they take by the job and how often
it has been waited on, and its counts by the job. -/
structure PerCallDevice where
  children : Except SubmitterError (List Child)
  submitJob : Nat → JobRequest → Placement → Except SubmitterError Job
  wait : Job → Nat → Except SubmitterError JobStatus
  takes : Job → Nat → Time
  counts : Job → Except SubmitterError Counts

/-- What of the surroundings' state the answers of such a device depend on. -/
structure DeviceView (σ : Type) where
  submitted : σ → Nat
  waited : σ → Job → Nat
  clock : σ → Time

/-- The surroundings are such a device, with a clock, in a process that is never told to stop. Submissions
and waits do not disturb each other, and what they do to the clock between two jobs is left open. -/
structure Surroundings.PerCall (around : Surroundings σ) (device : PerCallDevice) (view : DeviceView σ) : Prop where
  lowered : ∀ s, around.terminationFlag s = false
  children : ∀ s, (around.children s).1 = device.children ∧
    view.submitted (around.children s).2 = view.submitted s ∧ view.waited (around.children s).2 = view.waited s
  submitJob : ∀ request placement s,
    (around.submitJob request placement s).1 = device.submitJob (view.submitted s) request placement ∧
    view.submitted (around.submitJob request placement s).2 = view.submitted s + 1 ∧
    view.waited (around.submitJob request placement s).2 = view.waited s
  wait : ∀ job s, (around.wait job s).1 = device.wait job (view.waited s job) ∧
    view.submitted (around.wait job s).2 = view.submitted s ∧
    view.waited (around.wait job s).2 = Function.update (view.waited s) job (view.waited s job + 1) ∧
    view.clock (around.wait job s).2 = view.clock s + device.takes job (view.waited s job)
  counts : ∀ job s, (around.counts job s).1 = device.counts job ∧
    view.submitted (around.counts job s).2 = view.submitted s ∧ view.waited (around.counts job s).2 = view.waited s
  now : ∀ s, (around.now s).1 = view.clock s ∧ view.submitted (around.now s).2 = view.submitted s ∧
    view.waited (around.now s).2 = view.waited s ∧ view.clock (around.now s).2 = view.clock s

variable {around : Surroundings σ} {device : PerCallDevice} {view : DeviceView σ}

/-- Two states from which the device waits alike, with the number of submissions each has seen. -/
structure DeviceView.Abreast (view : DeviceView σ) (ahead behind : Nat) (s t : σ) : Prop where
  waited : view.waited s = view.waited t
  ahead : view.submitted s = ahead
  behind : view.submitted t = behind

/-- Two runs without a submission end alike: neither comes back, or both do with the same value. -/
inductive DeviceView.EndAlike (view : DeviceView σ) (ahead behind : Nat) {α : Type} :
    Option (α × σ) → Option (α × σ) → Prop
  | neither : view.EndAlike ahead behind none none
  | both (value : α) {s t : σ} : view.Abreast ahead behind s t →
      view.EndAlike ahead behind (some (value, s)) (some (value, t))

theorem DeviceView.EndAlike.ends {ahead behind : Nat} {α : Type} {endS endT : Option (α × σ)}
    (alike : view.EndAlike ahead behind endS endT) : endS = none ∧ endT = none ∨
      ∃ value s t, endS = some (value, s) ∧ endT = some (value, t) ∧ view.Abreast ahead behind s t := by
  cases alike with
  | neither => exact .inl ⟨rfl, rfl⟩
  | both value abreast => exact .inr ⟨value, _, _, rfl, rfl, abreast⟩

namespace Surroundings.PerCall

variable {ahead behind : Nat} {s t : σ}

theorem latched (perCall : around.PerCall device view) : around.Latched := by
  constructor
  all_goals
    intros
    rename_i raised
    rw [perCall.lowered] at raised
    cases raised

theorem now_abreast (perCall : around.PerCall device view) (abreast : view.Abreast ahead behind s t) :
    view.Abreast ahead behind (around.now s).2 (around.now t).2 := by
  obtain ⟨_, submittedS, waitedS, _⟩ := perCall.now s
  obtain ⟨_, submittedT, waitedT, _⟩ := perCall.now t
  exact ⟨waitedS.trans (abreast.waited.trans waitedT.symm), submittedS.trans abreast.ahead,
    submittedT.trans abreast.behind⟩

theorem counts_abreast (perCall : around.PerCall device view) (abreast : view.Abreast ahead behind s t) (job : Job) :
    (around.counts job s).1 = (around.counts job t).1 ∧
      view.Abreast ahead behind (around.counts job s).2 (around.counts job t).2 := by
  obtain ⟨answerS, submittedS, waitedS⟩ := perCall.counts job s
  obtain ⟨answerT, submittedT, waitedT⟩ := perCall.counts job t
  exact ⟨answerS.trans answerT.symm, waitedS.trans (abreast.waited.trans waitedT.symm),
    submittedS.trans abreast.ahead, submittedT.trans abreast.behind⟩

/-- A slice of a wait is answered alike, and it takes the same time. -/
theorem wait_abreast (perCall : around.PerCall device view) (abreast : view.Abreast ahead behind s t) (job : Job) :
    (around.wait job s).1 = (around.wait job t).1 ∧
      view.Abreast ahead behind (around.wait job s).2 (around.wait job t).2 ∧
      view.clock (around.wait job s).2 - view.clock s = view.clock (around.wait job t).2 - view.clock t := by
  obtain ⟨answerS, submittedS, waitedS, clockS⟩ := perCall.wait job s
  obtain ⟨answerT, submittedT, waitedT, clockT⟩ := perCall.wait job t
  rw [abreast.waited] at answerS waitedS clockS
  refine ⟨answerS.trans answerT.symm, ⟨waitedS.trans waitedT.symm, submittedS.trans abreast.ahead,
    submittedT.trans abreast.behind⟩, ?_⟩
  rw [clockS, clockT]
  lia

/-- The same job waited on for the same time so far is awaited alike. -/
theorem awaitJob_alike (perCall : around.PerCall device view) (abreast : view.Abreast ahead behind s t)
    (waitTimeout : Int64) (job : Job) {startedS startedT : Time}
    (elapsed : view.clock s - startedS = view.clock t - startedT) (slices : Nat) :
    view.EndAlike ahead behind (awaitJob around waitTimeout job startedS slices s)
      (awaitJob around waitTimeout job startedT slices t) := by
  induction slices generalizing s t with
  | zero => exact .neither
  | succ slices ih =>
    obtain ⟨answers, after, took⟩ := perCall.wait_abreast abreast job
    have still : view.clock (around.wait job s).2 - startedS = view.clock (around.wait job t).2 - startedT := by
      lia
    simp only [awaitJob, perCall.lowered, Bool.false_eq_true, if_false]
    generalize around.wait job s = sliceS at *
    generalize around.wait job t = sliceT at *
    obtain ⟨answer, s'⟩ := sliceS
    obtain ⟨answer', t'⟩ := sliceT
    cases answers
    dsimp only at after still ⊢
    cases answer with
    | ok status =>
      cases status with
      | done => exact .both _ after
      | canceled => exact .both _ after
    | error error =>
      dsimp only
      split
      · exact .both _ after
      · split
        · obtain ⟨readS, _, _, clockS⟩ := perCall.now s'
          obtain ⟨readT, _, _, clockT⟩ := perCall.now t'
          rw [readS, readT, still]
          split
          · exact .both _ (perCall.now_abreast after)
          · exact ih (perCall.now_abreast after) (by rw [clockS, clockT, still])
        · exact ih after still

theorem collectJobs_alike (perCall : around.PerCall device view) (abreast : view.Abreast ahead behind s t)
    (slices : Nat) (waitTimeout : Int64) (jobs : List Job) (histogram : List (Option Counts)) :
    view.EndAlike ahead behind (collectJobs around slices waitTimeout jobs histogram s)
      (collectJobs around slices waitTimeout jobs histogram t) := by
  induction jobs generalizing histogram s t with
  | nil => exact .both _ abreast
  | cons job rest ih =>
    obtain ⟨readS, _, _, clockS⟩ := perCall.now s
    obtain ⟨readT, _, _, clockT⟩ := perCall.now t
    -- each wait is timed from its own start, whatever the clock shows there
    have elapsed : view.clock (around.now s).2 - (around.now s).1 = view.clock (around.now t).2 - (around.now t).1 := by
      rw [readS, readT, clockS, clockT]
      lia
    simp only [collectJobs]
    rcases (perCall.awaitJob_alike (perCall.now_abreast abreast) waitTimeout job elapsed slices).ends with
      ⟨endS, endT⟩ | ⟨outcome, s', t', endS, endT, after⟩
    · rw [endS, endT]
      exact .neither
    · rw [endS, endT]
      cases outcome with
      | error error => exact .both _ after
      | ok =>
        obtain ⟨answers, afterwards⟩ := perCall.counts_abreast after job
        dsimp only
        generalize around.counts job s' = readS at *
        generalize around.counts job t' = readT at *
        obtain ⟨answer, s''⟩ := readS
        obtain ⟨answer', t''⟩ := readT
        cases answers
        cases answer with
        | error error => exact .both _ afterwards
        | ok counts => exact ih afterwards _

theorem collectQuantumResult_alike (perCall : around.PerCall device view) (abreast : view.Abreast ahead behind s t)
    (slices : Nat) (task : QuantumTask) (jobs : List Job) (waitTimeout : Int64) :
    view.EndAlike ahead behind (collectQuantumResult around slices task jobs waitTimeout s)
      (collectQuantumResult around slices task jobs waitTimeout t) := by
  unfold collectQuantumResult
  rcases (perCall.collectJobs_alike abreast slices waitTimeout jobs []).ends with
    ⟨endS, endT⟩ | ⟨outcome, s', t', endS, endT, after⟩
  · rw [endS, endT]
    exact .neither
  · rw [endS, endT]
    cases outcome with
    | error error => exact .both _ after
    | ok histogram => exact .both _ after

/-- Submissions are answered by their numbers, and they leave the waits alone. -/
theorem submitCircuits_alike (perCall : around.PerCall device view) (same : view.submitted s = view.submitted t)
    (task : QuantumTask) (format : CircuitFormat) (placement : Placement) (remaining circuitIndex : Nat)
    (jobs : List Job) :
    (submitCircuits around task format placement remaining circuitIndex jobs s).1 =
        (submitCircuits around task format placement remaining circuitIndex jobs t).1 ∧
      view.submitted (submitCircuits around task format placement remaining circuitIndex jobs s).2 =
        view.submitted (submitCircuits around task format placement remaining circuitIndex jobs t).2 ∧
      view.waited (submitCircuits around task format placement remaining circuitIndex jobs s).2 = view.waited s := by
  induction remaining generalizing circuitIndex jobs s t with
  | zero => exact ⟨rfl, same, rfl⟩
  | succ remaining ih =>
    obtain ⟨answerS, submittedS, waitedS⟩ := perCall.submitJob (makeJobRequest task circuitIndex format) placement s
    obtain ⟨answerT, submittedT, _⟩ := perCall.submitJob (makeJobRequest task circuitIndex format) placement t
    have answers := answerS.trans ((congrArg (device.submitJob · _ _) same).trans answerT.symm)
    have counted := submittedS.trans ((congrArg (· + 1) same).trans submittedT.symm)
    simp only [submitCircuits, perCall.lowered, Bool.false_eq_true, if_false]
    generalize around.submitJob (makeJobRequest task circuitIndex format) placement s = callS at *
    generalize around.submitJob (makeJobRequest task circuitIndex format) placement t = callT at *
    obtain ⟨answer, s'⟩ := callS
    obtain ⟨answer', t'⟩ := callT
    cases answers
    cases answer with
    | error error => exact ⟨rfl, counted, waitedS⟩
    | ok job =>
      obtain ⟨outcome, later, left⟩ := ih counted (circuitIndex + 1) (jobs ++ [job])
      exact ⟨outcome, later, left.trans waitedS⟩

theorem submitQuantumTask_alike (perCall : around.PerCall device view) (same : view.submitted s = view.submitted t)
    (task : QuantumTask) :
    (submitQuantumTask around task s).1 = (submitQuantumTask around task t).1 ∧
      view.submitted (submitQuantumTask around task s).2 = view.submitted (submitQuantumTask around task t).2 ∧
      view.waited (submitQuantumTask around task s).2 = view.waited s := by
  unfold submitQuantumTask
  cases validateSubmission task with
  | error error => exact ⟨rfl, same, rfl⟩
  | ok format =>
    obtain ⟨answerS, submittedS, waitedS⟩ := perCall.children s
    obtain ⟨answerT, submittedT, _⟩ := perCall.children t
    have counted := submittedS.trans (same.trans submittedT.symm)
    dsimp only
    rw [answerS, answerT]
    cases choosePlacement device.children with
    | error error => exact ⟨rfl, counted, waitedS⟩
    | ok placement =>
      obtain ⟨outcome, later, left⟩ :=
        perCall.submitCircuits_alike counted task format placement task.circuitFiles.length 0 []
      exact ⟨outcome, later, left.trans waitedS⟩

theorem submission_goes_on (perCall : around.PerCall device view) {task : QuantumTask} {error : Error}
    (run : submitQuantumTask around task s = (.error error, t)) : error.kind ≠ .shutdownRequested := by
  intro kind
  have raised := submitQuantumTask_shutdown perCall.latched run kind
  rw [perCall.lowered] at raised
  cases raised

/-- A collection that comes back is answered by a message. -/
theorem collection_settles (perCall : around.PerCall device view) {slices : Nat} {task : QuantumTask}
    {jobs : List Job} {waitTimeout : Int64} {outcome : Except Error QuantumResult}
    (run : collectQuantumResult around slices task jobs waitTimeout s = some (outcome, t)) :
    ∃ send, settleExecution task outcome = some send := by
  cases outcome with
  | ok result => exact ⟨_, rfl⟩
  | error error =>
    have goesOn : error.kind ≠ .shutdownRequested := by
      intro kind
      have raised := collectQuantumResult_shutdown run kind
      rw [perCall.lowered] at raised
      cases raised
    exact ⟨_, if_neg goesOn⟩

end Surroundings.PerCall

variable {bag : Bag S Ticket} {slices : Nat} {jobWaitTimeout : Int64}

theorem submitReadyTasks_waited (perCall : around.PerCall device view) (scheduler : S) (s : σ) :
    view.waited (submitReadyTasks around bag scheduler s).state = view.waited s := by
  fun_induction submitReadyTasks around bag scheduler s with
  | case1 scheduler s taken => rfl
  | case2 scheduler s nextTask rest taken jobs after run later ih =>
    have left := (perCall.submitQuantumTask_alike (t := s) rfl nextTask.task).2.2
    rw [run] at left
    exact ih.trans left
  | case3 scheduler s nextTask rest taken error after run kind =>
    exact absurd kind (perCall.submission_goes_on run)
  | case4 scheduler s nextTask rest taken error after run kind later ih =>
    have left := (perCall.submitQuantumTask_alike (t := s) rfl nextTask.task).2.2
    rw [run] at left
    exact ih.trans left

/-- What is sent for an execution that is not cut off by a shutdown. -/
theorem settleExecution_cases {task : QuantumTask} {outcome : Except Error QuantumResult} {send : ResultSend}
    (settled : settleExecution task outcome = some send) :
    (∃ result, outcome = .ok result ∧ send = sendResult task result) ∨
      ∃ error, outcome = .error error ∧ error.kind ≠ .shutdownRequested ∧ send = sendFailure task error := by
  cases outcome with
  | ok result =>
    cases settled
    exact .inl ⟨result, rfl, rfl⟩
  | error error =>
    simp only [settleExecution] at settled
    split at settled
    · cases settled
    · rename_i other
      cases settled
      exact .inr ⟨error, rfl, other, rfl⟩

/-- A task whose collection is answered sends that answer, and the rest of the batch follows. -/
theorem collectSubmittedJobs_settled {ticket : Ticket} {jobs : List Job} {rest : List (Ticket × List Job)} {s after : σ}
    {outcome : Except Error QuantumResult} {send : ResultSend}
    (collected : collectQuantumResult around slices ticket.task jobs jobWaitTimeout s = some (outcome, after))
    (settled : settleExecution ticket.task outcome = some send) :
    collectSubmittedJobs around slices jobWaitTimeout ((ticket, jobs) :: rest) s =
      (collectSubmittedJobs around slices jobWaitTimeout rest after).map fun later => (send :: later.1, later.2) := by
  rw [collectSubmittedJobs, collected]
  rcases settleExecution_cases settled with ⟨result, rfl, rfl⟩ | ⟨error, rfl, other, rfl⟩
  · rfl
  · simp only [other, if_false]

/-- The same for the task that the standalone daemon takes next. -/
theorem standalonePass_settled {scheduler rest : S} {ticket : Ticket} {s after : σ}
    {outcome : Except Error QuantumResult} {send : ResultSend} (taken : bag.take scheduler = some (ticket, rest))
    (executed : executeQuantumTask around slices ticket.task jobWaitTimeout s = some (outcome, after))
    (settled : settleExecution ticket.task outcome = some send) :
    standalonePass around bag slices jobWaitTimeout scheduler s =
      (standalonePass around bag slices jobWaitTimeout rest after).map fun later => send :: later := by
  rw [standalonePass]
  split
  · rename_i empty
    cases taken.symm.trans empty
  · rename_i next
    cases taken.symm.trans next
    rw [executed]
    rcases settleExecution_cases settled with ⟨result, rfl, rfl⟩ | ⟨error, rfl, other, rfl⟩
    · rfl
    · simp only [other, if_false]

theorem standalonePass_stuck {scheduler rest : S} {ticket : Ticket} {s : σ}
    (taken : bag.take scheduler = some (ticket, rest))
    (stuck : executeQuantumTask around slices ticket.task jobWaitTimeout s = none) :
    standalonePass around bag slices jobWaitTimeout scheduler s = none := by
  rw [standalonePass]
  split
  · rename_i empty
    cases taken.symm.trans empty
  · rename_i next
    cases taken.symm.trans next
    rw [stuck]

/-- From states with the same submissions and the same waits behind them, collecting what was submitted and
executing one task after the other send the same messages. -/
theorem collected_batch_eq_standalonePass (perCall : around.PerCall device view) (scheduler : S) (s t u : σ)
    (submitted : view.submitted s = view.submitted t) (waited : view.waited u = view.waited t) :
    (collectSubmittedJobs around slices jobWaitTimeout (submitReadyTasks around bag scheduler s).batch u).map
        (fun collected => Multiset.ofList ((submitReadyTasks around bag scheduler s).sent ++ collected.1)) =
      (standalonePass around bag slices jobWaitTimeout scheduler t).map Multiset.ofList := by
  fun_induction submitReadyTasks around bag scheduler s generalizing t u with
  | case1 scheduler s taken =>
    have idle : standalonePass around bag slices jobWaitTimeout scheduler t = some [] := by
      rw [standalonePass]
      split
      · rfl
      · rename_i next
        cases taken.symm.trans next
    rw [idle]
    rfl
  | case2 scheduler s nextTask rest taken jobs after run later ih =>
    obtain ⟨answers, counted, left⟩ := perCall.submitQuantumTask_alike submitted.symm nextTask.task
    rcases submission : submitQuantumTask around nextTask.task t with ⟨outcome, t'⟩
    rw [run, submission] at answers counted
    rw [submission] at left
    cases answers
    have executes : executeQuantumTask around slices nextTask.task jobWaitTimeout t =
        collectQuantumResult around slices nextTask.task jobs jobWaitTimeout t' := by
      rw [executeQuantumTask, submission]
    have abreast : view.Abreast (view.submitted u) (view.submitted t') u t' := ⟨waited.trans left.symm, rfl, rfl⟩
    rcases (perCall.collectQuantumResult_alike abreast slices nextTask.task jobs jobWaitTimeout).ends with
      ⟨endU, endT⟩ | ⟨outcome, u', t'', endU, endT, afterwards⟩
    · rw [standalonePass_stuck taken (executes.trans endT)]
      simp only [collectSubmittedJobs, endU]
      rfl
    · obtain ⟨send, settled⟩ := perCall.collection_settles endU
      have remaining := ih t'' u' (counted.symm.trans afterwards.behind.symm) afterwards.waited
      have grown := congrArg (Option.map (Multiset.cons send)) remaining
      rw [Option.map_map, Option.map_map] at grown
      rw [standalonePass_settled taken (executes.trans endT) settled, collectSubmittedJobs_settled endU settled,
        Option.map_map, Option.map_map]
      -- the worker has sent the later failures by now, the daemon sends them after this message
      refine Eq.trans (congrArg (Option.map · _) (funext fun collected => ?_)) grown
      exact Multiset.coe_eq_coe.mpr List.perm_middle
  | case3 scheduler s nextTask rest taken error after run kind =>
    exact absurd kind (perCall.submission_goes_on run)
  | case4 scheduler s nextTask rest taken error after run kind later ih =>
    obtain ⟨answers, counted, left⟩ := perCall.submitQuantumTask_alike submitted.symm nextTask.task
    rcases submission : submitQuantumTask around nextTask.task t with ⟨outcome, t'⟩
    rw [run, submission] at answers counted
    rw [submission] at left
    cases answers
    have executed : executeQuantumTask around slices nextTask.task jobWaitTimeout t = some (.error error, t') := by
      rw [executeQuantumTask, submission]
    have remaining := ih t' u counted.symm (waited.trans left.symm)
    have grown := congrArg (Option.map (Multiset.cons (sendFailure nextTask.task error))) remaining
    rw [Option.map_map, Option.map_map] at grown
    rw [standalonePass_settled taken executed (if_neg kind), Option.map_map]
    exact grown

theorem workerPass_eq_standalonePass (perCall : around.PerCall device view) (scheduler : S) (s : σ) :
    (workerPass around bag slices jobWaitTimeout scheduler s).map Multiset.ofList =
      (standalonePass around bag slices jobWaitTimeout scheduler s).map Multiset.ofList := by
  rw [workerPass, Option.map_map]
  exact collected_batch_eq_standalonePass perCall scheduler s s _ rfl (submitReadyTasks_waited perCall scheduler s)

/-- The state that the answers of a per-call device depend on, kept as it is. -/
structure DeviceState where
  submitted : Nat
  waited : Job → Nat
  clock : Time

def DeviceState.whole : DeviceView DeviceState := ⟨submitted, waited, clock⟩

end Qrmci
