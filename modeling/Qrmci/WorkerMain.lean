import Qrmci.ConfigDurations
import Qrmci.DeviceMain
import Qrmci.PassRuns

namespace Qrmci

/-- The variables of a worker's `main`; `submittedJobs` is what the turn has still to collect. The last three are
history: the tasks received and the statuses published, latest first, and the result messages sent, first to last. -/
structure WorkerVariables (S : Type) where
  availableBackends : BackendRegistry
  throttle : PublicationThrottle
  scheduler : S
  submittedJobs : List (Ticket × List Job)
  received : List Ticket
  published : List Backend
  sent : List ResultSend

section Program

variable {σ S : Type} (host : DeviceHost σ) (settings : WorkerSettings) (bag : Bag S Ticket)

namespace DeviceHost

def publish (backendStatusQueue : String) (status : Backend) (s : σ) : σ :=
  (sendLogged host.sendStatus status.messageLabel status backendStatusQueue s).2

/-- The refresh, the publication and the expiry at the head of a turn. -/
def headWorker (backendStatusQueue : String) (p : σ × WorkerVariables S) : σ × WorkerVariables S :=
  let ran := host.runTurnHead (host.publish backendStatusQueue) settings.own p.2.availableBackends p.2.throttle p.1
  (ran.state, { p.2 with
    availableBackends := ran.backends
    throttle := ran.throttle
    published := ran.status.toList ++ p.2.published })

/-- The handler of the one task that a turn receives. The number of the task is that of its arrival. -/
def compileTask (task : QuantumTask) (p : σ × WorkerVariables S) : σ × WorkerVariables S :=
  let ticket : Ticket := ⟨p.2.received.length, task⟩
  let compiler := host.compiler p.1
  let run := compileAndSchedule (fun task => bag.put ⟨ticket.number, task⟩) task p.2.availableBackends compiler.1
    p.2.scheduler
  match run.result with
  | .ok () => (compiler.2, { p.2 with scheduler := run.scheduler, received := ticket :: p.2.received })
  | .error error =>
    let failure := sendFailure run.task error
    (host.reply failure compiler.2, { p.2 with
      scheduler := run.scheduler
      received := ticket :: p.2.received
      sent := p.2.sent ++ [failure] })

/-- The submission loop. -/
def submitTasks : Nat → Program (σ × WorkerVariables S) Unit
  | 0 => fun p => (none, p)
  | tasks + 1 => fun p =>
    match bag.take p.2.scheduler with
    | none => (some (), p)
    | some (nextTask, rest) =>
      match submitQuantumTask host.around nextTask.task p.1 with
      | (.ok jobs, after) =>
        submitTasks tasks
          (after, { p.2 with scheduler := rest, submittedJobs := p.2.submittedJobs ++ [(nextTask, jobs)] })
      | (.error error, after) =>
        if error.kind = .shutdownRequested then (some (), after, { p.2 with scheduler := rest })
        else
          let failure := sendFailure nextTask.task error
          submitTasks tasks (host.reply failure after, { p.2 with scheduler := rest, sent := p.2.sent ++ [failure] })

/-- The collection loop. A wait that outlasts the slices is cut off. -/
def collectTasks (slices : Nat) : List (Ticket × List Job) → Program (σ × WorkerVariables S) Unit
  | [] => fun p => (some (), p)
  | (submittedTask, jobs) :: rest => fun p =>
    match collectQuantumResult host.around slices submittedTask.task jobs settings.jobWaitTimeout p.1 with
    | none => (none, p)
    | some (.ok result, after) =>
      let answer := sendResult submittedTask.task result
      collectTasks slices rest
        (host.reply answer after, { p.2 with submittedJobs := rest, sent := p.2.sent ++ [answer] })
    | some (.error error, after) =>
      if error.kind = .shutdownRequested then (some (), after, { p.2 with submittedJobs := [] })
      else
        let failure := sendFailure submittedTask.task error
        collectTasks slices rest
          (host.reply failure after, { p.2 with submittedJobs := rest, sent := p.2.sent ++ [failure] })

/-- The collection of all that the turn has submitted. -/
def collectSubmitted (slices : Nat) : Program (σ × WorkerVariables S) Unit := fun p =>
  host.collectTasks settings slices p.2.submittedJobs p

/-- One turn of a worker's loop; `polls`, `tasks` and `slices` bound its receive, its submissions and each wait. -/
def workerTurn (backendStatusQueue : String) (taskReceiveTimeout stagePollInterval : Int64) (polls tasks slices : Nat) :
    Program (σ × WorkerVariables S) Unit := do
  Program.update (host.headWorker settings backendStatusQueue)
  let receivedTask ← receiveNext (host.tasks.beside (WorkerVariables S)) settings.compilerQueue taskReceiveTimeout.toInt
    (host.compileTask bag) polls
  host.submitTasks bag tasks
  host.collectSubmitted settings slices
  if receivedTask then return ()
  Program.update fun p => (host.sleepFor stagePollInterval p.1, p.2)

def workerLoop (backendStatusQueue : String) (taskReceiveTimeout stagePollInterval : Int64)
    (turns polls tasks slices : Nat) : Program (σ × WorkerVariables S) Unit :=
  Program.loop (Program.act fun p => ((host.terminationRequested p.1).1, (host.terminationRequested p.1).2, p.2))
    (host.workerTurn settings bag backendStatusQueue taskReceiveTimeout stagePollInterval polls tasks slices) turns

end DeviceHost

/-- A worker's `main`. It advertises its compiler queue. -/
def workerMain (loadedConfig : Except Error Config) (turns polls tasks slices : Nat) (s : σ) :
    Option ExitCode × σ × Option (WorkerVariables S) :=
  host.main (fun config => config.compiler.queue)
    (fun config deviceId availableBackends => ⟨availableBackends,
      .new (config.workerSettings deviceId).backendStatusPublishInterval, bag.empty, [], [], [], []⟩)
    (fun config deviceId => host.workerLoop (config.workerSettings deviceId) bag config.selector.backendStatusQueue
      config.compiler.taskReceiveTimeout config.common.stagePollInterval turns polls tasks slices)
    loadedConfig s

end Program

/-- The status that a step of a worker hands to the broker. -/
def WorkerAct.status : WorkerAct → Option Backend
  | .turnHead _ published => published
  | _ => none

/-- A reachable state of a worker's model in a phase, with the variables of its `main`. -/
structure WorkerModel {S : Type} (settings : WorkerSettings) (bag : Bag S Ticket) (phase : WorkerPhase)
    (acts : List WorkerAct) (w : WorkerState S) (v : WorkerVariables S) : Prop where
  run : WorkerRun settings bag acts w
  phase : w.phase = phase
  backends : w.availableBackends = v.availableBackends
  throttle : w.throttle = v.throttle
  scheduler : w.scheduler = v.scheduler
  batch : w.batch = v.submittedJobs
  received : acts.filterMap WorkerAct.consumed = v.received
  published : acts.filterMap WorkerAct.status = v.published
  sent : WorkerAct.sent acts = v.sent

def WorkerState.shown (S : Type) : HostView (WorkerState S) := ⟨WorkerState.terminationRequested, WorkerState.clock⟩

section Refinement

variable {σ S : Type} {host : DeviceHost σ} {settings : WorkerSettings} {bag : Bag S Ticket} {view : HostView σ} {s : σ}
  {v : WorkerVariables S} {w : WorkerState S} {phase : WorkerPhase} {acts : List WorkerAct}

/-- A worker's `main` at some point of its loop. -/
abbrev WorkerFollows (view : HostView σ) (settings : WorkerSettings) (bag : Bag S Ticket) (phase : WorkerPhase)
    (lowered : Bool) : σ × WorkerVariables S → Prop :=
  Follows view (WorkerState.shown S) (fun w v => ∃ acts, WorkerModel settings bag phase acts w v) lowered

/-- The `main` at any point where it may be cut off. -/
def WorkerUnfinished (view : HostView σ) (settings : WorkerSettings) (bag : Bag S Ticket) (p : σ × WorkerVariables S) :
    Prop :=
  ∃ phase, phase ≠ .stopped ∧ WorkerFollows view settings bag phase false p

theorem WorkerAct.sent_cons (act : WorkerAct) (acts : List WorkerAct) :
    WorkerAct.sent (act :: acts) = WorkerAct.sent acts ++ (act.reply.map Prod.snd).toList := by
  have joined := WorkerAct.sent_append [act] acts
  rw [List.singleton_append] at joined
  rw [joined]
  cases replied : act.reply with
  | none => simp [WorkerAct.sent, replied]
  | some reply => simp [WorkerAct.sent, replied]

/-- A step that neither receives, publishes nor replies, and changes only what the variables say it does. -/
theorem WorkerModel.quiet {next : WorkerPhase} {act : WorkerAct} {t : WorkerState S} {u : WorkerVariables S}
    (model : WorkerModel settings bag phase acts w v) (step : WorkerStep settings bag w act t) (reached : t.phase = next)
    (backends : t.availableBackends = u.availableBackends) (throttle : t.throttle = u.throttle)
    (scheduler : t.scheduler = u.scheduler) (batch : t.batch = u.submittedJobs)
    (history : u.received = v.received ∧ u.published = v.published ∧ u.sent = v.sent)
    (consumes : act.consumed = none) (publishes : act.status = none) (replies : act.reply = none) :
    WorkerModel settings bag next (act :: acts) t u where
  run := model.run.next step
  phase := reached
  backends := backends
  throttle := throttle
  scheduler := scheduler
  batch := batch
  received := by
    rw [List.filterMap_cons_none consumes, history.1]
    exact model.received
  published := by
    rw [List.filterMap_cons_none publishes, history.2.1]
    exact model.published
  sent := by
    rw [WorkerAct.sent_cons, replies, history.2.2, model.sent]
    simp

theorem WorkerModel.signals (goes : ∃ acts, WorkerModel settings bag phase acts w v) :
    ∃ t, (∃ acts, WorkerModel settings bag phase acts t v) ∧ t.terminationRequested = true ∧ t.clock = w.clock := by
  obtain ⟨acts, model⟩ := goes
  exact ⟨_, ⟨_, model.quiet .signal model.phase model.backends model.throttle model.scheduler model.batch ⟨rfl, rfl, rfl⟩
    rfl rfl rfl⟩, rfl, rfl⟩

/-- A step of the model from one phase to the next that the variables do not show. -/
theorem WorkerFollows.enter {lowered : Bool} {next : WorkerPhase} {act : WorkerAct} {p : σ × WorkerVariables S}
    (follows : WorkerFollows view settings bag phase lowered p)
    (steps : ∀ w : WorkerState S, w.phase = phase → w.scheduler = p.2.scheduler → w.batch = p.2.submittedJobs →
      WorkerStep settings bag w act { w with phase := next })
    (consumes : act.consumed = none) (publishes : act.status = none) (replies : act.reply = none) :
    WorkerFollows view settings bag next lowered p := by
  refine follows.step ?_
  rintro w ⟨acts, model⟩ _
  exact ⟨_, ⟨_, model.quiet (steps w model.phase model.scheduler model.batch) rfl model.backends model.throttle
    model.scheduler model.batch ⟨rfl, rfl, rfl⟩ consumes publishes replies⟩, rfl, rfl⟩

theorem DeviceHost.Lawful.publish (lawful : host.Lawful view) (backendStatusQueue : String) (status : Backend) (s : σ) :
    view.Later s (host.publish backendStatusQueue status s) := by
  rw [DeviceHost.publish, sendLogged_state]
  exact lawful.sendStatus backendStatusQueue status s

theorem DeviceHost.Lawful.headWorker (lawful : host.Lawful view) (backendStatusQueue : String)
    (follows : WorkerFollows view settings bag .turnHead true (s, v)) :
    WorkerFollows view settings bag .receiving false (host.headWorker settings backendStatusQueue (s, v)) := by
  obtain ⟨head, ordered, expired, later, ran⟩ := lawful.runsTurnHead (host.publish backendStatusQueue)
    (lawful.publish backendStatusQueue) settings.own v.availableBackends v.throttle s
  obtain ⟨w, ⟨acts, model⟩, clock, flag, unset⟩ := follows
  have step : WorkerStep settings bag w _ _ :=
    .turnHead head model.phase (unset rfl) ⟨le_trans clock ordered.claimed, ordered.refreshed, ordered.expired⟩
  rw [← model.backends, ← model.throttle] at ran
  rw [ran] at step
  refine .intro ⟨_, model.run.next step, rfl, ?_, ?_, model.scheduler, model.batch, model.received, ?_, ?_⟩ expired
    fun set => later.latched (flag set)
  · simp only [WorkerState.headed, ran]
    rw [model.backends, model.throttle]
  · simp only [WorkerState.headed, ran]
    rw [model.backends, model.throttle]
  · rw [List.filterMap_cons, model.backends, model.throttle, model.published]
    simp only [WorkerAct.status]
    cases (host.runTurnHead (host.publish backendStatusQueue) settings.own v.availableBackends v.throttle s).status with
    | none => rfl
    | some status => rfl
  · rw [WorkerAct.sent_cons, model.sent]
    exact List.append_nil _

/-- The handled task is a step of the model. -/
theorem DeviceHost.Lawful.compileTask (lawful : host.Lawful view) (task : QuantumTask)
    (follows : WorkerFollows view settings bag .receiving true (s, v)) :
    WorkerFollows view settings bag .submitting false (host.compileTask bag task (s, v)) := by
  have compiled := follows.later (lawful.compiler s)
  generalize prepared : compileAndSchedule (fun task => bag.put ⟨v.received.length, task⟩) task v.availableBackends
    (host.compiler s).1 v.scheduler = run
  have intake {acts : List WorkerAct} {w : WorkerState S} (model : WorkerModel settings bag .receiving acts w v) :
      w.intake bag ⟨v.received.length, task⟩ (host.compiler s).1 = run := by
    simp only [WorkerState.intake, model.backends, model.scheduler]
    exact prepared
  cases outcome : run.result with
  | ok =>
    have handled : host.compileTask bag task (s, v) = ((host.compiler s).2,
        { v with scheduler := run.scheduler, received := ⟨v.received.length, task⟩ :: v.received }) := by
      simp only [DeviceHost.compileTask, prepared, outcome]
    rw [handled]
    refine Follows.forget (compiled.step ?_)
    rintro w ⟨acts, model⟩ unset
    have step : WorkerStep settings bag w _ _ :=
      .receive ⟨v.received.length, task⟩ (host.compiler s).1 model.phase (unset rfl)
    simp only [intake model, settleIntake, outcome] at step
    refine ⟨_, ⟨_, model.run.next step, rfl, model.backends, model.throttle, ?_, model.batch, ?_, model.published, ?_⟩,
      rfl, rfl⟩
    · simp only [WorkerState.received, intake model]
    · rw [List.filterMap_cons, ← model.received]
      rfl
    · rw [WorkerAct.sent_cons, model.sent]
      exact List.append_nil _
  | error error =>
    have replied := compiled.later (lawful.reply (sendFailure run.task error) (host.compiler s).2)
    have handled : host.compileTask bag task (s, v) =
        (host.reply (sendFailure run.task error) (host.compiler s).2, { v with
          scheduler := run.scheduler
          received := ⟨v.received.length, task⟩ :: v.received
          sent := v.sent ++ [sendFailure run.task error] }) := by
      simp only [DeviceHost.compileTask, prepared, outcome]
    rw [handled]
    refine Follows.forget (replied.step ?_)
    rintro w ⟨acts, model⟩ unset
    have step : WorkerStep settings bag w _ _ :=
      .receive ⟨v.received.length, task⟩ (host.compiler s).1 model.phase (unset rfl)
    simp only [intake model, settleIntake, outcome] at step
    refine ⟨_, ⟨_, model.run.next step, rfl, model.backends, model.throttle, ?_, model.batch, ?_, model.published, ?_⟩,
      rfl, rfl⟩
    · simp only [WorkerState.received, intake model]
    · rw [List.filterMap_cons, ← model.received]
      rfl
    · rw [WorkerAct.sent_cons, model.sent]
      rfl

/-- The submission loop is that part of the model's turn. -/
theorem DeviceHost.Lawful.submitTasks (lawful : host.Lawful view) (tasks : Nat) :
    Program.Meets (WorkerFollows view settings bag .submitting false) (host.submitTasks bag tasks)
      (fun _ => WorkerFollows view settings bag .collecting false) (WorkerUnfinished view settings bag) := by
  induction tasks with
  | zero => exact fun p follows => ⟨.submitting, by decide, follows⟩
  | succ tasks ih =>
    rintro ⟨s, v⟩ follows
    simp only [DeviceHost.submitTasks]
    cases take : bag.take v.scheduler with
    | none =>
      exact follows.enter (fun w phase scheduler _ => .submitted phase (by rw [scheduler]; exact take)) rfl rfl rfl
    | some taken =>
      obtain ⟨ticket, rest⟩ := taken
      obtain ⟨w, ⟨acts, model⟩, clock, flag⟩ := follows.caughtUp fun w goes => WorkerModel.signals goes
      have advanced := submitQuantumTask_advances lawful.advances ticket.task s
      dsimp only
      cases ran : submitQuantumTask host.around ticket.task s with
      | mk outcome after =>
        rw [ran] at advanced
        have step : WorkerStep settings bag w _ _ :=
          .submit host.around s after ticket rest outcome model.phase (by rw [model.scheduler]; exact take)
            lawful.latched ((lawful.shown s).trans flag.symm) ran
        rw [lawful.shown] at step
        have passed := le_trans clock advanced.clock
        cases outcome with
        | ok jobs =>
          refine ih _ (.intro ⟨_, model.run.next step, model.phase, model.backends, model.throttle, rfl, ?_, model.received,
            model.published, ?_⟩ passed fun set => set)
          · rw [← model.batch]
            rfl
          · rw [WorkerAct.sent_cons, model.sent]
            exact List.append_nil _
        | error error =>
          by_cases kind : error.kind = .shutdownRequested
          · simp only [if_pos kind]
            simp only [settleSubmission, WorkerState.submitted, if_pos kind] at step
            have silent : WorkerAct.sent (.submit ticket none (view.raised after) :: acts) = v.sent := by
              rw [WorkerAct.sent_cons, model.sent]
              exact List.append_nil _
            have stopped : WorkerModel settings bag .collecting _ _ { v with scheduler := rest } :=
              ⟨model.run.next step, rfl, model.backends, model.throttle, rfl, model.batch, model.received, model.published,
                silent⟩
            change WorkerFollows view settings bag .collecting false (after, { v with scheduler := rest })
            exact .intro ⟨_, stopped⟩ passed fun set => set
          · have replied := lawful.reply (sendFailure ticket.task error) after
            simp only [if_neg kind]
            simp only [settleSubmission, WorkerState.submitted, if_neg kind] at step
            refine ih _ (.intro ⟨_, model.run.next step, model.phase, model.backends, model.throttle, rfl, model.batch,
              model.received, model.published, ?_⟩ (le_trans passed replied.clock) replied.latched)
            rw [WorkerAct.sent_cons, model.sent]
            rfl

/-- The collection loop is that part of the model's turn. -/
theorem DeviceHost.Lawful.collectTasks (lawful : host.Lawful view) (slices : Nat) (batch : List (Ticket × List Job)) :
    Program.Meets (fun p => WorkerFollows view settings bag .collecting false p ∧ p.2.submittedJobs = batch)
      (host.collectTasks settings slices batch)
      (fun _ => WorkerFollows view settings bag .turnHead false) (WorkerUnfinished view settings bag) := by
  induction batch with
  | nil =>
    rintro ⟨s, v⟩ ⟨follows, held⟩
    exact follows.enter (fun w phase _ batch => .turnEnd phase (batch.trans held)) rfl rfl rfl
  | cons entry rest ih =>
    obtain ⟨ticket, jobs⟩ := entry
    rintro ⟨s, v⟩ ⟨follows, held⟩
    simp only [DeviceHost.collectTasks]
    cases ran : collectQuantumResult host.around slices ticket.task jobs settings.jobWaitTimeout s with
    | none => exact ⟨.collecting, by decide, follows⟩
    | some answer =>
      obtain ⟨outcome, after⟩ := answer
      obtain ⟨w, ⟨acts, model⟩, clock, flag⟩ := follows.caughtUp fun w goes => WorkerModel.signals goes
      have advanced := collectQuantumResult_advances lawful.advances ran
      have step : WorkerStep settings bag w _ _ :=
        .collect host.around slices s after ticket jobs rest outcome model.phase (model.batch.trans held) lawful.latched
          ((lawful.shown s).trans flag.symm) ran
      rw [lawful.shown] at step
      have passed := le_trans clock advanced.clock
      cases outcome with
      | ok result =>
        have replied := lawful.reply (sendResult ticket.task result) after
        refine ih _ ⟨.intro ⟨_, model.run.next step, model.phase, model.backends, model.throttle, model.scheduler, rfl,
          model.received, model.published, ?_⟩ (le_trans passed replied.clock) replied.latched, rfl⟩
        rw [WorkerAct.sent_cons, model.sent]
        rfl
      | error error =>
        by_cases kind : error.kind = .shutdownRequested
        · simp only [if_pos kind]
          simp only [settleExecution, WorkerState.collected, if_pos kind] at step
          -- what is left of the batch is dropped, and the turn ends
          have dropped := (model.run.next step).next (.turnEnd model.phase rfl)
          have silent : WorkerAct.sent (.turnEnd :: .collect ticket none (view.raised after) :: acts) = v.sent := by
            rw [WorkerAct.sent_cons, WorkerAct.sent_cons, model.sent]
            exact (List.append_nil _).trans (List.append_nil _)
          have stopped : WorkerModel settings bag .turnHead _ _ { v with submittedJobs := [] } :=
            ⟨dropped, rfl, model.backends, model.throttle, model.scheduler, rfl, model.received, model.published, silent⟩
          change WorkerFollows view settings bag .turnHead false (after, { v with submittedJobs := [] })
          exact .intro ⟨_, stopped⟩ passed fun set => set
        · have replied := lawful.reply (sendFailure ticket.task error) after
          simp only [if_neg kind]
          simp only [settleExecution, WorkerState.collected, if_neg kind] at step
          refine ih _ ⟨.intro ⟨_, model.run.next step, model.phase, model.backends, model.throttle, model.scheduler, rfl,
            model.received, model.published, ?_⟩ (le_trans passed replied.clock) replied.latched, rfl⟩
          rw [WorkerAct.sent_cons, model.sent]
          rfl

theorem DeviceHost.Lawful.receiveTask (lawful : host.Lawful view) (timeout : Int) (polls : Nat) :
    Program.Meets (WorkerFollows view settings bag .receiving false)
      (receiveNext (host.tasks.beside (WorkerVariables S)) settings.compilerQueue timeout (host.compileTask bag) polls)
      (fun _ => WorkerFollows view settings bag .submitting false) (WorkerUnfinished view settings bag) := by
  have handles (task : QuantumTask) (p : σ × WorkerVariables S)
      (follows : WorkerFollows view settings bag .receiving true p) :
      WorkerFollows view settings bag .submitting false (host.compileTask bag task p) := lawful.compileTask task follows
  have receives := receiveNext_meets (lawful.tasks.carries (WorkerState.shown S) _) handles settings.compilerQueue timeout
    polls
  refine receives.weaken (fun _ follows => follows) ?_ fun p follows => ⟨.receiving, by decide, follows⟩
  intro received p ends
  cases received with
  | true => exact ends.1 rfl
  | false =>
    have idle : WorkerFollows view settings bag .receiving false p := ends.2 rfl
    exact idle.enter (fun w phase _ _ => .receiveNothing phase) rfl rfl rfl

/-- One turn of the program is a turn of the model, and is cut off only where one of its loops is. -/
theorem DeviceHost.Lawful.turn (lawful : host.Lawful view) (backendStatusQueue : String)
    {taskReceiveTimeout stagePollInterval : Int64} {polls tasks slices : Nat} {cut : σ × WorkerVariables S → Prop}
    (receives : Program.Meets (WorkerFollows view settings bag .receiving false)
      (receiveNext (host.tasks.beside (WorkerVariables S)) settings.compilerQueue taskReceiveTimeout.toInt
        (host.compileTask bag) polls)
      (fun _ => WorkerFollows view settings bag .submitting false) cut)
    (submits : Program.Meets (WorkerFollows view settings bag .submitting false) (host.submitTasks bag tasks)
      (fun _ => WorkerFollows view settings bag .collecting false) cut)
    (collects : Program.Meets (WorkerFollows view settings bag .collecting false) (host.collectSubmitted settings slices)
      (fun _ => WorkerFollows view settings bag .turnHead false) cut) :
    Program.Meets (WorkerFollows view settings bag .turnHead true)
      (host.workerTurn settings bag backendStatusQueue taskReceiveTimeout stagePollInterval polls tasks slices)
      (fun _ => WorkerFollows view settings bag .turnHead false) cut := by
  have heads : Program.Meets (WorkerFollows view settings bag .turnHead true)
      (Program.update (host.headWorker settings backendStatusQueue))
      (fun _ => WorkerFollows view settings bag .receiving false) cut :=
    Program.Meets.update fun p follows => lawful.headWorker backendStatusQueue follows
  refine heads.bind fun _ => receives.bind fun receivedTask => submits.bind fun _ => collects.bind fun _ => ?_
  cases receivedTask with
  | true => exact Program.Meets.pure fun p follows => follows
  | false => exact Program.Meets.update fun p follows => follows.later (lawful.sleep stagePollInterval p.1)

theorem DeviceHost.Lawful.collectSubmitted (lawful : host.Lawful view) (slices : Nat) :
    Program.Meets (WorkerFollows view settings bag .collecting false) (host.collectSubmitted settings slices)
      (fun _ => WorkerFollows view settings bag .turnHead false) (WorkerUnfinished view settings bag) :=
  fun p follows => lawful.collectTasks slices p.2.submittedJobs p ⟨follows, rfl⟩

/-- The head of the loop. Where the flag is read as set, the model leaves the loop too. -/
theorem DeviceHost.Lawful.readsFlag (lawful : host.Lawful view) {cut : σ × WorkerVariables S → Prop} :
    Program.Meets (WorkerFollows view settings bag .turnHead false)
      (Program.act fun p => ((host.terminationRequested p.1).1, (host.terminationRequested p.1).2, p.2))
      (fun set p => (set = true → WorkerFollows view settings bag .stopped false p ∧ view.raised p.1 = true) ∧
        (set = false → WorkerFollows view settings bag .turnHead true p)) cut := by
  refine lawful.flag.meets.weaken (fun _ follows => follows) ?_ (fun _ follows => follows)
  intro set p read
  refine ⟨?_, read.2⟩
  intro stop
  obtain ⟨follows, raised⟩ := read.1 stop
  obtain ⟨w, ⟨acts, model⟩, clock, flag⟩ := follows.caughtUp fun w goes => WorkerModel.signals goes
  have left := model.quiet (.exit model.phase (flag.trans raised)) rfl model.backends model.throttle model.scheduler
    model.batch ⟨rfl, rfl, rfl⟩ rfl rfl rfl
  exact ⟨.intro ⟨_, left⟩ clock fun _ => raised, raised⟩

theorem DeviceHost.Lawful.workerLoop (lawful : host.Lawful view) (backendStatusQueue : String)
    (taskReceiveTimeout stagePollInterval : Int64) (turns polls tasks slices : Nat) :
    Program.Meets (WorkerFollows view settings bag .turnHead false)
      (host.workerLoop settings bag backendStatusQueue taskReceiveTimeout stagePollInterval turns polls tasks slices)
      (fun _ p => WorkerFollows view settings bag .stopped false p ∧ view.raised p.1 = true)
      (WorkerUnfinished view settings bag) :=
  Program.Meets.loop lawful.readsFlag
    (lawful.turn backendStatusQueue (lawful.receiveTask _ polls) (lawful.submitTasks tasks)
      (lawful.collectSubmitted slices))
    (fun _ follows => ⟨.turnHead, by decide, follows⟩) turns

/-- A process that has started follows the model at its first turn head. -/
theorem DeviceHost.Lawful.entersLoop (lawful : host.Lawful view) (bag : Bag S Ticket) {loadedConfig : Except Error Config}
    {s started : σ} {config : Config} {deviceId : String} {backends : BackendRegistry}
    (starts : host.startUp (fun config => config.compiler.queue) loadedConfig s =
      (some (config, deviceId, backends), started)) :
    WorkerFollows view (config.workerSettings deviceId) bag .turnHead false
      (started, ⟨backends, .new (config.workerSettings deviceId).backendStatusPublishInterval, bag.empty, [], [], [],
        []⟩) := by
  obtain ⟨_, _, device, time, opened, later, shown, registered⟩ := lawful.starts starts
  have start : WorkerRun (config.workerSettings deviceId) bag []
      (.initial (config.workerSettings deviceId) bag opened) := .start ⟨opened, rfl⟩
  have run := (start.next (.pass time later)).next (.register device rfl (congrArg Prod.fst registered))
  refine .intro ⟨_, run, rfl, congrArg Prod.snd registered, rfl, rfl, rfl, rfl, rfl, rfl⟩ shown ?_
  intro set
  cases set

theorem workerMain_unstarted (host : DeviceHost σ) (bag : Bag S Ticket) {loadedConfig : Except Error Config}
    (turns polls tasks slices : Nat) {s : σ}
    (unstarted : (host.startUp (fun config => config.compiler.queue) loadedConfig s).1 = none) :
    workerMain host bag loadedConfig turns polls tasks slices s =
      (some .failure, (host.startUp (fun config => config.compiler.queue) loadedConfig s).2, none) :=
  DeviceHost.main_unstarted unstarted

/-- A worker's `main` on any host. It fails exactly if it cannot start, and has then received and sent nothing: it
has no variables yet, has only started, and does the same over any other broker. Otherwise whatever it does up to any
point is a run of the worker's model, with the same tasks received, the same statuses published, the same result
messages sent, the same tasks scheduled and in flight, and the same registry and throttle; and it returns only from a
turn head that has read the flag as set. -/
theorem workerMain_refines (lawful : host.Lawful view) (bag : Bag S Ticket) (loadedConfig : Except Error Config)
    (turns polls tasks slices : Nat) (s : σ) :
    ((workerMain host bag loadedConfig turns polls tasks slices s).1 = some .failure ↔
      (host.startUp (fun config => config.compiler.queue) loadedConfig s).1 = none) ∧
    ((workerMain host bag loadedConfig turns polls tasks slices s).1 = some .failure →
      (workerMain host bag loadedConfig turns polls tasks slices s).2 =
        ((host.startUp (fun config => config.compiler.queue) loadedConfig s).2, none) ∧
      ∀ broker, workerMain (host.withBroker broker) bag loadedConfig turns polls tasks slices s =
        workerMain host bag loadedConfig turns polls tasks slices s) ∧
    ∀ config deviceId backends started,
      host.startUp (fun config => config.compiler.queue) loadedConfig s = (some (config, deviceId, backends), started) →
      ∃ code after v, workerMain host bag loadedConfig turns polls tasks slices s = (code, after, some v) ∧
        ∃ acts w, WorkerRun (config.workerSettings deviceId) bag acts w ∧ acts.filterMap WorkerAct.consumed = v.received ∧
          acts.filterMap WorkerAct.status = v.published ∧ WorkerAct.sent acts = v.sent ∧ w.scheduler = v.scheduler ∧
          w.batch = v.submittedJobs ∧ w.availableBackends = v.availableBackends ∧ w.throttle = v.throttle ∧
          (code = some .success ∧ w.phase = .stopped ∧ view.raised after = true ∨
            code = none ∧ w.phase ≠ .stopped) := by
  have loops (config : Config) (deviceId : String) (backends : BackendRegistry) (started : σ)
      (starts : host.startUp (fun config => config.compiler.queue) loadedConfig s =
        (some (config, deviceId, backends), started)) :
      Program.Ends
        (fun _ p => WorkerFollows view (config.workerSettings deviceId) bag .stopped false p ∧ view.raised p.1 = true)
        (WorkerUnfinished view (config.workerSettings deviceId) bag)
        (host.workerLoop (config.workerSettings deviceId) bag config.selector.backendStatusQueue
          config.compiler.taskReceiveTimeout config.common.stagePollInterval turns polls tasks slices
          (started, ⟨backends, .new (config.workerSettings deviceId).backendStatusPublishInterval, bag.empty, [], [], [],
            []⟩)) :=
    lawful.workerLoop _ _ _ turns polls tasks slices _ (lawful.entersLoop bag starts)
  obtain ⟨fails, runs⟩ := DeviceHost.main_ends loops
  refine ⟨fails, ?_, ?_⟩
  · intro failed
    have unstarted := fails.mp failed
    have ran := workerMain_unstarted host bag turns polls tasks slices unstarted
    refine ⟨congrArg Prod.snd ran, fun broker => ?_⟩
    have elsewhere : ((host.withBroker broker).startUp (fun config => config.compiler.queue) loadedConfig s).1 = none := by
      rw [DeviceHost.startUp_withBroker]
      exact unstarted
    rw [workerMain_unstarted _ bag turns polls tasks slices elsewhere, ran, DeviceHost.startUp_withBroker]
  intro config deviceId backends started starts
  obtain ⟨code, after, v, ran, ends⟩ := runs config deviceId backends started starts
  refine ⟨code, after, v, ran, ?_⟩
  rcases ends with ⟨returned, ⟨w, ⟨acts, model⟩, _⟩, raised⟩ | ⟨cutOff, phase, running, w, ⟨acts, model⟩, _⟩
  · exact ⟨acts, w, model.run, model.received, model.published, model.sent, model.scheduler, model.batch, model.backends,
      model.throttle, Or.inl ⟨returned, model.phase, raised⟩⟩
  · refine ⟨acts, w, model.run, model.received, model.published, model.sent, model.scheduler, model.batch, model.backends,
      model.throttle, Or.inr ⟨cutOff, ?_⟩⟩
    rw [model.phase]
    exact running

end Refinement

/-- A worker that gets one task for its device publishes its status, executes the task and answers it. -/
theorem workerMain_answers_quake :
    ∃ acts w, WorkerRun (Config.defaults.workerSettings "cxxdevice5q") (Bag.fifo Ticket) acts w ∧ w.phase = .stopped ∧
      (acts.filterMap WorkerAct.status).map Backend.queueName = ["compiler.tasks.queue"] ∧
      WorkerAct.sent acts =
        [⟨"results-queue", ⟨7, "results-queue", "cxxdevice5q", true, "COMPLETED", [[("00", 100)]]⟩⟩] := by
  obtain ⟨code, after, v, ran, acts, w, run, _, published, sent, _, _, _, _, ends⟩ :=
    (workerMain_refines DeviceHost.scripted_lawful (Bag.fifo Ticket) (.ok .defaults) 3 3 3 3
      ⟨[{ QuantumTask.quake with scheduledQpu := "cxxdevice5q" }], false⟩).2.2 .defaults "cxxdevice5q" _ _ rfl
  have returned : (workerMain .scripted (Bag.fifo Ticket) (.ok .defaults) 3 3 3 3
      ⟨[{ QuantumTask.quake with scheduledQpu := "cxxdevice5q" }], false⟩).1 = some .success := by decide +kernel
  have answered : (workerMain .scripted (Bag.fifo Ticket) (.ok .defaults) 3 3 3 3
      ⟨[{ QuantumTask.quake with scheduledQpu := "cxxdevice5q" }], false⟩).2.2.map
        (fun v => (v.published.map Backend.queueName, v.sent)) = some (["compiler.tasks.queue"],
          [⟨"results-queue", ⟨7, "results-queue", "cxxdevice5q", true, "COMPLETED", [[("00", 100)]]⟩⟩]) := by
    decide +kernel
  rw [ran] at returned answered
  obtain ⟨queues, answers⟩ := Prod.mk.inj (Option.some.inj answered)
  refine ⟨acts, w, run, ?_, by rw [published]; exact queues, sent.trans answers⟩
  rcases ends with ⟨_, stopped, _⟩ | ⟨cutOff, _⟩
  · exact stopped
  · cases cutOff.symm.trans returned

end Qrmci
