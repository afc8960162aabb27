import Qrmci.ConfigDurations
import Qrmci.DeviceMain
import Qrmci.PassRuns

namespace Qrmci

/-- The variables of the standalone daemon's `main`. The last three are history: the tasks consumed and the
result messages sent, first to last, and the numbers of the tasks abandoned. -/
structure StandaloneVariables (S : Type) where
  availableBackends : BackendRegistry
  throttle : PublicationThrottle
  scheduler : S
  consumed : List QuantumTask
  sent : List ResultSend
  abandoned : List Nat

section Program

variable {σ S : Type} (host : DeviceHost σ) (settings : StandaloneSettings) (bag : Bag S Ticket)

namespace DeviceHost

/-- The refresh and the expiry at the head of a turn; the status goes nowhere. -/
def headStandalone (p : σ × StandaloneVariables S) : σ × StandaloneVariables S :=
  let ran := host.runTurnHead (fun _ s => s) settings.own p.2.availableBackends p.2.throttle p.1
  (ran.state, { p.2 with availableBackends := ran.backends, throttle := ran.throttle })

/-- The handler of a drained task. The number of the task is that of its arrival. -/
def prepareTask (task : QuantumTask) (p : σ × StandaloneVariables S) : σ × StandaloneVariables S :=
  let number := p.2.consumed.length
  let compiler := host.compiler p.1
  let run := selectCompileAndSchedule (fun task => bag.put ⟨number, task⟩) task p.2.availableBackends compiler.1
    p.2.scheduler settings.selectionPolicy
  match run.result with
  | .ok () => (compiler.2, { p.2 with scheduler := run.scheduler, consumed := p.2.consumed ++ [task] })
  | .error error =>
    let failure := sendFailure run.task error
    (host.reply failure compiler.2, { p.2 with
      scheduler := run.scheduler
      consumed := p.2.consumed ++ [task]
      sent := p.2.sent ++ [failure] })

/-- The loop over the ready tasks, which returns whether there was one. A wait that outlasts the slices is cut
off before its task is taken. -/
def executeTasks (slices : Nat) (executedTasks : Bool) : Nat → Program (σ × StandaloneVariables S) Bool
  | 0 => fun p => (none, p)
  | tasks + 1 => fun p =>
    match bag.take p.2.scheduler with
    | none => (some executedTasks, p)
    | some (nextTask, rest) =>
      match executeQuantumTask host.around slices nextTask.task settings.jobWaitTimeout p.1 with
      | none => (none, p)
      | some (.ok result, after) =>
        let answer := sendResult nextTask.task result
        executeTasks slices true tasks
          (host.reply answer after, { p.2 with scheduler := rest, sent := p.2.sent ++ [answer] })
      | some (.error error, after) =>
        if error.kind = .shutdownRequested then
          (some true, after, { p.2 with scheduler := rest, abandoned := nextTask.number :: p.2.abandoned })
        else
          let failure := sendFailure nextTask.task error
          executeTasks slices true tasks
            (host.reply failure after, { p.2 with scheduler := rest, sent := p.2.sent ++ [failure] })

/-- One turn of the standalone daemon's loop; `polls`, `tasks` and `slices` bound its drain, its executions and
each wait. -/
def standaloneTurn (qrmciQueue : String) (stagePollInterval : Int64) (polls tasks slices : Nat) :
    Program (σ × StandaloneVariables S) Unit := do
  Program.update (host.headStandalone settings)
  let receivedTasks ← drainQueue (host.tasks.beside (StandaloneVariables S)) qrmciQueue
    (host.prepareTask settings bag) polls
  let executedTasks ← host.executeTasks settings bag slices false tasks
  if receivedTasks || executedTasks then return ()
  Program.update fun p => (host.sleepFor stagePollInterval p.1, p.2)

def standaloneLoop (qrmciQueue : String) (stagePollInterval : Int64) (turns polls tasks slices : Nat) :
    Program (σ × StandaloneVariables S) Unit :=
  Program.loop (Program.act fun p => ((host.terminationRequested p.1).1, (host.terminationRequested p.1).2, p.2))
    (host.standaloneTurn settings bag qrmciQueue stagePollInterval polls tasks slices) turns

end DeviceHost

/-- The standalone daemon's `main`. Its device has no dispatch queue. -/
def standaloneMain (loadedConfig : Except Error Config) (turns polls tasks slices : Nat) (s : σ) :
    Option ExitCode × σ × Option (StandaloneVariables S) :=
  host.main (fun _ => "")
    (fun config deviceId availableBackends => ⟨availableBackends,
      .new (config.standaloneSettings deviceId).backendStatusPublishInterval, bag.empty, [], [], []⟩)
    (fun config deviceId => host.standaloneLoop (config.standaloneSettings deviceId) bag config.common.qrmciQueue
      config.common.stagePollInterval turns polls tasks slices)
    loadedConfig s

end Program

/-- A reachable state of the standalone daemon's model in a phase, with the variables of its `main`. -/
structure StandaloneModel {S : Type} (settings : StandaloneSettings) (bag : Bag S Ticket) (phase : StandalonePhase)
    (d : StandaloneState S) (v : StandaloneVariables S) : Prop where
  run : ∃ acts, StandaloneRun settings bag acts d
  phase : d.phase = phase
  backends : d.availableBackends = v.availableBackends
  throttle : d.throttle = v.throttle
  scheduler : d.scheduler = v.scheduler
  consumed : d.history.consumed = v.consumed
  sent : d.sent = v.sent
  abandoned : d.history.abandoned = v.abandoned

def StandaloneState.shown (S : Type) : HostView (StandaloneState S) :=
  ⟨StandaloneState.terminationRequested, StandaloneState.clock⟩

section Refinement

variable {σ S : Type} {host : DeviceHost σ} {settings : StandaloneSettings} {bag : Bag S Ticket} {view : HostView σ}
  {s : σ} {v : StandaloneVariables S} {d : StandaloneState S} {phase : StandalonePhase} {lowered : Bool}

/-- The standalone daemon's `main` at some point of its loop. -/
abbrev StandaloneFollows (view : HostView σ) (settings : StandaloneSettings) (bag : Bag S Ticket)
    (phase : StandalonePhase) (lowered : Bool) : σ × StandaloneVariables S → Prop :=
  Follows view (StandaloneState.shown S) (StandaloneModel settings bag phase) lowered

/-- The `main` at any point where it may be cut off. -/
def StandaloneUnfinished (view : HostView σ) (settings : StandaloneSettings) (bag : Bag S Ticket)
    (p : σ × StandaloneVariables S) : Prop :=
  ∃ phase, phase ≠ .stopped ∧ StandaloneFollows view settings bag phase false p

theorem StandaloneModel.signals (model : StandaloneModel settings bag phase d v) :
    ∃ e, StandaloneModel settings bag phase e v ∧ e.terminationRequested = true ∧ e.clock = d.clock := by
  obtain ⟨acts, run⟩ := model.run
  exact ⟨_, ⟨⟨_, run.next .signal⟩, model.phase, model.backends, model.throttle, model.scheduler, model.consumed,
    model.sent, model.abandoned⟩, rfl, rfl⟩

theorem DeviceHost.Lawful.headStandalone (lawful : host.Lawful view)
    (follows : StandaloneFollows view settings bag .turnHead true (s, v)) :
    StandaloneFollows view settings bag .draining false (host.headStandalone settings (s, v)) := by
  obtain ⟨head, ordered, expired, later, ran⟩ := lawful.runsTurnHead (fun _ s => s) (fun _ s => .refl _ s)
    settings.own v.availableBackends v.throttle s
  obtain ⟨d, model, clock, flag, unset⟩ := follows
  obtain ⟨acts, run⟩ := model.run
  have step : StandaloneStep settings bag d _ _ :=
    .turnHead head model.phase (unset rfl) ⟨le_trans clock ordered.claimed, ordered.refreshed, ordered.expired⟩
  rw [← model.backends, ← model.throttle] at ran
  refine .intro ⟨⟨_, run.next step⟩, rfl, ?_, ?_, model.scheduler, model.consumed, model.sent, model.abandoned⟩ expired
    fun set => later.latched (flag set)
  · simp only [StandaloneState.headed, ran]
    rw [model.backends, model.throttle]
  · simp only [StandaloneState.headed, ran]
    rw [model.backends, model.throttle]

/-- A handled task is a step of the model. -/
theorem DeviceHost.Lawful.prepareTask (lawful : host.Lawful view) (task : QuantumTask)
    (follows : StandaloneFollows view settings bag .draining true (s, v)) :
    StandaloneFollows view settings bag .draining false (host.prepareTask settings bag task (s, v)) := by
  have compiled := follows.later (lawful.compiler s)
  generalize prepared : selectCompileAndSchedule (fun task => bag.put ⟨v.consumed.length, task⟩) task v.availableBackends
    (host.compiler s).1 v.scheduler settings.selectionPolicy = run
  have received {d : StandaloneState S} (model : StandaloneModel settings bag .draining d v) :
      selectCompileAndSchedule (fun task => bag.put ⟨d.history.consumed.length, task⟩) task d.availableBackends
        (host.compiler s).1 d.scheduler settings.selectionPolicy = run := by
    rw [model.consumed, model.backends, model.scheduler]
    exact prepared
  cases outcome : run.result with
  | ok =>
    have handled : host.prepareTask settings bag task (s, v) =
        ((host.compiler s).2, { v with scheduler := run.scheduler, consumed := v.consumed ++ [task] }) := by
      simp only [DeviceHost.prepareTask, prepared, outcome]
    rw [handled]
    refine Follows.forget (compiled.step ?_)
    intro d model unset
    obtain ⟨acts, reached⟩ := model.run
    refine ⟨_, ⟨⟨_, reached.next (.receive task (host.compiler s).1 model.phase (unset rfl))⟩, model.phase, model.backends,
      model.throttle, ?_, ?_, ?_, model.abandoned⟩, rfl, rfl⟩
    · simp only [StandaloneState.received, received model]
    · simp only [StandaloneState.received, model.consumed]
    · simp only [StandaloneState.received, StandaloneState.sent, received model, outcome]
      exact model.sent
  | error error =>
    have replied := compiled.later (lawful.reply (sendFailure run.task error) (host.compiler s).2)
    have handled : host.prepareTask settings bag task (s, v) =
        (host.reply (sendFailure run.task error) (host.compiler s).2, { v with
          scheduler := run.scheduler
          consumed := v.consumed ++ [task]
          sent := v.sent ++ [sendFailure run.task error] }) := by
      simp only [DeviceHost.prepareTask, prepared, outcome]
    rw [handled]
    refine Follows.forget (replied.step ?_)
    intro d model unset
    obtain ⟨acts, reached⟩ := model.run
    refine ⟨_, ⟨⟨_, reached.next (.receive task (host.compiler s).1 model.phase (unset rfl))⟩, model.phase, model.backends,
      model.throttle, ?_, ?_, ?_, model.abandoned⟩, rfl, rfl⟩
    · simp only [StandaloneState.received, received model]
    · simp only [StandaloneState.received, model.consumed]
    · simp only [StandaloneState.received, StandaloneState.sent, received model, outcome, List.reverse_cons,
        List.map_append, List.map_cons, List.map_nil, ← model.sent]

/-- One execution is a step of the model, whatever it comes back with. -/
theorem DeviceHost.Lawful.executes (lawful : host.Lawful view) {slices : Nat} {ticket : Ticket} {rest : S}
    {outcome : Except Error QuantumResult} {after : σ}
    (follows : StandaloneFollows view settings bag .executing false (s, v))
    (take : bag.take v.scheduler = some (ticket, rest))
    (ran : executeQuantumTask host.around slices ticket.task settings.jobWaitTimeout s = some (outcome, after)) :
    ∃ d : StandaloneState S, StandaloneModel settings bag .executing d v ∧ d.clock ≤ view.clock after ∧
      ∃ acts, StandaloneRun settings bag acts (d.settled ticket rest (view.raised after) outcome) := by
  obtain ⟨d, model, clock, flag⟩ := follows.caughtUp fun d model => model.signals
  obtain ⟨acts, reached⟩ := model.run
  refine ⟨d, model, le_trans clock (executeQuantumTask_advances lawful.advances ran).clock, ?_⟩
  have step : StandaloneStep settings bag d _ _ :=
    .execute host.around slices s after ticket rest outcome model.phase (by rw [model.scheduler]; exact take)
      lawful.latched ((lawful.shown s).trans flag.symm) ran
  rw [lawful.shown] at step
  exact ⟨_, reached.next step⟩

/-- The execution loop is that part of the model's turn. -/
theorem DeviceHost.Lawful.executeTasks (lawful : host.Lawful view) (slices : Nat) (executedTasks : Bool) (tasks : Nat) :
    Program.Meets (StandaloneFollows view settings bag .executing false)
      (host.executeTasks settings bag slices executedTasks tasks)
      (fun _ => StandaloneFollows view settings bag .turnEnd false) (StandaloneUnfinished view settings bag) := by
  have unfinished (p : σ × StandaloneVariables S) (follows : StandaloneFollows view settings bag .executing false p) :
      StandaloneUnfinished view settings bag p := ⟨.executing, by decide, follows⟩
  induction tasks generalizing executedTasks with
  | zero => exact unfinished
  | succ tasks ih =>
    rintro ⟨s, v⟩ follows
    simp only [DeviceHost.executeTasks]
    cases take : bag.take v.scheduler with
    | none =>
      refine follows.step ?_
      intro d model _
      obtain ⟨acts, reached⟩ := model.run
      exact ⟨_, ⟨⟨_, reached.next (.executed model.phase (by rw [model.scheduler]; exact take))⟩, rfl, model.backends,
        model.throttle, model.scheduler, model.consumed, model.sent, model.abandoned⟩, rfl, rfl⟩
    | some taken =>
      obtain ⟨ticket, rest⟩ := taken
      dsimp only
      cases ran : executeQuantumTask host.around slices ticket.task settings.jobWaitTimeout s with
      | none => exact unfinished _ follows
      | some answer =>
        obtain ⟨outcome, after⟩ := answer
        obtain ⟨d, model, clock, acts, reached⟩ := lawful.executes follows take ran
        cases outcome with
        | ok result =>
          have replied := lawful.reply (sendResult ticket.task result) after
          refine ih true _ (.intro ⟨⟨acts, reached⟩, model.phase, model.backends, model.throttle, rfl, model.consumed, ?_,
            model.abandoned⟩ (le_trans clock replied.clock) replied.latched)
          simp only [StandaloneState.sent, StandaloneState.settled, List.reverse_cons, List.map_append, List.map_cons,
            List.map_nil, ← model.sent]
        | error error =>
          by_cases kind : error.kind = .shutdownRequested
          · simp only [if_pos kind]
            simp only [StandaloneState.settled, if_pos kind] at reached
            refine .intro ⟨⟨acts, reached⟩, rfl, model.backends, model.throttle, rfl, model.consumed, model.sent, ?_⟩ clock
              fun set => set
            rw [← model.abandoned]
          · have replied := lawful.reply (sendFailure ticket.task error) after
            simp only [if_neg kind]
            simp only [StandaloneState.settled, if_neg kind] at reached
            refine ih true _ (.intro ⟨⟨acts, reached⟩, model.phase, model.backends, model.throttle, rfl, model.consumed, ?_,
              model.abandoned⟩ (le_trans clock replied.clock) replied.latched)
            simp only [StandaloneState.sent, List.reverse_cons, List.map_append, List.map_cons, List.map_nil, ← model.sent]

theorem DeviceHost.Lawful.drainStandalone (lawful : host.Lawful view) (qrmciQueue : String) (polls : Nat) :
    Program.Meets (StandaloneFollows view settings bag .draining false)
      (drainQueue (host.tasks.beside (StandaloneVariables S)) qrmciQueue (host.prepareTask settings bag) polls)
      (fun _ => StandaloneFollows view settings bag .executing false) (StandaloneUnfinished view settings bag) := by
  have handles (task : QuantumTask) (p : σ × StandaloneVariables S)
      (follows : StandaloneFollows view settings bag .draining true p) :
      StandaloneFollows view settings bag .draining false (host.prepareTask settings bag task p) :=
    lawful.prepareTask task follows
  have drains := drainQueue_meets (lawful.tasks.carries (StandaloneState.shown S) _) handles qrmciQueue polls
  refine drains.weaken (fun _ follows => follows) ?_ fun p follows => ⟨.draining, by decide, follows⟩
  intro _ p follows
  refine follows.step ?_
  intro d model _
  obtain ⟨acts, reached⟩ := model.run
  exact ⟨_, ⟨⟨_, reached.next (.drained model.phase)⟩, rfl, model.backends, model.throttle, model.scheduler, model.consumed,
    model.sent, model.abandoned⟩, rfl, rfl⟩

/-- One turn of the program is a turn of the model. -/
theorem DeviceHost.Lawful.standaloneTurn (lawful : host.Lawful view) (qrmciQueue : String) (stagePollInterval : Int64)
    (polls tasks slices : Nat) :
    Program.Meets (StandaloneFollows view settings bag .turnHead true)
      (host.standaloneTurn settings bag qrmciQueue stagePollInterval polls tasks slices)
      (fun _ => StandaloneFollows view settings bag .turnHead false) (StandaloneUnfinished view settings bag) := by
  have heads : Program.Meets (StandaloneFollows view settings bag .turnHead true)
      (Program.update (host.headStandalone settings)) (fun _ => StandaloneFollows view settings bag .draining false)
      (StandaloneUnfinished view settings bag) :=
    Program.Meets.update fun p follows => lawful.headStandalone follows
  have ends (p : σ × StandaloneVariables S) (follows : StandaloneFollows view settings bag .turnEnd false p) :
      StandaloneFollows view settings bag .turnHead false p := by
    refine follows.step ?_
    intro d model _
    obtain ⟨acts, reached⟩ := model.run
    exact ⟨_, ⟨⟨_, reached.next (.nextTurn model.phase)⟩, rfl, model.backends, model.throttle, model.scheduler,
      model.consumed, model.sent, model.abandoned⟩, rfl, rfl⟩
  refine heads.bind fun _ => (lawful.drainStandalone qrmciQueue polls).bind fun receivedTasks =>
    (lawful.executeTasks slices false tasks).bind fun executedTasks => ?_
  cases receivedTasks || executedTasks with
  | true => exact Program.Meets.pure ends
  | false => exact Program.Meets.update fun p follows => (ends p follows).later (lawful.sleep stagePollInterval p.1)

/-- The loop returns only where the flag has been read as set, and the model has then left it too. -/
theorem DeviceHost.Lawful.standaloneLoop (lawful : host.Lawful view) (qrmciQueue : String) (stagePollInterval : Int64)
    (turns polls tasks slices : Nat) :
    Program.Meets (StandaloneFollows view settings bag .turnHead false)
      (host.standaloneLoop settings bag qrmciQueue stagePollInterval turns polls tasks slices)
      (fun _ p => StandaloneFollows view settings bag .stopped false p ∧ view.raised p.1 = true)
      (StandaloneUnfinished view settings bag) := by
  refine Program.Meets.loop (lawful.flag.meets.weaken (fun _ follows => follows) ?_ (fun _ follows => follows))
    (lawful.standaloneTurn qrmciQueue stagePollInterval polls tasks slices)
    (fun p follows => ⟨.turnHead, by decide, follows⟩) turns
  intro set p read
  refine ⟨?_, read.2⟩
  intro stop
  obtain ⟨follows, raised⟩ := read.1 stop
  obtain ⟨d, model, clock, flag⟩ := follows.caughtUp fun d model => model.signals
  obtain ⟨acts, reached⟩ := model.run
  exact ⟨.intro ⟨⟨_, reached.next (.exit model.phase (flag.trans raised))⟩, rfl, model.backends, model.throttle,
    model.scheduler, model.consumed, model.sent, model.abandoned⟩ clock fun _ => raised, raised⟩

theorem standaloneMain_unstarted (host : DeviceHost σ) (bag : Bag S Ticket) {loadedConfig : Except Error Config}
    (turns polls tasks slices : Nat) {s : σ} (unstarted : (host.startUp (fun _ => "") loadedConfig s).1 = none) :
    standaloneMain host bag loadedConfig turns polls tasks slices s =
      (some .failure, (host.startUp (fun _ => "") loadedConfig s).2, none) :=
  DeviceHost.main_unstarted unstarted

/-- The standalone daemon's `main` on any host. It fails exactly if it cannot start, and has then received and sent
nothing: it has no variables yet, has only started, and does the same over any other broker. Otherwise
whatever it does up to any point is a run of the daemon's model, with the same tasks consumed, the same result messages
sent, the same tasks abandoned and scheduled, and the same registry and throttle; and it returns only from a turn head
that has read the flag as set. -/
theorem standaloneMain_refines (lawful : host.Lawful view) (bag : Bag S Ticket) (loadedConfig : Except Error Config)
    (turns polls tasks slices : Nat) (s : σ) :
    ((standaloneMain host bag loadedConfig turns polls tasks slices s).1 = some .failure ↔
      (host.startUp (fun _ => "") loadedConfig s).1 = none) ∧
    ((standaloneMain host bag loadedConfig turns polls tasks slices s).1 = some .failure →
      (standaloneMain host bag loadedConfig turns polls tasks slices s).2 =
        ((host.startUp (fun _ => "") loadedConfig s).2, none) ∧
      ∀ broker, standaloneMain (host.withBroker broker) bag loadedConfig turns polls tasks slices s =
        standaloneMain host bag loadedConfig turns polls tasks slices s) ∧
    ∀ config deviceId backends started,
      host.startUp (fun _ => "") loadedConfig s = (some (config, deviceId, backends), started) →
      ∃ code after v, standaloneMain host bag loadedConfig turns polls tasks slices s = (code, after, some v) ∧
        ∃ acts d, StandaloneRun (config.standaloneSettings deviceId) bag acts d ∧ d.history.consumed = v.consumed ∧
          d.sent = v.sent ∧ d.history.abandoned = v.abandoned ∧ d.scheduler = v.scheduler ∧
          d.availableBackends = v.availableBackends ∧ d.throttle = v.throttle ∧
          (code = some .success ∧ d.phase = .stopped ∧ view.raised after = true ∨
            code = none ∧ d.phase ≠ .stopped) := by
  have loops (config : Config) (deviceId : String) (backends : BackendRegistry) (started : σ)
      (starts : host.startUp (fun _ => "") loadedConfig s = (some (config, deviceId, backends), started)) :
      Program.Ends
        (fun _ p => StandaloneFollows view (config.standaloneSettings deviceId) bag .stopped false p ∧
          view.raised p.1 = true)
        (StandaloneUnfinished view (config.standaloneSettings deviceId) bag)
        (host.standaloneLoop (config.standaloneSettings deviceId) bag config.common.qrmciQueue
          config.common.stagePollInterval turns polls tasks slices (started, ⟨backends,
            .new (config.standaloneSettings deviceId).backendStatusPublishInterval, bag.empty, [], [], []⟩)) := by
    obtain ⟨_, _, device, time, opened, later, shown, registered⟩ := lawful.starts starts
    have start : StandaloneRun (config.standaloneSettings deviceId) bag []
        (.initial (config.standaloneSettings deviceId) bag opened) := .start ⟨opened, rfl⟩
    have run := (start.next (.pass time later)).next (.register device rfl (congrArg Prod.fst registered))
    refine lawful.standaloneLoop _ _ turns polls tasks slices _
      (.intro ⟨⟨_, run⟩, rfl, congrArg Prod.snd registered, rfl, rfl, rfl, rfl, rfl⟩ shown ?_)
    intro set
    cases set
  obtain ⟨fails, runs⟩ := DeviceHost.main_ends loops
  refine ⟨fails, ?_, ?_⟩
  · intro failed
    have unstarted := fails.mp failed
    have ran := standaloneMain_unstarted host bag turns polls tasks slices unstarted
    refine ⟨congrArg Prod.snd ran, fun broker => ?_⟩
    have elsewhere : ((host.withBroker broker).startUp (fun _ => "") loadedConfig s).1 = none := by
      rw [DeviceHost.startUp_withBroker]
      exact unstarted
    rw [standaloneMain_unstarted _ bag turns polls tasks slices elsewhere, ran, DeviceHost.startUp_withBroker]
  intro config deviceId backends started starts
  obtain ⟨code, after, v, ran, ends⟩ := runs config deviceId backends started starts
  refine ⟨code, after, v, ran, ?_⟩
  rcases ends with ⟨returned, ⟨d, model, _⟩, raised⟩ | ⟨cutOff, phase, running, d, model, _⟩
  · obtain ⟨acts, run⟩ := model.run
    exact ⟨acts, d, run, model.consumed, model.sent, model.abandoned, model.scheduler, model.backends, model.throttle,
      Or.inl ⟨returned, model.phase, raised⟩⟩
  · obtain ⟨acts, run⟩ := model.run
    refine ⟨acts, d, run, model.consumed, model.sent, model.abandoned, model.scheduler, model.backends, model.throttle,
      Or.inr ⟨cutOff, ?_⟩⟩
    rw [model.phase]
    exact running

end Refinement

/-- A daemon that gets one task executes it, answers it, sleeps and is stopped. -/
theorem standaloneMain_answers_quake :
    ∃ acts d, StandaloneRun (Config.defaults.standaloneSettings "cxxdevice5q") (Bag.fifo Ticket) acts d ∧
      d.phase = .stopped ∧
      d.sent = [⟨"results-queue", ⟨7, "results-queue", "cxxdevice5q", true, "COMPLETED", [[("00", 100)]]⟩⟩] := by
  obtain ⟨code, after, v, ran, acts, d, run, _, sent, _, _, _, _, ends⟩ :=
    (standaloneMain_refines DeviceHost.scripted_lawful (Bag.fifo Ticket) (.ok .defaults) 3 3 3 3 ⟨[.quake], false⟩).2.2
      .defaults "cxxdevice5q" _ _ rfl
  have returned : (standaloneMain .scripted (Bag.fifo Ticket) (.ok .defaults) 3 3 3 3 ⟨[.quake], false⟩).1 =
      some .success := by decide +kernel
  have answered : (standaloneMain .scripted (Bag.fifo Ticket) (.ok .defaults) 3 3 3 3
      ⟨[.quake], false⟩).2.2.map StandaloneVariables.sent =
        some [⟨"results-queue", ⟨7, "results-queue", "cxxdevice5q", true, "COMPLETED", [[("00", 100)]]⟩⟩] := by
    decide +kernel
  rw [ran] at returned answered
  refine ⟨acts, d, run, ?_, sent.trans (Option.some.inj answered)⟩
  rcases ends with ⟨_, stopped, _⟩ | ⟨cutOff, _⟩
  · exact stopped
  · cases cutOff.symm.trans returned

end Qrmci
