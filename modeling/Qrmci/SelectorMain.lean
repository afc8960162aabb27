import Qrmci.ConfigDurations
import Qrmci.Host

namespace Qrmci

/-- A message that the selector has taken from one of its queues; `delivered` says whether the send
that a task leads to went through. -/
inductive SelectorReceipt
  | status (message : Backend)
  | task (ticket : Ticket) (delivered : Bool)
  deriving DecidableEq, Repr

/-- The variables of the selector's `main`. The last two are history, latest first. -/
structure SelectorVariables where
  availableBackends : BackendRegistry
  receipts : List SelectorReceipt
  attempts : List Attempt

def SelectorVariables.new (settings : SelectorSettings) : SelectorVariables := ⟨.new settings.entryTimeToLive, [], []⟩

section Program

variable {σ : Type} (host : SelectorHost σ) (settings : SelectorSettings)

/-- The handler of a status: only what can be decoded reads the clock and reaches the registry. -/
def SelectorHost.onStatus (message : Backend) (p : σ × SelectorVariables) : σ × SelectorVariables :=
  match BackendWrapper.fromPublishedStatus settings.build message with
  | .error _ => (p.1, { p.2 with receipts := .status message :: p.2.receipts })
  | .ok backend =>
    let read := host.now p.1
    (read.2, { p.2 with
      availableBackends := (p.2.availableBackends.insertOrRefresh backend read.1).2
      receipts := .status message :: p.2.receipts })

def SelectorHost.send : Dispatch → σ → Bool × σ
  | .forward queue task, s => sendLogged host.sendTask task.messageLabel task queue s
  | .refuse failure, s => sendLogged host.sendResult failure.result.messageLabel failure.result failure.queue s

/-- The handler of a task. The number of the task is that of its arrival. -/
def SelectorHost.onTask (task : QuantumTask) (p : σ × SelectorVariables) : σ × SelectorVariables :=
  let number := p.2.attempts.length
  let dispatch := handleTask settings p.2.availableBackends task
  let sent := host.send dispatch p.1
  (sent.2, { p.2 with
    receipts := .task ⟨number, task⟩ sent.1 :: p.2.receipts
    attempts := ⟨number, dispatch, sent.1⟩ :: p.2.attempts })

def SelectorHost.expire (p : σ × SelectorVariables) : σ × SelectorVariables :=
  let read := host.now p.1
  (read.2, { p.2 with availableBackends := (p.2.availableBackends.expire read.1).2 })

/-- One turn of the selector's loop; `polls` bounds each of its drains. -/
def SelectorHost.turn (backendStatusQueue : String) (stagePollInterval : Int64) (polls : Nat) :
    Program (σ × SelectorVariables) Unit := do
  let _ ← drainQueue (host.statuses.beside SelectorVariables) backendStatusQueue (host.onStatus settings) polls
  Program.update host.expire
  let receivedTasks ← drainQueue (host.tasks.beside SelectorVariables) settings.qrmciQueue (host.onTask settings) polls
  if receivedTasks then return ()
  Program.update fun p => (host.sleepFor stagePollInterval p.1, p.2)

def SelectorHost.loop (backendStatusQueue : String) (stagePollInterval : Int64) (turns polls : Nat) :
    Program (σ × SelectorVariables) Unit :=
  Program.loop (Program.act fun p => ((host.terminationRequested p.1).1, (host.terminationRequested p.1).2, p.2))
    (host.turn settings backendStatusQueue stagePollInterval polls) turns

end Program

/-- The selector's `main`, from what loading the configuration has returned. There are no variables
before the configuration. -/
def selectorMain {σ : Type} (host : SelectorHost σ) (build : ProtocolBuild) (inputFormats : List String)
    (loadedConfig : Except Error Config) (turns polls : Nat) (s : σ) :
    Option ExitCode × σ × Option SelectorVariables :=
  match loadedConfig with
  | .error _ => (some .failure, s, none)
  | .ok config =>
    let settings := config.selectorSettings build inputFormats
    let ran := host.loop settings config.selector.backendStatusQueue config.common.stagePollInterval turns polls
      (s, .new settings)
    (ran.1.map fun _ => .success, ran.2.1, some ran.2.2)

/-- What of an act is a receipt. -/
def SelectorAct.receipt : SelectorAct → Option SelectorReceipt
  | .status message => some (.status message)
  | .task ticket delivered => some (.task ticket delivered)
  | _ => none

/-- A reachable state of the selector's model in a phase, with the variables of its `main`. -/
structure SelectorModel (settings : SelectorSettings) (phase : SelectorPhase) (acts : List SelectorAct)
    (s : SelectorState) (v : SelectorVariables) : Prop where
  run : SelectorRun settings acts s
  phase : s.phase = phase
  backends : s.availableBackends = v.availableBackends
  attempts : s.attempts = v.attempts
  receipts : acts.filterMap SelectorAct.receipt = v.receipts

def SelectorState.shown : HostView SelectorState := ⟨SelectorState.terminationRequested, SelectorState.clock⟩

section Refinement

variable {σ : Type} {host : SelectorHost σ} {settings : SelectorSettings} {view : HostView σ} {s : σ}
  {v : SelectorVariables} {phase : SelectorPhase} {lowered : Bool}

/-- The selector's `main` at some point of its loop. -/
abbrev SelectorFollows (view : HostView σ) (settings : SelectorSettings) (phase : SelectorPhase) (lowered : Bool) :
    σ × SelectorVariables → Prop :=
  Follows view SelectorState.shown (fun a v => ∃ acts, SelectorModel settings phase acts a v) lowered

theorem SelectorModel.passes {a : SelectorState} {time : Time} (goes : ∃ acts, SelectorModel settings phase acts a v)
    (later : a.clock ≤ time) :
    ∃ b, (∃ acts, SelectorModel settings phase acts b v) ∧ b.terminationRequested = a.terminationRequested ∧
      b.clock = time := by
  obtain ⟨acts, model⟩ := goes
  exact ⟨_, ⟨_, model.run.next (.pass time later), model.phase, model.backends, model.attempts, model.receipts⟩, rfl, rfl⟩

/-- A handled status is a step of the model. -/
theorem SelectorHost.Lawful.onStatus (lawful : host.Lawful view) (message : Backend)
    (follows : SelectorFollows view settings .statuses true (s, v)) :
    SelectorFollows view settings .statuses false (host.onStatus settings message (s, v)) := by
  unfold SelectorHost.onStatus
  cases decoded : BackendWrapper.fromPublishedStatus settings.build message with
  | error error =>
    refine Follows.forget (follows.step ?_)
    rintro a ⟨acts, model⟩ unset
    refine ⟨_, ⟨_, model.run.next (.status message model.phase (unset rfl)), model.phase, ?_, model.attempts, ?_⟩, rfl, rfl⟩
    · simp only [SelectorState.receiveStatus, handleStatus, decoded]
      exact model.backends
    · rw [List.filterMap_cons, ← model.receipts]
      rfl
  | ok backend =>
    refine Follows.forget (follows.stepAt lawful.now (fun a time goes later => SelectorModel.passes goes later) ?_)
    rintro a ⟨acts, model⟩ unset atTime
    refine ⟨_, ⟨_, model.run.next (.status message model.phase (unset rfl)), model.phase, ?_, model.attempts, ?_⟩, rfl, rfl⟩
    · simp only [SelectorState.receiveStatus, handleStatus, decoded, model.backends]
      rw [← atTime]
      rfl
    · rw [List.filterMap_cons, ← model.receipts]
      rfl

theorem SelectorHost.Lawful.send (lawful : host.Lawful view) (dispatch : Dispatch) (s : σ) :
    view.Later s (host.send dispatch s).2 := by
  cases dispatch with
  | forward queue task =>
    rw [SelectorHost.send, sendLogged_state]
    exact lawful.sendTask queue task s
  | refuse failure =>
    rw [SelectorHost.send, sendLogged_state]
    exact lawful.sendResult failure.queue failure.result s

/-- A handled task is a step of the model. -/
theorem SelectorHost.Lawful.onTask (lawful : host.Lawful view) (task : QuantumTask)
    (follows : SelectorFollows view settings .tasks true (s, v)) :
    SelectorFollows view settings .tasks false (host.onTask settings task (s, v)) := by
  have sent := follows.later (lawful.send (handleTask settings v.availableBackends task) s)
  refine Follows.forget (sent.step ?_)
  rintro a ⟨acts, model⟩ unset
  have step := model.run.next (.task ⟨v.attempts.length, task⟩
    (host.send (handleTask settings v.availableBackends task) s).1 model.phase (unset rfl))
  refine ⟨_, ⟨_, step, model.phase, model.backends, ?_, ?_⟩, rfl, rfl⟩
  · rw [model.attempts, model.backends]
  · rw [List.filterMap_cons, ← model.receipts]
    rfl

theorem SelectorHost.Lawful.expire (lawful : host.Lawful view)
    (follows : SelectorFollows view settings .statuses false (s, v)) :
    SelectorFollows view settings .tasks false (host.expire (s, v)) := by
  refine follows.stepAt lawful.now (fun a time goes later => SelectorModel.passes goes later) ?_
  rintro a ⟨acts, model⟩ _ atTime
  refine ⟨_, ⟨_, model.run.next (.expire model.phase), rfl, ?_, model.attempts, model.receipts⟩, rfl, rfl⟩
  rw [model.backends, ← atTime]
  rfl

/-- The selector's `main` at any point where it may be cut off. -/
def SelectorUnfinished (view : HostView σ) (settings : SelectorSettings) (p : σ × SelectorVariables) : Prop :=
  ∃ phase, phase ≠ .stopped ∧ SelectorFollows view settings phase false p

theorem SelectorHost.Lawful.drainStatuses (lawful : host.Lawful view) (backendStatusQueue : String) (polls : Nat) :
    Program.Meets (SelectorFollows view settings .turnHead true)
      (drainQueue (host.statuses.beside SelectorVariables) backendStatusQueue (host.onStatus settings) polls)
      (fun _ => SelectorFollows view settings .statuses false) (SelectorUnfinished view settings) := by
  have handles (message : Backend) (p : σ × SelectorVariables)
      (follows : SelectorFollows view settings .statuses true p) :
      SelectorFollows view settings .statuses false (host.onStatus settings message p) := lawful.onStatus message follows
  have drains := drainQueue_meets (lawful.statuses.carries SelectorState.shown _) handles backendStatusQueue polls
  refine drains.weaken ?_ (fun _ _ follows => follows) fun p follows => ⟨.statuses, by decide, follows⟩
  intro p follows
  refine Follows.forget (follows.step ?_)
  rintro a ⟨acts, model⟩ unset
  exact ⟨_, ⟨_, model.run.next (.enter model.phase (unset rfl)), rfl, model.backends, model.attempts, model.receipts⟩,
    rfl, rfl⟩

theorem SelectorHost.Lawful.drainTasks (lawful : host.Lawful view) (polls : Nat) :
    Program.Meets (SelectorFollows view settings .tasks false)
      (drainQueue (host.tasks.beside SelectorVariables) settings.qrmciQueue (host.onTask settings) polls)
      (fun _ => SelectorFollows view settings .turnHead false) (SelectorUnfinished view settings) := by
  have handles (task : QuantumTask) (p : σ × SelectorVariables) (follows : SelectorFollows view settings .tasks true p) :
      SelectorFollows view settings .tasks false (host.onTask settings task p) := lawful.onTask task follows
  have drains := drainQueue_meets (lawful.tasks.carries SelectorState.shown _) handles settings.qrmciQueue polls
  refine drains.weaken (fun _ follows => follows) ?_ fun p follows => ⟨.tasks, by decide, follows⟩
  intro _ p follows
  refine follows.step ?_
  rintro a ⟨acts, model⟩ _
  exact ⟨_, ⟨_, model.run.next (.rest model.phase), rfl, model.backends, model.attempts, model.receipts⟩, rfl, rfl⟩

/-- One turn of the program is a turn of the model. -/
theorem SelectorHost.Lawful.turn (lawful : host.Lawful view) (backendStatusQueue : String) (stagePollInterval : Int64)
    (polls : Nat) :
    Program.Meets (SelectorFollows view settings .turnHead true)
      (host.turn settings backendStatusQueue stagePollInterval polls)
      (fun _ => SelectorFollows view settings .turnHead false) (SelectorUnfinished view settings) := by
  refine (lawful.drainStatuses backendStatusQueue polls).bind fun _ => ?_
  have expires : Program.Meets (SelectorFollows view settings .statuses false) (Program.update host.expire)
      (fun _ => SelectorFollows view settings .tasks false) (SelectorUnfinished view settings) :=
    Program.Meets.update fun p follows => lawful.expire follows
  refine expires.bind fun _ => (lawful.drainTasks polls).bind ?_
  intro receivedTasks
  cases receivedTasks with
  | true => exact Program.Meets.pure fun p follows => follows
  | false => exact Program.Meets.update fun p follows => follows.later (lawful.sleep stagePollInterval p.1)

/-- The loop returns only where the flag has been read as set, and the model has then left it too. -/
theorem SelectorHost.Lawful.loop (lawful : host.Lawful view) (backendStatusQueue : String) (stagePollInterval : Int64)
    (turns polls : Nat) :
    Program.Meets (SelectorFollows view settings .turnHead false)
      (host.loop settings backendStatusQueue stagePollInterval turns polls)
      (fun _ p => SelectorFollows view settings .stopped false p ∧ view.raised p.1 = true)
      (SelectorUnfinished view settings) := by
  refine Program.Meets.loop (lawful.flag.meets.weaken (fun _ follows => follows) ?_ (fun _ follows => follows))
    (lawful.turn backendStatusQueue stagePollInterval polls) (fun p follows => ⟨.turnHead, by decide, follows⟩) turns
  intro set p read
  refine ⟨?_, read.2⟩
  intro stop
  obtain ⟨follows, raised⟩ := read.1 stop
  obtain ⟨a, ⟨acts, model⟩, clock, _⟩ := follows
  have signalled : SelectorRun settings (.signal :: acts) { a with terminationRequested := true } :=
    model.run.next .signal
  exact ⟨.intro ⟨_, signalled.next (.exit model.phase rfl), rfl, model.backends, model.attempts, model.receipts⟩ clock
    fun _ => raised, raised⟩

/-- The selector's `main` on any host: without a configuration it fails at once and touches nothing. With one,
whatever it does up to any point is a run of the selector's model, with the same messages received, the same
sends made and the same backends known; and it returns only from a turn head that has read the flag as set. -/
theorem selectorMain_refines (lawful : host.Lawful view) (build : ProtocolBuild) (inputFormats : List String)
    (turns polls : Nat) (s : σ) :
    (∀ error, selectorMain host build inputFormats (.error error) turns polls s = (some .failure, s, none)) ∧
    ∀ config, ∃ code after v, selectorMain host build inputFormats (.ok config) turns polls s = (code, after, some v) ∧
      ∃ acts state, SelectorRun (config.selectorSettings build inputFormats) acts state ∧
        state.availableBackends = v.availableBackends ∧ state.attempts = v.attempts ∧
        acts.filterMap SelectorAct.receipt = v.receipts ∧
        (code = some .success ∧ state.phase = .stopped ∧ view.raised after = true ∨
          code = none ∧ state.phase ≠ .stopped) := by
  refine ⟨fun _ => rfl, ?_⟩
  intro config
  have start : SelectorFollows view (config.selectorSettings build inputFormats) .turnHead false
      (s, .new (config.selectorSettings build inputFormats)) := by
    refine .intro ⟨[], .start ⟨view.clock s, rfl⟩, rfl, rfl, rfl, rfl⟩ (le_refl _) ?_
    intro set
    cases set
  have ended := lawful.loop config.selector.backendStatusQueue config.common.stagePollInterval turns polls _ start
  cases ran : host.loop (config.selectorSettings build inputFormats) config.selector.backendStatusQueue
      config.common.stagePollInterval turns polls (s, .new (config.selectorSettings build inputFormats)) with
  | mk outcome p =>
    rw [ran] at ended
    refine ⟨outcome.map fun _ => .success, p.1, p.2, by simp only [selectorMain, ran], ?_⟩
    cases outcome with
    | none =>
      obtain ⟨phase, running, a, ⟨acts, model⟩, _⟩ := ended
      refine ⟨acts, a, model.run, model.backends, model.attempts, model.receipts, Or.inr ⟨rfl, ?_⟩⟩
      rw [model.phase]
      exact running
    | some value =>
      obtain ⟨⟨a, ⟨acts, model⟩, _⟩, raised⟩ := ended
      exact ⟨acts, a, model.run, model.backends, model.attempts, model.receipts, Or.inl ⟨rfl, model.phase, raised⟩⟩

end Refinement

/-- The statuses and tasks that wait for a selector, and whether it has been told to stop. -/
structure SelectorScript where
  statuses : List Backend
  tasks : List QuantumTask
  stopped : Bool

/-- A host with a clock that stands still, on which every message arrives and a sleep is interrupted
by a signal. -/
def SelectorHost.scripted : SelectorHost SelectorScript where
  terminationRequested s := (s.stopped, s)
  now s := (0, s)
  sleepFor _ s := { s with stopped := true }
  tasks := .scripted SelectorScript.stopped fun s =>
    match s.tasks with
    | [] => none
    | task :: rest => some (task, { s with tasks := rest })
  sendResult _ _ s := (.ok (), s)
  statuses := .scripted SelectorScript.stopped fun s =>
    match s.statuses with
    | [] => none
    | status :: rest => some (status, { s with statuses := rest })
  sendTask _ _ s := (.ok (), s)

theorem SelectorHost.scripted_lawful : SelectorHost.scripted.Lawful ⟨SelectorScript.stopped, fun _ => 0⟩ where
  flag := ⟨fun s => .refl _ s, fun _ set => set, fun _ unset => unset⟩
  now := ⟨fun s => .refl _ s, fun _ => le_refl _, fun _ => le_refl _⟩
  sleep _ s := ⟨fun _ => rfl, le_refl _⟩
  tasks := by
    refine Messenger.scripted_lawful ?_
    intro s message rest taken
    split at taken
    · cases taken
    · cases taken
      rfl
  sendResult _ _ s := .refl _ s
  statuses := by
    refine Messenger.scripted_lawful ?_
    intro s message rest taken
    split at taken
    · cases taken
    · cases taken
      rfl
  sendTask _ _ s := .refl _ s

/-- A selector that gets one status and one task forwards the task, sleeps and is stopped. -/
theorem selectorMain_forwards_quake :
    ∃ acts state, SelectorRun (Config.defaults.selectorSettings SelectorSettings.plain.build ["cudaq-quake"]) acts state ∧
      state.phase = .stopped ∧
      state.attempts = [⟨0, .forward "compiler.alpha" { QuantumTask.quake with scheduledQpu := "alpha" }, true⟩] := by
  obtain ⟨code, after, v, ran, acts, state, run, _, attempts, _, ends⟩ :=
    (selectorMain_refines SelectorHost.scripted_lawful SelectorSettings.plain.build ["cudaq-quake"] 3 3
      ⟨[.alpha], [.quake], false⟩).2 .defaults
  have returned : (selectorMain .scripted SelectorSettings.plain.build ["cudaq-quake"] (.ok .defaults) 3 3
      ⟨[.alpha], [.quake], false⟩).1 = some .success := by decide +kernel
  have sent : (selectorMain .scripted SelectorSettings.plain.build ["cudaq-quake"] (.ok .defaults) 3 3
      ⟨[.alpha], [.quake], false⟩).2.2.map SelectorVariables.attempts =
        some [⟨0, .forward "compiler.alpha" { QuantumTask.quake with scheduledQpu := "alpha" }, true⟩] := by
    decide +kernel
  rw [ran] at returned sent
  refine ⟨acts, state, run, ?_, attempts.trans (Option.some.inj sent)⟩
  rcases ends with ⟨_, stopped, _⟩ | ⟨cutOff, _⟩
  · exact stopped
  · cases cutOff.symm.trans returned

end Qrmci
