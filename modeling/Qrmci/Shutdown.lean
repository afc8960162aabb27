import Qrmci.Lib.Interruptible
import Qrmci.Runners.Advance
import Qrmci.Selector
import Qrmci.Standalone
import Qrmci.WorkerTurns

namespace Qrmci

/-- A job is not waited for once the flag is up. -/
theorem collectQuantumResult_raised {σ : Type} {around : Surroundings σ} (latched : around.Latched) (task : QuantumTask)
    (jobs : List Job) (waitTimeout : Int64) {s : σ} (up : around.terminationFlag s = true) :
    ∃ outcome after, collectQuantumResult around 1 task jobs waitTimeout s = some (outcome, after) := by
  cases jobs with
  | nil => exact ⟨_, _, rfl⟩
  | cons job rest =>
    have still := latched.now s up
    simp only [collectQuantumResult, collectJobs, awaitJob, still, if_true]
    exact ⟨_, _, rfl⟩

theorem executeQuantumTask_raised {σ : Type} {around : Surroundings σ} (latched : around.Latched) (task : QuantumTask)
    (waitTimeout : Int64) {s : σ} (up : around.terminationFlag s = true) :
    ∃ outcome after, executeQuantumTask around 1 task waitTimeout s = some (outcome, after) := by
  have still := submitQuantumTask_advances latched.staysUp task s up
  cases submitted : submitQuantumTask around task s with
  | mk outcome after =>
    rw [submitted] at still
    cases outcome with
    | error error =>
      simp only [executeQuantumTask, submitted]
      exact ⟨_, _, rfl⟩
    | ok jobs =>
      simp only [executeQuantumTask, submitted]
      exact collectQuantumResult_raised latched task jobs waitTimeout still

/-- The surroundings of a process that has been asked to stop. -/
def Surroundings.raised : Surroundings Unit := { Surroundings.calm with terminationFlag := fun _ => true }

theorem Surroundings.raised_latched : Surroundings.raised.Latched := by
  constructor <;> intros <;> rfl

section Selector

/-- What happens around the selector. -/
def SelectorAct.outside : SelectorAct → Bool
  | .signal => true
  | .pass _ => true
  | _ => false

def SelectorAct.takesMessage : SelectorAct → Bool
  | .status _ => true
  | .task _ _ => true
  | _ => false

def SelectorPhase.drains : SelectorPhase → Bool
  | .statuses => true
  | .tasks => true
  | _ => false

/-- The selector, seen from look to look: `CommunicationHandler::receive` looks at the flag before it waits for a
message, which may not come. -/
def selectorProcess (settings : SelectorSettings) : Interruptible SelectorState SelectorAct where
  init s := ∃ clock, s = .initial settings clock
  step := SelectorStep settings
  flag := SelectorState.terminationRequested
  setFlag raised s := { s with terminationRequested := raised }
  looks := SelectorAct.takesMessage
  outside := SelectorAct.outside
  waits s := s.phase.drains

/-- How many steps the selector's loop takes, at most, once the flag is up. -/
def SelectorPhase.remaining : SelectorPhase → Nat
  | .statuses => 3
  | .tasks => 2
  | .turnHead => 1
  | .stopped => 0

variable {settings : SelectorSettings} {acts more : List (Option SelectorAct)} {s t : SelectorState}
  {looked still : Bool}

theorem SelectorStep.shutsDown {act : SelectorAct} (step : SelectorStep settings s act t)
    (raised : s.terminationRequested = true) :
    t.terminationRequested = true ∧
      t.phase.remaining + (if (selectorProcess settings).own act then 1 else 0) ≤ s.phase.remaining := by
  have lowered {P : Prop} (down : s.terminationRequested = false) : P := by
    rw [raised] at down
    cases down
  cases step with
  | signal => exact ⟨rfl, le_rfl⟩
  | pass => exact ⟨raised, le_rfl⟩
  | enter _ down => exact lowered down
  | exit phase => exact ⟨raised, by rw [phase]; exact le_rfl⟩
  | status _ _ down => exact lowered down
  | expire phase => exact ⟨raised, by rw [phase]; exact le_rfl⟩
  | task _ _ _ down => exact lowered down
  | rest phase => exact ⟨raised, by rw [phase]; exact le_rfl⟩

theorem selectorProcess_lawful : (selectorProcess settings).Lawful where
  inside act outside := by
    cases act with
    | signal => rfl
    | pass => rfl
    | _ => cases outside
  looking s act t step looks := by
    cases step with
    | status _ _ down => exact ⟨down, down⟩
    | task _ _ _ down => exact ⟨down, down⟩
    | _ => cases looks
  latched _ _ _ step raised := (SelectorStep.shutsDown step raised).1
  raises := ⟨.signal, rfl, fun _ => .signal⟩
  apart s act t step outside := by
    cases step with
    | signal => exact Or.inl rfl
    | pass now later => exact Or.inr (.pass now later)
    | _ => cases outside
  shown _ _ := rfl
  same _ := rfl
  overwritten _ _ _ := rfl

/-- A receive is in progress only in a drain. -/
theorem SelectorState.draining (run : (selectorProcess settings).Run acts (s, true)) : s.phase.drains = true := by
  refine Interruptible.pending (fun s => s.phase.drains = true) ?_ ?_ run rfl
  · intro s act t step looks
    cases step with
    | status _ phase => simp only [phase, SelectorPhase.drains]
    | task _ _ phase => simp only [phase, SelectorPhase.drains]
    | _ => cases looks
  · intro s act t step outside before
    cases step with
    | signal => exact before
    | pass => exact before
    | _ => cases outside

theorem SelectorState.goesOn (settings : SelectorSettings) (raised : s.terminationRequested = true)
    (running : s.phase ≠ .stopped) :
    ∃ act t, SelectorStep settings s act t ∧ act.takesMessage = false ∧ act.outside = false := by
  cases phase : s.phase with
  | turnHead => exact ⟨.exit, _, .exit phase raised, rfl, rfl⟩
  | statuses => exact ⟨.expire, _, .expire phase, rfl, rfl⟩
  | tasks => exact ⟨.rest, _, .rest phase, rfl, rfl⟩
  | stopped => exact absurd phase running

/-- Once the flag is up, wherever the selector is then, it takes no message beyond that of a receive that has
already looked at the flag; its loop takes at most three further steps, and can always take one until it is left. -/
theorem selector_shuts_down (run : (selectorProcess settings).Run acts (s, looked))
    (raised : s.terminationRequested = true)
    (onward : Trace (· = (s, looked)) (selectorProcess settings).Step more (t, still)) :
    more.countP (·.any SelectorAct.takesMessage) ≤ looked.toNat ∧
      more.countP (·.any (selectorProcess settings).further) ≤ 3 ∧
      (t.phase ≠ .stopped → (selectorProcess settings).GoesOn (t, still)) := by
  obtain ⟨up, once⟩ := selectorProcess_lawful.ends_once onward raised
  have few (phase : SelectorPhase) : phase.remaining ≤ 3 := by
    cases phase <;> decide
  have bound := selectorProcess_lawful.winds_down (fun _ => True) (fun s => s.phase.remaining) (fun _ => 3)
    (fun _ _ _ _ _ => trivial) (fun _ _ _ step raised => (SelectorStep.shutsDown step raised).2)
    (fun _ _ _ _ _ => le_rfl) (fun s _ _ => few s.phase) (fun _ _ t _ _ _ => few t.phase) onward raised trivial
  refine ⟨(Nat.le_add_right _ _).trans once, bound.trans ?_, fun running => ?_⟩
  · split
    · exact le_rfl
    · exact few s.phase
  cases still with
  | true => exact .nothing (SelectorState.draining (run.append onward))
  | false => exact .whole (SelectorState.goesOn settings up running)

/-- A selector that is told to stop while it waits for a status still takes it, and then needs three steps. -/
theorem selector_shuts_down_receiving :
    ∃ s t, (selectorProcess .plain).Run [some .signal, none, some .enter] (s, true) ∧
      Trace (· = (s, true)) (selectorProcess .plain).Step
        [some .exit, some .rest, some .expire, some (.status .alpha)] (t, false) ∧
      t.phase = .stopped ∧
      [some .exit, some .rest, some .expire, some (.status .alpha)].countP
        (·.any SelectorAct.takesMessage) ≤ 1 ∧
      [some .exit, some .rest, some .expire, some (.status .alpha)].countP
        (·.any (selectorProcess .plain).further) ≤ 3 := by
  have start : (selectorProcess .plain).Run [] (.initial .plain 0, false) := .start ⟨⟨0, rfl⟩, rfl⟩
  have run := start
    |>.next (.whole rfl (.enter rfl rfl))
    |>.next (.look rfl (.status .alpha rfl rfl))
    |>.next (.meanwhile rfl .signal)
  have onward := run.onward
    |>.next (.rest rfl (.status .alpha rfl rfl))
    |>.next (.whole rfl (.expire rfl))
    |>.next (.whole rfl (.rest rfl))
    |>.next (.whole rfl (.exit rfl rfl))
  obtain ⟨once, few, _⟩ := selector_shuts_down run rfl onward
  exact ⟨_, _, run, onward, rfl, once, few⟩

end Selector

section Standalone

/-- What happens around the standalone daemon. -/
def StandaloneAct.outside : StandaloneAct → Bool
  | .signal => true
  | .pass _ => true
  | _ => false

/-- The steps that take a task or read the device for a new turn. -/
def StandaloneAct.looks : StandaloneAct → Bool
  | .receive _ => true
  | .turnHead _ => true
  | _ => false

def StandalonePhase.looks : StandalonePhase → Bool
  | .draining => true
  | .turnHead => true
  | _ => false

variable {S : Type} {settings : StandaloneSettings} {bag : Bag S Ticket} {acts more : List (Option StandaloneAct)}
  {s t : StandaloneState S} {looked still : Bool}

/-- The standalone daemon, seen from look to look: the loop looks at the flag before a turn's head, and a receive
before it waits for a task, which may not come. -/
def standaloneProcess (settings : StandaloneSettings) (bag : Bag S Ticket) :
    Interruptible (StandaloneState S) StandaloneAct where
  init s := ∃ clock, s = .initial settings bag clock
  step := StandaloneStep settings bag
  flag := StandaloneState.terminationRequested
  setFlag raised s := { s with terminationRequested := raised }
  looks := StandaloneAct.looks
  outside := StandaloneAct.outside
  waits s := s.phase == .draining

/-- How many steps the standalone daemon's loop takes, at most, once the flag is up. -/
def StandaloneState.remaining (bag : Bag S Ticket) (s : StandaloneState S) : Nat :=
  match s.phase with
  | .starting => 2
  | .turnHead => 1
  | .draining => (bag.content s.scheduler).card + 4
  | .executing => (bag.content s.scheduler).card + 3
  | .turnEnd => 2
  | .stopped => 0

/-- An execution takes one task from the scheduler and leaves the flag up. -/
theorem StandaloneState.settled_remaining {ticket : Ticket} {rest : S} (phase : s.phase = .executing)
    (take : bag.take s.scheduler = some (ticket, rest)) (outcome : Except Error QuantumResult) :
    (s.settled ticket rest true outcome).terminationRequested = true ∧
      (s.settled ticket rest true outcome).remaining bag + 1 ≤ s.remaining bag := by
  have content := congrArg Multiset.card (bag.content_take _ _ _ take)
  rw [Multiset.card_cons] at content
  unfold StandaloneState.settled
  split
  · refine ⟨rfl, ?_⟩
    simp only [StandaloneState.remaining, phase]
    omega
  · split
    · refine ⟨rfl, ?_⟩
      simp only [StandaloneState.remaining, phase]
      omega
    · refine ⟨rfl, ?_⟩
      simp only [StandaloneState.remaining, phase]
      omega

theorem StandaloneStep.shutsDown {act : StandaloneAct} (step : StandaloneStep settings bag s act t)
    (raised : s.terminationRequested = true) :
    t.terminationRequested = true ∧
      t.remaining bag + (if (standaloneProcess settings bag).own act then 1 else 0) ≤ s.remaining bag := by
  have lowered {P : Prop} (down : s.terminationRequested = false) : P := by
    rw [raised] at down
    cases down
  have counted : (standaloneProcess settings bag).own = fun act => !act.outside := rfl
  rw [counted]
  cases step with
  | signal => exact ⟨rfl, le_rfl⟩
  | pass => exact ⟨raised, le_rfl⟩
  | register device phase =>
    exact ⟨raised, by simp [StandaloneState.remaining, phase, StandaloneState.registered, StandaloneAct.outside]⟩
  | registerFailed device phase => exact ⟨raised, by simp [StandaloneState.remaining, phase, StandaloneAct.outside]⟩
  | turnHead _ _ down => exact lowered down
  | exit phase => exact ⟨raised, by simp [StandaloneState.remaining, phase, StandaloneAct.outside]⟩
  | receive _ _ _ down => exact lowered down
  | drained phase => exact ⟨raised, by simp [StandaloneState.remaining, phase, StandaloneAct.outside]⟩
  | execute around slices before after ticket rest outcome phase take latched flag run =>
    have up : around.terminationFlag after = true :=
      executeQuantumTask_advances latched.staysUp run (flag.trans raised)
    rw [up]
    exact s.settled_remaining phase take outcome
  | executed phase => exact ⟨raised, by simp [StandaloneState.remaining, phase, StandaloneAct.outside]⟩
  | nextTurn phase => exact ⟨raised, by simp [StandaloneState.remaining, phase, StandaloneAct.outside]⟩

/-- What is in progress is a receive or the head of a turn. -/
theorem StandaloneState.looking (run : (standaloneProcess settings bag).Run acts (s, true)) : s.phase.looks = true := by
  refine Interruptible.pending (fun s => s.phase.looks = true) ?_ ?_ run rfl
  · intro s act t step looks
    cases step with
    | turnHead _ phase => simp only [phase, StandalonePhase.looks]
    | receive _ _ phase => simp only [phase, StandalonePhase.looks]
    | _ => cases looks
  · intro s act t step outside before
    cases step with
    | signal => exact before
    | pass => exact before
    | _ => cases outside

theorem StandaloneState.goesOn (settings : StandaloneSettings) (bag : Bag S Ticket)
    (raised : s.terminationRequested = true) (running : s.phase ≠ .stopped) :
    ∃ act t, StandaloneStep settings bag s act t ∧ act.looks = false ∧ act.outside = false := by
  cases phase : s.phase with
  | starting =>
    cases read : (registerOwnDevice settings.deviceId .idle s.availableBackends "" s.clock).1 with
    | ok => exact ⟨.register .idle, _, .register .idle phase read, rfl, rfl⟩
    | error error => exact ⟨.registerFailed .idle, _, .registerFailed .idle phase read, rfl, rfl⟩
  | turnHead => exact ⟨.exit, _, .exit phase raised, rfl, rfl⟩
  | draining => exact ⟨.drained, _, .drained phase, rfl, rfl⟩
  | executing =>
    cases take : bag.take s.scheduler with
    | none => exact ⟨.executed, _, .executed phase take, rfl, rfl⟩
    | some next =>
      obtain ⟨outcome, after, run⟩ := executeQuantumTask_raised Surroundings.raised_latched next.1.task
        settings.jobWaitTimeout (s := ()) rfl
      exact ⟨.execute next.1, _, .execute .raised 1 () after next.1 next.2 outcome phase take
        Surroundings.raised_latched raised.symm run, rfl, rfl⟩
  | turnEnd => exact ⟨.nextTurn, _, .nextTurn phase, rfl, rfl⟩
  | stopped => exact absurd phase running

end Standalone

section Worker

/-- What happens around a worker. -/
def WorkerAct.outside : WorkerAct → Bool
  | .signal => true
  | .pass _ => true
  | _ => false

/-- The steps that take a task or read the device for a new turn. -/
def WorkerAct.looks : WorkerAct → Bool
  | .receive _ _ => true
  | .turnHead _ _ => true
  | _ => false

def WorkerPhase.looks : WorkerPhase → Bool
  | .receiving => true
  | .turnHead => true
  | _ => false

variable {S : Type} {settings : WorkerSettings} {bag : Bag S Ticket} {acts more : List (Option WorkerAct)}
  {s t : WorkerState S} {looked still : Bool}

/-- A worker, seen from look to look: the loop looks at the flag before a turn's head, and the receive before it
waits for a task, which may not come. -/
def workerProcess (settings : WorkerSettings) (bag : Bag S Ticket) : Interruptible (WorkerState S) WorkerAct where
  init s := ∃ clock, s = .initial settings bag clock
  step := WorkerStep settings bag
  flag := WorkerState.terminationRequested
  setFlag raised s := { s with terminationRequested := raised }
  looks := WorkerAct.looks
  outside := WorkerAct.outside
  waits s := s.phase == .receiving

/-- How many steps a worker's loop takes, at most, once the flag is up. -/
def WorkerState.remaining (bag : Bag S Ticket) (s : WorkerState S) : Nat :=
  match s.phase with
  | .starting => 2
  | .turnHead => 1
  | .receiving => 2 * (bag.content s.scheduler).card + s.batch.length + 4
  | .submitting => 2 * (bag.content s.scheduler).card + s.batch.length + 3
  | .collecting => s.batch.length + 2
  | .stopped => 0

/-- A submission takes a task from the scheduler, and may put it into the batch. -/
theorem WorkerState.submitted_remaining {ticket : Ticket} {rest : S} (phase : s.phase = .submitting)
    (take : bag.take s.scheduler = some (ticket, rest)) (raised : Bool) (outcome : Except Error (List Job)) :
    (s.submitted ticket rest raised outcome).remaining bag + 1 ≤ s.remaining bag := by
  have content := congrArg Multiset.card (bag.content_take _ _ _ take)
  rw [Multiset.card_cons] at content
  unfold WorkerState.submitted
  split
  · simp only [WorkerState.remaining, phase, List.length_append, List.length_singleton]
    omega
  · split
    · simp only [WorkerState.remaining, phase]
      omega
    · simp only [WorkerState.remaining, phase]
      omega

theorem WorkerState.collected_remaining {ticket : Ticket} {jobs : List Job} {rest : List (Ticket × List Job)}
    (phase : s.phase = .collecting) (listed : s.batch = (ticket, jobs) :: rest) (raised : Bool)
    (outcome : Except Error QuantumResult) : (s.collected rest raised outcome).remaining bag + 1 ≤ s.remaining bag := by
  unfold WorkerState.collected
  split
  · simp only [WorkerState.remaining, phase, listed, List.length_cons]
    omega
  · split
    · simp only [WorkerState.remaining, phase, listed, List.length_cons, List.length_nil]
      omega
    · simp only [WorkerState.remaining, phase, listed, List.length_cons]
      omega

theorem WorkerStep.shutsDown {act : WorkerAct} (step : WorkerStep settings bag s act t)
    (raised : s.terminationRequested = true) :
    t.remaining bag + (if (workerProcess settings bag).own act then 1 else 0) ≤ s.remaining bag := by
  have lowered {P : Prop} (down : s.terminationRequested = false) : P := by
    rw [raised] at down
    cases down
  have counted : (workerProcess settings bag).own = fun act => !act.outside := rfl
  rw [counted]
  cases step with
  | signal => exact le_rfl
  | pass => exact le_rfl
  | register device phase => simp [WorkerState.remaining, phase, WorkerState.registered, WorkerAct.outside]
  | registerFailed device phase => simp [WorkerState.remaining, phase, WorkerAct.outside]
  | turnHead _ _ down => exact lowered down
  | exit phase => simp [WorkerState.remaining, phase, WorkerAct.outside]
  | receive _ _ _ down => exact lowered down
  | receiveNothing phase => simp [WorkerState.remaining, phase, WorkerAct.outside]
  | submit around before after ticket rest outcome phase take => exact s.submitted_remaining phase take _ outcome
  | submitted phase take =>
    simp only [WorkerState.remaining, phase, WorkerAct.outside, Bool.not_false, if_true]
    omega
  | collect around slices before after ticket jobs rest outcome phase listed =>
    exact s.collected_remaining phase listed _ outcome
  | turnEnd phase => simp [WorkerState.remaining, phase, WorkerAct.outside]

/-- What is in progress is a receive or the head of a turn. -/
theorem WorkerState.looking (run : (workerProcess settings bag).Run acts (s, true)) : s.phase.looks = true := by
  refine Interruptible.pending (fun s => s.phase.looks = true) ?_ ?_ run rfl
  · intro s act t step looks
    cases step with
    | turnHead _ phase => simp only [phase, WorkerPhase.looks]
    | receive _ _ phase => simp only [phase, WorkerPhase.looks]
    | _ => cases looks
  · intro s act t step outside before
    cases step with
    | signal => exact before
    | pass => exact before
    | _ => cases outside

theorem WorkerState.goesOn (settings : WorkerSettings) (bag : Bag S Ticket)
    (raised : s.terminationRequested = true) (running : s.phase ≠ .stopped) :
    ∃ act t, WorkerStep settings bag s act t ∧ act.looks = false ∧ act.outside = false := by
  cases phase : s.phase with
  | starting =>
    cases read : (registerOwnDevice settings.deviceId .idle s.availableBackends settings.compilerQueue s.clock).1 with
    | ok => exact ⟨.register .idle, _, .register .idle phase read, rfl, rfl⟩
    | error error => exact ⟨.registerFailed .idle, _, .registerFailed .idle phase read, rfl, rfl⟩
  | turnHead => exact ⟨.exit, _, .exit phase raised, rfl, rfl⟩
  | receiving => exact ⟨.receiveNothing, _, .receiveNothing phase, rfl, rfl⟩
  | submitting =>
    cases take : bag.take s.scheduler with
    | none => exact ⟨.submitted, _, .submitted phase take, rfl, rfl⟩
    | some next =>
      exact ⟨_, _, .submit .raised () () next.1 next.2 (submitQuantumTask .raised next.1.task ()).1 phase take
        Surroundings.raised_latched raised.symm rfl, rfl, rfl⟩
  | collecting =>
    cases listed : s.batch with
    | nil => exact ⟨.turnEnd, _, .turnEnd phase listed, rfl, rfl⟩
    | cons pair rest =>
      obtain ⟨outcome, after, run⟩ := collectQuantumResult_raised Surroundings.raised_latched pair.1.task pair.2
        settings.jobWaitTimeout (s := ()) rfl
      exact ⟨_, _, .collect .raised 1 () after pair.1 pair.2 rest outcome phase listed Surroundings.raised_latched
        raised.symm run, rfl, rfl⟩
  | stopped => exact absurd phase running

end Worker

end Qrmci
