import Qrmci.DaemonMessaging
import Qrmci.OwnDevice
import Qrmci.Lib.Bag
import Qrmci.Lib.Trace

namespace Qrmci

/-- What one worker process runs with. -/
structure WorkerSettings where
  deviceId : String
  compilerQueue : String
  entryTimeToLive : Time
  backendStatusPublishInterval : Time
  jobWaitTimeout : Int64

/-- A worker over device `alpha`: one second to live, a publication every half second. -/
def WorkerSettings.alpha : WorkerSettings := ⟨"alpha", "compiler.alpha", 1000000000, 500000000, 60⟩

def WorkerSettings.own (settings : WorkerSettings) : OwnIdentity := ⟨settings.deviceId, settings.compilerQueue⟩

/-- Where a worker's loop stands. -/
inductive WorkerPhase
  | starting | turnHead | receiving | submitting | collecting | stopped
  deriving DecidableEq, Repr

/-- A worker process; `batch` is the turn's vector of submitted tasks with their jobs. -/
structure WorkerState (S : Type) where
  phase : WorkerPhase
  terminationRequested : Bool
  clock : Time
  availableBackends : BackendRegistry
  throttle : PublicationThrottle
  scheduler : S
  batch : List (Ticket × List Job)

variable {S : Type}

def WorkerState.initial (settings : WorkerSettings) (bag : Bag S Ticket) (clock : Time) : WorkerState S where
  phase := .starting
  terminationRequested := false
  clock := clock
  availableBackends := .new settings.entryTimeToLive
  throttle := .new settings.backendStatusPublishInterval
  scheduler := bag.empty
  batch := []

/-- What a worker does, with what it sends: the status published at the head of a turn, and the
reply to a task if that step sends one. `raised` is the flag as a step leaves it. -/
inductive WorkerAct
  | signal
  | pass (now : Time)
  | register (device : DeviceReading)
  | registerFailed (device : DeviceReading)
  | turnHead (head : TurnHead) (published : Option Backend)
  | exit
  | receive (ticket : Ticket) (reply : Option ResultSend)
  | receiveNothing
  | submit (ticket : Ticket) (reply : Option ResultSend) (raised : Bool)
  | submitted
  | collect (ticket : Ticket) (reply : Option ResultSend) (raised : Bool)
  | turnEnd

def WorkerState.registered (settings : WorkerSettings) (s : WorkerState S) (device : DeviceReading) : WorkerState S :=
  { s with
    phase := .turnHead
    availableBackends :=
      (registerOwnDevice settings.deviceId device s.availableBackends settings.compilerQueue s.clock).2 }

/-- The state after the refresh, the publication and the expiry at the head of a turn. -/
def WorkerState.headed (settings : WorkerSettings) (s : WorkerState S) (head : TurnHead) : WorkerState S :=
  let after := runTurnHead settings.own head s.availableBackends s.throttle
  { s with phase := .receiving, clock := head.expiredAt, availableBackends := after.2.1, throttle := after.2.2 }

/-- The intake of the one task a turn receives. -/
def WorkerState.intake (bag : Bag S Ticket) (s : WorkerState S) (ticket : Ticket) (compiler : MQSSCompiler) :
    IntakeRun S :=
  compileAndSchedule (fun task => bag.put ⟨ticket.number, task⟩) ticket.task s.availableBackends compiler s.scheduler

def WorkerState.received (bag : Bag S Ticket) (s : WorkerState S) (ticket : Ticket) (compiler : MQSSCompiler) :
    WorkerState S :=
  { s with phase := .submitting, scheduler := (s.intake bag ticket compiler).scheduler }

/-- The state after `submitQuantumTask` has come back: a shutdown ends the submission loop. -/
def WorkerState.submitted (s : WorkerState S) (ticket : Ticket) (rest : S) (raised : Bool) :
    Except Error (List Job) → WorkerState S
  | .ok jobs =>
    { s with terminationRequested := raised, scheduler := rest, batch := s.batch ++ [(ticket, jobs)] }
  | .error error =>
    if error.kind = .shutdownRequested then
      { s with phase := .collecting, terminationRequested := raised, scheduler := rest }
    else { s with terminationRequested := raised, scheduler := rest }

/-- The state after `collectQuantumResult` has come back: a shutdown ends the collection loop, and
the turn drops what is left of the batch. -/
def WorkerState.collected (s : WorkerState S) (rest : List (Ticket × List Job)) (raised : Bool) :
    Except Error QuantumResult → WorkerState S
  | .ok _ => { s with terminationRequested := raised, batch := rest }
  | .error error =>
    if error.kind = .shutdownRequested then { s with terminationRequested := raised, batch := [] }
    else { s with terminationRequested := raised, batch := rest }

/-- One step of a worker. A signal or the passing of time may come between any two steps, and while
the device works the flag may rise at any call; otherwise the steps follow the loop in `main`. A
signal during a receive is the same as one right after it, for nothing reads the flag in between. -/
inductive WorkerStep (settings : WorkerSettings) (bag : Bag S Ticket) :
    WorkerState S → WorkerAct → WorkerState S → Prop
  | signal {s} : WorkerStep settings bag s .signal { s with terminationRequested := true }
  | pass {s} (now : Time) : s.clock ≤ now → WorkerStep settings bag s (.pass now) { s with clock := now }
  | register {s} (device : DeviceReading) : s.phase = .starting →
      (registerOwnDevice settings.deviceId device s.availableBackends settings.compilerQueue s.clock).1 = .ok () →
      WorkerStep settings bag s (.register device) (s.registered settings device)
  | registerFailed {s error} (device : DeviceReading) : s.phase = .starting →
      (registerOwnDevice settings.deviceId device s.availableBackends settings.compilerQueue s.clock).1 =
        .error error →
      WorkerStep settings bag s (.registerFailed device) { s with phase := .stopped }
  | turnHead {s} (head : TurnHead) : s.phase = .turnHead → s.terminationRequested = false → head.Ordered s.clock →
      WorkerStep settings bag s (.turnHead head (runTurnHead settings.own head s.availableBackends s.throttle).1)
        (s.headed settings head)
  | exit {s} : s.phase = .turnHead → s.terminationRequested = true →
      WorkerStep settings bag s .exit { s with phase := .stopped }
  | receive {s} (ticket : Ticket) (compiler : MQSSCompiler) : s.phase = .receiving → s.terminationRequested = false →
      WorkerStep settings bag s (.receive ticket (settleIntake (s.intake bag ticket compiler)))
        (s.received bag ticket compiler)
  | receiveNothing {s} : s.phase = .receiving →
      WorkerStep settings bag s .receiveNothing { s with phase := .submitting }
  | submit {s} {σ : Type} (around : Surroundings σ) (before after : σ) (ticket : Ticket) (rest : S)
      (outcome : Except Error (List Job)) :
      s.phase = .submitting → bag.take s.scheduler = some (ticket, rest) →
      around.Latched → around.terminationFlag before = s.terminationRequested →
      submitQuantumTask around ticket.task before = (outcome, after) →
      WorkerStep settings bag s
        (.submit ticket (settleSubmission ticket.task outcome) (around.terminationFlag after))
        (s.submitted ticket rest (around.terminationFlag after) outcome)
  | submitted {s} : s.phase = .submitting → bag.take s.scheduler = none →
      WorkerStep settings bag s .submitted { s with phase := .collecting }
  | collect {s} {σ : Type} (around : Surroundings σ) (slices : Nat) (before after : σ) (ticket : Ticket)
      (jobs : List Job) (rest : List (Ticket × List Job)) (outcome : Except Error QuantumResult) :
      s.phase = .collecting → s.batch = (ticket, jobs) :: rest →
      around.Latched → around.terminationFlag before = s.terminationRequested →
      collectQuantumResult around slices ticket.task jobs settings.jobWaitTimeout before = some (outcome, after) →
      WorkerStep settings bag s
        (.collect ticket (settleExecution ticket.task outcome) (around.terminationFlag after))
        (s.collected rest (around.terminationFlag after) outcome)
  | turnEnd {s} : s.phase = .collecting → s.batch = [] →
      WorkerStep settings bag s .turnEnd { s with phase := .turnHead }

/-- A worker's runs, from any starting time. -/
abbrev WorkerRun (settings : WorkerSettings) (bag : Bag S Ticket) : List WorkerAct → WorkerState S → Prop :=
  Trace (fun s => ∃ clock, s = .initial settings bag clock) (WorkerStep settings bag)

variable {settings : WorkerSettings} {bag : Bag S Ticket} {act : WorkerAct} {s t : WorkerState S}

/-- Neither a submission nor a collection touches what the turn head looks after. -/
theorem WorkerState.submitted_registry (s : WorkerState S) (ticket : Ticket) (rest : S) (raised : Bool)
    (outcome : Except Error (List Job)) :
    let after := s.submitted ticket rest raised outcome
    (after.phase = s.phase ∨ after.phase = .collecting) ∧ after.clock = s.clock ∧
      after.availableBackends = s.availableBackends ∧ after.throttle = s.throttle := by
  unfold WorkerState.submitted
  split
  · exact ⟨Or.inl rfl, rfl, rfl, rfl⟩
  · split
    · exact ⟨Or.inr rfl, rfl, rfl, rfl⟩
    · exact ⟨Or.inl rfl, rfl, rfl, rfl⟩

theorem WorkerState.collected_registry (s : WorkerState S) (rest : List (Ticket × List Job)) (raised : Bool)
    (outcome : Except Error QuantumResult) :
    let after := s.collected rest raised outcome
    after.phase = s.phase ∧ after.clock = s.clock ∧ after.availableBackends = s.availableBackends ∧
      after.throttle = s.throttle := by
  unfold WorkerState.collected
  split
  · exact ⟨rfl, rfl, rfl, rfl⟩
  · split
    · exact ⟨rfl, rfl, rfl, rfl⟩
    · exact ⟨rfl, rfl, rfl, rfl⟩

/-- What a step can do to the registry, the throttle and the clock: nothing, let time pass,
register the device, or run the head of a turn. No other step begins a receive. -/
theorem WorkerStep.registry_cases (step : WorkerStep settings bag s act t) :
    (t.clock = s.clock ∧ t.availableBackends = s.availableBackends ∧ t.throttle = s.throttle ∧
      (t.phase = s.phase ∨ t.phase ≠ .starting ∧ t.phase ≠ .receiving)) ∨
    (s.clock ≤ t.clock ∧ t = { s with clock := t.clock }) ∨
    (∃ device, act = .register device ∧ s.phase = .starting ∧ t = s.registered settings device) ∨
    ∃ head, act = .turnHead head (runTurnHead settings.own head s.availableBackends s.throttle).1 ∧
      head.Ordered s.clock ∧ t = s.headed settings head := by
  cases step with
  | pass now later => exact Or.inr (Or.inl ⟨later, rfl⟩)
  | register device phase => exact Or.inr (Or.inr (Or.inl ⟨device, rfl, phase, rfl⟩))
  | turnHead head phase lowered ordered => exact Or.inr (Or.inr (Or.inr ⟨head, rfl, ordered, rfl⟩))
  | submit around before after ticket rest outcome phase =>
    obtain ⟨phases, clock, registry, throttle⟩ :=
      s.submitted_registry ticket rest (around.terminationFlag after) outcome
    refine Or.inl ⟨clock, registry, throttle, ?_⟩
    rcases phases with kept | left
    · exact Or.inl kept
    · exact Or.inr (by rw [left]; decide)
  | collect around slices before after ticket jobs rest outcome =>
    obtain ⟨phase, clock, registry, throttle⟩ := s.collected_registry rest (around.terminationFlag after) outcome
    exact Or.inl ⟨clock, registry, throttle, Or.inl phase⟩
  | signal => exact Or.inl ⟨rfl, rfl, rfl, Or.inl rfl⟩
  | registerFailed => exact Or.inl ⟨rfl, rfl, rfl, Or.inr ⟨nofun, nofun⟩⟩
  | exit => exact Or.inl ⟨rfl, rfl, rfl, Or.inr ⟨nofun, nofun⟩⟩
  | receive => exact Or.inl ⟨rfl, rfl, rfl, Or.inr ⟨nofun, nofun⟩⟩
  | receiveNothing => exact Or.inl ⟨rfl, rfl, rfl, Or.inr ⟨nofun, nofun⟩⟩
  | submitted => exact Or.inl ⟨rfl, rfl, rfl, Or.inr ⟨nofun, nofun⟩⟩
  | turnEnd => exact Or.inl ⟨rfl, rfl, rfl, Or.inr ⟨nofun, nofun⟩⟩

end Qrmci
