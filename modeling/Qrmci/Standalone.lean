import Qrmci.DaemonMessaging
import Qrmci.OwnDevice
import Qrmci.Lib.Bag
import Qrmci.Lib.Trace

namespace Qrmci

/-- What the standalone daemon runs with. Its own device has no dispatch queue. -/
structure StandaloneSettings where
  deviceId : String
  selectionPolicy : BackendSelectionPolicy
  entryTimeToLive : Time
  backendStatusPublishInterval : Time
  jobWaitTimeout : Int64

/-- A standalone daemon over device `alpha`: thirty seconds to live, a refresh every five. -/
def StandaloneSettings.alpha : StandaloneSettings := ⟨"alpha", .lowestName, 30000000000, 5000000000, 60⟩

def StandaloneSettings.own (settings : StandaloneSettings) : OwnIdentity := ⟨settings.deviceId, ""⟩

/-- Where the standalone daemon's loop stands. -/
inductive StandalonePhase
  | starting | turnHead | draining | executing | turnEnd | stopped
  deriving DecidableEq, Repr

/-- A reply handed to the broker, with the failure it reports, if any. -/
structure Reply where
  ticket : Nat
  send : ResultSend
  failure : Option Error
  deriving DecidableEq, Repr

/-- What has happened so far: the tasks consumed, numbered by position, the replies sent, the
outcome of each `executeQuantumTask`, the tasks abandoned on shutdown, whether a reading of the
flag in this turn was true, the accepted statuses, latest first, and the latest expiry. -/
structure StandaloneHistory where
  consumed : List QuantumTask
  replies : List Reply
  executed : List (Nat × Bool)
  abandoned : List Nat
  sawTermination : Bool
  accepted : List (String × Time)
  expiredAt : Time

structure StandaloneState (S : Type) where
  phase : StandalonePhase
  terminationRequested : Bool
  clock : Time
  availableBackends : BackendRegistry
  throttle : PublicationThrottle
  scheduler : S
  history : StandaloneHistory

variable {S : Type}

def StandaloneState.initial (settings : StandaloneSettings) (bag : Bag S Ticket) (clock : Time) :
    StandaloneState S where
  phase := .starting
  terminationRequested := false
  clock := clock
  availableBackends := .new settings.entryTimeToLive
  throttle := .new settings.backendStatusPublishInterval
  scheduler := bag.empty
  history := ⟨[], [], [], [], false, [], clock⟩

inductive StandaloneAct
  | signal
  | pass (now : Time)
  | register (device : DeviceReading)
  | registerFailed (device : DeviceReading)
  | turnHead (head : TurnHead)
  | exit
  | receive (task : QuantumTask)
  | drained
  | execute (ticket : Ticket)
  | executed
  | nextTurn

/-- The state after a successful registration at start-up. -/
def StandaloneState.registered (settings : StandaloneSettings) (s : StandaloneState S) (device : DeviceReading) :
    StandaloneState S :=
  { s with
    phase := .turnHead
    availableBackends := (registerOwnDevice settings.deviceId device s.availableBackends "" s.clock).2
    history := { s.history with
      accepted := stampAccepted settings.deviceId (ownInsertAccepted settings.own device s.availableBackends s.clock)
        s.clock s.history.accepted } }

/-- The state after the refresh and the expiry at the head of a turn. -/
def StandaloneState.headed (settings : StandaloneSettings) (s : StandaloneState S) (head : TurnHead) :
    StandaloneState S :=
  let after := runTurnHead settings.own head s.availableBackends s.throttle
  let taken := (s.throttle.claim head.claimedAt).1 &&
    ownInsertAccepted settings.own head.device s.availableBackends head.refreshedAt
  { s with
    phase := .draining
    clock := head.expiredAt
    availableBackends := after.2.1
    throttle := after.2.2
    history := { s.history with
      accepted := stampAccepted settings.deviceId taken head.refreshedAt s.history.accepted
      expiredAt := head.expiredAt } }

/-- The state after one drained task has gone through the intake stage. -/
def StandaloneState.received (settings : StandaloneSettings) (bag : Bag S Ticket) (s : StandaloneState S)
    (task : QuantumTask) (compiler : MQSSCompiler) : StandaloneState S :=
  let number := s.history.consumed.length
  let run := selectCompileAndSchedule (fun task => bag.put ⟨number, task⟩) task s.availableBackends compiler
    s.scheduler settings.selectionPolicy
  { s with
    scheduler := run.scheduler
    history := { s.history with
      consumed := s.history.consumed ++ [task]
      replies := match run.result with
        | .ok () => s.history.replies
        | .error error => ⟨number, sendFailure run.task error, some error⟩ :: s.history.replies } }

/-- The state after `executeQuantumTask` has come back for a task taken from the scheduler. -/
def StandaloneState.settled (s : StandaloneState S) (ticket : Ticket) (rest : S) (raised : Bool) :
    Except Error QuantumResult → StandaloneState S
  | .ok result => { s with
      terminationRequested := raised
      scheduler := rest
      history := { s.history with
        replies := ⟨ticket.number, sendResult ticket.task result, none⟩ :: s.history.replies
        executed := (ticket.number, true) :: s.history.executed } }
  | .error error =>
    if error.kind = .shutdownRequested then { s with
      phase := .turnEnd
      terminationRequested := raised
      scheduler := rest
      history := { s.history with
        executed := (ticket.number, false) :: s.history.executed
        abandoned := ticket.number :: s.history.abandoned
        sawTermination := true } }
    else { s with
      terminationRequested := raised
      scheduler := rest
      history := { s.history with
        replies := ⟨ticket.number, sendFailure ticket.task error, some error⟩ :: s.history.replies
        executed := (ticket.number, false) :: s.history.executed } }

/-- An execution leaves the registry, the throttle and their histories alone. -/
theorem StandaloneState.settled_registry (s : StandaloneState S) (ticket : Ticket) (rest : S) (raised : Bool)
    (outcome : Except Error QuantumResult) :
    let after := s.settled ticket rest raised outcome
    (after.phase = s.phase ∨ after.phase = .turnEnd) ∧ after.clock = s.clock ∧
      after.availableBackends = s.availableBackends ∧ after.throttle = s.throttle ∧
      after.history.accepted = s.history.accepted ∧ after.history.expiredAt = s.history.expiredAt := by
  unfold StandaloneState.settled
  split
  · exact ⟨Or.inl rfl, rfl, rfl, rfl, rfl, rfl⟩
  · split
    · exact ⟨Or.inr rfl, rfl, rfl, rfl, rfl, rfl⟩
    · exact ⟨Or.inl rfl, rfl, rfl, rfl, rfl, rfl⟩

/-- One step of the standalone daemon. A signal or the passing of time may come between any two
steps, and while a task executes the flag may rise at any call; otherwise the steps follow the loop
in `main`. A drain goes on while the flag reads false and a message arrives, and may end at any
point. -/
inductive StandaloneStep (settings : StandaloneSettings) (bag : Bag S Ticket) :
    StandaloneState S → StandaloneAct → StandaloneState S → Prop
  | signal {s} : StandaloneStep settings bag s .signal { s with terminationRequested := true }
  | pass {s} (now : Time) : s.clock ≤ now → StandaloneStep settings bag s (.pass now) { s with clock := now }
  | register {s} (device : DeviceReading) : s.phase = .starting →
      (registerOwnDevice settings.deviceId device s.availableBackends "" s.clock).1 = .ok () →
      StandaloneStep settings bag s (.register device) (s.registered settings device)
  | registerFailed {s error} (device : DeviceReading) : s.phase = .starting →
      (registerOwnDevice settings.deviceId device s.availableBackends "" s.clock).1 = .error error →
      StandaloneStep settings bag s (.registerFailed device) { s with phase := .stopped }
  | turnHead {s} (head : TurnHead) : s.phase = .turnHead → s.terminationRequested = false → head.Ordered s.clock →
      StandaloneStep settings bag s (.turnHead head) (s.headed settings head)
  | exit {s} : s.phase = .turnHead → s.terminationRequested = true →
      StandaloneStep settings bag s .exit { s with phase := .stopped }
  | receive {s} (task : QuantumTask) (compiler : MQSSCompiler) : s.phase = .draining → s.terminationRequested = false →
      StandaloneStep settings bag s (.receive task) (s.received settings bag task compiler)
  | drained {s} : s.phase = .draining →
      StandaloneStep settings bag s .drained { s with
        phase := .executing
        history := { s.history with
          sawTermination := s.history.sawTermination || s.terminationRequested } }
  | execute {s} {σ : Type} (around : Surroundings σ) (slices : Nat) (before after : σ) (ticket : Ticket) (rest : S)
      (outcome : Except Error QuantumResult) :
      s.phase = .executing → bag.take s.scheduler = some (ticket, rest) →
      around.Latched → around.terminationFlag before = s.terminationRequested →
      executeQuantumTask around slices ticket.task settings.jobWaitTimeout before = some (outcome, after) →
      StandaloneStep settings bag s (.execute ticket)
        (s.settled ticket rest (around.terminationFlag after) outcome)
  | executed {s} : s.phase = .executing → bag.take s.scheduler = none →
      StandaloneStep settings bag s .executed { s with phase := .turnEnd }
  | nextTurn {s} : s.phase = .turnEnd →
      StandaloneStep settings bag s .nextTurn { s with
        phase := .turnHead
        history := { s.history with sawTermination := false } }

/-- The standalone daemon's runs, from any starting time. -/
abbrev StandaloneRun (settings : StandaloneSettings) (bag : Bag S Ticket) :
    List StandaloneAct → StandaloneState S → Prop :=
  Trace (fun s => ∃ clock, s = .initial settings bag clock) (StandaloneStep settings bag)

end Qrmci
