import Qrmci.DaemonMessaging
import Qrmci.Lib.Trace

namespace Qrmci

/-- What the selector process runs with: the protocol build it decodes statuses with, the input
formats its compiler library lists, and its part of the configuration. -/
structure SelectorSettings where
  build : ProtocolBuild
  inputFormats : List String
  selectionPolicy : BackendSelectionPolicy
  entryTimeToLive : Time
  qrmciQueue : String

/-- A selector that gives a status ten seconds to live. -/
def SelectorSettings.plain : SelectorSettings :=
  ⟨⟨fun _ => false, fun _ => false, fun _ => false⟩, ["cudaq-quake"], .lowestName, 10000000000, "intake"⟩

/-- The handler of a drained status message. -/
def handleStatus (build : ProtocolBuild) (availableBackends : BackendRegistry) (status : Backend) (now : Time) :
    Bool × BackendRegistry :=
  match BackendWrapper.fromPublishedStatus build status with
  | .error _ => (false, availableBackends)
  | .ok backend => availableBackends.insertOrRefresh backend now

/-- What the handler of a drained task sends. -/
inductive Dispatch
  | forward (queue : String) (task : QuantumTask)
  | refuse (failure : ResultSend)
  deriving DecidableEq, Repr

/-- The handler of a drained task, up to its one send. -/
def handleTask (settings : SelectorSettings) (availableBackends : BackendRegistry) (task : QuantumTask) : Dispatch :=
  match chooseBackend settings.inputFormats task availableBackends settings.selectionPolicy with
  | .error error => .refuse (sendFailure task error)
  | .ok backendName =>
    match availableBackends.find backendName with
    | none =>
      .refuse (sendFailure task
        ⟨.noBackendAvailable, "Backend '" ++ backendName ++ "' is no longer registered."⟩)
    | some backend => .forward backend.queueName { task with scheduledQpu := backendName }

/-- Where the selector's loop stands. -/
inductive SelectorPhase
  | turnHead | statuses | tasks | stopped
  deriving DecidableEq, Repr

/-- One attempt to hand a message to the broker for a consumed task. -/
structure Attempt where
  ticket : Nat
  dispatch : Dispatch
  delivered : Bool
  deriving DecidableEq, Repr

/-- The selector process. The last three fields are history: the accepted statuses with their
stamps, latest first, the time of the latest expiry, and the sends made so far. -/
structure SelectorState where
  phase : SelectorPhase
  terminationRequested : Bool
  clock : Time
  availableBackends : BackendRegistry
  accepted : List (String × Time)
  expiredAt : Time
  attempts : List Attempt

def SelectorState.initial (settings : SelectorSettings) (clock : Time) : SelectorState where
  phase := .turnHead
  terminationRequested := false
  clock := clock
  availableBackends := .new settings.entryTimeToLive
  accepted := []
  expiredAt := clock
  attempts := []

inductive SelectorAct
  | signal
  | pass (now : Time)
  | enter
  | exit
  | status (message : Backend)
  | expire
  | task (ticket : Ticket) (delivered : Bool)
  | rest
  deriving DecidableEq, Repr

def SelectorState.receiveStatus (settings : SelectorSettings) (s : SelectorState) (message : Backend) : SelectorState :=
  let handled := handleStatus settings.build s.availableBackends message s.clock
  { s with
    availableBackends := handled.2
    accepted := stampAccepted message.name handled.1 s.clock s.accepted }

/-- One step of the selector. A signal or the passing of time may come between any two steps;
everything else follows the loop in `main`. A drain goes on as long as the flag reads false and a
message arrives, and may end at any point: by a timeout, a broker failure or a raised flag. -/
inductive SelectorStep (settings : SelectorSettings) : SelectorState → SelectorAct → SelectorState → Prop
  | signal {s} : SelectorStep settings s .signal { s with terminationRequested := true }
  | pass {s} (now : Time) : s.clock ≤ now → SelectorStep settings s (.pass now) { s with clock := now }
  | enter {s} : s.phase = .turnHead → s.terminationRequested = false →
      SelectorStep settings s .enter { s with phase := .statuses }
  | exit {s} : s.phase = .turnHead → s.terminationRequested = true →
      SelectorStep settings s .exit { s with phase := .stopped }
  | status {s} (message : Backend) : s.phase = .statuses → s.terminationRequested = false →
      SelectorStep settings s (.status message) (s.receiveStatus settings message)
  | expire {s} : s.phase = .statuses →
      SelectorStep settings s .expire { s with
        phase := .tasks
        availableBackends := (s.availableBackends.expire s.clock).2
        expiredAt := s.clock }
  | task {s} (ticket : Ticket) (delivered : Bool) : s.phase = .tasks → s.terminationRequested = false →
      SelectorStep settings s (.task ticket delivered) { s with
        attempts := ⟨ticket.number, handleTask settings s.availableBackends ticket.task, delivered⟩ :: s.attempts }
  | rest {s} : s.phase = .tasks → SelectorStep settings s .rest { s with phase := .turnHead }

/-- The selector's runs, from any starting time. -/
abbrev SelectorRun (settings : SelectorSettings) : List SelectorAct → SelectorState → Prop :=
  Trace (fun s => ∃ clock, s = .initial settings clock) (SelectorStep settings)

/-- The two ways out of the task handler. The `no longer registered` branch is not one of them:
a chosen backend is always still there. -/
theorem handleTask_cases (settings : SelectorSettings) (availableBackends : BackendRegistry) (task : QuantumTask) :
    (∃ error, chooseBackend settings.inputFormats task availableBackends settings.selectionPolicy = .error error ∧
      handleTask settings availableBackends task = .refuse (sendFailure task error)) ∨
    ∃ backend, availableBackends.find backend.name = some backend ∧
      eligible settings.inputFormats task backend = true ∧
      chooseBackend settings.inputFormats task availableBackends settings.selectionPolicy = .ok backend.name ∧
      handleTask settings availableBackends task =
        .forward backend.queueName { task with scheduledQpu := backend.name } := by
  unfold handleTask
  cases chosen : chooseBackend settings.inputFormats task availableBackends settings.selectionPolicy with
  | error error => exact Or.inl ⟨error, rfl, rfl⟩
  | ok name =>
    obtain ⟨backend, located, named, able⟩ := chooseBackend_ok chosen
    subst named
    exact Or.inr ⟨backend, located, able, rfl, by simp only [located]⟩

end Qrmci
