import Qrmci.Selector
import Qrmci.WorkerTickets
import Qrmci.Lib.Queues

namespace Qrmci

/-- One selector and any number of workers. -/
structure Deployment (ι : Type) where
  selector : SelectorSettings
  workers : ι → WorkerSettings

/-- No two workers own the same device, and no worker consumes from the intake queue. Workers may
share a compiler queue. -/
structure Deployment.Separate {ι : Type} (deployment : Deployment ι) : Prop where
  distinct : Function.Injective fun worker => (deployment.workers worker).deviceId
  intake : ∀ worker, (deployment.workers worker).compilerQueue ≠ deployment.selector.qrmciQueue

/-- Two workers, over `alpha` and over `beta`, that share one compiler queue. -/
def Deployment.shared : Deployment Bool where
  selector := .plain
  workers isAlpha := { WorkerSettings.alpha with deviceId := if isAlpha then "alpha" else "beta" }

theorem Deployment.shared_separate : Deployment.shared.Separate where
  distinct := by
    intro one other
    revert one other
    decide
  intake := by decide

/-- A result message that the selector (`none`) or a worker has tried to send. -/
structure Answer (ι : Type) where
  sender : Option ι
  ticket : Nat
  send : ResultSend
  delivered : Bool

/-- The distributed system: the task queues, the status queue, the processes, and as history the
injected tasks, numbered by position, the result messages, and the tasks handed to the devices. -/
structure Distributed (ι S : Type) where
  queues : Queues String Ticket
  statuses : Multiset Backend
  selector : SelectorState
  workers : ι → WorkerState S
  injected : List QuantumTask
  answers : List (Answer ι)
  submissions : List (ι × Ticket)

/-- What happens in the system: somebody injects a task or puts any status message on the status
queue, or one of the processes takes a step. `acked` says whether the broker took the step's
acknowledgement, `delivered` whether it took its message. -/
inductive DistributedAct (ι : Type)
  | inject (task : QuantumTask)
  | forge (message : Backend)
  | selector (act : SelectorAct) (acked : Bool)
  | worker (worker : ι) (act : WorkerAct) (acked delivered : Bool)

variable {ι S : Type}

def Distributed.initial (deployment : Deployment ι) (bag : Bag S Ticket) (selectorClock : Time) (clocks : ι → Time) :
    Distributed ι S where
  queues _ := 0
  statuses := 0
  selector := .initial deployment.selector selectorClock
  workers worker := .initial (deployment.workers worker) bag (clocks worker)
  injected := []
  answers := []
  submissions := []

def Distributed.inject (deployment : Deployment ι) (d : Distributed ι S) (task : QuantumTask) : Distributed ι S :=
  { d with
    queues := d.queues.put deployment.selector.qrmciQueue ⟨d.injected.length, task⟩ true
    injected := d.injected ++ [task] }

/-- The system after a step of the selector that has led it to `t`. -/
def Distributed.selected (deployment : Deployment ι) (d : Distributed ι S) (act : SelectorAct) (acked : Bool)
    (t : SelectorState) : Distributed ι S :=
  match act with
  | .status message =>
    { d with selector := t, statuses := if acked then d.statuses.erase message else d.statuses }
  | .task ticket delivered =>
    let queues := d.queues.consume deployment.selector.qrmciQueue ticket acked
    match handleTask deployment.selector d.selector.availableBackends ticket.task with
    | .forward queue task => { d with selector := t, queues := queues.put queue ⟨ticket.number, task⟩ delivered }
    | .refuse failure =>
      { d with selector := t, queues := queues, answers := ⟨none, ticket.number, failure, delivered⟩ :: d.answers }
  | _ => { d with selector := t }

variable [DecidableEq ι]

/-- The system after a step of a worker that has led it to `t`. -/
def Distributed.worked (deployment : Deployment ι) (d : Distributed ι S) (worker : ι) (act : WorkerAct)
    (acked delivered : Bool) (t : WorkerState S) : Distributed ι S where
  queues := match act.consumed with
    | some ticket => d.queues.consume (deployment.workers worker).compilerQueue ticket acked
    | none => d.queues
  statuses := match act with
    | .turnHead _ (some published) => if delivered then published ::ₘ d.statuses else d.statuses
    | _ => d.statuses
  selector := d.selector
  workers := Function.update d.workers worker t
  injected := d.injected
  answers := match act.reply with
    | some (number, send) => ⟨some worker, number, send, delivered⟩ :: d.answers
    | none => d.answers
  submissions := match act.submission with
    | some ticket => (worker, ticket) :: d.submissions
    | none => d.submissions

/-- One step of the system, by any of its parties: a process only receives what is on its queue. -/
inductive DistributedStep (deployment : Deployment ι) (bag : Bag S Ticket) :
    Distributed ι S → DistributedAct ι → Distributed ι S → Prop
  | inject {d} (task : QuantumTask) : DistributedStep deployment bag d (.inject task) (d.inject deployment task)
  | forge {d} (message : Backend) :
      DistributedStep deployment bag d (.forge message) { d with statuses := message ::ₘ d.statuses }
  | selector {d t} (act : SelectorAct) (acked : Bool) : SelectorStep deployment.selector d.selector act t →
      (∀ message, act = .status message → message ∈ d.statuses) →
      (∀ ticket delivered, act = .task ticket delivered → ticket ∈ d.queues deployment.selector.qrmciQueue) →
      DistributedStep deployment bag d (.selector act acked) (d.selected deployment act acked t)
  | worker {d t} (worker : ι) (act : WorkerAct) (acked delivered : Bool) :
      WorkerStep (deployment.workers worker) bag (d.workers worker) act t →
      (∀ ticket, act.consumed = some ticket → ticket ∈ d.queues (deployment.workers worker).compilerQueue) →
      DistributedStep deployment bag d (.worker worker act acked delivered)
        (d.worked deployment worker act acked delivered t)

/-- The system's runs, under every interleaving and from any starting times. -/
abbrev DistributedRun (deployment : Deployment ι) (bag : Bag S Ticket) :
    List (DistributedAct ι) → Distributed ι S → Prop :=
  Trace (fun d => ∃ selectorClock clocks, d = .initial deployment bag selectorClock clocks)
    (DistributedStep deployment bag)

end Qrmci
