import Qrmci.DistributedDelivery
import Qrmci.Lib.Census

namespace Qrmci

variable {ι S : Type}

/-- The step takes this task from its queue. -/
def WorkerAct.takes (number : Nat) (act : WorkerAct) : Bool :=
  act.consumed.any fun ticket => ticket.number == number

/-- The step hands this task to the device. -/
def WorkerAct.submits (number : Nat) (act : WorkerAct) : Bool :=
  act.submission.any fun ticket => ticket.number == number

/-- The step sends a result for this task. -/
def WorkerAct.answers (number : Nat) (act : WorkerAct) : Bool :=
  act.reply.any fun reply => reply.1 == number

/-- The broker does not take the acknowledgement of this task, and will deliver it once more. -/
def DistributedAct.redelivers (number : Nat) : DistributedAct ι → Bool
  | .selector (.task ticket _) acked => ticket.number == number && !acked
  | .worker _ act acked _ => act.takes number && !acked
  | _ => false

/-- A worker is asked to shut down by the end of the step. -/
def DistributedAct.interrupts : DistributedAct ι → Bool
  | .worker _ act _ _ => act.raised
  | _ => false

/-- How often a task has been acknowledged in vain. -/
def redeliveries (number : Nat) (acts : List (DistributedAct ι)) : Nat :=
  acts.countP (DistributedAct.redelivers number)

def Dispatch.isForward : Dispatch → Bool
  | .forward _ _ => true
  | .refuse _ => false

/-- The selector has handed this task on, and the broker has not taken it. -/
def Attempt.loses (number : Nat) (attempt : Attempt) : Bool :=
  attempt.ticket == number && attempt.dispatch.isForward && !attempt.delivered

def Distributed.lostForwards (number : Nat) (d : Distributed ι S) : Nat :=
  d.selector.attempts.countP (Attempt.loses number)

/-- How often a task has been handed to a device. -/
def Distributed.submissionCount (number : Nat) (d : Distributed ι S) : Nat :=
  d.submissions.countP fun entry => entry.2.number == number

/-- One, once the task is injected. -/
def Distributed.entered (number : Nat) (d : Distributed ι S) : Nat :=
  if number < d.injected.length then 1 else 0

/-- A copy in this place has not been handed to a device yet, and may still be. -/
def Place.Waiting : Place ι → Prop
  | .queue _ => True
  | .scheduler _ => True
  | .batch _ => False
  | .answered => False

instance : DecidablePred (Place.Waiting (ι := ι))
  | .queue _ => inferInstanceAs (Decidable True)
  | .scheduler _ => inferInstanceAs (Decidable True)
  | .batch _ => inferInstanceAs (Decidable False)
  | .answered => inferInstanceAs (Decidable False)

@[simp] theorem Place.waiting_queue (name : String) : (Place.queue name : Place ι).Waiting := trivial

@[simp] theorem Place.waiting_scheduler (worker : ι) : (Place.scheduler worker).Waiting := trivial

@[simp] theorem Place.waiting_batch (worker : ι) : ¬ (Place.batch worker).Waiting := id

@[simp] theorem Place.waiting_answered : ¬ (Place.answered : Place ι).Waiting := id

variable [DecidableEq ι] {bag : Bag S Ticket} {d e : Distributed ι S} {number : Nat}

/-- What a step does to the copies of one task: they leave some places and turn up in others, a
shutdown gives some of them up, and there is one more only if the task is injected or redelivered. -/
structure Shift (bag : Bag S Ticket) (number : Nat) (act : DistributedAct ι) (d e : Distributed ι S)
    (sources targets : Multiset (Place ι)) (givenUp : Nat) : Prop where
  content : ∀ place, (e.content bag place).count number + sources.count place =
    (d.content bag place).count number + targets.count place
  balance : targets.card + e.lostForwards number + d.entered number + givenUp =
    sources.card + d.lostForwards number + e.entered number + if act.redelivers number then 1 else 0
  calm : act.interrupts = false → givenUp = 0
  submitted : targets.countP Place.Waiting + e.submissionCount number + d.entered number ≤
    sources.countP Place.Waiting + d.submissionCount number + e.entered number +
      if act.redelivers number then 1 else 0

/-- A step that moves no ticket and sends none. -/
theorem Shift.still {act : DistributedAct ι} (acked : act.redelivers number = false)
    (content : e.content bag = d.content bag) (attempts : e.selector.attempts = d.selector.attempts)
    (injected : e.injected = d.injected) (submissions : e.submissions = d.submissions) :
    Shift bag number act d e 0 0 0 where
  content place := by rw [content]
  balance := by simp [Distributed.lostForwards, Distributed.entered, attempts, injected, acked]
  calm _ := rfl
  submitted := by simp [Distributed.submissionCount, Distributed.entered, submissions, injected]

theorem Shift.inject (deployment : Deployment ι) (task : QuantumTask) :
    Shift bag number (.inject task) d (d.inject deployment task) 0
      (copyIf (d.injected.length = number) (.queue deployment.selector.qrmciQueue)) 0 where
  content place := by
    cases place with
    | queue name => simp [Distributed.content, Distributed.inject, Queues.count_map_put]
    | scheduler worker => simp [Distributed.content, Distributed.inject]
    | batch worker => simp [Distributed.content, Distributed.inject]
    | answered => simp [Distributed.content, Distributed.inject]
  balance := by
    simp only [Distributed.lostForwards, Distributed.entered, Distributed.inject, DistributedAct.redelivers,
      card_copyIf, List.length_append, List.length_singleton, Multiset.card_zero, Bool.false_eq_true, if_false]
    split_ifs <;> omega
  calm _ := rfl
  submitted := by
    simp only [Distributed.submissionCount, Distributed.entered, Distributed.inject, DistributedAct.redelivers,
      countP_copyIf, Place.waiting_queue, and_true, List.length_append, List.length_singleton, Multiset.countP_zero,
      Bool.false_eq_true, if_false]
    split_ifs <;> omega

section Selector

variable {deployment : Deployment ι} {ticket : Ticket} {acked delivered : Bool} {t : SelectorState}

/-- The selector takes a task from the intake queue and hands it on. -/
theorem Shift.forward {queue : String} {task : QuantumTask}
    (present : ticket ∈ d.queues deployment.selector.qrmciQueue)
    (forwards : handleTask deployment.selector d.selector.availableBackends ticket.task = .forward queue task)
    (attempts : t.attempts = ⟨ticket.number, .forward queue task, delivered⟩ :: d.selector.attempts) :
    Shift bag number (.selector (.task ticket delivered) acked) d
      (d.selected deployment (.task ticket delivered) acked t)
      (copyIf (acked = true ∧ ticket.number = number) (.queue deployment.selector.qrmciQueue))
      (copyIf (delivered = true ∧ ticket.number = number) (.queue queue)) 0 where
  content place := by
    cases place with
    | queue name =>
      have left := Queues.count_map_consume present acked Ticket.number number name
      have arrived := Queues.count_map_put (d.queues.consume deployment.selector.qrmciQueue ticket acked) queue
        ⟨ticket.number, task⟩ delivered Ticket.number number name
      simp only [Distributed.content, Distributed.selected, forwards, count_copyIf, Place.queue.injEq]
      rw [arrived]
      dsimp only
      omega
    | scheduler worker => simp [Distributed.content, Distributed.selected, forwards]
    | batch worker => simp [Distributed.content, Distributed.selected, forwards]
    | answered => simp [Distributed.content, Distributed.selected, forwards]
  balance := by
    simp only [Distributed.lostForwards, Distributed.entered, Distributed.selected, forwards, attempts,
      List.countP_cons, Attempt.loses, Dispatch.isForward, DistributedAct.redelivers, card_copyIf]
    by_cases same : ticket.number = number
    · cases acked <;> cases delivered <;> simp [same] <;> omega
    · simp [same]
  calm _ := rfl
  submitted := by
    simp only [Distributed.submissionCount, Distributed.entered, Distributed.selected, forwards,
      DistributedAct.redelivers, countP_copyIf]
    by_cases same : ticket.number = number
    · cases acked <;> cases delivered <;> simp [same]
      omega
    · simp [same]

/-- The selector takes a task from the intake queue and refuses it. -/
theorem Shift.refuse {failure : ResultSend} (present : ticket ∈ d.queues deployment.selector.qrmciQueue)
    (refuses : handleTask deployment.selector d.selector.availableBackends ticket.task = .refuse failure)
    (attempts : t.attempts = ⟨ticket.number, .refuse failure, delivered⟩ :: d.selector.attempts) :
    Shift bag number (.selector (.task ticket delivered) acked) d
      (d.selected deployment (.task ticket delivered) acked t)
      (copyIf (acked = true ∧ ticket.number = number) (.queue deployment.selector.qrmciQueue))
      (copyIf (ticket.number = number) .answered) 0 where
  content place := by
    cases place with
    | queue name =>
      have left := Queues.count_map_consume present acked Ticket.number number name
      simp only [Distributed.content, Distributed.selected, refuses, count_copyIf, Place.queue.injEq]
      simp
      omega
    | scheduler worker => simp [Distributed.content, Distributed.selected, refuses]
    | batch worker => simp [Distributed.content, Distributed.selected, refuses]
    | answered => simp [Distributed.content, Distributed.selected, refuses, List.count_cons]
  balance := by
    simp only [Distributed.lostForwards, Distributed.entered, Distributed.selected, refuses, attempts,
      List.countP_cons, Attempt.loses, Dispatch.isForward, DistributedAct.redelivers, card_copyIf]
    by_cases same : ticket.number = number
    · cases acked <;> simp [same]
      omega
    · simp [same]
  calm _ := rfl
  submitted := by
    simp only [Distributed.submissionCount, Distributed.entered, Distributed.selected, refuses,
      DistributedAct.redelivers, countP_copyIf]
    by_cases same : ticket.number = number
    · cases acked <;> simp [same]
    · simp [same]

end Selector

section Workers

variable {deployment : Deployment ι} {worker : ι} {act : WorkerAct} {acked delivered : Bool} {t : WorkerState S}

theorem worked_queue (bag : Bag S Ticket) (number : Nat) (acked delivered : Bool) (t : WorkerState S)
    (onQueue : ∀ ticket, act.consumed = some ticket → ticket ∈ d.queues (deployment.workers worker).compilerQueue)
    (name : String) :
    ((d.worked deployment worker act acked delivered t).content bag (.queue name)).count number +
        (if (acked = true ∧ act.takes number = true) ∧ name = (deployment.workers worker).compilerQueue then 1 else 0) =
      (d.content bag (.queue name)).count number := by
  unfold WorkerAct.takes
  simp only [Distributed.content, Distributed.worked]
  cases consumed : act.consumed with
  | none => simp
  | some ticket =>
    have left := Queues.count_map_consume (onQueue ticket consumed) acked Ticket.number number name
    simp only [Option.any_some, beq_iff_eq]
    exact left

theorem worked_answered (bag : Bag S Ticket) (number : Nat) (d : Distributed ι S) (deployment : Deployment ι) (worker : ι)
    (act : WorkerAct) (acked delivered : Bool) (t : WorkerState S) :
    ((d.worked deployment worker act acked delivered t).content bag .answered).count number =
      (d.content bag .answered).count number + if act.answers number = true then 1 else 0 := by
  unfold WorkerAct.answers
  simp only [Distributed.content, Distributed.worked]
  cases reply : act.reply with
  | none => simp
  | some sent => simp [List.count_cons]

theorem worked_submissionCount :
    (d.worked deployment worker act acked delivered t).submissionCount number =
      d.submissionCount number + if act.submits number = true then 1 else 0 := by
  unfold WorkerAct.submits
  simp only [Distributed.submissionCount, Distributed.worked]
  cases submission : act.submission with
  | none => simp
  | some ticket => simp [List.countP_cons]

/-- A worker that takes a task from its queue, answers one, and moves copies that it holds itself. -/
theorem Shift.worked (left arrived : Multiset (Place ι)) {givenUp : Nat}
    (onQueue : ∀ ticket, act.consumed = some ticket → ticket ∈ d.queues (deployment.workers worker).compilerQueue)
    (own : ∀ place ∈ left + arrived, place = .scheduler worker ∨ place = .batch worker)
    (scheduler : ((bag.content t.scheduler).map Ticket.number).count number + left.count (.scheduler worker) =
      (d.content bag (.scheduler worker)).count number + arrived.count (.scheduler worker))
    (batch : (t.batch.map fun pair => pair.1.number).count number + left.count (.batch worker) =
      (d.content bag (.batch worker)).count number + arrived.count (.batch worker))
    (balance : arrived.card + (if act.answers number = true then 1 else 0) + givenUp =
      left.card + if act.takes number = true then 1 else 0)
    (calm : act.raised = false → givenUp = 0)
    (submitted : arrived.countP Place.Waiting + (if act.submits number = true then 1 else 0) ≤
      left.countP Place.Waiting + if act.takes number = true then 1 else 0) :
    Shift bag number (.worker worker act acked delivered) d (d.worked deployment worker act acked delivered t)
      (copyIf (acked = true ∧ act.takes number = true) (.queue (deployment.workers worker).compilerQueue) + left)
      (copyIf (act.answers number = true) .answered + arrived) givenUp where
  content place := by
    have elsewhere (away : place ≠ .scheduler worker ∧ place ≠ .batch worker) :
        left.count place = 0 ∧ arrived.count place = 0 := by
      have absent : place ∉ left + arrived := by
        intro member
        rcases own place member with same | same
        · exact away.1 same
        · exact away.2 same
      rw [Multiset.mem_add, not_or] at absent
      exact ⟨Multiset.count_eq_zero_of_notMem absent.1, Multiset.count_eq_zero_of_notMem absent.2⟩
    simp only [Multiset.count_add, count_copyIf]
    cases place with
    | queue name =>
      have queues := worked_queue bag number acked delivered t onQueue name
      obtain ⟨none, empty⟩ := elsewhere ⟨by simp, by simp⟩
      simp only [Place.queue.injEq, reduceCtorEq, and_false, if_false, none, empty]
      omega
    | answered =>
      have answered := worked_answered bag number d deployment worker act acked delivered t
      obtain ⟨none, empty⟩ := elsewhere ⟨by simp, by simp⟩
      simp only [reduceCtorEq, and_false, and_true, if_false, none, empty]
      omega
    | scheduler other =>
      simp only [reduceCtorEq, and_false, if_false]
      by_cases here : other = worker
      · subst here
        simpa only [Distributed.content, Distributed.worked, Function.update_self, zero_add] using scheduler
      · obtain ⟨none, empty⟩ := elsewhere ⟨by simpa using here, by simp⟩
        simp only [Distributed.content, Distributed.worked, Function.update_of_ne here, none, empty]
    | batch other =>
      simp only [reduceCtorEq, and_false, if_false]
      by_cases here : other = worker
      · subst here
        simpa only [Distributed.content, Distributed.worked, Function.update_self, zero_add, Multiset.coe_count] using batch
      · obtain ⟨none, empty⟩ := elsewhere ⟨by simp, by simpa using here⟩
        simp only [Distributed.content, Distributed.worked, Function.update_of_ne here, none, empty]
  balance := by
    have lost : (d.worked deployment worker act acked delivered t).lostForwards number = d.lostForwards number := rfl
    have entered : (d.worked deployment worker act acked delivered t).entered number = d.entered number := rfl
    simp only [lost, entered, DistributedAct.redelivers, Multiset.card_add, card_copyIf]
    cases acked <;> simp <;> omega
  calm := calm
  submitted := by
    have entered : (d.worked deployment worker act acked delivered t).entered number = d.entered number := rfl
    rw [worked_submissionCount]
    simp only [entered, DistributedAct.redelivers, Multiset.countP_add, countP_copyIf, Place.waiting_queue,
      Place.waiting_answered, and_true, and_false, if_false]
    cases acked <;> simp <;> omega

/-- Every step of a worker shifts the copies of a task. -/
theorem Shift.workerStep (number : Nat)
    (step : WorkerStep (deployment.workers worker) bag (d.workers worker) act t)
    (onQueue : ∀ ticket, act.consumed = some ticket → ticket ∈ d.queues (deployment.workers worker).compilerQueue) :
    ∃ sources targets givenUp, Shift bag number (.worker worker act acked delivered) d
      (d.worked deployment worker act acked delivered t) sources targets givenUp := by
  have tickets := step.tickets
  generalize scheduler : t.scheduler = scheduler', batch : t.batch = batch' at tickets
  cases tickets with
  | idle consumed submission reply =>
    refine ⟨_, _, 0, .worked 0 0 onQueue (by simp) ?_ ?_ ?_ (fun _ => rfl) ?_⟩
    · simp [Distributed.content, scheduler]
    · simp [Distributed.content, batch]
    · simp [WorkerAct.answers, WorkerAct.takes, consumed, reply]
    · simp [WorkerAct.submits, submission]
  | @scheduled ticket prepared backend located =>
    refine ⟨_, _, 0, .worked 0 (copyIf (ticket.number = number) (.scheduler worker)) onQueue
      ?_ ?_ ?_ ?_ (fun _ => rfl) ?_⟩
    · simp +contextual
    · simp [Distributed.content, scheduler, bag.content_put, Multiset.count_cons, eq_comm]
    · simp [Distributed.content, batch]
    · simp [WorkerAct.answers, WorkerAct.reply, WorkerAct.takes, WorkerAct.consumed]
    · simp [WorkerAct.submits, WorkerAct.submission, WorkerAct.takes, WorkerAct.consumed]
  | @refused ticket send =>
    refine ⟨_, _, 0, .worked 0 0 onQueue (by simp) ?_ ?_ ?_ (fun _ => rfl) ?_⟩
    · simp [Distributed.content, scheduler]
    · simp [Distributed.content, batch]
    · simp [WorkerAct.answers, WorkerAct.reply, WorkerAct.takes, WorkerAct.consumed]
    · simp [WorkerAct.submits, WorkerAct.submission]
  | @submitted ticket rest jobs raised take =>
    refine ⟨_, _, 0, .worked (copyIf (ticket.number = number) (.scheduler worker))
      (copyIf (ticket.number = number) (.batch worker)) onQueue ?_ ?_ ?_ ?_ (fun _ => rfl) ?_⟩
    · simp +contextual [or_imp]
    · simp [Distributed.content, scheduler, bag.content_take _ _ _ take, Multiset.count_cons, eq_comm]
    · simp [Distributed.content, batch, List.count_singleton]
    · simp [WorkerAct.answers, WorkerAct.reply, WorkerAct.takes, WorkerAct.consumed]
    · simp [WorkerAct.submits, WorkerAct.submission, WorkerAct.takes, WorkerAct.consumed]
  | @rejected ticket rest send raised take =>
    refine ⟨_, _, 0, .worked (copyIf (ticket.number = number) (.scheduler worker)) 0 onQueue
      ?_ ?_ ?_ ?_ (fun _ => rfl) ?_⟩
    · simp +contextual
    · simp [Distributed.content, scheduler, bag.content_take _ _ _ take, Multiset.count_cons, eq_comm]
    · simp [Distributed.content, batch]
    · simp [WorkerAct.answers, WorkerAct.reply, WorkerAct.takes, WorkerAct.consumed]
    · simp [WorkerAct.submits, WorkerAct.submission, WorkerAct.takes, WorkerAct.consumed]
  | @abandoned ticket rest take =>
    -- The task is neither submitted nor answered: this copy is given up.
    refine ⟨_, _, if ticket.number = number then 1 else 0,
      .worked (copyIf (ticket.number = number) (.scheduler worker)) 0 onQueue ?_ ?_ ?_ ?_ ?_ ?_⟩
    · simp +contextual
    · simp [Distributed.content, scheduler, bag.content_take _ _ _ take, Multiset.count_cons, eq_comm]
    · simp [Distributed.content, batch]
    · simp [WorkerAct.answers, WorkerAct.reply, WorkerAct.takes, WorkerAct.consumed]
    · intro calm
      cases calm
    · simp [WorkerAct.submits, WorkerAct.submission, WorkerAct.takes, WorkerAct.consumed]
  | @collected ticket jobs rest send raised listed =>
    refine ⟨_, _, 0, .worked (copyIf (ticket.number = number) (.batch worker)) 0 onQueue
      ?_ ?_ ?_ ?_ (fun _ => rfl) ?_⟩
    · simp +contextual
    · simp [Distributed.content, scheduler]
    · simp [Distributed.content, listed, batch, List.count_cons]
    · simp [WorkerAct.answers, WorkerAct.reply, WorkerAct.takes, WorkerAct.consumed]
    · simp [WorkerAct.submits, WorkerAct.submission, WorkerAct.takes, WorkerAct.consumed]
  | @dropped ticket jobs rest listed =>
    -- The rest of the batch is given up, with every copy in it.
    let dropped := (d.content bag (.batch worker)).count number
    refine ⟨_, _, dropped, .worked (.replicate dropped (.batch worker)) 0 onQueue
      ?_ ?_ ?_ ?_ ?_ ?_⟩
    · intro place member
      rw [add_zero] at member
      exact Or.inr (Multiset.eq_of_mem_replicate member)
    · simp [Distributed.content, scheduler, Multiset.count_replicate]
    · simp [batch, dropped]
    · simp [WorkerAct.answers, WorkerAct.reply, WorkerAct.takes, WorkerAct.consumed]
    · intro calm
      cases calm
    · simp [WorkerAct.submits, WorkerAct.submission]

end Workers

variable {deployment : Deployment ι} {acts : List (DistributedAct ι)} {act : DistributedAct ι}

/-- Every step of the system shifts the copies of a task. -/
theorem DistributedStep.shifts (step : DistributedStep deployment bag d act e) (number : Nat) :
    ∃ sources targets givenUp, Shift bag number act d e sources targets givenUp := by
  cases step with
  | inject task => exact ⟨_, _, _, .inject deployment task⟩
  | forge message => exact ⟨_, _, _, .still rfl rfl rfl rfl rfl⟩
  | worker worker act acked delivered step onQueue => exact Shift.workerStep number step onQueue
  | selector act acked step _ onQueue =>
    cases step with
    | task ticket delivered =>
      have present := onQueue ticket delivered rfl
      cases sent : handleTask deployment.selector d.selector.availableBackends ticket.task with
      | forward queue task => exact ⟨_, _, _, .forward present sent rfl⟩
      | refuse failure => exact ⟨_, _, _, .refuse present sent rfl⟩
    | _ => exact ⟨_, _, _, .still rfl rfl rfl rfl rfl⟩

/-- The books of one task: its copies, place by place, and what they add up to. -/
structure Balanced (bag : Bag S Ticket) (number : Nat) (acts : List (DistributedAct ι)) (d : Distributed ι S)
    (copies : Multiset (Place ι)) : Prop where
  census : Census (fun place => (d.content bag place).count number) copies
  bounded : copies.card + d.lostForwards number ≤ d.entered number + redeliveries number acts
  exact : (∀ act ∈ acts, act.interrupts = false) →
    copies.card + d.lostForwards number = d.entered number + redeliveries number acts
  submitted : copies.countP Place.Waiting + d.submissionCount number ≤ d.entered number + redeliveries number acts

theorem Balanced.initial (selectorClock : Time) (clocks : ι → Time) :
    Balanced bag number [] (.initial deployment bag selectorClock clocks) 0 where
  census place := by
    cases place <;> simp [Distributed.content, Distributed.initial, WorkerState.initial, bag.content_empty]
  bounded := by simp [Distributed.lostForwards, Distributed.initial, SelectorState.initial]
  exact _ := by simp [Distributed.lostForwards, Distributed.initial, SelectorState.initial, Distributed.entered,
    redeliveries]
  submitted := by simp [Distributed.submissionCount, Distributed.initial]

theorem Balanced.step {copies : Multiset (Place ι)} (balanced : Balanced bag number acts d copies)
    (step : DistributedStep deployment bag d act e) : ∃ moved, Balanced bag number (act :: acts) e moved := by
  obtain ⟨sources, targets, givenUp, shift⟩ := step.shifts number
  obtain ⟨moved, census, union⟩ := balanced.census.shift shift.content
  have cards := congrArg Multiset.card union
  have waiting := congrArg (Multiset.countP Place.Waiting) union
  rw [Multiset.card_add, Multiset.card_add] at cards
  rw [Multiset.countP_add, Multiset.countP_add] at waiting
  have count : redeliveries number (act :: acts) =
      redeliveries number acts + if act.redelivers number then 1 else 0 := List.countP_cons
  have balance := shift.balance
  have submitted := shift.submitted
  refine ⟨moved, census, ?_, ?_, ?_⟩
  · have bounded := balanced.bounded
    omega
  · intro calm
    have none := shift.calm (calm act (List.mem_cons_self ..))
    have exact := balanced.exact fun other member => calm other (List.mem_cons_of_mem _ member)
    omega
  · have before := balanced.submitted
    omega

theorem DistributedRun.balanced (run : DistributedRun deployment bag acts d) (number : Nat) :
    ∃ copies, Balanced bag number acts d copies := by
  induction run with
  | start first =>
    obtain ⟨selectorClock, clocks, rfl⟩ := first
    exact ⟨0, .initial selectorClock clocks⟩
  | next _ step ih =>
    obtain ⟨copies, balanced⟩ := ih
    exact balanced.step step

/-- Whatever the broker refuses and whoever shuts down, the copies of an injected task are one, and
one more for each acknowledgement that failed, less the forwards that were lost and what a worker
that was asked to shut down has given up. -/
theorem distributed_copies_balance (run : DistributedRun deployment bag acts d) (number : Nat)
    (injected : number < d.injected.length) :
    ∃ copies : Multiset (Place ι), (∀ place, copies.count place = (d.content bag place).count number) ∧
      copies.card + d.lostForwards number ≤ 1 + redeliveries number acts ∧
      ((∀ act ∈ acts, act.interrupts = false) →
        copies.card + d.lostForwards number = 1 + redeliveries number acts) := by
  obtain ⟨copies, balanced⟩ := run.balanced number
  have bounded := balanced.bounded
  have exact := balanced.exact
  rw [Distributed.entered, if_pos injected] at bounded exact
  exact ⟨copies, balanced.census, bounded, exact⟩

/-- A refusal whose acknowledgement fails leaves the task answered and on the intake queue. -/
theorem distributed_copies_balance_redelivered :
    ∃ d, DistributedRun .shared (Bag.fifo Ticket)
        [.selector (.task ⟨0, .quake⟩ true) false, .selector .expire true, .selector .enter true, .inject .quake] d ∧
      ∃ copies : Multiset (Place Bool), copies.count .answered = 1 ∧ copies.count (.queue "intake") = 1 ∧
        copies.card = 2 := by
  have start : DistributedRun .shared (Bag.fifo Ticket) [] (.initial .shared (Bag.fifo Ticket) 0 fun _ => 0) :=
    .start ⟨0, fun _ => 0, rfl⟩
  have run := start
    |>.next (.inject .quake)
    |>.next (.selector .enter true (.enter rfl rfl) nofun nofun)
    |>.next (.selector .expire true (.expire rfl) nofun nofun)
    |>.next (.selector (.task ⟨0, .quake⟩ true) false (.task _ true rfl rfl) nofun (by rintro _ _ ⟨⟩; decide +kernel))
  obtain ⟨copies, counts, _, exact⟩ := distributed_copies_balance run 0 (by decide +kernel)
  refine ⟨_, run, copies, ?_, ?_, ?_⟩
  · rw [counts]
    decide +kernel
  · rw [counts]
    decide +kernel
  · have total := exact (by simp [DistributedAct.interrupts])
    generalize lost : Distributed.lostForwards 0 _ = forwards at total
    have none : forwards = 0 := by
      rw [← lost]
      decide +kernel
    rw [none] at total
    exact total

end Qrmci
