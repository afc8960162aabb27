import Qrmci.DistributedMembers
import Qrmci.SelectorRouting

namespace Qrmci

/-- Where an injected task can be. -/
inductive Place (ι : Type)
  | queue (name : String)
  | scheduler (worker : ι)
  | batch (worker : ι)
  | answered
  deriving DecidableEq

/-- The broker takes every message and every acknowledgement, and nobody requests a shutdown. -/
def DistributedAct.Undisturbed {ι : Type} : DistributedAct ι → Prop
  | .inject _ => True
  | .forge _ => True
  | .selector (.task _ delivered) acked => acked = true ∧ delivered = true
  | .selector act acked => acked = true ∧ act ≠ .signal
  | .worker _ act acked delivered => acked = true ∧ delivered = true ∧ act.raised = false

variable {ι S : Type}

/-- The numbers of the tasks in one place. -/
def Distributed.content (bag : Bag S Ticket) (d : Distributed ι S) : Place ι → Multiset Nat
  | .queue name => (d.queues name).map Ticket.number
  | .scheduler worker => (bag.content (d.workers worker).scheduler).map Ticket.number
  | .batch worker => (d.workers worker).batch.map fun pair => pair.1.number
  | .answered => d.answers.map Answer.ticket

/-- The message is delivered, and answers the task of the ticket under its number. -/
structure Answer.Settles (answer : Answer ι) (ticket : Ticket) : Prop where
  numbered : answer.ticket = ticket.number
  answers : answer.send.Answers ticket.task
  delivered : answer.delivered = true

/-- Every ticket a worker holds is genuine. -/
structure HoldsGenuine (bag : Bag S Ticket) (injected : List QuantumTask) (s : WorkerState S) : Prop where
  scheduled : ∀ ticket ∈ bag.content s.scheduler, ticket.Genuine injected
  batched : ∀ pair ∈ s.batch, pair.1.Genuine injected

/-- Every injected task is in one place; every ticket is genuine and every answer is the answer to
an injected task. -/
structure Accounted (bag : Bag S Ticket) (d : Distributed ι S) : Prop where
  placed : PlacedOnce (· < d.injected.length) (d.content bag)
  queued : ∀ name, ∀ ticket ∈ d.queues name, ticket.Genuine d.injected
  held : ∀ worker, HoldsGenuine bag d.injected (d.workers worker)
  answers : ∀ answer ∈ d.answers, answer.delivered = true ∧ answer.send.AnswersOne answer.ticket d.injected

variable {bag : Bag S Ticket} {d e : Distributed ι S}

theorem Accounted.initial (deployment : Deployment ι) (bag : Bag S Ticket) (selectorClock : Time) (clocks : ι → Time) :
    Accounted bag (Distributed.initial deployment bag selectorClock clocks) where
  placed := by
    refine ⟨fun _ live => absurd live (Nat.not_lt_zero _), ?_⟩
    intro token place member
    cases place <;>
      simp [Distributed.content, Distributed.initial, WorkerState.initial, bag.content_empty] at member
  queued := nofun
  held _ := ⟨by simp [Distributed.initial, WorkerState.initial, bag.content_empty], nofun⟩
  answers := nofun

variable {deployment : Deployment ι}

theorem Accounted.inject [DecidableEq ι] (ok : Accounted bag d) (deployment : Deployment ι) (task : QuantumTask) :
    Accounted bag (d.inject deployment task) where
  placed := by
    refine ok.placed.enter d.injected.length (.queue deployment.selector.qrmciQueue) (Nat.lt_irrefl _) ?_ ?_
    · intro other
      simp only [Distributed.inject, List.length_append, List.length_singleton]
      omega
    · intro place
      cases place with
      | queue name =>
        simp only [Distributed.content, Distributed.inject, Queues.map_put]
        simp [tokenAt]
      | scheduler worker => simp [Distributed.content, Distributed.inject, tokenAt]
      | batch worker => simp [Distributed.content, Distributed.inject, tokenAt]
      | answered => simp [Distributed.content, Distributed.inject, tokenAt]
  queued := by
    intro name ticket member
    simp only [Distributed.inject] at member
    rcases Queues.mem_put member with old | ⟨_, new⟩
    · exact (ok.queued name ticket old).append _
    · subst new
      exact ⟨task, by simp [Distributed.inject], .refl task⟩
  held worker := ⟨fun ticket member => ((ok.held worker).scheduled ticket member).append _,
    fun pair member => ((ok.held worker).batched pair member).append _⟩
  answers answer member := ⟨(ok.answers answer member).1, (ok.answers answer member).2.append _⟩

/-- The selector hands a task on to a queue. -/
theorem Accounted.forward [DecidableEq ι] (ok : Accounted bag d) {source target : String} {ticket : Ticket}
    {task : QuantumTask} (present : ticket ∈ d.queues source) (same : task.SameRequest ticket.task)
    (t : SelectorState) :
    Accounted bag { d with
      selector := t
      queues := (d.queues.consume source ticket true).put target ⟨ticket.number, task⟩ true } where
  placed := by
    refine ok.placed.move ticket.number (.queue source) (.queue target) ?_
    intro place
    cases place with
    | queue name =>
      have before := Queues.map_consume present Ticket.number name
      simp only [Distributed.content, Queues.map_put]
      rw [← before]
      simp [tokenAt, add_right_comm]
    | scheduler worker => simp [Distributed.content, tokenAt]
    | batch worker => simp [Distributed.content, tokenAt]
    | answered => simp [Distributed.content, tokenAt]
  queued := by
    intro name other member
    dsimp only at member
    rcases Queues.mem_put member with old | ⟨_, new⟩
    · exact ok.queued name other (Queues.mem_consume old)
    · subst new
      exact (ok.queued source ticket present).transfer same
  held := ok.held
  answers := ok.answers

theorem answers_cons {ticket : Ticket} {injected : List QuantumTask} {answers : List (Answer ι)} {answer : Answer ι}
    (genuine : ticket.Genuine injected) (settled : answer.Settles ticket)
    (before : ∀ other ∈ answers, other.delivered = true ∧ other.send.AnswersOne other.ticket injected) :
    ∀ other ∈ answer :: answers, other.delivered = true ∧ other.send.AnswersOne other.ticket injected := by
  intro other member
  rcases List.mem_cons.mp member with new | old
  · subst new
    rw [settled.numbered]
    exact ⟨settled.delivered, genuine.answered settled.answers⟩
  · exact before other old

/-- A party takes a task from a queue and answers it. -/
theorem Accounted.refuse [DecidableEq ι] (ok : Accounted bag d) {source : String} {ticket : Ticket}
    (answer : Answer ι) (present : ticket ∈ d.queues source) (settled : answer.Settles ticket) :
    Accounted bag { d with
      queues := d.queues.consume source ticket true
      answers := answer :: d.answers } where
  placed := by
    refine ok.placed.move ticket.number (.queue source) .answered ?_
    intro place
    cases place with
    | queue name =>
      have before := Queues.map_consume present Ticket.number name
      simp only [Distributed.content]
      rw [← before]
      simp [tokenAt]
    | scheduler worker => simp [Distributed.content, tokenAt]
    | batch worker => simp [Distributed.content, tokenAt]
    | answered =>
      simp [Distributed.content, tokenAt, settled.numbered, ← Multiset.cons_coe, ← Multiset.singleton_add, add_comm]
  queued := by
    intro name other member
    dsimp only at member
    exact ok.queued name other (Queues.mem_consume member)
  held := ok.held
  answers := answers_cons (ok.queued source ticket present) settled ok.answers

/-- What is taken from a worker's scheduler is genuine, and so is what is left. -/
theorem Accounted.taken (ok : Accounted bag d) {worker : ι} {ticket : Ticket} {rest : S}
    (take : bag.take (d.workers worker).scheduler = some (ticket, rest)) :
    ticket.Genuine d.injected ∧ ∀ other ∈ bag.content rest, other.Genuine d.injected :=
  bag.forall_take (ok.held worker).scheduled take

section Workers

variable [DecidableEq ι] {worker : ι} {t : WorkerState S} {ticket : Ticket}

theorem HoldsGenuine.updated {injected : List QuantumTask} {workers : ι → WorkerState S}
    (held : ∀ other, HoldsGenuine bag injected (workers other)) (changed : HoldsGenuine bag injected t) :
    ∀ other, HoldsGenuine bag injected (Function.update workers worker t other) := by
  intro other
  by_cases here : other = worker
  · subst here
    rw [Function.update_self]
    exact changed
  · rw [Function.update_of_ne here]
    exact held other

/-- A step of one worker moves a task if it does so on the queues, among the answers and in what the
worker itself holds; the other workers hold what they held. -/
theorem moved_by_worker (workers : e.workers = Function.update d.workers worker t) {number : Nat}
    {source target : Place ι}
    (away : ∀ other, other ≠ worker →
      tokenAt number source (.scheduler other) = tokenAt number target (.scheduler other) ∧
        tokenAt number source (.batch other) = tokenAt number target (.batch other))
    (queues : ∀ name, e.content bag (.queue name) + tokenAt number source (.queue name) =
      d.content bag (.queue name) + tokenAt number target (.queue name))
    (scheduler : (bag.content t.scheduler).map Ticket.number + tokenAt number source (.scheduler worker) =
      d.content bag (.scheduler worker) + tokenAt number target (.scheduler worker))
    (batch : (t.batch.map fun pair => pair.1.number : Multiset Nat) + tokenAt number source (.batch worker) =
      d.content bag (.batch worker) + tokenAt number target (.batch worker))
    (answered : e.content bag .answered + tokenAt number source .answered =
      d.content bag .answered + tokenAt number target .answered) :
    Moved (d.content bag) number source target (e.content bag) := by
  intro place
  cases place with
  | queue name => exact queues name
  | scheduler other =>
    by_cases here : other = worker
    · subst here
      simpa only [Distributed.content, workers, Function.update_self] using scheduler
    · simp only [Distributed.content, workers, Function.update_of_ne here, (away other here).1]
  | batch other =>
    by_cases here : other = worker
    · subst here
      simpa only [Distributed.content, workers, Function.update_self] using batch
    · simp only [Distributed.content, workers, Function.update_of_ne here, (away other here).2]
  | answered => exact answered

/-- A worker that keeps its tickets changes nothing in the books. -/
theorem Accounted.kept (ok : Accounted bag d) (scheduler : t.scheduler = (d.workers worker).scheduler)
    (batch : t.batch = (d.workers worker).batch) :
    Accounted bag { d with workers := Function.update d.workers worker t } where
  placed := by
    refine ok.placed.move 0 .answered .answered (moved_by_worker rfl (fun _ _ => ⟨rfl, rfl⟩) (fun _ => rfl) ?_ ?_ rfl)
    · rw [scheduler]
      rfl
    · rw [batch]
      rfl
  queued := ok.queued
  held := .updated ok.held ⟨by rw [scheduler]; exact (ok.held worker).scheduled,
    by rw [batch]; exact (ok.held worker).batched⟩
  answers := ok.answers

/-- A worker takes a task from its queue and schedules it. -/
theorem Accounted.schedule (ok : Accounted bag d) {source : String} {prepared : QuantumTask}
    (present : ticket ∈ d.queues source) (same : prepared.SameRequest ticket.task)
    (scheduler : t.scheduler = bag.put ⟨ticket.number, prepared⟩ (d.workers worker).scheduler)
    (batch : t.batch = (d.workers worker).batch) :
    Accounted bag { d with
      queues := d.queues.consume source ticket true
      workers := Function.update d.workers worker t } where
  placed := by
    refine ok.placed.move ticket.number (.queue source) (.scheduler worker) (moved_by_worker rfl ?_ ?_ ?_ ?_ ?_)
    · intro other here
      simp [tokenAt, here]
    · intro name
      have before := Queues.map_consume present Ticket.number name
      simp only [Distributed.content]
      rw [← before]
      simp [tokenAt]
    · simp [Distributed.content, tokenAt, scheduler, bag.content_put, ← Multiset.singleton_add, add_comm]
    · simp [Distributed.content, tokenAt, batch]
    · simp [Distributed.content, tokenAt]
  queued := by
    intro name other member
    dsimp only at member
    exact ok.queued name other (Queues.mem_consume member)
  held := by
    refine .updated ok.held ⟨?_, by rw [batch]; exact (ok.held worker).batched⟩
    rw [scheduler]
    exact bag.forall_put (ok.held worker).scheduled ((ok.queued source ticket present).transfer same)
  answers := ok.answers

/-- A worker moves a task from its scheduler to its batch. -/
theorem Accounted.submit (ok : Accounted bag d) {jobs : List Job}
    (take : bag.take (d.workers worker).scheduler = some (ticket, t.scheduler))
    (batch : t.batch = (d.workers worker).batch ++ [(ticket, jobs)]) :
    Accounted bag { d with workers := Function.update d.workers worker t } where
  placed := by
    refine ok.placed.move ticket.number (.scheduler worker) (.batch worker) (moved_by_worker rfl ?_ ?_ ?_ ?_ ?_)
    · intro other here
      simp [tokenAt, here]
    · simp [Distributed.content, tokenAt]
    · simp [Distributed.content, tokenAt, bag.content_take _ _ _ take, ← Multiset.singleton_add, add_comm]
    · simp [Distributed.content, tokenAt, batch, ← Multiset.coe_add]
    · simp [Distributed.content, tokenAt]
  queued := ok.queued
  held := by
    refine .updated ok.held ⟨(ok.taken take).2, ?_⟩
    intro pair member
    rw [batch] at member
    rcases List.mem_append.mp member with old | new
    · exact (ok.held worker).batched pair old
    · rw [List.mem_singleton.mp new]
      exact (ok.taken take).1
  answers := ok.answers

/-- A worker takes a task from its scheduler and answers it. -/
theorem Accounted.reject (ok : Accounted bag d) (answer : Answer ι)
    (take : bag.take (d.workers worker).scheduler = some (ticket, t.scheduler))
    (batch : t.batch = (d.workers worker).batch) (settled : answer.Settles ticket) :
    Accounted bag { d with
      workers := Function.update d.workers worker t
      answers := answer :: d.answers } where
  placed := by
    refine ok.placed.move ticket.number (.scheduler worker) .answered (moved_by_worker rfl ?_ ?_ ?_ ?_ ?_)
    · intro other here
      simp [tokenAt, here]
    · simp [Distributed.content, tokenAt]
    · simp [Distributed.content, tokenAt, bag.content_take _ _ _ take, ← Multiset.singleton_add, add_comm]
    · simp [Distributed.content, tokenAt, batch]
    · simp [Distributed.content, tokenAt, settled.numbered, ← Multiset.cons_coe, ← Multiset.singleton_add, add_comm]
  queued := ok.queued
  held := .updated ok.held ⟨(ok.taken take).2, by rw [batch]; exact (ok.held worker).batched⟩
  answers := answers_cons (ok.taken take).1 settled ok.answers

/-- A worker takes a task from its batch and answers it. -/
theorem Accounted.collect (ok : Accounted bag d) {jobs : List Job} (answer : Answer ι)
    (scheduler : t.scheduler = (d.workers worker).scheduler)
    (listed : (d.workers worker).batch = (ticket, jobs) :: t.batch)
    (settled : answer.Settles ticket) :
    Accounted bag { d with
      workers := Function.update d.workers worker t
      answers := answer :: d.answers } := by
  have genuine := (ok.held worker).batched
  rw [listed] at genuine
  exact {
    placed := by
      refine ok.placed.move ticket.number (.batch worker) .answered (moved_by_worker rfl ?_ ?_ ?_ ?_ ?_)
      · intro other here
        simp [tokenAt, here]
      · simp [Distributed.content, tokenAt]
      · simp [Distributed.content, tokenAt, scheduler]
      · simp [Distributed.content, tokenAt, listed, ← Multiset.cons_coe, ← Multiset.singleton_add, add_comm]
      · simp [Distributed.content, tokenAt, settled.numbered, ← Multiset.cons_coe, ← Multiset.singleton_add, add_comm]
    queued := ok.queued
    held := .updated ok.held ⟨by rw [scheduler]; exact (ok.held worker).scheduled,
      fun pair member => genuine pair (List.mem_cons_of_mem _ member)⟩
    answers := answers_cons (genuine (ticket, jobs) (List.mem_cons_self ..)) settled ok.answers }

/-- Whatever a worker does with its tickets while nothing is disturbed, the books stay right. -/
theorem Accounted.workerStep (ok : Accounted bag d) {act : WorkerAct}
    (step : WorkerStep (deployment.workers worker) bag (d.workers worker) act t)
    (onQueue : ∀ ticket, act.consumed = some ticket → ticket ∈ d.queues (deployment.workers worker).compilerQueue)
    (calm : act.raised = false) : Accounted bag (d.worked deployment worker act true true t) := by
  have tickets := step.tickets
  generalize scheduler : t.scheduler = scheduler', batch : t.batch = batch' at tickets
  cases tickets with
  | idle consumed submission reply =>
    have after := ok.kept scheduler batch
    have same : d.worked deployment worker act true true t =
        { d with
          workers := Function.update d.workers worker t
          statuses := (d.worked deployment worker act true true t).statuses } := by
      simp only [Distributed.worked, consumed, submission, reply]
    rw [same]
    exact ⟨after.placed, after.queued, after.held, after.answers⟩
  | scheduled located same => exact ok.schedule (onQueue _ rfl) same scheduler batch
  | refused answers => exact (ok.kept scheduler batch).refuse _ (onQueue _ rfl) ⟨rfl, answers, rfl⟩
  | submitted take =>
    subst scheduler
    have after := ok.submit take batch
    exact ⟨after.placed, after.queued, after.held, after.answers⟩
  | @rejected ticket rest send raised take answers =>
    subst scheduler
    have after := ok.reject ⟨some worker, ticket.number, send, true⟩ take batch ⟨rfl, answers, rfl⟩
    exact ⟨after.placed, after.queued, after.held, after.answers⟩
  | abandoned => cases calm
  | collected listed answers =>
    subst batch
    exact ok.collect _ scheduler listed ⟨rfl, answers, rfl⟩
  | dropped => cases calm

end Workers

/-- The selector takes a task from the intake queue and forwards or refuses it. -/
theorem Accounted.selectorTask [DecidableEq ι] (ok : Accounted bag d) {ticket : Ticket} (t : SelectorState)
    (present : ticket ∈ d.queues deployment.selector.qrmciQueue) :
    Accounted bag (d.selected deployment (.task ticket true) true t) := by
  rcases handleTask_cases deployment.selector d.selector.availableBackends ticket.task with
    ⟨error, _, refused⟩ | ⟨backend, _, _, _, forwards⟩
  · have after := ok.refuse ⟨none, ticket.number, sendFailure ticket.task error, true⟩ present
      ⟨rfl, sendFailure_answers ticket.task error, rfl⟩
    simp only [Distributed.selected, refused]
    exact ⟨after.placed, after.queued, after.held, after.answers⟩
  · have same : ({ ticket.task with scheduledQpu := backend.name } : QuantumTask).SameRequest ticket.task :=
      ⟨rfl, rfl, rfl⟩
    simp only [Distributed.selected, forwards]
    exact ok.forward present same t

variable {acts : List (DistributedAct ι)} {act : DistributedAct ι}

/-- The queue is a dispatch queue of the backend that the task is assigned to: a status has come in for the backend
that names this queue, and no empty one. -/
def DispatchedOn (acts : List (DistributedAct ι)) (name : String) (task : QuantumTask) : Prop :=
  name ≠ "" ∧ ∃ message acked, .selector (.status message) acked ∈ acts ∧ message.name = task.scheduledQpu ∧
    message.queueName = name

theorem DispatchedOn.later {name : String} {task : QuantumTask} (dispatched : DispatchedOn acts name task) :
    DispatchedOn (act :: acts) name task := by
  obtain ⟨named, message, acked, received, backend, queue⟩ := dispatched
  exact ⟨named, message, acked, List.mem_cons_of_mem _ received, backend, queue⟩

variable [DecidableEq ι]

theorem Accounted.step (ok : Accounted bag d) (calm : act.Undisturbed) (step : DistributedStep deployment bag d act e) :
    Accounted bag e := by
  cases step with
  | inject task => exact ok.inject deployment task
  | forge => exact ⟨ok.placed, ok.queued, ok.held, ok.answers⟩
  | @selector t act acked step _ onQueue =>
    cases act with
    | task ticket delivered =>
      obtain ⟨rfl, rfl⟩ := calm
      exact ok.selectorTask t (onQueue ticket true rfl)
    | _ => exact ⟨ok.placed, ok.queued, ok.held, ok.answers⟩
  | worker worker act acked delivered step onQueue =>
    obtain ⟨rfl, rfl, unraised⟩ := calm
    exact ok.workerStep step onQueue unraised

theorem DistributedRun.accounted (run : DistributedRun deployment bag acts d)
    (undisturbed : ∀ act ∈ acts, act.Undisturbed) : Accounted bag d := by
  refine Trace.invariant_of_labels (Accounted bag) DistributedAct.Undisturbed ?_ ?_ run undisturbed
  · rintro _ ⟨selectorClock, clocks, rfl⟩
    exact .initial deployment bag selectorClock clocks
  · intro d act e calm step ok
    exact ok.step calm step

/-- The selector's part of a run is a run of the selector. -/
theorem DistributedRun.selectorRun (run : DistributedRun deployment bag acts d) :
    ∃ steps, SelectorRun deployment.selector steps d.selector ∧
      ∀ act ∈ steps, ∃ acked, .selector act acked ∈ acts := by
  induction run with
  | start first =>
    obtain ⟨selectorClock, clocks, rfl⟩ := first
    exact ⟨[], .start ⟨selectorClock, rfl⟩, nofun⟩
  | @next acts _ act _ _ step ih =>
    obtain ⟨steps, selected, taken⟩ := ih
    have earlier : ∀ taken ∈ steps, ∃ acked, .selector taken acked ∈ act :: acts := by
      intro before member
      obtain ⟨acked, present⟩ := taken before member
      exact ⟨acked, List.mem_cons_of_mem _ present⟩
    cases step with
    | inject => exact ⟨steps, selected, earlier⟩
    | forge => exact ⟨steps, selected, earlier⟩
    | worker => exact ⟨steps, selected, earlier⟩
    | selector act acked step =>
      refine ⟨act :: steps, ?_, List.forall_mem_cons.mpr ⟨⟨acked, List.mem_cons_self ..⟩, earlier⟩⟩
      rw [Distributed.selected_selector]
      exact selected.next step

/-- Apart from the intake queue, tasks wait on dispatch queues only. -/
theorem DistributedRun.dispatchedOn (run : DistributedRun deployment bag acts d) {name : String}
    (other : name ≠ deployment.selector.qrmciQueue) {ticket : Ticket} (waits : ticket ∈ d.queues name) :
    DispatchedOn acts name ticket.task := by
  induction run generalizing ticket with
  | start first =>
    obtain ⟨selectorClock, clocks, rfl⟩ := first
    exact absurd waits (Multiset.notMem_zero ticket)
  | @next acts d act e previous step ih =>
    cases step with
    | inject task =>
      rcases Distributed.mem_inject waits with old | ⟨same, _⟩
      · exact (ih old).later
      · exact absurd same other
    | forge => exact (ih waits).later
    | worker => exact (ih (Distributed.mem_worked waits)).later
    | selector act acked step =>
      rcases Distributed.mem_selected waits with old | ⟨received, _, backend, _, located, _, same, new⟩
      · exact (ih old).later
      · -- A registered backend is routed to the queue of a status that came in for it.
        obtain ⟨steps, selected, taken⟩ := DistributedRun.selectorRun previous
        obtain ⟨history, registry, statuses⟩ := selected.registryAfter
        rw [registry] at located
        obtain ⟨named, _, message, now, _, whole, backendName, queueName, _⟩ := registryAfter_routed located
        obtain ⟨acked, member⟩ := taken _ (statuses message now (by rw [whole]; simp))
        subst same new
        exact ⟨named, message, acked, List.mem_cons_of_mem _ member, backendName, queueName⟩

/-- As long as nothing is disturbed, every injected task is in exactly one place of the system, the intake queue, a
dispatch queue of the backend it is assigned to, a worker's scheduler or batch, or among the answers; and one that has
been answered has been sent one result, to its own destination and under its own id. -/
theorem distributed_accounts_for_task (run : DistributedRun deployment bag acts d)
    (undisturbed : ∀ act ∈ acts, act.Undisturbed) (number : Nat) (task : QuantumTask)
    (injected : d.injected[number]? = some task) :
    ∃ place, (d.content bag place).count number = 1 ∧ (∀ other, other ≠ place → number ∉ d.content bag other) ∧
      (∀ name, place = .queue name → name = deployment.selector.qrmciQueue ∨
        ∃ ticket ∈ d.queues name, ticket.number = number ∧ DispatchedOn acts name ticket.task) ∧
      (place = .answered → ∃ answer, d.answers.filter (fun answer => answer.ticket == number) = [answer] ∧
        answer.delivered = true ∧ answer.send.queue = task.resultDestination ∧
        answer.send.result.taskId = task.taskId) := by
  have ok := run.accounted undisturbed
  obtain ⟨live, _⟩ := List.getElem?_eq_some_iff.mp injected
  obtain ⟨place, once, nowhere⟩ := ok.placed.placed number live
  refine ⟨place, once, nowhere, ?_, ?_⟩
  · rintro name rfl
    by_cases intake : name = deployment.selector.qrmciQueue
    · exact Or.inl intake
    · have present : number ∈ (d.queues name).map Ticket.number := by
        rw [← Multiset.count_pos]
        exact once.symm ▸ Nat.one_pos
      obtain ⟨ticket, waits, numbered⟩ := Multiset.mem_map.mp present
      exact Or.inr ⟨ticket, waits, numbered, run.dispatchedOn intake waits⟩
  rintro rfl
  have single : (d.answers.filter fun answer => answer.ticket == number).length = 1 := by
    simp only [Distributed.content, Multiset.coe_count, List.count, List.countP_map] at once
    rw [← List.countP_eq_length_filter]
    exact once
  obtain ⟨answer, listed⟩ := List.length_eq_one_iff.mp single
  have member : answer ∈ d.answers.filter fun answer => answer.ticket == number := by
    rw [listed]
    exact List.mem_singleton_self answer
  obtain ⟨sent, numbered⟩ := List.mem_filter.mp member
  obtain ⟨delivered, origin, found, answers⟩ := ok.answers answer sent
  have equal : answer.ticket = number := by simpa using numbered
  rw [equal] at found
  cases found.symm.trans injected
  exact ⟨answer, listed, delivered, answers.queue, answers.taskId⟩

/-- Of two tasks, the first is injected while no backend is known and ends up answered; the second waits on the
dispatch queue of `alpha`, which has published its status meanwhile. -/
theorem distributed_accounts_for_quake :
    ∃ acts d, DistributedRun .shared (Bag.fifo Ticket) acts d ∧
      ((d.content (Bag.fifo Ticket) .answered).count 0 = 1 ∧
        (∀ other, other ≠ .answered → 0 ∉ d.content (Bag.fifo Ticket) other) ∧
        ∃ answer, d.answers.filter (fun answer => answer.ticket == 0) = [answer] ∧
          answer.send.queue = "results-queue" ∧ answer.send.result.taskId = 7) ∧
      ∃ ticket ∈ d.queues "compiler.alpha", ticket.number = 1 ∧ DispatchedOn acts "compiler.alpha" ticket.task := by
  have start : DistributedRun .shared (Bag.fifo Ticket) [] (.initial .shared (Bag.fifo Ticket) 0 fun _ => 0) :=
    .start ⟨0, fun _ => 0, rfl⟩
  have run := start
    |>.next (.inject .quake)
    |>.next (.selector .enter true (.enter rfl rfl) nofun nofun)
    |>.next (.selector .expire true (.expire rfl) nofun nofun)
    |>.next (.selector (.task ⟨0, .quake⟩ true) true (.task _ true rfl rfl) nofun (by rintro _ _ ⟨⟩; decide +kernel))
    |>.next (.selector .rest true (.rest rfl) nofun nofun)
    |>.next (.inject .quake)
    |>.next (.forge .alpha)
    |>.next (.selector .enter true (.enter rfl rfl) nofun nofun)
    |>.next (.selector (.status .alpha) true (.status .alpha rfl rfl) (by rintro _ ⟨⟩; decide +kernel) nofun)
    |>.next (.selector .expire true (.expire rfl) nofun nofun)
    |>.next (.selector (.task ⟨1, .quake⟩ true) true (.task _ true rfl rfl) nofun (by rintro _ _ ⟨⟩; decide +kernel))
  have accounts := distributed_accounts_for_task run (by simp [DistributedAct.Undisturbed])
  obtain ⟨first, once, nowhere, _, answers⟩ := accounts 0 .quake (by decide +kernel)
  have answered : first = .answered := by
    by_contra other
    exact nowhere .answered (Ne.symm other) (by decide +kernel)
  subst answered
  obtain ⟨answer, single, _, destination, taskId⟩ := answers rfl
  obtain ⟨second, _, elsewhere, waits, _⟩ := accounts 1 .quake (by decide +kernel)
  have queued : second = .queue "compiler.alpha" := by
    by_contra other
    exact elsewhere (.queue "compiler.alpha") (Ne.symm other) (by decide +kernel)
  subst queued
  obtain intake | dispatched := waits _ rfl
  · exact absurd intake (by decide)
  · exact ⟨_, _, run, ⟨once, nowhere, answer, single, destination, taskId⟩, dispatched⟩

end Qrmci
