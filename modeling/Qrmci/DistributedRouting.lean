import Qrmci.DistributedMembers
import Qrmci.DistributedSafety
import Qrmci.PublishedStatus
import Qrmci.SelectorRouting

namespace Qrmci

section Registry

variable {backends : BackendRegistry} {wrapper : BackendWrapper} {now : Time} {name : String} {entry : RegistryEntry}
  {own : OwnIdentity} {device : DeviceReading}

/-- An entry is an old one or the one just inserted. -/
theorem BackendRegistry.insertOrRefresh_entry
    (present : (backends.insertOrRefresh wrapper now).2.entries[name]? = some entry) :
    backends.entries[name]? = some entry ∨ entry.backend = wrapper := by
  cases conflict : backends.queueConflict wrapper with
  | true =>
    rw [BackendRegistry.insertOrRefresh_rejected conflict] at present
    exact Or.inl present
  | false =>
    obtain ⟨_, entries⟩ := BackendRegistry.insertOrRefresh_accepted now conflict
    rw [entries] at present
    split at present
    · cases present
      exact Or.inr rfl
    · exact Or.inl present

theorem BackendRegistry.expire_entry (present : (backends.expire now).2.entries[name]? = some entry) :
    backends.entries[name]? = some entry := by
  rw [BackendRegistry.expire_getElem?, Option.filter_eq_some_iff] at present
  exact present.1

theorem registerOwnDevice_entry (own : OwnIdentity)
    (present : (registerOwnDevice own.deviceId device backends own.dispatchQueue now).2.entries[name]? = some entry) :
    backends.entries[name]? = some entry ∨
      BackendWrapper.fromSubmitter own.deviceId device own.dispatchQueue = .ok entry.backend := by
  unfold registerOwnDevice at present
  cases read : BackendWrapper.fromSubmitter own.deviceId device own.dispatchQueue with
  | error error =>
    rw [read] at present
    exact Or.inl present
  | ok wrapper =>
    rw [read] at present
    rcases BackendRegistry.insertOrRefresh_entry present with old | new
    · exact Or.inl old
    · exact Or.inr (by rw [new])

theorem runTurnHead_entry {head : TurnHead} {throttle : PublicationThrottle}
    (present : (runTurnHead own head backends throttle).2.1.entries[name]? = some entry) :
    backends.entries[name]? = some entry ∨
      BackendWrapper.fromSubmitter own.deviceId head.device own.dispatchQueue = .ok entry.backend := by
  rcases runTurnHead_cases own head backends throttle with
    ⟨_, _, _, _, run⟩ | ⟨_, ⟨_, _, run⟩ | ⟨wrapper, read, run⟩⟩
  · rw [run] at present
    exact Or.inl (BackendRegistry.expire_entry present)
  · rw [run] at present
    exact Or.inl (BackendRegistry.expire_entry present)
  · rw [run] at present
    rcases BackendRegistry.insertOrRefresh_entry (BackendRegistry.expire_entry present) with old | new
    · exact Or.inl old
    · exact Or.inr (by rw [read, new])

/-- What a turn head publishes is its reading of the device. -/
theorem runTurnHead_published {head : TurnHead} {throttle : PublicationThrottle} {message : Backend}
    (published : (runTurnHead own head backends throttle).1 = some message) :
    ∃ wrapper, BackendWrapper.fromSubmitter own.deviceId head.device own.dispatchQueue = .ok wrapper ∧
      message = wrapper.toBackend := by
  rcases runTurnHead_cases own head backends throttle with
    ⟨_, _, _, _, run⟩ | ⟨_, ⟨_, _, run⟩ | ⟨wrapper, read, run⟩⟩
  · rw [run] at published
    cases published
  · rw [run] at published
    cases published
  · rw [run] at published
    exact ⟨wrapper, read, (Option.some.inj published).symm⟩

end Registry

/-- The reading of the device that a step of a worker may put into its registry. -/
def WorkerAct.reading : WorkerAct → Option DeviceReading
  | .register device => some device
  | .turnHead head _ => some head.device
  | _ => none

variable {ι S : Type}

/-- Nobody but the workers publishes, and what a worker reads from its device is as expected. -/
def DistributedAct.Honest (reads : ι → DeviceReading → Prop) : DistributedAct ι → Prop
  | .forge _ => False
  | .worker party act _ _ => ∀ device, act.reading = some device → reads party device
  | _ => True

theorem DistributedAct.Honest.mono {reads other : ι → DeviceReading → Prop} {act : DistributedAct ι}
    (honest : act.Honest reads) (implies : ∀ worker device, reads worker device → other worker device) :
    act.Honest other := by
  cases act with
  | forge message => exact honest
  | worker party act acked delivered => exact fun device read => implies party device (honest device read)
  | _ => trivial

/-- The wrapper is what the worker has made of a reading of its own device. -/
def ReadBy (deployment : Deployment ι) (reads : ι → DeviceReading → Prop) (worker : ι) (wrapper : BackendWrapper) :
    Prop :=
  ∃ device, reads worker device ∧ BackendWrapper.fromSubmitter (deployment.workers worker).deviceId device
    (deployment.workers worker).compilerQueue = .ok wrapper

/-- The task is assigned to the worker's device, waits on the worker's queue, and was found eligible for
a reading of that device. -/
structure RoutedTo (deployment : Deployment ι) (reads : ι → DeviceReading → Prop) (name : String) (task : QuantumTask)
    (worker : ι) (wrapper : BackendWrapper) : Prop where
  read : ReadBy deployment reads worker wrapper
  queue : name = (deployment.workers worker).compilerQueue
  assigned : task.scheduledQpu = (deployment.workers worker).deviceId
  able : eligible deployment.selector.inputFormats task wrapper = true

/-- Every status, every entry and every dispatched task goes back to a reading of some worker's own
device. -/
structure Authentic (deployment : Deployment ι) (reads : ι → DeviceReading → Prop) (d : Distributed ι S) : Prop where
  statuses : ∀ message ∈ d.statuses, ∃ worker wrapper, ReadBy deployment reads worker wrapper ∧
    message = wrapper.toBackend
  entries : ∀ (name : String) (entry : RegistryEntry), d.selector.availableBackends.entries[name]? = some entry →
    ∃ worker wrapper, ReadBy deployment reads worker wrapper ∧
      entry.backend = .ofBackend deployment.selector.build wrapper.toBackend
  own : ∀ worker (name : String) (entry : RegistryEntry),
    (d.workers worker).availableBackends.entries[name]? = some entry → ReadBy deployment reads worker entry.backend
  queued : ∀ name, name ≠ deployment.selector.qrmciQueue → ∀ ticket ∈ d.queues name,
    ∃ worker wrapper, RoutedTo deployment reads name ticket.task worker wrapper

variable {deployment : Deployment ι} {reads : ι → DeviceReading → Prop} {bag : Bag S Ticket} {d e : Distributed ι S}

theorem Authentic.initial (selectorClock : Time) (clocks : ι → Time) :
    Authentic deployment reads (.initial deployment bag selectorClock clocks) where
  statuses message member := absurd member (Multiset.notMem_zero message)
  entries name entry present := by simp [Distributed.initial, SelectorState.initial, BackendRegistry.new] at present
  own worker name entry present := by simp [Distributed.initial, WorkerState.initial, BackendRegistry.new] at present
  queued name _ ticket member := absurd member (Multiset.notMem_zero ticket)

theorem Authentic.inject (authentic : Authentic deployment reads d) (task : QuantumTask) :
    Authentic deployment reads (d.inject deployment task) := by
  refine ⟨authentic.statuses, authentic.entries, authentic.own, ?_⟩
  intro name other ticket member
  rcases Distributed.mem_inject member with old | ⟨same, _⟩
  · exact authentic.queued name other ticket old
  · exact absurd same other

/-- Publishing a wrapper does not change what it is eligible for. -/
theorem eligible_ofBackend (build : ProtocolBuild) (inputFormats : List String) (task : QuantumTask)
    (wrapper : BackendWrapper) :
    eligible inputFormats task (.ofBackend build wrapper.toBackend) = eligible inputFormats task wrapper := by
  have agrees := ofBackend_agrees build wrapper.toBackend
  simp only [eligible, agrees.isOnline, agrees.canRun inputFormats task, unnormalized_toBackend]

theorem eligible_prepares {inputFormats : List String} {task : QuantumTask} {wrapper : BackendWrapper}
    (able : eligible inputFormats task wrapper = true) :
    canPrepareTaskForBackend inputFormats task wrapper.supportedCircuitFormats = true := by
  simp only [eligible, Bool.and_eq_true] at able
  have runs := able.2
  unfold BackendWrapper.canRun at runs
  split at runs
  · cases runs
  · split at runs
    · cases runs
    · exact runs

/-- A chosen backend is a worker's own, so the task goes to that worker. -/
theorem Authentic.forwards (authentic : Authentic deployment reads d) {task : QuantumTask} {backend : BackendWrapper}
    (located : d.selector.availableBackends.find backend.name = some backend)
    (able : eligible deployment.selector.inputFormats task backend = true) :
    ∃ worker wrapper, RoutedTo deployment reads backend.queueName { task with scheduledQpu := backend.name } worker
      wrapper := by
  obtain ⟨entry, present, same⟩ := Option.map_eq_some_iff.mp located
  obtain ⟨worker, wrapper, read, built⟩ := authentic.entries _ entry present
  rw [same] at built
  obtain ⟨device, expected, taken⟩ := read
  obtain ⟨named, queued⟩ := BackendWrapper.fromSubmitter_ok taken
  refine ⟨worker, wrapper, ⟨device, expected, taken⟩, ?_, ?_, ?_⟩
  · rw [built]
    exact queued
  · change backend.name = _
    rw [built]
    exact named
  · rw [built, eligible_ofBackend] at able
    exact able

theorem Authentic.selected (authentic : Authentic deployment reads d) {act : SelectorAct} (acked : Bool)
    {t : SelectorState} (step : SelectorStep deployment.selector d.selector act t)
    (published : ∀ message, act = .status message → message ∈ d.statuses) :
    Authentic deployment reads (d.selected deployment act acked t) := by
  have queued : ∀ name, name ≠ deployment.selector.qrmciQueue →
      ∀ ticket ∈ (d.selected deployment act acked t).queues name,
      ∃ worker wrapper, RoutedTo deployment reads name ticket.task worker wrapper := by
    intro name other ticket member
    rcases Distributed.mem_selected member with old | ⟨received, _, backend, _, located, able, same, new⟩
    · exact authentic.queued name other ticket old
    · subst same new
      exact authentic.forwards located able
  cases step with
  | status message phase lowered =>
    obtain ⟨worker, wrapper, read, same⟩ := authentic.statuses message (published message rfl)
    refine ⟨?_, ?_, authentic.own, queued⟩
    · intro other member
      simp only [Distributed.selected] at member
      split at member
      · exact authentic.statuses other (Multiset.mem_of_mem_erase member)
      · exact authentic.statuses other member
    · intro name entry present
      change (handleStatus deployment.selector.build d.selector.availableBackends message
        d.selector.clock).2.entries[name]? = some entry at present
      rcases handleStatus_cases deployment.selector.build d.selector.availableBackends message d.selector.clock with
        unchanged | ⟨_, _, _, _, entries⟩
      · rw [unchanged] at present
        exact authentic.entries name entry present
      · rw [entries] at present
        split at present
        · cases present
          exact ⟨worker, wrapper, read, by rw [same]⟩
        · exact authentic.entries name entry present
  | expire =>
    refine ⟨authentic.statuses, ?_, authentic.own, queued⟩
    intro name entry present
    exact authentic.entries name entry (BackendRegistry.expire_entry present)
  | task ticket delivered =>
    rcases handleTask_cases deployment.selector d.selector.availableBackends ticket.task with
      ⟨error, _, refused⟩ | ⟨backend, _, _, _, forwards⟩
    · simp only [Distributed.selected, refused] at queued ⊢
      exact ⟨authentic.statuses, authentic.entries, authentic.own, queued⟩
    · simp only [Distributed.selected, forwards] at queued ⊢
      exact ⟨authentic.statuses, authentic.entries, authentic.own, queued⟩
  | _ => exact ⟨authentic.statuses, authentic.entries, authentic.own, queued⟩

variable [DecidableEq ι]

theorem Authentic.worked (authentic : Authentic deployment reads d) {worker : ι} {act : WorkerAct} {t : WorkerState S}
    (acked delivered : Bool) (step : WorkerStep (deployment.workers worker) bag (d.workers worker) act t)
    (expected : ∀ device, act.reading = some device → reads worker device) :
    Authentic deployment reads (d.worked deployment worker act acked delivered t) := by
  refine ⟨?_, authentic.entries, ?_, ?_⟩
  · intro message member
    simp only [Distributed.worked] at member
    split at member
    · rename_i head published
      split at member
      · rcases Multiset.mem_cons.mp member with new | old
        · subst new
          generalize made : some message = sent at step
          cases step with
          | turnHead =>
            obtain ⟨wrapper, read, same⟩ := runTurnHead_published made.symm
            exact ⟨worker, wrapper, ⟨head.device, expected head.device rfl, read⟩, same⟩
        · exact authentic.statuses message old
      · exact authentic.statuses message member
    · exact authentic.statuses message member
  · refine Distributed.forall_worked (fun each w => ∀ (name : String) (entry : RegistryEntry),
      w.availableBackends.entries[name]? = some entry → ReadBy deployment reads each entry.backend) authentic.own ?_
    intro name entry present
    rcases step.registry_cases with ⟨_, kept, _⟩ | ⟨_, moved⟩ | ⟨device, made, _, registered⟩ | ⟨head, made, _, headed⟩
    · rw [kept] at present
      exact authentic.own worker name entry present
    · rw [moved] at present
      exact authentic.own worker name entry present
    · subst made
      rw [registered] at present
      rcases registerOwnDevice_entry (deployment.workers worker).own present with old | new
      · exact authentic.own worker name entry old
      · exact ⟨device, expected device rfl, new⟩
    · subst made
      rw [headed] at present
      rcases runTurnHead_entry present with old | new
      · exact authentic.own worker name entry old
      · exact ⟨head.device, expected head.device rfl, new⟩
  · intro name other ticket member
    exact authentic.queued name other ticket (Distributed.mem_worked member)

variable {acts : List (DistributedAct ι)}

theorem DistributedRun.authentic (run : DistributedRun deployment bag acts d)
    (honest : ∀ act ∈ acts, act.Honest reads) : Authentic deployment reads d := by
  refine Trace.invariant_of_labels (Authentic deployment reads) (DistributedAct.Honest reads) ?_ ?_ run honest
  · intro d first
    obtain ⟨selectorClock, clocks, rfl⟩ := first
    exact .initial selectorClock clocks
  · intro d act e honest step authentic
    cases step with
    | inject task => exact authentic.inject task
    | forge => exact honest.elim
    | selector act acked step published => exact authentic.selected acked step published
    | worker worker act acked delivered step => exact authentic.worked acked delivered step honest

/-- As long as only the workers publish statuses, and each reads a queue of its own, every task that
the selector dispatches waits on the queue of the very worker whose device it is assigned to, and
nothing is ever put on a queue that nobody reads. -/
theorem dispatched_to_own_worker
    (intake : ∀ worker, (deployment.workers worker).compilerQueue ≠ deployment.selector.qrmciQueue)
    (apart : Function.Injective fun worker => (deployment.workers worker).compilerQueue)
    (run : DistributedRun deployment bag acts d) (unforged : ∀ act ∈ acts, ∀ message, act ≠ .forge message) :
    (∀ worker, ∀ ticket ∈ d.queues (deployment.workers worker).compilerQueue,
      ticket.task.scheduledQpu = (deployment.workers worker).deviceId) ∧
    ∀ name, name ≠ deployment.selector.qrmciQueue → (∀ worker, name ≠ (deployment.workers worker).compilerQueue) →
      d.queues name = 0 := by
  have honest : ∀ act ∈ acts, act.Honest fun _ _ => True := by
    intro act member
    cases act with
    | forge message => exact absurd rfl (unforged _ member message)
    | _ => simp [DistributedAct.Honest]
  have authentic := run.authentic honest
  refine ⟨?_, ?_⟩
  · intro worker ticket member
    obtain ⟨other, wrapper, routed⟩ := authentic.queued _ (intake worker) ticket member
    have same : worker = other := apart routed.queue
    rw [same]
    exact routed.assigned
  · intro name other unread
    rw [Multiset.eq_zero_iff_forall_notMem]
    intro ticket member
    obtain ⟨worker, wrapper, routed⟩ := authentic.queued name other ticket member
    exact unread worker routed.queue

/-- One worker, over `alpha`. -/
def Deployment.single : Deployment Unit where
  selector := .plain
  workers _ := .alpha

theorem Deployment.single_separate : Deployment.single.Separate := by
  refine ⟨fun _ _ _ => rfl, ?_⟩
  intro worker
  cases worker
  decide

/-- The worker publishes a status, and the selector dispatches the one task to it. -/
theorem single_dispatches_quake :
    ∃ acts d, DistributedRun .single (Bag.fifo Ticket) acts d ∧ d.injected = [.quake] ∧
      ⟨0, { QuantumTask.quake with scheduledQpu := "alpha" }⟩ ∈ d.queues "compiler.alpha" ∧
      ((d.workers ()).availableBackends.find "alpha").isSome = true ∧
      ∀ act ∈ acts, act.Honest fun _ device => device = .idle := by
  have start : DistributedRun .single (Bag.fifo Ticket) [] (.initial .single (Bag.fifo Ticket) 0 fun _ => 0) :=
    .start ⟨0, fun _ => 0, rfl⟩
  have run := start
    |>.next (.inject .quake)
    |>.next (.worker () _ true true (.register .idle rfl (by decide +kernel)) nofun)
    |>.next (.worker () _ true true (.turnHead ⟨.idle, 0, 0, 0⟩ rfl rfl ⟨by decide, by decide, by decide⟩) nofun)
    |>.next (.selector .enter true (.enter rfl rfl) nofun nofun)
    |>.next (.selector (.status .alpha) true (.status .alpha rfl rfl) (by rintro _ ⟨⟩; decide +kernel) nofun)
    |>.next (.selector .expire true (.expire rfl) nofun nofun)
    |>.next (.selector (.task ⟨0, .quake⟩ true) true (.task _ true rfl rfl) nofun (by rintro _ _ ⟨⟩; decide +kernel))
  refine ⟨_, _, run, by decide +kernel, by decide +kernel, by decide +kernel, ?_⟩
  simp [DistributedAct.Honest, WorkerAct.reading]

/-- Two workers, over `alpha` and over `beta`, each with a compiler queue of its own. -/
def Deployment.pair : Deployment Bool where
  selector := .plain
  workers isAlpha :=
    if isAlpha then .alpha else { WorkerSettings.alpha with deviceId := "beta", compilerQueue := "compiler.beta" }

/-- Both workers publish a status, and of two tasks each is dispatched to the worker that it is restricted to. -/
theorem dispatched_to_own_worker_pair :
    ∃ acts d, DistributedRun .pair (Bag.fifo Ticket) acts d ∧
      (∃ ticket ∈ d.queues "compiler.alpha", ticket.number = 0 ∧ ticket.task.scheduledQpu = "alpha") ∧
      ∃ ticket ∈ d.queues "compiler.beta", ticket.number = 1 ∧ ticket.task.scheduledQpu = "beta" := by
  have start : DistributedRun .pair (Bag.fifo Ticket) [] (.initial .pair (Bag.fifo Ticket) 0 fun _ => 0) :=
    .start ⟨0, fun _ => 0, rfl⟩
  have published := start
    |>.next (.worker true _ true true (.register .idle rfl (by decide +kernel)) nofun)
    |>.next (.worker true _ true true (.turnHead ⟨.idle, 0, 0, 0⟩ rfl rfl ⟨by decide, by decide, by decide⟩) nofun)
    |>.next (.worker false _ true true (.register .idle rfl (by decide +kernel)) nofun)
    |>.next (.worker false _ true true (.turnHead ⟨.idle, 0, 0, 0⟩ rfl rfl ⟨by decide, by decide, by decide⟩) nofun)
  have run := published
    |>.next (.inject .quakeOnAlpha)
    |>.next (.inject { QuantumTask.quake with restrictedResourceNames := ["beta"] })
    |>.next (.selector .enter true (.enter rfl rfl) nofun nofun)
    |>.next (.selector (.status .alpha) true (.status .alpha rfl rfl) (by rintro _ ⟨⟩; decide +kernel) nofun)
    |>.next (.selector (.status { Backend.alpha with name := "beta", queueName := "compiler.beta" }) true
      (.status _ rfl rfl) (by rintro _ ⟨⟩; decide +kernel) nofun)
    |>.next (.selector .expire true (.expire rfl) nofun nofun)
    |>.next (.selector (.task ⟨0, .quakeOnAlpha⟩ true) true (.task _ true rfl rfl) nofun
      (by rintro _ _ ⟨⟩; decide +kernel))
    |>.next (.selector (.task ⟨1, { QuantumTask.quake with restrictedResourceNames := ["beta"] }⟩ true) true
      (.task _ true (by decide +kernel) (by decide +kernel)) nofun (by rintro _ _ ⟨⟩; decide +kernel))
  have own := (dispatched_to_own_worker (by decide) (by intro one other; revert one other; decide) run (by simp)).1
  exact ⟨_, _, run,
    ⟨⟨0, { QuantumTask.quakeOnAlpha with scheduledQpu := "alpha" }⟩, by decide +kernel, rfl,
      own true _ (by decide +kernel)⟩,
    ⟨1, { QuantumTask.quake with restrictedResourceNames := ["beta"], scheduledQpu := "beta" }⟩, by decide +kernel, rfl,
    own false _ (by decide +kernel)⟩

end Qrmci
