import Qrmci.ConfigLayers
import Qrmci.Runners.Deadline
import Qrmci.WorkerMain
import Qrmci.WorkerTurns

namespace Qrmci

variable {σ S M : Type}

/-- Only an endless wait polls again. -/
theorem receive_returns (messenger : Messenger σ M) (queueName : String) {timeout : Int} (bounded : timeout ≠ WaitForever)
    {polls : Nat} (polled : 1 ≤ polls) (s : σ) : (receive messenger queueName timeout polls s).1 ≠ none := by
  cases polls with
  | zero => omega
  | succ polls =>
    unfold receive
    split
    · simp
    · split
      · simp
      · rw [if_neg bounded]
        split <;> simp

theorem receiveNext_returns (messenger : Messenger σ M) (queueName : String) {timeout : Int}
    (bounded : timeout ≠ WaitForever) (handle : M → σ → σ) {polls : Nat} (polled : 1 ≤ polls) (s : σ) :
    (receiveNext messenger queueName timeout handle polls s).1 ≠ none := by
  have received := receive_returns messenger queueName bounded polled s
  unfold receiveNext
  split
  · rename_i waits
    rw [waits] at received
    exact absurd rfl received
  · simp
  · simp
  · simp

variable {host : DeviceHost σ} {settings : WorkerSettings} {bag : Bag S Ticket} {view : HostView σ}

/-- Each submission takes a task out of the scheduler, and one more take finds it empty. -/
theorem DeviceHost.submitTasks_returns (host : DeviceHost σ) (bag : Bag S Ticket) (tasks : Nat) (p : σ × WorkerVariables S)
    (fits : (bag.content p.2.scheduler).card < tasks) : (host.submitTasks bag tasks p).1 ≠ none := by
  induction tasks generalizing p with
  | zero => omega
  | succ tasks ih =>
    unfold DeviceHost.submitTasks
    split
    · simp
    · rename_i nextTask rest taken
      have one := congrArg Multiset.card (bag.content_take _ _ _ taken)
      rw [Multiset.card_cons] at one
      split
      · exact ih _ (by dsimp only; omega)
      · split
        · simp
        · exact ih _ (by dsimp only; omega)

/-- Every wait of the collection loop has a deadline. -/
theorem DeviceHost.collectTasks_returns (full : host.around.FullSlices) (bounded : 0 < settings.jobWaitTimeout)
    {slices : Nat} (waited : settings.jobWaitTimeout.toInt ≤ slices) (batch : List (Ticket × List Job))
    (p : σ × WorkerVariables S) : (host.collectTasks settings slices batch p).1 ≠ none := by
  induction batch generalizing p with
  | nil => simp [DeviceHost.collectTasks]
  | cons entry rest ih =>
    obtain ⟨submittedTask, jobs⟩ := entry
    obtain ⟨result, collected⟩ := collectQuantumResult_returns full bounded submittedTask.task jobs p.1
    have enough : settings.jobWaitTimeout.toInt.toNat ≤ slices := by omega
    obtain ⟨outcome, after⟩ := result
    simp only [DeviceHost.collectTasks, collectQuantumResult_mono enough collected]
    cases outcome with
    | ok result => exact ih _
    | error error =>
      dsimp only
      split
      · simp
      · exact ih _

/-- At any point of a turn the scheduler holds one task at most. -/
theorem WorkerFollows.scheduled_le {phase : WorkerPhase} {lowered : Bool} {p : σ × WorkerVariables S}
    (follows : WorkerFollows view settings bag phase lowered p) : (bag.content p.2.scheduler).card ≤ 1 := by
  obtain ⟨w, ⟨acts, model⟩, _⟩ := follows
  obtain ⟨waiting, held, answered, answering⟩ := model.run.answering
  have few := answering.holding.inHand_le
  rw [model.scheduler] at few
  omega

/-- With a bound on the wait for jobs, every turn of the worker ends: one poll, two takes from the scheduler and a
slice for each second of the bound are enough. -/
theorem DeviceHost.Lawful.completesTurn (lawful : host.Lawful view) (full : host.around.FullSlices)
    (bounded : 0 < settings.jobWaitTimeout) (backendStatusQueue : String) {taskReceiveTimeout : Int64}
    (stagePollInterval : Int64) (receives : taskReceiveTimeout.toInt ≠ WaitForever) {polls tasks slices : Nat}
    (polled : 1 ≤ polls) (taken : 2 ≤ tasks) (waited : settings.jobWaitTimeout.toInt ≤ slices)
    {cut : σ × WorkerVariables S → Prop} :
    Program.Meets (WorkerFollows view settings bag .turnHead true)
      (host.workerTurn settings bag backendStatusQueue taskReceiveTimeout stagePollInterval polls tasks slices)
      (fun _ => WorkerFollows view settings bag .turnHead false) cut := by
  refine lawful.turn backendStatusQueue ((lawful.receiveTask _ polls).returning ?_)
    ((lawful.submitTasks tasks).returning ?_) ((lawful.collectSubmitted slices).returning ?_)
  · intro p _
    exact receiveNext_returns _ _ receives _ polled p
  · intro p follows
    have few := follows.scheduled_le
    exact host.submitTasks_returns bag tasks p (by omega)
  · intro p _
    exact host.collectTasks_returns full bounded waited p.2.submittedJobs p

/-- What the variables say of the tasks received, first to last: they are answered in turn, up to one. -/
theorem WorkerModel.answers {phase : WorkerPhase} {acts : List WorkerAct} {w : WorkerState S} {v : WorkerVariables S}
    (model : WorkerModel settings bag phase acts w v) :
    ∃ answered held, v.received.reverse = answered ++ held ∧
      List.Forall₂ (fun send (ticket : Ticket) => send.Answers ticket.task) v.sent answered ∧ held.length ≤ 1 ∧
      (phase = .turnHead → held = [] ∨ w.terminationRequested = true) := by
  obtain ⟨waiting, held, answered, answering⟩ := model.run.answering
  refine ⟨answered.reverse, held.reverse, ?_, ?_, ?_, ?_⟩
  · rw [← model.received, answering.taken, List.reverse_append]
  · rw [← model.sent, WorkerAct.sent, List.filterMap_reverse, List.forall₂_reverse_iff, ← List.map_filterMap,
      List.forall₂_map_left_iff]
    exact answering.replies.imp fun _ _ answers => answers.2
  · rw [List.length_reverse]
    exact answering.held_le
  · intro atHead
    obtain ⟨none, empty⟩ := answering.holding.atHead (model.phase.trans atHead)
    cases raised : w.terminationRequested with
    | true => exact Or.inr rfl
    | false =>
      have length := answering.held_length raised
      rw [none, empty] at length
      exact Or.inl (by rw [List.eq_nil_of_length_eq_zero length, List.reverse_nil])

/-- The durations that a loaded configuration waits for are not negative. -/
theorem loadConfig_waits {toml : TomlLibrary} {env : Environment} {file : String → ConfigFile} {configFile : String}
    {config : Config} (accepted : loadConfig toml env file configFile = .ok config) :
    0 ≤ config.compiler.taskReceiveTimeout.toInt ∧ 0 ≤ config.submitter.jobWaitTimeout.toInt := by
  obtain ⟨entries, _, assembled⟩ := Except.bind_eq_ok_iff.mp accepted
  obtain ⟨conditions, same⟩ := assembleConfig_ok assembled
  rw [same]
  exact ⟨conditions.timeouts .taskReceiveTimeout (by decide), conditions.timeouts .jobWaitTimeout (by decide)⟩

/-- A worker with a bounded wait for jobs never hangs: every turn that it begins it ends, so that it is cut off
only between turns, after as many as it was given, and otherwise returns where it reads the flag as set. The results
it has sent by then answer the tasks it has received, in their order, and all of them but for one that a shutdown
may have made it give up. -/
theorem workerMain_serves_in_order (lawful : host.Lawful view) (full : host.around.FullSlices) (bag : Bag S Ticket)
    {toml : TomlLibrary} {env : Environment} {file : String → ConfigFile} {configFile : String} {s started : σ}
    {config : Config} {deviceId : String} {backends : BackendRegistry}
    (starts : host.startUp (fun config => config.compiler.queue) (loadConfig toml env file configFile) s =
      (some (config, deviceId, backends), started))
    (bounded : config.submitter.jobWaitTimeout ≠ 0) (turns polls tasks slices : Nat) (polled : 1 ≤ polls)
    (taken : 2 ≤ tasks) (waited : config.submitter.jobWaitTimeout.toInt ≤ slices) :
    ∃ code after v completed last,
      workerMain host bag (loadConfig toml env file configFile) turns polls tasks slices s = (code, after, some v) ∧
      Program.Turns (Program.act fun p => ((host.terminationRequested p.1).1, (host.terminationRequested p.1).2, p.2))
        (host.workerTurn (config.workerSettings deviceId) bag config.selector.backendStatusQueue
          config.compiler.taskReceiveTimeout config.common.stagePollInterval polls tasks slices) completed
        (started, ⟨backends, .new (config.workerSettings deviceId).backendStatusPublishInterval, bag.empty, [], [], [],
          []⟩) last ∧
      (code = none ∧ completed = turns ∧ last = (after, v) ∨
        code = some .success ∧ completed < turns ∧ last.2 = v ∧ view.raised after = true) ∧
      ∃ answered held, v.received.reverse = answered ++ held ∧
        List.Forall₂ (fun send (ticket : Ticket) => send.Answers ticket.task) v.sent answered ∧ held.length ≤ 1 ∧
        (held = [] ∨ view.raised after = true) := by
  have loaded := (lawful.starts starts).1
  obtain ⟨receives, waits⟩ := loadConfig_waits loaded
  have positive : 0 < config.submitter.jobWaitTimeout := by
    have nonzero : config.submitter.jobWaitTimeout.toInt ≠ 0 := by
      intro zero
      exact bounded (Int64.toInt_inj.mp zero)
    exact Int64.lt_iff_toInt_lt.mpr (lt_of_le_of_ne waits nonzero.symm)
  have ends : config.compiler.taskReceiveTimeout.toInt ≠ WaitForever := by
    rw [WaitForever]
    omega
  have reads : Program.Meets (WorkerFollows view (config.workerSettings deviceId) bag .turnHead false)
      (Program.act fun p => ((host.terminationRequested p.1).1, (host.terminationRequested p.1).2, p.2))
      (fun set p => set = false → WorkerFollows view (config.workerSettings deviceId) bag .turnHead true p)
      fun _ => False :=
    lawful.readsFlag.weaken (fun _ follows => follows) (fun _ _ read => read.2) fun _ never => never
  obtain ⟨completed, last, whole, follows, looped⟩ := Program.loop_turns reads
    (lawful.completesTurn full positive config.selector.backendStatusQueue config.common.stagePollInterval ends polled
      taken waited) turns _ (lawful.entersLoop bag starts)
  obtain ⟨w, ⟨acts, model⟩, _, flag, _⟩ := follows
  obtain ⟨answered, held, received, answers, few, idle⟩ := model.answers
  have given : held = [] ∨ view.raised last.1 = true := (idle rfl).imp id flag
  rcases looped with ⟨all, cutOff⟩ | ⟨fewer, after, stopped, returned⟩
  · refine ⟨none, last.1, last.2, completed, last, ?_, whole, Or.inl ⟨rfl, all, rfl⟩, answered, held, received, answers,
      few, given⟩
    simp only [workerMain, DeviceHost.main, starts, DeviceHost.workerLoop, cutOff, Option.map_none]
  · obtain ⟨set, rfl⟩ := Prod.mk.inj stopped
    have raised : view.raised (host.terminationRequested last.1).2 = true :=
      lawful.flag.raised last.1 (Option.some.inj set)
    refine ⟨some .success, (host.terminationRequested last.1).2, last.2, completed, last, ?_, whole,
      Or.inr ⟨rfl, fewer, rfl, raised⟩, answered, held, received, answers, few, Or.inr raised⟩
    simp only [workerMain, DeviceHost.main, starts, DeviceHost.workerLoop, returned, Option.map_some]

/-- A table that bounds the wait for a job by five seconds and leaves the rest alone. -/
def boundedWaitEntries : List (String × Toml) := [("submitter", .table [("jobWaitTimeout", .integer 5)])]

/-- The device of the scripted host does every job at once. -/
theorem DeviceHost.scripted_fullSlices : DeviceHost.scripted.around.FullSlices := by
  intro s job error before started ended reading after _ waits
  cases waits

/-- A worker with a bounded wait gets one task. After one turn it has answered it. -/
theorem workerMain_serves_in_order_quake :
    ∃ after v ticket, workerMain .scripted (Bag.fifo Ticket)
        (loadDiscoveredConfig .exact (fun _ => none) fun _ => .parsed boundedWaitEntries) 1 1 2 5
        ⟨[{ QuantumTask.quake with scheduledQpu := "cxxdevice5q" }], false⟩ = (none, after, some v) ∧
      v.received = [ticket] ∧
      List.Forall₂ (fun send (ticket : Ticket) => send.Answers ticket.task) v.sent [ticket] := by
  have starts : DeviceHost.scripted.startUp (fun config => config.compiler.queue)
      (loadDiscoveredConfig .exact (fun _ => none) fun _ => .parsed boundedWaitEntries)
      ⟨[{ QuantumTask.quake with scheduledQpu := "cxxdevice5q" }], false⟩ = (some (_, "cxxdevice5q", _), _) := rfl
  obtain ⟨code, after, v, _, _, ran, _, _, answered, held, received, answers, _, given⟩ :=
    workerMain_serves_in_order DeviceHost.scripted_lawful DeviceHost.scripted_fullSlices (Bag.fifo Ticket) starts
      (by decide) 1 1 2 5 (by decide) (by decide) (by decide)
  have ends : (fun outcome => (outcome.1, outcome.2.1.stopped, outcome.2.2.map fun v => v.received.length))
      (workerMain .scripted (Bag.fifo Ticket)
        (loadDiscoveredConfig .exact (fun _ => none) fun _ => .parsed boundedWaitEntries) 1 1 2 5
        ⟨[{ QuantumTask.quake with scheduledQpu := "cxxdevice5q" }], false⟩) = (none, false, some 1) := by decide +kernel
  rw [loadDiscoveredConfig, ran] at ends
  obtain ⟨rfl, ends⟩ := Prod.mk.inj ends
  obtain ⟨unset, length⟩ := Prod.mk.inj ends
  obtain ⟨ticket, one⟩ := List.length_eq_one_iff.mp (Option.some.inj length)
  have all : held = [] := by
    rcases given with none | raised
    · exact none
    · cases unset.symm.trans raised
  rw [one, all, List.append_nil, List.reverse_singleton] at received
  subst received
  exact ⟨after, v, ticket, ran, one, answers⟩

end Qrmci
