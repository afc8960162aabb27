import Qrmci.Standalone
import Qrmci.Worker

namespace Qrmci

/-- The daemon's own entry can be looked up. -/
def OwnPresent (own : OwnIdentity) (backends : BackendRegistry) : Prop :=
  ∃ backend, backends.find own.deviceId = some backend

/-- A turn head whose claim and refresh happen at one instant and whose device can be read. -/
structure TurnHead.Steady (head : TurnHead) (own : OwnIdentity) : Prop where
  instant : head.refreshedAt = head.claimedAt
  readable : ∃ wrapper, BackendWrapper.fromSubmitter own.deviceId head.device own.dispatchQueue = .ok wrapper

/-- What ties the throttle to the registry of a device-owning daemon: the last granted slot has
its stamp in the registry, or lies back further than an entry lives. -/
structure OwnClock (own : OwnIdentity) (timeToLive interval : Time) (backends : BackendRegistry)
    (throttle : PublicationThrottle) (clock : Time) : Prop where
  only : OwnOnly own backends
  lives : backends.entryTimeToLive = timeToLive
  spaced : throttle.publishInterval = interval
  claimed : ∀ last, throttle.lastClaimed = some last →
    (∃ entry, backends.entries[own.deviceId]? = some entry ∧ entry.lastRefreshed = last) ∨ timeToLive < clock - last

variable {own : OwnIdentity} {timeToLive interval clock now : Time} {backends : BackendRegistry}
  {throttle : PublicationThrottle} {head : TurnHead}

theorem OwnClock.new (own : OwnIdentity) (timeToLive interval clock : Time) :
    OwnClock own timeToLive interval (.new timeToLive) (.new interval) clock :=
  ⟨.new own timeToLive, rfl, rfl, nofun⟩

theorem OwnClock.pass (tied : OwnClock own timeToLive interval backends throttle clock) (later : clock ≤ now) :
    OwnClock own timeToLive interval backends throttle now := by
  refine ⟨tied.only, tied.lives, tied.spaced, ?_⟩
  intro last claimed
  rcases tied.claimed last claimed with present | old
  · exact Or.inl present
  · exact Or.inr (by lia)

/-- Before the first slot is claimed the own device may be registered at any time. -/
theorem OwnClock.registered (tied : OwnClock own timeToLive interval backends throttle clock)
    (unclaimed : throttle.lastClaimed = none) (device : DeviceReading) :
    OwnClock own timeToLive interval (registerOwnDevice own.deviceId device backends own.dispatchQueue clock).2
      throttle clock := by
  refine ⟨tied.only.registerOwnDevice, ?_, tied.spaced, ?_⟩
  · rw [registerOwnDevice_timeToLive]
    exact tied.lives
  · intro last claimed
    rw [unclaimed] at claimed
    cases claimed

/-- A refresh that can be read is never rejected. -/
theorem OwnOnly.accepts (only : OwnOnly own backends) {device : DeviceReading}
    (readable : ∃ wrapper, BackendWrapper.fromSubmitter own.deviceId device own.dispatchQueue = .ok wrapper)
    (now : Time) : ownInsertAccepted own device backends now = true := by
  obtain ⟨wrapper, read⟩ := readable
  obtain ⟨_, queued⟩ := BackendWrapper.fromSubmitter_ok read
  simp only [ownInsertAccepted, read]
  exact (BackendRegistry.insertOrRefresh_accepted now (only.no_conflict queued)).1

/-- An expiry drops the own entry exactly if its stamp is older than it may live. -/
theorem OwnOnly.expire_iff (only : OwnOnly own backends) (throttle : PublicationThrottle) {last : Time} {entry : RegistryEntry}
    (present : backends.entries[own.deviceId]? = some entry) (stamp : entry.lastRefreshed = last)
    (claimed : throttle.lastClaimed = some last) (now : Time) :
    OwnClock own backends.entryTimeToLive throttle.publishInterval (backends.expire now).2 throttle now ∧
      (OwnPresent own (backends.expire now).2 ↔ now - last ≤ backends.entryTimeToLive) := by
  have expired : (backends.expire now).2.entries[own.deviceId]? =
      if now - last ≤ backends.entryTimeToLive then some entry else none := by
    rw [BackendRegistry.expire_getElem?, present, Option.filter_some]
    simp only [BackendRegistry.stale, stamp, Bool.not_eq_true', decide_eq_false_iff_not, gt_iff_lt, not_lt]
  refine ⟨⟨only.expire, rfl, rfl, ?_⟩, ?_⟩
  · intro other same
    have equal : last = other := Option.some.inj (claimed.symm.trans same)
    subst equal
    by_cases recent : now - last ≤ backends.entryTimeToLive
    · exact Or.inl ⟨entry, by rw [expired, if_pos recent], stamp⟩
    · exact Or.inr (by lia)
  · unfold OwnPresent BackendRegistry.find
    by_cases recent : now - last ≤ backends.entryTimeToLive
    · simp [expired, recent]
    · simp [expired, recent]

/-- After a steady turn head the daemon finds its own entry exactly if the expiry came within one
time to live of the refresh. Where no slot is due, the expiry has to follow at once, and the entry
is there. -/
theorem OwnClock.turnHead (tied : OwnClock own timeToLive interval backends throttle clock)
    (positive : 0 < interval) (outlives : interval < timeToLive) (steady : head.Steady own)
    (ordered : head.Ordered clock)
    (quiet : (runTurnHead own head backends throttle).1 = none → head.expiredAt = head.refreshedAt) :
    let after := runTurnHead own head backends throttle
    OwnClock own timeToLive interval after.2.1 after.2.2 head.expiredAt ∧
      (OwnPresent own after.2.1 ↔ head.expiredAt - head.refreshedAt ≤ timeToLive) := by
  obtain ⟨instant, readable⟩ := steady
  have lives := tied.lives
  have spaced := tied.spaced
  rcases runTurnHead_cases own head backends throttle with
    ⟨last, claimed, early, _, run⟩ | ⟨_, ⟨_, failed, _⟩ | ⟨wrapper, read, run⟩⟩
  · -- No slot was due, so the last one is younger than an interval and its stamp is still there.
    rw [run] at quiet
    have expiry := quiet rfl
    have later := ordered.claimed
    obtain ⟨entry, present, stamp⟩ := (tied.claimed last claimed).resolve_right (by lia)
    obtain ⟨kept, found⟩ := tied.only.expire_iff throttle present stamp claimed head.expiredAt
    rw [lives] at kept found
    rw [spaced] at kept
    rw [run]
    exact ⟨kept, found.trans (by lia)⟩
  · obtain ⟨wrapper, read⟩ := readable
    rw [read] at failed
    cases failed
  · obtain ⟨named, queued⟩ := BackendWrapper.fromSubmitter_ok read
    obtain ⟨_, entries⟩ := BackendRegistry.insertOrRefresh_accepted head.refreshedAt (tied.only.no_conflict queued)
    have present : (backends.insertOrRefresh wrapper head.refreshedAt).2.entries[own.deviceId]? =
        some ⟨wrapper, head.refreshedAt⟩ := by rw [entries, if_pos named]
    have only : OwnOnly own (backends.insertOrRefresh wrapper head.refreshedAt).2 :=
      tied.only.insertOrRefresh named queued
    obtain ⟨kept, found⟩ := only.expire_iff { throttle with lastClaimed := some head.claimedAt }
      present instant rfl head.expiredAt
    rw [BackendRegistry.insertOrRefresh_timeToLive, lives] at kept found
    rw [← instant] at found
    rw [run, ← spaced]
    exact ⟨kept, found⟩

section Standalone

variable {S : Type} {settings : StandaloneSettings} {bag : Bag S Ticket} {acts : List StandaloneAct}
  {act : StandaloneAct} {s t : StandaloneState S}

/-- Claim, refresh and expiry of a turn are one instant, and the device can be read. -/
def StandaloneAct.Steady (own : OwnIdentity) : StandaloneAct → Prop
  | .turnHead head => head.Steady own ∧ head.expiredAt = head.refreshedAt
  | _ => True

structure StandaloneTied (settings : StandaloneSettings) (s : StandaloneState S) : Prop where
  tied : OwnClock settings.own settings.entryTimeToLive settings.backendStatusPublishInterval s.availableBackends
    s.throttle s.clock
  unclaimed : s.phase = .starting → s.throttle.lastClaimed = none

theorem StandaloneTied.step (ok : StandaloneTied settings s) (positive : 0 < settings.backendStatusPublishInterval)
    (outlives : settings.backendStatusPublishInterval < settings.entryTimeToLive)
    (steady : act.Steady settings.own) (step : StandaloneStep settings bag s act t) : StandaloneTied settings t := by
  cases step with
  | signal => exact ⟨ok.tied, ok.unclaimed⟩
  | pass now later => exact ⟨ok.tied.pass later, ok.unclaimed⟩
  | register device phase => exact ⟨ok.tied.registered (ok.unclaimed phase) device, nofun⟩
  | registerFailed => exact ⟨ok.tied, nofun⟩
  | turnHead head phase lowered ordered =>
    exact ⟨(ok.tied.turnHead positive outlives steady.1 ordered (fun _ => steady.2)).1, nofun⟩
  | exit => exact ⟨ok.tied, nofun⟩
  | receive => exact ⟨ok.tied, ok.unclaimed⟩
  | drained => exact ⟨ok.tied, nofun⟩
  | execute around slices before after ticket rest outcome phase =>
    obtain ⟨phases, clock, registry, throttle, _⟩ :=
      s.settled_registry ticket rest (around.terminationFlag after) outcome
    refine ⟨by rw [clock, registry, throttle]; exact ok.tied, ?_⟩
    intro starting
    rw [phase, starting] at phases
    rcases phases with impossible | impossible <;> cases impossible
  | executed => exact ⟨ok.tied, nofun⟩
  | nextTurn => exact ⟨ok.tied, nofun⟩

theorem StandaloneRun.tied (run : StandaloneRun settings bag acts s)
    (positive : 0 < settings.backendStatusPublishInterval)
    (outlives : settings.backendStatusPublishInterval < settings.entryTimeToLive)
    (steady : ∀ act ∈ acts, act.Steady settings.own) : StandaloneTied settings s := by
  refine Trace.invariant_of_labels (StandaloneTied settings) (StandaloneAct.Steady settings.own) ?_ ?_ run steady
  · rintro _ ⟨clock, rfl⟩
    exact ⟨.new .., fun _ => rfl⟩
  · intro s act t allowed step ok
    exact ok.step positive outlives allowed step

/-- The standalone daemon never expires its own backend: after every turn head its entry is there,
however long the turns before took, and no refresh of its own is ever rejected. -/
theorem standalone_keeps_own_backend {before : StandaloneState S} {head : TurnHead}
    (positive : 0 < settings.backendStatusPublishInterval)
    (outlives : settings.backendStatusPublishInterval < settings.entryTimeToLive)
    (run : StandaloneRun settings bag acts before) (step : StandaloneStep settings bag before (.turnHead head) s)
    (steady : ∀ act ∈ StandaloneAct.turnHead head :: acts, act.Steady settings.own) :
    OwnPresent settings.own s.availableBackends ∧
      ownInsertAccepted settings.own head.device before.availableBackends head.refreshedAt = true := by
  obtain ⟨atHead, earlier⟩ := List.forall_mem_cons.mp steady
  obtain ⟨atOnce, expiry⟩ := atHead
  have tied := (run.tied positive outlives earlier).tied
  refine ⟨?_, tied.only.accepts atOnce.readable _⟩
  cases step with
  | turnHead _ phase lowered ordered =>
    obtain ⟨_, found⟩ := tied.turnHead positive outlives atOnce ordered (fun _ => expiry)
    exact found.mpr (by lia)

/-- The second of two turn heads that lie a quarter of an hour apart. -/
theorem standalone_keeps_own_backend_late :
    ∃ acts before s, StandaloneRun .alpha (Bag.fifo Ticket) acts before ∧
      StandaloneStep .alpha (Bag.fifo Ticket) before
        (.turnHead ⟨.idle, 900000000000, 900000000000, 900000000000⟩) s ∧
      OwnPresent StandaloneSettings.alpha.own s.availableBackends := by
  have start : StandaloneRun .alpha (Bag.fifo Ticket) [] (.initial .alpha (Bag.fifo Ticket) 0) := .start ⟨0, rfl⟩
  have run := start
    |>.next (.register .idle rfl (by decide +kernel))
    |>.next (.turnHead ⟨.idle, 1, 1, 1⟩ rfl rfl ⟨by decide, by decide, by decide⟩)
    |>.next (.drained rfl)
    |>.next (.executed rfl rfl)
    |>.next (.nextTurn rfl)
    |>.next (.pass 900000000000 (by decide))
  have kept := standalone_keeps_own_backend (by decide) (by decide) run
    (.turnHead ⟨.idle, 900000000000, 900000000000, 900000000000⟩ rfl rfl ⟨by decide, by decide, by decide⟩) (by
      simp only [List.forall_mem_cons, StandaloneAct.Steady, List.not_mem_nil, false_implies, implies_true, and_true,
        true_and]
      exact ⟨⟨rfl, _, rfl⟩, ⟨rfl, _, rfl⟩⟩)
  exact ⟨_, _, _, run, .turnHead _ rfl rfl ⟨by decide, by decide, by decide⟩, kept.1⟩

end Standalone

section Worker

variable {S : Type} {settings : WorkerSettings} {bag : Bag S Ticket} {acts : List WorkerAct} {act : WorkerAct}
  {s t : WorkerState S}

/-- Claim and refresh of a turn are one instant, the expiry follows at once unless a status is
published before it, and the device can be read. -/
def WorkerAct.Steady (own : OwnIdentity) : WorkerAct → Prop
  | .turnHead head published => head.Steady own ∧ (published = none → head.expiredAt = head.refreshedAt)
  | _ => True

/-- The status send between refresh and expiry, if there is one, takes at most one time to live. -/
def WorkerAct.SentInTime (timeToLive : Time) : WorkerAct → Prop
  | .turnHead head _ => head.expiredAt - head.refreshedAt ≤ timeToLive
  | _ => True

structure WorkerTied (settings : WorkerSettings) (s : WorkerState S) : Prop where
  tied : OwnClock settings.own settings.entryTimeToLive settings.backendStatusPublishInterval s.availableBackends
    s.throttle s.clock
  unclaimed : s.phase = .starting → s.throttle.lastClaimed = none

theorem WorkerTied.step (ok : WorkerTied settings s) (positive : 0 < settings.backendStatusPublishInterval)
    (outlives : settings.backendStatusPublishInterval < settings.entryTimeToLive)
    (steady : act.Steady settings.own) (step : WorkerStep settings bag s act t) : WorkerTied settings t := by
  rcases step.registry_cases with ⟨clock, registry, throttle, phase⟩ | ⟨later, moved⟩ |
    ⟨device, _, phase, registered⟩ | ⟨head, same, ordered, headed⟩
  · refine ⟨by rw [clock, registry, throttle]; exact ok.tied, ?_⟩
    intro starting
    rw [throttle]
    rcases phase with kept | ⟨left, _⟩
    · exact ok.unclaimed (kept ▸ starting)
    · exact absurd starting left
  · rw [moved]
    exact ⟨ok.tied.pass later, ok.unclaimed⟩
  · rw [registered]
    exact ⟨ok.tied.registered (ok.unclaimed phase) device, nofun⟩
  · subst same
    rw [headed]
    exact ⟨(ok.tied.turnHead positive outlives steady.1 ordered steady.2).1, nofun⟩

theorem WorkerRun.tied (run : WorkerRun settings bag acts s) (positive : 0 < settings.backendStatusPublishInterval)
    (outlives : settings.backendStatusPublishInterval < settings.entryTimeToLive)
    (steady : ∀ act ∈ acts, act.Steady settings.own) : WorkerTied settings s := by
  refine Trace.invariant_of_labels (WorkerTied settings) (WorkerAct.Steady settings.own) ?_ ?_ run steady
  · rintro _ ⟨clock, rfl⟩
    exact ⟨.new .., fun _ => rfl⟩
  · intro s act t allowed step ok
    exact ok.step positive outlives allowed step

/-- Whether a worker holds its own entry after a turn head is decided by that turn's status send
alone. -/
theorem WorkerRun.present_iff {head : TurnHead} {published : Option Backend}
    (run : WorkerRun settings bag (.turnHead head published :: acts) s)
    (positive : 0 < settings.backendStatusPublishInterval)
    (outlives : settings.backendStatusPublishInterval < settings.entryTimeToLive)
    (steady : ∀ act ∈ WorkerAct.turnHead head published :: acts, act.Steady settings.own) :
    OwnPresent settings.own s.availableBackends ↔ head.expiredAt - head.refreshedAt ≤ settings.entryTimeToLive := by
  rcases run with _ | ⟨previous, step⟩
  have before := WorkerRun.tied previous positive outlives
    (fun act member => steady act (List.mem_cons_of_mem _ member))
  have atHead := steady _ (List.mem_cons_self ..)
  cases step with
  | turnHead _ phase lowered ordered =>
    exact (before.tied.turnHead positive outlives atHead.1 ordered atHead.2).2

theorem WorkerRun.present (run : WorkerRun settings bag acts s) (positive : 0 < settings.backendStatusPublishInterval)
    (outlives : settings.backendStatusPublishInterval < settings.entryTimeToLive)
    (steady : ∀ act ∈ acts, act.Steady settings.own)
    (inTime : ∀ act ∈ acts, act.SentInTime settings.entryTimeToLive) (receiving : s.phase = .receiving) :
    OwnPresent settings.own s.availableBackends := by
  induction run with
  | start first =>
    obtain ⟨clock, rfl⟩ := first
    cases receiving
  | @next acts s act t previous step ih =>
    have earlier : s.phase = .receiving → OwnPresent settings.own s.availableBackends :=
      ih (fun act member => steady act (List.mem_cons_of_mem _ member))
        (fun act member => inTime act (List.mem_cons_of_mem _ member))
    rcases step.registry_cases with ⟨_, registry, _, phase⟩ | ⟨_, moved⟩ | ⟨_, _, _, registered⟩ | ⟨head, same, _, _⟩
    · rw [registry]
      rcases phase with kept | ⟨_, left⟩
      · exact earlier (kept ▸ receiving)
      · exact absurd receiving left
    · rw [moved] at receiving ⊢
      exact earlier receiving
    · rw [registered] at receiving
      cases receiving
    · subst same
      have run : WorkerRun settings bag _ t := previous.next step
      exact (run.present_iff positive outlives steady).mpr (inTime _ (List.mem_cons_self ..))

/-- A worker over `alpha` whose first status send has taken two seconds. -/
def WorkerState.delayed : WorkerState (List Ticket) :=
  ((WorkerState.initial .alpha (Bag.fifo Ticket) 0).registered .alpha .idle).headed .alpha ⟨.idle, 0, 0, 2000000000⟩

/-- A worker whose status send takes two seconds has expired the entry it has just refreshed, and
cancels a task assigned to it. -/
theorem worker_expires_own_backend :
    (¬ ∀ (S : Type) (settings : WorkerSettings) (bag : Bag S Ticket) (acts : List WorkerAct) (s : WorkerState S),
      0 < settings.backendStatusPublishInterval → settings.backendStatusPublishInterval < settings.entryTimeToLive →
      WorkerRun settings bag acts s → (∀ act ∈ acts, act.Steady settings.own) → s.phase = .receiving →
      OwnPresent settings.own s.availableBackends) ∧
    ∃ acts s t, WorkerRun .alpha (Bag.fifo Ticket) acts s ∧ (∀ act ∈ acts, act.Steady WorkerSettings.alpha.own) ∧
      WorkerStep .alpha (Bag.fifo Ticket) s (.receive ⟨0, { QuantumTask.quake with scheduledQpu := "alpha" }⟩
        (some ⟨"results-queue", ⟨7, "results-queue", "alpha", false,
          "CANCELLED: Backend 'alpha' is not registered with this process.", []⟩⟩)) t := by
  have start : WorkerRun .alpha (Bag.fifo Ticket) [] (.initial .alpha (Bag.fifo Ticket) 0) := .start ⟨0, rfl⟩
  have run : WorkerRun .alpha (Bag.fifo Ticket) _ WorkerState.delayed := start
    |>.next (.register .idle rfl (by decide +kernel))
    |>.next (.turnHead ⟨.idle, 0, 0, 2000000000⟩ rfl rfl ⟨by decide, by decide, by decide⟩)
  have steady : ∀ act ∈ [WorkerAct.turnHead ⟨.idle, 0, 0, 2000000000⟩ (some Backend.alpha), .register .idle],
      act.Steady WorkerSettings.alpha.own := by
    simp only [List.forall_mem_cons, WorkerAct.Steady, List.not_mem_nil, false_implies, implies_true, and_true]
    exact ⟨⟨rfl, _, rfl⟩, nofun⟩
  refine ⟨?_, ?_⟩
  · intro always
    obtain ⟨backend, located⟩ := always _ _ _ _ _ (by decide) (by decide) run steady rfl
    have absent : WorkerState.delayed.availableBackends.find "alpha" = none := by decide +kernel
    have impossible := absent.symm.trans located
    cases impossible
  · have cancels : settleIntake (WorkerState.delayed.intake (Bag.fifo Ticket)
        ⟨0, { QuantumTask.quake with scheduledQpu := "alpha" }⟩ .echo) =
        some ⟨"results-queue", ⟨7, "results-queue", "alpha", false,
          "CANCELLED: Backend 'alpha' is not registered with this process.", []⟩⟩ := by decide +kernel
    have receives : WorkerStep .alpha (Bag.fifo Ticket) .delayed _ _ :=
      .receive ⟨0, { QuantumTask.quake with scheduledQpu := "alpha" }⟩ .echo rfl rfl
    rw [cancels] at receives
    exact ⟨_, _, _, run, steady, receives⟩

/-- A worker keeps its own backend in every run in which no status send outlasts the time to live,
so that it never reports a task assigned to it as one for another process. In any run, a turn keeps
it exactly if its own send is in time. -/
theorem worker_keeps_own_backend (positive : 0 < settings.backendStatusPublishInterval)
    (outlives : settings.backendStatusPublishInterval < settings.entryTimeToLive)
    (run : WorkerRun settings bag acts s) (steady : ∀ act ∈ acts, act.Steady settings.own) :
    ((∀ act ∈ acts, act.SentInTime settings.entryTimeToLive) → s.phase = .receiving →
      OwnPresent settings.own s.availableBackends ∧
        ∀ ticket compiler error, ticket.task.scheduledQpu = settings.deviceId →
          (s.intake bag ticket compiler).result = .error error → error.kind ≠ .noBackendAvailable) ∧
    ∀ head published earlier, acts = .turnHead head published :: earlier →
      (OwnPresent settings.own s.availableBackends ↔
        head.expiredAt - head.refreshedAt ≤ settings.entryTimeToLive) := by
  refine ⟨?_, ?_⟩
  · intro inTime receiving
    have present := run.present positive outlives steady inTime receiving
    refine ⟨present, ?_⟩
    intro ticket compiler error assigned failed
    obtain ⟨backend, located⟩ := present
    have found : s.availableBackends.find ticket.task.scheduledQpu = some backend := by rw [assigned]; exact located
    exact compileAndSchedule_registered found failed
  · intro head published earlier same
    subst same
    exact run.present_iff positive outlives steady

/-- A send of half a second is in time. -/
theorem worker_keeps_own_backend_alpha :
    ∃ s, WorkerRun .alpha (Bag.fifo Ticket)
        [.turnHead ⟨.idle, 0, 0, 500000000⟩ (some Backend.alpha), .register .idle] s ∧
      OwnPresent WorkerSettings.alpha.own s.availableBackends := by
  have start : WorkerRun .alpha (Bag.fifo Ticket) [] (.initial .alpha (Bag.fifo Ticket) 0) := .start ⟨0, rfl⟩
  have run := start
    |>.next (.register .idle rfl (by decide +kernel))
    |>.next (.turnHead ⟨.idle, 0, 0, 500000000⟩ rfl rfl ⟨by decide, by decide, by decide⟩)
  refine ⟨_, run, ((worker_keeps_own_backend (by decide) (by decide) run ?_).1 ?_ rfl).1⟩
  · simp only [List.forall_mem_cons, WorkerAct.Steady, List.not_mem_nil, false_implies, implies_true, and_true]
    exact ⟨⟨rfl, _, rfl⟩, nofun⟩
  · simp only [List.forall_mem_cons, WorkerAct.SentInTime, List.not_mem_nil, false_implies, implies_true, and_true]
    decide

end Worker

end Qrmci
