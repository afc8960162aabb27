import Qrmci.Selector
import Qrmci.Standalone

namespace Qrmci

/-- Every entry carries the stamp of the last status accepted under its name. -/
def Stamped (backends : BackendRegistry) (accepted : List (String × Time)) : Prop :=
  ∀ name entry, backends.entries[name]? = some entry → lastAccepted accepted name = some entry.lastRefreshed

/-- No entry was older than the registry allows at the given time. -/
def RecentAt (backends : BackendRegistry) (time : Time) : Prop :=
  ∀ (name : String) (entry : RegistryEntry), backends.entries[name]? = some entry →
    time - entry.lastRefreshed ≤ backends.entryTimeToLive

variable {backends : BackendRegistry} {accepted : List (String × Time)} {wrapper : BackendWrapper} {now : Time}

theorem lastAccepted_cons (accepted : List (String × Time)) (stamp : String × Time) (name : String) :
    lastAccepted (stamp :: accepted) name = if stamp.1 = name then some stamp.2 else lastAccepted accepted name := by
  unfold lastAccepted
  by_cases same : stamp.1 = name
  · simp [same]
  · simp [same]

theorem Stamped.new (timeToLive : Time) : Stamped (.new timeToLive) [] := by
  intro name entry present
  simp [BackendRegistry.new] at present

theorem Stamped.insertOrRefresh (stamped : Stamped backends accepted) (wrapper : BackendWrapper) (now : Time) :
    Stamped (backends.insertOrRefresh wrapper now).2
      (stampAccepted wrapper.name (backends.insertOrRefresh wrapper now).1 now accepted) := by
  cases conflict : backends.queueConflict wrapper with
  | true =>
    rw [BackendRegistry.insertOrRefresh_rejected conflict]
    exact stamped
  | false =>
    obtain ⟨taken, entries⟩ := BackendRegistry.insertOrRefresh_accepted now conflict
    intro name entry present
    rw [taken, stampAccepted, if_pos rfl, lastAccepted_cons]
    rw [entries] at present
    by_cases mine : wrapper.name = name
    · rw [if_pos mine] at present
      cases present
      rw [if_pos mine]
    · rw [if_neg mine] at present
      rw [if_neg mine]
      exact stamped name entry present

theorem Stamped.expire (stamped : Stamped backends accepted) (now : Time) :
    Stamped (backends.expire now).2 accepted := by
  intro name entry present
  rw [BackendRegistry.expire_getElem?, Option.filter_eq_some_iff] at present
  exact stamped name entry present.1

/-- What an expiry leaves is recent at that moment. -/
theorem RecentAt.expire (backends : BackendRegistry) (now : Time) : RecentAt (backends.expire now).2 now := by
  intro name entry present
  rw [BackendRegistry.expire_getElem?, Option.filter_eq_some_iff] at present
  have kept := present.2
  simp only [BackendRegistry.stale, Bool.not_eq_true', decide_eq_false_iff_not] at kept
  rw [BackendRegistry.expire_timeToLive]
  lia

/-- Among stamped and recent entries, whatever is chosen was accepted within the time to live. -/
theorem chooseBackend_recent {inputFormats : List String} {task : QuantumTask} {policy : BackendSelectionPolicy}
    {name : String} {time : Time} (stamped : Stamped backends accepted) (recent : RecentAt backends time)
    (chosen : chooseBackend inputFormats task backends policy = .ok name) :
    ∃ stamp, lastAccepted accepted name = some stamp ∧ time - backends.entryTimeToLive ≤ stamp := by
  obtain ⟨backend, located, _, _⟩ := chooseBackend_ok chosen
  obtain ⟨entry, present, _⟩ := Option.map_eq_some_iff.mp located
  have age := recent name entry present
  exact ⟨entry.lastRefreshed, stamped name entry present, by lia⟩

section Selector

variable {settings : SelectorSettings} {acts : List SelectorAct} {act : SelectorAct} {s t : SelectorState}

structure SelectorFresh (settings : SelectorSettings) (s : SelectorState) : Prop where
  timeToLive : s.availableBackends.entryTimeToLive = settings.entryTimeToLive
  stamped : Stamped s.availableBackends s.accepted
  recent : s.phase = .tasks → RecentAt s.availableBackends s.expiredAt
  past : s.expiredAt ≤ s.clock

theorem SelectorFresh.receiveStatus (fresh : SelectorFresh settings s) (message : Backend) (phase : s.phase = .statuses) :
    SelectorFresh settings (s.receiveStatus settings message) := by
  have outside : s.phase ≠ .tasks := by
    rw [phase]
    nofun
  cases read : BackendWrapper.fromPublishedStatus settings.build message with
  | error error =>
    have same : s.receiveStatus settings message = s := by
      simp only [SelectorState.receiveStatus, handleStatus, read, stampAccepted, Bool.false_eq_true, if_false]
    rw [same]
    exact fresh
  | ok wrapper =>
    obtain ⟨_, _, built⟩ := BackendWrapper.fromPublishedStatus_ok read
    have named : wrapper.name = message.name := by rw [built]; rfl
    have stamped := fresh.stamped.insertOrRefresh wrapper s.clock
    rw [named] at stamped
    refine ⟨?_, ?_, fun tasks => absurd tasks outside, fresh.past⟩
    · simp only [SelectorState.receiveStatus, handleStatus, read, BackendRegistry.insertOrRefresh_timeToLive]
      exact fresh.timeToLive
    · simpa only [SelectorState.receiveStatus, handleStatus, read] using stamped

theorem SelectorFresh.step (fresh : SelectorFresh settings s) (step : SelectorStep settings s act t) :
    SelectorFresh settings t := by
  cases step with
  | signal => exact ⟨fresh.timeToLive, fresh.stamped, fresh.recent, fresh.past⟩
  | pass now later => exact ⟨fresh.timeToLive, fresh.stamped, fresh.recent, le_trans fresh.past later⟩
  | enter => exact ⟨fresh.timeToLive, fresh.stamped, nofun, fresh.past⟩
  | exit => exact ⟨fresh.timeToLive, fresh.stamped, nofun, fresh.past⟩
  | status message phase => exact fresh.receiveStatus message phase
  | expire => exact ⟨fresh.timeToLive, fresh.stamped.expire s.clock, fun _ => .expire _ _, le_refl _⟩
  | task => exact ⟨fresh.timeToLive, fresh.stamped, fresh.recent, fresh.past⟩
  | rest => exact ⟨fresh.timeToLive, fresh.stamped, nofun, fresh.past⟩

theorem SelectorRun.fresh (run : SelectorRun settings acts s) : SelectorFresh settings s := by
  refine Trace.invariant (SelectorFresh settings) ?_ ?_ run
  · rintro _ ⟨clock, rfl⟩
    exact ⟨rfl, .new _, nofun, le_refl _⟩
  · intro s act t step fresh
    exact fresh.step step

end Selector

section Standalone

variable {S : Type} {settings : StandaloneSettings} {bag : Bag S Ticket} {acts : List StandaloneAct}
  {act : StandaloneAct} {s t : StandaloneState S}

structure StandaloneFresh (settings : StandaloneSettings) (s : StandaloneState S) : Prop where
  timeToLive : s.availableBackends.entryTimeToLive = settings.entryTimeToLive
  stamped : Stamped s.availableBackends s.history.accepted
  recent : s.phase = .draining → RecentAt s.availableBackends s.history.expiredAt
  past : s.history.expiredAt ≤ s.clock

/-- What a daemon puts into its registry leaves its stamp. -/
theorem Stamped.ownInsert {own : OwnIdentity} {device : DeviceReading} (stamped : Stamped backends accepted)
    (read : BackendWrapper.fromSubmitter own.deviceId device own.dispatchQueue = .ok wrapper) :
    Stamped (backends.insertOrRefresh wrapper now).2
      (stampAccepted own.deviceId (ownInsertAccepted own device backends now) now accepted) := by
  have inserted := stamped.insertOrRefresh wrapper now
  rw [(BackendWrapper.fromSubmitter_ok read).1] at inserted
  simpa only [ownInsertAccepted, read] using inserted

theorem Stamped.registerOwnDevice (stamped : Stamped backends accepted) (own : OwnIdentity) (device : DeviceReading)
    (now : Time) :
    Stamped (registerOwnDevice own.deviceId device backends own.dispatchQueue now).2
      (stampAccepted own.deviceId (ownInsertAccepted own device backends now) now accepted) := by
  unfold Qrmci.registerOwnDevice
  cases read : BackendWrapper.fromSubmitter own.deviceId device own.dispatchQueue with
  | error error => simpa only [ownInsertAccepted, read, stampAccepted, Bool.false_eq_true, if_false] using stamped
  | ok wrapper => exact stamped.ownInsert read

theorem Stamped.runTurnHead (stamped : Stamped backends accepted) (own : OwnIdentity) (head : TurnHead)
    (throttle : PublicationThrottle) :
    Stamped (runTurnHead own head backends throttle).2.1
      (stampAccepted own.deviceId ((throttle.claim head.claimedAt).1 &&
        ownInsertAccepted own head.device backends head.refreshedAt) head.refreshedAt accepted) := by
  rcases runTurnHead_cases own head backends throttle with
    ⟨_, _, _, refused, run⟩ | ⟨due, ⟨_, read, run⟩ | ⟨wrapper, read, run⟩⟩
  · rw [run, refused]
    exact stamped.expire _
  · rw [run, due]
    simpa only [ownInsertAccepted, read, stampAccepted, Bool.and_false, Bool.false_eq_true, if_false]
      using stamped.expire _
  · rw [run, due, Bool.true_and]
    exact (stamped.ownInsert read).expire _

theorem StandaloneFresh.step (fresh : StandaloneFresh settings s) (step : StandaloneStep settings bag s act t) :
    StandaloneFresh settings t := by
  cases step with
  | signal => exact ⟨fresh.timeToLive, fresh.stamped, fresh.recent, fresh.past⟩
  | pass now later => exact ⟨fresh.timeToLive, fresh.stamped, fresh.recent, le_trans fresh.past later⟩
  | register device =>
    refine ⟨?_, fresh.stamped.registerOwnDevice settings.own device s.clock, nofun, fresh.past⟩
    exact (registerOwnDevice_timeToLive ..).trans fresh.timeToLive
  | registerFailed => exact ⟨fresh.timeToLive, fresh.stamped, nofun, fresh.past⟩
  | turnHead head phase lowered ordered =>
    obtain ⟨refreshed, run, lives⟩ := runTurnHead_expired settings.own head s.availableBackends s.throttle
    refine ⟨?_, fresh.stamped.runTurnHead settings.own head s.throttle, fun _ => ?_, le_refl _⟩
    · change (runTurnHead settings.own head s.availableBackends s.throttle).2.1.entryTimeToLive = _
      rw [run, BackendRegistry.expire_timeToLive, lives]
      exact fresh.timeToLive
    · change RecentAt (runTurnHead settings.own head s.availableBackends s.throttle).2.1 head.expiredAt
      rw [run]
      exact .expire refreshed head.expiredAt
  | exit => exact ⟨fresh.timeToLive, fresh.stamped, nofun, fresh.past⟩
  | receive => exact ⟨fresh.timeToLive, fresh.stamped, fresh.recent, fresh.past⟩
  | drained => exact ⟨fresh.timeToLive, fresh.stamped, nofun, fresh.past⟩
  | execute around slices before after ticket rest outcome phase =>
    obtain ⟨phases, clock, registry, _, stamps, expiry⟩ :=
      s.settled_registry ticket rest (around.terminationFlag after) outcome
    refine ⟨by rw [registry]; exact fresh.timeToLive, by rw [registry, stamps]; exact fresh.stamped, ?_,
      by rw [expiry, clock]; exact fresh.past⟩
    intro draining
    rw [phase, draining] at phases
    rcases phases with impossible | impossible <;> cases impossible
  | executed => exact ⟨fresh.timeToLive, fresh.stamped, nofun, fresh.past⟩
  | nextTurn => exact ⟨fresh.timeToLive, fresh.stamped, nofun, fresh.past⟩

theorem StandaloneRun.fresh (run : StandaloneRun settings bag acts s) : StandaloneFresh settings s := by
  refine Trace.invariant (StandaloneFresh settings) ?_ ?_ run
  · rintro _ ⟨clock, rfl⟩
    exact ⟨rfl, .new _, nofun, le_refl _⟩
  · intro s act t step fresh
    exact fresh.step step

end Standalone

/-- A status taken at the start of a turn is still chosen from when its time to live has passed,
as long as the turn goes on. -/
theorem selection_outlives_time_to_live :
    ¬ ∀ (settings : SelectorSettings) (acts : List SelectorAct) (s : SelectorState), SelectorRun settings acts s →
      s.phase = .tasks → ∀ task name,
        chooseBackend settings.inputFormats task s.availableBackends settings.selectionPolicy = .ok name →
        ∃ stamp, lastAccepted s.accepted name = some stamp ∧ s.clock - settings.entryTimeToLive ≤ stamp := by
  intro always
  have start : SelectorRun .plain [] (.initial .plain 0) := .start ⟨0, rfl⟩
  have run := start
    |>.next (.enter rfl rfl)
    |>.next (.status .alpha rfl rfl)
    |>.next (.expire rfl)
    |>.next (.pass 10000000001 (by decide))
  obtain ⟨stamp, accepted, recent⟩ := always _ _ _ run rfl .quake "alpha" (by decide +kernel)
  have stamped : lastAccepted [("alpha", 0)] "alpha" = some stamp := accepted
  have zero : some (0 : Time) = some stamp := stamped
  cases zero
  revert recent
  decide

/-- Whenever the selector or the standalone daemon chooses a backend, the last status accepted for
it was stamped no earlier than one time to live before the expiry of the running turn. -/
theorem selection_recent_at_expiry :
    (∀ (settings : SelectorSettings) (acts : List SelectorAct) (s : SelectorState), SelectorRun settings acts s →
      s.phase = .tasks → ∀ task name,
        chooseBackend settings.inputFormats task s.availableBackends settings.selectionPolicy = .ok name →
        ∃ stamp, lastAccepted s.accepted name = some stamp ∧ s.expiredAt - settings.entryTimeToLive ≤ stamp) ∧
    (∀ (S : Type) (bag : Bag S Ticket) (settings : StandaloneSettings) (acts : List StandaloneAct)
      (s : StandaloneState S), StandaloneRun settings bag acts s → s.phase = .draining → ∀ inputFormats task name,
        chooseBackend inputFormats task s.availableBackends settings.selectionPolicy = .ok name →
        ∃ stamp, lastAccepted s.history.accepted name = some stamp ∧
          s.history.expiredAt - settings.entryTimeToLive ≤ stamp) := by
  refine ⟨?_, ?_⟩
  · intro settings acts s run phase task name chosen
    have fresh := run.fresh
    have recent := chooseBackend_recent fresh.stamped (fresh.recent phase) chosen
    rwa [fresh.timeToLive] at recent
  · intro S bag settings acts s run phase inputFormats task name chosen
    have fresh := run.fresh
    have recent := chooseBackend_recent fresh.stamped (fresh.recent phase) chosen
    rwa [fresh.timeToLive] at recent

/-- A status accepted four seconds before the expiry of its turn is recent enough to be chosen. -/
theorem selection_recent_alpha :
    ∃ s, SelectorRun .plain [.expire, .pass 4000000000, .status .alpha, .enter] s ∧
      ∃ stamp, lastAccepted s.accepted "alpha" = some stamp ∧ 4000000000 - 10000000000 ≤ stamp := by
  have start : SelectorRun .plain [] (.initial .plain 0) := .start ⟨0, rfl⟩
  have run := start
    |>.next (.enter rfl rfl)
    |>.next (.status .alpha rfl rfl)
    |>.next (.pass 4000000000 (by decide))
    |>.next (.expire rfl)
  exact ⟨_, run, selection_recent_at_expiry.1 _ _ _ run rfl .quake "alpha" (by decide +kernel)⟩

end Qrmci
