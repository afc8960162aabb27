import Qrmci.Freshness

namespace Qrmci

/-- The registry is up to date as of an expiry: it holds the names whose last accepted status was no
older than an entry may get, and no others. -/
structure Current (backends : BackendRegistry) (accepted : List (String × Time)) (expiredAt : Time) : Prop where
  stamped : Stamped backends accepted
  present : ∀ name, (∃ entry, backends.entries[name]? = some entry) ↔
    ∃ stamp, lastAccepted accepted name = some stamp ∧ expiredAt - stamp ≤ backends.entryTimeToLive

variable {backends : BackendRegistry} {accepted : List (String × Time)} {expiredAt now : Time}

theorem Current.new (timeToLive expiredAt : Time) : Current (.new timeToLive) [] expiredAt := by
  refine ⟨.new timeToLive, ?_⟩
  intro name
  simp [BackendRegistry.new, lastAccepted]

/-- A status that is taken after the expiry is there, and takes nothing else away. -/
theorem Current.insertOrRefresh (current : Current backends accepted expiredAt) (wrapper : BackendWrapper)
    (live : 0 ≤ backends.entryTimeToLive) (later : expiredAt ≤ now) :
    Current (backends.insertOrRefresh wrapper now).2
      (stampAccepted wrapper.name (backends.insertOrRefresh wrapper now).1 now accepted) expiredAt := by
  refine ⟨current.stamped.insertOrRefresh wrapper now, ?_⟩
  cases conflict : backends.queueConflict wrapper with
  | true =>
    rw [BackendRegistry.insertOrRefresh_rejected conflict]
    exact current.present
  | false =>
    obtain ⟨taken, entries⟩ := BackendRegistry.insertOrRefresh_accepted now conflict
    intro name
    rw [taken, stampAccepted, if_pos rfl, lastAccepted_cons, entries, BackendRegistry.insertOrRefresh_timeToLive]
    by_cases mine : wrapper.name = name
    · rw [if_pos mine, if_pos mine]
      have recent : expiredAt - now ≤ backends.entryTimeToLive := by lia
      exact ⟨fun _ => ⟨now, rfl, recent⟩, fun _ => ⟨_, rfl⟩⟩
    · rw [if_neg mine, if_neg mine]
      exact current.present name

/-- A later expiry leaves exactly what is recent by then: nothing that went before can come back. -/
theorem Current.expire (current : Current backends accepted expiredAt) (later : expiredAt ≤ now) :
    Current (backends.expire now).2 accepted now := by
  refine ⟨current.stamped.expire now, ?_⟩
  intro name
  rw [BackendRegistry.expire_timeToLive]
  constructor
  · intro there
    obtain ⟨entry, found⟩ := there
    have recent := RecentAt.expire backends now name entry found
    rw [BackendRegistry.expire_timeToLive] at recent
    exact ⟨entry.lastRefreshed, current.stamped.expire now name entry found, recent⟩
  · intro fresh
    obtain ⟨stamp, last, recent⟩ := fresh
    obtain ⟨entry, found⟩ := (current.present name).mpr ⟨stamp, last, by lia⟩
    have same : entry.lastRefreshed = stamp := Option.some.inj ((current.stamped name entry found).symm.trans last)
    refine ⟨entry, ?_⟩
    rw [BackendRegistry.expire_getElem?, found, Option.filter_some]
    have kept : backends.stale now entry = false := by
      simp only [BackendRegistry.stale, same, decide_eq_false_iff_not]
      lia
    rw [kept]
    rfl

theorem Current.find_iff (current : Current backends accepted expiredAt) (name : String) :
    (∃ backend, backends.find name = some backend) ↔
      ∃ stamp, lastAccepted accepted name = some stamp ∧ expiredAt - stamp ≤ backends.entryTimeToLive := by
  rw [← current.present name]
  unfold BackendRegistry.find
  constructor
  · intro located
    obtain ⟨backend, found⟩ := located
    obtain ⟨entry, there, _⟩ := Option.map_eq_some_iff.mp found
    exact ⟨entry, there⟩
  · intro there
    obtain ⟨entry, found⟩ := there
    exact ⟨entry.backend, by rw [found]; rfl⟩

section OwnDevice

variable {own : OwnIdentity}

theorem Current.ownInsert {device : DeviceReading} {wrapper : BackendWrapper}
    (current : Current backends accepted expiredAt) (live : 0 ≤ backends.entryTimeToLive) (later : expiredAt ≤ now)
    (read : BackendWrapper.fromSubmitter own.deviceId device own.dispatchQueue = .ok wrapper) :
    Current (backends.insertOrRefresh wrapper now).2
      (stampAccepted own.deviceId (ownInsertAccepted own device backends now) now accepted) expiredAt := by
  have inserted := current.insertOrRefresh wrapper live later
  rw [(BackendWrapper.fromSubmitter_ok read).1] at inserted
  simpa only [ownInsertAccepted, read] using inserted

theorem Current.registerOwnDevice (own : OwnIdentity) (current : Current backends accepted expiredAt)
    (live : 0 ≤ backends.entryTimeToLive) (later : expiredAt ≤ now) (device : DeviceReading) :
    Current (registerOwnDevice own.deviceId device backends own.dispatchQueue now).2
      (stampAccepted own.deviceId (ownInsertAccepted own device backends now) now accepted) expiredAt := by
  unfold Qrmci.registerOwnDevice
  cases read : BackendWrapper.fromSubmitter own.deviceId device own.dispatchQueue with
  | error error => simpa only [ownInsertAccepted, read, stampAccepted, Bool.false_eq_true, if_false] using current
  | ok wrapper => exact current.ownInsert live later read

/-- Whether or not a slot is due and the device can be read, a turn head brings the registry up to
date as of its own expiry. -/
theorem Current.runTurnHead (own : OwnIdentity) {head : TurnHead} {clock : Time}
    (current : Current backends accepted expiredAt) (live : 0 ≤ backends.entryTimeToLive) (past : expiredAt ≤ clock)
    (ordered : head.Ordered clock) (throttle : PublicationThrottle) :
    Current (runTurnHead own head backends throttle).2.1
      (stampAccepted own.deviceId ((throttle.claim head.claimedAt).1 &&
        ownInsertAccepted own head.device backends head.refreshedAt) head.refreshedAt accepted) head.expiredAt := by
  have refreshed : expiredAt ≤ head.refreshedAt := by
    have claimed := ordered.claimed
    have after := ordered.refreshed
    lia
  have expired : expiredAt ≤ head.expiredAt := le_trans refreshed ordered.expired
  rcases runTurnHead_cases own head backends throttle with
    ⟨_, _, _, refused, run⟩ | ⟨due, ⟨_, read, run⟩ | ⟨wrapper, read, run⟩⟩
  · rw [run, refused]
    exact current.expire expired
  · rw [run, due]
    simpa only [ownInsertAccepted, read, stampAccepted, Bool.and_false, Bool.false_eq_true, if_false]
      using current.expire expired
  · rw [run, due, Bool.true_and]
    exact (current.ownInsert live refreshed read).expire expired

end OwnDevice

section Selector

variable {settings : SelectorSettings} {acts : List SelectorAct} {s t : SelectorState}

theorem Current.receiveStatus (current : Current s.availableBackends s.accepted s.expiredAt)
    (live : 0 ≤ s.availableBackends.entryTimeToLive) (past : s.expiredAt ≤ s.clock) (message : Backend) :
    Current (s.receiveStatus settings message).availableBackends (s.receiveStatus settings message).accepted
      s.expiredAt := by
  cases read : BackendWrapper.fromPublishedStatus settings.build message with
  | error error =>
    simpa only [SelectorState.receiveStatus, handleStatus, read, stampAccepted, Bool.false_eq_true, if_false]
      using current
  | ok wrapper =>
    obtain ⟨_, _, built⟩ := BackendWrapper.fromPublishedStatus_ok read
    have named : wrapper.name = message.name := by
      rw [built]
      rfl
    have inserted := current.insertOrRefresh wrapper live past
    rw [named] at inserted
    simpa only [SelectorState.receiveStatus, handleStatus, read] using inserted

theorem SelectorRun.current (live : 0 ≤ settings.entryTimeToLive) (run : SelectorRun settings acts s) :
    Current s.availableBackends s.accepted s.expiredAt := by
  induction run with
  | start first =>
    obtain ⟨clock, rfl⟩ := first
    exact .new _ _
  | next previous step ih =>
    have fresh := SelectorRun.fresh previous
    cases step with
    | status message => exact ih.receiveStatus (by rw [fresh.timeToLive]; exact live) fresh.past message
    | expire => exact ih.expire fresh.past
    | _ => exact ih

end Selector

section Standalone

variable {S : Type} {settings : StandaloneSettings} {bag : Bag S Ticket} {acts : List StandaloneAct}
  {s : StandaloneState S}

theorem StandaloneRun.current (live : 0 ≤ settings.entryTimeToLive) (run : StandaloneRun settings bag acts s) :
    Current s.availableBackends s.history.accepted s.history.expiredAt := by
  induction run with
  | start first =>
    obtain ⟨clock, rfl⟩ := first
    exact .new _ _
  | @next acts s act t previous step ih =>
    have fresh := StandaloneRun.fresh previous
    have lives : 0 ≤ s.availableBackends.entryTimeToLive := by
      rw [fresh.timeToLive]
      exact live
    cases step with
    | register device => exact ih.registerOwnDevice settings.own lives fresh.past device
    | turnHead head phase lowered ordered => exact ih.runTurnHead settings.own lives fresh.past ordered s.throttle
    | execute around slices before after ticket rest outcome =>
      obtain ⟨_, _, registry, _, stamps, expiry⟩ :=
        s.settled_registry ticket rest (around.terminationFlag after) outcome
      rw [registry, stamps, expiry]
      exact ih
    | _ => exact ih

end Standalone

/-- In every reachable state the selector, and the standalone daemon, know exactly the names whose
last accepted status was within its time to live at the latest expiry. Neither a rejected status nor
a failed reading of the device makes a difference, and what has expired is not there. -/
theorem registered_iff_recent :
    (∀ (settings : SelectorSettings) (acts : List SelectorAct) (s : SelectorState), 0 ≤ settings.entryTimeToLive →
      SelectorRun settings acts s → ∀ name, (∃ backend, s.availableBackends.find name = some backend) ↔
        ∃ stamp, lastAccepted s.accepted name = some stamp ∧ s.expiredAt - stamp ≤ settings.entryTimeToLive) ∧
    ∀ (S : Type) (bag : Bag S Ticket) (settings : StandaloneSettings) (acts : List StandaloneAct)
      (s : StandaloneState S), 0 ≤ settings.entryTimeToLive → StandaloneRun settings bag acts s →
      ∀ name, (∃ backend, s.availableBackends.find name = some backend) ↔
        ∃ stamp, lastAccepted s.history.accepted name = some stamp ∧
          s.history.expiredAt - stamp ≤ settings.entryTimeToLive := by
  refine ⟨?_, ?_⟩
  · intro settings acts s live run name
    rw [← run.fresh.timeToLive]
    exact (run.current live).find_iff name
  · intro S bag settings acts s live run name
    rw [← run.fresh.timeToLive]
    exact (run.current live).find_iff name

/-- A status that outlives its ten seconds by one nanosecond at the next expiry is gone. -/
theorem registered_iff_recent_gone :
    ∃ s, SelectorRun .plain [.expire, .pass 10000000001, .status .alpha, .enter] s ∧
      lastAccepted s.accepted "alpha" = some 0 ∧ ¬ ∃ backend, s.availableBackends.find "alpha" = some backend := by
  have start : SelectorRun .plain [] (.initial .plain 0) := .start ⟨0, rfl⟩
  have run := start
    |>.next (.enter rfl rfl)
    |>.next (.status .alpha rfl rfl)
    |>.next (.pass 10000000001 (by decide))
    |>.next (.expire rfl)
  refine ⟨_, run, by decide +kernel, ?_⟩
  rw [registered_iff_recent.1 .plain _ _ (by decide) run "alpha"]
  intro recent
  obtain ⟨stamp, last, within⟩ := recent
  have accepted : lastAccepted [("alpha", 0)] "alpha" = some stamp := last
  have zero : some (0 : Time) = some stamp := accepted
  cases zero
  revert within
  decide

end Qrmci
