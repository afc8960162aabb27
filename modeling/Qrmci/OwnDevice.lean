import Qrmci.Daemon

namespace Qrmci

/-- The head of a device-owning daemon's turn: what the device answers if it is read, and when the
claim, the refresh and the expiry read the clock. -/
structure TurnHead where
  device : DeviceReading
  claimedAt : Time
  refreshedAt : Time
  expiredAt : Time

/-- The three readings of one steady clock that has shown `clock` before. -/
structure TurnHead.Ordered (head : TurnHead) (clock : Time) : Prop where
  claimed : clock ≤ head.claimedAt
  refreshed : head.claimedAt ≤ head.refreshedAt
  expired : head.refreshedAt ≤ head.expiredAt

/-- The identity a device-owning daemon registers itself under. -/
structure OwnIdentity where
  deviceId : String
  dispatchQueue : String
  deriving DecidableEq, Repr

/-- Whether the registry takes what a reading of the own device becomes. The daemons drop this
answer; it is kept here for their histories. -/
def ownInsertAccepted (own : OwnIdentity) (device : DeviceReading) (backends : BackendRegistry) (now : Time) : Bool :=
  match BackendWrapper.fromSubmitter own.deviceId device own.dispatchQueue with
  | .error _ => false
  | .ok refreshed => (backends.insertOrRefresh refreshed now).1

/-- Refresh, then expire: the status to publish, the registry and the throttle afterwards. -/
def runTurnHead (own : OwnIdentity) (head : TurnHead) (backends : BackendRegistry) (throttle : PublicationThrottle) :
    Option Backend × BackendRegistry × PublicationThrottle :=
  let refreshed := refreshOwnDeviceStatus own.deviceId head.device backends throttle own.dispatchQueue
    head.claimedAt head.refreshedAt
  (refreshed.1, (refreshed.2.1.expire head.expiredAt).2, refreshed.2.2)

/-- The ways through a turn head: no slot is due, the device cannot be read, or its reading joins
the registry. Every way ends with an expiry. -/
theorem runTurnHead_cases (own : OwnIdentity) (head : TurnHead) (backends : BackendRegistry)
    (throttle : PublicationThrottle) :
    (∃ last, throttle.lastClaimed = some last ∧ head.claimedAt - last < throttle.publishInterval ∧
      throttle.claim head.claimedAt = (false, throttle) ∧
      runTurnHead own head backends throttle = (none, (backends.expire head.expiredAt).2, throttle)) ∨
    (throttle.claim head.claimedAt = (true, { throttle with lastClaimed := some head.claimedAt }) ∧
      ((∃ error, BackendWrapper.fromSubmitter own.deviceId head.device own.dispatchQueue = .error error ∧
          runTurnHead own head backends throttle =
            (none, (backends.expire head.expiredAt).2, { throttle with lastClaimed := some head.claimedAt })) ∨
        ∃ wrapper, BackendWrapper.fromSubmitter own.deviceId head.device own.dispatchQueue = .ok wrapper ∧
          runTurnHead own head backends throttle =
            (some wrapper.toBackend, ((backends.insertOrRefresh wrapper head.refreshedAt).2.expire head.expiredAt).2,
              { throttle with lastClaimed := some head.claimedAt }))) := by
  rcases throttle.claim_cases head.claimedAt with due | ⟨last, claimed, early, refused⟩
  · right
    refine ⟨due, ?_⟩
    cases read : BackendWrapper.fromSubmitter own.deviceId head.device own.dispatchQueue with
    | error error => exact Or.inl ⟨error, rfl, by simp only [runTurnHead, refreshOwnDeviceStatus, due, read]⟩
    | ok wrapper => exact Or.inr ⟨wrapper, rfl, by simp only [runTurnHead, refreshOwnDeviceStatus, due, read]⟩
  · left
    exact ⟨last, claimed, early, refused, by simp only [runTurnHead, refreshOwnDeviceStatus, refused]⟩

/-- A turn head ends with an expiry of a registry that lives as long as before. -/
theorem runTurnHead_expired (own : OwnIdentity) (head : TurnHead) (backends : BackendRegistry)
    (throttle : PublicationThrottle) :
    ∃ refreshed : BackendRegistry, (runTurnHead own head backends throttle).2.1 = (refreshed.expire head.expiredAt).2 ∧
      refreshed.entryTimeToLive = backends.entryTimeToLive := by
  rcases runTurnHead_cases own head backends throttle with
    ⟨_, _, _, _, run⟩ | ⟨_, ⟨_, _, run⟩ | ⟨wrapper, _, run⟩⟩
  · exact ⟨backends, by rw [run], rfl⟩
  · exact ⟨backends, by rw [run], rfl⟩
  · exact ⟨_, by rw [run], BackendRegistry.insertOrRefresh_timeToLive⟩

@[simp] theorem registerOwnDevice_timeToLive (deviceId : String) (device : DeviceReading) (backends : BackendRegistry)
    (dispatchQueue : String) (now : Time) :
    (registerOwnDevice deviceId device backends dispatchQueue now).2.entryTimeToLive = backends.entryTimeToLive := by
  unfold registerOwnDevice
  split
  · rfl
  · exact BackendRegistry.insertOrRefresh_timeToLive

/-- The registry of a daemon that only ever registers its own device. -/
def OwnOnly (own : OwnIdentity) (backends : BackendRegistry) : Prop :=
  ∀ name entry, backends.entries[name]? = some entry →
    name = own.deviceId ∧ entry.backend.queueName = own.dispatchQueue

variable {own : OwnIdentity} {backends : BackendRegistry} {wrapper : BackendWrapper} {now : Time}

theorem OwnOnly.new (own : OwnIdentity) (timeToLive : Time) : OwnOnly own (.new timeToLive) := by
  intro name entry present
  simp [BackendRegistry.new] at present

/-- A daemon's own refresh is never taken for a queue conflict. -/
theorem OwnOnly.no_conflict (only : OwnOnly own backends) (queued : wrapper.queueName = own.dispatchQueue) :
    backends.queueConflict wrapper = false := by
  unfold BackendRegistry.queueConflict
  split
  · rename_i entry present
    have same := (only _ _ present).2
    rw [same, queued]
    simp
  · rfl

theorem OwnOnly.insertOrRefresh (only : OwnOnly own backends) (named : wrapper.name = own.deviceId)
    (queued : wrapper.queueName = own.dispatchQueue) : OwnOnly own (backends.insertOrRefresh wrapper now).2 := by
  obtain ⟨_, entries⟩ := BackendRegistry.insertOrRefresh_accepted now (only.no_conflict queued)
  intro name entry present
  rw [entries] at present
  split at present
  · rename_i same
    cases present
    exact ⟨same.symm.trans named, queued⟩
  · exact only name entry present

theorem OwnOnly.expire (only : OwnOnly own backends) : OwnOnly own (backends.expire now).2 := by
  intro name entry present
  rw [BackendRegistry.expire_getElem?, Option.filter_eq_some_iff] at present
  exact only name entry present.1

theorem OwnOnly.registerOwnDevice {device : DeviceReading} (only : OwnOnly own backends) :
    OwnOnly own (registerOwnDevice own.deviceId device backends own.dispatchQueue now).2 := by
  unfold Qrmci.registerOwnDevice
  cases read : BackendWrapper.fromSubmitter own.deviceId device own.dispatchQueue with
  | error error => exact only
  | ok wrapper =>
    obtain ⟨named, queued⟩ := BackendWrapper.fromSubmitter_ok read
    exact only.insertOrRefresh named queued

theorem OwnOnly.runTurnHead {head : TurnHead} {throttle : PublicationThrottle} (only : OwnOnly own backends) :
    OwnOnly own (runTurnHead own head backends throttle).2.1 := by
  rcases runTurnHead_cases own head backends throttle with
    ⟨_, _, _, _, run⟩ | ⟨_, ⟨_, _, run⟩ | ⟨wrapper, read, run⟩⟩
  · rw [run]
    exact only.expire
  · rw [run]
    exact only.expire
  · rw [run]
    obtain ⟨named, queued⟩ := BackendWrapper.fromSubmitter_ok read
    exact (only.insertOrRefresh named queued).expire

/-- A name the daemon finds in its own registry is its own. -/
theorem OwnOnly.find (only : OwnOnly own backends) {name : String} {found : BackendWrapper}
    (located : backends.find name = some found) : name = own.deviceId := by
  obtain ⟨entry, present, _⟩ := Option.map_eq_some_iff.mp located
  exact (only name entry present).1

end Qrmci
