import Qrmci.Config
import Qrmci.DaemonMessaging
import Qrmci.Host
import Qrmci.Runners.Advance

namespace Qrmci

/-- An empty setting is one that is not set. -/
def optionalSetting (value : String) : Option String := if value = "" then none else some value

section Program

variable {σ : Type} (host : DeviceHost σ)

/-- The ID of the opened device, or why it cannot be opened. -/
def DeviceHost.openConfiguredDevice (config : SubmitterConfig) (s : σ) : Except Error String × σ :=
  match host.openDevice config.qdmiDriver config.qdmiDeviceName (optionalSetting config.qdmiClientToken)
    (optionalSetting config.qdmiDeviceId) s with
  | (.error error, t) => (.error (toQrmciError .driverUnavailable error), t)
  | (.ok deviceId, t) => (.ok deviceId, t)

/-- `registerOwnDevice` with the device and the clock of the host. -/
def DeviceHost.registerOwnDevice (own : OwnIdentity) (backends : BackendRegistry) (s : σ) :
    Except Error Unit × BackendRegistry × σ :=
  let read := host.readDevice s
  match BackendWrapper.fromSubmitter own.deviceId read.1 own.dispatchQueue with
  | .error error => (.error error, backends, read.2)
  | .ok backend =>
    let stamped := host.now read.2
    (.ok (), (backends.insertOrRefresh backend stamped.1).2, stamped.2)

/-- The start of a `main` over a device: the configuration, the opened device and its registration, under the
dispatch queue that the daemon advertises. Whichever of the three fails ends the process; up to here there is
nothing to receive or to send with. -/
def DeviceHost.startUp (dispatchQueue : Config → String) (loadedConfig : Except Error Config) (s : σ) :
    Option (Config × String × BackendRegistry) × σ :=
  match loadedConfig with
  | .error _ => (none, s)
  | .ok config =>
    match host.openConfiguredDevice config.submitter s with
    | (.error _, opened) => (none, opened)
    | (.ok deviceId, opened) =>
      let empty := BackendRegistry.new (secondsToNanoseconds config.submitter.backendRegistry.entryTimeToLive).toInt
      match host.registerOwnDevice ⟨deviceId, dispatchQueue config⟩ empty opened with
      | (.error _, _, registered) => (none, registered)
      | (.ok (), availableBackends, registered) => (some (config, deviceId, availableBackends), registered)

/-- The `main` of a daemon over a device, from what loading the configuration has returned: there are no variables
before it has started. -/
def DeviceHost.main {V : Type} (dispatchQueue : Config → String) (initial : Config → String → BackendRegistry → V)
    (loop : Config → String → Program (σ × V) Unit) (loadedConfig : Except Error Config) (s : σ) :
    Option ExitCode × σ × Option V :=
  match host.startUp dispatchQueue loadedConfig s with
  | (none, started) => (some .failure, started, none)
  | (some (config, deviceId, availableBackends), started) =>
    let ran := loop config deviceId (started, initial config deviceId availableBackends)
    (ran.1.map fun _ => .success, ran.2.1, some ran.2.2)

/-- What the head of a turn leaves behind. -/
structure HeadRun (σ : Type) where
  status : Option Backend
  backends : BackendRegistry
  throttle : PublicationThrottle
  state : σ

/-- `refreshOwnDeviceStatus` with the device and the clock of the host: the device is read only in a
slot that is due, and the clock again only for what could be read. -/
def DeviceHost.refreshOwnDeviceStatus (own : OwnIdentity) (backends : BackendRegistry) (throttle : PublicationThrottle)
    (s : σ) : HeadRun σ :=
  let claimed := host.now s
  match throttle.claim claimed.1 with
  | (false, throttle) => ⟨none, backends, throttle, claimed.2⟩
  | (true, throttle) =>
    let read := host.readDevice claimed.2
    match BackendWrapper.fromSubmitter own.deviceId read.1 own.dispatchQueue with
    | .error _ => ⟨none, backends, throttle, read.2⟩
    | .ok refreshed =>
      let stamped := host.now read.2
      ⟨some refreshed.toBackend, (backends.insertOrRefresh refreshed stamped.1).2, throttle, stamped.2⟩

/-- The head of a turn: the refresh, what the daemon does with the status, and the expiry. -/
def DeviceHost.runTurnHead (publish : Backend → σ → σ) (own : OwnIdentity) (backends : BackendRegistry)
    (throttle : PublicationThrottle) (s : σ) : HeadRun σ :=
  let refreshed := host.refreshOwnDeviceStatus own backends throttle s
  let expired := host.now (refreshed.status.elim refreshed.state (publish · refreshed.state))
  ⟨refreshed.status, (refreshed.backends.expire expired.1).2, refreshed.throttle, expired.2⟩

/-- The reply of a work loop; what the broker answers is only logged. -/
def DeviceHost.reply (send : ResultSend) (s : σ) : σ :=
  (sendLogged host.sendResult send.result.messageLabel send.result send.queue s).2

end Program

variable {σ : Type} {host : DeviceHost σ} {view : HostView σ}

/-- The same host over another broker. -/
def DeviceHost.withBroker (host broker : DeviceHost σ) : DeviceHost σ :=
  { host with tasks := broker.tasks, sendResult := broker.sendResult, sendStatus := broker.sendStatus }

/-- Starting needs no broker. -/
theorem DeviceHost.startUp_withBroker (broker : DeviceHost σ) (dispatchQueue : Config → String)
    (loadedConfig : Except Error Config) (s : σ) :
    (host.withBroker broker).startUp dispatchQueue loadedConfig s = host.startUp dispatchQueue loadedConfig s := rfl

/-- What cannot start fails where the start has led, and before there are variables. -/
theorem DeviceHost.main_unstarted {V : Type} {dispatchQueue : Config → String}
    {initial : Config → String → BackendRegistry → V} {loop : Config → String → Program (σ × V) Unit}
    {loadedConfig : Except Error Config} {s : σ} (unstarted : (host.startUp dispatchQueue loadedConfig s).1 = none) :
    host.main dispatchQueue initial loop loadedConfig s =
      (some .failure, (host.startUp dispatchQueue loadedConfig s).2, none) := by
  cases starts : host.startUp dispatchQueue loadedConfig s with
  | mk outcome started =>
    rw [starts] at unstarted
    cases unstarted
    simp only [DeviceHost.main, starts]

/-- A `main` fails exactly if it cannot start. Otherwise it ends as its loop does. -/
theorem DeviceHost.main_ends {V : Type} {dispatchQueue : Config → String}
    {initial : Config → String → BackendRegistry → V} {loop : Config → String → Program (σ × V) Unit}
    {done cut : Config → String → σ × V → Prop} {loadedConfig : Except Error Config} {s : σ}
    (loops : ∀ config deviceId backends started,
      host.startUp dispatchQueue loadedConfig s = (some (config, deviceId, backends), started) →
      Program.Ends (fun _ => done config deviceId) (cut config deviceId)
        (loop config deviceId (started, initial config deviceId backends))) :
    ((host.main dispatchQueue initial loop loadedConfig s).1 = some .failure ↔
      (host.startUp dispatchQueue loadedConfig s).1 = none) ∧
    ∀ config deviceId backends started,
      host.startUp dispatchQueue loadedConfig s = (some (config, deviceId, backends), started) →
      ∃ code after v, host.main dispatchQueue initial loop loadedConfig s = (code, after, some v) ∧
        (code = some .success ∧ done config deviceId (after, v) ∨ code = none ∧ cut config deviceId (after, v)) := by
  cases starts : host.startUp dispatchQueue loadedConfig s with
  | mk outcome started =>
    cases outcome with
    | none =>
      have unstarted : (host.startUp dispatchQueue loadedConfig s).1 = none := by rw [starts]
      rw [DeviceHost.main_unstarted unstarted]
      refine ⟨⟨fun _ => rfl, fun _ => rfl⟩, ?_⟩
      intro config deviceId backends other same
      cases same
    | some ready =>
      obtain ⟨config, deviceId, backends⟩ := ready
      have ended := loops config deviceId backends started starts
      cases ran : loop config deviceId (started, initial config deviceId backends) with
      | mk outcome p =>
        rw [ran] at ended
        have returned : host.main dispatchQueue initial loop loadedConfig s =
            (outcome.map fun _ => .success, p.1, some p.2) := by
          simp only [DeviceHost.main, starts, ran]
        rw [returned]
        cases outcome with
        | none =>
          refine ⟨by simp, ?_⟩
          rintro _ _ _ _ ⟨⟩
          exact ⟨_, _, _, rfl, Or.inr ⟨rfl, ended⟩⟩
        | some value =>
          refine ⟨by simp, ?_⟩
          rintro _ _ _ _ ⟨⟩
          exact ⟨_, _, _, rfl, Or.inl ⟨rfl, ended⟩⟩

namespace DeviceHost.Lawful

theorem latched (lawful : host.Lawful view) : host.around.Latched where
  children s := by
    rw [lawful.shown, lawful.shown]
    exact (lawful.children s).latched
  submitJob request placement s := by
    rw [lawful.shown, lawful.shown]
    exact (lawful.submitJob request placement s).latched
  cancel job s := by
    rw [lawful.shown, lawful.shown]
    exact (lawful.cancel job s).latched
  wait job s := by
    rw [lawful.shown, lawful.shown]
    exact (lawful.wait job s).latched
  counts job s := by
    rw [lawful.shown, lawful.shown]
    exact (lawful.counts job s).latched
  now s := by
    rw [lawful.shown, lawful.shown]
    exact (lawful.elapsed s).latched

theorem advances (lawful : host.Lawful view) : host.around.Advances view.Later where
  children := lawful.children
  submitJob := lawful.submitJob
  cancel := lawful.cancel
  wait := lawful.wait
  counts := lawful.counts
  now := lawful.elapsed

theorem reply (lawful : host.Lawful view) (send : ResultSend) (s : σ) : view.Later s (host.reply send s) := by
  rw [DeviceHost.reply, sendLogged_state]
  exact lawful.sendResult send.queue send.result s

/-- A registration reads the device once and the clock after it. -/
theorem registers (lawful : host.Lawful view) (own : OwnIdentity) (backends : BackendRegistry) (s : σ) :
    ∃ device time, view.clock s ≤ time ∧ time ≤ view.clock (host.registerOwnDevice own backends s).2.2 ∧
      view.Later s (host.registerOwnDevice own backends s).2.2 ∧
      Qrmci.registerOwnDevice own.deviceId device backends own.dispatchQueue time =
        ((host.registerOwnDevice own backends s).1, (host.registerOwnDevice own backends s).2.1) := by
  have reads := lawful.readDevice s
  have stamps := lawful.now.later (host.readDevice s).2
  cases read : BackendWrapper.fromSubmitter own.deviceId (host.readDevice s).1 own.dispatchQueue with
  | error error =>
    have ran : host.registerOwnDevice own backends s = (.error error, backends, (host.readDevice s).2) := by
      simp only [DeviceHost.registerOwnDevice, read]
    rw [ran]
    refine ⟨(host.readDevice s).1, view.clock s, le_refl _, reads.clock, reads, ?_⟩
    simp only [Qrmci.registerOwnDevice, read]
  | ok backend =>
    have ran : host.registerOwnDevice own backends s =
        (.ok (), (backends.insertOrRefresh backend (host.now (host.readDevice s).2).1).2,
          (host.now (host.readDevice s).2).2) := by
      simp only [DeviceHost.registerOwnDevice, read]
    rw [ran]
    refine ⟨(host.readDevice s).1, (host.now (host.readDevice s).2).1, ?_, ?_, reads.trans stamps, ?_⟩
    · exact le_trans reads.clock (lawful.now.after _)
    · exact lawful.now.before _
    · simp only [Qrmci.registerOwnDevice, read]

/-- A process that has started has its configuration and has registered the device it has opened. -/
theorem starts (lawful : host.Lawful view) {dispatchQueue : Config → String} {loadedConfig : Except Error Config}
    {config : Config} {deviceId : String} {backends : BackendRegistry} {s after : σ}
    (started : host.startUp dispatchQueue loadedConfig s = (some (config, deviceId, backends), after)) :
    loadedConfig = .ok config ∧ (host.openConfiguredDevice config.submitter s).1 = .ok deviceId ∧
      ∃ device time opened, opened ≤ time ∧ time ≤ view.clock after ∧
        Qrmci.registerOwnDevice deviceId device
          (.new (secondsToNanoseconds config.submitter.backendRegistry.entryTimeToLive).toInt) (dispatchQueue config)
          time = (.ok (), backends) := by
  unfold DeviceHost.startUp at started
  split at started
  · cases started
  · rename_i loaded
    split at started
    · cases started
    · rename_i id opened isOpened
      dsimp only at started
      split at started
      · cases started
      · rename_i registry registered isRegistered
        cases started
        obtain ⟨device, time, later, shown, _, same⟩ := lawful.registers ⟨deviceId, dispatchQueue config⟩
          (.new (secondsToNanoseconds config.submitter.backendRegistry.entryTimeToLive).toInt) opened
        rw [isRegistered] at shown same
        exact ⟨rfl, by rw [isOpened], device, time, view.clock opened, later, shown, same⟩

/-- A refresh reads the clock for the claim, and for the stamp if there is one. -/
theorem refreshes (lawful : host.Lawful view) (own : OwnIdentity) (backends : BackendRegistry)
    (throttle : PublicationThrottle) (s : σ) :
    let ran := host.refreshOwnDeviceStatus own backends throttle s
    ∃ device claimedAt refreshedAt, view.clock s ≤ claimedAt ∧ claimedAt ≤ refreshedAt ∧
      refreshedAt ≤ view.clock ran.state ∧ view.Later s ran.state ∧
      Qrmci.refreshOwnDeviceStatus own.deviceId device backends throttle own.dispatchQueue claimedAt refreshedAt =
        (ran.status, ran.backends, ran.throttle) := by
  have claims := lawful.now.later s
  have reads := lawful.readDevice (host.now s).2
  have stamps := lawful.now.later (host.readDevice (host.now s).2).2
  have claimed := lawful.now.after s
  have shown := lawful.now.before s
  cases slot : throttle.claim (host.now s).1 with
  | mk due next =>
    cases due with
    | false =>
      have ran : host.refreshOwnDeviceStatus own backends throttle s = ⟨none, backends, next, (host.now s).2⟩ := by
        simp only [DeviceHost.refreshOwnDeviceStatus, slot]
      rw [ran]
      refine ⟨(host.readDevice s).1, (host.now s).1, (host.now s).1, claimed, le_refl _, shown, claims, ?_⟩
      simp only [Qrmci.refreshOwnDeviceStatus, slot]
    | true =>
      cases read : BackendWrapper.fromSubmitter own.deviceId (host.readDevice (host.now s).2).1 own.dispatchQueue with
      | error error =>
        have ran : host.refreshOwnDeviceStatus own backends throttle s =
            ⟨none, backends, next, (host.readDevice (host.now s).2).2⟩ := by
          simp only [DeviceHost.refreshOwnDeviceStatus, slot, read]
        rw [ran]
        refine ⟨(host.readDevice (host.now s).2).1, (host.now s).1, (host.now s).1, claimed, le_refl _,
          le_trans shown reads.clock, claims.trans reads, ?_⟩
        simp only [Qrmci.refreshOwnDeviceStatus, slot, read]
      | ok refreshed =>
        have ran : host.refreshOwnDeviceStatus own backends throttle s =
            ⟨some refreshed.toBackend,
              (backends.insertOrRefresh refreshed (host.now (host.readDevice (host.now s).2).2).1).2, next,
              (host.now (host.readDevice (host.now s).2).2).2⟩ := by
          simp only [DeviceHost.refreshOwnDeviceStatus, slot, read]
        rw [ran]
        refine ⟨(host.readDevice (host.now s).2).1, (host.now s).1, (host.now (host.readDevice (host.now s).2).2).1,
          claimed, ?_, lawful.now.before _, (claims.trans reads).trans stamps, ?_⟩
        · exact le_trans shown (le_trans reads.clock (lawful.now.after _))
        · simp only [Qrmci.refreshOwnDeviceStatus, slot, read]

/-- The head of a turn is one of the model's, between the clock before and the clock after. -/
theorem runsTurnHead (lawful : host.Lawful view) (publish : Backend → σ → σ)
    (publishes : ∀ status s, view.Later s (publish status s)) (own : OwnIdentity) (backends : BackendRegistry)
    (throttle : PublicationThrottle) (s : σ) :
    let ran := host.runTurnHead publish own backends throttle s
    ∃ head : TurnHead, head.Ordered (view.clock s) ∧ head.expiredAt ≤ view.clock ran.state ∧ view.Later s ran.state ∧
      Qrmci.runTurnHead own head backends throttle = (ran.status, ran.backends, ran.throttle) := by
  obtain ⟨device, claimedAt, refreshedAt, claimed, refreshed, shown, later, same⟩ :=
    lawful.refreshes own backends throttle s
  intro ran
  have published : view.Later (host.refreshOwnDeviceStatus own backends throttle s).state
      ((host.refreshOwnDeviceStatus own backends throttle s).status.elim
        (host.refreshOwnDeviceStatus own backends throttle s).state
        (publish · (host.refreshOwnDeviceStatus own backends throttle s).state)) := by
    cases (host.refreshOwnDeviceStatus own backends throttle s).status with
    | none => exact .refl _ _
    | some status => exact publishes status _
  refine ⟨⟨device, claimedAt, refreshedAt, _⟩, ⟨claimed, refreshed, ?_⟩, lawful.now.before _,
    (later.trans published).trans (lawful.now.later _), ?_⟩
  · exact le_trans shown (le_trans published.clock (lawful.now.after _))
  · simp only [Qrmci.runTurnHead, same]
    rfl

end DeviceHost.Lawful

/-- The tasks that wait for a daemon over a device, and whether it has been told to stop. -/
structure DeviceScript where
  tasks : List QuantumTask
  stopped : Bool

/-- A host with an idle device that does every job at once, a compiler that hands circuits back as they are, and a
clock that stands still. Every message arrives, and a sleep is interrupted by a signal. -/
def DeviceHost.scripted : DeviceHost DeviceScript where
  terminationRequested s := (s.stopped, s)
  now s := (0, s)
  sleepFor _ s := { s with stopped := true }
  tasks := .scripted DeviceScript.stopped fun s =>
    match s.tasks with
    | [] => none
    | task :: rest => some (task, { s with tasks := rest })
  sendResult _ _ s := (.ok (), s)
  openDevice _ name _ deviceId s := (.ok (deviceId.getD name), s)
  around := {
    terminationFlag := DeviceScript.stopped
    children := fun s => (.error ⟨.notSupported, "no children"⟩, s)
    submitJob := fun _ _ s => (.ok 1, s)
    cancel := fun _ s => (.ok (), s)
    wait := fun _ s => (.ok .done, s)
    counts := fun _ s => (.ok [("00", 100)], s)
    now := fun s => (0, s) }
  readDevice s := (.idle, s)
  compiler s := (.echo, s)
  sendStatus _ _ s := (.ok (), s)

theorem DeviceHost.scripted_lawful : DeviceHost.scripted.Lawful ⟨DeviceScript.stopped, fun _ => 0⟩ where
  flag := ⟨fun s => .refl _ s, fun _ set => set, fun _ unset => unset⟩
  now := ⟨fun s => .refl _ s, fun _ => le_refl _, fun _ => le_refl _⟩
  sleep _ s := ⟨fun _ => rfl, le_refl _⟩
  tasks := by
    refine Messenger.scripted_lawful ?_
    intro s message rest taken
    split at taken
    · cases taken
    · cases taken
      rfl
  sendResult _ _ s := .refl _ s
  shown _ := rfl
  children s := .refl _ s
  submitJob _ _ s := .refl _ s
  cancel _ s := .refl _ s
  wait _ s := .refl _ s
  counts _ s := .refl _ s
  elapsed s := .refl _ s
  readDevice s := .refl _ s
  compiler s := .refl _ s
  sendStatus _ _ s := .refl _ s

end Qrmci
