import Qrmci.Config
import Qrmci.Selector
import Qrmci.Standalone
import Qrmci.Worker

namespace Qrmci

/-- The registry, throttle and timeout settings a selector is constructed with. -/
def Config.selectorSettings (config : Config) (build : ProtocolBuild) (inputFormats : List String) :
    SelectorSettings where
  build := build
  inputFormats := inputFormats
  selectionPolicy := config.selector.selectionPolicy
  entryTimeToLive := (secondsToNanoseconds config.selector.backendRegistry.entryTimeToLive).toInt
  qrmciQueue := config.common.qrmciQueue

/-- What a worker over the device of that ID is constructed with. -/
def Config.workerSettings (config : Config) (deviceId : String) : WorkerSettings where
  deviceId := deviceId
  compilerQueue := config.compiler.queue
  entryTimeToLive := (secondsToNanoseconds config.submitter.backendRegistry.entryTimeToLive).toInt
  backendStatusPublishInterval := (millisecondsToNanoseconds config.submitter.backendStatusPublishInterval).toInt
  jobWaitTimeout := config.submitter.jobWaitTimeout

/-- What the standalone daemon over the device of that ID is constructed with. -/
def Config.standaloneSettings (config : Config) (deviceId : String) : StandaloneSettings where
  deviceId := deviceId
  selectionPolicy := config.selector.selectionPolicy
  entryTimeToLive := (secondsToNanoseconds config.submitter.backendRegistry.entryTimeToLive).toInt
  backendStatusPublishInterval := (millisecondsToNanoseconds config.submitter.backendStatusPublishInterval).toInt
  jobWaitTimeout := config.submitter.jobWaitTimeout

/-- The count that a table gives for a duration, or else its default. -/
def configuredDuration (toml : TomlLibrary) (node : Option Toml) (fallback : Int64) : Int64 :=
  match node with
  | none => fallback
  | some present => (toml.int64 present).getD fallback

variable {toml : TomlLibrary} {env : Environment}

theorem checkDuration_ok {dottedKey : String} {range : DurationRange} {value duration : Int64}
    (accepted : checkDuration dottedKey range value = .ok duration) :
    duration = value ∧ 0 ≤ value.toInt ∧ (range = .positive → 0 < value.toInt) := by
  unfold checkDuration at accepted
  split at accepted
  · cases accepted
  · rename_i valid
    cases accepted
    rw [not_or, not_and, Int64.lt_iff_toInt_lt, ← Int64.toInt_inj] at valid
    simp only [Int64.toInt_zero] at valid
    refine ⟨rfl, by omega, ?_⟩
    intro positive
    have nonzero := valid.2 positive
    omega

/-- A duration that is accepted is the one configured, and in its range. -/
theorem tomlDurationOrExpected_ok {node : Option Toml} {dottedKey : String} {fallback duration : Int64}
    {range : DurationRange} (accepted : tomlDurationOrExpected toml node dottedKey fallback range = .ok duration) :
    duration = configuredDuration toml node fallback ∧ 0 ≤ duration.toInt ∧
      (range = .positive → 0 < duration.toInt) := by
  unfold tomlDurationOrExpected at accepted
  split at accepted
  · obtain ⟨same, sign⟩ := checkDuration_ok accepted
    subst same
    exact ⟨rfl, sign⟩
  · split at accepted
    · cases accepted
    · rename_i read
      obtain ⟨same, sign⟩ := checkDuration_ok accepted
      subst same
      exact ⟨by simp [configuredDuration, read], sign⟩

/-- The four durations that a table configures the daemons with, in the units of their keys. -/
structure ConfiguredDurations where
  selectorTimeToLive : Int64
  submitterTimeToLive : Int64
  publishInterval : Int64
  jobWaitTimeout : Int64
  deriving DecidableEq, Repr

def configuredDurations (toml : TomlLibrary) (entries : List (String × Toml)) : ConfiguredDurations :=
  let root := some (Toml.table entries)
  let submitterTable := nodeAt root "submitter"
  { selectorTimeToLive := configuredDuration toml
      (nodeAt (nodeAt (nodeAt root "selector") "backendRegistry") "entryTimeToLive") 30
    submitterTimeToLive := configuredDuration toml
      (nodeAt (nodeAt submitterTable "backendRegistry") "entryTimeToLive") 30
    publishInterval := configuredDuration toml (nodeAt submitterTable "backendStatusPublishInterval") 5000
    jobWaitTimeout := configuredDuration toml (nodeAt submitterTable "jobWaitTimeout") 0 }

theorem assembleSelector_ok {root : Option Toml} {logDir : String} {selector : SelectorConfig}
    (accepted : assembleSelector toml env root logDir = .ok selector) :
    selector.backendRegistry.entryTimeToLive = configuredDuration toml
      (nodeAt (nodeAt (nodeAt root "selector") "backendRegistry") "entryTimeToLive") 30 ∧
    0 < selector.backendRegistry.entryTimeToLive.toInt := by
  obtain ⟨_, _, accepted⟩ := Except.bind_eq_ok_iff.mp accepted
  obtain ⟨_, _, accepted⟩ := Except.bind_eq_ok_iff.mp accepted
  obtain ⟨entryTimeToLive, lives, accepted⟩ := Except.bind_eq_ok_iff.mp accepted
  obtain ⟨_, _, accepted⟩ := Except.bind_eq_ok_iff.mp accepted
  obtain ⟨_, _, accepted⟩ := Except.bind_eq_ok_iff.mp accepted
  cases accepted
  obtain ⟨configured, _, positive⟩ := tomlDurationOrExpected_ok lives
  exact ⟨configured, positive rfl⟩

theorem assembleSubmitter_ok {root : Option Toml} {logDir : String} {submitter : SubmitterConfig}
    (accepted : assembleSubmitter toml env root logDir = .ok submitter) :
    (submitter.jobWaitTimeout = configuredDuration toml (nodeAt (nodeAt root "submitter") "jobWaitTimeout") 0 ∧
      submitter.backendRegistry.entryTimeToLive = configuredDuration toml
        (nodeAt (nodeAt (nodeAt root "submitter") "backendRegistry") "entryTimeToLive") 30 ∧
      submitter.backendStatusPublishInterval = configuredDuration toml
        (nodeAt (nodeAt root "submitter") "backendStatusPublishInterval") 5000) ∧
    0 ≤ submitter.jobWaitTimeout.toInt ∧ 0 < submitter.backendRegistry.entryTimeToLive.toInt ∧
      0 < submitter.backendStatusPublishInterval.toInt ∧
      submitter.backendStatusPublishInterval.toInt <
        (secondsToMilliseconds submitter.backendRegistry.entryTimeToLive).toInt := by
  obtain ⟨_, _, accepted⟩ := Except.bind_eq_ok_iff.mp accepted
  obtain ⟨_, _, accepted⟩ := Except.bind_eq_ok_iff.mp accepted
  obtain ⟨_, _, accepted⟩ := Except.bind_eq_ok_iff.mp accepted
  obtain ⟨_, _, accepted⟩ := Except.bind_eq_ok_iff.mp accepted
  obtain ⟨_, _, accepted⟩ := Except.bind_eq_ok_iff.mp accepted
  obtain ⟨_, _, accepted⟩ := Except.bind_eq_ok_iff.mp accepted
  obtain ⟨jobWaitTimeout, waits, accepted⟩ := Except.bind_eq_ok_iff.mp accepted
  obtain ⟨entryTimeToLive, lives, accepted⟩ := Except.bind_eq_ok_iff.mp accepted
  obtain ⟨publishInterval, paces, accepted⟩ := Except.bind_eq_ok_iff.mp accepted
  split at accepted
  · cases accepted
  · rename_i outlives
    cases accepted
    obtain ⟨waitConfigured, nonNegative, _⟩ := tomlDurationOrExpected_ok waits
    obtain ⟨liveConfigured, _, livePositive⟩ := tomlDurationOrExpected_ok lives
    obtain ⟨paceConfigured, _, pacePositive⟩ := tomlDurationOrExpected_ok paces
    rw [Int64.not_le, Int64.lt_iff_toInt_lt] at outlives
    exact ⟨⟨waitConfigured, liveConfigured, paceConfigured⟩, nonNegative, livePositive rfl, pacePositive rfl, outlives⟩

/-- What acceptance says of the durations: they are the configured ones, in range, and ordered as
far as the 64-bit comparison in milliseconds can tell. -/
structure DurationsAccepted (config : Config) (configured : ConfiguredDurations) : Prop where
  selectorTimeToLive : config.selector.backendRegistry.entryTimeToLive = configured.selectorTimeToLive
  submitterTimeToLive : config.submitter.backendRegistry.entryTimeToLive = configured.submitterTimeToLive
  publishInterval : config.submitter.backendStatusPublishInterval = configured.publishInterval
  jobWaitTimeout : config.submitter.jobWaitTimeout = configured.jobWaitTimeout
  selectorPositive : 0 < configured.selectorTimeToLive.toInt
  submitterPositive : 0 < configured.submitterTimeToLive.toInt
  intervalPositive : 0 < configured.publishInterval.toInt
  timeoutNonNegative : 0 ≤ configured.jobWaitTimeout.toInt
  ordered : configured.publishInterval.toInt < (secondsToMilliseconds configured.submitterTimeToLive).toInt

theorem assembleConfig_durations {entries : List (String × Toml)} {config : Config}
    (accepted : assembleConfig toml env entries = .ok config) :
    DurationsAccepted config (configuredDurations toml entries) := by
  obtain ⟨_, _, accepted⟩ := Except.bind_eq_ok_iff.mp accepted
  obtain ⟨common, _, accepted⟩ := Except.bind_eq_ok_iff.mp accepted
  obtain ⟨selector, selects, accepted⟩ := Except.bind_eq_ok_iff.mp accepted
  obtain ⟨compiler, _, accepted⟩ := Except.bind_eq_ok_iff.mp accepted
  obtain ⟨submitter, submits, accepted⟩ := Except.bind_eq_ok_iff.mp accepted
  cases accepted
  obtain ⟨lives, livesPositive⟩ := assembleSelector_ok selects
  obtain ⟨⟨waits, outlives, paces⟩, waitsSign, outlivesSign, pacesSign, ordered⟩ := assembleSubmitter_ok submits
  rw [lives] at livesPositive
  rw [waits] at waitsSign
  rw [outlives] at outlivesSign ordered
  rw [paces] at pacesSign ordered
  exact ⟨lives, outlives, paces, waits, livesPositive, outlivesSign, pacesSign, waitsSign, ordered⟩

/-- The daemons run with the configured durations: no conversion overflows, what is positive and
ordered stays so, and the deadline check is the exact one. -/
structure DurationsFaithful (config : Config) (configured : ConfiguredDurations) : Prop where
  selector : ∀ build inputFormats, (config.selectorSettings build inputFormats).entryTimeToLive =
    configured.selectorTimeToLive.toInt * 1000000000
  worker : ∀ deviceId, (config.workerSettings deviceId).entryTimeToLive =
      configured.submitterTimeToLive.toInt * 1000000000 ∧
    (config.workerSettings deviceId).backendStatusPublishInterval = configured.publishInterval.toInt * 1000000
  standalone : ∀ deviceId, (config.standaloneSettings deviceId).entryTimeToLive =
      configured.submitterTimeToLive.toInt * 1000000000 ∧
    (config.standaloneSettings deviceId).backendStatusPublishInterval = configured.publishInterval.toInt * 1000000
  positive : ∀ build inputFormats deviceId, 0 < (config.selectorSettings build inputFormats).entryTimeToLive ∧
    0 < (config.workerSettings deviceId).backendStatusPublishInterval ∧
    (config.workerSettings deviceId).backendStatusPublishInterval < (config.workerSettings deviceId).entryTimeToLive
  crossCheck : (secondsToMilliseconds configured.submitterTimeToLive).toInt =
    configured.submitterTimeToLive.toInt * 1000
  deadline : ∀ elapsed, elapsedReaches elapsed config.submitter.jobWaitTimeout = true ↔
    configured.jobWaitTimeout.toInt * 1000000000 ≤ elapsed

variable {config : Config} {configured : ConfiguredDurations}

theorem DurationsAccepted.faithful (accepted : DurationsAccepted config configured)
    (selectorBound : configured.selectorTimeToLive.toInt ≤ 9223372036)
    (submitterBound : configured.submitterTimeToLive.toInt ≤ 9223372036)
    (timeoutBound : configured.jobWaitTimeout.toInt ≤ 9223372036) : DurationsFaithful config configured := by
  obtain ⟨selector, submitter, interval, timeout, selectorPositive, submitterPositive, intervalPositive,
    timeoutNonNegative, ordered⟩ := accepted
  have crossCheck := (secondsToMilliseconds_exact submitterPositive.le).mpr (by omega)
  rw [crossCheck] at ordered
  have selectorLives : (secondsToNanoseconds config.selector.backendRegistry.entryTimeToLive).toInt =
      configured.selectorTimeToLive.toInt * 1000000000 := by
    rw [selector]
    exact (secondsToNanoseconds_exact selectorPositive.le).mpr selectorBound
  have submitterLives : (secondsToNanoseconds config.submitter.backendRegistry.entryTimeToLive).toInt =
      configured.submitterTimeToLive.toInt * 1000000000 := by
    rw [submitter]
    exact (secondsToNanoseconds_exact submitterPositive.le).mpr submitterBound
  -- The interval is below the time to live in milliseconds, which bounds it too.
  have paced : (millisecondsToNanoseconds config.submitter.backendStatusPublishInterval).toInt =
      configured.publishInterval.toInt * 1000000 := by
    rw [interval]
    exact (millisecondsToNanoseconds_exact intervalPositive.le).mpr (by omega)
  have selectorLasts : 0 < (secondsToNanoseconds config.selector.backendRegistry.entryTimeToLive).toInt := by omega
  have pacePositive : 0 < (millisecondsToNanoseconds config.submitter.backendStatusPublishInterval).toInt := by omega
  have outlives : (millisecondsToNanoseconds config.submitter.backendStatusPublishInterval).toInt <
      (secondsToNanoseconds config.submitter.backendRegistry.entryTimeToLive).toInt := by omega
  refine ⟨fun _ _ => selectorLives, fun _ => ⟨submitterLives, paced⟩, fun _ => ⟨submitterLives, paced⟩,
    fun _ _ _ => ⟨selectorLasts, pacePositive, outlives⟩, crossCheck, ?_⟩
  rw [timeout]
  exact (elapsedReaches_exact timeoutNonNegative).mpr timeoutBound

theorem DurationsAccepted.bounded (accepted : DurationsAccepted config configured)
    (faithful : DurationsFaithful config configured) :
    configured.selectorTimeToLive.toInt ≤ 9223372036 ∧ configured.submitterTimeToLive.toInt ≤ 9223372036 ∧
      configured.jobWaitTimeout.toInt ≤ 9223372036 := by
  have selectorLives := faithful.selector SelectorSettings.plain.build []
  have submitterLives := (faithful.worker "").1
  have deadline := faithful.deadline
  simp only [Config.selectorSettings, Config.workerSettings] at selectorLives submitterLives
  rw [accepted.selectorTimeToLive] at selectorLives
  rw [accepted.submitterTimeToLive] at submitterLives
  rw [accepted.jobWaitTimeout] at deadline
  exact ⟨(secondsToNanoseconds_exact accepted.selectorPositive.le).mp selectorLives,
    (secondsToNanoseconds_exact accepted.submitterPositive.le).mp submitterLives,
    (elapsedReaches_exact accepted.timeoutNonNegative).mp deadline⟩

/-- The daemons run with the durations of an accepted configuration exactly if the two times to
live and the wait timeout are at most 9223372036 seconds, the most that a signed 64-bit count of
nanoseconds holds. Nothing that `loadConfig` checks implies it. -/
theorem durations_faithful_iff (toml : TomlLibrary) (env : Environment) (file : String → ConfigFile)
    (configFile : String) (entries : List (String × Toml)) (config : Config)
    (parsed : parseConfigFile configFile (file configFile) = .ok entries)
    (accepted : loadConfig toml env file configFile = .ok config) :
    DurationsFaithful config (configuredDurations toml entries) ↔
      (configuredDurations toml entries).selectorTimeToLive.toInt ≤ 9223372036 ∧
      (configuredDurations toml entries).submitterTimeToLive.toInt ≤ 9223372036 ∧
      (configuredDurations toml entries).jobWaitTimeout.toInt ≤ 9223372036 := by
  obtain ⟨read, parses, assembled⟩ := Except.bind_eq_ok_iff.mp accepted
  rw [parsed] at parses
  cases parses
  have durations := assembleConfig_durations assembled
  constructor
  · exact durations.bounded
  · rintro ⟨selectorBound, submitterBound, timeoutBound⟩
    exact durations.faithful selectorBound submitterBound timeoutBound

/-- The configuration of an empty table and an empty environment. -/
def Config.defaults : Config where
  common := {
    connection := { host := "127.0.0.1", port := 5672, user := "guest", password := "guest", vhost := "/" }
    logDir := "/var/log/qrmci", daemonLogger := "mqss::Daemon", daemonLog := "/var/log/qrmci/daemon.log"
    qrmciQueue := "qrmci.tasks.queue", resultsQueue := "test.results.queue"
    schedulerQueue := "scheduler.tasks.queue", schedulerLogger := "mqss::Scheduler"
    schedulerLog := "/var/log/qrmci/scheduler.log", stagePollInterval := 100 }
  selector := {
    backendStatusQueue := "backend.status.queue", logger := "mqss::Selector"
    logFile := "/var/log/qrmci/selector.log", backendRegistry := ⟨30⟩, selectionPolicy := .lowestName }
  compiler := {
    queue := "compiler.tasks.queue", logger := "mqss::Compiler", logFile := "/var/log/qrmci/compiler.log"
    taskReceiveTimeout := 500 }
  submitter := {
    queue := "submitter.tasks.queue", logger := "mqss::Submitter", logFile := "/var/log/qrmci/submitter.log"
    qdmiDriver := "/usr/local/lib/qrmci/libqdmi_example_driver.so", qdmiDeviceName := "C++ Device with 5 qubits"
    qdmiDeviceId := "cxxdevice5q", qdmiClientToken := "token", jobWaitTimeout := 0, backendRegistry := ⟨30⟩
    backendStatusPublishInterval := 5000 }

/-- Every default passes its own check, whatever the TOML library retrieves. -/
theorem assembleConfig_defaults (toml : TomlLibrary) : assembleConfig toml (fun _ => none) [] = .ok .defaults := by
  rfl

/-- A table that sets every duration that the daemons convert. -/
def timedEntries : List (String × Toml) :=
  [("selector", .table [("backendRegistry", .table [("entryTimeToLive", .integer 45)])]),
    ("submitter", .table [("jobWaitTimeout", .integer 600), ("backendStatusPublishInterval", .integer 2000),
      ("backendRegistry", .table [("entryTimeToLive", .integer 60)])])]

def Config.timed : Config :=
  { Config.defaults with
    selector := { Config.defaults.selector with backendRegistry := ⟨45⟩ }
    submitter := { Config.defaults.submitter with
      jobWaitTimeout := 600, backendRegistry := ⟨60⟩, backendStatusPublishInterval := 2000 } }

theorem durations_faithful_timed : DurationsFaithful .timed (configuredDurations .exact timedEntries) :=
  (durations_faithful_iff .exact (fun _ => none) (fun _ => .parsed timedEntries) "config/qrmci.toml" timedEntries .timed
    rfl rfl).mpr (by decide)

/-- A table that lets the submitter's entries live for 10000000000 seconds and leaves the rest alone. -/
def longLivedEntries : List (String × Toml) :=
  [("submitter", .table [("backendRegistry", .table [("entryTimeToLive", .integer 10000000000)])])]

def Config.longLived : Config :=
  { Config.defaults with submitter := { Config.defaults.submitter with backendRegistry := ⟨10000000000⟩ } }

/-- The table is accepted, and a worker's registry then gets a negative time to live. -/
theorem accepted_time_to_live_overflows :
    ¬ ∀ (toml : TomlLibrary) (env : Environment) (file : String → ConfigFile) (configFile : String)
      (entries : List (String × Toml)) (config : Config),
      parseConfigFile configFile (file configFile) = .ok entries → loadConfig toml env file configFile = .ok config →
      DurationsFaithful config (configuredDurations toml entries) := by
  intro always
  have faithful := always .exact (fun _ => none) (fun _ => .parsed longLivedEntries) "config/qrmci.toml"
    longLivedEntries .longLived rfl rfl
  have lives := (faithful.worker "cxxdevice5q").1
  revert lives
  decide

end Qrmci
