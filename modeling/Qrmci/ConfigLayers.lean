import Mathlib.Data.Nat.Digits.Defs
import Mathlib.Tactic.Ring
import Qrmci.ConfigDurations

namespace Qrmci

/-- The node that a path of keys leads to. -/
def nodeAtPath (root : Option Toml) (path : List String) : Option Toml := path.foldl nodeAt root

/-- A string setting: where it stands in the file, the variable that overrides it, if any, and its default. -/
structure StringSetting where
  path : List String
  envName : Option String
  fallback : String
  deriving DecidableEq, Repr

/-- A duration setting, which only the file can change. -/
structure DurationSetting where
  path : List String
  fallback : Int64
  deriving DecidableEq, Repr

namespace StringSetting

variable (toml : TomlLibrary) (env : Environment) (root : Option Toml)

/-- Where the file has the setting, it is a string, whatever the environment says. -/
def Typed (setting : StringSetting) : Prop :=
  ∀ node, nodeAtPath root setting.path = some node → (toml.string node).isSome = true

/-- The value of the setting: environment over file over default. -/
def layered (setting : StringSetting) : String :=
  (setting.envName.bind env).getD (((nodeAtPath root setting.path).bind toml.string).getD setting.fallback)

def logDir : StringSetting := ⟨["common", "logDir"], some "QRMCI_LOG_DIR", "/var/log/qrmci"⟩
def host : StringSetting := ⟨["common", "connection", "host"], some "QRMCI_AMQP_HOST", "127.0.0.1"⟩
def user : StringSetting := ⟨["common", "connection", "user"], some "QRMCI_AMQP_USER", "guest"⟩
def password : StringSetting := ⟨["common", "connection", "password"], some "QRMCI_AMQP_PASSWORD", "guest"⟩
def vhost : StringSetting := ⟨["common", "connection", "vhost"], some "QRMCI_AMQP_VHOST", "/"⟩
def daemonLogger : StringSetting := ⟨["common", "daemonLogger"], none, "mqss::Daemon"⟩
def qrmciQueue : StringSetting := ⟨["common", "qrmciQueue"], some "QRMCI_QRMCI_QUEUE", "qrmci.tasks.queue"⟩
def resultsQueue : StringSetting := ⟨["common", "resultsQueue"], some "QRMCI_RESULTS_QUEUE", "test.results.queue"⟩
def schedulerQueue : StringSetting :=
  ⟨["common", "schedulerQueue"], some "QRMCI_SCHEDULER_QUEUE", "scheduler.tasks.queue"⟩
def schedulerLogger : StringSetting := ⟨["common", "schedulerLogger"], none, "mqss::Scheduler"⟩
def backendStatusQueue : StringSetting :=
  ⟨["selector", "backendStatusQueue"], some "QRMCI_BACKEND_STATUS_QUEUE", "backend.status.queue"⟩
def selectorLogger : StringSetting := ⟨["selector", "logger"], none, "mqss::Selector"⟩
def selectionPolicy : StringSetting := ⟨["selector", "selectionPolicy"], none, "lowest-name"⟩
def compilerQueue : StringSetting := ⟨["compiler", "queue"], some "QRMCI_COMPILER_QUEUE", "compiler.tasks.queue"⟩
def compilerLogger : StringSetting := ⟨["compiler", "logger"], none, "mqss::Compiler"⟩
def submitterQueue : StringSetting := ⟨["submitter", "queue"], some "QRMCI_SUBMITTER_QUEUE", "submitter.tasks.queue"⟩
def submitterLogger : StringSetting := ⟨["submitter", "logger"], none, "mqss::Submitter"⟩
def qdmiDriver : StringSetting :=
  ⟨["submitter", "qdmiDriver"], some "QRMCI_SUBMITTER_QDMI_DRIVER", "/usr/local/lib/qrmci/libqdmi_example_driver.so"⟩
def qdmiDeviceName : StringSetting :=
  ⟨["submitter", "qdmiDeviceName"], some "QRMCI_SUBMITTER_QDMI_DEVICE_NAME", "C++ Device with 5 qubits"⟩
def qdmiDeviceId : StringSetting :=
  ⟨["submitter", "qdmiDeviceId"], some "QRMCI_SUBMITTER_QDMI_DEVICE_ID", "cxxdevice5q"⟩
def qdmiClientToken : StringSetting :=
  ⟨["submitter", "qdmiClientToken"], some "QRMCI_SUBMITTER_QDMI_CLIENT_TOKEN", "token"⟩

def all : List StringSetting :=
  [logDir, host, user, password, vhost, daemonLogger, qrmciQueue, resultsQueue, schedulerQueue, schedulerLogger,
    backendStatusQueue, selectorLogger, selectionPolicy, compilerQueue, compilerLogger, submitterQueue,
    submitterLogger, qdmiDriver, qdmiDeviceName, qdmiDeviceId, qdmiClientToken]

/-- The settings that must not end up empty. -/
def required : List StringSetting :=
  [host, qrmciQueue, backendStatusQueue, compilerQueue, qdmiDriver, qdmiDeviceName, qdmiDeviceId]

end StringSetting

namespace DurationSetting

variable (toml : TomlLibrary) (root : Option Toml)

def Typed (setting : DurationSetting) : Prop :=
  ∀ node, nodeAtPath root setting.path = some node → (toml.int64 node).isSome = true

/-- The value of the setting, in its own unit: file over default. -/
def layered (setting : DurationSetting) : Int64 :=
  ((nodeAtPath root setting.path).bind toml.int64).getD setting.fallback

def stagePollInterval : DurationSetting := ⟨["common", "stagePollInterval"], 100⟩
def selectorTimeToLive : DurationSetting := ⟨["selector", "backendRegistry", "entryTimeToLive"], 30⟩
def taskReceiveTimeout : DurationSetting := ⟨["compiler", "taskReceiveTimeout"], 500⟩
def jobWaitTimeout : DurationSetting := ⟨["submitter", "jobWaitTimeout"], 0⟩
def submitterTimeToLive : DurationSetting := ⟨["submitter", "backendRegistry", "entryTimeToLive"], 30⟩
def publishInterval : DurationSetting := ⟨["submitter", "backendStatusPublishInterval"], 5000⟩

/-- The durations that must be greater than zero. -/
def intervals : List DurationSetting := [stagePollInterval, selectorTimeToLive, submitterTimeToLive, publishInterval]

/-- The durations that may be zero. -/
def timeouts : List DurationSetting := [taskReceiveTimeout, jobWaitTimeout]

end DurationSetting

/-- The characters of a text that is read as an integer, without its minus sign. -/
def unsignedDigits (text : String) : List Char :=
  match text.toList with
  | '-' :: digits => digits
  | digits => digits

/-- The whole text is a decimal integer: digits, with a minus sign before them or not. -/
def IsDecimal (text : String) : Prop :=
  unsignedDigits text ≠ [] ∧ ∀ digit ∈ unsignedDigits text, digit.isDigit = true

/-- The number that a sequence of digits, most significant first, stands for. -/
def digitsValue (digits : List Char) : Nat :=
  Nat.ofDigits 10 (digits.reverse.map fun digit => digit.toNat - '0'.toNat)

def decimalValue (text : String) : Int :=
  if text.toList.head? = some '-' then -(digitsValue (unsignedDigits text)) else digitsValue (unsignedDigits text)

def portPath : List String := ["common", "connection", "port"]

/-- The port: environment over file over default. -/
def layeredPort (toml : TomlLibrary) (env : Environment) (root : Option Toml) : Int :=
  match env "QRMCI_AMQP_PORT" with
  | some text => decimalValue text
  | none =>
    match (nodeAtPath root portPath).bind toml.int with
    | some port => port.toInt
    | none => 5672

/-- The tables of the configuration, each with the keys it may hold. -/
def configTables : List (List String × List String) :=
  [([], ["common", "selector", "compiler", "submitter"]),
    (["common"], ["connection", "logDir", "daemonLogger", "qrmciQueue", "resultsQueue", "schedulerQueue",
      "schedulerLogger", "stagePollInterval"]),
    (["common", "connection"], ["host", "port", "user", "password", "vhost"]),
    (["selector"], ["backendStatusQueue", "logger", "backendRegistry", "selectionPolicy"]),
    (["selector", "backendRegistry"], ["entryTimeToLive"]),
    (["compiler"], ["queue", "logger", "taskReceiveTimeout"]),
    (["submitter"], ["queue", "logger", "qdmiDriver", "qdmiDeviceName", "qdmiDeviceId", "qdmiClientToken",
      "jobWaitTimeout", "backendRegistry", "backendStatusPublishInterval"]),
    (["submitter", "backendRegistry"], ["entryTimeToLive"])]

/-- Where the node is present it is a table, and holds no other key than the allowed ones. -/
def TableAllowed (node : Option Toml) (allowedKeys : List String) : Prop :=
  ∀ present, node = some present → ∃ entries, present = .table entries ∧ ∀ entry ∈ entries, entry.1 ∈ allowedKeys

/-- What acceptance asks of the port: an `int` in the file, an `int` in the environment, and the layered
value in range. -/
structure PortAccepted (toml : TomlLibrary) (env : Environment) (root : Option Toml) : Prop where
  node : ∀ node, nodeAtPath root portPath = some node → (toml.int node).isSome = true
  text : ∀ text, env "QRMCI_AMQP_PORT" = some text →
    IsDecimal text ∧ -2147483648 ≤ decimalValue text ∧ decimalValue text ≤ 2147483647
  range : 1 ≤ layeredPort toml env root ∧ layeredPort toml env root ≤ 65535

/-- What a table and an environment have to be like to be accepted. -/
structure ConfigAccepted (toml : TomlLibrary) (env : Environment) (root : Option Toml) : Prop where
  schema : ∀ table ∈ configTables, TableAllowed (nodeAtPath root table.1) table.2
  strings : ∀ setting ∈ StringSetting.all, setting.Typed toml root
  durations : ∀ setting ∈ DurationSetting.intervals ++ DurationSetting.timeouts, setting.Typed toml root
  port : PortAccepted toml env root
  required : ∀ setting ∈ StringSetting.required, setting.layered toml env root ≠ ""
  intervals : ∀ setting ∈ DurationSetting.intervals, 0 < (setting.layered toml root).toInt
  timeouts : ∀ setting ∈ DurationSetting.timeouts, 0 ≤ (setting.layered toml root).toInt
  policy : StringSetting.selectionPolicy.layered toml env root = "lowest-name" ∨
    StringSetting.selectionPolicy.layered toml env root = "smallest-sufficient"
  outlives : (DurationSetting.publishInterval.layered toml root).toInt <
    (secondsToMilliseconds (DurationSetting.submitterTimeToLive.layered toml root)).toInt

section Layered

variable (toml : TomlLibrary) (env : Environment) (root : Option Toml) (logDir : String)

def layeredCommon : CommonConfig where
  connection := {
    host := StringSetting.host.layered toml env root
    port := Int32.ofInt (layeredPort toml env root)
    user := StringSetting.user.layered toml env root
    password := StringSetting.password.layered toml env root
    vhost := StringSetting.vhost.layered toml env root }
  logDir := StringSetting.logDir.layered toml env root
  daemonLogger := StringSetting.daemonLogger.layered toml env root
  daemonLog := logPath (StringSetting.logDir.layered toml env root) "daemon.log"
  qrmciQueue := StringSetting.qrmciQueue.layered toml env root
  resultsQueue := StringSetting.resultsQueue.layered toml env root
  schedulerQueue := StringSetting.schedulerQueue.layered toml env root
  schedulerLogger := StringSetting.schedulerLogger.layered toml env root
  schedulerLog := logPath (StringSetting.logDir.layered toml env root) "scheduler.log"
  stagePollInterval := DurationSetting.stagePollInterval.layered toml root

/-- The policy of that spelling; anything but the two spellings is refused before this is asked. -/
def policyNamed (spelling : String) : BackendSelectionPolicy :=
  if spelling = "lowest-name" then .lowestName else .smallestSufficient

def layeredSelector : SelectorConfig where
  backendStatusQueue := StringSetting.backendStatusQueue.layered toml env root
  logger := StringSetting.selectorLogger.layered toml env root
  logFile := logPath logDir "selector.log"
  backendRegistry := { entryTimeToLive := DurationSetting.selectorTimeToLive.layered toml root }
  selectionPolicy := policyNamed (StringSetting.selectionPolicy.layered toml env root)

def layeredCompiler : CompilerConfig where
  queue := StringSetting.compilerQueue.layered toml env root
  logger := StringSetting.compilerLogger.layered toml env root
  logFile := logPath logDir "compiler.log"
  taskReceiveTimeout := DurationSetting.taskReceiveTimeout.layered toml root

def layeredSubmitter : SubmitterConfig where
  queue := StringSetting.submitterQueue.layered toml env root
  logger := StringSetting.submitterLogger.layered toml env root
  logFile := logPath logDir "submitter.log"
  qdmiDriver := StringSetting.qdmiDriver.layered toml env root
  qdmiDeviceName := StringSetting.qdmiDeviceName.layered toml env root
  qdmiDeviceId := StringSetting.qdmiDeviceId.layered toml env root
  qdmiClientToken := StringSetting.qdmiClientToken.layered toml env root
  jobWaitTimeout := DurationSetting.jobWaitTimeout.layered toml root
  backendRegistry := { entryTimeToLive := DurationSetting.submitterTimeToLive.layered toml root }
  backendStatusPublishInterval := DurationSetting.publishInterval.layered toml root

/-- The configuration that the layers add up to. The log files all stand in the log directory. -/
def layeredConfig : Config where
  common := layeredCommon toml env root
  selector := layeredSelector toml env root (StringSetting.logDir.layered toml env root)
  compiler := layeredCompiler toml env root (StringSetting.logDir.layered toml env root)
  submitter := layeredSubmitter toml env root (StringSetting.logDir.layered toml env root)

end Layered

variable {toml : TomlLibrary} {env : Environment} {root : Option Toml} {dottedKey : String}

/-- A value is read where the node is absent, or holds one of the type. -/
theorem tomlValueOrExpected_reads {α : Type} {value : Toml → Option α} {node : Option Toml} {fallback : α} (read : α) :
    tomlValueOrExpected value node dottedKey fallback = .ok read ↔
      (∀ present, node = some present → (value present).isSome = true) ∧ read = (node.bind value).getD fallback := by
  cases node with
  | none =>
    simp only [tomlValueOrExpected, Except.ok.injEq, Option.bind_none, Option.getD_none, reduceCtorEq, false_imp_iff,
      implies_true, true_and]
    exact eq_comm
  | some present =>
    cases held : value present with
    | none => simp [tomlValueOrExpected, configError, held]
    | some found =>
      simp only [tomlValueOrExpected, held, Except.ok.injEq, Option.some.injEq, forall_eq', Option.isSome_some,
        Option.bind_some, Option.getD_some, true_and]
      exact eq_comm

namespace StringSetting

/-- A string setting that only the file can change. -/
theorem file_reads (setting : StringSetting) (env : Environment) (unnamed : setting.envName = none) (read : String) :
    tomlValueOrExpected toml.string (nodeAtPath root setting.path) dottedKey setting.fallback = .ok read ↔
      setting.Typed toml root ∧ read = setting.layered toml env root := by
  rw [tomlValueOrExpected_reads, layered, unnamed]
  exact Iff.rfl

theorem stringField_reads (setting : StringSetting) {envName : String} (named : setting.envName = some envName)
    (read : String) :
    stringField toml env (nodeAtPath root setting.path) dottedKey envName setting.fallback = .ok read ↔
      setting.Typed toml root ∧ read = setting.layered toml env root := by
  refine (Except.bind_reads tomlValueOrExpected_reads).trans (and_congr_right' ?_)
  rw [Except.pure_eq_ok_iff, layered, named]
  exact Iff.rfl

theorem requiredStringField_reads (setting : StringSetting) {envName : String}
    (named : setting.envName = some envName) (read : String) :
    requiredStringField toml env (nodeAtPath root setting.path) dottedKey envName setting.fallback = .ok read ↔
      (setting.Typed toml root ∧ setting.layered toml env root ≠ "") ∧ read = setting.layered toml env root := by
  refine (Except.bind_reads (setting.stringField_reads named)).trans ?_
  rw [and_assoc]
  refine and_congr_right' ?_
  by_cases empty : setting.layered toml env root = ""
  · simp [empty, configError]
  · simp only [empty, if_false, not_false_eq_true, ne_eq, true_and]
    exact Except.pure_eq_ok_iff

end StringSetting

/-- The range a duration is checked against. -/
def DurationRange.Holds (duration : Int64) : DurationRange → Prop
  | .positive => 0 < duration.toInt
  | .nonNegative => 0 ≤ duration.toInt

theorem checkDuration_reads {range : DurationRange} {duration : Int64} (read : Int64) :
    checkDuration dottedKey range duration = .ok read ↔ range.Holds duration ∧ read = duration := by
  have refused : (duration < 0 ∨ range = .positive ∧ duration = 0) ↔ ¬ range.Holds duration := by
    rw [Int64.lt_iff_toInt_lt, ← Int64.toInt_inj, Int64.toInt_zero]
    cases range with
    | positive =>
      simp only [DurationRange.Holds, true_and]
      omega
    | nonNegative =>
      simp only [DurationRange.Holds, reduceCtorEq, false_and, or_false, not_le]
  unfold checkDuration
  split
  · rename_i outside
    exact ⟨nofun, fun accepted => absurd accepted.1 (refused.mp outside)⟩
  · rename_i inside
    have held : range.Holds duration := not_not.mp (fun fails => inside (refused.mpr fails))
    refine (Except.pure_eq_ok_iff).trans ?_
    simp only [held, true_and]

theorem DurationSetting.reads (setting : DurationSetting) (range : DurationRange) (read : Int64) :
    tomlDurationOrExpected toml (nodeAtPath root setting.path) dottedKey setting.fallback range = .ok read ↔
      (setting.Typed toml root ∧ range.Holds (setting.layered toml root)) ∧ read = setting.layered toml root := by
  unfold tomlDurationOrExpected Typed layered
  cases nodeAtPath root setting.path with
  | none =>
    simp only [reduceCtorEq, false_imp_iff, implies_true, true_and]
    exact checkDuration_reads read
  | some present =>
    cases held : toml.int64 present with
    | none => simp [configError, held]
    | some found =>
      simp only [held, Option.some.injEq, forall_eq', Option.isSome_some, Option.bind_some, true_and]
      exact checkDuration_reads read

theorem parseSelectionPolicy_reads {value : String} (read : BackendSelectionPolicy) :
    parseSelectionPolicy value dottedKey = .ok read ↔
      (value = "lowest-name" ∨ value = "smallest-sufficient") ∧ read = policyNamed value := by
  unfold parseSelectionPolicy policyNamed
  split
  · rename_i lowest
    refine Except.pure_eq_ok_iff.trans ?_
    simp only [lowest, true_or, true_and]
  · rename_i notLowest
    split
    · rename_i smallest
      refine Except.pure_eq_ok_iff.trans ?_
      simp only [smallest, or_true, true_and]
    · rename_i notSmallest
      exact ⟨nofun, fun accepted => absurd accepted.1 (not_or.mpr ⟨notLowest, notSmallest⟩)⟩

theorem checkTableKeys_reads {node : Option Toml} {tablePrefix : String} {allowedKeys : List String} (read : Unit) :
    checkTableKeys node tablePrefix allowedKeys = .ok read ↔ TableAllowed node allowedKeys ∧ read = () := by
  unfold checkTableKeys
  split
  · exact ⟨fun _ => ⟨nofun, rfl⟩, fun _ => rfl⟩
  · rename_i entries
    split
    · rename_i none
      refine ⟨fun _ => ⟨?_, rfl⟩, fun _ => rfl⟩
      rintro _ ⟨⟩
      refine ⟨entries, rfl, ?_⟩
      intro entry member
      have allowed := List.find?_eq_none.mp none entry member
      simpa using allowed
    · rename_i unknown found
      refine ⟨nofun, ?_⟩
      rintro ⟨allowed, _⟩
      obtain ⟨_, same, all⟩ := allowed _ rfl
      cases same
      have known := all unknown (List.mem_of_find?_eq_some found)
      have missing := List.find?_some found
      simp [known] at missing
  · rename_i present notTable
    refine ⟨nofun, ?_⟩
    rintro ⟨allowed, _⟩
    obtain ⟨entries, same, _⟩ := allowed present rfl
    exact absurd same (notTable entries)

/-- The running value of the digits read so far, times ten, plus the next digit. -/
theorem foldl_digits (digits : List Char) (all : ∀ digit ∈ digits, digit.isDigit = true) (start : Nat) :
    digits.foldl (fun (value : Int) digit => 10 * value + (digit.toNat - '0'.toNat)) start =
      (start * 10 ^ digits.length + digitsValue digits : Nat) := by
  induction digits generalizing start with
  | nil => simp [digitsValue]
  | cons digit rest ih =>
    have isDigit := all digit (List.mem_cons_self ..)
    simp only [Char.isDigit, ge_iff_le, Bool.and_eq_true, decide_eq_true_eq] at isDigit
    have atLeast : '0'.toNat ≤ digit.toNat := UInt32.le_iff_toNat_le.mp isDigit.1
    have next : 10 * (start : Int) + (digit.toNat - '0'.toNat) =
        ((10 * start + (digit.toNat - '0'.toNat) : Nat) : Int) := by
      omega
    rw [List.foldl_cons, next, ih (fun other member => all other (List.mem_cons_of_mem _ member))]
    simp only [digitsValue, List.reverse_cons, List.map_append, List.map_cons, List.map_nil, Nat.ofDigits_append,
      Nat.ofDigits_singleton, List.length_map, List.length_reverse, List.length_cons]
    congr 1
    ring

/-- `fromChars` in terms of the digits and the sign. -/
theorem fromChars_eq (text : String) : fromChars text =
    if (unsignedDigits text).isEmpty ∨ ¬ (unsignedDigits text).all Char.isDigit then none
    else
      let magnitude : Int :=
        (unsignedDigits text).foldl (fun value digit => 10 * value + (digit.toNat - '0'.toNat)) 0
      let value := if text.toList.head? = some '-' then -magnitude else magnitude
      if -2147483648 ≤ value ∧ value ≤ 2147483647 then some (Int32.ofInt value) else none := by
  cases chars : text.toList with
  | nil => simp [fromChars, unsignedDigits, chars]
  | cons first rest =>
    by_cases signed : first = '-'
    · subst signed
      simp [fromChars, unsignedDigits, chars]
    · simp [fromChars, unsignedDigits, chars, signed]

theorem fromChars_reads {text : String} (read : Int32) : fromChars text = some read ↔
    (IsDecimal text ∧ -2147483648 ≤ decimalValue text ∧ decimalValue text ≤ 2147483647) ∧
      read = Int32.ofInt (decimalValue text) := by
  rw [fromChars_eq]
  by_cases digits : IsDecimal text
  · have wellFormed : ¬ ((unsignedDigits text).isEmpty = true ∨ ¬ (unsignedDigits text).all Char.isDigit = true) := by
      rw [not_or, not_not, List.isEmpty_iff, List.all_eq_true]
      exact digits
    have magnitude := foldl_digits (unsignedDigits text) digits.2 0
    rw [Nat.zero_mul, Nat.zero_add, Nat.cast_zero] at magnitude
    simp only [wellFormed, if_false, magnitude, digits, true_and]
    rw [← decimalValue]
    split
    · rename_i fits
      simp only [fits, and_self, true_and, Option.some.injEq]
      exact eq_comm
    · rename_i overflows
      simp only [overflows, false_and, reduceCtorEq]
  · have malformed : (unsignedDigits text).isEmpty = true ∨ ¬ (unsignedDigits text).all Char.isDigit = true := by
      rw [List.isEmpty_iff, List.all_eq_true]
      by_contra well
      rw [not_or, not_not] at well
      exact digits well
    simp only [malformed, if_true, digits, false_and, reduceCtorEq]

theorem getEnvIntOrExpected_reads {name : String} {fallback : Int32} (read : Int32) :
    getEnvIntOrExpected env name fallback = .ok read ↔
      (∀ text, env name = some text →
        IsDecimal text ∧ -2147483648 ≤ decimalValue text ∧ decimalValue text ≤ 2147483647) ∧
      read = match env name with
        | some text => Int32.ofInt (decimalValue text)
        | none => fallback := by
  unfold getEnvIntOrExpected
  cases env name with
  | none =>
    refine Except.pure_eq_ok_iff.trans ?_
    simp only [reduceCtorEq, false_imp_iff, implies_true, true_and]
  | some text =>
    simp only [Option.some.injEq, forall_eq']
    cases parsed : fromChars text with
    | none =>
      refine ⟨nofun, ?_⟩
      rintro ⟨decimal, _⟩
      have some := (fromChars_reads _).mpr ⟨decimal, rfl⟩
      cases parsed.symm.trans some
    | some value =>
      obtain ⟨decimal, same⟩ := (fromChars_reads value).mp parsed
      refine Except.pure_eq_ok_iff.trans ?_
      simp only [decimal, and_self, true_and, same]

theorem int32_ofInt_range {value : Int} (lower : -2147483648 ≤ value) (upper : value ≤ 2147483647) :
    (Int32.ofInt value).toInt = value := by
  rw [Int32.toInt_ofInt]
  simp only [Int32.size, Int.bmod]
  omega

/-- The port as the code holds it, before its range is checked. -/
def readPortValue (toml : TomlLibrary) (env : Environment) (root : Option Toml) : Int32 :=
  match env "QRMCI_AMQP_PORT" with
  | some text => Int32.ofInt (decimalValue text)
  | none => ((nodeAtPath root portPath).bind toml.int).getD 5672

/-- The range check at the end of `readPort`. -/
theorem portRange_reads {port : Int32} {detail : String} (read : Int32) :
    (if port < 1 ∨ port > 65535 then configError detail else return port : Except Error Int32) = .ok read ↔
      (1 ≤ port.toInt ∧ port.toInt ≤ 65535) ∧ read = port := by
  have refused : (port < 1 ∨ port > 65535) ↔ ¬ (1 ≤ port.toInt ∧ port.toInt ≤ 65535) := by
    rw [gt_iff_lt, Int32.lt_iff_toInt_lt, Int32.lt_iff_toInt_lt]
    have one : (1 : Int32).toInt = 1 := rfl
    have last : (65535 : Int32).toInt = 65535 := rfl
    omega
  split
  · rename_i outside
    exact ⟨nofun, fun accepted => absurd accepted.1 (refused.mp outside)⟩
  · rename_i inside
    have held := not_not.mp (fun fails => inside (refused.mpr fails))
    refine Except.pure_eq_ok_iff.trans ?_
    simp only [held, and_self, true_and]

/-- No bit of the port is lost where the environment's text is an `int`. -/
theorem readPortValue_toInt (toml : TomlLibrary) (root : Option Toml)
    (fits : ∀ text, env "QRMCI_AMQP_PORT" = some text →
      IsDecimal text ∧ -2147483648 ≤ decimalValue text ∧ decimalValue text ≤ 2147483647) :
    (readPortValue toml env root).toInt = layeredPort toml env root := by
  unfold readPortValue layeredPort
  cases found : env "QRMCI_AMQP_PORT" with
  | some text =>
    obtain ⟨_, lower, upper⟩ := fits text found
    exact int32_ofInt_range lower upper
  | none =>
    cases (nodeAtPath root portPath).bind toml.int with
    | none => rfl
    | some port => rfl

theorem readPort_reads (read : Int32) : readPort toml env (nodeAtPath root portPath) = .ok read ↔
    PortAccepted toml env root ∧ read = Int32.ofInt (layeredPort toml env root) := by
  have reads : readPort toml env (nodeAtPath root portPath) = .ok read ↔
      (∀ node, nodeAtPath root portPath = some node → (toml.int node).isSome = true) ∧
      (∀ text, env "QRMCI_AMQP_PORT" = some text →
        IsDecimal text ∧ -2147483648 ≤ decimalValue text ∧ decimalValue text ≤ 2147483647) ∧
      (1 ≤ (readPortValue toml env root).toInt ∧ (readPortValue toml env root).toInt ≤ 65535) ∧
      read = readPortValue toml env root := by
    refine (Except.bind_reads tomlValueOrExpected_reads).trans (and_congr_right' ?_)
    refine (Except.bind_reads getEnvIntOrExpected_reads).trans (and_congr_right' ?_)
    exact portRange_reads read
  rw [reads]
  constructor
  · rintro ⟨node, text, range, rfl⟩
    have exact := readPortValue_toInt toml root text
    rw [exact] at range
    refine ⟨⟨node, text, range⟩, ?_⟩
    rw [← exact, Int32.ofInt_toInt]
  · rintro ⟨⟨node, text, range⟩, rfl⟩
    have exact := readPortValue_toInt toml root text
    rw [exact]
    refine ⟨node, text, range, ?_⟩
    rw [← exact, Int32.ofInt_toInt]

/-- Each table of the schema is checked once. -/
theorem checkSchema_reads (read : Unit) : checkSchema root = .ok read ↔
    (∀ table ∈ configTables, TableAllowed (nodeAtPath root table.1) table.2) ∧ read = () := by
  simp only [configTables, List.forall_mem_cons, List.not_mem_nil, false_imp_iff, implies_true, and_true]
  refine (Except.bind_reads checkTableKeys_reads).trans (and_congr_right' ?_)
  refine (Except.bind_reads checkTableKeys_reads).trans (and_congr_right' ?_)
  refine (Except.bind_reads checkTableKeys_reads).trans (and_congr_right' ?_)
  refine (Except.bind_reads checkTableKeys_reads).trans (and_congr_right' ?_)
  refine (Except.bind_reads checkTableKeys_reads).trans (and_congr_right' ?_)
  refine (Except.bind_reads checkTableKeys_reads).trans (and_congr_right' ?_)
  refine (Except.bind_reads checkTableKeys_reads).trans (and_congr_right' ?_)
  exact (checkTableKeys_reads read).trans (and_iff_left rfl)

/-- What the reads of the `[common]` part ask for, in their order. -/
theorem assembleCommon_reads (read : CommonConfig) : assembleCommon toml env root = .ok read ↔
    StringSetting.logDir.Typed toml root ∧
    (StringSetting.host.Typed toml root ∧ StringSetting.host.layered toml env root ≠ "") ∧
    PortAccepted toml env root ∧
    StringSetting.user.Typed toml root ∧
    StringSetting.password.Typed toml root ∧
    StringSetting.vhost.Typed toml root ∧
    StringSetting.daemonLogger.Typed toml root ∧
    (StringSetting.qrmciQueue.Typed toml root ∧ StringSetting.qrmciQueue.layered toml env root ≠ "") ∧
    StringSetting.resultsQueue.Typed toml root ∧
    StringSetting.schedulerQueue.Typed toml root ∧
    StringSetting.schedulerLogger.Typed toml root ∧
    (DurationSetting.stagePollInterval.Typed toml root ∧
      DurationRange.positive.Holds (DurationSetting.stagePollInterval.layered toml root)) ∧
    read = layeredCommon toml env root := by
  refine (Except.bind_reads (StringSetting.logDir.stringField_reads rfl)).trans (and_congr_right' ?_)
  refine (Except.bind_reads (StringSetting.host.requiredStringField_reads rfl)).trans (and_congr_right' ?_)
  refine (Except.bind_reads readPort_reads).trans (and_congr_right' ?_)
  refine (Except.bind_reads (StringSetting.user.stringField_reads rfl)).trans (and_congr_right' ?_)
  refine (Except.bind_reads (StringSetting.password.stringField_reads rfl)).trans (and_congr_right' ?_)
  refine (Except.bind_reads (StringSetting.vhost.stringField_reads rfl)).trans (and_congr_right' ?_)
  refine (Except.bind_reads (StringSetting.daemonLogger.file_reads env rfl)).trans (and_congr_right' ?_)
  refine (Except.bind_reads (StringSetting.qrmciQueue.requiredStringField_reads rfl)).trans (and_congr_right' ?_)
  refine (Except.bind_reads (StringSetting.resultsQueue.stringField_reads rfl)).trans (and_congr_right' ?_)
  refine (Except.bind_reads (StringSetting.schedulerQueue.stringField_reads rfl)).trans (and_congr_right' ?_)
  refine (Except.bind_reads (StringSetting.schedulerLogger.file_reads env rfl)).trans (and_congr_right' ?_)
  refine (Except.bind_reads (DurationSetting.stagePollInterval.reads .positive)).trans (and_congr_right' ?_)
  exact Except.pure_eq_ok_iff

/-- What the reads of the `[selector]` part ask for, in their order. -/
theorem assembleSelector_reads {logDir : String} (read : SelectorConfig) :
    assembleSelector toml env root logDir = .ok read ↔
    (StringSetting.backendStatusQueue.Typed toml root ∧
      StringSetting.backendStatusQueue.layered toml env root ≠ "") ∧
    StringSetting.selectorLogger.Typed toml root ∧
    (DurationSetting.selectorTimeToLive.Typed toml root ∧
      DurationRange.positive.Holds (DurationSetting.selectorTimeToLive.layered toml root)) ∧
    StringSetting.selectionPolicy.Typed toml root ∧
    (StringSetting.selectionPolicy.layered toml env root = "lowest-name" ∨
      StringSetting.selectionPolicy.layered toml env root = "smallest-sufficient") ∧
    read = layeredSelector toml env root logDir := by
  refine (Except.bind_reads (StringSetting.backendStatusQueue.requiredStringField_reads rfl)).trans
    (and_congr_right' ?_)
  refine (Except.bind_reads (StringSetting.selectorLogger.file_reads env rfl)).trans (and_congr_right' ?_)
  refine (Except.bind_reads (DurationSetting.selectorTimeToLive.reads .positive)).trans (and_congr_right' ?_)
  refine (Except.bind_reads (StringSetting.selectionPolicy.file_reads env rfl)).trans (and_congr_right' ?_)
  refine (Except.bind_reads parseSelectionPolicy_reads).trans (and_congr_right' ?_)
  exact Except.pure_eq_ok_iff

theorem assembleCompiler_reads {logDir : String} (read : CompilerConfig) :
    assembleCompiler toml env root logDir = .ok read ↔
    (StringSetting.compilerQueue.Typed toml root ∧ StringSetting.compilerQueue.layered toml env root ≠ "") ∧
    StringSetting.compilerLogger.Typed toml root ∧
    (DurationSetting.taskReceiveTimeout.Typed toml root ∧
      DurationRange.nonNegative.Holds (DurationSetting.taskReceiveTimeout.layered toml root)) ∧
    read = layeredCompiler toml env root logDir := by
  refine (Except.bind_reads (StringSetting.compilerQueue.requiredStringField_reads rfl)).trans (and_congr_right' ?_)
  refine (Except.bind_reads (StringSetting.compilerLogger.file_reads env rfl)).trans (and_congr_right' ?_)
  refine (Except.bind_reads (DurationSetting.taskReceiveTimeout.reads .nonNegative)).trans (and_congr_right' ?_)
  exact Except.pure_eq_ok_iff

theorem assembleSubmitter_reads {logDir : String} (read : SubmitterConfig) :
    assembleSubmitter toml env root logDir = .ok read ↔
    StringSetting.submitterQueue.Typed toml root ∧
    StringSetting.submitterLogger.Typed toml root ∧
    (StringSetting.qdmiDriver.Typed toml root ∧ StringSetting.qdmiDriver.layered toml env root ≠ "") ∧
    (StringSetting.qdmiDeviceName.Typed toml root ∧ StringSetting.qdmiDeviceName.layered toml env root ≠ "") ∧
    (StringSetting.qdmiDeviceId.Typed toml root ∧ StringSetting.qdmiDeviceId.layered toml env root ≠ "") ∧
    StringSetting.qdmiClientToken.Typed toml root ∧
    (DurationSetting.jobWaitTimeout.Typed toml root ∧
      DurationRange.nonNegative.Holds (DurationSetting.jobWaitTimeout.layered toml root)) ∧
    (DurationSetting.submitterTimeToLive.Typed toml root ∧
      DurationRange.positive.Holds (DurationSetting.submitterTimeToLive.layered toml root)) ∧
    (DurationSetting.publishInterval.Typed toml root ∧
      DurationRange.positive.Holds (DurationSetting.publishInterval.layered toml root)) ∧
    (DurationSetting.publishInterval.layered toml root).toInt <
      (secondsToMilliseconds (DurationSetting.submitterTimeToLive.layered toml root)).toInt ∧
    read = layeredSubmitter toml env root logDir := by
  refine (Except.bind_reads (StringSetting.submitterQueue.stringField_reads rfl)).trans (and_congr_right' ?_)
  refine (Except.bind_reads (StringSetting.submitterLogger.file_reads env rfl)).trans (and_congr_right' ?_)
  refine (Except.bind_reads (StringSetting.qdmiDriver.requiredStringField_reads rfl)).trans (and_congr_right' ?_)
  refine (Except.bind_reads (StringSetting.qdmiDeviceName.requiredStringField_reads rfl)).trans (and_congr_right' ?_)
  refine (Except.bind_reads (StringSetting.qdmiDeviceId.requiredStringField_reads rfl)).trans (and_congr_right' ?_)
  refine (Except.bind_reads (StringSetting.qdmiClientToken.stringField_reads rfl)).trans (and_congr_right' ?_)
  refine (Except.bind_reads (DurationSetting.jobWaitTimeout.reads .nonNegative)).trans (and_congr_right' ?_)
  refine (Except.bind_reads (DurationSetting.submitterTimeToLive.reads .positive)).trans (and_congr_right' ?_)
  refine (Except.bind_reads (DurationSetting.publishInterval.reads .positive)).trans (and_congr_right' ?_)
  -- The cross-field check compares 64-bit counts of milliseconds.
  have outlives : secondsToMilliseconds (DurationSetting.submitterTimeToLive.layered toml root) ≤
        DurationSetting.publishInterval.layered toml root ↔
      ¬ (DurationSetting.publishInterval.layered toml root).toInt <
        (secondsToMilliseconds (DurationSetting.submitterTimeToLive.layered toml root)).toInt := by
    rw [Int64.le_iff_toInt_le, not_lt]
  split
  · rename_i early
    exact ⟨nofun, fun accepted => absurd accepted.1 (outlives.mp early)⟩
  · rename_i later
    have lasts := not_not.mp (fun fails => later (outlives.mpr fails))
    exact Except.pure_eq_ok_iff.trans (and_iff_right lasts).symm

/-- What the reads of the `[submitter]` part ask for before its cross-field check. -/
def SubmitterReads (toml : TomlLibrary) (env : Environment) (root : Option Toml) : Prop :=
  StringSetting.submitterQueue.Typed toml root ∧
  StringSetting.submitterLogger.Typed toml root ∧
  (StringSetting.qdmiDriver.Typed toml root ∧ StringSetting.qdmiDriver.layered toml env root ≠ "") ∧
  (StringSetting.qdmiDeviceName.Typed toml root ∧ StringSetting.qdmiDeviceName.layered toml env root ≠ "") ∧
  (StringSetting.qdmiDeviceId.Typed toml root ∧ StringSetting.qdmiDeviceId.layered toml env root ≠ "") ∧
  StringSetting.qdmiClientToken.Typed toml root ∧
  (DurationSetting.jobWaitTimeout.Typed toml root ∧
    DurationRange.nonNegative.Holds (DurationSetting.jobWaitTimeout.layered toml root)) ∧
  (DurationSetting.submitterTimeToLive.Typed toml root ∧
    DurationRange.positive.Holds (DurationSetting.submitterTimeToLive.layered toml root)) ∧
  (DurationSetting.publishInterval.Typed toml root ∧
    DurationRange.positive.Holds (DurationSetting.publishInterval.layered toml root))

/-- Every setting is of its type and keeps to its own rule. -/
structure SettingsAccepted (toml : TomlLibrary) (env : Environment) (root : Option Toml) : Prop where
  strings : ∀ setting ∈ StringSetting.all, setting.Typed toml root
  durations : ∀ setting ∈ DurationSetting.intervals ++ DurationSetting.timeouts, setting.Typed toml root
  port : PortAccepted toml env root
  required : ∀ setting ∈ StringSetting.required, setting.layered toml env root ≠ ""
  intervals : ∀ setting ∈ DurationSetting.intervals, 0 < (setting.layered toml root).toInt
  timeouts : ∀ setting ∈ DurationSetting.timeouts, 0 ≤ (setting.layered toml root).toInt
  policy : StringSetting.selectionPolicy.layered toml env root = "lowest-name" ∨
    StringSetting.selectionPolicy.layered toml env root = "smallest-sufficient"

/-- Each setting is read in one of the four parts. -/
theorem settings_accepted {logDir : String} {common : CommonConfig} {selector : SelectorConfig} {compiler : CompilerConfig}
    (readCommon : assembleCommon toml env root = .ok common)
    (readSelector : assembleSelector toml env root logDir = .ok selector)
    (readCompiler : assembleCompiler toml env root logDir = .ok compiler) (submitter : SubmitterReads toml env root) :
    SettingsAccepted toml env root := by
  obtain ⟨logDir, host, port, user, password, vhost, daemonLogger, qrmciQueue, resultsQueue, schedulerQueue,
    schedulerLogger, stagePollInterval, _⟩ := (assembleCommon_reads common).mp readCommon
  obtain ⟨backendStatusQueue, selectorLogger, selectorTimeToLive, selectionPolicy, policy, _⟩ :=
    (assembleSelector_reads selector).mp readSelector
  obtain ⟨compilerQueue, compilerLogger, taskReceiveTimeout, _⟩ := (assembleCompiler_reads compiler).mp readCompiler
  obtain ⟨submitterQueue, submitterLogger, qdmiDriver, qdmiDeviceName, qdmiDeviceId, qdmiClientToken, jobWaitTimeout,
    submitterTimeToLive, publishInterval⟩ := submitter
  refine ⟨?_, ?_, port, ?_, ?_, ?_, policy⟩
  · simp only [StringSetting.all, List.forall_mem_cons, List.not_mem_nil, false_imp_iff, implies_true, and_true]
    exact ⟨logDir, host.1, user, password, vhost, daemonLogger, qrmciQueue.1, resultsQueue, schedulerQueue,
      schedulerLogger, backendStatusQueue.1, selectorLogger, selectionPolicy, compilerQueue.1, compilerLogger,
      submitterQueue, submitterLogger, qdmiDriver.1, qdmiDeviceName.1, qdmiDeviceId.1, qdmiClientToken⟩
  · simp only [DurationSetting.intervals, DurationSetting.timeouts, List.cons_append, List.nil_append,
      List.forall_mem_cons, List.not_mem_nil, false_imp_iff, implies_true, and_true]
    exact ⟨stagePollInterval.1, selectorTimeToLive.1, submitterTimeToLive.1, publishInterval.1, taskReceiveTimeout.1,
      jobWaitTimeout.1⟩
  · simp only [StringSetting.required, List.forall_mem_cons, List.not_mem_nil, false_imp_iff, implies_true, and_true]
    exact ⟨host.2, qrmciQueue.2, backendStatusQueue.2, compilerQueue.2, qdmiDriver.2, qdmiDeviceName.2, qdmiDeviceId.2⟩
  · simp only [DurationSetting.intervals, List.forall_mem_cons, List.not_mem_nil, false_imp_iff, implies_true, and_true]
    exact ⟨stagePollInterval.2, selectorTimeToLive.2, submitterTimeToLive.2, publishInterval.2⟩
  · simp only [DurationSetting.timeouts, List.forall_mem_cons, List.not_mem_nil, false_imp_iff, implies_true, and_true]
    exact ⟨taskReceiveTimeout.2, jobWaitTimeout.2⟩

/-- What is accepted is layered, for every TOML library. -/
theorem assembleConfig_ok {entries : List (String × Toml)} {config : Config}
    (accepted : assembleConfig toml env entries = .ok config) :
    ConfigAccepted toml env (some (.table entries)) ∧ config = layeredConfig toml env (some (.table entries)) := by
  obtain ⟨schema, accepted⟩ := (Except.bind_reads checkSchema_reads).mp accepted
  obtain ⟨common, readCommon, accepted⟩ := Except.bind_eq_ok_iff.mp accepted
  obtain ⟨selector, readSelector, accepted⟩ := Except.bind_eq_ok_iff.mp accepted
  obtain ⟨compiler, readCompiler, accepted⟩ := Except.bind_eq_ok_iff.mp accepted
  obtain ⟨submitter, readSubmitter, accepted⟩ := Except.bind_eq_ok_iff.mp accepted
  cases accepted
  obtain ⟨submitterQueue, submitterLogger, qdmiDriver, qdmiDeviceName, qdmiDeviceId, qdmiClientToken, jobWaitTimeout,
    submitterTimeToLive, publishInterval, outlives, layeredSubmitter⟩ := (assembleSubmitter_reads submitter).mp readSubmitter
  have settings : SettingsAccepted toml env (some (.table entries)) :=
    settings_accepted readCommon readSelector readCompiler ⟨submitterQueue, submitterLogger, qdmiDriver, qdmiDeviceName,
      qdmiDeviceId, qdmiClientToken, jobWaitTimeout, submitterTimeToLive, publishInterval⟩
  obtain ⟨_, _, _, _, _, _, _, _, _, _, _, _, rfl⟩ := (assembleCommon_reads common).mp readCommon
  obtain ⟨_, _, _, _, _, rfl⟩ := (assembleSelector_reads selector).mp readSelector
  obtain ⟨_, _, _, rfl⟩ := (assembleCompiler_reads compiler).mp readCompiler
  exact ⟨⟨schema, settings.strings, settings.durations, settings.port, settings.required, settings.intervals,
    settings.timeouts, settings.policy, outlives⟩, by rw [layeredSubmitter]; rfl⟩

/-- A table and an environment that meet the conditions pass every check on the way. -/
theorem ConfigAccepted.assembles {entries : List (String × Toml)}
    (accepted : ConfigAccepted toml env (some (.table entries))) :
    assembleConfig toml env entries = .ok (layeredConfig toml env (some (.table entries))) := by
  obtain ⟨schema, strings, durations, port, required, intervals, timeouts, policy, outlives⟩ := accepted
  simp only [StringSetting.all, StringSetting.required, DurationSetting.intervals, DurationSetting.timeouts,
    List.cons_append, List.nil_append, List.forall_mem_cons, List.not_mem_nil, false_imp_iff, implies_true,
    and_true] at strings durations required intervals timeouts
  obtain ⟨logDir, host, user, password, vhost, daemonLogger, qrmciQueue, resultsQueue, schedulerQueue,
    schedulerLogger, backendStatusQueue, selectorLogger, selectionPolicy, compilerQueue, compilerLogger,
    submitterQueue, submitterLogger, qdmiDriver, qdmiDeviceName, qdmiDeviceId, qdmiClientToken⟩ := strings
  obtain ⟨stagePollInterval, selectorTimeToLive, submitterTimeToLive, publishInterval, taskReceiveTimeout,
    jobWaitTimeout⟩ := durations
  obtain ⟨hostGiven, qrmciQueueGiven, statusQueueGiven, compilerQueueGiven, driverGiven, nameGiven, idGiven⟩ := required
  obtain ⟨pollPositive, selectorPositive, submitterPositive, publishPositive⟩ := intervals
  obtain ⟨receiveSigned, waitSigned⟩ := timeouts
  refine (Except.bind_reads checkSchema_reads).mpr ⟨schema, ?_⟩
  refine Except.bind_eq_ok_iff.mpr ⟨_, (assembleCommon_reads _).mpr ⟨logDir, ⟨host, hostGiven⟩, port, user, password,
    vhost, daemonLogger, ⟨qrmciQueue, qrmciQueueGiven⟩, resultsQueue, schedulerQueue, schedulerLogger,
    ⟨stagePollInterval, pollPositive⟩, rfl⟩, ?_⟩
  refine Except.bind_eq_ok_iff.mpr ⟨_, (assembleSelector_reads _).mpr ⟨⟨backendStatusQueue, statusQueueGiven⟩,
    selectorLogger, ⟨selectorTimeToLive, selectorPositive⟩, selectionPolicy, policy, rfl⟩, ?_⟩
  refine Except.bind_eq_ok_iff.mpr ⟨_, (assembleCompiler_reads _).mpr ⟨⟨compilerQueue, compilerQueueGiven⟩,
    compilerLogger, ⟨taskReceiveTimeout, receiveSigned⟩, rfl⟩, ?_⟩
  refine Except.bind_eq_ok_iff.mpr ⟨_, (assembleSubmitter_reads _).mpr ⟨submitterQueue, submitterLogger,
    ⟨qdmiDriver, driverGiven⟩, ⟨qdmiDeviceName, nameGiven⟩, ⟨qdmiDeviceId, idGiven⟩, qdmiClientToken,
    ⟨jobWaitTimeout, waitSigned⟩, ⟨submitterTimeToLive, submitterPositive⟩, ⟨publishInterval, publishPositive⟩,
    outlives, rfl⟩, ?_⟩
  rfl

/-- With a TOML library that returns a value exactly where the node holds one of the type, `assembleConfig`
succeeds exactly on the accepted tables and environments, and then returns what the layers add up to. -/
theorem assembleConfig_layers (env : Environment) (entries : List (String × Toml)) (config : Config) :
    assembleConfig .exact env entries = .ok config ↔
      ConfigAccepted .exact env (some (.table entries)) ∧ config = layeredConfig .exact env (some (.table entries)) := by
  constructor
  · exact assembleConfig_ok
  · rintro ⟨accepted, rfl⟩
    exact accepted.assembles

end Qrmci
