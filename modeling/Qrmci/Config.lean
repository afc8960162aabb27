import Qrmci.BackendRegistry
import Qrmci.Durations

namespace Qrmci

/-- A parsed TOML node; a table lists its entries in the order its iteration has. -/
inductive Toml
  | string (value : String)
  | integer (value : Int64)
  | float (bits : UInt64)
  | boolean (value : Bool)
  | dateTime (text : String)
  | array (elements : List Toml)
  | table (entries : List (String × Toml))
  deriving Repr

/-- `node.value<T>()` of the TOML library, for the types the configuration is read as. -/
structure TomlLibrary where
  string : Toml → Option String
  int64 : Toml → Option Int64
  int : Toml → Option Int32

/-- The library that returns a value exactly where the node holds one of the type. -/
def TomlLibrary.exact : TomlLibrary where
  string
    | .string value => some value
    | _ => none
  int64
    | .integer value => some value
    | _ => none
  int
    | .integer value => if value.toInt32.toInt64 = value then some value.toInt32 else none
    | _ => none

/-- `view[key]`: empty where the view is, and where its node is no table. -/
def nodeAt (view : Option Toml) (key : String) : Option Toml :=
  match view with
  | some (.table entries) => (entries.find? fun entry => entry.1 == key).map Prod.snd
  | _ => none

/-- The environment, as `std::getenv` reads it. -/
abbrev Environment := String → Option String

def configError {α : Type} (detail : String) : Except Error α := .error ⟨.configError, detail⟩

def getEnvOr (env : Environment) (name fallback : String) : String := (env name).getD fallback

/-- `std::from_chars` on the whole text, for an `int` in base ten: an optional minus sign and at
least one digit, and a value in range. -/
def fromChars (text : String) : Option Int32 :=
  let split : Bool × List Char := match text.toList with
    | '-' :: digits => (true, digits)
    | digits => (false, digits)
  if split.2.isEmpty ∨ ¬ split.2.all Char.isDigit then none
  else
    let magnitude : Int := split.2.foldl (fun value digit => 10 * value + (digit.toNat - '0'.toNat)) 0
    let value := if split.1 then -magnitude else magnitude
    if -2147483648 ≤ value ∧ value ≤ 2147483647 then some (Int32.ofInt value) else none

def getEnvIntOrExpected (env : Environment) (name : String) (fallback : Int32) : Except Error Int32 :=
  match env name with
  | none => .ok fallback
  | some value =>
    match fromChars value with
    | some result => .ok result
    | none => configError ("Environment variable '" ++ name ++ "' is not a valid integer")

/-- A POSIX path joined with a file name. -/
def logPath (logDir fileName : String) : String :=
  if logDir = "" ∨ logDir.toList.getLast? = some '/' then logDir ++ fileName else logDir ++ "/" ++ fileName

def tomlValueOrExpected {α : Type} (value : Toml → Option α) (node : Option Toml) (dottedKey : String) (fallback : α) :
    Except Error α :=
  match node with
  | none => .ok fallback
  | some present =>
    match value present with
    | some read => .ok read
    | none => configError ("Configuration key '" ++ dottedKey ++ "' has the wrong type")

inductive DurationRange
  | positive | nonNegative
  deriving DecidableEq, Repr

/-- The range check at the end of `tomlDurationOrExpected`. -/
def checkDuration (dottedKey : String) (range : DurationRange) (duration : Int64) : Except Error Int64 :=
  if duration < 0 ∨ range = .positive ∧ duration = 0 then
    configError ("Configuration key '" ++ dottedKey ++
      (if range = .positive then "' must be greater than zero" else "' must not be negative"))
  else .ok duration

def tomlDurationOrExpected (toml : TomlLibrary) (node : Option Toml) (dottedKey : String) (fallback : Int64)
    (range : DurationRange) : Except Error Int64 :=
  match node with
  | none => checkDuration dottedKey range fallback
  | some present =>
    match toml.int64 present with
    | none => configError ("Configuration key '" ++ dottedKey ++ "' has the wrong type: expected an integer")
    | some value => checkDuration dottedKey range value

def stringField (toml : TomlLibrary) (env : Environment) (node : Option Toml) (dottedKey envName fallback : String) :
    Except Error String := do
  let fileValue ← tomlValueOrExpected toml.string node dottedKey fallback
  return getEnvOr env envName fileValue

def requiredStringField (toml : TomlLibrary) (env : Environment) (node : Option Toml)
    (dottedKey envName fallback : String) : Except Error String := do
  let value ← stringField toml env node dottedKey envName fallback
  if value = "" then configError ("Configuration key '" ++ dottedKey ++ "' must not be empty")
  else return value

def parseSelectionPolicy (value dottedKey : String) : Except Error BackendSelectionPolicy :=
  if value = "lowest-name" then .ok .lowestName
  else if value = "smallest-sufficient" then .ok .smallestSufficient
  else configError ("Configuration key '" ++ dottedKey ++ "' must be 'lowest-name' or 'smallest-sufficient'")

/-- The table's own dotted key is its path without the final dot. -/
def checkTableKeys (tableNode : Option Toml) (tablePrefix : String) (allowedKeys : List String) :
    Except Error Unit :=
  match tableNode with
  | none => .ok ()
  | some (.table entries) =>
    match entries.find? fun entry => !allowedKeys.contains entry.1 with
    | none => .ok ()
    | some unknown => configError ("Unknown configuration key '" ++ tablePrefix ++ unknown.1 ++ "'")
  | some _ => configError ("Configuration key '" ++ String.ofList tablePrefix.toList.dropLast ++ "' must be a table")

def checkSchema (root : Option Toml) : Except Error Unit := do
  checkTableKeys root "" ["common", "selector", "compiler", "submitter"]
  checkTableKeys (nodeAt root "common") "common."
    ["connection", "logDir", "daemonLogger", "qrmciQueue", "resultsQueue", "schedulerQueue", "schedulerLogger",
      "stagePollInterval"]
  checkTableKeys (nodeAt (nodeAt root "common") "connection") "common.connection."
    ["host", "port", "user", "password", "vhost"]
  checkTableKeys (nodeAt root "selector") "selector."
    ["backendStatusQueue", "logger", "backendRegistry", "selectionPolicy"]
  checkTableKeys (nodeAt (nodeAt root "selector") "backendRegistry") "selector.backendRegistry." ["entryTimeToLive"]
  checkTableKeys (nodeAt root "compiler") "compiler." ["queue", "logger", "taskReceiveTimeout"]
  checkTableKeys (nodeAt root "submitter") "submitter."
    ["queue", "logger", "qdmiDriver", "qdmiDeviceName", "qdmiDeviceId", "qdmiClientToken", "jobWaitTimeout",
      "backendRegistry", "backendStatusPublishInterval"]
  checkTableKeys (nodeAt (nodeAt root "submitter") "backendRegistry") "submitter.backendRegistry." ["entryTimeToLive"]

structure RabbitMqConnectionConfig where
  host : String
  port : Int32
  user : String
  password : String
  vhost : String
  deriving DecidableEq, Repr

/-- In seconds. -/
structure BackendRegistryConfig where
  entryTimeToLive : Int64
  deriving DecidableEq, Repr

/-- `stagePollInterval` is in milliseconds. -/
structure CommonConfig where
  connection : RabbitMqConnectionConfig
  logDir : String
  daemonLogger : String
  daemonLog : String
  qrmciQueue : String
  resultsQueue : String
  schedulerQueue : String
  schedulerLogger : String
  schedulerLog : String
  stagePollInterval : Int64
  deriving DecidableEq, Repr

structure SelectorConfig where
  backendStatusQueue : String
  logger : String
  logFile : String
  backendRegistry : BackendRegistryConfig
  selectionPolicy : BackendSelectionPolicy
  deriving DecidableEq, Repr

/-- `taskReceiveTimeout` is in milliseconds. -/
structure CompilerConfig where
  queue : String
  logger : String
  logFile : String
  taskReceiveTimeout : Int64
  deriving DecidableEq, Repr

/-- `jobWaitTimeout` is in seconds, `backendStatusPublishInterval` in milliseconds. -/
structure SubmitterConfig where
  queue : String
  logger : String
  logFile : String
  qdmiDriver : String
  qdmiDeviceName : String
  qdmiDeviceId : String
  qdmiClientToken : String
  jobWaitTimeout : Int64
  backendRegistry : BackendRegistryConfig
  backendStatusPublishInterval : Int64
  deriving DecidableEq, Repr

structure Config where
  common : CommonConfig
  selector : SelectorConfig
  compiler : CompilerConfig
  submitter : SubmitterConfig
  deriving DecidableEq, Repr

section Assemble

variable (toml : TomlLibrary) (env : Environment)

def readPort (node : Option Toml) : Except Error Int32 := do
  let fileValue ← tomlValueOrExpected toml.int node "common.connection.port" 5672
  let port ← getEnvIntOrExpected env "QRMCI_AMQP_PORT" fileValue
  if port < 1 ∨ port > 65535 then
    configError "Configuration key 'common.connection.port' must be between 1 and 65535"
  else return port

/-- The `[common]` part of `assembleConfig`, in the order of its reads. -/
def assembleCommon (root : Option Toml) : Except Error CommonConfig := do
  let commonTable := nodeAt root "common"
  let connectionTable := nodeAt commonTable "connection"
  let logDir ← stringField toml env (nodeAt commonTable "logDir") "common.logDir" "QRMCI_LOG_DIR" "/var/log/qrmci"
  let host ← requiredStringField toml env (nodeAt connectionTable "host") "common.connection.host" "QRMCI_AMQP_HOST"
    "127.0.0.1"
  let port ← readPort toml env (nodeAt connectionTable "port")
  let user ← stringField toml env (nodeAt connectionTable "user") "common.connection.user" "QRMCI_AMQP_USER" "guest"
  let password ← stringField toml env (nodeAt connectionTable "password") "common.connection.password"
    "QRMCI_AMQP_PASSWORD" "guest"
  let vhost ← stringField toml env (nodeAt connectionTable "vhost") "common.connection.vhost" "QRMCI_AMQP_VHOST" "/"
  let daemonLogger ← tomlValueOrExpected toml.string (nodeAt commonTable "daemonLogger") "common.daemonLogger"
    "mqss::Daemon"
  let qrmciQueue ← requiredStringField toml env (nodeAt commonTable "qrmciQueue") "common.qrmciQueue"
    "QRMCI_QRMCI_QUEUE" "qrmci.tasks.queue"
  let resultsQueue ← stringField toml env (nodeAt commonTable "resultsQueue") "common.resultsQueue"
    "QRMCI_RESULTS_QUEUE" "test.results.queue"
  let schedulerQueue ← stringField toml env (nodeAt commonTable "schedulerQueue") "common.schedulerQueue"
    "QRMCI_SCHEDULER_QUEUE" "scheduler.tasks.queue"
  let schedulerLogger ← tomlValueOrExpected toml.string (nodeAt commonTable "schedulerLogger")
    "common.schedulerLogger" "mqss::Scheduler"
  let stagePollInterval ← tomlDurationOrExpected toml (nodeAt commonTable "stagePollInterval")
    "common.stagePollInterval" 100 .positive
  return {
    connection := { host, port, user, password, vhost }
    logDir, daemonLogger, daemonLog := logPath logDir "daemon.log", qrmciQueue, resultsQueue, schedulerQueue,
    schedulerLogger, schedulerLog := logPath logDir "scheduler.log", stagePollInterval }

/-- The `[selector]` part of `assembleConfig`. -/
def assembleSelector (root : Option Toml) (logDir : String) : Except Error SelectorConfig := do
  let selectorTable := nodeAt root "selector"
  let backendStatusQueue ← requiredStringField toml env (nodeAt selectorTable "backendStatusQueue")
    "selector.backendStatusQueue" "QRMCI_BACKEND_STATUS_QUEUE" "backend.status.queue"
  let logger ← tomlValueOrExpected toml.string (nodeAt selectorTable "logger") "selector.logger" "mqss::Selector"
  let entryTimeToLive ← tomlDurationOrExpected toml
    (nodeAt (nodeAt selectorTable "backendRegistry") "entryTimeToLive") "selector.backendRegistry.entryTimeToLive" 30
    .positive
  let policyName ← tomlValueOrExpected toml.string (nodeAt selectorTable "selectionPolicy")
    "selector.selectionPolicy" "lowest-name"
  let selectionPolicy ← parseSelectionPolicy policyName "selector.selectionPolicy"
  return {
    backendStatusQueue, logger, logFile := logPath logDir "selector.log",
    backendRegistry := { entryTimeToLive }, selectionPolicy }

/-- The `[compiler]` part of `assembleConfig`. -/
def assembleCompiler (root : Option Toml) (logDir : String) : Except Error CompilerConfig := do
  let compilerTable := nodeAt root "compiler"
  let queue ← requiredStringField toml env (nodeAt compilerTable "queue") "compiler.queue" "QRMCI_COMPILER_QUEUE"
    "compiler.tasks.queue"
  let logger ← tomlValueOrExpected toml.string (nodeAt compilerTable "logger") "compiler.logger" "mqss::Compiler"
  let taskReceiveTimeout ← tomlDurationOrExpected toml (nodeAt compilerTable "taskReceiveTimeout")
    "compiler.taskReceiveTimeout" 500 .nonNegative
  return { queue, logger, logFile := logPath logDir "compiler.log", taskReceiveTimeout }

/-- The `[submitter]` part of `assembleConfig`, with the cross-field check that ends it. -/
def assembleSubmitter (root : Option Toml) (logDir : String) : Except Error SubmitterConfig := do
  let submitterTable := nodeAt root "submitter"
  let queue ← stringField toml env (nodeAt submitterTable "queue") "submitter.queue" "QRMCI_SUBMITTER_QUEUE"
    "submitter.tasks.queue"
  let logger ← tomlValueOrExpected toml.string (nodeAt submitterTable "logger") "submitter.logger" "mqss::Submitter"
  let qdmiDriver ← requiredStringField toml env (nodeAt submitterTable "qdmiDriver") "submitter.qdmiDriver"
    "QRMCI_SUBMITTER_QDMI_DRIVER" "/usr/local/lib/qrmci/libqdmi_example_driver.so"
  let qdmiDeviceName ← requiredStringField toml env (nodeAt submitterTable "qdmiDeviceName")
    "submitter.qdmiDeviceName" "QRMCI_SUBMITTER_QDMI_DEVICE_NAME" "C++ Device with 5 qubits"
  let qdmiDeviceId ← requiredStringField toml env (nodeAt submitterTable "qdmiDeviceId") "submitter.qdmiDeviceId"
    "QRMCI_SUBMITTER_QDMI_DEVICE_ID" "cxxdevice5q"
  let qdmiClientToken ← stringField toml env (nodeAt submitterTable "qdmiClientToken") "submitter.qdmiClientToken"
    "QRMCI_SUBMITTER_QDMI_CLIENT_TOKEN" "token"
  let jobWaitTimeout ← tomlDurationOrExpected toml (nodeAt submitterTable "jobWaitTimeout")
    "submitter.jobWaitTimeout" 0 .nonNegative
  let entryTimeToLive ← tomlDurationOrExpected toml
    (nodeAt (nodeAt submitterTable "backendRegistry") "entryTimeToLive") "submitter.backendRegistry.entryTimeToLive"
    30 .positive
  let backendStatusPublishInterval ← tomlDurationOrExpected toml
    (nodeAt submitterTable "backendStatusPublishInterval") "submitter.backendStatusPublishInterval" 5000 .positive
  -- Seconds against milliseconds: both sides are compared as milliseconds.
  if secondsToMilliseconds entryTimeToLive ≤ backendStatusPublishInterval then
    configError ("Configuration key 'submitter.backendRegistry.entryTimeToLive' must be greater than " ++
      "'submitter.backendStatusPublishInterval'")
  else return {
    queue, logger, logFile := logPath logDir "submitter.log", qdmiDriver, qdmiDeviceName, qdmiDeviceId,
    qdmiClientToken, jobWaitTimeout, backendRegistry := { entryTimeToLive }, backendStatusPublishInterval }

def assembleConfig (entries : List (String × Toml)) : Except Error Config := do
  let root := some (Toml.table entries)
  checkSchema root
  let common ← assembleCommon toml env root
  let selector ← assembleSelector toml env root common.logDir
  let compiler ← assembleCompiler toml env root common.logDir
  let submitter ← assembleSubmitter toml env root common.logDir
  return { common, selector, compiler, submitter }

/-- What is found at the path of the configuration file. -/
inductive ConfigFile
  | missing
  | malformed (description : String)
  | parsed (entries : List (String × Toml))

def parseConfigFile (configFile : String) : ConfigFile → Except Error (List (String × Toml))
  | .missing => .ok []
  | .malformed description =>
    configError ("Failed to parse config file '" ++ configFile ++ "': " ++ description)
  | .parsed entries => .ok entries

/-- `file` is what the file system holds at a path. -/
def loadConfig (file : String → ConfigFile) (configFile : String) : Except Error Config := do
  let entries ← parseConfigFile configFile (file configFile)
  assembleConfig toml env entries

/-- The overload without a path. -/
def loadDiscoveredConfig (file : String → ConfigFile) : Except Error Config :=
  loadConfig toml env file (getEnvOr env "QRMCI_CONFIG_FILE" "config/qrmci.toml")

end Assemble

end Qrmci
