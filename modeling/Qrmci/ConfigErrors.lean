import Qrmci.ConfigLayers

namespace Qrmci

/-- The name of the setting or table that a path of keys leads to. -/
def dottedKey : List String → String
  | [] => ""
  | [key] => key
  | key :: rest => key ++ "." ++ dottedKey rest

/-- The text has the key in it, in quotes. -/
def Names (detail key : String) : Prop := ("'" ++ key ++ "'").toList <:+: detail.toList

/-- The environment has a text for the port that is no decimal number, or none that an `int` can hold. -/
def MalformedPort (env : Environment) : Prop :=
  ∃ text, env "QRMCI_AMQP_PORT" = some text ∧
    ¬ (IsDecimal text ∧ -2147483648 ≤ decimalValue text ∧ decimalValue text ≤ 2147483647)

section Faults

variable (toml : TomlLibrary) (env : Environment) (root : Option Toml)

def PortTyped : Prop := ∀ node, nodeAtPath root portPath = some node → (toml.int node).isSome = true

/-- The settings and tables that are at fault, by their dotted keys. The rule for the time to live is one
about exact numbers. -/
inductive AtFault : String → Prop
  | unknownKey {path allowed : List String} {entries : List (String × Toml)} {key : String} {value : Toml} :
      (path, allowed) ∈ configTables → nodeAtPath root path = some (.table entries) → (key, value) ∈ entries →
      key ∉ allowed → AtFault (dottedKey (path ++ [key]))
  | noTable {path allowed : List String} {node : Toml} : (path, allowed) ∈ configTables →
      nodeAtPath root path = some node → (∀ entries, node ≠ .table entries) → AtFault (dottedKey path)
  | wrongString {setting : StringSetting} : setting ∈ StringSetting.all → ¬ setting.Typed toml root →
      AtFault (dottedKey setting.path)
  | wrongDuration {setting : DurationSetting} : setting ∈ DurationSetting.intervals ++ DurationSetting.timeouts →
      ¬ setting.Typed toml root → AtFault (dottedKey setting.path)
  | wrongPort : ¬ PortTyped toml root → AtFault (dottedKey portPath)
  | malformedPort : MalformedPort env → AtFault (dottedKey portPath)
  | portRange : PortTyped toml root → ¬ MalformedPort env →
      ¬ (1 ≤ layeredPort toml env root ∧ layeredPort toml env root ≤ 65535) → AtFault (dottedKey portPath)
  | empty {setting : StringSetting} : setting ∈ StringSetting.required → setting.Typed toml root →
      setting.layered toml env root = "" → AtFault (dottedKey setting.path)
  | policy : StringSetting.selectionPolicy.Typed toml root →
      ¬ (StringSetting.selectionPolicy.layered toml env root = "lowest-name" ∨
        StringSetting.selectionPolicy.layered toml env root = "smallest-sufficient") →
      AtFault (dottedKey StringSetting.selectionPolicy.path)
  | interval {setting : DurationSetting} : setting ∈ DurationSetting.intervals → setting.Typed toml root →
      (setting.layered toml root).toInt ≤ 0 → AtFault (dottedKey setting.path)
  | timeout {setting : DurationSetting} : setting ∈ DurationSetting.timeouts → setting.Typed toml root →
      (setting.layered toml root).toInt < 0 → AtFault (dottedKey setting.path)
  | outlived {setting : DurationSetting} :
      setting = .submitterTimeToLive ∨ setting = .publishInterval →
      DurationSetting.submitterTimeToLive.Typed toml root → DurationSetting.publishInterval.Typed toml root →
      (DurationSetting.submitterTimeToLive.layered toml root).toInt * 1000 ≤
        (DurationSetting.publishInterval.layered toml root).toInt → AtFault (dottedKey setting.path)

/-- The error is a configuration error that names something at fault. -/
def Attributed (error : Error) : Prop :=
  error.kind = .configError ∧ ∃ key, Names error.detail key ∧ AtFault toml env root key

/-- All that is checked before the text for the port is in order, and the text is not. -/
structure MalformedPortFirst : Prop where
  schema : ∀ table ∈ configTables, TableAllowed (nodeAtPath root table.1) table.2
  logDir : StringSetting.logDir.Typed toml root
  host : StringSetting.host.Typed toml root
  given : StringSetting.host.layered toml env root ≠ ""
  node : PortTyped toml root
  text : MalformedPort env

/-- Everything is in order, but the time to live wraps around when it is counted in milliseconds, to one that
does not outlive the interval. -/
structure WrappedTimeToLive : Prop where
  schema : ∀ table ∈ configTables, TableAllowed (nodeAtPath root table.1) table.2
  settings : SettingsAccepted toml env root
  outlives : (DurationSetting.publishInterval.layered toml root).toInt <
    (DurationSetting.submitterTimeToLive.layered toml root).toInt * 1000
  wraps : (secondsToMilliseconds (DurationSetting.submitterTimeToLive.layered toml root)).toInt ≤
    (DurationSetting.publishInterval.layered toml root).toInt

end Faults

variable {toml : TomlLibrary} {env : Environment} {root : Option Toml} {error : Error} {key : String}

theorem names_between {before after : String} (opens : "'".toList <:+ before.toList)
    (closes : "'".toList <+: after.toList) : Names (before ++ key ++ after) key := by
  obtain ⟨front, opens⟩ := opens
  obtain ⟨back, closes⟩ := closes
  refine ⟨front, back, ?_⟩
  simp only [String.toList_append, ← opens, ← closes, List.append_assoc]

/-- One more key at the end of a path. -/
theorem dottedKey_append {path : List String} (inside : path ≠ []) (key : String) :
    dottedKey (path ++ [key]) = dottedKey path ++ "." ++ key := by
  induction path with
  | nil => exact absurd rfl inside
  | cons first rest ih =>
    cases rest with
    | nil => rfl
    | cons second others =>
      have later := ih (List.cons_ne_nil second others)
      simp only [List.cons_append, dottedKey] at later ⊢
      rw [later]
      simp only [String.append_assoc]

theorem not_malformedPort_iff : ¬ MalformedPort env ↔ ∀ text, env "QRMCI_AMQP_PORT" = some text →
    IsDecimal text ∧ -2147483648 ≤ decimalValue text ∧ decimalValue text ≤ 2147483647 := by
  simp only [MalformedPort, not_exists, not_and_not_right]

/-- A setting whose error names it, and that is at fault. -/
theorem attributed_of_detail {before after : String} (fault : AtFault toml env root key)
    (opens : "'".toList <:+ before.toList) (closes : "'".toList <+: after.toList) :
    Attributed toml env root ⟨.configError, before ++ key ++ after⟩ :=
  ⟨rfl, key, names_between opens closes, fault⟩

/-- The one error of `tomlValueOrExpected`. -/
theorem tomlValueOrExpected_error {α : Type} {value : Toml → Option α} {node : Option Toml} {fallback : α}
    (failed : tomlValueOrExpected value node key fallback = .error error) :
    (¬ ∀ present, node = some present → (value present).isSome = true) ∧
      error = ⟨.configError, "Configuration key '" ++ key ++ "' has the wrong type"⟩ := by
  cases node with
  | none => cases failed
  | some present =>
    cases held : value present with
    | some found => simp [tomlValueOrExpected, held] at failed
    | none =>
      simp only [tomlValueOrExpected, held, configError, Except.error.injEq] at failed
      refine ⟨?_, failed.symm⟩
      intro typed
      have some := typed present rfl
      rw [held] at some
      cases some

namespace StringSetting

variable (setting : StringSetting) {envName : String}

theorem file_error (member : setting ∈ all)
    (failed : tomlValueOrExpected toml.string (nodeAtPath root setting.path) (dottedKey setting.path) setting.fallback =
      .error error) : Attributed toml env root error := by
  obtain ⟨wrong, rfl⟩ := tomlValueOrExpected_error failed
  exact attributed_of_detail (.wrongString member wrong) (by decide) (by decide)

theorem stringField_error (member : setting ∈ all)
    (failed : stringField toml env (nodeAtPath root setting.path) (dottedKey setting.path) envName setting.fallback =
      .error error) : Attributed toml env root error := by
  rcases Except.bind_eq_error_iff.mp failed with failed | ⟨_, _, failed⟩
  · exact setting.file_error member failed
  · cases failed

theorem requiredStringField_error (member : setting ∈ all) (needed : setting ∈ required)
    (named : setting.envName = some envName)
    (failed : requiredStringField toml env (nodeAtPath root setting.path) (dottedKey setting.path) envName
      setting.fallback = .error error) : Attributed toml env root error := by
  refine Except.bind_fails (setting.stringField_reads named) failed (setting.stringField_error member) fun typed failed => ?_
  split at failed
  · rename_i blank
    cases failed
    exact attributed_of_detail (.empty needed typed blank) (by decide) (by decide)
  · cases failed

end StringSetting

/-- The one error of `checkDuration`. -/
theorem checkDuration_error {range : DurationRange} {duration : Int64}
    (failed : checkDuration key range duration = .error error) :
    ¬ range.Holds duration ∧ ∃ after, "'".toList <+: after.toList ∧
      error = ⟨.configError, "Configuration key '" ++ key ++ after⟩ := by
  have outside : ¬ range.Holds duration := by
    intro held
    cases failed.symm.trans ((checkDuration_reads duration).mpr ⟨held, rfl⟩)
  refine ⟨outside, ?_⟩
  unfold checkDuration at failed
  split at failed
  · cases failed
    refine ⟨_, ?_, rfl⟩
    split
    · decide
    · decide
  · cases failed

namespace DurationSetting

variable (setting : DurationSetting)

/-- A duration is of the wrong type, or out of its range. -/
theorem error_cases {range : DurationRange}
    (failed : tomlDurationOrExpected toml (nodeAtPath root setting.path) key setting.fallback range = .error error) :
    (¬ setting.Typed toml root ∨ setting.Typed toml root ∧ ¬ range.Holds (setting.layered toml root)) ∧
      ∃ after, "'".toList <+: after.toList ∧ error = ⟨.configError, "Configuration key '" ++ key ++ after⟩ := by
  unfold tomlDurationOrExpected at failed
  unfold Typed layered
  cases found : nodeAtPath root setting.path with
  | none =>
    rw [found] at failed
    obtain ⟨outside, text⟩ := checkDuration_error failed
    exact ⟨Or.inr ⟨by simp, outside⟩, text⟩
  | some present =>
    rw [found] at failed
    cases held : toml.int64 present with
    | none =>
      simp only [held, configError, Except.error.injEq] at failed
      refine ⟨Or.inl ?_, _, by decide, failed.symm⟩
      simp [held]
    | some value =>
      simp only [held] at failed
      obtain ⟨outside, text⟩ := checkDuration_error failed
      refine ⟨Or.inr ⟨by simp [held], ?_⟩, text⟩
      simpa [held] using outside

theorem interval_error (member : setting ∈ intervals)
    (failed : tomlDurationOrExpected toml (nodeAtPath root setting.path) (dottedKey setting.path) setting.fallback .positive =
      .error error) : Attributed toml env root error := by
  obtain ⟨wrong, after, closes, rfl⟩ := setting.error_cases failed
  rcases wrong with wrong | ⟨typed, outside⟩
  · exact attributed_of_detail (.wrongDuration (List.mem_append_left _ member) wrong) (by decide) closes
  · exact attributed_of_detail (.interval member typed (not_lt.mp outside)) (by decide) closes

theorem timeout_error (member : setting ∈ timeouts)
    (failed : tomlDurationOrExpected toml (nodeAtPath root setting.path) (dottedKey setting.path) setting.fallback
      .nonNegative = .error error) : Attributed toml env root error := by
  obtain ⟨wrong, after, closes, rfl⟩ := setting.error_cases failed
  rcases wrong with wrong | ⟨typed, outside⟩
  · exact attributed_of_detail (.wrongDuration (List.mem_append_right _ member) wrong) (by decide) closes
  · exact attributed_of_detail (.timeout member typed (not_le.mp outside)) (by decide) closes

end DurationSetting

theorem parseSelectionPolicy_error (typed : StringSetting.selectionPolicy.Typed toml root)
    (failed : parseSelectionPolicy (StringSetting.selectionPolicy.layered toml env root)
      (dottedKey StringSetting.selectionPolicy.path) = .error error) : Attributed toml env root error := by
  have other : ¬ (StringSetting.selectionPolicy.layered toml env root = "lowest-name" ∨
      StringSetting.selectionPolicy.layered toml env root = "smallest-sufficient") := by
    intro spelled
    cases failed.symm.trans ((parseSelectionPolicy_reads _).mpr ⟨spelled, rfl⟩)
  have detail : error = ⟨.configError, "Configuration key '" ++ dottedKey StringSetting.selectionPolicy.path ++
      "' must be 'lowest-name' or 'smallest-sufficient'"⟩ := by
    rw [not_or] at other
    rw [parseSelectionPolicy, if_neg other.1, if_neg other.2] at failed
    cases failed
    rfl
  rw [detail]
  exact attributed_of_detail (.policy typed other) (by decide) (by decide)

/-- The keys of a table all stand behind the same text. -/
def tablePrefix (path : List String) : String := if path = [] then "" else dottedKey path ++ "."

theorem tablePrefix_append (path : List String) (key : String) : tablePrefix path ++ key = dottedKey (path ++ [key]) := by
  unfold tablePrefix
  split
  · rename_i top
    rw [top, String.empty_append]
    rfl
  · rename_i inside
    rw [dottedKey_append inside]

theorem tablePrefix_dropLast (path : List String) : String.ofList (tablePrefix path).toList.dropLast = dottedKey path := by
  unfold tablePrefix
  split
  · rename_i top
    rw [top]
    rfl
  · have dotted : (dottedKey path ++ ".").toList = (dottedKey path).toList ++ ['.'] := String.toList_append
    rw [dotted, List.dropLast_concat, String.ofList_toList]

/-- A table that is refused holds a key it must not hold, or is no table. -/
theorem checkTableKeys_error {path allowed : List String} (member : (path, allowed) ∈ configTables)
    (failed : checkTableKeys (nodeAtPath root path) (tablePrefix path) allowed = .error error) :
    Attributed toml env root error := by
  unfold checkTableKeys at failed
  split at failed
  · cases failed
  · rename_i entries located
    split at failed
    · cases failed
    · rename_i unknown found
      cases failed
      have unlisted : unknown.1 ∉ allowed := by
        have missing := List.find?_some found
        simpa using missing
      have fault : AtFault toml env root (dottedKey (path ++ [unknown.1])) :=
        .unknownKey member located (List.mem_of_find?_eq_some found) unlisted
      have text : "Unknown configuration key '" ++ tablePrefix path ++ unknown.1 ++ "'" =
          "Unknown configuration key '" ++ dottedKey (path ++ [unknown.1]) ++ "'" := by
        rw [← tablePrefix_append]
        simp only [String.append_assoc]
      rw [text]
      exact attributed_of_detail fault (by decide) (by decide)
  · rename_i node located other
    cases failed
    have fault : AtFault toml env root (dottedKey path) := .noTable member other located
    rw [tablePrefix_dropLast]
    exact attributed_of_detail fault (by decide) (by decide)

/-- The schema check stops at the first table that is refused. -/
theorem checkSchema_error (failed : checkSchema root = .error error) : Attributed toml env root error := by
  have refused : ∀ path allowed, (path, allowed) ∈ configTables →
      checkTableKeys (nodeAtPath root path) (tablePrefix path) allowed = .error error → Attributed toml env root error :=
    fun _ _ member failed => checkTableKeys_error member failed
  refine Except.bind_fails checkTableKeys_reads failed (refused [] _ (by decide)) fun _ failed => ?_
  refine Except.bind_fails checkTableKeys_reads failed (refused ["common"] _ (by decide)) fun _ failed => ?_
  refine Except.bind_fails checkTableKeys_reads failed (refused ["common", "connection"] _ (by decide)) fun _ failed => ?_
  refine Except.bind_fails checkTableKeys_reads failed (refused ["selector"] _ (by decide)) fun _ failed => ?_
  refine Except.bind_fails checkTableKeys_reads failed (refused ["selector", "backendRegistry"] _ (by decide))
    fun _ failed => ?_
  refine Except.bind_fails checkTableKeys_reads failed (refused ["compiler"] _ (by decide)) fun _ failed => ?_
  refine Except.bind_fails checkTableKeys_reads failed (refused ["submitter"] _ (by decide)) fun _ failed => ?_
  exact refused ["submitter", "backendRegistry"] _ (by decide) failed

/-- The port is at fault, or the error is the one about its variable. -/
theorem readPort_error (failed : readPort toml env (nodeAtPath root portPath) = .error error) :
    Attributed toml env root error ∨ PortTyped toml root ∧ MalformedPort env := by
  refine Except.bind_fails tomlValueOrExpected_reads failed (fun failed => Or.inl ?_) fun typed failed => ?_
  · obtain ⟨wrong, rfl⟩ := tomlValueOrExpected_error failed
    exact attributed_of_detail (.wrongPort wrong) (by decide) (by decide)
  by_cases malformed : MalformedPort env
  · exact Or.inr ⟨typed, malformed⟩
  · have fits := not_malformedPort_iff.mp malformed
    left
    refine Except.bind_fails getEnvIntOrExpected_reads failed (fun failed => ?_) fun _ failed => ?_
    · cases failed.symm.trans ((getEnvIntOrExpected_reads _).mpr ⟨fits, rfl⟩)
    have outside : ¬ (1 ≤ layeredPort toml env root ∧ layeredPort toml env root ≤ 65535) := by
      intro inside
      rw [← readPortValue_toInt toml root fits] at inside
      cases failed.symm.trans ((portRange_reads _).mpr ⟨inside, rfl⟩)
    change (if readPortValue toml env root < 1 ∨ readPortValue toml env root > 65535 then _ else _) = _ at failed
    split at failed
    · cases failed
      have text : "Configuration key 'common.connection.port' must be between 1 and 65535" =
          "Configuration key '" ++ dottedKey portPath ++ "' must be between 1 and 65535" := rfl
      rw [text]
      exact attributed_of_detail (.portRange typed malformed outside) (by decide) (by decide)
    · cases failed

/-- The `[common]` part fails over a setting at fault, or at the text for the port. -/
theorem assembleCommon_error (failed : assembleCommon toml env root = .error error) :
    Attributed toml env root error ∨
      StringSetting.logDir.Typed toml root ∧ StringSetting.host.Typed toml root ∧
        StringSetting.host.layered toml env root ≠ "" ∧ PortTyped toml root ∧ MalformedPort env := by
  refine Except.bind_fails (StringSetting.logDir.stringField_reads rfl) failed
    (fun failed => Or.inl (StringSetting.logDir.stringField_error (by decide) failed)) fun logDir failed => ?_
  refine Except.bind_fails (StringSetting.host.requiredStringField_reads rfl) failed
    (fun failed => Or.inl (StringSetting.host.requiredStringField_error (by decide) (by decide) rfl failed))
    fun host failed => ?_
  refine Except.bind_fails readPort_reads failed (fun failed => ?_) fun _ failed => Or.inl ?_
  · rcases readPort_error failed with attributed | malformed
    · exact Or.inl attributed
    · exact Or.inr ⟨logDir, host.1, host.2, malformed⟩
  refine Except.bind_fails (StringSetting.user.stringField_reads rfl) failed
    (StringSetting.user.stringField_error (by decide)) fun _ failed => ?_
  refine Except.bind_fails (StringSetting.password.stringField_reads rfl) failed
    (StringSetting.password.stringField_error (by decide)) fun _ failed => ?_
  refine Except.bind_fails (StringSetting.vhost.stringField_reads rfl) failed
    (StringSetting.vhost.stringField_error (by decide)) fun _ failed => ?_
  refine Except.bind_fails (StringSetting.daemonLogger.file_reads env rfl) failed
    (StringSetting.daemonLogger.file_error (by decide)) fun _ failed => ?_
  refine Except.bind_fails (StringSetting.qrmciQueue.requiredStringField_reads rfl) failed
    (StringSetting.qrmciQueue.requiredStringField_error (by decide) (by decide) rfl) fun _ failed => ?_
  refine Except.bind_fails (StringSetting.resultsQueue.stringField_reads rfl) failed
    (StringSetting.resultsQueue.stringField_error (by decide)) fun _ failed => ?_
  refine Except.bind_fails (StringSetting.schedulerQueue.stringField_reads rfl) failed
    (StringSetting.schedulerQueue.stringField_error (by decide)) fun _ failed => ?_
  refine Except.bind_fails (StringSetting.schedulerLogger.file_reads env rfl) failed
    (StringSetting.schedulerLogger.file_error (by decide)) fun _ failed => ?_
  refine Except.bind_fails (DurationSetting.stagePollInterval.reads .positive) failed
    (DurationSetting.stagePollInterval.interval_error (by decide)) fun _ failed => ?_
  cases failed

theorem assembleSelector_error {logDir : String} (failed : assembleSelector toml env root logDir = .error error) :
    Attributed toml env root error := by
  refine Except.bind_fails (StringSetting.backendStatusQueue.requiredStringField_reads rfl) failed
    (StringSetting.backendStatusQueue.requiredStringField_error (by decide) (by decide) rfl) fun _ failed => ?_
  refine Except.bind_fails (StringSetting.selectorLogger.file_reads env rfl) failed
    (StringSetting.selectorLogger.file_error (by decide)) fun _ failed => ?_
  refine Except.bind_fails (DurationSetting.selectorTimeToLive.reads .positive) failed
    (DurationSetting.selectorTimeToLive.interval_error (by decide)) fun _ failed => ?_
  refine Except.bind_fails (StringSetting.selectionPolicy.file_reads env rfl) failed
    (StringSetting.selectionPolicy.file_error (by decide)) fun typed failed => ?_
  refine Except.bind_fails parseSelectionPolicy_reads failed (parseSelectionPolicy_error typed) fun _ failed => ?_
  cases failed

theorem assembleCompiler_error {logDir : String} (failed : assembleCompiler toml env root logDir = .error error) :
    Attributed toml env root error := by
  refine Except.bind_fails (StringSetting.compilerQueue.requiredStringField_reads rfl) failed
    (StringSetting.compilerQueue.requiredStringField_error (by decide) (by decide) rfl) fun _ failed => ?_
  refine Except.bind_fails (StringSetting.compilerLogger.file_reads env rfl) failed
    (StringSetting.compilerLogger.file_error (by decide)) fun _ failed => ?_
  refine Except.bind_fails (DurationSetting.taskReceiveTimeout.reads .nonNegative) failed
    (DurationSetting.taskReceiveTimeout.timeout_error (by decide)) fun _ failed => ?_
  cases failed

/-- The `[submitter]` part fails over a setting at fault, or at a time to live that has wrapped around. -/
theorem assembleSubmitter_error {logDir : String} (failed : assembleSubmitter toml env root logDir = .error error) :
    Attributed toml env root error ∨ SubmitterReads toml env root ∧
      (DurationSetting.publishInterval.layered toml root).toInt <
        (DurationSetting.submitterTimeToLive.layered toml root).toInt * 1000 ∧
      (secondsToMilliseconds (DurationSetting.submitterTimeToLive.layered toml root)).toInt ≤
        (DurationSetting.publishInterval.layered toml root).toInt := by
  refine Except.bind_fails (StringSetting.submitterQueue.stringField_reads rfl) failed
    (fun failed => Or.inl (StringSetting.submitterQueue.stringField_error (by decide) failed)) fun queue failed => ?_
  refine Except.bind_fails (StringSetting.submitterLogger.file_reads env rfl) failed
    (fun failed => Or.inl (StringSetting.submitterLogger.file_error (by decide) failed)) fun logger failed => ?_
  refine Except.bind_fails (StringSetting.qdmiDriver.requiredStringField_reads rfl) failed
    (fun failed => Or.inl (StringSetting.qdmiDriver.requiredStringField_error (by decide) (by decide) rfl failed))
    fun driver failed => ?_
  refine Except.bind_fails (StringSetting.qdmiDeviceName.requiredStringField_reads rfl) failed
    (fun failed => Or.inl (StringSetting.qdmiDeviceName.requiredStringField_error (by decide) (by decide) rfl failed))
    fun deviceName failed => ?_
  refine Except.bind_fails (StringSetting.qdmiDeviceId.requiredStringField_reads rfl) failed
    (fun failed => Or.inl (StringSetting.qdmiDeviceId.requiredStringField_error (by decide) (by decide) rfl failed))
    fun deviceId failed => ?_
  refine Except.bind_fails (StringSetting.qdmiClientToken.stringField_reads rfl) failed
    (fun failed => Or.inl (StringSetting.qdmiClientToken.stringField_error (by decide) failed)) fun clientToken failed => ?_
  refine Except.bind_fails (DurationSetting.jobWaitTimeout.reads .nonNegative) failed
    (fun failed => Or.inl (DurationSetting.jobWaitTimeout.timeout_error (by decide) failed)) fun waitTimeout failed => ?_
  refine Except.bind_fails (DurationSetting.submitterTimeToLive.reads .positive) failed
    (fun failed => Or.inl (DurationSetting.submitterTimeToLive.interval_error (by decide) failed)) fun timeToLive failed => ?_
  refine Except.bind_fails (DurationSetting.publishInterval.reads .positive) failed
    (fun failed => Or.inl (DurationSetting.publishInterval.interval_error (by decide) failed)) fun publishInterval failed => ?_
  split at failed
  · rename_i early
    rcases lt_or_ge (DurationSetting.publishInterval.layered toml root).toInt
      ((DurationSetting.submitterTimeToLive.layered toml root).toInt * 1000) with outlives | outlived
    · exact Or.inr ⟨⟨queue, logger, driver, deviceName, deviceId, clientToken, waitTimeout, timeToLive, publishInterval⟩,
        outlives, Int64.le_iff_toInt_le.mp early⟩
    · have fault : AtFault toml env root (dottedKey DurationSetting.submitterTimeToLive.path) :=
        .outlived (Or.inl rfl) timeToLive.1 publishInterval.1 outlived
      have text : "Configuration key 'submitter.backendRegistry.entryTimeToLive' must be greater than " ++
          "'submitter.backendStatusPublishInterval'" =
          "Configuration key '" ++ dottedKey DurationSetting.submitterTimeToLive.path ++
            "' must be greater than 'submitter.backendStatusPublishInterval'" := rfl
      rw [text] at failed
      cases failed
      exact Or.inl (attributed_of_detail fault (by decide) (by decide))
  · cases failed

/-- An error of `assembleConfig` is attributed, or it is one of the two that are not. -/
theorem assembleConfig_error {entries : List (String × Toml)} (failed : assembleConfig toml env entries = .error error) :
    Attributed toml env (some (.table entries)) error ∨ MalformedPortFirst toml env (some (.table entries)) ∨
      WrappedTimeToLive toml env (some (.table entries)) := by
  refine Except.bind_fails checkSchema_reads failed (fun failed => Or.inl (checkSchema_error failed))
    fun schema failed => ?_
  rcases Except.bind_eq_error_iff.mp failed with failed | ⟨common, readCommon, failed⟩
  · rcases assembleCommon_error failed with attributed | ⟨logDir, host, given, node, text⟩
    · exact Or.inl attributed
    · exact Or.inr (Or.inl ⟨schema, logDir, host, given, node, text⟩)
  rcases Except.bind_eq_error_iff.mp failed with failed | ⟨selector, readSelector, failed⟩
  · exact Or.inl (assembleSelector_error failed)
  rcases Except.bind_eq_error_iff.mp failed with failed | ⟨compiler, readCompiler, failed⟩
  · exact Or.inl (assembleCompiler_error failed)
  rcases Except.bind_eq_error_iff.mp failed with failed | ⟨submitter, _, failed⟩
  · rcases assembleSubmitter_error failed with attributed | ⟨reads, outlives, wraps⟩
    · exact Or.inl attributed
    · have settings := settings_accepted readCommon readSelector readCompiler reads
      exact Or.inr (Or.inr ⟨schema, settings, outlives, wraps⟩)
  · cases failed

/-- Where the settings stand in the file. -/
def settingPaths : List (List String) :=
  StringSetting.all.map StringSetting.path ++
    (DurationSetting.intervals ++ DurationSetting.timeouts).map DurationSetting.path ++ [portPath]

theorem StringSetting.path_mem {setting : StringSetting} (member : setting ∈ all) : setting.path ∈ settingPaths :=
  List.mem_append_left _ (List.mem_append_left _ (List.mem_map_of_mem member))

theorem DurationSetting.path_mem {setting : DurationSetting} (member : setting ∈ intervals ++ timeouts) :
    setting.path ∈ settingPaths :=
  List.mem_append_left _ (List.mem_append_right _ (List.mem_map_of_mem member))

theorem portPath_mem : portPath ∈ settingPaths := List.mem_append_right _ (List.mem_singleton_self _)

/-- A key found in an allowed table is one of the allowed keys. -/
theorem TableAllowed.listed {node : Option Toml} {allowed : List String} {entries : List (String × Toml)} {value : Toml}
    (table : TableAllowed node allowed) (located : node = some (.table entries)) (member : (key, value) ∈ entries) :
    key ∈ allowed := by
  obtain ⟨_, same, keys⟩ := table _ located
  cases same
  exact keys _ member

/-- Where the schema holds, only settings can be at fault. -/
theorem AtFault.setting (fault : AtFault toml env root key)
    (schema : ∀ table ∈ configTables, TableAllowed (nodeAtPath root table.1) table.2) :
    ∃ path ∈ settingPaths, key = dottedKey path := by
  have strings : ∀ setting ∈ StringSetting.required, setting ∈ StringSetting.all := by decide
  cases fault with
  | unknownKey member located listed unlisted => exact absurd ((schema _ member).listed located listed) unlisted
  | noTable member located other =>
    obtain ⟨entries, same, _⟩ := schema _ member _ located
    exact absurd same (other entries)
  | wrongString member _ => exact ⟨_, StringSetting.path_mem member, rfl⟩
  | wrongDuration member _ => exact ⟨_, DurationSetting.path_mem member, rfl⟩
  | wrongPort => exact ⟨_, portPath_mem, rfl⟩
  | malformedPort => exact ⟨_, portPath_mem, rfl⟩
  | portRange => exact ⟨_, portPath_mem, rfl⟩
  | empty member => exact ⟨_, StringSetting.path_mem (strings _ member), rfl⟩
  | policy => exact ⟨_, StringSetting.path_mem (by decide), rfl⟩
  | interval member => exact ⟨_, DurationSetting.path_mem (List.mem_append_left _ member), rfl⟩
  | timeout member => exact ⟨_, DurationSetting.path_mem (List.mem_append_right _ member), rfl⟩
  | outlived either =>
    rcases either with rfl | rfl
    · exact ⟨_, DurationSetting.path_mem (by decide), rfl⟩
    · exact ⟨_, DurationSetting.path_mem (by decide), rfl⟩

/-- A setting inside a table has a dot in its key. -/
theorem dot_mem_dottedKey {path : List String} (nested : 2 ≤ path.length) : '.' ∈ (dottedKey path).toList := by
  cases path with
  | nil => cases nested
  | cons first rest =>
    cases rest with
    | nil => simp at nested
    | cons second others => simp [dottedKey]

/-- Where the schema holds and every setting keeps to its own rule, only the rule about two of them can be broken. -/
theorem AtFault.of_settings (fault : AtFault toml env root key)
    (schema : ∀ table ∈ configTables, TableAllowed (nodeAtPath root table.1) table.2)
    (settings : SettingsAccepted toml env root) :
    (DurationSetting.submitterTimeToLive.layered toml root).toInt * 1000 ≤
      (DurationSetting.publishInterval.layered toml root).toInt := by
  cases fault with
  | unknownKey member located listed unlisted =>
    exact absurd ((schema _ member).listed located listed) unlisted
  | noTable member located other =>
    obtain ⟨entries, same, _⟩ := schema _ member _ located
    exact absurd same (other entries)
  | wrongString member wrong => exact absurd (settings.strings _ member) wrong
  | wrongDuration member wrong => exact absurd (settings.durations _ member) wrong
  | wrongPort wrong => exact absurd settings.port.node wrong
  | malformedPort malformed => exact absurd malformed (not_malformedPort_iff.mpr settings.port.text)
  | portRange _ _ outside => exact absurd settings.port.range outside
  | empty member _ blank => exact absurd blank (settings.required _ member)
  | policy _ other => exact absurd settings.policy other
  | interval member _ outside => exact absurd (settings.intervals _ member) (not_lt.mpr outside)
  | timeout member _ outside => exact absurd (settings.timeouts _ member) (not_le.mpr outside)
  | outlived _ _ _ outlived => exact outlived

theorem getEnvIntOrExpected_malformed (fallback : Int32) (malformed : MalformedPort env) :
    getEnvIntOrExpected env "QRMCI_AMQP_PORT" fallback =
      .error ⟨.configError, "Environment variable 'QRMCI_AMQP_PORT' is not a valid integer"⟩ := by
  obtain ⟨text, set, wrong⟩ := malformed
  have unread : fromChars text = none := by
    cases parsed : fromChars text with
    | none => rfl
    | some value => exact absurd ((fromChars_reads value).mp parsed).1 wrong
  simp only [getEnvIntOrExpected, set, unread]
  rfl

theorem readPort_malformed (typed : PortTyped toml root) (malformed : MalformedPort env) :
    readPort toml env (nodeAtPath root portPath) =
      .error ⟨.configError, "Environment variable 'QRMCI_AMQP_PORT' is not a valid integer"⟩ := by
  have read : tomlValueOrExpected toml.int (nodeAtPath root portPath) "common.connection.port" 5672 = .ok _ :=
    (tomlValueOrExpected_reads _).mpr ⟨typed, rfl⟩
  refine Except.bind_eq_error_iff.mpr (Or.inr ⟨_, read, ?_⟩)
  exact Except.bind_eq_error_iff.mpr (Or.inl (getEnvIntOrExpected_malformed _ malformed))

/-- The error about the variable names no setting. -/
theorem MalformedPortFirst.unattributed {entries : List (String × Toml)}
    (malformed : MalformedPortFirst toml env (some (.table entries))) :
    ∃ error, assembleConfig toml env entries = .error error ∧ ¬ Attributed toml env (some (.table entries)) error := by
  have port := readPort_malformed malformed.node malformed.text
  have common : assembleCommon toml env (some (.table entries)) =
      .error ⟨.configError, "Environment variable 'QRMCI_AMQP_PORT' is not a valid integer"⟩ := by
    refine Except.bind_eq_error_iff.mpr (Or.inr ⟨_, (StringSetting.logDir.stringField_reads rfl _).mpr
      ⟨malformed.logDir, rfl⟩, ?_⟩)
    refine Except.bind_eq_error_iff.mpr (Or.inr ⟨_, (StringSetting.host.requiredStringField_reads rfl _).mpr
      ⟨⟨malformed.host, malformed.given⟩, rfl⟩, ?_⟩)
    exact Except.bind_eq_error_iff.mpr (Or.inl port)
  have schema := (checkSchema_reads ()).mpr ⟨malformed.schema, rfl⟩
  refine ⟨_, Except.bind_eq_error_iff.mpr (Or.inr ⟨(), schema, Except.bind_eq_error_iff.mpr (Or.inl common)⟩), ?_⟩
  rintro ⟨_, key, named, fault⟩
  -- Every key of a setting has a dot in it, and the error has none.
  have undotted : '.' ∉ "Environment variable 'QRMCI_AMQP_PORT' is not a valid integer".toList := by decide
  have nested : ∀ path ∈ settingPaths, 2 ≤ path.length := by decide
  obtain ⟨path, listed, rfl⟩ := fault.setting malformed.schema
  have inside : '.' ∈ ("'" ++ dottedKey path ++ "'").toList := by
    rw [String.toList_append, String.toList_append]
    exact List.mem_append_left _ (List.mem_append_right _ (dot_mem_dottedKey (nested path listed)))
  exact undotted (named.subset inside)

/-- A configuration in which nothing is at fault is refused all the same. -/
theorem WrappedTimeToLive.unattributed {entries : List (String × Toml)}
    (wrapped : WrappedTimeToLive toml env (some (.table entries))) :
    ∃ error, assembleConfig toml env entries = .error error ∧ ¬ Attributed toml env (some (.table entries)) error := by
  cases run : assembleConfig toml env entries with
  | ok config =>
    have accepted := (assembleConfig_ok run).1
    exact absurd accepted.outlives (not_lt.mpr wrapped.wraps)
  | error error =>
    refine ⟨error, rfl, ?_⟩
    rintro ⟨_, key, _, fault⟩
    have outlived := fault.of_settings wrapped.schema wrapped.settings
    exact absurd wrapped.outlives (not_lt.mpr outlived)

/-- When every error is a configuration error that names a setting or table at fault, whichever layer the bad
value comes from. -/
theorem config_error_attributed_iff (toml : TomlLibrary) (env : Environment) (entries : List (String × Toml)) :
    (∀ error, assembleConfig toml env entries = .error error → Attributed toml env (some (.table entries)) error) ↔
      ¬ MalformedPortFirst toml env (some (.table entries)) ∧ ¬ WrappedTimeToLive toml env (some (.table entries)) := by
  constructor
  · intro attributed
    constructor
    · intro malformed
      obtain ⟨error, failed, unattributed⟩ := malformed.unattributed
      exact unattributed (attributed error failed)
    · intro wrapped
      obtain ⟨error, failed, unattributed⟩ := wrapped.unattributed
      exact unattributed (attributed error failed)
  · rintro ⟨readable, exact⟩ error failed
    rcases assembleConfig_error failed with attributed | malformed | wrapped
    · exact attributed
    · exact absurd malformed readable
    · exact absurd wrapped exact

/-- Without a file, and with a port in the environment that is no number, the error names no setting. -/
theorem malformed_port_unattributed :
    ¬ ∀ error, assembleConfig .exact (fun name => if name = "QRMCI_AMQP_PORT" then some "abc" else none) [] =
        .error error →
      Attributed .exact (fun name => if name = "QRMCI_AMQP_PORT" then some "abc" else none) (some (.table [])) error := by
  have schema : ∀ table ∈ configTables, TableAllowed (nodeAtPath (some (.table [])) table.1) table.2 := by
    have top : TableAllowed (some (.table [])) ["common", "selector", "compiler", "submitter"] := by
      rintro _ ⟨⟩
      exact ⟨[], rfl, by simp⟩
    have absent : ∀ allowed, TableAllowed none allowed := by
      intro allowed present located
      cases located
    simp only [configTables, List.forall_mem_cons, List.not_mem_nil, false_imp_iff, implies_true, and_true]
    exact ⟨top, absent _, absent _, absent _, absent _, absent _, absent _, absent _⟩
  have text : MalformedPort fun name => if name = "QRMCI_AMQP_PORT" then some "abc" else none := by
    refine ⟨"abc", rfl, ?_⟩
    rintro ⟨⟨_, digits⟩, _⟩
    cases digits 'a' (by decide)
  have malformed : MalformedPortFirst .exact (fun name => if name = "QRMCI_AMQP_PORT" then some "abc" else none)
      (some (.table [])) := by
    refine ⟨schema, ?_, ?_, by decide, ?_, text⟩
    · intro node located
      cases located
    · intro node located
      cases located
    · intro node located
      cases located
  intro attributed
  obtain ⟨error, failed, unattributed⟩ := malformed.unattributed
  exact unattributed (attributed error failed)

end Qrmci
