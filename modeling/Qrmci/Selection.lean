import Mathlib.Data.Prod.Lex
import Mathlib.Data.String.Basic
import Qrmci.RegistryHistory
import Qrmci.Selector

namespace Qrmci

/-- The backend is in the registry, under its own name. -/
def BackendRegistry.Registers (registry : BackendRegistry) (backend : BackendWrapper) : Prop :=
  registry.find backend.name = some backend

/-- The order a policy puts backends in: by name, or by qubit count and then by name. -/
def Precedes (policy : BackendSelectionPolicy) (one other : BackendWrapper) : Prop :=
  match policy with
  | .lowestName => one.name < other.name
  | .smallestSufficient =>
    one.numQubits < other.numQubits ∨ (one.numQubits = other.numQubits ∧ one.name < other.name)

/-- The backend is registered, online, and can run the task. -/
structure Usable (inputFormats : List String) (task : QuantumTask) (registry : BackendRegistry)
    (backend : BackendWrapper) : Prop where
  registered : registry.Registers backend
  able : eligible inputFormats task backend = true

/-- The usable backend that comes before all the other ones. -/
structure Foremost (inputFormats : List String) (task : QuantumTask) (registry : BackendRegistry)
    (policy : BackendSelectionPolicy) (winner : BackendWrapper) : Prop where
  usable : Usable inputFormats task registry winner
  first : ∀ other, Usable inputFormats task registry other → other ≠ winner → Precedes policy winner other

/-- The task asks for a backend by name, and that backend is usable. -/
def PreferenceUsable (inputFormats : List String) (task : QuantumTask) (registry : BackendRegistry) : Prop :=
  task.preferredQpu ≠ "" ∧
    ∃ preferred, preferred.name = task.preferredQpu ∧ Usable inputFormats task registry preferred

/-- The value a policy compares backends by. -/
def selectionRank (policy : BackendSelectionPolicy) (backend : BackendWrapper) : Nat ×ₗ String :=
  match policy with
  | .lowestName => toLex (0, backend.name)
  | .smallestSufficient => toLex (backend.numQubits.toNat, backend.name)

variable {inputFormats : List String} {task : QuantumTask} {policy : BackendSelectionPolicy}
  {registry : BackendRegistry}

theorem precedes_iff {one other : BackendWrapper} :
    Precedes policy one other ↔ selectionRank policy one < selectionRank policy other := by
  cases policy with
  | lowestName => simp only [Precedes, selectionRank, Prod.Lex.toLex_lt_toLex, lt_irrefl, true_and, false_or]
  | smallestSufficient =>
    simp only [Precedes, selectionRank, Prod.Lex.toLex_lt_toLex, UInt32.lt_iff_toNat_lt, UInt32.toNat_inj]

theorem beatsIncumbent_iff {candidate incumbent : BackendWrapper} :
    beatsIncumbent candidate incumbent policy = true ↔ Precedes policy candidate incumbent := by
  cases policy with
  | lowestName => simp only [beatsIncumbent, Precedes, decide_eq_true_eq]
  | smallestSufficient =>
    by_cases same : candidate.numQubits = incumbent.numQubits
    · have notBelow : ¬ incumbent.numQubits < incumbent.numQubits := UInt32.lt_irrefl _
      simp only [beatsIncumbent, Precedes, same, ne_eq, not_true_eq_false, if_false, decide_eq_true_eq, notBelow,
        true_and, false_or]
    · simp only [beatsIncumbent, Precedes, same, ne_eq, not_false_eq_true, if_true, decide_eq_true_eq,
        false_and, or_false]

/-- Equal ranks are equal names, which two registered backends do not have. -/
theorem Foremost.of_le {winner : BackendWrapper} (usable : Usable inputFormats task registry winner)
    (least : ∀ other, Usable inputFormats task registry other →
      selectionRank policy winner ≤ selectionRank policy other) :
    Foremost inputFormats task registry policy winner := by
  refine ⟨usable, ?_⟩
  intro other able different
  rw [precedes_iff]
  refine lt_of_le_of_ne (least other able) ?_
  intro equal
  have sameName : winner.name = other.name := by
    cases policy with
    | lowestName => exact congrArg (fun rank => (ofLex rank).2) equal
    | smallestSufficient => exact congrArg (fun rank => (ofLex rank).2) equal
  have stored := able.registered
  rw [BackendRegistry.Registers, ← sameName, usable.registered] at stored
  exact different (Option.some.inj stored).symm

theorem Foremost.congr {other : BackendRegistry} {winner : BackendWrapper}
    (foremost : Foremost inputFormats task registry policy winner)
    (same : ∀ backend, Usable inputFormats task registry backend ↔ Usable inputFormats task other backend) :
    Foremost inputFormats task other policy winner :=
  ⟨(same winner).mp foremost.usable, fun backend usable => foremost.first backend ((same backend).mpr usable)⟩

theorem Foremost.unique {winner other : BackendWrapper} (one : Foremost inputFormats task registry policy winner)
    (two : Foremost inputFormats task registry policy other) : other = winner := by
  by_contra different
  have before := precedes_iff.mp (one.first other two.usable different)
  have after := precedes_iff.mp (two.first winner one.usable (Ne.symm different))
  exact lt_asymm before after

/-- There is no incumbent after a call only if there was none and the candidate is not eligible. -/
theorem considerBackend_eq_none {chosen : Option BackendWrapper} {backendInfo : BackendWrapper}
    (step : considerBackend inputFormats task policy chosen backendInfo = none) :
    chosen = none ∧ eligible inputFormats task backendInfo = false := by
  unfold considerBackend at step
  split at step
  · rename_i unusable
    exact ⟨step, by simpa using unusable⟩
  · split at step
    · cases step
    · split at step <;> cases step

/-- After one call the incumbent ranks no higher than before, nor than an eligible candidate. -/
theorem considerBackend_le {chosen : Option BackendWrapper} {backendInfo winner : BackendWrapper}
    (step : considerBackend inputFormats task policy chosen backendInfo = some winner) :
    (∀ incumbent, chosen = some incumbent → selectionRank policy winner ≤ selectionRank policy incumbent) ∧
      (eligible inputFormats task backendInfo = true →
        selectionRank policy winner ≤ selectionRank policy backendInfo) := by
  cases able : eligible inputFormats task backendInfo with
  | false =>
    simp only [considerBackend, able, Bool.not_false, if_true] at step
    refine ⟨?_, nofun⟩
    intro incumbent before
    rw [Option.some.inj (step.symm.trans before)]
  | true =>
    cases chosen with
    | none =>
      simp only [considerBackend, able, Bool.not_true, Bool.false_eq_true, if_false, Option.some.injEq] at step
      rw [step]
      exact ⟨nofun, fun _ => le_rfl⟩
    | some incumbent =>
      simp only [considerBackend, able, Bool.not_true, Bool.false_eq_true, if_false] at step
      split at step
      · rename_i wins
        cases step
        refine ⟨?_, fun _ => le_rfl⟩
        rintro _ ⟨⟩
        exact (precedes_iff.mp (beatsIncumbent_iff.mp wins)).le
      · rename_i loses
        cases step
        rw [beatsIncumbent_iff, precedes_iff, not_lt] at loses
        refine ⟨?_, fun _ => loses⟩
        rintro _ ⟨⟩
        exact le_rfl

/-- The incumbent at the end ranks no higher than the one at the start, nor than any eligible backend
on the way. -/
theorem foldl_considerBackend_le {listed : List (String × RegistryEntry)} {start : Option BackendWrapper}
    {winner : BackendWrapper}
    (run : listed.foldl (fun chosen pair => considerBackend inputFormats task policy chosen pair.2.backend) start =
      some winner) :
    (∀ incumbent, start = some incumbent → selectionRank policy winner ≤ selectionRank policy incumbent) ∧
      ∀ pair ∈ listed, eligible inputFormats task pair.2.backend = true →
        selectionRank policy winner ≤ selectionRank policy pair.2.backend := by
  induction listed generalizing start with
  | nil =>
    refine ⟨?_, nofun⟩
    intro incumbent before
    rw [Option.some.inj (run.symm.trans before)]
  | cons pair rest ih =>
    obtain ⟨fromNext, fromRest⟩ := ih run
    cases next : considerBackend inputFormats task policy start pair.2.backend with
    | none =>
      obtain ⟨nobody, unable⟩ := considerBackend_eq_none next
      refine ⟨fun _ before => (nomatch nobody.symm.trans before), ?_⟩
      intro other member able
      rcases List.mem_cons.mp member with here | later
      · rw [here, unable] at able
        cases able
      · exact fromRest other later able
    | some incumbent =>
      obtain ⟨overStart, overPair⟩ := considerBackend_le next
      have below := fromNext incumbent next
      refine ⟨fun before held => below.trans (overStart before held), ?_⟩
      intro other member able
      rcases List.mem_cons.mp member with here | later
      · rw [here] at able ⊢
        exact below.trans (overPair able)
      · exact fromRest other later able

/-- The fold ends with nobody only if nobody was chosen at the start and nobody is eligible. -/
theorem foldl_considerBackend_none {listed : List (String × RegistryEntry)} {start : Option BackendWrapper}
    (run : listed.foldl (fun chosen pair => considerBackend inputFormats task policy chosen pair.2.backend) start =
      none) :
    start = none ∧ ∀ pair ∈ listed, eligible inputFormats task pair.2.backend = false := by
  induction listed generalizing start with
  | nil => exact ⟨run, nofun⟩
  | cons pair rest ih =>
    obtain ⟨next, restUnable⟩ := ih run
    obtain ⟨nobody, unable⟩ := considerBackend_eq_none next
    refine ⟨nobody, ?_⟩
    intro other member
    rcases List.mem_cons.mp member with here | later
    · rw [here]
      exact unable
    · exact restUnable other later

theorem registers_iff {backend : BackendWrapper} : registry.Registers backend ↔
    ∃ pair ∈ registry.entries.toList, pair.2.backend = backend := by
  constructor
  · intro registered
    obtain ⟨entry, present, same⟩ := Option.map_eq_some_iff.mp registered
    exact ⟨(backend.name, entry), Std.ExtTreeMap.mem_toList_iff_getElem?_eq_some.mpr present, same⟩
  · rintro ⟨⟨name, entry⟩, member, rfl⟩
    have present := Std.ExtTreeMap.mem_toList_iff_getElem?_eq_some.mp member
    rw [BackendRegistry.Registers, registry.keyed name entry present]
    exact BackendRegistry.find_of_entry present

/-- The shortcut is taken exactly if the preference is usable, and then yields its backend. -/
theorem preferredBackend_eq_some_iff {preferred : BackendWrapper} :
    preferredBackend inputFormats task registry = some preferred ↔
      task.preferredQpu ≠ "" ∧ preferred.name = task.preferredQpu ∧ Usable inputFormats task registry preferred := by
  unfold preferredBackend
  split
  · rename_i unnamed
    exact ⟨nofun, fun holds => absurd unnamed holds.1⟩
  · rename_i named
    rw [Option.filter_eq_some_iff]
    constructor
    · rintro ⟨found, able⟩
      have same := BackendRegistry.find_name found
      refine ⟨named, same, ?_, able⟩
      rw [BackendRegistry.Registers, same]
      exact found
    · rintro ⟨_, same, registered, able⟩
      rw [← same]
      exact ⟨registered, able⟩

theorem preferredBackend_eq_none_iff :
    preferredBackend inputFormats task registry = none ↔ ¬ PreferenceUsable inputFormats task registry := by
  rw [Option.eq_none_iff_forall_not_mem]
  simp only [Option.mem_def, preferredBackend_eq_some_iff, PreferenceUsable, not_and, not_exists]
  constructor
  · intro never named preferred same usable
    exact never preferred named same usable
  · intro never preferred named same usable
    exact never named preferred same usable

theorem chooseBackend_of_preferred (policy : BackendSelectionPolicy) {preferred : BackendWrapper}
    (named : task.preferredQpu ≠ "")
    (same : preferred.name = task.preferredQpu) (usable : Usable inputFormats task registry preferred) :
    chooseBackend inputFormats task registry policy = .ok task.preferredQpu := by
  have shortcut := preferredBackend_eq_some_iff.mpr ⟨named, same, usable⟩
  simp only [chooseBackend, shortcut, same]

/-- Without a usable preference the fold decides: nobody is usable, or its winner comes first. -/
theorem chooseBackend_by_policy (policy : BackendSelectionPolicy)
    (free : ¬ PreferenceUsable inputFormats task registry) :
    ((∀ backend, ¬ Usable inputFormats task registry backend) ∧
      chooseBackend inputFormats task registry policy = .error ⟨.noBackendAvailable, "No suitable backend found"⟩) ∨
    ∃ winner, Foremost inputFormats task registry policy winner ∧
      chooseBackend inputFormats task registry policy = .ok winner.name := by
  have shortcut := preferredBackend_eq_none_iff.mpr free
  simp only [chooseBackend, shortcut, Std.ExtTreeMap.foldl_eq_foldl_toList]
  split
  · rename_i run
    obtain ⟨_, unable⟩ := foldl_considerBackend_none run
    refine Or.inl ⟨?_, rfl⟩
    rintro backend ⟨registered, able⟩
    obtain ⟨pair, member, same⟩ := registers_iff.mp registered
    have refused := unable pair member
    rw [same, able] at refused
    cases refused
  · rename_i winner run
    right
    obtain ⟨_, least⟩ := foldl_considerBackend_le run
    rcases foldl_considerBackend_origin run with impossible | ⟨origin, able⟩
    · cases impossible
    · refine ⟨winner, Foremost.of_le ⟨registers_iff.mpr origin, able⟩ ?_, rfl⟩
      rintro other ⟨registered, otherAble⟩
      obtain ⟨pair, member, same⟩ := registers_iff.mp registered
      rw [← same] at otherAble ⊢
      exact least pair member otherAble

/-- The result is a function of which usable backends there are. -/
theorem chooseBackend_congr {other : BackendRegistry}
    (same : ∀ backend, Usable inputFormats task registry backend ↔ Usable inputFormats task other backend) :
    chooseBackend inputFormats task registry policy = chooseBackend inputFormats task other policy := by
  by_cases preference : PreferenceUsable inputFormats task registry
  · obtain ⟨named, preferred, called, usable⟩ := preference
    rw [chooseBackend_of_preferred policy named called usable,
      chooseBackend_of_preferred policy named called ((same preferred).mp usable)]
  · have otherPreference : ¬ PreferenceUsable inputFormats task other := by
      rintro ⟨named, preferred, called, usable⟩
      exact preference ⟨named, preferred, called, (same preferred).mpr usable⟩
    rcases chooseBackend_by_policy policy preference with ⟨nobody, failed⟩ | ⟨winner, foremost, won⟩
    · rcases chooseBackend_by_policy policy otherPreference with ⟨_, alsoFailed⟩ | ⟨usurper, impossible, _⟩
      · rw [failed, alsoFailed]
      · exact absurd ((same usurper).mpr impossible.usable) (nobody usurper)
    · rcases chooseBackend_by_policy policy otherPreference with ⟨nobody, _⟩ | ⟨rival, alsoForemost, alsoWon⟩
      · exact absurd ((same winner).mp foremost.usable) (nobody winner)
      · rw [won, alsoWon, alsoForemost.unique (foremost.congr same)]

/-- Two registries choose alike if only backends that are not eligible are in one and not in the other. -/
theorem chooseBackend_of_subset {other : BackendRegistry}
    (fewer : ∀ backend, other.Registers backend → registry.Registers backend)
    (unable : ∀ backend, registry.Registers backend → ¬ other.Registers backend →
      eligible inputFormats task backend = false) :
    chooseBackend inputFormats task other policy = chooseBackend inputFormats task registry policy := by
  apply chooseBackend_congr
  intro backend
  refine ⟨fun usable => ⟨fewer backend usable.registered, usable.able⟩, ?_⟩
  rintro ⟨registered, able⟩
  refine ⟨?_, able⟩
  by_contra missing
  rw [unable backend registered missing] at able
  cases able

/-- An insert under an unused name registers that backend and keeps all the other ones. -/
theorem registers_insertOrRefresh {added : BackendWrapper} (now : Time) (unused : registry.find added.name = none)
    (backend : BackendWrapper) :
    (registry.insertOrRefresh added now).2.Registers backend ↔ backend = added ∨ registry.Registers backend := by
  have vacant : registry.entries[added.name]? = none := Option.map_eq_none_iff.mp unused
  have free : registry.queueConflict added = false := by
    simp only [BackendRegistry.queueConflict, vacant]
  obtain ⟨_, entries⟩ := BackendRegistry.insertOrRefresh_accepted now free
  rw [BackendRegistry.Registers, BackendRegistry.find, entries backend.name]
  split
  · rename_i same
    have absent : ¬ registry.Registers backend := by
      rw [BackendRegistry.Registers, ← same, unused]
      intro found
      cases found
    simp only [Option.map_some, Option.some.injEq, absent, or_false, eq_comm]
  · rename_i differs
    have notAdded : backend ≠ added := by
      rintro rfl
      exact differs rfl
    simp only [notAdded, false_or, BackendRegistry.Registers, BackendRegistry.find]

/-- The selection contract on every registry that calls of `insertOrRefresh` and `expire` lead to: a
usable preference wins, else the policy's first usable backend, else there is no backend available; and
only which usable backends are registered matters. -/
theorem chooseBackend_meets_specification (inputFormats : List String) (task : QuantumTask)
    (policy : BackendSelectionPolicy) (timeToLive : Time) (calls : List RegistryCall) :
    let registry := BackendRegistry.after timeToLive calls
    let result := chooseBackend inputFormats task registry policy
    (PreferenceUsable inputFormats task registry → result = .ok task.preferredQpu) ∧
    (¬ PreferenceUsable inputFormats task registry → (∃ backend, Usable inputFormats task registry backend) →
      ∃ winner, Foremost inputFormats task registry policy winner ∧
        (∀ other, Foremost inputFormats task registry policy other → other = winner) ∧ result = .ok winner.name) ∧
    ((∃ error, result = .error error ∧ error.kind = .noBackendAvailable) ↔
      ∀ backend, ¬ Usable inputFormats task registry backend) ∧
    (∀ otherTimeToLive otherCalls,
      (∀ backend, (BackendRegistry.after otherTimeToLive otherCalls).Registers backend ↔
        registry.Registers backend) →
      chooseBackend inputFormats task (BackendRegistry.after otherTimeToLive otherCalls) policy = result) ∧
    (∀ added now, registry.find added.name = none → eligible inputFormats task added = false →
      chooseBackend inputFormats task (BackendRegistry.after timeToLive (.insertOrRefresh added now :: calls)) policy =
        result) ∧
    ∀ otherTimeToLive otherCalls,
      (∀ backend, (BackendRegistry.after otherTimeToLive otherCalls).Registers backend →
        registry.Registers backend) →
      (∀ backend, registry.Registers backend →
        ¬ (BackendRegistry.after otherTimeToLive otherCalls).Registers backend →
        eligible inputFormats task backend = false) →
      chooseBackend inputFormats task (BackendRegistry.after otherTimeToLive otherCalls) policy = result := by
  intro registry result
  refine ⟨?_, ?_, ?_, ?_, ?_, ?_⟩
  · rintro ⟨named, preferred, same, usable⟩
    exact chooseBackend_of_preferred policy named same usable
  · rintro free ⟨backend, usable⟩
    rcases chooseBackend_by_policy policy free with ⟨nobody, _⟩ | ⟨winner, foremost, won⟩
    · exact absurd usable (nobody backend)
    · exact ⟨winner, foremost, fun other => foremost.unique, won⟩
  · constructor
    · rintro ⟨error, failed, _⟩ backend usable
      by_cases preference : PreferenceUsable inputFormats task registry
      · obtain ⟨named, preferred, same, able⟩ := preference
        cases (chooseBackend_of_preferred policy named same able).symm.trans failed
      · rcases chooseBackend_by_policy policy preference with ⟨nobody, _⟩ | ⟨winner, _, won⟩
        · exact nobody backend usable
        · cases won.symm.trans failed
    · intro nobody
      have free : ¬ PreferenceUsable inputFormats task registry := by
        rintro ⟨_, preferred, _, usable⟩
        exact nobody preferred usable
      rcases chooseBackend_by_policy policy free with ⟨_, failed⟩ | ⟨winner, foremost, _⟩
      · exact ⟨_, failed, rfl⟩
      · exact absurd foremost.usable (nobody winner)
  · intro otherTimeToLive otherCalls same
    apply chooseBackend_of_subset
    · exact fun backend => (same backend).mp
    · intro backend registered missing
      exact absurd ((same backend).mpr registered) missing
  · intro added now unused unable
    have registered := registers_insertOrRefresh now unused
    symm
    apply chooseBackend_of_subset
    · exact fun backend kept => (registered backend).mpr (Or.inr kept)
    · intro backend present missing
      rcases (registered backend).mp present with same | kept
      · rw [same]
        exact unable
      · exact absurd kept missing
  · intro otherTimeToLive otherCalls fewer unable
    exact chooseBackend_of_subset fewer unable

/-- The text of a failed selection is not that of a backend that has gone: they differ in their first letter. -/
theorem no_suitable_ne_missing (name rest : String) : "No suitable backend found" ≠ "Backend '" ++ name ++ rest := by
  intro same
  have first := congrArg (fun text => text.toList.head?) same
  simp at first

/-- A chosen backend can be looked up again: on every registry that calls of `insertOrRefresh` and `expire`
lead to, it is found under the chosen name, online and able to run the task. So neither the selector nor the
intake of the standalone daemon ever reports it as missing. -/
theorem chosen_backend_found (task : QuantumTask) (timeToLive : Time) (calls : List RegistryCall) :
    let registry := BackendRegistry.after timeToLive calls
    (∀ inputFormats policy name, chooseBackend inputFormats task registry policy = .ok name →
      ∃ backend, registry.find name = some backend ∧ backend.name = name ∧ backend.isOnline = true ∧
        backend.canRun inputFormats task = true) ∧
    (∀ (settings : SelectorSettings) (name : String), handleTask settings registry task ≠
      .refuse (sendFailure task ⟨.noBackendAvailable, "Backend '" ++ name ++ "' is no longer registered."⟩)) ∧
    ∀ (S : Type) (scheduleTask : QuantumTask → S → S) (compiler : MQSSCompiler) (scheduler : S)
      (policy : BackendSelectionPolicy) (name : String),
      (selectCompileAndSchedule scheduleTask task registry compiler scheduler policy).result ≠
        .error ⟨.noBackendAvailable, "Backend '" ++ name ++ "' is not registered with this process."⟩ := by
  intro registry
  refine ⟨?_, ?_, ?_⟩
  · intro inputFormats policy name chosen
    obtain ⟨backend, located, named, able⟩ := chooseBackend_ok chosen
    rw [eligible, Bool.and_eq_true] at able
    exact ⟨backend, located, named, able⟩
  · intro settings name refused
    rcases handleTask_cases settings registry task with ⟨error, failed, run⟩ | ⟨backend, _, _, _, run⟩
    · rw [chooseBackend_error failed] at run
      have texts := run.symm.trans refused
      simp only [Dispatch.refuse.injEq, sendFailure, cancelQuantumTask, ResultSend.mk.injEq, QuantumResult.mk.injEq,
        true_and, and_true, String.append_right_inj] at texts
      rw [String.append_assoc] at texts
      exact no_suitable_ne_missing name _ texts
    · cases run.symm.trans refused
  · intro S scheduleTask compiler scheduler policy name failed
    cases chosen : chooseBackend compiler.supportedInputFormats task registry policy with
    | error error =>
      simp only [selectCompileAndSchedule, chosen, chooseBackend_error chosen, Except.error.injEq, Error.mk.injEq,
        true_and] at failed
      exact no_suitable_ne_missing name _ failed
    | ok chosenBackend =>
      simp only [selectCompileAndSchedule, chosen] at failed
      obtain ⟨backend, located, _⟩ := chooseBackend_ok chosen
      exact compileAndSchedule_registered located failed rfl

end Qrmci
