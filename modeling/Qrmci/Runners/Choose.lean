import Qrmci.BackendRegistry

namespace Qrmci

/-- Every policy ends in a name comparison, so the order is total on registered backends. -/
def beatsIncumbent (candidate incumbent : BackendWrapper) (policy : BackendSelectionPolicy) : Bool :=
  match policy with
  | .smallestSufficient =>
    if candidate.numQubits ≠ incumbent.numQubits then candidate.numQubits < incumbent.numQubits
    else candidate.name < incumbent.name
  | .lowestName => candidate.name < incumbent.name

def eligible (inputFormats : List String) (task : QuantumTask) (backend : BackendWrapper) : Bool :=
  backend.isOnline && backend.canRun inputFormats task

/-- One call of the function that `forEachBackend` applies to every registered backend. -/
def considerBackend (inputFormats : List String) (task : QuantumTask) (policy : BackendSelectionPolicy)
    (chosen : Option BackendWrapper) (backendInfo : BackendWrapper) : Option BackendWrapper :=
  if !eligible inputFormats task backendInfo then chosen
  else match chosen with
    | none => some backendInfo
    | some incumbent => if beatsIncumbent backendInfo incumbent policy then some backendInfo else chosen

/-- A usable preferred QPU takes precedence over the policy. -/
def preferredBackend (inputFormats : List String) (task : QuantumTask) (availableBackends : BackendRegistry) :
    Option BackendWrapper :=
  if task.preferredQpu = "" then none
  else (availableBackends.find task.preferredQpu).filter (eligible inputFormats task)

def chooseBackend (inputFormats : List String) (task : QuantumTask) (availableBackends : BackendRegistry)
    (policy : BackendSelectionPolicy) : Except Error String :=
  match preferredBackend inputFormats task availableBackends with
  | some preferred => .ok preferred.name
  | none =>
    match availableBackends.entries.foldl
        (fun chosen _ entry => considerBackend inputFormats task policy chosen entry.backend) none with
    | none => .error ⟨.noBackendAvailable, "No suitable backend found"⟩
    | some chosen => .ok chosen.name

variable {inputFormats : List String} {task : QuantumTask} {policy : BackendSelectionPolicy}

theorem considerBackend_origin {chosen : Option BackendWrapper} {backendInfo winner : BackendWrapper}
    (step : considerBackend inputFormats task policy chosen backendInfo = some winner) :
    chosen = some winner ∨ (backendInfo = winner ∧ eligible inputFormats task winner = true) := by
  unfold considerBackend at step
  split at step
  · exact Or.inl step
  · rename_i usable
    have able : eligible inputFormats task backendInfo = true := by simpa using usable
    split at step
    · cases step
      exact Or.inr ⟨rfl, able⟩
    · split at step
      · cases step
        exact Or.inr ⟨rfl, able⟩
      · exact Or.inl step

/-- Whatever the fold ends with was in the list it went through, and is eligible. -/
theorem foldl_considerBackend_origin {listed : List (String × RegistryEntry)} {start : Option BackendWrapper}
    {winner : BackendWrapper}
    (run : listed.foldl (fun chosen pair => considerBackend inputFormats task policy chosen pair.2.backend) start =
      some winner) :
    start = some winner ∨
      ((∃ pair ∈ listed, pair.2.backend = winner) ∧ eligible inputFormats task winner = true) := by
  induction listed generalizing start with
  | nil => exact Or.inl run
  | cons pair rest ih =>
    rcases ih run with early | ⟨⟨later, member, same⟩, able⟩
    · rcases considerBackend_origin early with before | ⟨here, able⟩
      · exact Or.inl before
      · exact Or.inr ⟨⟨pair, List.mem_cons_self .., here⟩, able⟩
    · exact Or.inr ⟨⟨later, List.mem_cons_of_mem _ member, same⟩, able⟩

/-- A chosen name can be looked up again in the same registry, and names an eligible backend. -/
theorem chooseBackend_ok {availableBackends : BackendRegistry} {name : String}
    (chosen : chooseBackend inputFormats task availableBackends policy = .ok name) :
    ∃ backend, availableBackends.find name = some backend ∧ backend.name = name ∧
      eligible inputFormats task backend = true := by
  unfold chooseBackend at chosen
  split at chosen
  · rename_i preferred found
    cases chosen
    unfold preferredBackend at found
    split at found
    · cases found
    · obtain ⟨located, able⟩ := Option.filter_eq_some_iff.mp found
      have same := BackendRegistry.find_name located
      exact ⟨preferred, by rw [same]; exact located, rfl, able⟩
  · split at chosen
    · cases chosen
    · rename_i winner run
      cases chosen
      rw [Std.ExtTreeMap.foldl_eq_foldl_toList] at run
      rcases foldl_considerBackend_origin run with impossible | ⟨⟨⟨key, entry⟩, member, same⟩, able⟩
      · cases impossible
      · have present := Std.ExtTreeMap.mem_toList_iff_getElem?_eq_some.mp member
        have named := availableBackends.keyed key entry present
        subst same
        have located := BackendRegistry.find_of_entry present
        exact ⟨entry.backend, by rw [named]; exact located, rfl, able⟩

/-- There is one way to fail. -/
theorem chooseBackend_error {availableBackends : BackendRegistry} {error : Error}
    (failed : chooseBackend inputFormats task availableBackends policy = .error error) :
    error = ⟨.noBackendAvailable, "No suitable backend found"⟩ := by
  unfold chooseBackend at failed
  split at failed
  · cases failed
  · split at failed
    · cases failed
      rfl
    · cases failed

theorem chooseBackend_error_kind {availableBackends : BackendRegistry} {error : Error}
    (failed : chooseBackend inputFormats task availableBackends policy = .error error) :
    error.kind = .noBackendAvailable := by
  rw [chooseBackend_error failed]

end Qrmci
