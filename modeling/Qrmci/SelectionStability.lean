import Qrmci.Selection
import Qrmci.SelectorRouting

namespace Qrmci

variable {inputFormats : List String} {task : QuantumTask} {policy : BackendSelectionPolicy}

/-- Where the chosen backend is still registered as it was, and every other one was registered before
or is fresh, the choice falls on the same backend or on a fresh one. -/
theorem chooseBackend_stable {before after : BackendRegistry} {name : String} (fresh : String → Prop)
    (origin : ∀ backend, after.Registers backend → before.Registers backend ∨ fresh backend.name)
    (kept : ∀ backend, before.find name = some backend → after.find name = some backend)
    (chosen : chooseBackend inputFormats task before policy = .ok name) :
    ∃ winner, chooseBackend inputFormats task after policy = .ok winner ∧ (winner = name ∨ fresh winner) := by
  by_cases preference : PreferenceUsable inputFormats task after
  · obtain ⟨named, preferred, same, usable⟩ := preference
    refine ⟨task.preferredQpu, chooseBackend_of_preferred policy named same usable, ?_⟩
    rcases origin preferred usable.registered with old | new
    · have already := chooseBackend_of_preferred policy named same ⟨old, usable.able⟩
      exact Or.inl (Except.ok.inj (already.symm.trans chosen))
    · rw [same] at new
      exact Or.inr new
  · -- The preference was not usable before either, or the chosen backend, which is kept, were preferred.
    have free : ¬ PreferenceUsable inputFormats task before := by
      intro earlier
      obtain ⟨named, preferred, same, usable⟩ := earlier
      have already := chooseBackend_of_preferred policy named same usable
      have equal : preferred.name = name := same.trans (Except.ok.inj (already.symm.trans chosen))
      have registered := usable.registered
      rw [BackendRegistry.Registers, equal] at registered
      have still := kept preferred registered
      rw [← equal] at still
      exact preference ⟨named, preferred, same, still, usable.able⟩
    rcases chooseBackend_by_policy policy free with ⟨_, failed⟩ | ⟨first, foremost, won⟩
    · cases failed.symm.trans chosen
    have equal : first.name = name := Except.ok.inj (won.symm.trans chosen)
    have registered := foremost.usable.registered
    rw [BackendRegistry.Registers, equal] at registered
    have still := kept first registered
    rw [← equal] at still
    have usable : Usable inputFormats task after first := ⟨still, foremost.usable.able⟩
    rcases chooseBackend_by_policy policy preference with ⟨nobody, _⟩ | ⟨winner, ahead, result⟩
    · exact absurd usable (nobody first)
    refine ⟨winner.name, result, ?_⟩
    rcases origin winner ahead.usable.registered with old | new
    · by_cases same : winner = first
      · exact Or.inl (by rw [same, equal])
      · have above := precedes_iff.mp (foremost.first winner ⟨old, ahead.usable.able⟩ same)
        have below := precedes_iff.mp (ahead.first first usable (Ne.symm same))
        exact absurd below (lt_asymm above)
    · exact Or.inr new

/-- The two tasks ask for the same: they agree in all that the choice of a backend reads. -/
structure QuantumTask.AsksLike (task other : QuantumTask) : Prop where
  preferredQpu : task.preferredQpu = other.preferredQpu
  nQbits : task.nQbits = other.nQbits
  restrictedResourceNames : task.restrictedResourceNames = other.restrictedResourceNames
  circuitFileType : task.circuitFileType = other.circuitFileType
  noModify : task.noModify = other.noModify

variable {other : QuantumTask}

theorem QuantumTask.AsksLike.eligible (alike : task.AsksLike other) :
    Qrmci.eligible inputFormats task = Qrmci.eligible inputFormats other := by
  funext backend
  simp only [Qrmci.eligible, BackendWrapper.canRun, canPrepareTaskForBackend, alike.nQbits,
    alike.restrictedResourceNames, alike.circuitFileType, alike.noModify]

theorem QuantumTask.AsksLike.chooseBackend (alike : task.AsksLike other) (backends : BackendRegistry) :
    Qrmci.chooseBackend inputFormats task backends policy = Qrmci.chooseBackend inputFormats other backends policy := by
  have considered : considerBackend inputFormats task policy = considerBackend inputFormats other policy := by
    funext chosen backendInfo
    simp only [considerBackend, alike.eligible]
  simp only [Qrmci.chooseBackend, preferredBackend, alike.preferredQpu, alike.eligible, considered]

variable {settings : SelectorSettings} {act : SelectorAct} {more : List SelectorAct} {s t : SelectorState}

/-- A step leaves every entry alone or drops it, but for the one that it accepts a status for. -/
theorem SelectorStep.find_cases (step : SelectorStep settings s act t) :
    ∃ latest, t.accepted = latest ++ s.accepted ∧ ∀ name, name ∉ latest.map Prod.fst →
      t.availableBackends.find name = s.availableBackends.find name ∨ t.availableBackends.find name = none := by
  cases step with
  | status message =>
    rcases handleStatus_cases settings.build s.availableBackends message s.clock with
      unchanged | ⟨_, _, _, taken, entries⟩
    · refine ⟨[], ?_, ?_⟩
      · simp only [SelectorState.receiveStatus, unchanged, stampAccepted, Bool.false_eq_true, if_false, List.nil_append]
      · intro name _
        left
        simp only [SelectorState.receiveStatus, unchanged]
    · refine ⟨[(message.name, s.clock)], ?_, ?_⟩
      · simp only [SelectorState.receiveStatus, taken, stampAccepted, if_true, List.singleton_append]
      · intro name other
        have apart : message.name ≠ name := by
          intro same
          exact other (by simp [same])
        left
        simp only [SelectorState.receiveStatus, BackendRegistry.find, entries, if_neg apart]
  | expire =>
    refine ⟨[], rfl, ?_⟩
    intro name _
    simp only [BackendRegistry.find, BackendRegistry.expire_getElem?]
    cases found : s.availableBackends.entries[name]? with
    | none => exact Or.inl rfl
    | some entry =>
      rw [Option.filter_some]
      split
      · exact Or.inl rfl
      · exact Or.inr rfl
  | _ => exact ⟨[], rfl, fun _ _ => Or.inl rfl⟩

/-- As long as no status is accepted for a name, its entry stays as it is until it is dropped. -/
theorem SelectorRun.find_cases (onward : Trace (· = s) (SelectorStep settings) more t) :
    ∃ newer, t.accepted = newer ++ s.accepted ∧ ∀ name, name ∉ newer.map Prod.fst →
      t.availableBackends.find name = s.availableBackends.find name ∨ t.availableBackends.find name = none := by
  induction onward with
  | start first =>
    subst first
    exact ⟨[], rfl, fun _ _ => Or.inl rfl⟩
  | next _ step ih =>
    obtain ⟨newer, grown, earlier⟩ := ih
    obtain ⟨latest, stamped, now⟩ := step.find_cases
    refine ⟨latest ++ newer, by rw [stamped, grown, List.append_assoc], ?_⟩
    intro name untouched
    rw [List.map_append, List.mem_append, not_or] at untouched
    rcases now name untouched.1 with same | gone
    · rw [same]
      exact earlier name untouched.2
    · exact Or.inr gone

/-- The selector sticks to its choice: between two tasks that ask for the same, however many messages,
expiries and turns lie between them, the assignment moves away from a backend only if that backend
has expired or a status has been accepted for it, or to a backend that a status has been accepted for. -/
theorem selection_sticks (onward : Trace (· = s) (SelectorStep settings) more t) (alike : task.AsksLike other)
    {name : String}
    (chosen : chooseBackend settings.inputFormats task s.availableBackends settings.selectionPolicy = .ok name) :
    ∃ newer, t.accepted = newer ++ s.accepted ∧
      (name ∉ newer.map Prod.fst → t.availableBackends.find name ≠ none →
        ∃ winner, chooseBackend settings.inputFormats other t.availableBackends settings.selectionPolicy = .ok winner ∧
          (winner = name ∨ winner ∈ newer.map Prod.fst)) := by
  obtain ⟨newer, grown, stays⟩ := SelectorRun.find_cases onward
  refine ⟨newer, grown, ?_⟩
  intro untouched kept
  rw [← alike.chooseBackend]
  refine chooseBackend_stable (fun fresh => fresh ∈ newer.map Prod.fst) ?_ ?_ chosen
  · intro backend registered
    by_cases fresh : backend.name ∈ newer.map Prod.fst
    · exact Or.inr fresh
    · left
      rcases stays backend.name fresh with same | gone
      · exact same.symm.trans registered
      · rw [BackendRegistry.Registers, gone] at registered
        cases registered
  · intro backend located
    rcases stays name untouched with same | gone
    · exact same.trans located
    · exact absurd gone kept

/-- Two turns later `alpha` is still chosen, for another task of the kind, and although a status for it that is not
accepted has come in meanwhile. -/
theorem selection_sticks_alpha :
    ∃ s t, SelectorRun .plain [.expire, .status .alpha, .enter] s ∧
      Trace (· = s) (SelectorStep .plain) [.expire, .status { Backend.alpha with queueName := "compiler.beta" }, .enter,
        .rest, .task ⟨0, .quake⟩ true] t ∧
      chooseBackend ["cudaq-quake"] { QuantumTask.quake with taskId := 8 } t.availableBackends .lowestName =
        .ok "alpha" := by
  have start : SelectorRun .plain [] (.initial .plain 0) := .start ⟨0, rfl⟩
  have run := start
    |>.next (.enter rfl rfl)
    |>.next (.status .alpha rfl rfl)
    |>.next (.expire rfl)
  have onward := run.onward
    |>.next (.task ⟨0, .quake⟩ true rfl rfl)
    |>.next (.rest rfl)
    |>.next (.enter rfl rfl)
    |>.next (.status { Backend.alpha with queueName := "compiler.beta" } rfl rfl)
    |>.next (.expire rfl)
  have alike : QuantumTask.AsksLike .quake { QuantumTask.quake with taskId := 8 } := ⟨rfl, rfl, rfl, rfl, rfl⟩
  obtain ⟨newer, grown, sticks⟩ := selection_sticks onward alike
    (by decide +kernel : chooseBackend _ QuantumTask.quake _ _ = .ok "alpha")
  have none : [] = newer := List.append_cancel_right ((by decide +kernel : _ = _).trans grown)
  subst none
  obtain ⟨winner, chosen, same | touched⟩ := sticks List.not_mem_nil (by decide +kernel)
  · rw [same] at chosen
    exact ⟨_, _, run, onward, chosen⟩
  · cases touched

end Qrmci
