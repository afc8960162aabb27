import Qrmci.TaskSubmission

namespace Qrmci

/-- Handles of the submitter library; the pipeline only passes them back. -/
abbrev Child := Nat
abbrev Job := Nat

inductive Placement
  | self
  | on (child : Child)
  deriving DecidableEq, Repr

/-- The final states `wait` can report. -/
inductive JobStatus
  | done | canceled
  deriving DecidableEq, Repr

abbrev Counts := List (String × UInt64)

/-- Everything `submitQuantumTask` and `collectQuantumResult` reach outside this repository: the
device's calls, the steady clock, and the process's termination flag. Each call may answer
anything and move the surroundings to any state; a wait is one slice of a second. -/
structure Surroundings (σ : Type) where
  terminationFlag : σ → Bool
  children : σ → Except SubmitterError (List Child) × σ
  submitJob : JobRequest → Placement → σ → Except SubmitterError Job × σ
  cancel : Job → σ → Except SubmitterError Unit × σ
  wait : Job → σ → Except SubmitterError JobStatus × σ
  counts : Job → σ → Except SubmitterError Counts × σ
  now : σ → Time × σ

/-- Nothing in the process ever clears the termination flag. -/
structure Surroundings.Latched {σ : Type} (around : Surroundings σ) : Prop where
  children : ∀ s, around.terminationFlag s = true → around.terminationFlag (around.children s).2 = true
  submitJob : ∀ request placement s, around.terminationFlag s = true →
    around.terminationFlag (around.submitJob request placement s).2 = true
  cancel : ∀ job s, around.terminationFlag s = true → around.terminationFlag (around.cancel job s).2 = true
  wait : ∀ job s, around.terminationFlag s = true → around.terminationFlag (around.wait job s).2 = true
  counts : ∀ job s, around.terminationFlag s = true → around.terminationFlag (around.counts job s).2 = true
  now : ∀ s, around.terminationFlag s = true → around.terminationFlag (around.now s).2 = true

/-- Surroundings in which every job is done at once and no shutdown comes. -/
def Surroundings.calm : Surroundings Unit where
  terminationFlag _ := false
  children s := (.error ⟨.notSupported, "no children"⟩, s)
  submitJob _ _ s := (.ok 1, s)
  cancel _ s := (.ok (), s)
  wait _ s := (.ok .done, s)
  counts _ s := (.ok [("00", 100)], s)
  now s := (0, s)

theorem Surroundings.calm_latched : Surroundings.calm.Latched :=
  ⟨nofun, nofun, nofun, nofun, nofun, nofun⟩

end Qrmci
