import Mathlib.Order.Defs.Unbundled
import Qrmci.Runners.Collect

namespace Qrmci

variable {σ : Type}

/-- Every call of the surroundings leads to a state that is later in the given order. -/
structure Surroundings.Advances (around : Surroundings σ) (later : σ → σ → Prop) : Prop where
  children : ∀ s, later s (around.children s).2
  submitJob : ∀ request placement s, later s (around.submitJob request placement s).2
  cancel : ∀ job s, later s (around.cancel job s).2
  wait : ∀ job s, later s (around.wait job s).2
  counts : ∀ job s, later s (around.counts job s).2
  now : ∀ s, later s (around.now s).2

section Runs

variable {around : Surroundings σ} {later : σ → σ → Prop} [IsPreorder σ later] {task : QuantumTask}

theorem cancelJobs_advances (advances : around.Advances later) (jobs : List Job) (s : σ) :
    later s (cancelJobs around jobs s) := by
  induction jobs generalizing s with
  | nil => exact refl_of later s
  | cons job rest ih => exact trans_of later (advances.cancel job s) (ih _)

theorem submitCircuits_advances (advances : around.Advances later) {format : CircuitFormat} {placement : Placement}
    (remaining circuitIndex : Nat) (jobs : List Job) (s : σ) :
    later s (submitCircuits around task format placement remaining circuitIndex jobs s).2 := by
  induction remaining generalizing circuitIndex jobs s with
  | zero => exact refl_of later s
  | succ remaining ih =>
    have submitted := advances.submitJob (makeJobRequest task circuitIndex format) placement s
    simp only [submitCircuits]
    split
    · exact cancelJobs_advances advances jobs s
    · split
      · rename_i failed
        rw [failed] at submitted
        exact submitted
      · rename_i taken
        rw [taken] at submitted
        exact trans_of later submitted (ih _ _ _)

theorem submitQuantumTask_advances (advances : around.Advances later) (task : QuantumTask) (s : σ) :
    later s (submitQuantumTask around task s).2 := by
  have discovered := advances.children s
  unfold submitQuantumTask
  split
  · exact refl_of later s
  · dsimp only
    split
    · exact discovered
    · exact trans_of later discovered (submitCircuits_advances advances _ _ _ _)

theorem awaitJob_advances (advances : around.Advances later) {waitTimeout : Int64} {job : Job} {waitStarted : Time}
    {slices : Nat} {s after : σ} {outcome : Except Error Unit}
    (ran : awaitJob around waitTimeout job waitStarted slices s = some (outcome, after)) : later s after := by
  induction slices generalizing s with
  | zero => cases ran
  | succ slices ih =>
    have waited := advances.wait job s
    simp only [awaitJob] at ran
    split at ran
    · cases ran
      exact refl_of later _
    · split at ran
      · rename_i done
        rw [done] at waited
        cases ran
        exact waited
      · rename_i canceled
        rw [canceled] at waited
        cases ran
        exact waited
      · rename_i error next failed
        rw [failed] at waited
        have read := advances.now next
        split at ran
        · cases ran
          exact waited
        · split at ran
          · split at ran
            · cases ran
              exact trans_of later waited read
            · exact trans_of later (trans_of later waited read) (ih ran)
          · exact trans_of later waited (ih ran)

theorem collectJobs_advances (advances : around.Advances later) {slices : Nat} {waitTimeout : Int64} {jobs : List Job}
    {histogram : List (Option Counts)} {s after : σ} {outcome : Except Error (List (Option Counts))}
    (ran : collectJobs around slices waitTimeout jobs histogram s = some (outcome, after)) : later s after := by
  induction jobs generalizing histogram s with
  | nil =>
    cases ran
    exact refl_of later _
  | cons job rest ih =>
    have started := advances.now s
    simp only [collectJobs] at ran
    split at ran
    · cases ran
    · rename_i awaited
      cases ran
      exact trans_of later started (awaitJob_advances advances awaited)
    · rename_i next awaited
      have waited := trans_of later started (awaitJob_advances advances awaited)
      have counted := advances.counts job next
      split at ran
      · rename_i failed
        rw [failed] at counted
        cases ran
        exact trans_of later waited counted
      · rename_i read
        rw [read] at counted
        exact trans_of later (trans_of later waited counted) (ih ran)

theorem collectQuantumResult_advances (advances : around.Advances later) {slices : Nat} {jobs : List Job}
    {waitTimeout : Int64} {s after : σ} {outcome : Except Error QuantumResult}
    (ran : collectQuantumResult around slices task jobs waitTimeout s = some (outcome, after)) : later s after := by
  unfold collectQuantumResult at ran
  split at ran
  · cases ran
  · rename_i collected
    cases ran
    exact collectJobs_advances advances collected
  · rename_i collected
    cases ran
    exact collectJobs_advances advances collected

theorem executeQuantumTask_advances (advances : around.Advances later) {slices : Nat} {waitTimeout : Int64}
    {s after : σ} {outcome : Except Error QuantumResult}
    (ran : executeQuantumTask around slices task waitTimeout s = some (outcome, after)) : later s after := by
  have submitted := submitQuantumTask_advances advances task s
  unfold executeQuantumTask at ran
  split at ran
  · rename_i failed
    rw [failed] at submitted
    cases ran
    exact submitted
  · rename_i taken
    rw [taken] at submitted
    exact trans_of later submitted (collectQuantumResult_advances advances ran)

end Runs

/-- Once the flag is up it stays up. -/
def Surroundings.StaysUp (around : Surroundings σ) (s t : σ) : Prop :=
  around.terminationFlag s = true → around.terminationFlag t = true

instance (around : Surroundings σ) : IsPreorder σ around.StaysUp where
  refl _ up := up
  trans _ _ _ first second up := second (first up)

theorem Surroundings.Latched.staysUp {around : Surroundings σ} (latched : around.Latched) :
    around.Advances around.StaysUp :=
  ⟨latched.children, latched.submitJob, latched.cancel, latched.wait, latched.counts, latched.now⟩

end Qrmci
