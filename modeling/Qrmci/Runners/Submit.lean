import Qrmci.Runners.Device

namespace Qrmci

variable {σ : Type}

/-- Cancelling is best effort: what each cancel returns is only logged. -/
def cancelJobs (around : Surroundings σ) : List Job → σ → σ
  | [], s => s
  | submitted :: rest, s => cancelJobs around rest (around.cancel submitted s).2

/-- The submission loop, entered with `remaining` circuits to go. -/
def submitCircuits (around : Surroundings σ) (task : QuantumTask) (format : CircuitFormat) (placement : Placement) :
    Nat → Nat → List Job → σ → Except Error (List Job) × σ
  | 0, _, jobs, s => (.ok jobs, s)
  | remaining + 1, circuitIndex, jobs, s =>
    if around.terminationFlag s then
      (.error ⟨.shutdownRequested, "Shutdown requested during task submission."⟩, cancelJobs around jobs s)
    else
      match around.submitJob (makeJobRequest task circuitIndex format) placement s with
      | (.error error, after) => (.error (toQrmciError .submissionFailed error), after)
      | (.ok job, after) => submitCircuits around task format placement remaining (circuitIndex + 1) (jobs ++ [job]) after

/-- The first child if there is one, else the device itself; an unsupported discovery counts as
no children. -/
def choosePlacement : Except SubmitterError (List Child) → Except Error Placement
  | .ok [] => .ok .self
  | .ok (first :: _) => .ok (.on first)
  | .error error =>
    if error.code = .notSupported then .ok .self else .error (toQrmciError .submissionFailed error)

def submitQuantumTask (around : Surroundings σ) (task : QuantumTask) (s : σ) : Except Error (List Job) × σ :=
  match validateSubmission task with
  | .error error => (.error error, s)
  | .ok format =>
    let discovered := around.children s
    match choosePlacement discovered.1 with
    | .error error => (.error error, discovered.2)
    | .ok placement => submitCircuits around task format placement task.circuitFiles.length 0 [] discovered.2

variable {around : Surroundings σ} {task : QuantumTask}

theorem cancelJobs_latched (latched : around.Latched) {jobs : List Job} {s : σ}
    (raised : around.terminationFlag s = true) : around.terminationFlag (cancelJobs around jobs s) = true := by
  induction jobs generalizing s with
  | nil => exact raised
  | cons submitted rest ih => exact ih (latched.cancel submitted s raised)

/-- Submission reports a shutdown only after it has read the flag as set. -/
theorem submitCircuits_shutdown (latched : around.Latched) {format : CircuitFormat} {placement : Placement}
    {remaining circuitIndex : Nat} {jobs : List Job} {s after : σ} {error : Error}
    (run : submitCircuits around task format placement remaining circuitIndex jobs s = (.error error, after))
    (kind : error.kind = .shutdownRequested) : around.terminationFlag after = true := by
  induction remaining generalizing circuitIndex jobs s with
  | zero => cases run
  | succ remaining ih =>
    simp only [submitCircuits] at run
    split at run
    · rename_i raised
      cases run
      exact cancelJobs_latched latched raised
    · split at run
      · cases run
        cases kind
      · exact ih run

theorem choosePlacement_error_kind {discovered : Except SubmitterError (List Child)} {error : Error}
    (failed : choosePlacement discovered = .error error) : error.kind = .submissionFailed := by
  unfold choosePlacement at failed
  split at failed
  · cases failed
  · cases failed
  · split at failed
    · cases failed
    · cases failed
      rfl

theorem submitQuantumTask_shutdown (latched : around.Latched) {s after : σ} {error : Error}
    (run : submitQuantumTask around task s = (.error error, after))
    (kind : error.kind = .shutdownRequested) : around.terminationFlag after = true := by
  unfold submitQuantumTask at run
  split at run
  · rename_i refused
    cases run
    rw [validateSubmission_error_kind refused] at kind
    cases kind
  · dsimp only at run
    split at run
    · rename_i refused
      cases run
      rw [choosePlacement_error_kind refused] at kind
      cases kind
    · exact submitCircuits_shutdown latched run kind

end Qrmci
