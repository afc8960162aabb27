import Mathlib.Data.List.Forall2
import Qrmci.Durations
import Qrmci.Runners.Submit

namespace Qrmci

/-- `(*protoCounts)[key] = value`. -/
def assignCount (key : String) (value : Int32) : ResultCounts → ResultCounts
  | [] => [(key, value)]
  | (other, old) :: rest => if other = key then (key, value) :: rest else (other, old) :: assignCount key value rest

def int32Max : UInt64 := 2147483647

/-- The check of one histogram entry, for the circuit at `index`. -/
def checkCounts (index : Nat) : Counts → Except Error Unit
  | [] => .ok ()
  | (key, value) :: rest =>
    if value > int32Max then
      .error ⟨.deviceError, "Execution failed: count for '" ++ key ++ "' in circuit " ++ toString index ++
        " is " ++ toString value ++ ", which exceeds the wire format's INT32_MAX limit."⟩
    else checkCounts index rest

def checkHistogram : Nat → List (Option Counts) → Except Error Unit
  | _, [] => .ok ()
  | index, none :: _ =>
    .error ⟨.deviceError, "Execution failed: circuit " ++ toString index ++ " produced no result."⟩
  | index, some counts :: rest =>
    match checkCounts index counts with
    | .error error => .error error
    | .ok () => checkHistogram (index + 1) rest

/-- The second pass: a narrowing copy of every entry, which the first pass found present. -/
def narrowCounts (entry : Option Counts) : ResultCounts :=
  (entry.getD []).foldl (fun narrowed pair => assignCount pair.1 pair.2.toUInt32.toInt32 narrowed) []

def buildQuantumResult (task : QuantumTask) (histogram : List (Option Counts)) : Except Error QuantumResult :=
  let expectedCircuits := task.circuitFiles.length
  if histogram.length ≠ expectedCircuits then
    .error ⟨.deviceError, "Execution failed: expected " ++ toString expectedCircuits ++
      " circuit result(s), got " ++ toString histogram.length ++ "."⟩
  else
    match checkHistogram 0 histogram with
    | .error error => .error error
    | .ok () => .ok {
        taskId := task.taskId
        destination := task.resultDestination
        executedQpu := task.scheduledQpu
        executionStatus := true
        additionalInformation := "COMPLETED"
        results := histogram.map narrowCounts }

def cancelQuantumTask (task : QuantumTask) (cancelReason : String) : QuantumResult where
  taskId := task.taskId
  destination := task.resultDestination
  executedQpu := task.scheduledQpu
  executionStatus := false
  additionalInformation := "CANCELLED: " ++ cancelReason
  results := []

def nanosPerSecond : Int := 1000000000

variable {σ : Type}

/-- The wait loop of one job, for as many slices as the fuel allows. `none` means that it has not
returned by then; `waitTimeout` is in seconds, and zero waits for ever. -/
def awaitJob (around : Surroundings σ) (waitTimeout : Int64) (job : Job) (waitStarted : Time) :
    Nat → σ → Option (Except Error Unit × σ)
  | 0, _ => none
  | slices + 1, s =>
    if around.terminationFlag s then
      some (.error ⟨.shutdownRequested, "Shutdown requested while collecting a result."⟩, s)
    else
      match around.wait job s with
      | (.ok .done, after) => some (.ok (), after)
      | (.ok .canceled, after) =>
        some (.error ⟨.deviceError, "Job finished without producing a result (canceled)."⟩, after)
      | (.error error, after) =>
        if error.code ≠ .timeout then some (.error (toQrmciError .deviceError error), after)
        else if 0 < waitTimeout then
          let read := around.now after
          if elapsedReaches (read.1 - waitStarted) waitTimeout then
            some (.error ⟨.deviceError, "Job did not finish within the configured wait timeout."⟩, read.2)
          else awaitJob around waitTimeout job waitStarted slices read.2
        else awaitJob around waitTimeout job waitStarted slices after

/-- The loop over the jobs; `slices` bounds the waits on each of them. -/
def collectJobs (around : Surroundings σ) (slices : Nat) (waitTimeout : Int64) :
    List Job → List (Option Counts) → σ → Option (Except Error (List (Option Counts)) × σ)
  | [], histogram, s => some (.ok histogram, s)
  | job :: rest, histogram, s =>
    let started := around.now s
    match awaitJob around waitTimeout job started.1 slices started.2 with
    | none => none
    | some (.error error, after) => some (.error error, after)
    | some (.ok (), after) =>
      match around.counts job after with
      | (.error error, after) => some (.error (toQrmciError .deviceError error), after)
      | (.ok counts, after) => collectJobs around slices waitTimeout rest (histogram ++ [some counts]) after

def collectQuantumResult (around : Surroundings σ) (slices : Nat) (task : QuantumTask) (jobs : List Job)
    (waitTimeout : Int64) (s : σ) : Option (Except Error QuantumResult × σ) :=
  match collectJobs around slices waitTimeout jobs [] s with
  | none => none
  | some (.error error, after) => some (.error error, after)
  | some (.ok histogram, after) => some (buildQuantumResult task histogram, after)

def executeQuantumTask (around : Surroundings σ) (slices : Nat) (task : QuantumTask) (waitTimeout : Int64) (s : σ) :
    Option (Except Error QuantumResult × σ) :=
  match submitQuantumTask around task s with
  | (.error error, after) => some (.error error, after)
  | (.ok jobs, after) => collectQuantumResult around slices task jobs waitTimeout after

variable {around : Surroundings σ} {task : QuantumTask}

theorem checkCounts_ok_iff {index : Nat} {counts : Counts} :
    checkCounts index counts = .ok () ↔ ∀ entry ∈ counts, entry.2 ≤ int32Max := by
  induction counts with
  | nil => simp [checkCounts]
  | cons entry rest ih =>
    rw [List.forall_mem_cons, checkCounts]
    split
    · rename_i large
      exact ⟨nofun, fun all => absurd large (UInt64.not_lt.mpr all.1)⟩
    · rename_i fits
      rw [ih]
      exact ⟨fun rest => ⟨UInt64.not_lt.mp fits, rest⟩, fun all => all.2⟩

theorem checkHistogram_ok_iff (index : Nat) {read : List Counts} :
    checkHistogram index (read.map some) = .ok () ↔ ∀ counts ∈ read, ∀ entry ∈ counts, entry.2 ≤ int32Max := by
  induction read generalizing index with
  | nil => simp [checkHistogram]
  | cons counts rest ih =>
    rw [List.forall_mem_cons, ← checkCounts_ok_iff, List.map_cons, checkHistogram]
    cases checked : checkCounts index counts with
    | error error => simp
    | ok => simp [ih]

theorem assignCount_new {key : String} {value : Int32} {counts : ResultCounts} (new : key ∉ counts.map Prod.fst) :
    assignCount key value counts = counts ++ [(key, value)] := by
  induction counts with
  | nil => rfl
  | cons entry rest ih =>
    rw [List.map_cons, List.mem_cons, not_or] at new
    rw [assignCount, if_neg (Ne.symm new.1), ih new.2, List.cons_append]

/-- Copying entry by entry keeps a map of distinct keys as it is. -/
theorem foldl_assignCount {counts : Counts} {narrowed : ResultCounts}
    (distinct : (narrowed.map Prod.fst ++ counts.map Prod.fst).Nodup) :
    counts.foldl (fun narrowed entry => assignCount entry.1 entry.2.toUInt32.toInt32 narrowed) narrowed =
      narrowed ++ counts.map fun entry => (entry.1, entry.2.toUInt32.toInt32) := by
  induction counts generalizing narrowed with
  | nil => simp
  | cons entry rest ih =>
    have new : entry.1 ∉ narrowed.map Prod.fst := by
      intro member
      exact (List.nodup_append.mp distinct).2.2 _ member _ (List.mem_cons_self ..) rfl
    have grown : ((narrowed ++ [(entry.1, entry.2.toUInt32.toInt32)]).map Prod.fst ++ rest.map Prod.fst).Nodup := by
      simpa using distinct
    rw [List.foldl_cons, assignCount_new new, ih grown, List.map_cons, List.append_assoc, List.singleton_append]

/-- A count that passed the check is copied without loss. -/
theorem narrow_toInt {value : UInt64} (fits : value ≤ int32Max) : value.toUInt32.toInt32.toInt = value.toNat := by
  have bound : value.toNat ≤ 2147483647 := UInt64.le_iff_toNat_le.mp fits
  have bits : value.toUInt32.toInt32.toBitVec.toNat = value.toNat := by
    rw [UInt32.toBitVec_toInt32, UInt32.toNat_toBitVec, UInt64.toNat_toUInt32]
    omega
  rw [← Int32.toInt_toBitVec, BitVec.toInt_eq_toNat_cond, bits]
  split <;> omega

/-- The two maps have the same keys and the same values under them. -/
def HoldsCounts (narrowed : ResultCounts) (counts : Counts) : Prop :=
  (counts.map Prod.fst).Nodup →
    narrowed.map (fun entry => (entry.1, entry.2.toInt)) = counts.map fun entry => (entry.1, (entry.2.toNat : Int))

theorem narrowCounts_holds {counts : Counts} (fits : ∀ entry ∈ counts, entry.2 ≤ int32Max) :
    HoldsCounts (narrowCounts (some counts)) counts := by
  intro distinct
  rw [narrowCounts, Option.getD_some, foldl_assignCount (by simpa using distinct), List.nil_append, List.map_map]
  refine List.map_congr_left ?_
  intro entry member
  simp only [Function.comp_apply, narrow_toInt (fits entry member)]

/-- When a result is built from counts that were all read, and what it holds then. -/
theorem buildQuantumResult_read_iff {task : QuantumTask} {read : List Counts} :
    (∃ built, buildQuantumResult task (read.map some) = .ok built) ↔
      read.length = task.circuitFiles.length ∧ ∀ counts ∈ read, ∀ entry ∈ counts, entry.2 ≤ int32Max := by
  rw [← checkHistogram_ok_iff 0, buildQuantumResult]
  by_cases length : read.length = task.circuitFiles.length
  · simp only [List.length_map, length, ne_eq, not_true_eq_false, if_false, true_and]
    cases checkHistogram 0 (read.map some) <;> simp
  · simp [length]

theorem buildQuantumResult_results {task : QuantumTask} {read : List Counts} {built : QuantumResult}
    (done : buildQuantumResult task (read.map some) = .ok built) :
    List.Forall₂ HoldsCounts built.results read := by
  have fits := (buildQuantumResult_read_iff.mp ⟨built, done⟩).2
  have results : built.results = (read.map some).map narrowCounts := by
    simp only [buildQuantumResult] at done
    split at done
    · cases done
    · split at done
      · cases done
      · cases done
        rfl
  rw [results, List.map_map, List.forall₂_map_left_iff, List.forall₂_same]
  intro counts member
  exact narrowCounts_holds (fits counts member)

theorem checkCounts_error_kind {index : Nat} {counts : Counts} {error : Error}
    (failed : checkCounts index counts = .error error) : error.kind = .deviceError := by
  induction counts with
  | nil => cases failed
  | cons pair rest ih =>
    simp only [checkCounts] at failed
    split at failed
    · cases failed
      rfl
    · exact ih failed

theorem checkHistogram_error_kind {index : Nat} {histogram : List (Option Counts)} {error : Error}
    (failed : checkHistogram index histogram = .error error) : error.kind = .deviceError := by
  induction histogram generalizing index with
  | nil => cases failed
  | cons entry rest ih =>
    cases entry with
    | none =>
      cases failed
      rfl
    | some counts =>
      simp only [checkHistogram] at failed
      split at failed
      · rename_i large
        cases failed
        exact checkCounts_error_kind large
      · exact ih failed

theorem buildQuantumResult_error_kind {histogram : List (Option Counts)} {error : Error}
    (failed : buildQuantumResult task histogram = .error error) : error.kind = .deviceError := by
  simp only [buildQuantumResult] at failed
  split at failed
  · cases failed
    rfl
  · split at failed
    · rename_i invalid
      cases failed
      exact checkHistogram_error_kind invalid
    · cases failed

/-- A built result is addressed and labelled by the task it belongs to. -/
theorem buildQuantumResult_ok {histogram : List (Option Counts)} {result : QuantumResult}
    (built : buildQuantumResult task histogram = .ok result) :
    result.taskId = task.taskId ∧ result.destination = task.resultDestination ∧
      result.executedQpu = task.scheduledQpu ∧ result.executionStatus = true := by
  simp only [buildQuantumResult] at built
  split at built
  · cases built
  · split at built
    · cases built
    · cases built
      exact ⟨rfl, rfl, rfl, rfl⟩

/-- Waiting reports a shutdown only after it has read the flag as set. -/
theorem awaitJob_shutdown {waitTimeout : Int64} {job : Job} {waitStarted : Time}
    {slices : Nat} {s after : σ} {error : Error}
    (run : awaitJob around waitTimeout job waitStarted slices s = some (.error error, after))
    (kind : error.kind = .shutdownRequested) : around.terminationFlag after = true := by
  induction slices generalizing s with
  | zero => cases run
  | succ slices ih =>
    simp only [awaitJob] at run
    split at run
    · rename_i raised
      cases run
      exact raised
    · split at run
      · cases run
      · cases run
        cases kind
      · split at run
        · cases run
          cases kind
        · split at run
          · split at run
            · cases run
              cases kind
            · exact ih run
          · exact ih run

theorem collectJobs_shutdown {slices : Nat} {waitTimeout : Int64} {jobs : List Job}
    {histogram : List (Option Counts)} {s after : σ} {error : Error}
    (run : collectJobs around slices waitTimeout jobs histogram s = some (.error error, after))
    (kind : error.kind = .shutdownRequested) : around.terminationFlag after = true := by
  induction jobs generalizing histogram s with
  | nil => cases run
  | cons job rest ih =>
    simp only [collectJobs] at run
    split at run
    · cases run
    · rename_i waited
      cases run
      exact awaitJob_shutdown waited kind
    · split at run
      · cases run
        cases kind
      · exact ih run

theorem collectQuantumResult_shutdown {slices : Nat} {jobs : List Job} {waitTimeout : Int64}
    {s after : σ} {error : Error}
    (run : collectQuantumResult around slices task jobs waitTimeout s = some (.error error, after))
    (kind : error.kind = .shutdownRequested) : around.terminationFlag after = true := by
  unfold collectQuantumResult at run
  split at run
  · cases run
  · rename_i collected
    cases run
    exact collectJobs_shutdown collected kind
  · simp only [Option.some.injEq, Prod.mk.injEq] at run
    rw [buildQuantumResult_error_kind run.1] at kind
    cases kind

theorem collectQuantumResult_ok {slices : Nat} {jobs : List Job} {waitTimeout : Int64} {s after : σ}
    {result : QuantumResult}
    (run : collectQuantumResult around slices task jobs waitTimeout s = some (.ok result, after)) :
    result.taskId = task.taskId ∧ result.destination = task.resultDestination ∧
      result.executedQpu = task.scheduledQpu ∧ result.executionStatus = true := by
  unfold collectQuantumResult at run
  split at run
  · cases run
  · cases run
  · simp only [Option.some.injEq, Prod.mk.injEq] at run
    exact buildQuantumResult_ok run.1

theorem executeQuantumTask_shutdown (latched : around.Latched) {slices : Nat} {waitTimeout : Int64} {s after : σ}
    {error : Error} (run : executeQuantumTask around slices task waitTimeout s = some (.error error, after))
    (kind : error.kind = .shutdownRequested) : around.terminationFlag after = true := by
  unfold executeQuantumTask at run
  split at run
  · rename_i stopped
    cases run
    exact submitQuantumTask_shutdown latched stopped kind
  · exact collectQuantumResult_shutdown run kind

theorem executeQuantumTask_ok {slices : Nat} {waitTimeout : Int64} {s after : σ} {result : QuantumResult}
    (run : executeQuantumTask around slices task waitTimeout s = some (.ok result, after)) :
    result.taskId = task.taskId ∧ result.destination = task.resultDestination ∧
      result.executedQpu = task.scheduledQpu ∧ result.executionStatus = true := by
  unfold executeQuantumTask at run
  split at run
  · cases run
  · exact collectQuantumResult_ok run

end Qrmci
