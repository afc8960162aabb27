import Qrmci.Runners.Collect
import Qrmci.Runners.Events

namespace Qrmci

def shutdownWhileCollecting : Error := ⟨.shutdownRequested, "Shutdown requested while collecting a result."⟩

def jobCanceled : Error := ⟨.deviceError, "Job finished without producing a result (canceled)."⟩

def deadlineMissed : Error := ⟨.deviceError, "Job did not finish within the configured wait timeout."⟩

/-- After how many nanoseconds the wait loop gives a job up: the timeout as the comparison converts it. -/
def waitDeadline (waitTimeout : Int64) : Option Int :=
  if 0 < waitTimeout then some (secondsToNanoseconds waitTimeout).toInt else none

/-- After how many it is to: the timeout itself. -/
def exactDeadline (waitTimeout : Int64) : Option Int :=
  if 0 < waitTimeout then some (waitTimeout.toInt * nanosPerSecond) else none

/-- What the wait for one job looks like, from its start to its end. Before each slice the flag is read; a
slice that times out is followed by another one unless there is a deadline that has passed since the start. -/
inductive WaitTrace (deadline : Option Int) (job : Job) (started : Time) : List Event → Except Error Unit → Prop
  | done : WaitTrace deadline job started [.flag false, .wait job (.ok .done)] (.ok ())
  | shutdown : WaitTrace deadline job started [.flag true] (.error shutdownWhileCollecting)
  | canceled : WaitTrace deadline job started [.flag false, .wait job (.ok .canceled)] (.error jobCanceled)
  | failed (error : SubmitterError) : error.code ≠ .timeout →
      WaitTrace deadline job started [.flag false, .wait job (.error error)]
        (.error (toQrmciError .deviceError error))
  | expired (error : SubmitterError) (limit : Int) (reading : Time) : error.code = .timeout → deadline = some limit →
      limit ≤ reading - started →
      WaitTrace deadline job started [.flag false, .wait job (.error error), .now reading] (.error deadlineMissed)
  | slice (error : SubmitterError) (limit : Int) (reading : Time) {rest : List Event} {outcome : Except Error Unit} :
      error.code = .timeout → deadline = some limit → reading - started < limit →
      WaitTrace deadline job started rest outcome →
      WaitTrace deadline job started (.flag false :: .wait job (.error error) :: .now reading :: rest) outcome
  | unboundedSlice (error : SubmitterError) {rest : List Event} {outcome : Except Error Unit} :
      error.code = .timeout → deadline = none → WaitTrace deadline job started rest outcome →
      WaitTrace deadline job started (.flag false :: .wait job (.error error) :: rest) outcome

/-- What a collection looks like: one job after the other is waited for and then read, up to the first
fault. The clock is read before the first wait on each job. -/
inductive CollectionTrace (deadline : Option Int) : List Job → List Event → Except Error (List Counts) → Prop
  | done : CollectionTrace deadline [] [] (.ok [])
  | stopped {job : Job} {rest : List Job} (started : Time) {waits : List Event} {error : Error} :
      WaitTrace deadline job started waits (.error error) →
      CollectionTrace deadline (job :: rest) (.now started :: waits) (.error error)
  | unread {job : Job} {rest : List Job} (started : Time) {waits : List Event} (error : SubmitterError) :
      WaitTrace deadline job started waits (.ok ()) →
      CollectionTrace deadline (job :: rest) (.now started :: waits ++ [.counts job (.error error)])
        (.error (toQrmciError .deviceError error))
  | read {job : Job} {rest : List Job} (started : Time) {waits later : List Event} (counts : Counts)
      {outcome : Except Error (List Counts)} :
      WaitTrace deadline job started waits (.ok ()) → CollectionTrace deadline rest later outcome →
      CollectionTrace deadline (job :: rest) (.now started :: waits ++ .counts job (.ok counts) :: later)
        (outcome.map (counts :: ·))

def Event.isWaitOn (job : Job) : Event → Bool
  | .wait other _ => other == job
  | _ => false

/-- The number of waits on a job. -/
def waitsOn (job : Job) (events : List Event) : Nat := events.countP (Event.isWaitOn job)

variable {σ : Type} {around : Surroundings σ} {waitTimeout : Int64} {deadline : Option Int} {job : Job}
  {waitStarted : Time}

theorem waitDeadline_eq (bounded : 0 < waitTimeout) :
    waitDeadline waitTimeout = some (secondsToNanoseconds waitTimeout).toInt := if_pos bounded

theorem waitDeadline_none (unbounded : ¬ 0 < waitTimeout) : waitDeadline waitTimeout = none := if_neg unbounded

/-- Compared exactly, a timeout is the deadline it is to be. -/
theorem ComparedExactly.sameDeadline (exact : ComparedExactly waitTimeout) :
    waitDeadline waitTimeout = exactDeadline waitTimeout := by
  unfold waitDeadline exactDeadline
  split
  · rename_i bounded
    have positive : 0 < waitTimeout.toInt := Int64.lt_iff_toInt_lt.mp bounded
    rw [(secondsToNanoseconds_exact positive.le).mpr (comparedExactly_iff.mp exact), nanosPerSecond]
  · rfl

theorem waitsOn_cons (other : Job) (event : Event) (rest : List Event) :
    waitsOn other (event :: rest) = waitsOn other rest + if event.isWaitOn other then 1 else 0 :=
  List.countP_cons

theorem waitsOn_append (other : Job) (events later : List Event) :
    waitsOn other (events ++ later) = waitsOn other events + waitsOn other later :=
  List.countP_append

theorem waitsOn_cons_of_quiet {other : Job} {event : Event} (quiet : event.isWaitOn other = false) (rest : List Event) :
    waitsOn other (event :: rest) = waitsOn other rest := by
  rw [waitsOn_cons, quiet]
  rfl

/-- A slice waits once, on its own job. -/
theorem waitsOn_slice {answer : Except SubmitterError JobStatus} {readings : List Event} (other : Job)
    (silent : waitsOn other readings = 0) :
    waitsOn other (.flag false :: .wait job answer :: readings) ≤ [job].count other := by
  simp only [waitsOn_cons, Event.isWaitOn, Bool.false_eq_true, if_false, silent, List.count_singleton,
    Nat.zero_add, Nat.add_zero]
  exact le_rfl

/-- The slice ends the wait: whatever is left of the fuel, it returns with these events. -/
structure SliceReturns (around : Surroundings σ) (waitTimeout : Int64) (job : Job) (waitStarted : Time) (s : σ)
    (events : List Event) (outcome : Except Error Unit) (after : σ) : Prop where
  played : around.Plays s events after
  trace : WaitTrace (waitDeadline waitTimeout) job waitStarted events outcome
  run : ∀ slices, awaitJob around waitTimeout job waitStarted (slices + 1) s = some (outcome, after)
  record : ∀ slices log, awaitJob around.recorded waitTimeout job waitStarted (slices + 1) (s, log) =
    some (outcome, after, log ++ calls events)
  waits : ∀ other, waitsOn other events ≤ [job].count other

/-- The slice times out and the wait goes on; `early` says what the clock has shown if there is a deadline. -/
structure SliceTimesOut (around : Surroundings σ) (waitTimeout : Int64) (job : Job) (waitStarted : Time) (s : σ)
    (events : List Event) (next : σ) : Prop where
  played : around.Plays s events next
  trace : ∀ rest outcome, WaitTrace (waitDeadline waitTimeout) job waitStarted rest outcome →
    WaitTrace (waitDeadline waitTimeout) job waitStarted (events ++ rest) outcome
  run : ∀ slices, awaitJob around waitTimeout job waitStarted (slices + 1) s =
    awaitJob around waitTimeout job waitStarted slices next
  record : ∀ slices log, awaitJob around.recorded waitTimeout job waitStarted (slices + 1) (s, log) =
    awaitJob around.recorded waitTimeout job waitStarted slices (next, log ++ calls events)
  waits : ∀ other, waitsOn other events ≤ [job].count other
  early : 0 < waitTimeout → ∃ error middle reading, error.code = .timeout ∧
    around.wait job s = (.error error, middle) ∧ around.now middle = (reading, next) ∧
    elapsedReaches (reading - waitStarted) waitTimeout = false

/-- What one slice of the wait loop can do. -/
theorem awaitJob_slice (around : Surroundings σ) (waitTimeout : Int64) (job : Job) (waitStarted : Time) (s : σ) :
    (∃ events outcome after, SliceReturns around waitTimeout job waitStarted s events outcome after) ∨
      ∃ events next, SliceTimesOut around waitTimeout job waitStarted s events next := by
  cases raised : around.terminationFlag s with
  | true =>
    refine Or.inl ⟨[.flag true], .error shutdownWhileCollecting, s, ⟨s, ⟨raised, rfl⟩, rfl⟩, .shutdown, ?_, ?_,
      fun other => Nat.zero_le _⟩
    · simp [awaitJob, raised, shutdownWhileCollecting]
    · simp [awaitJob, raised, shutdownWhileCollecting, Event.isCall]
  | false =>
    cases asked : around.wait job s with
    | mk answer next =>
      cases answer with
      | ok status =>
        cases status with
        | done =>
          refine Or.inl ⟨[.flag false, .wait job (.ok .done)], .ok (), next,
            ⟨s, ⟨raised, rfl⟩, next, asked, rfl⟩, .done, ?_, ?_, fun other => waitsOn_slice other rfl⟩
          · simp [awaitJob, raised, asked]
          · simp [awaitJob, raised, asked, Event.isCall]
        | canceled =>
          refine Or.inl ⟨[.flag false, .wait job (.ok .canceled)], .error jobCanceled, next,
            ⟨s, ⟨raised, rfl⟩, next, asked, rfl⟩, .canceled, ?_, ?_, fun other => waitsOn_slice other rfl⟩
          · simp [awaitJob, raised, asked, jobCanceled]
          · simp [awaitJob, raised, asked, jobCanceled, Event.isCall]
      | error error =>
        by_cases late : error.code = .timeout
        · by_cases bounded : 0 < waitTimeout
          · cases read : around.now next with
            | mk reading later =>
              cases reached : elapsedReaches (reading - waitStarted) waitTimeout with
              | true =>
                have passed : (secondsToNanoseconds waitTimeout).toInt ≤ reading - waitStarted := by
                  simpa [elapsedReaches] using reached
                refine Or.inl ⟨[.flag false, .wait job (.error error), .now reading], .error deadlineMissed, later,
                  ⟨s, ⟨raised, rfl⟩, next, asked, later, read, rfl⟩,
                  .expired error _ reading late (waitDeadline_eq bounded) passed, ?_, ?_,
                  fun other => waitsOn_slice other rfl⟩
                · simp [awaitJob, raised, asked, late, bounded, read, reached, deadlineMissed]
                · simp [awaitJob, raised, asked, late, bounded, read, reached, deadlineMissed, Event.isCall]
              | false =>
                have early : reading - waitStarted < (secondsToNanoseconds waitTimeout).toInt := by
                  simpa [elapsedReaches] using reached
                refine Or.inr ⟨[.flag false, .wait job (.error error), .now reading], later,
                  ⟨s, ⟨raised, rfl⟩, next, asked, later, read, rfl⟩, ?_, ?_, ?_,
                  fun other => waitsOn_slice other rfl, ?_⟩
                · intro rest outcome trace
                  exact .slice error _ reading late (waitDeadline_eq bounded) early trace
                · simp [awaitJob, raised, asked, late, bounded, read, reached]
                · simp [awaitJob, raised, asked, late, bounded, read, reached, Event.isCall]
                · exact fun _ => ⟨error, next, reading, late, asked, read, reached⟩
          · refine Or.inr ⟨[.flag false, .wait job (.error error)], next, ⟨s, ⟨raised, rfl⟩, next, asked, rfl⟩,
              ?_, ?_, ?_, fun other => waitsOn_slice other rfl, fun positive => absurd positive bounded⟩
            · intro rest outcome trace
              exact .unboundedSlice error late (waitDeadline_none bounded) trace
            · simp [awaitJob, raised, asked, late, bounded]
            · simp [awaitJob, raised, asked, late, bounded, Event.isCall]
        · refine Or.inl ⟨[.flag false, .wait job (.error error)], .error (toQrmciError .deviceError error), next,
            ⟨s, ⟨raised, rfl⟩, next, asked, rfl⟩, .failed error late, ?_, ?_, fun other => waitsOn_slice other rfl⟩
          · simp [awaitJob, raised, asked, late]
          · simp [awaitJob, raised, asked, late, Event.isCall]

/-- A wait that returns within its slices has a trace with no more waits than slices. -/
theorem awaitJob_events {slices : Nat} {s after : σ} {outcome : Except Error Unit}
    (run : awaitJob around waitTimeout job waitStarted slices s = some (outcome, after)) :
    ∃ events, around.Plays s events after ∧
      (∀ log, awaitJob around.recorded waitTimeout job waitStarted slices (s, log) =
        some (outcome, after, log ++ calls events)) ∧
      WaitTrace (waitDeadline waitTimeout) job waitStarted events outcome ∧
      ∀ other, waitsOn other events ≤ slices * [job].count other := by
  induction slices generalizing s with
  | zero => cases run
  | succ slices ih =>
    rcases awaitJob_slice around waitTimeout job waitStarted s with
      ⟨events, returned, final, slice⟩ | ⟨events, next, slice⟩
    · rw [slice.run slices] at run
      cases run
      refine ⟨events, slice.played, slice.record slices, slice.trace, ?_⟩
      intro other
      have one := slice.waits other
      rw [Nat.succ_mul]
      omega
    · rw [slice.run slices] at run
      obtain ⟨later, played, record, trace, waits⟩ := ih run
      refine ⟨events ++ later, slice.played.append played, ?_, slice.trace later outcome trace, ?_⟩
      · intro log
        rw [slice.record slices log, record, calls_append, List.append_assoc]
      · intro other
        have one := slice.waits other
        have more := waits other
        rw [waitsOn_append, Nat.succ_mul]
        omega

/-- A wait that returns within some slices returns the same within more. -/
theorem awaitJob_mono {slices more : Nat} {s : σ} {result : Except Error Unit × σ} (enough : slices ≤ more)
    (run : awaitJob around waitTimeout job waitStarted slices s = some result) :
    awaitJob around waitTimeout job waitStarted more s = some result := by
  induction slices generalizing s more with
  | zero => cases run
  | succ slices ih =>
    obtain ⟨more, rfl⟩ : ∃ fewer, more = fewer + 1 := ⟨more - 1, by omega⟩
    rcases awaitJob_slice around waitTimeout job waitStarted s with ⟨_, _, _, slice⟩ | ⟨_, next, slice⟩
    · rw [slice.run slices] at run
      rw [slice.run more, run]
    · rw [slice.run slices] at run
      rw [slice.run more]
      exact ih (by omega) run

/-- A collection that returns within its slices has a trace with no more waits on each job than slices. -/
theorem collectJobs_events {slices : Nat} {jobs : List Job} {histogram : List (Option Counts)} {s after : σ}
    {result : Except Error (List (Option Counts))}
    (run : collectJobs around slices waitTimeout jobs histogram s = some (result, after)) :
    ∃ events outcome, around.Plays s events after ∧
      (∀ log, collectJobs around.recorded slices waitTimeout jobs histogram (s, log) =
        some (result, after, log ++ calls events)) ∧
      CollectionTrace (waitDeadline waitTimeout) jobs events outcome ∧
      result = outcome.map (fun read => histogram ++ read.map some) ∧
      ∀ other, waitsOn other events ≤ slices * jobs.count other := by
  induction jobs generalizing histogram s with
  | nil =>
    cases run
    exact ⟨[], .ok [], rfl, fun log => by simp [collectJobs], .done, by simp [Except.map], fun other => Nat.zero_le _⟩
  | cons job rest ih =>
    cases began : around.now s with
    | mk started begun =>
      simp only [collectJobs, began] at run
      cases waited : awaitJob around waitTimeout job started slices begun with
      | none =>
        rw [waited] at run
        cases run
      | some ended =>
        obtain ⟨outcome, next⟩ := ended
        obtain ⟨waits, played, record, trace, few⟩ := awaitJob_events waited
        have fewer : ∀ other, waitsOn other waits + slices * rest.count other ≤ slices * (job :: rest).count other := by
          intro other
          have own := few other
          have apart : (job :: rest).count other = [job].count other + rest.count other := by
            rw [← List.singleton_append, List.count_append]
          rw [apart, Nat.mul_add]
          omega
        rw [waited] at run
        cases outcome with
        | error error =>
          cases run
          refine ⟨.now started :: waits, .error error, ⟨begun, began, played⟩, ?_, .stopped started trace, rfl, ?_⟩
          · intro log
            simp [collectJobs, began, record, Event.isCall]
          · intro other
            have bound := fewer other
            rw [waitsOn_cons_of_quiet rfl]
            omega
        | ok =>
          cases fetched : around.counts job next with
          | mk answer later =>
            simp only [fetched] at run
            cases answer with
            | error error =>
              cases run
              refine ⟨.now started :: waits ++ [.counts job (.error error)], _, ?_, ?_, .unread started error trace,
                rfl, ?_⟩
              · exact ⟨begun, began, played.append ⟨after, fetched, rfl⟩⟩
              · intro log
                simp [collectJobs, began, record, fetched, Event.isCall]
              · intro other
                have bound := fewer other
                have silent : waitsOn other [] = 0 := rfl
                rw [waitsOn_append, waitsOn_cons_of_quiet rfl, waitsOn_cons_of_quiet rfl]
                omega
            | ok counts =>
              obtain ⟨events, outcome, playedRest, recordRest, traceRest, same, waitsRest⟩ := ih run
              refine ⟨.now started :: waits ++ .counts job (.ok counts) :: events, _, ?_, ?_,
                .read started counts trace traceRest, ?_, ?_⟩
              · exact ⟨begun, began, played.append ⟨later, fetched, playedRest⟩⟩
              · intro log
                simp [collectJobs, began, record, fetched, recordRest, Event.isCall]
              · rw [same]
                cases outcome with
                | error error => rfl
                | ok read => simp [Except.map]
              · intro other
                have bound := fewer other
                have more := waitsRest other
                rw [waitsOn_append, waitsOn_cons_of_quiet rfl, waitsOn_cons_of_quiet rfl]
                omega

/-- The flag is read as raised exactly if the wait ends for it. -/
theorem WaitTrace.flag_iff {events : List Event} {outcome : Except Error Unit}
    (trace : WaitTrace deadline job waitStarted events outcome) :
    .flag true ∈ events ↔ outcome = .error shutdownWhileCollecting := by
  induction trace with
  | done => simp
  | shutdown => simp
  | canceled => simp [jobCanceled, shutdownWhileCollecting]
  | failed error other => simp [toQrmciError, shutdownWhileCollecting]
  | expired error limit reading => simp [deadlineMissed, shutdownWhileCollecting]
  | slice error limit reading late bounded early rest ih => simpa using ih
  | unboundedSlice error late unbounded rest ih => simpa using ih

theorem WaitTrace.error_kind {events : List Event} {outcome : Except Error Unit} {error : Error}
    (trace : WaitTrace deadline job waitStarted events outcome) (failed : outcome = .error error) :
    error = shutdownWhileCollecting ∨ error.kind = .deviceError := by
  induction trace with
  | done => cases failed
  | shutdown => exact Or.inl (Except.error.inj failed).symm
  | canceled =>
    cases failed
    exact Or.inr rfl
  | failed reported other =>
    cases failed
    exact Or.inr rfl
  | expired reported limit reading =>
    cases failed
    exact Or.inr rfl
  | slice reported limit reading late bounded early rest ih => exact ih failed
  | unboundedSlice reported late unbounded rest ih => exact ih failed

/-- A wait reads no counts, and one that succeeds ends with its job done. -/
theorem WaitTrace.counts_free {events : List Event} {outcome : Except Error Unit}
    (trace : WaitTrace deadline job waitStarted events outcome) :
    (∀ other answer, .counts other answer ∉ events) ∧
      (outcome = .ok () → ∃ earlier, events = earlier ++ [.wait job (.ok .done)]) := by
  induction trace with
  | done => exact ⟨by simp, fun _ => ⟨[.flag false], rfl⟩⟩
  | shutdown => exact ⟨by simp, nofun⟩
  | canceled => exact ⟨by simp, nofun⟩
  | failed error other => exact ⟨by simp, nofun⟩
  | expired error limit reading => exact ⟨by simp, nofun⟩
  | slice error limit reading late bounded early rest ih =>
    refine ⟨by simpa using ih.1, ?_⟩
    intro succeeded
    obtain ⟨earlier, same⟩ := ih.2 succeeded
    exact ⟨.flag false :: .wait job (.error error) :: .now reading :: earlier, by rw [same]; rfl⟩
  | unboundedSlice error late unbounded rest ih =>
    refine ⟨by simpa using ih.1, ?_⟩
    intro succeeded
    obtain ⟨earlier, same⟩ := ih.2 succeeded
    exact ⟨.flag false :: .wait job (.error error) :: earlier, by rw [same]; rfl⟩

theorem CollectionTrace.flag_iff {jobs : List Job} {events : List Event} {outcome : Except Error (List Counts)}
    (trace : CollectionTrace deadline jobs events outcome) :
    .flag true ∈ events ↔ outcome = .error shutdownWhileCollecting := by
  induction trace with
  | done => simp
  | stopped started waited => simpa using waited.flag_iff
  | unread started error waited =>
    have lowered : Event.flag true ∉ _ := mt waited.flag_iff.mp nofun
    simp [lowered, toQrmciError, shutdownWhileCollecting]
  | @read _ _ started _ _ counts outcome waited rest ih =>
    have lowered : Event.flag true ∉ _ := mt waited.flag_iff.mp nofun
    simp only [List.cons_append, List.mem_cons, reduceCtorEq, false_or, List.mem_append, lowered, ih]
    cases outcome <;> simp [Except.map]

theorem CollectionTrace.error_kind {jobs : List Job} {events : List Event} {outcome : Except Error (List Counts)}
    {error : Error} (trace : CollectionTrace deadline jobs events outcome) (failed : outcome = .error error) :
    error = shutdownWhileCollecting ∨ error.kind = .deviceError := by
  induction trace with
  | done => cases failed
  | stopped started waited =>
    cases failed
    exact waited.error_kind rfl
  | unread started reported waited =>
    cases failed
    exact Or.inr rfl
  | @read _ _ started _ _ counts outcome waited rest ih =>
    cases outcome with
    | ok read => cases failed
    | error later =>
      cases failed
      exact ih rfl

/-- Each job's counts are those that were read from it. -/
theorem CollectionTrace.aligned {jobs : List Job} {events : List Event} {outcome : Except Error (List Counts)}
    {read : List Counts} (trace : CollectionTrace deadline jobs events outcome) (succeeded : outcome = .ok read) :
    List.Forall₂ (fun job counts => .counts job (.ok counts) ∈ events) jobs read := by
  induction trace generalizing read with
  | done =>
    cases succeeded
    exact .nil
  | stopped => cases succeeded
  | unread => cases succeeded
  | @read job rest started waits later counts outcome waited traceRest ih =>
    cases outcome with
    | error error => cases succeeded
    | ok others =>
      cases succeeded
      refine .cons (by simp) ((ih rfl).imp ?_)
      intro job counts member
      simp [member]

/-- Where an event of a list that is not in its first part stands. -/
theorem split_after {before first later rest : List Event} {event : Event} (absent : event ∉ first)
    (same : first ++ rest = before ++ event :: later) :
    ∃ middle, before = first ++ middle ∧ rest = middle ++ event :: later := by
  rcases List.append_eq_append_iff.mp same with ⟨middle, whole, parts⟩ | ⟨middle, whole, parts⟩
  · exact ⟨middle, whole, parts⟩
  · cases middle with
    | nil => exact ⟨[], by simpa using whole.symm, by simpa using parts.symm⟩
    | cons head tail =>
      obtain ⟨here, _⟩ := List.cons.inj parts
      rw [whole, ← here] at absent
      exact absurd (by simp) absent

/-- No job's counts are read before its wait has reported it as done. -/
theorem CollectionTrace.read_after_done {jobs : List Job} {events : List Event} {outcome : Except Error (List Counts)}
    (trace : CollectionTrace deadline jobs events outcome) {before later : List Event} {job : Job}
    {answer : Except SubmitterError Counts} (same : events = before ++ .counts job answer :: later) :
    ∃ earlier, before = earlier ++ [.wait job (.ok .done)] := by
  induction trace generalizing before with
  | done => simp at same
  | @stopped _ _ started waits error waited =>
    have absent := waited.counts_free.1 job answer
    have member : Event.counts job answer ∈ Event.now started :: waits := by rw [same]; simp
    simp [absent] at member
  | @unread current _ started waits error waited =>
    have absent : Event.counts job answer ∉ Event.now started :: waits := by
      simpa using waited.counts_free.1 job answer
    obtain ⟨middle, whole, parts⟩ := split_after absent same
    cases middle with
    | nil =>
      obtain ⟨here, _⟩ := List.cons.inj parts
      cases here
      obtain ⟨earlier, done⟩ := waited.counts_free.2 rfl
      exact ⟨.now started :: earlier, by rw [whole, done]; simp⟩
    | cons head tail => simp at parts
  | @read current rest started waits following counts outcome waited traceRest ih =>
    have absent : Event.counts job answer ∉ Event.now started :: waits := by
      simpa using waited.counts_free.1 job answer
    obtain ⟨middle, whole, parts⟩ := split_after absent same
    cases middle with
    | nil =>
      obtain ⟨here, _⟩ := List.cons.inj parts
      cases here
      obtain ⟨earlier, done⟩ := waited.counts_free.2 rfl
      exact ⟨.now started :: earlier, by rw [whole, done]; simp⟩
    | cons head tail =>
      obtain ⟨earlier, done⟩ := ih (List.cons.inj parts).2
      exact ⟨.now started :: waits ++ head :: earlier, by rw [whole, done]; simp⟩

variable {task : QuantumTask}

theorem collectQuantumResult_events {slices : Nat} {jobs : List Job} {s after : σ} {result : Except Error QuantumResult}
    (run : collectQuantumResult around slices task jobs waitTimeout s = some (result, after)) :
    ∃ events outcome, around.Plays s events after ∧
      collectQuantumResult around.recorded slices task jobs waitTimeout (s, []) = some (result, after, calls events) ∧
      CollectionTrace (waitDeadline waitTimeout) jobs events outcome ∧
      result = (outcome >>= fun read => buildQuantumResult task (read.map some)) ∧
      ∀ other, waitsOn other events ≤ slices * jobs.count other := by
  simp only [collectQuantumResult] at run
  cases collected : collectJobs around slices waitTimeout jobs [] s with
  | none =>
    rw [collected] at run
    cases run
  | some ended =>
    obtain ⟨gathered, final⟩ := ended
    obtain ⟨events, outcome, played, record, trace, same, waits⟩ := collectJobs_events collected
    have recorded := record []
    rw [collected] at run
    subst same
    cases outcome with
    | error error =>
      cases run
      exact ⟨events, .error error, played, by simp [collectQuantumResult, recorded, Except.map], trace, rfl, waits⟩
    | ok read =>
      cases run
      exact ⟨events, .ok read, played, by simp [collectQuantumResult, recorded, Except.map], trace, rfl, waits⟩

/-- What a collection makes of the counts it has read, or of the first fault, and what its events show. -/
structure Aligned (task : QuantumTask) (jobs : List Job) (events : List Event) (outcome : Except Error (List Counts))
    (result : Except Error QuantumResult) : Prop where
  succeeds : (∃ built, result = .ok built) ↔ ∃ read, outcome = .ok read ∧ jobs.length = task.circuitFiles.length ∧
    ∀ counts ∈ read, ∀ entry ∈ counts, entry.2 ≤ int32Max
  results : ∀ built read, result = .ok built → outcome = .ok read →
    List.Forall₂ (fun job counts => .counts job (.ok counts) ∈ events) jobs read ∧
      List.Forall₂ HoldsCounts built.results read
  faulted : ∀ error, outcome = .error error → result = .error error
  built : ∀ read, outcome = .ok read → result = buildQuantumResult task (read.map some)
  kind : ∀ error, result = .error error → (error.kind = .shutdownRequested ↔ .flag true ∈ events) ∧
    (error.kind = .deviceError ↔ .flag true ∉ events)
  readAfterDone : ∀ before job answer later, events = before ++ .counts job answer :: later →
    ∃ earlier, before = earlier ++ [.wait job (.ok .done)]

theorem CollectionTrace.aligns {jobs : List Job} {events : List Event} {outcome : Except Error (List Counts)}
    (trace : CollectionTrace deadline jobs events outcome) (task : QuantumTask) :
    Aligned task jobs events outcome (outcome >>= fun read => buildQuantumResult task (read.map some)) := by
  refine ⟨?_, ?_, ?_, ?_, ?_, fun _ _ _ _ parts => trace.read_after_done parts⟩
  · cases outcome with
    | error error => exact ⟨nofun, nofun⟩
    | ok read =>
      have length : jobs.length = read.length := (trace.aligned rfl).length_eq
      rw [length]
      simp only [Except.ok.injEq, exists_eq_left']
      exact buildQuantumResult_read_iff
  · intro built read succeeded collected
    subst collected
    exact ⟨trace.aligned rfl, buildQuantumResult_results succeeded⟩
  · intro error failed
    rw [failed]
    rfl
  · intro read collected
    rw [collected]
    rfl
  · intro error failed
    rw [trace.flag_iff]
    cases outcome with
    | ok read =>
      have kind := buildQuantumResult_error_kind failed
      simp [kind]
    | error fault =>
      cases failed
      rcases trace.error_kind rfl with shutdown | kind
      · subst shutdown
        simp [shutdownWhileCollecting]
      · have other : error ≠ shutdownWhileCollecting := by
          rintro rfl
          cases kind
        simp [kind, other]

/-- A collection that has returned: its events are the answers it got and all the calls it made, they follow the
wait loop with this deadline, and the result is what they lead to. -/
def Collected (around : Surroundings σ) (deadline : Option Int) (slices : Nat) (task : QuantumTask) (jobs : List Job)
    (waitTimeout : Int64) (s after : σ) (result : Except Error QuantumResult) : Prop :=
  ∃ events outcome, around.Plays s events after ∧
    collectQuantumResult around.recorded slices task jobs waitTimeout (s, []) = some (result, after, calls events) ∧
    CollectionTrace deadline jobs events outcome ∧ Aligned task jobs events outcome result

/-- With the deadline that the comparison converts to, every collection is one. -/
theorem collectQuantumResult_collected {slices : Nat} {jobs : List Job} {s after : σ} {result : Except Error QuantumResult}
    (run : collectQuantumResult around slices task jobs waitTimeout s = some (result, after)) :
    Collected around (waitDeadline waitTimeout) slices task jobs waitTimeout s after result := by
  obtain ⟨events, outcome, played, recorded, trace, same, _⟩ := collectQuantumResult_events run
  refine ⟨events, outcome, played, recorded, trace, ?_⟩
  rw [same]
  exact trace.aligns task

end Qrmci
