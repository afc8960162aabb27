import Qrmci.Runners.CollectEvents

namespace Qrmci

variable {σ : Type} {around : Surroundings σ} {waitTimeout : Int64} {deadline : Option Int} {job : Job}
  {waitStarted : Time}

/-- A slice that times out lasts a second at least, as the clock shows that is read right before it and
right after it. -/
def Surroundings.FullSlices (around : Surroundings σ) : Prop :=
  ∀ s job error before started ended reading after, around.now s = (before, started) →
    around.wait job started = (.error error, ended) → error.code = .timeout → around.now ended = (reading, after) →
    before + nanosPerSecond ≤ reading

/-- The measure of the wait loop: with a positive timeout, every slice that times out uses up one of the
seconds that are left, so that no more slices than seconds are ever needed. -/
theorem awaitJob_returns (full : around.FullSlices) (bounded : 0 < waitTimeout) (job : Job) (waitStarted : Time)
    (slices : Nat) {s begun : σ} {before : Time} (left : 0 < slices) (read : around.now s = (before, begun))
    (passed : (waitTimeout.toInt - slices) * nanosPerSecond ≤ before - waitStarted) :
    ∃ result, awaitJob around waitTimeout job waitStarted slices begun = some result := by
  induction slices generalizing s begun before with
  | zero => omega
  | succ slices ih =>
    rcases awaitJob_slice around waitTimeout job waitStarted begun with ⟨_, outcome, after, slice⟩ | ⟨_, next, slice⟩
    · exact ⟨_, slice.run slices⟩
    · obtain ⟨error, ended, reading, late, waited, reread, unreached⟩ := slice.early bounded
      have second := full s job error before begun ended reading next read waited late reread
      -- Where the timeout does not convert exactly, its deadline only comes the earlier.
      have short := secondsToNanoseconds_le (Int64.lt_iff_toInt_lt.mp bounded).le
      have early : reading - waitStarted < (secondsToNanoseconds waitTimeout).toInt := by
        simpa [elapsedReaches] using unreached
      rw [slice.run slices]
      simp only [nanosPerSecond] at second passed
      push_cast at passed
      refine ih ?_ reread ?_
      · lia
      · simp only [nanosPerSecond]
        lia

theorem collectJobs_returns (full : around.FullSlices) (bounded : 0 < waitTimeout) (jobs : List Job)
    (histogram : List (Option Counts)) (s : σ) :
    ∃ result, collectJobs around waitTimeout.toInt.toNat waitTimeout jobs histogram s = some result := by
  induction jobs generalizing histogram s with
  | nil => exact ⟨_, rfl⟩
  | cons job rest ih =>
    cases began : around.now s with
    | mk started begun =>
      have positive : 0 < waitTimeout.toInt := Int64.lt_iff_toInt_lt.mp bounded
      have seconds : (waitTimeout.toInt.toNat : Int) = waitTimeout.toInt := Int.toNat_of_nonneg positive.le
      obtain ⟨⟨outcome, ended⟩, waited⟩ := awaitJob_returns full bounded job started waitTimeout.toInt.toNat
        (by omega) began (by rw [seconds, Int.sub_self, Int.zero_mul, Int.sub_self])
      simp only [collectJobs, began, waited]
      cases outcome with
      | error error => exact ⟨_, rfl⟩
      | ok =>
        cases fetched : around.counts job ended with
        | mk answer later =>
          simp only [fetched]
          cases answer with
          | error error => exact ⟨_, rfl⟩
          | ok counts => exact ih _ later

theorem collectJobs_mono {slices more : Nat} {jobs : List Job} {histogram : List (Option Counts)} {s : σ}
    {result : Except Error (List (Option Counts)) × σ} (enough : slices ≤ more)
    (run : collectJobs around slices waitTimeout jobs histogram s = some result) :
    collectJobs around more waitTimeout jobs histogram s = some result := by
  induction jobs generalizing histogram s with
  | nil => exact run
  | cons job rest ih =>
    simp only [collectJobs] at run ⊢
    cases waited : awaitJob around waitTimeout job (around.now s).1 slices (around.now s).2 with
    | none =>
      rw [waited] at run
      cases run
    | some ended =>
      rw [waited] at run
      rw [awaitJob_mono enough waited]
      obtain ⟨outcome, next⟩ := ended
      cases outcome with
      | error error => exact run
      | ok =>
        cases fetched : around.counts job next with
        | mk answer later =>
          simp only [fetched] at run ⊢
          cases answer with
          | error error => exact run
          | ok counts => exact ih run

variable {task : QuantumTask}

theorem collectQuantumResult_returns (full : around.FullSlices) (bounded : 0 < waitTimeout) (task : QuantumTask)
    (jobs : List Job) (s : σ) :
    ∃ result, collectQuantumResult around waitTimeout.toInt.toNat task jobs waitTimeout s = some result := by
  obtain ⟨⟨outcome, after⟩, collected⟩ := collectJobs_returns full bounded jobs [] s
  simp only [collectQuantumResult, collected]
  cases outcome with
  | error error => exact ⟨_, rfl⟩
  | ok histogram => exact ⟨_, rfl⟩

theorem collectQuantumResult_mono {slices more : Nat} {jobs : List Job} {s : σ} {result : Except Error QuantumResult × σ}
    (enough : slices ≤ more) (run : collectQuantumResult around slices task jobs waitTimeout s = some result) :
    collectQuantumResult around more task jobs waitTimeout s = some result := by
  simp only [collectQuantumResult] at run ⊢
  cases collected : collectJobs around slices waitTimeout jobs [] s with
  | none =>
    rw [collected] at run
    cases run
  | some ended =>
    rw [collected] at run
    rw [collectJobs_mono enough collected]
    exact run

/-- No error that the submitter library reports is taken for a missed deadline: it starts with the name of
its code. -/
theorem toQrmciError_ne_deadlineMissed (kind : Error.Kind) (error : SubmitterError) :
    toQrmciError kind error ≠ deadlineMissed := by
  intro same
  have details := congrArg (fun error => error.detail.toList.head?) same
  simp only [toQrmciError, deadlineMissed, String.toList_append] at details
  cases code : error.code <;> simp [submitterErrorCodeName, code] at details

theorem checkCounts_error_detail {index : Nat} {counts : Counts} {error : Error}
    (failed : checkCounts index counts = .error error) : error.detail.toList.head? = some 'E' := by
  induction counts with
  | nil => cases failed
  | cons pair rest ih =>
    simp only [checkCounts] at failed
    split at failed
    · cases failed
      simp [String.toList_append]
    · exact ih failed

theorem checkHistogram_error_detail {index : Nat} {histogram : List (Option Counts)} {error : Error}
    (failed : checkHistogram index histogram = .error error) : error.detail.toList.head? = some 'E' := by
  induction histogram generalizing index with
  | nil => cases failed
  | cons entry rest ih =>
    cases entry with
    | none =>
      cases failed
      simp [String.toList_append]
    | some counts =>
      simp only [checkHistogram] at failed
      split at failed
      · rename_i large
        cases failed
        exact checkCounts_error_detail large
      · exact ih failed

/-- Nor is any error of the result's building: they all start alike. -/
theorem buildQuantumResult_ne_deadlineMissed {histogram : List (Option Counts)} {error : Error}
    (failed : buildQuantumResult task histogram = .error error) : error ≠ deadlineMissed := by
  have detail : error.detail.toList.head? = some 'E' := by
    simp only [buildQuantumResult] at failed
    split at failed
    · cases failed
      simp [String.toList_append]
    · split at failed
      · rename_i invalid
        cases failed
        exact checkHistogram_error_detail invalid
      · cases failed
  rintro rfl
  simp [deadlineMissed] at detail

/-- A wait that misses its deadline has one, and ends with a clock reading that is late enough. -/
theorem WaitTrace.late {events : List Event} {outcome : Except Error Unit}
    (trace : WaitTrace deadline job waitStarted events outcome) (missed : outcome = .error deadlineMissed) :
    ∃ limit waits reading, deadline = some limit ∧ events = waits ++ [.now reading] ∧ limit ≤ reading - waitStarted := by
  induction trace with
  | done => cases missed
  | shutdown => cases missed
  | canceled => simp [jobCanceled, deadlineMissed] at missed
  | failed error other => exact absurd (Except.error.inj missed) (toQrmciError_ne_deadlineMissed _ _)
  | expired error limit reading late bounded reached =>
    exact ⟨limit, [.flag false, .wait job (.error error)], reading, bounded, rfl, reached⟩
  | slice error _ reading timeout bounded early rest ih =>
    obtain ⟨limit, waits, last, bounds, same, reached⟩ := ih missed
    exact ⟨limit, .flag false :: .wait job (.error error) :: .now reading :: waits, last, bounds, by rw [same]; rfl,
      reached⟩
  | unboundedSlice error timeout unbounded rest ih =>
    obtain ⟨limit, waits, last, bounds, same, reached⟩ := ih missed
    exact ⟨limit, .flag false :: .wait job (.error error) :: waits, last, bounds, by rw [same]; rfl, reached⟩

/-- The wait on one job of a collection ran into the deadline: its own clock started after all earlier jobs
had been read, and shows that so many nanoseconds have passed. -/
def DeadlinePassed (limit : Int) (jobs : List Job) (events : List Event) : Prop :=
  ∃ earlier job later readEvents read started waits reading, jobs = earlier ++ job :: later ∧
    events = readEvents ++ .now started :: waits ++ [.now reading] ∧
    CollectionTrace (some limit) earlier readEvents (.ok read) ∧
    WaitTrace (some limit) job started (waits ++ [.now reading]) (.error deadlineMissed) ∧
    limit ≤ reading - started

theorem CollectionTrace.late {jobs : List Job} {events : List Event} {outcome : Except Error (List Counts)}
    (trace : CollectionTrace deadline jobs events outcome) (missed : outcome = .error deadlineMissed) :
    ∃ limit, deadline = some limit ∧ DeadlinePassed limit jobs events := by
  induction trace with
  | done => cases missed
  | @stopped job rest started waits error waited =>
    cases missed
    obtain ⟨limit, slices, reading, rfl, same, reached⟩ := waited.late rfl
    subst same
    exact ⟨limit, rfl, [], job, rest, [], [], started, slices, reading, rfl, rfl, .done, waited, reached⟩
  | unread started error waited => exact absurd (Except.error.inj missed) (toQrmciError_ne_deadlineMissed _ _)
  | @read job rest started waits later counts outcome waited traceRest ih =>
    cases outcome with
    | ok read => cases missed
    | error error =>
      cases missed
      obtain ⟨limit, rfl, earlier, slow, remaining, readEvents, read, restarted, slices, reading, parts, whole, before,
        ended, reached⟩ := ih rfl
      refine ⟨limit, rfl, job :: earlier, slow, remaining, .now started :: waits ++ .counts job (.ok counts) :: readEvents,
        counts :: read, restarted, slices, reading, by rw [parts]; rfl, ?_, .read started counts waited before, ended,
        reached⟩
      rw [whole]
      simp

/-- A missed deadline is reported for the collection's own, and only for that. -/
theorem CollectionTrace.late_of_aligned {jobs : List Job} {events : List Event} {outcome : Except Error (List Counts)}
    {result : Except Error QuantumResult} (trace : CollectionTrace deadline jobs events outcome)
    (aligned : Aligned task jobs events outcome result) (missed : result = .error deadlineMissed) :
    ∃ limit, deadline = some limit ∧ DeadlinePassed limit jobs events := by
  cases outcome with
  | error error => exact trace.late (congrArg Except.error (Except.error.inj ((aligned.faulted error rfl).symm.trans missed)))
  | ok read => exact absurd rfl (buildQuantumResult_ne_deadlineMissed ((aligned.built read rfl).symm.trans missed))

/-- What a collection with this timeout is to do, in whatever surroundings it returns: wait for one job after the
other and read it, up to the first fault, a job that is not done within the timeout itself among them, and align
what it has read. -/
def CollectsInTime (waitTimeout : Int64) : Prop :=
  ∀ (σ : Type) (around : Surroundings σ) (slices : Nat) (task : QuantumTask) (jobs : List Job) (s after : σ)
    (result : Except Error QuantumResult),
    collectQuantumResult around slices task jobs waitTimeout s = some (result, after) →
      Collected around (exactDeadline waitTimeout) slices task jobs waitTimeout s after result

/-- A device on which no job finishes. Its clock stands at zero, and after the first slice at a later time. -/
def Surroundings.stalledAt (later : Time) : Surroundings Bool where
  terminationFlag _ := false
  children s := (.ok [], s)
  submitJob _ _ s := (.ok 1, s)
  cancel _ s := (.ok (), s)
  wait _ _ := (.error ⟨.timeout, "slice over"⟩, true)
  counts _ s := (.ok [], s)
  now s := (if s then later else 0, s)

theorem Surroundings.Plays.answered {s after : σ} {events : List Event} {event : Event}
    (played : around.Plays s events after) (member : event ∈ events) :
    ∃ before next, around.Answers before event next := by
  induction events generalizing s with
  | nil => cases member
  | cons first rest ih =>
    obtain ⟨next, answered, remaining⟩ := played
    rcases List.mem_cons.mp member with rfl | later
    · exact ⟨s, next, answered⟩
    · exact ih remaining later

/-- The clock of that device never shows anything else. -/
theorem Surroundings.stalledAt_now {later reading : Time} (nonnegative : 0 ≤ later) {s after : Bool} {events : List Event}
    (played : (Surroundings.stalledAt later).Plays s events after) (member : .now reading ∈ events) :
    0 ≤ reading ∧ reading ≤ later := by
  obtain ⟨before, next, answered⟩ := played.answered member
  have shown : (if before then later else 0) = reading := congrArg Prod.fst answered
  cases before with
  | true => exact ⟨by rw [← shown]; exact nonnegative, by rw [← shown]; exact le_rfl⟩
  | false => exact ⟨by rw [← shown]; exact le_rfl, by rw [← shown]; exact nonnegative⟩

theorem collectQuantumResult_stalledAt {later : Time} (bounded : 0 < waitTimeout)
    (reached : elapsedReaches later waitTimeout = true) :
    collectQuantumResult (.stalledAt later) 1 .quake [1] waitTimeout false = some (.error deadlineMissed, true) := by
  simp [collectQuantumResult, collectJobs, awaitJob, Surroundings.stalledAt, bounded, reached, deadlineMissed]

/-- A job on that device that is given up in time is given up once the whole timeout has passed. -/
theorem Collected.not_early (bounded : 0 < waitTimeout) {later : Time} (nonnegative : 0 ≤ later)
    (collected : Collected (.stalledAt later) (exactDeadline waitTimeout) 1 .quake [1] waitTimeout false true
      (.error deadlineMissed)) : waitTimeout.toInt * nanosPerSecond ≤ later := by
  obtain ⟨events, outcome, played, _, trace, aligned⟩ := collected
  obtain ⟨limit, same, _, _, _, _, _, started, _, reading, _, whole, _, _, passed⟩ := trace.late_of_aligned aligned rfl
  have first : .now started ∈ events := by rw [whole]; simp
  have last : .now reading ∈ events := by rw [whole]; simp
  have began := (Surroundings.stalledAt_now nonnegative played first).1
  have ended := (Surroundings.stalledAt_now nonnegative played last).2
  rw [exactDeadline, if_pos bounded] at same
  rw [Option.some.inj same]
  lia

/-- A job that a collection gives up after one second of a timeout of more than three centuries. -/
theorem collection_gives_up_early :
    collectQuantumResult (.stalledAt nanosPerSecond) 1 .quake [1] 10000000000 false =
        some (.error deadlineMissed, true) ∧
      ¬ Collected (.stalledAt nanosPerSecond) (exactDeadline 10000000000) 1 .quake [1] 10000000000 false true
        (.error deadlineMissed) := by
  refine ⟨collectQuantumResult_stalledAt (by decide) (by decide), ?_⟩
  intro collected
  have late : 10000000000 * nanosPerSecond ≤ nanosPerSecond := collected.not_early (by decide) (by decide)
  revert late
  decide

/-- Collections align their results and fail at the first fault, the deadline included, exactly if the timeout is at
most the number of seconds that a signed 64-bit count of nanoseconds holds. -/
theorem collection_results_iff (waitTimeout : Int64) : CollectsInTime waitTimeout ↔ waitTimeout.toInt ≤ 9223372036 := by
  constructor
  · intro inTime
    by_cases bounded : 0 < waitTimeout
    · -- A job is given up as soon as the converted timeout has passed, at once if that is negative.
      have converted : elapsedReaches (max 0 (secondsToNanoseconds waitTimeout).toInt) waitTimeout = true := by
        simp [elapsedReaches]
      have late := Collected.not_early bounded (le_max_left ..)
        (inTime _ _ _ _ _ _ _ _ (collectQuantumResult_stalledAt bounded converted))
      have upper := (secondsToNanoseconds waitTimeout).toInt_lt
      rw [nanosPerSecond] at late
      omega
    · have nonpositive : waitTimeout.toInt ≤ 0 := Int64.le_iff_toInt_le.mp (Int64.not_lt.mp bounded)
      omega
  · intro fits σ around slices task jobs s after result run
    rw [← (comparedExactly_iff.mpr fits).sameDeadline]
    exact collectQuantumResult_collected run

/-- With a positive timeout of that many seconds, on a device whose timed-out slices last a second each, a
collection returns, whatever it is answered, after at most so many waits on each job; and where durations are
compared as exact integers it reports a missed deadline only if the whole timeout has passed since the first
wait on that job. -/
theorem bounded_collection (around : Surroundings σ) (full : around.FullSlices) (waitTimeout : Int64)
    (bounded : 0 < waitTimeout) (task : QuantumTask) (jobs : List Job) (s : σ) :
    ∃ result after events, (∀ slices, waitTimeout.toInt.toNat ≤ slices →
        collectQuantumResult around slices task jobs waitTimeout s = some (result, after) ∧
        collectQuantumResult around.recorded slices task jobs waitTimeout (s, []) =
          some (result, after, calls events)) ∧
      around.Plays s events after ∧
      (∀ job, waitsOn job events ≤ waitTimeout.toInt.toNat * jobs.count job) ∧
      (ComparedExactly waitTimeout → result = .error deadlineMissed →
        DeadlinePassed (waitTimeout.toInt * nanosPerSecond) jobs events) := by
  obtain ⟨⟨result, after⟩, run⟩ := collectQuantumResult_returns full bounded task jobs s
  obtain ⟨events, outcome, played, recorded, trace, same, waits⟩ := collectQuantumResult_events run
  refine ⟨result, after, events, ?_, played, waits, ?_⟩
  · intro slices enough
    exact ⟨collectQuantumResult_mono enough run, collectQuantumResult_mono enough recorded⟩
  · intro exact missed
    have aligned := trace.aligns task
    rw [← same] at aligned
    obtain ⟨limit, stated, passed⟩ := trace.late_of_aligned aligned missed
    rw [exact.sameDeadline, exactDeadline, if_pos bounded] at stated
    rw [Option.some.inj stated]
    exact passed

/-- A device on which nothing ever finishes; its state is the time, and a slice takes a second of it. -/
def Surroundings.stalled : Surroundings Time where
  terminationFlag _ := false
  children s := (.ok [], s)
  submitJob _ _ s := (.ok 1, s)
  cancel _ s := (.ok (), s)
  wait _ s := (.error ⟨.timeout, "slice over"⟩, s + nanosPerSecond)
  counts _ s := (.ok [], s)
  now s := (s, s)

theorem Surroundings.stalled_fullSlices : Surroundings.stalled.FullSlices := by
  intro s job error before started ended reading after first waited _ second
  cases first
  cases waited
  cases second
  exact le_rfl

/-- Two seconds on the stalled device: the deadline is missed, and has passed. -/
theorem bounded_collection_stalled :
    collectQuantumResult .stalled 2 .quake [1] 2 0 = some (.error deadlineMissed, 2 * nanosPerSecond) ∧
      ∃ events, Surroundings.stalled.Plays 0 events (2 * nanosPerSecond) ∧ waitsOn 1 events ≤ 2 ∧
        DeadlinePassed (2 * nanosPerSecond) [1] events := by
  have run : collectQuantumResult .stalled 2 .quake [1] 2 0 = some (.error deadlineMissed, 2 * nanosPerSecond) := rfl
  obtain ⟨result, after, events, runs, played, waits, late⟩ :=
    bounded_collection .stalled Surroundings.stalled_fullSlices 2 (by decide) .quake [1] 0
  cases run.symm.trans (runs 2 le_rfl).1
  exact ⟨run, events, played, waits 1, late (comparedExactly_iff.mpr (by decide)) rfl⟩

end Qrmci
