import Qrmci.Lib.FirstFault
import Qrmci.Runners.Collect

namespace Qrmci

/-- The circuit has a result, and the wire format can hold every count in it. -/
def Representable (entry : Option Counts) : Prop :=
  ∃ counts, entry = some counts ∧ ∀ count ∈ counts, count.2 ≤ int32Max

/-- What is wrong with the entry of a circuit, and the error that says so. -/
inductive EntryError (circuit : Nat) : Option Counts → Error → Prop
  | missing : EntryError circuit none
      ⟨.deviceError, "Execution failed: circuit " ++ toString circuit ++ " produced no result."⟩
  | overLimit {counts : Counts} {key : String} {value : UInt64} : (key, value) ∈ counts → int32Max < value →
      EntryError circuit (some counts) ⟨.deviceError, "Execution failed: count for '" ++ key ++ "' in circuit " ++
        toString circuit ++ " is " ++ toString value ++ ", which exceeds the wire format's INT32_MAX limit."⟩

/-- The wire counts are those of the entry: the same bitstrings, each with the same number. -/
def SameCounts (wire : ResultCounts) (entry : Option Counts) : Prop :=
  ∃ counts, entry = some counts ∧
    wire.map (fun count => (count.1, count.2.toInt)) = counts.map fun count => (count.1, (count.2.toNat : Int))

theorem EntryError.not_representable {circuit : Nat} {entry : Option Counts} {error : Error}
    (wrong : EntryError circuit entry error) : ¬ Representable entry := by
  rintro ⟨counts, present, fits⟩
  cases wrong with
  | missing => cases present
  | overLimit member large =>
    cases present
    exact absurd large (UInt64.not_lt.mpr (fits _ member))

/-- The scan of one entry ends at a count that is over the limit. -/
theorem checkCounts_error {index : Nat} {counts : Counts} {error : Error}
    (failed : checkCounts index counts = .error error) : EntryError index (some counts) error := by
  suffices wanted : ∃ key value, (key, value) ∈ counts ∧ int32Max < value ∧
      error = ⟨.deviceError, "Execution failed: count for '" ++ key ++ "' in circuit " ++ toString index ++ " is " ++
        toString value ++ ", which exceeds the wire format's INT32_MAX limit."⟩ by
    obtain ⟨key, value, member, large, rfl⟩ := wanted
    exact .overLimit member large
  induction counts with
  | nil => cases failed
  | cons count rest ih =>
    rw [checkCounts] at failed
    split at failed
    · rename_i large
      cases failed
      exact ⟨count.1, count.2, List.mem_cons_self .., large, rfl⟩
    · obtain ⟨key, value, member, large, same⟩ := ih failed
      exact ⟨key, value, List.mem_cons_of_mem _ member, large, same⟩

/-- The first pass finds every entry representable, or stops at the first that is not. -/
theorem checkHistogram_cases (start : Nat) (histogram : List (Option Counts)) :
    (checkHistogram start histogram = .ok () ∧ ∀ entry ∈ histogram, Representable entry) ∨
    ∃ circuit entry error, checkHistogram start histogram = .error error ∧
      FirstFault (fun _ entry => ¬ Representable entry) histogram circuit entry ∧
      EntryError (start + circuit) entry error := by
  induction histogram generalizing start with
  | nil => exact Or.inl ⟨rfl, by simp⟩
  | cons entry rest ih =>
    cases entry with
    | none =>
      have wrong : EntryError start none _ := .missing
      exact Or.inr ⟨0, none, _, rfl, .head wrong.not_representable, wrong⟩
    | some counts =>
      rw [checkHistogram]
      cases checked : checkCounts start counts with
      | error error =>
        have wrong := checkCounts_error checked
        exact Or.inr ⟨0, some counts, error, rfl, .head wrong.not_representable, wrong⟩
      | ok =>
        have fits : Representable (some counts) := ⟨counts, rfl, checkCounts_ok_iff.mp checked⟩
        rcases ih (start + 1) with ⟨passed, all⟩ | ⟨circuit, entry, error, failed, first, wrong⟩
        · exact Or.inl ⟨passed, List.forall_mem_cons.mpr ⟨fits, all⟩⟩
        · rw [Nat.add_right_comm] at wrong
          exact Or.inr ⟨circuit + 1, entry, error, failed, first.cons (not_not_intro fits), wrong⟩

/-- Every result of a circuit as the second pass writes it. -/
theorem narrowCounts_same {entry : Option Counts} (fits : Representable entry)
    (distinct : ∀ counts, entry = some counts → (counts.map Prod.fst).Nodup) : SameCounts (narrowCounts entry) entry := by
  obtain ⟨counts, rfl, fits⟩ := fits
  exact ⟨counts, rfl, narrowCounts_holds fits (distinct counts rfl)⟩

theorem SameCounts.nonneg {wire : ResultCounts} {entry : Option Counts} (same : SameCounts wire entry)
    {count : String × Int32} (member : count ∈ wire) : 0 ≤ count.2.toInt := by
  obtain ⟨counts, _, equal⟩ := same
  have listed : (count.1, count.2.toInt) ∈ counts.map fun count => (count.1, (count.2.toNat : Int)) := by
    rw [← equal]
    exact List.mem_map_of_mem member
  obtain ⟨original, _, copied⟩ := List.mem_map.mp listed
  have number : (original.2.toNat : Int) = count.2.toInt := congrArg Prod.snd copied
  omega

/-- Results are built from a histogram that has a representable entry for each circuit. -/
theorem buildQuantumResult_cases (task : QuantumTask) (histogram : List (Option Counts)) :
    (histogram.length = task.circuitFiles.length ∧ (∀ entry ∈ histogram, Representable entry) ∧
      ∃ result, buildQuantumResult task histogram = .ok result ∧ result.results = histogram.map narrowCounts) ∨
    (∃ error, buildQuantumResult task histogram = .error error ∧
      (histogram.length = task.circuitFiles.length → ∃ circuit entry,
        FirstFault (fun _ entry => ¬ Representable entry) histogram circuit entry ∧ EntryError circuit entry error)) ∧
    ¬ (histogram.length = task.circuitFiles.length ∧ ∀ entry ∈ histogram, Representable entry) := by
  unfold buildQuantumResult
  by_cases aligned : histogram.length = task.circuitFiles.length
  · simp only [aligned, ne_eq, not_true_eq_false, if_false, true_and]
    rcases checkHistogram_cases 0 histogram with ⟨passed, all⟩ | ⟨circuit, entry, error, failed, first, wrong⟩
    · simp only [passed]
      exact Or.inl ⟨all, _, rfl, rfl⟩
    · simp only [failed]
      rw [Nat.zero_add] at wrong
      refine Or.inr ⟨⟨error, rfl, fun _ => ⟨circuit, entry, first, wrong⟩⟩, ?_⟩
      intro all
      exact first.fault (all entry (List.mem_of_getElem? first.located))
  · simp only [ne_eq, aligned, not_false_eq_true, if_true]
    exact Or.inr ⟨⟨_, rfl, fun length => length.elim⟩, fun both => both.1⟩

/-- When results are built, what they hold, and which circuit an error is about. -/
theorem histogram_result_exact (task : QuantumTask) (histogram : List (Option Counts))
    (distinct : ∀ counts, some counts ∈ histogram → (counts.map Prod.fst).Nodup) :
    ((∃ result, buildQuantumResult task histogram = .ok result) ↔
      histogram.length = task.circuitFiles.length ∧ ∀ entry ∈ histogram, Representable entry) ∧
    (∀ result, buildQuantumResult task histogram = .ok result →
      List.Forall₂ SameCounts result.results histogram ∧
      (∀ wire ∈ result.results, ∀ count ∈ wire, 0 ≤ count.2.toInt) ∧
      result.taskId = task.taskId ∧ result.destination = task.resultDestination ∧
      result.executedQpu = task.scheduledQpu) ∧
    ∀ error, buildQuantumResult task histogram = .error error → error.kind = .deviceError ∧
      (histogram.length = task.circuitFiles.length → ∃ circuit entry,
        FirstFault (fun _ entry => ¬ Representable entry) histogram circuit entry ∧ EntryError circuit entry error) := by
  rcases buildQuantumResult_cases task histogram with ⟨aligned, all, result, built, results⟩ | ⟨⟨error, failed, first⟩, rejected⟩
  · rw [built]
    refine ⟨⟨fun _ => ⟨aligned, all⟩, fun _ => ⟨result, rfl⟩⟩, ?_, fun error failed => ?_⟩
    · rintro _ ⟨⟩
      have copied : ∀ entry ∈ histogram, SameCounts (narrowCounts entry) entry := by
        intro entry member
        exact narrowCounts_same (all entry member) fun counts present => distinct counts (present ▸ member)
      obtain ⟨ownId, destination, executed, _⟩ := buildQuantumResult_ok built
      rw [results]
      refine ⟨List.forall₂_map_left_iff.mpr (List.forall₂_same.mpr copied), ?_, ownId, destination, executed⟩
      intro wire listed count member
      obtain ⟨entry, present, rfl⟩ := List.mem_map.mp listed
      exact (copied entry present).nonneg member
    · cases failed
  · rw [failed]
    refine ⟨⟨fun succeeded => ?_, fun both => absurd both rejected⟩, fun result succeeded => ?_, ?_⟩
    · obtain ⟨_, succeeded⟩ := succeeded
      cases succeeded
    · cases succeeded
    · rintro _ ⟨⟩
      exact ⟨buildQuantumResult_error_kind failed, first⟩

/-- Of two circuits the second has a count just over the limit, and the error is about it. -/
theorem histogram_over_limit_second :
    ∃ error, buildQuantumResult
        ⟨7, 3, 100, [[113], [120]], "quake", "results-queue", "", "alpha", [], 0, 1, false⟩
        [some [("00", 2147483647), ("11", 5)], some [("01", 2147483648)]] = .error error ∧ error.kind = .deviceError ∧
      ∃ circuit entry, FirstFault (fun _ entry => ¬ Representable entry)
        [some [("00", 2147483647), ("11", 5)], some [("01", 2147483648)]] circuit entry ∧
        EntryError circuit entry error := by
  obtain ⟨_, _, errors⟩ := histogram_result_exact
    ⟨7, 3, 100, [[113], [120]], "quake", "results-queue", "", "alpha", [], 0, 1, false⟩
    [some [("00", 2147483647), ("11", 5)], some [("01", 2147483648)]] (by
      intro counts member
      simp only [List.mem_cons, Option.some.injEq, List.not_mem_nil, or_false] at member
      rcases member with rfl | rfl
      · decide
      · decide)
  obtain ⟨kind, first⟩ := errors _ rfl
  exact ⟨_, rfl, kind, first rfl⟩

end Qrmci
