import Mathlib.Logic.Basic

namespace Except

variable {ε α β : Type}

/-- A successful sequence is a successful first part, and its continuation. -/
theorem bind_eq_ok_iff {first : Except ε α} {next : α → Except ε β} {result : β} :
    (first >>= next) = .ok result ↔ ∃ value, first = .ok value ∧ next value = .ok result := by
  cases first with
  | error error => exact ⟨nofun, nofun⟩
  | ok value =>
    constructor
    · intro run
      exact ⟨value, rfl, run⟩
    · rintro ⟨_, same, run⟩
      cases same
      exact run

/-- A sequence whose first part succeeds exactly under a condition, and then always with the same value. -/
theorem bind_reads {first : Except ε α} {next : α → Except ε β} {result : β} {holds : Prop} {value : α}
    (reads : ∀ read, first = .ok read ↔ holds ∧ read = value) :
    (first >>= next) = .ok result ↔ holds ∧ next value = .ok result := by
  rw [bind_eq_ok_iff]
  constructor
  · rintro ⟨read, run, rest⟩
    obtain ⟨held, same⟩ := (reads read).mp run
    rw [same] at rest
    exact ⟨held, rest⟩
  · rintro ⟨held, rest⟩
    exact ⟨value, (reads value).mpr ⟨held, rfl⟩, rest⟩

/-- A failed sequence fails in its first part or in its continuation. -/
theorem bind_eq_error_iff {first : Except ε α} {next : α → Except ε β} {error : ε} :
    (first >>= next) = .error error ↔ first = .error error ∨ ∃ value, first = .ok value ∧ next value = .error error := by
  cases first with
  | error other =>
    constructor
    · rintro ⟨⟩
      exact Or.inl rfl
    · rintro (same | ⟨_, same, _⟩)
      · cases same
        rfl
      · cases same
  | ok value =>
    constructor
    · intro failed
      exact Or.inr ⟨value, rfl, failed⟩
    · rintro (same | ⟨_, same, failed⟩)
      · cases same
      · cases same
        exact failed

/-- What follows from a failure of either part, where the first part succeeds exactly under a condition, and
then always with the same value. -/
theorem bind_fails {first : Except ε α} {next : α → Except ε β} {error : ε} {holds conclusion : Prop} {value : α}
    (reads : ∀ read, first = .ok read ↔ holds ∧ read = value) (failed : (first >>= next) = .error error)
    (fails : first = .error error → conclusion) (rest : holds → next value = .error error → conclusion) :
    conclusion := by
  rcases bind_eq_error_iff.mp failed with early | ⟨read, run, late⟩
  · exact fails early
  · obtain ⟨held, same⟩ := (reads read).mp run
    rw [same] at late
    exact rest held late

theorem pure_eq_ok_iff {value result : α} : (pure value : Except ε α) = .ok result ↔ result = value := by
  constructor
  · rintro ⟨⟩
    rfl
  · rintro rfl
    rfl

end Except
